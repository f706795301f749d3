import Mathlib.Data.List.DropRight
import ModuleBundler.Json.Reader
import ModuleBundler.Proofs.Association
import ModuleBundler.Proofs.Decimal.Numeral
import ModuleBundler.Proofs.Json.Literal
import ModuleBundler.Proofs.Text.Quoted

/-!
# Printed values are read back

A value that is printed on one line or on many lines is read as this value. Blanks between the parts
are passed over, and a printed number ends where a comma, a bracket or a blank follows it. What is
lost otherwise is excluded by `Json.Readable`: whole numbers of more than 64 bits are read as
binary floating numbers, of two members with one name the first one loses its value, and too many
brackets in each other are refused. The decimals are left out.

## Main definitions

* `Json.IsReadAs` — a text that is read as a value, with anything behind it.
* `Json.Layout` — the blanks around the parts of a value.
* `Json.Readable` — values that are read back.

## Main results

* `Json.isReadAs_array`, `Json.isReadAs_object` — arrays and objects are read in every layout.
* `Json.read?_compact`, `Json.read?_pretty` — printed values are read back.
-/

namespace ModuleBundler.Json

open Text

variable {c : Char} {cs rest digits : List Char}

/-! ### Numbers -/

/-- Nothing that could belong to a number stands at the start of the text. -/
def EndsNumber (rest : List Char) : Prop :=
  ∀ c, rest.head? = some c → c.isDigit = false ∧ c ≠ '.' ∧ c ≠ 'e' ∧ c ≠ 'E'

theorem le_ofDigitChars (value : Nat) (digits : List Char) :
    value ≤ Nat.ofDigitChars 10 digits value := by
  induction digits generalizing value with
  | nil => exact Nat.le_refl _
  | cons c digits ih =>
    rw [Nat.ofDigitChars_cons]
    exact Nat.le_trans (by omega) (ih _)

/-- Digits are put behind a number, all of them if what they write fits into 64 bits. -/
theorem extend_eq {value : Nat} (h : Nat.ofDigitChars 10 digits value < wordLimit) :
    extend value digits = (Nat.ofDigitChars 10 digits value, digits.length) := by
  induction digits generalizing value with
  | nil => rfl
  | cons c digits ih =>
    have hnext : value * 10 + (c.toNat - 48) = 10 * value + (c.toNat - '0'.toNat) := by
      rw [Nat.mul_comm]
      rfl
    rw [Nat.ofDigitChars_cons, ← hnext] at h ⊢
    have hfits : value * 10 + (c.toNat - 48) < wordLimit :=
      Nat.lt_of_le_of_lt (le_ofDigitChars _ digits) h
    simp only [extend, if_pos hfits, ih h, List.length_cons]

theorem takeWhile_digits (hdigits : ∀ c ∈ digits, c.isDigit) (hrest : EndsNumber rest) :
    (digits ++ rest).takeWhile Char.isDigit = digits := by
  rw [List.takeWhile_append_of_pos hdigits]
  cases rest with
  | nil => simp
  | cons c rest =>
    rw [List.takeWhile_cons_of_neg (by simp [(hrest c rfl).1]), List.append_nil]

/-- What is left of a number behind its digits. -/
theorem readNumber?_toDigits {n : Nat} (isNegative : Bool) (hn : n < wordLimit)
    (hrest : EndsNumber rest) :
    readNumber? isNegative (Nat.toDigits 10 n ++ rest) = numberTail? isNegative n 0 rest := by
  obtain ⟨hdigits, hzero⟩ := isWhole_toDigits n
  have hvalue : Nat.ofDigitChars 10 (Nat.toDigits 10 n) 0 = n :=
    Nat.ofDigitChars_toDigits (by decide) (by decide)
  have hextend : extend 0 (Nat.toDigits 10 n) = (n, (Nat.toDigits 10 n).length) := by
    rw [extend_eq (by rwa [hvalue]), hvalue]
  unfold readNumber?
  simp only [takeWhile_digits hdigits.2 hrest, List.drop_left]
  split
  · next hnil => exact absurd hnil hdigits.1
  · next hlong =>
    rw [hlong] at hzero
    simp at hzero
  · rw [hextend]
    simp only [Nat.sub_self]

theorem numberTail?_eq {n : Nat} (isNegative : Bool) (hrest : EndsNumber rest) :
    numberTail? isNegative n 0 rest =
      if !isNegative then some (.integer n, rest)
      else if 0 < n ∧ n ≤ Nat.pow 2 63 then some (.integer (-(n : Int)), rest)
      else (Binary.scaled? n 0).map fun number => (.decimal isNegative number, rest) := by
  unfold numberTail?
  split
  · exact absurd rfl (hrest _ rfl).2.1
  · exact absurd rfl (hrest _ rfl).2.2.1
  · exact absurd rfl (hrest _ rfl).2.2.2
  · simp

/-- A whole number is read behind its sign. -/
theorem readNumber?_false {n : Nat} (hn : n < wordLimit) (hrest : EndsNumber rest) :
    readNumber? false (Nat.toDigits 10 n ++ rest) = some (.integer n, rest) := by
  rw [readNumber?_toDigits false hn hrest, numberTail?_eq false hrest]
  rfl

theorem readNumber?_true {n : Nat} (hpos : 0 < n) (hn : n ≤ Nat.pow 2 63)
    (hrest : EndsNumber rest) :
    readNumber? true (Nat.toDigits 10 n ++ rest) = some (.integer (-n), rest) := by
  have hword : n < wordLimit := Nat.lt_of_le_of_lt hn (by decide)
  rw [readNumber?_toDigits true hword hrest, numberTail?_eq true hrest]
  simp [hpos, hn]

theorem endsNumber_cons (h : c.isDigit = false ∧ c ≠ '.' ∧ c ≠ 'e' ∧ c ≠ 'E') :
    EndsNumber (c :: rest) := by
  rintro d hd
  obtain rfl : c = d := Option.some.inj hd
  exact h

/-! ### Blanks -/

theorem isSpace_iff : isSpace c ↔ c = ' ' ∨ c = '\t' ∨ c = '\n' ∨ c = '\r' := by
  simp [isSpace, or_assoc]

theorem skip_append (h : ∀ c ∈ cs, isSpace c) (rest : List Char) : skip (cs ++ rest) = skip rest :=
  List.dropWhile_append_of_pos h

theorem skip_cons (h : isSpace c = false) (cs : List Char) : skip (c :: cs) = c :: cs :=
  List.dropWhile_cons_of_neg (Bool.eq_false_iff.mp h)

theorem skip_skip (cs : List Char) : skip (skip cs) = skip cs :=
  List.dropWhile_idempotent _ cs

theorem endsNumber_append (h : ∀ c ∈ cs, isSpace c) (hrest : EndsNumber rest) :
    EndsNumber (cs ++ rest) := by
  cases cs with
  | nil => exact hrest
  | cons c cs =>
    refine endsNumber_cons ?_
    obtain rfl | rfl | rfl | rfl := isSpace_iff.mp (h c List.mem_cons_self) <;> decide

/-- Blanks in front of a value are passed over. -/
theorem readValue?_skip (fuel depth : Nat) (cs : List Char) :
    readValue? fuel depth (skip cs) = readValue? fuel depth cs := by
  cases fuel with
  | zero => rfl
  | succ fuel => rw [readValue?, readValue?, skip_skip]

theorem readItems?_skip (fuel depth : Nat) (cs : List Char) :
    readItems? fuel depth (skip cs) = readItems? fuel depth cs := by
  cases fuel with
  | zero => rfl
  | succ fuel => rw [readItems?, readItems?, readValue?_skip]

theorem readMembers?_skip (fuel depth : Nat) (members : List (List Char × Json)) (cs : List Char) :
    readMembers? fuel depth members (skip cs) = readMembers? fuel depth members cs := by
  cases fuel with
  | zero => rfl
  | succ fuel => rw [readMembers?, readMembers?, skip_skip]

theorem readValue?_append (h : ∀ c ∈ cs, isSpace c) (fuel depth : Nat) (rest : List Char) :
    readValue? fuel depth (cs ++ rest) = readValue? fuel depth rest := by
  rw [← readValue?_skip, skip_append h, readValue?_skip]

/-! ### Values that have no parts -/

/-- The text is read as the value, whatever follows that does not go on with a number. Between a list
and its parts the fuel is used twice, and a comma or a bracket is there for each part, so twice the
length of the text is enough. -/
structure IsReadAs (depth : Nat) (text : List Char) (value : Json) : Prop where
  start : ∃ c tail, text = c :: tail ∧ isSpace c = false ∧ c ≠ ']'
  read : ∀ fuel rest, 2 * text.length < fuel → EndsNumber rest →
    readValue? fuel depth (text ++ rest) = some (value, rest)

variable {depth fuel : Nat}

theorem IsReadAs.of_succ {text : List Char} {value : Json}
    (hstart : ∃ c tail, text = c :: tail ∧ isSpace c = false ∧ c ≠ ']')
    (hread : ∀ fuel rest, 2 * text.length ≤ fuel → EndsNumber rest →
      readValue? (fuel + 1) depth (text ++ rest) = some (value, rest)) :
    IsReadAs depth text value where
  start := hstart
  read fuel rest hfuel hrest := by
    obtain ⟨fuel, rfl⟩ := Nat.exists_eq_add_one_of_ne_zero (Nat.ne_zero_of_lt hfuel)
    exact hread fuel rest (Nat.le_of_lt_succ hfuel) hrest

theorem isReadAs_null : IsReadAs depth null.leafText null :=
  .of_succ ⟨_, _, rfl, by decide⟩ fun _ _ _ _ => rfl

theorem isReadAs_boolean (value : Bool) :
    IsReadAs depth (boolean value).leafText (boolean value) := by
  cases value <;> exact .of_succ ⟨_, _, rfl, by decide⟩ fun _ _ _ _ => rfl

theorem isReadAs_text (chars : List Char) :
    IsReadAs depth (text chars).leafText (text chars) := by
  refine .of_succ ⟨_, _, rfl, by decide⟩ fun fuel rest _ _ => ?_
  rw [leafText, Quoted.encode_append, readValue?, skip_cons (by decide)]
  simp only [Quoted.decodeTail?_flatMap_escape, Option.map_some]

theorem isReadAs_natural {n : Nat} (hn : n < wordLimit) :
    IsReadAs depth (Nat.toDigits 10 n) (integer n) := by
  obtain ⟨digit, tail, htext, hdigit⟩ := (isWhole_toDigits n).isNumeral.exists_cons
  have hrange : 0x30 ≤ digit.toNat ∧ digit.toNat ≤ 0x39 := Char.isDigit_iff_toNat.mp hdigit
  have hne {c : Char} (hc : c.toNat < 0x30 ∨ 0x39 < c.toNat) : digit ≠ c := by
    rintro rfl
    omega
  have hspace : isSpace digit = false := by
    simp [isSpace, hne]
  refine .of_succ ⟨digit, tail, htext, hspace, hne (by decide)⟩ fun fuel rest _ hrest => ?_
  have hread := readNumber?_false hn hrest
  rw [htext, List.cons_append] at hread ⊢
  rw [readValue?, skip_cons hspace]
  -- A digit is none of the characters that something else than a number starts with.
  split
  all_goals first
    | exact hread
    | next heq => exact absurd (List.cons.inj heq).1 (hne (by decide))

theorem isReadAs_negative {n : Nat} (hpos : 0 < n) (hn : n ≤ Nat.pow 2 63) :
    IsReadAs depth ('-' :: Nat.toDigits 10 n) (integer (-n)) := by
  refine .of_succ ⟨_, _, rfl, by decide⟩ fun fuel rest _ hrest => ?_
  rw [List.cons_append, readValue?, skip_cons (by decide)]
  exact readNumber?_true hpos hn hrest

/-- A whole number of 64 bits is read as this number. -/
theorem isReadAs_integer {value : Int} (hlow : -Nat.pow 2 63 ≤ value) (hhigh : value < wordLimit) :
    IsReadAs depth (integer value).leafText (integer value) := by
  cases value with
  | ofNat n => exact isReadAs_natural (Int.ofNat_lt.mp hhigh)
  | negSucc n => exact isReadAs_negative (Nat.succ_pos n) (by omega)

/-! ### Values between brackets -/

/-- How the parts of a value stand between its brackets: what is in front of each part, behind the
last one, and behind the colon of a member. -/
structure Layout where
  before : List Char
  after : List Char
  gap : List Char

/-- There is nothing but blanks around the parts. -/
structure Layout.IsBlank (layout : Layout) : Prop where
  before : ∀ c ∈ layout.before, isSpace c
  after : ∀ c ∈ layout.after, isSpace c
  gap : ∀ c ∈ layout.gap, isSpace c

namespace Layout

/-- Texts with commas between them and a closing character behind them. -/
def listed (layout : Layout) (close : Char) : List (List Char) → List Char
  | [] => layout.after ++ [close]
  | [part] => layout.before ++ (part ++ (layout.after ++ [close]))
  | part :: parts => layout.before ++ (part ++ ',' :: listed layout close parts)

theorem listed_cons_map {α : Type} (layout : Layout) (close : Char) (part : List Char)
    (text : α → List Char) (second : α) (others : List α) :
    layout.listed close (part :: (second :: others).map text) =
      layout.before ++ (part ++ ',' :: layout.listed close ((second :: others).map text)) :=
  rfl

/-- A member of an object. -/
def memberText (layout : Layout) (text : Json → List Char) (member : List Char × Json) :
    List Char :=
  Quoted.encode member.1 ++ ':' :: (layout.gap ++ text member.2)

/-- Everything on one line. -/
def compact : Layout :=
  ⟨[], [], []⟩

/-- Each part on lines of its own. -/
def pretty (depth : Nat) : Layout :=
  ⟨lineAt (depth + 1), lineAt depth, [' ']⟩

end Layout

section Lists

variable {layout : Layout} {text : Json → List Char} {name : List Char} {value : Json}
  {members : List (List Char × Json)} {tail : List Char}

theorem skip_after (hblank : layout.IsBlank) (hclose : isSpace c = false) (rest : List Char) :
    skip (layout.after ++ c :: rest) = c :: rest :=
  (skip_append hblank.after _).trans (skip_cons hclose rest)

/-! #### Items -/

/-- An item with a comma behind it is followed by other items. -/
theorem readItems?_comma (hread : readValue? fuel depth cs = some (value, ',' :: rest)) :
    readItems? (fuel + 1) depth cs =
      (readItems? fuel depth rest).map fun (items, rest) => (value :: items, rest) := by
  have hcomma : skip (',' :: rest) = ',' :: rest := skip_cons (by decide) rest
  simp only [readItems?, hread, Option.bind_eq_bind, Option.bind_some, hcomma]
  cases readItems? fuel depth rest <;> rfl

/-- An item with the bracket behind it is the last one. -/
theorem readItems?_close (hblank : layout.IsBlank)
    (hread : readValue? fuel depth cs = some (value, layout.after ++ ']' :: rest)) :
    readItems? (fuel + 1) depth cs = some ([value], rest) := by
  have hclose : skip (layout.after ++ ']' :: rest) = ']' :: rest := skip_after hblank rfl rest
  simp only [readItems?, hread, Option.bind_eq_bind, Option.bind_some, hclose]
  rfl

/-- The items of an array are read one by one. -/
theorem readItems?_listed (hblank : layout.IsBlank) {items : List Json} (hne : items ≠ [])
    (hitems : ∀ item ∈ items, IsReadAs depth (text item) item)
    (hfuel : 2 * (layout.listed ']' (items.map text)).length < fuel) (rest : List Char) :
    readItems? fuel depth (layout.listed ']' (items.map text) ++ rest) = some (items, rest) := by
  induction items generalizing fuel with
  | nil => contradiction
  | cons item items ih =>
    obtain ⟨fuel, rfl⟩ := Nat.exists_eq_add_one_of_ne_zero (Nat.ne_zero_of_lt hfuel)
    obtain ⟨hitem, hitems⟩ := List.forall_mem_cons.mp hitems
    cases items with
    | nil =>
      simp only [List.map_cons, List.map_nil, Layout.listed, List.length_append,
        List.length_singleton, List.append_assoc, List.cons_append, List.nil_append] at hfuel ⊢
      refine readItems?_close hblank ?_
      rw [readValue?_append hblank.before]
      exact hitem.read fuel _ (by omega)
        (endsNumber_append hblank.after (endsNumber_cons (by decide)))
    | cons second items =>
      rw [List.map_cons, Layout.listed_cons_map] at hfuel ⊢
      simp only [List.length_append, List.length_cons, List.append_assoc, List.cons_append]
        at hfuel ⊢
      rw [readItems?_comma, ih (List.cons_ne_nil _ _) hitems (by omega), Option.map_some]
      rw [readValue?_append hblank.before]
      exact hitem.read fuel _ (by omega) (endsNumber_cons (by decide))

/-! #### Members -/

/-- A member with a comma behind it is followed by other members. -/
theorem readMembers?_comma (hname : Quoted.decode? (skip cs) = some (name, ':' :: tail))
    (hread : readValue? fuel depth tail = some (value, ',' :: rest)) :
    readMembers? (fuel + 1) depth members cs =
      readMembers? fuel depth (Association.put name value members) rest := by
  have hcolon : skip (':' :: tail) = ':' :: tail := skip_cons (by decide) tail
  have hcomma : skip (',' :: rest) = ',' :: rest := skip_cons (by decide) rest
  simp only [readMembers?, hname, hcolon, hread, Option.bind_eq_bind, Option.bind_some, hcomma]

/-- A member with the brace behind it is the last one. -/
theorem readMembers?_close (hblank : layout.IsBlank)
    (hname : Quoted.decode? (skip cs) = some (name, ':' :: tail))
    (hread : readValue? fuel depth tail = some (value, layout.after ++ '\x7d' :: rest)) :
    readMembers? (fuel + 1) depth members cs = some (Association.put name value members, rest) := by
  have hcolon : skip (':' :: tail) = ':' :: tail := skip_cons (by decide) tail
  have hclose : skip (layout.after ++ '\x7d' :: rest) = '\x7d' :: rest := skip_after hblank rfl rest
  simp only [readMembers?, hname, hcolon, hread, Option.bind_eq_bind, Option.bind_some, hclose]
  rfl

theorem decode?_memberText (hblank : layout.IsBlank) (member : List Char × Json)
    (rest : List Char) :
    Quoted.decode? (skip (layout.before ++ (layout.memberText text member ++ rest))) =
      some (member.1, ':' :: (layout.gap ++ (text member.2 ++ rest))) := by
  have hquote (tail : List Char) :
      skip (Quoted.encode member.1 ++ tail) = Quoted.encode member.1 ++ tail := by
    rw [Quoted.encode_append]
    exact skip_cons (by decide) _
  rw [skip_append hblank.before, Layout.memberText, List.append_assoc, hquote,
    Quoted.decode?_encode, List.cons_append, List.append_assoc]

theorem length_lt_length_memberText (member : List Char × Json) :
    (text member.2).length < (layout.memberText text member).length := by
  simp only [Layout.memberText, List.length_append, List.length_cons]
  omega

/-- The members of an object are read one by one, if no name is there twice. -/
theorem readMembers?_listed (hblank : layout.IsBlank) {members : List (List Char × Json)}
    (hne : members ≠ []) (hvalues : ∀ member ∈ members, IsReadAs depth (text member.2) member.2)
    {before : List (List Char × Json)} (hnames : ((before ++ members).map Prod.fst).Nodup)
    (hfuel : 2 * (layout.listed '\x7d' (members.map (layout.memberText text))).length < fuel)
    (rest : List Char) :
    readMembers? fuel depth before
      (layout.listed '\x7d' (members.map (layout.memberText text)) ++ rest) =
      some (before ++ members, rest) := by
  -- The members in front have been read; as names are new, each member goes behind them.
  induction members generalizing fuel before with
  | nil => contradiction
  | cons member members ih =>
    obtain ⟨fuel, rfl⟩ := Nat.exists_eq_add_one_of_ne_zero (Nat.ne_zero_of_lt hfuel)
    obtain ⟨hvalue, hvalues⟩ := List.forall_mem_cons.mp hvalues
    have hnew : member.1 ∉ before.map Prod.fst := by
      rw [List.map_append, List.map_cons, List.nodup_append] at hnames
      exact fun hmem => hnames.2.2 _ hmem _ List.mem_cons_self rfl
    have hput : Association.put member.1 member.2 before = before ++ [member] :=
      Association.put_of_notMem hnew member.2
    have hshorter : (text member.2).length < (layout.memberText text member).length :=
      length_lt_length_memberText member
    cases members with
    | nil =>
      simp only [List.map_cons, List.map_nil, Layout.listed, List.length_append,
        List.length_singleton, List.append_assoc, List.cons_append, List.nil_append] at hfuel ⊢
      rw [← hput]
      refine readMembers?_close hblank (decode?_memberText hblank member _) ?_
      rw [readValue?_append hblank.gap]
      exact hvalue.read fuel _ (by omega)
        (endsNumber_append hblank.after (endsNumber_cons (by decide)))
    | cons second members =>
      rw [List.map_cons, Layout.listed_cons_map] at hfuel ⊢
      simp only [List.length_append, List.length_cons, List.append_assoc, List.cons_append]
        at hfuel ⊢
      have hread := hvalue.read fuel
        (',' :: (layout.listed '\x7d' ((second :: members).map (layout.memberText text)) ++ rest))
        (by omega) (endsNumber_cons (by decide))
      rw [← readValue?_append hblank.gap] at hread
      rw [readMembers?_comma (decode?_memberText hblank member _) hread, hput]
      have hsplit : before ++ member :: second :: members =
          before ++ [member] ++ second :: members := List.append_cons ..
      rw [hsplit] at hnames ⊢
      refine ih (List.cons_ne_nil _ _) hvalues hnames ?_
      omega

/-! #### Arrays and objects -/

/-- An array with items is read if its items are. -/
theorem readValue?_array {items : List Json} (hstart : skip cs = c :: tail) (hc : c ≠ ']')
    (hread : readItems? fuel depth cs = some (items, rest)) :
    readValue? (fuel + 1) (depth + 1) ('[' :: cs) = some (array items, rest) := by
  have hopen : skip ('[' :: cs) = '[' :: cs := skip_cons (by decide) cs
  rw [← readItems?_skip, hstart] at hread
  simp [readValue?, hopen, hstart, hc, hread]

/-- An object with members is read if its members are. -/
theorem readValue?_object (hstart : skip cs = c :: tail) (hc : c ≠ '\x7d')
    (hread : readMembers? fuel depth [] cs = some (members, rest)) :
    readValue? (fuel + 1) (depth + 1) ('\x7b' :: cs) = some (object members, rest) := by
  have hopen : skip ('\x7b' :: cs) = '\x7b' :: cs := skip_cons (by decide) cs
  rw [← readMembers?_skip, hstart] at hread
  simp [readValue?, hopen, hstart, hc, hread]

theorem skip_listed (hblank : layout.IsBlank) {part : List Char} (hpart : part = c :: tail)
    (hc : isSpace c = false) (close : Char) (parts : List (List Char)) (rest : List Char) :
    ∃ tail, skip (layout.listed close (part :: parts) ++ rest) = c :: tail := by
  subst hpart
  cases parts with
  | nil =>
    rw [Layout.listed, List.append_assoc, skip_append hblank.before]
    exact ⟨_, skip_cons hc _⟩
  | cons second parts =>
    rw [Layout.listed, List.append_assoc, skip_append hblank.before]
    · exact ⟨_, skip_cons hc _⟩
    · nofun

/-- An array with items is read as this array. -/
theorem isReadAs_array (hblank : layout.IsBlank) {items : List Json} (hne : items ≠ [])
    (hitems : ∀ item ∈ items, IsReadAs depth (text item) item) :
    IsReadAs (depth + 1) ('[' :: layout.listed ']' (items.map text)) (array items) := by
  refine .of_succ ⟨_, _, rfl, by decide⟩ fun fuel rest hfuel _ => ?_
  rw [List.length_cons] at hfuel
  have hread := readItems?_listed hblank hne hitems (show _ < fuel by omega) rest
  obtain ⟨first, others, rfl⟩ := List.exists_cons_of_ne_nil hne
  obtain ⟨c, tail, hfirst, hspace, hc⟩ := (hitems first List.mem_cons_self).start
  obtain ⟨tail, hstart⟩ := skip_listed hblank hfirst hspace ']' (others.map text) rest
  exact readValue?_array hstart hc hread

/-- An object with members is read as this object, if no name is there twice. -/
theorem isReadAs_object (hblank : layout.IsBlank) (hne : members ≠ [])
    (hnames : (members.map Prod.fst).Nodup)
    (hvalues : ∀ member ∈ members, IsReadAs depth (text member.2) member.2) :
    IsReadAs (depth + 1) ('\x7b' :: layout.listed '\x7d' (members.map (layout.memberText text)))
      (object members) := by
  refine .of_succ ⟨_, _, rfl, by decide⟩ fun fuel rest hfuel _ => ?_
  rw [List.length_cons] at hfuel
  have hread := @readMembers?_listed _ fuel _ _ hblank _ hne hvalues [] hnames (by omega) rest
  obtain ⟨first, others, rfl⟩ := List.exists_cons_of_ne_nil hne
  obtain ⟨tail, hstart⟩ := skip_listed hblank (Quoted.encode_append first.1 _) (by decide) '\x7d'
    (others.map (layout.memberText text)) rest
  exact readValue?_object hstart (by decide) hread

theorem isReadAs_array_nil : IsReadAs (depth + 1) (array []).leafText (array []) :=
  .of_succ ⟨_, _, rfl, by decide⟩ fun _ _ _ _ => rfl

theorem isReadAs_object_nil : IsReadAs (depth + 1) (object []).leafText (object []) :=
  .of_succ ⟨_, _, rfl, by decide⟩ fun _ _ _ _ => rfl

end Lists

/-! ### Printed values -/

namespace Layout

theorem isBlank_compact : compact.IsBlank where
  before := nofun
  after := nofun
  gap := nofun

theorem isBlank_pretty (level : Nat) : (pretty level).IsBlank := by
  have hline (level : Nat) : ∀ c ∈ lineAt level, isSpace c := by
    intro c hc
    obtain rfl | hc := List.mem_cons.mp hc
    · rfl
    · rw [List.eq_of_mem_replicate hc]
      rfl
  exact ⟨hline (level + 1), hline level, by simp [pretty, isSpace]⟩

theorem joined_eq (close : Char) (parts : List (List Char)) :
    joined close parts = compact.listed close parts := by
  induction parts with
  | nil => rfl
  | cons part parts ih =>
    cases parts with
    | nil => rfl
    | cons second parts => exact congrArg (part ++ ',' :: ·) ih

end Layout

theorem prettyItems_eq (level : Nat) (items : List Json) :
    prettyItems level items =
      (Layout.pretty level).listed ']' (items.map (prettyAt (level + 1))) := by
  induction items with
  | nil => rfl
  | cons item items ih =>
    cases items with
    | nil => simp [prettyItems, Layout.listed, Layout.pretty]
    | cons second items =>
      rw [prettyItems, ih]
      · simp [Layout.listed, Layout.pretty]
      · nofun

theorem prettyMembers_eq (level : Nat) (members : List (List Char × Json)) :
    prettyMembers level members = (Layout.pretty level).listed '\x7d'
      (members.map ((Layout.pretty level).memberText (prettyAt (level + 1)))) := by
  induction members with
  | nil => rfl
  | cons member members ih =>
    obtain ⟨name, value⟩ := member
    cases members with
    | nil => simp [prettyMembers, Layout.listed, Layout.memberText, Layout.pretty]
    | cons second members =>
      rw [prettyMembers, ih]
      · simp [Layout.listed, Layout.memberText, Layout.pretty]
      · nofun

/-- Values that are read back: whole numbers have 64 bits, no name is in an object twice, and arrays
and objects do not stand too deep in each other. -/
inductive Readable : (depth : Nat) → Json → Prop
  | null {depth : Nat} : Readable depth null
  | boolean {depth : Nat} (value : Bool) : Readable depth (boolean value)
  | integer {depth : Nat} {value : Int} (hlow : -Nat.pow 2 63 ≤ value) (hhigh : value < wordLimit) :
      Readable depth (integer value)
  | text {depth : Nat} (chars : List Char) : Readable depth (text chars)
  | array {depth : Nat} {items : List Json} (hitems : ∀ item ∈ items, Readable depth item) :
      Readable (depth + 1) (array items)
  | object {depth : Nat} {members : List (List Char × Json)}
      (hnames : (members.map Prod.fst).Nodup)
      (hvalues : ∀ member ∈ members, Readable depth member.2) :
      Readable (depth + 1) (object members)

namespace Readable

variable {value : Json}

/-- A value that is printed on one line is read as this value. -/
theorem isReadAs_compact (h : Readable depth value) : IsReadAs depth value.compact value := by
  induction h with
  | null => exact isReadAs_null
  | boolean value => exact isReadAs_boolean value
  | integer hlow hhigh => exact isReadAs_integer hlow hhigh
  | text chars => exact isReadAs_text chars
  | @array depth items _ ih =>
    by_cases hne : items = []
    · subst hne
      exact isReadAs_array_nil
    · rw [compact, compactItems_eq, Layout.joined_eq]
      exact Json.isReadAs_array Layout.isBlank_compact hne ih
  | @object depth members hnames _ ih =>
    by_cases hne : members = []
    · subst hne
      exact isReadAs_object_nil
    · rw [compact, compactMembers_eq, Layout.joined_eq]
      exact Json.isReadAs_object Layout.isBlank_compact hne hnames ih

/-- A value that is printed on many lines is read as this value. -/
theorem isReadAs_prettyAt (h : Readable depth value) (level : Nat) :
    IsReadAs depth (prettyAt level value) value := by
  induction h generalizing level with
  | null => exact isReadAs_null
  | boolean value => exact isReadAs_boolean value
  | integer hlow hhigh => exact isReadAs_integer hlow hhigh
  | text chars => exact isReadAs_text chars
  | @array depth items _ ih =>
    cases items with
    | nil => exact isReadAs_array_nil
    | cons item items =>
      rw [prettyAt, prettyItems_eq]
      exact Json.isReadAs_array (Layout.isBlank_pretty level) (List.cons_ne_nil _ _)
        fun item hmem => ih item hmem (level + 1)
  | @object depth members hnames _ ih =>
    cases members with
    | nil => exact isReadAs_object_nil
    | cons member members =>
      rw [prettyAt, prettyMembers_eq]
      exact Json.isReadAs_object (Layout.isBlank_pretty level) (List.cons_ne_nil _ _) hnames
        fun member hmem => ih member hmem (level + 1)

end Readable

theorem IsReadAs.read? {text : List Char} {value : Json} (h : IsReadAs deepest text value) :
    read? text = some value := by
  have hread := h.read (2 * text.length + 2) [] (by omega) nofun
  rw [List.append_nil] at hread
  simp only [Json.read?, hread, Option.bind_eq_bind, Option.bind_some]
  rfl

/-- **A value that is printed on one line is read back.** -/
theorem read?_compact {value : Json} (h : Readable deepest value) :
    read? value.compact = some value :=
  h.isReadAs_compact.read?

/-- **A value that is printed on many lines is read back.** -/
theorem read?_pretty {value : Json} (h : Readable deepest value) :
    read? value.pretty = some value :=
  (h.isReadAs_prettyAt 0).read?

end ModuleBundler.Json
