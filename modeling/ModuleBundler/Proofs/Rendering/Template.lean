import Mathlib.Data.List.TakeWhile
import ModuleBundler.Rendering.Template

/-!
# Substitution in templates

A template is cut at its placeholders, from the left: each is the first one behind the one before
it, and no placeholder begins in the text in between. There is one such cut. To render a template is
to keep the text in between and to put the modules in place of the placeholders, once; what is put
there is not looked at again.

## Main definitions

* `Template.IsPlaceholder` — a name in double braces.
* `Template.Cut` — a template, cut at its placeholders.
* `Template.Substituted` — what stands in place of the placeholders, with the text in between.
* `Template.Renders`, `Template.Refused` — when a template is rendered, and the first reason for
  which it is not.
* `Template.OnePass` — what rendering does.

## Main results

* `Template.existsUnique_cut` — a template is cut in one way.
* `Template.Cut.parse_eq` — the parts that are read are those of the cut.
* `Template.onePass` — rendering is substitution in one pass.
-/

namespace ModuleBundler.Template

open Text

variable {text before rest slot name tail : List Char} {c : Char} {modules : List RenderedModule}

/-! ### Placeholders -/

/-- A name: a letter or an underscore, and then letters, digits and underscores. -/
def IsName : List Char → Prop
  | [] => False
  | c :: cs => (c.isAlpha ∨ c = '_') ∧ ∀ d ∈ cs, d.isAlphanum ∨ d = '_'

/-- A name in double braces, with blanks around it. -/
inductive IsPlaceholder : (slot name : List Char) → Prop
  | intro {front name back : List Char} (hfront : ∀ c ∈ front, isBlank c) (hname : IsName name)
    (hback : ∀ c ∈ back, isBlank c) :
    IsPlaceholder ('{' :: '{' :: (front ++ (name ++ (back ++ ['}', '}'])))) name

/-- A placeholder begins the text. -/
def Starts (text : List Char) : Prop :=
  ∃ slot name, IsPlaceholder slot name ∧ slot <+: text

theorem IsPlaceholder.ne_nil (h : IsPlaceholder slot name) : slot ≠ [] := by
  cases h
  nofun

theorem isNameChar_iff : isNameChar c ↔ c.isAlphanum ∨ c = '_' := by
  rw [isNameChar, Bool.or_eq_true, beq_iff_eq]

theorem bounds_of_isAlpha (h : c.isAlpha) : 0x41 ≤ c.toNat ∧ c.toNat ≤ 0x7A := by
  obtain h | h := Bool.or_eq_true_iff.mp h
  · obtain ⟨hlow, hhigh⟩ : 'A'.val ≤ c.val ∧ c.val ≤ 'Z'.val := of_decide_eq_true h
    exact ⟨hlow, Nat.le_trans hhigh (by decide)⟩
  · obtain ⟨hlow, hhigh⟩ := Bool.and_eq_true_iff.mp h
    exact ⟨Nat.le_trans (by decide) (of_decide_eq_true hlow), of_decide_eq_true hhigh⟩

/-- Names are what consists of the characters of names, and does not begin with a digit. -/
theorem isName_iff : IsName name ↔ (∀ c ∈ name, isNameChar c) ∧
    ∃ first others, name = first :: others ∧ first.isDigit = false := by
  cases name with
  | nil => simp [IsName]
  | cons first others =>
    have hfirst : (first.isAlpha ∨ first = '_') ↔ isNameChar first ∧ first.isDigit = false := by
      rw [isNameChar_iff, Char.isAlphanum]
      constructor
      · rintro (h | rfl)
        · refine ⟨.inl (by rw [h, Bool.true_or]), Bool.eq_false_iff.mpr fun hdigit => ?_⟩
          have hletter := bounds_of_isAlpha h
          have hrange : 0x30 ≤ first.toNat ∧ first.toNat ≤ 0x39 := Char.isDigit_iff_toNat.mp hdigit
          omega
        · exact ⟨.inr rfl, rfl⟩
      · rintro ⟨h | rfl, hdigit⟩
        · rw [hdigit, Bool.or_false] at h
          exact .inl h
        · exact .inr rfl
    simp only [IsName, hfirst, List.forall_mem_cons, isNameChar_iff, List.cons.injEq]
    grind

theorem isBlank_of_isNameChar (h : isNameChar c) : isBlank c = false := by
  have hbounds : 0x30 ≤ c.toNat ∧ c.toNat ≤ 0x7A := by
    obtain h | rfl := isNameChar_iff.mp h
    · obtain h | h := Bool.or_eq_true_iff.mp h
      · have hletter := bounds_of_isAlpha h
        omega
      · have hrange : 0x30 ≤ c.toNat ∧ c.toNat ≤ 0x39 := Char.isDigit_iff_toNat.mp h
        omega
    · decide
  unfold isBlank
  grind

theorem not_isNameChar_head {back : List Char} (hback : ∀ c ∈ back, isBlank c)
    (hhead : (back ++ '}' :: rest).head? = some c) : isNameChar c = false := by
  cases back with
  | nil =>
    obtain rfl := Option.some.inj hhead
    rfl
  | cons first others =>
    obtain rfl := Option.some.inj hhead
    refine Bool.eq_false_iff.mpr fun hname => ?_
    cases (isBlank_of_isNameChar hname).symm.trans (hback _ List.mem_cons_self)

theorem dropWhile_eq_self_of_head {p : Char → Bool} (h : ∀ c, text.head? = some c → p c = false) :
    text.dropWhile p = text ∧ text.takeWhile p = [] := by
  cases text with
  | nil => exact ⟨rfl, rfl⟩
  | cons c cs =>
    have hc := Bool.eq_false_iff.mp (h c rfl)
    exact ⟨List.dropWhile_cons_of_neg hc, List.takeWhile_cons_of_neg hc⟩

/-- A placeholder is found at the start of a text. -/
theorem IsPlaceholder.slotAt? (h : IsPlaceholder slot name) (rest : List Char) :
    slotAt? (slot ++ rest) = some (name, slot.length) := by
  obtain @⟨front, name, back, hfront, hname, hback⟩ := h
  obtain ⟨hchars, first, others, rfl, hdigit⟩ := isName_iff.mp hname
  have hinside : front ++ (first :: others ++ (back ++ ['}', '}'])) ++ rest =
      front ++ (first :: others ++ (back ++ '}' :: '}' :: rest)) := by
    simp only [List.append_assoc, List.cons_append, List.nil_append]
  have hbehind : (front ++ (first :: others ++ (back ++ '}' :: '}' :: rest))).dropWhile isBlank =
      first :: others ++ (back ++ '}' :: '}' :: rest) := by
    rw [List.dropWhile_append_of_pos hfront]
    refine (dropWhile_eq_self_of_head fun c hc => ?_).1
    obtain rfl := Option.some.inj hc
    exact isBlank_of_isNameChar (hchars _ List.mem_cons_self)
  have hname : (first :: others ++ (back ++ '}' :: '}' :: rest)).takeWhile isNameChar =
      first :: others := by
    rw [List.takeWhile_append_of_pos hchars,
      (dropWhile_eq_self_of_head fun c hc => not_isNameChar_head hback hc).2, List.append_nil]
  have hback : (back ++ '}' :: '}' :: rest).dropWhile isBlank = '}' :: '}' :: rest := by
    rw [List.dropWhile_append_of_pos hback, List.dropWhile_cons_of_neg (by decide)]
  rw [List.cons_append, List.cons_append, hinside, Template.slotAt?]
  simp only [hbehind, hname, List.drop_left, hback, hdigit]
  simp only [Bool.false_eq_true, if_false, Option.some.injEq, Prod.mk.injEq, true_and,
    List.length_cons, List.length_append, List.length_nil]
  omega

theorem exists_append_of_dropWhile {p : Char → Bool} (h : text.dropWhile p = rest) :
    ∃ front, (∀ c ∈ front, p c) ∧ text = front ++ rest := by
  refine ⟨text.takeWhile p, fun c hc => List.mem_takeWhile_imp hc, ?_⟩
  rw [← h, List.takeWhile_append_dropWhile]

/-- What is found at the start of a text is a placeholder. -/
theorem exists_of_slotAt? {length : Nat} (h : slotAt? text = some (name, length)) :
    ∃ slot rest, text = slot ++ rest ∧ IsPlaceholder slot name ∧ length = slot.length := by
  unfold slotAt? at h
  split at h
  case h_2 => cases h
  case h_1 inside =>
    dsimp only at h
    split at h
    case h_2 => cases h
    case h_1 first others rest hname hrest =>
      split at h
      case isTrue => cases h
      case isFalse hdigit =>
        generalize hbehind : inside.dropWhile isBlank = behind at h hname hrest
        obtain ⟨front, hfront, rfl⟩ := exists_append_of_dropWhile hbehind
        obtain ⟨back, hback, hdrop⟩ := exists_append_of_dropWhile hrest
        have hsplit : first :: others ++ (back ++ '}' :: '}' :: rest) = behind := by
          rw [← hdrop, ← hname]
          exact List.prefix_iff_eq_append.mp (List.takeWhile_prefix _)
        have hchars (c : Char) (hc : c ∈ first :: others) : isNameChar c :=
          List.mem_takeWhile_imp (hname ▸ hc)
        obtain ⟨rfl, rfl⟩ := Prod.mk.inj (Option.some.inj h)
        rw [hname]
        refine ⟨_, rest, ?_, .intro hfront
          (isName_iff.mpr ⟨hchars, first, others, rfl, Bool.eq_false_iff.mpr hdigit⟩) hback, ?_⟩
        · rw [← hsplit]
          simp only [List.append_assoc, List.cons_append, List.nil_append]
        · rw [← hsplit]
          simp only [List.length_cons, List.length_append, List.length_nil]
          omega

theorem slotAt?_eq_none_iff : slotAt? text = none ↔ ¬Starts text := by
  constructor
  · rintro hnone ⟨slot, name, hslot, rest, rfl⟩
    cases (hslot.slotAt? rest).symm.trans hnone
  · refine fun h => Option.eq_none_iff_forall_ne_some.mpr fun (name, length) hsome => h ?_
    obtain ⟨slot, rest, rfl, hslot, -⟩ := exists_of_slotAt? hsome
    exact ⟨slot, name, hslot, List.prefix_append _ _⟩

/-- At most one placeholder begins a text. -/
theorem IsPlaceholder.eq_of_append {slot' name' rest' : List Char} (h : IsPlaceholder slot name)
    (h' : IsPlaceholder slot' name') (heq : slot ++ rest = slot' ++ rest') :
    slot = slot' ∧ name = name' ∧ rest = rest' := by
  have hsame := (h.slotAt? rest).symm.trans (heq ▸ h'.slotAt? rest')
  obtain ⟨rfl, hlength⟩ := Prod.mk.inj (Option.some.inj hsame)
  obtain ⟨rfl, rfl⟩ := List.append_inj heq hlength
  exact ⟨rfl, rfl, rfl⟩

/-! ### Cuts -/

/-- No placeholder begins in a text, with the rest behind it. -/
def Plain (before rest : List Char) : Prop :=
  ∀ suffix, suffix <:+ before → suffix ≠ [] → ¬Starts (suffix ++ rest)

/-- A placeholder in a template, with the text in front of it. -/
structure Found where
  before : List Char
  slot : List Char
  name : List Char

/-- A template, cut at its placeholders: each is the first one behind the one before it, and there
is none in the text behind the last one. -/
inductive Cut : (text : List Char) → List Found → (tail : List Char) → Prop
  | last {text : List Char} (h : Plain text []) : Cut text [] text
  | found {before slot name rest tail : List Char} {founds : List Found}
    (hslot : IsPlaceholder slot name) (hfirst : Plain before (slot ++ rest))
    (hrest : Cut rest founds tail) :
    Cut (before ++ (slot ++ rest)) (⟨before, slot, name⟩ :: founds) tail

theorem plain_cons :
    Plain (c :: before) rest ↔ ¬Starts (c :: before ++ rest) ∧ Plain before rest := by
  constructor
  · intro h
    exact ⟨h _ List.suffix_rfl nofun, fun suffix hsuffix =>
      h suffix (hsuffix.trans (List.suffix_cons ..))⟩
  · rintro ⟨hhere, hbehind⟩ suffix hsuffix hne
    obtain rfl | hsuffix := List.suffix_cons_iff.mp hsuffix
    · exact hhere
    · exact hbehind suffix hsuffix hne

/-- There is no placeholder in a text, or there is a first one. -/
theorem plain_or_exists_first (text : List Char) :
    Plain text [] ∨ ∃ before slot name rest, text = before ++ (slot ++ rest) ∧
      IsPlaceholder slot name ∧ Plain before (slot ++ rest) := by
  induction text with
  | nil => exact .inl fun suffix hsuffix hne => absurd (List.suffix_nil.mp hsuffix) hne
  | cons c cs ih =>
    by_cases hstarts : Starts (c :: cs)
    · obtain ⟨slot, name, hslot, rest, hrest⟩ := hstarts
      exact .inr ⟨[], slot, name, rest, hrest.symm, hslot,
        fun suffix hsuffix hne => absurd (List.suffix_nil.mp hsuffix) hne⟩
    obtain hplain | ⟨before, slot, name, rest, rfl, hslot, hfirst⟩ := ih
    · exact .inl (plain_cons.mpr ⟨(List.append_nil (c :: cs)).symm ▸ hstarts, hplain⟩)
    · exact .inr ⟨c :: before, slot, name, rest, rfl, hslot, plain_cons.mpr ⟨hstarts, hfirst⟩⟩

/-- Every template can be cut. -/
theorem exists_cut (text : List Char) : ∃ founds tail, Cut text founds tail := by
  obtain hplain | ⟨before, slot, name, rest, htext, hslot, hfirst⟩ := plain_or_exists_first text
  · exact ⟨[], text, .last hplain⟩
  have hshorter : rest.length < text.length := by
    have := List.length_pos_iff.mpr hslot.ne_nil
    rw [htext, List.length_append, List.length_append]
    omega
  obtain ⟨founds, tail, hrest⟩ := exists_cut rest
  have hcut := Cut.found hslot hfirst hrest
  rw [← htext] at hcut
  exact ⟨_, tail, hcut⟩
termination_by text.length

/-- A text without placeholders ends where one begins, at the latest. -/
theorem Plain.length_le {before' rest' : List Char} (h : Plain before rest)
    (hstarts : Starts rest') (heq : before ++ rest = before' ++ rest') :
    before.length ≤ before'.length := by
  obtain ⟨between, rfl, hrest⟩ | ⟨between, rfl, rfl⟩ := List.append_eq_append_iff.mp heq
  · rw [List.length_append]
    omega
  · by_cases hbetween : between = []
    · rw [hbetween, List.append_nil]
    · exact absurd hstarts (h between (List.suffix_append _ _) hbetween)

theorem IsPlaceholder.starts (h : IsPlaceholder slot name) : Starts (slot ++ rest) :=
  ⟨slot, name, h, List.prefix_append _ _⟩

theorem Plain.not_append {slot : List Char} (h : Plain (before ++ (slot ++ rest)) [])
    (hslot : IsPlaceholder slot name) : False := by
  have hlength := h.length_le hslot.starts (List.append_nil _)
  have := List.length_pos_iff.mpr hslot.ne_nil
  rw [List.length_append, List.length_append] at hlength
  omega

/-- A template is cut in one way. -/
theorem Cut.eq {founds founds' : List Found} {tail' : List Char} (h : Cut text founds tail)
    (h' : Cut text founds' tail') : founds = founds' ∧ tail = tail' := by
  induction h generalizing founds' with
  | last hplain =>
    cases h' with
    | last => exact ⟨rfl, rfl⟩
    | found hslot => exact (hplain.not_append hslot).elim
  | @found before slot name rest tail founds hslot hfirst _ ih =>
    generalize htext : before ++ (slot ++ rest) = text at h'
    cases h' with
    | last hplain => exact ((htext ▸ hplain).not_append hslot).elim
    | found hslot' hfirst' hrest' =>
      have hlength := (hfirst.length_le hslot'.starts htext).antisymm
        (hfirst'.length_le hslot.starts htext.symm)
      obtain ⟨rfl, hbehind⟩ := List.append_inj htext hlength
      obtain ⟨rfl, rfl, rfl⟩ := hslot.eq_of_append hslot' hbehind
      obtain ⟨rfl, rfl⟩ := ih hrest'
      exact ⟨rfl, rfl⟩

/-- **A template is cut in one way.** -/
theorem existsUnique_cut (text : List Char) :
    ∃! cut : List Found × List Char, Cut text cut.1 cut.2 := by
  obtain ⟨founds, tail, hcut⟩ := exists_cut text
  refine ⟨(founds, tail), hcut, fun cut hcut' => ?_⟩
  obtain ⟨rfl, rfl⟩ := hcut.eq hcut'
  rfl

/-! ### Reading a template -/

/-- The parts of a template that is cut. -/
def pieces : List Found → (tail : List Char) → List Piece
  | [], tail => tail.map .char
  | found :: founds, tail => found.before.map .char ++ .slot found.name :: pieces founds tail

theorem parseFrom_append (inside rest : List Char) :
    parseFrom inside.length (inside ++ rest) = parseFrom 0 rest := by
  induction inside with
  | nil => rfl
  | cons c inside ih => exact ih

/-- Text is read as it stands. -/
theorem Plain.parseFrom_append (h : Plain before rest) :
    parseFrom 0 (before ++ rest) = before.map .char ++ parseFrom 0 rest := by
  induction before with
  | nil => rfl
  | cons c before ih =>
    obtain ⟨hhere, hbehind⟩ := plain_cons.mp h
    have hnone := slotAt?_eq_none_iff.mpr hhere
    rw [List.cons_append] at hnone ⊢
    rw [parseFrom, hnone]
    exact congrArg _ (ih hbehind)

/-- A placeholder is read as a slot. -/
theorem IsPlaceholder.parseFrom_append (h : IsPlaceholder slot name) (rest : List Char) :
    parseFrom 0 (slot ++ rest) = .slot name :: parseFrom 0 rest := by
  cases slot with
  | nil => exact absurd rfl h.ne_nil
  | cons c slot =>
    have hslot := h.slotAt? rest
    rw [List.cons_append] at hslot ⊢
    rw [parseFrom, hslot]
    exact congrArg _ (Template.parseFrom_append slot rest)

/-- **The parts that are read are those of the cut.** -/
theorem Cut.parse_eq {founds : List Found} (h : Cut text founds tail) :
    parse text = pieces founds tail := by
  induction h with
  | @last text h =>
    have hparse := h.parseFrom_append
    rw [List.append_nil] at hparse
    exact hparse.trans (List.append_nil _)
  | found hslot hfirst _ ih =>
    rw [parse, hfirst.parseFrom_append, hslot.parseFrom_append]
    exact congrArg _ (congrArg _ ih)

/-! ### Rendering -/

/-- What stands in place of a placeholder with a name that means something. -/
inductive Fills (modules : List RenderedModule) : (name text : List Char) → Prop
  | modules : Fills modules "modules".toList (moduleTable modules)
  | data : Fills modules "data".toList (moduleData modules)
  | entry : Fills modules "entry".toList "0".toList

/-- A name that means something. -/
def IsKnown (name : List Char) : Prop :=
  name = "modules".toList ∨ name = "data".toList ∨ name = "entry".toList

/-- A name in whose place the code of the modules stands. -/
def HoldsCode (name : List Char) : Prop :=
  name = "modules".toList ∨ name = "data".toList

/-- The text of a bundle: what stands in place of the placeholders, with the text in between as it
stands in the template. -/
inductive Substituted (modules : List RenderedModule) :
    List Found → (tail text : List Char) → Prop
  | last (tail : List Char) : Substituted modules [] tail tail
  | found {found : Found} {founds : List Found} {filling tail text : List Char}
    (hfills : Fills modules found.name filling) (hrest : Substituted modules founds tail text) :
    Substituted modules (found :: founds) tail (found.before ++ (filling ++ text))

/-- The first reason for which a template is not rendered. -/
inductive Refused (founds : List Found) : List RenderedModule → Cause → Prop
  | empty : Refused founds [] (.ofMessage "no modules to render")
  | unknown {modules : List RenderedModule} {found : Found} {front back : List Found}
    (hmodules : modules ≠ []) (hsplit : founds = front ++ found :: back)
    (hfront : ∀ earlier ∈ front, IsKnown earlier.name) (hunknown : ¬IsKnown found.name) :
    Refused founds modules (.ofMessage
      ("unknown placeholder \x60\x7b\x7b " ++ String.ofList found.name ++ " \x7d\x7d\x60"))
  | codeless {modules : List RenderedModule} (hmodules : modules ≠ [])
    (hknown : ∀ found ∈ founds, IsKnown found.name)
    (hcodeless : ∀ found ∈ founds, ¬HoldsCode found.name) :
    Refused founds modules (.ofMessage
      ("template references neither \x60\x7b\x7b modules \x7d\x7d\x60 nor " ++
        "\x60\x7b\x7b data \x7d\x7d\x60"))

/-! #### Names -/

theorem filling?_cases (name : List Char) :
    name = "modules".toList ∧ filling? name = some .modules ∨
      name = "data".toList ∧ filling? name = some .data ∨
        name = "entry".toList ∧ filling? name = some .entry ∨
          ¬IsKnown name ∧ filling? name = none := by
  have hname (literal : String) : String.ofList name = literal ↔ name = literal.toList := by
    rw [← String.toList_inj, String.toList_ofList]
  unfold filling? IsKnown
  simp only [← hname]
  split <;> simp_all

theorem isUnknown_slot : (Piece.slot name).isUnknown ↔ ¬IsKnown name := by
  rw [Piece.isUnknown]
  obtain ⟨rfl, h⟩ | ⟨rfl, h⟩ | ⟨rfl, h⟩ | ⟨hunknown, h⟩ := filling?_cases name <;>
    simp_all [IsKnown]

theorem holdsCode_slot : (Piece.slot name).holdsCode ↔ HoldsCode name := by
  rw [Piece.holdsCode]
  obtain ⟨rfl, h⟩ | ⟨rfl, h⟩ | ⟨rfl, h⟩ | ⟨hunknown, h⟩ := filling?_cases name <;>
    simp_all [IsKnown, HoldsCode, Filling.holdsCode]

theorem Fills.text_eq {filling : List Char} (h : Fills modules name filling) :
    (Piece.slot name).text modules = filling := by
  cases h <;> rfl

theorem exists_fills_iff : (∃ filling, Fills modules name filling) ↔ IsKnown name := by
  constructor
  · rintro ⟨_, h⟩
    cases h <;> simp [IsKnown]
  · rintro (rfl | rfl | rfl)
    exacts [⟨_, .modules⟩, ⟨_, .data⟩, ⟨_, .entry⟩]

/-! #### Parts of a cut -/

variable {founds : List Found}

theorem any_holdsCode_pieces : (pieces founds tail).any Piece.holdsCode ↔
    ∃ found ∈ founds, HoldsCode found.name := by
  have hplain (text : List Char) : (text.map Piece.char).any Piece.holdsCode = false := by
    rw [List.any_map]
    exact List.any_eq_false.mpr fun _ _ => Bool.false_ne_true
  induction founds with
  | nil => simp [pieces, hplain]
  | cons found founds ih =>
    rw [pieces, List.any_append, hplain, Bool.false_or, List.any_cons, Bool.or_eq_true,
      holdsCode_slot, or_congr_right ih]
    simp only [List.mem_cons, exists_eq_or_imp]

theorem find?_isUnknown_pieces : (pieces founds tail).find? Piece.isUnknown =
    (founds.find? fun found => (Piece.slot found.name).isUnknown).map (.slot ·.name) := by
  have hplain (text : List Char) : (text.map Piece.char).find? Piece.isUnknown = none := by
    rw [List.find?_map]
    exact Option.map_eq_none_iff.mpr (List.find?_eq_none.mpr fun _ _ => Bool.false_ne_true)
  induction founds with
  | nil => exact hplain tail
  | cons found founds ih =>
    rw [pieces, List.find?_append, hplain, Option.none_or, List.find?_cons, List.find?_cons, ih]
    cases (Piece.slot found.name).isUnknown <;> rfl

theorem find?_isUnknown_of_known (h : ∀ found ∈ founds, IsKnown found.name) :
    (pieces founds tail).find? Piece.isUnknown = none := by
  rw [find?_isUnknown_pieces, Option.map_eq_none_iff]
  exact List.find?_eq_none.mpr fun found hfound hunknown =>
    isUnknown_slot.mp hunknown (h found hfound)

theorem find?_isUnknown_of_unknown {found : Found} {front back : List Found}
    (hfront : ∀ earlier ∈ front, IsKnown earlier.name) (hunknown : ¬IsKnown found.name) :
    (pieces (front ++ found :: back) tail).find? Piece.isUnknown = some (.slot found.name) := by
  rw [find?_isUnknown_pieces, Option.map_eq_some_iff]
  refine ⟨found, List.find?_eq_some_iff_append.mpr
    ⟨isUnknown_slot.mpr hunknown, front, back, rfl, fun earlier hearlier => ?_⟩, rfl⟩
  rw [Bool.not_eq_true', Bool.eq_false_iff]
  exact fun hearlier' => isUnknown_slot.mp hearlier' (hfront earlier hearlier)

theorem Substituted.flatMap_pieces {text : List Char} (h : Substituted modules founds tail text) :
    (pieces founds tail).flatMap (Piece.text modules) = text := by
  have hplain (text : List Char) : (text.map Piece.char).flatMap (Piece.text modules) = text := by
    rw [List.flatMap_map]
    exact List.flatMap_singleton' text
  induction h with
  | last tail => exact hplain tail
  | found hfills _ ih =>
    rw [pieces, List.flatMap_append, List.flatMap_cons, hplain, hfills.text_eq, ih]

theorem exists_substituted (h : ∀ found ∈ founds, IsKnown found.name) (modules tail) :
    ∃ text, Substituted modules founds tail text := by
  induction founds with
  | nil => exact ⟨tail, .last tail⟩
  | cons found founds ih =>
    obtain ⟨hfound, hfounds⟩ := List.forall_mem_cons.mp h
    obtain ⟨filling, hfills⟩ := exists_fills_iff.mpr hfound
    obtain ⟨text, hrest⟩ := ih hfounds
    exact ⟨_, .found hfills hrest⟩

/-! #### Refusals -/

/-- A template can be rendered. -/
structure Renders (founds : List Found) (modules : List RenderedModule) : Prop where
  modules : modules ≠ []
  known : ∀ found ∈ founds, IsKnown found.name
  code : ∃ found ∈ founds, HoldsCode found.name

theorem refused_or_renders (founds : List Found) (modules : List RenderedModule) :
    (∃ cause, Refused founds modules cause) ∨ Renders founds modules := by
  by_cases hmodules : modules = []
  · subst hmodules
    exact .inl ⟨_, .empty⟩
  cases hfind : founds.find? fun found => (Piece.slot found.name).isUnknown with
  | some found =>
    obtain ⟨hunknown, front, back, hsplit, hfront⟩ := List.find?_eq_some_iff_append.mp hfind
    refine .inl ⟨_, .unknown hmodules hsplit (fun earlier hearlier => ?_)
      (isUnknown_slot.mp hunknown)⟩
    by_contra hearlier'
    have := hfront earlier hearlier
    rw [isUnknown_slot.mpr hearlier'] at this
    cases this
  | none =>
    have hknown (found : Found) (hfound : found ∈ founds) : IsKnown found.name := by
      by_contra hunknown
      exact List.find?_eq_none.mp hfind found hfound (isUnknown_slot.mpr hunknown)
    by_cases hcode : ∃ found ∈ founds, HoldsCode found.name
    · exact .inr ⟨hmodules, hknown, hcode⟩
    · exact .inl ⟨_, .codeless hmodules hknown fun found hfound hholds =>
        hcode ⟨found, hfound, hholds⟩⟩

/-- A name as it stands in the reason against it. -/
theorem append_quotedSlot (text : String) (name : List Char) : text ++ quotedSlot name =
    text ++ "\x60\x7b\x7b " ++ String.ofList name ++ " \x7d\x7d\x60" := by
  have hopen : String.singleton (Char.ofNat 0x60) ++ "\x7b\x7b " = "\x60\x7b\x7b " := by decide
  have hclose : " \x7d\x7d" ++ String.singleton (Char.ofNat 0x60) = " \x7d\x7d\x60" := by decide
  rw [quotedSlot, hopen, String.append_assoc, hclose, ← String.append_assoc, ← String.append_assoc]

theorem Refused.refusal? {cause : Cause} (h : Refused founds modules cause) (tail : List Char) :
    ∃ message, refusal? (pieces founds tail) modules = some message ∧
      cause = .ofMessage message := by
  unfold Template.refusal?
  cases h with
  | empty => exact ⟨_, rfl, rfl⟩
  | unknown hmodules hsplit hfront hunknown =>
    rw [if_neg (mt List.isEmpty_iff.mp hmodules), hsplit,
      find?_isUnknown_of_unknown hfront hunknown]
    refine ⟨_, rfl, ?_⟩
    rw [append_quotedSlot]
    rfl
  | codeless hmodules hknown hcodeless =>
    have hany : ¬(pieces founds tail).any Piece.holdsCode := fun hany =>
      let ⟨found, hfound, hholds⟩ := any_holdsCode_pieces.mp hany
      hcodeless found hfound hholds
    rw [if_neg (mt List.isEmpty_iff.mp hmodules), find?_isUnknown_of_known hknown]
    refine ⟨_, if_neg hany, ?_⟩
    decide

theorem Renders.refusal? (h : Renders founds modules) (tail : List Char) :
    refusal? (pieces founds tail) modules = none := by
  unfold Template.refusal?
  rw [if_neg (mt List.isEmpty_iff.mp h.modules), find?_isUnknown_of_known h.known]
  exact if_pos (any_holdsCode_pieces.mpr h.code)

/-! #### Bundles -/

variable {template : String}

/-- What is refused is not rendered. -/
theorem Refused.render {cause : Cause} (h : Refused founds modules cause)
    (hcut : Cut template.toList founds tail) : render template modules = .error cause := by
  obtain ⟨message, hmessage, rfl⟩ := h.refusal? tail
  rw [Template.render, hcut.parse_eq, hmessage]

/-- What can be rendered is. -/
theorem Renders.render {text : List Char} (h : Renders founds modules)
    (hcut : Cut template.toList founds tail) (htext : Substituted modules founds tail text) :
    render template modules = .ok (String.ofList text) := by
  rw [Template.render, hcut.parse_eq, h.refusal? tail, htext.flatMap_pieces]

/-- What rendering does with a template that is cut. -/
structure Substitutes (template : String) (modules : List RenderedModule) (founds : List Found)
    (tail : List Char) : Prop where
  /-- A bundle comes of it if and only if there are modules, every placeholder means something, and
  one of them is for the code. -/
  renders_iff : (∃ text, render template modules = .ok text) ↔ Renders founds modules
  /-- The bundle is the text in between, with the modules in place of the placeholders. -/
  substituted : ∀ text, render template modules = .ok text →
    Substituted modules founds tail text.toList
  /-- Otherwise the first reason against it is given. -/
  refused_iff : ∀ cause, render template modules = .error cause ↔ Refused founds modules cause

theorem Cut.substitutes (hcut : Cut template.toList founds tail) (modules : List RenderedModule) :
    Substitutes template modules founds tail := by
  obtain ⟨cause, hrefused⟩ | hrenders := refused_or_renders founds modules
  · have herror := hrefused.render hcut
    refine ⟨⟨?_, fun h => ?_⟩, ?_, fun cause' => ⟨fun h => ?_, fun h => h.render hcut⟩⟩
    · rintro ⟨text, h⟩
      cases herror.symm.trans h
    · obtain ⟨text, htext⟩ := exists_substituted h.known modules tail
      exact ⟨_, h.render hcut htext⟩
    · intro text h
      cases herror.symm.trans h
    · obtain rfl := Except.error.inj (herror.symm.trans h)
      exact hrefused
  · obtain ⟨text, htext⟩ := exists_substituted hrenders.known modules tail
    have hok := hrenders.render hcut htext
    refine ⟨⟨fun _ => hrenders, fun _ => ⟨_, hok⟩⟩, fun text' h => ?_,
      fun cause => ⟨fun h => ?_, fun h => h.render hcut⟩⟩
    · obtain rfl := Except.ok.inj (hok.symm.trans h)
      rwa [String.toList_ofList]
    · cases hok.symm.trans h

/-- What rendering does: the template is cut at its placeholders, and the modules are put in their
place. -/
structure OnePass (template : String) (modules : List RenderedModule) : Prop where
  cut : ∃! cut : List Found × List Char, Cut template.toList cut.1 cut.2
  substitutes : ∀ founds tail, Cut template.toList founds tail →
    Substitutes template modules founds tail

/-- **Rendering is substitution in one pass.** -/
theorem onePass (template : String) (modules : List RenderedModule) : OnePass template modules where
  cut := existsUnique_cut template.toList
  substitutes _ _ hcut := hcut.substitutes modules

/-- A third brace in front of a placeholder is text. -/
example : parse "\x7b\x7b\x7bdata\x7d\x7d".toList = [.char '\x7b', .slot "data".toList] :=
  rfl

end ModuleBundler.Template
