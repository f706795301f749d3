import Mathlib.Data.List.TakeWhile
import ModuleBundler.Proofs.Script.Names
import ModuleBundler.Proofs.Script.Suffix

/-!
# Blanks and escapes in front of more text

What follows a text may change what its end means: a slash starts a comment, a digit belongs to an
escape. It does not if the text ends with a closing brace or a semicolon, which are part of no
comment mark, or if such a character or a blank follows the text.

## Main definitions

* `isFinal`, `isSeparator` — characters behind which, and in front of which, tokens end.
* `EndsClosed`, `StartsApart` — texts that end with such a character, and texts that start with one.
* `Parted` — a text that means the same in front of another one.
* `endsEscape` — characters in front of which every escape ends.

## Main results

* `skipTrivia_extend` — blanks and comments are skipped in front of more text as without it.
* `nameEscape?_append`, `textEscape?_append` — escapes are the same in front of more text.
-/

namespace ModuleBundler.Script

open Text

variable {goal : Goal} {chars tail : List Char} {c : Char}

/-! ### The place between two texts -/

/-- The same with more text behind it. -/
def Rest.extend (rest : Rest) (tail : List Char) : Rest :=
  { rest with chars := rest.chars ++ tail }

/-- Is the character a closing brace or a semicolon, behind which no punctuator goes on? -/
def isFinal (c : Char) : Bool :=
  c == '\x7d' || c == ';'

/-- Is the character a closer, a blank or a line break, in front of which tokens end? -/
def isSeparator (c : Char) : Bool :=
  isFinal c || isLineBreak c || isSpace c

/-- The text ends with a closing brace or a semicolon. -/
def EndsClosed (chars : List Char) : Prop :=
  chars.getLast?.any isFinal

instance : Decidable (EndsClosed chars) :=
  inferInstanceAs (Decidable (_ = _))

/-- The text starts with a separator, if it starts at all. -/
def StartsApart (tail : List Char) : Prop :=
  tail.head?.all isSeparator

instance : Decidable (StartsApart tail) :=
  inferInstanceAs (Decidable (_ = _))

/-- There is a text, and at its end or behind it is a character that parts the two texts. -/
structure Parted (chars tail : List Char) : Prop where
  ne_nil : chars ≠ []
  parts : EndsClosed chars ∨ StartsApart tail

theorem EndsClosed.ne_nil (h : EndsClosed chars) : chars ≠ [] := by
  rintro rfl
  contradiction

theorem EndsClosed.of_append {front : List Char} (h : EndsClosed (front ++ chars))
    (hne : chars ≠ []) : EndsClosed chars := by
  rwa [EndsClosed, List.getLast?_append_of_ne_nil _ hne] at h

theorem EndsClosed.append (h : EndsClosed chars) (front : List Char) :
    EndsClosed (front ++ chars) := by
  rwa [EndsClosed, List.getLast?_append_of_ne_nil _ h.ne_nil]

theorem EndsClosed.of_suffix {whole : List Char} (h : EndsClosed whole) (hsuffix : chars <:+ whole)
    (hne : chars ≠ []) : EndsClosed chars := by
  obtain ⟨front, rfl⟩ := hsuffix
  exact h.of_append hne

theorem EndsClosed.suffix {whole : List Char} (h : EndsClosed chars) (hsuffix : chars <:+ whole) :
    EndsClosed whole := by
  obtain ⟨front, rfl⟩ := hsuffix
  exact h.append front

theorem EndsClosed.parted (h : EndsClosed chars) : Parted chars tail :=
  ⟨h.ne_nil, .inl h⟩

theorem StartsApart.parted (h : StartsApart tail) (hne : chars ≠ []) : Parted chars tail :=
  ⟨hne, .inr h⟩

theorem Parted.suffix {whole : List Char} (h : Parted chars tail) (hsuffix : chars <:+ whole) :
    Parted whole tail := by
  obtain ⟨front, rfl⟩ := hsuffix
  exact ⟨List.append_ne_nil_of_right_ne_nil _ h.ne_nil, h.parts.imp_left (·.append front)⟩

/-- Nothing in the pattern parts it. -/
def isSolid (pattern : List Char) : Bool :=
  pattern.dropLast.all (!isFinal ·) && pattern.tail.all (!isSeparator ·)

/-- A solid pattern that starts the longer text starts the shorter one. -/
theorem Parted.prefix_of_append {pattern : List Char} (h : Parted chars tail)
    (hpattern : isSolid pattern) (hfront : pattern <+: chars ++ tail) : pattern <+: chars := by
  obtain hshort | hlong := List.prefix_or_prefix_of_prefix hfront (List.prefix_append chars tail)
  · exact hshort
  obtain ⟨rest, rfl⟩ := hlong
  rw [List.prefix_append_right_inj] at hfront
  cases rest with
  | nil => rw [List.append_nil]
  | cons d rest =>
    obtain ⟨more, rfl⟩ := hfront
    rw [isSolid, Bool.and_eq_true, List.all_eq_true, List.all_eq_true] at hpattern
    obtain ⟨hfirst, hbehind⟩ := hpattern
    rw [List.dropLast_append_of_ne_nil (List.cons_ne_nil _ _)] at hfirst
    rw [List.tail_append_of_ne_nil h.ne_nil] at hbehind
    obtain hend | hstart := h.parts
    · obtain ⟨c, hlast, hc⟩ := (Option.any_eq_true _ _).mp hend
      have hopen := hfirst c (List.mem_append_left _ (List.mem_of_getLast? hlast))
      rw [hc] at hopen
      contradiction
    · have hopen := hbehind d (List.mem_append_right _ List.mem_cons_self)
      have hd : isSeparator d := hstart
      rw [hd] at hopen
      contradiction

/-- What starts the longer text behind its first character starts the shorter one there. -/
theorem Parted.exists_of_append_eq {first : Char} {rest : List Char} (h : Parted (c :: chars) tail)
    (pattern : List Char) (hpattern : isSolid (first :: pattern)) (hfirst : c = first)
    (heq : chars ++ tail = pattern ++ rest) : ∃ rest, chars = pattern ++ rest := by
  have hfront : first :: pattern <+: c :: chars ++ tail :=
    ⟨rest, by rw [hfirst, List.cons_append, List.cons_append, heq]⟩
  obtain ⟨rest', hrest⟩ := h.prefix_of_append hpattern hfront
  exact ⟨rest', (List.cons.inj hrest).2.symm⟩

/-! ### Separators -/

/-- The code points of separators. -/
def separators : List Nat :=
  0x3B :: 0x7D :: blanks

theorem mem_separators (h : isSeparator c) : c.toNat ∈ separators := by
  rw [isSeparator, Bool.or_assoc, Bool.or_eq_true, isFinal, Bool.or_eq_true, beq_iff_eq,
    beq_iff_eq, Bool.or_eq_true] at h
  obtain (rfl | rfl) | hblank := h
  · exact List.mem_cons_of_mem _ List.mem_cons_self
  · exact List.mem_cons_self
  · exact List.mem_cons_of_mem _ (List.mem_cons_of_mem _ (mem_blanks hblank))

/-- No separator is of a kind to which none of their code points belongs. -/
theorem eq_false_of_isSeparator {p : Char → Bool}
    (hp : ∀ n ∈ separators, p (Char.ofNat n) = false) (h : isSeparator c) : p c = false := by
  have hc := hp _ (mem_separators h)
  rwa [Char.ofNat_toNat] at hc

/-- The character belongs to none of what a separator ends: it is no separator. -/
theorem ne_of_isSeparator {d : Char} (h : isSeparator c) (hd : isSeparator d = false) : c ≠ d := by
  rintro rfl
  cases h.symm.trans hd

theorem isNamePart_of_isSeparator : isSeparator c → isNamePart c = false :=
  eq_false_of_isSeparator (by decide +kernel)

/-- What is left of a text ends what was read of it: something is left, or a separator follows. -/
def Bounded (rest tail : List Char) : Prop :=
  rest ≠ [] ∨ StartsApart tail

theorem Bounded.of_suffix {rest whole : List Char} (h : Bounded rest tail)
    (hsuffix : rest <:+ whole) : Bounded whole tail := by
  refine h.imp_left fun hne hwhole => hne ?_
  rwa [hwhole, List.suffix_nil] at hsuffix

theorem StartsApart.cons (h : StartsApart (c :: tail)) : isSeparator c :=
  h

/-! ### Blanks -/

/-- A character that starts no comment starts none in front of more text. -/
theorem skipTrivia_blank_append {newline : Bool} (hparted : Parted (c :: chars) tail)
    (hline : ∀ rest, c = '/' → chars = '/' :: rest → False)
    (hblock : ∀ rest, c = '/' → chars = '*' :: rest → False)
    (hopen : ∀ rest, c = '<' → chars = '!' :: '-' :: '-' :: rest → False)
    (hclose : ∀ rest, c = '-' → chars = '-' :: '>' :: rest → False) :
    skipTrivia goal .blank (c :: chars ++ tail) newline =
      if isLineBreak c then skipTrivia goal .blank (chars ++ tail) true
      else if isSpace c then skipTrivia goal .blank (chars ++ tail) newline
      else .ok ⟨c :: chars ++ tail, newline⟩ := by
  rw [List.cons_append, skipTrivia]
  · intro rest hc heq
    obtain ⟨rest, hrest⟩ := hparted.exists_of_append_eq ['/'] (by decide) hc heq
    exact hline rest hc hrest
  · intro rest hc heq
    obtain ⟨rest, hrest⟩ := hparted.exists_of_append_eq ['*'] (by decide) hc heq
    exact hblock rest hc hrest
  · intro rest hc heq
    obtain ⟨rest, hrest⟩ :=
      hparted.exists_of_append_eq ['!', '-', '-'] (by decide) hc heq
    exact hopen rest hc hrest
  · intro rest hc heq
    obtain ⟨rest, hrest⟩ := hparted.exists_of_append_eq ['-', '>'] (by decide) hc heq
    exact hclose rest hc hrest

variable (tail) in
theorem skipTrivia_extend {trivia : Trivia} {newline : Bool} {rest : Rest}
    (h : skipTrivia goal trivia chars newline = .ok rest) (hparted : Parted rest.chars tail) :
    skipTrivia goal trivia (chars ++ tail) newline = .ok (rest.extend tail) := by
  have hwhole : Parted chars tail := hparted.suffix (skipTrivia_suffix h)
  fun_induction skipTrivia goal trivia chars newline with
  | case1 _ _ ih | case2 _ _ ih | case12 _ _ ih =>
    have hrest := hparted.suffix (skipTrivia_suffix h)
    exact ih h hrest
  | case3 _ _ hscript ih | case5 _ _ hscript ih =>
    have hrest := hparted.suffix (skipTrivia_suffix h)
    simp only [List.cons_append, skipTrivia]
    rw [if_pos hscript]
    exact ih h hrest
  | case4 _ _ hmodule | case6 _ _ hmodule =>
    obtain rfl := Except.ok.inj h
    simp only [List.cons_append, skipTrivia]
    rw [if_neg hmodule]
    rfl
  | case7 c cs newline hline hblock hopen hclose hbreak ih =>
    have hrest := hparted.suffix (skipTrivia_suffix h)
    rw [skipTrivia_blank_append hwhole hline hblock hopen hclose, if_pos hbreak]
    exact ih h hrest
  | case8 c cs newline hline hblock hopen hclose hbreak hspace ih =>
    have hrest := hparted.suffix (skipTrivia_suffix h)
    rw [skipTrivia_blank_append hwhole hline hblock hopen hclose, if_neg hbreak, if_pos hspace]
    exact ih h hrest
  | case9 c cs newline hline hblock hopen hclose hbreak hspace =>
    obtain rfl := Except.ok.inj h
    rw [skipTrivia_blank_append hwhole hline hblock hopen hclose, if_neg hbreak, if_neg hspace]
    rfl
  | case10 c cs newline hbreak ih =>
    have hrest := hparted.suffix (skipTrivia_suffix h)
    rw [List.cons_append, skipTrivia, if_pos hbreak]
    exact ih h hrest
  | case11 c cs newline hbreak ih =>
    have hrest := hparted.suffix (skipTrivia_suffix h)
    rw [List.cons_append, skipTrivia, if_neg hbreak]
    exact ih h hrest
  | case13 c cs newline hend ih =>
    have hrest := hparted.suffix (skipTrivia_suffix h)
    rw [List.cons_append, skipTrivia]
    · exact ih h hrest
    · intro rest hc heq
      obtain ⟨rest, hrest⟩ := hwhole.exists_of_append_eq ['/'] (by decide) hc heq
      exact hend rest hc hrest
  | case14 => contradiction
  | case15 | case16 =>
    obtain rfl := Except.ok.inj h
    exact absurd rfl hparted.ne_nil

/-! ### Escapes -/

theorem length_takeWhile_lt {p : Char → Bool} (hmem : c ∈ chars) (hc : p c = false) :
    (chars.takeWhile p).length < chars.length := by
  refine lt_of_le_of_ne (List.takeWhile_prefix p).length_le fun hlength => ?_
  have hall := List.takeWhile_eq_self_iff.mp ((List.takeWhile_prefix p).eq_of_length hlength)
  rw [hall c hmem] at hc
  contradiction

/-- A prefix of characters of one kind ends in front of a character of another kind. -/
theorem takeWhile_append_of_lt {p : Char → Bool}
    (h : (chars.takeWhile p).length < chars.length) :
    (chars ++ tail).takeWhile p = chars.takeWhile p := by
  rw [List.takeWhile_append, if_neg h.ne]

/-- A prefix of characters of one kind ends where nothing is left, if a separator follows. -/
theorem takeWhile_append_of_bounded {p : Char → Bool}
    (hp : ∀ n ∈ separators, p (Char.ofNat n) = false)
    (h : Bounded (chars.drop (chars.takeWhile p).length) tail) :
    (chars ++ tail).takeWhile p = chars.takeWhile p := by
  obtain hrest | hapart := h
  · rw [ne_eq, List.drop_eq_nil_iff, not_le] at hrest
    exact takeWhile_append_of_lt hrest
  · have htail : tail.takeWhile p = [] := by
      cases tail with
      | nil => rfl
      | cons c tail =>
        rw [List.takeWhile_cons_of_neg]
        exact Bool.eq_false_iff.mp (eq_false_of_isSeparator hp hapart.cons)
    rw [List.takeWhile_append]
    split_ifs with hall
    · rw [htail, List.append_nil, (List.takeWhile_prefix p).eq_of_length hall]
    · rfl

/-- Does every escape end in front of the character? -/
def endsEscape (c : Char) : Bool :=
  !isHexDigit c && c != 'u' && c != 'x' && c != '\x7b' && c != '\r'

theorem isHexDigit_of_isOctalDigit (h : isOctalDigit c) : isHexDigit c := by
  simp only [isOctalDigit, Bool.and_eq_true, decide_eq_true_eq] at h
  have hdigit : '0' ≤ c ∧ c ≤ '9' := ⟨h.1, Char.le_trans h.2 (by decide)⟩
  rw [isHexDigit, hexValue?, if_pos hdigit]
  rfl

section Escapes

variable {escape : Escape} {mark : Char}

/-- An escape in braces is the same in front of more text if it ends somewhere. -/
theorem unicodeEscape?_brace_append (hmem : mark ∈ chars) (hmark : isHexDigit mark = false) :
    unicodeEscape? ('\x7b' :: chars ++ tail) = unicodeEscape? ('\x7b' :: chars) := by
  have hlength := length_takeWhile_lt hmem hmark
  simp only [List.cons_append, unicodeEscape?, takeWhile_append_of_lt hlength]
  rw [List.drop_append_of_le_length hlength.le]
  cases hdrop : chars.drop (chars.takeWhile isHexDigit).length with
  | nil =>
    have hall := List.drop_eq_nil_iff.mp hdrop
    omega
  | cons d rest =>
    by_cases hd : d = '\x7d'
    · rw [hd]
      rfl
    · simp [hd]

/-- An escape that names a code point is complete. -/
theorem unicodeEscape?_append_of_eq_some (h : unicodeEscape? chars = some escape) :
    unicodeEscape? (chars ++ tail) = some escape := by
  unfold unicodeEscape? at h
  split at h
  · next cs =>
    dsimp only at h
    split at h
    · next rest hclose =>
      have hmem : '\x7d' ∈ cs :=
        List.mem_of_mem_drop (hclose ▸ List.mem_cons_self)
      rw [unicodeEscape?_brace_append hmem rfl]
      simp only [unicodeEscape?, hclose, h]
    · contradiction
  · next a b c d rest hbrace =>
    rw [← h, List.cons_append, List.cons_append, List.cons_append, List.cons_append,
      unicodeEscape?]
    exact hbrace
  · contradiction

/-- Four digits are an escape, and fewer are none. -/
theorem unicodeEscape?_eq_none (hbrace : chars.head? ≠ some '\x7b') (hmem : mark ∈ chars.take 4)
    (hmark : isHexDigit mark = false) : unicodeEscape? chars = none := by
  unfold unicodeEscape?
  split
  · exact absurd rfl hbrace
  · next a b c d rest _ =>
    have hall : ¬[a, b, c, d].all isHexDigit := by
      rw [List.all_eq_true]
      intro hall
      rw [hall mark hmem] at hmark
      contradiction
    rw [if_neg hall]
  · rfl

/-- An escape that ends somewhere is the same in front of more text. -/
theorem unicodeEscape?_append (hmem : mark ∈ chars) (hmark : isHexDigit mark = false)
    (hopen : mark ≠ '\x7b') : unicodeEscape? (chars ++ tail) = unicodeEscape? chars := by
  by_cases hbrace : chars.head? = some '\x7b'
  · obtain ⟨cs, rfl⟩ := List.head?_eq_some_iff.mp hbrace
    exact unicodeEscape?_brace_append (List.mem_of_ne_of_mem hopen hmem) hmark
  · have hbrace' : (chars ++ tail).head? ≠ some '\x7b' := by
      rwa [List.head?_append_of_ne_nil _ (List.ne_nil_of_mem hmem)]
    by_cases hlength : chars.length ≤ 4
    · have htake : mark ∈ chars.take 4 := by rwa [List.take_of_length_le hlength]
      have htake' : mark ∈ (chars ++ tail).take 4 := by
        rw [List.take_append]
        exact List.mem_append_left _ htake
      rw [unicodeEscape?_eq_none hbrace htake hmark, unicodeEscape?_eq_none hbrace' htake' hmark]
    · obtain ⟨a, b, c, d, rest, rfl⟩ : ∃ a b c d rest, chars = a :: b :: c :: d :: rest := by
        match chars with
        | a :: b :: c :: d :: rest => exact ⟨a, b, c, d, rest, rfl⟩
        | [] | [_] | [_, _] | [_, _, _] => simp at hlength
      have hfirst (h : a = '\x7b') : False := hbrace (congrArg some h)
      simp only [List.cons_append]
      rw [unicodeEscape?, unicodeEscape?] <;> exact hfirst

theorem length_le_of_unicodeEscape? (h : unicodeEscape? chars = some escape) :
    escape.length ≤ chars.length + 1 := by
  unfold unicodeEscape? at h
  split at h
  · next cs =>
    dsimp only at h
    split at h
    · next rest hclose =>
      split_ifs at h
      obtain rfl := Option.some.inj h
      have hlength := congrArg List.length hclose
      rw [List.length_drop, List.length_cons] at hlength
      simp only [List.length_cons]
      omega
    · contradiction
  · split_ifs at h
    obtain rfl := Option.some.inj h
    simp only [List.length_cons]
    omega
  · contradiction

/-- An escape in a name stands in the text. -/
theorem length_le_of_nameEscape? {isAllowed : Char → Bool} {length : Nat}
    (h : nameEscape? isAllowed chars = some (c, length)) : length ≤ chars.length := by
  unfold nameEscape? at h
  split at h
  · split at h
    · next hescape =>
      split_ifs at h
      obtain ⟨-, rfl⟩ := Prod.mk.inj (Option.some.inj h)
      exact length_le_of_unicodeEscape? hescape
    · contradiction
  · contradiction

theorem nameEscape?_append {isAllowed : Char → Bool} {length : Nat}
    (h : nameEscape? isAllowed chars = some (c, length)) :
    nameEscape? isAllowed (chars ++ tail) = some (c, length) := by
  unfold nameEscape? at h
  split at h
  · next cs =>
    split at h
    · next n size hescape =>
      rw [← h, List.cons_append, nameEscape?, unicodeEscape?_append_of_eq_some hescape]
    · contradiction
  · contradiction

theorem octalDigits_append (hmem : mark ∈ chars) (hmark : isOctalDigit mark = false) :
    octalDigits (chars ++ tail) = octalDigits chars := by
  simp only [octalDigits, ← List.take_takeWhile,
    takeWhile_append_of_lt (length_takeWhile_lt hmem hmark)]

/-- The escapes of one character, and those in octal digits. -/
theorem textEscape?_cons {octal : Bool} (hunicode : c ≠ 'u') (hhex : c ≠ 'x')
    (hreturn : c = '\r' → chars.head? ≠ some '\n') :
    textEscape? octal (c :: chars) =
      if isLineBreak c then some ⟨[], 1⟩
      else if c = '0' ∧ !(chars.head?.any Char.isDigit) then some ⟨[0], 1⟩
      else if isOctalDigit c then
        if octal then
          some ⟨[(octalDigits (c :: chars)).foldl (fun n d => n * 8 + (d.toNat - 48)) 0],
            (octalDigits (c :: chars)).length⟩
        else none
      else if c = '8' ∨ c = '9' then if octal then some ⟨[c.toNat], 1⟩ else none
      else some ⟨[letterEscape c], 1⟩ := by
  rw [textEscape?]
  · exact hunicode
  · exact fun _ _ _ hc _ => hhex hc
  · exact hhex
  · rintro rest hc rfl
    exact hreturn hc rfl

theorem textEscape?_hex_append {octal : Bool} (hmem : mark ∈ chars)
    (hmark : isHexDigit mark = false) :
    textEscape? octal ('x' :: (chars ++ tail)) = textEscape? octal ('x' :: chars) := by
  match chars with
  | [] => contradiction
  | [digit] =>
    obtain rfl := List.mem_singleton.mp hmem
    cases tail with
    | nil => rfl
    | cons second tail => simp [textEscape?, hmark]
  | first :: second :: rest => rfl

/-- An escape that ends somewhere is the same in front of more text. -/
theorem textEscape?_append {octal : Bool} (hmem : mark ∈ chars) (hmark : endsEscape mark) :
    textEscape? octal (chars ++ tail) = textEscape? octal chars := by
  simp only [endsEscape, Bool.and_eq_true, Bool.not_eq_true', bne_iff_ne, ne_eq] at hmark
  obtain ⟨⟨⟨⟨hhex, hu⟩, hx⟩, hopen⟩, hreturn⟩ := hmark
  have hoctal : isOctalDigit mark = false := by
    cases hdigit : isOctalDigit mark with
    | false => rfl
    | true => rw [isHexDigit_of_isOctalDigit hdigit] at hhex; contradiction
  obtain ⟨c, rest, rfl⟩ := List.exists_cons_of_ne_nil (List.ne_nil_of_mem hmem)
  -- What an escape needs to see stands in front of the mark, or the mark is its first character.
  have hhead (hne : mark ≠ c) : (rest ++ tail).head? = rest.head? := by
    have hrest : rest ≠ [] := List.ne_nil_of_mem (List.mem_of_ne_of_mem hne hmem)
    rw [List.head?_append_of_ne_nil _ hrest]
  rw [List.cons_append]
  by_cases hunicode : c = 'u'
  · subst hunicode
    exact unicodeEscape?_append (List.mem_of_ne_of_mem hu hmem) hhex hopen
  · by_cases hnumber : c = 'x'
    · subst hnumber
      exact textEscape?_hex_append (List.mem_of_ne_of_mem hx hmem) hhex
    · by_cases hbreak : c = '\r' ∧ rest.head? = some '\n'
      · obtain ⟨rfl, hnewline⟩ := hbreak
        obtain ⟨rest, rfl⟩ := List.head?_eq_some_iff.mp hnewline
        rfl
      · have hbreak (hc : c = '\r') : rest.head? ≠ some '\n' := fun h => hbreak ⟨hc, h⟩
        have hbreak' (hc : c = '\r') : (rest ++ tail).head? ≠ some '\n' := by
          rw [hhead (hc ▸ hreturn)]
          exact hbreak hc
        have hzero : (c = '0' ∧ !((rest ++ tail).head?.any Char.isDigit)) ↔
            (c = '0' ∧ !(rest.head?.any Char.isDigit)) := by
          refine and_congr_right fun hc => ?_
          rw [hhead]
          rintro rfl
          rw [hc] at hoctal
          contradiction
        rw [textEscape?_cons hunicode hnumber hbreak, textEscape?_cons hunicode hnumber hbreak',
          ← List.cons_append, octalDigits_append hmem hoctal]
        simp only [hzero]

end Escapes

end ModuleBundler.Script
