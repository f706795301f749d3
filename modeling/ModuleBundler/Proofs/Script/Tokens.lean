import Mathlib.Tactic.IntervalCases
import Mathlib.Tactic.SplitIfs
import ModuleBundler.Proofs.Decimal.Numeral
import ModuleBundler.Proofs.Text.Quoted
import ModuleBundler.Script.Scan

/-!
# Tokens of printed values

Quoted texts and numerals are written in a way that scripts share: a quoted text is a string with
this text as its value, whatever characters are in it, and a numeral is a number, if something
follows that cannot belong to it.

## Main definitions

* `isCloser`, `endsNumeral` — the characters that stand behind a value, and behind a numeral.

## Main results

* `scanToken_encode` — a quoted text is read as a string.
* `scanToken_numeral` — a numeral is read as a number.
-/

namespace ModuleBundler.Script

open Text

variable {goal : Goal} {chars digits rest tail : List Char} {c : Char}

/-- Does a value end in front of the character? -/
def isCloser (c : Char) : Bool :=
  c == ',' || c == ']' || c == '\x7d' || c == ';'

theorem isCloser_iff : isCloser c ↔ c = ',' ∨ c = ']' ∨ c = '\x7d' ∨ c = ';' := by
  simp [isCloser, or_assoc]

/-- Does a numeral end in front of the character? It may be the name of a member, too. -/
def endsNumeral (c : Char) : Bool :=
  c == ':' || isCloser c

theorem endsNumeral_iff : endsNumeral c ↔ c = ':' ∨ c = ',' ∨ c = ']' ∨ c = '\x7d' ∨ c = ';' := by
  simp [endsNumeral, isCloser_iff]

theorem endsNumeral_of_isCloser (h : isCloser c) : endsNumeral c := by
  simp [endsNumeral, h]

/-! ### Strings -/

/-- The escape of a control character is read as this character. -/
theorem textEscape?_control {n : Nat} (h : n < 0x20) :
    textEscape? true ('u' :: fourHexDigits n ++ tail) = some ⟨[n], 5⟩ := by
  obtain ⟨hnumber, hdigits, hhead⟩ := fourHexDigits_of_control n h
  simp only [fourHexDigits, List.map_cons, List.map_nil] at hnumber hdigits hhead ⊢
  rw [Option.some.inj hhead] at hnumber hdigits ⊢
  show (if _ then some (Escape.mk [hexNumber _] 5) else none) = _
  rw [if_pos hdigits, hnumber]

/-- The characters of an escape are passed over. -/
theorem scanString_skip {mark : Char} (front : List Char) :
    scanString mark front.length (front ++ tail) = scanString mark 0 tail := by
  induction front with
  | nil => rfl
  | cons c front ih => exact ih

/-- A character that stands for itself inside quotes is read as this character. -/
theorem scanString_plain (hmark : c ≠ '"') (hescape : c ≠ '\\') (hcontrol : ¬c.toNat < 0x20) :
    scanString '"' 0 (c :: tail) = (scanString '"' 0 tail).map (·.after [c.toNat]) := by
  have hbreak : ¬(c = '\n' ∨ c = '\r') := by
    rintro (rfl | rfl) <;> exact hcontrol (by decide)
  rw [scanString, if_neg hmark, if_neg hescape, if_neg hbreak]

/-- The form of a character inside quotes is read as this character. -/
theorem scanString_escape :
    scanString '"' 0 (Quoted.escape c ++ tail) =
      (scanString '"' 0 tail).map (·.after [c.toNat]) := by
  unfold Quoted.escape
  split_ifs with hmark hescape h8 h12 hline hreturn htab hcontrol
  · rw [hmark]
    rfl
  · rw [hescape]
    rfl
  · rw [h8]
    rfl
  · rw [h12]
    rfl
  · rw [hline]
    rfl
  · rw [hreturn]
    rfl
  · rw [htab]
    rfl
  · have hskip : scanString '"' 5 ('u' :: fourHexDigits c.toNat ++ tail) =
        scanString '"' 0 tail := scanString_skip ('u' :: fourHexDigits c.toNat)
    show scanString '"' 0 ('\\' :: ('u' :: fourHexDigits c.toNat ++ tail)) = _
    rw [scanString, if_neg (by decide), if_pos rfl, textEscape?_control hcontrol]
    show (scanString '"' 5 _).map _ = _
    rw [hskip]
  · exact scanString_plain hmark hescape hcontrol

/-- A quoted text is read up to its closing quote, whatever it contains. -/
theorem scanString_flatMap_escape (text : List Char) :
    scanString '"' 0 (text.flatMap Quoted.escape ++ '"' :: rest) =
      .ok ⟨text.map Char.toNat, rest⟩ := by
  induction text with
  | nil => rfl
  | cons c text ih =>
    rw [List.flatMap_cons, List.append_assoc, scanString_escape, ih]
    rfl

/-- No character is half of a surrogate pair. -/
theorem isSurrogate_toNat (c : Char) : isSurrogate c.toNat = false := by
  have hvalid : c.toNat < 0xD800 ∨ 0xDFFF < c.toNat ∧ c.toNat < 0x110000 := c.valid
  simp [isSurrogate, isHighSurrogate, isLowSurrogate]
  omega

theorem joinSurrogates_map_toNat (text : List Char) :
    joinSurrogates (text.map Char.toNat) = text.map Char.toNat := by
  induction text with
  | nil => rfl
  | cons c text ih =>
    cases text with
    | nil => rfl
    | cons d text =>
      have hhigh : isHighSurrogate c.toNat = false :=
        (Bool.or_eq_false_iff.mp (isSurrogate_toNat c)).1
      rw [List.map_cons, List.map_cons, joinSurrogates, hhigh, Bool.false_and,
        if_neg Bool.false_ne_true, ← List.map_cons, ih]

/-- The code points of characters denote these characters. -/
theorem textOfPoints_map_toNat (text : List Char) :
    textOfPoints (text.map Char.toNat) = (text, true) := by
  have hnone : ¬(text.map Char.toNat).any isSurrogate := by
    simp [isSurrogate_toNat]
  have hsame : (text.map Char.toNat).map Char.ofNat = text := by
    simp [Function.comp_def]
  rw [textOfPoints, joinSurrogates_map_toNat, if_neg hnone, hsame]

/-- **A quoted text is read as a string with this text as its value.** -/
theorem scanToken_encode (text : List Char) :
    scanToken goal (Quoted.encode text ++ rest) =
      .ok (lexeme ⟨Quoted.encode text ++ rest, false⟩ (.string true) rest text false) := by
  have hquoted : Quoted.encode text ++ rest =
      '"' :: (text.flatMap Quoted.escape ++ '"' :: rest) := by
    simp [Quoted.encode]
  rw [hquoted]
  show (scanString '"' 0 _).map _ = _
  rw [scanString_flatMap_escape]
  simp only [Except.map, textOfPoints_map_toNat]

/-! ### Numbers -/

/-- Digits end in front of the text, without a separator or the mark of a whole number of any
size. -/
def EndsDigits (rest : List Char) : Prop :=
  ∀ c, rest.head? = some c → c.isDigit = false ∧ c ≠ '_' ∧ c ≠ 'n'

theorem endsDigits_cons (hdigit : c.isDigit = false) (hother : c ≠ '_' ∧ c ≠ 'n') :
    EndsDigits (c :: rest) := by
  intro d hd
  obtain rfl := Option.some.inj hd
  exact ⟨hdigit, hother⟩

theorem ne_of_isDigit {d : Char} (h : c.isDigit) (hd : d.isDigit = false) : c ≠ d := by
  rintro rfl
  rw [h] at hd
  contradiction

theorem moreDigits_cons {isDigit : Char → Bool} (hc : c ≠ '_') : moreDigits isDigit (c :: tail) =
    if isDigit c then (moreDigits isDigit tail).map (·.after [c])
    else some (.none (c :: tail)) := by
  rw [moreDigits]
  · rintro _ _ rfl
    contradiction
  · rintro rfl
    contradiction

theorem moreDigits_append (hdigits : ∀ c ∈ digits, c.isDigit) (hrest : EndsDigits rest) :
    moreDigits Char.isDigit (digits ++ rest) = some ⟨digits, rest⟩ := by
  induction digits with
  | nil =>
    cases rest with
    | nil => rfl
    | cons c tail =>
      obtain ⟨hdigit, hseparator, -⟩ := hrest c rfl
      rw [List.nil_append, moreDigits_cons hseparator, hdigit]
      rfl
  | cons digit digits ih =>
    obtain ⟨hdigit, hdigits⟩ := List.forall_mem_cons.mp hdigits
    rw [List.cons_append, moreDigits_cons (ne_of_isDigit hdigit rfl), if_pos hdigit, ih hdigits]
    rfl

/-- Digits are taken up to the first character that is none. -/
theorem takeDigits_append (hdigits : IsDigits digits) (hrest : EndsDigits rest) :
    takeDigits Char.isDigit (digits ++ rest) = some ⟨digits, rest⟩ := by
  obtain ⟨hne, hall⟩ := hdigits
  cases digits with
  | nil => exact absurd rfl hne
  | cons digit digits =>
    obtain ⟨hdigit, hdigits⟩ := List.forall_mem_cons.mp hall
    rw [List.cons_append, takeDigits, if_pos hdigit, moreDigits_append hdigits hrest]
    rfl

theorem endsDigits_of_endsNumeral (hc : endsNumeral c) : EndsDigits (c :: rest) := by
  obtain rfl | rfl | rfl | rfl | rfl := endsNumeral_iff.mp hc
  all_goals exact endsDigits_cons rfl (by decide)

theorem takeExponent_append {power : List Char} (h : IsPower power) (hc : endsNumeral c) :
    takeExponent (power ++ c :: rest) = some ⟨power, c :: rest⟩ := by
  obtain rfl | ⟨sign, digits, rfl, hsign, hdigits⟩ := h
  · have hletter : ¬(c = 'e' ∨ c = 'E') := by
      obtain rfl | rfl | rfl | rfl | rfl := endsNumeral_iff.mp hc <;> decide
    cases rest with
    | nil => simp [takeExponent, hletter, Split.none]
    | cons d rest => simp [takeExponent, hletter, Split.none]
  · show takeExponent ('e' :: sign :: (digits ++ c :: rest)) = _
    rw [takeExponent, if_pos (.inl rfl), if_pos hsign,
      takeDigits_append hdigits (endsDigits_of_endsNumeral hc)]
    rfl

/-- What follows the digits of a numeral does not start with a digit. -/
theorem endsDigits_fraction_append {fraction power : List Char} (h : IsFraction fraction)
    (hpower : IsPower power) (hc : endsNumeral c) :
    EndsDigits (fraction ++ power ++ c :: rest) := by
  obtain rfl | ⟨digits, rfl, -⟩ := h
  · obtain rfl | ⟨sign, digits, rfl, -⟩ := hpower
    · exact endsDigits_of_endsNumeral hc
    · exact endsDigits_cons rfl (by decide)
  · exact endsDigits_cons rfl (by decide)

theorem takeFraction_cons (hc : c ≠ '.') :
    takeFraction (c :: tail) = takeExponent (c :: tail) := by
  rw [takeFraction]
  · exact fun _ _ h => hc (List.cons.inj h).1
  · exact fun h => hc (List.cons.inj h).1

theorem takeFraction_append {fraction power : List Char} (h : IsFraction fraction)
    (hpower : IsPower power) (hc : endsNumeral c) :
    takeFraction (fraction ++ power ++ c :: rest) = some ⟨fraction ++ power, c :: rest⟩ := by
  have hexponent : takeExponent (power ++ c :: rest) = some ⟨power, c :: rest⟩ :=
    takeExponent_append hpower hc
  obtain rfl | ⟨digits, rfl, hdigits⟩ := h
  · rw [List.nil_append, ← hexponent]
    obtain rfl | ⟨sign, digits, rfl, -⟩ := hpower
    · refine takeFraction_cons ?_
      obtain rfl | rfl | rfl | rfl | rfl := endsNumeral_iff.mp hc <;> decide
    · exact takeFraction_cons (by decide)
  · have hends : EndsDigits (power ++ c :: rest) :=
      endsDigits_fraction_append (.inl rfl) hpower hc
    have htake : takeDigits Char.isDigit (digits ++ (power ++ c :: rest)) =
        some ⟨digits, power ++ c :: rest⟩ := takeDigits_append hdigits hends
    rw [List.append_assoc, List.cons_append]
    cases digits with
    | nil => exact absurd rfl hdigits.1
    | cons digit digits =>
      have hdigit : digit.isDigit := hdigits.2 digit List.mem_cons_self
      rw [List.cons_append, takeFraction, if_pos hdigit, ← List.cons_append, htake]
      show (takeExponent (power ++ c :: rest)).map _ = _
      rw [hexponent]
      rfl

/-- A numeral is a decimal number up to the first character that cannot belong to it. -/
theorem decimalNumber?_append {whole fraction power : List Char} (hwhole : IsDigits whole)
    (h : IsFraction fraction) (hpower : IsPower power) (hc : endsNumeral c) :
    decimalNumber? (whole ++ fraction ++ power ++ c :: rest) =
      some ⟨whole ++ fraction ++ power, c :: rest, false⟩ := by
  have hends : EndsDigits (fraction ++ power ++ c :: rest) :=
    endsDigits_fraction_append h hpower hc
  have hbig : (fraction ++ power ++ c :: rest).head? ≠ some 'n' := fun hhead =>
    (hends 'n' hhead).2.2 rfl
  have htext : whole ++ fraction ++ power ++ c :: rest =
      whole ++ (fraction ++ power ++ c :: rest) := by simp
  rw [htext, decimalNumber?, takeDigits_append hwhole hends]
  show (if (fraction ++ power ++ c :: rest).head? = some 'n' then _ else _) = _
  rw [if_neg hbig, Split.withFraction, takeFraction_append h hpower hc]
  simp

theorem readNumber_cons (hc : c ≠ '0') (hpoint : c ≠ '.') :
    readNumber (c :: tail) = decimalNumber? (c :: tail) := by
  rw [readNumber]
  · exact fun _ _ h => hc (List.cons.inj h).1
  · exact fun _ h => hpoint (List.cons.inj h).1

/-- A zero that no digit follows starts a decimal number. -/
theorem readNumber_zero (hc : c = '.' ∨ c = 'e' ∨ endsNumeral c) :
    readNumber ('0' :: c :: tail) = decimalNumber? ('0' :: c :: tail) := by
  rw [endsNumeral_iff] at hc
  obtain rfl | rfl | rfl | rfl | rfl | rfl | rfl := hc <;> rfl

theorem scanNumber_append (h : IsNumeral digits) (hc : endsNumeral c) :
    scanNumber (digits ++ c :: rest) = some ⟨digits, c :: rest, false⟩ := by
  obtain ⟨whole, fraction, power, rfl, ⟨hdigits, hwhole⟩, hfraction, hpower⟩ := h
  have hread : readNumber (whole ++ fraction ++ power ++ c :: rest) =
      some ⟨whole ++ fraction ++ power, c :: rest, false⟩ := by
    rw [← decimalNumber?_append hdigits hfraction hpower hc]
    obtain rfl | hhead := hwhole
    · obtain rfl | ⟨digits, rfl, -⟩ := hfraction
      · obtain rfl | ⟨sign, digits, rfl, -⟩ := hpower
        · exact readNumber_zero (.inr (.inr hc))
        · exact readNumber_zero (.inr (.inl rfl))
      · exact readNumber_zero (.inl rfl)
    · cases whole with
      | nil => exact absurd rfl hdigits.1
      | cons digit whole =>
        have hdigit : digit.isDigit := hdigits.2 digit List.mem_cons_self
        exact readNumber_cons (by simpa using hhead) (ne_of_isDigit hdigit rfl)
  have hend : (isNameStart c || c.isDigit || c == '\\') = false := by
    obtain rfl | rfl | rfl | rfl | rfl := endsNumeral_iff.mp hc <;> rfl
  rw [scanNumber, hread]
  show (if (isNameStart c || c.isDigit || c == '\\') = true then none else _) = _
  rw [hend, if_neg Bool.false_ne_true]

theorem exists_digitChar (hc : c.isDigit) : ∃ n < 10, c = Nat.digitChar n := by
  have hrange : 48 ≤ c.toNat ∧ c.toNat ≤ 57 := Char.isDigit_iff_toNat.mp hc
  have hsmall : c.toNat - 48 < 10 := by omega
  refine ⟨c.toNat - 48, hsmall, Char.toNat_inj.mp ?_⟩
  rw [Nat.toNat_digitChar_of_lt_ten hsmall]
  omega

/-- Digits are no blanks and start no comments. -/
theorem skipTrivia_digit (hc : c.isDigit) (newline : Bool) :
    skipTrivia goal .blank (c :: tail) newline = .ok ⟨c :: tail, newline⟩ := by
  obtain ⟨n, hn, rfl⟩ := exists_digitChar hc
  interval_cases n <;> rfl

theorem not_isNameStart_digit (hc : c.isDigit) : ¬(isNameStart c = true ∨ c = '\\') := by
  obtain ⟨n, hn, rfl⟩ := exists_digitChar hc
  interval_cases n <;> decide

/-- **A numeral is read as a number**, on the same line or on another one. -/
theorem skipTrivia_bind_numeral (h : IsNumeral digits) (hc : endsNumeral c) (newline : Bool) :
    skipTrivia goal .blank (digits ++ c :: rest) newline >>= tokenAt =
      .ok (lexeme ⟨digits ++ c :: rest, newline⟩ .number (c :: rest) digits false) := by
  obtain ⟨digit, tail, rfl, hdigit⟩ := h.exists_cons
  have hnumber : scanNumber (digit :: (tail ++ c :: rest)) =
      some ⟨digit :: tail, c :: rest, false⟩ :=
    scanNumber_append h hc
  rw [List.cons_append, skipTrivia_digit hdigit]
  show tokenAt ⟨digit :: (tail ++ c :: rest), newline⟩ = _
  simp only [tokenAt, if_neg (not_isNameStart_digit hdigit), hdigit, true_or, if_true, hnumber]
  rfl

theorem scanToken_numeral (h : IsNumeral digits) (hc : endsNumeral c) :
    scanToken goal (digits ++ c :: rest) =
      .ok (lexeme ⟨digits ++ c :: rest, false⟩ .number (c :: rest) digits false) :=
  skipTrivia_bind_numeral h hc false

/-- A sign in front of a numeral is an operator. -/
theorem scanToken_minus (hc : c.isDigit) :
    scanToken goal ('-' :: c :: rest) =
      .ok (lexeme ⟨'-' :: c :: rest, false⟩ (.punct (.operator .subtract)) (c :: rest) []
        false) := by
  obtain ⟨n, hn, rfl⟩ := exists_digitChar hc
  interval_cases n <;> rfl

end ModuleBundler.Script
