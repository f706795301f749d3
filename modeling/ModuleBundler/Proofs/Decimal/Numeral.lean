import Mathlib.Data.List.Basic
import ModuleBundler.Decimal.Shortest

/-!
# What decimals are written like

A decimal is written as a *numeral*: a whole number without superfluous zeros, perhaps a fraction,
perhaps a power of ten with its sign. The shortest decimal of a binary number has this form, since
its first digit is zero for the number zero only.

## Main definitions

* `IsDigits`, `IsWhole`, `IsNumeral` — digits, whole numbers and numerals.

## Main results

* `Decimal.isNumeral_text` — a decimal whose first digit is no superfluous zero is written as a
  numeral.
* `Decimal.isNumeral_shortest` — this holds for shortest decimals.
-/

namespace ModuleBundler

/-- The text consists of digits, at least one. -/
def IsDigits (chars : List Char) : Prop :=
  chars ≠ [] ∧ ∀ c ∈ chars, c.isDigit

/-- The text writes a whole number without superfluous zeros in front. -/
def IsWhole (chars : List Char) : Prop :=
  IsDigits chars ∧ (chars = ['0'] ∨ chars.head? ≠ some '0')

/-- The text is empty or a point with digits behind it. -/
def IsFraction (chars : List Char) : Prop :=
  chars = [] ∨ ∃ digits, chars = '.' :: digits ∧ IsDigits digits

/-- The text is empty or writes a power of ten. -/
def IsPower (chars : List Char) : Prop :=
  chars = [] ∨ ∃ sign digits, chars = 'e' :: sign :: digits ∧ (sign = '+' ∨ sign = '-') ∧
    IsDigits digits

/-- The text writes a number without a sign. -/
def IsNumeral (chars : List Char) : Prop :=
  ∃ whole fraction power, chars = whole ++ fraction ++ power ∧ IsWhole whole ∧
    IsFraction fraction ∧ IsPower power

/-! ### Digits of whole numbers -/

theorem IsDigits.cons {c : Char} {chars : List Char} (h : c.isDigit)
    (hchars : ∀ d ∈ chars, d.isDigit) : IsDigits (c :: chars) :=
  ⟨List.cons_ne_nil c chars, List.forall_mem_cons.mpr ⟨h, hchars⟩⟩

theorem isDigits_toDigits (n : Nat) : IsDigits (Nat.toDigits 10 n) :=
  ⟨Nat.toDigits_ne_nil, fun _ hmem => Nat.isDigit_of_mem_toDigits (by decide) (by decide) hmem⟩

theorem isDigits_singleton_zero : IsDigits ['0'] :=
  ⟨List.cons_ne_nil _ _, List.forall_mem_singleton.mpr rfl⟩

/-- The first digit of a number other than zero is not zero. -/
theorem head?_toDigits_ne {n : Nat} (h : n ≠ 0) : (Nat.toDigits 10 n).head? ≠ some '0' := by
  induction n using Nat.strongRecOn with
  | ind n ih =>
    by_cases hsmall : n < 10
    · rw [Nat.toDigits_of_lt_base hsmall]
      intro hzero
      exact h (Nat.digitChar_eq_zero.mp (Option.some.inj hzero))
    · have hfront : Nat.toDigits 10 n = Nat.toDigits 10 (n / 10) ++ Nat.toDigits 10 (n % 10) := by
        rw [Nat.toDigits_append_toDigits (by decide) (by omega) (by omega), Nat.div_add_mod]
      have hhead : (Nat.toDigits 10 n).head? = (Nat.toDigits 10 (n / 10)).head? := by
        rw [hfront]
        exact List.head?_append_of_ne_nil _ Nat.toDigits_ne_nil
      rw [hhead]
      exact ih (n / 10) (by omega) (by omega)

theorem isWhole_toDigits (n : Nat) : IsWhole (Nat.toDigits 10 n) := by
  refine ⟨isDigits_toDigits n, ?_⟩
  by_cases h : n = 0
  · exact .inl (by rw [h, Nat.toDigits_zero])
  · exact .inr (head?_toDigits_ne h)

theorem IsWhole.isNumeral {chars : List Char} (h : IsWhole chars) : IsNumeral chars :=
  ⟨chars, [], [], by simp, h, .inl rfl, .inl rfl⟩

/-- A numeral starts with a digit. -/
theorem IsNumeral.exists_cons {chars : List Char} (h : IsNumeral chars) :
    ∃ digit tail, chars = digit :: tail ∧ digit.isDigit := by
  obtain ⟨whole, fraction, power, rfl, ⟨hdigits, -⟩, -⟩ := h
  cases whole with
  | nil => exact absurd rfl hdigits.1
  | cons digit whole => exact ⟨digit, _, rfl, hdigits.2 digit List.mem_cons_self⟩

namespace Decimal

/-! ### Decimals -/

theorem isPower_signed (n : Int) : IsPower ('e' :: signed n) := by
  refine .inr ⟨_, _, rfl, ?_, isDigits_toDigits n.natAbs⟩
  split
  · exact .inr rfl
  · exact .inl rfl

/-- Zeros and digits behind them are digits. -/
theorem isDigits_replicate_append {n : Nat} {digits : List Char} (h : IsDigits digits) :
    IsDigits (List.replicate n '0' ++ digits) := by
  refine ⟨by simp [h.1], fun c hmem => ?_⟩
  obtain hzero | hdigit := List.mem_append.mp hmem
  · rw [List.eq_of_mem_replicate hzero]
    decide
  · exact h.2 c hdigit

/-- Behind its first digits a number goes on with digits, perhaps a single zero. -/
theorem isFraction_drop {n : Nat} {digits : List Char} (h : IsDigits digits) :
    IsFraction ('.' :: if digits.drop n = [] then ['0'] else digits.drop n) := by
  refine .inr ⟨_, rfl, ?_⟩
  split
  · exact isDigits_singleton_zero
  · next hne => exact ⟨hne, fun c hmem => h.2 c (List.mem_of_mem_drop hmem)⟩

theorem isNumeral_pointed {n : Nat} {digits : List Char} (h : IsWhole digits)
    (hzero : digits = ['0'] → n = 0) : IsNumeral (pointed (n + 1) digits) := by
  have hdigits : IsDigits digits := h.1
  refine ⟨digits.take (n + 1) ++ List.replicate (n + 1 - digits.length) '0',
    '.' :: if digits.drop (n + 1) = [] then ['0'] else digits.drop (n + 1), [], ?_, ⟨⟨?_, ?_⟩, ?_⟩,
    isFraction_drop hdigits, .inl rfl⟩
  · simp [pointed]
  · have hne := hdigits.1
    simp [hne]
  · intro c hmem
    obtain hdigit | hzero := List.mem_append.mp hmem
    · exact hdigits.2 c (List.mem_of_mem_take hdigit)
    · rw [List.eq_of_mem_replicate hzero]
      decide
  · obtain rfl | hhead := h.2
    · exact .inl (by rw [hzero rfl]; rfl)
    · refine .inr ?_
      cases digits with
      | nil => exact absurd rfl hdigits.1
      | cons digit digits => simpa using hhead

/-- A digit, perhaps with a point and digits behind it, in front of a power of ten. -/
theorem isNumeral_scientific {digit : Char} {digits : List Char} (n : Int)
    (h : IsDigits (digit :: digits)) :
    IsNumeral ((match (digit :: digits) with
      | [] => []
      | [digit] => [digit]
      | digit :: fraction => digit :: '.' :: fraction) ++ 'e' :: signed n) := by
  have hdigit : IsDigits [digit] := .cons (h.2 digit List.mem_cons_self) (by simp)
  have hwhole : IsWhole [digit] := by
    refine ⟨hdigit, ?_⟩
    by_cases hzero : digit = '0'
    · exact .inl (by rw [hzero])
    · exact .inr (by simpa using hzero)
  cases digits with
  | nil => exact ⟨[digit], [], 'e' :: signed n, by simp, hwhole, .inl rfl, isPower_signed n⟩
  | cons second digits =>
    have hfraction : IsDigits (second :: digits) :=
      ⟨List.cons_ne_nil _ _, fun c hmem => h.2 c (List.mem_cons_of_mem _ hmem)⟩
    exact ⟨[digit], '.' :: second :: digits, 'e' :: signed n, by simp, hwhole,
      .inr ⟨_, rfl, hfraction⟩, isPower_signed n⟩

/-- A decimal is written as a numeral, unless it is zero times a power of ten. -/
theorem isNumeral_text {decimal : Decimal} (h : decimal.digits = 0 → decimal.exponent = 0) :
    IsNumeral decimal.text := by
  have hdigits : IsDigits (Nat.toDigits 10 decimal.digits) := isDigits_toDigits _
  unfold text
  simp only
  split
  · split
    · -- The decimal is below one and has all digits behind the point.
      exact ⟨['0'], _, [], (List.append_nil _).symm, ⟨isDigits_singleton_zero, .inl rfl⟩,
        .inr ⟨_, rfl, isDigits_replicate_append hdigits⟩, .inl rfl⟩
    · next hleading =>
      obtain ⟨n, hn⟩ := Int.eq_ofNat_of_zero_le (Int.not_lt.mp hleading)
      rw [hn]
      refine isNumeral_pointed (isWhole_toDigits decimal.digits) fun hzero => ?_
      have hnone : decimal.digits = 0 := by
        by_contra hne
        exact head?_toDigits_ne hne (by rw [hzero]; rfl)
      have hexponent := h hnone
      rw [hexponent, hzero] at hn
      simp at hn
      omega
  · cases hcases : Nat.toDigits 10 decimal.digits with
    | nil => exact absurd hcases hdigits.1
    | cons digit digits => exact isNumeral_scientific _ (hcases ▸ hdigits)

/-! ### Shortest decimals -/

theorem Neighbourhood.contains_of_nearest?_eq_some {around : Neighbourhood} {count : Nat}
    (h : around.nearest? = some count) : around.contains count := by
  simp only [nearest?] at h
  split at h
  · contradiction
  · next hbelow _ => rwa [← Option.some.inj h]
  · next _ habove => rwa [← Option.some.inj h]
  · next hbelow habove =>
    rw [← Option.some.inj h]
    split
    · exact hbelow
    · exact habove

/-- Zero lies in no neighbourhood of another number. -/
theorem Neighbourhood.ne_zero_of_contains {around : Neighbourhood} {count : Nat}
    (hlow : 0 < around.low) (h : around.contains count) : count ≠ 0 := by
  rintro rfl
  simp only [contains, Nat.zero_mul] at h
  split at h
  · simp at h
    omega
  · simp at h

theorem Neighbourhood.low_onGrid_pos {around : Neighbourhood} (hlow : 0 < around.low)
    (exponent : Int) : 0 < (around.onGrid exponent).low := by
  cases exponent with
  | ofNat n => exact hlow
  | negSucc n => exact Nat.mul_pos hlow (Nat.pow_pos (by decide))

theorem low_neighbourhood_pos {number : Binary} (h : number.mantissa ≠ 0) :
    0 < (neighbourhood number).low := by
  obtain ⟨mantissa, exponent⟩ := number
  replace h : mantissa ≠ 0 := h
  cases exponent with
  | ofNat n =>
    refine Nat.mul_pos ?_ (Nat.pow_pos (by decide))
    dsimp only
    split <;> omega
  | negSucc n =>
    refine Nat.mul_pos ?_ Nat.one_pos
    dsimp only
    split <;> omega

theorem exponent_search {around : Neighbourhood} (hlow : 0 < around.low) (fuel : Nat)
    (exponent : Int) : (search around fuel exponent).digits = 0 →
      (search around fuel exponent).exponent = 0 := by
  induction fuel generalizing exponent with
  | zero => exact fun _ => rfl
  | succ fuel ih =>
    unfold search
    split
    · next digits hnearest =>
      intro hzero
      exact absurd hzero (Neighbourhood.ne_zero_of_contains
        (Neighbourhood.low_onGrid_pos hlow exponent)
        (Neighbourhood.contains_of_nearest?_eq_some hnearest))
    · exact ih (exponent - 1)

/-- The shortest decimal of a number is written as a numeral. -/
theorem isNumeral_shortest (number : Binary) : IsNumeral (shortest number).text := by
  refine isNumeral_text ?_
  unfold shortest
  split
  · exact fun _ => rfl
  · next hmantissa => exact exponent_search (low_neighbourhood_pos hmantissa) 700 309

end Decimal

end ModuleBundler
