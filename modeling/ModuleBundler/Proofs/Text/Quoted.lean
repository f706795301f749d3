import Mathlib.Tactic.SplitIfs
import ModuleBundler.Text.Quoted

/-!
# Reading quoted strings

A quoted text is read as this text, whatever characters are in it and whatever follows the closing
quote. An escape of four digits may be one half of a pair; those of control characters never are.

## Main results

* `Text.Quoted.decode?_encode` — a quoted text is read as this text.
* `Text.Quoted.toNat_ge_of_mem_encode` — there are no control characters in it.
-/

namespace ModuleBundler.Text

theorem fourHexDigits_of_control : ∀ n < 0x20, hexNumber (fourHexDigits n) = n ∧
    (fourHexDigits n).all isHexDigit ∧ (fourHexDigits n).head? = some '0' := by
  decide

namespace Quoted

variable {c : Char} {text tail rest : List Char}

/-- The four digits of a control character are read as its number. -/
theorem exists_fourDigits? {n : Nat} (h : n < 0x20) :
    ∃ p q r s, fourHexDigits n = [p, q, r, s] ∧ fourDigits? p q r s = some n := by
  obtain ⟨hnumber, hdigits, -⟩ := fourHexDigits_of_control n h
  exact ⟨_, _, _, _, rfl, (if_pos hdigits).trans (congrArg some hnumber)⟩

/-- Inside quotes a character is escaped by another one, by its number, or not at all. -/
theorem escape_cases (c : Char) :
    (∃ d, escape c = ['\\', d] ∧ unescape? d = some c ∧ d ≠ 'u' ∧ 0x20 ≤ d.toNat) ∨
      (c.toNat < 0x20 ∧ escape c = '\\' :: 'u' :: fourHexDigits c.toNat) ∨
      (escape c = [c] ∧ c ≠ '"' ∧ c ≠ '\\' ∧ 0x20 ≤ c.toNat) := by
  have hchar {n : Nat} (h : c.toNat = n) : Char.ofNat n = c := by rw [← h, Char.ofNat_toNat]
  unfold escape
  split_ifs with hmark hslash h8 h12 hline hreturn htab hcontrol
  · exact .inl ⟨'"', rfl, congrArg some hmark.symm, by decide⟩
  · exact .inl ⟨'\\', rfl, congrArg some hslash.symm, by decide⟩
  · exact .inl ⟨'b', rfl, congrArg some (hchar h8), by decide⟩
  · exact .inl ⟨'f', rfl, congrArg some (hchar h12), by decide⟩
  · exact .inl ⟨'n', rfl, congrArg some hline.symm, by decide⟩
  · exact .inl ⟨'r', rfl, congrArg some hreturn.symm, by decide⟩
  · exact .inl ⟨'t', rfl, congrArg some htab.symm, by decide⟩
  · exact .inr (.inl ⟨hcontrol, rfl⟩)
  · exact .inr (.inr ⟨rfl, hmark, hslash, Nat.not_lt.mp hcontrol⟩)

/-- If an escape of four digits stands at the start of a text, they are digits. -/
def Followable (tail : List Char) : Prop :=
  ∀ p q r s rest, tail = '\\' :: 'u' :: p :: q :: r :: s :: rest → ∃ n, fourDigits? p q r s = some n

theorem followable_quote (rest : List Char) : Followable ('"' :: rest) := by
  intro p q r s _ h
  cases h

theorem followable_escape (c : Char) (tail : List Char) : Followable (escape c ++ tail) := by
  intro p q r s rest h
  obtain ⟨d, hescape, -, hd, -⟩ | ⟨hcontrol, hescape⟩ | ⟨hescape, -, hc, -⟩ := escape_cases c
  · rw [hescape] at h
    exact absurd (List.cons.inj (List.cons.inj h).2).1 hd
  · obtain ⟨p', q', r', s', hdigits, hnumber⟩ := exists_fourDigits? hcontrol
    rw [hescape, hdigits] at h
    cases h
    exact ⟨_, hnumber⟩
  · rw [hescape] at h
    exact absurd (List.cons.inj h).1 hc

/-- The escape of a control character is read as this character. -/
theorem decodeTail?_control (h : c.toNat < 0x20) (htail : Followable tail) :
    decodeTail? ('\\' :: 'u' :: (fourHexDigits c.toNat ++ tail)) = follow c (decodeTail? tail) := by
  have hhigh : ¬isHighSurrogate c.toNat := by simp [isHighSurrogate]; omega
  have hlow : ¬isLowSurrogate c.toNat := by simp [isLowSurrogate]; omega
  obtain ⟨p, q, r, s, hdigits, hnumber⟩ := exists_fourDigits? h
  rw [hdigits]
  by_cases hpair : ∃ p q r s rest, tail = '\\' :: 'u' :: p :: q :: r :: s :: rest
  · obtain ⟨p', q', r', s', rest, rfl⟩ := hpair
    obtain ⟨other, hother⟩ := htail _ _ _ _ _ rfl
    show decodeTail? ('\\' :: 'u' :: p :: q :: r :: s :: '\\' :: 'u' :: _) = _
    rw [decodeTail?, hnumber, hother]
    simp only [if_neg hhigh, if_neg hlow, Char.ofNat_toNat]
  · show decodeTail? ('\\' :: 'u' :: p :: q :: r :: s :: tail) = _
    rw [decodeTail?, hnumber]
    · have hnone : ¬isSurrogate c.toNat := by simp [isSurrogate, hhigh, hlow]
      simp only [if_neg hnone, Char.ofNat_toNat]
    · exact fun p q r s rest heq => hpair ⟨p, q, r, s, rest, heq⟩

/-- The form of a character inside quotes is read as this character. -/
theorem decodeTail?_escape (htail : Followable tail) :
    decodeTail? (escape c ++ tail) = follow c (decodeTail? tail) := by
  obtain ⟨d, hescape, hunescape, hd, -⟩ | ⟨hcontrol, hescape⟩ | ⟨hescape, hmark, hslash, hplain⟩ :=
    escape_cases c
  · rw [hescape]
    show decodeTail? ('\\' :: d :: tail) = _
    rw [decodeTail?, hunescape]
    all_goals simp [hd]
  · rw [hescape]
    exact decodeTail?_control hcontrol htail
  · rw [hescape]
    show decodeTail? (c :: tail) = _
    rw [decodeTail?, if_neg (not_or.mpr ⟨Nat.not_lt.mpr hplain, hslash⟩)]
    all_goals simp [hmark, hslash]

theorem followable_flatMap_escape (text rest : List Char) :
    Followable (text.flatMap escape ++ '"' :: rest) := by
  cases text with
  | nil => exact followable_quote rest
  | cons c text =>
    rw [List.flatMap_cons, List.append_assoc]
    exact followable_escape c _

theorem decodeTail?_flatMap_escape (text rest : List Char) :
    decodeTail? (text.flatMap escape ++ '"' :: rest) = some (text, rest) := by
  induction text with
  | nil => rfl
  | cons c text ih =>
    rw [List.flatMap_cons, List.append_assoc,
      decodeTail?_escape (followable_flatMap_escape text rest), ih]
    rfl

theorem encode_append (text rest : List Char) :
    encode text ++ rest = '"' :: (text.flatMap escape ++ '"' :: rest) := by
  simp [encode]

/-- **A quoted text is read as this text.** -/
theorem decode?_encode (text rest : List Char) :
    decode? (encode text ++ rest) = some (text, rest) := by
  rw [encode_append]
  exact decodeTail?_flatMap_escape text rest

/-- Escapes are written without control characters. -/
theorem toNat_ge_of_mem_escape {d : Char} (h : d ∈ escape c) : 0x20 ≤ d.toNat := by
  obtain ⟨e, hescape, -, -, he⟩ | ⟨hcontrol, hescape⟩ | ⟨hescape, -, -, hc⟩ := escape_cases c
  · rw [hescape] at h
    simp only [List.mem_cons, List.not_mem_nil, or_false] at h
    obtain rfl | rfl := h
    · decide
    · exact he
  · have hdigits : ∀ n < 0x20, (fourHexDigits n).all (0x20 ≤ ·.toNat) := by decide
    rw [hescape, List.mem_cons, List.mem_cons] at h
    obtain rfl | rfl | h := h
    · decide
    · decide
    · exact of_decide_eq_true (List.all_eq_true.mp (hdigits _ hcontrol) d h)
  · rw [hescape] at h
    exact List.mem_singleton.mp h ▸ hc

/-- A quoted text is written without control characters, so it stands on one line. -/
theorem toNat_ge_of_mem_encode {d : Char} (h : d ∈ encode text) : 0x20 ≤ d.toNat := by
  rw [encode, List.cons_append, List.mem_cons, List.mem_append, List.mem_flatMap,
    List.mem_singleton] at h
  obtain rfl | ⟨c, -, hd⟩ | rfl := h
  · decide
  · exact toNat_ge_of_mem_escape hd
  · decide

end Quoted

end ModuleBundler.Text
