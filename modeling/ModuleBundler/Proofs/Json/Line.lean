import ModuleBundler.Proofs.Json.Literal
import ModuleBundler.Proofs.Text.Quoted

/-!
# Values on one line

A value that is printed without blanks holds no control characters, whatever texts are in it, so it
stands on one line.

## Main definitions

* `Json.IsLine` — there are no control characters in a text.

## Main results

* `Json.isLine_compact` — a value that is printed on one line stands on one line.
-/

namespace ModuleBundler.Json

open Text

variable {c : Char} {cs rest digits : List Char}

/-- There are no control characters in the text, so it stands on one line. -/
def IsLine (text : List Char) : Prop :=
  ∀ c ∈ text, 0x20 ≤ c.toNat

instance (text : List Char) : Decidable (IsLine text) :=
  decidable_of_iff (text.all fun c => 0x20 ≤ c.toNat) (by simp [IsLine])

theorem isLine_cons : IsLine (c :: cs) ↔ 0x20 ≤ c.toNat ∧ IsLine cs :=
  List.forall_mem_cons

theorem isLine_append : IsLine (cs ++ rest) ↔ IsLine cs ∧ IsLine rest :=
  List.forall_mem_append

theorem isLine_encode (chars : List Char) : IsLine (Quoted.encode chars) :=
  fun _ => Quoted.toNat_ge_of_mem_encode

theorem isLine_of_isDigit (h : ∀ c ∈ digits, c.isDigit) : IsLine digits := by
  intro c hc
  have hrange : 0x30 ≤ c.toNat ∧ c.toNat ≤ 0x39 := Char.isDigit_iff_toNat.mp (h c hc)
  omega

theorem isLine_of_isNumeral (h : IsNumeral digits) : IsLine digits := by
  obtain ⟨whole, fraction, power, rfl, ⟨hwhole, -⟩, hfraction, hpower⟩ := h
  refine isLine_append.mpr ⟨isLine_append.mpr ⟨isLine_of_isDigit hwhole.2, ?_⟩, ?_⟩
  · obtain rfl | ⟨digits, rfl, hdigits⟩ := hfraction
    · nofun
    · exact isLine_cons.mpr ⟨by decide, isLine_of_isDigit hdigits.2⟩
  · obtain rfl | ⟨sign, digits, rfl, hsign, hdigits⟩ := hpower
    · nofun
    · have hline : 0x20 ≤ sign.toNat := by obtain rfl | rfl := hsign <;> decide
      exact isLine_cons.mpr ⟨by decide, isLine_cons.mpr ⟨hline, isLine_of_isDigit hdigits.2⟩⟩

theorem isLine_joined {close : Char} (hclose : 0x20 ≤ close.toNat) {parts : List (List Char)}
    (hparts : ∀ part ∈ parts, IsLine part) : IsLine (joined close parts) := by
  induction parts with
  | nil => exact isLine_cons.mpr ⟨hclose, nofun⟩
  | cons part parts ih =>
    obtain ⟨hpart, hparts⟩ := List.forall_mem_cons.mp hparts
    cases parts with
    | nil => exact isLine_append.mpr ⟨hpart, ih hparts⟩
    | cons second parts =>
      exact isLine_append.mpr ⟨hpart, isLine_cons.mpr ⟨by decide, ih hparts⟩⟩

mutual

/-- **A value that is printed on one line stands on one line.** -/
theorem isLine_compact : (value : Json) → IsLine value.compact
  | null | boolean true | boolean false => by decide
  | integer (.ofNat n) => isLine_of_isDigit (isDigits_toDigits n).2
  | integer (.negSucc n) => isLine_cons.mpr ⟨by decide, isLine_of_isDigit (isDigits_toDigits _).2⟩
  | decimal false size => isLine_of_isNumeral (Decimal.isNumeral_shortest size)
  | decimal true size =>
    isLine_cons.mpr ⟨by decide, isLine_of_isNumeral (Decimal.isNumeral_shortest size)⟩
  | text chars => isLine_encode chars
  | array items => by
    rw [compact, compactItems_eq]
    exact isLine_cons.mpr ⟨by decide, isLine_joined (by decide)
      (List.forall_mem_map.mpr (isLine_compact_items items))⟩
  | object members => by
    rw [compact, compactMembers_eq]
    refine isLine_cons.mpr ⟨by decide, isLine_joined (by decide) (List.forall_mem_map.mpr ?_)⟩
    exact fun member hmem => isLine_append.mpr ⟨isLine_encode member.1,
      isLine_cons.mpr ⟨by decide, isLine_compact_members members member hmem⟩⟩

theorem isLine_compact_items : (items : List Json) → ∀ item ∈ items, IsLine item.compact
  | [] => nofun
  | item :: items =>
    List.forall_mem_cons.mpr ⟨isLine_compact item, isLine_compact_items items⟩

theorem isLine_compact_members :
    (members : List (List Char × Json)) → ∀ member ∈ members, IsLine member.2.compact
  | [] => nofun
  | (_, value) :: members =>
    List.forall_mem_cons.mpr ⟨isLine_compact value, isLine_compact_members members⟩

end

end ModuleBundler.Json
