import Mathlib.Control.Monad.Basic
import ModuleBundler.Linking.Analysis

/-!
# Successful analyses

An analysis succeeds when the source is a module without phased imports and the linked code is the
body of a function, as far as a script may tell. What it gives is made from the items alone.

## Main definitions

* `Links` — the items of a source and their linked code, as an analysis gives it.

## Main results

* `analyzeChars_eq_ok_iff` — an analysis succeeds exactly for items that link.
-/

namespace ModuleBundler.Linking

open Script

/-- The source consists of the items, which link to the specifiers and the code. -/
structure Links (source : List Char) (items : List Item) (specifiers : List Name)
    (code : List Char) : Prop where
  parsed : parseModule source = .ok items
  unphased : phasedImport? items = none
  specifiers_eq : specifiers = (groups 0 items).specifiers
  code_eq : code = linkedCode source (groups 0 items)
  accepted : ∃ nodes, parseScript (factory code) = .ok nodes

variable {source code : List Char} {specifiers : List Name}

/-- An analysis succeeds exactly for items that link. -/
theorem analyzeChars_eq_ok_iff :
    analyzeChars source = .ok (specifiers, code) ↔ ∃ items, Links source items specifiers code := by
  constructor
  · intro h
    unfold analyzeChars at h
    cases hparsed : parseModule source with
    | error error => simp [hparsed, Except.mapError, bind, Except.bind] at h
    | ok items =>
      cases hphase : phasedImport? items with
      | some position =>
        simp [hparsed, hphase, Except.mapError, bind, Except.bind, throw, throwThe,
          MonadExceptOf.throw] at h
      | none =>
        cases hscript : parseScript (factory (linkedCode source (groups 0 items))) with
        | error error =>
          simp [hparsed, hphase, hscript, Except.mapError, bind, Except.bind] at h
        | ok nodes =>
          simp only [hparsed, hphase, hscript, Except.mapError, bind, Except.bind, pure, Except.pure,
            Except.ok.injEq, Prod.mk.injEq] at h
          obtain ⟨rfl, rfl⟩ := h
          exact ⟨items, hparsed, hphase, rfl, rfl, nodes, hscript⟩
  · rintro ⟨items, hparsed, hphase, rfl, rfl, nodes, hscript⟩
    simp only [analyzeChars, hparsed, hphase, hscript, Except.mapError, bind, Except.bind, pure,
      Except.pure]

theorem exists_eq_ok_of_isOk {ε α : Type} {attempt : Except ε α} (h : attempt.isOk) :
    ∃ result, attempt = .ok result := by
  cases attempt with
  | error _ => contradiction
  | ok result => exact ⟨result, rfl⟩

end ModuleBundler.Linking
