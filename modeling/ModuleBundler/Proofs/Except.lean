/-!
# Successes and failures

What follows a failure is this failure, and what follows a success goes on with its value.

## Main results

* `Except.bind_eq_ok_iff`, `Except.map_eq_ok_iff` — when a sequence succeeds.
-/

namespace ModuleBundler

variable {ε α β : Type} {first : Except ε α} {a : α} {b : β} {failure : ε}

theorem Except.bind_eq_ok_iff {next : α → Except ε β} :
    (first >>= next) = .ok b ↔ ∃ a, first = .ok a ∧ next a = .ok b := by
  cases first <;> simp [bind, Except.bind]

theorem Except.bind_eq_of_eq_ok {next : α → Except ε β} (h : first = .ok a) :
    (first >>= next) = next a := by
  rw [h]
  rfl

theorem Except.map_eq_ok_iff {f : α → β} : first.map f = .ok b ↔ ∃ a, first = .ok a ∧ f a = b := by
  cases first <;> simp [Except.map]

theorem Except.map_eq_error_iff {f : α → β} :
    first.map f = .error failure ↔ first = .error failure := by
  cases first <;> simp [Except.map]

theorem Except.toOption_eq_some_iff : first.toOption = some a ↔ first = .ok a := by
  cases first <;> simp [Except.toOption]

end ModuleBundler
