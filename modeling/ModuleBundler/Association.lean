/-!
# Associations

An association is a list of values under keys. A key keeps the place where it was first used.

## Main definitions

* `Association.put` — an association with another value under a key.

## Main results

* `Association.lookup_put_self`, `Association.lookup_put_of_ne` — what is found afterwards.
-/

namespace ModuleBundler.Association

variable {κ α : Type} [DecidableEq κ]

/-- An association with another value under a key, in place of the value that was there. -/
def put (key : κ) (value : α) : List (κ × α) → List (κ × α)
  | [] => [(key, value)]
  | entry :: entries =>
    if entry.1 = key then (key, value) :: entries else entry :: put key value entries

@[simp] theorem lookup_put_self (key : κ) (value : α) (entries : List (κ × α)) :
    (put key value entries).lookup key = some value := by
  induction entries with
  | nil => simp [put]
  | cons entry entries ih =>
    obtain ⟨first, old⟩ := entry
    by_cases h : first = key
    · simp [put, h]
    · simp [put, h, List.lookup_cons, beq_false_of_ne (Ne.symm h), ih]

theorem lookup_put_of_ne {key other : κ} (h : other ≠ key) (value : α) (entries : List (κ × α)) :
    (put key value entries).lookup other = entries.lookup other := by
  induction entries with
  | nil => simp [put, List.lookup_cons, beq_false_of_ne h]
  | cons entry entries ih =>
    obtain ⟨first, old⟩ := entry
    by_cases hk : first = key
    · simp [put, hk, List.lookup_cons, beq_false_of_ne h]
    · simp [put, hk, List.lookup_cons, ih]

end ModuleBundler.Association
