import Mathlib.Data.List.Nodup
import Mathlib.Tactic.SplitIfs
import ModuleBundler.Association

/-!
# Keys of associations

A key that is used for the first time goes to the end of an association, so no key is there twice.

## Main results

* `Association.map_fst_put` — the keys of an association with another value under a key.
* `Association.put_of_notMem` — the association with a value under a new key.
* `Association.nodup_map_fst_put` — no key is there twice.
-/

namespace ModuleBundler.Association

variable {κ α : Type} [DecidableEq κ]

/-- A key that is there keeps its place, and another one goes to the end. -/
theorem map_fst_put (key : κ) (value : α) (entries : List (κ × α)) :
    (put key value entries).map Prod.fst =
      if key ∈ entries.map Prod.fst then entries.map Prod.fst
      else entries.map Prod.fst ++ [key] := by
  induction entries with
  | nil => simp [put]
  | cons entry entries ih =>
    by_cases hkey : entry.1 = key
    · simp [put, hkey]
    · have hne : ¬ key = entry.1 := fun h => hkey h.symm
      rw [put, if_neg hkey, List.map_cons, ih]
      by_cases hmem : key ∈ entries.map Prod.fst <;> simp [hne, hmem]

/-- What is under the keys afterwards is the new value or was there before. -/
theorem mem_put {key : κ} {value : α} {entries : List (κ × α)} {entry : κ × α}
    (h : entry ∈ put key value entries) : entry = (key, value) ∨ entry ∈ entries := by
  induction entries with
  | nil => exact .inl (List.mem_singleton.mp h)
  | cons first entries ih =>
    rw [put] at h
    split_ifs at h with hkey
    · rcases List.mem_cons.mp h with rfl | h
      · exact .inl rfl
      · exact .inr (List.mem_cons_of_mem _ h)
    · rcases List.mem_cons.mp h with rfl | h
      · exact .inr List.mem_cons_self
      · exact (ih h).imp_right (List.mem_cons_of_mem _)

theorem put_of_notMem {key : κ} {entries : List (κ × α)} (h : key ∉ entries.map Prod.fst)
    (value : α) : put key value entries = entries ++ [(key, value)] := by
  induction entries with
  | nil => rfl
  | cons entry entries ih =>
    rw [List.map_cons, List.mem_cons, not_or] at h
    rw [put, if_neg (Ne.symm h.1), ih h.2, List.cons_append]

theorem nodup_map_fst_put {entries : List (κ × α)} (h : (entries.map Prod.fst).Nodup) (key : κ)
    (value : α) : ((put key value entries).map Prod.fst).Nodup := by
  rw [map_fst_put]
  split_ifs with hmem
  · exact h
  · refine List.nodup_append.mpr ⟨h, List.nodup_singleton key, ?_⟩
    rintro first hfirst last hlast rfl
    exact hmem (List.mem_singleton.mp hlast ▸ hfirst)

end ModuleBundler.Association
