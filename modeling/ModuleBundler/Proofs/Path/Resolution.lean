import ModuleBundler.Asset
import ModuleBundler.Proofs.Path.Canonical

/-!
# Resolving specifiers

The path that a specifier in a file refers to is canonical, and it is absolute if the path of the
file is: what stands before a specifier is an absolute directory, which is joined or replaced.

## Main results

* `Path.isAbsolute_directory` — the directory of a file with an absolute path is absolute.
* `Path.isCanonical_resolve`, `Path.isAbsolute_resolve` — what a specifier refers to.
-/

namespace ModuleBundler.Path

theorem isAbsolute_iff_exists_chars {path : Path} :
    path.isAbsolute = true ↔ ∃ cs, path.chars = '/' :: cs := by
  simp [isAbsolute, List.head?_eq_some_iff]

theorem le_of_mem_locate {offset stop : Nat} {component : Component} {ps : List (List Char)}
    (h : (component, stop) ∈ locate offset ps) : offset ≤ stop := by
  induction ps generalizing offset with
  | nil => exact absurd h List.not_mem_nil
  | cons piece rest ih =>
    rcases List.mem_append.mp h with h | h
    · obtain ⟨_, -, hc⟩ := List.mem_map.mp h
      have := (Prod.mk.inj hc).2
      omega
    · have := ih h
      omega

/-- The parent of an absolute path is absolute. -/
theorem isAbsolute_parent? {path parent : Path} (h : path.isAbsolute)
    (hp : path.parent? = some parent) : parent.isAbsolute := by
  obtain ⟨cs, hcs⟩ := isAbsolute_iff_exists_chars.mp h
  have hlocated : path.located = (.root, 1) :: locate 1 (pieces cs) := by simp [located, hcs]
  unfold parent? at hp
  split at hp
  next => cases hp
  next => cases hp
  next link hroot hone =>
    -- the only component of an absolute path is the root, which has no parent
    have hlink := congrArg List.reverse hone
    rw [List.reverse_reverse, hlocated, List.reverse_singleton, List.cons.injEq] at hlink
    obtain ⟨component, stop⟩ := link
    obtain ⟨rfl, rfl⟩ := Prod.mk.inj hlink.1
    exact (hroot _ rfl).elim
  next component stop _ _ hmore =>
    cases hp
    have hmem : (component, stop) ∈ path.located := by
      rw [← List.mem_reverse, hmore]
      simp
    have hstop : 1 ≤ stop := by
      rw [hlocated, List.mem_cons] at hmem
      rcases hmem with hmem | hmem
      · exact (Prod.mk.inj hmem).2 ▸ Nat.le_refl _
      · exact le_of_mem_locate hmem
    obtain ⟨n, rfl⟩ := Nat.exists_eq_add_of_le' hstop
    simp [isAbsolute, hcs]

/-- The directory of a file with an absolute path is absolute. -/
theorem isAbsolute_directory {path : Path} (h : path.isAbsolute) : path.directory.isAbsolute := by
  unfold directory
  cases hp : path.parent? with
  | none => rfl
  | some parent => exact isAbsolute_parent? h hp

theorem isAbsolute_join {first : Path} (h : first.isAbsolute) (second : Path) :
    (first.join second).isAbsolute := by
  obtain ⟨cs, hcs⟩ := isAbsolute_iff_exists_chars.mp h
  unfold join
  split_ifs with hsecond
  · exact hsecond
  · simp [isAbsolute, hcs]
  · simp [isAbsolute, hcs]

theorem isCanonical_resolve (importer : Path) (specifier : String) :
    (importer.resolve specifier).IsCanonical :=
  isCanonical_normalize _

/-- What a specifier in a file with an absolute path refers to is absolute. -/
theorem isAbsolute_resolve {importer : Path} (h : importer.isAbsolute) (specifier : String) :
    (importer.resolve specifier).isAbsolute :=
  isAbsolute_normalize (isAbsolute_join (isAbsolute_directory h) _)

end ModuleBundler.Path
