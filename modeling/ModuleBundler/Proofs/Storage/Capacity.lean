import Mathlib.Data.List.Nodup
import ModuleBundler.Proofs.Path.Canonical
import ModuleBundler.Storage.Basic

/-!
# How many files can be read

A storage holds finitely many files. Paths in canonical form that are absolute name different files
if they are different, so no more of them can be read than the storage has entries.

## Main results

* `Drive.exists_file_of_read` — a drive is read at the location that the names of a path spell.
* `Storage.length_le_size` — different canonical paths that can be read are no more than the size of
  the storage.
-/

namespace ModuleBundler

/-- Different things with different keys are no more than the entries in which their keys are
found. -/
theorem Association.length_le_of_lookup {ι κ α : Type} [BEq κ] [LawfulBEq κ]
    {things : List ι} (key : ι → κ) (entries : List (κ × α)) (hnodup : things.Nodup)
    (hinj : ∀ x ∈ things, ∀ y ∈ things, key x = key y → x = y)
    (hkey : ∀ x ∈ things, ∃ value, entries.lookup (key x) = some value) :
    things.length ≤ entries.length := by
  have hsubset : things.map key ⊆ entries.map Prod.fst := by
    intro k hk
    obtain ⟨x, hx, rfl⟩ := List.mem_map.mp hk
    obtain ⟨value, hvalue⟩ := hkey x hx
    obtain ⟨before, after, hentries, -⟩ := List.lookup_eq_some_iff.mp hvalue
    simp [hentries]
  have hlength := (hnodup.map_on hinj).length_le_of_subset hsubset
  simpa using hlength

/-! ### Reading a drive -/

namespace Drive

variable {drive : Drive}

/-- Names that a path can have lead from a directory to what they spell behind it. -/
theorem follow_names {names : List (List Char)}
    (hnames : ∀ name ∈ names, (Component.name name).Plain)
    {directory location : Location} (h : drive.follow directory names = .ok location) :
    location = directory ++ names := by
  induction names generalizing directory with
  | nil =>
    cases h
    simp
  | cons name names ih =>
    obtain ⟨hname, hrest⟩ := List.forall_mem_cons.mp hnames
    cases hname with
    | name hnil _ hpoint hpoints =>
      rw [follow] at h
      · split at h
        · cases h
        · cases h
        · rw [ih hrest h, List.append_assoc, List.singleton_append]
      · exact hnil
      · exact hpoint
      · exact hpoints

theorem dropTrailing_append_of_ne_nil {last : List Char} (h : last ≠ [])
    (before : List (List Char)) : dropTrailing (before ++ [last]) = before ++ [last] := by
  obtain ⟨c, cs, rfl⟩ := List.exists_cons_of_ne_nil h
  simp [dropTrailing]

/-- A path with names is followed to what the names spell. -/
theorem locate_target {path : Path} {before : List (List Char)} {last : List Char}
    (hpath : path.isAbsolute) (hpieces : Path.pieces path.chars = [] :: before ++ [last])
    (hnames : ∀ name ∈ before ++ [last], (Component.name name).Plain) {followed : Followed}
    (h : drive.locate path = .ok followed) : followed.target = .named (before ++ [last]) := by
  obtain ⟨hbefore, hlast⟩ := List.forall_mem_append.mp hnames
  obtain ⟨hnil, hpoint, hpoints⟩ : last ≠ [] ∧ last ≠ ['.'] ∧ last ≠ ['.', '.'] := by
    cases hlast last (by simp) with
    | name hnil _ hpoint hpoints => exact ⟨hnil, hpoint, hpoints⟩
  unfold locate at h
  simp only [hpieces, hpath, ↓reduceIte, dropTrailing_append_of_ne_nil hnil, List.reverse_append,
    List.reverse_singleton, List.singleton_append, List.reverse_reverse, hpoint, hpoints, or_self,
    bind, Except.bind, throw, throwThe, MonadExceptOf.throw, pure, Except.pure] at h
  split_ifs at h
  split at h
  · cases h
  next directory hdirectory =>
    cases h
    have hfollow : drive.follow [] before = .ok directory := hdirectory
    rw [follow_names hbefore hfollow, List.nil_append]

/-- A drive is read at the location that the names of a path spell. -/
theorem exists_file_of_read {names : List (List Char)}
    (hnames : ∀ name ∈ names, (Component.name name).Plain) {text : String}
    (h : drive.read (.ofComponents (.root :: names.map .name)) = .ok text) :
    drive.entries.lookup names = some (.file text) := by
  have hpath : (Path.ofComponents (.root :: names.map .name)).isAbsolute := by
    rw [Path.isAbsolute_iff_head?_components, Path.components_ofComponents_root
      fun c hc => by obtain ⟨name, hname, rfl⟩ := List.mem_map.mp hc; exact hnames name hname]
    rfl
  rcases List.eq_nil_or_concat names with rfl | ⟨before, last, rfl⟩
  · cases h
  · rw [List.concat_eq_append] at h hnames hpath ⊢
    have hpieces := Path.pieces_ofComponents_root (by simp) hnames
    unfold read at h
    simp only [bind, Except.bind] at h
    split at h
    · cases h
    next followed hlocate =>
      rw [locate_target hpath hpieces hnames hlocate] at h
      dsimp only [ entry?] at h
      split at h
      · cases h
      · cases h
      next other hentry =>
        simp only [pure, Except.pure, throw, throwThe, MonadExceptOf.throw] at h
        split_ifs at h
        cases h
        rw [← hentry]
        simp

end Drive

/-! ### The capacity of a storage -/

/-- Different canonical paths that can be read are no more than the size of the storage. -/
theorem Storage.length_le_size {storage : Storage} {paths : List Path} (hnodup : paths.Nodup)
    (hcanonical : ∀ path ∈ paths, path.IsCanonical ∧ path.isAbsolute)
    (hread : ∀ path ∈ paths, ∃ text, storage.content path = .ok text) :
    paths.length ≤ storage.size := by
  have hinj : ∀ x ∈ paths, ∀ y ∈ paths, x.components = y.components → x = y :=
    fun x hx y hy h =>
      (hcanonical x hx).1.eq_of_same (hcanonical y hy).1 (by simpa [Path.same] using h)
  have hmemory (tree : FileTree) (htree : ∀ path ∈ paths, ∃ text, tree.read path = .ok text) :
      paths.length ≤ tree.files.length := by
    refine Association.length_le_of_lookup Path.components tree.files hnodup hinj fun path hp => ?_
    obtain ⟨text, htext⟩ := htree path hp
    unfold FileTree.read at htext
    split at htext
    next hget => exact ⟨_, hget⟩
    next => cases htext
  cases storage with
  | memory tree => exact hmemory tree hread
  | sealedMemory tree => exact hmemory tree hread
  | drive drive =>
    choose! names hnames hplain using fun path (hp : path ∈ paths) =>
      (hcanonical path hp).1.exists_names (hcanonical path hp).2
    refine Association.length_le_of_lookup names drive.entries hnodup (fun x hx y hy h => ?_)
      fun path hp => ?_
    · rw [hnames x hx, hnames y hy, h]
    · obtain ⟨text, htext⟩ := hread path hp
      rw [hnames path hp] at htext
      exact ⟨_, Drive.exists_file_of_read (hplain path hp) htext⟩
  | observed seen =>
    refine Association.length_le_of_lookup id seen.reads hnodup (fun x _ y _ h => h)
      fun path hp => ?_
    obtain ⟨text, htext⟩ := hread path hp
    change (seen.reads.lookup path).getD (.error .missing) = .ok text at htext
    cases hlookup : seen.reads.lookup path with
    | none => simp [hlookup] at htext
    | some outcome => exact ⟨outcome, hlookup⟩

end ModuleBundler
