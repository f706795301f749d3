import Mathlib.Data.List.Induction
import Mathlib.Tactic.SplitIfs
import ModuleBundler.Proofs.Path.Canonical
import ModuleBundler.Storage.FileTree

/-!
# What a tree of files holds

A file that is put into a tree is found under every path with the same components, and all other
files stay as they were. Files at different paths are all read from the tree of them.

## Main results

* `FileTree.get?_insert` — what a tree holds once a file is put into it.
* `FileTree.read_ofList` — what is read from the tree of different files.
-/

namespace ModuleBundler.FileTree

/-- What a tree holds once a file is put into it. -/
theorem get?_insert (tree : FileTree) (file path : Path) (text : String) :
    (tree.insert file text).get? path =
      if path.components = file.components then some text else tree.get? path := by
  have hbeq : (List.instBEq : BEq (List Component)) = instBEqOfDecidableEq :=
    lawful_beq_subsingleton _ _
  rw [get?, get?, insert, hbeq]
  split_ifs with hpath
  · rw [hpath, Association.lookup_put_self]
  · rw [Association.lookup_put_of_ne hpath]

/-- Files at different paths are all read from the tree of them. -/
theorem read_ofList {files : List (Path × String)} (h : Path.Distinct (files.map Prod.fst))
    {path : Path} {text : String} (hfile : (path, text) ∈ files) :
    (ofList files).read path = .ok text := by
  suffices hget : (ofList files).get? path = some text by rw [read, hget]
  induction files using List.reverseRecOn with
  | nil => cases hfile
  | append_singleton files last ih =>
    rw [List.map_append, Path.distinct_append] at h
    rw [ofList, List.foldl_append, List.foldl_cons, List.foldl_nil, get?_insert]
    rcases List.mem_append.mp hfile with hfile | hfile
    · have hne : path.components ≠ last.1.components := by
        simpa [Path.same] using h.2.2 path (List.mem_map_of_mem hfile) last.1
      rw [if_neg hne]
      exact ih h.1 hfile
    · rw [← List.mem_singleton.mp hfile, if_pos rfl]

end ModuleBundler.FileTree
