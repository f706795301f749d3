import ModuleBundler.Association
import ModuleBundler.Storage.Failure

/-!
# Trees of files in memory

A tree of files holds one text for each path, paths with equal components being one. It has no
directories: a file can be stored under every path.

## Main definitions

* `FileTree` — a tree of files.
* `FileTree.get?`, `FileTree.insert` — the file at a path, and the tree with another file.
-/

namespace ModuleBundler

/-- Files by the components of their paths. -/
structure FileTree where
  files : List (List Component × String)
  deriving Repr

namespace FileTree

/-- The tree without files. -/
def empty : FileTree :=
  ⟨[]⟩

/-- The text of the file at a path. -/
def get? (tree : FileTree) (path : Path) : Option String :=
  tree.files.lookup path.components

/-- The tree with a file at a path, in place of the file that was there. -/
def insert (tree : FileTree) (path : Path) (text : String) : FileTree :=
  ⟨Association.put path.components text tree.files⟩

/-- The tree of the given files; of two files at one path the last counts. -/
def ofList (files : List (Path × String)) : FileTree :=
  files.foldl (fun tree file => tree.insert file.1 file.2) empty

/-- Reads the file at a path. -/
def read (tree : FileTree) (path : Path) : Except StorageFailure String :=
  match tree.get? path with
  | some text => .ok text
  | none => .error (.absentFile path)

end FileTree

end ModuleBundler
