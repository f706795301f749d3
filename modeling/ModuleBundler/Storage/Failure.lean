import ModuleBundler.Path.Basic

/-!
# Failures of storage

## Main definitions

* `StorageFailure` — why a file cannot be read or written.
* `StorageFailure.message` — the text of such a failure.
-/

namespace ModuleBundler

/-- Why a file cannot be read or written. -/
inductive StorageFailure where
  /-- A tree of files in memory has no file at the path. -/
  | absentFile (path : Path)
  /-- The empty path names nothing. -/
  | emptyPath
  /-- The tree of files must not change. -/
  | sealedTree
  | missing
  | isDirectory
  | notDirectory
  | alreadyExists
  /-- The path has a character that no name of a file can have. -/
  | zeroCharacter
  /-- The system reports another failure. -/
  | reported (message : String)
  deriving DecidableEq, Repr

/-- The text of a failure. -/
def StorageFailure.message : StorageFailure → String
  | absentFile path => s!"{path} does not exist"
  | emptyPath => "cannot make an empty path absolute"
  | sealedTree => "read-only"
  | missing => "No such file or directory (os error 2)"
  | isDirectory => "Is a directory (os error 21)"
  | notDirectory => "Not a directory (os error 20)"
  | alreadyExists => "File exists (os error 17)"
  | zeroCharacter => "file name contained an unexpected NUL byte"
  | reported message => message

end ModuleBundler
