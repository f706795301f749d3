import ModuleBundler.Association
import ModuleBundler.Storage.Failure

/-!
# Drives

A drive has directories and files. A path is followed name by name, and every name but the last must
be that of a directory, also one that a later step to the parent leaves again.

Writing a file creates the directories that it needs. Directories that were created stay, even if
the file cannot be written after all.

## Main definitions

* `Drive` — the files and directories of a drive, with a working directory.
* `Drive.read`, `Drive.write` — the operations on files.
-/

namespace ModuleBundler

/-- What a name in a directory stands for. -/
inductive Entry where
  | directory
  | file (text : String)
  deriving DecidableEq, Repr

/-- The names that lead from the root to an entry. -/
abbrev Location := List (List Char)

/-- The entries of a drive by their locations. The root is always a directory. -/
structure Drive where
  workingDirectory : Location
  entries : List (Location × Entry)
  deriving Repr

namespace Drive

/-- The entry at a location. -/
def entry? (drive : Drive) : Location → Option Entry
  | [] => some .directory
  | location => drive.entries.lookup location

/-- The drive with another entry at a location. -/
def set (drive : Drive) (location : Location) (entry : Entry) : Drive :=
  { drive with entries := Association.put location entry drive.entries }

/-! ### Following paths -/

/-- Follows names from a directory; each of them must be that of a directory. -/
def follow (drive : Drive) (directory : Location) :
    List (List Char) → Except StorageFailure Location
  | [] => .ok directory
  | [] :: names | ['.'] :: names => follow drive directory names
  | ['.', '.'] :: names => follow drive directory.dropLast names
  | name :: names =>
    match drive.entry? (directory ++ [name]) with
    | none => .error .missing
    | some (.file _) => .error .notDirectory
    | some .directory => follow drive (directory ++ [name]) names

/-- The end of a path: a name in a directory, or a directory that was reached without naming it. -/
inductive Target where
  | named (location : Location)
  | reached

/-- A path followed up to its last piece; `asDirectory` when it ends with a slash. -/
structure Followed where
  target : Target
  asDirectory : Bool

/-- Drops the empty pieces behind the last slashes. -/
def dropTrailing (pieces : List (List Char)) : List (List Char) :=
  (pieces.reverse.dropWhile List.isEmpty).reverse

/-- Follows a path up to its last piece. -/
def locate (drive : Drive) (path : Path) : Except StorageFailure Followed := do
  if path.chars.contains (Char.ofNat 0) then throw .zeroCharacter
  if path.chars = [] then throw .missing
  let start := if path.isAbsolute then [] else drive.workingDirectory
  let pieces := Path.pieces path.chars
  let asDirectory := pieces.getLast? = some []
  match (dropTrailing pieces).reverse with
  | [] => return ⟨.reached, asDirectory⟩
  | last :: before =>
    let directory ← drive.follow start before.reverse
    if last = ['.'] ∨ last = ['.', '.'] then return ⟨.reached, asDirectory⟩
    return ⟨.named (directory ++ [last]), asDirectory⟩

/-! ### Files -/

/-- Reads the file at a path. -/
def read (drive : Drive) (path : Path) : Except StorageFailure String := do
  let followed ← drive.locate path
  match followed.target with
  | .reached => throw .isDirectory
  | .named location =>
    match drive.entry? location with
    | none => throw .missing
    | some .directory => throw .isDirectory
    | some (.file text) => if followed.asDirectory then throw .notDirectory else return text

/-- Is there a directory at the path? -/
def isDirectory (drive : Drive) (path : Path) : Bool :=
  match drive.locate path with
  | .ok ⟨.reached, _⟩ => true
  | .ok ⟨.named location, _⟩ => drive.entry? location = some .directory
  | .error _ => false

/-- Creates one directory. -/
def makeDirectory (drive : Drive) (path : Path) : Except StorageFailure Drive := do
  let followed ← drive.locate path
  match followed.target with
  | .reached => throw .alreadyExists
  | .named location =>
    match drive.entry? location with
    | some _ => throw .alreadyExists
    | none => return drive.set location .directory

/-- Creates a directory unless it is there. -/
def ensureDirectory (drive : Drive) (path : Path) : Drive × Except StorageFailure Unit :=
  match drive.makeDirectory path with
  | .ok changed => (changed, .ok ())
  | .error failure =>
    if failure ≠ .missing ∧ drive.isDirectory path then (drive, .ok ()) else (drive, .error failure)

/-- Creates a directory with the directories around it; `fuel` bounds their number. -/
def ensureDirectories : (fuel : Nat) → Drive → Path → Drive × Except StorageFailure Unit
  | 0, drive, _ => (drive, .error .missing)
  | fuel + 1, drive, path =>
    if path.chars = [] then (drive, .ok ())
    else
      match drive.ensureDirectory path, path.parent? with
      | (drive, .error .missing), some parent =>
        match ensureDirectories fuel drive parent with
        | (drive, .ok ()) => drive.ensureDirectory path
        | (drive, .error failure) => (drive, .error failure)
      | outcome, _ => outcome

/-- Creates the directories around a file. -/
def prepare (drive : Drive) (path : Path) : Drive × Except StorageFailure Unit :=
  match path.parent? with
  | some parent => ensureDirectories (parent.chars.length + 1) drive parent
  | none => (drive, .ok ())

/-- Writes a file into directories that exist. -/
def writeFile (drive : Drive) (path : Path) (text : String) : Except StorageFailure Drive := do
  let followed ← drive.locate path
  match followed.target with
  | .reached => throw .isDirectory
  | .named location =>
    if followed.asDirectory ∨ drive.entry? location = some .directory then throw .isDirectory
    return drive.set location (.file text)

/-- Puts a file into a drive, with the directories on the way to it. -/
def place (drive : Drive) (path : Path) (text : String) : Drive :=
  let prepared := (drive.prepare path).1
  match prepared.writeFile path text with
  | .ok changed => changed
  | .error _ => prepared

/-- The files of a drive with their locations. -/
def files (drive : Drive) : List (Location × String) :=
  drive.entries.filterMap fun (location, entry) =>
    match entry with
    | .file text => some (location, text)
    | .directory => none

end Drive

end ModuleBundler
