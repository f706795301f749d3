import ModuleBundler.Journal
import ModuleBundler.Storage.Drive
import ModuleBundler.Storage.FileTree
import ModuleBundler.Storage.Observations

/-!
# Storage

A build reads and writes files through a storage: a tree of files in memory, which may be sealed
against changes, a drive, or what has been observed of a storage outside the program. What it asks
for is written into the journal.

## Main definitions

* `Storage` — where files are kept.
* `Storage.read`, `Storage.write` — reading and writing, with their journals.
-/

namespace ModuleBundler

/-- Where files are kept. -/
inductive Storage where
  | memory (tree : FileTree)
  | sealedMemory (tree : FileTree)
  | drive (drive : Drive)
  | observed (seen : Observations)

namespace Storage

/-- The text of the file at a path. -/
def content : Storage → Path → Except StorageFailure String
  | .memory tree, path | .sealedMemory tree, path => tree.read path
  | .drive disk, path => disk.read path
  | .observed seen, path => seen.read path

/-- A number that the number of files is not above. -/
def size : Storage → Nat
  | .memory tree | .sealedMemory tree => tree.files.length
  | .drive disk => disk.entries.length
  | .observed seen => seen.reads.length

/-- Reads a file. -/
def read (storage : Storage) (path : Path) : Traced (Except StorageFailure String) := do
  Traced.event (.read path)
  match storage with
  | .drive _ | .observed _ => Traced.log .trace .storage s!"Reading {path}"
  | .memory _ | .sealedMemory _ => pure ()
  return storage.content path

/-- Logs that a file is being written. -/
def logWriting (path : Path) (text : String) : Traced Unit :=
  Traced.log .trace .storage s!"Writing {text.utf8ByteSize} bytes to {path}"

/-- Writes a file to a drive, creating the directories around it. -/
def writeToDrive (disk : Drive) (path : Path) (text : String) :
    Traced (Drive × Except StorageFailure Unit) := do
  match disk.prepare path with
  | (disk, .error failure) => return (disk, .error failure)
  | (disk, .ok ()) =>
    logWriting path text
    match disk.writeFile path text with
    | .ok disk =>
      Traced.event (.write path text)
      return (disk, .ok ())
    | .error failure => return (disk, .error failure)

/-- Writes a file; the result is the storage afterwards and whether the file was written. -/
def write (storage : Storage) (path : Path) (text : String) :
    Traced (Storage × Except StorageFailure Unit) := do
  match storage with
  | .memory tree =>
    Traced.event (.write path text)
    return (.memory (tree.insert path text), .ok ())
  | .sealedMemory tree => return (.sealedMemory tree, .error .sealedTree)
  | .drive disk =>
    let (disk, outcome) ← writeToDrive disk path text
    return (.drive disk, outcome)
  | .observed seen =>
    logWriting path text
    match seen.write path with
    | .ok () =>
      Traced.event (.write path text)
      return (.observed seen, .ok ())
    | .error failure => return (.observed seen, .error failure)

end Storage

end ModuleBundler
