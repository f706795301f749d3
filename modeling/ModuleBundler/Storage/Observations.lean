import ModuleBundler.Storage.Failure

/-!
# Observations of a storage

What has been observed of a storage outside the program: which files could be read, and which could
be written. A path that has not been observed counts as absent when it is read, and as writable.

## Main definitions

* `Observations` — what has been observed.
* `Observations.read`, `Observations.write` — what follows for a path.
-/

namespace ModuleBundler

/-- What has been observed of a storage. -/
structure Observations where
  reads : List (Path × Except StorageFailure String)
  writes : List (Path × Except StorageFailure Unit)

namespace Observations

/-- Nothing has been observed. -/
def empty : Observations :=
  ⟨[], []⟩

/-- What is read at a path. -/
def read (seen : Observations) (path : Path) : Except StorageFailure String :=
  (seen.reads.lookup path).getD (.error .missing)

/-- Whether a path can be written. -/
def write (seen : Observations) (path : Path) : Except StorageFailure Unit :=
  (seen.writes.lookup path).getD (.ok ())

/-- The paths among the given ones that have not been read. -/
def unread (seen : Observations) (paths : List Path) : List Path :=
  paths.filter fun path => (seen.reads.lookup path).isNone

/-- The files among the given ones that have not been written. -/
def unwritten (seen : Observations) (files : List (Path × String)) : List (Path × String) :=
  files.filter fun file => (seen.writes.lookup file.1).isNone

/-- The observations with one more read. -/
def addRead (seen : Observations) (path : Path) (outcome : Except StorageFailure String) :
    Observations :=
  { seen with reads := (path, outcome) :: seen.reads }

/-- The observations with one more write. -/
def addWrite (seen : Observations) (path : Path) (outcome : Except StorageFailure Unit) :
    Observations :=
  { seen with writes := (path, outcome) :: seen.writes }

end Observations

end ModuleBundler
