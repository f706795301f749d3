import ModuleBundler.CommandLine.Run

/-!
# The program

Runs the command line against the file system. A run is a pure function of what has been observed of
the files, so it is repeated until everything that it asks for has been observed; what it writes is
written when nothing is left to be read.
-/

namespace ModuleBundler

/-- The failure that the system reports. -/
def failureOf : IO.Error → StorageFailure
  | .noFileOrDirectory _ _ _ => .missing
  | .alreadyExists _ _ _ => .alreadyExists
  | .inappropriateType _ code details =>
    if code = 20 then .notDirectory
    else if code = 21 then .isDirectory
    else .reported details
  | .userError _ => .reported "stream did not contain valid UTF-8"
  | error => .reported (toString error)

/-- Does something with a path that the system can be asked about. -/
def withPath {α : Type} (path : Path) (action : String → IO α) : IO (Except StorageFailure α) := do
  if path.chars.contains (Char.ofNat 0) then return .error .zeroCharacter
  try
    return .ok (← action path.toString)
  catch error =>
    return .error (failureOf error)

/-- Reads a file. -/
def readPath (path : Path) : IO (Except StorageFailure String) :=
  withPath path fun name => IO.FS.readFile name

/-- Writes a file, creating the directories around it. -/
def writePath (path : Path) (text : String) : IO (Except StorageFailure Unit) :=
  withPath path fun name => do
    match path.parent? with
    | some ⟨c :: cs⟩ => IO.FS.createDirAll (Path.toString ⟨c :: cs⟩)
    | _ => pure ()
    IO.FS.writeFile name text

/-- Runs the command line with what has been observed, and observes more as long as it asks for
more. -/
partial def runWith (arguments : List String) (workingDirectory : Path) (seen : Observations) :
    IO Report := do
  let traced := CommandLine.run arguments workingDirectory (.observed seen)
  match seen.unread traced.journal.reads, seen.unwritten traced.journal.writes with
  | path :: _, _ => runWith arguments workingDirectory (seen.addRead path (← readPath path))
  | [], (path, text) :: _ =>
    runWith arguments workingDirectory (seen.addWrite path (← writePath path text))
  | [], [] => return traced.value.1

end ModuleBundler

open ModuleBundler in
/-- Runs the program. -/
def main (arguments : List String) : IO UInt32 := do
  let workingDirectory := Path.ofString (← IO.currentDir).toString
  let usual ← readPath Settings.usualPath
  let seen := Observations.empty.addRead Settings.usualPath usual
  let report ← runWith arguments workingDirectory seen
  for line in report.lines do IO.println line
  for line in report.errorLines do IO.eprintln line
  return report.exitCode.toUInt32
