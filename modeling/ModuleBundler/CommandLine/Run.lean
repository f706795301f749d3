import ModuleBundler.CommandLine.Basic
import ModuleBundler.Settings.Build

/-!
# Running command lines

A run loads settings, sets up the build and runs it. Without a file of settings on the command line
the file with the usual name is used if it is there. What a run logs goes to the standard error; it
depends on the verbosity what of it is shown.

## Main definitions

* `Invocation.run` — runs what a command line asks for.
* `CommandLine.run`, `Report` — runs a command line.
* `Record.lines` — a log record as it is shown.
-/

namespace ModuleBundler

/-! ### Log records -/

/-- Puts blanks behind a text up to a width. -/
def padded (width : Nat) (text : String) : String :=
  text ++ String.ofList (List.replicate (width - text.length) ' ')

/-- The lines of a text. -/
def linesOf (text : List Char) : List (List Char) :=
  text.foldr
    (fun c lines =>
      if c = '\n' then [] :: lines
      else
        match lines with
        | [] => [[c]]
        | line :: rest => (c :: line) :: rest)
    [[]]

/-- A log record as it is shown. The lines behind the first one are indented. -/
def Record.lines (record : Record) : List String :=
  let shown := s!"[{padded 5 record.level.name} {record.topic.name}] {record.message}"
  match linesOf shown.toList with
  | [] => []
  | first :: rest => String.ofList first :: rest.map fun line => padded 4 "" ++ String.ofList line

/-- The most detailed level that is shown under a verbosity. -/
def Level.ofVerbosity : Nat → Level
  | 0 => .error
  | 1 => .info
  | 2 => .debug
  | _ => .trace

/-- Is a record shown under a verbosity? -/
def Record.isShown (verbosity : Nat) (record : Record) : Bool :=
  record.level.rank ≤ (Level.ofVerbosity verbosity).rank

/-! ### Runs -/

/-- A failure with what was being done. -/
structure Trouble where
  activity : String
  failure : Failure

/-- The text of a failure with all that caused it. -/
def Trouble.message (trouble : Trouble) : String :=
  ": ".intercalate (trouble.activity :: trouble.failure.chain)

/-- What a run does to a storage. -/
abbrev RunM := ExceptT Trouble (StateT Storage Traced)

namespace RunM

/-- A step of a run, with what it is for. -/
def during {α : Type} (activity : String) (step : StateT Storage Traced (Except Failure α)) :
    RunM α :=
  ExceptT.mk (do return (← step).mapError (Trouble.mk activity))

/-- A step that changes nothing. -/
def attempt {α : Type} (activity : String) (attempt : Attempt α) : RunM α :=
  during activity (StateT.lift attempt.run)

end RunM

/-- The usual name of the file of settings. -/
def Settings.usualPath : Path :=
  .ofString "minipack.toml"

/-- Is there a file at the path, even if it cannot be read? -/
def Storage.hasFile (storage : Storage) (path : Path) : Bool :=
  match storage.content path with
  | .ok _ | .error (.reported _) => true
  | .error _ => false

namespace Invocation

/-- The settings that an invocation names, or the usual ones. -/
def loadSettings (invocation : Invocation) : RunM Settings := do
  let storage ← get
  match invocation.settings with
  | some path => RunM.attempt s!"Failed to load config {path}" (Settings.load storage path)
  | none =>
    if storage.hasFile Settings.usualPath then
      RunM.attempt s!"Failed to load {Settings.usualPath}"
        (Settings.load storage Settings.usualPath)
    else return .standard

/-- Launches a build. No plugin of settings waits when the bundle is written. -/
def launch (bundler : Bundler Unit) : StateT Storage Traced (Except Failure BuildOutcome) := do
  let (result, world) ← StateT.lift (bundler.launch 0 () (← get))
  set world.storage
  return result

/-- Runs what an invocation asks for. -/
def run (invocation : Invocation) (workingDirectory : Path) : RunM Unit := do
  let settings := invocation.override (← invocation.loadSettings)
  let bundler ←
    RunM.attempt "Failed to set up the build"
      (ExceptT.mk (pure (settings.bundler workingDirectory)))
  match ← RunM.during "Build failed" (launch bundler) with
  | .pending => return ()
  | .finished ⟨_, summary⟩ =>
    ExceptT.lift <| StateT.lift <| Traced.log .info .program
      s!"Bundled {summary.modules} modules ({summary.bytes} bytes) into {summary.outputPath}"

end Invocation

/-! ### Reports -/

/-- What a run comes to: how the program ends, and the lines that it shows on the standard output
and on the standard error. -/
structure Report where
  exitCode : Nat
  lines : List String
  errorLines : List String

namespace CommandLine

/-- How the program is used. -/
def usage : List String := [
  "Bundle a JavaScript entry module and everything it imports into one file",
  "",
  "Usage: minipack [OPTIONS]",
  "",
  "Options:",
  "  -c, --config <CONFIG>  Configuration file; \x60minipack.toml\x60 is used when present",
  "  -e, --entry <ENTRY>    Entry module, overriding the configuration",
  "  -o, --output <OUTPUT>  Output path, overriding the configuration",
  "      --dedupe           Build each resolved path once instead of once per import",
  "  -v, --verbose...       Increase log verbosity (-v info, -vv debug, -vvv trace)",
  "  -h, --help             Print help",
  "  -V, --version          Print version"]

/-- Runs an invocation to its end, where a failure is logged; the result is the exit code. -/
def finish (invocation : Invocation) (workingDirectory : Path) : StateT Storage Traced Nat := do
  match ← (invocation.run workingDirectory).run with
  | .ok () => return 0
  | .error trouble =>
    StateT.lift (Traced.log .error .program trouble.message)
    return 1

/-- Runs a command line. The journal of the run and the storage afterwards come with the report. -/
def run (arguments : List String) (workingDirectory : Path) (storage : Storage) :
    Traced (Report × Storage) :=
  match read arguments with
  | .refused => return (⟨2, [], []⟩, storage)
  | .help => return (⟨0, usage, []⟩, storage)
  | .version => return (⟨0, ["minipack 0.1.0"], []⟩, storage)
  | .build invocation =>
    let traced := finish invocation workingDirectory storage
    let shown := traced.journal.records.filter (·.isShown invocation.verbosity)
    (fun (code, storage) => (⟨code, [], shown.flatMap Record.lines⟩, storage)) <$> traced

end CommandLine

end ModuleBundler
