import ModuleBundler.Hook.Failure
import ModuleBundler.Journal
import ModuleBundler.Storage.Failure

/-!
# Failures of a build

Every failure ends the build. It names the file, specifier or hook at fault and keeps the failure
that caused it.

## Main definitions

* `Failure`, `Failure.message` — why a build fails.
* `Failure.rootCause` — the failure behind the imports that led to it.
* `Failure.chain` — the messages of a failure and of all that caused it.
* `Attempt` — traced computations that may fail.
-/

namespace ModuleBundler

/-- Why a build fails. -/
inductive Failure where
  | unreadable (path : Path) (cause : StorageFailure)
  | transform (path : Path) (rule loader : String) (cause : Cause)
  | malformed (path : Path) (cause : Cause)
  | render (message : String) (cause : Option Cause)
  | unwritable (path : Path) (cause : StorageFailure)
  | hook (failure : HookFailure)
  | importing (specifier : String) (importer : Path) (cause : Failure)
  | settings (message : String)
  deriving Repr

namespace Failure

/-- The text of a failure. -/
def message : Failure → String
  | unreadable path _ => s!"failed to read asset {path}"
  | transform path rule loader _ => s!"loader '{loader}' of rule '{rule}' failed on {path}"
  | malformed path _ => s!"failed to parse {path}"
  | render message _ => message
  | unwritable path _ => s!"failed to write bundle to {path}"
  | hook failure => failure.message
  | importing specifier importer _ => s!"cannot bundle '{specifier}' imported from {importer}"
  | settings message => s!"invalid configuration: {message}"

/-- The failure behind the imports that led to it. -/
def rootCause : Failure → Failure
  | importing _ _ cause => cause.rootCause
  | failure => failure

/-- The messages of what caused a failure, the nearest one first. -/
def causes : Failure → List String
  | unreadable _ cause | unwritable _ cause => [cause.message]
  | transform _ _ _ cause | malformed _ cause => cause.messages
  | render _ cause => (cause.map Cause.messages).getD []
  | hook failure => failure.causes
  | importing _ _ cause => cause.message :: cause.causes
  | settings _ => []

/-- The messages of a failure and of what caused it. -/
def chain (failure : Failure) : List String :=
  failure.message :: failure.causes

end Failure

/-! ### Attempts -/

/-- Traced computations that may fail; the journal is kept in any case. -/
abbrev Attempt (α : Type) :=
  ExceptT Failure Traced α

namespace Attempt

/-- A traced computation that cannot fail. -/
def ofTraced {α : Type} (traced : Traced α) : Attempt α :=
  ExceptT.lift traced

/-- A traced result, with the failure that a refusal means. -/
def ofResult {ε α : Type} (failure : ε → Failure) (traced : Traced (Except ε α)) : Attempt α :=
  ExceptT.mk (do return (← traced).mapError failure)

/-- A message for the log. -/
def log (level : Level) (topic : Topic) (message : String) : Attempt Unit :=
  ofTraced (Traced.log level topic message)

/-- What an attempt comes to. -/
def result {α : Type} (attempt : Attempt α) : Except Failure α :=
  attempt.run.value

/-- The journal of an attempt. -/
def journal {α : Type} (attempt : Attempt α) : Journal :=
  attempt.run.journal

end Attempt

end ModuleBundler
