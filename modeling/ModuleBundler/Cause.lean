/-!
# Causes

A failure that another part of the program reports is kept as its *cause*: a message, and the
messages of what caused it in turn.

## Main definitions

* `Cause` — a message with the messages below it.
-/

namespace ModuleBundler

/-- A message with the messages of what caused it, the nearest one first. -/
structure Cause where
  message : String
  deeper : List String
  deriving DecidableEq, Repr

namespace Cause

/-- A cause without deeper ones. -/
def ofMessage (message : String) : Cause :=
  ⟨message, []⟩

/-- All messages of a cause. -/
def messages (cause : Cause) : List String :=
  cause.message :: cause.deeper

end Cause

end ModuleBundler
