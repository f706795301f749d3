import ModuleBundler.Cause

/-!
# Failures of hooks

## Main definitions

* `HookKind` — the two ways in which the handlers of a hook run.
* `HookFailure`, `HookFailure.message` — why a hook cannot be declared, subscribed to or fired.
-/

namespace ModuleBundler

/-- How the handlers of a hook run: one after the other, or at the same time. -/
inductive HookKind where
  | sync
  | parallel
  deriving DecidableEq, Repr

/-- The name of a kind in messages. -/
def HookKind.name : HookKind → String
  | sync => "sync"
  | parallel => "async parallel"

/-- Why a hook cannot be declared, subscribed to or fired. -/
inductive HookFailure where
  | unknown (hook : String)
  | declared (hook : String)
  /-- The hook has fired already. -/
  | late (hook handler : String)
  | wrongKind (hook : String) (expected actual : HookKind)
  /-- The hook takes an argument of another type. -/
  | wrongArgument (hook : String) (signature : List String) (expected found : String)
  /-- A handler has failed. -/
  | handler (hook handler : String) (cause : Cause)
  deriving DecidableEq, Repr

/-- Quotes the name of a type. -/
def quotedType (name : String) : String :=
  let mark := String.singleton (Char.ofNat 0x60)
  mark ++ name ++ mark

/-- The text of a failure. -/
def HookFailure.message : HookFailure → String
  | unknown hook => s!"unknown hook '{hook}'"
  | declared hook => s!"hook '{hook}' is already registered"
  | late hook name => s!"cannot subscribe '{name}' to hook '{hook}' after it has fired"
  | wrongKind hook expected actual => s!"hook '{hook}' is {actual.name}, not {expected.name}"
  | wrongArgument hook signature expected found =>
    let names := ", ".intercalate signature
    s!"hook '{hook}' takes ({names}) as {quotedType expected}, got {quotedType found}"
  | handler hook name _ => s!"handler '{name}' on hook '{hook}' failed"

/-- The messages of what caused a failure. -/
def HookFailure.causes : HookFailure → List String
  | handler _ _ cause => cause.messages
  | _ => []

end ModuleBundler
