import ModuleBundler.Journal

/-!
# Arguments of hooks

A hook hands an argument of one type to its handlers. A build has two such types: the *context*,
which says where the bundle goes and which handlers may change, and the *summary* of what was
written. Hooks that others declare may take texts, a number, or arguments of types of their own.

## Main definitions

* `BuildContext`, `Summary` — the arguments of the hooks of a build.
* `ArgumentType`, `ArgumentType.Carrier` — the types of arguments that the program knows, and their
  values.
* `HookArgument`, `HookArgument.Carrier` — all types of arguments, and their values.
-/

namespace ModuleBundler

/-- What handlers can change before the bundle is written. -/
structure BuildContext where
  outputPath : Path
  deriving DecidableEq, Repr

/-- Sends the bundle to another path. -/
def BuildContext.redirect (path : Path) : Traced BuildContext := do
  Traced.log .debug .emission s!"Output path changed to {path}"
  return ⟨path⟩

/-- What was written: where, how many bytes, and how many modules. -/
structure Summary where
  outputPath : Path
  bytes : Nat
  modules : Nat
  deriving DecidableEq, Repr

/-- The types of arguments that the program knows. -/
inductive ArgumentType where
  | texts
  | number
  | context
  | summary
  deriving DecidableEq, Repr

namespace ArgumentType

/-- The values of a type. -/
def Carrier : ArgumentType → Type
  | texts => List String
  | number => UInt32
  | context => BuildContext
  | summary => Summary

/-- The name of a type in messages. -/
def name : ArgumentType → String
  | texts => "alloc::vec::Vec<alloc::string::String>"
  | number => "u32"
  | context => "minipack::emit::BuildContext"
  | summary => "minipack::emit::EmitSummary"

end ArgumentType

/-- The types of arguments that hooks can take: those that the program knows, and others. Types are
told apart by their numbers; messages show their names. -/
inductive HookArgument where
  | known (type : ArgumentType)
  | other (number : Nat) (name : String)
  deriving DecidableEq, Repr

instance : Coe ArgumentType HookArgument :=
  ⟨.known⟩

namespace HookArgument

/-- The values of a type. Of the values of other types it is known only which is which. -/
def Carrier : HookArgument → Type
  | known type => type.Carrier
  | other .. => Nat

/-- The name of a type in messages. -/
def name : HookArgument → String
  | known type => type.name
  | other _ name => name

end HookArgument

end ModuleBundler
