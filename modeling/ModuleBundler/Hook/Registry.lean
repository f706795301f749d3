import ModuleBundler.Association
import ModuleBundler.Hook.Argument
import ModuleBundler.Hook.Failure
import ModuleBundler.Hook.Task

/-!
# Hooks

A hook is a named point of a build to which handlers subscribe. It is declared once, with its kind
and the type of its argument. Handlers can subscribe until it fires for the first time, so the order
of handlers never changes under a running build.

The handlers of a synchronous hook run one after the other and may change the argument; the first
that fails ends the run. The handlers of a parallel hook are all started and all come to an outcome;
the first failure in the order of subscription is reported.

## Main definitions

* `SyncHandler`, `ParallelHandler`, `Body` — handlers.
* `HookPoint`, `HookRegistry` — hooks with their handlers.
* `HookRegistry.declare`, `HookRegistry.subscribe` — declaring hooks and subscribing to them.
* `HookRegistry.fire` — the handlers of a hook that fires.
-/

namespace ModuleBundler

/-- A handler that may change the argument. Changes are kept even if it fails. -/
abbrev SyncHandler (σ : Type) (argument : HookArgument) :=
  argument.Carrier → HandlerM σ (argument.Carrier × Outcome)

/-- A handler that starts a task. -/
abbrev ParallelHandler (σ : Type) (argument : HookArgument) :=
  argument.Carrier → HandlerM σ (Task σ)

/-- The handlers of a kind. -/
def Body (σ : Type) : HookKind → HookArgument → Type
  | .sync, argument => SyncHandler σ argument
  | .parallel, argument => ParallelHandler σ argument

/-- A handler under the name of its subscriber. -/
structure Tap (σ : Type) (kind : HookKind) (argument : HookArgument) where
  name : String
  body : Body σ kind argument

/-- A hook with the names of its handlers and the handlers themselves, in the order of
subscription. -/
structure HookPoint (σ : Type) where
  kind : HookKind
  argument : HookArgument
  signature : List String
  handlers : List String
  taps : List (Tap σ kind argument)
  fired : Bool

/-- The hooks of a build by name, in the order of their declarations. -/
structure HookRegistry (σ : Type) where
  points : List (String × HookPoint σ)

namespace HookPoint

variable {σ : Type}

/-- A hook without handlers. -/
def declared (kind : HookKind) (argument : HookArgument) (signature : List String) : HookPoint σ :=
  ⟨kind, argument, signature, [], [], false⟩

/-- The hook with one more handler. -/
def add (point : HookPoint σ) (tap : Tap σ point.kind point.argument) : HookPoint σ :=
  { point with handlers := point.handlers ++ [tap.name], taps := point.taps ++ [tap] }

/-- Is the hook of the given kind? -/
def checkKind (hook : String) (point : HookPoint σ) (kind : HookKind) :
    Except HookFailure (PLift (point.kind = kind)) :=
  if same : point.kind = kind then .ok ⟨same⟩ else .error (.wrongKind hook kind point.kind)

/-- Does the hook take an argument of the given type? -/
def checkArgument (hook : String) (point : HookPoint σ) (argument : HookArgument) :
    Except HookFailure (PLift (point.argument = argument)) :=
  if same : point.argument = argument then .ok ⟨same⟩
  else .error (.wrongArgument hook point.signature point.argument.name argument.name)

end HookPoint

namespace HookRegistry

variable {σ : Type}

/-- No hook is declared. -/
def empty : HookRegistry σ :=
  ⟨[]⟩

/-- The hook with a name. -/
def find? (registry : HookRegistry σ) (hook : String) : Option (HookPoint σ) :=
  registry.points.lookup hook

/-- The hook with a name, which must be declared. -/
def point (registry : HookRegistry σ) (hook : String) : Except HookFailure (HookPoint σ) :=
  match registry.find? hook with
  | some point => .ok point
  | none => .error (.unknown hook)

/-- The registry with another state of the hook with a name. -/
def set (registry : HookRegistry σ) (hook : String) (point : HookPoint σ) : HookRegistry σ :=
  ⟨Association.put hook point registry.points⟩

/-- Declares a hook. -/
def declare (registry : HookRegistry σ) (hook : String) (kind : HookKind)
    (argument : HookArgument) (signature : List String) : Except HookFailure (HookRegistry σ) :=
  match registry.find? hook with
  | some _ => .error (.declared hook)
  | none => .ok ⟨registry.points ++ [(hook, .declared kind argument signature)]⟩

/-- Subscribes a handler to a hook that has not fired. -/
def subscribe (registry : HookRegistry σ) (hook handler : String) (kind : HookKind)
    (argument : HookArgument) (body : Body σ kind argument) :
    Except HookFailure (HookRegistry σ) := do
  let point ← registry.point hook
  let ⟨sameKind⟩ ← point.checkKind hook kind
  if point.fired then throw (.late hook handler)
  let ⟨sameArgument⟩ ← point.checkArgument hook argument
  return registry.set hook (point.add ⟨handler, sameKind ▸ sameArgument ▸ body⟩)

/-- The handlers of a hook that fires, and the registry in which it has fired. -/
def fire (registry : HookRegistry σ) (hook : String) (kind : HookKind) (argument : HookArgument) :
    Except HookFailure (List (Tap σ kind argument) × HookRegistry σ) := do
  let point ← registry.point hook
  let ⟨sameKind⟩ ← point.checkKind hook kind
  let ⟨sameArgument⟩ ← point.checkArgument hook argument
  return (sameKind ▸ sameArgument ▸ point.taps, registry.set hook { point with fired := true })

end HookRegistry

end ModuleBundler
