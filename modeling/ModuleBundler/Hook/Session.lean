import ModuleBundler.Hook.Registry

/-!
# Sessions

A session is a registry of hooks with the scene that handlers act on. What is done in a session may
fail; what was done before stays done.

## Main definitions

* `Session`, `HookM` — what is done with hooks.
* `HookM.declare`, `HookM.tap`, `HookM.tapTask`, `HookM.tapCallback` — hooks and subscriptions.
* `HookM.withCallback` — handlers that are through when a callback is called.
* `HookM.call`, `HookM.promise` — firing hooks.
* `HookM.promiseWith` — firing a hook whose tasks are polled in any way.
-/

namespace ModuleBundler

/-- A registry of hooks with the scene that handlers act on. -/
structure Session (σ : Type) where
  registry : HookRegistry σ
  scene : Scene σ

/-- What is done with hooks. -/
abbrev HookM (σ : Type) := ExceptT HookFailure (StateT (Session σ) Traced)

namespace HookM

variable {σ : Type}

/-- A message for the log. -/
def log (level : Level) (topic : Topic) (message : String) : HookM σ Unit :=
  ExceptT.lift (StateT.lift (Traced.log level topic message))

/-- Lets handlers act on the scene. -/
def onScene {α : Type} (handlers : HandlerM σ α) : HookM σ α :=
  ExceptT.lift fun session => do
    let (result, scene) ← handlers session.scene
    return (result, { session with scene })

/-- Asks the registry, or refuses. -/
def ask {α : Type} (question : HookRegistry σ → Except HookFailure α) : HookM σ α := do
  match question (← get).registry with
  | .ok answer => return answer
  | .error failure => throw failure

/-- Goes on with another registry. -/
def setRegistry (registry : HookRegistry σ) : HookM σ Unit :=
  modify fun session => { session with registry }

/-! ### Declaring and subscribing -/

/-- Declares a hook. -/
def declare (hook : String) (kind : HookKind) (argument : HookArgument) (signature : List String) :
    HookM σ Unit := do
  let registry ← ask (·.declare hook kind argument signature)
  let names := ", ".intercalate signature
  log .debug .hooks s!"Registered {kind.name} hook '{hook}'({names})"
  setRegistry registry

/-- Subscribes a handler. -/
def subscribe (hook handler : String) (kind : HookKind) (argument : HookArgument)
    (body : Body σ kind argument) : HookM σ Unit := do
  let registry ← ask (·.subscribe hook handler kind argument body)
  log .debug .hooks s!"Subscribed '{handler}' to hook '{hook}'"
  setRegistry registry

/-- Subscribes a handler to a synchronous hook. -/
def tap (hook handler : String) (argument : HookArgument) (body : SyncHandler σ argument) :
    HookM σ Unit :=
  subscribe hook handler .sync argument body

/-- Subscribes a handler that starts a task. -/
def tapTask (hook handler : String) (argument : HookArgument) (body : ParallelHandler σ argument) :
    HookM σ Unit :=
  subscribe hook handler .parallel argument body

/-- A handler that is handed a callback. Its task waits for the callback. -/
def withCallback {argument : HookArgument} (body : argument.Carrier → Nat → HandlerM σ Unit) :
    ParallelHandler σ argument := fun value => do
  let ticket ← Scene.openCallback
  body value ticket
  return .callback ticket

/-- Subscribes a handler that is handed a callback. It is through when the callback is called. -/
def tapCallback (hook handler : String) (argument : HookArgument)
    (body : argument.Carrier → Nat → HandlerM σ Unit) : HookM σ Unit :=
  tapTask hook handler argument (withCallback body)

/-! ### Firing -/

/-- Runs handlers one after the other on an argument until one fails. -/
def runAll (hook : String) {argument : HookArgument} :
    List (Tap σ .sync argument) → argument.Carrier →
      HandlerM σ (argument.Carrier × Except HookFailure Unit)
  | [], value => return (value, .ok ())
  | tap :: taps, value => do
    StateT.lift (Traced.log .trace .hooks s!"Calling handler '{tap.name}' on hook '{hook}'")
    let handler : SyncHandler σ argument := tap.body
    match ← handler value with
    | (value, .ok ()) => runAll hook taps value
    | (value, .error cause) => return (value, .error (.handler hook tap.name cause))

/-- Fires a synchronous hook; the result is the argument afterwards and whether all handlers were
successful. -/
def call (hook : String) (argument : HookArgument) (value : argument.Carrier) :
    HookM σ (argument.Carrier × Except HookFailure Unit) := do
  match (← get).registry.fire hook .sync argument with
  | .error failure => return (value, .error failure)
  | .ok (taps, registry) =>
    setRegistry registry
    onScene (runAll hook taps value)

/-- Starts the tasks of handlers, in order. -/
def startAll {argument : HookArgument} (value : argument.Carrier) :
    List (Tap σ .parallel argument) → HandlerM σ (List (Running σ))
  | [] => return []
  | tap :: taps => do
    let handler : ParallelHandler σ argument := tap.body
    let task ← handler value
    return .running task :: (← startAll value taps)

/-- The first failure among the outcomes of handlers. -/
def firstFailure? (hook : String) {kind : HookKind} {argument : HookArgument} :
    List (Tap σ kind argument) → List Outcome → Option HookFailure
  | tap :: _, .error cause :: _ => some (.handler hook tap.name cause)
  | _ :: taps, .ok () :: outcomes => firstFailure? hook taps outcomes
  | _, _ => none

/-- Whether the handlers of a parallel hook have come to outcomes. -/
inductive Settlement where
  | settled
  | pending
  deriving DecidableEq, Repr

/-- What the outcomes of all handlers mean for the hook; they are missing if a handler has not come
to one. -/
def conclude (hook : String) {kind : HookKind} {argument : HookArgument}
    (taps : List (Tap σ kind argument)) : Option (List Outcome) → Except HookFailure Settlement
  | none => .ok .pending
  | some outcomes =>
    match firstFailure? hook taps outcomes with
    | some failure => .error failure
    | none => .ok .settled

/-- Fires a parallel hook, and asks for the outcomes of its tasks in some way. -/
def promiseWith (wait : List (Running σ) → HandlerM σ (Option (List Outcome))) (hook : String)
    (argument : HookArgument) (value : argument.Carrier) : HookM σ Settlement := do
  let (taps, registry) ← ask (·.fire hook .parallel argument)
  setRegistry registry
  log .trace .hooks s!"Starting {taps.length} handlers on hook '{hook}'"
  let tasks ← onScene (startAll value taps)
  let outcomes ← onScene (wait tasks)
  MonadExcept.ofExcept (conclude hook taps outcomes)

/-- Fires a parallel hook and polls its tasks in at most `patience` rounds. -/
def promise (patience : Nat) (hook : String) (argument : HookArgument) (value : argument.Carrier) :
    HookM σ Settlement :=
  promiseWith (settle patience) hook argument value

end HookM

end ModuleBundler
