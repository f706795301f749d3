import ModuleBundler.Cause
import ModuleBundler.Journal

/-!
# Tasks

A handler that runs at the same time as others returns a *task*. A task is polled again and again
until it has come to an outcome. It may wait for a *callback*, which another part of the program
calls once, or drops.

Handlers and tasks act on a *scene*: the state of whoever wrote the handlers, and the callbacks that
were handed out.

## Main definitions

* `Scene`, `HandlerM` — what handlers act on.
* `Task`, `Task.poll` — tasks and how they go on.
* `settle` — polls tasks in rounds until all have come to an outcome.
-/

namespace ModuleBundler

/-! ### Scenes -/

/-- What has become of a callback: it waits, it was called with an error or without one, or it was
dropped. -/
inductive Callback where
  | waiting
  | called (error : Option Cause)
  | dropped
  deriving DecidableEq, Repr

/-- The state that handlers act on, with the callbacks that were handed out. A callback is known by
its position. -/
structure Scene (σ : Type) where
  state : σ
  callbacks : List Callback

/-- What a handler does. -/
abbrev HandlerM (σ : Type) := StateT (Scene σ) Traced

namespace Scene

variable {σ : Type}

/-- A scene in which no callback was handed out. -/
def ofState (state : σ) : Scene σ :=
  ⟨state, []⟩

/-- Hands out a callback. -/
def openCallback : HandlerM σ Nat := do
  let scene ← get
  set { scene with callbacks := scene.callbacks ++ [Callback.waiting] }
  return scene.callbacks.length

/-- Gives a waiting callback another state. -/
def settleCallback (callback : Callback) (ticket : Nat) : HandlerM σ Unit :=
  modify fun scene =>
    if scene.callbacks[ticket]? = some .waiting then
      { scene with callbacks := scene.callbacks.set ticket callback }
    else scene

/-- Calls a callback, unless it was called or dropped before. -/
def call (error : Option Cause) (ticket : Nat) : HandlerM σ Unit :=
  settleCallback (.called error) ticket

/-- Drops a callback, unless it was called or dropped before. -/
def drop (ticket : Nat) : HandlerM σ Unit :=
  settleCallback .dropped ticket

end Scene

/-! ### Tasks -/

/-- What a handler came to. -/
abbrev Outcome := Except Cause Unit

/-- What is left to do for a handler: nothing, to wait for the next poll, to act and then to go on,
or to wait for a callback. -/
inductive Task (σ : Type) where
  | done (outcome : Outcome)
  | pause (rest : Task σ)
  | act (effect : HandlerM σ Unit) (rest : Scene σ → Task σ)
  | callback (ticket : Nat)

/-- A task between two polls. -/
inductive Running (σ : Type) where
  | settled (outcome : Outcome)
  | running (task : Task σ)

/-- The failure of a handler whose callback was dropped. -/
def droppedCallback : Cause :=
  .ofMessage "completion callback was dropped without being called"

namespace Task

variable {σ : Type}

/-- What waiting for a callback comes to. -/
def awaitCallback (scene : Scene σ) (ticket : Nat) : Running σ :=
  match scene.callbacks[ticket]? with
  | some (.called none) => .settled (.ok ())
  | some (.called (some cause)) => .settled (.error cause)
  | some .dropped => .settled (.error droppedCallback)
  | some .waiting | none => .running (.callback ticket)

/-- Goes on with a task until it waits or comes to an outcome. -/
def poll : Task σ → HandlerM σ (Running σ)
  | done outcome => return .settled outcome
  | pause rest => return .running rest
  | act effect rest => fun scene => do
    let (_, scene) ← effect scene
    poll (rest scene) scene
  | callback ticket => do return awaitCallback (← get) ticket

end Task

namespace Running

variable {σ : Type}

/-- The outcome of a task that has come to one. -/
def outcome? : Running σ → Option Outcome
  | settled outcome => some outcome
  | running _ => none

/-- Polls a task that has not come to an outcome. -/
def poll : Running σ → HandlerM σ (Running σ)
  | settled outcome => return .settled outcome
  | running task => task.poll

/-- The outcomes of tasks, if all have come to one. -/
def outcomes? (tasks : List (Running σ)) : Option (List Outcome) :=
  tasks.mapM outcome?

end Running

/-- Polls tasks in rounds, each task once a round and in order, until all have come to an outcome.
There are at most `patience` rounds. -/
def settle {σ : Type} : (patience : Nat) → List (Running σ) → HandlerM σ (Option (List Outcome))
  | 0, tasks => return Running.outcomes? tasks
  | patience + 1, tasks => do
    match Running.outcomes? tasks with
    | some outcomes => return some outcomes
    | none => settle patience (← tasks.mapM Running.poll)

end ModuleBundler
