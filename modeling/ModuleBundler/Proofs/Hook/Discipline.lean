import ModuleBundler.Hook.Session
import ModuleBundler.Proofs.Program

/-!
# Disciplines of handlers

A discipline is what handlers and tasks keep to, whatever they do: a relation between the scene
before, what is written into the journal, and the scene afterwards. It allows to do nothing, to log
messages, and to do one after the other what it allows. Handlers obey a discipline if they and their
tasks do in every scene.

## Main definitions

* `Discipline`, `HandlerM.Obeys` — disciplines, and what obeys them.
* `Task.Obeys`, `Running.Obeys`, `SyncHandler.Obeys`, `ParallelHandler.Obeys` — the same for tasks
  and handlers.

## Main results

* `Running.Obeys.poll` — polls obey.
* `HookM.obeys_startAll`, `HookM.obeys_runAll` — handlers that run together obey.
-/

namespace ModuleBundler

variable {σ α β : Type}

/-- What is allowed to happen to a scene. -/
structure Discipline (σ : Type) where
  Allows : Scene σ → Journal → Scene σ → Prop
  refl : ∀ scene, Allows scene [] scene
  record : ∀ scene record, Allows scene [.record record] scene
  trans : ∀ {scene next last journal more}, Allows scene journal next → Allows next more last →
    Allows scene (journal ++ more) last

variable {discipline : Discipline σ}

/-- What a handler does is allowed in every scene. -/
def HandlerM.Obeys (discipline : Discipline σ) (handlers : HandlerM σ α) : Prop :=
  ∀ scene, discipline.Allows scene (handlers scene).journal (handlers scene).value.2

namespace HandlerM.Obeys

theorem pure (a : α) : Obeys discipline (Pure.pure a : HandlerM σ α) :=
  discipline.refl

theorem bind {handlers : HandlerM σ α} {next : α → HandlerM σ β} (h : Obeys discipline handlers)
    (hnext : ∀ a, Obeys discipline (next a)) : Obeys discipline (handlers >>= next) :=
  fun scene => discipline.trans (h scene) (hnext _ _)

theorem map {handlers : HandlerM σ α} (f : α → β) (h : Obeys discipline handlers) :
    Obeys discipline (f <$> handlers) :=
  bind h fun _ => .pure _

end HandlerM.Obeys

/-- What a task does until it comes to an outcome is allowed in every scene. -/
inductive Task.Obeys (discipline : Discipline σ) : Task σ → Prop
  | done (outcome : Outcome) : Obeys discipline (.done outcome)
  | pause {rest : Task σ} (h : Obeys discipline rest) : Obeys discipline (.pause rest)
  | act {effect : HandlerM σ Unit} {rest : Scene σ → Task σ} (heffect : effect.Obeys discipline)
    (hrest : ∀ scene, Obeys discipline (rest scene)) : Obeys discipline (.act effect rest)
  | callback (ticket : Nat) : Obeys discipline (.callback ticket)

/-- What is left to do for a handler is allowed. -/
def Running.Obeys (discipline : Discipline σ) : Running σ → Prop
  | .settled _ => True
  | .running task => task.Obeys discipline

/-- What a handler of a synchronous hook does is allowed. -/
def SyncHandler.Obeys (discipline : Discipline σ) {argument : HookArgument}
    (handler : SyncHandler σ argument) : Prop :=
  ∀ value, HandlerM.Obeys discipline (handler value)

/-- What a handler of a parallel hook does is allowed, and what its task does. -/
def ParallelHandler.Obeys (discipline : Discipline σ) {argument : HookArgument}
    (handler : ParallelHandler σ argument) : Prop :=
  ∀ value, HandlerM.Obeys discipline (handler value) ∧
    ∀ scene, (handler value scene).value.1.Obeys discipline

/-! ### Polling -/

theorem Task.Obeys.poll {task : Task σ} (h : task.Obeys discipline) (scene : Scene σ) :
    discipline.Allows scene (task.poll scene).journal (task.poll scene).value.2 ∧
      (task.poll scene).value.1.Obeys discipline := by
  induction h generalizing scene with
  | done outcome => exact ⟨discipline.refl scene, trivial⟩
  | pause h => exact ⟨discipline.refl scene, h⟩
  | act heffect hrest ih =>
    obtain ⟨hallows, hobeys⟩ := ih _ _
    exact ⟨discipline.trans (heffect scene) hallows, hobeys⟩
  | callback ticket =>
    refine ⟨discipline.refl scene, ?_⟩
    change (Task.awaitCallback scene ticket).Obeys discipline
    unfold Task.awaitCallback
    split <;> constructor

/-- A poll obeys, and so does what is left to do. -/
theorem Running.Obeys.poll {task : Running σ} (h : task.Obeys discipline) (scene : Scene σ) :
    discipline.Allows scene (task.poll scene).journal (task.poll scene).value.2 ∧
      (task.poll scene).value.1.Obeys discipline := by
  cases task with
  | settled outcome => exact ⟨discipline.refl scene, trivial⟩
  | running task => exact Task.Obeys.poll h scene

/-! ### Handlers that run together -/

namespace HookM

variable {argument : HookArgument}

theorem startAll_cons (value : argument.Carrier) (tap : Tap σ .parallel argument)
    (taps : List (Tap σ .parallel argument)) (scene : Scene σ) :
    startAll value (tap :: taps) scene =
      let invoked := (tap.body : ParallelHandler σ argument) value scene
      let others := startAll value taps invoked.value.2
      ⟨invoked.journal ++ others.journal, .running invoked.value.1 :: others.value.1,
        others.value.2⟩ := by
  refine congrArg (Traced.mk · _) ?_
  exact congrArg (_ ++ ·) (List.append_nil _)

theorem obeys_startAll {value : argument.Carrier} {taps : List (Tap σ .parallel argument)}
    (htaps : ∀ tap ∈ taps, ParallelHandler.Obeys discipline tap.body) (scene : Scene σ) :
    discipline.Allows scene (startAll value taps scene).journal
        (startAll value taps scene).value.2 ∧
      ∀ task ∈ (startAll value taps scene).value.1, task.Obeys discipline := by
  induction taps generalizing scene with
  | nil => exact ⟨discipline.refl scene, nofun⟩
  | cons tap taps ih =>
    obtain ⟨hhandler, htask⟩ := htaps tap (List.mem_cons_self ..) value
    obtain ⟨hallows, htasks⟩ := ih (fun tap h => htaps tap (List.mem_cons_of_mem _ h)) _
    rw [startAll_cons]
    refine ⟨discipline.trans (hhandler scene) hallows, fun task hmem => ?_⟩
    obtain rfl | hmem := List.mem_cons.mp hmem
    · exact htask scene
    · exact htasks task hmem

theorem obeys_runAll (hook : String) {taps : List (Tap σ .sync argument)}
    (htaps : ∀ tap ∈ taps, SyncHandler.Obeys discipline tap.body) (value : argument.Carrier) :
    HandlerM.Obeys discipline (runAll hook taps value) := by
  induction taps generalizing value with
  | nil => exact .pure _
  | cons tap taps ih =>
    have hlog (message : String) : HandlerM.Obeys discipline
        (StateT.lift (Traced.log .trace .hooks message)) := fun scene => discipline.record scene _
    refine .bind (hlog _) fun _ => .bind (htaps tap (List.mem_cons_self ..) value) ?_
    rintro ⟨value, _ | _⟩
    · exact .pure _
    · exact ih (fun tap h => htaps tap (List.mem_cons_of_mem _ h)) value

end HookM

end ModuleBundler
