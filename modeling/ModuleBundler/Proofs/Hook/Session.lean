import ModuleBundler.Hook.Session
import ModuleBundler.Proofs.Hook.Registry
import ModuleBundler.Proofs.Program

/-!
# What is done in a session

What the registry refuses leaves the session as it is. What it grants changes the registry as the
registry says; handlers act on the scene.

## Main results

* `HookM.run_declare_of_ok`, `HookM.run_subscribe_of_ok` — hooks and subscriptions.
* `HookM.run_call_of_ok`, `HookM.run_promiseWith_of_ok` — hooks that fire.
-/

namespace ModuleBundler.HookM

variable {σ α : Type} {session : Session σ} {registry : HookRegistry σ} {hook handler : String}
  {kind : HookKind} {argument : HookArgument} {failure : HookFailure}

/-! ### Single steps -/

theorem run_ask_of_ok {question : HookRegistry σ → Except HookFailure α} {answer : α}
    (h : question session.registry = .ok answer) :
    (ask question).run session = ⟨[], .ok answer, session⟩ := by
  unfold ask
  rw [Program.run_bind_of_ok (show (get : HookM σ _).run session = ⟨[], .ok session, session⟩ from
    rfl), h]
  rfl

theorem run_ask_of_error {question : HookRegistry σ → Except HookFailure α}
    (h : question session.registry = .error failure) :
    (ask question).run session = ⟨[], .error failure, session⟩ := by
  unfold ask
  rw [Program.run_bind_of_ok (show (get : HookM σ _).run session = ⟨[], .ok session, session⟩ from
    rfl), h]
  rfl

theorem run_setRegistry (registry : HookRegistry σ) (session : Session σ) :
    (setRegistry registry).run session = ⟨[], .ok (), { session with registry }⟩ :=
  rfl

theorem run_log (level : Level) (topic : Topic) (message : String) (session : Session σ) :
    (log level topic message : HookM σ Unit).run session =
      ⟨[.record ⟨level, topic, message⟩], .ok (), session⟩ :=
  rfl

/-- What handlers do to the scene is written into the journal. -/
theorem run_onScene (handlers : HandlerM σ α) (session : Session σ) :
    (onScene handlers).run session =
      ⟨(handlers session.scene).journal, .ok (handlers session.scene).value.1,
        { session with scene := (handlers session.scene).value.2 }⟩ := by
  change (⟨((handlers session.scene).journal ++ []) ++ [], _⟩ : Traced _) = _
  rw [List.append_nil, List.append_nil]
  rfl

theorem run_ofExcept (result : Except HookFailure α) (session : Session σ) :
    (MonadExcept.ofExcept result : HookM σ α).run session = ⟨[], result, session⟩ := by
  cases result <;> rfl

/-! ### Hooks and subscriptions -/

theorem run_declare_of_ok {signature : List String}
    (h : session.registry.declare hook kind argument signature = .ok registry) :
    ∃ record, (declare hook kind argument signature).run session =
      ⟨[.record record], .ok (), { session with registry }⟩ := by
  unfold declare
  rw [Program.run_bind_of_ok (run_ask_of_ok h)]
  exact ⟨_, rfl⟩

theorem run_declare_of_error {signature : List String}
    (h : session.registry.declare hook kind argument signature = .error failure) :
    (declare hook kind argument signature).run session = ⟨[], .error failure, session⟩ := by
  unfold declare
  rw [Program.run_bind_of_error (run_ask_of_error h)]

theorem run_subscribe_of_ok {body : Body σ kind argument}
    (h : session.registry.subscribe hook handler kind argument body = .ok registry) :
    ∃ record, (subscribe hook handler kind argument body).run session =
      ⟨[.record record], .ok (), { session with registry }⟩ := by
  unfold subscribe
  rw [Program.run_bind_of_ok (run_ask_of_ok h)]
  exact ⟨_, rfl⟩

theorem run_subscribe_of_error {body : Body σ kind argument}
    (h : session.registry.subscribe hook handler kind argument body = .error failure) :
    (subscribe hook handler kind argument body).run session = ⟨[], .error failure, session⟩ := by
  unfold subscribe
  rw [Program.run_bind_of_error (run_ask_of_error h)]

/-! ### Hooks that fire -/

/-- The handlers of a synchronous hook run after the hook counts as fired. -/
theorem run_call_of_ok {taps : List (Tap σ .sync argument)}
    (h : session.registry.fire hook .sync argument = .ok (taps, registry))
    (value : argument.Carrier) :
    (call hook argument value).run session =
      ⟨(runAll hook taps value session.scene).journal,
        .ok (runAll hook taps value session.scene).value.1,
        ⟨registry, (runAll hook taps value session.scene).value.2⟩⟩ := by
  unfold call
  rw [Program.run_bind_of_ok (show (get : HookM σ _).run session = ⟨[], .ok session, session⟩ from
    rfl), h]
  dsimp only
  rw [Program.run_bind_of_ok (run_setRegistry registry session), run_onScene]
  rfl

theorem run_call_of_error (h : session.registry.fire hook .sync argument = .error failure)
    (value : argument.Carrier) :
    (call hook argument value).run session = ⟨[], .ok (value, .error failure), session⟩ := by
  unfold call
  rw [Program.run_bind_of_ok (show (get : HookM σ _).run session = ⟨[], .ok session, session⟩ from
    rfl), h]
  rfl

/-- The handlers of a parallel hook start after the hook counts as fired, and before the first of
their tasks is polled. -/
theorem run_promiseWith_of_ok (wait : List (Running σ) → HandlerM σ (Option (List Outcome)))
    (value : argument.Carrier) {taps : List (Tap σ .parallel argument)}
    {starting waiting : Journal} {tasks : List (Running σ)} {started last : Scene σ}
    {outcomes : Option (List Outcome)}
    (hfire : session.registry.fire hook .parallel argument = .ok (taps, registry))
    (hstart : startAll value taps session.scene = ⟨starting, tasks, started⟩)
    (hwait : wait tasks started = ⟨waiting, outcomes, last⟩) :
    (promiseWith wait hook argument value).run session =
      ⟨.record ⟨.trace, .hooks, s!"Starting {taps.length} handlers on hook '{hook}'"⟩ ::
          (starting ++ waiting),
        conclude hook taps outcomes, ⟨registry, last⟩⟩ := by
  unfold promiseWith
  rw [Program.run_bind_of_ok (run_ask_of_ok hfire)]
  dsimp only
  rw [Program.run_bind_of_ok (run_setRegistry registry session),
    Program.run_bind_of_ok (run_log _ _ _ _), Program.run_bind_of_ok (run_onScene _ _),
    Program.run_bind_of_ok (run_onScene _ _), run_ofExcept]
  simp only [hstart, hwait, List.nil_append, List.append_nil, List.singleton_append]

theorem run_promiseWith_of_error
    (h : session.registry.fire hook .parallel argument = .error failure)
    (wait : List (Running σ) → HandlerM σ (Option (List Outcome))) (value : argument.Carrier) :
    (promiseWith wait hook argument value).run session = ⟨[], .error failure, session⟩ := by
  unfold promiseWith
  rw [Program.run_bind_of_error (run_ask_of_error h)]

end ModuleBundler.HookM
