import ModuleBundler.Plugin
import ModuleBundler.Proofs.Hook.Schedule
import ModuleBundler.Proofs.Journal

/-!
# Orderly plugins

A registry obeys a discipline if all handlers that are subscribed in it do. What is done with hooks
obeys if it keeps registries so, and if what it does to the scene is allowed. Plugins obey that
declare hooks, subscribe handlers that obey, and fire hooks.

## Main definitions

* `HookRegistry.Obeys`, `HookM.Obeys` — registries that obey, and what is done with hooks.
* `Discipline.quiet` — handlers leave the files of a build alone.

## Main results

* `HookM.Obeys.declare`, `HookM.Obeys.subscribe` — hooks and subscriptions.
* `HookM.Obeys.call`, `HookM.Obeys.promise` — hooks that fire.
* `Plugin.obeys_applyAll` — plugins that obey, one after the other.
* `Plugin.quiet_changeOutputPath` — the built-in plugin leaves files alone.
-/

namespace ModuleBundler

variable {σ α β : Type} {discipline : Discipline σ}

/-- Nothing happens to files. -/
def Discipline.quiet : Discipline σ where
  Allows _ journal _ := journal.files = []
  refl _ := rfl
  record _ _ := rfl
  trans h h' := by rw [Journal.files_append, h, h', List.append_nil]

/-! ### Registries -/

/-- What a handler of any kind does is allowed. -/
def Body.Obeys (discipline : Discipline σ) :
    {kind : HookKind} → {argument : HookArgument} → Body σ kind argument → Prop
  | .sync, _, handler => SyncHandler.Obeys discipline handler
  | .parallel, _, handler => ParallelHandler.Obeys discipline handler

/-- All handlers of a hook obey. -/
def HookPoint.Obeys (discipline : Discipline σ) (point : HookPoint σ) : Prop :=
  ∀ tap ∈ point.taps, Body.Obeys discipline tap.body

/-- All handlers of all hooks obey. -/
def HookRegistry.Obeys (discipline : Discipline σ) (registry : HookRegistry σ) : Prop :=
  ∀ hook point, registry.find? hook = some point → point.Obeys discipline

namespace HookRegistry

variable {registry after : HookRegistry σ} {hook handler : String} {kind : HookKind}
  {argument : HookArgument} {point : HookPoint σ}

theorem obeys_empty : (empty : HookRegistry σ).Obeys discipline :=
  fun _ _ hfind => nomatch hfind

theorem Obeys.set (h : registry.Obeys discipline) (hpoint : point.Obeys discipline) :
    (registry.set hook point).Obeys discipline := by
  intro other found hfind
  by_cases hother : other = hook
  · subst hother
    rw [find?_set_self] at hfind
    cases hfind
    exact hpoint
  · rw [find?_set_of_ne hother] at hfind
    exact h other found hfind

/-- A hook that is declared has no handlers. -/
theorem Obeys.declare (h : registry.Obeys discipline) {signature : List String}
    (hdeclare : registry.declare hook kind argument signature = .ok after) :
    after.Obeys discipline := by
  obtain ⟨hnone, rfl⟩ := declare_eq_ok_iff.mp hdeclare
  intro other found hfind
  by_cases hother : other = hook
  · subst hother
    rw [find?_append_self hnone] at hfind
    cases hfind
    exact nofun
  · rw [find?_append_of_ne hother] at hfind
    exact h other found hfind

theorem Obeys.subscribe (h : registry.Obeys discipline) {body : Body σ kind argument}
    (hbody : Body.Obeys discipline body)
    (hsubscribe : registry.subscribe hook handler kind argument body = .ok after) :
    after.Obeys discipline := by
  obtain ⟨point, hfind, -, rfl, rfl, rfl⟩ := subscribe_eq_ok_iff.mp hsubscribe
  refine h.set fun tap hmem => ?_
  obtain hmem | hmem := List.mem_append.mp hmem
  · exact h hook point hfind tap hmem
  · obtain rfl := List.mem_singleton.mp hmem
    exact hbody

/-- A hook that fires keeps its handlers, and fires them. -/
theorem Obeys.fire (h : registry.Obeys discipline) {taps : List (Tap σ kind argument)}
    (hfire : registry.fire hook kind argument = .ok (taps, after)) :
    after.Obeys discipline ∧ ∀ tap ∈ taps, Body.Obeys discipline tap.body := by
  obtain ⟨point, hfind, rfl, rfl, rfl, rfl⟩ := fire_eq_ok_iff.mp hfire
  have hpoint := h hook point hfind
  exact ⟨h.set hpoint, hpoint⟩

end HookRegistry

/-! ### What is done with hooks -/

/-- What is done with hooks is allowed if handlers obey, and keeps it so. Hooks stay what they are
declared as. -/
def HookM.Obeys (discipline : Discipline σ) (program : HookM σ α) : Prop :=
  ∀ session, session.registry.Obeys discipline →
    discipline.Allows session.scene (program.run session).journal
        (program.run session).value.2.scene ∧
      (program.run session).value.2.registry.Obeys discipline ∧
        session.registry.Keeps (program.run session).value.2.registry

namespace HookM.Obeys

variable {hook handler : String} {argument : HookArgument}

theorem pure (a : α) : Obeys discipline (Pure.pure a : HookM σ α) :=
  fun session h => ⟨discipline.refl session.scene, h, .refl _⟩

theorem bind {program : HookM σ α} {next : α → HookM σ β} (h : Obeys discipline program)
    (hnext : ∀ a, Obeys discipline (next a)) : Obeys discipline (program >>= next) := by
  intro session hsession
  obtain ⟨hallows, hobeys, hkeeps⟩ := h session hsession
  rw [Program.run_bind]
  generalize program.run session = run at hallows hobeys hkeeps
  obtain ⟨journal, failure | a, after⟩ := run
  · exact ⟨discipline.trans hallows (discipline.refl _), hobeys, hkeeps⟩
  · obtain ⟨hallows', hobeys', hkeeps'⟩ := hnext a after hobeys
    exact ⟨discipline.trans hallows hallows', hobeys', hkeeps.trans hkeeps'⟩

theorem log (level : Level) (topic : Topic) (message : String) :
    Obeys discipline (HookM.log level topic message : HookM σ Unit) :=
  fun session h => ⟨discipline.record session.scene _, h, .refl _⟩

theorem declare (hook : String) (kind : HookKind) (argument : HookArgument)
    (signature : List String) :
    Obeys discipline (HookM.declare hook kind argument signature : HookM σ Unit) := by
  intro session h
  cases hdeclare : session.registry.declare hook kind argument signature with
  | error failure =>
    rw [run_declare_of_error hdeclare]
    exact ⟨discipline.refl _, h, .refl _⟩
  | ok registry =>
    obtain ⟨record, hrun⟩ := run_declare_of_ok hdeclare
    rw [hrun]
    exact ⟨discipline.record _ _, h.declare hdeclare, HookRegistry.keeps_of_declare hdeclare⟩

theorem subscribe {kind : HookKind} {body : Body σ kind argument}
    (hbody : Body.Obeys discipline body) (hook handler : String) :
    Obeys discipline (HookM.subscribe hook handler kind argument body) := by
  intro session h
  cases hsubscribe : session.registry.subscribe hook handler kind argument body with
  | error failure =>
    rw [run_subscribe_of_error hsubscribe]
    exact ⟨discipline.refl _, h, .refl _⟩
  | ok registry =>
    obtain ⟨record, hrun⟩ := run_subscribe_of_ok hsubscribe
    rw [hrun]
    exact ⟨discipline.record _ _, h.subscribe hbody hsubscribe,
      HookRegistry.keeps_of_subscribe hsubscribe⟩

theorem call (hook : String) (value : argument.Carrier) :
    Obeys discipline (HookM.call hook argument value : HookM σ _) := by
  intro session h
  cases hfire : session.registry.fire hook .sync argument with
  | error failure =>
    rw [run_call_of_error hfire]
    exact ⟨discipline.refl _, h, .refl _⟩
  | ok fired =>
    obtain ⟨taps, registry⟩ := fired
    obtain ⟨hregistry, htaps⟩ := h.fire hfire
    rw [run_call_of_ok hfire]
    exact ⟨obeys_runAll hook htaps value session.scene, hregistry,
      HookRegistry.keeps_of_fire hfire⟩

theorem promise (patience : Nat) (hook : String) (value : argument.Carrier) :
    Obeys discipline (HookM.promise patience hook argument value : HookM σ _) := by
  intro session h
  cases hfire : session.registry.fire hook .parallel argument with
  | error failure =>
    rw [HookM.promise, run_promiseWith_of_error hfire]
    exact ⟨discipline.refl _, h, .refl _⟩
  | ok fired =>
    obtain ⟨taps, registry⟩ := fired
    obtain ⟨hregistry, htaps⟩ := h.fire hfire
    obtain ⟨hstart, htasks⟩ := obeys_startAll htaps session.scene
    rw [HookM.promise, run_promiseWith_of_ok _ value hfire rfl rfl]
    refine ⟨discipline.trans (discipline.record _ _) (discipline.trans hstart ?_), hregistry,
      HookRegistry.keeps_of_fire hfire⟩
    exact Running.obeys_settle htasks patience _

theorem declareEmission : Obeys discipline (HookM.declareEmission : HookM σ Unit) :=
  bind (declare _ _ _ _) fun _ => declare _ _ _ _

/-- The same for a run whose end is known. -/
theorem of_value_eq {program : HookM σ α} (h : Obeys discipline program)
    {session after : Session σ} {result : Except HookFailure α}
    (hsession : session.registry.Obeys discipline)
    (hvalue : (program.run session).value = (result, after)) :
    discipline.Allows session.scene (program.run session).journal after.scene ∧
      after.registry.Obeys discipline ∧ session.registry.Keeps after.registry := by
  have hobeys := h session hsession
  rwa [hvalue] at hobeys

end HookM.Obeys

/-- Plugins obey one after the other. -/
theorem Plugin.obeys_applyAll {plugins : List (Plugin σ)}
    (h : ∀ plugin ∈ plugins, HookM.Obeys discipline plugin.apply) :
    HookM.Obeys discipline (applyAll plugins) := by
  induction plugins with
  | nil => exact .pure ()
  | cons plugin plugins ih =>
    refine .bind (.log _ _ _) fun _ => .bind (h plugin (List.mem_cons_self ..)) fun _ => ?_
    exact ih fun other hmem => h other (List.mem_cons_of_mem _ hmem)

/-- The plugin that sends the bundle to another path leaves files alone. -/
theorem Plugin.quiet_changeOutputPath (path : Path) :
    (changeOutputPath path : Plugin σ).apply.Obeys .quiet := by
  have hbody : @Body.Obeys σ .quiet .sync ArgumentType.context (redirectTo path) :=
    fun _ _ => rfl
  exact .subscribe hbody _ _

end ModuleBundler
