import ModuleBundler.Plugin
import ModuleBundler.Proofs.Hook.Session

/-!
# Where plugins send the bundle

The built-in plugin subscribes a handler that sends the bundle to its path. When several such
plugins are applied, their handlers run in the order of the plugins, and the last one decides.

## Main definitions

* `HookRegistry.SendsTo` — the handlers of a registry send the bundle to some paths in turn.

## Main results

* `Plugin.exists_applyAll_changeOutputPath` — what plugins subscribe when they are applied.
* `HookM.value_call_of_sendsTo` — the last of their paths is that of the bundle.
-/

namespace ModuleBundler

variable {σ : Type}

/-- The handler of the plugin that sends the bundle to a path, under its name. -/
def redirection (path : Path) : Tap σ .sync ArgumentType.context :=
  ⟨Plugin.changeOutputPathName, Plugin.redirectTo path⟩

/-- Before the bundle is written, handlers send it to the paths, one after the other. -/
def HookRegistry.SendsTo (registry : HookRegistry σ) (paths : List Path) : Prop :=
  ∃ signature handlers, registry.find? emitHook =
    some ⟨.sync, ArgumentType.context, signature, handlers, paths.map redirection, false⟩

/-- One more plugin has the last word. -/
theorem HookRegistry.SendsTo.subscribe {registry : HookRegistry σ} {paths : List Path}
    (h : registry.SendsTo paths) (path : Path) :
    ∃ after, registry.subscribe emitHook Plugin.changeOutputPathName .sync ArgumentType.context
        (Plugin.redirectTo path) = .ok after ∧ after.SendsTo (paths ++ [path]) := by
  obtain ⟨signature, handlers, hfind⟩ := h
  refine ⟨_, HookRegistry.subscribe_of_not_fired hfind rfl (Plugin.redirectTo path), signature,
    handlers ++ [Plugin.changeOutputPathName], ?_⟩
  rw [HookRegistry.find?_set_self, List.map_append]
  rfl

/-- When the hook fires, these handlers run. -/
theorem HookRegistry.SendsTo.fire {registry : HookRegistry σ} {paths : List Path}
    (h : registry.SendsTo paths) : ∃ after,
      registry.fire emitHook .sync ArgumentType.context = .ok (paths.map redirection, after) := by
  obtain ⟨signature, handlers, hfind⟩ := h
  exact ⟨_, HookRegistry.fire_eq_ok_iff.mpr ⟨_, hfind, rfl, rfl, rfl, rfl⟩⟩

namespace Plugin

/-- A plugin that is applied subscribes its handler. -/
theorem exists_apply_changeOutputPath {session : Session σ} {paths : List Path}
    (h : session.registry.SendsTo paths) (path : Path) :
    ∃ record registry, (changeOutputPath path).apply.run session =
        ⟨[.record record], .ok (), { session with registry }⟩ ∧
      registry.SendsTo (paths ++ [path]) := by
  obtain ⟨registry, hsubscribe, hsends⟩ := h.subscribe path
  obtain ⟨record, hrun⟩ := HookM.run_subscribe_of_ok hsubscribe
  exact ⟨record, registry, hrun, hsends⟩

/-- Plugins that are applied subscribe their handlers in order. -/
theorem exists_applyAll_changeOutputPath {session : Session σ} {paths : List Path}
    (h : session.registry.SendsTo paths) (more : List Path) :
    ∃ journal registry, (applyAll (more.map changeOutputPath)).run session =
        ⟨journal, .ok (), { session with registry }⟩ ∧ registry.SendsTo (paths ++ more) := by
  induction more generalizing session paths with
  | nil => exact ⟨[], session.registry, rfl, by rwa [List.append_nil]⟩
  | cons path more ih =>
    obtain ⟨record, registry, hrun, hsends⟩ := exists_apply_changeOutputPath h path
    have hsession : (Session.mk registry session.scene).registry.SendsTo (paths ++ [path]) := hsends
    obtain ⟨journal, last, hmore, hlast⟩ := ih hsession
    refine ⟨_, last, Program.run_bind_eq (HookM.run_log ..) (Program.run_bind_eq hrun hmore), ?_⟩
    rwa [List.append_assoc] at hlast

end Plugin

namespace HookM

/-- Handlers that send the bundle to paths leave it at the last one. -/
theorem value_runAll_redirection (paths : List Path) (path : Path) (scene : Scene σ) :
    (runAll emitHook (paths.map redirection) ⟨path⟩ scene).value =
      ((⟨paths.getLast?.getD path⟩, .ok ()), scene) := by
  induction paths generalizing path with
  | nil => rfl
  | cons first paths ih =>
    have hrest := ih first
    rw [List.getLast?_cons]
    exact hrest

/-- The last of the paths to which handlers send the bundle is its path; if there is none, it stays
where it was. -/
theorem value_call_of_sendsTo {session : Session σ} {paths : List Path}
    (h : session.registry.SendsTo paths) (path : Path) :
    ∃ registry, ((call emitHook ArgumentType.context ⟨path⟩).run session).value =
      (.ok (⟨paths.getLast?.getD path⟩, .ok ()), { session with registry }) := by
  obtain ⟨registry, hfire⟩ := h.fire
  have hvalue := congrArg Traced.value (run_call_of_ok hfire (⟨path⟩ : BuildContext))
  have hhandlers := value_runAll_redirection paths path session.scene
  refine ⟨registry, hvalue.trans ?_⟩
  dsimp only
  rw [hhandlers]

end HookM

/-- When the hooks of a build are declared, nothing sends the bundle anywhere. -/
theorem HookM.sendsTo_declareEmission (state : σ) :
    (HookM.declareEmission.run ⟨.empty, .ofState state⟩).value.2.registry.SendsTo [] :=
  ⟨_, _, rfl⟩

end ModuleBundler
