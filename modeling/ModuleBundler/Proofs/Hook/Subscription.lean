import ModuleBundler.Plugin
import ModuleBundler.Proofs.Hook.History

/-!
# Who subscribes before whom

What the registry grants leads from one registry to the next. The handlers of a synchronous hook are
those that were subscribed with what was granted, in this order; nothing else changes them. So the
handlers that plugins subscribe stand behind those that were there before, in the order of the
plugins, those of one plugin in the order in which it has subscribed them.

A plugin that has nothing but a registry in its hands can only declare hooks, subscribe handlers,
and fire hooks. What it does next may depend on what became of it before.

## Main definitions

* `HookRegistry.Grants` — granted actions lead from one registry to another one.
* `HookRegistry.Holds` — the handlers of a synchronous hook.
* `HookM.MadeOfActions` — what is done with hooks changes them by actions only.
* `Plugin.Stages` — plugins that are applied one after the other, and what each was granted.

## Main results

* `HookRegistry.Grants.holds` — the handlers of a hook stand in the order of their subscriptions.
* `Plugin.exists_stages` — plugins that are applied without a failure go through their stages.
-/

namespace ModuleBundler

variable {σ α β : Type}

/-- The handler that an action subscribes to a synchronous hook, if the argument is right. -/
def HookAction.tap? (hook : String) (argument : HookArgument) :
    HookAction σ → Option (Tap σ .sync argument)
  | tap other handler type body =>
    if same : other = hook ∧ type = argument then
      some ⟨handler, (same.2 ▸ body : SyncHandler σ argument)⟩
    else none
  | declare .. | tapTask .. | tapCallback .. | call .. | promise .. => none

/-- The handlers that actions subscribe to a synchronous hook. -/
def HookAction.taps (hook : String) (argument : HookArgument) (actions : List (HookAction σ)) :
    List (Tap σ .sync argument) :=
  actions.filterMap (tap? hook argument)

theorem HookAction.taps_cons (hook : String) (argument : HookArgument) (action : HookAction σ)
    (actions : List (HookAction σ)) :
    taps hook argument (action :: actions) =
      (action.tap? hook argument).toList ++ taps hook argument actions := by
  rw [taps, List.filterMap_cons]
  cases action.tap? hook argument <;> rfl

namespace HookRegistry

variable {registry between after : HookRegistry σ} {hook : String} {argument : HookArgument}
  {taps : List (Tap σ .sync argument)} {action : HookAction σ} {actions more : List (HookAction σ)}

/-- The registry grants actions one after the other. -/
inductive Grants : HookRegistry σ → List (HookAction σ) → HookRegistry σ → Prop
  | nil (registry : HookRegistry σ) : Grants registry [] registry
  | cons {registry between after : HookRegistry σ} {action : HookAction σ}
    {actions : List (HookAction σ)} (hask : action.ask registry = .ok between)
    (hrest : Grants between actions after) : Grants registry (action :: actions) after

theorem Grants.append (h : registry.Grants actions between) (hmore : between.Grants more after) :
    registry.Grants (actions ++ more) after := by
  induction h with
  | nil => exact hmore
  | cons hask _ ih => exact .cons hask (ih hmore)

/-- A synchronous hook has the given handlers, whether it has fired or not. -/
def Holds (registry : HookRegistry σ) (hook : String) (argument : HookArgument)
    (taps : List (Tap σ .sync argument)) : Prop :=
  ∃ signature handlers fired,
    registry.find? hook = some ⟨.sync, argument, signature, handlers, taps, fired⟩

/-- When the hook fires, these handlers run. -/
theorem Holds.exists_fire (h : registry.Holds hook argument taps) :
    ∃ after, registry.fire hook .sync argument = .ok (taps, after) := by
  obtain ⟨signature, handlers, fired, hfind⟩ := h
  exact ⟨_, fire_eq_ok_iff.mpr ⟨_, hfind, rfl, rfl, rfl, rfl⟩⟩

/-- What is granted at another hook changes no handlers. -/
theorem Holds.of_ne (h : registry.Holds hook argument taps) (hask : action.ask registry = .ok after)
    (hne : hook ≠ action.hook) : after.Holds hook argument taps := by
  obtain ⟨signature, handlers, fired, hfind⟩ := h
  exact ⟨_, _, _, ((HookAction.moves_of_ask_eq_ok hask).2 hook hne).trans hfind⟩

/-- A handler that is subscribed stands behind the others. -/
theorem Holds.of_tap {handler : String} {type : HookArgument} {body : SyncHandler σ type}
    (h : registry.Holds hook argument taps)
    (hask : registry.subscribe hook handler .sync type body = .ok after) :
    after.Holds hook argument
      (taps ++ ((HookAction.tap hook handler type body).tap? hook argument).toList) := by
  obtain ⟨signature, handlers, fired, hfind⟩ := h
  obtain ⟨point, hpoint, -, hkind, hargument, rfl⟩ := subscribe_eq_ok_iff.mp hask
  obtain rfl := Option.some.inj (hpoint.symm.trans hfind)
  subst hargument
  refine ⟨signature, handlers ++ [handler], fired, ?_⟩
  rw [find?_set_self, HookAction.tap?, dif_pos ⟨rfl, rfl⟩]
  rfl

theorem Holds.of_fire {kind : HookKind} {type : HookArgument}
    (h : registry.Holds hook argument taps)
    (hask : (registry.fire hook kind type).map Prod.snd = .ok after) :
    after.Holds hook argument taps := by
  obtain ⟨signature, handlers, fired, hfind⟩ := h
  obtain ⟨⟨fires, _⟩, hfire, rfl⟩ := Except.map_eq_ok_iff.mp hask
  obtain ⟨point, hpoint, -, -, -, rfl⟩ := fire_eq_ok_iff.mp hfire
  obtain rfl := Option.some.inj (hpoint.symm.trans hfind)
  exact ⟨signature, handlers, true, find?_set_self ..⟩

/-- No task is granted at a synchronous hook. -/
theorem Holds.ne_of_subscribe_parallel {other handler : String} {type : HookArgument}
    {body : ParallelHandler σ type} (h : registry.Holds hook argument taps)
    (hask : registry.subscribe other handler .parallel type body = .ok after) : hook ≠ other := by
  rintro rfl
  obtain ⟨signature, handlers, fired, hfind⟩ := h
  obtain ⟨point, hpoint, -, hkind, -⟩ := subscribe_eq_ok_iff.mp hask
  obtain rfl := Option.some.inj (hpoint.symm.trans hfind)
  cases hkind

/-- Granted actions add the handlers that they subscribe, and change no others. -/
theorem Holds.ask (h : registry.Holds hook argument taps) (hask : action.ask registry = .ok after) :
    after.Holds hook argument (taps ++ (action.tap? hook argument).toList) := by
  by_cases hhook : hook = action.hook
  case neg =>
    have hnone : action.tap? hook argument = none := by
      cases action with
      | tap => exact dif_neg fun same => hhook same.1.symm
      | declare | tapTask | tapCallback | call | promise => rfl
    rw [hnone, Option.toList_none, List.append_nil]
    exact h.of_ne hask hhook
  subst hhook
  cases action with
  | declare hook kind type signature =>
    obtain ⟨_, _, _, hfind⟩ := h
    cases (declare_eq_ok_iff.mp hask).1.symm.trans hfind
  | tap => exact h.of_tap hask
  | tapTask | tapCallback => exact absurd rfl (h.ne_of_subscribe_parallel hask)
  | call | promise => exact (List.append_nil taps).symm ▸ h.of_fire hask

/-- **The handlers of a hook stand in the order of their subscriptions.** -/
theorem Grants.holds (hgrants : registry.Grants actions after)
    (h : registry.Holds hook argument taps) :
    after.Holds hook argument (taps ++ HookAction.taps hook argument actions) := by
  induction hgrants generalizing taps with
  | nil => rwa [HookAction.taps, List.filterMap_nil, List.append_nil]
  | @cons _ _ _ action actions hask _ ih =>
    have hrest := ih (h.ask hask)
    rwa [List.append_assoc, ← HookAction.taps_cons] at hrest

end HookRegistry

/-! ### What is done with hooks -/

/-- What is done with hooks changes them by actions only: those that the registry grants lead from
the registry before to the registry after, whether all of it succeeds or not. -/
def HookM.MadeOfActions (program : HookM σ α) : Prop :=
  ∀ session : Session σ, ∃ granted,
    session.registry.Grants granted (program.run session).value.2.registry

namespace HookM.MadeOfActions

theorem pure (a : α) : MadeOfActions (Pure.pure a : HookM σ α) :=
  fun session => ⟨[], .nil session.registry⟩

theorem log (level : Level) (topic : Topic) (message : String) :
    MadeOfActions (HookM.log level topic message : HookM σ Unit) :=
  fun session => ⟨[], .nil session.registry⟩

theorem bind {program : HookM σ α} {next : α → HookM σ β} (h : MadeOfActions program)
    (hnext : ∀ a, MadeOfActions (next a)) : MadeOfActions (program >>= next) := by
  intro session
  obtain ⟨granted, hgranted⟩ := h session
  rw [Program.run_bind]
  generalize program.run session = run at hgranted
  obtain ⟨journal, failure | a, between⟩ := run
  · exact ⟨granted, hgranted⟩
  · obtain ⟨more, hmore⟩ := hnext a between
    exact ⟨granted ++ more, hgranted.append hmore⟩

/-- An action is granted, or it changes nothing. -/
theorem perform (action : HookAction σ) : MadeOfActions action.perform := by
  intro session
  cases hask : action.ask session.registry with
  | error failure =>
    rw [HookAction.run_perform_of_ask_eq_error hask]
    exact ⟨[], .nil session.registry⟩
  | ok registry =>
    obtain ⟨journal, result, scene, hrun, -⟩ := HookAction.run_perform_of_ask_eq_ok hask
    rw [hrun]
    exact ⟨[action], .cons hask (.nil registry)⟩

end HookM.MadeOfActions

/-! ### Plugins -/

namespace Plugin

variable {session after : Session σ} {plugins : List (Plugin σ)}
  {stages : List (List (HookAction σ))}

/-- Plugins are applied one after the other, each with what it was granted. -/
inductive Stages : Session σ → List (Plugin σ) → List (List (HookAction σ)) → Session σ → Prop
  | done (session : Session σ) : Stages session [] [] session
  | next {session between after : Session σ} {plugin : Plugin σ} {plugins : List (Plugin σ)}
    {granted : List (HookAction σ)} {stages : List (List (HookAction σ))}
    (happly : (plugin.apply.run session).value = (.ok (), between))
    (hgrants : session.registry.Grants granted between.registry)
    (hrest : Stages between plugins stages after) :
    Stages session (plugin :: plugins) (granted :: stages) after

theorem Stages.grants (h : Stages session plugins stages after) :
    session.registry.Grants stages.flatten after.registry := by
  induction h with
  | done session => exact .nil session.registry
  | next _ hgrants _ ih => exact hgrants.append ih

/-- Plugins that change hooks by actions only, and are applied without a failure, go through their
stages. -/
theorem exists_stages (hactions : ∀ plugin ∈ plugins, plugin.apply.MadeOfActions)
    (h : ((applyAll plugins).run session).value = (.ok (), after)) :
    ∃ stages, Stages session plugins stages after := by
  induction plugins generalizing session with
  | nil =>
    cases h
    exact ⟨[], .done _⟩
  | cons plugin plugins ih =>
    obtain ⟨granted, hgrants⟩ := hactions plugin List.mem_cons_self session
    have hcons : (applyAll (plugin :: plugins)).run session = _ :=
      Program.run_bind_of_ok (HookM.run_log ..)
    rw [hcons] at h
    rcases hrun : plugin.apply.run session with ⟨journal, failure | _, between⟩
    · rw [Program.run_bind_of_error hrun] at h
      cases h
    · rw [Program.run_bind_of_ok hrun] at h
      rw [hrun] at hgrants
      obtain ⟨stages, hstages⟩ := ih (fun other hmem => hactions other (.tail _ hmem)) h
      exact ⟨granted :: stages, .next (congrArg Traced.value hrun) hgrants hstages⟩

end Plugin

end ModuleBundler
