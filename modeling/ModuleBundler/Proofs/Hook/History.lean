import ModuleBundler.Proofs.Hook.Session

/-!
# Histories of hooks

Things are done with hooks one after the other, and some of them are refused. What takes effect is
an *event* of its hook: a declaration, a subscription, or a firing. A firing takes effect when the
hook is declared with the kind and the argument for which it is fired, whatever the handlers come
to. What a registry holds of a hook can be read off the events of this hook alone.

## Main definitions

* `HookAction`, `HookStep` — what is done, and in which session.
* `Session.history`, `Session.events` — all that is done, and what of it takes effect on a hook.
* `HookStep.Moves` — what a step does to a hook.
* `HookPoint.Recorded` — a hook is what its events say.

## Main results

* `HookStep.moves` — every step moves every hook.
* `Session.chronicled` — hooks are what their events say, and frozen when they have fired.
-/

namespace ModuleBundler

variable {σ : Type}

/-! ### Steps -/

/-- What happens to a hook. -/
inductive HookEvent where
  | declared (kind : HookKind) (argument : HookArgument) (signature : List String)
  | subscribed (handler : String)
  | fired
  deriving DecidableEq, Repr

namespace HookEvent

/-- What a hook is declared as. -/
def declaration? : HookEvent → Option (HookKind × HookArgument × List String)
  | declared kind argument signature => some (kind, argument, signature)
  | subscribed _ | fired => none

/-- The handler that is subscribed. -/
def handler? : HookEvent → Option String
  | subscribed handler => some handler
  | declared .. | fired => none

/-- What happens to a hook leads from what there was of it to what there is. Handlers are subscribed
to hooks that have not fired. -/
inductive Moves : HookEvent → Option (HookPoint σ) → Option (HookPoint σ) → Prop
  | declared (kind : HookKind) (argument : HookArgument) (signature : List String) :
    Moves (.declared kind argument signature) none (some (.declared kind argument signature))
  | subscribed (point : HookPoint σ) (tap : Tap σ point.kind point.argument)
    (hfired : point.fired = false) :
    Moves (.subscribed tap.name) (some point) (some (point.add tap))
  | fired (point : HookPoint σ) : Moves .fired (some point) (some { point with fired := true })

end HookEvent

/-- What can be done with hooks. -/
inductive HookAction (σ : Type) where
  | declare (hook : String) (kind : HookKind) (argument : HookArgument) (signature : List String)
  | tap (hook handler : String) (argument : HookArgument) (body : SyncHandler σ argument)
  | tapTask (hook handler : String) (argument : HookArgument) (body : ParallelHandler σ argument)
  | tapCallback (hook handler : String) (argument : HookArgument)
      (body : argument.Carrier → Nat → HandlerM σ Unit)
  | call (hook : String) (argument : HookArgument) (value : argument.Carrier)
  | promise (wait : List (Running σ) → HandlerM σ (Option (List Outcome))) (hook : String)
      (argument : HookArgument) (value : argument.Carrier)

namespace HookAction

/-- The hook that something is done with. -/
def hook : HookAction σ → String
  | declare hook .. | tap hook .. | tapTask hook .. | tapCallback hook .. | call hook ..
  | promise _ hook .. => hook

/-- Does it. -/
def perform : HookAction σ → HookM σ Unit
  | declare hook kind argument signature => HookM.declare hook kind argument signature
  | tap hook handler argument body => HookM.tap hook handler argument body
  | tapTask hook handler argument body => HookM.tapTask hook handler argument body
  | tapCallback hook handler argument body => HookM.tapCallback hook handler argument body
  | call hook argument value => do
    let (_, outcome) ← HookM.call hook argument value
    MonadExcept.ofExcept outcome
  | promise wait hook argument value => do
    let _ ← HookM.promiseWith wait hook argument value

/-- What it is for the hook, if it takes effect. -/
def event : HookAction σ → HookEvent
  | declare _ kind argument signature => .declared kind argument signature
  | tap _ handler .. | tapTask _ handler .. | tapCallback _ handler .. => .subscribed handler
  | call .. | promise .. => .fired

/-- The handler that is to be subscribed, and the kind of hook that it is for. -/
def subscription? : HookAction σ → Option (String × HookKind)
  | tap _ handler .. => some (handler, .sync)
  | tapTask _ handler .. | tapCallback _ handler .. => some (handler, .parallel)
  | _ => none

/-- The kind and the argument for which a hook is to be fired. -/
def firing? : HookAction σ → Option (HookKind × HookArgument)
  | call _ argument _ => some (.sync, argument)
  | promise _ _ argument _ => some (.parallel, argument)
  | _ => none

/-- What the registry says to it. -/
def ask (registry : HookRegistry σ) : HookAction σ → Except HookFailure (HookRegistry σ)
  | declare hook kind argument signature => registry.declare hook kind argument signature
  | tap hook handler argument body => registry.subscribe hook handler .sync argument body
  | tapTask hook handler argument body => registry.subscribe hook handler .parallel argument body
  | tapCallback hook handler argument body =>
    registry.subscribe hook handler .parallel argument (HookM.withCallback body)
  | call hook argument _ => (registry.fire hook .sync argument).map Prod.snd
  | promise _ hook argument _ => (registry.fire hook .parallel argument).map Prod.snd

end HookAction

/-- Something that is done in a session. -/
structure HookStep (σ : Type) where
  before : Session σ
  action : HookAction σ

namespace HookStep

/-- Whether it succeeds. -/
def result (step : HookStep σ) : Except HookFailure Unit :=
  (step.action.perform.run step.before).value.1

/-- The session afterwards. -/
def after (step : HookStep σ) : Session σ :=
  (step.action.perform.run step.before).value.2

/-- Does the step take effect? Declarations and subscriptions do if they succeed; firings do if the
hook is declared, with the right kind and argument. -/
def takesEffect (step : HookStep σ) : Bool :=
  match step.action.firing? with
  | none => step.result.isOk
  | some (kind, argument) =>
    (step.before.registry.find? step.action.hook).any fun point =>
      point.kind = kind ∧ point.argument = argument

/-- What the step is for a hook, if it takes effect on it. -/
def event? (hook : String) (step : HookStep σ) : Option HookEvent :=
  if step.action.hook = hook ∧ step.takesEffect then some step.action.event else none

end HookStep

namespace Session

/-- The session after all that is done. -/
def afterAll : Session σ → List (HookAction σ) → Session σ
  | session, [] => session
  | session, action :: actions => afterAll (HookStep.after ⟨session, action⟩) actions

/-- All that is done, with the sessions in which it is done. -/
def history : Session σ → List (HookAction σ) → List (HookStep σ)
  | _, [] => []
  | session, action :: actions =>
    ⟨session, action⟩ :: history (HookStep.after ⟨session, action⟩) actions

/-- What of it takes effect on a hook. -/
def events (session : Session σ) (actions : List (HookAction σ)) (hook : String) : List HookEvent :=
  (session.history actions).filterMap (HookStep.event? hook)

end Session

/-! ### What the registry says to a step -/

namespace HookAction

variable {action : HookAction σ} {registry after : HookRegistry σ}

/-- What is granted moves the hook, and no other one. -/
theorem moves_of_ask_eq_ok (h : action.ask registry = .ok after) :
    action.event.Moves (registry.find? action.hook) (after.find? action.hook) ∧
      ∀ other, other ≠ action.hook → after.find? other = registry.find? other := by
  have subscribe {hook handler : String} {kind : HookKind} {argument : HookArgument}
      {body : Body σ kind argument}
      (h : registry.subscribe hook handler kind argument body = .ok after) :
      HookEvent.Moves (.subscribed handler) (registry.find? hook) (after.find? hook) ∧
        ∀ other, other ≠ hook → after.find? other = registry.find? other := by
    obtain ⟨point, hfind, hfired, rfl, rfl, rfl⟩ := HookRegistry.subscribe_eq_ok_iff.mp h
    rw [hfind, HookRegistry.find?_set_self]
    exact ⟨.subscribed point ⟨handler, body⟩ hfired,
      fun other hne => HookRegistry.find?_set_of_ne hne ..⟩
  have fire {hook : String} {kind : HookKind} {argument : HookArgument}
      (h : (registry.fire hook kind argument).map Prod.snd = .ok after) :
      HookEvent.Moves .fired (registry.find? hook) (after.find? hook) ∧
        ∀ other, other ≠ hook → after.find? other = registry.find? other := by
    obtain ⟨⟨taps, _⟩, hfire, rfl⟩ := Except.map_eq_ok_iff.mp h
    obtain ⟨point, hfind, rfl, rfl, -, rfl⟩ := HookRegistry.fire_eq_ok_iff.mp hfire
    rw [hfind, HookRegistry.find?_set_self]
    exact ⟨.fired point, fun other hne => HookRegistry.find?_set_of_ne hne ..⟩
  cases action with
  | declare hook kind argument signature =>
    obtain ⟨hfind, rfl⟩ := HookRegistry.declare_eq_ok_iff.mp h
    change HookEvent.Moves _ (registry.find? hook) _ ∧ _
    rw [hfind]
    refine ⟨?_, fun other hne => HookRegistry.find?_append_of_ne hne ..⟩
    exact (HookRegistry.find?_append_self hfind _).symm ▸ .declared kind argument signature
  | tap | tapTask | tapCallback => exact subscribe h
  | call | promise => exact fire h

/-- A hook is fired for its kind and its argument. -/
theorem exists_ask_iff_of_firing {kind : HookKind} {argument : HookArgument}
    (h : action.firing? = some (kind, argument)) :
    (∃ after, action.ask registry = .ok after) ↔ ∃ point,
      registry.find? action.hook = some point ∧ point.kind = kind ∧ point.argument = argument := by
  have fire (hook : String) : (∃ after, (registry.fire hook kind argument).map Prod.snd =
      .ok after) ↔ ∃ point, registry.find? hook = some point ∧ point.kind = kind ∧
        point.argument = argument := by
    constructor
    · rintro ⟨after, h⟩
      obtain ⟨⟨taps, _⟩, hfire, -⟩ := Except.map_eq_ok_iff.mp h
      obtain ⟨point, hfind, hkind, hargument, -⟩ := HookRegistry.fire_eq_ok_iff.mp hfire
      exact ⟨point, hfind, hkind, hargument⟩
    · rintro ⟨point, hfind, rfl, rfl⟩
      exact ⟨_, Except.map_eq_ok_iff.mpr
        ⟨_, HookRegistry.fire_eq_ok_iff.mpr ⟨point, hfind, rfl, rfl, rfl, rfl⟩, rfl⟩⟩
  cases action with
  | declare | tap | tapTask | tapCallback => cases h
  | call | promise =>
    cases h
    exact fire _

/-- What is refused changes nothing. -/
theorem run_perform_of_ask_eq_error {session : Session σ} {failure : HookFailure}
    (h : action.ask session.registry = .error failure) :
    action.perform.run session = ⟨[], .error failure, session⟩ := by
  cases action with
  | declare => exact HookM.run_declare_of_error h
  | tap | tapTask | tapCallback => exact HookM.run_subscribe_of_error h
  | call hook argument value =>
    have hfire := Except.map_eq_error_iff.mp h
    exact Program.run_bind_eq (HookM.run_call_of_error hfire value) (HookM.run_ofExcept _ _)
  | promise wait hook argument value =>
    have hfire := Except.map_eq_error_iff.mp h
    exact Program.run_bind_of_error (HookM.run_promiseWith_of_error hfire wait value)

/-- What is granted leads to the registry that was granted, and fails only if handlers do. -/
theorem run_perform_of_ask_eq_ok {session : Session σ}
    (h : action.ask session.registry = .ok registry) :
    ∃ journal result scene,
      action.perform.run session = ⟨journal, result, ⟨registry, scene⟩⟩ ∧
        (action.firing? = none → result = .ok ()) := by
  cases action with
  | declare =>
    obtain ⟨record, hrun⟩ := HookM.run_declare_of_ok h
    exact ⟨_, _, _, hrun, fun _ => rfl⟩
  | tap | tapTask | tapCallback =>
    obtain ⟨record, hrun⟩ := HookM.run_subscribe_of_ok h
    exact ⟨_, _, _, hrun, fun _ => rfl⟩
  | call hook argument value =>
    obtain ⟨⟨taps, _⟩, hfire, rfl⟩ := Except.map_eq_ok_iff.mp h
    exact ⟨_, _, _, Program.run_bind_eq (HookM.run_call_of_ok hfire value)
      (HookM.run_ofExcept _ _), nofun⟩
  | promise wait hook argument value =>
    obtain ⟨⟨taps, _⟩, hfire, rfl⟩ := Except.map_eq_ok_iff.mp h
    have hrun := HookM.run_promiseWith_of_ok wait value hfire rfl rfl
    generalize HookM.conclude hook taps _ = result at hrun
    cases result with
    | ok settlement => exact ⟨_, _, _, Program.run_bind_eq hrun rfl, nofun⟩
    | error failure => exact ⟨_, _, _, Program.run_bind_of_error hrun, nofun⟩

end HookAction

namespace HookStep

variable {step : HookStep σ} {registry : HookRegistry σ} {hook : String}

theorem of_ask_eq_error {failure : HookFailure}
    (h : step.action.ask step.before.registry = .error failure) :
    step.result = .error failure ∧ step.after = step.before := by
  have hrun := HookAction.run_perform_of_ask_eq_error h
  exact ⟨congrArg (·.value.1) hrun, congrArg (·.value.2) hrun⟩

theorem of_ask_eq_ok (h : step.action.ask step.before.registry = .ok registry) :
    step.after.registry = registry ∧
      (step.action.firing? = none → step.result = .ok ()) := by
  obtain ⟨journal, result, scene, hrun, hresult⟩ := HookAction.run_perform_of_ask_eq_ok h
  refine ⟨congrArg (·.value.2.registry) hrun, fun hfiring => ?_⟩
  rw [← hresult hfiring]
  exact congrArg (·.value.1) hrun

/-- What takes effect is what the registry grants. -/
theorem takesEffect_iff : step.takesEffect ↔ ∃ registry, step.action.ask step.before.registry =
    .ok registry := by
  unfold takesEffect
  cases hfiring : step.action.firing? with
  | none =>
    cases hask : step.action.ask step.before.registry with
    | error failure => simp [(of_ask_eq_error hask).1, Except.isOk, Except.toBool]
    | ok registry => simp [(of_ask_eq_ok hask).2 hfiring, Except.isOk, Except.toBool]
  | some wanted =>
    obtain ⟨kind, argument⟩ := wanted
    rw [HookAction.exists_ask_iff_of_firing hfiring]
    simp [Option.any_eq_true]

/-- Every step moves a hook as its event says, or leaves it as it is. -/
theorem moves (step : HookStep σ) (hook : String) :
    (step.event? hook = none ∧
      step.after.registry.find? hook = step.before.registry.find? hook) ∨
    ∃ event, step.event? hook = some event ∧
      event.Moves (step.before.registry.find? hook) (step.after.registry.find? hook) := by
  unfold event?
  by_cases heffect : step.takesEffect
  · obtain ⟨registry, hask⟩ := takesEffect_iff.mp heffect
    obtain ⟨hmoves, hother⟩ := HookAction.moves_of_ask_eq_ok hask
    rw [(of_ask_eq_ok hask).1]
    by_cases hhook : step.action.hook = hook
    · subst hhook
      exact .inr ⟨_, if_pos ⟨rfl, heffect⟩, hmoves⟩
    · exact .inl ⟨if_neg fun h => hhook h.1, hother hook (Ne.symm hhook)⟩
  · refine .inl ⟨if_neg fun h => heffect h.2, ?_⟩
    cases hask : step.action.ask step.before.registry with
    | error failure => rw [(of_ask_eq_error hask).2]
    | ok registry => exact absurd (takesEffect_iff.mpr ⟨registry, hask⟩) heffect

/-- Who subscribes to a hook that has fired is told so, if the kind is right. -/
theorem result_of_fired {point : HookPoint σ} {handler : String}
    (hfind : step.before.registry.find? step.action.hook = some point)
    (hfired : point.fired = true)
    (hsubscription : step.action.subscription? = some (handler, point.kind)) :
    step.result = .error (.late step.action.hook handler) := by
  refine (of_ask_eq_error ?_).1
  obtain ⟨before, action⟩ := step
  cases action with
  | declare | call | promise => cases hsubscription
  | tap | tapTask | tapCallback =>
    obtain ⟨rfl, hkind⟩ := Prod.mk.inj (Option.some.inj hsubscription)
    exact HookRegistry.subscribe_of_fired hfind hkind.symm hfired

end HookStep

/-! ### Whole histories -/

/-- A hook is what its events say: it was declared once, as what it is; its handlers are those that
were subscribed, in this order, and are stored in this order; it has fired if some firing took
effect. -/
structure HookPoint.Recorded (events : List HookEvent) (point : HookPoint σ) : Prop where
  declared : events.filterMap HookEvent.declaration? =
    [(point.kind, point.argument, point.signature)]
  handlers : point.handlers = events.filterMap HookEvent.handler?
  stored : point.taps.map Tap.name = point.handlers
  fired : point.fired = true ↔ .fired ∈ events

/-- What there is of a hook is what its events say. Without events there is no hook. -/
def HookEvent.Tell (events : List HookEvent) : Option (HookPoint σ) → Prop
  | none => events = []
  | some point => point.Recorded events

/-- An event adds to what is told of a hook. -/
theorem HookEvent.Moves.tell {event : HookEvent} {before after : Option (HookPoint σ)}
    (h : event.Moves before after) {events : List HookEvent}
    (htell : HookEvent.Tell events before) :
    HookEvent.Tell (events ++ [event]) after := by
  cases h with
  | declared kind argument signature =>
    obtain rfl : events = [] := htell
    exact ⟨rfl, rfl, rfl, by simp [HookPoint.declared]⟩
  | subscribed point tap hfired =>
    refine ⟨?_, ?_, ?_, ?_⟩
    · rw [List.filterMap_append, htell.declared]
      rfl
    · rw [List.filterMap_append, ← htell.handlers]
      rfl
    · change (point.taps ++ [tap]).map Tap.name = point.handlers ++ [tap.name]
      rw [List.map_append, htell.stored]
      rfl
    · simpa [HookPoint.add] using htell.fired
  | fired point =>
    refine ⟨?_, ?_, htell.stored, ?_⟩
    · rw [List.filterMap_append, htell.declared]
      rfl
    · rw [List.filterMap_append, ← htell.handlers]
      exact (List.append_nil _).symm
    · simp

/-- Nothing happens to a hook that has fired but that it fires again. -/
theorem HookEvent.Moves.eq_of_fired {event : HookEvent} {point : HookPoint σ}
    {after : Option (HookPoint σ)} (h : event.Moves (some point) after)
    (hfired : point.fired = true) : after = some point := by
  cases h with
  | subscribed _ _ hnot => exact absurd (hfired.symm.trans hnot) nofun
  | fired => rw [← hfired]

namespace Session

/-- What is told of a hook is told at every time. -/
theorem tell_events (session : Session σ) (actions : List (HookAction σ)) (hook : String)
    {past : List HookEvent} (h : HookEvent.Tell past (session.registry.find? hook)) :
    HookEvent.Tell (past ++ session.events actions hook)
      ((session.afterAll actions).registry.find? hook) := by
  induction actions generalizing session past with
  | nil => rwa [events, history, List.filterMap_nil, List.append_nil]
  | cons action actions ih =>
    obtain ⟨hevent, hfind⟩ | ⟨event, hevent, hmoves⟩ := (HookStep.mk session action).moves hook
    · rw [events, history, List.filterMap_cons_none hevent]
      exact ih _ (hfind ▸ h)
    · rw [events, history, List.filterMap_cons_some hevent, List.append_cons]
      exact ih _ (hmoves.tell h)

/-- A hook that has fired stays as it is, and takes no handlers of its kind. -/
theorem frozen (session : Session σ) (actions : List (HookAction σ)) {hook : String}
    {point : HookPoint σ} (hfind : session.registry.find? hook = some point)
    (hfired : point.fired = true) :
    (session.afterAll actions).registry.find? hook = some point ∧
      ∀ step ∈ session.history actions, ∀ handler, step.action.hook = hook →
        step.action.subscription? = some (handler, point.kind) →
          step.result = .error (.late hook handler) := by
  induction actions generalizing session with
  | nil => exact ⟨hfind, nofun⟩
  | cons action actions ih =>
    have hafter : (HookStep.mk session action).after.registry.find? hook = some point := by
      obtain ⟨-, hsame⟩ | ⟨event, -, hmoves⟩ := (HookStep.mk session action).moves hook
      · exact hsame.trans hfind
      · exact (hfind ▸ hmoves : event.Moves (some point) _).eq_of_fired hfired
    obtain ⟨hlast, hlate⟩ := ih _ hafter
    refine ⟨hlast, fun step hstep handler hhook hsubscription => ?_⟩
    obtain rfl | hstep := List.mem_cons.mp hstep
    · subst hhook
      exact HookStep.result_of_fired hfind hfired hsubscription
    · exact hlate step hstep handler hhook hsubscription

/-- What there is of a hook after all that was done, and what will become of it. -/
structure Chronicled (session : Session σ) (actions : List (HookAction σ)) (hook : String) :
    Prop where
  /-- The hook is what its events say. -/
  told : HookEvent.Tell (session.events actions hook)
    ((session.afterAll actions).registry.find? hook)
  /-- If it is fired, the handlers are those of the hook. -/
  fire : ∀ point, (session.afterAll actions).registry.find? hook = some point →
    ∀ kind argument taps registry,
      (session.afterAll actions).registry.fire hook kind argument = .ok (taps, registry) →
        taps.map Tap.name = point.handlers
  /-- Once it has fired it stays as it is, and whoever subscribes is told to be late. -/
  frozen : ∀ point, (session.afterAll actions).registry.find? hook = some point →
    point.fired = true → ∀ more,
      (session.afterAll (actions ++ more)).registry.find? hook = some point ∧
        ∀ step ∈ (session.afterAll actions).history more, ∀ handler, step.action.hook = hook →
          step.action.subscription? = some (handler, point.kind) →
            step.result = .error (.late hook handler)
  /-- What is done with other hooks leaves it as it is. -/
  apart : ∀ step ∈ session.history actions, step.action.hook ≠ hook →
    step.after.registry.find? hook = step.before.registry.find? hook

theorem afterAll_append (session : Session σ) (actions more : List (HookAction σ)) :
    session.afterAll (actions ++ more) = (session.afterAll actions).afterAll more := by
  induction actions generalizing session with
  | nil => rfl
  | cons action actions ih => exact ih _

/-- **The handlers of a hook are frozen when it fires.** Whatever is done with hooks of which none
was declared, each hook is what its events say: declared once, with the handlers that were
subscribed to it, stored in this order, and fired if it was fired for its kind and argument. From
then on it stays as it is. -/
theorem chronicled (scene : Scene σ) (actions : List (HookAction σ)) (hook : String) :
    (Session.mk .empty scene).Chronicled actions hook := by
  have htold := tell_events ⟨.empty, scene⟩ actions hook (show HookEvent.Tell [] none from rfl)
  rw [List.nil_append] at htold
  refine ⟨htold, ?_, ?_, ?_⟩
  · intro point hfind kind argument taps registry hfire
    obtain ⟨point', hfind', rfl, rfl, rfl, -⟩ := HookRegistry.fire_eq_ok_iff.mp hfire
    obtain rfl : point = point' := Option.some.inj (hfind.symm.trans hfind')
    rw [hfind] at htold
    exact htold.stored
  · intro point hfind hfired more
    rw [afterAll_append]
    exact frozen _ more hfind hfired
  · intro step _ hne
    obtain ⟨-, hsame⟩ | ⟨event, hevent, -⟩ := step.moves hook
    · exact hsame
    · exact absurd ((if_neg fun h => hne h.1).symm.trans hevent) nofun

/-- A firing of the wrong kind takes no effect; one whose handler fails does, and is the last chance
to subscribe. -/
example : (Session.mk .empty (.ofState ())).events [
    .declare "count" .sync ArgumentType.number ["value"],
    .tap "count" "first" ArgumentType.number fun value => return (value, .ok ()),
    .promise (settle 0) "count" ArgumentType.number (7 : UInt32),
    .tap "count" "second" ArgumentType.number fun value => return (value, .error (.ofMessage "no")),
    .call "count" ArgumentType.number (7 : UInt32),
    .tap "count" "third" ArgumentType.number fun value => return (value, .ok ())] "count" =
    [.declared .sync ArgumentType.number ["value"], .subscribed "first", .subscribed "second",
      .fired] :=
  rfl

end Session

end ModuleBundler
