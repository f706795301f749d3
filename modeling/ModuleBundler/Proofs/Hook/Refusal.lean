import ModuleBundler.Proofs.Hook.History
import ModuleBundler.Proofs.Hook.Schedule
import ModuleBundler.Proofs.Hook.Succession

/-!
# Refusals

What is to be done with a hook is refused for the first reason there is against it: the hook is not
declared, it is of another kind, it has fired already, it takes another argument. A hook is declared
unless there is one with this name. Who is refused has done nothing, and what follows is as if
nobody had asked. Whatever else fails has failed in a handler of a hook that was fired.

## Main definitions

* `HookDemand`, `HookAction.demand?` — what is asked of a hook for something to be done with it.
* `HookRegistry.Refuses`, `HookAction.Refused` — the first reason against it.
* `HookStep.Judged` — when a step fails, and what its failure leaves behind.
* `Session.granted` — all that is done without what is refused.

## Main results

* `HookAction.refused_iff_ask` — the registry refuses what there is a reason against.
* `HookStep.judged` — failures leave the hooks as they were, but for the mark that a hook has fired.
* `Session.adjudicated` — what is refused leaves no trace in a history.
-/

namespace ModuleBundler

variable {σ : Type}

/-! ### Reasons -/

/-- What is asked of a hook for something to be done with it: its kind and its argument. If a
handler is to be subscribed, the hook must not have fired. -/
structure HookDemand where
  kind : HookKind
  argument : HookArgument
  subscriber? : Option String
  deriving DecidableEq, Repr

/-- Did a handler fail? All other failures are refusals. -/
def HookFailure.isOfHandler : HookFailure → Bool
  | handler .. => true
  | _ => false

namespace HookAction

/-- What is asked of the hook, unless it is to be declared. -/
def demand? : HookAction σ → Option HookDemand
  | declare .. => none
  | tap _ handler argument _ => some ⟨.sync, argument, some handler⟩
  | tapTask _ handler argument _ | tapCallback _ handler argument _ =>
    some ⟨.parallel, argument, some handler⟩
  | call _ argument _ => some ⟨.sync, argument, none⟩
  | promise _ _ argument _ => some ⟨.parallel, argument, none⟩

end HookAction

namespace HookRegistry

variable {registry after : HookRegistry σ} {hook handler : String} {kind : HookKind}
  {argument : HookArgument} {demand : HookDemand} {failure : HookFailure}

/-- A registry does not meet what is asked of a hook, for the first of these reasons. -/
inductive Refuses (registry : HookRegistry σ) (hook : String) (demand : HookDemand) :
    HookFailure → Prop
  | unknown (hfind : registry.find? hook = none) : Refuses registry hook demand (.unknown hook)
  | wrongKind {point : HookPoint σ} (hfind : registry.find? hook = some point)
    (hkind : point.kind ≠ demand.kind) :
    Refuses registry hook demand (.wrongKind hook demand.kind point.kind)
  | late {point : HookPoint σ} {subscriber : String} (hfind : registry.find? hook = some point)
    (hkind : point.kind = demand.kind) (hsubscriber : demand.subscriber? = some subscriber)
    (hfired : point.fired = true) : Refuses registry hook demand (.late hook subscriber)
  | wrongArgument {point : HookPoint σ} (hfind : registry.find? hook = some point)
    (hkind : point.kind = demand.kind)
    (hintime : ∀ subscriber, demand.subscriber? = some subscriber → point.fired = false)
    (hargument : point.argument ≠ demand.argument) :
    Refuses registry hook demand
      (.wrongArgument hook point.signature point.argument.name demand.argument.name)

/-- A registry meets what is asked of a hook. -/
def Meets (registry : HookRegistry σ) (hook : String) (demand : HookDemand) : Prop :=
  ∃ point, registry.find? hook = some point ∧ point.kind = demand.kind ∧
    point.argument = demand.argument ∧
      ∀ subscriber, demand.subscriber? = some subscriber → point.fired = false

/-- If there is no reason against it, what is asked is met. -/
theorem refuses_or_meets (registry : HookRegistry σ) (hook : String) (demand : HookDemand) :
    (∃ failure, registry.Refuses hook demand failure) ∨ registry.Meets hook demand := by
  cases hfind : registry.find? hook with
  | none => exact .inl ⟨_, .unknown hfind⟩
  | some point =>
    by_cases hkind : point.kind = demand.kind
    case neg => exact .inl ⟨_, .wrongKind hfind hkind⟩
    by_cases hlate : ∃ subscriber, demand.subscriber? = some subscriber ∧ point.fired = true
    case pos =>
      obtain ⟨subscriber, hsubscriber, hfired⟩ := hlate
      exact .inl ⟨_, .late hfind hkind hsubscriber hfired⟩
    have hintime (subscriber : String) (h : demand.subscriber? = some subscriber) :
        point.fired = false :=
      Bool.eq_false_iff.mpr fun hfired => hlate ⟨subscriber, h, hfired⟩
    by_cases hargument : point.argument = demand.argument
    · exact .inr ⟨point, hfind, hkind, hargument, hintime⟩
    · exact .inl ⟨_, .wrongArgument hfind hkind hintime hargument⟩

theorem bind_eq_of_eq_error {ε α β : Type} {first : Except ε α} {next : α → Except ε β} {e : ε}
    (h : first = .error e) : (first >>= next) = .error e := by
  rw [h]
  rfl

theorem point_eq_error (h : registry.find? hook = none) :
    registry.point hook = .error (.unknown hook) := by
  rw [HookRegistry.point, h]

theorem checkKind_of_ne {point : HookPoint σ} (h : point.kind ≠ kind) :
    point.checkKind hook kind = .error (.wrongKind hook kind point.kind) :=
  dif_neg h

theorem checkArgument_of_ne {point : HookPoint σ} (h : point.argument ≠ argument) :
    point.checkArgument hook argument =
      .error (.wrongArgument hook point.signature point.argument.name argument.name) :=
  dif_neg h

/-- A hook is declared once. -/
theorem declare_of_some {point : HookPoint σ} {signature : List String}
    (h : registry.find? hook = some point) :
    registry.declare hook kind argument signature = .error (.declared hook) := by
  rw [declare, h]

/-- Who subscribes is told the reason against it. -/
theorem Refuses.subscribe (h : registry.Refuses hook ⟨kind, argument, some handler⟩ failure)
    (body : Body σ kind argument) :
    registry.subscribe hook handler kind argument body = .error failure := by
  cases h with
  | unknown hfind => exact bind_eq_of_eq_error (point_eq_error hfind)
  | wrongKind hfind hkind =>
    exact (Except.bind_eq_of_eq_ok (point_eq_ok_iff.mpr hfind)).trans
      (bind_eq_of_eq_error (checkKind_of_ne hkind))
  | late hfind hkind hsubscriber hfired =>
    obtain rfl := Option.some.inj hsubscriber
    exact subscribe_of_fired hfind hkind hfired
  | wrongArgument hfind hkind hintime hargument =>
    obtain rfl := hkind
    refine (Except.bind_eq_of_eq_ok (point_eq_ok_iff.mpr hfind)).trans
      ((Except.bind_eq_of_eq_ok (checkKind_self ..)).trans ?_)
    rw [hintime handler rfl]
    exact bind_eq_of_eq_error (checkArgument_of_ne hargument)

/-- Who fires a hook is told the reason against it. -/
theorem Refuses.fire (h : registry.Refuses hook ⟨kind, argument, none⟩ failure) :
    registry.fire hook kind argument = .error failure := by
  cases h with
  | unknown hfind => exact bind_eq_of_eq_error (point_eq_error hfind)
  | wrongKind hfind hkind =>
    exact (Except.bind_eq_of_eq_ok (point_eq_ok_iff.mpr hfind)).trans
      (bind_eq_of_eq_error (checkKind_of_ne hkind))
  | late _ _ hsubscriber => cases hsubscriber
  | wrongArgument hfind hkind _ hargument =>
    obtain rfl := hkind
    exact (Except.bind_eq_of_eq_ok (point_eq_ok_iff.mpr hfind)).trans
      ((Except.bind_eq_of_eq_ok (checkKind_self ..)).trans
        (bind_eq_of_eq_error (checkArgument_of_ne hargument)))

theorem Refuses.not_isOfHandler (h : registry.Refuses hook demand failure) :
    failure.isOfHandler = false := by
  cases h <;> rfl

/-- The points stand where they stood, and the one with the name is another one. -/
theorem exists_points_set {point : HookPoint σ} (h : registry.find? hook = some point) :
    ∃ front back, registry.points = front ++ (hook, point) :: back ∧
      ∀ later, (registry.set hook later).points = front ++ (hook, later) :: back := by
  obtain ⟨points⟩ := registry
  change points.lookup hook = some point at h
  change ∃ front back, points = front ++ (hook, point) :: back ∧
    ∀ later, Association.put hook later points = front ++ (hook, later) :: back
  induction points with
  | nil => cases h
  | cons entry points ih =>
    obtain ⟨name, first⟩ := entry
    by_cases hname : name = hook
    · subst hname
      rw [List.lookup_cons_self] at h
      obtain rfl := Option.some.inj h
      exact ⟨[], points, rfl, fun later => if_pos rfl⟩
    · rw [List.lookup_cons, beq_false_of_ne (Ne.symm hname)] at h
      obtain ⟨front, back, hpoints, hset⟩ := ih h
      refine ⟨(name, first) :: front, back, congrArg _ hpoints, fun later => ?_⟩
      exact (if_neg hname).trans (congrArg _ (hset later))

end HookRegistry

namespace HookAction

variable {action : HookAction σ} {registry : HookRegistry σ} {session : Session σ}
  {failure : HookFailure}

/-- The first reason against something that is to be done with hooks. -/
inductive Refused (registry : HookRegistry σ) (action : HookAction σ) : HookFailure → Prop
  | declared {point : HookPoint σ} (hdemand : action.demand? = none)
    (hfind : registry.find? action.hook = some point) :
    Refused registry action (.declared action.hook)
  | unmet {demand : HookDemand} {failure : HookFailure} (hdemand : action.demand? = some demand)
    (h : registry.Refuses action.hook demand failure) : Refused registry action failure

theorem Refused.not_isOfHandler (h : Refused registry action failure) :
    failure.isOfHandler = false := by
  cases h with
  | declared => rfl
  | unmet _ h => exact h.not_isOfHandler

theorem Refused.ask (h : Refused registry action failure) :
    action.ask registry = .error failure := by
  cases h with
  | declared hdemand hfind =>
    cases action with
    | declare => exact HookRegistry.declare_of_some hfind
    | tap | tapTask | tapCallback | call | promise => cases hdemand
  | unmet hdemand h =>
    cases action with
    | declare => cases hdemand
    | tap | tapTask | tapCallback =>
      obtain rfl := Option.some.inj hdemand
      exact h.subscribe _
    | call | promise =>
      obtain rfl := Option.some.inj hdemand
      exact Except.map_eq_error_iff.mpr h.fire

/-- What there is no reason against is granted. -/
theorem refused_or_granted (registry : HookRegistry σ) (action : HookAction σ) :
    (∃ failure, Refused registry action failure) ∨ ∃ after, action.ask registry = .ok after := by
  cases hdemand : action.demand? with
  | none =>
    cases hfind : registry.find? action.hook with
    | some point => exact .inl ⟨_, .declared hdemand hfind⟩
    | none =>
      cases action with
      | declare => exact .inr ⟨_, HookRegistry.declare_eq_ok_iff.mpr ⟨hfind, rfl⟩⟩
      | tap | tapTask | tapCallback | call | promise => cases hdemand
  | some demand =>
    obtain ⟨failure, h⟩ | ⟨point, hfind, hkind, hargument, hintime⟩ :=
      registry.refuses_or_meets action.hook demand
    · exact .inl ⟨failure, .unmet hdemand h⟩
    right
    cases action with
    | declare => cases hdemand
    | tap | tapTask | tapCallback =>
      obtain rfl := Option.some.inj hdemand
      exact ⟨_, HookRegistry.subscribe_eq_ok_iff.mpr
        ⟨point, hfind, hintime _ rfl, hkind, hargument, rfl⟩⟩
    | call | promise =>
      obtain rfl := Option.some.inj hdemand
      exact ⟨_, Except.map_eq_ok_iff.mpr
        ⟨_, HookRegistry.fire_eq_ok_iff.mpr ⟨point, hfind, hkind, hargument, rfl, rfl⟩, rfl⟩⟩

/-- **The registry refuses what there is a reason against**, and gives the first reason. -/
theorem refused_iff_ask :
    Refused registry action failure ↔ action.ask registry = .error failure := by
  refine ⟨Refused.ask, fun h => ?_⟩
  obtain ⟨failure', hrefused⟩ | ⟨after, hask⟩ := refused_or_granted registry action
  · obtain rfl := Except.error.inj (hrefused.ask.symm.trans h)
    exact hrefused
  · cases hask.symm.trans h

/-! ### Failures of handlers -/

end HookAction

namespace HookM

variable {argument : HookArgument} {hook : String} {failure : HookFailure}

/-- Handlers that run one after the other fail by one of them. -/
theorem exists_handler_of_runAll {taps : List (Tap σ .sync argument)} {value : argument.Carrier}
    {scene : Scene σ} (h : (runAll hook taps value scene).value.1.2 = .error failure) :
    ∃ handler cause, failure = .handler hook handler cause := by
  obtain ⟨_, values, result, _, hsuccession⟩ := exists_succession hook taps value scene
  rw [hsuccession.runAll] at h
  obtain rfl : result = .error failure := h
  obtain ⟨tap, -, cause, rfl⟩ := hsuccession.exists_handler
  exact ⟨_, _, rfl⟩

/-- So do handlers that run at the same time. -/
theorem exists_handler_of_conclude {taps : List (Tap σ .parallel argument)}
    {outcomes : Option (List Outcome)} (h : conclude hook taps outcomes = .error failure) :
    ∃ handler cause, failure = .handler hook handler cause := by
  cases outcomes with
  | none => cases h
  | some outcomes =>
    cases hfirst : firstFailure? hook taps outcomes with
    | none => cases (conclude_of_none hfirst).symm.trans h
    | some first =>
      obtain rfl := Except.error.inj ((conclude_of_some hfirst).symm.trans h)
      obtain ⟨place, tap, cause, -, -, -, rfl⟩ := firstFailure?_eq_some_iff.mp hfirst
      exact ⟨_, _, rfl⟩

end HookM

namespace HookAction

variable {action : HookAction σ} {registry : HookRegistry σ} {session : Session σ}
  {failure : HookFailure}

/-- What is granted fails in a handler, if at all. -/
theorem exists_handler_of_granted (hask : action.ask session.registry = .ok registry)
    (h : (action.perform.run session).value.1 = .error failure) :
    ∃ handler cause, failure = .handler action.hook handler cause := by
  cases action with
  | declare | tap | tapTask | tapCallback =>
    obtain ⟨journal, result, scene, hrun, hok⟩ := run_perform_of_ask_eq_ok hask
    rw [hrun, hok rfl] at h
    cases h
  | call hook argument value =>
    obtain ⟨⟨taps, _⟩, hfire, rfl⟩ := Except.map_eq_ok_iff.mp hask
    rw [perform, Program.run_bind_eq (HookM.run_call_of_ok hfire value)
      (HookM.run_ofExcept _ _)] at h
    exact HookM.exists_handler_of_runAll h
  | promise wait hook argument value =>
    obtain ⟨⟨taps, _⟩, hfire, rfl⟩ := Except.map_eq_ok_iff.mp hask
    have hrun := HookM.run_promiseWith_of_ok wait value hfire rfl rfl
    generalize hresult : HookM.conclude hook taps _ = result at hrun
    cases result with
    | ok settlement =>
      rw [perform, Program.run_bind_eq hrun rfl] at h
      cases h
    | error failure' =>
      rw [perform, Program.run_bind_of_error hrun] at h
      obtain rfl := Except.error.inj h
      exact HookM.exists_handler_of_conclude hresult

end HookAction

namespace HookStep

variable {step : HookStep σ}

/-- The first reason against a step. -/
def Refused (step : HookStep σ) (failure : HookFailure) : Prop :=
  step.action.Refused step.before.registry failure

/-- When a step fails, and what its failure leaves behind. -/
structure Judged (step : HookStep σ) : Prop where
  /-- A step fails for the first reason there is against it, or in a handler. -/
  refused_iff : ∀ failure, step.Refused failure ↔
    step.result = .error failure ∧ failure.isOfHandler = false
  /-- What is refused is not done: no handler runs, and nothing changes. -/
  idle : ∀ failure, step.Refused failure →
    step.action.perform.run step.before = ⟨[], .error failure, step.before⟩
  /-- It is refused, or it takes effect. -/
  takesEffect_iff : step.takesEffect ↔ ∀ failure, ¬step.Refused failure
  /-- When a handler fails, its hook has been fired, and is marked as such. -/
  marked : ∀ hook handler cause, step.result = .error (.handler hook handler cause) →
    hook = step.action.hook ∧ step.action.firing?.isSome ∧ ∃ point front back,
      step.before.registry.points = front ++ (hook, point) :: back ∧
        step.after.registry.points = front ++ (hook, { point with fired := true }) :: back

/-- What there is no reason against takes effect. -/
theorem takesEffect_iff_not_refused : step.takesEffect ↔ ∀ failure, ¬step.Refused failure := by
  rw [takesEffect_iff]
  constructor
  · rintro ⟨registry, hask⟩ failure hrefused
    cases hask.symm.trans (HookAction.refused_iff_ask.mp hrefused)
  · intro h
    obtain ⟨failure, hrefused⟩ | hgranted :=
      HookAction.refused_or_granted step.before.registry step.action
    · exact absurd hrefused (h failure)
    · exact hgranted

/-- A step is refused if it fails, but for failures of handlers. -/
theorem refused_iff_result (step : HookStep σ) (failure : HookFailure) :
    step.Refused failure ↔ step.result = .error failure ∧ failure.isOfHandler = false := by
  constructor
  · intro h
    exact ⟨(of_ask_eq_error h.ask).1, h.not_isOfHandler⟩
  · rintro ⟨hresult, hhandler⟩
    obtain ⟨failure', hrefused⟩ | ⟨registry, hask⟩ :=
      HookAction.refused_or_granted step.before.registry step.action
    · obtain rfl := Except.error.inj ((of_ask_eq_error hrefused.ask).1.symm.trans hresult)
      exact hrefused
    · obtain ⟨handler, cause, rfl⟩ := HookAction.exists_handler_of_granted hask hresult
      cases hhandler

/-- A hook that is fired is marked, and nothing else changes in the registry. -/
theorem exists_points_of_firing {registry : HookRegistry σ}
    (hask : step.action.ask step.before.registry = .ok registry)
    (hfiring : step.action.firing?.isSome) : ∃ point front back,
      step.before.registry.points = front ++ (step.action.hook, point) :: back ∧
        step.after.registry.points =
          front ++ (step.action.hook, { point with fired := true }) :: back := by
  have fire {hook : String} {kind : HookKind} {argument : HookArgument}
      (h : (step.before.registry.fire hook kind argument).map Prod.snd = .ok registry) :
      ∃ point front back, step.before.registry.points = front ++ (hook, point) :: back ∧
        registry.points = front ++ (hook, { point with fired := true }) :: back := by
    obtain ⟨⟨taps, _⟩, hfire, rfl⟩ := Except.map_eq_ok_iff.mp h
    obtain ⟨point, hfind, -, -, -, rfl⟩ := HookRegistry.fire_eq_ok_iff.mp hfire
    obtain ⟨front, back, hpoints, hset⟩ := HookRegistry.exists_points_set hfind
    exact ⟨point, front, back, hpoints, hset _⟩
  rw [(of_ask_eq_ok hask).1]
  obtain ⟨before, action⟩ := step
  cases action with
  | declare | tap | tapTask | tapCallback => cases hfiring
  | call | promise => exact fire hask

theorem judged (step : HookStep σ) : step.Judged where
  refused_iff := step.refused_iff_result
  idle _ h := HookAction.run_perform_of_ask_eq_error h.ask
  takesEffect_iff := takesEffect_iff_not_refused
  marked hook handler cause hresult := by
    obtain ⟨failure, hrefused⟩ | ⟨registry, hask⟩ :=
      HookAction.refused_or_granted step.before.registry step.action
    · obtain rfl := Except.error.inj ((of_ask_eq_error hrefused.ask).1.symm.trans hresult)
      cases hrefused.not_isOfHandler
    · obtain ⟨_, _, hfailure⟩ := HookAction.exists_handler_of_granted hask hresult
      obtain ⟨rfl, -, -⟩ := HookFailure.handler.inj hfailure
      have hfiring : step.action.firing?.isSome := by
        rw [Option.isSome_iff_ne_none]
        intro hnone
        cases ((of_ask_eq_ok hask).2 hnone).symm.trans hresult
      exact ⟨rfl, hfiring, exists_points_of_firing hask hfiring⟩

end HookStep

/-! ### Histories without refusals -/

namespace Session

/-- What of all that is done takes effect. -/
def granted (session : Session σ) (actions : List (HookAction σ)) : List (HookAction σ) :=
  ((session.history actions).filter HookStep.takesEffect).map HookStep.action

/-- What is refused leaves no trace in a history. -/
theorem history_granted (session : Session σ) (actions : List (HookAction σ)) :
    session.history (session.granted actions) =
        (session.history actions).filter HookStep.takesEffect ∧
      session.afterAll (session.granted actions) = session.afterAll actions := by
  induction actions generalizing session with
  | nil => exact ⟨rfl, rfl⟩
  | cons action actions ih =>
    let step : HookStep σ := ⟨session, action⟩
    obtain ⟨hhistory, hafter⟩ := ih step.after
    by_cases heffect : step.takesEffect
    · have hgranted : session.granted (action :: actions) =
          action :: step.after.granted actions := by
        rw [granted, history, List.filter_cons_of_pos heffect]
        rfl
      rw [hgranted, history, history, List.filter_cons_of_pos heffect]
      exact ⟨congrArg _ hhistory, hafter⟩
    -- What is refused leaves the session as it is, so the rest goes on from there.
    · have hsame : step.after = session := by
        obtain ⟨failure, hrefused⟩ | ⟨registry, hask⟩ :=
          HookAction.refused_or_granted session.registry action
        · have hrefusal : step.result = .error failure ∧ step.after = step.before :=
            HookStep.of_ask_eq_error hrefused.ask
          exact hrefusal.2
        · exact absurd (HookStep.takesEffect_iff.mpr ⟨registry, hask⟩) heffect
      have hgranted : session.granted (action :: actions) = session.granted actions := by
        rw [granted, history, List.filter_cons_of_neg heffect]
        exact congrArg (granted · actions) hsame
      rw [hgranted, history, List.filter_cons_of_neg heffect]
      rw [hsame] at hhistory hafter
      refine ⟨hhistory.trans ?_, hafter.trans ?_⟩
      · rw [show HookStep.after ⟨session, action⟩ = session from hsame]
      · rw [afterAll, show HookStep.after ⟨session, action⟩ = session from hsame]

/-- What failures leave behind in all that is done. -/
structure Adjudicated (session : Session σ) (actions : List (HookAction σ)) : Prop where
  steps : ∀ step ∈ session.history actions, step.Judged
  /-- Without what is refused, all that takes effect is done in the same sessions. -/
  forgotten : session.history (session.granted actions) =
    (session.history actions).filter HookStep.takesEffect
  after_eq : session.afterAll (session.granted actions) = session.afterAll actions

/-- **What is refused is refused for the first reason there is, and changes nothing.** -/
theorem adjudicated (session : Session σ) (actions : List (HookAction σ)) :
    session.Adjudicated actions where
  steps step _ := step.judged
  forgotten := (session.history_granted actions).1
  after_eq := (session.history_granted actions).2

/-- Who is late is told so even if the argument is wrong too. -/
example : HookStep.result ⟨(Session.mk .empty (.ofState ())).afterAll [
      .declare "count" .sync ArgumentType.number ["value"],
      .call "count" ArgumentType.number (7 : UInt32)],
    .tap "count" "last" ArgumentType.texts fun value => return (value, .ok ())⟩ =
      .error (.late "count" "last") :=
  rfl

end Session

end ModuleBundler
