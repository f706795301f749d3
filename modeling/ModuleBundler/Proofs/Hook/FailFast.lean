import Mathlib.Data.List.Induction
import ModuleBundler.Proofs.Hook.History
import ModuleBundler.Proofs.Hook.Refusal

/-!
# Synchronous hooks fail fast

A synchronous hook that fires passes its argument through its handlers, in the order of
subscription. If all of them are successful, the argument has passed through all; otherwise it has
passed through those up to the first that fails, this one included, and no other handler has run.
Handlers cannot subscribe to a hook that has fired, so it is the same handlers whenever it fires
again.

## Main definitions

* `HookM.passThrough` — an argument passes through handlers, whatever they come to.
* `HookM.outcomeBehind`, `HookM.AllSucceed` — what handlers come to behind those before them.
* `HookM.FailFast` — what a synchronous hook that fires comes to.
* `HookM.subscribing` — the subscription of a handler.

## Main results

* `HookM.runAll_append` — handlers run behind successful ones.
* `HookM.find?_afterAll_subscribing` — handlers stand in the order of subscription.
* `HookM.failFast` — every synchronous hook fails fast, whenever it fires.
-/

namespace ModuleBundler

variable {σ : Type}

/-- A hook that is there already stays as it is. -/
theorem HookRegistry.set_eq_self {registry : HookRegistry σ} {hook : String} {point : HookPoint σ}
    (h : registry.find? hook = some point) : registry.set hook point = registry := by
  obtain ⟨front, back, hpoints, hset⟩ := exists_points_set h
  exact congrArg HookRegistry.mk ((hset point).trans hpoints.symm)

namespace HookM

variable {argument : HookArgument}

/-! ### Passing through handlers -/

/-- Calls a handler, and goes on with what it makes of the argument, also if it fails. -/
def invoke (hook : String) (value : argument.Carrier) (tap : Tap σ .sync argument) :
    HandlerM σ argument.Carrier := fun scene =>
  let called := (tap.body : SyncHandler σ argument) value scene
  ⟨calling hook tap.name :: called.journal, called.value.1.1, called.value.2⟩

/-- The argument passes through handlers, one after the other, whatever they come to. -/
def passThrough (hook : String) (taps : List (Tap σ .sync argument)) (value : argument.Carrier) :
    HandlerM σ argument.Carrier :=
  taps.foldlM (invoke hook) value

/-- What a handler comes to when the argument has passed through others before. -/
def outcomeBehind (hook : String) (before : List (Tap σ .sync argument))
    (tap : Tap σ .sync argument) (value : argument.Carrier) (scene : Scene σ) : Outcome :=
  let passed := (passThrough hook before value scene).value
  ((tap.body : SyncHandler σ argument) passed.1 passed.2).value.1.2

/-- Every handler is successful behind those before it. -/
def AllSucceed (hook : String) (taps : List (Tap σ .sync argument)) (value : argument.Carrier)
    (scene : Scene σ) : Prop :=
  ∀ before tap, before ++ [tap] <+: taps → outcomeBehind hook before tap value scene = .ok ()

variable {hook : String} {tap : Tap σ .sync argument} {taps before : List (Tap σ .sync argument)}
  {value : argument.Carrier} {scene : Scene σ} {cause : Cause}

theorem passThrough_cons (hook : String) (tap : Tap σ .sync argument)
    (taps : List (Tap σ .sync argument)) (value : argument.Carrier) (scene : Scene σ) :
    passThrough hook (tap :: taps) value scene =
      Traced.bind (invoke hook value tap scene) fun passed =>
        passThrough hook taps passed.1 passed.2 := by
  rw [passThrough, List.foldlM_cons]
  rfl

theorem passThrough_append (hook : String) (before taps : List (Tap σ .sync argument))
    (value : argument.Carrier) (scene : Scene σ) :
    passThrough hook (before ++ taps) value scene =
      Traced.bind (passThrough hook before value scene) fun passed =>
        passThrough hook taps passed.1 passed.2 := by
  rw [passThrough, List.foldlM_append]
  rfl

/-! ### Handlers that are successful -/

/-- The first handler is successful, and so are the others behind it. -/
theorem AllSucceed.of_cons (h : AllSucceed hook (tap :: taps) value scene) :
    ∃ journal changed between,
      (tap.body : SyncHandler σ argument) value scene = ⟨journal, (changed, .ok ()), between⟩ ∧
        AllSucceed hook taps changed between := by
  have hfirst : ((tap.body : SyncHandler σ argument) value scene).value.1.2 = .ok () :=
    h [] tap (List.prefix_append [tap] taps)
  rcases hbody : (tap.body : SyncHandler σ argument) value scene with
    ⟨journal, ⟨changed, outcome⟩, between⟩
  rw [hbody] at hfirst
  obtain rfl : outcome = .ok () := hfirst
  refine ⟨journal, changed, between, rfl, fun before next hfront => ?_⟩
  have hnext := h (tap :: before) next ((List.prefix_cons_inj tap).mpr hfront)
  unfold outcomeBehind at hnext ⊢
  rw [passThrough_cons, invoke, hbody] at hnext
  exact hnext

/-- Handlers run behind successful ones on what these have made of the argument. -/
theorem runAll_append (h : AllSucceed hook before value scene)
    (taps : List (Tap σ .sync argument)) :
    runAll hook (before ++ taps) value scene =
      Traced.bind (passThrough hook before value scene) fun passed =>
        runAll hook taps passed.1 passed.2 := by
  induction before generalizing value scene with
  | nil => rfl
  | cons tap before ih =>
    obtain ⟨journal, changed, between, hbody, hrest⟩ := h.of_cons
    rw [List.cons_append, runAll_cons, passThrough_cons, invoke, hbody]
    change Traced.mk (_ :: (journal ++ (runAll hook (before ++ taps) changed between).journal))
      (runAll hook (before ++ taps) changed between).value = _
    rw [ih hrest]
    exact congrArg (Traced.mk · _) (congrArg _ (List.append_assoc ..).symm)

/-- If all are successful, the argument has passed through all. -/
theorem runAll_of_allSucceed (h : AllSucceed hook taps value scene) :
    runAll hook taps value scene =
      let passed := passThrough hook taps value scene
      ⟨passed.journal, (passed.value.1, .ok ()), passed.value.2⟩ := by
  have hrun := runAll_append h []
  rw [List.append_nil] at hrun
  rw [hrun]
  exact congrArg (Traced.mk · _) (List.append_nil _)

/-- Otherwise it has passed through the handlers up to the first that fails. -/
theorem runAll_of_outcomeBehind (h : AllSucceed hook before value scene)
    (hfails : outcomeBehind hook before tap value scene = .error cause)
    (rest : List (Tap σ .sync argument)) :
    runAll hook (before ++ tap :: rest) value scene =
      let passed := passThrough hook (before ++ [tap]) value scene
      ⟨passed.journal, (passed.value.1, .error (.handler hook tap.name cause)), passed.value.2⟩ := by
  rw [runAll_append h, passThrough_append]
  unfold outcomeBehind at hfails
  generalize passThrough hook before value scene = passed at hfails ⊢
  obtain ⟨journal, reached, between⟩ := passed
  dsimp only at hfails
  rcases hbody : (tap.body : SyncHandler σ argument) reached between with
    ⟨more, ⟨changed, outcome⟩, after⟩
  rw [hbody] at hfails
  obtain rfl : outcome = .error cause := hfails
  have hrun : runAll hook (tap :: rest) reached between = ⟨_, (_, .error _), after⟩ :=
    (Succession.failed hbody).runAll
  have hpass : passThrough hook [tap] reached between =
      ⟨calling hook tap.name :: more, changed, after⟩ := by
    rw [passThrough_cons, invoke, hbody]
    exact congrArg (Traced.mk · _) (List.append_nil _)
  dsimp only [Traced.bind]
  rw [hrun, hpass]
  rfl

/-- Either all are successful, or there is a first that fails. -/
theorem allSucceed_or_exists_first (hook : String) (taps : List (Tap σ .sync argument))
    (value : argument.Carrier) (scene : Scene σ) :
    AllSucceed hook taps value scene ∨ ∃ before tap rest cause, taps = before ++ tap :: rest ∧
      AllSucceed hook before value scene ∧
        outcomeBehind hook before tap value scene = .error cause := by
  induction taps using List.reverseRecOn with
  | nil =>
    refine .inl fun before tap hfront => ?_
    simp at hfront
  | append_singleton taps tap ih =>
    obtain hall | ⟨before, first, rest, cause, rfl, hbefore, hfails⟩ := ih
    · cases houtcome : outcomeBehind hook taps tap value scene with
      | error cause => exact .inr ⟨taps, tap, [], cause, rfl, hall, houtcome⟩
      | ok =>
        refine .inl fun before next hfront => ?_
        obtain heq | hfront := List.prefix_concat_iff.mp hfront
        · obtain ⟨rfl, hlast⟩ := List.append_inj' heq rfl
          rw [List.singleton_inj.mp hlast, houtcome]
        · exact hall before next hfront
    · exact .inr ⟨before, first, rest ++ [tap], cause, by simp, hbefore, hfails⟩

/-! ### Hooks that fire -/

/-- What a synchronous hook with handlers comes to when it fires, and the session that it leaves. -/
structure FailFast (session : Session σ) (hook : String) (value : argument.Carrier)
    (taps : List (Tap σ .sync argument)) (registry : HookRegistry σ) : Prop where
  /-- If no handler fails, the argument has passed through all of them, in order. -/
  succeeded : AllSucceed hook taps value session.scene →
    let passed := passThrough hook taps value session.scene
    (call hook argument value).run session =
      ⟨passed.journal, .ok (passed.value.1, .ok ()), registry, passed.value.2⟩
  /-- If a handler is the first that fails, the argument has passed through those before it and
  through this one, and no other handler has run. -/
  failed : ∀ before tap rest cause, taps = before ++ tap :: rest →
    AllSucceed hook before value session.scene →
      outcomeBehind hook before tap value session.scene = .error cause →
        let passed := passThrough hook (before ++ [tap]) value session.scene
        (call hook argument value).run session =
          ⟨passed.journal, .ok (passed.value.1, .error (.handler hook tap.name cause)), registry,
            passed.value.2⟩
  /-- There is no third way. -/
  decided : AllSucceed hook taps value session.scene ∨
    ∃ before tap rest cause, taps = before ++ tap :: rest ∧
      AllSucceed hook before value session.scene ∧
        outcomeBehind hook before tap value session.scene = .error cause

variable {session : Session σ} {registry : HookRegistry σ}

/-- A hook that fires fails fast. -/
theorem failFast_call (hfire : session.registry.fire hook .sync argument = .ok (taps, registry))
    (value : argument.Carrier) : FailFast session hook value taps registry where
  succeeded h := by
    rw [run_call_of_ok hfire, runAll_of_allSucceed h]
  failed before tap rest cause htaps h hfails := by
    subst htaps
    rw [run_call_of_ok hfire, runAll_of_outcomeBehind h hfails]
  decided := allSucceed_or_exists_first hook taps value session.scene

/-- Whatever has been done since it fired, the hook fires the same handlers, and nothing changes in
the registry. -/
theorem fire_afterAll (hfire : session.registry.fire hook .sync argument = .ok (taps, registry))
    (scene : Scene σ) (actions : List (HookAction σ)) :
    let later := (Session.mk registry scene).afterAll actions
    later.registry.fire hook .sync argument = .ok (taps, later.registry) := by
  obtain ⟨point, -, hkind, hargument, htaps, rfl⟩ := HookRegistry.fire_eq_ok_iff.mp hfire
  let fired : HookPoint σ := { point with fired := true }
  have hfind : (session.registry.set hook fired).find? hook = some fired :=
    HookRegistry.find?_set_self ..
  have hlater := (Session.frozen ⟨_, scene⟩ actions hfind rfl).1
  exact HookRegistry.fire_eq_ok_iff.mpr
    ⟨_, hlater, hkind, hargument, htaps, (HookRegistry.set_eq_self hlater).symm⟩

/-- Subscribes a handler to a synchronous hook. -/
def subscribing (hook : String) (tap : Tap σ .sync argument) : HookAction σ :=
  .tap hook tap.name argument tap.body

/-- Handlers that subscribe to a hook stand behind the others, in the order of subscription. -/
theorem find?_afterAll_subscribing {signature names : List String}
    (hfind : session.registry.find? hook = some ⟨.sync, argument, signature, names, taps, false⟩)
    (more : List (Tap σ .sync argument)) :
    (session.afterAll (more.map (subscribing hook))).registry.find? hook =
      some ⟨.sync, argument, signature, names ++ more.map Tap.name, taps ++ more, false⟩ := by
  induction more generalizing session names taps with
  | nil => rw [List.map_nil, List.append_nil, List.map_nil, List.append_nil, ← hfind]; rfl
  | cons tap more ih =>
    have hask : (subscribing hook tap).ask session.registry = .ok _ :=
      HookRegistry.subscribe_of_not_fired hfind rfl tap.body
    have hafter : (HookStep.after ⟨session, subscribing hook tap⟩).registry.find? hook =
        some ⟨.sync, argument, signature, names ++ [tap.name], taps ++ [tap], false⟩ := by
      rw [(HookStep.of_ask_eq_ok hask).1]
      exact HookRegistry.find?_set_self ..
    rw [List.map_cons, Session.afterAll, ih hafter, List.append_assoc, List.append_assoc]
    rfl

/-- **A synchronous hook passes its argument through its handlers until one fails**, in the order of
subscription, and through the same handlers in the same order when it fires again, whatever is done
in between. -/
theorem failFast {signature names : List String} {fired : Bool}
    (hfind : session.registry.find? hook = some ⟨.sync, argument, signature, names, taps, fired⟩)
    (value : argument.Carrier) :
    FailFast session hook value taps
        (session.registry.set hook ⟨.sync, argument, signature, names, taps, true⟩) ∧
      (∀ (actions : List (HookAction σ)) (value' : argument.Carrier),
        let later := ((call hook argument value).run session).value.2.afterAll actions
        FailFast later hook value' taps later.registry) ∧
      (fired = false → ∀ more : List (Tap σ .sync argument),
        let subscribed := session.afterAll (more.map (subscribing hook))
        FailFast subscribed hook value (taps ++ more) (subscribed.registry.set hook
          ⟨.sync, argument, signature, names ++ more.map Tap.name, taps ++ more, true⟩)) := by
  have hfire := HookRegistry.fire_eq_ok_iff.mpr ⟨_, hfind, rfl, rfl, rfl, rfl⟩
  refine ⟨failFast_call hfire value, fun actions value' => ?_, ?_⟩
  · rw [run_call_of_ok hfire]
    exact failFast_call (fire_afterAll hfire _ actions) value'
  · rintro rfl more
    have hsubscribed := find?_afterAll_subscribing hfind more
    exact failFast_call
      (HookRegistry.fire_eq_ok_iff.mpr ⟨_, hsubscribed, rfl, rfl, rfl, rfl⟩) value

/-- Three handlers, two of them under one name: each writes its digit behind a number, and the
second fails. -/
def digits : List (Tap Unit .sync ArgumentType.number) :=
  let digit (last : UInt32) (outcome : Outcome) : SyncHandler Unit ArgumentType.number :=
    fun (value : UInt32) => return (value * 10 + last, outcome)
  [⟨"digit", digit 1 (.ok ())⟩, ⟨"digit", digit 2 (.error (.ofMessage "no"))⟩,
    ⟨"last", digit 3 (.ok ())⟩]

/-- A session with a hook without handlers. -/
def countSession : Session Unit :=
  ⟨⟨[("count", .declared .sync ArgumentType.number ["value"])]⟩, .ofState ()⟩

/-- The second digit is kept, and the third is never written. -/
theorem failFast_digits :
    let value : HookArgument.Carrier ArgumentType.number := (7 : UInt32)
    let subscribed := countSession.afterAll (digits.map (subscribing "count"))
    (∃ registry, FailFast subscribed "count" value digits registry) ∧
      ((call "count" _ value).run subscribed).value.1 =
        .ok ((712 : UInt32), .error (.handler "count" "digit" (.ofMessage "no"))) := by
  have hfind : countSession.registry.find? "count" =
      some ⟨.sync, ArgumentType.number, ["value"], [], [], false⟩ := rfl
  exact ⟨⟨_, (failFast hfind (7 : UInt32)).2.2 rfl digits⟩, rfl⟩

end HookM

end ModuleBundler
