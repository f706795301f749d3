import ModuleBundler.Proofs.Hook.Callback
import ModuleBundler.Proofs.Hook.Session

/-!
# Schedules

When the handlers of a parallel hook have started, their tasks are polled, each as often and at
whatever time somebody sees fit, and others act in between. A *schedule* is a list of such turns;
polling in rounds is one of them. The hook waits until every handler has come to an outcome. Then
the outcomes decide, and not the order in which handlers came to them.

## Main definitions

* `Turn`, `Running.follow` — turns, and what comes of the tasks of handlers by turns.
* `HookM.Starts` — how handlers are invoked.
* `HookM.Verdict` — what a parallel hook comes to, by the outcomes of its handlers.
* `HookM.promiseUnder` — firing a parallel hook under a schedule.

## Main results

* `Running.settle_eq_follow` — polling in rounds follows a schedule.
* `Running.awaits_follow` — tasks that wait for callbacks under a schedule.
* `HookM.fanned` — a parallel hook that is fired under a schedule.
-/

namespace ModuleBundler

variable {σ : Type}

/-- What happens next: the task at a place is polled, or something else acts. -/
inductive Turn (σ : Type) where
  | poll (place : Nat)
  | other (effect : HandlerM σ Unit)

namespace Running

/-- What comes of tasks by one turn. -/
def turn (tasks : List (Running σ)) : Turn σ → HandlerM σ (List (Running σ))
  | .poll place =>
    match tasks[place]? with
    | some task => tasks.set place <$> task.poll
    | none => return tasks
  | .other effect => (fun _ => tasks) <$> effect

/-- What comes of tasks by turns. -/
def follow : List (Turn σ) → List (Running σ) → HandlerM σ (List (Running σ))
  | [], tasks => return tasks
  | next :: turns, tasks => do follow turns (← turn tasks next)

/-- Each of a number of tasks is polled once a round, in order. -/
def rounds (patience count : Nat) : List (Turn σ) :=
  (List.replicate patience (List.range count)).flatten.map .poll

theorem turn_poll_of_some {tasks : List (Running σ)} {place : Nat} {task : Running σ}
    (h : tasks[place]? = some task) : turn tasks (.poll place) = tasks.set place <$> task.poll := by
  simp only [turn, h]

theorem turn_poll_of_none {tasks : List (Running σ)} {place : Nat} (h : tasks[place]? = none) :
    turn tasks (.poll place) = pure tasks := by
  simp only [turn, h]

/-! ### Rounds -/

theorem follow_append (turns more : List (Turn σ)) (tasks : List (Running σ)) :
    follow (turns ++ more) tasks = follow turns tasks >>= follow more := by
  induction turns generalizing tasks with
  | nil => exact (pure_bind ..).symm
  | cons next turns ih => simp only [List.cons_append, follow, bind_assoc, ih]

/-- A round polls the tasks that are ahead, one after the other. -/
theorem follow_round (done ahead : List (Running σ)) :
    follow ((List.range' done.length ahead.length).map .poll) (done ++ ahead) =
      (done ++ ·) <$> ahead.mapM poll := by
  induction ahead generalizing done with
  | nil => simp [follow]
  | cons task ahead ih =>
    have hplace : (done ++ task :: ahead)[done.length]? = some task := by simp
    have hset (polled : Running σ) :
        (done ++ task :: ahead).set done.length polled = done ++ polled :: ahead := by simp
    have hrest (polled : Running σ) :
        follow ((List.range' (done.length + 1) ahead.length).map .poll) (done ++ polled :: ahead) =
          (done ++ polled :: ·) <$> ahead.mapM poll := by simpa using ih (done ++ [polled])
    rw [List.length_cons, List.range'_succ, List.map_cons, follow, turn_poll_of_some hplace]
    simp only [List.mapM_cons, map_eq_pure_bind, bind_assoc, pure_bind, hset, hrest]

theorem length_follow (turns : List (Turn σ)) (tasks : List (Running σ)) (scene : Scene σ) :
    (follow turns tasks scene).value.1.length = tasks.length := by
  induction turns generalizing tasks scene with
  | nil => rfl
  | cons next turns ih =>
    refine (ih _ _).trans ?_
    cases next with
    | other effect => rfl
    | poll place =>
      cases hplace : tasks[place]? with
      | none => rw [turn_poll_of_none hplace]; rfl
      | some task => rw [turn_poll_of_some hplace]; exact List.length_set

theorem length_mapM_poll (tasks : List (Running σ)) (scene : Scene σ) :
    (tasks.mapM poll scene).value.1.length = tasks.length := by
  induction tasks generalizing scene with
  | nil => rfl
  | cons task tasks ih =>
    rw [List.mapM_cons]
    exact congrArg (· + 1) (ih _)

/-- A task that has come to an outcome stays as it is. -/
theorem poll_of_outcome? {task : Running σ} {outcome : Outcome} (h : task.outcome? = some outcome) :
    task.poll = pure task := by
  cases task with
  | settled => rfl
  | running => cases h

theorem outcomes?_eq_some_iff {tasks : List (Running σ)} {outcomes : List Outcome} :
    outcomes? tasks = some outcomes ↔ tasks.map outcome? = outcomes.map some := by
  unfold outcomes?
  induction tasks generalizing outcomes with
  | nil => cases outcomes <;> simp
  | cons task tasks ih =>
    rw [List.mapM_cons]
    cases houtcome : task.outcome? <;> cases outcomes <;>
      simp [houtcome, Option.bind_eq_some_iff, ih, and_left_comm]

/-- The outcomes are missing if one of them is. -/
theorem outcomes?_eq_none_iff {tasks : List (Running σ)} :
    outcomes? tasks = none ↔ none ∈ tasks.map outcome? := by
  unfold outcomes?
  induction tasks with
  | nil => simp
  | cons task tasks ih =>
    rw [List.mapM_cons, List.map_cons]
    cases task.outcome? <;> simp [← Option.eq_none_iff_forall_ne_some, ih]

/-- When all tasks have come to outcomes, further polls change nothing. -/
theorem follow_of_outcomes? {tasks : List (Running σ)} {outcomes : List Outcome}
    (h : outcomes? tasks = some outcomes) (places : List Nat) :
    follow (places.map .poll) tasks = pure tasks := by
  have hsettled : ∀ (place : Nat) (task : Running σ), tasks[place]? = some task →
      task.poll = pure task := by
    intro place task hplace
    have hmem := List.mem_map_of_mem (f := outcome?) (List.mem_of_getElem? hplace)
    rw [outcomes?_eq_some_iff.mp h] at hmem
    obtain ⟨outcome, -, houtcome⟩ := List.mem_map.mp hmem
    exact poll_of_outcome? houtcome.symm
  induction places with
  | nil => rfl
  | cons place places ih =>
    rw [List.map_cons, follow]
    cases hplace : tasks[place]? with
    | none => rwa [turn_poll_of_none hplace, pure_bind]
    | some task =>
      obtain ⟨hlt, rfl⟩ := List.getElem?_eq_some_iff.mp hplace
      rwa [turn_poll_of_some hplace, hsettled place _ hplace, map_pure, pure_bind,
        List.set_getElem_self]

/-- Polling in rounds is a schedule. Rounds behind the last outcome change nothing. -/
theorem settle_eq_follow (patience : Nat) (tasks : List (Running σ)) :
    settle patience tasks = outcomes? <$> follow (rounds patience tasks.length) tasks := by
  induction patience generalizing tasks with
  | zero => rfl
  | succ patience ih =>
    rw [settle]
    cases houtcomes : outcomes? tasks with
    | some outcomes =>
      rw [rounds, follow_of_outcomes? houtcomes, map_pure, houtcomes]
    | none =>
      have hround := follow_round [] tasks
      simp only [List.length_nil, List.nil_append, id_map'] at hround
      rw [rounds, List.replicate_succ, List.flatten_cons, List.map_append, ← rounds,
        List.range_eq_range', follow_append, hround, map_bind]
      funext scene
      have hrest := ih (tasks.mapM poll scene).value.1
      rw [length_mapM_poll] at hrest
      exact congrArg (fun next : HandlerM σ _ => Traced.bind (tasks.mapM poll scene)
        fun polled => next polled.2) hrest

end Running

/-! ### What tasks keep to under a schedule -/

/-- What happens in a turn is allowed, whatever the tasks are. -/
def Turn.Obeys (discipline : Discipline σ) : Turn σ → Prop
  | .poll _ => True
  | .other effect => effect.Obeys discipline

namespace Running

variable {discipline : Discipline σ} {tasks : List (Running σ)} {scene : Scene σ}

theorem obeys_turn (htasks : ∀ task ∈ tasks, task.Obeys discipline) {next : Turn σ}
    (hnext : next.Obeys discipline) (scene : Scene σ) :
    discipline.Allows scene (turn tasks next scene).journal (turn tasks next scene).value.2 ∧
      ∀ task ∈ (turn tasks next scene).value.1, task.Obeys discipline := by
  cases next with
  | other effect => exact ⟨HandlerM.Obeys.map _ hnext scene, htasks⟩
  | poll polled =>
    cases hpolled : tasks[polled]? with
    | none =>
      rw [turn_poll_of_none hpolled]
      exact ⟨discipline.refl scene, htasks⟩
    | some task =>
      rw [turn_poll_of_some hpolled]
      obtain ⟨hallows, hobeys⟩ := (htasks task (List.mem_of_getElem? hpolled)).poll scene
      refine ⟨discipline.trans hallows (discipline.refl _), fun later hlater => ?_⟩
      obtain hmem | rfl := List.mem_or_eq_of_mem_set hlater
      · exact htasks later hmem
      · exact hobeys

theorem obeys_follow {turns : List (Turn σ)} (hturns : ∀ turn ∈ turns, turn.Obeys discipline)
    (htasks : ∀ task ∈ tasks, task.Obeys discipline) :
    HandlerM.Obeys discipline (follow turns tasks) := by
  intro scene
  induction turns generalizing tasks scene with
  | nil => exact discipline.refl scene
  | cons next turns ih =>
    obtain ⟨hallows, hlater⟩ := obeys_turn htasks (hturns next (List.mem_cons_self ..)) scene
    have hturns (turn : Turn σ) (hmem : turn ∈ turns) := hturns turn (List.mem_cons_of_mem _ hmem)
    exact discipline.trans hallows (ih hturns hlater _)

/-- Polls in rounds are allowed if tasks are. -/
theorem obeys_settle (htasks : ∀ task ∈ tasks, task.Obeys discipline) (patience : Nat) :
    HandlerM.Obeys discipline (settle patience tasks) := by
  rw [settle_eq_follow]
  refine .map _ (obeys_follow (fun turn hturn => ?_) htasks)
  obtain ⟨place, -, rfl⟩ := List.mem_map.mp hturn
  trivial

/-! ### Callbacks under a schedule -/

/-- A task at a place that waits for a callback, or has waited for it, goes on to. -/
theorem awaits_turn (htasks : ∀ task ∈ tasks, task.Obeys .oneShot) {next : Turn σ}
    (hnext : next.Obeys .oneShot) {place ticket : Nat} {task : Running σ}
    (hplace : tasks[place]? = some task) (h : task.Awaits ticket scene) :
    ∃ task, (turn tasks next scene).value.1[place]? = some task ∧
      task.Awaits ticket (turn tasks next scene).value.2 := by
  have hkeeps := (obeys_turn htasks hnext scene).1
  cases next with
  | other effect => exact ⟨task, hplace, h.keep hkeeps⟩
  | poll polled =>
    cases hpolled : tasks[polled]? with
    | none =>
      rw [turn_poll_of_none hpolled]
      exact ⟨task, hplace, h⟩
    | some other =>
      rw [turn_poll_of_some hpolled] at hkeeps ⊢
      by_cases hsame : polled = place
      · subst hsame
        obtain rfl : task = other := Option.some.inj (hplace.symm.trans hpolled)
        obtain ⟨hlt, -⟩ := List.getElem?_eq_some_iff.mp hplace
        exact ⟨_, List.getElem?_set_self hlt, h.poll.2⟩
      · exact ⟨task, (List.getElem?_set_ne hsame).trans hplace, h.keep hkeeps⟩

theorem awaits_follow {turns : List (Turn σ)} (hturns : ∀ turn ∈ turns, turn.Obeys .oneShot)
    (htasks : ∀ task ∈ tasks, task.Obeys .oneShot) {place ticket : Nat} {task : Running σ}
    (hplace : tasks[place]? = some task) (h : task.Awaits ticket scene) :
    ∃ task, (follow turns tasks scene).value.1[place]? = some task ∧
      task.Awaits ticket (follow turns tasks scene).value.2 := by
  induction turns generalizing tasks scene task with
  | nil => exact ⟨task, hplace, h⟩
  | cons next turns ih =>
    have hnext := hturns next (List.mem_cons_self ..)
    obtain ⟨task, hplace, h⟩ := awaits_turn htasks hnext hplace h
    exact ih (fun turn h => hturns turn (List.mem_cons_of_mem _ h))
      (obeys_turn htasks hnext scene).2 hplace h

end Running

/-! ### How handlers start -/

namespace HookM

variable {argument : HookArgument}

/-- Handlers are invoked one after the other, each of them once and in the scene that the one before
it has left. None of their tasks is polled. -/
inductive Starts (value : argument.Carrier) : List (Tap σ .parallel argument) → Scene σ →
    Journal → List (Running σ) → Scene σ → Prop
  | nil (scene : Scene σ) : Starts value [] scene [] [] scene
  | cons {tap : Tap σ .parallel argument} {taps : List (Tap σ .parallel argument)}
    {scene next last : Scene σ} {journal more : Journal} {task : Task σ} {tasks : List (Running σ)}
    (hinvoked : (tap.body : ParallelHandler σ argument) value scene = ⟨journal, task, next⟩)
    (hothers : Starts value taps next more tasks last) :
    Starts value (tap :: taps) scene (journal ++ more) (.running task :: tasks) last

theorem starts_startAll (value : argument.Carrier) (taps : List (Tap σ .parallel argument))
    (scene : Scene σ) :
    Starts value taps scene (startAll value taps scene).journal (startAll value taps scene).value.1
      (startAll value taps scene).value.2 := by
  induction taps generalizing scene with
  | nil => exact .nil scene
  | cons tap taps ih =>
    rw [startAll_cons]
    exact .cons rfl (ih _)

theorem length_startAll (value : argument.Carrier) (taps : List (Tap σ .parallel argument))
    (scene : Scene σ) : (startAll value taps scene).value.1.length = taps.length := by
  induction taps generalizing scene with
  | nil => rfl
  | cons tap taps ih =>
    rw [startAll_cons]
    exact congrArg (· + 1) (ih _)

/-- The callback that the handler at a place is handed, if it takes one: the first that was not
handed out when the handler is invoked. -/
def ticketAt (value : argument.Carrier) (taps : List (Tap σ .parallel argument)) (scene : Scene σ)
    (place : Nat) : Nat :=
  (startAll value (taps.take place) scene).value.2.callbacks.length

variable {value : argument.Carrier} {taps : List (Tap σ .parallel argument)}

/-- The task of a handler that takes a callback waits for the one that the handler is handed. -/
theorem getElem?_startAll_of_withCallback (scene : Scene σ) {place : Nat}
    {tap : Tap σ .parallel argument} {body : argument.Carrier → Nat → HandlerM σ Unit}
    (hplace : taps[place]? = some tap) (hbody : tap.body = withCallback body) :
    (startAll value taps scene).value.1[place]? =
      some (.running (.callback (ticketAt value taps scene place))) := by
  induction taps generalizing scene place with
  | nil => cases hplace
  | cons first taps ih =>
    cases place with
    | zero =>
      obtain rfl : first = tap := Option.some.inj hplace
      rw [startAll_cons, hbody]
      rfl
    | succ place =>
      rw [startAll_cons, ticketAt, List.take_succ_cons, startAll_cons]
      exact ih _ hplace

theorem startAll_append (value : argument.Carrier) (front back : List (Tap σ .parallel argument))
    (scene : Scene σ) : startAll value (front ++ back) scene =
      let before := startAll value front scene
      let others := startAll value back before.value.2
      ⟨before.journal ++ others.journal, before.value.1 ++ others.value.1, others.value.2⟩ := by
  induction front generalizing scene with
  | nil => rfl
  | cons tap front ih =>
    have hfront := ih ((tap.body : ParallelHandler σ argument) value scene).value.2
    rw [List.cons_append, startAll_cons, startAll_cons]
    simp only [hfront, List.append_assoc, List.cons_append]

/-- A scene behind the handing out of a callback. -/
def opened (scene : Scene σ) : Scene σ :=
  { scene with callbacks := scene.callbacks ++ [.waiting] }

/-- The body of a handler that takes a callback is run on the argument and the callback, which waits
to be called. The handlers in front of it have been invoked before. -/
theorem startAll_take_succ_of_withCallback (scene : Scene σ) {place : Nat}
    {tap : Tap σ .parallel argument} {body : argument.Carrier → Nat → HandlerM σ Unit}
    (hplace : taps[place]? = some tap) (hbody : tap.body = withCallback body) :
    let before := startAll value (taps.take place) scene
    let ticket := ticketAt value taps scene place
    let ran := body value ticket (opened before.value.2)
    startAll value (taps.take (place + 1)) scene =
      ⟨before.journal ++ ran.journal, before.value.1 ++ [.running (.callback ticket)],
        ran.value.2⟩ := by
  have htake : taps.take (place + 1) = taps.take place ++ [tap] := by
    rw [List.take_add_one, hplace]
    rfl
  intro before ticket ran
  have hlast : startAll value [tap] before.value.2 =
      ⟨ran.journal, [.running (.callback ticket)], ran.value.2⟩ := by
    rw [startAll_cons, hbody]
    exact congrArg (Traced.mk · _) ((List.append_nil _).trans (List.append_nil _))
  rw [htake, startAll_append]
  simp only [before, hlast]

/-! ### What a schedule comes to -/

/-- The first failure, in the order of subscription. -/
theorem firstFailure?_eq_some_iff {hook : String} {outcomes : List Outcome}
    {failure : HookFailure} : firstFailure? hook taps outcomes = some failure ↔
      ∃ (place : Nat) (tap : Tap σ .parallel argument) (cause : Cause),
        taps[place]? = some tap ∧ outcomes[place]? = some (.error cause) ∧
          (∀ earlier < place, outcomes[earlier]? = some (.ok ())) ∧
            failure = .handler hook tap.name cause := by
  induction taps generalizing outcomes with
  | nil => simp [firstFailure?]
  | cons tap taps ih =>
    cases outcomes with
    | nil => simp [firstFailure?]
    | cons outcome outcomes =>
      cases outcome with
      | error cause =>
        constructor
        · intro h
          exact ⟨0, tap, cause, rfl, rfl, nofun, (Option.some.inj h).symm⟩
        · rintro ⟨place, tap', cause', htap, houtcome, hearlier, rfl⟩
          cases place with
          | zero =>
            cases htap
            cases houtcome
            rfl
          | succ place => cases hearlier 0 (Nat.succ_pos place)
      | ok =>
        change firstFailure? hook taps outcomes = some failure ↔ _
        rw [ih]
        constructor
        · rintro ⟨place, tap', cause, htap, houtcome, hearlier, rfl⟩
          refine ⟨place + 1, tap', cause, htap, houtcome, fun earlier hlt => ?_, rfl⟩
          cases earlier with
          | zero => rfl
          | succ earlier => exact hearlier earlier (Nat.lt_of_succ_lt_succ hlt)
        · rintro ⟨place, tap', cause, htap, houtcome, hearlier, rfl⟩
          cases place with
          | zero => cases houtcome
          | succ place =>
            exact ⟨place, tap', cause, htap, houtcome,
              fun earlier hlt => hearlier (earlier + 1) (Nat.succ_lt_succ hlt), rfl⟩

/-- There is no failure if all are successful. -/
theorem firstFailure?_eq_none_iff (hook : String) {outcomes : List Outcome}
    (hlength : taps.length = outcomes.length) :
    firstFailure? hook taps outcomes = none ↔ ∀ outcome ∈ outcomes, outcome = .ok () := by
  induction taps generalizing outcomes with
  | nil => simp [firstFailure?, List.length_eq_zero_iff.mp hlength.symm]
  | cons tap taps ih =>
    cases outcomes with
    | nil => simp [firstFailure?]
    | cons outcome outcomes =>
      cases outcome with
      | error cause => simp [firstFailure?]
      | ok => simp [firstFailure?, ih (Nat.succ.inj hlength)]

theorem conclude_of_some {hook : String} {outcomes : List Outcome} {failure : HookFailure}
    (h : firstFailure? hook taps outcomes = some failure) :
    conclude hook taps (some outcomes) = .error failure := by
  simp only [conclude, h]

theorem conclude_of_none {hook : String} {outcomes : List Outcome}
    (h : firstFailure? hook taps outcomes = none) :
    conclude hook taps (some outcomes) = .ok .settled := by
  simp only [conclude, h]

/-- What a parallel hook comes to, by the outcomes that its handlers have come to so far. -/
structure Verdict (hook : String) (names : List String) (outcomes : List (Option Outcome))
    (result : Except HookFailure Settlement) : Prop where
  /-- It waits for all of them, also if one has failed. -/
  pending : result = .ok .pending ↔ none ∈ outcomes
  /-- It succeeds if all do. -/
  settled : result = .ok .settled ↔ ∀ outcome ∈ outcomes, outcome = some (.ok ())
  /-- It fails as the first of them that does, in the order of subscription. -/
  failed : ∀ failure, result = .error failure ↔
    none ∉ outcomes ∧ ∃ (place : Nat) (name : String) (cause : Cause),
      names[place]? = some name ∧ outcomes[place]? = some (some (.error cause)) ∧
        (∀ earlier < place, outcomes[earlier]? = some (some (.ok ()))) ∧
          failure = .handler hook name cause

/-- The outcomes decide. -/
theorem Verdict.unique {hook : String} {names : List String} {outcomes : List (Option Outcome)}
    {result result' : Except HookFailure Settlement} (h : Verdict hook names outcomes result)
    (h' : Verdict hook names outcomes result') : result = result' := by
  obtain failure | (_ | _) := result
  · exact ((h'.failed failure).mpr ((h.failed failure).mp rfl)).symm
  · exact (h'.settled.mpr (h.settled.mp rfl)).symm
  · exact (h'.pending.mpr (h.pending.mp rfl)).symm

theorem verdict_conclude (hook : String) {tasks : List (Running σ)}
    (hlength : taps.length = tasks.length) :
    Verdict hook (taps.map Tap.name) (tasks.map Running.outcome?)
      (conclude hook taps (Running.outcomes? tasks)) := by
  cases houtcomes : Running.outcomes? tasks with
  | none =>
    have hwaits := Running.outcomes?_eq_none_iff.mp houtcomes
    refine ⟨iff_of_true rfl hwaits, iff_of_false nofun fun h => ?_,
      fun failure => iff_of_false nofun fun h => h.1 hwaits⟩
    cases h none hwaits
  | some outcomes =>
    have hmap := Running.outcomes?_eq_some_iff.mp houtcomes
    have hlength : taps.length = outcomes.length := by
      simpa [hlength] using congrArg List.length hmap
    have hthrough : none ∉ outcomes.map some := by simp
    rw [hmap]
    cases hfirst : firstFailure? hook taps outcomes with
    | none =>
      have hsuccess := (firstFailure?_eq_none_iff hook hlength).mp hfirst
      rw [conclude_of_none hfirst]
      refine ⟨iff_of_false nofun hthrough, iff_of_true rfl ?_, fun failure => iff_of_false nofun ?_⟩
      · simpa using hsuccess
      · rintro ⟨-, place, name, cause, -, houtcome, -⟩
        have hmem := List.mem_of_getElem? houtcome
        cases hsuccess _ (by simpa using hmem)
    | some failure =>
      rw [conclude_of_some hfirst]
      refine ⟨iff_of_false nofun hthrough, iff_of_false nofun fun h => ?_, fun failure' => ?_⟩
      · have hnone := (firstFailure?_eq_none_iff hook hlength).mpr (by simpa using h)
        exact absurd (hfirst.symm.trans hnone) nofun
      · have hiff : Except.error failure = (Except.error failure' : Except HookFailure Settlement) ↔
            firstFailure? hook taps outcomes = some failure' := by simp [hfirst]
        rw [hiff, firstFailure?_eq_some_iff, and_iff_right hthrough]
        simp only [List.getElem?_map, Option.map_eq_some_iff, Option.some.injEq, exists_eq_right]
        constructor
        · rintro ⟨place, tap, cause, htap, houtcome, hearlier, rfl⟩
          exact ⟨place, tap.name, cause, ⟨tap, htap, rfl⟩, houtcome, hearlier, rfl⟩
        · rintro ⟨place, name, cause, ⟨tap, htap, rfl⟩, houtcome, hearlier, rfl⟩
          exact ⟨place, tap, cause, htap, houtcome, hearlier, rfl⟩

/-! ### Firing under a schedule -/

/-- Fires a parallel hook whose tasks are polled under a schedule. -/
def promiseUnder (turns : List (Turn σ)) (hook : String) (argument : HookArgument)
    (value : argument.Carrier) : HookM σ Settlement :=
  promiseWith (fun tasks => Running.outcomes? <$> Running.follow turns tasks) hook argument value

/-- The tasks of handlers at the end of a schedule, and the scene. -/
def endOf (turns : List (Turn σ)) (value : argument.Carrier)
    (taps : List (Tap σ .parallel argument)) (scene : Scene σ) : List (Running σ) × Scene σ :=
  let started := (startAll value taps scene).value
  (Running.follow turns started.1 started.2).value

variable {session : Session σ} {registry : HookRegistry σ} {hook : String}

theorem run_promiseUnder
    (hfire : session.registry.fire hook .parallel argument = .ok (taps, registry))
    (turns : List (Turn σ)) (value : argument.Carrier) :
    (promiseUnder turns hook argument value).run session =
      let started := startAll value taps session.scene
      let followed := Running.follow turns started.value.1 started.value.2
      ⟨.record ⟨.trace, .hooks, s!"Starting {taps.length} handlers on hook '{hook}'"⟩ ::
          (started.journal ++ followed.journal),
        conclude hook taps (Running.outcomes? followed.value.1), ⟨registry, followed.value.2⟩⟩ := by
  refine run_promiseWith_of_ok _ value hfire rfl ?_
  exact congrArg (Traced.mk · _) (List.append_nil _)

theorem verdict_promiseUnder
    (hfire : session.registry.fire hook .parallel argument = .ok (taps, registry))
    (turns : List (Turn σ)) (value : argument.Carrier) :
    Verdict hook (taps.map Tap.name)
      ((endOf turns value taps session.scene).1.map Running.outcome?)
      ((promiseUnder turns hook argument value).run session).value.1 := by
  rw [run_promiseUnder hfire]
  exact verdict_conclude hook ((Running.length_follow ..).trans (length_startAll ..)).symm

/-- Polling in rounds is a schedule. -/
theorem run_promise
    (hfire : session.registry.fire hook .parallel argument = .ok (taps, registry))
    (patience : Nat) (value : argument.Carrier) :
    (promise patience hook argument value).run session =
      (promiseUnder (Running.rounds patience taps.length) hook argument value).run session := by
  rw [run_promiseUnder hfire]
  refine run_promiseWith_of_ok _ value hfire rfl ?_
  rw [Running.settle_eq_follow, length_startAll]
  exact congrArg (Traced.mk · _) (List.append_nil _)

/-- The handlers start when the hook is fired. -/
theorem exists_starts_promise
    (hfire : session.registry.fire hook .parallel argument = .ok (taps, registry))
    (patience : Nat) (value : argument.Carrier) :
    ∃ (record : Record) (journal more : Journal) (tasks : List (Running σ)) (scene : Scene σ),
      Starts value taps session.scene journal tasks scene ∧
        ((promise patience hook argument value).run session).journal =
          .record record :: (journal ++ more) := by
  rw [promise, run_promiseWith_of_ok _ value hfire rfl rfl]
  exact ⟨_, _, _, _, _, starts_startAll value taps session.scene, rfl⟩

/-- A parallel hook that is fired with handlers, under a schedule. -/
structure Fanned (session : Session σ) (hook : String) (value : argument.Carrier)
    (taps : List (Tap σ .parallel argument)) (registry : HookRegistry σ) (turns : List (Turn σ)) :
    Prop where
  /-- All handlers are invoked, once and in order, before the first turn is taken. -/
  invoked : ∃ (record : Record) (journal : Journal) (tasks : List (Running σ)) (scene : Scene σ),
    Starts value taps session.scene journal tasks scene ∧
      endOf turns value taps session.scene = (Running.follow turns tasks scene).value ∧
        ((promiseUnder turns hook argument value).run session).journal =
          .record record :: (journal ++ (Running.follow turns tasks scene).journal)
  /-- The outcomes of all handlers decide. -/
  verdict : Verdict hook (taps.map Tap.name)
    ((endOf turns value taps session.scene).1.map Running.outcome?)
    ((promiseUnder turns hook argument value).run session).value.1
  /-- Wherever and whenever handlers of the same names come to the same outcomes, the result is the
  same. -/
  timeless : ∀ (other : Session σ) (value' : argument.Carrier) taps' registry' turns',
    other.registry.fire hook .parallel argument = .ok (taps', registry') →
      taps'.map Tap.name = taps.map Tap.name →
        (endOf turns' value' taps' other.scene).1.map Running.outcome? =
            (endOf turns value taps session.scene).1.map Running.outcome? →
          ((promiseUnder turns' hook argument value').run other).value.1 =
            ((promiseUnder turns hook argument value).run session).value.1
  /-- If callbacks are called and dropped once, a handler that takes one comes to what has become of
  it. -/
  callback : (∀ tap ∈ taps, ParallelHandler.Obeys .oneShot tap.body) →
    (∀ turn ∈ turns, turn.Obeys .oneShot) → ∀ (place : Nat) tap body,
      taps[place]? = some tap → tap.body = withCallback body →
      ∃ task, (endOf turns value taps session.scene).1[place]? = some task ∧
        let scene := (endOf turns value taps session.scene).2
        let become := scene.callbacks[ticketAt value taps session.scene place]?.bind
          Callback.outcome?
        (∀ outcome, task.outcome? = some outcome → become = some outcome) ∧
          (task.poll scene).value.1.outcome? = become
  /-- The body of such a handler is run once, on the argument and on the callback that it is handed,
  when the handlers in front of it have been invoked. -/
  handed : ∀ (place : Nat) tap body, taps[place]? = some tap → tap.body = withCallback body →
    let before := startAll value (taps.take place) session.scene
    let ticket := ticketAt value taps session.scene place
    let ran := body value ticket (opened before.value.2)
    startAll value (taps.take (place + 1)) session.scene =
      ⟨before.journal ++ ran.journal, before.value.1 ++ [.running (.callback ticket)],
        ran.value.2⟩
  /-- Polling in rounds is a schedule. -/
  rounds : ∀ patience, (promise patience hook argument value).run session =
    (promiseUnder (Running.rounds patience taps.length) hook argument value).run session

/-- **A parallel hook waits for all of its handlers, and does not depend on when they are polled.**
-/
theorem fanned (hfire : session.registry.fire hook .parallel argument = .ok (taps, registry))
    (value : argument.Carrier) (turns : List (Turn σ)) :
    Fanned session hook value taps registry turns where
  invoked :=
    ⟨_, _, _, _, starts_startAll value taps session.scene, rfl,
      congrArg Traced.journal (run_promiseUnder hfire turns value)⟩
  verdict := verdict_promiseUnder hfire turns value
  timeless := by
    intro other value' taps' registry' turns' hfire' hnames houtcomes
    have hverdict := verdict_promiseUnder hfire' turns' value'
    rw [hnames, houtcomes] at hverdict
    exact hverdict.unique (verdict_promiseUnder hfire turns value)
  callback := by
    intro htaps hturns place tap body hplace hbody
    obtain ⟨task, htask, hawaits⟩ := Running.awaits_follow hturns
      (obeys_startAll htaps session.scene).2
      (getElem?_startAll_of_withCallback session.scene hplace hbody) .waiting
    exact ⟨task, htask, fun _ => hawaits.outcome?, hawaits.poll.1⟩
  handed _ _ _ hplace hbody := startAll_take_succ_of_withCallback session.scene hplace hbody
  rounds patience := run_promise hfire patience value

/-- Two handlers that fail: the first takes its time, the second is handed a callback. -/
def slowAndQuick : List (Tap Unit .parallel ArgumentType.number) := [
  ⟨"slow", show ParallelHandler Unit ArgumentType.number from
    fun _ => return .pause (.done (.error (.ofMessage "too slow")))⟩,
  ⟨"quick", withCallback fun _ ticket => Scene.call (some (.ofMessage "too quick")) ticket⟩]

/-- A session with a hook that has two handlers. -/
def slowAndQuickSession : Session Unit :=
  let point := ⟨.parallel, ArgumentType.number, ["value"], ["slow", "quick"], slowAndQuick, false⟩
  ⟨⟨[("done", point)]⟩, .ofState ()⟩

theorem oneShot_slowAndQuick :
    ∀ tap ∈ slowAndQuick, ParallelHandler.Obeys .oneShot tap.body := by
  rintro tap (_ | ⟨_, _ | ⟨_, ⟨⟩⟩⟩)
  · exact fun _ => ⟨.pure _, fun _ => .pause (.done _)⟩
  · exact oneShot_withCallback fun _ ticket => HandlerM.oneShot_call _ ticket

/-- The second handler fails first, but the first is reported. -/
theorem fanned_slowAndQuick :
    let value : HookArgument.Carrier ArgumentType.number := (3 : UInt32)
    ∃ registry, slowAndQuickSession.registry.fire "done" .parallel ArgumentType.number =
        .ok (slowAndQuick, registry) ∧
      Fanned slowAndQuickSession "done" value slowAndQuick registry [.poll 1, .poll 0, .poll 0] ∧
      (∀ tap ∈ slowAndQuick, ParallelHandler.Obeys .oneShot tap.body) ∧
      ((promiseUnder [.poll 1, .poll 0] "done" _ value).run slowAndQuickSession).value.1 =
        .ok .pending ∧
      ((promiseUnder [.poll 1, .poll 0, .poll 0] "done" _ value).run slowAndQuickSession).value.1 =
        .error (.handler "done" "slow" (.ofMessage "too slow")) :=
  ⟨_, rfl, fanned rfl _ _, oneShot_slowAndQuick, rfl, rfl⟩

end HookM

end ModuleBundler
