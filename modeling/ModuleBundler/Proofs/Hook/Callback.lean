import ModuleBundler.Proofs.Hook.Discipline

/-!
# Callbacks

A callback is called or dropped once: handlers that keep to this never change what has become of a
callback, nor do they forget one. A task that waits for a callback then comes to what has become of
it, whenever it is polled.

## Main definitions

* `Callback.outcome?` — what waiting for a callback comes to.
* `Scene.Keeps`, `Discipline.oneShot` — callbacks are called or dropped once.
* `Running.Awaits` — a task that waits for a callback, or has waited for it.

## Main results

* `Running.Awaits.poll` — a poll comes to what has become of the callback.
-/

namespace ModuleBundler

variable {σ : Type}

/-- What waiting for a callback comes to: nothing yet, a success, the failure it was called with, or
the failure that it was dropped. -/
def Callback.outcome? : Callback → Option Outcome
  | waiting => none
  | called none => some (.ok ())
  | called (some cause) => some (.error cause)
  | dropped => some (.error droppedCallback)

/-! ### Callbacks are called or dropped once -/

namespace Scene

variable {scene next last : Scene σ} {ticket : Nat} {callback : Callback}

/-- The callbacks of a scene are still there in another one, and those that do not wait are as they
were. -/
def Keeps (scene next : Scene σ) : Prop :=
  ∀ (ticket : Nat) (callback : Callback), scene.callbacks[ticket]? = some callback →
    ∃ later, next.callbacks[ticket]? = some later ∧ (callback ≠ .waiting → later = callback)

theorem Keeps.refl (scene : Scene σ) : scene.Keeps scene :=
  fun _ callback h => ⟨callback, h, fun _ => rfl⟩

theorem Keeps.trans (h : scene.Keeps next) (h' : next.Keeps last) : scene.Keeps last := by
  intro ticket callback hcallback
  obtain ⟨later, hlater, hsame⟩ := h ticket callback hcallback
  obtain ⟨latest, hlatest, hsame'⟩ := h' ticket later hlater
  refine ⟨latest, hlatest, fun hne => ?_⟩
  obtain rfl := hsame hne
  exact hsame' hne

/-- What has become of a callback stays so. -/
theorem Keeps.outcome? {outcome : Outcome} (h : scene.Keeps next)
    (hcallback : scene.callbacks[ticket]?.bind Callback.outcome? = some outcome) :
    next.callbacks[ticket]?.bind Callback.outcome? = some outcome := by
  obtain ⟨callback, hfind, houtcome⟩ := Option.bind_eq_some_iff.mp hcallback
  obtain ⟨later, hlater, hsame⟩ := h ticket callback hfind
  have hne : callback ≠ .waiting := by
    rintro rfl
    cases houtcome
  rw [hlater, hsame hne]
  exact houtcome

end Scene

/-- Callbacks are called and dropped once. -/
def Discipline.oneShot : Discipline σ where
  Allows scene _ next := scene.Keeps next
  refl := .refl
  record scene _ := .refl scene
  trans := .trans

namespace HandlerM

theorem oneShot_openCallback : Obeys .oneShot (Scene.openCallback : HandlerM σ Nat) := by
  intro scene place callback h
  have hlt := (List.getElem?_eq_some_iff.mp h).1
  exact ⟨callback, (List.getElem?_append_left hlt).trans h, fun _ => rfl⟩

/-- A callback is settled only while it waits. -/
theorem oneShot_settleCallback (callback : Callback) (ticket : Nat) :
    Obeys .oneShot (Scene.settleCallback callback ticket : HandlerM σ Unit) := by
  intro scene place before h
  change ∃ later, (if scene.callbacks[ticket]? = some .waiting then
    { scene with callbacks := scene.callbacks.set ticket callback } else scene).callbacks[place]? =
      some later ∧ _
  split
  case isFalse => exact ⟨before, h, fun _ => rfl⟩
  case isTrue hwaits =>
    by_cases hplace : ticket = place
    · subst hplace
      obtain rfl : before = .waiting := Option.some.inj (h.symm.trans hwaits)
      obtain ⟨hlt, -⟩ := List.getElem?_eq_some_iff.mp h
      exact ⟨callback, List.getElem?_set_self hlt, fun hne => absurd rfl hne⟩
    · exact ⟨before, (List.getElem?_set_ne hplace).trans h, fun _ => rfl⟩

theorem oneShot_call (error : Option Cause) (ticket : Nat) :
    Obeys .oneShot (Scene.call error ticket : HandlerM σ Unit) :=
  oneShot_settleCallback _ ticket

theorem oneShot_drop (ticket : Nat) : Obeys .oneShot (Scene.drop ticket : HandlerM σ Unit) :=
  oneShot_settleCallback _ ticket

end HandlerM

/-- A handler that is handed a callback calls and drops callbacks once if what it does is so. -/
theorem HookM.oneShot_withCallback {argument : HookArgument}
    {body : argument.Carrier → Nat → HandlerM σ Unit}
    (h : ∀ value ticket, (body value ticket).Obeys .oneShot) :
    ParallelHandler.Obeys .oneShot (HookM.withCallback body) :=
  fun value => ⟨.bind HandlerM.oneShot_openCallback fun ticket =>
    .bind (h value ticket) fun _ => .pure _, fun _ => .callback _⟩

/-! ### Waiting for a callback -/

theorem Task.awaitCallback_of_some {scene : Scene σ} {ticket : Nat} {outcome : Outcome}
    (h : scene.callbacks[ticket]?.bind Callback.outcome? = some outcome) :
    Task.awaitCallback scene ticket = .settled outcome := by
  obtain ⟨callback, hfind, houtcome⟩ := Option.bind_eq_some_iff.mp h
  unfold Task.awaitCallback
  rw [hfind]
  obtain _ | (_ | cause) | _ := callback <;> cases houtcome <;> rfl

theorem Task.awaitCallback_of_none {scene : Scene σ} {ticket : Nat}
    (h : scene.callbacks[ticket]?.bind Callback.outcome? = none) :
    Task.awaitCallback scene ticket = .running (.callback ticket) := by
  unfold Task.awaitCallback
  cases hfind : scene.callbacks[ticket]? with
  | none => rfl
  | some callback =>
    rw [hfind] at h
    obtain _ | (_ | cause) | _ := callback <;> first | rfl | cases h

namespace Running

/-- The task waits for a callback, or has come to what has become of it. -/
inductive Awaits (ticket : Nat) (scene : Scene σ) : Running σ → Prop
  | waiting : Awaits ticket scene (.running (.callback ticket))
  | through {outcome : Outcome}
    (h : scene.callbacks[ticket]?.bind Callback.outcome? = some outcome) :
    Awaits ticket scene (.settled outcome)

variable {ticket : Nat} {scene next : Scene σ} {task : Running σ}

theorem Awaits.keep (h : task.Awaits ticket scene) (hkeeps : scene.Keeps next) :
    task.Awaits ticket next := by
  cases h with
  | waiting => exact .waiting
  | through h => exact .through (hkeeps.outcome? h)

/-- What the task has come to has become of the callback. -/
theorem Awaits.outcome? (h : task.Awaits ticket scene) {outcome : Outcome}
    (houtcome : task.outcome? = some outcome) :
    scene.callbacks[ticket]?.bind Callback.outcome? = some outcome := by
  cases h with
  | waiting => cases houtcome
  | through h => exact h.trans houtcome

/-- A poll comes to what has become of the callback. -/
theorem Awaits.poll (h : task.Awaits ticket scene) :
    (task.poll scene).value.1.outcome? = scene.callbacks[ticket]?.bind Callback.outcome? ∧
      Awaits ticket (task.poll scene).value.2 (task.poll scene).value.1 := by
  cases h with
  | through h => exact ⟨h.symm, .through h⟩
  | waiting =>
    change (Task.awaitCallback scene ticket).outcome? = _ ∧
      Awaits ticket scene (Task.awaitCallback scene ticket)
    cases hcallback : scene.callbacks[ticket]?.bind Callback.outcome? with
    | none =>
      rw [Task.awaitCallback_of_none hcallback]
      exact ⟨rfl, .waiting⟩
    | some outcome =>
      rw [Task.awaitCallback_of_some hcallback]
      exact ⟨rfl, .through hcallback⟩

end Running

end ModuleBundler
