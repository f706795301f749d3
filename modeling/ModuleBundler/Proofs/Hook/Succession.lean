import ModuleBundler.Proofs.Hook.Session

/-!
# Handlers in succession

The handlers of a synchronous hook run one after the other. Each is handed what the one before it
has made of the argument, until one of them fails; what that one has made of the argument is kept.

## Main definitions

* `HookM.Succession` — what handlers do one after the other.

## Main results

* `HookM.runAll_eq_iff` — handlers run in succession.
-/

namespace ModuleBundler.HookM

variable {σ : Type} {hook : String} {argument : HookArgument} {taps : List (Tap σ .sync argument)}
  {value last : argument.Carrier} {values : List argument.Carrier} {scene after : Scene σ}
  {journal : Journal} {result : Except HookFailure Unit}

/-- What is logged when a handler is called. -/
def calling (hook handler : String) : Event :=
  .record ⟨.trace, .hooks, s!"Calling handler '{handler}' on hook '{hook}'"⟩

/-- What handlers do one after the other: what they write into the journal, what each that runs
makes of the argument, what they come to, and the scene that they leave. -/
inductive Succession (hook : String) {argument : HookArgument} :
    List (Tap σ .sync argument) → argument.Carrier → Scene σ → Journal →
      List argument.Carrier → Except HookFailure Unit → Scene σ → Prop
  | done (value : argument.Carrier) (scene : Scene σ) :
    Succession hook [] value scene [] [] (.ok ()) scene
  | next {tap : Tap σ .sync argument} {taps : List (Tap σ .sync argument)}
    {value changed : argument.Carrier} {values : List argument.Carrier}
    {scene between after : Scene σ} {journal more : Journal} {result : Except HookFailure Unit}
    (hbody : (tap.body : SyncHandler σ argument) value scene =
      ⟨journal, (changed, .ok ()), between⟩)
    (hrest : Succession hook taps changed between more values result after) :
    Succession hook (tap :: taps) value scene (calling hook tap.name :: (journal ++ more))
      (changed :: values) result after
  | failed {tap : Tap σ .sync argument} {taps : List (Tap σ .sync argument)}
    {value changed : argument.Carrier} {scene after : Scene σ} {journal : Journal} {cause : Cause}
    (hbody : (tap.body : SyncHandler σ argument) value scene =
      ⟨journal, (changed, .error cause), after⟩) :
    Succession hook (tap :: taps) value scene (calling hook tap.name :: journal) [changed]
      (.error (.handler hook tap.name cause)) after

/-- The other handlers run behind the first one, if it does not fail. -/
theorem runAll_cons (tap : Tap σ .sync argument) (taps : List (Tap σ .sync argument))
    (value : argument.Carrier) (scene : Scene σ) :
    runAll hook (tap :: taps) value scene =
      Traced.bind ⟨[calling hook tap.name], ()⟩ fun _ =>
        Traced.bind ((tap.body : SyncHandler σ argument) value scene) fun invoked =>
          (match invoked.1 with
            | (value, .ok ()) => runAll hook taps value
            | (value, .error cause) => return (value, .error (.handler hook tap.name cause)) :
              HandlerM σ (argument.Carrier × Except HookFailure Unit)) invoked.2 :=
  rfl

/-- Handlers that do so are run so. -/
theorem Succession.runAll (h : Succession hook taps value scene journal values result after) :
    HookM.runAll hook taps value scene =
      ⟨journal, (values.getLast?.getD value, result), after⟩ := by
  induction h with
  | done => rfl
  | @next tap taps value changed values scene between after journal more result hbody _ ih =>
    rw [runAll_cons, hbody, List.getLast?_cons, Option.getD_some]
    change Traced.mk (_ :: (journal ++ (HookM.runAll hook taps changed between).journal))
      (HookM.runAll hook taps changed between).value = _
    rw [ih]
  | failed hbody =>
    rw [runAll_cons, hbody]
    exact congrArg (Traced.mk · _) (congrArg _ (List.append_nil _))

/-- Handlers do something in succession, whatever they do. -/
theorem exists_succession (hook : String) (taps : List (Tap σ .sync argument))
    (value : argument.Carrier) (scene : Scene σ) :
    ∃ journal values result after,
      Succession hook taps value scene journal values result after := by
  induction taps generalizing value scene with
  | nil => exact ⟨_, _, _, _, .done value scene⟩
  | cons tap taps ih =>
    rcases hbody : (tap.body : SyncHandler σ argument) value scene with
      ⟨journal, ⟨changed, cause | _⟩, between⟩
    · exact ⟨_, _, _, _, .failed hbody⟩
    · obtain ⟨_, _, _, _, hrest⟩ := ih changed between
      exact ⟨_, _, _, _, .next hbody hrest⟩

/-- **Handlers run in succession**; the argument is what the last of them has made of it. -/
theorem runAll_eq_iff : runAll hook taps value scene = ⟨journal, (last, result), after⟩ ↔
    ∃ values, Succession hook taps value scene journal values result after ∧
      last = values.getLast?.getD value := by
  constructor
  · intro h
    obtain ⟨_, values, _, _, hsuccession⟩ := exists_succession hook taps value scene
    cases hsuccession.runAll.symm.trans h
    exact ⟨values, hsuccession, rfl⟩
  · rintro ⟨values, hsuccession, rfl⟩
    exact hsuccession.runAll

/-- Handlers that are successful behind others run on what these have made of the argument. -/
theorem Succession.exists_append {front back : List (Tap σ .sync argument)}
    (h : Succession hook (front ++ back) value scene journal values (.ok ()) after) :
    ∃ handling more first rest between,
      Succession hook front value scene handling first (.ok ()) between ∧
        Succession hook back (first.getLast?.getD value) between more rest (.ok ()) after ∧
          values = first ++ rest := by
  induction front generalizing value scene journal values with
  | nil => exact ⟨_, _, _, _, _, .done value scene, h, rfl⟩
  | cons tap front ih =>
    cases h with
    | next hbody hrest =>
      obtain ⟨_, _, first, rest, _, hfront, hback, rfl⟩ := ih hrest
      rw [← Option.getD_some (a := first.getLast?.getD _), ← List.getLast?_cons] at hback
      exact ⟨_, _, _, _, _, .next hbody hfront, hback, rfl⟩

/-- Handlers fail by one of them. -/
theorem Succession.exists_handler {failure : HookFailure}
    (h : Succession hook taps value scene journal values (.error failure) after) :
    ∃ tap ∈ taps, ∃ cause, failure = .handler hook tap.name cause := by
  generalize hresult : (Except.error failure : Except HookFailure Unit) = result at h
  induction h with
  | done => cases hresult
  | next _ _ ih =>
    obtain ⟨tap, htap, hfailure⟩ := ih hresult
    exact ⟨tap, List.mem_cons_of_mem _ htap, hfailure⟩
  | @failed tap _ _ _ _ _ _ cause =>
    exact ⟨tap, List.mem_cons_self .., cause, Except.error.inj hresult⟩

end ModuleBundler.HookM
