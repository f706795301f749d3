import Mathlib.Data.List.Forall2
import ModuleBundler.Emission
import ModuleBundler.Proofs.Hook.Refusal

/-!
# Emissions

An emission renders the modules, fires the hook whose handlers choose the path, and writes what was
rendered. Each step is taken only if the one before it was successful. So an emission comes to one
of five ends, and only at two of them a file was to be written: once, with the whole text, at the
path that the handlers left. A handler may send the bundle to another path, or leave the path alone;
the last path to which the bundle was sent decides.

## Main definitions

* `Emission.chosen` — the path that handlers leave.
* `Emission.Sends`, `Emission.Sets` — where handlers send the bundle, and the paths that they have
  set in a run.
* `Emission.Ends` — the ends of an emission, with all that was done.
* `Emission.AllOrNothing` — what an emission does, and what it leaves.

## Main results

* `Emission.chosen_eq` — the last path to which a handler sends the bundle is chosen.
* `Emission.run_emit_iff` — an emission comes to one of its ends.
* `Emission.allOrNothing` — a bundle is written, or no file is touched.
-/

namespace ModuleBundler

variable {σ α : Type}

/-! ### Steps of a build -/

namespace BuildM

theorem run_withHooks {hooks : HookM σ α} {session after : Session σ} {journal : Journal}
    {result : Except HookFailure α} (h : hooks.run session = ⟨journal, result, after⟩)
    (storage : Storage) :
    (withHooks hooks).run ⟨session, storage⟩ =
      ⟨journal, result.mapError .hook, ⟨after, storage⟩⟩ := by
  change Traced.mk ((hooks.run session).journal ++ [])
    ((hooks.run session).value.1.mapError _, World.mk (hooks.run session).value.2 storage) = _
  rw [h, List.append_nil]

theorem run_log (level : Level) (topic : Topic) (message : String) (world : World σ) :
    (log level topic message).run world = ⟨[.record ⟨level, topic, message⟩], .ok (), world⟩ :=
  rfl

theorem run_attempt (task : Attempt α) (world : World σ) :
    (attempt task).run world = ⟨task.journal, task.result, world⟩ :=
  Program.run_lift rfl world

theorem run_write {path : Path} {text : String} {before after : Storage}
    {outcome : Except StorageFailure Unit} (h : (before.write path text).value = (after, outcome))
    (session : Session σ) :
    (write path text).run ⟨session, before⟩ =
      ⟨(before.write path text).journal, outcome.mapError (.unwritable path),
        ⟨session, after⟩⟩ := by
  change Traced.mk ((before.write path text).journal ++ [])
    ((before.write path text).value.2.mapError _,
      World.mk session (before.write path text).value.1) = _
  rw [h, List.append_nil]

end BuildM

namespace Emission

/-! ### Steps of an emission -/

section Steps

variable {renderer : Renderer} {template text : String} {output : Path}
  {modules : List RenderedModule} {session after : Session σ} {journal : Journal}
  {context : BuildContext} {before storage : Storage}

/-- What is logged when the bundle is written. -/
def report (summary : Summary) : Event :=
  .record ⟨.info, .emission,
    s!"Wrote {summary.modules} modules ({summary.bytes} bytes) to {summary.outputPath}"⟩

/-- The path is that of the context that the handlers leave, if none of them fails. -/
theorem run_chooseOutput {outcome : Except HookFailure Unit}
    (h : (HookM.call emitHook ArgumentType.context ⟨output⟩).run session =
      ⟨journal, .ok (context, outcome), after⟩) (storage : Storage) :
    (chooseOutput output).run ⟨session, storage⟩ =
      ⟨journal, (outcome.map fun _ => context.outputPath).mapError .hook, ⟨after, storage⟩⟩ := by
  unfold chooseOutput
  rw [Program.run_bind_of_ok (BuildM.run_withHooks h storage)]
  cases outcome <;> exact congrArg (Traced.mk · _) (List.append_nil _)

/-- Without a text, nothing is done. -/
theorem run_emit_of_unrendered {failure : Failure}
    (h : renderModules renderer template modules = .error failure) (world : World σ) :
    (emit renderer template output modules).run world = ⟨[], .error failure, world⟩ := by
  rw [emit, h]
  rfl

/-- Without a path, nothing is written. -/
theorem run_emit_of_stopped {failure : HookFailure}
    (hrenders : renderModules renderer template modules = .ok text)
    (h : (HookM.call emitHook ArgumentType.context ⟨output⟩).run session =
      ⟨journal, .ok (context, .error failure), after⟩) :
    (emit renderer template output modules).run ⟨session, storage⟩ =
      ⟨journal, .error (.hook failure), ⟨after, storage⟩⟩ := by
  rw [emit, hrenders]
  exact Program.run_bind_of_error (run_chooseOutput h storage)

theorem run_emit_of_unwritten {cause : StorageFailure}
    (hrenders : renderModules renderer template modules = .ok text)
    (h : (HookM.call emitHook ArgumentType.context ⟨output⟩).run session =
      ⟨journal, .ok (context, .ok ()), after⟩)
    (hwrite : (before.write context.outputPath text).value = (storage, .error cause)) :
    (emit renderer template output modules).run ⟨session, before⟩ =
      ⟨journal ++ (before.write context.outputPath text).journal,
        .error (.unwritable context.outputPath cause), ⟨after, storage⟩⟩ := by
  rw [emit, hrenders]
  exact Program.run_bind_eq (run_chooseOutput h before)
    (Program.run_bind_of_error (BuildM.run_write hwrite after))

theorem run_emit_of_written (hrenders : renderModules renderer template modules = .ok text)
    (h : (HookM.call emitHook ArgumentType.context ⟨output⟩).run session =
      ⟨journal, .ok (context, .ok ()), after⟩)
    (hwrite : (before.write context.outputPath text).value = (storage, .ok ())) :
    (emit renderer template output modules).run ⟨session, before⟩ =
      ⟨journal ++ ((before.write context.outputPath text).journal ++
          [report ⟨context.outputPath, text.utf8ByteSize, modules.length⟩]),
        .ok ⟨context.outputPath, text.utf8ByteSize, modules.length⟩, ⟨after, storage⟩⟩ := by
  rw [emit, hrenders]
  exact Program.run_bind_eq (run_chooseOutput h before)
    (Program.run_bind_eq (BuildM.run_write hwrite after)
      (Program.run_bind_eq (BuildM.run_log ..) rfl))

end Steps

/-! ### Paths that handlers set -/

/-- The path that handlers leave, by the contexts that each of them has made. -/
def chosen (output : Path) (contexts : List BuildContext) : Path :=
  (contexts.getLast?.getD ⟨output⟩).outputPath

theorem chosen_cons (output : Path) (context : BuildContext) (contexts : List BuildContext) :
    chosen output (context :: contexts) = chosen context.outputPath contexts := by
  rw [chosen, List.getLast?_cons]
  rfl

/-- A handler sends the bundle to a path, or leaves the path alone, whatever else it does. -/
def Sends (tap : Tap σ .sync ArgumentType.context) (path? : Option Path) : Prop :=
  ∀ (context : BuildContext) (scene : Scene σ),
    ((tap.body : SyncHandler σ ArgumentType.context) context scene).value.1.1 =
      (⟨path?.getD context.outputPath⟩ : BuildContext)

/-- Handlers have set paths: each has left the context with its path, or as it was handed to it. -/
inductive Sets : Path → List BuildContext → List (Option Path) → Prop
  | nil (output : Path) : Sets output [] []
  | cons {output : Path} {contexts : List BuildContext} {paths : List (Option Path)}
    (path? : Option Path) (hrest : Sets (path?.getD output) contexts paths) :
    Sets output (⟨path?.getD output⟩ :: contexts) (path? :: paths)

/-- The last path that was set is chosen; if there is none, it stays the one at the start. -/
theorem Sets.chosen_eq {output : Path} {contexts : List BuildContext} {paths : List (Option Path)}
    (h : Sets output contexts paths) :
    chosen output contexts = (paths.filterMap id).getLast?.getD output := by
  induction h with
  | nil => rfl
  | @cons output contexts paths path? _ ih =>
    rw [chosen_cons, ih]
    cases path? with
    | none => rfl
    | some path =>
      rw [List.filterMap_cons_some (f := id) rfl, List.getLast?_cons, Option.getD_some]
      rfl

/-- What handlers send the bundle to, they set. -/
theorem sets_of_sends {taps : List (Tap σ .sync ArgumentType.context)} {paths : List (Option Path)}
    {context : BuildContext} {contexts : List BuildContext} {scene after : Scene σ}
    {journal : Journal} (hsends : List.Forall₂ Sends taps paths)
    (h : HookM.Succession emitHook taps context scene journal contexts (.ok ()) after) :
    Sets context.outputPath contexts paths := by
  induction hsends generalizing context contexts scene journal with
  | nil =>
    cases h
    exact .nil context.outputPath
  | @cons tap path? taps paths hsend hsends ih =>
    cases h with
    | @next _ _ _ changed contexts _ between _ _ _ _ hbody hrest =>
      have hchanged : changed = (⟨path?.getD context.outputPath⟩ : BuildContext) := by
        have hsent := hsend context scene
        rw [hbody] at hsent
        exact hsent
      have hsets := ih hrest
      subst hchanged
      exact .cons path? hsets

/-- The last path to which the bundle is sent is chosen; if there is none, it stays the one at the
start. -/
theorem chosen_eq {taps : List (Tap σ .sync ArgumentType.context)} {paths : List (Option Path)}
    {context : BuildContext} {contexts : List BuildContext} {scene after : Scene σ}
    {journal : Journal} (hsends : List.Forall₂ Sends taps paths)
    (h : HookM.Succession emitHook taps context scene journal contexts (.ok ()) after) :
    chosen context.outputPath contexts =
      (paths.filterMap id).getLast?.getD context.outputPath :=
  (sets_of_sends hsends h).chosen_eq

/-! ### Ends -/

section Ends

variable (renderer : Renderer) (template : String) (output : Path) (assets : List Asset)

/-- A text is made of the assets, and the hook is fired whose handlers choose the path: the
handlers, and the registry in which the hook has fired. -/
structure Fires (world : World σ) (text : String)
    (taps : List (Tap σ .sync ArgumentType.context)) (registry : HookRegistry σ) : Prop where
  renders : renderer template (assets.map Asset.rendered) = .ok text
  fires : world.session.registry.fire emitHook .sync ArgumentType.context = .ok (taps, registry)

/-- The ends of an emission: what is written into the journal, what it comes to, and what it
leaves. -/
inductive Ends (world : World σ) : Journal → Except Failure Summary → World σ → Prop
  /-- The modules cannot be rendered. -/
  | unrendered {cause : Cause} (h : renderer template (assets.map Asset.rendered) = .error cause) :
    Ends world [] (.error (.render "failed to render bundle template" (some cause))) world
  /-- The hook cannot be fired. -/
  | refused {text : String} {failure : HookFailure}
    (hrenders : renderer template (assets.map Asset.rendered) = .ok text)
    (h : world.session.registry.Refuses emitHook ⟨.sync, ArgumentType.context, none⟩ failure) :
    Ends world [] (.error (.hook failure)) world
  /-- A handler fails. -/
  | stopped {text : String} {taps : List (Tap σ .sync ArgumentType.context)}
    {registry : HookRegistry σ} {handling : Journal} {contexts : List BuildContext}
    {failure : HookFailure} {scene : Scene σ}
    (hfires : Fires renderer template assets world text taps registry)
    (h : HookM.Succession emitHook taps (⟨output⟩ : BuildContext) world.session.scene handling
      contexts (.error failure) scene) :
    Ends world handling (.error (.hook failure)) ⟨⟨registry, scene⟩, world.storage⟩
  /-- The file cannot be written. -/
  | unwritten {text : String} {taps : List (Tap σ .sync ArgumentType.context)}
    {registry : HookRegistry σ} {handling : Journal} {contexts : List BuildContext}
    {scene : Scene σ} {storage : Storage} {cause : StorageFailure}
    (hfires : Fires renderer template assets world text taps registry)
    (h : HookM.Succession emitHook taps (⟨output⟩ : BuildContext) world.session.scene handling
      contexts (.ok ()) scene)
    (hwrite : (world.storage.write (chosen output contexts) text).value =
      (storage, .error cause)) :
    Ends world (handling ++ (world.storage.write (chosen output contexts) text).journal)
      (.error (.unwritable (chosen output contexts) cause)) ⟨⟨registry, scene⟩, storage⟩
  /-- The bundle is written. -/
  | written {text : String} {taps : List (Tap σ .sync ArgumentType.context)}
    {registry : HookRegistry σ} {handling : Journal} {contexts : List BuildContext}
    {scene : Scene σ} {storage : Storage}
    (hfires : Fires renderer template assets world text taps registry)
    (h : HookM.Succession emitHook taps (⟨output⟩ : BuildContext) world.session.scene handling
      contexts (.ok ()) scene)
    (hwrite : (world.storage.write (chosen output contexts) text).value = (storage, .ok ())) :
    Ends world
      (handling ++ ((world.storage.write (chosen output contexts) text).journal ++
        [report ⟨chosen output contexts, text.utf8ByteSize, assets.length⟩]))
      (.ok ⟨chosen output contexts, text.utf8ByteSize, assets.length⟩)
      ⟨⟨registry, scene⟩, storage⟩

end Ends

section Runs

variable {renderer : Renderer} {template : String} {output : Path} {assets : List Asset}
  {world after : World σ} {journal : Journal} {result : Except Failure Summary}

theorem renderModules_of_ok {modules : List RenderedModule} {text : String}
    (h : renderer template modules = .ok text) :
    renderModules renderer template modules = .ok text := by
  rw [renderModules, h]
  rfl

theorem renderModules_of_error {modules : List RenderedModule} {cause : Cause}
    (h : renderer template modules = .error cause) :
    renderModules renderer template modules =
      .error (.render "failed to render bundle template" (some cause)) := by
  rw [renderModules, h]
  rfl

/-- The hook is fired, and its handlers run in succession. -/
theorem Fires.run_call {text : String} {taps : List (Tap σ .sync ArgumentType.context)}
    {registry : HookRegistry σ} {handling : Journal} {contexts : List BuildContext}
    {outcome : Except HookFailure Unit} {scene : Scene σ}
    (hfires : Fires renderer template assets world text taps registry)
    (h : HookM.Succession emitHook taps (⟨output⟩ : BuildContext) world.session.scene handling
      contexts outcome scene) :
    (HookM.call emitHook ArgumentType.context ⟨output⟩).run world.session =
      ⟨handling, .ok (contexts.getLast?.getD ⟨output⟩, outcome), ⟨registry, scene⟩⟩ := by
  refine (HookM.run_call_of_ok hfires.fires (⟨output⟩ : BuildContext)).trans ?_
  rw [h.runAll]
  rfl

/-- At each of its ends, that is what the emission has done. -/
theorem Ends.run_emit (h : Ends renderer template output assets world journal result after) :
    (emit renderer template output (assets.map Asset.rendered)).run world =
      ⟨journal, result, after⟩ := by
  cases h with
  | unrendered h => exact run_emit_of_unrendered (renderModules_of_error h) world
  | refused hrenders h =>
    exact run_emit_of_stopped (renderModules_of_ok hrenders)
      (HookM.run_call_of_error h.fire (⟨output⟩ : BuildContext))
  | stopped hfires h =>
    exact run_emit_of_stopped (renderModules_of_ok hfires.renders) (hfires.run_call h)
  | unwritten hfires h hwrite =>
    exact run_emit_of_unwritten (renderModules_of_ok hfires.renders) (hfires.run_call h) hwrite
  | written hfires h hwrite =>
    rw [run_emit_of_written (renderModules_of_ok hfires.renders) (hfires.run_call h) hwrite,
      List.length_map]
    rfl

theorem exists_fires_or_refuses {text : String}
    (hrenders : renderer template (assets.map Asset.rendered) = .ok text) (world : World σ) :
    (∃ taps registry, Fires renderer template assets world text taps registry) ∨
      ∃ failure, world.session.registry.Refuses emitHook ⟨.sync, ArgumentType.context, none⟩
        failure := by
  obtain hrefuses | ⟨point, hfind, hkind, hargument, -⟩ :=
    world.session.registry.refuses_or_meets emitHook ⟨.sync, ArgumentType.context, none⟩
  · exact .inr hrefuses
  · exact .inl ⟨_, _, hrenders, HookRegistry.fire_eq_ok_iff.mpr
      ⟨point, hfind, hkind, hargument, rfl, rfl⟩⟩

/-- Every emission comes to an end. -/
theorem exists_ends (renderer : Renderer) (template : String) (output : Path)
    (assets : List Asset) (world : World σ) :
    ∃ journal result after, Ends renderer template output assets world journal result after := by
  cases hrenders : renderer template (assets.map Asset.rendered) with
  | error cause => exact ⟨_, _, _, .unrendered hrenders⟩
  | ok text =>
    obtain ⟨taps, registry, hfires⟩ | ⟨failure, hrefuses⟩ := exists_fires_or_refuses hrenders world
    case inr => exact ⟨_, _, _, .refused hrenders hrefuses⟩
    have hexists : ∃ (handling : Journal) (contexts : List BuildContext)
        (outcome : Except HookFailure Unit) (scene : Scene σ),
        HookM.Succession emitHook taps (⟨output⟩ : BuildContext) world.session.scene handling
          contexts outcome scene :=
      HookM.exists_succession emitHook taps (⟨output⟩ : BuildContext) world.session.scene
    obtain ⟨handling, contexts, failure | _, scene, hsuccession⟩ := hexists
    · exact ⟨_, _, _, .stopped hfires hsuccession⟩
    rcases hwrite : (world.storage.write (chosen output contexts) text).value with
      ⟨storage, cause | _⟩
    · exact ⟨_, _, _, .unwritten hfires hsuccession hwrite⟩
    · exact ⟨_, _, _, .written hfires hsuccession hwrite⟩

/-- **An emission comes to one of its ends.** -/
theorem run_emit_iff :
    (emit renderer template output (assets.map Asset.rendered)).run world =
        ⟨journal, result, after⟩ ↔
      Ends renderer template output assets world journal result after := by
  refine ⟨fun h => ?_, Ends.run_emit⟩
  obtain ⟨_, _, _, hends⟩ := exists_ends renderer template output assets world
  cases hends.run_emit.symm.trans h
  exact hends

theorem Ends.storage_eq {failure : Failure}
    (h : Ends renderer template output assets world journal (.error failure) after)
    (hfailure : ∀ path cause, failure ≠ .unwritable path cause) :
    after.storage = world.storage := by
  cases h with
  | unrendered | refused | stopped => rfl
  | unwritten => exact absurd rfl (hfailure _ _)

/-- The journal begins with what firing the hook writes, and the hooks stay as this leaves them. -/
theorem Ends.called {text : String}
    (h : Ends renderer template output assets world journal result after)
    (hrenders : renderer template (assets.map Asset.rendered) = .ok text) :
    let called := (HookM.call emitHook ArgumentType.context ⟨output⟩).run world.session
    called.journal <+: journal ∧ after.session = called.value.2 := by
  cases h with
  | unrendered h => cases hrenders.symm.trans h
  | refused _ h =>
    rw [HookM.run_call_of_error h.fire (⟨output⟩ : BuildContext)]
    exact ⟨List.prefix_refl _, rfl⟩
  | stopped hfires h =>
    rw [hfires.run_call h]
    exact ⟨List.prefix_refl _, rfl⟩
  | unwritten hfires h | written hfires h =>
    rw [hfires.run_call h]
    exact ⟨List.prefix_append _ _, rfl⟩

end Runs

/-- What an emission does, and what it leaves. -/
structure AllOrNothing (renderer : Renderer) (template : String) (output : Path)
    (assets : List Asset) (world : World σ) : Prop where
  /-- It comes to one of its ends. -/
  run_iff : ∀ journal result after,
    (emit renderer template output (assets.map Asset.rendered)).run world =
        ⟨journal, result, after⟩ ↔
      Ends renderer template output assets world journal result after
  /-- When a text is made, the hook is fired. -/
  called : ∀ text, renderer template (assets.map Asset.rendered) = .ok text →
    let called := (HookM.call emitHook ArgumentType.context ⟨output⟩).run world.session
    let emitted := (emit renderer template output (assets.map Asset.rendered)).run world
    called.journal <+: emitted.journal ∧ emitted.value.2.session = called.value.2
  /-- When no text is made, nothing is done. -/
  idle : ∀ cause, renderer template (assets.map Asset.rendered) = .error cause →
    (emit renderer template output (assets.map Asset.rendered)).run world =
      ⟨[], .error (.render "failed to render bundle template" (some cause)), world⟩
  /-- The last path to which the bundle is sent decides. -/
  last : ∀ text taps registry handling contexts scene paths,
    Fires renderer template assets world text taps registry →
      HookM.Succession emitHook taps (⟨output⟩ : BuildContext) world.session.scene handling
          contexts (.ok ()) scene →
        List.Forall₂ Sends taps paths →
          chosen output contexts = (paths.filterMap id).getLast?.getD output
  /-- Unless a file that was to be written could not be, a failure touches no file. -/
  untouched : ∀ failure,
    ((emit renderer template output (assets.map Asset.rendered)).run world).value.1 =
        .error failure →
      (∀ path cause, failure ≠ .unwritable path cause) →
        ((emit renderer template output (assets.map Asset.rendered)).run world).value.2.storage =
          world.storage

/-- **A bundle is written, or no file is touched.** -/
theorem allOrNothing (renderer : Renderer) (template : String) (output : Path)
    (assets : List Asset) (world : World σ) :
    AllOrNothing renderer template output assets world where
  run_iff _ _ _ := run_emit_iff
  called text hrenders := by
    obtain ⟨journal, result, after, hends⟩ := exists_ends renderer template output assets world
    rw [hends.run_emit]
    exact hends.called hrenders
  idle cause h := Ends.run_emit (.unrendered h)
  last text taps registry handling contexts scene paths _ h hsends := chosen_eq hsends h
  untouched failure h hfailure := by
    obtain ⟨journal, result, after, hends⟩ := exists_ends renderer template output assets world
    rw [hends.run_emit] at h ⊢
    obtain rfl : result = .error failure := h
    exact hends.storage_eq hfailure

end Emission

end ModuleBundler
