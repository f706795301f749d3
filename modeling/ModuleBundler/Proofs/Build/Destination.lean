import ModuleBundler.Proofs.CommandLine.Precedence
import ModuleBundler.Proofs.Hook.Subscription

/-!
# Where the bundle goes

Handlers can subscribe to the hooks of a build before it runs. When it runs, its plugins are
applied, and their handlers stand behind those. So of all that set the path of the bundle, plugins
have the last word: in a build of settings the last plugin decides, without plugins the last handler
that has set a path, and otherwise the settings.

## Main definitions

* `HookAction.emissions` — the handlers that actions subscribe to the hook of the bundle.
* `HookRegistry.ofEmission` — the hooks of a build to which nobody has subscribed.
* `Bundler.Fires` — the handlers that a build fires, and in which order.
* `Settings.Decides` — the path of the bundle, behind handlers that were subscribed directly.

## Main results

* `Bundler.exists_fires` — direct handlers come first, and then plugins in their order.
* `Bundler.decides_of_finished` — where a successful build of settings sends the bundle.
* `Bundler.destined` — both, for every build whose hooks were subscribed to before.
-/

namespace ModuleBundler

variable {σ : Type}

/-! ### Hooks of a build -/

/-- The handlers that actions subscribe to the hook that fires before the bundle is written. -/
def HookAction.emissions (actions : List (HookAction σ)) :
    List (Tap σ .sync ArgumentType.context) :=
  taps emitHook ArgumentType.context actions

/-- The hooks of a build without handlers. -/
def HookRegistry.ofEmission (state : σ) : HookRegistry σ :=
  (HookM.declareEmission.run ⟨.empty, .ofState state⟩).value.2.registry

theorem HookRegistry.holds_ofEmission (state : σ) :
    (ofEmission state).Holds emitHook ArgumentType.context [] :=
  ⟨_, _, _, rfl⟩

theorem HookAction.emissions_append (direct more : List (HookAction σ)) :
    emissions (direct ++ more) = emissions direct ++ emissions more :=
  List.filterMap_append

theorem HookAction.emissions_flatten (stages : List (List (HookAction σ))) :
    emissions stages.flatten = stages.flatMap emissions := by
  rw [emissions, taps, List.filterMap_flatten]
  rfl

/-! ### Plugins that send the bundle to paths -/

namespace Plugin

/-- What the plugin does that sends the bundle to a path. -/
def redirecting (path : Path) : HookAction σ :=
  .tap emitHook changeOutputPathName ArgumentType.context (redirectTo path)

theorem madeOfActions_changeOutputPath (path : Path) :
    (changeOutputPath path : Plugin σ).apply.MadeOfActions :=
  .perform (redirecting path)

theorem emissions_map_redirecting (paths : List Path) :
    HookAction.emissions (paths.map redirecting) =
      (paths.map redirection : List (Tap σ .sync ArgumentType.context)) := by
  rw [HookAction.emissions, HookAction.taps, List.filterMap_map, ← List.filterMap_eq_map]
  rfl

/-- Plugins that are applied without a failure have subscribed, and done nothing else. -/
theorem grants_of_applyAll_changeOutputPath {session after : Session σ} {paths : List Path}
    (h : ((applyAll (paths.map changeOutputPath)).run session).value = (.ok (), after)) :
    session.registry.Grants (paths.map redirecting) after.registry ∧
      after.scene = session.scene := by
  induction paths generalizing session with
  | nil =>
    cases h
    exact ⟨.nil _, rfl⟩
  | cons path paths ih =>
    have hcons : (applyAll ((path :: paths).map changeOutputPath)).run session = _ :=
      Program.run_bind_of_ok (HookM.run_log ..)
    rw [hcons] at h
    cases hask : (redirecting path).ask session.registry with
    | error failure =>
      have hrun : (changeOutputPath path).apply.run session = _ := HookM.run_subscribe_of_error hask
      rw [Program.run_bind_of_error hrun] at h
      cases h
    | ok registry =>
      obtain ⟨record, hrun⟩ := HookM.run_subscribe_of_ok hask
      have happly : (changeOutputPath path).apply.run session = _ := hrun
      rw [Program.run_bind_of_ok happly] at h
      obtain ⟨hgrants, hscene⟩ := ih h
      exact ⟨.cons hask hgrants, hscene⟩

end Plugin

/-! ### Builds -/

/-- The handlers that are granted on the hooks of a build are those that it fires. -/
theorem HookRegistry.Grants.exists_fire {state : σ} {registry : HookRegistry σ}
    {granted : List (HookAction σ)} (h : (ofEmission state).Grants granted registry) :
    ∃ fired, registry.fire emitHook .sync ArgumentType.context =
      .ok (HookAction.emissions granted, fired) :=
  (h.holds (holds_ofEmission state)).exists_fire

namespace Bundler

variable {bundler : Bundler σ} {world : World σ} {prepared : Session σ} {state : σ}
  {direct : List (HookAction σ)}

/-- What a build fires before the bundle is written: the handlers that were subscribed directly, and
behind them those of the plugins, plugin by plugin. -/
structure Fires (bundler : Bundler σ) (world : World σ) (direct : List (HookAction σ))
    (prepared : Session σ) (stages : List (List (HookAction σ))) : Prop where
  /-- The plugins are applied one after the other. -/
  applied : Plugin.Stages world.session bundler.plugins stages prepared
  /-- Their handlers run behind the direct ones, each on what those before have made of the path. -/
  choosing : ∃ registry, bundler.choosing prepared =
    let handlers := HookAction.emissions direct ++ stages.flatMap HookAction.emissions
    let run := HookM.runAll emitHook handlers (⟨bundler.options.output⟩ : BuildContext)
      prepared.scene
    ⟨run.journal, .ok run.value.1, ⟨registry, run.value.2⟩⟩

/-- Whatever plugins are applied, their handlers run behind the direct ones. -/
theorem exists_fires
    (hdirect : (HookRegistry.ofEmission state).Grants direct world.session.registry)
    (hactions : ∀ plugin ∈ bundler.plugins, plugin.apply.MadeOfActions)
    (h : (bundler.applying world).value = (.ok (), prepared)) :
    ∃ stages, bundler.Fires world direct prepared stages := by
  obtain ⟨stages, hstages⟩ := Plugin.exists_stages hactions h
  obtain ⟨registry, hfire⟩ := (hdirect.append hstages.grants).exists_fire
  rw [HookAction.emissions_append, HookAction.emissions_flatten] at hfire
  exact ⟨stages, hstages, registry, HookM.run_call_of_ok hfire _⟩

end Bundler

/-! ### Builds from settings -/

namespace Emission

theorem chosen_append (output : Path) (contexts more : List BuildContext) :
    chosen output (contexts ++ more) = chosen (chosen output contexts) more := by
  induction contexts generalizing output with
  | nil => rfl
  | cons context contexts ih => rw [List.cons_append, chosen_cons, chosen_cons, ih]

/-- The last of the paths to which plugins send the bundle is chosen. -/
theorem chosen_redirection {paths : List Path} {context : BuildContext}
    {contexts : List BuildContext} {scene after : Scene σ} {journal : Journal}
    (h : HookM.Succession emitHook (paths.map redirection) context scene journal contexts (.ok ())
      after) : chosen context.outputPath contexts = paths.getLast?.getD context.outputPath := by
  have hsends : List.Forall₂ Sends (paths.map (redirection (σ := σ))) (paths.map some) :=
    List.forall₂_map_left_iff.mpr (List.forall₂_map_right_iff.mpr
      (List.forall₂_same.mpr fun path _ _ _ => rfl))
  rw [chosen_eq hsends h, List.filterMap_map]
  exact congrArg (Option.getD · _) (congrArg List.getLast? (List.filterMap_some ..))

end Emission

/-- Where settings send the bundle behind handlers that were subscribed directly. -/
structure Settings.Decides (settings : Settings) (direct : List (Tap σ .sync ArgumentType.context))
    (scene : Scene σ) (path : Path) : Prop where
  /-- The direct handlers run without a failure. The last plugin decides, or else the last path that
  they have set, or else the settings. -/
  decides : ∃ journal contexts after,
    HookM.Succession emitHook direct (⟨settings.output.getD defaultOutputPath⟩ : BuildContext) scene
        journal contexts (.ok ()) after ∧
      ∀ paths, Emission.Sets (settings.output.getD defaultOutputPath) contexts paths →
        path = settings.targets.getLast?.getD
          ((paths.filterMap id).getLast?.getD (settings.output.getD defaultOutputPath))

/-- The plugins and the output path of a build that settings describe. -/
theorem Settings.of_bundler_eq_ok {settings : Settings} {directory : Path} {bundler : Bundler σ}
    (h : settings.bundler directory = .ok bundler) :
    bundler.plugins = settings.targets.map Plugin.changeOutputPath ∧
      bundler.options.output = settings.output.getD defaultOutputPath := by
  obtain ⟨options, hoptions, h⟩ := Except.bind_eq_ok_iff.mp h
  obtain ⟨entry, rules, -, -, rfl⟩ := options_eq_ok_iff.mp hoptions
  dsimp only at h
  rw [map_plugin_eq, Bundler.foldl_withPlugin] at h
  cases h
  exact ⟨List.nil_append _, rfl⟩

namespace Bundler

variable {bundler : Bundler σ} {world : World σ} {state : σ} {direct : List (HookAction σ)}

/-- The handlers that a build fires run in succession, and the path that they leave is that of the
bundle. -/
theorem Production.exists_succession (production : bundler.Production world)
    {taps : List (Tap σ .sync ArgumentType.context)} {registry : HookRegistry σ}
    (hfire : production.prepared.registry.fire emitHook .sync ArgumentType.context =
      .ok (taps, registry)) :
    ∃ handling contexts after,
      HookM.Succession emitHook taps (⟨bundler.options.output⟩ : BuildContext)
          production.prepared.scene handling contexts (.ok ()) after ∧
        production.path = Emission.chosen bundler.options.output contexts := by
  have hexists : ∃ (handling : Journal) (contexts : List BuildContext)
      (result : Except HookFailure Unit) (after : Scene σ),
      HookM.Succession emitHook taps (⟨bundler.options.output⟩ : BuildContext)
        production.prepared.scene handling contexts result after :=
    HookM.exists_succession emitHook taps (⟨bundler.options.output⟩ : BuildContext) _
  obtain ⟨handling, contexts, result, after, hsuccession⟩ := hexists
  have hrun := congrArg Traced.value
    (HookM.run_call_of_ok hfire (⟨bundler.options.output⟩ : BuildContext))
  rw [hsuccession.runAll] at hrun
  have hchooses := (Prod.mk.inj (production.chooses.symm.trans hrun)).1
  obtain ⟨hpath, rfl⟩ := Prod.mk.inj (Except.ok.inj hchooses)
  exact ⟨handling, contexts, after, hsuccession, congrArg BuildContext.outputPath hpath⟩

/-- The path of the bundle that a build of settings produces. -/
theorem Production.decides (production : bundler.Production world) {settings : Settings}
    (hdirect : (HookRegistry.ofEmission state).Grants direct world.session.registry)
    (hplugins : bundler.plugins = settings.targets.map Plugin.changeOutputPath)
    (houtput : bundler.options.output = settings.output.getD defaultOutputPath) :
    settings.Decides (HookAction.emissions direct) world.session.scene production.path := by
  have happlied := production.renders.plugins
  rw [applying, hplugins] at happlied
  obtain ⟨hgrants, hscene⟩ := Plugin.grants_of_applyAll_changeOutputPath happlied
  obtain ⟨registry, hfire⟩ := (hdirect.append hgrants).exists_fire
  rw [HookAction.emissions_append, Plugin.emissions_map_redirecting] at hfire
  obtain ⟨_, _, _, hsuccession, hpath⟩ := production.exists_succession hfire
  rw [houtput, hscene] at hsuccession
  obtain ⟨_, _, first, rest, _, hfront, hback, rfl⟩ := hsuccession.exists_append
  refine ⟨_, _, _, hfront, fun paths hsets => ?_⟩
  rw [houtput] at hpath
  calc production.path
    _ = Emission.chosen (Emission.chosen (settings.output.getD defaultOutputPath) first) rest :=
      hpath.trans (Emission.chosen_append _ first rest)
    _ = settings.targets.getLast?.getD
          (Emission.chosen (settings.output.getD defaultOutputPath) first) :=
      Emission.chosen_redirection hback
    _ = _ := by rw [hsets.chosen_eq]

/-- Where builds send the bundle to whose hooks were subscribed to before. -/
structure Destined (world : World σ) (direct : List (HookAction σ)) : Prop where
  /-- Of a build whose plugins are applied without a failure, the direct handlers come first. -/
  fires : ∀ (bundler : Bundler σ) (prepared : Session σ),
    (∀ plugin ∈ bundler.plugins, plugin.apply.MadeOfActions) →
      (bundler.applying world).value = (.ok (), prepared) →
        ∃ stages, bundler.Fires world direct prepared stages
  /-- A successful build of settings sends the bundle where its plugins, these handlers and the
  settings decide, in this order; however its modules are analyzed and rendered. -/
  decides : ∀ (settings : Settings) (directory : Path) (plain bundler : Bundler σ) (patience : Nat)
    (output : BuildOutput), settings.bundler directory = .ok plain →
      bundler.options = plain.options → bundler.plugins = plain.plugins →
        ((bundler.run patience).run world).value.1 = .ok (.finished output) →
          settings.Decides (HookAction.emissions direct) world.session.scene
            output.summary.outputPath

/-- **Direct handlers come first, plugins have the last word.** -/
theorem destined (hdirect : (HookRegistry.ofEmission state).Grants direct world.session.registry) :
    Destined world direct where
  fires _ _ hactions h := exists_fires hdirect hactions h
  decides settings directory plain bundler patience output hplain hoptions hplugins h := by
    obtain ⟨htargets, houtput⟩ := Settings.of_bundler_eq_ok hplain
    obtain ⟨production, -, rfl⟩ := run_eq_finished_iff.mp h
    exact production.decides hdirect (hplugins.trans htargets) (hoptions ▸ houtput)

/-- A handler that leaves the path of the bundle alone, and one that sends it to another path. -/
def directActions : List (HookAction Unit) :=
  [.tap emitHook "idle" ArgumentType.context fun context => return (context, .ok ()),
    Plugin.redirecting (.ofString "/direct")]

/-- Where two files are built that import each other, when these handlers are subscribed. -/
def directWorld : World Unit :=
  ⟨(Session.mk (HookRegistry.ofEmission ()) (.ofState ())).afterAll directActions,
    Workshop.pair.storage⟩

theorem grants_directActions :
    (HookRegistry.ofEmission ()).Grants directActions directWorld.session.registry :=
  .cons rfl (.cons rfl (.nil _))

/-- A plugin that subscribes a handler to a hook of its own and to that of the bundle. -/
def busy : Plugin Unit where
  name := "busy"
  apply := do
    HookAction.perform (.declare "stage" .sync ArgumentType.number ["value"])
    HookAction.perform (.tap "stage" "busy" ArgumentType.number fun value =>
      return (value, .ok ()))
    HookAction.perform (.tap emitHook "busy" ArgumentType.context fun context =>
      return (context, .ok ()))

theorem madeOfActions_busy : busy.apply.MadeOfActions :=
  .bind (.perform _) fun _ => .bind (.perform _) fun _ => .perform _

/-- A build of the two files with this plugin between two that send the bundle to paths. -/
def mixed : Bundler Unit :=
  { pair with plugins := [.changeOutputPath (.ofString "/c"), busy,
      .changeOutputPath (.ofString "/d")] }

/-- Settings of a build of the two files, with plugins that send the bundle to paths. -/
def pairSettings (targets : List Path) : Settings :=
  { Settings.standard with
    entry := some (.ofString "a")
    output := some (.ofString "/output")
    plugins := targets.map .changeOutputPath }

/-- The build that these settings describe. -/
def pairPlain (targets : List Path) : Bundler Unit :=
  ⟨⟨.ofString "a", .ofString "/output", none, .onChain, []⟩, targets.map .changeOutputPath, .root,
    .modules, Template.render⟩

theorem bundler_pairSettings (targets : List Path) :
    (pairSettings targets).bundler .root = .ok (pairPlain targets) := by
  have htargets : (pairSettings targets).targets = targets := by
    rw [Settings.targets, pairSettings, List.map_map]
    exact List.map_id targets
  refine Except.bind_eq_ok_iff.mpr ⟨(pairPlain targets).options, rfl, ?_⟩
  dsimp only
  rw [foldl_withPlugin, Settings.map_plugin_eq, htargets]
  rfl

/-- This build, with files that are analyzed and rendered as texts. -/
def pairBuild (targets : List Path) : Bundler Unit :=
  ⟨(pairPlain targets).options, (pairPlain targets).plugins, .root, pair.analyzer, pair.renderer⟩

/-- What it comes to. -/
def pairOutput (path : Path) : BuildOutput :=
  ⟨Workshop.pairCopies, ⟨path, 13, 3⟩⟩

theorem run_pairBuild_direct :
    (((pairBuild []).run 1).run directWorld).value.1 =
      .ok (.finished (pairOutput (.ofString "/direct"))) :=
  rfl

theorem run_pairBuild_redirected :
    (((pairBuild [.ofString "/c", .ofString "/d"]).run 1).run directWorld).value.1 =
      .ok (.finished (pairOutput (.ofString "/d"))) :=
  rfl

theorem destined_pair :
    (HookRegistry.ofEmission ()).Grants directActions directWorld.session.registry ∧
      (∃ stages, mixed.Fires directWorld directActions (mixed.applying directWorld).value.2
        stages) ∧
      (pairSettings []).Decides (HookAction.emissions directActions) directWorld.session.scene
        (.ofString "/direct") ∧
      (pairSettings [.ofString "/c", .ofString "/d"]).Decides
        (HookAction.emissions directActions) directWorld.session.scene (.ofString "/d") := by
  have h := destined grants_directActions
  refine ⟨grants_directActions, h.fires mixed _ (fun plugin hplugin => ?_) rfl,
    h.decides _ .root _ (pairBuild []) 1 (pairOutput _) (bundler_pairSettings _) rfl rfl
      run_pairBuild_direct,
    h.decides _ .root _ (pairBuild [.ofString "/c", .ofString "/d"]) 1 (pairOutput _)
      (bundler_pairSettings _) rfl rfl run_pairBuild_redirected⟩
  obtain rfl | rfl | rfl : plugin = .changeOutputPath (.ofString "/c") ∨ plugin = busy ∨
      plugin = .changeOutputPath (.ofString "/d") := by simpa [mixed] using hplugin
  · exact Plugin.madeOfActions_changeOutputPath _
  · exact madeOfActions_busy
  · exact Plugin.madeOfActions_changeOutputPath _

end Bundler

end ModuleBundler
