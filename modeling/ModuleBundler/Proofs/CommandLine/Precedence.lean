import ModuleBundler.CommandLine.Run
import ModuleBundler.Proofs.Build
import ModuleBundler.Proofs.Hook.Redirection

/-!
# What takes precedence

A command line changes the settings that are loaded: its entry and its output path take the place of
those of the settings, and files are built once if it says so. The settings may name plugins, and
these send the bundle to their paths later on. So the last plugin decides where the bundle goes,
then the command line, then the settings.

## Main definitions

* `Settings.targets`, `Settings.destination` — where settings send the bundle.
* `Invocation.Prevails` — what a successful run makes of a command line and of settings.

## Main results

* `Settings.bundler_eq_ok_iff` — the build that settings describe.
* `Invocation.exists_prevails` — what every successful run comes to.
-/

namespace ModuleBundler

/-! ### Where settings send the bundle -/

/-- The path to which a plugin sends the bundle. -/
def PluginSettings.target : PluginSettings → Path
  | changeOutputPath path => path

/-- The paths to which the plugins of settings send the bundle, one after the other. -/
def Settings.targets (settings : Settings) : List Path :=
  settings.plugins.map PluginSettings.target

/-- Where the bundle of settings goes: the last plugin decides. -/
def Settings.destination (settings : Settings) : Path :=
  settings.targets.getLast?.getD (settings.output.getD defaultOutputPath)

theorem Settings.map_plugin_eq {σ : Type} (settings : Settings) :
    settings.plugins.map PluginSettings.plugin =
      (settings.targets.map Plugin.changeOutputPath : List (Plugin σ)) := by
  rw [targets, List.map_map]
  refine List.map_congr_left fun plugin _ => ?_
  cases plugin
  rfl

/-! ### Builds from settings -/

theorem Bundler.foldl_withPlugin {σ : Type} (bundler : Bundler σ) (plugins : List (Plugin σ)) :
    plugins.foldl withPlugin bundler = { bundler with plugins := bundler.plugins ++ plugins } := by
  induction plugins generalizing bundler with
  | nil => rw [List.foldl_nil, List.append_nil]
  | cons plugin plugins ih =>
    rw [List.foldl_cons, ih]
    simp [withPlugin]

/-- Settings with an entry and valid rules have options. -/
theorem Settings.options_eq_ok_iff {settings : Settings} {options : BuildOptions} :
    settings.options = .ok options ↔
      ∃ entry rules, settings.entry = some entry ∧
        settings.rules.mapM RuleSettings.rule = .ok rules ∧
        options = ⟨entry, settings.output.getD defaultOutputPath, settings.template,
          settings.reuse, rules⟩ := by
  unfold Settings.options
  cases settings.entry with
  | none => simp [throw, throwThe, MonadExceptOf.throw]
  | some entry =>
    cases settings.rules.mapM RuleSettings.rule with
    | error failure => simp [bind, Except.bind]
    | ok rules => simp [bind, Except.bind, pure, Except.pure, eq_comm]

/-- The build of modules with plugins that send the bundle to paths. -/
def BuildOptions.redirected (options : BuildOptions) (targets : List Path) (directory : Path) :
    Bundler Unit :=
  ⟨options, targets.map Plugin.changeOutputPath, directory, .modules, Template.render⟩

/-- The build that settings with options describe. -/
theorem Settings.bundler_eq_ok_iff {settings : Settings} {directory : Path}
    {bundler : Bundler Unit} :
    settings.bundler directory = .ok bundler ↔
      ∃ options, settings.options = .ok options ∧
        bundler = options.redirected settings.targets directory := by
  unfold Settings.bundler BuildOptions.redirected
  rw [map_plugin_eq]
  cases settings.options with
  | error failure => simp [bind, Except.bind]
  | ok options =>
    simp [bind, Except.bind, pure, Except.pure, Bundler.foldl_withPlugin, Bundler.ofOptions,
      eq_comm]

/-! ### What builds from settings come to -/

/-- The assets of a build, and the text that is made of them. -/
structure BuildOptions.Bundles (options : BuildOptions) (directory : Path) (storage : Storage)
    (assets : List Asset) (text : String) : Prop where
  graph : (Workshop.graph ⟨storage, options.rules, .modules⟩ options.reuse directory
    options.entry).result = .ok assets
  renders : ∃ template, (Bundler.readTemplate options storage).result = .ok template ∧
    renderModules Template.render template (assets.map Asset.rendered) = .ok text

/-- The file of the entry is that of the first asset. -/
theorem BuildOptions.Bundles.head? {options : BuildOptions} {directory : Path} {storage : Storage}
    {assets : List Asset} {text : String} (h : options.Bundles directory storage assets text)
    (hdirectory : directory.isAbsolute) :
    ∃ file, Path.absolute? directory options.entry = some file ∧
      (assets.map Asset.path).head? = some file := by
  obtain ⟨file, hfile, traversal, hreached, -, hpending, rfl, -⟩ :=
    Workshop.exists_reached_of_graph_eq_ok hdirectory h.graph
  have hhead := hreached.head?_files
  rw [Traversal.files_of_pending_eq_nil hpending] at hhead
  exact ⟨file, hfile, hhead⟩

/-- When files are built once, no two assets have one file. -/
theorem BuildOptions.Bundles.distinct {options : BuildOptions} {directory : Path}
    {storage : Storage} {assets : List Asset} {text : String}
    (h : options.Bundles directory storage assets text) (hdirectory : directory.isAbsolute)
    (hreuse : options.reuse = .byPath) : Path.Distinct (assets.map Asset.path) := by
  have hgraph := h.graph
  rw [hreuse] at hgraph
  obtain ⟨file, hfile, traversal, hreached, hcoherent, hpending, rfl, -⟩ :=
    Workshop.exists_reached_of_graph_eq_ok hdirectory hgraph
  obtain ⟨hcanonical, habsolute⟩ := Path.absolute?_spec hdirectory hfile
  obtain ⟨done, ahead, -, hspanned⟩ := hreached.exists_spanned hcanonical habsolute
  have hdistinct := hspanned.distinct_files hcoherent
  rwa [Traversal.files_of_pending_eq_nil hpending] at hdistinct

namespace Bundler

variable {options : BuildOptions} {targets : List Path} {directory : Path} {storage : Storage}

/-- The world in which a build is launched. -/
def launchWorld (storage : Storage) : World Unit :=
  ⟨(HookM.declareEmission.run ⟨.empty, .ofState ()⟩).value.2, storage⟩

/-- A build with plugins that send the bundle to paths leaves files to itself. -/
theorem orderly_redirected (hdirectory : directory.isAbsolute) :
    (options.redirected targets directory).Orderly (launchWorld storage) := by
  have hplain := orderly_ofOptions options hdirectory () storage
  refine ⟨hdirectory, Analyzer.quiet_modules, fun plugin hplugin => ?_, hplain.handlers,
    hplain.declares⟩
  obtain ⟨path, -, rfl⟩ := List.mem_map.mp hplugin
  exact Plugin.quiet_changeOutputPath path

/-- The last of the paths is that of the bundle. -/
theorem Production.path_redirected
    (production : (options.redirected targets directory).Production (launchWorld storage)) :
    production.path = targets.getLast?.getD options.output := by
  have hdeclared := HookM.sendsTo_declareEmission ()
  obtain ⟨journal, registry, hrun, hsends⟩ :=
    Plugin.exists_applyAll_changeOutputPath hdeclared targets
  have happlied := production.renders.plugins
  have hsession : Session.registry { (launchWorld storage).session with registry } = registry := rfl
  obtain ⟨after, hcall⟩ := HookM.value_call_of_sendsTo (hsession ▸ hsends) options.output
  have hprepared : production.prepared = { (launchWorld storage).session with registry } :=
    (Prod.mk.inj (happlied.symm.trans (congrArg Traced.value hrun))).2
  have hchooses := production.chooses
  rw [hprepared] at hchooses
  have hcontext := (Prod.mk.inj (hchooses.symm.trans hcall)).1
  have hpair := (Prod.mk.inj (Except.ok.inj hcontext)).1
  exact congrArg BuildContext.outputPath hpair

/-- What a build comes to that is launched with plugins that send the bundle to paths. -/
theorem exists_bundles_of_launch (hdirectory : directory.isAbsolute) {outcome : BuildOutcome}
    (h : ((options.redirected targets directory).launch 0 () storage).value.1 = .ok outcome) :
    ∃ assets text, options.Bundles directory storage assets text ∧
      ((options.redirected targets directory).launch 0 () storage).journal.writes =
          [(targets.getLast?.getD options.output, text)] := by
  rcases fails_or_production _ (launchWorld storage) with ⟨_, _, _, _, hfails⟩ | ⟨⟨production⟩⟩
  · have hrun := congrArg Traced.value (run_of_fails hfails 0)
    cases (congrArg Prod.fst hrun).symm.trans h
  · have hwrites := production.writes_eq (orderly_redirected hdirectory) 0
    rw [production.path_redirected] at hwrites
    have hgathers := production.renders
    exact ⟨production.assets, production.text,
      ⟨hgathers.graph, production.template, hgathers.reads, hgathers.renders⟩, hwrites⟩

end Bundler

/-! ### Runs -/

namespace RunM

theorem run_during {α : Type} (activity : String) (step : StateT Storage Traced (Except Failure α))
    (storage : Storage) :
    (during activity step).run storage = ⟨(step storage).journal,
      (step storage).value.1.mapError (Trouble.mk activity), (step storage).value.2⟩ :=
  congrArg (Traced.mk · _) (List.append_nil _)

theorem run_attempt {α : Type} (activity : String) (task : Attempt α) (storage : Storage) :
    (attempt activity task).run storage =
      ⟨task.journal, task.result.mapError (Trouble.mk activity), storage⟩ := by
  rw [attempt, run_during]
  exact congrArg (Traced.mk · _) (List.append_nil _)

end RunM

theorem Settings.writesNothing_load (storage : Storage) (path : Path) :
    (Settings.load storage path).WritesNothing := by
  refine .bind (.ofResult _ (storage.writes_read path)) fun text => ?_
  split
  · rfl
  · exact .bind (.log _ _ _) fun _ => .pure _

namespace Invocation

variable {invocation : Invocation} {directory : Path} {storage : Storage}

/-- To load settings changes no file. -/
theorem run_loadSettings (invocation : Invocation) (storage : Storage) :
    ∃ journal result, invocation.loadSettings.run storage = ⟨journal, result, storage⟩ ∧
      journal.writes = [] := by
  unfold loadSettings
  rw [Program.run_bind_of_ok (Program.run_get storage)]
  split
  · rw [RunM.run_attempt]
    exact ⟨_, _, rfl, Settings.writesNothing_load ..⟩
  · split
    · rw [RunM.run_attempt]
      exact ⟨_, _, rfl, Settings.writesNothing_load ..⟩
    · exact ⟨_, _, rfl, rfl⟩

theorem run_launch (bundler : Bundler Unit) (storage : Storage) :
    launch bundler storage = ⟨(bundler.launch 0 () storage).journal,
      (bundler.launch 0 () storage).value.1, (bundler.launch 0 () storage).value.2.storage⟩ := by
  change Traced.mk (((bundler.launch 0 () storage).journal ++ []) ++ []) _ = _
  rw [List.append_nil, List.append_nil]
  rfl

/-- Runs a build and says what was written. -/
def report (bundler : Bundler Unit) : RunM Unit := do
  match ← RunM.during "Build failed" (launch bundler) with
  | .pending => return ()
  | .finished ⟨_, summary⟩ =>
    ExceptT.lift <| StateT.lift <| Traced.log .info .program
      s!"Bundled {summary.modules} modules ({summary.bytes} bytes) into {summary.outputPath}"

theorem run_eq_bind (invocation : Invocation) (directory : Path) :
    invocation.run directory = (do
      let settings ← invocation.loadSettings
      let bundler ← RunM.attempt "Failed to set up the build"
        (ExceptT.mk (pure ((invocation.override settings).bundler directory)))
      report bundler) :=
  rfl

/-- What is said afterwards changes no file. -/
theorem exists_launch_of_report {bundler : Bundler Unit}
    (h : ((report bundler).run storage).value.1 = .ok ()) :
    ∃ outcome, (bundler.launch 0 () storage).value.1 = .ok outcome ∧
      ((report bundler).run storage).journal.writes =
        (bundler.launch 0 () storage).journal.writes := by
  have hlaunch := RunM.run_during "Build failed" (launch bundler) storage
  rw [run_launch] at hlaunch
  rcases hbuild : bundler.launch 0 () storage with ⟨journal, failure | outcome, world⟩
  · rw [hbuild] at hlaunch
    rw [report, Program.run_bind_of_error hlaunch] at h
    cases h
  · rw [hbuild] at hlaunch
    refine ⟨outcome, rfl, ?_⟩
    rw [report, Program.run_bind_of_ok hlaunch, Journal.writes_append]
    cases outcome <;> exact List.append_nil _

theorem bundler_eq_ok_of_run {settings : Settings} {activity : String} {journal : Journal}
    {bundler : Bundler Unit} {after : Storage}
    (h : (RunM.attempt activity (ExceptT.mk (pure (settings.bundler directory)))).run storage =
      ⟨journal, .ok bundler, after⟩) :
    settings.bundler directory = .ok bundler ∧ journal = [] ∧ after = storage := by
  rw [RunM.run_attempt] at h
  obtain ⟨hjournal, hvalue⟩ := Traced.mk.inj h
  obtain ⟨hbundler, hafter⟩ := Prod.mk.inj hvalue
  refine ⟨?_, hjournal.symm, hafter.symm⟩
  cases hresult : settings.bundler directory with
  | error failure =>
    rw [hresult] at hbundler
    cases hbundler
  | ok other =>
    rw [hresult] at hbundler
    cases hbundler
    rfl

/-- A successful run has loaded settings, and the build that they describe under the command line
has been successful. No other file is written. -/
theorem exists_launch_of_run (h : ((invocation.run directory).run storage).value.1 = .ok ()) :
    ∃ settings options outcome,
      (invocation.loadSettings.run storage).value = (.ok settings, storage) ∧
      (invocation.override settings).options = .ok options ∧
      ((options.redirected settings.targets directory).launch 0 () storage).value.1 = .ok outcome ∧
      ((invocation.run directory).run storage).journal.writes =
        ((options.redirected settings.targets directory).launch 0 () storage).journal.writes := by
  obtain ⟨loading, result, hload, hquiet⟩ := invocation.run_loadSettings storage
  rw [run_eq_bind] at h ⊢
  obtain ⟨_, settings, _, hsettings, h⟩ := Program.exists_run_of_bind_eq_ok h
  obtain ⟨rfl, rfl, rfl⟩ : _ ∧ _ ∧ _ := by simpa using hload.symm.trans hsettings
  obtain ⟨journal, bundler, _, hsetup, h⟩ := Program.exists_run_of_bind_eq_ok h
  obtain ⟨hbundler, rfl, rfl⟩ := bundler_eq_ok_of_run hsetup
  obtain ⟨options, hoptions, rfl⟩ := Settings.bundler_eq_ok_iff.mp hbundler
  obtain ⟨outcome, hlaunch, hwrites⟩ := exists_launch_of_report h
  refine ⟨settings, options, outcome, congrArg Traced.value hload, hoptions, hlaunch, ?_⟩
  rw [Program.run_bind_of_ok hload, Program.run_bind_of_ok hsetup, List.nil_append,
    Journal.writes_append, hquiet, List.nil_append]
  exact hwrites

/-- What a successful run makes of a command line and of settings: which assets it has, and which
path and text it writes. A value that the command line gives takes the place of that of the
settings, and where it gives none, that of the settings stays. But a plugin of the settings decides
about the path. -/
structure Prevails (invocation : Invocation) (directory : Path) (storage : Storage)
    (settings : Settings) (assets : List Asset) (path : Path) (text : String) : Prop where
  bundles : ∃ options, (invocation.override settings).options = .ok options ∧
    options.reuse = (if invocation.reuseByPath then .byPath else settings.reuse) ∧
    options.Bundles directory storage assets text
  output : ∀ given, invocation.output = some given → path = settings.targets.getLast?.getD given
  output_alone : invocation.output = none → path = settings.destination
  entry : ∀ given, invocation.entry = some given →
    ∃ file, Path.absolute? directory given = some file ∧
      (assets.map Asset.path).head? = some file
  entry_alone : invocation.entry = none → ∃ given file, settings.entry = some given ∧
    Path.absolute? directory given = some file ∧ (assets.map Asset.path).head? = some file
  distinct : invocation.reuseByPath = true → Path.Distinct (assets.map Asset.path)

/-- **A command line takes precedence over settings, and plugins over both.** -/
theorem exists_prevails (hdirectory : directory.isAbsolute)
    (h : ((invocation.run directory).run storage).value.1 = .ok ()) :
    ∃ settings assets path text,
      (invocation.loadSettings.run storage).value = (.ok settings, storage) ∧
      ((invocation.run directory).run storage).journal.writes = [(path, text)] ∧
      invocation.Prevails directory storage settings assets path text := by
  obtain ⟨settings, options, outcome, hload, hoptions, hlaunch, hwrites⟩ := exists_launch_of_run h
  obtain ⟨assets, text, hbundles, hpath⟩ :=
    Bundler.exists_bundles_of_launch hdirectory hlaunch
  rw [hpath] at hwrites
  obtain ⟨entry, rules, hentry, hrules, rfl⟩ := Settings.options_eq_ok_iff.mp hoptions
  obtain ⟨file, hfile, hhead⟩ := hbundles.head? hdirectory
  refine ⟨settings, assets, _, text, hload, hwrites, ⟨_, hoptions, rfl, hbundles⟩,
    fun given hgiven => ?_, fun hnone => ?_, fun given hgiven => ?_, fun hnone => ?_,
    fun hreuse => hbundles.distinct hdirectory ?_⟩
  · simp [override, hgiven]
  · simp [override, hnone, Settings.destination]
  · have hvalue : invocation.entry.or settings.entry = some entry := hentry
    rw [hgiven, Option.some_or] at hvalue
    cases hvalue
    exact ⟨file, hfile, hhead⟩
  · have hvalue : invocation.entry.or settings.entry = some entry := hentry
    rw [hnone, Option.none_or] at hvalue
    exact ⟨entry, file, hvalue, hfile, hhead⟩
  · simp [override, hreuse]

/-- A command line that gives an output path. -/
def redirectedInvocation : Invocation :=
  { plain with output := some (.ofString "y") }

/-- A file of settings with a plugin that sends the bundle to another path, the file of the entry,
and a template. -/
def redirectedStorage : Storage :=
  .memory (.ofList [
    (.ofString "minipack.toml",
      "entry = 'm'\ntemplate = 't'\nplugins = [['change-output-path', 'x']]"),
    (.ofString "/m", ""), (.ofString "t", "\x7b\x7bdata\x7d\x7d")])

theorem run_redirected :
    ((redirectedInvocation.run .root).run redirectedStorage).value.1 = .ok () := by
  have hok : ((redirectedInvocation.run .root).run redirectedStorage).value.1.isOk := by
    decide +kernel
  generalize ((redirectedInvocation.run .root).run redirectedStorage).value.1 = result at hok ⊢
  cases result with
  | error trouble => cases hok
  | ok _ => rfl

theorem exists_prevails_redirected :
    Path.root.isAbsolute ∧
      ((redirectedInvocation.run .root).run redirectedStorage).value.1 = .ok () ∧
      ∃ settings assets path text,
        (redirectedInvocation.loadSettings.run redirectedStorage).value =
          (.ok settings, redirectedStorage) ∧
        ((redirectedInvocation.run .root).run redirectedStorage).journal.writes = [(path, text)] ∧
        redirectedInvocation.Prevails .root redirectedStorage settings assets path text :=
  ⟨rfl, run_redirected, exists_prevails rfl run_redirected⟩

/-- The bundle is not written to the path that the command line gives. -/
theorem exists_output_not_written :
    ∃ (invocation : Invocation) (storage : Storage) (given : Path),
      invocation.output = some given ∧ ((invocation.run .root).run storage).value.1 = .ok () ∧
        ∀ written ∈ ((invocation.run .root).run storage).journal.writes, written.1 ≠ given :=
  ⟨redirectedInvocation, redirectedStorage, .ofString "y", rfl, run_redirected, by decide +kernel⟩

end Invocation

end ModuleBundler
