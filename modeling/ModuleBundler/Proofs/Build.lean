import ModuleBundler.Build
import ModuleBundler.Proofs.Emission
import ModuleBundler.Proofs.Graph.Reading
import ModuleBundler.Proofs.Hook.Orderly

/-!
# What a build comes to

A build fails at one of its stages before the bundle is written, or it writes the bundle. A build
that fails has done what its stages have done until then, and nothing else. Only when the bundle is
written, the last hook is fired, with the summary that the build returns.

The analyzer, the plugins and the handlers leave files to the build. Then it asks for the files of
its assets, in the order of their numbers, and for its template, before it writes.

## Main definitions

* `Bundler.Fails` — the stages at which a build can fail before the bundle is written.
* `Bundler.Production` — what the stages make when none fails.
* `Bundler.Orderly` — builds to which files are left.
* `Bundler.Audited` — what such a build does with files.
* `Bundler.Accounted` — what a build comes to in every case.

## Main results

* `Bundler.run_of_fails`, `Bundler.Production.run_eq` — builds that fail before the bundle is
  written, and those that do not.
* `Bundler.Fails.files_eq`, `Bundler.Production.files_eq` — what they ask for, and what they write.
* `Bundler.accounted` — a build writes one bundle or none.
-/

namespace ModuleBundler

variable {σ α : Type}

/-! ### Written files -/

namespace Storage

/-- What is said about files when one is written, or cannot be. -/
def written (path : Path) (text : String) : Except StorageFailure Unit → Journal
  | .ok () => [.write path text]
  | .error _ => []

theorem files_writeToDrive (disk : Drive) (path : Path) (text : String) :
    (writeToDrive disk path text).journal.files =
      written path text (writeToDrive disk path text).value.2 := by
  unfold writeToDrive
  rcases disk.prepare path with ⟨disk, failure | _⟩
  · rfl
  · dsimp only
    cases disk.writeFile path text <;> rfl

/-- A file is written once, or not at all. -/
theorem files_write (storage : Storage) (path : Path) (text : String) :
    (storage.write path text).journal.files =
      written path text (storage.write path text).value.2 := by
  cases storage with
  | memory tree => rfl
  | sealedMemory tree => rfl
  | drive disk =>
    refine (congrArg Journal.files (List.append_nil _)).trans ?_
    exact files_writeToDrive disk path text
  | observed seen =>
    unfold write
    dsimp only
    cases seen.write path <;> rfl

end Storage

namespace Bundler

/-! ### The stages of a build -/

variable (bundler : Bundler σ) (world : World σ)

/-- The plugins are applied. -/
def applying : Traced (Except HookFailure Unit × Session σ) :=
  (Plugin.applyAll bundler.plugins).run world.session

/-- The assets of a build. -/
def graph (storage : Storage) : Attempt (List Asset) :=
  Workshop.graph ⟨storage, bundler.options.rules, bundler.analyzer⟩ bundler.options.reuse
    bundler.workingDirectory bundler.options.entry

/-- The files of assets, and the template. -/
def sources (assets : List Asset) : List Path :=
  assets.map Asset.path ++ bundler.options.template.toList

/-- What is done until the assets and the template are there. -/
def gathering : Journal :=
  (bundler.applying world).journal ++ (bundler.collect world.storage).journal

/-- The handlers run that choose the path of the bundle. -/
def choosing (session : Session σ) :
    Traced (Except HookFailure (BuildContext × Except HookFailure Unit) × Session σ) :=
  (HookM.call emitHook ArgumentType.context ⟨bundler.options.output⟩).run session

/-- The plugins leave a session; the graph has assets. -/
structure Gathers (session : Session σ) (assets : List Asset) : Prop where
  plugins : (bundler.applying world).value = (.ok (), session)
  graph : (bundler.graph world.storage).result = .ok assets

/-- The template is read, and a text is made of the assets. -/
structure Renders (session : Session σ) (assets : List Asset) (template text : String) : Prop
    extends bundler.Gathers world session assets where
  reads : (readTemplate bundler.options world.storage).result = .ok template
  renders : renderModules bundler.renderer template (assets.map Asset.rendered) = .ok text

/-- A build fails before the bundle is written: what it has done, the files that this asks for, the
failure, and what it leaves. -/
inductive Fails : Journal → List Path → Failure → World σ → Prop
  | plugin {session : Session σ} {failure : HookFailure}
    (h : (bundler.applying world).value = (.error failure, session)) :
    Fails (bundler.applying world).journal [] (.hook failure) ⟨session, world.storage⟩
  | graph {session : Session σ} {failure : Failure}
    (hplugins : (bundler.applying world).value = (.ok (), session))
    (h : (bundler.graph world.storage).result = .error failure) :
    Fails ((bundler.applying world).journal ++ (bundler.graph world.storage).journal)
      (bundler.graph world.storage).reads failure ⟨session, world.storage⟩
  | template {session : Session σ} {assets : List Asset} {failure : Failure}
    (hgathers : bundler.Gathers world session assets)
    (h : (readTemplate bundler.options world.storage).result = .error failure) :
    Fails (bundler.gathering world) (bundler.sources assets) failure ⟨session, world.storage⟩
  | render {session : Session σ} {assets : List Asset} {template : String} {failure : Failure}
    (hgathers : bundler.Gathers world session assets)
    (htemplate : (readTemplate bundler.options world.storage).result = .ok template)
    (h : renderModules bundler.renderer template (assets.map Asset.rendered) = .error failure) :
    Fails (bundler.gathering world) (bundler.sources assets) failure ⟨session, world.storage⟩
  | handler {session after : Session σ} {assets : List Asset} {template text : String}
    {context : BuildContext} {failure : HookFailure}
    (hrenders : bundler.Renders world session assets template text)
    (h : (bundler.choosing session).value = (.ok (context, .error failure), after)) :
    Fails (bundler.gathering world ++ (bundler.choosing session).journal)
      (bundler.sources assets) (.hook failure) ⟨after, world.storage⟩
  | write {session after : Session σ} {assets : List Asset} {template text : String} {path : Path}
    {storage : Storage} {cause : StorageFailure}
    (hrenders : bundler.Renders world session assets template text)
    (hpath : (bundler.choosing session).value = (.ok (⟨path⟩, .ok ()), after))
    (h : (world.storage.write path text).value = (storage, .error cause)) :
    Fails (bundler.gathering world ++
        ((bundler.choosing session).journal ++ (world.storage.write path text).journal))
      (bundler.sources assets) (.unwritable path cause) ⟨after, storage⟩

/-- What the stages of a build make when none fails before the bundle is written. -/
structure Production where
  prepared : Session σ
  assets : List Asset
  template : String
  text : String
  path : Path
  session : Session σ
  storage : Storage
  renders : bundler.Renders world prepared assets template text
  chooses : (bundler.choosing prepared).value = (.ok (⟨path⟩, .ok ()), session)
  writes : (world.storage.write path text).value = (storage, .ok ())

variable {bundler world}

namespace Production

variable (production : bundler.Production world)

/-- What was written. -/
def summary : Summary :=
  ⟨production.path, production.text.utf8ByteSize, production.assets.length⟩

/-- What is done until the bundle is written, from its rendering on. -/
def emission : Journal :=
  let summary := production.summary
  (bundler.choosing production.prepared).journal ++
    ((world.storage.write production.path production.text).journal ++ [.record ⟨.info, .emission,
      s!"Wrote {summary.modules} modules ({summary.bytes} bytes) to {summary.outputPath}"⟩])

/-- The last hook is fired with what was written. -/
def settling (patience : Nat) : Traced (Except HookFailure HookM.Settlement × Session σ) :=
  (HookM.promise patience afterEmitHook ArgumentType.summary production.summary).run
    production.session

/-- What the build comes to by what the handlers of the last hook come to. -/
def outcome : Except HookFailure HookM.Settlement → Except Failure BuildOutcome
  | .error failure => .error (.hook failure)
  | .ok .pending => .ok .pending
  | .ok .settled => .ok (.finished ⟨production.assets, production.summary⟩)

/-- What is logged when the handlers of the last hook are through. -/
def farewell : Except HookFailure HookM.Settlement → Journal
  | .ok .settled => [.record ⟨.info, .build,
      s!"Bundled {bundler.options.entry} into {production.summary.outputPath}"⟩]
  | .ok .pending | .error _ => []

/-- All that the build does. -/
def journal (patience : Nat) : Journal :=
  let settled := production.settling patience
  bundler.gathering world ++
    (production.emission ++ (settled.journal ++ production.farewell settled.value.1))

/-- What the build comes to, and what it leaves. -/
def ending (patience : Nat) : Except Failure BuildOutcome × World σ :=
  let (result, session) := (production.settling patience).value
  (production.outcome result, ⟨session, production.storage⟩)

end Production

/-- Handlers may fail, but to call them does not. -/
theorem exists_value_choosing (bundler : Bundler σ) (session : Session σ) :
    ∃ context outcome after,
      (bundler.choosing session).value = (.ok (context, outcome), after) := by
  unfold choosing
  cases hfire : session.registry.fire emitHook .sync ArgumentType.context with
  | error failure => exact ⟨_, _, _, congrArg Traced.value (HookM.run_call_of_error hfire _)⟩
  | ok fired => exact ⟨_, _, _, congrArg Traced.value (HookM.run_call_of_ok hfire _)⟩

/-- A build fails before the bundle is written, or produces it. -/
theorem fails_or_production (bundler : Bundler σ) (world : World σ) :
    (∃ journal reads failure after, bundler.Fails world journal reads failure after) ∨
      Nonempty (bundler.Production world) := by
  rcases hplugins : (bundler.applying world).value with ⟨failure | _, prepared⟩
  · exact .inl ⟨_, _, _, _, .plugin hplugins⟩
  rcases hgraph : (bundler.graph world.storage).result with failure | assets
  · exact .inl ⟨_, _, _, _, .graph hplugins hgraph⟩
  have hgathers : bundler.Gathers world prepared assets := ⟨hplugins, hgraph⟩
  rcases htemplate : (readTemplate bundler.options world.storage).result with failure | template
  · exact .inl ⟨_, _, _, _, .template hgathers htemplate⟩
  rcases htext : renderModules bundler.renderer template (assets.map Asset.rendered) with
    failure | text
  · exact .inl ⟨_, _, _, _, .render hgathers htemplate htext⟩
  have hrenders : bundler.Renders world prepared assets template text :=
    ⟨hgathers, htemplate, htext⟩
  obtain ⟨context, failure | _, session, hchoose⟩ := bundler.exists_value_choosing prepared
  · exact .inl ⟨_, _, _, _, .handler hrenders hchoose⟩
  rcases hwrite : (world.storage.write context.outputPath text).value with ⟨storage, cause | _⟩
  · exact .inl ⟨_, _, _, _, .write hrenders hchoose hwrite⟩
  · exact .inr ⟨⟨prepared, assets, template, text, context.outputPath, session, storage, hrenders,
      hchoose, hwrite⟩⟩

/-! ### Runs of builds -/

/-- What a build does with its assets and its template. -/
def produce (bundler : Bundler σ) (patience : Nat) (assets : List Asset) (template : String) :
    BuildM σ BuildOutcome := do
  let summary ← emit bundler.renderer template bundler.options.output (assets.map Asset.rendered)
  match ← BuildM.withHooks (HookM.promise patience afterEmitHook ArgumentType.summary summary) with
  | .pending => return .pending
  | .settled =>
    BuildM.log .info .build s!"Bundled {bundler.options.entry} into {summary.outputPath}"
    return .finished ⟨assets, summary⟩

variable {session after : Session σ} {assets : List Asset} {template text : String}
  {failure : Failure} {storage : Storage}

theorem run_applying {result : Except HookFailure Unit}
    (h : (bundler.applying world).value = (result, session)) :
    (BuildM.withHooks (Plugin.applyAll bundler.plugins)).run world =
      ⟨(bundler.applying world).journal, result.mapError .hook, ⟨session, world.storage⟩⟩ :=
  BuildM.run_withHooks (congrArg (Traced.mk _) h) world.storage

theorem run_eq_bind (bundler : Bundler σ) (patience : Nat) :
    bundler.run patience = (do
      BuildM.withHooks (Plugin.applyAll bundler.plugins)
      let collected ← BuildM.attempt (bundler.collect (← get).storage)
      bundler.produce patience collected.1 collected.2) :=
  rfl

/-- Behind the plugins, the assets and the template are there, or the build fails. -/
theorem run_of_applied (patience : Nat)
    (hplugins : (bundler.applying world).value = (.ok (), session)) :
    (bundler.run patience).run world =
      let rest := (BuildM.attempt (bundler.collect world.storage) >>= fun collected =>
        bundler.produce patience collected.1 collected.2).run ⟨session, world.storage⟩
      ⟨(bundler.applying world).journal ++ rest.journal, rest.value⟩ := by
  rw [run_eq_bind, Program.run_bind_of_ok (run_applying hplugins),
    Program.run_bind_of_ok (Program.run_get _)]
  rfl

theorem run_of_collect_eq_error (patience : Nat)
    (hplugins : (bundler.applying world).value = (.ok (), session))
    (h : (bundler.collect world.storage).result = .error failure) :
    (bundler.run patience).run world =
      ⟨bundler.gathering world, .error failure, ⟨session, world.storage⟩⟩ := by
  have hcollect := BuildM.run_attempt (bundler.collect world.storage) ⟨session, world.storage⟩
  rw [h] at hcollect
  rw [run_of_applied patience hplugins, Program.run_bind_of_error hcollect]
  rfl

theorem run_of_collect_eq_ok (patience : Nat)
    (hplugins : (bundler.applying world).value = (.ok (), session))
    (h : (bundler.collect world.storage).result = .ok (assets, template)) :
    (bundler.run patience).run world =
      let produced := (bundler.produce patience assets template).run ⟨session, world.storage⟩
      ⟨bundler.gathering world ++ produced.journal, produced.value⟩ := by
  have hcollect := BuildM.run_attempt (bundler.collect world.storage) ⟨session, world.storage⟩
  rw [h] at hcollect
  rw [run_of_applied patience hplugins, Program.run_bind_of_ok hcollect]
  exact congrArg (Traced.mk · _) (List.append_assoc ..).symm

theorem collect_of_graph_eq_error (h : (bundler.graph storage).result = .error failure) :
    (bundler.collect storage).result = .error failure ∧
      (bundler.collect storage).journal = (bundler.graph storage).journal := by
  unfold collect
  unfold graph at h ⊢
  exact ⟨Attempt.result_bind_of_error h, Attempt.journal_bind_of_error h⟩

/-- With a graph, the template decides. -/
theorem result_collect (h : (bundler.graph storage).result = .ok assets) :
    (bundler.collect storage).result =
      (readTemplate bundler.options storage).result.map (assets, ·) := by
  unfold collect
  unfold graph at h
  rw [Attempt.result_bind_of_ok h]
  cases htemplate : (readTemplate bundler.options storage).result with
  | error failure => exact Attempt.result_bind_of_error htemplate
  | ok template => exact Attempt.result_bind_of_ok htemplate

/-- What the handlers that choose a path do, by what they come to. -/
theorem run_choosing {result : Except HookFailure (BuildContext × Except HookFailure Unit)}
    (h : (bundler.choosing session).value = (result, after)) :
    (HookM.call emitHook ArgumentType.context ⟨bundler.options.output⟩).run session =
      ⟨(bundler.choosing session).journal, result, after⟩ :=
  congrArg (Traced.mk _) h

/-- A build whose bundle is not written ends there. -/
theorem run_of_emit_eq_error {journal : Journal} {last : World σ} (patience : Nat)
    (hgathers : bundler.Gathers world session assets)
    (htemplate : (readTemplate bundler.options world.storage).result = .ok template)
    (h : (emit bundler.renderer template bundler.options.output
      (assets.map Asset.rendered)).run ⟨session, world.storage⟩ =
        ⟨journal, .error failure, last⟩) :
    (bundler.run patience).run world =
      ⟨bundler.gathering world ++ journal, .error failure, last⟩ := by
  have hcollect : (bundler.collect world.storage).result = .ok (assets, template) := by
    rw [result_collect hgathers.graph, htemplate]
    rfl
  rw [run_of_collect_eq_ok patience hgathers.plugins hcollect, produce,
    Program.run_bind_of_error h]

/-- A build that fails before the bundle is written has done what its stages have done, and nothing
else. -/
theorem run_of_fails {journal : Journal} {reads : List Path} {last : World σ}
    (h : bundler.Fails world journal reads failure last) (patience : Nat) :
    (bundler.run patience).run world = ⟨journal, .error failure, last⟩ := by
  cases h with
  | plugin h => rw [run_eq_bind, Program.run_bind_of_error (run_applying h)]
  | graph hplugins h =>
    obtain ⟨hresult, hjournal⟩ := collect_of_graph_eq_error h
    rw [run_of_collect_eq_error patience hplugins hresult, gathering, hjournal]
  | template hgathers h =>
    refine run_of_collect_eq_error patience hgathers.plugins ?_
    rw [result_collect hgathers.graph, h]
    rfl
  | render hgathers htemplate h =>
    refine (run_of_emit_eq_error patience hgathers htemplate ?_).trans
      (congrArg (Traced.mk · _) (List.append_nil _))
    exact Emission.run_emit_of_unrendered h _
  | handler hrenders h =>
    exact run_of_emit_eq_error patience hrenders.toGathers hrenders.reads
      (Emission.run_emit_of_stopped hrenders.renders (run_choosing h))
  | write hrenders hpath h =>
    exact run_of_emit_eq_error patience hrenders.toGathers hrenders.reads
      (Emission.run_emit_of_unwritten hrenders.renders (run_choosing hpath) h)

theorem Production.run_emit (production : bundler.Production world) :
    (emit bundler.renderer production.template bundler.options.output
      (production.assets.map Asset.rendered)).run ⟨production.prepared, world.storage⟩ =
        ⟨production.emission, .ok production.summary,
          ⟨production.session, production.storage⟩⟩ := by
  rw [Emission.run_emit_of_written production.renders.renders (run_choosing production.chooses)
    production.writes, List.length_map]
  rfl

/-- A build that writes the bundle has done what all stages do. -/
theorem Production.run_eq (production : bundler.Production world) (patience : Nat) :
    (bundler.run patience).run world =
      ⟨production.journal patience, production.ending patience⟩ := by
  have hrenders := production.renders
  have hcollect : (bundler.collect world.storage).result =
      .ok (production.assets, production.template) := by
    rw [result_collect hrenders.graph, hrenders.reads]
    rfl
  rw [run_of_collect_eq_ok patience hrenders.plugins hcollect, produce,
    Program.run_bind_of_ok production.run_emit]
  unfold journal ending
  rcases hsettled : production.settling patience with ⟨settled, failure | (_ | _), last⟩
  · rw [Program.run_bind_of_error (BuildM.run_withHooks hsettled _)]
    dsimp only [Production.farewell]
    rw [List.append_nil]
    rfl
  · rw [Program.run_bind_of_ok (BuildM.run_withHooks hsettled _)]
    rfl
  · rw [Program.run_bind_of_ok (BuildM.run_withHooks hsettled _)]
    rfl

/-! ### Files -/

/-- The files of a build are left to it: the analyzer, the plugins and the handlers leave files
alone. The build has a hook that fires when the bundle is written. -/
structure Orderly (bundler : Bundler σ) (world : World σ) : Prop where
  directory : bundler.workingDirectory.isAbsolute
  analyzer : bundler.analyzer.Quiet
  plugins : ∀ plugin ∈ bundler.plugins, plugin.apply.Obeys .quiet
  handlers : world.session.registry.Obeys .quiet
  declares : world.session.registry.Declares afterEmitHook .parallel ArgumentType.summary

/-- Without plugins, files are left to every build of modules. -/
theorem orderly_ofOptions (options : BuildOptions) {workingDirectory : Path}
    (h : workingDirectory.isAbsolute) (state : σ) (storage : Storage) :
    (ofOptions options workingDirectory).Orderly
      ⟨(HookM.declareEmission.run ⟨.empty, .ofState state⟩).value.2, storage⟩ where
  directory := h
  analyzer := Analyzer.quiet_modules
  plugins := nofun
  handlers := (HookM.Obeys.declareEmission _ HookRegistry.obeys_empty).2.1
  declares := ⟨_, rfl, rfl, rfl⟩

theorem reads_readTemplate (options : BuildOptions) (storage : Storage) :
    (readTemplate options storage).reads = options.template.toList := by
  unfold readTemplate
  cases options.template with
  | none => rfl
  | some path =>
    dsimp only
    rw [Attempt.reads_ofResult, Storage.reads_read]
    rfl

theorem writesNothing_readTemplate (options : BuildOptions) (storage : Storage) :
    (readTemplate options storage).WritesNothing := by
  unfold readTemplate
  split
  · exact .pure _
  · exact .ofResult _ (storage.writes_read _)

/-- With a graph, the files of its assets are asked for, and the template. -/
theorem reads_collect (horderly : bundler.Orderly world)
    (h : (bundler.graph storage).result = .ok assets) :
    (bundler.collect storage).reads = bundler.sources assets := by
  have hgraph := Workshop.reads_graph horderly.analyzer horderly.directory h
  have htemplate := reads_readTemplate bundler.options storage
  unfold collect
  unfold graph at h
  rw [Attempt.reads_bind_of_ok h, hgraph, sources, ← htemplate]
  cases hresult : (readTemplate bundler.options storage).result with
  | error failure => rw [Attempt.reads_bind_of_error hresult]
  | ok template => rw [Attempt.reads_bind_of_ok hresult, Attempt.reads_pure, List.append_nil]

section

variable (horderly : bundler.Orderly world)
include horderly

theorem files_applying {result : Except HookFailure Unit}
    (h : (bundler.applying world).value = (result, session)) :
    (bundler.applying world).journal.files = [] ∧ session.registry.Obeys .quiet ∧
      session.registry.Declares afterEmitHook .parallel ArgumentType.summary := by
  obtain ⟨hfiles, hobeys, hkeeps⟩ :=
    (Plugin.obeys_applyAll horderly.plugins).of_value_eq horderly.handlers h
  exact ⟨hfiles, hobeys, hkeeps _ _ _ horderly.declares⟩

theorem files_collect (storage : Storage) :
    (bundler.collect storage).journal.files = (bundler.collect storage).reads.map .read := by
  refine Attempt.WritesNothing.files ?_
  unfold collect
  exact .bind (Workshop.writesNothing_graph horderly.analyzer ..) fun _ =>
    .bind (writesNothing_readTemplate ..) fun _ => .pure _

theorem files_gathering (h : bundler.Gathers world session assets) :
    (bundler.gathering world).files = (bundler.sources assets).map .read := by
  rw [gathering, Journal.files_append, (files_applying horderly h.plugins).1,
    files_collect horderly, reads_collect horderly h.graph, List.nil_append]

/-- The handlers that choose a path leave files alone. -/
theorem files_choosing {context : BuildContext} {outcome : Except HookFailure Unit}
    (hgathers : bundler.Gathers world session assets)
    (h : (bundler.choosing session).value = (.ok (context, outcome), after)) :
    (bundler.choosing session).journal.files = [] ∧ after.registry.Obeys .quiet ∧
      after.registry.Declares afterEmitHook .parallel ArgumentType.summary := by
  obtain ⟨-, hsession, hdeclares⟩ := files_applying horderly hgathers.plugins
  have hcall : HookM.Obeys .quiet
      (HookM.call emitHook ArgumentType.context ⟨bundler.options.output⟩ : HookM σ _) := .call _ _
  obtain ⟨hfiles, hobeys, hkeeps⟩ := hcall.of_value_eq hsession h
  exact ⟨hfiles, hobeys, hkeeps _ _ _ hdeclares⟩

/-- A build that fails before the bundle is written has asked for files, and has written none. -/
theorem Fails.files_eq {journal : Journal} {reads : List Path} {last : World σ}
    (h : bundler.Fails world journal reads failure last) : journal.files = reads.map .read := by
  cases h with
  | plugin h => exact (files_applying horderly h).1
  | graph hplugins h =>
    obtain ⟨-, hjournal⟩ := collect_of_graph_eq_error h
    have hcollect := files_collect horderly world.storage
    rw [Attempt.reads, hjournal] at hcollect
    rw [Journal.files_append, (files_applying horderly hplugins).1, List.nil_append, hcollect]
    rfl
  | template hgathers h => exact files_gathering horderly hgathers
  | render hgathers htemplate h => exact files_gathering horderly hgathers
  | handler hrenders h =>
    rw [Journal.files_append, files_gathering horderly hrenders.toGathers,
      (files_choosing horderly hrenders.toGathers h).1, List.append_nil]
  | write hrenders hpath h =>
    rw [Journal.files_append, Journal.files_append, files_gathering horderly hrenders.toGathers,
      (files_choosing horderly hrenders.toGathers hpath).1, Storage.files_write, h]
    exact List.append_nil _

/-- A build that writes the bundle has asked for its sources before. -/
theorem Production.files_eq (production : bundler.Production world) (patience : Nat) :
    (production.journal patience).files = (bundler.sources production.assets).map .read ++
      [.write production.path production.text] := by
  have hgathers := production.renders.toGathers
  obtain ⟨hchoosing, hsession, -⟩ := files_choosing horderly hgathers production.chooses
  have hpromise : HookM.Obeys .quiet (HookM.promise patience afterEmitHook ArgumentType.summary
      production.summary : HookM σ _) := .promise _ _ _
  have hsettling : (production.settling patience).journal.files = [] :=
    (hpromise production.session hsession).1
  have hfarewell (result : Except HookFailure HookM.Settlement) :
      (production.farewell result).files = [] := by
    obtain failure | (_ | _) := result <;> rfl
  unfold journal emission
  simp only [Journal.files_append, files_gathering horderly hgathers, hchoosing,
    Storage.files_write, production.writes, hsettling, hfarewell]
  rfl

theorem Fails.writes_eq {journal : Journal} {reads : List Path} {last : World σ}
    (h : bundler.Fails world journal reads failure last) (patience : Nat) :
    ((bundler.run patience).run world).journal.writes = [] := by
  rw [run_of_fails h, ← Journal.writes_files, h.files_eq horderly]
  exact Journal.writes_map_read reads

theorem Production.writes_eq (production : bundler.Production world) (patience : Nat) :
    ((bundler.run patience).run world).journal.writes = [(production.path, production.text)] := by
  rw [production.run_eq, ← Journal.writes_files, production.files_eq horderly,
    Journal.writes_append, Journal.writes_map_read]
  rfl

end

/-! ### What a build comes to -/

/-- A build is successful if no stage fails and the handlers of the last hook are through. -/
theorem run_eq_finished_iff {patience : Nat} {output : BuildOutput} :
    ((bundler.run patience).run world).value.1 = .ok (.finished output) ↔
      ∃ production : bundler.Production world,
        (production.settling patience).value.1 = .ok .settled ∧
          output = ⟨production.assets, production.summary⟩ := by
  constructor
  · intro h
    rcases bundler.fails_or_production world with ⟨_, _, _, _, hfails⟩ | ⟨⟨production⟩⟩
    · rw [run_of_fails hfails] at h
      cases h
    · refine ⟨production, ?_⟩
      rw [production.run_eq] at h
      change production.outcome (production.settling patience).value.1 = _ at h
      generalize (production.settling patience).value.1 = result at h ⊢
      obtain failure | (_ | _) := result <;> cases h
      exact ⟨rfl, rfl⟩
  · rintro ⟨production, hsettled, rfl⟩
    rw [production.run_eq]
    exact congrArg production.outcome hsettled

/-- What an orderly build does with files, and when it starts the handlers of the last hook. -/
structure Audited (bundler : Bundler σ) (patience : Nat) (world : World σ) : Prop where
  /-- A build that fails before the bundle is written has asked for files only. -/
  fails : ∀ journal reads failure after, bundler.Fails world journal reads failure after →
    ((bundler.run patience).run world).journal.files = reads.map .read
  /-- A build that writes the bundle has asked for its sources before. -/
  produces : ∀ production : bundler.Production world,
    ((bundler.run patience).run world).journal.files =
      (bundler.sources production.assets).map .read ++ [.write production.path production.text]
  /-- One bundle is written, or none. -/
  once : ((bundler.run patience).run world).journal.writes.length ≤ 1
  written_iff : ((bundler.run patience).run world).journal.writes ≠ [] ↔
    Nonempty (bundler.Production world)
  /-- When the bundle is written, all handlers of the last hook start, and they are told what was
  written. -/
  starts : ∀ production : bundler.Production world, ∃ taps registry record journal more tasks scene,
    production.session.registry.fire afterEmitHook .parallel ArgumentType.summary =
        .ok (taps, registry) ∧
      @HookM.Starts σ ArgumentType.summary production.summary taps production.session.scene journal
          tasks scene ∧
        (production.settling patience).journal = .record record :: (journal ++ more)

theorem audited (horderly : bundler.Orderly world) (patience : Nat) :
    bundler.Audited patience world where
  fails _ _ _ _ h := by rw [run_of_fails h, h.files_eq horderly]
  produces production := by rw [production.run_eq, production.files_eq horderly]
  once := by
    rcases bundler.fails_or_production world with ⟨_, _, _, _, h⟩ | ⟨⟨production⟩⟩
    · rw [h.writes_eq horderly]
      exact Nat.zero_le 1
    · rw [production.writes_eq horderly]
      exact Nat.le_refl 1
  written_iff := by
    rcases bundler.fails_or_production world with ⟨_, _, _, _, h⟩ | ⟨⟨production⟩⟩
    · refine iff_of_false (fun hwrites => hwrites (h.writes_eq horderly patience)) ?_
      rintro ⟨production⟩
      cases (h.writes_eq horderly patience).symm.trans (production.writes_eq horderly patience)
    · refine iff_of_true ?_ ⟨production⟩
      rw [production.writes_eq horderly]
      exact List.cons_ne_nil _ _
  starts production := by
    obtain ⟨-, -, hdeclares⟩ :=
      files_choosing horderly production.renders.toGathers production.chooses
    obtain ⟨taps, registry, hfire⟩ := hdeclares.exists_fire
    obtain ⟨record, journal, more, tasks, scene, hstarts, hjournal⟩ :=
      HookM.exists_starts_promise hfire patience production.summary
    exact ⟨taps, registry, record, journal, more, tasks, scene, hfire, hstarts, hjournal⟩

/-- What a build comes to in every case. -/
structure Accounted (bundler : Bundler σ) (patience : Nat) (world : World σ) : Prop where
  /-- The bundle is written, or the build fails before. -/
  exhaustive : (∃ journal reads failure after, bundler.Fails world journal reads failure after) ∨
    Nonempty (bundler.Production world)
  /-- A build that fails before the bundle is written has done what its stages have done, and
  nothing else. -/
  fails : ∀ journal reads failure after, bundler.Fails world journal reads failure after →
    (bundler.run patience).run world = ⟨journal, .error failure, after⟩
  /-- A build that writes the bundle has done what all stages do. -/
  produces : ∀ production : bundler.Production world,
    (bundler.run patience).run world = ⟨production.journal patience, production.ending patience⟩
  /-- If a handler of the last hook fails, the build fails, but what was written stays. -/
  stays : ∀ (production : bundler.Production world) failure,
    (production.settling patience).value.1 = .error failure →
      ((bundler.run patience).run world).value.1 = .error (.hook failure) ∧
        ((bundler.run patience).run world).value.2.storage = production.storage
  /-- A build is successful if no stage fails and these handlers are through. -/
  finished_iff : ∀ output,
    ((bundler.run patience).run world).value.1 = .ok (.finished output) ↔
      ∃ production : bundler.Production world,
        (production.settling patience).value.1 = .ok .settled ∧
          output = ⟨production.assets, production.summary⟩
  /-- If files are left to the build, it writes one bundle or none. -/
  orderly : bundler.Orderly world → bundler.Audited patience world

/-- **A build writes one bundle or none.** -/
theorem accounted (bundler : Bundler σ) (patience : Nat) (world : World σ) :
    bundler.Accounted patience world where
  exhaustive := bundler.fails_or_production world
  fails _ _ _ _ h := run_of_fails h patience
  produces production := production.run_eq patience
  stays production failure h := by
    rw [production.run_eq, Production.ending]
    exact ⟨congrArg production.outcome h, rfl⟩
  finished_iff _ := run_eq_finished_iff
  orderly horderly := audited horderly patience

/-- A build of two files that import each other. A plugin sends the bundle to another path. -/
def pair : Bundler Unit where
  options := ⟨.ofString "a", defaultOutputPath, none, .byPath, []⟩
  plugins := [.changeOutputPath (.ofString "/c")]
  workingDirectory := .root
  analyzer := Workshop.pair.analyzer
  renderer _ modules := .ok (", ".intercalate (modules.map RenderedModule.code))

/-- The hooks of an emission. A handler of the last one fails. -/
def offline : HookM Unit Unit := do
  HookM.declareEmission
  HookM.tapTask afterEmitHook "report" ArgumentType.summary fun _ =>
    return .done (.error (.ofMessage "offline"))

/-- Where the two files are built. -/
def pairWorld : World Unit :=
  ⟨(offline.run ⟨.empty, .ofState ()⟩).value.2, Workshop.pair.storage⟩

theorem orderly_pair : pair.Orderly pairWorld where
  directory := rfl
  analyzer _ _ := rfl
  plugins := by
    rintro plugin (_ | ⟨_, ⟨⟩⟩)
    exact Plugin.quiet_changeOutputPath _
  handlers := by
    have hbody : @Body.Obeys Unit .quiet .parallel ArgumentType.summary
        fun _ => return .done (.error (.ofMessage "offline")) :=
      fun _ => ⟨.pure _, fun _ => .done _⟩
    have hoffline : offline.Obeys .quiet := .bind .declareEmission fun _ => .subscribe hbody _ _
    exact (hoffline ⟨.empty, .ofState ()⟩ HookRegistry.obeys_empty).2.1
  declares := ⟨_, rfl, rfl, rfl⟩

/-- The bundle is written although the build fails. -/
theorem accounted_pair :
    pair.Orderly pairWorld ∧ pair.Audited 1 pairWorld ∧
      ((pair.run 1).run pairWorld).value.1 =
        .error (.hook (.handler afterEmitHook "report" (.ofMessage "offline"))) ∧
      ((pair.run 1).run pairWorld).journal.files =
        [.read (.ofString "/a"), .read (.ofString "/b"), .write (.ofString "/c") "./b, ./a"] :=
  ⟨orderly_pair, (accounted pair 1 pairWorld).orderly orderly_pair, rfl, rfl⟩

end Bundler

end ModuleBundler
