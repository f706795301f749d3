import ModuleBundler.ImportGraph
import ModuleBundler.Plugin

/-!
# Builds

A build applies the plugins, follows the imports of the entry, renders and writes the bundle, and
waits for the handlers that run when it is written. Each step is taken only if all before it were
successful.

## Main definitions

* `BuildOptions` — what is built and how.
* `Bundler` — a build that has not been run.
* `Bundler.run`, `Bundler.launch` — runs a build.
-/

namespace ModuleBundler

/-- What is built and how. The output path is the one before handlers change it; without a template
the standard one is used. -/
structure BuildOptions where
  entry : Path
  output : Path
  template : Option Path
  reuse : Reuse
  rules : List Rule

/-- The options of a build of which only the entry is said. -/
def BuildOptions.ofEntry (entry : Path) : BuildOptions :=
  ⟨entry, defaultOutputPath, none, .onChain, []⟩

/-- A build that has not been run: its options, its plugins, and what analyzes sources and renders
modules. -/
structure Bundler (σ : Type) where
  options : BuildOptions
  plugins : List (Plugin σ)
  workingDirectory : Path
  analyzer : Analyzer
  renderer : Renderer

/-- What a successful build comes to: its assets in the order of their numbers, and what was
written. -/
structure BuildOutput where
  assets : List Asset
  summary : Summary
  deriving DecidableEq, Repr

/-- Whether a build has come to an end. -/
inductive BuildOutcome where
  | finished (output : BuildOutput)
  /-- A handler of the last hook has not come to an outcome. -/
  | pending
  deriving DecidableEq, Repr

namespace Bundler

variable {σ : Type}

/-- A build with the given options and nothing else. -/
def ofOptions (options : BuildOptions) (workingDirectory : Path) : Bundler σ :=
  ⟨options, [], workingDirectory, .modules, Template.render⟩

/-- A build with one more plugin. -/
def withPlugin (bundler : Bundler σ) (plugin : Plugin σ) : Bundler σ :=
  { bundler with plugins := bundler.plugins ++ [plugin] }

/-! ### Running a build -/

/-- The text of the template. -/
def readTemplate (options : BuildOptions) (storage : Storage) : Attempt String :=
  match options.template with
  | none => return Template.standard
  | some path =>
    Attempt.ofResult
      (fun failure =>
        .render s!"failed to read template {path}" (some (.ofMessage failure.message)))
      (storage.read path)

/-- The assets and the template of a build. -/
def collect (bundler : Bundler σ) (storage : Storage) : Attempt (List Asset × String) := do
  let options := bundler.options
  let workshop : Workshop := ⟨storage, options.rules, bundler.analyzer⟩
  let assets ← workshop.graph options.reuse bundler.workingDirectory options.entry
  let template ← readTemplate options storage
  return (assets, template)

/-- Runs a build. The handlers that run when the bundle is written are polled in at most `patience`
rounds. -/
def run (bundler : Bundler σ) (patience : Nat) : BuildM σ BuildOutcome := do
  let options := bundler.options
  BuildM.withHooks (Plugin.applyAll bundler.plugins)
  let (assets, template) ← BuildM.attempt (bundler.collect (← get).storage)
  let summary ← emit bundler.renderer template options.output (assets.map Asset.rendered)
  match ← BuildM.withHooks (HookM.promise patience afterEmitHook ArgumentType.summary summary) with
  | .pending => return .pending
  | .settled =>
    BuildM.log .info .build s!"Bundled {options.entry} into {summary.outputPath}"
    return .finished ⟨assets, summary⟩

/-- Runs a build with hooks of its own, to which nobody but plugins subscribes. -/
def launch (bundler : Bundler σ) (patience : Nat) (state : σ) (storage : Storage) :
    Traced (Except Failure BuildOutcome × World σ) := do
  let (_, session) ← HookM.declareEmission.run ⟨.empty, .ofState state⟩
  (bundler.run patience).run ⟨session, storage⟩

end Bundler

end ModuleBundler
