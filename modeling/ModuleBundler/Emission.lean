import ModuleBundler.Failure
import ModuleBundler.Hook.Session
import ModuleBundler.Rendering.Template
import ModuleBundler.Storage.Basic

/-!
# Emission

The modules of a build are rendered and written. In between, the handlers of a hook may send the
bundle to another path; the last of them decides. Another hook is fired when the bundle is written.

## Main definitions

* `emitHook`, `afterEmitHook`, `HookM.declareEmission` — the hooks of an emission.
* `World`, `BuildM` — what a build acts on.
* `emit` — renders and writes modules.
-/

namespace ModuleBundler

/-- The name of the hook that fires before the bundle is written. -/
def emitHook : String :=
  "emitFile"

/-- The name of the hook that fires when the bundle is written. -/
def afterEmitHook : String :=
  "afterEmit"

/-- Where the bundle goes if nothing else is said. -/
def defaultOutputPath : Path :=
  .ofString "./dist/bundle.js"

/-- Declares the hooks of an emission. -/
def HookM.declareEmission {σ : Type} : HookM σ Unit := do
  declare emitHook .sync ArgumentType.context ["context"]
  declare afterEmitHook .parallel ArgumentType.summary ["summary"]

/-! ### Builds -/

/-- What a build acts on: hooks with their scene, and files. -/
structure World (σ : Type) where
  session : Session σ
  storage : Storage

/-- What a build does. -/
abbrev BuildM (σ : Type) := ExceptT Failure (StateT (World σ) Traced)

namespace BuildM

variable {σ : Type}

/-- Attempts something that changes nothing. -/
def attempt {α : Type} (attempt : Attempt α) : BuildM σ α :=
  ExceptT.mk (StateT.lift attempt.run)

/-- A message for the log. -/
def log (level : Level) (topic : Topic) (message : String) : BuildM σ Unit :=
  attempt (Attempt.log level topic message)

/-- Does something with hooks. -/
def withHooks {α : Type} (hooks : HookM σ α) : BuildM σ α :=
  ExceptT.mk fun world => do
    let (result, session) ← hooks.run world.session
    return (result.mapError .hook, { world with session })

/-- Writes a file. -/
def write (path : Path) (text : String) : BuildM σ Unit :=
  ExceptT.mk fun world => do
    let (storage, outcome) ← world.storage.write path text
    return (outcome.mapError (.unwritable path), { world with storage })

end BuildM

/-! ### Emission -/

/-- Renders modules. -/
def renderModules (renderer : Renderer) (template : String) (modules : List RenderedModule) :
    Except Failure String :=
  (renderer template modules).mapError fun cause =>
    .render "failed to render bundle template" (some cause)

/-- The path to which the handlers of the hook send the bundle. -/
def chooseOutput {σ : Type} (path : Path) : BuildM σ Path := do
  let (context, outcome) ← BuildM.withHooks (HookM.call emitHook ArgumentType.context ⟨path⟩)
  match outcome with
  | .ok () => return BuildContext.outputPath context
  | .error failure => throw (.hook failure)

/-- Renders the modules of assets and writes the bundle. -/
def emit {σ : Type} (renderer : Renderer) (template : String) (output : Path)
    (modules : List RenderedModule) : BuildM σ Summary := do
  match renderModules renderer template modules with
  | .error failure => throw failure
  | .ok text =>
    let path ← chooseOutput output
    BuildM.write path text
    let summary : Summary := ⟨path, text.utf8ByteSize, modules.length⟩
    BuildM.log .info .emission
      s!"Wrote {summary.modules} modules ({summary.bytes} bytes) to {summary.outputPath}"
    return summary

end ModuleBundler
