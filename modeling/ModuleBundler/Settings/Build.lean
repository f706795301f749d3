import ModuleBundler.Build
import ModuleBundler.Settings.Basic
import ModuleBundler.Text.Placeholder
import ModuleBundler.Toml.Reader

/-!
# Builds from settings

## Main definitions

* `Settings.ofText?`, `Settings.load` — settings from a text and from a file.
* `Settings.options`, `Settings.bundler` — the build that settings describe.
-/

namespace ModuleBundler

/-- The rule that settings describe. Its pattern must be valid, and it must have loaders. -/
def RuleSettings.rule (settings : RuleSettings) : Except Failure Rule :=
  let mark := String.singleton (Char.ofNat 0x60)
  let quoted := mark ++ settings.test ++ mark
  match PathPattern.ofText? settings.test with
  | none => .error (.settings s!"invalid rule pattern {quoted}: {Text.detail}")
  | some test =>
    if settings.loaders.isEmpty then .error (.settings s!"rule {quoted} has no loaders")
    else .ok ⟨test, settings.loaders.map LoaderChoice.loader⟩

/-- The plugin that settings describe. -/
def PluginSettings.plugin {σ : Type} : PluginSettings → Plugin σ
  | changeOutputPath path => .changeOutputPath path

namespace Settings

/-! ### Reading settings -/

/-- The settings that a text writes. -/
def ofText? (text : String) : Option Settings := do
  ofEntries? (← Toml.read? text.toList)

/-- The settings that a text writes, or the failure to read them. -/
def ofText (text : String) : Except Failure Settings :=
  match ofText? text with
  | some settings => .ok settings
  | none => .error (.settings Text.detail)

/-- Settings from the file at a path. Their paths are relative to the directory of the file. -/
def load (storage : Storage) (path : Path) : Attempt Settings := do
  let text ← Attempt.ofResult
    (fun failure => .settings s!"cannot read {path}: {failure.message}") (storage.read path)
  match ofText? text with
  | none => throw (.settings s!"{path}: {Text.detail}")
  | some settings =>
    Attempt.log .debug .settings s!"Loaded configuration from {path}"
    return path.parent?.elim settings settings.relativeTo

/-! ### Builds -/

/-- The options of the build that settings describe. There must be an entry. -/
def options (settings : Settings) : Except Failure BuildOptions := do
  match settings.entry with
  | none => throw (.settings "no entry module configured")
  | some entry =>
    return {
      entry
      output := settings.output.getD defaultOutputPath
      template := settings.template
      reuse := settings.reuse
      rules := ← settings.rules.mapM RuleSettings.rule }

/-- The build that settings describe. -/
def bundler {σ : Type} (settings : Settings) (workingDirectory : Path) :
    Except Failure (Bundler σ) := do
  let plain := Bundler.ofOptions (← settings.options) workingDirectory
  return (settings.plugins.map PluginSettings.plugin).foldl Bundler.withPlugin plain

end Settings

end ModuleBundler
