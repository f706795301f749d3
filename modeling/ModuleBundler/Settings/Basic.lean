import ModuleBundler.ImportGraph
import ModuleBundler.Plugin
import ModuleBundler.Toml.Basic

/-!
# Settings

Settings say what is built and how: the paths of the entry, the output and the template, when assets
are reused, rules, and plugins. Everything can be left out. Rules and plugins name what is built in.

They are read from a document, which holds nothing but settings. A rule or a plugin is a table, or
an array of its parts in order; a choice is a text, or a table with the choice as its only key and
with nothing under it.

## Main definitions

* `Settings` — settings.
* `Settings.ofEntries?` — the settings that a document holds.
* `Settings.relativeTo` — settings whose paths are relative to a directory.
-/

namespace ModuleBundler

/-- The loaders that settings can name. -/
inductive LoaderChoice where
  | json
  | text
  deriving DecidableEq, Repr

/-- A rule of settings. The pattern may be invalid. -/
structure RuleSettings where
  test : String
  loaders : List LoaderChoice
  deriving DecidableEq, Repr

/-- The plugins that settings can name. -/
inductive PluginSettings where
  | changeOutputPath (path : Path)
  deriving DecidableEq, Repr

/-- Settings. -/
structure Settings where
  entry : Option Path
  output : Option Path
  template : Option Path
  reuse : Reuse
  rules : List RuleSettings
  plugins : List PluginSettings
  deriving DecidableEq, Repr

/-- The settings that hold when nothing is said. -/
def Settings.standard : Settings :=
  ⟨none, none, none, .onChain, [], []⟩

/-! ### Parts of settings -/

namespace Toml

/-- The text that a value is. -/
def text? : Toml → Option String
  | text chars => some (String.ofList chars)
  | _ => none

/-- The path that a value is. -/
def path? : Toml → Option Path
  | text chars => some ⟨chars⟩
  | _ => none

/-- The values of an array. -/
def items? : Toml → Option (List Toml)
  | array _ items => some items
  | _ => none

/-- Is the value an array or a table that holds nothing? -/
def isVoid : Toml → Bool
  | array _ [] | table _ [] => true
  | _ => false

/-- The choice that a value is. -/
def choice? : Toml → Option String
  | text chars => some (String.ofList chars)
  | table _ [(key, value)] => if value.isVoid then some (String.ofList key) else none
  | _ => none

/-- Do entries have no keys but the given ones? -/
def hasOnly (entries : Entries) (keys : List String) : Bool :=
  entries.all fun entry => keys.contains (String.ofList entry.1)

/-- The value under a key. -/
def find? (entries : Entries) (key : String) : Option Toml :=
  entries.lookup key.toList

end Toml

/-- The way to treat built files that a value chooses. -/
def Reuse.ofToml? (value : Toml) : Option Reuse := do
  match ← value.choice? with
  | "rebuild" => some onChain
  | "by-path" => some byPath
  | _ => none

namespace LoaderChoice

/-- The name of a loader in settings. -/
def name : LoaderChoice → String
  | json => "json"
  | text => "text"

/-- The loader that a value chooses. -/
def ofToml? (value : Toml) : Option LoaderChoice := do
  let name ← value.choice?
  [json, text].find? (·.name = name)

/-- The loader. -/
def loader : LoaderChoice → Loader
  | json => .json
  | text => .plainText

end LoaderChoice

/-- The rule that a pattern and loaders make. -/
def RuleSettings.ofParts? (test loaders : Toml) : Option RuleSettings := do
  return ⟨← test.text?, ← (← loaders.items?).mapM LoaderChoice.ofToml?⟩

/-- The rule that a value is. What stands behind the parts of a rule in an array does not count. -/
def RuleSettings.ofToml? : Toml → Option RuleSettings
  | .table _ entries => do
    if Toml.hasOnly entries ["test", "loaders"] then
      ofParts? (← Toml.find? entries "test") (← Toml.find? entries "loaders")
    else none
  | .array _ (test :: loaders :: _) => ofParts? test loaders
  | _ => none

/-- The plugin that a name and a path make. -/
def PluginSettings.ofParts? (name path : Toml) : Option PluginSettings := do
  if (← name.text?) = Plugin.changeOutputPathName then
    return .changeOutputPath (← path.path?)
  else none

/-- The plugin that a value is. -/
def PluginSettings.ofToml? : Toml → Option PluginSettings
  | .table _ entries => do
    if Toml.hasOnly entries ["name", "path"] then
      ofParts? (← Toml.find? entries "name") (← Toml.find? entries "path")
    else none
  | .array _ [name, path] => ofParts? name path
  | _ => none

/-- The name of a plugin. -/
def PluginSettings.name : PluginSettings → String
  | changeOutputPath _ => Plugin.changeOutputPathName

/-- The plugin with a path that is relative to a directory. -/
def PluginSettings.relativeTo (base : Path) : PluginSettings → PluginSettings
  | changeOutputPath path => .changeOutputPath (base.join path)

/-! ### Settings -/

namespace Settings

/-- Settings with what an entry of a document says. -/
def set (settings : Settings) (entry : Toml.Key × Toml) : Option Settings := do
  let value := entry.2
  match String.ofList entry.1 with
  | "entry" => return { settings with entry := some (← value.path?) }
  | "output" => return { settings with output := some (← value.path?) }
  | "template" => return { settings with template := some (← value.path?) }
  | "dedupe" => return { settings with reuse := ← Reuse.ofToml? value }
  | "rules" =>
    return { settings with rules := ← (← value.items?).mapM RuleSettings.ofToml? }
  | "plugins" =>
    return { settings with plugins := ← (← value.items?).mapM PluginSettings.ofToml? }
  | _ => none

/-- The settings that a document holds, if it holds nothing else. -/
def ofEntries? (entries : Toml.Entries) : Option Settings :=
  entries.foldlM set standard

/-- Settings whose paths are relative to a directory. -/
def relativeTo (settings : Settings) (base : Path) : Settings :=
  { settings with
    entry := settings.entry.map base.join
    output := settings.output.map base.join
    template := settings.template.map base.join
    plugins := settings.plugins.map (PluginSettings.relativeTo base) }

end Settings

end ModuleBundler
