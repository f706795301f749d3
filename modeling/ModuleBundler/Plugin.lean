import ModuleBundler.Emission

/-!
# Plugins

A plugin subscribes to hooks before the build starts. Plugins are applied in order until one cannot
be applied.

## Main definitions

* `Plugin` — plugins by name.
* `Plugin.applyAll` — applies plugins.
* `Plugin.changeOutputPath` — the built-in plugin that sends the bundle to another path.
-/

namespace ModuleBundler

/-- A plugin with its name. -/
structure Plugin (σ : Type) where
  name : String
  apply : HookM σ Unit

namespace Plugin

variable {σ : Type}

/-- Applies plugins in order until one cannot be applied. -/
def applyAll : List (Plugin σ) → HookM σ Unit
  | [] => return ()
  | plugin :: plugins => do
    HookM.log .debug .plugins s!"Applying plugin '{plugin.name}'"
    plugin.apply
    applyAll plugins

/-- The name of the plugin that sends the bundle to another path. -/
def changeOutputPathName : String :=
  "change-output-path"

/-- The handler that sends the bundle to another path. -/
def redirectTo (path : Path) : SyncHandler σ ArgumentType.context := fun _ => do
  let context ← StateT.lift (BuildContext.redirect path)
  return (context, .ok ())

/-- The plugin that sends the bundle to another path. -/
def changeOutputPath (path : Path) : Plugin σ where
  name := changeOutputPathName
  apply := HookM.tap emitHook changeOutputPathName ArgumentType.context (redirectTo path)

end Plugin

end ModuleBundler
