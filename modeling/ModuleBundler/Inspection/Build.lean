import ModuleBundler.Build
import ModuleBundler.Inspection.Basic

/-!
# Inspections of builds

## Main definitions

* `HookRegistry.inspection` — shows the hooks with their handlers.
* `Workshop.inspection` — shows what builds assets.
* `Bundler.inspection` — shows a build that has not been run.
-/

namespace ModuleBundler

open Inspection

/-! ### Hooks -/

/-- Shows a kind of hooks. -/
def HookKind.inspection : HookKind → Inspection
  | sync => word "Sync"
  | parallel => word "AsyncParallel"

/-- Shows a hook. -/
def HookPoint.inspection {σ : Type} (point : HookPoint σ) : Inspection :=
  record "HookPoint" true [
    ("kind", point.kind.inspection),
    ("signature", quotedAll point.signature),
    ("arg_type", quoted point.argument.name),
    ("taps", quotedAll point.handlers),
    ("fired", flag point.fired)]

/-- Shows the hooks with their handlers. -/
def HookRegistry.inspection {σ : Type} (registry : HookRegistry σ) : Inspection :=
  record "HookRegistry" true [
    ("points", table (registry.points.map fun (hook, point) => (hook, point.inspection)))]

/-- Shows what an emission works with. -/
def HookRegistry.emissionInspection {σ : Type} (registry : HookRegistry σ) : Inspection :=
  record "Emitter" false [("hooks", registry.inspection)]

/-! ### Rules and assets -/

/-- Shows a rule. -/
def Rule.inspection (rule : Rule) : Inspection :=
  record "TransformRule" true [
    ("test", wrapped "Regex" (quoted rule.test.text)),
    ("loaders", sequence (rule.loaders.map fun loader => wrapped "Loader" (quoted loader.name)))]

/-- Shows rules. -/
def Rule.inspectionOf (rules : List Rule) : Inspection :=
  sequence (rules.map Rule.inspection)

/-- Shows what hands out numbers. -/
def Numbering.inspection (numbering : Numbering) : Inspection :=
  record "IdAllocator" true [("next", word (toString numbering.allocated))]

/-- Shows what builds assets. -/
def Workshop.inspection (workshop : Workshop) (numbering : Numbering) : Inspection :=
  record "AssetBuilder" false [
    ("pipeline", record "TransformPipeline" true [("rules", Rule.inspectionOf workshop.rules)]),
    ("ids", numbering.inspection)]

/-! ### Builds -/

/-- Shows a way to treat a file that has been built. -/
def Reuse.inspection : Reuse → Inspection
  | onChain => word "Rebuild"
  | byPath => word "ByPath"

/-- Shows the options of a build. -/
def BuildOptions.inspection (options : BuildOptions) : Inspection :=
  record "BuildOptions" true [
    ("entry", path options.entry),
    ("output", path options.output),
    ("template", optionalPath options.template),
    ("dedupe", options.reuse.inspection),
    ("rules", Rule.inspectionOf options.rules)]

/-- Shows a build that has not been run, with its hooks. -/
def Bundler.inspection {σ : Type} (bundler : Bundler σ) (registry : HookRegistry σ) : Inspection :=
  record "Bundler" false [
    ("options", bundler.options.inspection),
    ("hooks", registry.inspection),
    ("plugins", sequence (bundler.plugins.map fun plugin => wrapped "Plugin" (quoted plugin.name)))]

end ModuleBundler
