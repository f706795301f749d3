import ModuleBundler.Proofs.Build
import ModuleBundler.Proofs.Except
import ModuleBundler.Proofs.Graph.Numbers
import ModuleBundler.Proofs.Rendering.StandardBundle

/-!
# Bundles of standard builds

A build without a template of its own writes a standard bundle. If the code of every asset stays
inside of its function, then the bundle is a script that calls the runtime with one property for each
asset, in the order of their numbers. The code does so if the module is accepted and what is kept of
it is set apart, by `exists_enclosed_of_setApart`. That the module is accepted is not enough. A slash
that starts a regular expression in the module may be a division in the function that is made of it,
and then a brace behind it closes this function.

## Main definitions

* `IsStandardCall` — a text is the call of a runtime with the properties of modules.
* `Bundler.IsStandard` — builds that render with the standard template.
* `Bundler.Calls` — what a standard build has written.

## Main results

* `Bundler.calls_of_finished` — what a standard build writes.
* `Bundler.exists_not_isStandardCall` — an accepted module whose code gets out of its function.
-/

namespace ModuleBundler

open Json Linking Script

/-- The text is a script with one statement: a function is called with an object literal that has
one property for each module, whose functions have the given statements. -/
def IsStandardCall (modules : List RenderedModule) (bodies : List (List Node)) (text : String) :
    Prop :=
  ∃ runtime, parseScript text.toList =
    .ok [bundleTree runtime (RenderedModule.properties modules bodies)]

/-- The number of elements in the value of the first property of the object literal with which a
function is called. -/
def firstValueSize : Except Fault (List Node) → Nat
  | .ok [.mk .expressionStatement [.mk .call [_, .mk (.arguments _) [.mk (.object _)
      (.mk (.member _ _) [_, .mk (.array _) elements] :: _)]]]] => elements.length
  | _ => 0

/-- No value has more than two elements. -/
theorem IsStandardCall.firstValueSize_le {modules : List RenderedModule}
    {bodies : List (List Node)} {text : String} (h : IsStandardCall modules bodies text) :
    firstValueSize (parseScript text.toList) ≤ 2 := by
  obtain ⟨runtime, hparse⟩ := h
  rw [hparse]
  cases modules with
  | nil => exact Nat.zero_le 2
  | cons module modules =>
    cases bodies with
    | nil => exact Nat.zero_le 2
    | cons nodes bodies => exact Nat.le_refl 2

namespace Bundler

variable {σ : Type} {bundler : Bundler σ} {world : World σ} {patience : Nat} {output : BuildOutput}
  {bodies : List (List Node)}

/-- A build that renders modules, which it finds from an absolute directory, with the standard
template. -/
structure IsStandard (bundler : Bundler σ) : Prop where
  directory : bundler.workingDirectory.isAbsolute
  renderer : bundler.renderer = Template.render
  template : bundler.options.template = none

/-- A build writes the standard bundle of its assets. -/
theorem Production.text_eq (hstandard : bundler.IsStandard)
    (production : bundler.Production world) : production.assets ≠ [] ∧
      production.text = String.ofList
        (Template.standardBundle (production.assets.map Asset.rendered)) := by
  obtain ⟨hgathers, htemplate, hrenders⟩ := production.renders
  rw [readTemplate, hstandard.template] at htemplate
  have hstandardTemplate : Template.standard = production.template := Except.ok.inj htemplate
  rw [renderModules, hstandard.renderer, ← hstandardTemplate] at hrenders
  by_cases hne : production.assets = []
  · rw [hne] at hrenders
    cases hrenders
  · have hmodules : production.assets.map Asset.rendered ≠ [] := mt List.map_eq_nil_iff.mp hne
    rw [Template.render_standard hmodules] at hrenders
    exact ⟨hne, (Except.ok.inj hrenders).symm⟩

/-- What a standard build has written, and the call that it is. -/
structure Calls (bodies : List (List Node)) (output : BuildOutput)
    (production : bundler.Production world) : Prop where
  made : output = ⟨production.assets, production.summary⟩
  /-- The assets are numbered in their order. -/
  ids : output.assets.map Asset.id = (List.range output.assets.length).map AssetId.nth
  /-- The code of each asset stands in the table as it is, without the blanks at its end. -/
  text : production.text =
    String.ofList (Template.standardBundle (output.assets.map Asset.rendered))
  /-- The text is a call with one property for each asset. -/
  call : IsStandardCall (output.assets.map Asset.rendered) bodies production.text

/-- **What a standard build writes.** If the code of every asset stays inside of its function, the
bundle calls the runtime with an object literal that has exactly one property for each asset, in the
order of their numbers. -/
theorem calls_of_finished (hstandard : bundler.IsStandard)
    (h : ((bundler.run patience).run world).value.1 = .ok (.finished output))
    (hbodies : List.Forall₂ (fun asset nodes => Enclosed (trimEnd asset.code.toList) nodes)
      output.assets bodies) :
    ∃ production : bundler.Production world, Calls bodies output production := by
  obtain ⟨production, -, rfl⟩ := run_eq_finished_iff.mp h
  obtain ⟨hne, htext⟩ := production.text_eq hstandard
  obtain ⟨runtimeNode, hruntime, hsettled, hspread⟩ :=
    Template.exists_writesFunction Template.isFunction_runtime
  have hmodules : production.assets.map Asset.rendered ≠ [] := mt List.map_eq_nil_iff.mp hne
  have hholds : List.Forall₂ RenderedModule.Holds (production.assets.map Asset.rendered) bodies :=
    List.forall₂_map_left_iff.mpr hbodies
  have hparse := parseScript_standardBundle hruntime hsettled hspread hholds hmodules
  have hids := Workshop.map_id_of_graph_eq_ok hstandard.directory production.renders.graph
  refine ⟨production, rfl, hids, htext, runtimeNode, ?_⟩
  rewrite [htext, String.toList_ofList]
  exact hparse

/-! ### Builds of one file -/

/-- A build of one file with the standard template. -/
def lone : Bundler Unit :=
  .ofOptions (.ofEntry (.ofString "/m.js")) .root

theorem isStandard_lone : lone.IsStandard :=
  ⟨rfl, rfl, rfl⟩

/-- Where the file has the given text. -/
def loneWorld (text : String) : World Unit :=
  ⟨(HookM.declareEmission.run ⟨.empty, .ofState ()⟩).value.2,
    .memory (.ofList [(.ofString "/m.js", text)])⟩

/-- The build is successful if its file can be linked and rendered. -/
theorem exists_run_lone {text bundle : String} {assets : List Asset}
    (hgraph : (lone.graph (loneWorld text).storage).result.toOption = some assets)
    (hrender : Template.render Template.standard (assets.map Asset.rendered) = .ok bundle) :
    ∃ output, ((lone.run 1).run (loneWorld text)).value.1 = .ok (.finished output) ∧
      output.assets = assets := by
  have hrenders : renderModules Template.render Template.standard (assets.map Asset.rendered) =
      .ok bundle := congrArg (Except.mapError _) hrender
  let production : lone.Production (loneWorld text) := {
    prepared := (loneWorld text).session
    assets := assets
    template := Template.standard
    text := bundle
    path := defaultOutputPath
    session := _
    storage := _
    renders := ⟨⟨rfl, Except.toOption_eq_some_iff.mp hgraph⟩, rfl, hrenders⟩
    chooses := rfl
    writes := rfl }
  exact ⟨⟨assets, production.summary⟩, run_eq_finished_iff.mpr ⟨production, rfl, rfl⟩, rfl⟩

/-- The text of a module that imports itself. -/
def selfImport : String :=
  "import './m.js';\nf(\"\x7d\");\n\n"

/-- Its asset. -/
def selfAsset : Asset :=
  ⟨.nth 0, .ofString "/m.js", "require(\"./m.js\");\nf(\"\x7d\");\n\n", ["./m.js"],
    [("./m.js", .nth 0)]⟩

/-- A call of a name with a text. -/
def callTree (name argument : String) : Node :=
  .mk .expressionStatement [.mk .call [nameTree name.toList,
    .mk (.arguments false) [textLiteral argument.toList]]]

/-- Its statements. -/
def selfBody : List Node :=
  [callTree "require" "./m.js", callTree "f" "\x7d"]

/-- A brace in a string does not close the function. -/
theorem calls_of_finished_selfImport : lone.IsStandard ∧
    List.Forall₂ (fun asset nodes => Enclosed (trimEnd asset.code.toList) nodes) [selfAsset]
      [selfBody] ∧
    ∃ output, ((lone.run 1).run (loneWorld selfImport)).value.1 = .ok (.finished output) ∧
      output.assets = [selfAsset] ∧
      ∃ production : lone.Production (loneWorld selfImport), Calls [selfBody] output production := by
  have hgraph : (lone.graph (loneWorld selfImport).storage).result.toOption = some [selfAsset] := by
    decide +kernel
  have hbodies : List.Forall₂ (fun asset nodes => Enclosed (trimEnd asset.code.toList) nodes)
      [selfAsset] [selfBody] := .cons ⟨rfl, rfl⟩ .nil
  obtain ⟨output, hrun, hassets⟩ :=
    exists_run_lone hgraph (Template.render_standard (List.cons_ne_nil _ _))
  exact ⟨isStandard_lone, hbodies, output, hrun, hassets,
    calls_of_finished isStandard_lone hrun (hassets ▸ hbodies)⟩

/-- The text of a module that gets out of its function: behind a name, a slash divides. -/
def breakout : String :=
  "await /\"[\"\x7d,function()\x7b\"]\"/g"

/-- Its asset. -/
def breakoutAsset : Asset :=
  ⟨.nth 0, .ofString "/m.js", breakout, [], []⟩

/-- **A module that is accepted may get out of its function**: its code closes the function in the
table and opens another one, so that the value of its property has three elements. -/
theorem exists_not_isStandardCall : lone.IsStandard ∧ lone.analyzer = .modules ∧
    ∃ output, ((lone.run 1).run (loneWorld breakout)).value.1 = .ok (.finished output) ∧
      output.assets = [breakoutAsset] ∧
      ∀ (production : lone.Production (loneWorld breakout)) (bodies : List (List Node)),
        ¬IsStandardCall (output.assets.map Asset.rendered) bodies production.text := by
  have hgraph : (lone.graph (loneWorld breakout).storage).result.toOption =
      some [breakoutAsset] := by decide +kernel
  have hsize : firstValueSize (parseScript
      (Template.standardBundle ([breakoutAsset].map Asset.rendered))) = 3 := by decide +kernel
  obtain ⟨output, hrun, hassets⟩ :=
    exists_run_lone hgraph (Template.render_standard (List.cons_ne_nil _ _))
  refine ⟨isStandard_lone, rfl, output, hrun, hassets, fun production bodies h => ?_⟩
  obtain ⟨-, htext⟩ := production.text_eq isStandard_lone
  have hsame : production.assets = [breakoutAsset] :=
    Except.ok.inj (production.renders.graph.symm.trans (Except.toOption_eq_some_iff.mp hgraph))
  have hle := h.firstValueSize_le
  rewrite [htext, String.toList_ofList, hsame, hsize] at hle
  exact absurd hle (by decide)

end Bundler

end ModuleBundler
