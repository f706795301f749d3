import ModuleBundler.Proofs.Asset.Mapping
import ModuleBundler.Rendering.Template

/-!
# Modules as data

The document that stands in place of a slot for data can be read back: it holds the modules in
order, each one with its number, all of its code and its mapping, and nothing else. So modules are
told apart by their documents, and assets are not if only their paths and specifiers differ.

## Main definitions

* `RenderedModule.ofJson?` — the module that a value stands for.
* `RenderedModule.readAll?` — the modules that a document holds.
* `Asset.Agrees` — assets that may have different paths and specifiers, but nothing else.
* `RenderedModule.Lossless` — what the document of modules is.

## Main results

* `RenderedModule.readAll?_moduleData` — modules are read back from their document.
* `RenderedModule.lossless` — nothing of the modules is lost, and nothing else is in the document.
-/

namespace ModuleBundler

namespace RenderedModule

variable {modules : List RenderedModule}

/-! ### Reading -/

/-- The module that a value stands for: an object with a number, a code and a mapping, and with no
other member. -/
def ofJson? : Json → Option RenderedModule
  | .object [(first, id), (second, .text code), (third, mapping)] =>
    if first = "id".toList ∧ second = "code".toList ∧ third = "mapping".toList then do
      return ⟨← AssetId.ofJson? id, String.ofList code, ← Mapping.ofJson? mapping⟩
    else none
  | _ => none

/-- The modules that a document holds. -/
def readAll? (text : List Char) : Option (List RenderedModule) :=
  match Json.read? text with
  | some (.array items) => items.mapM ofJson?
  | _ => none

/-- A module is read off its object. -/
theorem ofJson?_toJson (module : RenderedModule) : ofJson? module.toJson = some module := by
  simp [toJson, ofJson?, AssetId.ofJson?_integer, Mapping.ofJson?_toJson]

theorem readable_toJson {module : RenderedModule} (h : module.mapping.Distinct) (depth : Nat) :
    Json.Readable (depth + 2) module.toJson := by
  have hnames : ["id".toList, "code".toList, "mapping".toList].Nodup := by decide
  refine .object hnames fun member hmember => ?_
  simp only [List.mem_cons, List.not_mem_nil, or_false] at hmember
  obtain rfl | rfl | rfl := hmember
  · exact module.id.readable_integer _
  · exact .text _
  · exact Mapping.readable_toJson h depth

/-- **Modules are read back from their document.** -/
theorem readAll?_moduleData (h : ∀ module ∈ modules, module.mapping.Distinct) :
    readAll? (moduleData modules) = some modules := by
  have hread : Json.read? (moduleData modules) = some (.array (modules.map toJson)) := by
    refine Json.read?_pretty (.array (List.forall_mem_map.mpr fun module hmodule => ?_))
    exact readable_toJson (h module hmodule) _
  rw [readAll?, hread]
  exact mapM_map_eq_some ofJson?_toJson modules

end RenderedModule

/-! ### Assets -/

/-- Two assets that may have different paths and specifiers, but nothing else. -/
structure Asset.Agrees (asset other : Asset) : Prop where
  id : asset.id = other.id
  code : asset.code = other.code
  mapping : asset.mapping = other.mapping

theorem Asset.Agrees.rendered_eq {asset other : Asset} (h : asset.Agrees other) :
    asset.rendered = other.rendered := by
  rw [rendered, rendered, h.id, h.code, h.mapping]

theorem map_rendered_eq {assets others : List Asset} (h : List.Forall₂ Asset.Agrees assets others) :
    assets.map Asset.rendered = others.map Asset.rendered := by
  induction h with
  | nil => rfl
  | cons hasset _ ih => rw [List.map_cons, List.map_cons, hasset.rendered_eq, ih]

/-! ### Documents -/

namespace RenderedModule

variable {modules : List RenderedModule}

/-- What stands in place of a slot for data. -/
def dataText (modules : List RenderedModule) : List Char :=
  (Template.Piece.slot "data".toList).text modules

/-- A template that is nothing but a slot for data. -/
def dataTemplate : String :=
  "\x7b\x7b data \x7d\x7d"

theorem render_dataTemplate (h : modules ≠ []) :
    Template.render dataTemplate modules = .ok (String.ofList (dataText modules)) := by
  have hparse : Template.parse dataTemplate.toList = [.slot "data".toList] := rfl
  have hrefusal : Template.refusal? [.slot "data".toList] modules = none := by
    rw [Template.refusal?, if_neg (mt List.isEmpty_iff.mp h)]
    rfl
  rw [Template.render, hparse]
  simp only [hrefusal, List.flatMap_singleton, dataText]

/-- What the document of modules is. -/
structure Lossless (modules : List RenderedModule) : Prop where
  /-- A template that is nothing but the slot makes a bundle that is the document. -/
  rendered : Template.render dataTemplate modules = .ok (String.ofList (dataText modules))
  /-- The document holds the modules in order, each with its number, its code and its mapping. -/
  decodes : readAll? (dataText modules) = some modules
  /-- Modules with the same document are the same. -/
  injective : ∀ others : List RenderedModule, (∀ module ∈ others, module.mapping.Distinct) →
    dataText others = dataText modules → others = modules
  /-- Assets that these are the modules of have the same document as other ones that may have
  different paths and specifiers, but nothing else. -/
  pathless : ∀ assets others : List Asset, assets.map Asset.rendered = modules →
    List.Forall₂ Asset.Agrees assets others →
      dataText (others.map Asset.rendered) = dataText modules

/-- **Nothing of the modules is lost in their document**, and nothing else is in it. -/
theorem lossless (hne : modules ≠ []) (hdistinct : ∀ module ∈ modules, module.mapping.Distinct) :
    Lossless modules where
  rendered := render_dataTemplate hne
  decodes := readAll?_moduleData hdistinct
  injective others hothers hsame := by
    have hread : readAll? (dataText others) = some others := readAll?_moduleData hothers
    rw [hsame] at hread
    exact Option.some.inj (hread.symm.trans (readAll?_moduleData hdistinct))
  pathless assets others hassets hagree := by
    rw [← hassets, map_rendered_eq hagree]

/-- Two modules, one with blanks and quotes in its code and braces in a specifier, and one without
any text. -/
def bracketed : List RenderedModule :=
  [⟨.nth 0, "\"\x7b\t\"\n\n", [("\x7b\"", .nth 1), ("\\n", .nth 0)]⟩, ⟨.nth 1, "", []⟩]

theorem lossless_bracketed :
    bracketed ≠ [] ∧ (∀ module ∈ bracketed, module.mapping.Distinct) ∧ Lossless bracketed := by
  have hdistinct : ∀ module ∈ bracketed, module.mapping.Distinct := by
    simp [bracketed, Mapping.Distinct]
  have hne : bracketed ≠ [] := List.cons_ne_nil _ _
  exact ⟨hne, hdistinct, lossless hne hdistinct⟩

end RenderedModule

end ModuleBundler
