import ModuleBundler.Asset
import ModuleBundler.Json.Printer

/-!
# Tables of modules

What is rendered of an asset is its number, its code and its mapping; the path of its file stays out
of the bundle. Modules are written as a table, in which the code of each is the body of a function,
or as data.

## Main definitions

* `RenderedModule` — what is rendered of an asset.
* `moduleTable` — modules as a table.
* `moduleData` — modules as data.
-/

namespace ModuleBundler

open Text

/-- What is rendered of an asset. -/
structure RenderedModule where
  id : AssetId
  code : String
  mapping : Mapping
  deriving DecidableEq, Repr

/-- What is rendered of an asset. -/
def Asset.rendered (asset : Asset) : RenderedModule :=
  ⟨asset.id, asset.code, asset.mapping⟩

/-- A mapping as an object. -/
def Mapping.toJson (mapping : Mapping) : Json :=
  .object (mapping.map fun (specifier, id) => (specifier.toList, .integer id.index))

/-- A text without the blanks at its end. -/
def trimEnd (text : List Char) : List Char :=
  (text.reverse.dropWhile isBlank).reverse

namespace RenderedModule

/-- What stands in front of the code of a module in a table. -/
def head : List Char :=
  ": [\n    function (require, module, exports) \x7b\n".toList

/-- The entry of a module in a table. -/
def tableEntry (module : RenderedModule) : List Char :=
  "  ".toList ++ module.id.text ++ head ++ trimEnd module.code.toList ++
    "\n    \x7d,\n    ".toList ++ module.mapping.toJson.compact ++ ",\n  ],\n".toList

/-- A module as an object. -/
def toJson (module : RenderedModule) : Json :=
  .object [
    ("id".toList, .integer module.id.index),
    ("code".toList, .text module.code.toList),
    ("mapping".toList, module.mapping.toJson)]

end RenderedModule

/-- Modules as a table, without blanks at its end. -/
def moduleTable (modules : List RenderedModule) : List Char :=
  trimEnd (modules.flatMap RenderedModule.tableEntry)

/-- Modules as data. -/
def moduleData (modules : List RenderedModule) : List Char :=
  (Json.array (modules.map RenderedModule.toJson)).pretty

end ModuleBundler
