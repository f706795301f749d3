import ModuleBundler.Cause
import ModuleBundler.Json.Printer
import ModuleBundler.Json.Reader
import ModuleBundler.Text.Placeholder

/-!
# Loaders

A loader makes another text out of the text of a file, or refuses it. Two loaders are built in; they
make a module out of a document and out of any text.

## Main definitions

* `Loader` — loaders by name.
* `Loader.json`, `Loader.plainText` — the built-in loaders.
-/

namespace ModuleBundler

/-- A loader with its name. -/
structure Loader where
  name : String
  run : String → Except Cause String

namespace Loader

/-- The module whose default export is the given value. -/
def moduleOf (value : Json) : String :=
  "export default " ++ String.ofList value.compact ++ ";\n"

/-- Makes the module whose default export is the value that the file writes. -/
def json : Loader where
  name := "json"
  run source :=
    match Json.read? source.toList with
    | some value => .ok (moduleOf value)
    | none => .error ⟨"invalid JSON document", [Text.detail]⟩

/-- Makes the module whose default export is the text of the file. -/
def plainText : Loader where
  name := "text"
  run source := .ok (moduleOf (.text source.toList))

end Loader

end ModuleBundler
