import ModuleBundler.Association
import ModuleBundler.Linking.Analysis
import ModuleBundler.Loading.Rule
import ModuleBundler.Path.Canonical
import ModuleBundler.Storage.Basic

/-!
# Assets

An asset is a file of the bundle: read, transformed by the rules, analyzed, and given a number. The
numbers of one build start at zero and are given to files that were built successfully only.

## Main definitions

* `AssetId`, `Numbering` — numbers of assets, and what hands them out.
* `Asset` — assets.
* `Analyzer`, `Workshop` — what is needed to build assets.
* `Workshop.build` — builds the asset for a file.
-/

namespace ModuleBundler

/-! ### Numbers -/

/-- The number of an asset. -/
structure AssetId where
  number : UInt32
  deriving DecidableEq, Repr

namespace AssetId

/-- The number of the first asset of a build. -/
def entry : AssetId :=
  ⟨0⟩

/-- The position of the asset among the assets of its build. -/
def index (id : AssetId) : Nat :=
  id.number.toNat

/-- The number in digits. -/
def text (id : AssetId) : List Char :=
  Nat.toDigits 10 id.index

instance : ToString AssetId :=
  ⟨fun id => String.ofList id.text⟩

end AssetId

/-- Hands out numbers in order; `allocated` of them have been handed out. -/
structure Numbering where
  allocated : UInt32
  deriving DecidableEq, Repr

namespace Numbering

/-- No number has been handed out. -/
def start : Numbering :=
  ⟨0⟩

/-- The next number, and what hands out the ones behind it. -/
def next (numbering : Numbering) : AssetId × Numbering :=
  (⟨numbering.allocated⟩, ⟨numbering.allocated + 1⟩)

end Numbering

/-! ### Assets -/

/-- The assets that specifiers refer to, in the order in which the specifiers first occur. -/
abbrev Mapping := List (String × AssetId)

namespace Mapping

/-- A mapping with another asset for a specifier, in place of the one that it referred to. -/
def insert (specifier : String) (id : AssetId) (mapping : Mapping) : Mapping :=
  Association.put specifier id mapping

end Mapping

/-- A file of the bundle. The specifiers are those that its code refers to, repetitions included. -/
structure Asset where
  id : AssetId
  path : Path
  code : String
  specifiers : List String
  mapping : Mapping
  deriving DecidableEq, Repr

/-- The directory that the specifiers of the file at a path are relative to. -/
def Path.directory (path : Path) : Path :=
  path.parent?.getD Path.root

/-- The path that a specifier in the file at a path refers to. -/
def Path.resolve (importer : Path) (specifier : String) : Path :=
  (importer.directory.join (Path.ofString specifier)).normalize

/-! ### Building assets -/

/-- Analyzes the source of the file at a path. -/
abbrev Analyzer := Path → String → Traced (Except Cause Linking.Analysis)

/-- The analyzer for modules. -/
def Analyzer.modules : Analyzer := fun path source =>
  match Linking.analyze source with
  | .ok analysis => do
    Traced.log .trace .analysis s!"Analyzed {path}: {analysis.specifiers.length} import(s)"
    return .ok analysis
  | .error error => return .error (.ofMessage error.message)

/-- What is needed to build assets. -/
structure Workshop where
  storage : Storage
  rules : List Rule
  analyzer : Analyzer

namespace Workshop

/-- Reads, transforms and analyzes the file at a path. -/
def prepare (workshop : Workshop) (path : Path) : Attempt Linking.Analysis := do
  let source ← Attempt.ofResult (.unreadable path) (workshop.storage.read path)
  let source ← Rule.transform workshop.rules path source
  Attempt.ofResult (.malformed path) (workshop.analyzer path source)

/-- Builds the asset for the file at a path, under the next number. -/
def build (workshop : Workshop) (numbering : Numbering) (path : Path) :
    Attempt (Asset × Numbering) := do
  let analysis ← workshop.prepare path
  let (id, numbering) := numbering.next
  Attempt.log .debug .asset
    s!"Built asset {id} for {path} with {analysis.specifiers.length} dependencies"
  return (⟨id, path, analysis.code, analysis.specifiers, []⟩, numbering)

end Workshop

end ModuleBundler
