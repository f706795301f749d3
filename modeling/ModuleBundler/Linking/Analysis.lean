import ModuleBundler.Linking.Group
import ModuleBundler.Script.Program
import ModuleBundler.Text.Placeholder

/-!
# Linking a module

A module is *analyzed*: the specifiers that it refers to are listed, and its imports and exports are
replaced, so that its code can run as the body of a function with the parameters `require`, `module`
and `exports`. Nothing but the import and export declarations changes.

The linked code must be the body of such a function, which is checked by reading the function as a
script.

## Main definitions

* `Linking.Analysis`, `Linking.AnalysisError` — the result of an analysis.
* `Linking.linkedCode` — the code of a module after its items are replaced.
* `Linking.analyze` — the analysis of a source.
-/

namespace ModuleBundler.Linking

open Script Text

/-- The specifiers that a module refers to, repetitions included, and its linked code. -/
structure Analysis where
  specifiers : List String
  code : String
  deriving DecidableEq, Repr, Inhabited

/-- Why a source cannot be linked. -/
inductive AnalysisError where
  /-- The source is no module. -/
  | malformed (fault : Fault)
  /-- An import asks for another way of loading. -/
  | importPhase (line : Nat)
  /-- The linked code is no body of a function. -/
  | unlinkable (fault : Fault)
  deriving DecidableEq, Repr

/-- The text of an error. -/
def AnalysisError.message : AnalysisError → String
  | malformed _ => s!"syntax error: {detail}"
  | importPhase line => s!"unsupported import phase at line {line}"
  | unlinkable _ => s!"module cannot run as a bundled factory: {detail}"

/-! ### The linked code -/

/-- The assignment of a deferred export. -/
def deferredAssignment (entry : ExportedName) : Insertion :=
  .assign entry.exported (.name entry.localName)

/-- The assignments of deferred exports, one on a line. -/
def deferredAssignments (names : List ExportedName) : List Char :=
  names.flatMap fun entry => (deferredAssignment entry).text ++ ['\n']

/-- Code with deferred exports behind it, which start on a line of their own. -/
def withDeferred (code : List Char) (names : List ExportedName) : List Char :=
  let separator := if names = [] ∨ code = [] ∨ code.getLast? = some '\n' then [] else ['\n']
  code ++ separator ++ deferredAssignments names

/-- The code of a module after its items are replaced. -/
def linkedCode (source : List Char) (group : Group) : List Char :=
  withDeferred (splice group.edits source) group.deferred

/-- The head of the function whose body linked code is. -/
def factoryHead : List Char :=
  "(function (require, module, exports) \x7b\n".toList

/-- The function whose body is the given code, as a script. -/
def factory (code : List Char) : List Char :=
  factoryHead ++ code ++ "\n\x7d);".toList

/-! ### The analysis -/

/-- The position of the first import that asks for another way of loading. -/
def phasedImport? : List Item → Option Nat
  | [] => none
  | .importing declaration :: items =>
    if declaration.phase.isSome then some declaration.span.start else phasedImport? items
  | _ :: items => phasedImport? items

/-- The number of the line that a position is on. -/
def lineAt (source : List Char) (position : Nat) : Nat :=
  (source.take position).count '\n' + 1

/-- The analysis of a source as a list of characters. -/
def analyzeChars (source : List Char) : Except AnalysisError (List Name × List Char) := do
  let items ← (parseModule source).mapError .malformed
  if let some position := phasedImport? items then throw (.importPhase (lineAt source position))
  let group := groups 0 items
  let code := linkedCode source group
  let _ ← (parseScript (factory code)).mapError .unlinkable
  return (group.specifiers, code)

/-- The analysis of a source. -/
def analyze (source : String) : Except AnalysisError Analysis := do
  let (specifiers, code) ← analyzeChars source.toList
  return ⟨specifiers.map String.ofList, String.ofList code⟩

end ModuleBundler.Linking
