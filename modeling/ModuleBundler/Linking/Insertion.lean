import ModuleBundler.Linking.Member
import ModuleBundler.Text.Edit

/-!
# What stands in place of an item

Linking puts statements of its own into a module: declarations of constants, assignments to exports
and calls. They are few in kind, and each of them ends itself with a semicolon; only a default
export is written in two parts around the text that it keeps.

## Main definitions

* `Linking.Value`, `Linking.Target` — the values that are assigned, and what constants are declared.
* `Linking.Insertion` — a statement that linking inserts.
* `Linking.Replacement` — a stretch of the source and the statements in its place.
-/

namespace ModuleBundler.Linking

open Script Text

/-- A value in linked code. -/
inductive Value where
  /-- The value of a name of the module itself. -/
  | name (localName : Name)
  /-- The value of a temporary constant. -/
  | temporary (index : Nat)
  /-- The exports of another module, which is loaded by this. -/
  | required (specifier : Name)
  | member (object : Value) (property : Name)
  deriving DecidableEq, Repr

/-- The text of a value. -/
def Value.text : Value → List Char
  | name localName => localName
  | temporary index => Linking.temporary index
  | required specifier => require specifier
  | member object property => Linking.member object.text property

/-- What a constant declaration declares: one name, a temporary one, or those of a pattern. -/
inductive Target where
  | name (localName : Name)
  | temporary (index : Nat)
  | pattern (entries : List ImportedName)
  deriving DecidableEq, Repr

/-- The text of a target. -/
def Target.text : Target → List Char
  | name localName => localName
  | temporary index => Linking.temporary index
  | pattern entries => destructuring entries

/-- A statement that linking inserts, or a part of one. -/
inductive Insertion where
  /-- A value as a statement. -/
  | evaluate (value : Value)
  | declare (target : Target) (value : Value)
  | assign (exported : Name) (value : Value)
  /-- Copies all exports of another module but its default. -/
  | copyAll (specifier : Name)
  /-- What stands in front of the value that a module exports as its default. -/
  | openDefault
  /-- What ends such a value where it has no end of its own. -/
  | closeDefault
  deriving DecidableEq, Repr

/-- The statement that copies all exports of another module but its default. -/
def copyAllText (specifier : Name) : List Char :=
  "(function (m) \x7b for (var k in m) if (k !== \"default\") exports[k] = m[k]; \x7d)(".toList ++
    require specifier ++ ");".toList

/-- The text of a statement. -/
def Insertion.text : Insertion → List Char
  | evaluate value => value.text ++ [';']
  | declare target value => constant target.text value.text
  | assign exported value => assignExport exported value.text
  | copyAll specifier => copyAllText specifier
  | openDefault => member exportsObject Script.defaultName ++ " = ".toList
  | closeDefault => [';']

/-- Statements in place of a stretch of the source. -/
structure Replacement where
  span : Span
  insertions : List Insertion
  deriving DecidableEq, Repr

/-- The replacement as an edit: the statements stand on one line. -/
def Replacement.edit (replacement : Replacement) : Edit where
  start := replacement.span.start
  stop := replacement.span.stop
  replacement := List.intercalate [' '] (replacement.insertions.map Insertion.text)

end ModuleBundler.Linking
