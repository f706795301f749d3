import ModuleBundler.Path.Basic
import ModuleBundler.Text.Inspected

/-!
# Inspections

An inspection shows the state of a part of the program on one line: records with their fields,
sequences, tables, and inspected texts.

## Main definitions

* `Inspection` — what is shown of a value.
* `Inspection.text` — an inspection as text.
-/

namespace ModuleBundler

/-- What is shown of a value. A record that is not `complete` has fields that are not shown. -/
inductive Inspection where
  | word (text : String)
  | quoted (text : String)
  | path (path : Path)
  | sequence (items : List Inspection)
  | table (entries : List (String × Inspection))
  | wrapped (name : String) (item : Inspection)
  | record (name : String) (complete : Bool) (fields : List (String × Inspection))

namespace Inspection

open Text

/-- Texts with commas between them. -/
def listed (texts : List (List Char)) : List Char :=
  List.intercalate [',', ' '] texts

mutual

/-- An inspection as text. -/
def text : Inspection → List Char
  | word shown => shown.toList
  | quoted shown => Inspected.quote shown.toList
  | path shown => Inspected.quotePath shown.chars
  | sequence items => '[' :: listed (texts items) ++ [']']
  | table entries => '\x7b' :: listed (entryTexts entries) ++ ['\x7d']
  | wrapped name item => name.toList ++ '(' :: text item ++ [')']
  | record name complete fields =>
    let shown := fieldTexts fields ++ if complete then [] else [['.', '.']]
    name.toList ++ ' ' :: '\x7b' :: ' ' :: listed shown ++ [' ', '\x7d']

/-- The items of a sequence as texts. -/
def texts : List Inspection → List (List Char)
  | [] => []
  | item :: items => text item :: texts items

/-- The entries of a table as texts. -/
def entryTexts : List (String × Inspection) → List (List Char)
  | [] => []
  | (key, item) :: entries =>
    (Inspected.quote key.toList ++ ':' :: ' ' :: text item) :: entryTexts entries

/-- The fields of a record as texts. -/
def fieldTexts : List (String × Inspection) → List (List Char)
  | [] => []
  | (field, item) :: fields => (field.toList ++ ':' :: ' ' :: text item) :: fieldTexts fields

end

/-- An inspection as a string. -/
def toString (inspection : Inspection) : String :=
  String.ofList inspection.text

instance : ToString Inspection :=
  ⟨toString⟩

/-- A flag. -/
def flag (value : Bool) : Inspection :=
  word (if value then "true" else "false")

/-- Texts in order. -/
def quotedAll (texts : List String) : Inspection :=
  sequence (texts.map quoted)

/-- A path that may be absent. -/
def optionalPath : Option Path → Inspection
  | none => word "None"
  | some shown => wrapped "Some" (path shown)

end Inspection

end ModuleBundler
