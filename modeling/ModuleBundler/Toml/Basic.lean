import ModuleBundler.Association

/-!
# Documents of tables

A document is a table: values under keys, which may be tables and arrays in turn. It is written as a
list of statements. A statement puts a value under a key, or it is the header that names the table
for the statements behind it. How a table came to be decides what may still be added to it.

Numbers, truth values and dates are not told apart: what reads documents here has no use for them.

## Main definitions

* `Toml`, `TableForm` — values, and how tables come to be.
* `Toml.define`, `Toml.append`, `Toml.assign` — what statements do.
* `Toml.Statement`, `Toml.build` — statements and the document that they write.
-/

namespace ModuleBundler

/-- How a table came to be. -/
inductive TableForm where
  /-- It is written in braces. Nothing can be added to it. -/
  | closed
  /-- The headers of other tables pass through it. -/
  | passed
  /-- Dotted keys pass through it. -/
  | dotted
  /-- It has a header of its own. -/
  | headed
  deriving DecidableEq, Repr

/-- May a dotted key with so many more parts lead into a table? It ends only in tables that dotted
keys made, and passes only through those that have no header of their own. -/
def TableForm.admits (parts : Nat) : TableForm → Bool
  | .dotted => true
  | .passed => 1 < parts
  | .closed | .headed => false

/-- A value of a document. An array is `growing` if each of its tables has a header. -/
inductive Toml where
  | text (chars : List Char)
  | scalar
  | array (growing : Bool) (items : List Toml)
  | table (form : TableForm) (entries : List (List Char × Toml))

namespace Toml

/-- A key of a table. -/
abbrev Key := List Char

/-- The values of a table under their keys. -/
abbrev Entries := List (Key × Toml)

/-! ### What statements do -/

/-- Changes the last table of an array. -/
def changeLast (change : Entries → Option Entries) : List Toml → Option (List Toml)
  | [] => none
  | [table form entries] => (change entries).map fun entries => [table form entries]
  | [_] => none
  | item :: items => (changeLast change items).map fun items => item :: items

/-- Changes the table under a key, as a header passes through it. -/
def pass (key : Key) (change : Entries → Option Entries) (entries : Entries) : Option Entries :=
  match entries.lookup key with
  | none => (change []).map fun inner => Association.put key (table .passed inner) entries
  | some (table .closed _) => none
  | some (table form inner) =>
    (change inner).map fun inner => Association.put key (table form inner) entries
  | some (array true items) =>
    (changeLast change items).map fun items => Association.put key (array true items) entries
  | some _ => none

/-- Changes the table that keys lead to. -/
def passAll (change : Entries → Option Entries) : List Key → Entries → Option Entries
  | [], entries => change entries
  | key :: keys, entries => pass key (passAll change keys) entries

/-- Gives a table its header. No table has two. -/
def define : List Key → Entries → Option Entries
  | [], _ => none
  | [key], entries =>
    match entries.lookup key with
    | none => some (Association.put key (table .headed []) entries)
    | some (table .passed inner) => some (Association.put key (table .headed inner) entries)
    | some _ => none
  | key :: keys, entries => pass key (define keys) entries

/-- Adds a table to a growing array. -/
def append : List Key → Entries → Option Entries
  | [], _ => none
  | [key], entries =>
    match entries.lookup key with
    | none => some (Association.put key (array true [table .headed []]) entries)
    | some (array true items) =>
      some (Association.put key (array true (items ++ [table .headed []])) entries)
    | some _ => none
  | key :: keys, entries => pass key (append keys) entries

/-- Puts a value under a dotted key. No key has two values. -/
def assign (value : Toml) : List Key → Entries → Option Entries
  | [], _ => none
  | [key], entries =>
    match entries.lookup key with
    | none => some (Association.put key value entries)
    | some _ => none
  | key :: keys, entries =>
    match entries.lookup key with
    | none =>
      (assign value keys []).map fun inner => Association.put key (table .dotted inner) entries
    | some (table form inner) =>
      if form.admits keys.length then
        (assign value keys inner).map fun inner => Association.put key (table form inner) entries
      else none
    | some _ => none

/-! ### Statements -/

/-- A statement of a document. -/
inductive Statement where
  /-- The header of a table. -/
  | header (keys : List Key)
  /-- The header of a table in a growing array. -/
  | itemHeader (keys : List Key)
  | entry (keys : List Key) (value : Toml)

/-- A document up to a statement: its entries, and the keys that lead to the current table. -/
structure Draft where
  entries : Entries
  current : List Key

/-- A document with one more statement. -/
def Draft.add (draft : Draft) : Statement → Option Draft
  | .header keys => (define keys draft.entries).map fun entries => ⟨entries, keys⟩
  | .itemHeader keys => (append keys draft.entries).map fun entries => ⟨entries, keys⟩
  | .entry keys value =>
    (passAll (assign value keys) draft.current draft.entries).map fun entries =>
      { draft with entries }

/-- The document that statements write. -/
def build (statements : List Statement) : Option Entries :=
  (statements.foldlM Draft.add ⟨[], []⟩).map Draft.entries

end Toml

end ModuleBundler
