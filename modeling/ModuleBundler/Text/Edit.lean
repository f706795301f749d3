/-!
# Edits

An edit replaces a stretch of a text. Edits that follow each other without overlap are carried out
in one pass; everything between them is copied.

## Main definitions

* `Text.Edit` — a replacement.
* `Text.splice` — a text with its edits carried out.
-/

namespace ModuleBundler.Text

/-- Replaces the characters from `start` up to, and without, `stop`. -/
structure Edit where
  start : Nat
  stop : Nat
  replacement : List Char
  deriving DecidableEq, Repr

/-- Carries out edits on the part of a text that starts at position `offset`. -/
def spliceFrom : Nat → List Edit → List Char → List Char
  | _, [], text => text
  | offset, edit :: edits, text =>
    text.take (edit.start - offset) ++ edit.replacement ++
      spliceFrom edit.stop edits (text.drop (edit.stop - offset))

/-- Carries out edits, which follow each other without overlap. -/
def splice (edits : List Edit) (text : List Char) : List Char :=
  spliceFrom 0 edits text

end ModuleBundler.Text
