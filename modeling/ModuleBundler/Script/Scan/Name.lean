import ModuleBundler.Script.Scan.Escape
import ModuleBundler.Text.CharClass

/-!
# Names

A name starts with a letter, a dollar sign or a low line, and goes on with letters, marks, digits
and joiners. Each of its characters may be written as a unicode escape.

## Main definitions

* `Script.isNameStart`, `Script.isNamePart` — the characters of names.
* `Script.scanName` — the name at the start of a text.
-/

namespace ModuleBundler.Script

/-- Can the character start a name? -/
def isNameStart (c : Char) : Bool :=
  Text.isIdentifierStart c || c == '$' || c == '_'

/-- Can the character stand inside a name? -/
def isNamePart (c : Char) : Bool :=
  Text.isIdentifierPart c || c == '$'

/-- A name that was read: its decoded characters, the text behind it and whether one of them was
escaped. -/
structure ScannedName where
  name : Name
  rest : List Char
  escaped : Bool

/-- Puts a character in front of a name that was read. -/
def ScannedName.after (tail : ScannedName) (c : Char) (escaped : Bool) : ScannedName :=
  ⟨c :: tail.name, tail.rest, escaped || tail.escaped⟩

/-- The character that an escape in a name stands for, and the number of characters of the escape
without the backslash. -/
def nameEscape? (isAllowed : Char → Bool) : List Char → Option (Char × Nat)
  | 'u' :: cs =>
    match unicodeEscape? cs with
    | some ⟨[n], length⟩ => if isAllowed (Char.ofNat n) then some (Char.ofNat n, length) else none
    | _ => none
  | _ => none

/-- Reads the characters of a name behind its first one. The first `skip` characters belong to an
escape that was read. -/
def nameTail : (skip : Nat) → List Char → Option ScannedName
  | _, [] => some ⟨[], [], false⟩
  | skip + 1, _ :: cs => nameTail skip cs
  | 0, '\\' :: cs =>
    match nameEscape? isNamePart cs with
    | some (c, length) => (nameTail length cs).map (·.after c true)
    | none => none
  | 0, c :: cs =>
    if isNamePart c then (nameTail 0 cs).map (·.after c false) else some ⟨[], c :: cs, false⟩

/-- Reads a name. -/
def scanName : List Char → Option ScannedName
  | '\\' :: cs =>
    match nameEscape? isNameStart cs with
    | some (c, length) => (nameTail length cs).map (·.after c true)
    | none => none
  | c :: cs => if isNameStart c then (nameTail 0 cs).map (·.after c false) else none
  | [] => none

end ModuleBundler.Script
