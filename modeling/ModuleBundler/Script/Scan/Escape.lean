import ModuleBundler.Script.Scan.Trivia
import ModuleBundler.Text.CodePoint

/-!
# Escapes

An escape stands for a code point, for nothing (a line break behind a backslash), or for half of a
surrogate pair. Texts are therefore read as lists of code points first; afterwards adjacent halves
are joined, and what is still half of a pair makes the text ill formed.

## Main definitions

* `Script.unicodeEscape?` — the escapes that name a code point by its number.
* `Script.textEscape?` — all escapes of a string or template.
* `Script.textOfPoints` — the characters that a list of code points denotes.
-/

namespace ModuleBundler.Script

open Text

/-- An escape that was read: the code points it stands for and the number of its characters without
the backslash. -/
structure Escape where
  points : List Nat
  length : Nat

/-- Reads what follows the letter `u` of an escape. -/
def unicodeEscape? : List Char → Option Escape
  | '{' :: cs =>
    let digits := cs.takeWhile isHexDigit
    match cs.drop digits.length with
    | '}' :: _ =>
      if digits ≠ [] ∧ hexNumber digits ≤ 0x10FFFF then
        some ⟨[hexNumber digits], digits.length + 3⟩
      else none
    | _ => none
  | a :: b :: c :: d :: _ =>
    if [a, b, c, d].all isHexDigit then some ⟨[hexNumber [a, b, c, d]], 5⟩ else none
  | _ => none

/-- Is the character an octal digit? -/
def isOctalDigit (c : Char) : Bool :=
  '0' ≤ c && c ≤ '7'

/-- The characters of an octal escape: up to three digits, at most two when the first is above
`3`. -/
def octalDigits (cs : List Char) : List Char :=
  match cs.take 3 |>.takeWhile isOctalDigit with
  | [a, b, c] => if a ≤ '3' then [a, b, c] else [a, b]
  | digits => digits

/-- The characters that a one-letter escape stands for. -/
def letterEscape (c : Char) : Nat :=
  match c with
  | 'n' => 0xA
  | 't' => 0x9
  | 'r' => 0xD
  | 'b' => 0x8
  | 'v' => 0xB
  | 'f' => 0xC
  | _ => c.toNat

/-- Reads what follows a backslash in a string, or in a template when `octal` is not allowed. -/
def textEscape? (octal : Bool) : List Char → Option Escape
  | [] => none
  | 'u' :: cs => unicodeEscape? cs
  | 'x' :: a :: b :: _ =>
    if isHexDigit a ∧ isHexDigit b then some ⟨[hexNumber [a, b]], 3⟩ else none
  | 'x' :: _ => none
  | '\r' :: '\n' :: _ => some ⟨[], 2⟩
  | c :: rest =>
    if isLineBreak c then some ⟨[], 1⟩
    else if c = '0' ∧ !(rest.head?.any Char.isDigit) then some ⟨[0], 1⟩
    else if isOctalDigit c then
      if octal then
        let digits := octalDigits (c :: rest)
        some ⟨[digits.foldl (fun n d => n * 8 + (d.toNat - 48)) 0], digits.length⟩
      else none
    else if c = '8' ∨ c = '9' then if octal then some ⟨[c.toNat], 1⟩ else none
    else some ⟨[letterEscape c], 1⟩

/-! ### Texts -/

/-- The characters of a list of code points, and whether it is well formed. A lone half of a
surrogate pair is written as the replacement character with the four digits of the half behind it,
and in such a text the replacement character itself is written in the same way. -/
def textOfPoints (points : List Nat) : Name × Bool :=
  let points := joinSurrogates points
  if points.any isSurrogate then
    (points.flatMap fun n =>
      if isSurrogate n || n == 0xFFFD then Char.ofNat 0xFFFD :: fourHexDigits n
      else [Char.ofNat n], false)
  else (points.map Char.ofNat, true)

end ModuleBundler.Script
