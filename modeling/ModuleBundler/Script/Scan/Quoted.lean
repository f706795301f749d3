import ModuleBundler.Script.Scan.Escape

/-!
# Strings, templates and regular expressions

The three kinds of tokens that are delimited by a mark of their own and may contain what looks like
other tokens. A template is read piece by piece: a piece ends at the closing mark or where a
substitution starts, and the next piece is read behind the brace that ends the substitution.

## Main definitions

* `Script.scanString` — a string behind its opening mark.
* `Script.scanTemplate` — a piece of a template behind the mark or brace that opens it.
* `Script.scanRegex` — a regular expression behind its opening slash.
-/

namespace ModuleBundler.Script

/-- A delimited text that was read: its code points and the text behind its end. -/
structure ScannedText where
  points : List Nat
  rest : List Char

/-- Puts code points in front of a text that was read. -/
def ScannedText.after (tail : ScannedText) (points : List Nat) : ScannedText :=
  ⟨points ++ tail.points, tail.rest⟩

/-- Reads a string up to the mark that opened it. The first `skip` characters belong to an escape
that was read. -/
def scanString (mark : Char) : (skip : Nat) → List Char → Except Fault ScannedText
  | _, [] => .error .unterminatedString
  | skip + 1, _ :: cs => scanString mark skip cs
  | 0, c :: cs =>
    if c = mark then .ok ⟨[], cs⟩
    else if c = '\\' then
      match textEscape? true cs with
      | some escape => (scanString mark escape.length cs).map (·.after escape.points)
      | none => .error .malformedEscape
    else if c = '\n' ∨ c = '\r' then .error .unterminatedString
    else (scanString mark 0 cs).map (·.after [c.toNat])

/-- A piece of a template that was read: whether it closes the template, whether all its escapes
are valid, and the text behind its end. -/
structure ScannedTemplate where
  closes : Bool
  valid : Bool
  rest : List Char

/-- Puts an escape in front of a piece. -/
def ScannedTemplate.after (piece : ScannedTemplate) (valid : Bool) : ScannedTemplate :=
  { piece with valid := valid && piece.valid }

/-- The mark that opens and closes a template. -/
def templateMark : Char :=
  Char.ofNat 0x60

/-- Reads a piece of a template. The first `skip` characters belong to an escape that was read. A
backslash that starts no escape makes the piece invalid and hides the character behind it. -/
def scanTemplate : (skip : Nat) → List Char → Except Fault ScannedTemplate
  | _, [] => .error .unterminatedTemplate
  | skip + 1, _ :: cs => scanTemplate skip cs
  | 0, '$' :: '{' :: cs => .ok ⟨false, true, cs⟩
  | 0, c :: cs =>
    if c = templateMark then .ok ⟨true, true, cs⟩
    else if c = '\\' then
      match textEscape? false cs with
      | some escape => scanTemplate escape.length cs
      | none => (scanTemplate 1 cs).map (·.after false)
    else scanTemplate 0 cs

/-- Reads the body of a regular expression up to its closing slash, which does not count inside a
class; the result is the text behind the slash. -/
def regexBody : (inClass : Bool) → List Char → Option (List Char)
  | _, [] => none
  | inClass, '\\' :: c :: cs => if isLineBreak c then none else regexBody inClass cs
  | inClass, c :: cs =>
    if isLineBreak c then none
    else if c = '/' ∧ !inClass then some cs
    else regexBody (c == '[' || (inClass && c != ']')) cs

/-- The flags of a regular expression, each of which may occur once. -/
def regexFlags : List Char :=
  ['d', 'g', 'i', 'm', 's', 'u', 'v', 'y']

/-- Can the character be a flag of a regular expression, whether there is such a flag or not? -/
def isFlagChar (c : Char) : Bool :=
  c.isAlphanum || c == '_' || c == '$'

/-- Reads a regular expression behind its opening slash, with its flags; the result is the text
behind it. -/
def scanRegex (cs : List Char) : Except Fault (List Char) :=
  match regexBody false cs with
  | none => .error .unterminatedPattern
  | some rest =>
    let flags := rest.takeWhile isFlagChar
    if flags.all regexFlags.contains ∧ flags.Nodup then .ok (rest.drop flags.length)
    else .error .malformedFlags

end ModuleBundler.Script
