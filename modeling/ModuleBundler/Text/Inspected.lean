import ModuleBundler.Text.CharClass

/-!
# Inspected texts

An inspected text stands between double quotes. Characters without a shape of their own are escaped,
so that the inspected form shows all of the text.

## Main definitions

* `Text.Inspected.escape` — the inspected form of a character.
* `Text.Inspected.quote`, `Text.Inspected.quotePath` — the inspected forms of texts and of paths.
-/

namespace ModuleBundler.Text.Inspected

/-- The code point of a character as an escape. -/
def codePoint (c : Char) : List Char :=
  '\\' :: 'u' :: '\x7b' :: Nat.toDigits 16 c.toNat ++ ['\x7d']

/-- The inspected form of a character between double quotes. -/
def escape (c : Char) : List Char :=
  if c.toNat = 0 then ['\\', '0']
  else if c = '\t' then ['\\', 't']
  else if c = '\n' then ['\\', 'n']
  else if c = '\r' then ['\\', 'r']
  else if c = '"' ∨ c = '\\' then ['\\', c]
  else if isGraphemeExtender c ∨ !isPrintable c then codePoint c
  else [c]

/-- The inspected form of a text. -/
def quote (text : List Char) : List Char :=
  '"' :: text.flatMap escape ++ ['"']

/-- The inspected form of a path, in which single quotes are escaped too. -/
def quotePath (path : List Char) : List Char :=
  '"' :: path.flatMap (fun c => if c = '\'' then ['\\', c] else escape c) ++ ['"']

end ModuleBundler.Text.Inspected
