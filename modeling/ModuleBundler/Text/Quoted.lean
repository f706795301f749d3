import ModuleBundler.Text.CodePoint

/-!
# Quoted strings

A text between double quotes. Quotes, backslashes and control characters are escaped, everything
else stands for itself.

## Main definitions

* `Text.Quoted.encode` — the quoted form of a text.
* `Text.Quoted.decode?` — the text that the quoted form at the start of a text stands for.
-/

namespace ModuleBundler.Text.Quoted

/-- The form of a character inside quotes. -/
def escape (c : Char) : List Char :=
  if c = '"' then ['\\', '"']
  else if c = '\\' then ['\\', '\\']
  else if c.toNat = 0x8 then ['\\', 'b']
  else if c.toNat = 0xC then ['\\', 'f']
  else if c = '\n' then ['\\', 'n']
  else if c = '\r' then ['\\', 'r']
  else if c = '\t' then ['\\', 't']
  else if c.toNat < 0x20 then '\\' :: 'u' :: fourHexDigits c.toNat
  else [c]

/-- The quoted form of a text. -/
def encode (text : List Char) : List Char :=
  '"' :: text.flatMap escape ++ ['"']

/-- The character that an escape of two characters stands for. -/
def unescape? : Char → Option Char
  | '"' => some '"'
  | '\\' => some '\\'
  | '/' => some '/'
  | 'b' => some (Char.ofNat 0x8)
  | 'f' => some (Char.ofNat 0xC)
  | 'n' => some '\n'
  | 'r' => some '\r'
  | 't' => some '\t'
  | _ => none

/-- The number that four hexadecimal digits write. -/
def fourDigits? (a b c d : Char) : Option Nat :=
  if [a, b, c, d].all isHexDigit then some (hexNumber [a, b, c, d]) else none

/-- Puts a character in front of a text that was read. -/
def follow (c : Char) (tail : Option (List Char × List Char)) : Option (List Char × List Char) :=
  tail.map fun (text, rest) => (c :: text, rest)

/-- Reads a quoted text behind its opening quote; the result is the text and what follows its
closing quote. A surrogate stands in a pair only. -/
def decodeTail? : List Char → Option (List Char × List Char)
  | '"' :: rest => some ([], rest)
  | '\\' :: 'u' :: a :: b :: c :: d :: '\\' :: 'u' :: e :: f :: g :: h :: rest =>
    match fourDigits? a b c d, fourDigits? e f g h with
    | some high, some low =>
      if isHighSurrogate high then
        if isLowSurrogate low then
          follow (Char.ofNat (joinedSurrogates high low)) (decodeTail? rest)
        else none
      else if isLowSurrogate high then none
      else follow (Char.ofNat high) (decodeTail? ('\\' :: 'u' :: e :: f :: g :: h :: rest))
    | _, _ => none
  | '\\' :: 'u' :: a :: b :: c :: d :: rest =>
    match fourDigits? a b c d with
    | some n => if isSurrogate n then none else follow (Char.ofNat n) (decodeTail? rest)
    | none => none
  | '\\' :: c :: rest =>
    match unescape? c with
    | some c => follow c (decodeTail? rest)
    | none => none
  | c :: rest => if c.toNat < 0x20 ∨ c = '\\' then none else follow c (decodeTail? rest)
  | [] => none

/-- Reads a quoted text; the result is the text and what follows it. -/
def decode? : List Char → Option (List Char × List Char)
  | '"' :: rest => decodeTail? rest
  | _ => none

end ModuleBundler.Text.Quoted
