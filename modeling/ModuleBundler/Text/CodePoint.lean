/-!
# Code points in escapes

An escape writes a code point in hexadecimal digits. Four digits reach only the first 65536 code
points; the others are written as two *surrogates*, code points that stand for no character.

## Main definitions

* `Text.hexNumber`, `Text.fourHexDigits` — numbers in hexadecimal digits.
* `Text.joinSurrogates` — code points in place of pairs of surrogates.
-/

namespace ModuleBundler.Text

/-! ### Hexadecimal digits -/

/-- The value of a hexadecimal digit. -/
def hexValue? (c : Char) : Option Nat :=
  if '0' ≤ c ∧ c ≤ '9' then some (c.toNat - 48)
  else if 'a' ≤ c ∧ c ≤ 'f' then some (c.toNat - 87)
  else if 'A' ≤ c ∧ c ≤ 'F' then some (c.toNat - 55)
  else none

/-- Is the character a hexadecimal digit? -/
def isHexDigit (c : Char) : Bool :=
  (hexValue? c).isSome

/-- The number that a list of hexadecimal digits writes. -/
def hexNumber (digits : List Char) : Nat :=
  digits.foldl (fun n c => n * 16 + (hexValue? c).getD 0) 0

/-- Four lowercase hexadecimal digits. -/
def fourHexDigits (n : Nat) : List Char :=
  [n / 0x1000 % 16, n / 0x100 % 16, n / 0x10 % 16, n % 16].map Nat.digitChar

/-! ### Surrogates -/

/-- Is the number the first half of a surrogate pair? -/
def isHighSurrogate (n : Nat) : Bool :=
  0xD800 ≤ n && n ≤ 0xDBFF

/-- Is the number the second half of a surrogate pair? -/
def isLowSurrogate (n : Nat) : Bool :=
  0xDC00 ≤ n && n ≤ 0xDFFF

/-- Is the number one half of a surrogate pair? -/
def isSurrogate (n : Nat) : Bool :=
  isHighSurrogate n || isLowSurrogate n

/-- The code point that two halves of a surrogate pair stand for. -/
def joinedSurrogates (high low : Nat) : Nat :=
  0x10000 + (high - 0xD800) * 0x400 + (low - 0xDC00)

/-- Joins adjacent halves of surrogate pairs. -/
def joinSurrogates : List Nat → List Nat
  | a :: b :: rest =>
    if isHighSurrogate a && isLowSurrogate b then joinedSurrogates a b :: joinSurrogates rest
    else a :: joinSurrogates (b :: rest)
  | points => points

end ModuleBundler.Text
