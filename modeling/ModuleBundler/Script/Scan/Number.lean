import ModuleBundler.Script.Scan.Name

/-!
# Numbers

A number is decimal with an optional fraction and exponent, or has a base prefix. A low line may
separate two digits. A number that starts with a superfluous zero is octal, or decimal when it has a
digit above `7`; such numbers have no separators.

Each reader splits a text into the part that it takes and the rest, so that the two parts together
are the text.

## Main definitions

* `Script.takeDigits` — digits and separators.
* `Script.scanNumber` — the number at the start of a text.
-/

namespace ModuleBundler.Script

open Text

/-- A text split into a part that was taken and the rest. -/
structure Split where
  taken : List Char
  rest : List Char

/-- Puts characters in front of the part that was taken. -/
def Split.after (split : Split) (front : List Char) : Split :=
  ⟨front ++ split.taken, split.rest⟩

/-- Nothing is taken. -/
def Split.none (cs : List Char) : Split :=
  ⟨[], cs⟩

/-- The digits and separators that follow a digit; a separator stands between two digits. -/
def moreDigits (isDigit : Char → Bool) : List Char → Option Split
  | '_' :: c :: cs =>
    if isDigit c then (moreDigits isDigit cs).map (·.after ['_', c]) else Option.none
  | ['_'] => Option.none
  | c :: cs =>
    if isDigit c then (moreDigits isDigit cs).map (·.after [c]) else some (.none (c :: cs))
  | [] => some (.none [])

/-- At least one digit, with separators between digits. -/
def takeDigits (isDigit : Char → Bool) : List Char → Option Split
  | c :: cs => if isDigit c then (moreDigits isDigit cs).map (·.after [c]) else Option.none
  | [] => Option.none

/-- An optional exponent. -/
def takeExponent (cs : List Char) : Option Split :=
  match cs with
  | e :: sign :: rest =>
    if e = 'e' ∨ e = 'E' then
      if sign = '+' ∨ sign = '-' then (takeDigits Char.isDigit rest).map (·.after [e, sign])
      else (takeDigits Char.isDigit (sign :: rest)).map (·.after [e])
    else some (.none cs)
  | [e] => if e = 'e' ∨ e = 'E' then Option.none else some (.none cs)
  | [] => some (.none cs)

/-- An optional fraction, which may be empty, and an optional exponent. -/
def takeFraction (cs : List Char) : Option Split :=
  match cs with
  | '.' :: c :: rest =>
    if c.isDigit then
      (takeDigits Char.isDigit (c :: rest)).bind fun digits =>
        (takeExponent digits.rest).map (·.after ('.' :: digits.taken))
    else (takeExponent (c :: rest)).map (·.after ['.'])
  | ['.'] => some ⟨['.'], []⟩
  | _ => takeExponent cs

/-- A number that was read: its spelling, the text behind it and whether it is a whole number of any
size. -/
structure ScannedNumber where
  text : List Char
  rest : List Char
  big : Bool

/-- The number that a split ends, unless the mark of a whole number of any size follows. -/
def Split.whole (split : Split) : ScannedNumber :=
  match split.rest with
  | 'n' :: rest => ⟨split.taken ++ ['n'], rest, true⟩
  | rest => ⟨split.taken, rest, false⟩

/-- A number in digits of a base, behind its prefix. -/
def basedNumber? (isDigit : Char → Bool) (start cs : List Char) : Option ScannedNumber :=
  (takeDigits isDigit cs).map fun digits => (digits.after start).whole

/-- Digits with a fraction and an exponent behind them. -/
def Split.withFraction (digits : Split) : Option ScannedNumber :=
  (takeFraction digits.rest).map fun tail => ⟨digits.taken ++ tail.taken, tail.rest, false⟩

/-- A number without a base prefix. -/
def decimalNumber? (cs : List Char) : Option ScannedNumber :=
  (takeDigits Char.isDigit cs).bind fun digits =>
    if digits.rest.head? = some 'n' then some digits.whole else digits.withFraction

/-- A number that starts with a superfluous zero. -/
def zeroNumber? (cs : List Char) : Option ScannedNumber :=
  let digits := cs.takeWhile Char.isDigit
  let split : Split := ⟨digits, cs.drop digits.length⟩
  if digits.all isOctalDigit then some ⟨split.taken, split.rest, false⟩ else split.withFraction

/-- Is the character a binary digit? -/
def isBinaryDigit (c : Char) : Bool :=
  c == '0' || c == '1'

/-- Reads a number; the text is known to start with a digit, or with a point and a digit. -/
def readNumber : List Char → Option ScannedNumber
  | '0' :: c :: cs =>
    if c = 'x' ∨ c = 'X' then basedNumber? isHexDigit ['0', c] cs
    else if c = 'o' ∨ c = 'O' then basedNumber? isOctalDigit ['0', c] cs
    else if c = 'b' ∨ c = 'B' then basedNumber? isBinaryDigit ['0', c] cs
    else if c.isDigit then zeroNumber? ('0' :: c :: cs)
    else if c = '_' then none
    else decimalNumber? ('0' :: c :: cs)
  | '.' :: cs => (Split.none ('.' :: cs)).withFraction
  | cs => decimalNumber? cs

/-- Reads a number that no name and no digit follows at once. -/
def scanNumber (cs : List Char) : Option ScannedNumber :=
  match readNumber cs with
  | some number =>
    match number.rest with
    | c :: _ => if isNameStart c || c.isDigit || c == '\\' then none else some number
    | [] => some number
  | none => none

end ModuleBundler.Script
