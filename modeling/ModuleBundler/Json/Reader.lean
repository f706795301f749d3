import ModuleBundler.Association
import ModuleBundler.Json.Basic
import ModuleBundler.Text.Quoted

/-!
# Reading values

A number without fraction and exponent that fits into 64 bits, with or without a sign, is a whole
number; every other number is a binary floating number. Of a number with many digits those that do
not fit into 64 bits count as zeros.

## Main definitions

* `Json.read?` — the value that a text writes.
-/

namespace ModuleBundler.Json

open Text

/-- Blanks between the parts of a value. -/
def isSpace (c : Char) : Bool :=
  c == ' ' || c == '\t' || c == '\n' || c == '\r'

/-- The text behind blanks. -/
def skip (cs : List Char) : List Char :=
  cs.dropWhile isSpace

/-! ### Numbers -/

/-- The number of values of 64 bits. -/
def wordLimit : Nat :=
  Nat.pow 2 64

/-- Puts digits behind a number as long as it fits into 64 bits; the result is the number and how
many digits were put there. -/
def extend (value : Nat) : List Char → Nat × Nat
  | [] => (value, 0)
  | c :: cs =>
    let next := value * 10 + (c.toNat - 48)
    if next < wordLimit then
      let (value, count) := extend next cs
      (value, count + 1)
    else (value, 0)

/-- A power of ten behind a number: its sign and its digits. -/
def exponent? (cs : List Char) : Option (Bool × List Char × List Char) :=
  let (isNegative, cs) := match cs with
    | '+' :: rest => (false, rest)
    | '-' :: rest => (true, rest)
    | _ => (false, cs)
  let digits := cs.takeWhile Char.isDigit
  if digits = [] then none else some (isNegative, digits, cs.drop digits.length)

/-- The bound that exponents stay below. -/
def exponentLimit : Nat :=
  Nat.pow 2 31

/-- A number with a power of ten behind it, of which the letter has been read. -/
def withExponent? (isNegative : Bool) (value : Nat) (base : Int) (cs : List Char) :
    Option (Json × List Char) := do
  let (below, digits, rest) ← exponent? cs
  let size := digits.foldl (fun n c => n * 10 + (c.toNat - 48)) 0
  if exponentLimit ≤ size then
    if value ≠ 0 ∧ !below then none else return (.decimal isNegative .zero, rest)
  let number ← Binary.scaled? value (if below then base - size else base + size)
  return (.decimal isNegative number, rest)

/-- What follows the digits in front of the point, of which `dropped` did not fit into `value`. -/
def numberTail? (isNegative : Bool) (value dropped : Nat) : List Char → Option (Json × List Char)
  | '.' :: cs => do
    let fraction := cs.takeWhile Char.isDigit
    if fraction = [] then none
    let (value, count) := extend value fraction
    let base : Int := (dropped : Int) - count
    match cs.drop fraction.length with
    | 'e' :: rest | 'E' :: rest => withExponent? isNegative value base rest
    | rest => return (.decimal isNegative (← Binary.scaled? value base), rest)
  | 'e' :: cs | 'E' :: cs => withExponent? isNegative value dropped cs
  | cs =>
    if dropped = 0 ∧ !isNegative then some (.integer value, cs)
    else if dropped = 0 ∧ 0 < value ∧ value ≤ Nat.pow 2 63 then some (.integer (-(value : Int)), cs)
    else (Binary.scaled? value dropped).map fun number => (.decimal isNegative number, cs)

/-- Reads a number behind its sign. -/
def readNumber? (isNegative : Bool) (cs : List Char) : Option (Json × List Char) :=
  let digits := cs.takeWhile Char.isDigit
  let rest := cs.drop digits.length
  match digits with
  | [] => none
  | '0' :: _ :: _ => none
  | _ =>
    let (value, count) := extend 0 digits
    numberTail? isNegative value (digits.length - count) rest

/-! ### Values -/

/-- Passes over a word and yields a value. -/
def word? (word : String) (value : Json) (cs : List Char) : Option (Json × List Char) :=
  if word.toList.isPrefixOf cs then some (value, cs.drop word.toList.length) else none

mutual

/-- Reads a value; `depth` bounds how deep arrays and objects may stand in each other. -/
def readValue? : (fuel depth : Nat) → List Char → Option (Json × List Char)
  | 0, _, _ => none
  | fuel + 1, depth, cs =>
    match skip cs with
    | 'n' :: rest => word? "null" .null ('n' :: rest)
    | 't' :: rest => word? "true" (.boolean true) ('t' :: rest)
    | 'f' :: rest => word? "false" (.boolean false) ('f' :: rest)
    | '"' :: rest => (Quoted.decodeTail? rest).map fun (chars, rest) => (.text chars, rest)
    | '-' :: rest => readNumber? true rest
    | '[' :: rest =>
      if depth = 0 then none
      else
        match skip rest with
        | ']' :: rest => some (.array [], rest)
        | rest => (readItems? fuel (depth - 1) rest).map fun (items, rest) => (.array items, rest)
    | '{' :: rest =>
      if depth = 0 then none
      else
        match skip rest with
        | '}' :: rest => some (.object [], rest)
        | rest =>
          (readMembers? fuel (depth - 1) [] rest).map fun (members, rest) => (.object members, rest)
    | rest => readNumber? false rest

/-- Reads the items of an array with the bracket behind them. -/
def readItems? : (fuel depth : Nat) → List Char → Option (List Json × List Char)
  | 0, _, _ => none
  | fuel + 1, depth, cs => do
    let (item, rest) ← readValue? fuel depth cs
    match skip rest with
    | ',' :: rest =>
      let (items, rest) ← readItems? fuel depth rest
      return (item :: items, rest)
    | ']' :: rest => return ([item], rest)
    | _ => none

/-- Reads the members of an object with the brace behind them, after those that were read before. -/
def readMembers? : (fuel depth : Nat) → List (List Char × Json) → List Char →
    Option (List (List Char × Json) × List Char)
  | 0, _, _, _ => none
  | fuel + 1, depth, members, cs => do
    let (name, rest) ← Quoted.decode? (skip cs)
    match skip rest with
    | ':' :: rest =>
      let (value, rest) ← readValue? fuel depth rest
      let members := Association.put name value members
      match skip rest with
      | ',' :: rest => readMembers? fuel depth members rest
      | '}' :: rest => return (members, rest)
      | _ => none
    | _ => none

end

/-- How deep arrays and objects may stand in each other. -/
def deepest : Nat :=
  127

/-- The value that a text writes, if it writes one. -/
def read? (chars : List Char) : Option Json := do
  let (value, rest) ← readValue? (2 * chars.length + 2) deepest chars
  if (skip rest).isEmpty then some value else none

end ModuleBundler.Json
