import ModuleBundler.Decimal.Binary

/-!
# Shortest decimals

The decimal that writes a binary floating number has as few digits as possible: it lies closer to
the number than to any other one, and among the decimals with as few digits it is the closest.

The search goes through grids of decimals, from coarse to fine. On each grid only the two neighbours
of the number can be close enough.

## Main definitions

* `Decimal` — decimal numbers.
* `Decimal.shortest` — the shortest decimal that means a number.
* `Decimal.text` — how a decimal is written.
-/

namespace ModuleBundler

/-- The number `digits * 10 ^ exponent`. -/
structure Decimal where
  digits : Nat
  exponent : Int
  deriving DecidableEq, Repr

namespace Decimal

/-- The numbers around a value that mean it, scaled to whole numbers: those from `low` to `high`, in
units of which `unit` make one. The ends count if `closed`. -/
structure Neighbourhood where
  low : Nat
  value : Nat
  high : Nat
  unit : Nat
  closed : Bool

/-- The neighbourhood of a number. Below a power of two the numbers lie closer together. -/
def neighbourhood (number : Binary) : Neighbourhood :=
  let (factor, unit) : Nat × Nat := match number.exponent with
    | .ofNat n => (Nat.pow 2 n, 4)
    | .negSucc n => (1, 4 * Nat.pow 2 (n + 1))
  let m := number.mantissa
  let below := if m = Nat.pow 2 52 ∧ Binary.leastExponent < number.exponent then 1 else 2
  ⟨(4 * m - below) * factor, 4 * m * factor, (4 * m + 2) * factor, unit, m % 2 = 0⟩

/-- A neighbourhood in units of a power of ten. -/
def Neighbourhood.onGrid (around : Neighbourhood) (exponent : Int) : Neighbourhood :=
  match exponent with
  | .ofNat n => { around with unit := around.unit * Nat.pow 10 n }
  | .negSucc n =>
    let factor := Nat.pow 10 (n + 1)
    { around with
      low := around.low * factor
      value := around.value * factor
      high := around.high * factor }

/-- Does a whole number of units lie in a neighbourhood? -/
def Neighbourhood.contains (around : Neighbourhood) (count : Nat) : Bool :=
  let position := count * around.unit
  if around.closed then around.low ≤ position && position ≤ around.high
  else around.low < position && position < around.high

/-- The whole number of units in a neighbourhood that is closest to its value, if there is one. -/
def Neighbourhood.nearest? (around : Neighbourhood) : Option Nat :=
  let below := around.value / around.unit
  let above := below + 1
  match around.contains below, around.contains above with
  | false, false => none
  | true, false => some below
  | false, true => some above
  | true, true =>
    let down := around.value - below * around.unit
    let up := above * around.unit - around.value
    some (if down < up ∨ (down = up ∧ below % 2 = 0) then below else above)

/-- Searches the grids from that of ten to the power of `exponent` on; `fuel` bounds their
number. -/
def search (around : Neighbourhood) : (fuel : Nat) → Int → Decimal
  | 0, _ => ⟨0, 0⟩
  | fuel + 1, exponent =>
    match (around.onGrid exponent).nearest? with
    | some digits => ⟨digits, exponent⟩
    | none => search around fuel (exponent - 1)

/-- The shortest decimal that means a number. -/
def shortest (number : Binary) : Decimal :=
  if number.mantissa = 0 then ⟨0, 0⟩ else search (neighbourhood number) 700 309

/-! ### Writing -/

/-- The exponents of the first digit for which no power of ten is written. -/
def isPlain (exponent : Int) : Bool :=
  -5 ≤ exponent && exponent ≤ 15

/-- Digits with a point behind the first `n` of them, and at least one digit on each side. -/
def pointed (n : Nat) (digits : List Char) : List Char :=
  let fraction := digits.drop n
  digits.take n ++ List.replicate (n - digits.length) '0' ++
    '.' :: (if fraction = [] then ['0'] else fraction)

/-- A whole number with its sign. -/
def signed (n : Int) : List Char :=
  (if n < 0 then '-' else '+') :: Nat.toDigits 10 n.natAbs

/-- A decimal as text. -/
def text (decimal : Decimal) : List Char :=
  let digits := Nat.toDigits 10 decimal.digits
  let leading := decimal.exponent + digits.length - 1
  if isPlain leading then
    if leading < 0 then
      '0' :: '.' :: List.replicate (-leading - 1).toNat '0' ++ digits
    else pointed (leading + 1).toNat digits
  else
    let mantissa := match digits with
      | [] => []
      | [digit] => [digit]
      | digit :: fraction => digit :: '.' :: fraction
    mantissa ++ 'e' :: signed leading

end Decimal

end ModuleBundler
