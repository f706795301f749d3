/-!
# Binary floating numbers

A number with a mantissa of 53 bits and an exponent, as exact data. Operations compute the exact
result and round it once: to the nearest such number, of two nearest ones to the one with an even
mantissa.

## Main definitions

* `Binary` — non-negative finite numbers.
* `Binary.ofQuotient?` — the nearest number to a quotient.
* `Binary.scaled?` — whole numbers times powers of ten, rounded step by step.
-/

namespace ModuleBundler

/-- The number `mantissa * 2 ^ exponent`. -/
structure Binary where
  mantissa : Nat
  exponent : Int
  deriving DecidableEq, Repr

namespace Binary

/-- The number zero. -/
def zero : Binary :=
  ⟨0, 0⟩

/-- The least exponent. -/
def leastExponent : Int :=
  -1074

/-- The greatest exponent. -/
def greatestExponent : Int :=
  971

/-- The quotient rounded to a whole number, a half to the even neighbour. -/
def roundQuotient (numerator denominator : Nat) : Nat :=
  let quotient := numerator / denominator
  let twice := 2 * (numerator % denominator)
  if twice < denominator then quotient
  else if denominator < twice then quotient + 1
  else quotient + quotient % 2

/-- A quotient divided by a power of two. -/
def shifted (numerator denominator : Nat) (exponent : Int) : Nat × Nat :=
  match exponent with
  | .ofNat n => (numerator, denominator * Nat.pow 2 n)
  | .negSucc n => (numerator * Nat.pow 2 (n + 1), denominator)

/-- The exponent with which a quotient has a mantissa of 53 bits, or the least one. -/
def exponentOf (numerator denominator : Nat) : Int :=
  let guess : Int := (numerator.log2 : Int) - denominator.log2 - 52
  let (n, d) := shifted numerator denominator guess
  max leastExponent (if n / d < Nat.pow 2 52 then guess - 1 else guess)

/-- The number nearest to a quotient, if it is not too large. -/
def ofQuotient? (numerator denominator : Nat) : Option Binary :=
  if numerator = 0 then some zero
  else
    let exponent := exponentOf numerator denominator
    let (n, d) := shifted numerator denominator exponent
    let mantissa := roundQuotient n d
    let rounded : Binary :=
      if mantissa = Nat.pow 2 53 then ⟨Nat.pow 2 52, exponent + 1⟩ else ⟨mantissa, exponent⟩
    if rounded.mantissa = 0 then some zero
    else if rounded.exponent ≤ greatestExponent then some rounded
    else none

/-- A number as a quotient of whole numbers. -/
def quotient (number : Binary) : Nat × Nat :=
  match number.exponent with
  | .ofNat n => (number.mantissa * Nat.pow 2 n, 1)
  | .negSucc n => (number.mantissa, Nat.pow 2 (n + 1))

/-- The product of two numbers, if it is not too large. -/
def times? (first second : Binary) : Option Binary :=
  ofQuotient? (first.quotient.1 * second.quotient.1) (first.quotient.2 * second.quotient.2)

/-- The quotient of two numbers, the second of which is not zero. -/
def dividedBy? (first second : Binary) : Option Binary :=
  ofQuotient? (first.quotient.1 * second.quotient.2) (first.quotient.2 * second.quotient.1)

/-- The greatest exponent of a power of ten that is a number. -/
def greatestPower : Nat :=
  308

/-- A number divided by ten to the power of `n`. Larger powers are divided out in steps; `fuel`
bounds their number. -/
def divided : (fuel : Nat) → Binary → Nat → Option Binary
  | 0, _, _ => some zero
  | fuel + 1, number, n => do
    if number.mantissa = 0 then return zero
    let power ← ofQuotient? (Nat.pow 10 (min n greatestPower)) 1
    let number ← number.dividedBy? power
    if n ≤ greatestPower then return number
    divided fuel number (n - greatestPower)

/-- A whole number times a power of ten, if it is not too large. The whole number is rounded first,
and every power of ten is rounded before it is applied. -/
def scaled? (digits : Nat) (exponent : Int) : Option Binary := do
  let number ← ofQuotient? digits 1
  match exponent with
  | .ofNat n =>
    if n ≤ greatestPower then number.times? (← ofQuotient? (Nat.pow 10 n) 1)
    else if digits = 0 then return zero
    else none
  | .negSucc n => divided 4 number (n + 1)

end Binary

end ModuleBundler
