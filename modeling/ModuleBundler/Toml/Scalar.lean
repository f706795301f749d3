import ModuleBundler.Text.CodePoint

/-!
# Numbers, truth values and dates in documents

## Main definitions

* `Toml.Scalar.isWritten` — whether a text writes a number, a truth value or a date.
-/

namespace ModuleBundler.Toml.Scalar

/-! ### Numbers -/

/-- Does the text consist of digits, with single low lines between some of them? -/
def isGrouped (isDigit : Char → Bool) : List Char → Bool
  | [] => false
  | [c] => isDigit c
  | c :: '_' :: rest => isDigit c && isGrouped isDigit rest
  | c :: rest => isDigit c && isGrouped isDigit rest

/-- The text without its sign. -/
def unsigned : List Char → List Char
  | '+' :: rest | '-' :: rest => rest
  | cs => cs

/-- Does the text write a whole number without sign in decimal digits? -/
def isWhole : List Char → Bool
  | ['0'] => true
  | '0' :: _ => false
  | cs => isGrouped Char.isDigit cs

/-- Does the text write a number in digits of another base? -/
def isPrefixed : List Char → Bool
  | '0' :: 'x' :: digits => isGrouped Text.isHexDigit digits
  | '0' :: 'o' :: digits => isGrouped (fun c => c.isDigit && c.toNat < 56) digits
  | '0' :: 'b' :: digits => isGrouped (fun c => c == '0' || c == '1') digits
  | _ => false

/-- Does the text write a power of ten? -/
def isExponent : List Char → Bool
  | [] => true
  | _ :: cs => isGrouped Char.isDigit (unsigned cs)

/-- Does the text write a number with an optional fraction and an optional power of ten? -/
def isDecimal (cs : List Char) : Bool :=
  let mantissa := cs.takeWhile fun c => !(c == 'e' || c == 'E')
  let whole := mantissa.takeWhile (· != '.')
  isWhole whole && isExponent (cs.drop mantissa.length) &&
    match mantissa.drop whole.length with
    | [] => true
    | _ :: fraction => isGrouped Char.isDigit fraction

/-- Does the text write a number? -/
def isNumber (cs : List Char) : Bool :=
  isPrefixed cs || isDecimal (unsigned cs) ||
    ["inf".toList, "nan".toList].contains (unsigned cs)

/-! ### Dates -/

/-- Reads a number of a fixed count of digits. -/
def digits? (count : Nat) (cs : List Char) : Option (Nat × List Char) :=
  let digits := cs.take count
  if digits.length = count ∧ digits.all Char.isDigit then
    some (digits.foldl (fun n c => n * 10 + (c.toNat - 48)) 0, cs.drop count)
  else none

/-- Passes over a character. -/
def mark? (c : Char) : List Char → Option (List Char)
  | first :: rest => if first = c then some rest else none
  | [] => none

/-- The number of days of a month. -/
def daysOf (year month : Nat) : Nat :=
  if month = 2 then if year % 4 = 0 ∧ (year % 100 ≠ 0 ∨ year % 400 = 0) then 29 else 28
  else if month = 4 ∨ month = 6 ∨ month = 9 ∨ month = 11 then 30
  else 31

/-- The text behind a day. -/
def day? (cs : List Char) : Option (List Char) := do
  let (year, cs) ← digits? 4 cs
  let (month, cs) ← digits? 2 (← mark? '-' cs)
  let (day, cs) ← digits? 2 (← mark? '-' cs)
  if 1 ≤ month ∧ month ≤ 12 ∧ 1 ≤ day ∧ day ≤ daysOf year month then some cs else none

/-- The text behind a fraction of a second. -/
def fraction? : List Char → Option (List Char)
  | '.' :: cs =>
    let digits := cs.takeWhile Char.isDigit
    if digits.isEmpty then none else some (cs.drop digits.length)
  | cs => some cs

/-- The text behind hours and minutes. -/
def minutes? (cs : List Char) : Option (List Char) := do
  let (hour, cs) ← digits? 2 cs
  let (minute, cs) ← digits? 2 (← mark? ':' cs)
  if hour ≤ 23 ∧ minute ≤ 59 then some cs else none

/-- The text behind a time of the day. Seconds can be left out. -/
def time? (cs : List Char) : Option (List Char) := do
  let cs ← minutes? cs
  match cs with
  | ':' :: cs =>
    let (second, cs) ← digits? 2 cs
    if second ≤ 60 then fraction? cs else none
  | cs => some cs

/-- Does the text write the distance to the standard time, or nothing? -/
def isOffset : List Char → Bool
  | [] | ['Z'] | ['z'] => true
  | '+' :: cs | '-' :: cs => minutes? cs == some []
  | _ => false

/-- Does the text write a day, a time or both? -/
def isDate (cs : List Char) : Bool :=
  match day? cs with
  | none => time? cs == some []
  | some [] => true
  | some (c :: rest) =>
    (c == 'T' || c == 't' || c == ' ') &&
      match time? rest with
      | none => false
      | some rest => isOffset rest

/-! ### Scalars -/

/-- Does the text write a number, a truth value or a date? -/
def isWritten (cs : List Char) : Bool :=
  isNumber cs || isDate cs || ["true".toList, "false".toList].contains cs

end ModuleBundler.Toml.Scalar
