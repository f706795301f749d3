import ModuleBundler.Decimal.Shortest
import ModuleBundler.Json.Basic
import ModuleBundler.Text.Quoted

/-!
# Printing values

A value is printed on one line without blanks, or on many lines, each level two blanks deeper than
the one around it.

## Main definitions

* `Json.compact` — a value on one line.
* `Json.pretty` — a value on many lines.
-/

namespace ModuleBundler.Json

open Text

/-- A whole number. -/
def integerText : Int → List Char
  | .ofNat n => Nat.toDigits 10 n
  | .negSucc n => '-' :: Nat.toDigits 10 (n + 1)

/-- A value that has no parts. -/
def leafText : Json → List Char
  | null => "null".toList
  | boolean true => "true".toList
  | boolean false => "false".toList
  | integer value => integerText value
  | decimal isNegative size =>
    (if isNegative then ['-'] else []) ++ (Decimal.shortest size).text
  | text chars => Quoted.encode chars
  | array _ => "[]".toList
  | object _ => "\x7b\x7d".toList

mutual

/-- A value on one line. -/
def compact : Json → List Char
  | array items => '[' :: compactItems items
  | object members => '\x7b' :: compactMembers members
  | value => leafText value

/-- The items of an array with the bracket behind them. -/
def compactItems : List Json → List Char
  | [] => [']']
  | [item] => compact item ++ [']']
  | item :: items => compact item ++ ',' :: compactItems items

/-- The members of an object with the brace behind them. -/
def compactMembers : List (List Char × Json) → List Char
  | [] => ['\x7d']
  | [(name, value)] => Quoted.encode name ++ ':' :: compact value ++ ['\x7d']
  | (name, value) :: members =>
    Quoted.encode name ++ ':' :: compact value ++ ',' :: compactMembers members

end

/-- A line break and the blanks in front of a line at the given depth. -/
def lineAt (depth : Nat) : List Char :=
  '\n' :: List.replicate (2 * depth) ' '

mutual

/-- A value on many lines, at the given depth. -/
def prettyAt (depth : Nat) : Json → List Char
  | array (item :: items) => '[' :: prettyItems depth (item :: items)
  | object (member :: members) => '\x7b' :: prettyMembers depth (member :: members)
  | value => leafText value

/-- The items of an array, each on lines of its own, with the bracket behind them. -/
def prettyItems (depth : Nat) : List Json → List Char
  | [] => lineAt depth ++ [']']
  | [item] => lineAt (depth + 1) ++ prettyAt (depth + 1) item ++ lineAt depth ++ [']']
  | item :: items =>
    lineAt (depth + 1) ++ prettyAt (depth + 1) item ++ ',' :: prettyItems depth items

/-- The members of an object, each on lines of its own, with the brace behind them. -/
def prettyMembers (depth : Nat) : List (List Char × Json) → List Char
  | [] => lineAt depth ++ ['\x7d']
  | [(name, value)] =>
    lineAt (depth + 1) ++ Quoted.encode name ++ ": ".toList ++ prettyAt (depth + 1) value ++
      lineAt depth ++ ['\x7d']
  | (name, value) :: members =>
    lineAt (depth + 1) ++ Quoted.encode name ++ ": ".toList ++ prettyAt (depth + 1) value ++
      ',' :: prettyMembers depth members

end

/-- A value on many lines. -/
def pretty (value : Json) : List Char :=
  prettyAt 0 value

end ModuleBundler.Json
