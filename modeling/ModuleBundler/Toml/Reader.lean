import ModuleBundler.Toml.Basic
import ModuleBundler.Toml.Quoted
import ModuleBundler.Toml.Scalar

/-!
# Reading documents

A statement takes up a line; arrays, tables in braces and some texts go over several lines. A
comment starts with a number sign and ends with its line.

## Main definitions

* `Toml.readValue?` — reads a value.
* `Toml.read?` — the document that a text writes.
-/

namespace ModuleBundler.Toml

/-! ### Blanks and comments -/

/-- Is the character a blank inside a line? -/
def isBlank (c : Char) : Bool :=
  c == ' ' || c == '\t'

/-- The text behind blanks. -/
def skip (cs : List Char) : List Char :=
  cs.dropWhile isBlank

/-- The text behind a comment, or the text itself if it starts with no comment. -/
def skipComment? : List Char → Option (List Char)
  | '#' :: cs =>
    let rest := cs.dropWhile Quoted.isPlain
    if rest.isEmpty ∨ (Quoted.lineEnd? rest).isSome then some rest else none
  | cs => some cs

/-- The text behind blanks, comments and line ends; `fuel` bounds their number. -/
def skipLines? : (fuel : Nat) → List Char → Option (List Char)
  | 0, cs => some cs
  | fuel + 1, cs => do
    let rest ← skipComment? (skip cs)
    match Quoted.lineEnd? rest with
    | some rest => skipLines? fuel rest
    | none => return rest

/-- The text behind blanks, comments and line ends. -/
def skipAll? (cs : List Char) : Option (List Char) :=
  skipLines? (cs.length + 1) cs

/-! ### Keys -/

/-- Can the character stand in a key without quotes? -/
def isKeyChar (c : Char) : Bool :=
  c.isAlphanum || c == '_' || c == '-'

/-- Reads a key. -/
def readKey? (cs : List Char) : Option (Key × List Char) :=
  match cs.takeWhile isKeyChar with
  | [] => Quoted.readLine? cs
  | key => some (key, cs.drop key.length)

/-- Reads a dotted key with the blanks behind it; `fuel` bounds the number of its parts. -/
def readKeysWithin? : (fuel : Nat) → List Char → Option (List Key × List Char)
  | 0, _ => none
  | fuel + 1, cs => do
    let (key, rest) ← readKey? cs
    match skip rest with
    | '.' :: rest =>
      let (keys, rest) ← readKeysWithin? fuel (skip rest)
      return (key :: keys, rest)
    | rest => return ([key], rest)

/-- Reads a dotted key with the blanks behind it. -/
def readKeys? (cs : List Char) : Option (List Key × List Char) :=
  readKeysWithin? (cs.length + 1) cs

/-! ### Values -/

/-- Can the character stand in a number, a truth value or a date? -/
def isScalarChar (c : Char) : Bool :=
  c.isAlphanum || c == '_' || c == '-' || c == '+' || c == '.' || c == ':'

/-- Reads a number, a truth value or a date. A blank may stand between a day and a time. -/
def readScalar? (cs : List Char) : Option (Toml × List Char) :=
  let first := cs.takeWhile isScalarChar
  let rest := cs.drop first.length
  let second :=
    match rest with
    | ' ' :: c :: more =>
      if c.isDigit ∧ Scalar.day? first = some [] then ' ' :: (c :: more).takeWhile isScalarChar
      else []
    | _ => []
  if Scalar.isWritten (first ++ second) then some (scalar, rest.drop second.length) else none

/-- How deep arrays and tables in braces may stand in each other. -/
def deepest : Nat :=
  80

mutual

/-- Reads a value; `depth` bounds how deep arrays and tables may stand in each other. -/
def readValue? : (fuel depth : Nat) → List Char → Option (Toml × List Char)
  | 0, _, _ => none
  | fuel + 1, depth, cs =>
    match cs with
    | '[' :: rest =>
      if depth = 0 then none
      else (readItems? fuel (depth - 1) rest).map fun (items, rest) => (array false items, rest)
    | '{' :: rest =>
      if depth = 0 then none
      else
        (readEntries? fuel (depth - 1) [] rest).map fun (entries, rest) =>
          (table .closed entries, rest)
    | c :: _ =>
      if c = '"' ∨ c = Quoted.single then
        (Quoted.read? cs).map fun (chars, rest) => (text chars, rest)
      else readScalar? cs
    | [] => none

/-- Reads the items of an array with the bracket behind them. -/
def readItems? : (fuel depth : Nat) → List Char → Option (List Toml × List Char)
  | 0, _, _ => none
  | fuel + 1, depth, cs => do
    match ← skipAll? cs with
    | ']' :: rest => return ([], rest)
    | cs =>
      let (item, rest) ← readValue? fuel depth cs
      match ← skipAll? rest with
      | ',' :: rest =>
        let (items, rest) ← readItems? fuel depth rest
        return (item :: items, rest)
      | ']' :: rest => return ([item], rest)
      | _ => none

/-- Reads the entries of a table with the brace behind them, after those that were read before. -/
def readEntries? : (fuel depth : Nat) → Entries → List Char → Option (Entries × List Char)
  | 0, _, _, _ => none
  | fuel + 1, depth, entries, cs => do
    match ← skipAll? cs with
    | '}' :: rest => return (entries, rest)
    | cs =>
      let (keys, rest) ← readKeys? cs
      match rest with
      | '=' :: rest =>
        let (value, rest) ← readValue? fuel depth (skip rest)
        let entries ← assign value keys entries
        match ← skipAll? rest with
        | ',' :: rest => readEntries? fuel depth entries rest
        | '}' :: rest => return (entries, rest)
        | _ => none
      | _ => none

end

/-! ### Documents -/

/-- Reads a header behind its first bracket. -/
def readHeader? : List Char → Option (Statement × List Char)
  | '[' :: cs => do
    let (keys, rest) ← readKeys? (skip cs)
    match rest with
    | ']' :: ']' :: rest => return (.itemHeader keys, rest)
    | _ => none
  | cs => do
    let (keys, rest) ← readKeys? (skip cs)
    match rest with
    | ']' :: rest => return (.header keys, rest)
    | _ => none

/-- Reads a statement. -/
def readStatement? : List Char → Option (Statement × List Char)
  | '[' :: cs => readHeader? cs
  | cs => do
    let (keys, rest) ← readKeys? cs
    match rest with
    | '=' :: rest =>
      let (value, rest) ← readValue? (2 * rest.length + 2) deepest (skip rest)
      return (.entry keys value, rest)
    | _ => none

/-- Reads statements up to the end of the text; `fuel` bounds their number. -/
def readStatements? : (fuel : Nat) → List Char → Option (List Statement)
  | 0, _ => none
  | fuel + 1, cs => do
    match ← skipAll? cs with
    | [] => return []
    | cs =>
      let (statement, rest) ← readStatement? cs
      let rest ← skipComment? (skip rest)
      if rest.isEmpty ∨ (Quoted.lineEnd? rest).isSome then
        return statement :: (← readStatements? fuel rest)
      else none

/-- The text without the mark that says how it is encoded. -/
def dropMark : List Char → List Char
  | c :: cs => if c.toNat = 0xFEFF then cs else c :: cs
  | [] => []

/-- The document that a text writes, if it writes one. -/
def read? (chars : List Char) : Option Entries := do
  let chars := dropMark chars
  build (← readStatements? (chars.length + 1) chars)

end ModuleBundler.Toml
