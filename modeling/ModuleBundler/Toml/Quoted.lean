import ModuleBundler.Text.CodePoint

/-!
# Quoted texts in documents

A text is quoted by double quotes, between which escapes are possible, or by single quotes. Three
quotes in a row start a text of several lines; a line end right behind them does not count, and up
to two quotes may stand in front of the quotes that end the text.

## Main definitions

* `Toml.Quoted.read?` — reads a quoted text of one or several lines.
* `Toml.Quoted.readLine?` — reads a quoted text of one line.
-/

namespace ModuleBundler.Toml.Quoted

open Text

/-- Can the character stand in a line? -/
def isPlain (c : Char) : Bool :=
  c == '\t' || (0x20 ≤ c.toNat && c.toNat != 0x7F)

/-- The single quote. -/
def single : Char :=
  Char.ofNat 0x27

/-! ### Escapes -/

/-- The character that a letter behind a backslash stands for. -/
def shortEscape? : Char → Option Char
  | 'b' => some (Char.ofNat 0x8)
  | 't' => some '\t'
  | 'n' => some '\n'
  | 'f' => some (Char.ofNat 0xC)
  | 'r' => some '\r'
  | 'e' => some (Char.ofNat 0x1B)
  | '"' => some '"'
  | '\\' => some '\\'
  | _ => none

/-- The number of hexadecimal digits behind the letter of an escape. -/
def escapeLength? : Char → Option Nat
  | 'x' => some 2
  | 'u' => some 4
  | 'U' => some 8
  | _ => none

/-- The character that hexadecimal digits write. -/
def charOfHex? (digits : List Char) : Option Char :=
  let n := hexNumber digits
  if digits.all isHexDigit ∧ n.isValidChar then some (Char.ofNat n) else none

/-- Reads an escape behind its backslash. -/
def escape? : List Char → Option (Char × List Char)
  | [] => none
  | letter :: rest =>
    match shortEscape? letter, escapeLength? letter with
    | some c, _ => some (c, rest)
    | none, some length =>
      if rest.length < length then none
      else (charOfHex? (rest.take length)).map fun c => (c, rest.drop length)
    | none, none => none

/-! ### Texts of one line -/

/-- Reads a text behind its opening quote, which is `quote`; `fuel` bounds its length. -/
def lineTail? (quote : Char) : (fuel : Nat) → List Char → Option (List Char × List Char)
  | 0, _ | _, [] => none
  | fuel + 1, c :: cs =>
    if c = quote then some ([], cs)
    else if c = '\\' ∧ quote = '"' then do
      let (c, rest) ← escape? cs
      let (chars, rest) ← lineTail? quote fuel rest
      return (c :: chars, rest)
    else if isPlain c then (lineTail? quote fuel cs).map fun (chars, rest) => (c :: chars, rest)
    else none

/-- Reads a quoted text of one line. -/
def readLine? : List Char → Option (List Char × List Char)
  | [] => none
  | quote :: cs =>
    if quote = '"' ∨ quote = single then lineTail? quote (cs.length + 1) cs else none

/-! ### Texts of several lines -/

/-- The text behind a line end, if there is one. -/
def lineEnd? : List Char → Option (List Char)
  | '\n' :: rest | '\r' :: '\n' :: rest => some rest
  | _ => none

/-- Drops blanks and line ends; whether there was a line end comes with the rest. -/
def dropLines : List Char → Bool × List Char
  | '\r' :: '\n' :: rest => (true, (dropLines rest).2)
  | c :: rest =>
    if c = '\n' then (true, (dropLines rest).2)
    else if c = ' ' ∨ c = '\t' then dropLines rest
    else (false, c :: rest)
  | [] => (false, [])

/-- Reads a text of several lines behind its opening quotes. A backslash at the end of a line passes
over the blanks and line ends in front of the next character. -/
def linesTail? (quote : Char) : (fuel : Nat) → List Char → Option (List Char × List Char)
  | 0, _ | _, [] => none
  | fuel + 1, c :: cs =>
    let follow (rest : List Char) :=
      (linesTail? quote fuel rest).map fun (chars, rest) => (c :: chars, rest)
    if c = quote then
      let more := cs.takeWhile (· = quote)
      if more.length < 2 then follow cs
      else
        let kept := min more.length 4 - 2
        some (more.take kept, cs.drop (kept + 2))
    else if c = '\\' ∧ quote = '"' then
      match dropLines cs with
      | (true, rest) => linesTail? quote fuel rest
      | (false, _) => do
        let (c, rest) ← escape? cs
        let (chars, rest) ← linesTail? quote fuel rest
        return (c :: chars, rest)
    else if c = '\r' ∧ cs.head? ≠ some '\n' then none
    else if isPlain c ∨ c = '\n' ∨ c = '\r' then follow cs
    else none

/-- Reads a quoted text of one or several lines. -/
def read? : List Char → Option (List Char × List Char)
  | first :: second :: third :: cs =>
    if first = second ∧ second = third ∧ (first = '"' ∨ first = single) then
      linesTail? first (cs.length + 1) ((lineEnd? cs).getD cs)
    else readLine? (first :: second :: third :: cs)
  | cs => readLine? cs

end ModuleBundler.Toml.Quoted
