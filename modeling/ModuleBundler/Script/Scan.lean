import ModuleBundler.Script.Scan.Name
import ModuleBundler.Script.Scan.Number
import ModuleBundler.Script.Scan.Quoted

/-!
# Reading the next token

The grammar decides how a slash or a closing brace is to be read, so tokens are read one at a time.
Reading yields the token with the text that starts at it and the text behind it; from the former the
grammar reads the token again as a regular expression or as the next piece of a template.

## Main definitions

* `Script.Lexeme` — a token between the text that starts at it and the text behind it.
* `Script.scanToken` — the next token.
* `Script.Lexeme.reread` — the other two readings of a token.
-/

namespace ModuleBundler.Script

/-- A token with the text from its start on and the text behind it. -/
structure Lexeme where
  token : Token
  here : List Char
  rest : List Char
  deriving DecidableEq

/-- The token of the given kind at the start of a text, where `rest` is the text behind it. -/
def lexeme (place : Rest) (kind : TokenKind) (rest : List Char) (text : Name) (escaped : Bool) :
    Lexeme :=
  ⟨⟨kind, place.newline, text, escaped⟩, place.chars, rest⟩

/-- The punctuator at the start of a text and its length. A question mark and a point are one
punctuator unless a digit follows. -/
def punctAt? (cs : List Char) : Option (Punct × Nat) :=
  match cs with
  | '?' :: '.' :: c :: _ => if c.isDigit then some (.question, 1) else some (.optionalDot, 2)
  | ['?', '.'] => some (.optionalDot, 2)
  | _ =>
    (punctuators.find? fun entry => entry.1.isPrefixOf cs).map fun entry =>
      (entry.2, entry.1.length)

/-- The token at a place that is known not to be a blank or a comment. -/
def tokenAt (place : Rest) : Except Fault Lexeme :=
  match place.chars with
  | [] => .ok (lexeme place .endOfSource [] [] false)
  | c :: cs =>
    if isNameStart c ∨ c = '\\' then
      match scanName (c :: cs) with
      | some name =>
        .ok (lexeme place (.word (keywordOf? name.name)) name.rest name.name name.escaped)
      | none => .error .malformedEscape
    else if c.isDigit ∨ (c = '.' ∧ cs.head?.any Char.isDigit) then
      match scanNumber (c :: cs) with
      | some number =>
        .ok (lexeme place (if number.big then .bigint else .number) number.rest number.text false)
      | none => .error .malformedNumber
    else if c = '"' ∨ c = '\'' then
      (scanString c 0 cs).map fun text =>
        let value := textOfPoints text.points
        lexeme place (.string value.2) text.rest value.1 false
    else if c = templateMark then
      (scanTemplate 0 cs).map fun piece =>
        lexeme place (.template piece.closes piece.valid) piece.rest [] false
    else if c = '#' then
      match scanName cs with
      | some name => .ok (lexeme place .privateName name.rest name.name name.escaped)
      | none => .error .unexpectedCharacter
    else
      match punctAt? (c :: cs) with
      | some (punct, length) => .ok (lexeme place (.punct punct) (cs.drop (length - 1)) [] false)
      | none => .error .unexpectedCharacter

/-- Skips blanks and comments and reads the token behind them. -/
def scanToken (goal : Goal) (chars : List Char) : Except Fault Lexeme := do
  tokenAt (← skipTrivia goal .blank chars false)

/-- The ways to read a token again. -/
inductive Rereading where
  /-- A slash as the start of a regular expression. -/
  | regex
  /-- A closing brace as the start of the next piece of a template. -/
  | template
  deriving DecidableEq

/-- Can the token be read again in this way? -/
def Rereading.applies : Rereading → TokenKind → Bool
  | regex, .punct (.operator .divide) | regex, .punct (.assign (some .divide)) => true
  | template, .punct .closeBrace => true
  | _, _ => false

/-- Reads a token again. -/
def Lexeme.reread (current : Lexeme) (way : Rereading) : Except Fault Lexeme :=
  let place : Rest := ⟨current.here, current.token.newline⟩
  if way.applies current.token.kind then
    match way with
    | .regex =>
      (scanRegex (current.here.drop 1)).map fun rest => lexeme place .regex rest [] false
    | .template =>
      (scanTemplate 0 (current.here.drop 1)).map fun piece =>
        lexeme place (.template piece.closes piece.valid) piece.rest [] false
  else .error .unexpectedToken

end ModuleBundler.Script
