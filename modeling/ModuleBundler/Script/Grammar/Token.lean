import ModuleBundler.Script.Parser

/-!
# Common parsers

Punctuators, keywords, names and lists, which all parts of the grammar use.

## Main definitions

* `Script.Parser.eatPunct`, `Script.Parser.expectPunct` — punctuators.
* `Script.Parser.eatKeyword`, `Script.Parser.expectKeyword` — keywords.
* `Script.Parser.endStatement` — the end of a statement.
* `Script.Parser.repeatUntil`, `Script.Parser.commaSeparated` — lists.
* `Script.Parser.identifier`, `Script.Parser.propertyName` — names.
-/

namespace ModuleBundler.Script.Parser

/-! ### The rules to which other rules refer -/

/-- An expression without a comma. -/
def assignment : Parser Node :=
  call .assignment

/-- Operands and operators that bind tighter than the given precedence. -/
def operators (floor : Nat) : Parser Node :=
  call (.operators floor)

/-- An operand with the operators in front of it. -/
def unary : Parser Node :=
  call .unary

/-- An operand without operators, with the links behind it. -/
def operand (set : LinkSet) : Parser Node :=
  call (.operand set)

/-- A name or a pattern that binds names. -/
def binding : Parser Node :=
  call .binding

/-- A statement or declaration. -/
def statement (place : Place) : Parser Node :=
  call (.statement place)

/-! ### Punctuators and keywords -/

/-- Is the next token the given punctuator? -/
def atPunct (p : Punct) : Parser Bool := do
  return (← peek).kind == .punct p

/-- Passes over the given punctuator if it is next. -/
def eatPunct (p : Punct) : Parser Bool := do
  if ← atPunct p then
    advance
    return true
  return false

/-- Passes over the given punctuator, which must be next. -/
def expectPunct (p : Punct) : Parser Unit := do
  unless ← eatPunct p do unexpected

/-- Is the next token the given keyword? -/
def atKeyword (k : Keyword) : Parser Bool := do
  return (← peek).kind == .word (some k)

/-- Passes over the next token as a keyword, which may not be written with escapes. -/
def advanceKeyword : Parser Unit := do
  if (← peek).escaped then fail .escapedKeyword
  advance

/-- Passes over the given keyword if it is next. -/
def eatKeyword (k : Keyword) : Parser Bool := do
  if ← atKeyword k then
    advanceKeyword
    return true
  return false

/-- Passes over the given keyword, which must be next. -/
def expectKeyword (k : Keyword) : Parser Unit := do
  unless ← eatKeyword k do unexpected

/-- Ends a statement: a semicolon, or a place where one may be left out. -/
def endStatement : Parser Unit := do
  let token ← peek
  if token.kind == .punct .semicolon then advance
  else if token.newline || token.kind == .punct .closeBrace || token.kind == .endOfSource then
    return ()
  else fail .missingSemicolon

/-- Can a statement end before the next token? -/
def atStatementEnd : Parser Bool := do
  let token ← peek
  return token.newline || token.kind == .punct .semicolon || token.kind == .punct .closeBrace ||
    token.kind == .endOfSource

/-- Is the whole text read? -/
def atEnd : Parser Bool := do
  return (← peek).kind == .endOfSource

/-! ### Contexts -/

/-- Runs a parser where the operator `in` is allowed. -/
def withIn {α : Type} (parser : Parser α) : Parser α :=
  withFlags (fun flags => { flags with allowIn := true }) parser

/-- Runs a parser where the operator `in` is not allowed. -/
def withoutIn {α : Type} (parser : Parser α) : Parser α :=
  withFlags (fun flags => { flags with allowIn := false }) parser

/-- Runs a parser where other words are operators. -/
def withOperatorWords {α : Type} (allowAwait allowYield : Bool) (parser : Parser α) : Parser α :=
  withFlags (fun flags => { flags with allowAwait, allowYield }) parser

/-! ### Trees -/

/-- A part that is not there. -/
def absent : Parser Node :=
  return .absent

/-! ### Lists -/

/-- Runs a parser until a stop is reached. -/
def repeatUntil (stop : Parser Bool) (item : Parser Node) : Parser (List Node) :=
  loop (fun reversed => do
    if ← stop then return .inr reversed.reverse
    return .inl ((← item) :: reversed)) []

/-- Items between commas up to a closing punctuator, which is not passed over. The result says
whether a comma stands behind the last item. -/
def commaSeparated (close : Punct) (item : Parser Node) : Parser (List Node × Bool) :=
  loop (fun reversed => do
    if ← atPunct close then return .inr (reversed.reverse, !reversed.isEmpty)
    let reversed := (← item) :: reversed
    if ← eatPunct .comma then return .inl reversed
    unless ← atPunct close do unexpected
    return .inr (reversed.reverse, false)) []

/-! ### Names -/

/-- Can the next token be an identifier, the words `await` and `yield` included? -/
def atIdentifier : Parser Bool := do
  match (← peek).kind with
  | .word none => return true
  | .word (some keyword) => return !keyword.isReserved
  | _ => return false

/-- Fails when the next token is `await` or `yield` in a place where these are operators. -/
def rejectOperatorWord : Parser Unit := do
  let token ← peek
  let flags ← flags
  if flags.allowAwait && token.kind == .word (some .await_) then fail .reservedName
  if flags.allowYield && token.kind == .word (some .yield_) then fail .reservedName

/-- Reads an identifier. -/
def identifier : Parser Node := do
  unless ← atIdentifier do unexpected
  rejectOperatorWord
  let token ← peek
  advance
  return .mk (.identifier token.text) []

/-- Reads a name that may be any word. -/
def propertyName : Parser Node := do
  let token ← peek
  match token.kind with
  | .word _ =>
    advance
    return .mk (.propertyName token.text) []
  | _ => unexpected

end ModuleBundler.Script.Parser
