import ModuleBundler.Script.Grammar.Loop
import ModuleBundler.Script.Grammar.ModuleItem

/-!
# Statements

The first word of a statement tells what it is. A name with a colon behind it is a label, and all
else is an expression.

## Main definitions

* `Script.Parser.statementRule` — a statement or declaration.
-/

namespace ModuleBundler.Script.Parser

/-- Statements in braces. -/
def block : Parser Node := do
  expectPunct .openBrace
  let statements ← repeatUntil (atPunct .closeBrace) (statement .list)
  expectPunct .closeBrace
  return .mk .block statements

/-- An expression as a statement. -/
def expressionStatement : Parser Node := do
  let node ← withIn expression
  endStatement
  return .mk .expressionStatement [node]

/-! ### Choices -/

/-- An `if` statement. -/
def ifStatement : Parser Node := do
  expectKeyword .if_
  let condition ← condition
  let whenTrue ← statement .alone
  let whenFalse ← if ← eatKeyword .else_ then statement .alone else absent
  return .mk .ifStatement [condition, whenTrue, whenFalse]

/-- Is the next token the end of a case? -/
def atCaseEnd : Parser Bool := do
  match (← peek).kind with
  | .punct .closeBrace | .word (some .case_) | .word (some .default_) => return true
  | _ => return false

/-- A case of a `switch` statement, or its default. -/
def switchCase : Parser Node := do
  let value ←
    if ← eatKeyword .default_ then absent
    else
      expectKeyword .case_
      withIn expression
  expectPunct .colon
  let statements ← repeatUntil atCaseEnd (statement .list)
  return .mk .switchCase (value :: statements)

/-- A `switch` statement. -/
def switchStatement : Parser Node := do
  expectKeyword .switch_
  let value ← condition
  expectPunct .openBrace
  let cases ← repeatUntil (atPunct .closeBrace) switchCase
  expectPunct .closeBrace
  return .mk .switchStatement (value :: cases)

/-- A `with` statement. -/
def withStatement : Parser Node := do
  expectKeyword .with_
  let object ← condition
  return .mk .withStatement [object, ← statement .alone]

/-! ### Jumps -/

/-- A `break` or `continue` statement, with the label to jump to if there is one. -/
def jump (keyword : Keyword) (kind : NodeKind) : Parser Node := do
  expectKeyword keyword
  let label ← if ← atStatementEnd then absent else identifier
  endStatement
  return .mk kind [label]

/-- A `return` statement, which stands in a function. -/
def returnStatement : Parser Node := do
  unless (← flags).allowReturn do fail .misplacedReturn
  expectKeyword .return_
  let value ← if ← atStatementEnd then absent else withIn expression
  endStatement
  return .mk .returnStatement [value]

/-- A `throw` statement, whose value starts on the same line. -/
def throwStatement : Parser Node := do
  expectKeyword .throw_
  if (← peek).newline then unexpected
  let value ← withIn expression
  endStatement
  return .mk .throwStatement [value]

/-- The clause that catches what a block throws. -/
def catchClause : Parser Node := do
  expectKeyword .catch_
  let target ←
    if ← eatPunct .openParen then
      let target ← binding
      expectPunct .closeParen
      pure target
    else absent
  return .mk .catchClause [target, ← block]

/-- A `try` statement, which catches or has a last block. -/
def tryStatement : Parser Node := do
  expectKeyword .try_
  let body ← block
  let handler ← if ← atKeyword .catch_ then catchClause else absent
  if ← eatKeyword .finally_ then
    let last ← block
    return .mk .tryStatement [body, handler, last]
  else
    if handler.kind == .absent then unexpected
    return .mk .tryStatement [body, handler, ← absent]

/-! ### Statements that may be expressions -/

/-- A statement that starts with the word `let`. -/
def letStatement (place : Place) : Parser Node := do
  let second := ((← peekSecond).map Token.kind).getD .endOfSource
  if (← peek).escaped then expressionStatement
  else
    match letUse place second with
    | .expression => expressionStatement
    | .declaration =>
      if place = .alone then fail .misplacedDeclaration
      variableStatement .lexical
    | .name =>
      let name ← identifier
      endStatement
      return .mk .expressionStatement [name]

/-- A label and the statement behind it. -/
def labeledStatement : Parser Node := do
  let label ← identifier
  expectPunct .colon
  return .mk .labeledStatement [label, ← statement .alone]

/-- A statement that starts with a name: a declaration, a label or an expression. -/
def nameStatement (place : Place) : Parser Node := do
  if ← atAsyncFunction then return ← functionDeclaration place
  if let some kind ← usingKind? then
    if place = .alone then fail .misplacedDeclaration
    return ← variableStatement kind
  let isLabel := (← peekSecond).any fun token => token.kind == .punct .colon
  if isLabel && (← atIdentifier) then labeledStatement else expressionStatement

/-- An import or export declaration inside a block. -/
def nestedDeclaration : Parser Node := do
  if ← atKeyword .import_ then
    let _ ← importDeclaration
    return .mk .moduleDeclaration []
  else
    let declaration ← exportDeclaration
    return .mk .moduleDeclaration declaration.exports.nodes

/-- A statement that starts with a keyword. -/
def keywordStatement (place : Place) : Keyword → Parser Node
  | .var_ => variableStatement .varying
  | .const_ => do
    if place = .alone then fail .misplacedDeclaration
    variableStatement .constant
  | .let_ => letStatement place
  | .function_ => functionDeclaration place
  | .class_ => classDeclaration place
  | .if_ => ifStatement
  | .for_ => forStatement
  | .while_ => whileStatement
  | .do_ => doWhileStatement
  | .switch_ => switchStatement
  | .with_ => withStatement
  | .break_ => jump .break_ .breakStatement
  | .continue_ => jump .continue_ .continueStatement
  | .return_ => returnStatement
  | .throw_ => throwStatement
  | .try_ => tryStatement
  | .debugger_ => do
    advanceKeyword
    endStatement
    return .mk .debuggerStatement []
  | .export_ => nestedDeclaration
  | .import_ => do
    if ← atImportDeclaration then nestedDeclaration else expressionStatement
  | _ => nameStatement place

/-- A statement or declaration. -/
def statementRule (place : Place) : Parser Node := do
  let token ← peek
  match token.kind with
  | .punct .openBrace => block
  | .punct .semicolon =>
    advance
    return .mk .emptyStatement []
  | .punct .decorator => classDeclaration place
  | .word (some keyword) => keywordStatement place keyword
  | .word none => nameStatement place
  | _ => expressionStatement

end ModuleBundler.Script.Parser
