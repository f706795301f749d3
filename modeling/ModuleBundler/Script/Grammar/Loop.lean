import ModuleBundler.Script.Grammar.Declaration
import ModuleBundler.Script.Grammar.Target

/-!
# Loops

The head of a `for` statement starts with a declaration, an expression or nothing. The word behind
it tells a loop over the keys or elements of a value from one with a condition.

## Main definitions

* `Script.Parser.forStatement` — every form of `for`.
* `Script.Parser.whileStatement`, `Script.Parser.doWhileStatement`.
-/

namespace ModuleBundler.Script.Parser

/-- An expression in parentheses, as the head of a statement. -/
def condition : Parser Node := do
  expectPunct .openParen
  let node ← withIn expression
  expectPunct .closeParen
  return node

/-- The statement that a loop repeats. -/
def loopBody : Parser Node := do
  statement .alone

/-! ### The forms of `for` -/

/-- A loop over the keys of a value, behind the word `in`. -/
def forInRest (target : Node) : Parser Node := do
  let object ← withIn expression
  expectPunct .closeParen
  return .mk .forInStatement [target, object, ← loopBody]

/-- A loop over the elements of a value, behind the word `of`. -/
def forOfRest (isAwait : Bool) (target : Node) : Parser Node := do
  let object ← withIn assignment
  expectPunct .closeParen
  return .mk (.forOfStatement isAwait) [target, object, ← loopBody]

/-- An expression that may be left out in front of the given punctuator. -/
def optionalExpression (stop : Punct) : Parser Node := do
  let node ← if ← atPunct stop then absent else withIn expression
  expectPunct stop
  return node

/-- A loop with a condition, behind its initial part. -/
def forRest (isAwait : Bool) (initial : Node) : Parser Node := do
  if isAwait then unexpected
  expectPunct .semicolon
  let condition ← optionalExpression .semicolon
  let update ← optionalExpression .closeParen
  return .mk .forStatement [initial, condition, update, ← loopBody]

/-- A loop whose head starts with a declaration. -/
def forDeclaration (isAwait : Bool) (kind : VariableKind) :
    Parser Node := do
  let declaration ← withoutIn (variableList kind)
  if ← atKeyword .of_ then
    advanceKeyword
    forOfRest isAwait declaration
  else if ← atKeyword .in_ then
    if isAwait then unexpected
    advanceKeyword
    forInRest declaration
  else
    checkValues declaration
    forRest isAwait declaration

/-- A loop whose head starts with an expression. -/
def forExpression (isAwait : Bool) : Parser Node := do
  let token ← peek
  let second ← peekSecond
  let isAsyncOf := token.kind == .word (some .async_) && !token.escaped &&
    second.any fun token => token.kind == .word (some .of_)
  let initial ← withoutIn expression
  if ← atKeyword .of_ then
    if isAsyncOf && !isAwait then unexpected
    let target ← assignable initial
    advanceKeyword
    forOfRest isAwait target
  else if ← atKeyword .in_ then
    if isAwait then unexpected
    let target ← assignable initial
    advanceKeyword
    forInRest target
  else forRest isAwait initial

/-- The kind of declaration that the head of a loop starts with. -/
def headKind? : Parser (Option VariableKind) := do
  match (← peek).kind with
  | .word (some .var_) => return some .varying
  | .word (some .const_) => return some .constant
  | .word (some .let_) => return if ← letStarts then some .lexical else none
  | .word (some .using_) =>
    if (← peekSecond).any fun token => token.kind == .word (some .of_) then return none
    usingKind?
  | _ => usingKind?

/-- A `for` statement. -/
def forStatement : Parser Node := do
  expectKeyword .for_
  let isAwait ← eatKeyword .await_
  if isAwait && !(← flags).allowAwait then unexpected
  expectPunct .openParen
  if ← atPunct .semicolon then forRest isAwait (← absent)
  else
    match ← headKind? with
    | some kind => forDeclaration isAwait kind
    | none => forExpression isAwait

/-! ### Other loops -/

/-- A `while` statement. -/
def whileStatement : Parser Node := do
  expectKeyword .while_
  let condition ← condition
  return .mk .whileStatement [condition, ← loopBody]

/-- A `do` statement; the semicolon behind it may be left out everywhere. -/
def doWhileStatement : Parser Node := do
  expectKeyword .do_
  let body ← loopBody
  expectKeyword .while_
  let condition ← condition
  let _ ← eatPunct .semicolon
  return .mk .doWhileStatement [body, condition]

end ModuleBundler.Script.Parser
