import ModuleBundler.Script.Grammar.Operation

/-!
# Assignments and arrow functions

An assignment, an arrow function and a `yield` are the expressions that bind most loosely, the comma
apart. What stands in front of an assignment operator or an arrow is read as an expression and then
found to be a pattern.

## Main definitions

* `Script.Parser.arrowFunction` — an arrow function from its arrow on.
* `Script.Parser.assignmentRule` — an expression without a comma.
-/

namespace ModuleBundler.Script.Parser

/-! ### Arrow functions -/

/-- An arrow function from its arrow on. -/
def arrowFunction (isAsync : Bool) (items : List Node) : Parser Node := do
  unless ← atArrow do unexpected
  advance
  let form : FunctionForm := ⟨isAsync, false, true⟩
  let body ←
    if ← atPunct .openBrace then functionBody form
    else withOperatorWords isAsync false assignment
  return .mk (.function form) [.absent, .mk .parameters items, body]

/-- Does an arrow function with a single name in front of its arrow start here, behind the word
`async` if the flag says so? -/
def atNamedArrow (isAsync : Bool) : Parser Bool := do
  let token ← peek
  let arrow (token : Token) : Bool := token.kind == .punct .arrow
  if isAsync then
    unless token.kind == .word (some .async_) && !token.escaped do return false
    let some second ← peekSecond | return false
    if second.newline then return false
    match second.kind with
    | .word _ => return (← peekThird).any arrow
    | _ => return false
  else
    unless ← atIdentifier do return false
    return (← peekSecond).any arrow

/-- The parameters that the operand in front of an arrow writes: an expression in parentheses, or
the arguments of a call of the name `async`, if the operand starts with this word. -/
def arrowHead? (startsAsync : Bool) (node : Node) : Option (Bool × Bool × List Node) :=
  match node with
  | .mk (.parenthesized _) items => some (false, false, items)
  | .mk .call [.mk (.identifier _) [], .mk (.arguments trailingComma) items] =>
    if startsAsync then some (true, trailingComma, items) else none
  | _ => none

/-- Is `await` one of the names that patterns bind? -/
def bindsAwait (items : List Node) : Bool :=
  (Node.boundNamesOfAll items).contains ['a', 'w', 'a', 'i', 't']

/-- An arrow function whose head has been read as an operand. -/
def arrowFromHead (startsAsync : Bool) (head : Node) : Parser Node := do
  match arrowHead? startsAsync head with
  | some (isAsync, trailingComma, items) =>
    let parameters ← bindable trailingComma items
    if isAsync && bindsAwait parameters then fail .reservedName
    arrowFunction isAsync parameters
  | none => unexpected

/-! ### Expressions without a comma -/

/-- Can the operand of `yield` be left out here? -/
def yieldsNothing : Parser Bool := do
  let token ← peek
  match token.kind with
  | .punct .closeParen | .punct .closeBracket | .punct .colon | .punct .comma
  | .word (some .in_) => return true
  | _ => atStatementEnd

/-- The operator `yield` with its operand. -/
def yieldRule : Parser Node := do
  advanceKeyword
  if ← yieldsNothing then return .mk (.yield false) [← absent]
  let delegates ← eatPunct (.operator .multiply)
  return .mk (.yield delegates) [← assignment]

/-- The choice between two expressions, behind the condition. -/
def choice (condition : Node) : Parser Node := do
  expectPunct .question
  let whenTrue ← withIn assignment
  expectPunct .colon
  let whenFalse ← assignment
  return .mk .conditional [condition, whenTrue, whenFalse]

/-- What may follow the operands of an expression: a choice, an assignment, an arrow or nothing. -/
def assignmentTail (startsAsync : Bool) (left : Node) : Parser Node := do
  match (← peek).kind with
  | .punct .arrow => arrowFromHead startsAsync left
  | .punct .question => choice left
  | .punct (.assign none) =>
    let target ← assignable left
    advance
    return .mk (.assign none) [target, ← assignment]
  | .punct (.assign (some op)) =>
    place left
    advance
    return .mk (.assign (some op)) [left, ← assignment]
  | _ => return left

/-- An expression without a comma. -/
def assignmentRule : Parser Node := do
  let first ← peek
  let startsAsync := first.kind == .word (some .async_) && !first.escaped
  if (← flags).allowYield && (← atKeyword .yield_) then yieldRule
  else if ← atNamedArrow false then
    let name ← identifier
    arrowFunction false [name]
  else if ← atNamedArrow true then
    advance
    let name ← withFlags (fun flags => { flags with allowAwait := true }) identifier
    arrowFunction true [name]
  else assignmentTail startsAsync (← operators 0)

end ModuleBundler.Script.Parser
