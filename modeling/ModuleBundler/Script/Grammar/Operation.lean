import ModuleBundler.Script.Grammar.Operand

/-!
# Operators

Operators are read by precedence: a rule is told how tightly the operators must bind that it may
read. Two combinations need parentheses: an operator in front of the base of a power, and the
operator for a missing value beside the logical ones.

## Main definitions

* `Script.Parser.unaryRule` — an operand with the operators in front of it and behind it.
* `Script.Parser.operatorsRule` — operands with operators between them.
-/

namespace ModuleBundler.Script.Parser

/-- The operator in front of an operand that a token is. -/
def unaryOperator? : TokenKind → Option UnaryOperator
  | .word (some .delete_) => some .delete
  | .word (some .void_) => some .void
  | .word (some .typeof_) => some .typeof
  | .punct (.operator .add) => some .plus
  | .punct (.operator .subtract) => some .minus
  | .punct .complement => some .complement
  | .punct .not => some .not
  | _ => none

/-- The operator between operands that a token is. -/
def operator? (allowIn : Bool) : TokenKind → Option Operator
  | .word (some .in_) => if allowIn then some .isIn else none
  | .word (some .instanceof_) => some .isInstance
  | .punct (.operator op) => some op
  | _ => none

/-- An operand with the operators behind it. -/
def updateRule : Parser Node := do
  let operand ← operand .all
  let token ← peek
  if (token.kind == .punct .increment || token.kind == .punct .decrement) && !token.newline then
    place operand
    advance
    return .mk (.update false) [operand]
  else return operand

/-- An operand with the operators in front of it and behind it. -/
def unaryRule : Parser Node := do
  let token ← peek
  let flags ← flags
  if let some op := unaryOperator? token.kind then
    advanceKeyword
    return .mk (.unary op) [← unary]
  else if token.kind == .punct .increment || token.kind == .punct .decrement then
    advance
    let operand ← unary
    place operand
    return .mk (.update true) [operand]
  else if flags.allowAwait && token.kind == .word (some .await_) then
    advanceKeyword
    return .mk .await [← unary]
  else updateRule

/-- Is the tree an operator with its operand behind it? -/
def isPrefixed (node : Node) : Bool :=
  match node.kind with
  | .unary _ | .await => true
  | _ => false

/-- Do the operators of a tree and of one of its operands need parentheses to stand together? -/
def clashes (op : Operator) (operand : Node) : Bool :=
  match op, operand.kind with
  | .coalesce, .binary .and | .coalesce, .binary .or => true
  | .and, .binary .coalesce | .or, .binary .coalesce => true
  | _, _ => false

/-- The operators that bind tighter than `floor`, behind the operand on their left. -/
def operatorTail (floor : Nat) (left : Node) : Parser Node :=
  loop (fun left => do
    let some op := operator? (← flags).allowIn (← peek).kind | return .inr left
    unless floor < op.precedence do return .inr left
    if op = .power && isPrefixed left then unexpected
    advanceKeyword
    let right ← operators (if op = .power then op.precedence - 1 else op.precedence)
    if clashes op left || clashes op right then fail .mixedOperators
    return .inl (.mk (.binary op) [left, right])) left

/-- A private name, which is the left operand of the operator `in`. -/
def privateOperand (floor : Nat) : Parser Node := do
  let name ← property
  unless (← flags).allowIn && floor < Operator.isIn.precedence do unexpected
  unless ← atKeyword .in_ do unexpected
  return name

/-- Operands with operators between them that bind tighter than `floor`. -/
def operatorsRule (floor : Nat) : Parser Node := do
  let left ←
    if (← peek).kind == .privateName then privateOperand floor else unary
  operatorTail floor left

end ModuleBundler.Script.Parser
