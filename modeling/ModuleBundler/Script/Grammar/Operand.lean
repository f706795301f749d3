import ModuleBundler.Script.Grammar.Class
import ModuleBundler.Script.Grammar.Postfix

/-!
# Operands

An operand is a literal, a name, a function, a class, an expression in parentheses or a construction
with `new`, with the links that follow it.

What stands in parentheses may turn out to be the parameters of an arrow function. When it cannot be
anything else, the arrow must be the next token.

## Main definitions

* `Script.Parser.primary` — operands that do not start with `new`, `super` or `import`.
* `Script.Parser.operandRule` — an operand with its links.
-/

namespace ModuleBundler.Script.Parser

/-- An array literal, in which a comma may stand for an element. -/
def arrayLiteral : Parser Node := do
  expectPunct .openBracket
  let element := do if ← atPunct .comma then absent else withIn argument
  let (elements, trailingComma) ← commaSeparated .closeBracket element
  expectPunct .closeBracket
  return .mk (.array trailingComma) elements

/-- Is the next token an arrow on the line of the last token? -/
def atArrow : Parser Bool := do
  let token ← peek
  return token.kind == .punct .arrow && !token.newline

/-- An expression or rest element in parentheses. -/
def parenthesizedItem : Parser Node := do
  if ← atPunct .ellipsis then
    let rest ← restElement binding
    unless ← atPunct .closeParen do unexpected
    return rest
  else withIn assignment

/-- Is the tree a spread or rest element? -/
def isSpread (node : Node) : Bool :=
  node.kind == .spread

/-- Expressions in parentheses. -/
def parenthesized : Parser Node := do
  expectPunct .openParen
  let (items, trailingComma) ← commaSeparated .closeParen parenthesizedItem
  expectPunct .closeParen
  let headOnly := items.isEmpty || trailingComma || items.any isSpread
  if headOnly then
    unless ← atArrow do unexpected
  return .mk (.parenthesized headOnly) items

/-- Passes over a token that is an operand of its own. -/
def leaf (kind : NodeKind) : Parser Node := do
  let token ← peek
  if token.escaped then fail .escapedKeyword
  advance
  return .mk kind []

/-- A template that stands for a value, in which all escapes are valid. -/
def untaggedTemplate : Parser Node := do
  let node ← template
  if node.kind == .template false then fail .malformedEscape
  return node

/-- A regular expression. -/
def regex : Parser Node := do
  reread .regex
  leaf (.literal .regex)

/-- An operand that a word starts. -/
def wordOperand : Keyword → Parser Node
  | .this_ => leaf .thisValue
  | .null_ => leaf (.literal .nullValue)
  | .true_ => leaf (.literal (.boolean true))
  | .false_ => leaf (.literal (.boolean false))
  | .function_ => functionRule functionName
  | .class_ => classRule
  | .async_ => do if ← atAsyncFunction then functionRule functionName else identifier
  | _ => identifier

/-- An operand that starts with none of `new`, `super` and `import`. -/
def primary : Parser Node := do
  let token ← peek
  match token.kind with
  | .word none => identifier
  | .word (some keyword) => wordOperand keyword
  | .number => leaf (.literal (.number token.text))
  | .bigint => leaf (.literal (.bigint token.text))
  | .string _ => leaf (.literal (.string token.text))
  | .template _ _ => untaggedTemplate
  | .punct .openBracket => arrayLiteral
  | .punct .openBrace => objectLiteral
  | .punct .openParen => parenthesized
  | .punct .decorator => classRule
  | .punct (.operator .divide) | .punct (.assign (some .divide)) => regex
  | _ => unexpected

/-- A construction with `new`, or the value `new.target`. -/
def construct : Parser Node := do
  expectKeyword .new_
  if ← eatPunct .dot then
    expectKeyword .target_
    return .mk .newTarget []
  let callee ← operand .withoutCalls
  let arguments ← if ← atPunct .openParen then callArguments else absent
  return .mk .construct [callee, arguments]

/-- The one or two arguments of a dynamic import. -/
def importArguments : Parser Node :=
  withIn do
    expectPunct .openParen
    let specifier ← assignment
    let mut arguments := [specifier]
    if ← eatPunct .comma then
      unless ← atPunct .closeParen do
        let options ← assignment
        arguments := [specifier, options]
        let _ ← eatPunct .comma
    expectPunct .closeParen
    return .mk .importCall arguments

/-- A dynamic import, or the value `import.meta`. -/
def importOperand (set : LinkSet) : Parser Node := do
  expectKeyword .import_
  if ← eatPunct .dot then
    if ← eatKeyword .meta_ then return .mk .importMeta []
    unless ← eatKeyword .defer_ do expectKeyword .source_
  if set = .withoutCalls then unexpected
  importArguments

/-- The word `super`, which a link follows. -/
def superOperand : Parser Node := do
  let node ← leaf .superValue
  match (← peek).kind with
  | .punct .dot | .punct .openBracket | .punct .openParen => return node
  | _ => unexpected

/-- An operand with its links. -/
def operandRule (set : LinkSet) : Parser Node := do
  let operand ←
    match (← peek).kind with
    | .word (some .new_) => construct
    | .word (some .import_) => importOperand set
    | .word (some .super_) => superOperand
    | _ => primary
  links set operand

end ModuleBundler.Script.Parser
