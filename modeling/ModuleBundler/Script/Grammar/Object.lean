import ModuleBundler.Script.Grammar.Function

/-!
# Members of objects and classes

The words `get`, `set`, `async` and `accessor` in front of a member say what kind of member it is,
unless they are the name of a member themselves. What stands behind them decides.

## Main definitions

* `Script.MemberHead`, `Script.Parser.memberHead` — the words in front of the name of a member.
* `Script.Parser.objectLiteral` — an object literal.
-/

namespace ModuleBundler.Script

/-- What stands in front of the name of a member. -/
inductive MemberHead where
  | plain
  | getter
  | setter
  | accessor
  | function (form : FunctionForm)
  deriving DecidableEq

namespace Parser

/-- Can the token start the name of a member? -/
def startsMemberName (token : Token) : Bool :=
  match token.kind with
  | .word _ | .string _ | .number | .bigint | .privateName | .punct .openBracket => true
  | _ => false

/-- Passes over the words in front of the name of a member. -/
def memberHead : Parser MemberHead := do
  let second ← peekSecond
  let nameFollows := second.any startsMemberName
  let sameLine := second.any fun token => !token.newline
  let starFollows := second.any fun token => token.kind == .punct (.operator .multiply)
  match (← peek).kind with
  | .punct (.operator .multiply) =>
    advance
    return .function ⟨false, true, false⟩
  | .word (some .get_) =>
    unless nameFollows do return .plain
    advanceKeyword
    return .getter
  | .word (some .set_) =>
    unless nameFollows do return .plain
    advanceKeyword
    return .setter
  | .word (some .accessor_) =>
    unless nameFollows && sameLine do return .plain
    advanceKeyword
    return .accessor
  | .word (some .async_) =>
    unless (nameFollows || starFollows) && sameLine do return .plain
    advanceKeyword
    return .function ⟨true, ← eatPunct (.operator .multiply), false⟩
  | _ => return .plain

/-- A member that is a function: a method, a getter or a setter. -/
def methodMember (kind : MemberKind) (isStatic : Bool) (form : FunctionForm) (key : Node) :
    Parser Node := do
  let method ← methodRest form
  return .mk (.member kind isStatic) [key, method]

/-- A function that is neither asynchronous nor a generator. -/
def plainForm : FunctionForm :=
  ⟨false, false, false⟩

/-- A member of an object literal whose name stands alone: it needs a value, parameters, or to be a
name itself. -/
def plainMember : Parser Node := do
  let second ← peekSecond
  let continues := second.any fun token =>
    token.kind == .punct .colon || token.kind == .punct .openParen
  if (← atIdentifier) && !continues then
    let name ← identifier
    if ← eatPunct (.assign none) then
      let value ← withIn assignment
      return .mk (.member .unsettled false) [name, value]
    else return .mk (.member .shorthand false) [name]
  else
    let key ← memberName
    if ← atPunct .openParen then methodMember .method false plainForm key
    else
      expectPunct .colon
      let value ← withIn assignment
      return .mk (.member .valued false) [key, value]

/-- A member of an object literal. -/
def literalMember : Parser Node := do
  if ← eatPunct .ellipsis then
    let value ← withIn assignment
    return .mk .spread [value]
  match ← memberHead with
  | .plain => plainMember
  | .getter => methodMember .getter false plainForm (← memberName)
  | .setter => methodMember .setter false plainForm (← memberName)
  | .function form => methodMember .method false form (← memberName)
  | .accessor => unexpected

/-- An object literal. -/
def objectLiteral : Parser Node := do
  expectPunct .openBrace
  let (members, trailingComma) ← commaSeparated .closeBrace literalMember
  expectPunct .closeBrace
  return .mk (.object trailingComma) members

end Parser

end ModuleBundler.Script
