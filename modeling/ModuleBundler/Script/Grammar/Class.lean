import ModuleBundler.Script.Grammar.Object

/-!
# Classes

The members of a class are methods, accessors, fields and static blocks. The word `static` is a name
unless a member follows it. The value of a field is read in a context of its own.

## Main definitions

* `Script.Parser.classRule` — a class from its decorators on.
* `Script.Parser.classMember` — a member of a class.
-/

namespace ModuleBundler.Script.Parser

/-- A decorator. -/
def decorator : Parser Node := do
  expectPunct .decorator
  let value ← operand .decorating
  return .mk .decorator [value]

/-- The decorators in front of a class or member. -/
def decorators : Parser (List Node) :=
  repeatUntil (return !(← atPunct .decorator)) decorator

/-- The value of a field and the end of its declaration. -/
def fieldRest : Parser Node := do
  let value ←
    if ← eatPunct (.assign none) then
      withIn (withOperatorWords false false assignment)
    else absent
  endStatement
  return value

/-- The name of a member of a class, which may be private. -/
def classMemberName : Parser Node := do
  let token ← peek
  match token.kind with
  | .privateName =>
    advance
    return .mk (.privateName token.text) []
  | _ => memberName

/-- The statements of a static block. -/
def staticBlock : Parser Node :=
  withFlags (fun _ =>
    { allowIn := true
      allowAwait := true
      allowYield := false
      allowReturn := false }) do
    expectPunct .openBrace
    let statements ← repeatUntil (atPunct .closeBrace) (statement .list)
    expectPunct .closeBrace
    return .mk .staticBlock statements

/-- What follows the word `static` in a class. -/
inductive StaticUse where
  | name
  | modifier
  | block

/-- How the next token is to be read if it is the word `static`. -/
def staticUse : Parser StaticUse := do
  unless ← atKeyword .static_ do return .name
  let some second ← peekSecond | return .name
  if second.kind == .punct .openBrace then return .block
  if startsMemberName second || second.kind == .punct (.operator .multiply) then return .modifier
  return .name

/-- A member of a class behind its decorators and the word `static`. -/
def classMemberRest (isStatic : Bool) : Parser Node := do
  let head ← memberHead
  let key ← classMemberName
  match head with
  | .getter => methodMember .getter isStatic plainForm key
  | .setter => methodMember .setter isStatic plainForm key
  | .function form => methodMember .method isStatic form key
  | .accessor =>
    let value ← fieldRest
    return .mk (.member .accessor isStatic) [key, value]
  | .plain =>
    if ← atPunct .openParen then methodMember .method isStatic plainForm key
    else
      let value ← fieldRest
      return .mk (.member .field isStatic) [key, value]

/-- A member of a class, with its decorators as its last parts; a semicolon alone is nothing. -/
def classMember : Parser Node := do
  if ← eatPunct .semicolon then return ← absent
  let decorators ← decorators
  let member ←
    match ← staticUse with
    | .name => classMemberRest false
    | .modifier =>
      advanceKeyword
      classMemberRest true
    | .block =>
      advanceKeyword
      staticBlock
  return .mk member.kind (member.children ++ decorators)

/-- A class from its decorators on. It may lack a name. -/
def classRule : Parser Node := do
  let decorators ← decorators
  expectKeyword .class_
  let name ← if ← atIdentifier then identifier else absent
  let heritage ← if ← eatKeyword .extends_ then operand .all else absent
  expectPunct .openBrace
  let members ← repeatUntil (atPunct .closeBrace) classMember
  expectPunct .closeBrace
  return .mk .classDefinition (name :: heritage :: (decorators ++ members))

end ModuleBundler.Script.Parser
