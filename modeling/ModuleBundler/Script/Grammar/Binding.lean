import ModuleBundler.Script.Grammar.Token

/-!
# Patterns that bind names

Declarations, parameters and `catch` clauses bind the names of a pattern: a name, or an array or
object of patterns, each perhaps with a default value.

## Main definitions

* `Script.Parser.bindingRule` — a name or pattern.
* `Script.Parser.bindingElement` — the same with an optional default value.
* `Script.Parser.patternItems` — elements between commas, the last of which may be a rest.
-/

namespace ModuleBundler.Script.Parser

/-- A pattern with an optional default value. -/
def bindingElement : Parser Node := do
  let target ← binding
  if ← eatPunct (.assign none) then
    let value ← withIn assignment
    return .mk (.assign none) [target, value]
  else return target

/-- A rest element, whose target is read by the given parser. -/
def restElement (target : Parser Node) : Parser Node := do
  expectPunct .ellipsis
  return .mk .spread [← target]

/-- Items between commas up to a closing punctuator, which is not passed over. A rest element can
only be the last item, and no comma follows it. -/
def patternItems (close : Punct) (item rest : Parser Node) : Parser (List Node) :=
  loop (fun reversed => do
    if ← atPunct close then return .inr reversed.reverse
    if ← atPunct .ellipsis then
      let last ← restElement rest
      unless ← atPunct close do unexpected
      return .inr (last :: reversed).reverse
    let reversed := (← item) :: reversed
    if ← eatPunct .comma then return .inl reversed
    unless ← atPunct close do unexpected
    return .inr reversed.reverse) []

/-- An element of an array pattern, or the hole in front of a comma. -/
def arrayElement : Parser Node := do
  if ← atPunct .comma then absent else bindingElement

/-- The name of a member: a word, a string, a number or an expression in brackets. -/
def memberName : Parser Node := do
  let token ← peek
  let literal value : Parser Node := do
    advance
    return .mk (.literal value) []
  match token.kind with
  | .word _ => propertyName
  | .string _ => literal (.string token.text)
  | .number => literal (.number token.text)
  | .bigint => literal (.bigint token.text)
  | .punct .openBracket =>
    advance
    let key ← withIn assignment
    expectPunct .closeBracket
    return .mk .computedKey [key]
  | _ => unexpected

/-- A member of an object pattern. A name without a colon behind it binds itself. -/
def objectMember : Parser Node := do
  let second ← peekSecond
  let isKeyed := second.any fun token => token.kind == .punct .colon
  if (← atIdentifier) && !isKeyed then
    let name ← identifier
    if ← eatPunct (.assign none) then
      let value ← withIn assignment
      return .mk (.member .shorthandDefault false) [name, value]
    else return .mk (.member .shorthand false) [name]
  else
    let key ← memberName
    expectPunct .colon
    let value ← bindingElement
    return .mk (.member .valued false) [key, value]

/-- A name or pattern. -/
def bindingRule : Parser Node := do
  if ← eatPunct .openBracket then
    let elements ← patternItems .closeBracket arrayElement binding
    expectPunct .closeBracket
    return .mk (.array false) elements
  else if ← eatPunct .openBrace then
    let members ← patternItems .closeBrace objectMember identifier
    expectPunct .closeBrace
    return .mk (.object false) members
  else identifier

end ModuleBundler.Script.Parser
