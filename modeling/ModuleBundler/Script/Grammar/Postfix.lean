import ModuleBundler.Script.Grammar.Function
import ModuleBundler.Script.Grammar.Target

/-!
# What follows an operand

Accesses, calls and tagged templates follow an operand one after the other. Once one of them is
optional, those behind it belong to the same optional chain, which is neither a place to assign to
nor the tag of a template.

## Main definitions

* `Script.Parser.template` — the pieces of a template and its substitutions.
* `Script.Parser.callArguments` — arguments in parentheses.
* `Script.Parser.links` — accesses, calls and tagged templates.
-/

namespace ModuleBundler.Script.Parser

/-- Expressions between commas; only one expression makes no sequence. -/
def expression : Parser Node := do
  let first ← assignment
  unless ← atPunct .comma do return first
  let more := do
    expectPunct .comma
    assignment
  let rest ← repeatUntil (return !(← atPunct .comma)) more
  return .mk .sequence (first :: rest)

/-! ### Templates -/

/-- The substitutions of a template, and whether the escapes of all pieces are
valid. -/
def templatePieces : Parser (List Node × Bool) :=
  loop (fun (reversed, valid) => do
    match (← peek).kind with
    | .template true pieceValid =>
      advance
      return .inr (reversed.reverse, valid && pieceValid)
    | .template false pieceValid =>
      advance
      let substitution ← withIn expression
      reread .template
      return .inl (substitution :: reversed, valid && pieceValid)
    | _ => unexpected) ([], true)

/-- A template. -/
def template : Parser Node := do
  let (substitutions, valid) ← templatePieces
  return .mk (.template valid) substitutions

/-- Is the next token the start of a template? -/
def atTemplate : Parser Bool := do
  match (← peek).kind with
  | .template _ _ => return true
  | _ => return false

/-! ### Calls and accesses -/

/-- An argument, which may be spread. -/
def argument : Parser Node := do
  if ← eatPunct .ellipsis then
    let value ← assignment
    return .mk .spread [value]
  else assignment

/-- Arguments in parentheses. -/
def callArguments : Parser Node :=
  withIn do
    expectPunct .openParen
    let (items, trailingComma) ← commaSeparated .closeParen argument
    expectPunct .closeParen
    return .mk (.arguments trailingComma) items

/-- The index of an access in brackets. -/
def bracketed : Parser Node := do
  expectPunct .openBracket
  let index ← withIn expression
  expectPunct .closeBracket
  return index

/-- The property that a point names. -/
def property : Parser Node := do
  let token ← peek
  match token.kind with
  | .privateName =>
    advance
    return .mk (.privateName token.text) []
  | _ => propertyName

/-- The links behind an operand. The state is whether one of them was optional, and the operand with
the links that were read. -/
def links (set : LinkSet) (object : Node) : Parser Node :=
  loop (fun (optional, object) => do
    let link (optional : Bool) (kind : NodeKind) (part : Node) : (Bool × Node) ⊕ Node :=
      .inl (optional, .mk (if optional then .optionalChain else kind) [object, part])
    match (← peek).kind with
    | .punct .dot =>
      advance
      return link optional .access (← property)
    | .punct .openBracket =>
      if set = .decorating then return .inr object
      return link optional .index (← bracketed)
    | .punct .openParen =>
      if set = .withoutCalls then return .inr object
      return link optional .call (← callArguments)
    | .punct .optionalDot =>
      unless set = .all do unexpected
      advance
      match (← peek).kind with
      | .punct .openBracket => return link true .index (← bracketed)
      | .punct .openParen => return link true .call (← callArguments)
      | .template _ _ => unexpected
      | _ => return link true .access (← property)
    | .template _ _ =>
      if optional then unexpected
      return link optional .taggedTemplate (← template)
    | _ => return .inr object) (false, object)

end ModuleBundler.Script.Parser
