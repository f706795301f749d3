import ModuleBundler.Script.Grammar.Token

/-!
# Literals that are patterns

What stands in front of an assignment operator or an arrow is read as an expression first. If it is
a name, a place in an object, or an array or object literal of such, it is a *pattern*. Two uses of
patterns are told apart: an assignment may store into places of objects, a binding only names.

A shorthand member with a default value makes sense in a pattern alone. It is unsettled until the
literal around it is found to be a pattern.

## Main definitions

* `Script.Node.isPlace` — names and places of objects.
* `Script.Node.settled?` — a literal as the pattern that it is.
* `Script.Parser.assignable`, `Script.Parser.bindable` — the same as parsers.
-/

namespace ModuleBundler.Script

/-- What a pattern is used for. -/
inductive PatternUse where
  | assignment
  | binding
  deriving DecidableEq

namespace Node

/-- Is the tree a name or a place in an object, perhaps in parentheses? -/
def isPlace : Node → Bool
  | mk (.identifier _) _ | mk .access _ | mk .index _ => true
  | mk (.parenthesized false) [inner] => isPlace inner
  | _ => false

mutual

/-- A literal as a pattern, if it is one. -/
def settled? (use : PatternUse) : Node → Option Node
  | mk (.identifier name) children => some (mk (.identifier name) children)
  | mk .access children => if use = .assignment then some (mk .access children) else none
  | mk .index children => if use = .assignment then some (mk .index children) else none
  | mk (.parenthesized false) [inner] =>
    if use = .assignment ∧ isPlace inner then some (mk (.parenthesized false) [inner]) else none
  | mk (.array trailingComma) elements =>
    (settledElements? use trailingComma elements).map (mk (.array trailingComma))
  | mk (.object trailingComma) members =>
    (settledMembers? use trailingComma members).map (mk (.object trailingComma))
  | _ => none

/-- The elements of an array as patterns that may have default values; a spread element is the last
one, without a comma behind it. -/
def settledElements? (use : PatternUse) (trailingComma : Bool) : List Node → Option (List Node)
  | [] => some []
  | [mk .spread [target]] =>
    if trailingComma then none
    else (settled? use target).map fun target => [mk .spread [target]]
  | mk .absent children :: rest =>
    (settledElements? use trailingComma rest).map (mk .absent children :: ·)
  | mk (.assign none) [target, value] :: rest => do
    let target ← settled? use target
    return mk (.assign none) [target, value] :: (← settledElements? use trailingComma rest)
  | element :: rest => do
    let element ← settled? use element
    return element :: (← settledElements? use trailingComma rest)

/-- The members of an object as those of a pattern. -/
def settledMembers? (use : PatternUse) (trailingComma : Bool) : List Node → Option (List Node)
  | [] => some []
  | [mk .spread [target]] =>
    if trailingComma ∨ (use = .binding ∧ !isIdentifier target) then none
    else (settled? use target).map fun target => [mk .spread [target]]
  | mk (.member .shorthand isStatic) children :: rest =>
    (settledMembers? use trailingComma rest).map (mk (.member .shorthand isStatic) children :: ·)
  | mk (.member .shorthandDefault isStatic) children :: rest
  | mk (.member .unsettled isStatic) children :: rest =>
    (settledMembers? use trailingComma rest).map
      (mk (.member .shorthandDefault isStatic) children :: ·)
  | mk (.member .valued isStatic) [key, mk (.assign none) [target, value]] :: rest => do
    let target ← settled? use target
    let member := mk (.member .valued isStatic) [key, mk (.assign none) [target, value]]
    return member :: (← settledMembers? use trailingComma rest)
  | mk (.member .valued isStatic) [key, value] :: rest => do
    let value ← settled? use value
    return mk (.member .valued isStatic) [key, value] ::
      (← settledMembers? use trailingComma rest)
  | _ => none

end

end Node

namespace Parser

/-- The tree as something to which can be assigned. -/
def assignable (node : Node) : Parser Node := do
  match node.settled? .assignment with
  | some pattern => return pattern
  | none => fail .invalidTarget

/-- Checks that the tree is a single place, as operators that also read it require. -/
def place (node : Node) : Parser Unit := do
  unless node.isPlace do fail .invalidTarget

/-- Expressions as the parameters of a function. -/
def bindable (trailingComma : Bool) (nodes : List Node) : Parser (List Node) := do
  match Node.settledElements? .binding trailingComma nodes with
  | some parameters => return parameters
  | none => fail .invalidTarget

end Parser

end ModuleBundler.Script
