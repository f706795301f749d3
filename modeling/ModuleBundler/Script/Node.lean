import ModuleBundler.Script.Token

/-!
# Syntax trees

A script is a tree of *nodes*. A node has a kind and its parts in the order of the source. Parts that
a construct may lack are present as nodes of the kind `absent`, so a part is always found at the same
place. Where a tree stands in the source is no part of it.

Patterns are trees of the same kinds as the array and object literals that they look like; which of
the two is meant follows from where the tree stands.

## Main definitions

* `Script.NodeKind`, `Script.Node` — syntax trees.
* `Script.Node.boundNames` — the names that a pattern binds.
-/

namespace ModuleBundler.Script

/-- Literals other than templates, arrays and objects. -/
inductive Literal where
  | nullValue
  | boolean (value : Bool)
  | number (text : Name)
  | bigint (text : Name)
  | string (value : Name)
  | regex
  deriving DecidableEq, Repr

/-- How a function is declared: with `async`, with a star, as an arrow. -/
structure FunctionForm where
  isAsync : Bool
  isGenerator : Bool
  isArrow : Bool
  deriving DecidableEq, Repr

/-- The words that start a declaration of variables. -/
inductive VariableKind where
  | varying
  | lexical
  | constant
  | using
  | awaitUsing
  deriving DecidableEq, Repr

/-- Is the declaration scoped to the block around it? -/
def VariableKind.isLexical : VariableKind → Bool
  | .varying => false
  | _ => true

/-- Does the declaration need a value for every variable? -/
def VariableKind.needsValue : VariableKind → Bool
  | .constant | .using | .awaitUsing => true
  | .varying | .lexical => false

/-- The members of object literals and classes. `shorthand` has a name only; `shorthandDefault` has
a name and a value that the name has by default, which makes sense in a pattern alone. In a literal
that has not been found to be a pattern such a member is `unsettled`. -/
inductive MemberKind where
  | valued
  | shorthand
  | shorthandDefault
  | unsettled
  | method
  | getter
  | setter
  | field
  | accessor
  deriving DecidableEq, Repr

/-- The operators in front of an operand. -/
inductive UnaryOperator where
  | delete | void | typeof | plus | minus | complement | not
  deriving DecidableEq, Repr

/-- The kinds of nodes, with their parts named in the comments. -/
inductive NodeKind where
  | absent
  | identifier (name : Name)
  | privateName (name : Name)
  | propertyName (name : Name)
  | literal (value : Literal)
  | thisValue
  | superValue
  | newTarget
  | importMeta
  /-- Substitutions; `valid` when the escapes of all pieces are. -/
  | template (valid : Bool)
  /-- A tag and a template. -/
  | taggedTemplate
  /-- Elements. -/
  | array (trailingComma : Bool)
  /-- Members. -/
  | object (trailingComma : Bool)
  /-- A key and a value. -/
  | member (kind : MemberKind) (isStatic : Bool)
  /-- A key in brackets. -/
  | computedKey
  | spread
  /-- A name or nothing, parameters, a body. -/
  | function (form : FunctionForm)
  | parameters
  | functionBody
  /-- A name or nothing, a heritage or nothing, members. -/
  | classDefinition
  | staticBlock
  | decorator
  | unary (op : UnaryOperator)
  /-- An operand, the operator in front of it or behind it. -/
  | update (isPrefixed : Bool)
  | await
  | yield (delegates : Bool)
  | binary (op : Operator)
  | conditional
  | assign (op : Option Operator)
  | sequence
  /-- Expressions between commas in parentheses; `headOnly` when these can only be the parameters of
  an arrow function. -/
  | parenthesized (headOnly : Bool)
  /-- An object and a property. -/
  | access
  /-- An object and an index. -/
  | index
  /-- A callee and its arguments. -/
  | call
  /-- A callee and its arguments or nothing. -/
  | construct
  /-- Expressions between commas in parentheses. -/
  | arguments (trailingComma : Bool)
  /-- An access or call with an optional link in it. -/
  | optionalChain
  | importCall
  | block
  | emptyStatement
  | expressionStatement
  | ifStatement
  | forStatement
  | forInStatement
  | forOfStatement (isAwait : Bool)
  | whileStatement
  | doWhileStatement
  | continueStatement
  | breakStatement
  | returnStatement
  | withStatement
  | switchStatement
  | switchCase
  | labeledStatement
  | throwStatement
  | tryStatement
  | catchClause
  | debuggerStatement
  /-- Declarators. -/
  | variableList (kind : VariableKind)
  /-- A pattern and a value or nothing. -/
  | declarator
  /-- An import or export declaration. -/
  | moduleDeclaration
  deriving DecidableEq, Repr

/-- A syntax tree. -/
inductive Node where
  | mk (kind : NodeKind) (children : List Node)

namespace Node

/-- The kind of a node. -/
def kind : Node → NodeKind
  | mk kind _ => kind

/-- The parts of a node. -/
def children : Node → List Node
  | mk _ children => children

/-- A part that is not there. -/
def absent : Node :=
  mk .absent []

instance : Inhabited Node :=
  ⟨absent⟩

mutual

/-- Equality of trees is decided part by part. -/
def decideEq : (first second : Node) → Decidable (first = second)
  | mk kind children, mk kind' children' =>
    match decEq kind kind', decideEqAll children children' with
    | isTrue hkind, isTrue hchildren => isTrue (by rw [hkind, hchildren])
    | isFalse hkind, _ => isFalse fun h => hkind (mk.inj h).1
    | _, isFalse hchildren => isFalse fun h => hchildren (mk.inj h).2

/-- Equality of lists of trees is decided tree by tree. -/
def decideEqAll : (first second : List Node) → Decidable (first = second)
  | [], [] => isTrue rfl
  | [], _ :: _ => isFalse nofun
  | _ :: _, [] => isFalse nofun
  | node :: nodes, node' :: nodes' =>
    match decideEq node node', decideEqAll nodes nodes' with
    | isTrue hnode, isTrue hnodes => isTrue (by rw [hnode, hnodes])
    | isFalse hnode, _ => isFalse fun h => hnode (List.cons.inj h).1
    | _, isFalse hnodes => isFalse fun h => hnodes (List.cons.inj h).2

end

instance : DecidableEq Node :=
  decideEq

/-- Is the tree a name? -/
def isIdentifier : Node → Bool
  | mk (.identifier _) _ => true
  | _ => false

/-- The name that a tree is, if it is one. -/
def identifier? : Node → Option Name
  | mk (.identifier name) _ => some name
  | _ => none

mutual

/-- The names that a pattern binds, in the order of the source. -/
def boundNames : Node → List Name
  | mk (.identifier name) _ => [name]
  | mk (.member .shorthand _) (key :: _) => boundNames key
  | mk (.member .shorthandDefault _) (key :: _) => boundNames key
  | mk (.member _ _) (_ :: value) => boundNamesOfAll value
  | mk (.assign none) (target :: _) => boundNames target
  | mk .declarator (target :: _) => boundNames target
  | mk (.array _) elements => boundNamesOfAll elements
  | mk (.object _) members => boundNamesOfAll members
  | mk .spread target => boundNamesOfAll target
  | mk (.variableList _) declarators => boundNamesOfAll declarators
  | mk _ _ => []

/-- The names that the patterns of a list bind. -/
def boundNamesOfAll : List Node → List Name
  | [] => []
  | node :: nodes => boundNames node ++ boundNamesOfAll nodes

end

/-- The names that a declaration declares. -/
def declaredNames : Node → List Name
  | mk (.variableList _) declarators => boundNamesOfAll declarators
  | mk (.function _) (name :: _) => name.identifier?.toList
  | mk .classDefinition (name :: _) => name.identifier?.toList
  | _ => []

mutual

/-- Is there a shorthand member with a default value in the tree whose literal is no pattern? -/
def hasUnsettled : Node → Bool
  | mk (.member .unsettled _) _ => true
  | mk _ children => anyUnsettled children

/-- Is there such a member in one of the trees? -/
def anyUnsettled : List Node → Bool
  | [] => false
  | node :: nodes => hasUnsettled node || anyUnsettled nodes

end

end Node

end ModuleBundler.Script
