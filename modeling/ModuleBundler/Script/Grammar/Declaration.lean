import ModuleBundler.Script.Grammar.Class
import ModuleBundler.Script.Grammar.Postfix

/-!
# Declarations

Declarations of variables, functions and classes. The words `let` and `using` start a declaration
only if what follows them can be declared.

## Main definitions

* `Script.Parser.letStarts`, `Script.Parser.usingKind?` — where these words start a declaration.
* `Script.Parser.variableList` — a declaration of variables from its keyword on.
* `Script.Parser.functionDeclaration`, `Script.Parser.classDeclaration`.
-/

namespace ModuleBundler.Script.Parser

/-! ### Words that may start a declaration -/

/-- Can the token be the name of a variable? -/
def isNameToken (token : Token) : Bool :=
  match token.kind with
  | .word none => true
  | .word (some keyword) => !keyword.isReserved
  | _ => false

/-- How a statement that starts with the word `let` is read. -/
inductive LetUse where
  | expression
  | name
  | declaration

/-- The use of the word `let` at the start of a statement, by the token behind it. -/
def letUse (place : Place) (second : TokenKind) : LetUse :=
  match second with
  | .punct .dot | .punct .openParen | .punct (.operator _) | .punct (.assign _)
  | .word (some .in_) | .word (some .instanceof_) => .expression
  | .punct .semicolon => .name
  | .punct .openBracket => .declaration
  | _ => if place = .alone then .name else .declaration

/-- Does the word `let` start a declaration in the head of a loop? -/
def letStarts : Parser Bool := do
  unless ← atKeyword .let_ do return false
  if (← peek).escaped then return false
  let some second ← peekSecond | return false
  match second.kind with
  | .word (some .in_) => return false
  | .word _ | .punct .openBrace | .punct .openBracket => return true
  | _ => return false

/-- The kind of declaration that the words `using` and `await using` start, if a name follows them
on their line. -/
def usingKind? : Parser (Option VariableKind) := do
  let flags ← flags
  let token ← peek
  let some second ← peekSecond | return none
  if token.escaped || second.newline then return none
  match token.kind with
  | .word (some .using_) => return if isNameToken second then some .using else none
  | .word (some .await_) =>
    unless flags.allowAwait && second.kind == .word (some .using_) && !second.escaped do
      return none
    let some third ← peekThird | return none
    return if isNameToken third && !third.newline then some .awaitUsing else none
  | _ => return none

/-! ### Variables -/

/-- A pattern and the value of its variables. -/
def declarator : Parser Node := do
  let target ← binding
  let value ← if ← eatPunct (.assign none) then assignment else absent
  return .mk .declarator [target, value]

/-- A declaration of variables from its keyword on, up to its end without a semicolon. -/
def variableList (kind : VariableKind) : Parser Node := do
  if kind = .awaitUsing then advanceKeyword
  advanceKeyword
  let first ← declarator
  let more := do
    expectPunct .comma
    declarator
  let rest ← repeatUntil (return !(← atPunct .comma)) more
  return .mk (.variableList kind) (first :: rest)

/-- Does the declarator lack a value that it needs? -/
def lacksValue (kind : VariableKind) (node : Node) : Bool :=
  match node with
  | .mk .declarator [target, .mk .absent _] => kind.needsValue || !target.isIdentifier
  | _ => false

/-- Checks that the variables of a declaration have the values that they need. -/
def checkValues (node : Node) : Parser Unit := do
  match node with
  | .mk (.variableList kind) declarators =>
    if declarators.any (lacksValue kind) then fail .missingInitializer
  | _ => return ()

/-- A statement that declares variables. -/
def variableStatement (kind : VariableKind) : Parser Node := do
  let node ← variableList kind
  checkValues node
  endStatement
  return node

/-! ### Functions and classes -/

/-- A declaration of a function. Where a single statement is expected, only a plain function can be
declared. -/
def functionDeclaration (place : Place) : Parser Node := do
  let node ← functionRule fun _ => identifier
  match place, node.kind with
  | .alone, .function form =>
    if form.isAsync || form.isGenerator then fail .misplacedDeclaration
    return node
  | _, _ => return node

/-- A declaration of a class, which cannot stand where a single statement is expected. -/
def classDeclaration (place : Place) : Parser Node := do
  if place = .alone then fail .misplacedDeclaration
  classRule

/-- The optional name of a function that a module exports as its default. -/
def optionalName : Parser Node := do
  if ← atPunct .openParen then absent else identifier

end ModuleBundler.Script.Parser
