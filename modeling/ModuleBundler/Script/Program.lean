import ModuleBundler.Script.Grammar.Assignment
import ModuleBundler.Script.Grammar.Statement

/-!
# Programs

The rules of the grammar refer to each other through rules of the next lower depth. As each of them
reads a token before it nests four times, a depth that grows with the length of the text suffices.

A text can be read with two goals. A *module* has imports and exports, knows `await` outside of
functions and exports no name twice; a *script* has statements only.

## Main definitions

* `Script.grammar`, `Script.rulesAt` — the rules of the grammar, and the grammar at a given depth.
* `Script.parseModule`, `Script.parseScript` — the two ways to read a text.
-/

namespace ModuleBundler.Script

/-- The rules of the grammar. -/
def grammar : Rule → Parser Node
  | .assignment => Parser.assignmentRule
  | .operators floor => Parser.operatorsRule floor
  | .unary => Parser.unaryRule
  | .operand set => Parser.operandRule set
  | .binding => Parser.bindingRule
  | .statement place => Parser.statementRule place

/-- The grammar at a given depth. -/
def rulesAt (goal : Goal) (width : Nat) : (depth : Nat) → Rule → Flags → Cursor → Outcome Node
  | 0, _, _, _ => .error .nestedTooDeep
  | depth + 1, rule, flags, cursor =>
    (grammar rule).run ⟨goal, width, flags, rulesAt goal width depth⟩ cursor

/-- The context at the top of a text of the given length. -/
def topContext (goal : Goal) (width : Nat) : Context where
  goal := goal
  width := width
  flags := { allowIn := true, allowYield := false, allowAwait := goal = .module, allowReturn := false }
  rules := rulesAt goal width (8 * (width + 2))

/-- The cursor at the start of a text. -/
def startCursor (goal : Goal) (chars : List Char) : Except Fault Cursor :=
  (scanToken goal (skipShebang chars)).map fun next => ⟨next, skipShebang chars⟩

/-- Runs a parser on a whole text. -/
def parseText {α : Type} (goal : Goal) (parser : Parser α) (chars : List Char) :
    Except Fault α := do
  let cursor ← startCursor goal chars
  let (result, _) ← parser.run (topContext goal chars.length) cursor
  return result

/-! ### Modules -/

namespace Parser

/-- An item of a module. Its positions count from its start. -/
def item : Parser Item := do
  if ← atImportDeclaration then return .importing (← importDeclaration)
  if ← atKeyword .export_ then return .exporting (← exportDeclaration)
  let (node, length) ← withExtent (statement .list)
  return .statement ⟨0, length⟩ node

/-- The items of a module from a position on. -/
def items (start : Nat) : Parser (List Item) :=
  loop (fun (position, reversed) => do
    if ← atEnd then return .inr reversed.reverse
    let (item, distance) ← withDistance item
    return .inl (position + distance, item.behind position :: reversed)) (start, [])

end Parser

/-- The first name that occurs twice in a list. -/
def firstDuplicate? : List Name → Option Name
  | [] => none
  | name :: names => if names.contains name then some name else firstDuplicate? names

/-- Reads a module. -/
def parseModule (chars : List Char) : Except Fault (List Item) := do
  let cursor ← startCursor .module chars
  let start := chars.length - cursor.next.here.length
  let items ← parseText .module (Parser.items start) chars
  if Node.anyUnsettled (items.flatMap Item.nodes) then throw .misplacedInitializer
  match firstDuplicate? (items.flatMap Item.exportedNames) with
  | none => return items
  | some name => throw (.duplicateExport name)

/-! ### Scripts -/

/-- Reads a script. -/
def parseScript (chars : List Char) : Except Fault (List Node) := do
  let nodes ← parseText .script (Parser.repeatUntil Parser.atEnd (Parser.statement .list)) chars
  if Node.anyUnsettled nodes then throw .misplacedInitializer
  return nodes

end ModuleBundler.Script
