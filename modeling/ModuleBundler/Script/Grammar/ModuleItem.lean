import ModuleBundler.Script.Grammar.Declaration
import ModuleBundler.Script.Item

/-!
# Import and export declarations

The words of these declarations are no reserved words: `from`, `as`, `defer` and the others can be
names as well, and the tokens behind them decide. Positions in a declaration count from its start.

## Main definitions

* `Script.Parser.importDeclaration` — an import declaration.
* `Script.Parser.exportDeclaration` — an export declaration.
-/

namespace ModuleBundler.Script.Parser

/-! ### Names of other modules -/

/-- A name in an import or export list: its characters, its token and whether it is a string. -/
structure ListedName where
  name : Name
  token : Token
  quoted : Bool

/-- A name in an import or export list. -/
def listedName : Parser ListedName := do
  let token ← peek
  match token.kind with
  | .word _ =>
    advance
    return ⟨token.text, token, false⟩
  | .string wellFormed =>
    unless wellFormed do fail .malformedEscape
    advance
    return ⟨token.text, token, true⟩
  | _ => unexpected

/-- The specifier of the module that an import or export refers to. -/
def moduleSpecifier : Parser Name := do
  let token ← peek
  match token.kind with
  | .string _ =>
    advance
    return token.text
  | _ => unexpected

/-- Passes over one import attribute. -/
def importAttribute : Parser Node := do
  let token ← peek
  match token.kind with
  | .word _ | .string _ => advance
  | _ => unexpected
  expectPunct .colon
  let _ ← moduleSpecifier
  absent

/-- Passes over the attributes behind a module specifier, if there are some. -/
def importAttributes : Parser Unit := do
  let token ← peek
  let asserts := token.kind == .word (some .assert_) && !token.newline
  if token.kind == .word (some .with_) || asserts then
    advanceKeyword
    expectPunct .openBrace
    let _ ← commaSeparated .closeBrace importAttribute
    expectPunct .closeBrace

/-- Names between commas up to a closing brace. -/
def nameList {α : Type} (item : Parser α) : Parser (List α) :=
  loop (fun reversed => do
    if ← eatPunct .closeBrace then return .inr reversed.reverse
    let reversed := (← item) :: reversed
    if ← eatPunct .comma then return .inl reversed
    expectPunct .closeBrace
    return .inr reversed.reverse) []

/-! ### Imports -/

/-- The name of an identifier that is read as a binding. -/
def bindingName : Parser Name := do
  let token ← peek
  let _ ← identifier
  return token.text

/-- A name in the list of an import. -/
def importedName : Parser ImportedName := do
  let second ← peekSecond
  let renamed := second.any fun token => token.kind == .word (some .as_)
  let quoted := (← peek).kind != .word none && !(← atIdentifier)
  if renamed || quoted then
    let listed ← listedName
    expectKeyword .as_
    return ⟨listed.name, ← bindingName⟩
  else
    let name ← bindingName
    return ⟨name, name⟩

/-- The local name of a whole module, behind a star. -/
def wholeModule : Parser ImportClause := do
  expectPunct (.operator .multiply)
  expectKeyword .as_
  return ⟨none, some (← bindingName), []⟩

/-- The names between braces. -/
def namedImports : Parser ImportClause := do
  expectPunct .openBrace
  return ⟨none, none, ← nameList importedName⟩

/-- The names that an import declares, without that of the default export. -/
def importRest : Parser ImportClause := do
  if ← atPunct .openBrace then namedImports else wholeModule

/-- The names that an import declares. -/
def importClause : Parser ImportClause := do
  if ← atIdentifier then
    let name ← bindingName
    if ← eatPunct .comma then return { ← importRest with defaultName := some name }
    return ⟨some name, none, []⟩
  else importRest

/-- Reads the word that asks for another way of loading, if it is one and not the name of the
default export. -/
def importPhase : Parser (Option ImportPhase) := do
  let second ← peekSecond
  match (← peek).kind with
  | .word (some .defer_) =>
    unless second.any fun token => token.kind == .punct (.operator .multiply) do return none
    advanceKeyword
    return some .defer
  | .word (some .source_) =>
    let some second := second | return none
    let namesFrom := second.kind == .word (some .from_)
    let fromAgain := (← peekThird).any fun token => token.kind == .word (some .from_)
    unless isNameToken second && (!namesFrom || fromAgain) do return none
    advanceKeyword
    return some .source
  | _ => return none

/-- What an import declares and the module that it refers to. -/
def importTarget : Parser (Option ImportPhase × ImportClause × Name) := do
  match (← peek).kind with
  | .string _ => return (none, ⟨none, none, []⟩, ← moduleSpecifier)
  | _ =>
    let phase ← importPhase
    let clause ← importClause
    if phase = some .source ∧ (clause.defaultName.isNone ∨ clause.moduleName.isSome ∨
        !clause.named.isEmpty) then unexpected
    expectKeyword .from_
    return (phase, clause, ← moduleSpecifier)

/-- An import declaration. -/
def importDeclaration : Parser ImportDeclaration := do
  let ((phase, clause, specifier), length) ← withExtent do
    expectKeyword .import_
    let target ← importTarget
    importAttributes
    endStatement
    return target
  return ⟨⟨0, length⟩, phase, specifier, clause⟩

/-! ### Exports -/

/-- A name in the list of an export, with the token of the local name. -/
def exportedName : Parser (ListedName × ExportedName) := do
  let first ← listedName
  if ← eatKeyword .as_ then
    let exported ← listedName
    return (first, ⟨first.name, exported.name⟩)
  return (first, ⟨first.name, first.name⟩)

/-- Can a listed name be a name of this module? -/
def isLocalName (listed : ListedName) : Bool :=
  !listed.quoted &&
    match listed.token.kind with
    | .word (some .await_) | .word (some .yield_) => false
    | .word (some keyword) => !keyword.isReserved && !keyword.isStrictReserved
    | _ => true

/-- An export of names, of this module or of another one. -/
def exportList : Parser Exports := do
  expectPunct .openBrace
  let listed ← nameList exportedName
  if ← eatKeyword .from_ then
    let specifier ← moduleSpecifier
    importAttributes
    endStatement
    return .fromModule specifier (listed.map Prod.snd)
  if listed.any fun entry => !isLocalName entry.1 then fail .reservedName
  endStatement
  return .names (listed.map Prod.snd)

/-- An export of everything that another module exports. -/
def exportAll : Parser Exports := do
  expectPunct (.operator .multiply)
  let exported ← if ← eatKeyword .as_ then pure (some (← listedName).name) else pure none
  expectKeyword .from_
  let specifier ← moduleSpecifier
  importAttributes
  endStatement
  return .all specifier exported

/-- A function, class or expression as the default export, at the given position. -/
def defaultValue (start : Nat) (value : Parser Node) : Parser Exports := do
  let (node, length) ← withExtent value
  return .defaultValue ⟨start, start + length⟩ node

/-- The default export, whose first word is at the given position. -/
def exportDefault (start : Nat) : Parser Exports := do
  let (_, distance) ← withDistance (expectKeyword .default_)
  let start := start + distance
  let isFunction := (← atKeyword .function_) || (← atAsyncFunction)
  if isFunction then return ← defaultValue start (functionRule fun _ => optionalName)
  if (← atKeyword .class_) || (← atPunct .decorator) then return ← defaultValue start classRule
  let value ← defaultValue start (withIn assignment)
  endStatement
  return value

/-- The export of a declaration at the given position. -/
def exportedDeclaration (start : Nat) : Parser Exports := do
  match (← peek).kind with
  | .word (some .var_) => return .declaration start (← variableStatement .varying)
  | .word (some .let_) => return .declaration start (← variableStatement .lexical)
  | .word (some .const_) => return .declaration start (← variableStatement .constant)
  | .word (some .class_) | .punct .decorator =>
    return .declaration start (← classDeclaration .list)
  | .word (some .function_) => return .declaration start (← functionDeclaration .list)
  | .word (some .async_) =>
    unless ← atAsyncFunction do unexpected
    return .declaration start (← functionDeclaration .list)
  | _ => unexpected

/-- An export declaration. -/
def exportDeclaration : Parser ExportDeclaration := do
  let (exports, length) ← withExtent do
    let (_, start) ← withDistance (expectKeyword .export_)
    match (← peek).kind with
    | .punct .openBrace => exportList
    | .punct (.operator .multiply) => exportAll
    | .word (some .default_) => exportDefault start
    | _ => exportedDeclaration start
  return ⟨⟨0, length⟩, exports⟩

/-- Does the word `import` start a declaration here, and not an expression? -/
def atImportDeclaration : Parser Bool := do
  unless ← atKeyword .import_ do return false
  let second ← peekSecond
  return !(second.any fun token => token.kind == .punct .openParen || token.kind == .punct .dot)

end ModuleBundler.Script.Parser
