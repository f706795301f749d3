import ModuleBundler.Linking.Insertion

/-!
# Items in linked code

Each import or export of a module becomes a *group* of statements in its place. Exports of local
names are *deferred*: they are assigned behind the body of the module, when the names have their
values.

## Main definitions

* `Linking.Group` — what an item becomes.
* `Linking.Group.ofImport`, `Linking.Group.ofExport` — the groups of imports and exports.
* `Linking.groups` — the group of a whole module.
-/

namespace ModuleBundler.Linking

open Script Text

/-- What one or several items become: the specifiers that they refer to, the replacements in the
source, the deferred exports and the number of temporary constants. -/
structure Group where
  specifiers : List Name
  replacements : List Replacement
  deferred : List ExportedName
  temporaries : Nat
  deriving DecidableEq, Repr

namespace Group

/-- The group of an item that stays as it is. -/
def empty : Group :=
  ⟨[], [], [], 0⟩

/-- The group of items that follow each other. -/
def append (first second : Group) : Group where
  specifiers := first.specifiers ++ second.specifiers
  replacements := first.replacements ++ second.replacements
  deferred := first.deferred ++ second.deferred
  temporaries := first.temporaries + second.temporaries

/-- The edits that replace the items in the source. -/
def edits (group : Group) : List Edit :=
  group.replacements.map Replacement.edit

/-! ### Imports -/

/-- The statements that declare the names of an import, and the number of temporary constants. A
single kind of name needs no temporary constant. -/
def importStatements (next : Nat) (specifier : Name) (clause : ImportClause) :
    List Insertion × Nat :=
  let required := Value.required specifier
  match clause.defaultName, clause.moduleName, clause.named with
  | none, none, [] => ([.evaluate required], 0)
  | some name, none, [] => ([.declare (.name name) (.member required Script.defaultName)], 0)
  | none, some name, [] => ([.declare (.name name) required], 0)
  | none, none, named => ([.declare (.pattern named) required], 0)
  | defaultName, moduleName, named =>
    let held := Value.temporary next
    let ofDefault := defaultName.toList.map fun name =>
      .declare (.name name) (.member held Script.defaultName)
    let ofModule := moduleName.toList.map fun name => .declare (.name name) held
    let ofNamed := if named.isEmpty then [] else [.declare (.pattern named) held]
    (.declare (.temporary next) required :: ofDefault ++ ofModule ++ ofNamed, 1)

/-- The group of an import. -/
def ofImport (next : Nat) (declaration : ImportDeclaration) : Group :=
  let (statements, temporaries) := importStatements next declaration.specifier declaration.clause
  ⟨[declaration.specifier], [⟨declaration.span, statements⟩], [], temporaries⟩

/-! ### Exports -/

/-- The statements that export names of another module, which a temporary constant holds. -/
def fromStatements (next : Nat) (specifier : Name) (names : List ExportedName) : List Insertion :=
  .declare (.temporary next) (.required specifier) ::
    names.map fun entry => .assign entry.exported (.member (.temporary next) entry.localName)

/-- Is the tree a declaration of a function or class, rather than another expression? -/
def isDeclaration (node : Node) : Bool :=
  match node.kind with
  | .function form => !form.isArrow
  | .classDefinition => true
  | _ => false

/-- The group of a default export of what stands at a span. A declaration with a name stays and is
exported by its name; all else becomes an assignment, for which a declaration lacks the semicolon. -/
def ofDefault (start : Nat) (span : Span) (node : Node) : Group :=
  let head insertions : Replacement := ⟨⟨start, span.start⟩, insertions⟩
  if isDeclaration node then
    match node.declaredNames with
    | name :: _ => ⟨[], [head []], [⟨name, Script.defaultName⟩], 0⟩
    | [] =>
      ⟨[], [head [.openDefault], ⟨⟨span.stop, span.stop⟩, [.closeDefault]⟩], [], 0⟩
  else ⟨[], [head [.openDefault]], [], 0⟩

/-- The group of an export. -/
def ofExport (next : Nat) (declaration : ExportDeclaration) : Group :=
  let span := declaration.span
  match declaration.exports with
  | .all specifier none => ⟨[specifier], [⟨span, [.copyAll specifier]⟩], [], 0⟩
  | .all specifier (some name) =>
    ⟨[specifier], [⟨span, [.assign name (.required specifier)]⟩], [], 0⟩
  | .fromModule specifier names =>
    ⟨[specifier], [⟨span, fromStatements next specifier names⟩], [], 1⟩
  | .names names => ⟨[], [⟨span, []⟩], names, 0⟩
  | .declaration start node =>
    ⟨[], [⟨⟨span.start, start⟩, []⟩], node.declaredNames.map fun name => ⟨name, name⟩, 0⟩
  | .defaultValue valueSpan node => ofDefault span.start valueSpan node

/-- The group of an item. -/
def ofItem (next : Nat) : Item → Group
  | .importing declaration => ofImport next declaration
  | .exporting declaration => ofExport next declaration
  | .statement _ _ => empty

end Group

/-- The group of the items of a module, whose temporary constants are numbered from `next` on. -/
def groups (next : Nat) : List Item → Group
  | [] => .empty
  | item :: items =>
    let first := Group.ofItem next item
    first.append (groups (next + first.temporaries) items)

end ModuleBundler.Linking
