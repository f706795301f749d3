import ModuleBundler.Script.Node

/-!
# Module items

A module is a list of *items*: imports, exports and statements. What an import or export means for
other modules is spelled out in its fields; the declaration or expression that an export carries is
a tree. An item knows where it stands in the source; its positions count characters.

## Main definitions

* `Script.Span` — a stretch of the source.
* `Script.ImportDeclaration`, `Script.ExportDeclaration`, `Script.Item` — the items of a module.
* `Script.Item.exportedNames` — the names under which an item exports.
-/

namespace ModuleBundler.Script

/-- The stretch of the source from `start` up to, and without, `stop`. -/
structure Span where
  start : Nat
  stop : Nat
  deriving DecidableEq, Repr, Inhabited

/-- The stretch as far behind a position as it is behind the start. -/
def Span.behind (span : Span) (position : Nat) : Span :=
  ⟨position + span.start, position + span.stop⟩

/-- The words that ask for a module to be loaded in another way than at once. -/
inductive ImportPhase where
  | defer
  | source
  deriving DecidableEq, Repr

/-- A name of another module and the local name that stands for it. -/
structure ImportedName where
  imported : Name
  localName : Name
  deriving DecidableEq, Repr

/-- The names that an import declares: one for the default export, one for the whole module, and
those that are imported by name. -/
structure ImportClause where
  defaultName : Option Name
  moduleName : Option Name
  named : List ImportedName
  deriving DecidableEq, Repr

/-- An import declaration. -/
structure ImportDeclaration where
  span : Span
  phase : Option ImportPhase
  specifier : Name
  clause : ImportClause
  deriving DecidableEq, Repr

/-- A name and the name under which it is exported. -/
structure ExportedName where
  localName : Name
  exported : Name
  deriving DecidableEq, Repr

/-- What an export declaration exports. -/
inductive Exports where
  /-- Everything that another module exports, perhaps as one value under a name. -/
  | all (specifier : Name) (exported : Option Name)
  /-- Names of another module. -/
  | fromModule (specifier : Name) (names : List ExportedName)
  /-- Names of this module. -/
  | names (names : List ExportedName)
  /-- The names that a declaration declares, which starts at the given position. -/
  | declaration (start : Nat) (node : Node)
  /-- A function, a class or the value of an expression, as the default export. -/
  | defaultValue (span : Span) (node : Node)
  deriving DecidableEq

/-- An export declaration. -/
structure ExportDeclaration where
  span : Span
  exports : Exports
  deriving DecidableEq

/-- An item of a module. -/
inductive Item where
  | importing (declaration : ImportDeclaration)
  | exporting (declaration : ExportDeclaration)
  | statement (span : Span) (node : Node)
  deriving DecidableEq

/-- The name of the default export. -/
def defaultName : Name :=
  ['d', 'e', 'f', 'a', 'u', 'l', 't']

/-- The names under which an export declaration exports. -/
def Exports.exportedNames : Exports → List Name
  | .all _ exported => exported.toList
  | .fromModule _ entries | .names entries => entries.map ExportedName.exported
  | .declaration _ node => node.declaredNames
  | .defaultValue _ _ => [defaultName]

/-- The names under which an item exports. -/
def Item.exportedNames : Item → List Name
  | .exporting declaration => declaration.exports.exportedNames
  | .importing _ | .statement _ _ => []

/-! ### Trees and positions -/

/-- The tree that an export declaration carries, if there is one. -/
def Exports.nodes : Exports → List Node
  | .declaration _ node | .defaultValue _ node => [node]
  | .all _ _ | .fromModule _ _ | .names _ => []

/-- The tree that an item carries, if there is one. -/
def Item.nodes : Item → List Node
  | .importing _ => []
  | .exporting declaration => declaration.exports.nodes
  | .statement _ node => [node]

/-- The stretch of the source that an item takes up. -/
def Item.span : Item → Span
  | .importing declaration => declaration.span
  | .exporting declaration => declaration.span
  | .statement span _ => span

/-- An export as far behind a position as it is behind the start. -/
def Exports.behind (position : Nat) : Exports → Exports
  | .declaration start node => .declaration (position + start) node
  | .defaultValue span node => .defaultValue (span.behind position) node
  | .all specifier exported => .all specifier exported
  | .fromModule specifier entries => .fromModule specifier entries
  | .names entries => .names entries

/-- An item as far behind a position as it is behind the start. -/
def Item.behind (position : Nat) : Item → Item
  | .importing declaration =>
    .importing { declaration with span := declaration.span.behind position }
  | .exporting ⟨span, exports⟩ => .exporting ⟨span.behind position, exports.behind position⟩
  | .statement span node => .statement (span.behind position) node

end ModuleBundler.Script
