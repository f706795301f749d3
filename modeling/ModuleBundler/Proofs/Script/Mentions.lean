import ModuleBundler.Linking.Group
import ModuleBundler.Proofs.Script.BoundNames

/-!
# The names of a module

A module declares the names of its imports and those of its declarations, on their own or in an
export. It mentions these and all other identifiers that stand in it, as deep as they may be nested.

## Main definitions

* `Node.Mentions`, `Item.Mentions` — the name stands in a tree or item as an identifier.
* `Item.declaredNames`, `Item.lexicalNames` — the names that an item declares, and those of them
  that may be declared once only.

## Main results

* `Item.mentions_of_mem_declaredNames` — what an item declares it mentions.
-/

namespace ModuleBundler.Script

/-! ### Names that are mentioned -/

/-- The name stands in the tree as an identifier. -/
inductive Node.Mentions (name : Name) : Node → Prop
  | identifier {children : List Node} : Mentions name (mk (.identifier name) children)
  | part {kind : NodeKind} {children : List Node} {child : Node} (hmem : child ∈ children)
    (h : Mentions name child) : Mentions name (mk kind children)

/-- What a pattern binds stands in it. -/
theorem Node.Binds.mentions {name : Name} {node : Node} (h : node.Binds name) :
    node.Mentions name := by
  induction h with
  | identifier => exact .identifier
  | element hmem _ ih | property hmem _ ih | rest hmem _ ih | variableList hmem _ ih =>
    exact .part hmem ih
  | shorthand _ ih | shorthandDefault _ ih | defaulted _ ih | declarator _ ih =>
    exact .part List.mem_cons_self ih
  | value _ _ hmem _ ih => exact .part (List.mem_cons_of_mem _ hmem) ih

/-- What a declaration declares stands in it. -/
theorem Node.Declares.mentions {name : Name} {node : Node} (h : node.Declares name) :
    node.Mentions name := by
  cases h with
  | variableList h => exact h.mentions
  | function | classDefinition => exact .part List.mem_cons_self .identifier

/-! ### Names that are declared -/

/-- The local names that an import declares. -/
def ImportClause.localNames (clause : ImportClause) : List Name :=
  clause.defaultName.toList ++ clause.moduleName.toList ++ clause.named.map ImportedName.localName

/-- Is the tree a declaration of names that may be declared once only? -/
def Node.isLexical (node : Node) : Bool :=
  match node.kind with
  | .variableList kind => kind.isLexical
  | .classDefinition => true
  | _ => false

namespace Item

/-- The local names that an item imports. -/
def importedNames : Item → List Name
  | .importing declaration => declaration.clause.localNames
  | .exporting _ | .statement _ _ => []

/-- The declaration that an item is or exports, if it is one. A default export of anything but a
function or class declares nothing. -/
def declaration? : Item → Option Node
  | .importing _ => none
  | .statement _ node | .exporting ⟨_, .declaration _ node⟩ => some node
  | .exporting ⟨_, .defaultValue _ node⟩ =>
    if Linking.Group.isDeclaration node then some node else none
  | .exporting _ => none

/-- The names that the declaration of an item declares. -/
def ownNames (item : Item) : List Name :=
  item.declaration?.toList.flatMap Node.declaredNames

/-- Those of them that may be declared once only. -/
def ownLexicalNames (item : Item) : List Name :=
  (item.declaration?.toList.filter Node.isLexical).flatMap Node.declaredNames

/-- The names that an item declares. -/
def declaredNames (item : Item) : List Name :=
  item.importedNames ++ item.ownNames

/-- The names that an item declares and that may be declared once only. -/
def lexicalNames (item : Item) : List Name :=
  item.importedNames ++ item.ownLexicalNames

/-- The name stands in the item as an identifier of the module. -/
def Mentions (name : Name) : Item → Prop
  | .importing declaration => name ∈ declaration.clause.localNames
  | .exporting ⟨_, .names entries⟩ => ∃ entry ∈ entries, entry.localName = name
  | .exporting ⟨_, .declaration _ node⟩ | .exporting ⟨_, .defaultValue _ node⟩
  | .statement _ node => node.Mentions name
  | .exporting ⟨_, .all _ _⟩ | .exporting ⟨_, .fromModule _ _⟩ => False

/-- What an item declares it mentions. -/
theorem mentions_of_mem_declaredNames {item : Item} {name : Name}
    (h : name ∈ item.declaredNames) : item.Mentions name := by
  rcases List.mem_append.mp h with himported | hown
  · match item with
    | .importing _ => exact himported
    | .exporting _ | .statement _ _ => exact absurd himported List.not_mem_nil
  · obtain ⟨node, hnode, hname⟩ := List.mem_flatMap.mp hown
    have hmentions : node.Mentions name := (Node.mem_declaredNames_iff.mp hname).mentions
    match item with
    | .importing _ => exact absurd hnode List.not_mem_nil
    | .statement _ _ | .exporting ⟨_, .declaration _ _⟩ =>
      rw [List.mem_singleton.mp hnode] at hmentions
      exact hmentions
    | .exporting ⟨_, .defaultValue _ other⟩ =>
      rw [declaration?] at hnode
      split at hnode
      · rw [List.mem_singleton.mp hnode] at hmentions
        exact hmentions
      · exact absurd hnode List.not_mem_nil
    | .exporting ⟨_, .names _⟩ | .exporting ⟨_, .all _ _⟩ | .exporting ⟨_, .fromModule _ _⟩ =>
      exact absurd hnode List.not_mem_nil

end Item

end ModuleBundler.Script
