import ModuleBundler.Script.Item

/-!
# The names that patterns bind

A pattern binds the names that stand in it as targets: on their own, as elements of an array, as
shorthand members or values of members of an object, behind the dots of a rest, or in front of a
default value. Keys of members and default values bind nothing, however deep they are nested.

## Main definitions

* `Node.Binds` — a name is bound by a pattern or by the declarators of variables.
* `Node.Declares` — a name is declared by a declaration.

## Main results

* `Node.mem_boundNames_iff`, `Node.mem_declaredNames_iff` — the lists of names are exact.
-/

namespace ModuleBundler.Script.Node

/-- The name stands as a target in the pattern. -/
inductive Binds (name : Name) : Node → Prop
  | identifier {children : List Node} : Binds name (mk (.identifier name) children)
  | element {trailingComma : Bool} {elements : List Node} {element : Node}
    (hmem : element ∈ elements) (h : Binds name element) :
    Binds name (mk (.array trailingComma) elements)
  | property {trailingComma : Bool} {members : List Node} {member : Node}
    (hmem : member ∈ members) (h : Binds name member) :
    Binds name (mk (.object trailingComma) members)
  | shorthand {isStatic : Bool} {key : Node} {rest : List Node} (h : Binds name key) :
    Binds name (mk (.member .shorthand isStatic) (key :: rest))
  | shorthandDefault {isStatic : Bool} {key : Node} {rest : List Node} (h : Binds name key) :
    Binds name (mk (.member .shorthandDefault isStatic) (key :: rest))
  | value {kind : MemberKind} {isStatic : Bool} {key value : Node} {values : List Node}
    (hshorthand : kind ≠ .shorthand) (hdefault : kind ≠ .shorthandDefault)
    (hmem : value ∈ values) (h : Binds name value) :
    Binds name (mk (.member kind isStatic) (key :: values))
  | defaulted {target : Node} {rest : List Node} (h : Binds name target) :
    Binds name (mk (.assign none) (target :: rest))
  | rest {targets : List Node} {target : Node} (hmem : target ∈ targets)
    (h : Binds name target) : Binds name (mk .spread targets)
  | declarator {target : Node} {rest : List Node} (h : Binds name target) :
    Binds name (mk .declarator (target :: rest))
  | variableList {kind : VariableKind} {declarators : List Node} {declarator : Node}
    (hmem : declarator ∈ declarators) (h : Binds name declarator) :
    Binds name (mk (.variableList kind) declarators)

/-- A member with a key of its own binds what its value binds. -/
theorem boundNames_member {kind : MemberKind} (hshorthand : kind ≠ .shorthand)
    (hdefault : kind ≠ .shorthandDefault) (isStatic : Bool) (key : Node) (values : List Node) :
    boundNames (mk (.member kind isStatic) (key :: values)) = boundNamesOfAll values := by
  cases kind <;> first | rfl | contradiction

/-- What is listed stands as a target, by the recursion of the list. -/
theorem binds_of_mem_boundNames {name : Name} {node : Node} (h : name ∈ node.boundNames) :
    node.Binds name := by
  refine boundNames.induct (fun node => name ∈ node.boundNames → node.Binds name)
    (fun nodes => name ∈ boundNamesOfAll nodes → ∃ node ∈ nodes, node.Binds name)
    ?identifier ?shorthand ?shorthandDefault ?value ?defaulted ?declarator ?element ?property ?rest
    ?variableList ?other ?nil ?cons node h
  case identifier =>
    intro bound children h
    exact List.mem_singleton.mp h ▸ .identifier
  case shorthand => exact fun isStatic key rest ih h => .shorthand (ih h)
  case shorthandDefault => exact fun isStatic key rest ih h => .shorthandDefault (ih h)
  case value =>
    intro kind isStatic key values hshorthand hdefault ih h
    rw [boundNames_member hshorthand hdefault] at h
    obtain ⟨value, hmem, hbinds⟩ := ih h
    exact .value hshorthand hdefault hmem hbinds
  case defaulted => exact fun target rest ih h => .defaulted (ih h)
  case declarator => exact fun target rest ih h => .declarator (ih h)
  case element =>
    intro trailingComma elements ih h
    obtain ⟨element, hmem, hbinds⟩ := ih h
    exact .element hmem hbinds
  case property =>
    intro trailingComma members ih h
    obtain ⟨member, hmem, hbinds⟩ := ih h
    exact .property hmem hbinds
  case rest =>
    intro targets ih h
    obtain ⟨target, hmem, hbinds⟩ := ih h
    exact .rest hmem hbinds
  case variableList =>
    intro kind declarators ih h
    obtain ⟨declarator, hmem, hbinds⟩ := ih h
    exact .variableList hmem hbinds
  case other =>
    intro kind children
    intros
    simp_all [boundNames]
  case nil => exact fun h => absurd h List.not_mem_nil
  case cons =>
    intro node nodes ih ihs h
    rcases List.mem_append.mp h with h | h
    · exact ⟨node, List.mem_cons_self, ih h⟩
    · obtain ⟨other, hmem, hbinds⟩ := ihs h
      exact ⟨other, List.mem_cons_of_mem _ hmem, hbinds⟩

theorem mem_boundNamesOfAll {name : Name} {node : Node} {nodes : List Node} (hmem : node ∈ nodes)
    (h : name ∈ node.boundNames) : name ∈ boundNamesOfAll nodes := by
  induction nodes with
  | nil => exact absurd hmem List.not_mem_nil
  | cons first nodes ih =>
    rcases List.mem_cons.mp hmem with rfl | hmem
    · exact List.mem_append_left _ h
    · exact List.mem_append_right _ (ih hmem)

/-- What stands as a target is listed, by the places where targets stand. -/
theorem Binds.mem_boundNames {name : Name} {node : Node} (h : node.Binds name) :
    name ∈ node.boundNames := by
  induction h with
  | identifier => exact List.mem_singleton_self name
  | shorthand _ ih | shorthandDefault _ ih | defaulted _ ih | declarator _ ih => exact ih
  | element hmem _ ih | property hmem _ ih | rest hmem _ ih | variableList hmem _ ih =>
    exact mem_boundNamesOfAll hmem ih
  | value hshorthand hdefault hmem _ ih =>
    rw [boundNames_member hshorthand hdefault]
    exact mem_boundNamesOfAll hmem ih

/-- The names that a pattern binds are those that stand in it as targets. -/
theorem mem_boundNames_iff {name : Name} {node : Node} :
    name ∈ node.boundNames ↔ node.Binds name :=
  ⟨binds_of_mem_boundNames, Binds.mem_boundNames⟩

/-! ### Declarations -/

/-- The name is declared by the declaration: by one of its variables, or as the name of a function
or class. -/
inductive Declares (name : Name) : Node → Prop
  | variableList {kind : VariableKind} {declarators : List Node}
    (h : Binds name (mk (.variableList kind) declarators)) :
    Declares name (mk (.variableList kind) declarators)
  | function {form : FunctionForm} {children rest : List Node} :
    Declares name (mk (.function form) (mk (.identifier name) children :: rest))
  | classDefinition {children rest : List Node} :
    Declares name (mk .classDefinition (mk (.identifier name) children :: rest))

theorem identifier?_eq_some {node : Node} {name : Name} (h : node.identifier? = some name) :
    ∃ children, node = mk (.identifier name) children := by
  unfold identifier? at h
  split at h
  · next bound children =>
    cases h
    exact ⟨children, rfl⟩
  · contradiction

/-- The names that a declaration declares are listed, and no other. -/
theorem mem_declaredNames_iff {name : Name} {node : Node} :
    name ∈ node.declaredNames ↔ node.Declares name := by
  constructor
  · intro h
    unfold declaredNames at h
    split at h
    · exact .variableList (mem_boundNames_iff.mp h)
    · obtain ⟨_, rfl⟩ := identifier?_eq_some (Option.mem_toList.mp h)
      exact .function
    · obtain ⟨_, rfl⟩ := identifier?_eq_some (Option.mem_toList.mp h)
      exact .classDefinition
    · contradiction
  · rintro (h | _ | _)
    · exact h.mem_boundNames
    · exact List.mem_singleton_self name
    · exact List.mem_singleton_self name

end ModuleBundler.Script.Node
