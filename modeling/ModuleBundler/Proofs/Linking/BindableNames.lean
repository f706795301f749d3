import ModuleBundler.Proofs.Linking.Layout
import ModuleBundler.Proofs.Linking.WrittenNames
import ModuleBundler.Proofs.Script.Provides

/-!
# Names that linking may use

The local names of imports and exports are identifiers of the module, in patterns as well as in
declarations and lists. None of them is a reserved word, so inserted statements may declare them and
refer to them.

## Main definitions

* `Node.BindsNames`, `Node.DeclaresNames` — patterns and declarations whose names can be bound.
* `Item.NamesBindable` — items whose local names can be bound.

## Main results

* `namesBindable_of_parseModule` — the local names of a module can be bound.
-/

namespace ModuleBundler.Script

open Linking

/-- All names that the pattern binds can be bound. -/
def Node.BindsNames (node : Node) : Prop :=
  ∀ name ∈ node.boundNames, Bindable name

/-- All names that the declaration declares can be bound. -/
def Node.DeclaresNames (node : Node) : Prop :=
  ∀ name ∈ node.declaredNames, Bindable name

/-- All local names that the item imports or exports can be bound. -/
structure Item.NamesBindable (item : Item) : Prop where
  imported : ∀ name ∈ item.importedNames, Bindable name
  exported : ∀ entry ∈ item.localExports, Bindable entry.localName

theorem Node.forall_mem_boundNamesOfAll {nodes : List Node} (h : ∀ node ∈ nodes, node.BindsNames) :
    ∀ name ∈ boundNamesOfAll nodes, Bindable name := by
  induction nodes with
  | nil => exact List.forall_mem_nil _
  | cons node nodes ih =>
    obtain ⟨hnode, hnodes⟩ := List.forall_mem_cons.mp h
    exact List.forall_mem_append.mpr ⟨hnode, ih hnodes⟩

theorem Node.forall_mem_boundNamesOfAll_singleton {node : Node} (h : node.BindsNames) :
    ∀ name ∈ boundNamesOfAll [node], Bindable name :=
  forall_mem_boundNamesOfAll (List.forall_mem_singleton.mpr h)

namespace Parser

variable {goal : Goal} {width depth : Nat} {flags : Flags} {context : Context}

/-! ### Patterns -/

theorem provides_identifier : identifier.Provides context Node.BindsNames :=
  Provides.identifier.mono fun node hnode => by
    obtain ⟨name, rfl, hname⟩ := hnode
    exact List.forall_mem_singleton.mpr hname

section Patterns

variable (h : binding.Provides context Node.BindsNames)

include h

theorem provides_bindingElement : bindingElement.Provides context Node.BindsNames := by
  refine .bind h fun target htarget => .after fun _ => .ite (fun _ => ?_) fun _ => .pure htarget
  exact .after fun value => .pure htarget

omit h in
theorem provides_restElement {target : Parser Node} (h : target.Provides context Node.BindsNames) :
    (restElement target).Provides context Node.BindsNames :=
  .after fun _ => .bind h fun _ hnode => .pure (Node.forall_mem_boundNamesOfAll_singleton hnode)

theorem provides_arrayElement : arrayElement.Provides context Node.BindsNames :=
  .after fun _ => .ite (fun _ => .pure (List.forall_mem_nil _)) fun _ => provides_bindingElement h

theorem provides_objectMember : objectMember.Provides context Node.BindsNames := by
  refine .after fun second => .after fun isName => .ite (fun _ => ?_) fun _ => ?_
  · refine .bind provides_identifier fun name hname => .after fun hasValue => .ite (fun _ => ?_) ?_
    · exact .after fun value => .pure hname
    · exact fun _ => .pure hname
  · refine .after fun key => .after fun _ => ?_
    exact .bind (provides_bindingElement h) fun value hvalue =>
      .pure (Node.forall_mem_boundNamesOfAll_singleton hvalue)

theorem provides_bindingRule : bindingRule.Provides context Node.BindsNames := by
  refine .after fun isArray => .ite (fun _ => ?_) fun _ => .after fun isObject => .ite (fun _ => ?_)
    fun _ => provides_identifier
  · refine .bind (.patternItems (provides_arrayElement h) (provides_restElement h))
      fun elements helements => .after fun _ => ?_
    exact .pure (Node.forall_mem_boundNamesOfAll helements)
  · refine .bind (.patternItems (provides_objectMember h)
      (provides_restElement provides_identifier)) fun members hmembers => .after fun _ => ?_
    exact .pure (Node.forall_mem_boundNamesOfAll hmembers)

end Patterns

/-- The names of a pattern can be bound, however deep it is nested. -/
theorem provides_binding :
    binding.Provides (ruleContext goal width flags depth) Node.BindsNames := by
  induction depth with
  | zero => exact .call nofun
  | succ depth ih =>
    refine .call fun smaller hsmaller => ?_
    obtain rfl := Nat.succ.inj hsmaller
    exact provides_bindingRule ih

/-! ### Declarations -/

theorem provides_declarator :
    declarator.Provides (ruleContext goal width flags depth) Node.BindsNames :=
  .bind provides_binding fun _ htarget => .after fun _ =>
    .ite (fun _ => .after fun _ => .pure htarget) fun _ => .after fun _ => .pure htarget

theorem provides_variableStatement (kind : VariableKind) :
    (variableStatement kind).Provides (ruleContext goal width flags depth) Node.DeclaresNames := by
  have hlist : (variableList kind).Provides (ruleContext goal width flags depth)
      Node.DeclaresNames := by
    have hrest : (advanceKeyword >>= fun _ => do
        let first ← declarator
        let more := do
          expectPunct .comma
          declarator
        let rest ← repeatUntil (return !(← atPunct .comma)) more
        return .mk (.variableList kind) (first :: rest)).Provides
          (ruleContext goal width flags depth) Node.DeclaresNames := by
      refine .after fun _ => .bind provides_declarator fun first hfirst => ?_
      refine .bind (.repeatUntil (.after fun _ => provides_declarator)) fun rest hmore => ?_
      exact .pure (Node.forall_mem_boundNamesOfAll (List.forall_mem_cons.mpr ⟨hfirst, hmore⟩))
    exact .ite (fun _ => .after fun _ => hrest) fun _ => hrest
  exact .bind hlist fun _ hnode => .after fun _ => .after fun _ => .pure hnode

/-- The tree is a name that can be bound, or no name. -/
def IsBindableName (node : Node) : Prop :=
  ∀ name ∈ node.identifier?.toList, Bindable name

theorem provides_name : identifier.Provides context IsBindableName :=
  Provides.identifier.mono fun _ hnode => by
    obtain ⟨name, rfl, hname⟩ := hnode
    exact List.forall_mem_singleton.mpr hname

theorem provides_absentName : absent.Provides context IsBindableName :=
  .pure (List.forall_mem_nil _)

theorem provides_functionRule {name : FunctionForm → Parser Node}
    (h : ∀ form, (name form).Provides context IsBindableName) :
    (functionRule name).Provides context Node.DeclaresNames :=
  .after fun _ => .after fun _ => .after fun _ => .bind (h _) fun _ hname =>
    .after fun _ => .after fun _ => .pure hname

theorem provides_functionName (form : FunctionForm) :
    (functionName form).Provides context IsBindableName :=
  .after fun _ => .ite (fun _ => provides_absentName) fun _ => .withFlags provides_name

theorem provides_classRule : classRule.Provides context Node.DeclaresNames := by
  refine .after fun _ => .after fun _ => .after fun _ => ?_
  refine .either provides_name provides_absentName fun name hname => ?_
  have hrest {heritage : Node} {decorators : List Node} : (expectPunct .openBrace >>= fun _ => do
      let members ← repeatUntil (atPunct .closeBrace) classMember
      expectPunct .closeBrace
      return .mk .classDefinition (name :: heritage :: (decorators ++ members))).Provides context
        Node.DeclaresNames :=
    .after fun _ => .after fun _ => .after fun _ => .pure hname
  exact .after fun _ => .ite (fun _ => .after fun _ => hrest) fun _ => .after fun _ => hrest

theorem provides_functionDeclaration (place : Place) :
    (functionDeclaration place).Provides context Node.DeclaresNames := by
  refine .bind (provides_functionRule fun _ => provides_name) fun node hnode => ?_
  split
  · exact .ite (fun _ => .fail_bind) fun _ => .pure hnode
  · exact .pure hnode

theorem provides_classDeclaration (place : Place) :
    (classDeclaration place).Provides context Node.DeclaresNames :=
  .ite (fun _ => .fail_bind) fun _ => provides_classRule

/-! ### Expressions

A default export may be any expression. It declares a name only if it is a function or class. -/

/-- A tree that is no declaration declares nothing. -/
theorem declaresNames_of_eq_nil {node : Node} (h : node.declaredNames = []) :
    node.DeclaresNames := by
  rw [Node.DeclaresNames, h]
  exact List.forall_mem_nil _

theorem provides_leaf (kind : NodeKind) : (leaf kind).Provides context Node.DeclaresNames :=
  .after fun _ => .reject fun _ => .after fun _ =>
    .pure (declaresNames_of_eq_nil (by cases kind <;> rfl))

theorem provides_expressionName : identifier.Provides context Node.DeclaresNames :=
  Provides.identifier.mono fun _ hnode => by
    obtain ⟨name, rfl, -⟩ := hnode
    exact declaresNames_of_eq_nil rfl

theorem provides_property : property.Provides context Node.DeclaresNames := by
  refine .after fun token => ?_
  split
  · exact .after fun _ => .pure (declaresNames_of_eq_nil rfl)
  · refine .after fun token => ?_
    split
    · exact .after fun _ => .pure (declaresNames_of_eq_nil rfl)
    · exact .unexpected

theorem provides_wordOperand (keyword : Keyword) :
    (wordOperand keyword).Provides context Node.DeclaresNames := by
  unfold wordOperand
  split
  · exact provides_leaf _
  · exact provides_leaf _
  · exact provides_leaf _
  · exact provides_leaf _
  · exact provides_functionRule provides_functionName
  · exact provides_classRule
  · exact .after fun _ => .ite (fun _ => provides_functionRule provides_functionName) fun _ =>
      provides_expressionName
  · exact provides_expressionName

theorem provides_primary : primary.Provides context Node.DeclaresNames := by
  refine .after fun token => ?_
  split
  · exact provides_expressionName
  · exact provides_wordOperand _
  · exact provides_leaf _
  · exact provides_leaf _
  · exact provides_leaf _
  · refine .bind (.after fun _ => .pure (declaresNames_of_eq_nil rfl)) fun node hnode => ?_
    exact .reject fun _ => .pure hnode
  · exact .after fun _ => .after fun _ => .after fun _ => .pure (declaresNames_of_eq_nil rfl)
  · exact .after fun _ => .after fun _ => .after fun _ => .pure (declaresNames_of_eq_nil rfl)
  · refine .after fun _ => .after fun _ => .after fun _ => ?_
    refine .ite (fun _ => .after fun _ => .need fun _ => ?_) fun _ => ?_
    · exact .pure (declaresNames_of_eq_nil rfl)
    · exact .pure (declaresNames_of_eq_nil rfl)
  · exact provides_classRule
  · exact .after fun _ => provides_leaf _
  · exact .after fun _ => provides_leaf _
  · exact .unexpected

theorem provides_construct : construct.Provides context Node.DeclaresNames := by
  have hrest {callee arguments : Node} : (pure (.mk .construct [callee, arguments]) :
      Parser Node).Provides context Node.DeclaresNames := .pure (declaresNames_of_eq_nil rfl)
  refine .after fun _ => .after fun _ => .ite (fun _ => .after fun _ => ?_) fun _ => ?_
  · exact .pure (declaresNames_of_eq_nil rfl)
  · exact .after fun _ => .after fun _ => .ite (fun _ => .after fun _ => hrest) fun _ =>
      .after fun _ => hrest

theorem provides_importOperand (set : LinkSet) :
    (importOperand set).Provides context Node.DeclaresNames := by
  have harguments : importArguments.Provides context Node.DeclaresNames := by
    refine .withFlags (.after fun _ => .after fun specifier => .after fun _ => .ite (fun _ => ?_)
      fun _ => .after fun _ => .pure (declaresNames_of_eq_nil rfl))
    refine .after fun _ => .ite (fun _ => .after fun _ => .pure (declaresNames_of_eq_nil rfl)) ?_
    exact fun _ => .after fun _ => .after fun _ => .after fun _ =>
      .pure (declaresNames_of_eq_nil rfl)
  have hrest : (if set = .withoutCalls then unexpected >>= fun _ => importArguments
      else importArguments).Provides context Node.DeclaresNames := .reject fun _ => harguments
  refine .after fun _ => .after fun _ => .ite (fun _ => .after fun _ => ?_) fun _ => hrest
  refine .ite (fun _ => .pure (declaresNames_of_eq_nil rfl)) fun _ => .after fun _ => ?_
  exact .ite (fun _ => hrest) fun _ => .after fun _ => hrest

theorem provides_superOperand : superOperand.Provides context Node.DeclaresNames := by
  refine .bind (provides_leaf _) fun node hnode => .after fun token => ?_
  split
  · exact .pure hnode
  · exact .pure hnode
  · exact .pure hnode
  · exact .unexpected

theorem declaresNames_link {optional : Bool} {kind : NodeKind} {object part : Node}
    (h : (Node.mk kind [object, part]).declaredNames = []) :
    (Node.mk (if optional then .optionalChain else kind) [object, part]).DeclaresNames := by
  split
  · exact declaresNames_of_eq_nil rfl
  · exact declaresNames_of_eq_nil h

theorem provides_links {set : LinkSet} {object : Node} (h : object.DeclaresNames) :
    (links set object).Provides context Node.DeclaresNames := by
  refine .loop (fun state => state.2.DeclaresNames) (fun state hobject => ?_) h
  obtain ⟨optional, object⟩ := state
  refine .after fun token => ?_
  split
  · exact .after fun _ => .after fun part => .pure (declaresNames_link rfl)
  · exact .ite (fun _ => .pure hobject) fun _ => .after fun part => .pure (declaresNames_link rfl)
  · exact .ite (fun _ => .pure hobject) fun _ => .after fun part => .pure (declaresNames_link rfl)
  · refine .need fun _ => .after fun _ => .after fun token => ?_
    split
    · exact .after fun part => .pure (declaresNames_link rfl)
    · exact .after fun part => .pure (declaresNames_link rfl)
    · exact .unexpected
    · exact .after fun part => .pure (declaresNames_link rfl)
  · exact .reject fun _ => .after fun part => .pure (declaresNames_link rfl)
  · exact .pure hobject

theorem provides_operandRule (set : LinkSet) :
    (operandRule set).Provides context Node.DeclaresNames := by
  refine .after fun token => ?_
  split
  · exact .bind provides_construct fun _ h => provides_links h
  · exact .bind (provides_importOperand set) fun _ h => provides_links h
  · exact .bind provides_superOperand fun _ h => provides_links h
  · exact .bind provides_primary fun _ h => provides_links h

theorem provides_unaryRule :
    unaryRule.Provides (ruleContext goal width flags depth) Node.DeclaresNames := by
  have hoperand : (operand .all).Provides (ruleContext goal width flags depth)
      Node.DeclaresNames := .call fun _ _ => provides_operandRule .all
  have hupdate : updateRule.Provides (ruleContext goal width flags depth) Node.DeclaresNames := by
    refine .bind hoperand fun node hnode => .after fun _ => .ite (fun _ => ?_) fun _ => .pure hnode
    exact .after fun _ => .after fun _ => .pure (declaresNames_of_eq_nil rfl)
  refine .after fun token => .after fun flags => ?_
  split
  · exact .after fun _ => .after fun _ => .pure (declaresNames_of_eq_nil rfl)
  · refine .ite (fun _ => ?_) fun _ => .ite (fun _ => ?_) fun _ => hupdate
    · exact .after fun _ => .after fun _ => .after fun _ => .pure (declaresNames_of_eq_nil rfl)
    · exact .after fun _ => .after fun _ => .pure (declaresNames_of_eq_nil rfl)

theorem provides_operatorsRule (floor : Nat) :
    (operatorsRule floor).Provides (ruleContext goal width flags depth) Node.DeclaresNames := by
  have hunary : unary.Provides (ruleContext goal width flags depth) Node.DeclaresNames :=
    .call fun _ _ => provides_unaryRule
  have hprivate : (privateOperand floor).Provides (ruleContext goal width flags depth)
      Node.DeclaresNames :=
    .bind provides_property fun name hname => .after fun _ => .need fun _ => .after fun _ =>
      .need fun _ => .pure hname
  refine .after fun token => .either hprivate hunary fun left hleft => ?_
  refine .loop Node.DeclaresNames (fun left hleft => .after fun flags => .after fun token => ?_)
    hleft
  split
  · refine .ite (fun _ => .reject fun _ => .after fun _ => .after fun right => ?_) fun _ =>
      .pure hleft
    exact .reject fun _ => .pure (declaresNames_of_eq_nil rfl)
  · exact .pure hleft

theorem provides_arrowFunction (isAsync : Bool) (items : List Node) :
    (arrowFunction isAsync items).Provides context Node.DeclaresNames := by
  have harrow {body : Node} : (Node.mk (.function ⟨isAsync, false, true⟩)
      [.absent, .mk .parameters items, body]).DeclaresNames := declaresNames_of_eq_nil rfl
  refine .after fun _ => .need fun _ => .after fun _ => .after fun _ => ?_
  exact .ite (fun _ => .after fun _ => .pure harrow) fun _ => .after fun _ => .pure harrow

theorem provides_assignmentTail {startsAsync : Bool} {left : Node} (h : left.DeclaresNames) :
    (assignmentTail startsAsync left).Provides context Node.DeclaresNames := by
  refine .after fun token => ?_
  split
  · unfold arrowFromHead
    split
    · exact .after fun _ => .reject fun _ => provides_arrowFunction _ _
    · exact .unexpected
  · exact .after fun _ => .after fun _ => .after fun _ => .after fun _ =>
      .pure (declaresNames_of_eq_nil rfl)
  · exact .after fun _ => .after fun _ => .after fun _ => .pure (declaresNames_of_eq_nil rfl)
  · exact .after fun _ => .after fun _ => .after fun _ => .pure (declaresNames_of_eq_nil rfl)
  · exact .pure h

theorem provides_assignmentRule :
    assignmentRule.Provides (ruleContext goal width flags depth) Node.DeclaresNames := by
  have hoperators : (operators 0).Provides (ruleContext goal width flags depth)
      Node.DeclaresNames := .call fun _ _ => provides_operatorsRule 0
  refine .after fun first => .after fun _ => .after fun isYield => .ite (fun _ => ?_) fun _ =>
    .after fun isArrow => .ite (fun _ => .after fun _ => provides_arrowFunction _ _) fun _ => ?_
  · refine .after fun _ => .after fun _ => .ite (fun _ => .after fun _ => ?_) fun _ => ?_
    · exact .pure (declaresNames_of_eq_nil rfl)
    · exact .after fun _ => .after fun _ => .pure (declaresNames_of_eq_nil rfl)
  · refine .after fun isAsync => .ite (fun _ => .after fun _ => .after fun _ => ?_) fun _ => ?_
    · exact provides_arrowFunction _ _
    · exact .bind hoperators fun _ h => provides_assignmentTail h

/-- The name of a function or class that is an expression can be bound. -/
theorem provides_assignment :
    assignment.Provides (ruleContext goal width flags depth) Node.DeclaresNames :=
  .call fun _ _ => provides_assignmentRule

/-! ### Exports -/

/-- All local names that the export exports can be bound. -/
def ExportsNames (exports : Script.Exports) : Prop :=
  ∀ span, ∀ entry ∈ (Item.exporting ⟨span, exports⟩).localExports, Bindable entry.localName

theorem exportsNames_declaration {start : Nat} {node : Node} (h : node.DeclaresNames) :
    ExportsNames (.declaration start node) := by
  intro span entry hmem
  obtain ⟨name, hname, rfl⟩ := List.mem_map.mp hmem
  exact h name hname

theorem exportsNames_defaultValue {span : Span} {node : Node} (h : node.DeclaresNames) :
    ExportsNames (.defaultValue span node) := by
  intro _ entry hmem
  unfold Item.localExports at hmem
  dsimp only at hmem
  split at hmem
  · obtain ⟨name, hname, rfl⟩ := List.mem_map.mp hmem
    exact h name hname
  · contradiction

theorem isIdentifier_of_isLocalName {name : Name} {token : Token} {keyword : Option Keyword}
    (hkind : token.kind = .word keyword) (h : isLocalName ⟨name, token, false⟩) :
    (TokenKind.word keyword).isIdentifier := by
  simp only [isLocalName, hkind, Bool.not_false, Bool.true_and] at h
  cases keyword with
  | none => rfl
  | some keyword =>
    split at h
    · contradiction
    · contradiction
    · next heq =>
      obtain rfl := Option.some.inj (TokenKind.word.inj heq)
      exact (Bool.and_eq_true_iff.mp h).1
    · next hother => exact absurd rfl (hother _)

/-- A listed name that is one of the module's own can be bound. -/
theorem provides_listedName : listedName.Provides context fun listed =>
    isLocalName listed → Bindable listed.name := by
  refine .bind .peek fun token htoken => ?_
  split
  · next keyword hkind =>
    refine .after fun _ => .pure fun hlocal => ?_
    obtain ⟨hname, hkeyword⟩ := htoken hkind
    exact ⟨hname, hkeyword ▸ isIdentifier_of_isLocalName hkind hlocal⟩
  · exact .need fun _ => .after fun _ => .pure fun hlocal => by contradiction
  · exact .unexpected

theorem provides_exportedName : exportedName.Provides context fun entry =>
    isLocalName entry.1 → Bindable entry.2.localName :=
  .bind provides_listedName fun _ hfirst => .after fun _ =>
    .ite (fun _ => .after fun _ => .pure hfirst) fun _ => .pure hfirst

theorem provides_exportList : exportList.Provides context ExportsNames := by
  refine .after fun _ => .bind (.nameList provides_exportedName) fun listed hlisted => ?_
  refine .after fun hasSource => .ite (fun _ => ?_) fun _ => .reject fun hlocal => ?_
  · exact .after fun _ => .after fun _ => .after fun _ => .pure fun _ => List.forall_mem_nil _
  · refine .after fun _ => .pure fun span entry hmem => ?_
    obtain ⟨pair, hpair, rfl⟩ := List.mem_map.mp hmem
    refine hlisted pair hpair ?_
    by_contra hquoted
    exact hlocal (List.any_eq_true.mpr ⟨pair, hpair, by simpa using hquoted⟩)

theorem provides_exportAll : exportAll.Provides context ExportsNames := by
  have hnone {specifier : Name} {exported : Option Name} :
      ExportsNames (.all specifier exported) := fun _ => List.forall_mem_nil _
  refine .after fun _ => .after fun hasName => .ite (fun _ => .after fun _ => ?_) fun _ => ?_
  · exact .after fun _ => .after fun _ => .after fun _ => .after fun _ => .after fun _ =>
      .pure hnone
  · exact .after fun _ => .after fun _ => .after fun _ => .after fun _ => .after fun _ =>
      .pure hnone

theorem provides_defaultValue {start : Nat} {value : Parser Node}
    (h : value.Provides context Node.DeclaresNames) :
    (defaultValue start value).Provides context ExportsNames :=
  .bind (.withExtent h) fun ⟨_, _⟩ hnode => .pure (exportsNames_defaultValue hnode)

theorem provides_exportDefault (start : Nat) :
    (exportDefault start).Provides (ruleContext goal width flags depth) ExportsNames := by
  have hname : optionalName.Provides (ruleContext goal width flags depth) IsBindableName :=
    .after fun _ => .ite (fun _ => provides_absentName) fun _ => provides_name
  refine .after fun ⟨_, _⟩ => .after fun _ => .after fun _ => .ite (fun _ => ?_) fun _ => ?_
  · exact provides_defaultValue (provides_functionRule fun _ => hname)
  · refine .after fun _ => .after fun _ => .ite (fun _ => ?_) fun _ => ?_
    · exact provides_defaultValue provides_classRule
    · exact .bind (provides_defaultValue (.withFlags provides_assignment)) fun _ hvalue =>
        .after fun _ => .pure hvalue

theorem provides_exportedDeclaration (start : Nat) :
    (exportedDeclaration start).Provides (ruleContext goal width flags depth) ExportsNames := by
  have hexport {declaration : Parser Node}
      (h : declaration.Provides (ruleContext goal width flags depth) Node.DeclaresNames) :
      (declaration >>= fun node => pure (.declaration start node)).Provides
        (ruleContext goal width flags depth) ExportsNames :=
    .bind h fun _ hnode => .pure (exportsNames_declaration hnode)
  refine .after fun token => ?_
  split
  · exact hexport (provides_variableStatement _)
  · exact hexport (provides_variableStatement _)
  · exact hexport (provides_variableStatement _)
  · exact hexport (provides_classDeclaration _)
  · exact hexport (provides_classDeclaration _)
  · exact hexport (provides_functionDeclaration _)
  · exact .after fun _ => .need fun _ => hexport (provides_functionDeclaration _)
  · exact .unexpected

theorem provides_exportDeclaration :
    exportDeclaration.Provides (ruleContext goal width flags depth) fun declaration =>
      (Item.exporting declaration).NamesBindable := by
  have hspan {parser : Parser Script.Exports}
      (h : parser.Provides (ruleContext goal width flags depth) ExportsNames) :
      (parser.withExtent >>= fun read => pure ⟨⟨0, read.2⟩, read.1⟩).Provides
        (ruleContext goal width flags depth) fun declaration =>
          (Item.exporting declaration).NamesBindable :=
    .bind (.withExtent h) fun _ hexports => .pure ⟨List.forall_mem_nil _, hexports _⟩
  refine hspan (.after fun passed => .after fun token => ?_)
  split
  · exact provides_exportList
  · exact provides_exportAll
  · exact provides_exportDefault passed.2
  · exact provides_exportedDeclaration passed.2

/-! ### Imports -/

/-- All local names that the clause declares can be bound. -/
def ClauseNames (clause : ImportClause) : Prop :=
  ∀ name ∈ clause.localNames, Bindable name

theorem provides_bindingName : bindingName.Provides context Bindable :=
  .bindingName

theorem provides_importedName : importedName.Provides context fun entry =>
    Bindable entry.localName := by
  refine .after fun _ => .after fun _ => .after fun _ => .ite (fun _ => ?_) fun _ => ?_
  · exact .after fun _ => .after fun _ => .bind provides_bindingName fun _ hname => .pure hname
  · exact .bind provides_bindingName fun _ hname => .pure hname

theorem provides_importRest : importRest.Provides context ClauseNames := by
  refine .after fun _ => .ite (fun _ => .after fun _ => ?_) fun _ =>
    .after fun _ => .after fun _ => ?_
  · refine .bind (.nameList provides_importedName) fun entries hentries => .pure fun name hmem => ?_
    obtain ⟨entry, hentry, rfl⟩ := List.mem_map.mp hmem
    exact hentries entry hentry
  · exact .bind provides_bindingName fun _ hname => .pure (List.forall_mem_singleton.mpr hname)

theorem provides_importClause : importClause.Provides context ClauseNames := by
  refine .after fun _ => .ite (fun _ => ?_) fun _ => provides_importRest
  refine .bind provides_bindingName fun name hname => .after fun _ => .ite (fun _ => ?_) fun _ => ?_
  · refine .bind provides_importRest fun clause hclause => .pure fun other hmem => ?_
    simp only [ImportClause.localNames, List.mem_append] at hmem
    obtain (hdefault | hmodule) | hnamed := hmem
    · exact (List.mem_singleton.mp hdefault) ▸ hname
    · exact hclause other (List.mem_append_left _ (List.mem_append_right _ hmodule))
    · exact hclause other (List.mem_append_right _ hnamed)
  · exact .pure (List.forall_mem_singleton.mpr hname)

theorem provides_importDeclaration : importDeclaration.Provides context fun declaration =>
    (Item.importing declaration).NamesBindable := by
  have htarget : importTarget.Provides context fun target => ClauseNames target.2.1 := by
    refine .after fun token => ?_
    split
    · exact .after fun _ => .pure (List.forall_mem_nil _)
    · refine .after fun phase => .bind provides_importClause fun clause hclause => ?_
      exact .reject fun _ => .after fun _ => .after fun _ => .pure hclause
  have hread : (expectKeyword .import_ >>= fun _ => do
      let target ← importTarget
      importAttributes
      endStatement
      return target).Provides context fun target => ClauseNames target.2.1 :=
    .after fun _ => .bind htarget fun target h => .after fun _ => .after fun _ => .pure h
  exact .bind (.withExtent hread) fun ⟨⟨_, _, _⟩, _⟩ h => .pure ⟨h, List.forall_mem_nil _⟩

/-! ### Items -/

theorem provides_item :
    Parser.item.Provides (ruleContext goal width flags depth) Item.NamesBindable := by
  refine .after fun _ => .ite (fun _ => ?_) fun _ => .after fun _ => .ite (fun _ => ?_) fun _ => ?_
  · exact .bind provides_importDeclaration fun _ h => .pure h
  · exact .bind provides_exportDeclaration fun _ h => .pure h
  · exact .after fun ⟨_, _⟩ => .pure ⟨List.forall_mem_nil _, List.forall_mem_nil _⟩

end Parser

/-- Where an item stands makes no difference to its names. -/
theorem Item.NamesBindable.behind {item : Item} (h : item.NamesBindable) (position : Nat) :
    (item.behind position).NamesBindable := by
  match item with
  | .importing _ | .statement _ _ => exact ⟨h.imported, h.exported⟩
  | .exporting ⟨_, .all _ _⟩ | .exporting ⟨_, .fromModule _ _⟩ | .exporting ⟨_, .names _⟩
  | .exporting ⟨_, .declaration _ _⟩ | .exporting ⟨_, .defaultValue _ _⟩ =>
    exact ⟨h.imported, h.exported⟩

/-- **The local names of a module can be bound.** -/
theorem namesBindable_of_parseModule {source : List Char} {items : List Item}
    (h : parseModule source = .ok items) : ∀ item ∈ items, item.NamesBindable := by
  obtain ⟨cursor, last, hcursor, hrun⟩ := exists_run_of_parseModule h
  obtain ⟨next, hnext, rfl⟩ := Except.map_eq_ok_iff.mp hcursor
  have hitems : (Parser.items (source.length - next.here.length)).Provides
      (topContext .module source.length) fun items => ∀ item ∈ items, item.NamesBindable := by
    refine .loop (fun state => ∀ item ∈ state.2, item.NamesBindable) (fun state hstate => ?_)
      (List.forall_mem_nil _)
    refine .after fun _ => .ite (fun _ => .pure (Parser.Provides.forall_mem_reverse hstate)) ?_
    refine fun _ => .bind (.withDistance Parser.provides_item) fun ⟨item, distance⟩ hitem => ?_
    exact .pure (List.forall_mem_cons.mpr ⟨hitem.behind _, hstate⟩)
  exact hitems (Context.sound_ruleContext _ _ _ _) (Cursor.genuine_of_scanToken hnext) hrun

end ModuleBundler.Script
