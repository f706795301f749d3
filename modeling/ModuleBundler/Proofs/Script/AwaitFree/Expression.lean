import ModuleBundler.Proofs.Script.AwaitFree.Tree
import ModuleBundler.Script.Grammar.Assignment

/-!
# Expressions that do not wait

Where `await` is a name, expressions, functions and classes are read to free trees. What asks for
the operator `await` finds it missing, and what allows it in its parts is an asynchronous function
or a static block.

Each proof takes the steps of its parser: `after` a step whose outcome is no part of the tree,
`bind` for one whose outcome is, and `need`, `reject` and `either` where the parser checks or
chooses.

## Main results

* `Parser.yieldsFree_assignmentRule`, `Parser.yieldsFree_operatorsRule`,
  `Parser.yieldsFree_unaryRule`, `Parser.yieldsFree_operandRule`, `Parser.yieldsFree_bindingRule` —
  the rules for expressions and patterns.
-/

namespace ModuleBundler.Script.Parser

open Node

/-! ### Names and patterns -/

theorem yieldsFree_absent : absent.YieldsFree :=
  .pure .absent

/-- An identifier is free even where `await` is an operator. -/
theorem ensures_identifier {pre : Context → Prop} : identifier.Ensures pre Node.AwaitFree := by
  refine .after fun _ => .need fun _ => ?_
  refine .after fun _ => .after fun token => .after fun _ => ?_
  exact .pure (.leaf rfl)

theorem yieldsFree_identifier : identifier.YieldsFree :=
  ensures_identifier

theorem yieldsFree_propertyName : propertyName.YieldsFree := by
  refine .after fun token => ?_
  split
  · exact .after fun _ => .pure (.leaf rfl)
  · exact .unexpected

theorem yieldsFree_bindingElement : bindingElement.YieldsFree := by
  refine .bind (yieldsFree_call _) fun target htarget => ?_
  refine .after fun _ => .ite (fun _ => ?_) fun _ => ?_
  · exact .bind (.withIn (yieldsFree_call _)) fun value hvalue =>
      .pure (.of_parts rfl (by simp [htarget, hvalue]))
  · exact .pure htarget

theorem yieldsFree_restElement {target : Parser Node} (h : target.YieldsFree) :
    (restElement target).YieldsFree :=
  .after fun _ => .bind h fun node hnode => .pure (.of_parts rfl (by simp [hnode]))

theorem yields_patternItems (close : Punct) {item rest : Parser Node} (h : item.YieldsFree)
    (hrest : rest.YieldsFree) :
    (patternItems close item rest).Yields fun nodes => ∀ node ∈ nodes, node.AwaitFree := by
  refine .loop (fun reversed => ∀ node ∈ reversed, node.AwaitFree) (fun reversed hreversed => ?_)
    (by simp)
  refine .after fun _ => .ite (fun _ => .pure (Ensures.forall_mem_reverse hreversed)) fun _ => ?_
  refine .after fun _ => .ite (fun _ => ?_) fun _ => .bind h fun node hnode => ?_
  · refine .bind (yieldsFree_restElement hrest) fun last hlast => ?_
    refine .after fun _ => .need fun _ => .pure (Ensures.forall_mem_reverse ?_)
    exact List.forall_mem_cons.mpr ⟨hlast, hreversed⟩
  · have hmore : ∀ other ∈ node :: reversed, other.AwaitFree :=
      List.forall_mem_cons.mpr ⟨hnode, hreversed⟩
    refine .after fun _ => .ite (fun _ => .pure hmore) fun _ => ?_
    exact .after fun _ => .need fun _ => .pure (Ensures.forall_mem_reverse hmore)

theorem yieldsFree_arrayElement : arrayElement.YieldsFree :=
  .after fun _ => .ite (fun _ => yieldsFree_absent) fun _ => yieldsFree_bindingElement

theorem yieldsFree_memberName : memberName.YieldsFree := by
  refine .after fun token => ?_
  split
  · exact yieldsFree_propertyName
  · exact .after fun _ => .pure (.leaf rfl)
  · exact .after fun _ => .pure (.leaf rfl)
  · exact .after fun _ => .pure (.leaf rfl)
  · refine .after fun _ => .bind (.withIn (yieldsFree_call _)) fun key hkey => .after fun _ => ?_
    exact .pure (.of_parts rfl (by simp [hkey]))
  · exact .unexpected

theorem yieldsFree_objectMember : objectMember.YieldsFree := by
  refine .after fun _ => .after fun _ => .ite (fun _ => ?_) fun _ => ?_
  · refine .bind yieldsFree_identifier fun name hname => ?_
    refine .after fun _ => .ite (fun _ => ?_) fun _ => ?_
    · exact .bind (.withIn (yieldsFree_call _)) fun value hvalue =>
        .pure (.of_parts rfl (by simp [hname, hvalue]))
    · exact .pure (.of_parts rfl (by simp [hname]))
  · refine .bind yieldsFree_memberName fun key hkey => .after fun _ => ?_
    refine .bind yieldsFree_bindingElement fun value hvalue => ?_
    exact .pure (.of_parts rfl (by simp [hkey, hvalue]))

theorem yieldsFree_bindingRule : bindingRule.YieldsFree := by
  refine .after fun _ => .ite (fun _ => ?_) fun _ => .after fun _ => .ite (fun _ => ?_) fun _ => ?_
  · have helements := yields_patternItems .closeBracket yieldsFree_arrayElement (yieldsFree_call .binding)
    exact .bind helements fun elements h => .after fun _ => .pure (.of_parts rfl h)
  · have hmembers := yields_patternItems .closeBrace yieldsFree_objectMember yieldsFree_identifier
    exact .bind hmembers fun members h => .after fun _ => .pure (.of_parts rfl h)
  · exact yieldsFree_identifier

theorem yieldsFree_assignable {node : Node} (h : node.AwaitFree) :
    (assignable node).YieldsFree := by
  unfold assignable
  split
  · next hsettled => exact .pure (awaitFree_of_settled? hsettled h)
  · exact .fail

theorem yields_bindable {trailingComma : Bool} {nodes : List Node}
    (h : ∀ node ∈ nodes, node.AwaitFree) :
    (bindable trailingComma nodes).Yields fun nodes => ∀ node ∈ nodes, node.AwaitFree := by
  unfold bindable
  split
  · next hsettled => exact .pure (awaitFree_of_settledElements? hsettled h)
  · exact .fail

/-! ### Functions -/

variable {form : FunctionForm}

theorem yields_functionBody (hsync : form.isAsync = false) : (functionBody form).YieldsFree := by
  refine .withNames (.after fun _ => ?_) fun _ _ => hsync
  refine .bind (.repeatUntil (yieldsFree_call _)) fun statements h => .after fun _ => ?_
  exact .pure (.of_parts rfl h)

theorem yields_parameters (hsync : form.isAsync = false) : (parameters form).YieldsFree := by
  refine .withIn (.withOperatorWords (.after fun _ => ?_) hsync)
  have hitems := yields_patternItems .closeParen yieldsFree_bindingElement (yieldsFree_call .binding)
  exact .bind hitems fun items h => .after fun _ => .pure (.of_parts rfl h)

/-- Where parts are read as those of a function, they are free if the function is not
asynchronous. -/
theorem Ensures.unlessAsync (form : FunctionForm) {parser : Parser Node}
    (h : form.isAsync = false → parser.YieldsFree) :
    parser.Yields fun node => form.isAsync = false → node.AwaitFree := by
  by_cases hasync : form.isAsync = true
  · intro _ _ _ _ _ _ hsync
    rw [hasync] at hsync
    contradiction
  · exact (h (Bool.eq_false_iff.mpr hasync)).mono fun _ hnode _ => hnode

theorem yieldsFree_methodRest : (methodRest form).YieldsFree := by
  refine .bind (.unlessAsync _ yields_parameters) fun parameters hparameters => ?_
  refine .bind (.unlessAsync _ yields_functionBody) fun body hbody => ?_
  refine .pure (.function fun hsync => ?_)
  simp [Node.AwaitFree.absent, hparameters hsync, hbody hsync]

theorem yields_functionName (hsync : form.isAsync = false) : (functionName form).YieldsFree :=
  .after fun _ => .ite (fun _ => yieldsFree_absent) fun _ =>
    .withOperatorWords yieldsFree_identifier hsync

theorem yieldsFree_functionRule {name : FunctionForm → Parser Node}
    (h : ∀ form : FunctionForm, form.isAsync = false → (name form).YieldsFree) :
    (functionRule name).YieldsFree := by
  refine .after fun isAsync => .after fun _ => .after fun isGenerator => ?_
  refine .bind (.unlessAsync _ (h _)) fun name hname => ?_
  refine .bind (.unlessAsync _ yields_parameters) fun parameters hparameters => ?_
  refine .bind (.unlessAsync _ yields_functionBody) fun body hbody => ?_
  refine .pure (.function fun hsync => ?_)
  simp [hname hsync, hparameters hsync, hbody hsync]

/-! ### Members of objects and classes -/

theorem yieldsFree_methodMember {kind : MemberKind} {isStatic : Bool} {key : Node}
    (hkey : key.AwaitFree) : (methodMember kind isStatic form key).YieldsFree :=
  .bind yieldsFree_methodRest fun method hmethod => .pure (.of_parts rfl (by simp [hkey, hmethod]))

theorem yieldsFree_plainMember : plainMember.YieldsFree := by
  refine .after fun _ => .after fun _ => .ite (fun _ => ?_) fun _ => ?_
  · refine .bind yieldsFree_identifier fun name hname => ?_
    refine .after fun _ => .ite (fun _ => ?_) fun _ => ?_
    · exact .bind (.withIn (yieldsFree_call _)) fun value hvalue =>
        .pure (.of_parts rfl (by simp [hname, hvalue]))
    · exact .pure (.of_parts rfl (by simp [hname]))
  · refine .bind yieldsFree_memberName fun key hkey => ?_
    refine .after fun _ => .ite (fun _ => yieldsFree_methodMember hkey) fun _ => ?_
    exact .after fun _ => .bind (.withIn (yieldsFree_call _)) fun value hvalue =>
      .pure (.of_parts rfl (by simp [hkey, hvalue]))

theorem yieldsFree_literalMember : literalMember.YieldsFree := by
  refine .after fun _ => .ite (fun _ => ?_) fun _ => .after fun head => ?_
  · exact .bind (.withIn (yieldsFree_call _)) fun value hvalue =>
      .pure (.of_parts rfl (by simp [hvalue]))
  · cases head with
    | plain => exact yieldsFree_plainMember
    | getter | setter | function =>
      exact .bind yieldsFree_memberName fun key hkey => yieldsFree_methodMember hkey
    | accessor => exact .unexpected

theorem yieldsFree_objectLiteral : objectLiteral.YieldsFree := by
  refine .after fun _ => .bind (.commaSeparated yieldsFree_literalMember) fun _ hmembers => ?_
  exact .after fun _ => .pure (.of_parts rfl hmembers)

theorem yieldsFree_decorator : decorator.YieldsFree := by
  refine .after fun _ => .bind (yieldsFree_call _) fun value hvalue => ?_
  exact .pure (.of_parts rfl (by simp [hvalue]))

theorem yields_decorators : decorators.Yields fun nodes => ∀ node ∈ nodes, node.AwaitFree :=
  .repeatUntil yieldsFree_decorator

theorem yieldsFree_fieldRest : fieldRest.YieldsFree := by
  have hvalue : (withIn (withOperatorWords false false assignment)).YieldsFree :=
    .withIn (.withOperatorWords (yieldsFree_call _) rfl)
  refine .after fun _ => .either hvalue yieldsFree_absent fun value hvalue => ?_
  exact .after fun _ => .pure hvalue

theorem yieldsFree_classMemberName : classMemberName.YieldsFree := by
  refine .after fun token => ?_
  split
  · exact .after fun _ => .pure (.leaf rfl)
  · exact yieldsFree_memberName

theorem yieldsFree_classMemberRest {isStatic : Bool} : (classMemberRest isStatic).YieldsFree := by
  refine .after fun head => .bind yieldsFree_classMemberName fun key hkey => ?_
  cases head with
  | getter | setter | function => exact yieldsFree_methodMember hkey
  | accessor =>
    exact .bind yieldsFree_fieldRest fun value hvalue =>
      .pure (.of_parts rfl (by simp [hkey, hvalue]))
  | plain =>
    refine .after fun _ => .ite (fun _ => yieldsFree_methodMember hkey) fun _ => ?_
    exact .bind yieldsFree_fieldRest fun value hvalue =>
      .pure (.of_parts rfl (by simp [hkey, hvalue]))

/-- The statements of a static block may wait, which makes no difference outside of it. -/
theorem yieldsFree_staticBlock : staticBlock.YieldsFree := by
  refine .withAnyFlags (.after fun _ => .after fun _ => .after fun _ => .pure ?_)
  exact awaitFree_mk_iff.mpr ⟨rfl, .inl rfl⟩

/-- Decorators behind the parts of a member make no difference. -/
theorem awaitFree_decorated {member : Node} {decorators : List Node} (h : member.AwaitFree)
    (hdecorators : ∀ node ∈ decorators, node.AwaitFree) :
    (Node.mk member.kind (member.children ++ decorators)).AwaitFree := by
  obtain ⟨kind, children⟩ := member
  obtain ⟨hkind, hparts⟩ := awaitFree_mk_iff.mp h
  refine awaitFree_mk_iff.mpr ⟨hkind, hparts.imp_right fun hchildren => ?_⟩
  exact List.forall_mem_append.mpr ⟨hchildren, hdecorators⟩

theorem yieldsFree_classMember : classMember.YieldsFree := by
  refine .after fun _ => .ite (fun _ => .bind yieldsFree_absent fun _ h => .pure h) fun _ => ?_
  refine .bind yields_decorators fun decorators hdecorators => .after fun use => ?_
  cases use with
  | name =>
    exact .bind yieldsFree_classMemberRest fun member h => .pure (awaitFree_decorated h hdecorators)
  | modifier =>
    exact .after fun _ => .bind yieldsFree_classMemberRest fun member h =>
      .pure (awaitFree_decorated h hdecorators)
  | block =>
    exact .after fun _ => .bind yieldsFree_staticBlock fun member h =>
      .pure (awaitFree_decorated h hdecorators)

theorem yieldsFree_classRule : classRule.YieldsFree := by
  refine .bind yields_decorators fun decorators hdecorators => .after fun _ => .after fun _ => ?_
  refine .either yieldsFree_identifier yieldsFree_absent fun name hname => .after fun _ => ?_
  refine .either (yieldsFree_call _) yieldsFree_absent fun heritage hheritage => .after fun _ => ?_
  refine .bind (.repeatUntil yieldsFree_classMember) fun members hmembers => .after fun _ => ?_
  refine .pure (.of_parts rfl ?_)
  simp only [List.forall_mem_cons, List.forall_mem_append]
  exact ⟨hname, hheritage, hdecorators, hmembers⟩

/-! ### Links behind an operand -/

theorem yieldsFree_expression : expression.YieldsFree := by
  refine .bind (yieldsFree_call _) fun first hfirst => ?_
  refine .after fun _ => .ite (fun _ => ?_) fun _ => .pure hfirst
  refine .bind (.repeatUntil (.after fun _ => yieldsFree_call _)) fun rest hrest => ?_
  exact .pure (.of_parts rfl (List.forall_mem_cons.mpr ⟨hfirst, hrest⟩))

theorem yieldsFree_template : template.YieldsFree := by
  have hpieces : templatePieces.Yields fun pieces => ∀ node ∈ pieces.1, node.AwaitFree := by
    refine .loop (fun state => ∀ node ∈ state.1, node.AwaitFree) (fun state hstate => ?_) (by simp)
    obtain ⟨reversed, valid⟩ := state
    refine .after fun token => ?_
    split
    · exact .after fun _ => .pure (Ensures.forall_mem_reverse hstate)
    · refine .after fun _ => .bind (.withIn yieldsFree_expression) fun substitution h => ?_
      exact .after fun _ => .pure (List.forall_mem_cons.mpr ⟨h, hstate⟩)
    · exact .unexpected
  exact .bind hpieces fun _ h => .pure (.of_parts rfl h)

theorem yieldsFree_argument : argument.YieldsFree := by
  refine .after fun _ => .ite (fun _ => ?_) fun _ => yieldsFree_call _
  refine .bind (yieldsFree_call _) fun value hvalue => ?_
  exact .pure (.of_parts rfl (by simp [hvalue]))

theorem yieldsFree_callArguments : callArguments.YieldsFree := by
  refine .withIn (.after fun _ => ?_)
  refine .bind (.commaSeparated yieldsFree_argument) fun _ h => ?_
  exact .after fun _ => .pure (.of_parts rfl h)

theorem yieldsFree_bracketed : bracketed.YieldsFree :=
  .after fun _ => .bind (.withIn yieldsFree_expression) fun _ h => .after fun _ => .pure h

theorem yieldsFree_property : property.YieldsFree := by
  refine .after fun token => ?_
  split
  · exact .after fun _ => .pure (.leaf rfl)
  · exact yieldsFree_propertyName

/-- An operand with a link behind it is free if both are. -/
theorem awaitFree_link {optional : Bool} {kind : NodeKind} {object part : Node}
    (hkind : kind.awaits = false) (hobject : object.AwaitFree) (hpart : part.AwaitFree) :
    (Node.mk (if optional then .optionalChain else kind) [object, part]).AwaitFree := by
  refine .of_parts ?_ (by simp [hobject, hpart])
  split
  · rfl
  · exact hkind

theorem yieldsFree_links {set : LinkSet} {object : Node} (h : object.AwaitFree) :
    (links set object).YieldsFree := by
  refine .loop (fun state => state.2.AwaitFree) (fun state hobject => ?_) h
  obtain ⟨optional, object⟩ := state
  refine .after fun token => ?_
  split
  · exact .after fun _ => .bind yieldsFree_property fun part hpart =>
      .pure (awaitFree_link rfl hobject hpart)
  · exact .ite (fun _ => .pure hobject) fun _ => .bind yieldsFree_bracketed fun part hpart =>
      .pure (awaitFree_link rfl hobject hpart)
  · exact .ite (fun _ => .pure hobject) fun _ => .bind yieldsFree_callArguments fun part hpart =>
      .pure (awaitFree_link rfl hobject hpart)
  · refine .need fun _ => .after fun _ => .after fun token => ?_
    split
    · exact .bind yieldsFree_bracketed fun part hpart => .pure (awaitFree_link rfl hobject hpart)
    · exact .bind yieldsFree_callArguments fun part hpart =>
        .pure (awaitFree_link rfl hobject hpart)
    · exact .unexpected
    · exact .bind yieldsFree_property fun part hpart => .pure (awaitFree_link rfl hobject hpart)
  · exact .reject fun _ => .bind yieldsFree_template fun part hpart =>
      .pure (awaitFree_link rfl hobject hpart)
  · exact .pure hobject

/-! ### Operands -/

theorem yieldsFree_arrayLiteral : arrayLiteral.YieldsFree := by
  have helement : (do if ← atPunct .comma then absent else withIn argument).YieldsFree :=
    .after fun _ => .ite (fun _ => yieldsFree_absent) fun _ => .withIn yieldsFree_argument
  exact .after fun _ => .bind (.commaSeparated helement) fun _ h => .after fun _ =>
    .pure (.of_parts rfl h)

theorem yieldsFree_parenthesized : parenthesized.YieldsFree := by
  have hitem : parenthesizedItem.YieldsFree := by
    refine .after fun _ => .ite (fun _ => ?_) fun _ => .withIn (yieldsFree_call _)
    refine .bind (yieldsFree_restElement (yieldsFree_call _)) fun rest hrest => ?_
    exact .after fun _ => .need fun _ => .pure hrest
  refine .after fun _ => .bind (.commaSeparated hitem) fun _ h => .after fun _ => ?_
  have hnode (headOnly : Bool) : (Node.mk (.parenthesized headOnly) _).AwaitFree := .of_parts rfl h
  refine .ite (fun _ => ?_) fun _ => .pure (hnode _)
  exact .after fun _ => .need fun _ => .pure (hnode _)

theorem yieldsFree_leaf {kind : NodeKind} (hkind : kind.awaits = false) : (leaf kind).YieldsFree :=
  .after fun _ => .reject fun _ => .after fun _ => .pure (.leaf hkind)

theorem yieldsFree_functionExpression : (functionRule functionName).YieldsFree :=
  yieldsFree_functionRule fun _ => yields_functionName

theorem yieldsFree_wordOperand {keyword : Keyword} : (wordOperand keyword).YieldsFree := by
  unfold wordOperand
  split
  · exact yieldsFree_leaf rfl
  · exact yieldsFree_leaf rfl
  · exact yieldsFree_leaf rfl
  · exact yieldsFree_leaf rfl
  · exact yieldsFree_functionExpression
  · exact yieldsFree_classRule
  · exact .after fun _ => .ite (fun _ => yieldsFree_functionExpression) fun _ =>
      yieldsFree_identifier
  · exact yieldsFree_identifier

theorem yieldsFree_primary : primary.YieldsFree := by
  refine .after fun token => ?_
  split
  · exact yieldsFree_identifier
  · exact yieldsFree_wordOperand
  · exact yieldsFree_leaf rfl
  · exact yieldsFree_leaf rfl
  · exact yieldsFree_leaf rfl
  · exact .bind yieldsFree_template fun node hnode => .reject fun _ => .pure hnode
  · exact yieldsFree_arrayLiteral
  · exact yieldsFree_objectLiteral
  · exact yieldsFree_parenthesized
  · exact yieldsFree_classRule
  · exact .after fun _ => yieldsFree_leaf rfl
  · exact .after fun _ => yieldsFree_leaf rfl
  · exact .unexpected

theorem yieldsFree_construct : construct.YieldsFree := by
  have htarget : (expectKeyword .target_ >>= fun _ => pure (.mk .newTarget [])).YieldsFree :=
    .after fun _ => .pure (.leaf rfl)
  refine .after fun _ => .after fun _ => .ite (fun _ => htarget) fun _ => ?_
  refine .bind (yieldsFree_call _) fun callee hcallee => .after fun _ => ?_
  exact .either yieldsFree_callArguments yieldsFree_absent fun arguments harguments =>
    .pure (.of_parts rfl (by simp [hcallee, harguments]))

theorem yieldsFree_importArguments : importArguments.YieldsFree := by
  refine .withIn (.after fun _ => .bind (yieldsFree_call _) fun specifier hspecifier => ?_)
  have hsingle : (Node.mk .importCall [specifier]).AwaitFree := .of_parts rfl (by simp [hspecifier])
  refine .after fun _ => .ite (fun _ => .after fun _ => .ite (fun _ => ?_) fun _ => ?_) fun _ => ?_
  · exact .after fun _ => .pure hsingle
  · refine .bind (yieldsFree_call _) fun options hoptions => .after fun _ => .after fun _ => ?_
    exact .pure (.of_parts rfl (by simp [hspecifier, hoptions]))
  · exact .after fun _ => .pure hsingle

theorem yieldsFree_importOperand {set : LinkSet} : (importOperand set).YieldsFree := by
  have hrest : (if set = .withoutCalls then unexpected >>= fun _ => importArguments
      else importArguments).YieldsFree :=
    .reject fun _ => yieldsFree_importArguments
  refine .after fun _ => .after fun _ => .ite (fun _ => .after fun _ => ?_) fun _ => hrest
  refine .ite (fun _ => .pure (.leaf rfl)) fun _ => .after fun _ => ?_
  exact .ite (fun _ => hrest) fun _ => .after fun _ => hrest

theorem yieldsFree_superOperand : superOperand.YieldsFree := by
  refine .bind (yieldsFree_leaf rfl) fun node hnode => .after fun token => ?_
  split
  · exact .pure hnode
  · exact .pure hnode
  · exact .pure hnode
  · exact .unexpected

theorem yieldsFree_operandRule {set : LinkSet} : (operandRule set).YieldsFree := by
  refine .after fun token => ?_
  split
  · exact .bind yieldsFree_construct fun _ h => yieldsFree_links h
  · exact .bind yieldsFree_importOperand fun _ h => yieldsFree_links h
  · exact .bind yieldsFree_superOperand fun _ h => yieldsFree_links h
  · exact .bind yieldsFree_primary fun _ h => yieldsFree_links h

/-! ### Operators -/

theorem yieldsFree_updateRule : updateRule.YieldsFree := by
  refine .bind (yieldsFree_call _) fun operand hoperand => .after fun _ => ?_
  refine .ite (fun _ => .after fun _ => .after fun _ => ?_) fun _ => .pure hoperand
  exact .pure (.of_parts rfl (by simp [hoperand]))

/-- The word `await` is no operator where it is a name. -/
theorem yieldsFree_unaryRule : unaryRule.YieldsFree := by
  refine .after fun token => .bind .flags fun flags hflags => ?_
  obtain ⟨context, hcontext, rfl⟩ := hflags
  split
  · exact .after fun _ => .bind (yieldsFree_call _) fun operand hoperand =>
      .pure (.of_parts rfl (by simp [hoperand]))
  · refine .ite (fun _ => ?_) fun _ => .ite (fun hawait => ?_) fun _ => yieldsFree_updateRule
    · refine .after fun _ => .bind (yieldsFree_call _) fun operand hoperand => .after fun _ => ?_
      exact .pure (.of_parts rfl (by simp [hoperand]))
    · -- The operator is allowed nowhere that `await` is a name.
      rw [hcontext.flags] at hawait
      contradiction

theorem yieldsFree_operatorTail {floor : Nat} {left : Node} (h : left.AwaitFree) :
    (operatorTail floor left).YieldsFree := by
  refine .loop Node.AwaitFree (fun left hleft => .after fun flags => .after fun token => ?_) h
  split
  · refine .ite (fun _ => ?_) fun _ => .pure hleft
    refine .reject fun _ => .after fun _ => .bind (yieldsFree_call _) fun right hright => ?_
    exact .reject fun _ => .pure (.of_parts rfl (by simp [hleft, hright]))
  · exact .pure hleft

theorem yieldsFree_operatorsRule {floor : Nat} : (operatorsRule floor).YieldsFree := by
  have hprivate : (privateOperand floor).YieldsFree := by
    refine .bind yieldsFree_property fun name hname => ?_
    refine .after fun _ => .need fun _ => ?_
    exact .after fun _ => .need fun _ => .pure hname
  exact .after fun _ => .either hprivate (yieldsFree_call _) fun _ h => yieldsFree_operatorTail h

/-! ### Assignments and arrow functions -/

theorem yieldsFree_arrowFunction {isAsync : Bool} {items : List Node}
    (h : ∀ node ∈ items, node.AwaitFree) : (arrowFunction isAsync items).YieldsFree := by
  have hbody : (functionBody ⟨isAsync, false, true⟩).Yields fun node =>
      isAsync = false → node.AwaitFree :=
    .unlessAsync _ yields_functionBody
  have hvalue : (withOperatorWords isAsync false assignment).Yields fun node =>
      isAsync = false → node.AwaitFree :=
    .unlessAsync ⟨isAsync, false, true⟩ fun hsync => .withOperatorWords (yieldsFree_call _) hsync
  refine .after fun _ => .need fun _ => .after fun _ => .after fun _ => ?_
  refine .either hbody hvalue fun body hbody => .pure (.function fun hsync => ?_)
  have hparameters : (Node.mk .parameters items).AwaitFree := .of_parts rfl h
  simp [Node.AwaitFree.absent, hparameters, hbody hsync]

/-- The parameters in the operand in front of an arrow are its parts. -/
theorem awaitFree_of_arrowHead? {startsAsync isAsync trailingComma : Bool} {head : Node}
    {items : List Node} (h : arrowHead? startsAsync head = some (isAsync, trailingComma, items))
    (hfree : head.AwaitFree) : ∀ node ∈ items, node.AwaitFree := by
  unfold arrowHead? at h
  split at h
  · obtain ⟨-, -, rfl⟩ := by simpa using h
    exact hfree.parts rfl
  · split at h
    · obtain ⟨-, -, rfl⟩ := by simpa using h
      have harguments := hfree.parts rfl _ (List.mem_cons_of_mem _ List.mem_cons_self)
      exact harguments.parts rfl
    · contradiction
  · contradiction

theorem yieldsFree_arrowFromHead {startsAsync : Bool} {head : Node} (h : head.AwaitFree) :
    (arrowFromHead startsAsync head).YieldsFree := by
  unfold arrowFromHead
  split
  · next hhead =>
    have hitems := awaitFree_of_arrowHead? hhead h
    exact .bind (yields_bindable hitems) fun parameters hparameters => .reject fun _ =>
      yieldsFree_arrowFunction hparameters
  · exact .unexpected

theorem yieldsFree_yieldRule : yieldRule.YieldsFree := by
  refine .after fun _ => .after fun _ => .ite (fun _ => ?_) fun _ => .after fun _ => ?_
  · exact .bind yieldsFree_absent fun value hvalue => .pure (.of_parts rfl (by simp [hvalue]))
  · exact .bind (yieldsFree_call _) fun value hvalue => .pure (.of_parts rfl (by simp [hvalue]))

theorem yieldsFree_choice {condition : Node} (h : condition.AwaitFree) :
    (choice condition).YieldsFree := by
  refine .after fun _ => .bind (.withIn (yieldsFree_call _)) fun whenTrue htrue => ?_
  refine .after fun _ => .bind (yieldsFree_call _) fun whenFalse hfalse => ?_
  exact .pure (.of_parts rfl (by simp [h, htrue, hfalse]))

theorem yieldsFree_assignmentTail {startsAsync : Bool} {left : Node} (h : left.AwaitFree) :
    (assignmentTail startsAsync left).YieldsFree := by
  refine .after fun token => ?_
  split
  · exact yieldsFree_arrowFromHead h
  · exact yieldsFree_choice h
  · refine .bind (yieldsFree_assignable h) fun target htarget => .after fun _ => ?_
    refine .bind (yieldsFree_call _) fun value hvalue => ?_
    exact .pure (.of_parts rfl (by simp [htarget, hvalue]))
  · refine .after fun _ => .after fun _ => .bind (yieldsFree_call _) fun value hvalue => ?_
    exact .pure (.of_parts rfl (by simp [h, hvalue]))
  · exact .pure h

theorem yieldsFree_assignmentRule : assignmentRule.YieldsFree := by
  have hname : (withFlags (fun flags => { flags with allowAwait := true }) identifier).YieldsFree :=
    .withAnyFlags ensures_identifier
  refine .after fun first => .after fun flags => .after fun _ => ?_
  refine .ite (fun _ => yieldsFree_yieldRule) fun _ => .after fun _ => .ite (fun _ => ?_) fun _ =>
    .after fun _ => .ite (fun _ => .after fun _ => ?_) fun _ => ?_
  · exact .bind yieldsFree_identifier fun name h => yieldsFree_arrowFunction (by simp [h])
  · exact .bind hname fun name h => yieldsFree_arrowFunction (by simp [h])
  · exact .bind (yieldsFree_call _) fun left h => yieldsFree_assignmentTail h

end ModuleBundler.Script.Parser
