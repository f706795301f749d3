import ModuleBundler.Proofs.Script.AwaitFree.Expression
import ModuleBundler.Script.Program

/-!
# Statements that do not wait

Where `await` is a name, statements and declarations are read to free trees: the head of a loop and
a declaration of variables ask for the operator before they make use of the word. So a script is
free of code that waits, apart from its asynchronous functions.

## Main results

* `Parser.yieldsFree_statementRule` — the rule for statements.
* `awaitFree_of_parseScript` — a script consists of free trees.
-/

namespace ModuleBundler.Script

namespace Parser

/-! ### Declarations -/

variable {kind : VariableKind}

/-- A declaration waits for its values only if its keyword says so. -/
theorem awaits_variableList (hkind : kind ≠ .awaitUsing) :
    (NodeKind.variableList kind).awaits = false := by
  cases kind <;> first | rfl | contradiction

theorem yieldsFree_declarator : declarator.YieldsFree := by
  refine .bind (yieldsFree_call _) fun target htarget => .after fun _ => ?_
  refine .either (yieldsFree_call _) yieldsFree_absent fun value hvalue => ?_
  exact .pure (.of_parts rfl (by simp [htarget, hvalue]))

theorem yieldsFree_variableList (hkind : kind ≠ .awaitUsing) : (variableList kind).YieldsFree := by
  refine .ite (fun _ => .after fun _ => ?_) fun _ => ?_
  all_goals
    refine .after fun _ => .bind yieldsFree_declarator fun first hfirst => ?_
    refine .bind (.repeatUntil (.after fun _ => yieldsFree_declarator)) fun rest hrest => ?_
    exact .pure (.of_parts (awaits_variableList hkind) (List.forall_mem_cons.mpr ⟨hfirst, hrest⟩))

theorem yieldsFree_variableStatement (hkind : kind ≠ .awaitUsing) :
    (variableStatement kind).YieldsFree :=
  .bind (yieldsFree_variableList hkind) fun _ hnode => .after fun _ => .after fun _ => .pure hnode

/-- Where `await` is a name, it starts no declaration. -/
theorem yields_usingKind? : usingKind?.Yields fun kind? => ∀ kind ∈ kind?, kind ≠ .awaitUsing := by
  refine .bind .flags fun flags hflags => .after fun token => .after fun second => ?_
  obtain ⟨context, hcontext, rfl⟩ := hflags
  have hnone : ∀ kind ∈ (none : Option VariableKind), kind ≠ .awaitUsing := by simp
  split
  · refine .ite (fun _ => .pure hnone) fun _ => ?_
    split
    · refine .pure ?_
      split <;> simp
    · rw [hcontext.flags]
      exact .pure hnone
    · exact .pure hnone
  · exact .pure hnone

theorem yieldsFree_functionDeclaration {place : Place} :
    (functionDeclaration place).YieldsFree := by
  refine .bind (yieldsFree_functionRule fun _ _ => yieldsFree_identifier) fun node hnode => ?_
  split
  · exact .reject fun _ => .pure hnode
  · exact .pure hnode

theorem yieldsFree_classDeclaration {place : Place} : (classDeclaration place).YieldsFree :=
  .reject fun _ => yieldsFree_classRule

/-! ### Loops -/

theorem yieldsFree_condition : condition.YieldsFree :=
  .after fun _ => .bind (.withIn yieldsFree_expression) fun _ h => .after fun _ => .pure h

variable {target initial : Node}

theorem yieldsFree_forInRest (h : target.AwaitFree) : (forInRest target).YieldsFree := by
  refine .bind (.withIn yieldsFree_expression) fun object hobject => .after fun _ => ?_
  refine .bind (yieldsFree_call _) fun body hbody => ?_
  exact .pure (.of_parts rfl (by simp [h, hobject, hbody]))

theorem yieldsFree_forOfRest (h : target.AwaitFree) : (forOfRest false target).YieldsFree := by
  refine .bind (.withIn (yieldsFree_call _)) fun object hobject => .after fun _ => ?_
  refine .bind (yieldsFree_call _) fun body hbody => ?_
  exact .pure (.of_parts rfl (by simp [h, hobject, hbody]))

theorem yieldsFree_optionalExpression {stop : Punct} : (optionalExpression stop).YieldsFree := by
  refine .after fun _ => ?_
  refine .either yieldsFree_absent (.withIn yieldsFree_expression) fun node hnode => ?_
  exact .after fun _ => .pure hnode

theorem yieldsFree_forRest {isAwait : Bool} (h : initial.AwaitFree) :
    (forRest isAwait initial).YieldsFree := by
  refine .reject fun _ => .after fun _ => ?_
  refine .bind yieldsFree_optionalExpression fun condition hcondition => ?_
  refine .bind yieldsFree_optionalExpression fun update hupdate => ?_
  exact .bind (yieldsFree_call _) fun body hbody =>
    .pure (.of_parts rfl (by simp [h, hcondition, hupdate, hbody]))

theorem yieldsFree_forDeclaration (hkind : kind ≠ .awaitUsing) :
    (forDeclaration false kind).YieldsFree := by
  refine .bind (.withoutIn (yieldsFree_variableList hkind)) fun declaration h => .after fun _ => ?_
  refine .ite (fun _ => .after fun _ => yieldsFree_forOfRest h) fun _ => .after fun _ => ?_
  refine .ite (fun _ => .reject fun _ => .after fun _ => yieldsFree_forInRest h) fun _ => ?_
  exact .after fun _ => yieldsFree_forRest h

theorem yieldsFree_forExpression : (forExpression false).YieldsFree := by
  refine .after fun token => .after fun second => ?_
  refine .bind (.withoutIn yieldsFree_expression) fun initial h => .after fun _ => ?_
  refine .ite (fun _ => .reject fun _ => ?_) fun _ => .after fun _ => .ite (fun _ => ?_) fun _ => ?_
  · refine .bind (yieldsFree_assignable h) fun target htarget => ?_
    exact .after fun _ => yieldsFree_forOfRest htarget
  · refine .reject fun _ => .bind (yieldsFree_assignable h) fun target htarget => ?_
    exact .after fun _ => yieldsFree_forInRest htarget
  · exact yieldsFree_forRest h

theorem yields_headKind? : headKind?.Yields fun kind? => ∀ kind ∈ kind?, kind ≠ .awaitUsing := by
  refine .after fun token => ?_
  split
  · exact .pure (by simp)
  · exact .pure (by simp)
  · refine .after fun starts => .pure ?_
    split <;> simp
  · refine .after fun second => .ite (fun _ => .pure (by simp)) fun _ => yields_usingKind?
  · exact yields_usingKind?

theorem yieldsFree_forStatement : forStatement.YieldsFree := by
  refine .after fun _ => .after fun isAwait => .bind .flags fun flags hflags => ?_
  obtain ⟨context, hcontext, rfl⟩ := hflags
  refine .reject fun hawait => .after fun _ => .after fun _ => ?_
  -- The word `await` behind `for` is refused where it is a name.
  obtain rfl : isAwait = false := by simpa [hcontext.flags] using hawait
  refine .ite (fun _ => .bind yieldsFree_absent fun _ h => yieldsFree_forRest h) fun _ => ?_
  refine .bind yields_headKind? fun kind? hkind => ?_
  cases kind? with
  | some kind => exact yieldsFree_forDeclaration (hkind kind rfl)
  | none => exact yieldsFree_forExpression

theorem yieldsFree_whileStatement : whileStatement.YieldsFree := by
  refine .after fun _ => .bind yieldsFree_condition fun condition hcondition => ?_
  refine .bind (yieldsFree_call _) fun body hbody => ?_
  exact .pure (.of_parts rfl (by simp [hcondition, hbody]))

theorem yieldsFree_doWhileStatement : doWhileStatement.YieldsFree := by
  refine .after fun _ => .bind (yieldsFree_call _) fun body hbody => .after fun _ => ?_
  refine .bind yieldsFree_condition fun condition hcondition => .after fun _ => ?_
  exact .pure (.of_parts rfl (by simp [hbody, hcondition]))

/-! ### Exports in a block -/

/-- What is exported is a tree of the kind or a name. -/
abbrev YieldsFreeExports (parser : Parser Exports) : Prop :=
  parser.Yields fun exports => ∀ node ∈ exports.nodes, node.AwaitFree

theorem yieldsFree_defaultValue {start : Nat} {value : Parser Node} (h : value.YieldsFree) :
    (defaultValue start value).YieldsFreeExports :=
  .bind (.withExtent h) fun _ hnode => .pure (by simpa [Exports.nodes] using hnode)

theorem yieldsFree_exportList : exportList.YieldsFreeExports := by
  refine .after fun _ => .after fun listed => .after fun _ => .ite (fun _ => ?_) fun _ => ?_
  · exact .after fun specifier => .after fun _ => .after fun _ => .pure (by simp [Exports.nodes])
  · exact .reject fun _ => .after fun _ => .pure (by simp [Exports.nodes])

theorem yieldsFree_exportAll : exportAll.YieldsFreeExports := by
  refine .after fun _ => .after fun _ => .ite (fun _ => .after fun _ => .after fun _ => ?_) fun _ =>
    .after fun _ => ?_
  all_goals
    exact .after fun _ => .after fun _ => .after fun _ => .after fun _ =>
      .pure (by simp [Exports.nodes])

theorem yieldsFree_exportDefault {start : Nat} : (exportDefault start).YieldsFreeExports := by
  have hfunction : (functionRule fun _ => optionalName).YieldsFree :=
    yieldsFree_functionRule fun _ _ => .after fun _ => .ite (fun _ => yieldsFree_absent) fun _ =>
      yieldsFree_identifier
  refine .after fun distance => .after fun _ => .after fun _ => .ite (fun _ => ?_) fun _ =>
    .after fun _ => .after fun _ => .ite (fun _ => ?_) fun _ => ?_
  · exact yieldsFree_defaultValue hfunction
  · exact yieldsFree_defaultValue yieldsFree_classRule
  · exact .bind (yieldsFree_defaultValue (.withIn (yieldsFree_call _))) fun _ h => .after fun _ =>
      .pure h

theorem yieldsFree_exportedDeclaration {start : Nat} :
    (exportedDeclaration start).YieldsFreeExports := by
  have hdeclaration {node : Node} (h : node.AwaitFree) :
      ∀ other ∈ (Exports.declaration start node).nodes, other.AwaitFree := by
    simpa [Exports.nodes] using h
  refine .after fun token => ?_
  split
  · exact .bind (yieldsFree_variableStatement nofun) fun _ h => .pure (hdeclaration h)
  · exact .bind (yieldsFree_variableStatement nofun) fun _ h => .pure (hdeclaration h)
  · exact .bind (yieldsFree_variableStatement nofun) fun _ h => .pure (hdeclaration h)
  · exact .bind yieldsFree_classDeclaration fun _ h => .pure (hdeclaration h)
  · exact .bind yieldsFree_classDeclaration fun _ h => .pure (hdeclaration h)
  · exact .bind yieldsFree_functionDeclaration fun _ h => .pure (hdeclaration h)
  · exact .after fun _ => .need fun _ => .bind yieldsFree_functionDeclaration fun _ h =>
      .pure (hdeclaration h)
  · exact .unexpected

theorem yieldsFree_exportDeclaration : exportDeclaration.Yields fun declaration =>
    ∀ node ∈ declaration.exports.nodes, node.AwaitFree := by
  refine .bind (.withExtent (?_ : YieldsFreeExports _)) fun _ h => .pure h
  refine .after fun distance => .after fun token => ?_
  split
  · exact yieldsFree_exportList
  · exact yieldsFree_exportAll
  · exact yieldsFree_exportDefault
  · exact yieldsFree_exportedDeclaration

/-! ### Statements -/

theorem yieldsFree_block : block.YieldsFree := by
  refine .after fun _ => .bind (.repeatUntil (yieldsFree_call _)) fun statements h => ?_
  exact .after fun _ => .pure (.of_parts rfl h)

theorem yieldsFree_expressionStatement : expressionStatement.YieldsFree := by
  refine .bind (.withIn yieldsFree_expression) fun node hnode => .after fun _ => ?_
  exact .pure (.of_parts rfl (by simp [hnode]))

theorem yieldsFree_ifStatement : ifStatement.YieldsFree := by
  refine .after fun _ => .bind yieldsFree_condition fun condition hcondition => ?_
  refine .bind (yieldsFree_call _) fun whenTrue htrue => .after fun _ => ?_
  refine .either (yieldsFree_call _) yieldsFree_absent fun whenFalse hfalse => ?_
  exact .pure (.of_parts rfl (by simp [hcondition, htrue, hfalse]))

theorem yieldsFree_switchCase : switchCase.YieldsFree := by
  refine .after fun _ => .ite (fun _ => .bind yieldsFree_absent ?_) fun _ => .after fun _ =>
    .bind (.withIn yieldsFree_expression) ?_
  all_goals
    intro value hvalue
    refine .after fun _ => .bind (.repeatUntil (yieldsFree_call _)) fun statements h => ?_
    exact .pure (.of_parts rfl (List.forall_mem_cons.mpr ⟨hvalue, h⟩))

theorem yieldsFree_switchStatement : switchStatement.YieldsFree := by
  refine .after fun _ => .bind yieldsFree_condition fun value hvalue => .after fun _ => ?_
  refine .bind (.repeatUntil yieldsFree_switchCase) fun cases h => .after fun _ => ?_
  exact .pure (.of_parts rfl (List.forall_mem_cons.mpr ⟨hvalue, h⟩))

theorem yieldsFree_withStatement : withStatement.YieldsFree := by
  refine .after fun _ => .bind yieldsFree_condition fun object hobject => ?_
  refine .bind (yieldsFree_call _) fun body hbody => ?_
  exact .pure (.of_parts rfl (by simp [hobject, hbody]))

theorem yieldsFree_jump {keyword : Keyword} {kind : NodeKind} (hkind : kind.awaits = false) :
    (jump keyword kind).YieldsFree := by
  refine .after fun _ => .after fun _ => ?_
  exact .either yieldsFree_absent yieldsFree_identifier fun label hlabel => .after fun _ =>
    .pure (.of_parts hkind (by simp [hlabel]))

theorem yieldsFree_returnStatement : returnStatement.YieldsFree := by
  refine .after fun _ => .need fun _ => .after fun _ => .after fun _ => ?_
  refine .either yieldsFree_absent (.withIn yieldsFree_expression) fun value hvalue => ?_
  exact .after fun _ => .pure (.of_parts rfl (by simp [hvalue]))

theorem yieldsFree_throwStatement : throwStatement.YieldsFree := by
  refine .after fun _ => .after fun _ => .reject fun _ => ?_
  refine .bind (.withIn yieldsFree_expression) fun value hvalue => .after fun _ => ?_
  exact .pure (.of_parts rfl (by simp [hvalue]))

theorem yieldsFree_catchClause : catchClause.YieldsFree := by
  have hrest (target : Node) (htarget : target.AwaitFree) : (block >>= fun body =>
      pure (Node.mk .catchClause [target, body])).YieldsFree :=
    .bind yieldsFree_block fun body hbody => .pure (.of_parts rfl (by simp [htarget, hbody]))
  refine .after fun _ => .after fun _ => .ite (fun _ => ?_) fun _ => .bind yieldsFree_absent ?_
  · refine .bind (yieldsFree_call _) fun target htarget => .after fun _ => .bind (.pure htarget) ?_
    exact hrest
  · exact hrest

theorem yieldsFree_tryStatement : tryStatement.YieldsFree := by
  refine .after fun _ => .bind yieldsFree_block fun body hbody => .after fun _ => ?_
  refine .either yieldsFree_catchClause yieldsFree_absent fun handler hhandler => .after fun _ => ?_
  refine .ite (fun _ => .bind yieldsFree_block ?_) fun _ => .reject fun _ =>
    .bind yieldsFree_absent ?_
  all_goals exact fun last hlast => .pure (.of_parts rfl (by simp [hbody, hhandler, hlast]))

variable {place : Place}

theorem yieldsFree_letStatement : (letStatement place).YieldsFree := by
  refine .after fun second => .after fun token => .ite (fun _ => yieldsFree_expressionStatement)
    fun _ => ?_
  split
  · exact yieldsFree_expressionStatement
  · exact .reject fun _ => yieldsFree_variableStatement nofun
  · exact .bind yieldsFree_identifier fun name hname => .after fun _ =>
      .pure (.of_parts rfl (by simp [hname]))

theorem yieldsFree_labeledStatement : labeledStatement.YieldsFree := by
  refine .bind yieldsFree_identifier fun label hlabel => .after fun _ => ?_
  refine .bind (yieldsFree_call _) fun body hbody => ?_
  exact .pure (.of_parts rfl (by simp [hlabel, hbody]))

theorem yieldsFree_nameStatement : (nameStatement place).YieldsFree := by
  refine .after fun _ => .ite (fun _ => yieldsFree_functionDeclaration) fun _ =>
    .bind yields_usingKind? fun kind? hkind => ?_
  cases kind? with
  | some kind =>
    exact .reject fun _ => yieldsFree_variableStatement (hkind kind rfl)
  | none =>
    exact .after fun _ => .after fun _ => .ite (fun _ => yieldsFree_labeledStatement) fun _ =>
      yieldsFree_expressionStatement

theorem yieldsFree_nestedDeclaration : nestedDeclaration.YieldsFree := by
  refine .after fun _ => .ite (fun _ => ?_) fun _ => ?_
  · exact .after fun _ => .pure (.leaf rfl)
  · exact .bind yieldsFree_exportDeclaration fun declaration h => .pure (.of_parts rfl h)

theorem yieldsFree_keywordStatement {keyword : Keyword} :
    (keywordStatement place keyword).YieldsFree := by
  unfold keywordStatement
  split
  · exact yieldsFree_variableStatement nofun
  · exact .reject fun _ => yieldsFree_variableStatement nofun
  · exact yieldsFree_letStatement
  · exact yieldsFree_functionDeclaration
  · exact yieldsFree_classDeclaration
  · exact yieldsFree_ifStatement
  · exact yieldsFree_forStatement
  · exact yieldsFree_whileStatement
  · exact yieldsFree_doWhileStatement
  · exact yieldsFree_switchStatement
  · exact yieldsFree_withStatement
  · exact yieldsFree_jump rfl
  · exact yieldsFree_jump rfl
  · exact yieldsFree_returnStatement
  · exact yieldsFree_throwStatement
  · exact yieldsFree_tryStatement
  · exact .after fun _ => .after fun _ => .pure (.leaf rfl)
  · exact yieldsFree_nestedDeclaration
  · exact .after fun _ => .ite (fun _ => yieldsFree_nestedDeclaration) fun _ =>
      yieldsFree_expressionStatement
  · exact yieldsFree_nameStatement

theorem yieldsFree_statementRule : (statementRule place).YieldsFree := by
  refine .after fun token => ?_
  split
  · exact yieldsFree_block
  · exact .after fun _ => .pure (.leaf rfl)
  · exact yieldsFree_classDeclaration
  · exact yieldsFree_keywordStatement
  · exact yieldsFree_nameStatement
  · exact yieldsFree_expressionStatement

end Parser

/-! ### Scripts -/

theorem yieldsFree_grammar (rule : Rule) : (grammar rule).YieldsFree := by
  cases rule with
  | assignment => exact Parser.yieldsFree_assignmentRule
  | operators => exact Parser.yieldsFree_operatorsRule
  | unary => exact Parser.yieldsFree_unaryRule
  | operand => exact Parser.yieldsFree_operandRule
  | binding => exact Parser.yieldsFree_bindingRule
  | statement => exact Parser.yieldsFree_statementRule

/-- At every depth, the rules of the grammar come to free trees where `await` is a name. -/
theorem awaitFree_rulesAt {goal : Goal} {width depth : Nat} {flags : Flags}
    (hname : flags.allowAwait = false) :
    Context.AwaitFree ⟨goal, width, flags, rulesAt goal width depth⟩ := by
  refine ⟨hname, ?_⟩
  -- Rules refer to each other through the rules of the next lower depth.
  induction depth generalizing flags with
  | zero => intro _ _ _ _ _ _ hrun; contradiction
  | succ depth ih =>
    intro rule flags' cursor node next hname' hrun
    exact yieldsFree_grammar rule ⟨hname', ih hname'⟩ hrun

/-- What a parser ensures at the top of a text it ensures of the whole text. -/
theorem Parser.Ensures.of_parseText {α : Type} {goal : Goal} {parser : Parser α}
    {pre : Context → Prop} {post : α → Prop} {chars : List Char} {a : α}
    (h : parser.Ensures pre post) (hpre : pre (topContext goal chars.length))
    (hrun : parseText goal parser chars = .ok a) : post a := by
  unfold parseText at hrun
  cases hstart : startCursor goal chars with
  | error fault => rw [hstart] at hrun; contradiction
  | ok cursor =>
    rw [hstart] at hrun
    cases hparser : parser.run (topContext goal chars.length) cursor with
    | error fault => simp [hparser, bind, Except.bind] at hrun
    | ok outcome =>
      obtain rfl : outcome.1 = a := by
        simpa [hparser, bind, Except.bind, pure, Except.pure] using hrun
      exact h hpre hparser

/-- **Scripts do not wait**: a script consists of trees that wait in asynchronous functions and
static blocks only. -/
theorem awaitFree_of_parseScript {chars : List Char} {nodes : List Node}
    (h : parseScript chars = .ok nodes) : ∀ node ∈ nodes, node.AwaitFree := by
  have hstatements : (Parser.repeatUntil Parser.atEnd (Parser.statement .list)).Yields
      fun nodes => ∀ node ∈ nodes, node.AwaitFree :=
    .repeatUntil (Parser.yieldsFree_call _)
  unfold parseScript at h
  cases hparse : parseText .script (Parser.repeatUntil Parser.atEnd (Parser.statement .list))
      chars with
  | error fault => rw [hparse] at h; contradiction
  | ok read =>
    obtain rfl : read = nodes := by
      simp only [hparse, bind, Except.bind] at h
      split at h
      · contradiction
      · exact Except.ok.inj h
    exact hstatements.of_parseText (awaitFree_rulesAt rfl) hparse

end ModuleBundler.Script
