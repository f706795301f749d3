import ModuleBundler.Proofs.Script.AwaitFree.Statement
import ModuleBundler.Proofs.Script.Rename.Expression

/-!
# Statements where `await` becomes a name

A statement keeps to what it reads where `await` becomes a name, or it fails: it ends in front of no
token that blocks. A statement that waits cannot keep to what it reads, as nothing waits where
`await` is a name. So it fails.

## Main results

* `Passage.Renames.statementRule` — statements keep to what they read.
* `exists_error_of_awaits` — a statement that waits is none where `await` is a name.
-/

namespace ModuleBundler.Script

variable {α β : Type} {passage : Passage} {goal : Goal} {stop : Cursor → Prop}

/-! ### In front of a token that blocks -/

namespace Parser.Halts

/-- A list with commas ends there. -/
theorem repeatUntil_atListEnd {item : Parser Node} :
    (Parser.repeatUntil (do return !(← Parser.atPunct .comma)) item).Stalls Cursor.Blocked := by
  refine .loop (fun _ => ?_) _
  exact .known (fun _ _ => run_atListEnd) (.ite_pos rfl .pure)

theorem checkValues {node : Node} : (Parser.checkValues node).Halts stop stop := by
  unfold Parser.checkValues
  split
  · exact .ite .fail .pure
  · exact .pure

/-- No loop goes on there. -/
theorem forRest {isAwait : Bool} {initial : Node} : (Parser.forRest isAwait initial).Stalls stop :=
  .ite .fail_bind (.expectPunct rfl)

end Parser.Halts

namespace Parser.Waits

theorem expressionStatement : Parser.expressionStatement.Waits goal stop :=
  .bind (.withFlags .expression fun _ hname => hname) fun _ => .endStatement

theorem forExpression {isAwait : Bool} : (Parser.forExpression isAwait).Waits goal stop := by
  refine .peek fun _ _ => .peekSecond fun _ _ => ?_
  refine .bind (.withFlags .expression fun _ hname => hname) fun _ => .atKeyword rfl ?_
  refine .ite_neg Bool.false_ne_true (.atKeyword rfl ?_)
  exact .ite_neg Bool.false_ne_true .forRest

end Parser.Waits

/-! ### Words that start a declaration -/

namespace Parser

/-- The words `await using` start a declaration only where `await` is an operator; otherwise it does
not matter what the word is. -/
theorem run_usingKind? (context : Context) (cursor : Cursor) :
    ∃ kind?, usingKind?.run context cursor = .ok (kind?, cursor) ∧
      (usingKind?.run context.named cursor = .ok (kind?, cursor) ∨
        kind? = some .awaitUsing ∧ cursor.token.kind = .word (some .await_) ∧
          cursor.token.escaped = false ∧
            usingKind?.run context.named cursor = .ok (none, cursor)) := by
  have hgoal : context.named.goal = context.goal := rfl
  have hname : context.named.flags.allowAwait = false := rfl
  simp only [usingKind?, run_bind, Parser.flags, Parser.peek, ask, peekSecond, hgoal, hname]
  cases (cursor.behindWord? context.goal).map Cursor.token with
  | none => exact ⟨none, rfl, .inl rfl⟩
  | some second =>
    by_cases hstays : (cursor.token.escaped || second.newline) = true
    · simp only [hstays, if_true]
      exact ⟨none, rfl, .inl rfl⟩
    · have hescaped : cursor.token.escaped = false := by
        rw [Bool.or_eq_true, not_or, Bool.not_eq_true] at hstays
        exact hstays.1
      simp only [if_neg hstays]
      split
      · exact ⟨_, rfl, .inl rfl⟩
      · next hkind =>
        simp only [Bool.false_and, Bool.false_eq_true, if_false]
        by_cases hword : (context.flags.allowAwait && second.kind == .word (some .using_) &&
            !second.escaped) = true
        · simp only [if_pos hword, run_bind, peekThird]
          split
          · split_ifs
            · exact ⟨_, rfl, .inr ⟨rfl, hkind, hescaped, rfl⟩⟩
            · exact ⟨none, rfl, .inl rfl⟩
          · exact ⟨none, rfl, .inl rfl⟩
        · exact ⟨none, by rw [if_neg hword]; rfl, .inl rfl⟩
      · exact ⟨none, rfl, .inl rfl⟩

end Parser

namespace Passage.Renames

/-- What follows a declaration with `await using` passes over the word; without one, it fails behind
the word. -/
theorem usingKind? {next : Option VariableKind → Parser β}
    (h : ∀ kind?, passage.Renames stop (next kind?))
    (hadvances : ∀ context, (next (some .awaitUsing)).Advances context)
    (hwaits : (next none).Waits passage.goal stop) :
    passage.Renames stop (Parser.usingKind? >>= next) := by
  intro context hcontext cursor hguarded b last hrun hreach
  obtain ⟨kind?, hkind, hnamed⟩ := Parser.run_usingKind? context cursor
  rw [Parser.run_bind, hkind] at hrun
  obtain hsame | ⟨rfl, htoken, hescaped, hnone⟩ := hnamed
  · rw [Parser.run_bind, hsame]
    exact h kind? hcontext hguarded hrun hreach
  · have hpasses := hadvances context hcontext.sound hrun
    rw [hcontext.goal_eq] at hpasses
    refine .inr fun b' last' hrun' => ?_
    rw [Parser.run_bind, hnone] at hrun'
    exact hwaits hcontext.names (hguarded.awaits htoken hescaped (hpasses.trans_reaches hreach))
      hrun'

/-! ### Declarations -/

theorem declarator : passage.Strays Parser.declarator :=
  .after .binding fun _ => .after .eatPunct fun _ => .either .assignment .pure (fun _ => .pure)
    fun _ => .pure

theorem variableList {kind : VariableKind} : passage.Strays (Parser.variableList kind) := by
  have hmore : passage.Strays (do
      Parser.expectPunct .comma
      Parser.declarator) :=
    .after .expectPunct fun _ => .declarator
  have hlist : passage.Strays (do
      Parser.advanceKeyword
      let first ← Parser.declarator
      let rest ← Parser.repeatUntil (return !(← Parser.atPunct .comma)) (do
        Parser.expectPunct .comma
        Parser.declarator)
      return Node.mk (.variableList kind) (first :: rest)) := by
    refine .after .advanceKeyword fun _ => .before .declarator (fun _ => ?_) fun _ => ?_
    · exact .make (.repeatUntil_of_finished (.after .atPunct fun _ => .pure)
        (fun _ _ => Parser.Halts.run_atListEnd) hmore)
    · exact .make .repeatUntil_atListEnd
  exact .ite (.after .advanceKeyword fun _ => hlist) hlist

theorem checkValues {node : Node} : passage.Renames stop (Parser.checkValues node) := by
  unfold Parser.checkValues
  split
  · exact .ite .fail .pure
  · exact .pure

theorem variableStatement {kind : VariableKind} :
    passage.Keeps (Parser.variableStatement kind) := by
  refine .before .variableList (fun _ => .after .checkValues fun _ => ?_) fun _ => ?_
  · exact .after .endStatement fun _ => .pure
  · exact .bind .checkValues fun _ => .endStatement

theorem functionDeclaration {place : Place} : passage.Keeps (Parser.functionDeclaration place) := by
  refine .after (.functionRule fun _ => .identifier) fun node => ?_
  split
  · exact .ite .fail_bind .pure
  · exact .pure

theorem classDeclaration {place : Place} : passage.Keeps (Parser.classDeclaration place) :=
  .ite .fail_bind .classRule

theorem optionalName : passage.Renames stop Parser.optionalName :=
  .after .atPunct fun _ => .ite .pure .identifier

theorem letStarts : passage.Renames stop Parser.letStarts := by
  refine .after .atKeyword fun _ => .ite (.after .peek fun token => .ite .pure ?_) .pure
  refine .after .peekSecond fun second => ?_
  split
  · split
    all_goals exact .pure
  · exact .pure

/-! ### Loops -/

theorem condition : passage.Keeps Parser.condition := by
  refine .after .expectPunct fun _ => .before (.withIn .expression) (fun _ => ?_) fun _ => ?_
  · exact .after .expectPunct fun _ => .pure
  · exact .expectPunct rfl

theorem loopBody : passage.Keeps Parser.loopBody :=
  .statement

variable {target initial : Node} {isAwait : Bool}

theorem forInRest : passage.Keeps (Parser.forInRest target) := by
  refine .before (.withIn .expression) (fun _ => ?_) fun _ => ?_
  · exact .after .expectPunct fun _ => .make .loopBody
  · exact .expectPunct rfl

theorem forOfRest : passage.Keeps (Parser.forOfRest isAwait target) := by
  refine .before (.withIn .assignment) (fun _ => ?_) fun _ => ?_
  · exact .after .expectPunct fun _ => .make .loopBody
  · exact .expectPunct rfl

theorem optionalExpression {close : Punct} (hclose : (TokenKind.punct close).blocks = false) :
    passage.Keeps (Parser.optionalExpression close) := by
  refine .after .atPunct fun _ => .either .pure (.withIn .expression) (fun _ => ?_) fun _ => ?_
  · exact .after .expectPunct fun _ => .pure
  · exact .expectPunct hclose

theorem forRest : passage.Keeps (Parser.forRest isAwait initial) := by
  refine .ite .fail_bind (.after .expectPunct fun _ => .after (.optionalExpression rfl) fun _ => ?_)
  exact .after (.optionalExpression rfl) fun _ => .make .loopBody

theorem forDeclaration {kind : VariableKind} :
    passage.Keeps (Parser.forDeclaration isAwait kind) := by
  refine .before (.withoutIn .variableList) (fun _ => .after .atKeyword fun _ => .ite ?_ ?_)
    fun _ => ?_
  · exact .after .advanceKeyword fun _ => .forOfRest
  · refine .after .atKeyword fun _ => .ite (.ite .fail_bind ?_) (.after .checkValues fun _ => ?_)
    · exact .after .advanceKeyword fun _ => .forInRest
    · exact .forRest
  · refine .atKeyword rfl (.ite_neg Bool.false_ne_true (.atKeyword rfl ?_))
    exact .ite_neg Bool.false_ne_true (.bind .checkValues fun _ => .forRest)

theorem forExpression : passage.Keeps (Parser.forExpression isAwait) := by
  refine .after .peek fun _ => .after .peekSecond fun _ => .before (.withoutIn .expression)
    (fun _ => .after .atKeyword fun _ => .ite (.ite .fail_bind ?_) ?_) fun _ => ?_
  · exact .after .assignable fun _ => .after .advanceKeyword fun _ => .forOfRest
  · refine .after .atKeyword fun _ => .ite (.ite .fail_bind ?_) .forRest
    exact .after .assignable fun _ => .after .advanceKeyword fun _ => .forInRest
  · refine .atKeyword rfl (.ite_neg Bool.false_ne_true (.atKeyword rfl ?_))
    exact .ite_neg Bool.false_ne_true .forRest

theorem headKind? {next : Option VariableKind → Parser β}
    (h : ∀ kind?, passage.Renames stop (next kind?))
    (hadvances : ∀ context, (next (some .awaitUsing)).Advances context)
    (hwaits : (next none).Waits passage.goal stop) :
    passage.Renames stop (Parser.headKind? >>= next) := by
  rw [Parser.headKind?, bind_assoc]
  refine .after .peek fun token => ?_
  split
  · exact .after .pure fun _ => h _
  · exact .after .pure fun _ => h _
  · exact .after (.after .letStarts fun _ => .pure) fun _ => h _
  · rw [bind_assoc]
    refine .after .peekSecond fun second => ?_
    split
    · exact .after .pure fun _ => h _
    · exact .usingKind? h hadvances hwaits
  · exact .usingKind? h hadvances hwaits

theorem forStatement : passage.Keeps Parser.forStatement := by
  refine .after .expectKeyword fun _ => .after .eatKeyword fun isAwait => ?_
  refine .flags_reject (fun _ => .fail_bind) (fun _ => rfl) fun _ => .after .expectPunct fun _ => ?_
  refine .after .atPunct fun _ => .ite (.after .pure fun _ => .forRest) ?_
  refine .headKind? (fun kind? => ?_) (fun _ => .bind (.withFlags (.variableList _))) .forExpression
  cases kind? with
  | some kind => exact .forDeclaration
  | none => exact .forExpression

theorem whileStatement : passage.Keeps Parser.whileStatement :=
  .after .expectKeyword fun _ => .after .condition fun _ => .make .loopBody

theorem doWhileStatement : passage.Keeps Parser.doWhileStatement :=
  .after .expectKeyword fun _ => .after .loopBody fun _ => .after .expectKeyword fun _ =>
    .after .condition fun _ => .after .eatPunct fun _ => .pure

/-! ### Imports and exports in a block -/

theorem listedName : passage.Renames stop Parser.listedName := by
  refine .after .peek fun token => ?_
  split
  · exact .after .advance fun _ => .pure
  · exact .ite (.after .advance fun _ => .pure) .fail_bind
  · exact .fail

theorem moduleSpecifier : passage.Renames stop Parser.moduleSpecifier := by
  refine .after .peek fun token => ?_
  split
  · exact .after .advance fun _ => .pure
  · exact .fail

theorem importAttributes : passage.Keeps Parser.importAttributes := by
  have hattribute : passage.Strays Parser.importAttribute := by
    refine .after .peek fun token => ?_
    split
    · exact .after .advance fun _ => .after .expectPunct fun _ => .after .moduleSpecifier fun _ =>
        .pure
    · exact .after .advance fun _ => .after .expectPunct fun _ => .after .moduleSpecifier fun _ =>
        .pure
    · exact .fail_bind
  refine .after .peek fun token => .ite ?_ .pure
  refine .after .advanceKeyword fun _ => .after .expectPunct fun _ => ?_
  exact .after (.commaSeparated rfl hattribute) fun _ => .expectPunct

theorem nameList {item : Parser α} (h : passage.Keeps item) :
    passage.Keeps (Parser.nameList item) := by
  refine .loop_of_keeps (fun _ => ?_) _
  refine .after .eatPunct fun _ => .ite .pure (.after h fun _ => .after .eatPunct fun _ => ?_)
  exact .ite .pure (.after .expectPunct fun _ => .pure)

theorem bindingName : passage.Renames stop Parser.bindingName :=
  .after .peek fun _ => .after .identifier fun _ => .pure

theorem importedName : passage.Keeps Parser.importedName := by
  refine .after .peekSecond fun _ => .after .peek fun _ => .after .atIdentifier fun _ => .ite ?_ ?_
  · exact .after .listedName fun _ => .after .expectKeyword fun _ => .make .bindingName
  · exact .after .bindingName fun _ => .pure

theorem importRest : passage.Keeps Parser.importRest := by
  refine .after .atPunct fun _ => .ite ?_ ?_
  · exact .after .expectPunct fun _ => .make (.nameList .importedName)
  · exact .after .expectPunct fun _ => .after .expectKeyword fun _ => .make .bindingName

theorem importClause : passage.Keeps Parser.importClause := by
  refine .after .atIdentifier fun _ => .ite (.after .bindingName fun _ => ?_) .importRest
  exact .after .eatPunct fun _ => .ite (.make .importRest) .pure

theorem importPhase : passage.Keeps Parser.importPhase := by
  refine .after .peekSecond fun second => .after .peek fun token => ?_
  split
  · exact .ite (.after .advanceKeyword fun _ => .pure) .pure
  · split
    · refine .after .peekThird fun _ => .ite (.after .advanceKeyword fun _ => .pure) .pure
    · exact .pure
  · exact .pure

theorem importDeclaration : passage.Keeps Parser.importDeclaration := by
  have htarget : passage.Keeps Parser.importTarget := by
    refine .after .peek fun token => ?_
    split
    · exact .make .moduleSpecifier
    · refine .after .importPhase fun _ => .after .importClause fun _ => .ite .fail_bind ?_
      exact .after .expectKeyword fun _ => .make .moduleSpecifier
  refine .make (.measured (.after .expectKeyword fun _ => .after htarget fun _ => ?_))
  exact .after .importAttributes fun _ => .after .endStatement fun _ => .pure

theorem exportList : passage.Keeps Parser.exportList := by
  have hname : passage.Keeps Parser.exportedName := by
    refine .after .listedName fun _ => .after .eatKeyword fun _ => .ite ?_ .pure
    exact .after .listedName fun _ => .pure
  refine .after .expectPunct fun _ => .after (.nameList hname) fun _ => .after .eatKeyword
    fun _ => ?_
  refine .ite (.after .moduleSpecifier fun _ => .after .importAttributes fun _ => ?_) ?_
  · exact .after .endStatement fun _ => .pure
  · exact .ite .fail_bind (.after .endStatement fun _ => .pure)

theorem exportAll : passage.Keeps Parser.exportAll := by
  have hrest (exported : Option Name) : passage.Keeps (do
      Parser.expectKeyword .from_
      let specifier ← Parser.moduleSpecifier
      Parser.importAttributes
      Parser.endStatement
      return Exports.all specifier exported) :=
    .after .expectKeyword fun _ => .after .moduleSpecifier fun _ => .after .importAttributes
      fun _ => .after .endStatement fun _ => .pure
  refine .after .expectPunct fun _ => .after .eatKeyword fun _ => .ite ?_ (.after .pure hrest)
  exact .after .listedName fun _ => .after .pure hrest

theorem defaultValue {start : Nat} {value : Parser Node} (h : passage.Renames stop value) :
    passage.Renames stop (Parser.defaultValue start value) :=
  .make (.measured h)

theorem exportDefault {start : Nat} : passage.Keeps (Parser.exportDefault start) := by
  refine .after (.measured .expectKeyword) fun _ => .after .atKeyword fun _ =>
    .after .atAsyncFunction fun _ => .ite ?_ ?_
  · exact .defaultValue (.functionRule fun _ => .optionalName)
  · refine .after .atKeyword fun _ => .after .atPunct fun _ => .ite ?_ ?_
    · exact .defaultValue .classRule
    · refine .before (.defaultValue (.withIn .assignment)) (fun _ => ?_) fun _ => .endStatement
      exact .after .endStatement fun _ => .pure

theorem exportedDeclaration {start : Nat} : passage.Keeps (Parser.exportedDeclaration start) := by
  refine .after .peek fun token => ?_
  split
  · exact .make .variableStatement
  · exact .make .variableStatement
  · exact .make .variableStatement
  · exact .make .classDeclaration
  · exact .make .classDeclaration
  · exact .make .functionDeclaration
  · exact .after .atAsyncFunction fun _ => .ite (.make .functionDeclaration) .fail_bind
  · exact .fail

theorem exportDeclaration : passage.Keeps Parser.exportDeclaration := by
  refine .make (.measured (.after (.measured .expectKeyword) fun _ => .after .peek fun token => ?_))
  split
  · exact .exportList
  · exact .exportAll
  · exact .exportDefault
  · exact .exportedDeclaration

theorem atImportDeclaration : passage.Renames stop Parser.atImportDeclaration :=
  .after .atKeyword fun _ => .ite (.after .peekSecond fun _ => .pure) .pure

theorem nestedDeclaration : passage.Keeps Parser.nestedDeclaration :=
  .after .atKeyword fun _ => .ite (.after .importDeclaration fun _ => .pure)
    (.make .exportDeclaration)

/-! ### Statements -/

theorem block : passage.Keeps Parser.block :=
  .after .expectPunct fun _ => .after (.repeatUntil .atPunct .statement) fun _ =>
    .after .expectPunct fun _ => .pure

theorem expressionStatement : passage.Keeps Parser.expressionStatement := by
  refine .before (.withIn .expression) (fun _ => ?_) fun _ => .endStatement
  exact .after .endStatement fun _ => .pure

theorem ifStatement : passage.Keeps Parser.ifStatement := by
  refine .after .expectKeyword fun _ => .after .condition fun _ => .after .statement fun _ => ?_
  refine .after .eatKeyword fun _ => .either .statement .pure (fun _ => .pure) fun _ => .of_nowhere

theorem switchCase : passage.Keeps Parser.switchCase := by
  have hend : passage.Keeps Parser.atCaseEnd := by
    refine .after .peek fun token => ?_
    split
    all_goals exact .pure
  have hrest (value : Node) : passage.Keeps (do
      Parser.expectPunct .colon
      let statements ← Parser.repeatUntil Parser.atCaseEnd (Parser.statement .list)
      return Node.mk .switchCase (value :: statements)) :=
    .after .expectPunct fun _ => .make (.repeatUntil hend .statement)
  refine .after .eatKeyword fun _ => .ite (.after .pure hrest) (.after .expectKeyword fun _ => ?_)
  exact .before (.withIn .expression) hrest fun _ => .expectPunct rfl

theorem switchStatement : passage.Keeps Parser.switchStatement :=
  .after .expectKeyword fun _ => .after .condition fun _ => .after .expectPunct fun _ =>
    .after (.repeatUntil .atPunct .switchCase) fun _ => .after .expectPunct fun _ => .pure

theorem withStatement : passage.Keeps Parser.withStatement :=
  .after .expectKeyword fun _ => .after .condition fun _ => .make .statement

theorem jump {keyword : Keyword} {kind : NodeKind} : passage.Keeps (Parser.jump keyword kind) :=
  .after .expectKeyword fun _ => .after .atStatementEnd fun _ => .either .pure .identifier
    (fun _ => .after .endStatement fun _ => .pure) fun _ => .of_nowhere

theorem returnStatement : passage.Keeps Parser.returnStatement := by
  refine .flags (fun _ => rfl) fun _ => .ite (.after .expectKeyword fun _ => ?_) .fail_bind
  refine .after .atStatementEnd fun _ => .either .pure (.withIn .expression) (fun _ => ?_)
    fun _ => .endStatement
  exact .after .endStatement fun _ => .pure

theorem throwStatement : passage.Keeps Parser.throwStatement := by
  refine .after .expectKeyword fun _ => .after .peek fun _ => .ite .fail_bind ?_
  refine .before (.withIn .expression) (fun _ => ?_) fun _ => .endStatement
  exact .after .endStatement fun _ => .pure

theorem catchClause : passage.Keeps Parser.catchClause := by
  refine .after .expectKeyword fun _ => .after .eatPunct fun _ => .ite ?_ ?_
  · exact .after .binding fun _ => .after .expectPunct fun _ => .after .pure fun _ => .make .block
  · exact .after .pure fun _ => .make .block

theorem tryStatement : passage.Keeps Parser.tryStatement := by
  refine .after .expectKeyword fun _ => .after .block fun _ => .after .atKeyword fun _ => ?_
  refine .either .catchClause .pure (fun _ => .after .eatKeyword fun _ => ?_) fun _ => .of_nowhere
  exact .ite (.make .block) (.ite .fail_bind (.make .pure))

variable {place : Place}

theorem letStatement : passage.Keeps (Parser.letStatement place) := by
  refine .after .peekSecond fun second => .after .peek fun token => .ite .expressionStatement ?_
  split
  · exact .expressionStatement
  · exact .ite .fail_bind .variableStatement
  · exact .after .identifier fun _ => .after .endStatement fun _ => .pure

theorem labeledStatement : passage.Keeps Parser.labeledStatement :=
  .after .identifier fun _ => .after .expectPunct fun _ => .make .statement

theorem nameStatement : passage.Keeps (Parser.nameStatement place) := by
  refine .after .atAsyncFunction fun _ => .ite .functionDeclaration ?_
  refine .usingKind? (fun kind? => ?_) (fun _ => ?_) ?_
  · cases kind? with
    | some kind => exact .ite .fail_bind .variableStatement
    | none =>
      exact .after .peekSecond fun _ => .after .atIdentifier fun _ =>
        .ite .labeledStatement .expressionStatement
  · exact .ite (.bind .fail) (.variableStatement _)
  · refine .peekSecond fun second hsecond => .known (fun _ _ _ => Parser.Waits.run_atIdentifier) ?_
    exact .ite_neg (by rw [Parser.Waits.any_eq_false rfl hsecond]; simp) .expressionStatement

theorem keywordStatement {keyword : Keyword} :
    passage.Keeps (Parser.keywordStatement place keyword) := by
  unfold Parser.keywordStatement
  split
  · exact .variableStatement
  · exact .ite .fail_bind .variableStatement
  · exact .letStatement
  · exact .functionDeclaration
  · exact .classDeclaration
  · exact .ifStatement
  · exact .forStatement
  · exact .whileStatement
  · exact .doWhileStatement
  · exact .switchStatement
  · exact .withStatement
  · exact .jump
  · exact .jump
  · exact .returnStatement
  · exact .throwStatement
  · exact .tryStatement
  · exact .after .advanceKeyword fun _ => .after .endStatement fun _ => .pure
  · exact .nestedDeclaration
  · exact .after .atImportDeclaration fun _ => .ite .nestedDeclaration .expressionStatement
  · exact .nameStatement

/-- **A statement keeps to what is read.** -/
theorem statementRule : passage.Keeps (Parser.statementRule place) := by
  refine .after .peek fun token => ?_
  split
  · exact .block
  · exact .after .advance fun _ => .pure
  · exact .classDeclaration
  · exact .keywordStatement
  · exact .nameStatement
  · exact .expressionStatement

/-- Every rule of the grammar stops where it may. -/
theorem grammar (rule : Rule) : passage.Renames rule.Stop (Script.grammar rule) := by
  cases rule with
  | assignment => exact .assignmentRule
  | operators floor => exact .operatorsRule
  | unary => exact .unaryRule
  | operand set => exact .operandRule
  | binding => exact .bindingRule
  | statement place => exact .statementRule

end Passage.Renames

/-! ### Contexts -/

/-- At every depth an expression that starts with the name `await` stops behind it. -/
theorem Context.names_ruleContext {width depth : Nat} {flags : Flags}
    (hname : flags.allowAwait = false) : Names goal (ruleContext goal width flags depth) := by
  refine ⟨rfl, hname, ?_⟩
  -- Rules refer to each other through the rules of the next lower depth.
  induction depth generalizing flags with
  | zero => intro _ _ _ _ _ _ _ _ hrun; contradiction
  | succ depth ih =>
    intro rule flags' cursor hrule hname' hawaits node last hrun
    exact Parser.Waits.grammar hrule ⟨rfl, hname', ih hname'⟩ hawaits hrun

/-- At every depth the rules part as they may where `await` becomes a name. -/
theorem Passage.contexts_ruleContext {width depth : Nat} {flags : Flags} :
    passage.Contexts (ruleContext passage.goal width flags depth) := by
  refine ⟨Context.sound_ruleContext _ _ _ _, Context.names_ruleContext rfl, ?_⟩
  induction depth generalizing flags with
  | zero => intro _ _ _ _ _ _ hrun; contradiction
  | succ depth ih =>
    intro rule flags' cursor hguarded
    exact Renames.grammar rule
      ⟨Context.sound_ruleContext _ _ _ _, Context.names_ruleContext rfl, ih⟩ hguarded

/-- **A statement that waits is none where `await` is a name**, if each word `await` in it stands in
front of a token that can follow no name. -/
theorem exists_error_of_awaits {width depth : Nat} {flags : Flags} {cursor last : Cursor}
    {place : Place} {node : Node} (hawaits : node.Awaits)
    (hguarded : Passage.Guarded ⟨goal, last⟩ cursor)
    (hrun : (Parser.statement place).run (ruleContext goal width flags depth) cursor =
      .ok (node, last)) :
    ∃ fault, (Parser.statement place).run (ruleContext goal width flags.named depth) cursor =
      .error fault := by
  have hkeeps : Passage.Keeps ⟨goal, last⟩ (Parser.statement place) := .statement
  have hparted := hkeeps Passage.contexts_ruleContext hguarded hrun (.refl last)
  cases hnamed : (Parser.statement place).run (ruleContext goal width flags.named depth) cursor with
  | error fault => exact ⟨fault, rfl⟩
  | ok outcome =>
    obtain hsame | hfails := hparted
    · -- Nothing waits where `await` is a name.
      exact absurd hawaits (Parser.yieldsFree_call _ (awaitFree_rulesAt rfl) hsame)
    · exact (hfails hnamed).elim

end ModuleBundler.Script
