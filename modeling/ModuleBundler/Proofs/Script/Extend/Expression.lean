import ModuleBundler.Proofs.Script.Extend.Seam

/-!
# Expressions in front of a seam

An expression at the end of a text is the same expression in front of more text, if what is behind
it cannot go on with it. What ends with a bracket ends there in every text. Links, operators,
choices and assignments are looked for at the end of the text, and at the seam there are none.

## Main results

* `Seam.Mirrors.assignmentRule`, `Seam.Mirrors.operandRule` — expressions in front of a seam.
-/

namespace ModuleBundler.Script

variable {α : Type} {seam : Seam}

open ModuleBundler.Script.Parser

namespace Seam

/-! ### Lists -/

/-- A list ends where what stops it is found at all tokens that end a statement. -/
theorem Mirrors.repeatUntil {stop : Parser Bool} {item : Parser Node} (hstill : stop.Still)
    (hstop : seam.Mirrors stop) (hitem : seam.Mirrors item)
    (hends : ∀ ⦃context cursor⦄, cursor.token.Ends →
      stop.run context cursor = .ok (true, cursor)) :
    seam.Mirrors (Parser.repeatUntil stop item) := by
  refine .loop (fun reversed => ?_) (fun reversed => ?_) _
  · exact .still hstill hstop fun _ => .ite (.pure _)
      (.bind hitem (fun _ => .pure _) fun _ => .pure _)
  · exact .look hends (.ite_pos rfl (.pure _))

theorem Idles.repeatUntil {stop : Parser Bool} {item : Parser Node}
    (hends : ∀ ⦃context cursor⦄, cursor.token.Ends →
      stop.run context cursor = .ok (true, cursor)) :
    seam.Idles (Parser.repeatUntil stop item) :=
  .loop (fun _ => .look hends (.ite_pos rfl (.pure _))) _

/-- Behind an item without a comma the list ends. -/
theorem run_atListEnd {context : Context} {cursor : Cursor} (h : cursor.token.Ends) :
    (do return !(← atPunct .comma) : Parser Bool).run context cursor = .ok (true, cursor) := by
  rw [run_bind, run_atPunct_of_ends rfl h]
  rfl

theorem still_atListEnd : (do return !(← atPunct .comma) : Parser Bool).Still :=
  .bind (.atPunct _) fun _ => .pure _

theorem Mirrors.atListEnd : seam.Mirrors (do return !(← Parser.atPunct .comma) : Parser Bool) :=
  .still (.atPunct _) (.atPunct _) fun _ => .pure _

/-! ### Functions and classes -/

theorem Closes.functionBody (form : FunctionForm) : seam.Closes (Parser.functionBody form) :=
  .withFlags (.after fun _ => .after fun _ => .bind (.expectPunct _) (fun _ => .pure _)
    fun _ => .pure _)

theorem Closes.functionRule (name : FunctionForm → Parser Node) :
    seam.Closes (Parser.functionRule name) :=
  .after fun _ => .after fun _ => .after fun _ => .after fun _ => .after fun _ =>
    .bind (.functionBody _) (fun _ => .pure _) fun _ => .pure _

theorem Closes.classRule : seam.Closes Parser.classRule := by
  refine .after fun _ => .after fun _ => .after fun _ => .either fun _ => .after fun _ => ?_
  exact .either fun _ => .after fun _ => .after fun _ => .bind (.expectPunct _)
    (fun _ => .pure _) fun _ => .pure _

/-! ### Expressions between commas, and links -/

theorem Mirrors.assignment : seam.Mirrors Parser.assignment :=
  .call nofun

theorem Mirrors.unary : seam.Mirrors Parser.unary :=
  .call nofun

theorem Mirrors.expression : seam.Mirrors Parser.expression := by
  refine .bind .assignment (fun first => ?_) fun first => ?_
  · refine .still (.atPunct _) (.atPunct _) fun _ => .ite ?_ (.pure _)
    refine .bind (.repeatUntil still_atListEnd .atListEnd ?_ fun _ _ => run_atListEnd)
      (fun _ => .pure _) fun _ => .pure _
    exact .bind (.expectPunct _) (fun _ => .assignment) fun _ => .of_needsToken .call
  · exact .look (fun _ _ => run_atPunct_of_ends rfl) (.pure _)

theorem Mirrors.template : seam.Mirrors Parser.template := by
  refine .bind (.loop (fun state => ?_) (fun state => ?_) _) (fun _ => .pure _) fun _ => .pure _
  · refine .still .peek .peek fun token => ?_
    split
    · exact .advance_pure _
    · refine .bind .advance (fun _ => .bind (.withFlags .expression) (fun _ => ?_) fun _ => ?_)
        fun _ => .of_needsToken (.bind (.withFlags .expression))
      · exact .reread _ fun _ => .pure _
      · exact .of_needsToken (.bind (.reread _))
    · exact .unexpected
  · refine .of_needsToken (.peek fun token hend => ?_)
    rw [hend]
    exact .unexpected

theorem Closes.bracketed : seam.Closes Parser.bracketed :=
  .after fun _ => .after fun _ => .bind (.expectPunct _) (fun _ => .pure _) fun _ => .pure _

theorem Closes.callArguments : seam.Closes Parser.callArguments :=
  .withFlags (.after fun _ => .after fun _ => .bind (.expectPunct _) (fun _ => .pure _)
    fun _ => .pure _)

theorem Mirrors.property : seam.Mirrors Parser.property := by
  refine .still .peek .peek fun token => ?_
  split
  · exact .advance_pure _
  · exact .propertyName

/-- A part that is read and of which something is made. -/
theorem Mirrors.make {parser : Parser α} {β : Type} (h : seam.Mirrors parser) (f : α → β) :
    seam.Mirrors (do return f (← parser)) :=
  .bind h (fun _ => .pure _) fun _ => .pure _

/-- Links are looked for in vain at tokens that end a statement. -/
theorem Trails.links (set : LinkSet) (object : Node) : seam.Trails (Parser.links set object) := by
  refine .loop (fun state => ⟨?_, ?_⟩) _
  · obtain ⟨optional, object⟩ := state
    refine .still .peek .peek fun token => ?_
    split
    · exact .bind .advance (fun _ => .make .property _) fun _ => .of_needsToken (.bind .property)
    · exact .ite (.pure _) (.make Closes.bracketed.mirrors _)
    · exact .ite (.pure _) (.make Closes.callArguments.mirrors _)
    · refine .ite ?_ .fail_bind
      refine .bind .advance (fun _ => ?_) fun _ => ?_
      · refine .still .peek .peek fun token => ?_
        split
        · exact .make Closes.bracketed.mirrors _
        · exact .make Closes.callArguments.mirrors _
        · exact .unexpected
        · exact .make .property _
      · refine .of_needsToken (.peek fun token hend => ?_)
        rw [hend]
        exact .bind .property
    · exact .ite .fail_bind (.make .template _)
    · exact .pure _
  · obtain ⟨optional, object⟩ := state
    refine .peek (fun token hends => ?_) (.pure (.inr object))
    have hkind := hends.not_goesOn
    split
    all_goals first | rfl | (next heq => rw [heq] at hkind; contradiction)

/-! ### Operands -/

theorem Closes.arrayLiteral : seam.Closes Parser.arrayLiteral :=
  .after fun _ => .after fun _ => .bind (.expectPunct _) (fun _ => .pure _) fun _ => .pure _

theorem Closes.objectLiteral : seam.Closes Parser.objectLiteral :=
  .after fun _ => .after fun _ => .bind (.expectPunct _) (fun _ => .pure _) fun _ => .pure _

theorem Mirrors.atArrow : seam.Mirrors Parser.atArrow :=
  .still .peek .peek fun _ => .pure _

theorem Closes.parenthesized : seam.Closes Parser.parenthesized := by
  refine .after fun _ => .after fun _ => .bind (.expectPunct _) (fun _ => ?_) fun _ => ?_
  · exact .ite (.still .atArrow .atArrow fun _ => .ite (.pure _) .fail_bind) (.pure _)
  · exact .ite (.of_needsToken (.atArrow_bind (.bind .unexpected))) (.pure _)

theorem Mirrors.leaf (kind : NodeKind) : seam.Mirrors (Parser.leaf kind) :=
  .still .peek .peek fun _ => .ite .fail_bind (.advance_pure _)

theorem Mirrors.untaggedTemplate : seam.Mirrors Parser.untaggedTemplate :=
  .bind .template (fun _ => .reject (.pure _)) fun _ => .reject (.pure _)

theorem Mirrors.regex : seam.Mirrors Parser.regex :=
  .reread _ fun _ => .leaf _

theorem Mirrors.atAsyncFunction : seam.Mirrors Parser.atAsyncFunction := by
  refine .still (.atKeyword _) (.atKeyword _) fun _ => .ite ?_ (.pure _)
  exact .peekSecond_of_eq (.pure _) (fun _ => (Mirrors.pure _).before)
    (fun token hends => congrArg Pure.pure (hends.and_not_newline rfl)) (.pure false)

theorem Mirrors.wordOperand (keyword : Keyword) : seam.Mirrors (Parser.wordOperand keyword) := by
  unfold Parser.wordOperand
  split
  · exact .leaf _
  · exact .leaf _
  · exact .leaf _
  · exact .leaf _
  · exact (Closes.functionRule _).mirrors
  · exact Closes.classRule.mirrors
  · exact .still .atAsyncFunction .atAsyncFunction fun _ =>
      .ite (Closes.functionRule _).mirrors .identifier
  · exact .identifier

theorem Mirrors.primary : seam.Mirrors Parser.primary := by
  refine .still .peek .peek fun token => ?_
  split
  · exact .identifier
  · exact .wordOperand _
  · exact .leaf _
  · exact .leaf _
  · exact .leaf _
  · exact .untaggedTemplate
  · exact Closes.arrayLiteral.mirrors
  · exact Closes.objectLiteral.mirrors
  · exact Closes.parenthesized.mirrors
  · exact Closes.classRule.mirrors
  · exact .regex
  · exact .regex
  · exact .unexpected

theorem Mirrors.construct : seam.Mirrors Parser.construct := by
  refine .bind (.expectKeyword _) (fun _ => .bind (.eatPunct _) (fun _ => .ite ?_ ?_) fun _ => ?_)
    fun _ => ?_
  · exact .bind (.expectKeyword _) (fun _ => .pure _) fun _ => .pure _
  · refine .bind (.call nofun) (fun _ => ?_) fun _ => ?_
    · exact .still (.atPunct _) (.atPunct _) fun _ =>
        .either Closes.callArguments.mirrors (.pure _) (fun _ => .pure _) fun _ => .pure _
    · exact .look (fun _ _ => run_atPunct_of_ends rfl)
        (.ite_neg Bool.false_ne_true (.bind (.pure _) fun _ => .pure _))
  · exact .of_needsToken (.ite (.bind (.expectKeyword _)) (.bind .call))
  · exact .of_needsToken (.eatPunct _ (.ite_neg Bool.false_ne_true (.bind .call)))

theorem Closes.importArguments : seam.Closes Parser.importArguments := by
  refine .withFlags (.after fun _ => .after fun specifier => ?_)
  have hlast {arguments : List Node} : seam.Closes (do
      Parser.expectPunct .closeParen
      return Node.mk .importCall arguments) :=
    .bind (.expectPunct _) (fun _ => .pure _) fun _ => .pure _
  exact .after fun _ => .ite (.after fun _ => .ite hlast (.after fun _ => .after fun _ => hlast))
    hlast

theorem Mirrors.importOperand (set : LinkSet) : seam.Mirrors (Parser.importOperand set) := by
  have hrest : seam.Mirrors (if set = .withoutCalls then
      (Parser.unexpected : Parser PUnit) >>= fun _ => Parser.importArguments
      else Parser.importArguments) :=
    .reject Closes.importArguments.mirrors
  have hneeds : (if set = .withoutCalls then
      (Parser.unexpected : Parser PUnit) >>= fun _ => Parser.importArguments
      else Parser.importArguments).NeedsToken :=
    .ite (.bind .unexpected) (.withFlags (.bind (.expectPunct _)))
  have hword : (Parser.expectKeyword .source_).NeedsToken := .expectKeyword _
  refine .bind (.expectKeyword _) (fun _ => .bind (.eatPunct _) (fun _ => .ite ?_ hrest)
    fun _ => .of_needsToken (.ite ?_ hneeds)) fun _ => .of_needsToken (.eatPunct _ ?_)
  · refine .bind (.eatKeyword _) (fun _ => .ite (.pure _) ?_) fun _ => .ite (.pure _) ?_
    · refine .bind (.eatKeyword _) (fun _ => .ite hrest ?_) fun _ => ?_
      · exact .bind (.expectKeyword _) (fun _ => hrest) fun _ => .of_needsToken hneeds
      · exact .of_needsToken (.ite hneeds (.bind hword))
    · exact .of_needsToken (.eatKeyword _ (.ite_neg Bool.false_ne_true (.bind hword)))
  · exact .eatKeyword _ (.ite_neg Bool.false_ne_true
      (.eatKeyword _ (.ite_neg Bool.false_ne_true (.bind hword))))
  · exact .ite_neg Bool.false_ne_true hneeds

theorem Mirrors.superOperand : seam.Mirrors Parser.superOperand := by
  refine .bind (.leaf _) (fun node => .still .peek .peek fun token => ?_) fun node => ?_
  · split
    · exact .pure _
    · exact .pure _
    · exact .pure _
    · exact .unexpected
  · refine .of_needsToken (.peek fun token hend => ?_)
    rw [hend]
    exact .unexpected

theorem Mirrors.operandRule (set : LinkSet) : seam.Mirrors (Parser.operandRule set) := by
  refine .still .peek .peek fun token => ?_
  have hlinks (node : Node) : seam.Trails (Parser.links set node) := .links set node
  split
  · exact .bind .construct (fun _ => (hlinks _).mirrors) fun _ => (hlinks _).idles
  · exact .bind (.importOperand _) (fun _ => (hlinks _).mirrors) fun _ => (hlinks _).idles
  · exact .bind .superOperand (fun _ => (hlinks _).mirrors) fun _ => (hlinks _).idles
  · exact .bind .primary (fun _ => (hlinks _).mirrors) fun _ => (hlinks _).idles

/-! ### Operators -/

theorem Mirrors.place (node : Node) : seam.Mirrors (Parser.place node) :=
  .ite (.pure _) .fail

theorem Idles.place (node : Node) : seam.Idles (Parser.place node) :=
  .ite (.pure _) .fail

theorem Mirrors.updateRule : seam.Mirrors Parser.updateRule := by
  refine .bind (.call nofun) (fun operand => ?_) fun operand => ?_
  · refine .still .peek .peek fun token => .ite ?_ (.pure _)
    exact .still (.place _) (.place _) fun _ => .advance_pure _
  · refine .peek (fun token hends => if_neg ?_) (.pure operand)
    rw [Bool.and_or_distrib_right, hends.and_not_newline rfl, hends.and_not_newline rfl]
    exact Bool.false_ne_true

theorem Mirrors.unaryRule : seam.Mirrors Parser.unaryRule := by
  refine .still .peek .peek fun token => .still .flags .flags fun flags => ?_
  have hoperand (f : Node → Node) : seam.Mirrors (do
      Parser.advanceKeyword
      return f (← Parser.unary)) :=
    .bind .advanceKeyword (fun _ => .make .unary f) fun _ => .of_needsToken (.bind .call)
  split
  · exact hoperand _
  · refine .ite ?_ (.ite (hoperand _) .updateRule)
    refine .bind .advance (fun _ => .bind .unary (fun operand => ?_) fun operand => ?_)
      fun _ => .of_needsToken (.bind .call)
    · exact .still (.place _) (.place _) fun _ => .pure _
    · exact .bind (.place _) fun _ => .pure _

/-- Operators are looked for in vain at tokens that end a statement. -/
theorem Trails.operatorTail (floor : Nat) (left : Node) :
    seam.Trails (Parser.operatorTail floor left) := by
  refine .loop (fun left => ⟨?_, ?_⟩) _
  · refine .still .flags .flags fun flags => .still .peek .peek fun token => ?_
    split
    · refine .ite (.ite .fail_bind (.bind .advanceKeyword (fun _ => ?_) fun _ => ?_)) (.pure _)
      · refine .bind (.call nofun) (fun right => .reject (.pure _)) fun right => .reject (.pure _)
      · exact .of_needsToken (.bind .call)
    · exact .pure _
  · refine .flags fun flags => .peek (fun token hends => ?_) (.pure (.inr left))
    have hkind := hends.not_goesOn
    have hnone : operator? flags.allowIn token.kind = none := by
      unfold operator?
      split
      all_goals first | rfl | (next heq => rw [heq] at hkind; contradiction)
    rw [hnone]

theorem Mirrors.privateOperand (floor : Nat) : seam.Mirrors (Parser.privateOperand floor) := by
  refine .bind .property (fun name => ?_) fun name => ?_
  · exact .still .flags .flags fun flags => .need (.still (.atKeyword _) (.atKeyword _)
      fun _ => .need (.pure _))
  · refine .flags fun flags => .ite ?_ .fail_bind
    exact .look (fun _ _ => run_atKeyword_of_ends rfl) (.ite_neg Bool.false_ne_true .fail_bind)

theorem Mirrors.operatorsRule (floor : Nat) : seam.Mirrors (Parser.operatorsRule floor) :=
  .still .peek .peek fun _ => .either (.privateOperand _) .unary
    (fun _ => (Trails.operatorTail floor _).mirrors) fun _ => (Trails.operatorTail floor _).idles

/-! ### Arrow functions -/

theorem Mirrors.arrowFunction (isAsync : Bool) (items : List Node) :
    seam.Mirrors (Parser.arrowFunction isAsync items) := by
  refine .still .atArrow .atArrow fun _ => .need (.bind .advance (fun _ => ?_) fun _ => ?_)
  · exact .still (.atPunct _) (.atPunct _) fun _ => .either (Closes.functionBody _).mirrors
      (.withFlags .assignment) (fun _ => .pure _) fun _ => .pure _
  · exact .of_needsToken (.known (fun _ _ => NeedsToken.run_atPunct _)
      (.ite_neg Bool.false_ne_true (.bind (.withFlags .call))))

theorem Mirrors.atNamedArrow (isAsync : Bool) : seam.Mirrors (Parser.atNamedArrow isAsync) := by
  have harrow {token : Token} (h : token.Ends) : (token.kind == .punct .arrow) = false :=
    beq_eq_false_iff_ne.mpr (h.ne_of_goesOn rfl)
  refine .still .peek .peek fun token => ?_
  split
  · refine .ite (.peekSecond_of_eq (.pure _) (fun second => ?_) (fun token hends => ?_)
      (.pure false)) (.pure _)
    · refine .ite (Mirrors.pure _).before ?_
      split
      · next keyword hword =>
        refine .peekThird hword (fun _ => .pure _) fun token token' hends hends' => ?_
        exact congrArg Pure.pure ((harrow hends).trans (harrow hends').symm)
      · exact (Mirrors.pure _).before
    · refine ite_eq_left_iff.mpr fun hnewline => ?_
      have hstops := hends.stops.resolve_left hnewline
      split
      · next hword =>
        rw [hword] at hstops
        contradiction
      · rfl
  · refine .still .atIdentifier .atIdentifier fun _ => .ite ?_ (.pure _)
    exact .peekSecond_of_eq (.pure _) (fun _ => (Mirrors.pure _).before)
      (fun token hends => congrArg Pure.pure (harrow hends)) (.pure false)

/-! ### Assignments -/

theorem Mirrors.assignable (node : Node) : seam.Mirrors (Parser.assignable node) := by
  unfold Parser.assignable
  split
  · exact .pure _
  · exact .fail

theorem Mirrors.bindable (trailingComma : Bool) (nodes : List Node) :
    seam.Mirrors (Parser.bindable trailingComma nodes) := by
  unfold Parser.bindable
  split
  · exact .pure _
  · exact .fail

theorem Mirrors.arrowFromHead (startsAsync : Bool) (head : Node) :
    seam.Mirrors (Parser.arrowFromHead startsAsync head) := by
  unfold Parser.arrowFromHead
  split
  · exact .still (.bindable _ _) (.bindable _ _) fun _ => .reject (.arrowFunction _ _)
  · exact .unexpected

theorem Mirrors.atStatementEnd : seam.Mirrors Parser.atStatementEnd :=
  .still .peek .peek fun _ => .pure _

theorem Mirrors.yieldsNothing : seam.Mirrors Parser.yieldsNothing := by
  refine .still .peek .peek fun token => ?_
  split
  all_goals first | exact .pure _ | exact .atStatementEnd

theorem run_yieldsNothing_of_ends {context : Context} {cursor : Cursor}
    (h : cursor.token.Ends) : yieldsNothing.run context cursor = .ok (true, cursor) := by
  refine bind_eq_ok_iff.mpr ⟨cursor.token, cursor, rfl, ?_⟩
  split
  all_goals first | rfl | exact run_atStatementEnd_of_ends h

theorem Mirrors.yieldRule : seam.Mirrors Parser.yieldRule := by
  have hnothing : seam.Idles (do return Node.mk (.yield false) [← Parser.absent]) :=
    .bind (.pure _) fun _ => .pure _
  refine .bind .advanceKeyword (fun _ => ?_) fun _ => ?_
  · refine .still .yieldsNothing .yieldsNothing fun _ => .ite (.make (.pure _) _) ?_
    exact .bind (.eatPunct _) (fun _ => .make .assignment _) fun _ => .of_needsToken (.bind .call)
  · exact .look (fun _ _ => run_yieldsNothing_of_ends) (.ite_pos rfl hnothing)

theorem Mirrors.choice (condition : Node) : seam.Mirrors (Parser.choice condition) := by
  refine .bind (.expectPunct _) (fun _ => ?_) fun _ => .of_needsToken (.bind (.withFlags .call))
  refine .bind (.withFlags .assignment) (fun _ => ?_) fun _ =>
    .of_needsToken (.bind (.expectPunct _))
  exact .bind (.expectPunct _) (fun _ => .make .assignment _) fun _ => .of_needsToken (.bind .call)

theorem Trails.assignmentTail (startsAsync : Bool) (left : Node) :
    seam.Trails (Parser.assignmentTail startsAsync left) := by
  have hvalue (f : Node → Node) : seam.Mirrors (do
      Parser.advance
      return f (← Parser.assignment)) :=
    .bind .advance (fun _ => .make .assignment f) fun _ => .of_needsToken (.bind .call)
  refine ⟨.still .peek .peek fun token => ?_, .peek (fun token hends => ?_) (.pure left)⟩
  · split
    · exact .arrowFromHead _ _
    · exact .choice _
    · exact .still (.assignable _) (.assignable _) fun _ => hvalue _
    · exact .still (.place _) (.place _) fun _ => hvalue _
    · exact .pure _
  · have hkind := hends.not_goesOn
    split
    all_goals first | rfl | (next heq => rw [heq] at hkind; contradiction)

theorem Mirrors.assignmentRule : seam.Mirrors Parser.assignmentRule := by
  refine .still .peek .peek fun first => .still .flags .flags fun flags => ?_
  refine .still (.atKeyword _) (.atKeyword _) fun _ => .ite .yieldRule ?_
  refine .still (.atNamedArrow _) (.atNamedArrow _) fun _ => .ite ?_ ?_
  · exact .bind .identifier (fun _ => .arrowFunction _ _) fun _ =>
      .of_needsToken (.atArrow_bind (.bind .unexpected))
  · refine .still (.atNamedArrow _) (.atNamedArrow _) fun _ => .ite ?_ ?_
    · refine .bind .advance (fun _ => ?_) fun _ => .of_needsToken (.bind (.withFlags .identifier))
      exact .bind (.withFlags .identifier) (fun _ => .arrowFunction _ _) fun _ =>
        .of_needsToken (.atArrow_bind (.bind .unexpected))
    · exact .bind (.call nofun) (fun _ => (Trails.assignmentTail _ _).mirrors) fun _ =>
        (Trails.assignmentTail _ _).idles

/-! ### Patterns and variables -/

theorem Mirrors.bindingRule : seam.Mirrors Parser.bindingRule := by
  have hlist {items : List Node} (kind : NodeKind) (close : Punct) : seam.Closes (do
      Parser.expectPunct close
      return Node.mk kind items) :=
    .bind (.expectPunct _) (fun _ => .pure _) fun _ => .pure _
  unfold Parser.bindingRule
  rw [eatPunct_bind]
  refine .still (.atPunct _) (.atPunct _) fun _ => .ite (.after fun _ => .after fun _ => ?_) ?_
  · exact hlist _ _
  · rw [eatPunct_bind]
    refine .still (.atPunct _) (.atPunct _) fun _ => .ite (.after fun _ => .after fun _ => ?_)
      .identifier
    exact hlist _ _

theorem Mirrors.declarator : seam.Mirrors Parser.declarator := by
  have hbare {target : Node} : seam.Idles (do
      let value ← Parser.absent
      return Node.mk .declarator [target, value]) :=
    .bind (.pure _) fun _ => .pure _
  refine .bind (.call nofun) (fun target => ?_) fun target => ?_
  · exact .bind (.eatPunct _) (fun _ => .either .assignment (.pure _) (fun _ => .pure _)
      fun _ => .pure _) fun _ => .ite (.of_needsToken (.bind .call)) hbare
  · exact .look (fun _ _ => run_eatPunct_of_ends rfl) (.ite_neg Bool.false_ne_true hbare)

theorem Mirrors.variableList (kind : VariableKind) : seam.Mirrors (Parser.variableList kind) := by
  have hmore : seam.Mirrors (do
      Parser.expectPunct .comma
      Parser.declarator) :=
    .bind (.expectPunct _) (fun _ => .declarator) fun _ => .of_needsToken (.bind .call)
  have hlist : seam.Mirrors (do
      Parser.advanceKeyword
      let first ← Parser.declarator
      let rest ← Parser.repeatUntil (return !(← Parser.atPunct .comma)) (do
        Parser.expectPunct .comma
        Parser.declarator)
      return Node.mk (.variableList kind) (first :: rest)) := by
    refine .bind .advanceKeyword (fun _ => .bind .declarator (fun first => ?_) fun first => ?_)
      fun _ => .of_needsToken (.bind (.bind .call))
    · exact .bind (.repeatUntil still_atListEnd .atListEnd hmore fun _ _ => run_atListEnd)
        (fun _ => .pure _) fun _ => .pure _
    · exact .bind (.repeatUntil fun _ _ => run_atListEnd) fun _ => .pure _
  exact .ite (.bind .advanceKeyword (fun _ => hlist) fun _ =>
    .advanceKeyword_bind (.bind (.bind .call))) hlist

end Seam

end ModuleBundler.Script
