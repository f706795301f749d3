import ModuleBundler.Proofs.Script.Cursors
import ModuleBundler.Proofs.Script.Extend.Function

/-!
# Parsers that pass over a token, and parsers that only look

An expression has at least one token, and so has a declaration: whatever a parser for it comes to
stands behind a token. A sequence passes over a token if one of its parsers does. Other parsers only
look at the next tokens: what follows them starts where they have started.

## Main definitions

* `Parser.Still` — parsers that pass over nothing.
* `Parser.Advances` — parsers that pass over at least one token.

## Main results

* `Parser.Advances.assignment` — expressions.
* `Parser.Advances.functionRule`, `Parser.Advances.classRule`, `Parser.Advances.variableStatement` —
  declarations.
-/

namespace ModuleBundler.Script.Parser

variable {α β σ : Type} {parser other : Parser α} {context : Context} {goal : Goal}
  {width depth : Nat} {first last : Cursor}

/-! ### Parsers that only look -/

/-- The parser passes over nothing. -/
def Still (parser : Parser α) : Prop :=
  ∀ ⦃context cursor a next⦄, parser.run context cursor = .ok (a, next) → next = cursor

namespace Still

theorem pure (a : α) : (Pure.pure a : Parser α).Still :=
  fun _ _ _ _ hrun => (Prod.mk.inj (Except.ok.inj hrun)).2.symm

theorem bind {parser : Parser α} {next : α → Parser β} (h : parser.Still)
    (hnext : ∀ a, (next a).Still) : (parser >>= next).Still := by
  intro context cursor b last hrun
  obtain ⟨a, between, hfirst, hrest⟩ := bind_eq_ok_iff.mp hrun
  exact (hnext a hrest).trans (h hfirst)

/-- What follows a parser that only looks starts where this has started. -/
theorem exists_of_bind {parser : Parser α} {next : α → Parser β} {b : β} (h : parser.Still)
    (hrun : (parser >>= next).run context first = .ok (b, last)) :
    ∃ a, (next a).run context first = .ok (b, last) := by
  obtain ⟨a, between, hfirst, hrest⟩ := bind_eq_ok_iff.mp hrun
  exact ⟨a, h hfirst ▸ hrest⟩

theorem ite {condition : Prop} [Decidable condition] {parser other : Parser α} (h : parser.Still)
    (hother : other.Still) : (if condition then parser else other).Still := by
  split
  · exact h
  · exact hother

theorem peek : Parser.peek.Still :=
  fun _ _ _ _ hrun => (Prod.mk.inj (Except.ok.inj hrun)).2.symm

theorem peekSecond : Parser.peekSecond.Still :=
  fun _ _ _ _ hrun => (Prod.mk.inj (Except.ok.inj hrun)).2.symm

theorem peekThird : Parser.peekThird.Still :=
  fun _ _ _ _ hrun => (Prod.mk.inj (Except.ok.inj hrun)).2.symm

theorem atKeyword (k : Keyword) : (Parser.atKeyword k).Still :=
  .bind .peek fun _ => .pure _

theorem atPunct (p : Punct) : (Parser.atPunct p).Still :=
  .bind .peek fun _ => .pure _

theorem atAsyncFunction : Parser.atAsyncFunction.Still :=
  .bind (.atKeyword _) fun _ => .ite (.bind .peekSecond fun _ => .pure _) (.pure _)

theorem atImportDeclaration : Parser.atImportDeclaration.Still :=
  .bind (.atKeyword _) fun _ => .ite (.bind .peekSecond fun _ => .pure _) (.pure _)

theorem flags : Parser.flags.Still :=
  fun _ _ _ _ hrun => (Prod.mk.inj (Except.ok.inj hrun)).2.symm

theorem fail {fault : Fault} : (Parser.fail fault : Parser α).Still :=
  fun _ _ _ _ hrun => by contradiction

theorem atIdentifier : Parser.atIdentifier.Still := by
  refine .bind .peek fun token => ?_
  split <;> exact .pure _

theorem atArrow : Parser.atArrow.Still :=
  .bind .peek fun _ => .pure _

theorem atStatementEnd : Parser.atStatementEnd.Still :=
  .bind .peek fun _ => .pure _

theorem yieldsNothing : Parser.yieldsNothing.Still := by
  refine .bind .peek fun token => ?_
  split
  all_goals first | exact .pure _ | exact .atStatementEnd

theorem atNamedArrow (isAsync : Bool) : (Parser.atNamedArrow isAsync).Still := by
  refine .bind .peek fun token => ?_
  split
  · refine .ite (.bind .peekSecond fun second => ?_) (.pure _)
    split
    · refine .ite (.pure _) ?_
      split
      · exact .bind .peekThird fun _ => .pure _
      · exact .pure _
    · exact .pure _
  · exact .bind .atIdentifier fun _ => .ite (.bind .peekSecond fun _ => .pure _) (.pure _)

theorem usingKind? : Parser.usingKind?.Still := by
  refine .bind .flags fun flags => .bind .peek fun token => .bind .peekSecond fun second => ?_
  split
  · refine .ite (.pure _) ?_
    split
    · exact .pure _
    · refine .ite (.bind .peekThird fun third => ?_) (.pure _)
      split <;> exact .pure _
    · exact .pure _
  · exact .pure _

theorem place (node : Node) : (Parser.place node).Still :=
  .ite (.pure _) .fail

theorem assignable (node : Node) : (Parser.assignable node).Still := by
  unfold Parser.assignable
  split
  · exact .pure _
  · exact .fail

theorem bindable (trailingComma : Bool) (nodes : List Node) :
    (Parser.bindable trailingComma nodes).Still := by
  unfold Parser.bindable
  split
  · exact .pure _
  · exact .fail

theorem checkValues (node : Node) : (Parser.checkValues node).Still := by
  unfold Parser.checkValues
  split
  · exact .ite .fail (.pure _)
  · exact .pure _

theorem rejectOperatorWord : Parser.rejectOperatorWord.Still := by
  have hlast {token : Token} {flags : Flags} : (if (flags.allowYield &&
      token.kind == .word (some .yield_)) = true then Parser.fail .reservedName
        else Pure.pure () : Parser Unit).Still := .ite .fail (.pure _)
  exact .bind .peek fun _ => .bind .flags fun _ => .ite (.bind .fail fun _ => hlast) hlast

end Still

theorem withDistance_eq_ok {parser : Parser α} {a : α} {length : Nat}
    (h : parser.withDistance.run context first = .ok ((a, length), last)) :
    parser.run context first = .ok (a, last) ∧ length = first.distance last := by
  obtain ⟨⟨a', last'⟩, hrun, heq⟩ := Except.map_eq_ok_iff.mp h
  obtain ⟨hpair, rfl⟩ := Prod.mk.inj heq
  obtain ⟨rfl, rfl⟩ := Prod.mk.inj hpair
  exact ⟨hrun, rfl⟩

/-! ### Parsers that pass over a token -/

/-- Whatever the parser comes to, it passes over a token. -/
def Advances (parser : Parser α) (context : Context) : Prop :=
  context.Sound → ∀ ⦃cursor a next⦄, parser.run context cursor = .ok (a, next) →
    cursor.Passes context.goal next

theorem expectPunct_eq (p : Punct) :
    expectPunct p = (do if ← atPunct p then advance else unexpected) := by
  simp only [expectPunct, eatPunct, bind_assoc]
  congr 1
  funext isNext
  cases isNext with
  | false => rfl
  | true => exact (bind_assoc ..).trans (bind_pure _)

theorem eatPunct_bind (p : Punct) (next : Bool → Parser α) :
    eatPunct p >>= next = (do if ← atPunct p then advance; next true else next false) := by
  simp only [eatPunct, bind_assoc]
  congr 1
  funext isNext
  cases isNext with
  | false => rfl
  | true => exact (bind_assoc ..).trans rfl

theorem expectKeyword_eq (k : Keyword) :
    expectKeyword k = (do if ← atKeyword k then advanceKeyword else unexpected) := by
  simp only [expectKeyword, eatKeyword, bind_assoc]
  congr 1
  funext isNext
  cases isNext with
  | false => rfl
  | true => exact (bind_assoc ..).trans (bind_pure _)

namespace Advances

/-! ### Sequences and choices -/

theorem bind {next : α → Parser β} (h : parser.Advances context) :
    (parser >>= next).Advances context := by
  intro hsound cursor b last hrun
  obtain ⟨a, between, hfirst, hrest⟩ := bind_eq_ok_iff.mp hrun
  exact (h hsound hfirst).trans_reaches ((next a).forward hsound hrest)

/-- What comes first need not pass over a token. -/
theorem after {next : α → Parser β} (h : ∀ a, (next a).Advances context) :
    (parser >>= next).Advances context := by
  intro hsound cursor b last hrun
  obtain ⟨a, between, hfirst, hrest⟩ := bind_eq_ok_iff.mp hrun
  exact (parser.forward hsound hfirst).trans_passes (h a hsound hrest)

theorem fail {fault : Fault} : (Parser.fail fault : Parser α).Advances context :=
  fun _ _ _ _ hrun => by contradiction

theorem unexpected : (Parser.unexpected : Parser α).Advances context :=
  .fail

theorem ite {condition : Prop} [Decidable condition] (h : parser.Advances context)
    (hother : other.Advances context) :
    (if condition then parser else other).Advances context := by
  split
  · exact h
  · exact hother

theorem withFlags {change : Flags → Flags} (h : parser.Advances (context.withFlags change)) :
    (Parser.withFlags change parser).Advances context :=
  fun hsound _ _ _ hrun => h (hsound.withFlags change) hrun

theorem rounds {body : σ → Parser (σ ⊕ α)} (h : ∀ state, (body state).Advances context)
    (fuel : Nat) (state : σ) : (Parser.rounds body fuel state).Advances context := by
  cases fuel with
  | zero => exact .fail
  | succ fuel => exact .bind (h state)

theorem loop {body : σ → Parser (σ ⊕ α)} (h : ∀ state, (body state).Advances context)
    (state : σ) : (Parser.loop body state).Advances context :=
  fun hsound _ _ _ hrun => rounds h (context.width + 1) state hsound hrun

/-! ### Tokens -/

theorem advance : Parser.advance.Advances context :=
  fun _ _ _ _ hrun => Cursor.passes_of_advance (map_eq_ok hrun)

theorem advanceKeyword : Parser.advanceKeyword.Advances context :=
  .after fun _ => .ite (.bind .fail) .advance

theorem expectPunct (p : Punct) : (Parser.expectPunct p).Advances context := by
  rw [expectPunct_eq]
  exact .after fun _ => .ite .advance .unexpected

theorem expectKeyword (k : Keyword) : (Parser.expectKeyword k).Advances context := by
  rw [expectKeyword_eq]
  exact .after fun _ => .ite .advanceKeyword .unexpected

theorem identifier : Parser.identifier.Advances context :=
  .after fun _ => .ite (.after fun _ => .after fun _ => .bind .advance) (.bind .unexpected)

theorem propertyName : Parser.propertyName.Advances context := by
  refine .after fun token => ?_
  split
  · exact .bind .advance
  · exact .unexpected

theorem leaf (kind : NodeKind) : (Parser.leaf kind).Advances context :=
  .after fun _ => .ite (.bind .fail) (.bind .advance)

/-! ### Functions, classes and variables -/

theorem functionRule (name : FunctionForm → Parser Node) :
    (Parser.functionRule name).Advances context :=
  .after fun _ => .bind (.expectKeyword _)

theorem classRule : Parser.classRule.Advances context :=
  .after fun _ => .bind (.expectKeyword _)

theorem variableList (kind : VariableKind) : (Parser.variableList kind).Advances context := by
  unfold Parser.variableList
  refine .ite (.bind .advanceKeyword) (.bind .advanceKeyword)

theorem variableStatement (kind : VariableKind) :
    (Parser.variableStatement kind).Advances context :=
  .bind (.variableList kind)

theorem functionDeclaration (place : Place) : (Parser.functionDeclaration place).Advances context :=
  .bind (.functionRule _)

theorem classDeclaration (place : Place) : (Parser.classDeclaration place).Advances context :=
  .ite (.bind .fail) .classRule

/-! ### Expressions -/

theorem property : Parser.property.Advances context := by
  refine .after fun token => ?_
  split
  · exact .bind .advance
  · exact .propertyName

theorem untaggedTemplate : Parser.untaggedTemplate.Advances context := by
  refine .bind (.bind (.loop (fun state => ?_) _))
  refine .after fun token => ?_
  split
  · exact .bind .advance
  · exact .bind .advance
  · exact .unexpected

theorem wordOperand (keyword : Keyword) : (Parser.wordOperand keyword).Advances context := by
  unfold Parser.wordOperand
  split
  · exact .leaf _
  · exact .leaf _
  · exact .leaf _
  · exact .leaf _
  · exact .functionRule _
  · exact .classRule
  · exact .after fun _ => .ite (.functionRule _) .identifier
  · exact .identifier

theorem primary : Parser.primary.Advances context := by
  refine .after fun token => ?_
  split
  · exact .identifier
  · exact .wordOperand _
  · exact .leaf _
  · exact .leaf _
  · exact .leaf _
  · exact .untaggedTemplate
  · exact .bind (.expectPunct _)
  · exact .bind (.expectPunct _)
  · exact .bind (.expectPunct _)
  · exact .classRule
  · exact .after fun _ => .leaf _
  · exact .after fun _ => .leaf _
  · exact .unexpected

theorem operandRule (set : LinkSet) : (Parser.operandRule set).Advances context := by
  refine .after fun token => ?_
  split
  · exact .bind (.bind (.expectKeyword _))
  · exact .bind (.bind (.expectKeyword _))
  · exact .bind (.bind (.leaf _))
  · exact .bind .primary

/-- A rule passes over a token where it is called if it does so at all smaller depths. -/
theorem call {rule : Rule} {flags : Flags}
    (h : ∀ smaller, depth = smaller + 1 →
      (grammar rule).Advances (ruleContext goal width flags smaller)) :
    (Parser.call rule).Advances (ruleContext goal width flags depth) := by
  intro _ cursor node next hrun
  cases depth with
  | zero => cases hrun
  | succ smaller => exact h smaller rfl (Context.sound_ruleContext goal width flags smaller) hrun

theorem unaryRule {flags : Flags} :
    Parser.unaryRule.Advances (ruleContext goal width flags depth) := by
  have hoperand : (Parser.call (.operand .all)).Advances (ruleContext goal width flags depth) :=
    .call fun _ _ => .operandRule .all
  refine .after fun token => .after fun flags => ?_
  split
  · exact .bind .advanceKeyword
  · exact .ite (.bind .advance) (.ite (.bind .advanceKeyword) (.bind hoperand))

theorem operatorsRule {flags : Flags} (floor : Nat) :
    (Parser.operatorsRule floor).Advances (ruleContext goal width flags depth) := by
  have hunary : (Parser.call .unary).Advances (ruleContext goal width flags depth) :=
    .call fun _ _ => .unaryRule
  exact .after fun _ => .ite (.bind (.bind .property)) (.bind hunary)

theorem assignmentRule {flags : Flags} :
    Parser.assignmentRule.Advances (ruleContext goal width flags depth) := by
  have hoperators : (Parser.call (.operators 0)).Advances (ruleContext goal width flags depth) :=
    .call fun _ _ => .operatorsRule 0
  refine .after fun first => .after fun flags => .after fun isYield => ?_
  refine .ite (.bind .advanceKeyword) (.after fun isArrow => .ite (.bind .identifier) ?_)
  exact .after fun isAsync => .ite (.bind .advance) (.bind hoperators)

/-- **An expression has at least one token.** -/
theorem assignment {flags : Flags} :
    Parser.assignment.Advances (ruleContext goal width flags depth) :=
  .call fun _ _ => .assignmentRule

end Advances

end ModuleBundler.Script.Parser
