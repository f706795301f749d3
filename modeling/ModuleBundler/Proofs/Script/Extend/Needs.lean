import ModuleBundler.Proofs.Script.Extend.Parse
import ModuleBundler.Proofs.Script.Progress

/-!
# Parsers at the end of a text

Most parsers start with a token of their own, and fail where no token is left. The others only go on
with what stands in front of them: these come to something at the end of a text.

## Main definitions

* `Parser.NeedsToken` — parsers that fail at the end of a text.
* `Context.NeedsToken` — contexts in which all rules do.

## Main results

* `Context.needsToken_ruleContext` — all rules of the grammar need a token.
-/

namespace ModuleBundler.Script

/-- All rules fail at the end of a text. -/
def Context.NeedsToken (context : Context) : Prop :=
  ∀ ⦃rule flags cursor⦄, cursor.token.kind = .endOfSource →
    ∀ outcome, context.rules rule flags cursor ≠ .ok outcome

namespace Parser

variable {α β σ : Type} {parser other : Parser α} {next : α → Parser β} {context : Context}
  {cursor : Cursor}

/-- The parser fails at the end of a text. -/
def NeedsToken (parser : Parser α) : Prop :=
  ∀ ⦃context cursor⦄, context.NeedsToken → cursor.token.kind = .endOfSource →
    ∀ outcome, parser.run context cursor ≠ .ok outcome

namespace NeedsToken

/-! ### Sequences and choices -/

theorem bind (h : parser.NeedsToken) : (parser >>= next).NeedsToken := by
  rintro context cursor hcontext hend ⟨b, last⟩ hrun
  obtain ⟨a, between, hfirst, -⟩ := bind_eq_ok_iff.mp hrun
  exact h hcontext hend _ hfirst

/-- What comes first only looks. -/
theorem still (hstill : parser.Still) (h : ∀ a, (next a).NeedsToken) :
    (parser >>= next).NeedsToken := by
  rintro context cursor hcontext hend ⟨b, last⟩ hrun
  obtain ⟨a, hrest⟩ := hstill.exists_of_bind hrun
  exact h a hcontext hend _ hrest

/-- What comes first is known at the end of a text. -/
theorem known {a : α} (hknown : ∀ ⦃context cursor⦄, cursor.token.kind = .endOfSource →
    parser.run context cursor = .ok (a, cursor)) (h : (next a).NeedsToken) :
    (parser >>= next).NeedsToken := by
  rintro context cursor hcontext hend ⟨b, last⟩ hrun
  rw [run_bind, hknown hend] at hrun
  exact h hcontext hend _ hrun

theorem fail {fault : Fault} : (Parser.fail fault : Parser α).NeedsToken :=
  fun _ _ _ _ _ hrun => by contradiction

theorem unexpected : (Parser.unexpected : Parser α).NeedsToken :=
  .fail

theorem ite {condition : Prop} [Decidable condition] (h : parser.NeedsToken)
    (hother : other.NeedsToken) : (if condition then parser else other).NeedsToken := by
  split
  · exact h
  · exact hother

theorem ite_neg {condition : Prop} [Decidable condition] (hc : ¬condition)
    (h : other.NeedsToken) : (if condition then parser else other).NeedsToken := by
  rwa [if_neg hc]

theorem peek {next : Token → Parser β}
    (h : ∀ token, token.kind = .endOfSource → (next token).NeedsToken) :
    (Parser.peek >>= next).NeedsToken :=
  fun _ cursor hcontext hend => h cursor.token hend hcontext hend

theorem withFlags {change : Flags → Flags} (h : parser.NeedsToken) :
    (Parser.withFlags change parser).NeedsToken :=
  fun context _ hcontext hend =>
    have hcontext' : (context.withFlags change).NeedsToken := hcontext
    h hcontext' hend

theorem call {rule : Rule} : (Parser.call rule).NeedsToken :=
  fun _ _ hcontext hend => hcontext hend

/-! ### Tokens -/

theorem run_atPunct (p : Punct) (hend : cursor.token.kind = .endOfSource) :
    (Parser.atPunct p).run context cursor = .ok (false, cursor) := by
  have hrun : (Parser.atPunct p).run context cursor =
      .ok (cursor.token.kind == .punct p, cursor) := rfl
  rw [hrun, hend]
  rfl

theorem run_atKeyword (k : Keyword) (hend : cursor.token.kind = .endOfSource) :
    (Parser.atKeyword k).run context cursor = .ok (false, cursor) := by
  have hrun : (Parser.atKeyword k).run context cursor =
      .ok (cursor.token.kind == .word (some k), cursor) := rfl
  rw [hrun, hend]
  rfl

theorem run_atIdentifier (hend : cursor.token.kind = .endOfSource) :
    Parser.atIdentifier.run context cursor = .ok (false, cursor) := by
  simp only [Parser.atIdentifier, run_bind, Parser.peek, ask]
  rw [hend]
  rfl

theorem reread (way : Rereading) : (Parser.reread way).NeedsToken := by
  rintro context cursor - hend outcome hrun
  have happlies : way.applies cursor.next.token.kind = false := by
    rw [show cursor.next.token.kind = _ from hend]
    cases way <;> rfl
  have hfail : cursor.reread way = .error .unexpectedToken := by
    simp [Cursor.reread, Lexeme.reread, happlies, Except.map]
  have hrun' : (cursor.reread way).map ((), ·) = .ok outcome := hrun
  rw [hfail] at hrun'
  contradiction

theorem eatPunct (p : Punct) {next : Bool → Parser β} (h : (next false).NeedsToken) :
    (Parser.eatPunct p >>= next).NeedsToken := by
  refine known (fun context cursor hend => ?_) h
  rw [Parser.eatPunct, run_bind, run_atPunct p hend]
  rfl

theorem eatKeyword (k : Keyword) {next : Bool → Parser β} (h : (next false).NeedsToken) :
    (Parser.eatKeyword k >>= next).NeedsToken := by
  refine known (fun context cursor hend => ?_) h
  rw [Parser.eatKeyword, run_bind, run_atKeyword k hend]
  rfl

theorem expectPunct (p : Punct) : (Parser.expectPunct p).NeedsToken := by
  rw [expectPunct_eq]
  exact .known (fun _ _ => run_atPunct p) .unexpected

theorem expectKeyword (k : Keyword) : (Parser.expectKeyword k).NeedsToken := by
  rw [expectKeyword_eq]
  exact .known (fun _ _ => run_atKeyword k) .unexpected

theorem identifier : Parser.identifier.NeedsToken :=
  .known (fun _ _ => run_atIdentifier) (.bind .unexpected)

theorem propertyName : Parser.propertyName.NeedsToken := by
  refine .peek fun token hend => ?_
  rw [hend]
  exact .unexpected

theorem property : Parser.property.NeedsToken := by
  refine .peek fun token hend => ?_
  rw [hend]
  exact .propertyName

theorem atArrow_bind {next : Bool → Parser β} (h : (next false).NeedsToken) :
    (Parser.atArrow >>= next).NeedsToken := by
  refine .known (fun context cursor hend => ?_) h
  simp only [Parser.atArrow, run_bind, Parser.peek, ask]
  rw [hend]
  rfl

/-! ### Expressions -/

theorem primary : Parser.primary.NeedsToken := by
  refine .peek fun token hend => ?_
  rw [hend]
  exact .unexpected

theorem operandRule (set : LinkSet) : (Parser.operandRule set).NeedsToken := by
  refine .peek fun token hend => ?_
  rw [hend]
  exact .bind .primary

theorem unaryRule : Parser.unaryRule.NeedsToken := by
  refine .peek fun token hend => .still .flags fun flags => ?_
  rw [hend]
  exact .ite_neg (by decide) (.ite_neg (by simp) (.bind .call))

theorem operatorsRule (floor : Nat) : (Parser.operatorsRule floor).NeedsToken := by
  refine .peek fun token hend => ?_
  rw [hend]
  exact .ite_neg (by decide) (.bind .call)

theorem run_atNamedArrow (isAsync : Bool) (hend : cursor.token.kind = .endOfSource) :
    (Parser.atNamedArrow isAsync).run context cursor = .ok (false, cursor) := by
  cases isAsync with
  | false =>
    simp only [Parser.atNamedArrow, run_bind, Parser.peek, ask, Bool.false_eq_true, if_false]
    rw [run_atIdentifier hend]
    rfl
  | true =>
    simp only [Parser.atNamedArrow, run_bind, Parser.peek, ask]
    rw [hend]
    rfl

theorem assignmentRule : Parser.assignmentRule.NeedsToken := by
  refine .still .peek fun first => .still .flags fun flags => ?_
  refine .known (fun _ _ => run_atKeyword _) (.ite_neg (by simp) ?_)
  refine .known (fun _ _ => run_atNamedArrow false) (.ite_neg Bool.false_ne_true ?_)
  exact .known (fun _ _ => run_atNamedArrow true) (.ite_neg Bool.false_ne_true (.bind .call))

theorem expression : Parser.expression.NeedsToken :=
  .bind .call

theorem bindingRule : Parser.bindingRule.NeedsToken :=
  .eatPunct _ (.ite_neg Bool.false_ne_true (.eatPunct _ (.ite_neg Bool.false_ne_true .identifier)))

/-! ### Statements -/

theorem expressionStatement : Parser.expressionStatement.NeedsToken :=
  .bind (.withFlags .expression)

theorem statementRule (place : Place) : (Parser.statementRule place).NeedsToken := by
  refine .peek fun token hend => ?_
  rw [hend]
  exact .expressionStatement

theorem grammar (rule : Rule) : (Script.grammar rule).NeedsToken := by
  cases rule with
  | assignment => exact .assignmentRule
  | operators floor => exact .operatorsRule floor
  | unary => exact .unaryRule
  | operand set => exact .operandRule set
  | binding => exact .bindingRule
  | statement place => exact .statementRule place

end NeedsToken

end Parser

/-- **All rules of the grammar need a token.** -/
theorem Context.needsToken_ruleContext (goal : Goal) (width : Nat) (flags : Flags) (depth : Nat) :
    (ruleContext goal width flags depth).NeedsToken := by
  induction depth generalizing flags with
  | zero =>
    rintro rule flags cursor - outcome hrun
    cases hrun
  | succ depth ih =>
    intro rule flags cursor hend outcome hrun
    exact Parser.NeedsToken.grammar rule (ih flags) hend outcome hrun

end ModuleBundler.Script
