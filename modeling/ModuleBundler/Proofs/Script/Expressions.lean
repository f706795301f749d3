import ModuleBundler.Proofs.Script.Reads
import ModuleBundler.Script.Program

/-!
# Expressions without operators

An expression is read rule by rule, each rule one level below the one that refers to it. An operand
that no operator, link, arrow or choice follows is an expression, with a sign in front of it too.

## Main definitions

* `ruleContext` — the context of a rule at a depth.
* `TokenKind.endsOperand`, `TokenKind.startsOperand` — tokens behind and at the start of operands.

## Main results

* `Parser.Reads.assignmentRule_of_primary` — an operand is an expression.
* `Parser.Reads.assignmentRule_of_minus` — so is an operand with a sign in front of it.
-/

namespace ModuleBundler.Script

/-- The context of a rule at a depth: the rules to which it refers are one level below. -/
def ruleContext (goal : Goal) (width : Nat) (flags : Flags) (depth : Nat) : Context :=
  ⟨goal, width, flags, rulesAt goal width depth⟩

/-- Does an operand end in front of the token, wherever it stands? -/
def TokenKind.endsOperand : TokenKind → Bool
  | .punct .comma | .punct .semicolon | .punct (.assign none) => true
  | .punct .closeBracket | .punct .closeBrace | .punct .closeParen => true
  | _ => false

/-- Does the token start an operand, without an operator in front of it? -/
def TokenKind.startsOperand : TokenKind → Bool
  | .number | .string _ | .word none => true
  | .word (some .null_) | .word (some .true_) | .word (some .false_) => true
  | .word (some .function_) => true
  | .punct .openBracket | .punct .openBrace | .punct .openParen => true
  | _ => false

/-- The kind of the literal that a token is. -/
def leafKind? (token : Token) : Option NodeKind :=
  match token.kind with
  | .number => some (.literal (.number token.text))
  | .string _ => some (.literal (.string token.text))
  | .word (some .null_) => some (.literal .nullValue)
  | .word (some .true_) => some (.literal (.boolean true))
  | .word (some .false_) => some (.literal (.boolean false))
  | _ => none

/-- Such a token is no operator and none of the words that are operators in some places. -/
theorem TokenKind.startsOperand_spec {kind : TokenKind} (h : kind.startsOperand) :
    Parser.unaryOperator? kind = none ∧ kind ≠ .punct .increment ∧ kind ≠ .punct .decrement ∧
      kind ≠ .privateName ∧ kind ≠ .word (some .await_) ∧ kind ≠ .word (some .yield_) ∧
      kind ≠ .word (some .async_) := by
  unfold startsOperand at h
  split at h
  all_goals first | contradiction | exact ⟨rfl, by simp⟩

namespace Parser.Reads

variable {goal : Goal} {width depth : Nat} {flags : Flags} {context : Context} {rule : Rule}
  {chars between rest : List Char} {node operand : Node} {first next second : Lexeme}

theorem call (h : (grammar rule).Reads (ruleContext goal width flags depth) chars node rest) :
    (Parser.call rule).Reads (ruleContext goal width flags (depth + 1)) chars node rest :=
  h

/-! ### Operands -/

theorem links_of_end {set : LinkSet} (h : scanToken context.goal chars = .ok next)
    (hend : next.token.kind.endsOperand) : (links set node).Reads context chars node chars := by
  refine .loop (.rounds_inr (.bind (.peek h) ?_))
  cases hkind : next.token.kind with
  | punct p =>
    rw [hkind] at hend
    cases p with
    | openBracket | openParen | dot | optionalDot => contradiction
    | _ => exact .pure
  | template => rw [hkind] at hend; contradiction
  | _ => exact .pure

theorem property_of_word {keyword : Option Keyword} (h : scanToken context.goal chars = .ok next)
    (hkind : next.token.kind = .word keyword)
    (hsecond : scanToken context.goal next.rest = .ok second) :
    Parser.property.Reads context chars (.mk (.propertyName next.token.text) []) next.rest := by
  refine .bind (.peek h) ?_
  rw [hkind]
  exact .propertyName h hkind hsecond

theorem operandRule {set : LinkSet} (h : scanToken context.goal chars = .ok first)
    (hstart : first.token.kind.startsOperand)
    (hprimary : primary.Reads context chars operand between)
    (hlinks : (links set operand).Reads context between node rest) :
    (Parser.operandRule set).Reads context chars node rest := by
  refine .bind (.peek h) ?_
  split
  · next hkind => rw [hkind] at hstart; contradiction
  · next hkind => rw [hkind] at hstart; contradiction
  · next hkind => rw [hkind] at hstart; contradiction
  · exact .bind hprimary hlinks

theorem updateRule (h : (Parser.operand .all).Reads context chars node rest)
    (hnext : scanToken context.goal rest = .ok next) (hend : next.token.kind.endsOperand) :
    Parser.updateRule.Reads context chars node rest := by
  refine .bind h (.bind (.peek hnext) (.ite_neg ?_ .pure))
  cases hkind : next.token.kind with
  | punct p =>
    rw [hkind] at hend
    cases p with
    | increment | decrement => contradiction
    | _ => simp
  | _ => simp

theorem unaryRule (h : scanToken context.goal chars = .ok first)
    (hstart : first.token.kind.startsOperand)
    (hupdate : Parser.updateRule.Reads context chars node rest) :
    Parser.unaryRule.Reads context chars node rest := by
  obtain ⟨hoperator, hincrement, hdecrement, -, hawait, -⟩ := TokenKind.startsOperand_spec hstart
  refine .bind (.peek h) (.bind .flags ?_)
  rw [hoperator]
  exact .ite_neg (by simp [hincrement, hdecrement]) (.ite_neg (by simp [hawait]) hupdate)

theorem unaryRule_of_minus (h : scanToken context.goal chars = .ok first)
    (hminus : first.token.kind = .punct (.operator .subtract))
    (hescaped : first.token.escaped = false)
    (hsecond : scanToken context.goal first.rest = .ok second)
    (hunary : Parser.unary.Reads context first.rest node rest) :
    Parser.unaryRule.Reads context chars (.mk (.unary .minus) [node]) rest := by
  refine .bind (.peek h) (.bind .flags ?_)
  rw [hminus]
  exact .bind (.advanceKeyword h hescaped hsecond) (.bind hunary .pure)

theorem operatorTail_of_end {floor : Nat} (h : scanToken context.goal chars = .ok next)
    (hend : next.token.kind.endsOperand) :
    (operatorTail floor node).Reads context chars node chars := by
  have hoperator (allowIn : Bool) : operator? allowIn next.token.kind = none := by
    unfold TokenKind.endsOperand at hend
    split at hend
    all_goals first | contradiction | next hkind => rw [hkind]; rfl
  refine .loop (.rounds_inr (.bind .flags (.bind (.peek h) ?_)))
  rw [hoperator]
  exact .pure

theorem operatorsRule {floor : Nat} (h : scanToken context.goal chars = .ok first)
    (hprivate : first.token.kind ≠ .privateName)
    (hunary : Parser.unary.Reads context chars node rest)
    (hnext : scanToken context.goal rest = .ok next) (hend : next.token.kind.endsOperand) :
    (Parser.operatorsRule floor).Reads context chars node rest := by
  refine .bind (.peek h) (.ite_neg (by simpa using hprivate) ?_)
  exact .bind hunary (.operatorTail_of_end hnext hend)

/-! ### Expressions -/

theorem atNamedArrow_false (h : scanToken context.goal chars = .ok first)
    (hname : atIdentifier.Reads context chars false chars) :
    (atNamedArrow false).Reads context chars false chars :=
  .bind (.peek h) (.bind hname (.ite_neg Bool.false_ne_true .pure))

/-- A name that no arrow follows starts no arrow function. -/
theorem atNamedArrow_of_name (h : scanToken context.goal chars = .ok first)
    (hname : first.token.kind = .word none)
    (hsecond : scanToken context.goal first.rest = .ok second)
    (harrow : second.token.kind ≠ .punct .arrow) :
    (atNamedArrow false).Reads context chars false chars := by
  refine .bind (.peek h) (.bind (.atIdentifier_of_none h hname) (.ite_pos rfl ?_))
  refine .bind (.peekSecond_of_word h hname hsecond) ?_
  have hnone : (some second.token).any (fun token => token.kind == .punct .arrow) = false := by
    simpa using harrow
  rw [hnone]
  exact .pure

theorem assignmentTail_of_end {startsAsync : Bool} (h : scanToken context.goal chars = .ok next)
    (hend : next.token.kind.endsOperand) (hassign : next.token.kind ≠ .punct (.assign none)) :
    (assignmentTail startsAsync node).Reads context chars node chars := by
  refine .bind (.peek h) ?_
  unfold TokenKind.endsOperand at hend
  split at hend
  all_goals first | contradiction | next hkind => rw [hkind]; exact .pure

/-- An expression whose first token is neither `yield` nor `async`. -/
theorem assignmentRule (h : scanToken context.goal chars = .ok first)
    (hyield : first.token.kind ≠ .word (some .yield_))
    (hasync : first.token.kind ≠ .word (some .async_))
    (harrow : (atNamedArrow false).Reads context chars false chars)
    (hoperand : (Parser.operators 0).Reads context chars operand between)
    (htail : (assignmentTail false operand).Reads context between node rest) :
    Parser.assignmentRule.Reads context chars node rest := by
  have hnotAsync : (first.token.kind == .word (some .async_) && !first.token.escaped) = false := by
    simp [hasync]
  have hasyncArrow : (atNamedArrow true).Reads context chars false chars := by
    refine .bind (.peek h) ?_
    rw [hnotAsync]
    exact .pure
  refine .bind (.peek h) (.bind .flags (.bind (.atKeyword_of_ne h hyield) (.ite_neg (by simp) ?_)))
  refine .bind harrow (.ite_neg Bool.false_ne_true ?_)
  refine .bind hasyncArrow (.ite_neg Bool.false_ne_true (.bind hoperand ?_))
  rw [hnotAsync]
  exact htail

/-- An operand at the end of an expression, up to the operators that it could have. -/
theorem operators_of_primary {floor : Nat} (h : scanToken goal chars = .ok first)
    (hstart : first.token.kind.startsOperand)
    (hprimary : primary.Reads (ruleContext goal width flags depth) chars operand between)
    (hlinks : (links .all operand).Reads (ruleContext goal width flags depth) between node rest)
    (hnext : scanToken goal rest = .ok next) (hend : next.token.kind.endsOperand) :
    (Parser.operators floor).Reads (ruleContext goal width flags (depth + 3)) chars node rest := by
  obtain ⟨-, -, -, hprivate, -⟩ := TokenKind.startsOperand_spec hstart
  refine .call (.operatorsRule h hprivate (.call (.unaryRule h hstart ?_)) hnext hend)
  exact .updateRule (.call (.operandRule h hstart hprimary hlinks)) hnext hend

/-- **An operand is an expression** if nothing follows that could belong to it. -/
theorem assignmentRule_of_primary (h : scanToken goal chars = .ok first)
    (hstart : first.token.kind.startsOperand)
    (harrow : (atNamedArrow false).Reads (ruleContext goal width flags (depth + 3)) chars false
      chars)
    (hprimary : primary.Reads (ruleContext goal width flags depth) chars node rest)
    (hnext : scanToken goal rest = .ok next) (hend : next.token.kind.endsOperand)
    (hassign : next.token.kind ≠ .punct (.assign none)) :
    Parser.assignmentRule.Reads (ruleContext goal width flags (depth + 3)) chars node rest := by
  obtain ⟨-, -, -, -, -, hyield, hasync⟩ := TokenKind.startsOperand_spec hstart
  exact .assignmentRule h hyield hasync harrow
    (.operators_of_primary h hstart hprimary (.links_of_end hnext hend) hnext hend)
    (.assignmentTail_of_end hnext hend hassign)

/-! ### Literals -/

theorem leaf {kind : NodeKind} (h : scanToken context.goal chars = .ok first)
    (hescaped : first.token.escaped = false)
    (hsecond : scanToken context.goal first.rest = .ok second) :
    (Parser.leaf kind).Reads context chars (.mk kind []) first.rest := by
  refine .bind (.peek h) (.ite_neg ?_ (.bind (.advance h hsecond) .pure))
  rw [hescaped]
  exact Bool.false_ne_true

theorem primary_of_leaf {kind : NodeKind} (h : scanToken context.goal chars = .ok first)
    (hleaf : leafKind? first.token = some kind) (hescaped : first.token.escaped = false)
    (hsecond : scanToken context.goal first.rest = .ok second) :
    primary.Reads context chars (.mk kind []) first.rest := by
  refine .bind (.peek h) ?_
  unfold leafKind? at hleaf
  split at hleaf
  all_goals
    first
    | contradiction
    | next hkind =>
      rw [hkind]
      obtain rfl := Option.some.inj hleaf
      exact .leaf h hescaped hsecond

theorem startsOperand_of_leaf {kind : NodeKind} (hleaf : leafKind? first.token = some kind) :
    first.token.kind.startsOperand := by
  unfold leafKind? at hleaf
  split at hleaf
  all_goals first | contradiction | next hkind => rw [hkind]; rfl

/-- A literal is no identifier. -/
theorem atIdentifier_of_leaf {kind : NodeKind} (h : scanToken context.goal chars = .ok first)
    (hleaf : leafKind? first.token = some kind) :
    atIdentifier.Reads context chars false chars := by
  unfold leafKind? at hleaf
  split at hleaf
  all_goals
    first
    | contradiction
    | next hkind => exact .atIdentifier_of_reserved h hkind rfl
    | next hkind => exact .atIdentifier_of_not_word h (by simp [hkind])

/-- **A literal is an expression** if nothing follows that could belong to it. -/
theorem assignmentRule_of_leaf {kind : NodeKind} (h : scanToken goal chars = .ok first)
    (hleaf : leafKind? first.token = some kind) (hescaped : first.token.escaped = false)
    (hnext : scanToken goal first.rest = .ok next) (hend : next.token.kind.endsOperand)
    (hassign : next.token.kind ≠ .punct (.assign none)) :
    Parser.assignmentRule.Reads (ruleContext goal width flags (depth + 3)) chars (.mk kind [])
      first.rest :=
  .assignmentRule_of_primary h (startsOperand_of_leaf hleaf)
    (.atNamedArrow_false h (.atIdentifier_of_leaf h hleaf))
    (.primary_of_leaf h hleaf hescaped hnext) hnext hend hassign

/-- **An operand with a sign in front of it is an expression.** -/
theorem assignmentRule_of_minus (h : scanToken goal chars = .ok first)
    (hminus : first.token.kind = .punct (.operator .subtract))
    (hescaped : first.token.escaped = false)
    (hsecond : scanToken goal first.rest = .ok second)
    (hstart : second.token.kind.startsOperand)
    (hprimary : primary.Reads (ruleContext goal width flags depth) first.rest node rest)
    (hnext : scanToken goal rest = .ok next) (hend : next.token.kind.endsOperand)
    (hassign : next.token.kind ≠ .punct (.assign none)) :
    Parser.assignmentRule.Reads (ruleContext goal width flags (depth + 4)) chars
      (.mk (.unary .minus) [node]) rest := by
  have hunary : Parser.unary.Reads (ruleContext goal width flags (depth + 2)) first.rest node
      rest :=
    .call (.unaryRule hsecond hstart (.updateRule (.call (.operandRule hsecond hstart hprimary
      (.links_of_end hnext hend))) hnext hend))
  have hoperators : (Parser.operators 0).Reads (ruleContext goal width flags (depth + 4)) chars
      (.mk (.unary .minus) [node]) rest :=
    .call (.operatorsRule h (by simp [hminus])
      (.call (.unaryRule_of_minus h hminus hescaped hsecond hunary)) hnext hend)
  have harrow : (atNamedArrow false).Reads (ruleContext goal width flags (depth + 4)) chars false
      chars := .atNamedArrow_false h (.atIdentifier_of_not_word h (by simp [hminus]))
  exact .assignmentRule h (by simp [hminus]) (by simp [hminus]) harrow hoperators
    (.assignmentTail_of_end hnext hend hassign)

end Parser.Reads

end ModuleBundler.Script
