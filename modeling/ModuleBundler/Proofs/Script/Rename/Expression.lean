import ModuleBundler.Proofs.Script.Rename.Basic
import ModuleBundler.Script.Program

/-!
# Expressions where `await` becomes a name

Operands, operators and assignments stray where `await` becomes a name: the first word that is used
as the operator is an operand then, and nothing can be done with what stands behind it. A bracket
that is opened in front of it cannot be closed any more. So what stands in brackets keeps to what is
read, and so do functions, classes and patterns as a whole.

## Main results

* `Passage.Renames.assignmentRule`, `Passage.Renames.unaryRule` — expressions stray.
* `Passage.Renames.operandRule`, `Passage.Renames.bindingRule` — operands and patterns do not.
* `Parser.Waits.expression` — as a name, `await` is all of an expression.
-/

namespace ModuleBundler.Script

variable {α β : Type} {passage : Passage} {goal : Goal} {stop : Cursor → Prop}

/-! ### In front of a token that blocks -/

namespace Parser.Halts

/-- A list of items ends. -/
theorem run_atListEnd {context : Context} {cursor : Cursor} (h : cursor.Blocked) :
    (do return !(← Parser.atPunct .comma) : Parser Bool).run context cursor = .ok (true, cursor) :=
  congrArg (fun found => Except.ok (!found, cursor)) (h.beq rfl)

/-- No link stands there. -/
theorem links (set : LinkSet) (object : Node) :
    (Parser.links set object).Stalls Cursor.Blocked := by
  refine .loop (fun state => .peek fun token hblocks _ => ?_) _
  split
  all_goals first | exact .pure | (next heq => rw [heq] at hblocks; contradiction)

theorem operator?_of_blocks {allowIn : Bool} {kind : TokenKind} (h : kind.blocks) :
    operator? allowIn kind = none := by
  unfold operator?
  split
  all_goals first | rfl | contradiction

/-- No operator does. -/
theorem operatorTail (floor : Nat) (left : Node) :
    (Parser.operatorTail floor left).Stalls Cursor.Blocked := by
  refine .loop (fun left => .flags fun flags => .peek fun token hblocks _ => ?_) _
  rw [operator?_of_blocks hblocks]
  exact .pure

/-- No assignment and no choice does. -/
theorem assignmentTail (startsAsync : Bool) (left : Node) :
    (Parser.assignmentTail startsAsync left).Stalls Cursor.Blocked := by
  refine .peek fun token hblocks _ => ?_
  split
  all_goals first | exact .pure | (next heq => rw [heq] at hblocks; contradiction)

end Parser.Halts

/-! ### Behind the word `await` -/

namespace Parser

/-- Where `await` is a name, the parser comes from this word to a cursor of the kind at most. -/
def Waits (goal : Goal) (stop : Cursor → Prop) (parser : Parser α) : Prop :=
  ∀ ⦃context⦄, context.Names goal → ∀ ⦃cursor⦄, cursor.Awaits goal →
    parser.Stops context cursor stop

namespace Waits

variable {parser other : Parser α} {next : α → Parser β}

protected theorem bind (h : parser.Waits goal Cursor.Blocked)
    (hnext : ∀ a, (next a).Stalls stop) : (parser >>= next).Waits goal stop :=
  fun _ hcontext _ hawaits => (h hcontext hawaits).bind fun a _ hblocked => hnext a hblocked

theorem peek {next : Token → Parser β}
    (h : ∀ token : Token, token.kind = .word (some .await_) → (next token).Waits goal stop) :
    (Parser.peek >>= next).Waits goal stop :=
  fun _ hcontext cursor hawaits => h cursor.token hawaits.kind_eq hcontext hawaits

theorem flags {next : Flags → Parser β}
    (h : ∀ flags : Flags, flags.allowAwait = false → (next flags).Waits goal stop) :
    (Parser.flags >>= next).Waits goal stop :=
  fun context hcontext _ hawaits => h context.flags hcontext.flags hcontext hawaits

/-- What comes first is known. -/
theorem known {a : α} (hknown : ∀ ⦃context⦄, context.Names goal → ∀ ⦃cursor⦄, cursor.Awaits goal →
    parser.run context cursor = .ok (a, cursor)) (h : (next a).Waits goal stop) :
    (parser >>= next).Waits goal stop := by
  intro context hcontext cursor hawaits b last hrun
  rw [run_bind, hknown hcontext hawaits] at hrun
  exact h hcontext hawaits hrun

theorem ite_neg {condition : Prop} [Decidable condition] (hc : ¬condition)
    (h : other.Waits goal stop) : (if condition then parser else other).Waits goal stop := by
  rwa [if_neg hc]

theorem ite_pos {condition : Prop} [Decidable condition] (hc : condition)
    (h : parser.Waits goal stop) : (if condition then parser else other).Waits goal stop := by
  rwa [if_pos hc]

theorem call {rule : Rule} (hrule : rule.isExpression) :
    (Parser.call rule).Waits goal Cursor.Blocked :=
  fun _ hcontext _ hawaits => hcontext.rules hrule hcontext.flags hawaits

theorem withFlags {change : Flags → Flags} (h : parser.Waits goal stop)
    (hchange : ∀ flags : Flags, flags.allowAwait = false → (change flags).allowAwait = false) :
    (Parser.withFlags change parser).Waits goal stop := by
  intro context hcontext cursor hawaits
  have hchanged : (context.withFlags change).Names goal :=
    ⟨hcontext.goal_eq, hchange _ hcontext.flags, hcontext.rules⟩
  exact h hchanged hawaits

/-- The word is passed over. -/
theorem advance {next : Unit → Parser β} (h : (next ()).Stalls stop) :
    (Parser.advance >>= next).Waits goal stop := by
  intro context hcontext cursor hawaits b last hrun
  obtain ⟨_, between, hadvance, hrest⟩ := bind_eq_ok_iff.mp hrun
  have hblocked : between.Blocked :=
    hawaits.blocked (hcontext.goal_eq ▸ map_eq_ok hadvance)
  exact h hblocked hrest

/-- Behind the word stands a token that blocks, or nothing can be read there. -/
theorem blocks_behindWord? {context : Context} {cursor : Cursor} (hcontext : context.Names goal)
    (h : cursor.Awaits goal) :
    ∀ token ∈ (cursor.behindWord? context.goal).map Cursor.token, token.kind.blocks := by
  rw [Cursor.behindWord?, h.kind_eq, hcontext.goal_eq]
  cases hadvance : cursor.advance goal with
  | error fault => exact fun token htoken => absurd htoken (Option.not_mem_none token)
  | ok next =>
    intro token htoken
    obtain rfl := Option.some.inj htoken
    exact (h.blocked hadvance).blocks

theorem peekSecond {next : Option Token → Parser β}
    (h : ∀ second : Option Token, (∀ token ∈ second, token.kind.blocks) →
      (next second).Waits goal stop) : (Parser.peekSecond >>= next).Waits goal stop :=
  fun _ hcontext _ hawaits => h _ (blocks_behindWord? hcontext hawaits) hcontext hawaits

/-- It is none of the tokens that block nothing. -/
theorem any_eq_false {second : Option Token} {kind : TokenKind} (hkind : kind.blocks = false)
    (h : ∀ token ∈ second, token.kind.blocks) :
    (second.any fun token => token.kind == kind) = false := by
  cases second with
  | none => rfl
  | some token => exact TokenKind.beq_of_blocks (h token rfl) hkind

theorem run_atKeyword {k : Keyword} {context : Context} {cursor : Cursor} (hk : k ≠ .await_)
    (h : cursor.Awaits goal) : (Parser.atKeyword k).run context cursor = .ok (false, cursor) := by
  have hne : (cursor.token.kind == .word (some k)) = false := by
    rw [h.kind_eq]
    exact beq_eq_false_iff_ne.mpr fun heq =>
      hk (Option.some.inj (TokenKind.word.inj heq)).symm
  exact congrArg (fun found => Except.ok (found, cursor)) hne

theorem run_atIdentifier {context : Context} {cursor : Cursor} (h : cursor.Awaits goal) :
    Parser.atIdentifier.run context cursor = .ok (true, cursor) := by
  refine bind_eq_ok_iff.mpr ⟨cursor.token, cursor, rfl, ?_⟩
  rw [h.kind_eq]
  rfl

theorem run_rejectOperatorWord {context : Context} {cursor : Cursor} (hcontext : context.Names goal)
    (h : cursor.Awaits goal) :
    Parser.rejectOperatorWord.run context cursor = .ok ((), cursor) := by
  refine bind_eq_ok_iff.mpr ⟨cursor.token, cursor, rfl, ?_⟩
  refine bind_eq_ok_iff.mpr ⟨context.flags, cursor, rfl, ?_⟩
  rw [hcontext.flags, h.kind_eq, if_neg (by simp), if_neg (by simp)]
  rfl

theorem identifier : Parser.identifier.Waits goal Cursor.Blocked := by
  refine .known (fun _ _ _ => run_atIdentifier) (.ite_pos rfl ?_)
  refine .known (fun _ hcontext _ => run_rejectOperatorWord hcontext) (.peek fun token _ => ?_)
  exact .advance .pure

theorem primary : Parser.primary.Waits goal Cursor.Blocked := by
  refine .peek fun token hkind => ?_
  rw [hkind]
  exact .identifier

theorem operandRule (set : LinkSet) : (Parser.operandRule set).Waits goal Cursor.Blocked := by
  refine .peek fun token hkind => ?_
  rw [hkind]
  exact .bind .primary fun _ => .links _ _

theorem updateRule : Parser.updateRule.Waits goal Cursor.Blocked := by
  refine .bind (.call rfl) fun operand => .peek fun token hblocks _ => .ite_neg ?_ .pure
  have hne {kind : TokenKind} : kind.blocks = false → (token.kind == kind) = false :=
    TokenKind.beq_of_blocks hblocks
  rw [hne rfl, hne rfl]
  exact Bool.false_ne_true

theorem unaryRule : Parser.unaryRule.Waits goal Cursor.Blocked := by
  refine .peek fun token hkind => .flags fun flags hname => ?_
  rw [hkind, hname]
  exact .ite_neg (by decide) (.ite_neg (by decide) .updateRule)

theorem operatorsRule (floor : Nat) : (Parser.operatorsRule floor).Waits goal Cursor.Blocked := by
  refine .peek fun token hkind => .ite_neg ?_ (.bind (.call rfl) fun _ => .operatorTail _ _)
  rw [hkind]
  decide

theorem run_atNamedArrow {context : Context} {cursor : Cursor} (isAsync : Bool)
    (hcontext : context.Names goal) (h : cursor.Awaits goal) :
    (Parser.atNamedArrow isAsync).run context cursor = .ok (false, cursor) := by
  refine bind_eq_ok_iff.mpr ⟨cursor.token, cursor, rfl, ?_⟩
  cases isAsync with
  | true =>
    rw [h.kind_eq]
    rfl
  | false =>
    refine bind_eq_ok_iff.mpr ⟨true, cursor, run_atIdentifier h, ?_⟩
    refine bind_eq_ok_iff.mpr ⟨_, cursor, rfl, ?_⟩
    rw [any_eq_false rfl (blocks_behindWord? hcontext h)]
    rfl

theorem assignmentRule : Parser.assignmentRule.Waits goal Cursor.Blocked := by
  refine .peek fun first hkind => .flags fun flags _ => ?_
  refine .known (fun _ _ _ => run_atKeyword nofun) (.ite_neg (by simp) ?_)
  refine .known (fun _ hcontext _ => run_atNamedArrow _ hcontext) (.ite_neg Bool.false_ne_true ?_)
  refine .known (fun _ hcontext _ => run_atNamedArrow _ hcontext) (.ite_neg Bool.false_ne_true ?_)
  exact .bind (.call rfl) fun _ => .assignmentTail _ _

/-- The word is all of an expression. -/
theorem expression : Parser.expression.Waits goal Cursor.Blocked :=
  .bind (.call rfl) fun _ => .atPunct rfl (.ite_neg Bool.false_ne_true .pure)

/-- A rule for expressions comes to the word alone. -/
theorem grammar {rule : Rule} (h : rule.isExpression) :
    (Script.grammar rule).Waits goal Cursor.Blocked := by
  cases rule with
  | assignment => exact .assignmentRule
  | operators floor => exact .operatorsRule floor
  | unary => exact .unaryRule
  | operand set => exact .operandRule set
  | binding | statement => contradiction

end Waits

end Parser

namespace Passage.Renames

/-! ### The rules to which other rules refer -/

theorem assignment : passage.Strays Parser.assignment :=
  .call

theorem operators {floor : Nat} : passage.Strays (Parser.operators floor) :=
  .call

theorem unary : passage.Strays Parser.unary :=
  .call

theorem operand {set : LinkSet} : passage.Keeps (Parser.operand set) :=
  .call

theorem binding : passage.Keeps Parser.binding :=
  .call

theorem statement {place : Place} : passage.Keeps (Parser.statement place) :=
  .call

/-! ### Names and patterns -/

theorem bindingElement : passage.Strays Parser.bindingElement :=
  .after .binding fun _ => .after .eatPunct fun _ => .ite (.make (.withIn .assignment)) .pure

theorem arrayElement : passage.Strays Parser.arrayElement :=
  .after .atPunct fun _ => .ite .pure .bindingElement

theorem memberName : passage.Keeps Parser.memberName := by
  refine .after .peek fun token => ?_
  split
  · exact .propertyName
  · exact .after .advance fun _ => .pure
  · exact .after .advance fun _ => .pure
  · exact .after .advance fun _ => .pure
  · refine .after .advance fun _ => .before (.withIn .assignment) (fun _ => ?_) fun _ => ?_
    · exact .after .expectPunct fun _ => .pure
    · exact .expectPunct rfl
  · exact .fail

theorem objectMember : passage.Strays Parser.objectMember := by
  refine .after .peekSecond fun _ => .after .atIdentifier fun _ => .ite ?_ ?_
  · refine .after .identifier fun _ => .after .eatPunct fun _ => .ite ?_ .pure
    exact .make (.withIn .assignment)
  · refine .after .memberName fun _ => .after .expectPunct fun _ => ?_
    exact .make .bindingElement

theorem bindingRule : passage.Keeps Parser.bindingRule := by
  refine .after .eatPunct fun _ => .ite ?_ (.after .eatPunct fun _ => .ite ?_ .identifier)
  · refine .after (.patternItems rfl .arrayElement .binding) fun _ => ?_
    exact .after .expectPunct fun _ => .pure
  · refine .after (.patternItems rfl .objectMember .identifier) fun _ => ?_
    exact .after .expectPunct fun _ => .pure

theorem assignable {node : Node} : passage.Renames stop (Parser.assignable node) := by
  unfold Parser.assignable
  split
  · exact .pure
  · exact .fail

theorem bindable {trailingComma : Bool} {nodes : List Node} :
    passage.Renames stop (Parser.bindable trailingComma nodes) := by
  unfold Parser.bindable
  split
  · exact .pure
  · exact .fail

theorem place {node : Node} : passage.Renames stop (Parser.place node) :=
  .ite .pure .fail

/-! ### Functions -/

variable {form : FunctionForm}

/-- The form of a function says what is allowed in it. -/
theorem functionBody : passage.Renames stop (Parser.functionBody form) :=
  .withFixedFlags fun _ => rfl

theorem parameters : passage.Renames stop (Parser.parameters form) :=
  .withIn (.withFixedFlags fun _ => rfl)

theorem methodRest : passage.Renames stop (Parser.methodRest form) :=
  .after .parameters fun _ => .make .functionBody

theorem functionName : passage.Renames stop (Parser.functionName form) :=
  .after .atPunct fun _ => .ite .pure (.withFixedFlags fun _ => rfl)

theorem functionRule {name : FunctionForm → Parser Node}
    (h : ∀ form, passage.Keeps (name form)) :
    passage.Renames stop (Parser.functionRule name) :=
  .after .eatKeyword fun _ => .after .expectKeyword fun _ => .after .eatPunct fun _ =>
    .after (h _) fun _ => .after .parameters fun _ => .make .functionBody

theorem functionExpression : passage.Renames stop (Parser.functionRule Parser.functionName) :=
  .functionRule fun _ => .functionName

theorem atAsyncFunction : passage.Renames stop Parser.atAsyncFunction :=
  .after .atKeyword fun _ => .ite (.after .peekSecond fun _ => .pure) .pure

/-! ### Members of objects and classes -/

theorem memberHead : passage.Renames stop Parser.memberHead := by
  have hword (head : MemberHead) : passage.Renames stop (do
      Parser.advanceKeyword
      return head) :=
    .after .advanceKeyword fun _ => .pure
  refine .after .peekSecond fun _ => .after .peek fun token => ?_
  split
  · exact .after .advance fun _ => .pure
  · exact .ite (hword _) .pure
  · exact .ite (hword _) .pure
  · exact .ite (hword _) .pure
  · exact .ite (.after .advanceKeyword fun _ => .make .eatPunct) .pure
  · exact .pure

theorem methodMember {kind : MemberKind} {isStatic : Bool} {key : Node} :
    passage.Renames stop (Parser.methodMember kind isStatic form key) :=
  .make .methodRest

theorem plainMember : passage.Strays Parser.plainMember := by
  refine .after .peekSecond fun _ => .after .atIdentifier fun _ => .ite ?_ ?_
  · refine .after .identifier fun _ => .after .eatPunct fun _ => .ite ?_ .pure
    exact .make (.withIn .assignment)
  · refine .after .memberName fun _ => .after .atPunct fun _ => .ite .methodMember ?_
    exact .after .expectPunct fun _ => .make (.withIn .assignment)

theorem literalMember : passage.Strays Parser.literalMember := by
  refine .after .eatPunct fun _ => .ite (.make (.withIn .assignment)) ?_
  refine .after .memberHead fun head => ?_
  cases head with
  | plain => exact .plainMember
  | getter => exact .after .memberName fun _ => .methodMember
  | setter => exact .after .memberName fun _ => .methodMember
  | function form => exact .after .memberName fun _ => .methodMember
  | accessor => exact .fail

theorem objectLiteral : passage.Keeps Parser.objectLiteral :=
  .after .expectPunct fun _ => .after (.commaSeparated rfl .literalMember) fun _ =>
    .after .expectPunct fun _ => .pure

/-! ### Classes -/

theorem decorators : passage.Keeps Parser.decorators :=
  .repeatUntil (.after .atPunct fun _ => .pure) (.after .expectPunct fun _ => .make .operand)

theorem fieldRest : passage.Keeps Parser.fieldRest := by
  refine .after .eatPunct fun _ => .either (.withIn (.withFixedFlags fun _ => rfl)) .pure
    (fun _ => ?_) fun _ => .of_nowhere
  exact .after .endStatement fun _ => .pure

theorem classMemberName : passage.Keeps Parser.classMemberName := by
  refine .after .peek fun token => ?_
  split
  · exact .after .advance fun _ => .pure
  · exact .memberName

theorem staticBlock : passage.Renames stop Parser.staticBlock :=
  .withFixedFlags fun _ => rfl

theorem staticUse : passage.Renames stop Parser.staticUse := by
  refine .after .atKeyword fun _ => .ite (.after .peekSecond fun second => ?_) .pure
  cases second with
  | none => exact .pure
  | some second => exact .ite .pure (.ite .pure .pure)

theorem classMemberRest {isStatic : Bool} : passage.Keeps (Parser.classMemberRest isStatic) := by
  refine .after .memberHead fun head => .after .classMemberName fun key => ?_
  cases head with
  | getter => exact .methodMember
  | setter => exact .methodMember
  | function form => exact .methodMember
  | accessor => exact .make .fieldRest
  | plain => exact .after .atPunct fun _ => .ite .methodMember (.make .fieldRest)

theorem classMember : passage.Keeps Parser.classMember := by
  refine .after .eatPunct fun _ => .ite (.make .pure) (.after .decorators fun _ => ?_)
  refine .after .staticUse fun use => ?_
  cases use with
  | name => exact .make .classMemberRest
  | modifier => exact .after .advanceKeyword fun _ => .make .classMemberRest
  | block => exact .after .advanceKeyword fun _ => .make .staticBlock

theorem classRule : passage.Keeps Parser.classRule := by
  refine .after .decorators fun _ => .after .expectKeyword fun _ => .after .atIdentifier fun _ => ?_
  refine .either .identifier .pure (fun _ => .after .eatKeyword fun _ => ?_) fun _ => .of_nowhere
  refine .either .operand .pure (fun _ => .after .expectPunct fun _ => ?_) fun _ => .of_nowhere
  exact .after (.repeatUntil .atPunct .classMember) fun _ => .after .expectPunct fun _ => .pure

/-! ### Expressions between commas, and links -/

theorem expression : passage.Strays Parser.expression := by
  refine .before .assignment (fun first => .after .atPunct fun _ => .ite ?_ .pure) fun first => ?_
  · refine .make (.repeatUntil_of_finished (.after .atPunct fun _ => .pure)
      (fun _ _ => Parser.Halts.run_atListEnd) ?_)
    exact .after .expectPunct fun _ => .assignment
  · exact .atPunct rfl (.ite_neg Bool.false_ne_true .pure)

theorem template : passage.Keeps Parser.template := by
  refine .make (.loop_of_keeps (fun state => .after .peek fun token => ?_) _)
  split
  · exact .after .advance fun _ => .pure
  · refine .after .advance fun _ => .before (.withIn .expression) (fun _ => ?_) fun _ => ?_
    · exact .after (.reread _) fun _ => .pure
    · exact .reread_template
  · exact .fail

theorem argument : passage.Strays Parser.argument :=
  .after .eatPunct fun _ => .ite (.make .assignment) .assignment

theorem callArguments : passage.Keeps Parser.callArguments :=
  .withIn (.after .expectPunct fun _ => .after (.commaSeparated rfl .argument) fun _ =>
    .after .expectPunct fun _ => .pure)

theorem bracketed : passage.Keeps Parser.bracketed := by
  refine .after .expectPunct fun _ => .before (.withIn .expression) (fun _ => ?_) fun _ => ?_
  · exact .after .expectPunct fun _ => .pure
  · exact .expectPunct rfl

theorem property : passage.Renames stop Parser.property := by
  refine .after .peek fun token => ?_
  split
  · exact .after .advance fun _ => .pure
  · exact .propertyName

theorem links {set : LinkSet} {object : Node} : passage.Keeps (Parser.links set object) := by
  refine .loop_of_keeps (fun state => ?_) _
  obtain ⟨optional, object⟩ := state
  refine .after .peek fun token => ?_
  split
  · exact .after .advance fun _ => .make .property
  · exact .ite .pure (.make .bracketed)
  · exact .ite .pure (.make .callArguments)
  · refine .ite (.after .advance fun _ => .after .peek fun token => ?_) .fail_bind
    split
    · exact .make .bracketed
    · exact .make .callArguments
    · exact .fail
    · exact .make .property
  · exact .ite .fail_bind (.make .template)
  · exact .pure

/-! ### Operands -/

theorem arrayLiteral : passage.Keeps Parser.arrayLiteral := by
  have helement : passage.Strays (do
      if ← Parser.atPunct .comma then Parser.absent else Parser.withIn Parser.argument) :=
    .after .atPunct fun _ => .ite .pure (.withIn .argument)
  exact .after .expectPunct fun _ => .after (.commaSeparated rfl helement) fun _ =>
    .after .expectPunct fun _ => .pure

theorem atArrow : passage.Renames stop Parser.atArrow :=
  .after .peek fun _ => .pure

theorem parenthesizedItem : passage.Strays Parser.parenthesizedItem := by
  refine .after .atPunct fun _ => .ite ?_ (.withIn .assignment)
  refine .after (.after .expectPunct fun _ => .make .binding) fun _ => ?_
  exact .after .atPunct fun _ => .ite .pure .fail_bind

theorem parenthesized : passage.Keeps Parser.parenthesized := by
  refine .after .expectPunct fun _ => .after (.commaSeparated rfl .parenthesizedItem) fun _ => ?_
  refine .after .expectPunct fun _ => .ite ?_ .pure
  exact .after .atArrow fun _ => .ite .pure .fail_bind

theorem leaf {kind : NodeKind} : passage.Renames stop (Parser.leaf kind) :=
  .after .peek fun _ => .ite .fail_bind (.after .advance fun _ => .pure)

theorem wordOperand {keyword : Keyword} : passage.Keeps (Parser.wordOperand keyword) := by
  unfold Parser.wordOperand
  split
  · exact .leaf
  · exact .leaf
  · exact .leaf
  · exact .leaf
  · exact .functionExpression
  · exact .classRule
  · exact .after .atAsyncFunction fun _ => .ite .functionExpression .identifier
  · exact .identifier

theorem primary : passage.Keeps Parser.primary := by
  refine .after .peek fun token => ?_
  split
  · exact .identifier
  · exact .wordOperand
  · exact .leaf
  · exact .leaf
  · exact .leaf
  · exact .after .template fun _ => .ite .fail_bind .pure
  · exact .arrayLiteral
  · exact .objectLiteral
  · exact .parenthesized
  · exact .classRule
  · exact .after (.reread _) fun _ => .leaf
  · exact .after (.reread _) fun _ => .leaf
  · exact .fail

theorem construct : passage.Keeps Parser.construct := by
  refine .after .expectKeyword fun _ => .after .eatPunct fun _ => .ite ?_ ?_
  · exact .after .expectKeyword fun _ => .pure
  · refine .after .operand fun _ => .after .atPunct fun _ => ?_
    exact .either .callArguments .pure (fun _ => .pure) fun _ => .of_nowhere

theorem importArguments : passage.Keeps Parser.importArguments := by
  have hclose {arguments : List Node} : passage.Keeps (do
      Parser.expectPunct .closeParen
      return Node.mk .importCall arguments) :=
    .after .expectPunct fun _ => .pure
  refine .withIn (.after .expectPunct fun _ => .before .assignment (fun specifier => ?_)
    fun _ => ?_)
  · refine .after .eatPunct fun _ => .ite (.after .atPunct fun _ => .ite hclose ?_) hclose
    refine .before .assignment (fun options => .after .eatPunct fun _ => hclose) fun options => ?_
    exact .eatPunct rfl (.expectPunct rfl)
  · exact .eatPunct rfl (.ite_neg Bool.false_ne_true (.expectPunct rfl))

theorem importOperand {set : LinkSet} : passage.Keeps (Parser.importOperand set) := by
  have hrest : passage.Keeps (if set = .withoutCalls then
      (Parser.unexpected : Parser PUnit) >>= fun _ => Parser.importArguments
      else Parser.importArguments) :=
    .ite .fail_bind .importArguments
  refine .after .expectKeyword fun _ => .after .eatPunct fun _ => .ite ?_ hrest
  refine .after .eatKeyword fun _ => .ite .pure (.after .eatKeyword fun _ => .ite hrest ?_)
  exact .after .expectKeyword fun _ => hrest

theorem superOperand : passage.Keeps Parser.superOperand := by
  refine .after .leaf fun node => .after .peek fun token => ?_
  split
  · exact .pure
  · exact .pure
  · exact .pure
  · exact .fail

/-- **An operand keeps to what is read**: with `await` as an operator, none starts with it. -/
theorem operandRule {set : LinkSet} : passage.Keeps (Parser.operandRule set) := by
  refine .after .peek fun token => ?_
  split
  · exact .after .construct fun _ => .links
  · exact .after .importOperand fun _ => .links
  · exact .after .superOperand fun _ => .links
  · exact .after .primary fun _ => .links

/-! ### Operators -/

theorem updateRule : passage.Keeps Parser.updateRule :=
  .after .operand fun _ => .after .peek fun _ =>
    .ite (.after .place fun _ => .after .advance fun _ => .pure) .pure

theorem operatorTail {floor : Nat} {left : Node} :
    passage.Strays (Parser.operatorTail floor left) := by
  refine .loop (fun left => .flags (fun _ => rfl) fun flags => .after .peek fun token => ?_)
    (fun left => .flags fun flags => .peek fun token hblocks _ => ?_) _
  · split
    · refine .ite (.ite .fail_bind (.after .advanceKeyword fun _ => ?_)) .pure
      exact .before .operators (fun _ => .ite .fail_bind .pure) fun _ => .ite .fail_bind .pure
    · exact .pure
  · rw [Parser.Halts.operator?_of_blocks hblocks]
    exact .pure

theorem privateOperand {floor : Nat} : passage.Keeps (Parser.privateOperand floor) := by
  refine .after .property fun _ => .flags (fun _ => rfl) fun _ => .ite ?_ .fail_bind
  exact .after .atKeyword fun _ => .ite .pure .fail_bind

theorem operatorsRule {floor : Nat} : passage.Strays (Parser.operatorsRule floor) :=
  .after .peek fun _ => .either (.of_keeps .privateOperand) .unary (fun _ => .operatorTail)
    fun _ => .operatorTail _ _

/-- **The operator `await` strays**: as a name it is all that can be read. -/
theorem unaryRule : passage.Strays Parser.unaryRule := by
  refine .peek_flags (fun token flags => ?_) fun context hcontext cursor hguarded => ?_
  · split
    · exact .after .advanceKeyword fun _ => .make .unary
    · refine .ite ?_ (.ite (.after .advanceKeyword fun _ => .make .unary) (.of_keeps .updateRule))
      exact .after .advance fun _ => .before .unary (fun _ => .after .place fun _ => .pure)
        fun _ => .bind (.ite .pure .fail) fun _ => .pure
  · by_cases hawait : (context.flags.allowAwait && cursor.token.kind == .word (some .await_)) = true
    · refine .inr fun node last hrun hreach => .inr ?_
      obtain ⟨hallowed, hkind⟩ := Bool.and_eq_true_iff.mp hawait
      rw [beq_iff_eq] at hkind
      rw [hkind, hallowed] at hrun
      obtain ⟨_, between, hadvance, hrest⟩ := Parser.bind_eq_ok_iff.mp hrun
      have hpasses := (Parser.Advances.bind .advanceKeyword hcontext.sound hrun).trans_reaches
        (hcontext.goal_eq ▸ hreach)
      rw [hcontext.goal_eq] at hpasses
      exact Parser.Waits.unaryRule hcontext.names
        (hguarded.awaits hkind (Parser.not_escaped_of_advanceKeyword hadvance) hpasses)
    · rw [Bool.not_eq_true] at hawait
      simp only [hawait, Flags.named, Bool.false_and]
      exact .inl trivial

/-! ### Assignments and arrow functions -/

theorem arrowFunction {isAsync : Bool} {items : List Node} :
    passage.Keeps (Parser.arrowFunction isAsync items) := by
  refine .after .atArrow fun _ => .ite (.after .advance fun _ => .after .atPunct fun _ => ?_)
    .fail_bind
  exact .either .functionBody (.withFixedFlags fun _ => rfl) (fun _ => .pure) fun _ => .of_nowhere

theorem atNamedArrow {isAsync : Bool} : passage.Renames stop (Parser.atNamedArrow isAsync) := by
  refine .after .peek fun token => .ite (.ite (.after .peekSecond fun second => ?_) .pure) ?_
  · cases second with
    | none => exact .pure
    | some second =>
      refine .ite .pure ?_
      split
      · exact .after .peekThird fun _ => .pure
      · exact .pure
  · exact .after .atIdentifier fun _ => .ite (.after .peekSecond fun _ => .pure) .pure

theorem arrowFromHead {startsAsync : Bool} {head : Node} :
    passage.Keeps (Parser.arrowFromHead startsAsync head) := by
  unfold Parser.arrowFromHead
  split
  · exact .after .bindable fun _ => .ite .fail_bind .arrowFunction
  · exact .fail

theorem yieldsNothing : passage.Renames stop Parser.yieldsNothing := by
  refine .after .peek fun token => ?_
  split
  all_goals first | exact .pure | exact .atStatementEnd

theorem yieldRule : passage.Strays Parser.yieldRule :=
  .after .advanceKeyword fun _ => .after .yieldsNothing fun _ =>
    .ite (.make .pure) (.after .eatPunct fun _ => .make .assignment)

theorem choice {condition : Node} : passage.Strays (Parser.choice condition) := by
  refine .after .expectPunct fun _ => .before (.withIn .assignment) (fun _ => ?_) fun _ => ?_
  · exact .after .expectPunct fun _ => .make .assignment
  · exact .expectPunct rfl

theorem assignmentTail {startsAsync : Bool} {left : Node} :
    passage.Strays (Parser.assignmentTail startsAsync left) := by
  refine .after .peek fun token => ?_
  split
  · exact .of_keeps .arrowFromHead
  · exact .choice
  · exact .after .assignable fun _ => .after .advance fun _ => .make .assignment
  · exact .after .place fun _ => .after .advance fun _ => .make .assignment
  · exact .pure

/-- **An expression strays.** -/
theorem assignmentRule : passage.Strays Parser.assignmentRule := by
  refine .after .peek fun first => .flags (fun _ => rfl) fun flags => ?_
  refine .after .atKeyword fun _ => .ite .yieldRule (.after .atNamedArrow fun _ => .ite ?_ ?_)
  · exact .after .identifier fun _ => .of_keeps .arrowFunction
  · refine .after .atNamedArrow fun _ => .ite (.after .advance fun _ => ?_) ?_
    · exact .after (.withFixedFlags fun _ => rfl) fun _ => .of_keeps .arrowFunction
    · exact .before .operators (fun _ => .assignmentTail) fun _ => .assignmentTail _ _

end Passage.Renames

end ModuleBundler.Script
