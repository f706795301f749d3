import ModuleBundler.Proofs.Script.Expressions
import ModuleBundler.Proofs.Script.Fails
import ModuleBundler.Proofs.Script.Tokens

/-!
# Names with links

A name is an operand, and so is a name with accesses and calls behind it. The words that mean
something in some places only are names too, unless another word follows that gives them their
meaning.

## Main definitions

* `TokenKind.isIdentifier` — the words that are names outside of functions that wait or yield.
* `Parser.Chain` — links that follow each other.
* `Parser.Broken` — items between commas, up to one that cannot be passed over.

## Main results

* `Parser.ReadsIf.operators_of_identifier` — a name with its links is read if the links are.
* `Parser.Chain.reads`, `Parser.Chain.fails` — links that follow each other are read, up to the one
  that cannot be.
* `Parser.Broken.fails` — a pattern with an item that cannot be passed over cannot be read.
-/

namespace ModuleBundler.Script

open Text

/-- Is the token a name, outside of functions that wait or yield? -/
def TokenKind.isIdentifier : TokenKind → Bool
  | .word none => true
  | .word (some keyword) => !keyword.isReserved
  | _ => false

theorem TokenKind.isIdentifier_iff {kind : TokenKind} : kind.isIdentifier ↔
    kind = .word none ∨ ∃ keyword, kind = .word (some keyword) ∧ keyword.isReserved = false := by
  cases kind with
  | word keyword => cases keyword <;> simp [isIdentifier]
  | _ => simp [isIdentifier]

theorem TokenKind.exists_word_of_isIdentifier {kind : TokenKind} (h : kind.isIdentifier) :
    ∃ keyword, kind = .word keyword := by
  obtain hkind | ⟨keyword, hkind, -⟩ := isIdentifier_iff.mp h
  exacts [⟨_, hkind⟩, ⟨_, hkind⟩]

/-- Can the words `await` and `yield` be names? -/
structure Flags.Sloppy (flags : Flags) : Prop where
  await : flags.allowAwait = false
  yield : flags.allowYield = false

namespace Parser

variable {goal : Goal} {width depth : Nat} {flags : Flags} {context : Context}
  {chars between rest : List Char} {node object last : Node} {first next second : Lexeme}

namespace ReadsIf

variable {condition : Prop}

/-- A reference to a rule is read as the rule is. -/
theorem call {rule : Rule} (h : (grammar rule).ReadsIf condition
      (ruleContext goal width flags depth) chars node rest) :
    (Parser.call rule).ReadsIf condition (ruleContext goal width flags (depth + 1)) chars node
      rest :=
  h

theorem updateRule (h : (Parser.operand .all).ReadsIf condition context chars node rest)
    (hnext : scanToken context.goal rest = .ok next) (hend : next.token.kind.endsOperand) :
    Parser.updateRule.ReadsIf condition context chars node rest :=
  ⟨fun hc => .updateRule (h.1 hc) hnext hend, fun hc => .bind (h.2 hc)⟩

end ReadsIf

namespace Reads

/-! ### Names -/

theorem rejectOperatorWord (h : scanToken context.goal chars = .ok first)
    (hflags : context.flags.Sloppy) :
    Parser.rejectOperatorWord.Reads context chars () chars := by
  refine .bind (.peek h) (.bind .flags ?_)
  exact .ite_neg (by simp [hflags.await]) (.ite_neg (by simp [hflags.yield]) .pure)

section Identifier

variable (h : scanToken context.goal chars = .ok first) (hname : first.token.kind.isIdentifier)

include h hname

theorem atIdentifier_of_isIdentifier : atIdentifier.Reads context chars true chars := by
  refine .bind (.peek h) ?_
  obtain hkind | ⟨keyword, hkind, hreserved⟩ := TokenKind.isIdentifier_iff.mp hname
  · rw [hkind]
    exact .pure
  · rw [hkind]
    show (Pure.pure (!keyword.isReserved) : Parser Bool).Reads context chars true chars
    rw [hreserved]
    exact .pure

theorem identifier_of_isIdentifier (hflags : context.flags.Sloppy)
    (hsecond : scanToken context.goal first.rest = .ok second) :
    Parser.identifier.Reads context chars (.mk (.identifier first.token.text) []) first.rest := by
  refine .bind (.atIdentifier_of_isIdentifier h hname) (.ite_pos rfl ?_)
  exact .bind (.rejectOperatorWord h hflags) (.bind (.peek h) (.bind (.advance h hsecond) .pure))

end Identifier

end Reads

/-! ### Names as operands -/

section Operand

variable (h : scanToken context.goal chars = .ok first)
  (hsecond : scanToken context.goal first.rest = .ok second)
  (hword : ∀ keyword, second.token.kind ≠ .word keyword)

include h hsecond hword

/-- No function starts with a name that no word follows. -/
theorem Reads.atAsyncFunction_false : atAsyncFunction.Reads context chars false chars := by
  by_cases hasync : first.token.kind = .word (some .async_)
  · refine .bind (.atKeyword_of_eq h hasync) (.ite_pos rfl ?_)
    refine .bind (.peekSecond_of_word h hasync hsecond) ?_
    have hfunction : (some second.token).any
        (fun token => token.kind == .word (some .function_) && !token.newline) = false := by
      simp [hword]
    rw [hfunction]
    exact .pure
  · exact .bind (.atKeyword_of_ne h hasync) (.ite_neg Bool.false_ne_true .pure)

theorem Reads.primary_of_identifier (hname : first.token.kind.isIdentifier)
    (hflags : context.flags.Sloppy) :
    primary.Reads context chars (.mk (.identifier first.token.text) []) first.rest := by
  have hidentifier := Reads.identifier_of_isIdentifier h hname hflags hsecond
  refine .bind (.peek h) ?_
  obtain hkind | ⟨keyword, hkind, hreserved⟩ := TokenKind.isIdentifier_iff.mp hname
  · rw [hkind]
    exact hidentifier
  · rw [hkind]
    show (wordOperand keyword).Reads _ _ _ _
    by_cases hasync : keyword = .async_
    · subst hasync
      exact .bind (.atAsyncFunction_false h hsecond hword)
        (.ite_neg Bool.false_ne_true hidentifier)
    · have hoperand : wordOperand keyword = Parser.identifier := by
        cases keyword <;> first | rfl | contradiction
      rwa [hoperand]

end Operand

/-- What a name is not, in front of its links. -/
theorem ne_of_isIdentifier {kind : TokenKind} (h : kind.isIdentifier) :
    unaryOperator? kind = none ∧ kind ≠ .punct .increment ∧ kind ≠ .punct .decrement ∧
      kind ≠ .privateName ∧ kind ≠ .word (some .new_) ∧ kind ≠ .word (some .import_) ∧
        kind ≠ .word (some .super_) := by
  obtain rfl | ⟨keyword, rfl, hreserved⟩ := TokenKind.isIdentifier_iff.mp h
  · exact ⟨rfl, by simp⟩
  · cases keyword <;> first | contradiction | exact ⟨rfl, by simp⟩

/-! ### Expressions that start with a name -/

section Rules

variable (h : scanToken context.goal chars = .ok first) (hname : first.token.kind.isIdentifier)

include h hname

theorem operandRule_goesOnAs {set : LinkSet} :
    (operandRule set).GoesOnAs (primary >>= links set) context chars := by
  obtain ⟨-, -, -, -, hnew, himport, hsuper⟩ := ne_of_isIdentifier hname
  refine (Reads.peek h).goesOnAs ?_
  split
  · next hkind => exact absurd hkind hnew
  · next hkind => exact absurd hkind himport
  · next hkind => exact absurd hkind hsuper
  · exact .refl

theorem unaryRule_goesOnAs (hflags : context.flags.Sloppy) :
    unaryRule.GoesOnAs updateRule context chars := by
  obtain ⟨hunary, hincrement, hdecrement, -⟩ := ne_of_isIdentifier hname
  refine (Reads.peek h).goesOnAs (Reads.flags.goesOnAs ?_)
  rw [hunary]
  refine .ite_neg (by simp [hincrement, hdecrement]) (.ite_neg ?_ .refl)
  simp [hflags.await]

theorem operatorsRule_goesOnAs {floor : Nat} :
    (operatorsRule floor).GoesOnAs (unary >>= operatorTail floor) context chars := by
  obtain ⟨-, -, -, hprivate, -⟩ := ne_of_isIdentifier hname
  exact (Reads.peek h).goesOnAs (.ite_neg (by simpa using hprivate) .refl)

variable (hsecond : scanToken context.goal first.rest = .ok second)
  (hword : ∀ keyword, second.token.kind ≠ .word keyword)
  (harrow : second.token.kind ≠ .punct .arrow)

include hsecond hword harrow

/-- No arrow function starts with a name that neither an arrow nor a word follows. -/
theorem Reads.atNamedArrow_of_identifier (isAsync : Bool) :
    (atNamedArrow isAsync).Reads context chars false chars := by
  obtain ⟨keyword, hkind⟩ := TokenKind.exists_word_of_isIdentifier hname
  refine .bind (.peek h) ?_
  cases isAsync with
  | false =>
    have hnone : (some second.token).any (fun token => token.kind == .punct .arrow) = false := by
      simpa using harrow
    refine .bind (.atIdentifier_of_isIdentifier h hname) (.ite_pos rfl ?_)
    refine .bind (.peekSecond_of_word h hkind hsecond) ?_
    rw [hnone]
    exact .pure
  | true =>
    cases hasync : first.token.kind == .word (some .async_) && !first.token.escaped with
    | false => exact .pure
    | true =>
      refine .bind (.peekSecond_of_word h hkind hsecond) ?_
      by_cases hline : second.token.newline
      · exact .ite_pos hline .pure
      · refine .ite_neg hline ?_
        split
        · next hkind => exact absurd hkind (hword _)
        · exact .pure

theorem assignmentRule_goesOnAs (hflags : context.flags.Sloppy) : ∃ startsAsync,
    assignmentRule.GoesOnAs (operators 0 >>= assignmentTail startsAsync) context chars := by
  have hatYield : (atKeyword .yield_).Reads context chars
      (first.token.kind == .word (some .yield_)) chars := .bind (.peek h) .pure
  refine ⟨first.token.kind == .word (some .async_) && !first.token.escaped,
    (Reads.peek h).goesOnAs (Reads.flags.goesOnAs (hatYield.goesOnAs ?_))⟩
  refine .ite_neg (by simp [hflags.yield]) ?_
  refine (Reads.atNamedArrow_of_identifier h hname hsecond hword harrow false).goesOnAs ?_
  refine .ite_neg Bool.false_ne_true ?_
  refine (Reads.atNamedArrow_of_identifier h hname hsecond hword harrow true).goesOnAs ?_
  exact .ite_neg Bool.false_ne_true .refl

end Rules

section Links

variable (h : scanToken goal chars = .ok first) (hname : first.token.kind.isIdentifier)
  (hsecond : scanToken goal first.rest = .ok second)
  (hword : ∀ keyword, second.token.kind ≠ .word keyword) (hflags : flags.Sloppy)

include h hname hsecond hword hflags

/-- **A name with its links is an operand** if the links can be read. -/
theorem ReadsIf.operators_of_identifier {floor : Nat} {condition : Prop}
    (hlinks : (links .all (.mk (.identifier first.token.text) [])).ReadsIf condition
      (ruleContext goal width flags depth) first.rest node rest)
    (hnext : scanToken goal rest = .ok next) (hend : next.token.kind.endsOperand) :
    (Parser.operators floor).ReadsIf condition (ruleContext goal width flags (depth + 3)) chars node
      rest := by
  have hoperand : (operandRule .all).ReadsIf condition (ruleContext goal width flags depth) chars
      node rest :=
    (operandRule_goesOnAs h hname).readsIf
      ((Reads.primary_of_identifier h hsecond hword hname hflags).readsIf_bind hlinks)
  have hunary : unaryRule.ReadsIf condition (ruleContext goal width flags (depth + 1)) chars node
      rest :=
    (unaryRule_goesOnAs h hname hflags).readsIf (hoperand.call.updateRule hnext hend)
  have hoperators : (operatorsRule floor).ReadsIf condition
      (ruleContext goal width flags (depth + 2)) chars node rest :=
    (operatorsRule_goesOnAs h hname).readsIf
      (hunary.call.bind_reads (.operatorTail_of_end hnext hend))
  exact hoperators.call

end Links

/-! ### Links -/

/-- The links between two places of a text, one behind the other: the object in front of them, and
the object that they make of it. -/
inductive Chain (context : Context) : (object : Node) → (chars : List Char) → (last : Node) →
    (rest : List Char) → (count : Nat) → Prop
  | refl (object : Node) (chars : List Char) : Chain context object chars object chars 0
  | access {object part last : Node} {chars between rest : List Char} {first second : Lexeme}
    {count : Nat} (h : scanToken context.goal chars = .ok first)
    (hkind : first.token.kind = .punct .dot)
    (hsecond : scanToken context.goal first.rest = .ok second)
    (hpart : Parser.property.Reads context first.rest part between)
    (hrest : Chain context (.mk .access [object, part]) between last rest count) :
    Chain context object chars last rest (count + 1)
  | index {object part last : Node} {chars between rest : List Char} {first : Lexeme}
    {count : Nat} (h : scanToken context.goal chars = .ok first)
    (hkind : first.token.kind = .punct .openBracket)
    (hpart : bracketed.Reads context chars part between)
    (hrest : Chain context (.mk .index [object, part]) between last rest count) :
    Chain context object chars last rest (count + 1)
  | call {object part last : Node} {chars between rest : List Char} {first : Lexeme}
    {count : Nat} (h : scanToken context.goal chars = .ok first)
    (hkind : first.token.kind = .punct .openParen)
    (hpart : callArguments.Reads context chars part between)
    (hrest : Chain context (.mk .call [object, part]) between last rest count) :
    Chain context object chars last rest (count + 1)

namespace Chain

variable {count count' : Nat}

theorem trans (h : Chain context object chars last between count)
    (h' : Chain context last between node rest count') :
    Chain context object chars node rest (count + count') := by
  induction h with
  | refl => rwa [Nat.zero_add]
  | access h hkind hsecond hpart _ ih =>
    rw [Nat.add_right_comm]
    exact .access h hkind hsecond hpart (ih h')
  | index h hkind hpart _ ih =>
    rw [Nat.add_right_comm]
    exact .index h hkind hpart (ih h')
  | call h hkind hpart _ ih =>
    rw [Nat.add_right_comm]
    exact .call h hkind hpart (ih h')

/-- **Links that follow each other are read** up to the end of the operand. -/
protected theorem reads (h : Chain context object chars last rest count)
    (hnext : scanToken context.goal rest = .ok next) (hend : next.token.kind.endsOperand)
    (hwidth : count ≤ context.width) : (links .all object).Reads context chars last rest := by
  refine .loop ?_
  suffices hrounds : ∀ fuel, count < fuel →
      (rounds _ fuel (false, object)).Reads context chars last rest from hrounds _ (by omega)
  clear hwidth
  induction h with
  | refl object chars =>
    intro fuel hfuel
    obtain ⟨fuel, rfl⟩ : ∃ n, fuel = n + 1 := ⟨fuel - 1, by omega⟩
    refine .rounds_inr (.bind (.peek hnext) ?_)
    unfold TokenKind.endsOperand at hend
    split at hend
    all_goals first | contradiction | next hkind => rw [hkind]; exact .pure
  | access h hkind hsecond hpart _ ih =>
    intro fuel hfuel
    obtain ⟨fuel, rfl⟩ : ∃ n, fuel = n + 1 := ⟨fuel - 1, by omega⟩
    refine .rounds_inl (.bind (.peek h) ?_) (ih hnext fuel (by omega))
    rw [hkind]
    exact .bind (.advance h hsecond) (.bind hpart .pure)
  | index h hkind hpart _ ih | call h hkind hpart _ ih =>
    intro fuel hfuel
    obtain ⟨fuel, rfl⟩ : ∃ n, fuel = n + 1 := ⟨fuel - 1, by omega⟩
    refine .rounds_inl (.bind (.peek h) ?_) (ih hnext fuel (by omega))
    rw [hkind]
    exact .ite_neg nofun (.bind hpart .pure)

/-- Links that follow each other fail where the property behind a point cannot be read. -/
theorem fails (h : Chain context object chars last rest count)
    (hnext : scanToken context.goal rest = .ok next) (hkind : next.token.kind = .punct .dot)
    (hproperty : Parser.property.Fails context next.rest) (hwidth : count ≤ context.width) :
    (links .all object).Fails context chars := by
  refine .loop ?_
  suffices hrounds : ∀ fuel, count < fuel →
      (rounds _ fuel (false, object)).Fails context chars from hrounds _ (by omega)
  clear hwidth
  induction h with
  | refl object chars =>
    intro fuel hfuel
    obtain ⟨fuel, rfl⟩ : ∃ n, fuel = n + 1 := ⟨fuel - 1, by omega⟩
    refine .rounds ((Reads.peek hnext).bind_fails ?_)
    rw [hkind]
    exact .advance_bind hnext (.bind hproperty)
  | access h hkind' hsecond hpart _ ih =>
    intro fuel hfuel
    obtain ⟨fuel, rfl⟩ : ∃ n, fuel = n + 1 := ⟨fuel - 1, by omega⟩
    refine .rounds_inl (.bind (.peek h) ?_) (ih hnext fuel (by omega))
    rw [hkind']
    exact .bind (.advance h hsecond) (.bind hpart .pure)
  | index h hkind' hpart _ ih | call h hkind' hpart _ ih =>
    intro fuel hfuel
    obtain ⟨fuel, rfl⟩ : ∃ n, fuel = n + 1 := ⟨fuel - 1, by omega⟩
    refine .rounds_inl (.bind (.peek h) ?_) (ih hnext fuel (by omega))
    rw [hkind']
    exact .ite_neg nofun (.bind hpart .pure)

end Chain

/-! ### Texts in brackets -/

/-- A literal text. -/
def textTree (text : Name) : Node :=
  .mk (.literal (.string text)) []

namespace Reads

variable {text : Name}

theorem assignment_of_text (hnext : scanToken goal rest = .ok next)
    (hend : next.token.kind.endsOperand) (hassign : next.token.kind ≠ .punct (.assign none)) :
    Parser.assignment.Reads (ruleContext goal width flags (depth + 4))
      (Quoted.encode text ++ rest) (textTree text) rest :=
  .call (.assignmentRule_of_leaf (scanToken_encode text) rfl rfl hnext hend hassign)

theorem expression_of_assignment (h : Parser.assignment.Reads context chars node rest)
    (hnext : scanToken context.goal rest = .ok next) (hcomma : next.token.kind ≠ .punct .comma) :
    expression.Reads context chars node rest :=
  .bind h (.bind (.atPunct_of_ne hnext hcomma) (.ite_neg Bool.false_ne_true .pure))

theorem bracketed_of_text (hnext : scanToken goal rest = .ok next) :
    bracketed.Reads (ruleContext goal width flags (depth + 4))
      ('[' :: (Quoted.encode text ++ ']' :: rest)) (textTree text) rest := by
  have hopen : scanToken goal ('[' :: (Quoted.encode text ++ ']' :: rest)) =
      .ok (lexeme ⟨'[' :: (Quoted.encode text ++ ']' :: rest), false⟩ (.punct .openBracket)
        (Quoted.encode text ++ ']' :: rest) [] false) := rfl
  have hclose : scanToken goal (']' :: rest) =
      .ok (lexeme ⟨']' :: rest, false⟩ (.punct .closeBracket) rest [] false) := rfl
  have hindex (flags : Flags) : expression.Reads (ruleContext goal width flags (depth + 4))
      (Quoted.encode text ++ ']' :: rest) (textTree text) (']' :: rest) :=
    .expression_of_assignment (.assignment_of_text hclose rfl nofun) hclose nofun
  exact .bind (.expectPunct hopen rfl (scanToken_encode text))
    (.bind (.withFlags (hindex _)) (.bind (.expectPunct hclose rfl hnext) .pure))

theorem callArguments_of_text (hnext : scanToken goal rest = .ok next) (hwidth : 1 ≤ width) :
    callArguments.Reads (ruleContext goal width flags (depth + 4))
      ('(' :: (Quoted.encode text ++ ')' :: rest)) (.mk (.arguments false) [textTree text])
      rest := by
  have hopen : scanToken goal ('(' :: (Quoted.encode text ++ ')' :: rest)) =
      .ok (lexeme ⟨'(' :: (Quoted.encode text ++ ')' :: rest), false⟩ (.punct .openParen)
        (Quoted.encode text ++ ')' :: rest) [] false) := rfl
  have hclose : scanToken goal (')' :: rest) =
      .ok (lexeme ⟨')' :: rest, false⟩ (.punct .closeParen) rest [] false) := rfl
  have hargument (flags : Flags) : argument.Reads (ruleContext goal width flags (depth + 4))
      (Quoted.encode text ++ ')' :: rest) (textTree text) (')' :: rest) :=
    .bind (.eatPunct_of_ne (scanToken_encode text) nofun)
      (.ite_neg Bool.false_ne_true (.assignment_of_text hclose rfl nofun))
  have hlist (flags : Flags) : Separated .closeParen argument
      (ruleContext goal width flags (depth + 4)) (Quoted.encode text ++ ')' :: rest)
      [textTree text] (')' :: rest) :=
    .last (scanToken_encode text) nofun nofun (hargument flags) hclose rfl
  exact .withFlags (.bind (.expectPunct hopen rfl (scanToken_encode text))
    (.bind ((hlist _).reads (by decide) hwidth) (.bind (.expectPunct hclose rfl hnext) .pure)))

end Reads

/-! ### Names in patterns -/

namespace Reads

section Binding

variable (h : scanToken goal chars = .ok first) (hname : first.token.kind.isIdentifier)
  (hflags : flags.Sloppy) (hsecond : scanToken goal first.rest = .ok second)

include h hname hflags hsecond

theorem binding_of_identifier :
    Parser.binding.Reads (ruleContext goal width flags (depth + 1)) chars
      (.mk (.identifier first.token.text) []) first.rest := by
  obtain ⟨keyword, hkind⟩ := TokenKind.exists_word_of_isIdentifier hname
  have hpunct (p : Punct) : first.token.kind ≠ .punct p := by
    rw [hkind]
    exact nofun
  refine .call (.bind (.eatPunct_of_ne h (hpunct _)) (.ite_neg Bool.false_ne_true ?_))
  refine .bind (.eatPunct_of_ne h (hpunct _)) (.ite_neg Bool.false_ne_true ?_)
  exact .identifier_of_isIdentifier h hname hflags hsecond

theorem bindingElement_of_identifier (hassign : second.token.kind ≠ .punct (.assign none)) :
    bindingElement.Reads (ruleContext goal width flags (depth + 1)) chars
      (.mk (.identifier first.token.text) []) first.rest :=
  .bind (.binding_of_identifier h hname hflags hsecond)
    (.bind (.eatPunct_of_ne hsecond hassign) (.ite_neg Bool.false_ne_true .pure))

/-- A name in a pattern binds itself if no colon follows. -/
theorem objectMember_of_identifier (hcolon : second.token.kind ≠ .punct .colon)
    (hassign : second.token.kind ≠ .punct (.assign none)) :
    objectMember.Reads (ruleContext goal width flags depth) chars
      (.mk (.member .shorthand false) [.mk (.identifier first.token.text) []]) first.rest := by
  obtain ⟨keyword, hkind⟩ := TokenKind.exists_word_of_isIdentifier hname
  have hkeyed : (some second.token).any (fun token => token.kind == .punct .colon) = false := by
    simpa using hcolon
  refine .bind (.peekSecond_of_word h hkind hsecond) ?_
  refine .bind (.atIdentifier_of_isIdentifier h hname) ?_
  rw [hkeyed]
  refine .ite_pos rfl (.bind (.identifier_of_isIdentifier h hname hflags hsecond) ?_)
  exact .bind (.eatPunct_of_ne hsecond hassign) (.ite_neg Bool.false_ne_true .pure)

end Binding

theorem exists_peekSecond (h : scanToken context.goal chars = .ok first) :
    ∃ second, peekSecond.Reads context chars second chars := by
  have hstart : Cursor.At context.goal chars ⟨first, chars⟩ := ⟨h, rfl⟩
  refine ⟨(Cursor.behindWord? context.goal ⟨first, chars⟩).map Cursor.token, fun cursor hcursor =>
    ⟨cursor, hcursor, ?_⟩⟩
  rw [hcursor.unique hstart]
  rfl

theorem memberName_of_word {keyword : Option Keyword}
    (h : scanToken context.goal chars = .ok first) (hkind : first.token.kind = .word keyword)
    (hsecond : scanToken context.goal first.rest = .ok second) :
    memberName.Reads context chars (.mk (.propertyName first.token.text) []) first.rest := by
  refine .bind (.peek h) ?_
  rw [hkind]
  exact .propertyName h hkind hsecond

theorem memberName_of_string {valid : Bool} (h : scanToken context.goal chars = .ok first)
    (hkind : first.token.kind = .string valid)
    (hsecond : scanToken context.goal first.rest = .ok second) :
    memberName.Reads context chars (textTree first.token.text) first.rest := by
  refine .bind (.peek h) ?_
  rw [hkind]
  exact .bind (.advance h hsecond) .pure

/-- A member with a colon behind its name binds what stands behind the colon. -/
theorem objectMember_of_key {third : Lexeme} {key value : Node}
    (h : scanToken context.goal chars = .ok first)
    (hkey : memberName.Reads context chars key first.rest)
    (hsecond : scanToken context.goal first.rest = .ok second)
    (hcolon : second.token.kind = .punct .colon)
    (hthird : scanToken context.goal second.rest = .ok third)
    (hvalue : bindingElement.Reads context second.rest value rest) :
    objectMember.Reads context chars (.mk (.member .valued false) [key, value]) rest := by
  have hmember : (memberName >>= fun key => do
      Parser.expectPunct .colon
      let value ← bindingElement
      return Node.mk (.member .valued false) [key, value]).Reads context chars
        (.mk (.member .valued false) [key, value]) rest :=
    .bind hkey (.bind (.expectPunct hsecond hcolon hthird) (.bind hvalue .pure))
  by_cases hword : ∃ keyword, first.token.kind = .word keyword
  · obtain ⟨keyword, hkind⟩ := hword
    obtain ⟨isIdentifier, hidentifier⟩ := exists_atIdentifier h
    have hkeyed : (some second.token).any (fun token => token.kind == .punct .colon) = true := by
      simpa using hcolon
    refine .bind (.peekSecond_of_word h hkind hsecond) (.bind hidentifier ?_)
    exact .ite_neg (by simp [hkeyed]) hmember
  · have hword (keyword : Option Keyword) : first.token.kind ≠ .word keyword :=
      fun hkind => hword ⟨keyword, hkind⟩
    refine .bind (.peekSecond_of_not_word h hword) ?_
    exact .bind (.atIdentifier_of_not_word h hword) (.ite_neg Bool.false_ne_true hmember)

end Reads

namespace Stuck

variable (hstuck : Stuck context.goal chars) (hflags : context.flags.Sloppy)

include hstuck hflags

theorem identifier : Parser.identifier.Fails context chars := by
  refine hstuck.fails fun first keyword hfirst _ hadvance => ?_
  obtain ⟨isIdentifier, hidentifier⟩ := Reads.exists_atIdentifier hfirst
  refine hidentifier.bind_fails ?_
  cases isIdentifier with
  | false => exact .ite_neg Bool.false_ne_true (.bind fun _ _ => ⟨_, rfl⟩)
  | true =>
    refine .ite_pos rfl ((Reads.rejectOperatorWord hfirst hflags).bind_fails ?_)
    exact (Reads.peek hfirst).bind_fails (.bind hadvance)

theorem objectMember : Parser.objectMember.Fails context chars := by
  refine hstuck.fails fun first keyword hfirst _ _ => ?_
  obtain ⟨second, hsecond⟩ := Reads.exists_peekSecond hfirst
  obtain ⟨isIdentifier, hidentifier⟩ := Reads.exists_atIdentifier hfirst
  refine hsecond.bind_fails (hidentifier.bind_fails ?_)
  split
  · exact .bind (hstuck.identifier hflags)
  · exact .bind hstuck.memberName

end Stuck

/-! ### Patterns that cannot be read -/

/-- The text writes items between commas, none of which is spread, up to one that cannot be passed
over. Counts the items in front of it. -/
inductive Broken (close : Punct) (item : Parser Node) (context : Context) :
    (chars : List Char) → (count : Nat) → Prop
  | here {chars : List Char} (hstuck : Stuck context.goal chars)
    (hitem : item.Fails context chars) : Broken close item context chars 0
  | behind {chars between : List Char} {node : Node} {count : Nat} {next second : Lexeme}
    (hnext : scanToken context.goal chars = .ok next) (hopen : next.token.kind ≠ .punct close)
    (hspread : next.token.kind ≠ .punct .ellipsis)
    (hitem : item.Reads context chars node between)
    (hsecond : scanToken context.goal between = .ok second)
    (hcomma : second.token.kind = .punct .comma)
    (hrest : Broken close item context second.rest count) :
    Broken close item context chars (count + 1)

/-- Such a text cannot be read. -/
theorem Broken.fails {close : Punct} {item last : Parser Node} {count : Nat}
    (h : Broken close item context chars count) (hwidth : count ≤ context.width) :
    (patternItems close item last).Fails context chars := by
  refine .loop ?_
  suffices hrounds : ∀ (fuel : Nat) (reversed : List Node), count < fuel →
      (rounds _ fuel reversed).Fails context chars from hrounds _ [] (by omega)
  clear hwidth
  induction h with
  | here hstuck hitem =>
    intro fuel reversed hfuel
    obtain ⟨fuel, rfl⟩ : ∃ n, fuel = n + 1 := ⟨fuel - 1, by omega⟩
    refine hstuck.fails fun first keyword hfirst hkind _ => .rounds ?_
    have hpunct (p : Punct) : (atPunct p).Reads context _ false _ :=
      .atPunct_of_ne hfirst (by simp [hkind])
    refine (hpunct _).bind_fails (.ite_neg Bool.false_ne_true ?_)
    exact (hpunct _).bind_fails (.ite_neg Bool.false_ne_true (.bind hitem))
  | @behind _ _ node _ _ second hnext hopen hspread hitem hsecond hcomma _ ih =>
    intro fuel reversed hfuel
    obtain ⟨fuel, rfl⟩ : ∃ n, fuel = n + 1 := ⟨fuel - 1, by omega⟩
    have hmore := ih fuel (node :: reversed) (by omega)
    -- What stands behind the comma may be no token at all.
    cases hthird : scanToken context.goal second.rest with
    | ok third =>
      refine .rounds_inl (.bind (.atPunct_of_ne hnext hopen) (.ite_neg Bool.false_ne_true ?_)) hmore
      refine .bind (.atPunct_of_ne hnext hspread) (.ite_neg Bool.false_ne_true (.bind hitem ?_))
      exact .bind (.eatPunct_of_eq hsecond hcomma hthird) (.ite_pos rfl .pure)
    | error fault =>
      refine .rounds ((Reads.atPunct_of_ne hnext hopen).bind_fails ?_)
      refine .ite_neg Bool.false_ne_true ((Reads.atPunct_of_ne hnext hspread).bind_fails ?_)
      refine .ite_neg Bool.false_ne_true (hitem.bind_fails ?_)
      exact .eatPunct_bind hsecond hcomma (.of_error hthird)

end Parser

end ModuleBundler.Script
