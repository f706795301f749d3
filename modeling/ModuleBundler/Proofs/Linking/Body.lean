import ModuleBundler.Proofs.Linking.InsertedStatements
import ModuleBundler.Proofs.Script.Blanks
import ModuleBundler.Proofs.Script.Extend.Function

/-!
# Bodies of factories piece by piece

The body of a factory is read statement by statement. If each of them is read where a condition
holds, and cannot be read where it does not, the factory is a script if and only if the condition
holds, and its body consists of these statements. So what a factory is can be said piece by piece,
from the brace that closes it on.

## Main definitions

* `Parser.Interrupted`, `Parser.RepeatsIf` — lists in which an item cannot be read, and lists that
  are read if a condition holds.
* `Fresh` — texts that go on with no statement.
* `firstKind?` — the kind of the first token of a text.
* `StandsIf` — texts that are one statement wherever they stand.
* `BodyIf` — the rest of a body, up to the brace that closes it.

## Main results

* `BodyIf.parseScript`, `BodyIf.writesFunction` — a body that is read makes a script, and a function.
* `BodyIf.of_parseScript` — a script has a body that is read.
-/

namespace ModuleBundler.Script.Parser

variable {α : Type} {goal : Goal} {width depth : Nat} {flags : Flags} {context : Context}
  {chars between rest : List Char} {node : Node} {nodes : List Node} {parser : Parser α}
  {stop : Parser Bool} {item : Parser Node} {first second third next : Lexeme}
  {condition condition' : Prop}

/-! ### Lists that are read under a condition -/

/-- A list without commas has an item that cannot be read. -/
inductive Interrupted (stop : Parser Bool) (item : Parser Node) (context : Context) :
    (chars : List Char) → Prop
  | here {chars : List Char} (hstop : stop.Reads context chars false chars)
    (h : item.Fails context chars) : Interrupted stop item context chars
  | behind {chars between : List Char} {node : Node}
    (hstop : stop.Reads context chars false chars) (hitem : item.Reads context chars node between)
    (hrest : Interrupted stop item context between) : Interrupted stop item context chars

/-- Such a list cannot be read. -/
theorem Interrupted.fails (h : Interrupted stop item context chars) :
    (repeatUntil stop item).Fails context chars := by
  refine .loop ?_
  suffices hrounds : ∀ (fuel : Nat) (reversed : List Node),
      (rounds _ fuel reversed).Fails context chars from hrounds _ []
  induction h with
  | here hstop hitem =>
    intro fuel reversed
    cases fuel with
    | zero => exact fun _ _ => ⟨_, rfl⟩
    | succ fuel => exact .rounds (hstop.bind_fails (.ite_neg Bool.false_ne_true (.bind hitem)))
  | behind hstop hitem _ ih =>
    intro fuel reversed
    cases fuel with
    | zero => exact fun _ _ => ⟨_, rfl⟩
    | succ fuel =>
      exact .rounds_inl (.bind hstop (.ite_neg Bool.false_ne_true (.bind hitem .pure)))
        (ih fuel _)

/-- The text up to the rest writes nodes one behind the other if the condition holds; otherwise one
of them cannot be read. -/
def RepeatsIf (condition : Prop) (stop : Parser Bool) (item : Parser Node) (context : Context)
    (chars : List Char) (nodes : List Node) (rest : List Char) : Prop :=
  (condition → Repeated stop item context chars nodes rest) ∧
    (¬condition → Interrupted stop item context chars)

theorem RepeatsIf.done (h : stop.Reads context chars true chars) :
    RepeatsIf True stop item context chars [] chars :=
  ⟨fun _ => .done h, fun hfalse => absurd trivial hfalse⟩

theorem RepeatsIf.more (hstop : stop.Reads context chars false chars)
    (hitem : item.ReadsIf condition context chars node between)
    (hrest : RepeatsIf condition' stop item context between nodes rest) :
    RepeatsIf (condition ∧ condition') stop item context chars (node :: nodes) rest := by
  refine ⟨fun hc => .more hstop (hitem.1 hc.1) (hrest.1 hc.2), fun hc => ?_⟩
  by_cases hfirst : condition
  · exact .behind hstop (hitem.1 hfirst) (hrest.2 fun hsecond => hc ⟨hfirst, hsecond⟩)
  · exact .here hstop (hitem.2 hfirst)

/-! ### Functions and expressions that cannot be read -/

/-- The statements of a body, with the brace in front of them. -/
def bodyStatements : Parser (List Node) := do
  expectPunct .openBrace
  repeatUntil (atPunct .closeBrace) (statement .list)

theorem functionBody_eq_bind (form : FunctionForm) :
    functionBody form = inFunction form (bodyStatements >>= fun statements => do
      expectPunct .closeBrace
      return .mk .functionBody statements) := by
  simp only [functionBody, bodyStatements, bind_assoc]

namespace Fails

theorem withFlags {change : Flags → Flags}
    (h : parser.Fails (context.withFlags change) chars) :
    (Parser.withFlags change parser).Fails context chars :=
  h

theorem call {rule : Rule} (h : (grammar rule).Fails (ruleContext goal width flags depth) chars) :
    (Parser.call rule).Fails (ruleContext goal width flags (depth + 1)) chars :=
  h

/-- Where an operand cannot be read, no expression can that starts with it. -/
theorem assignmentRule_of_primary (h : scanToken goal chars = .ok first)
    (hstart : first.token.kind.startsOperand)
    (harrow : (atNamedArrow false).Reads (ruleContext goal width flags (depth + 3)) chars false
      chars)
    (hprimary : primary.Fails (ruleContext goal width flags depth) chars) :
    Parser.assignmentRule.Fails (ruleContext goal width flags (depth + 3)) chars := by
  obtain ⟨hoperator, hincrement, hdecrement, hprivate, hawait, hyield, hasync⟩ :=
    TokenKind.startsOperand_spec hstart
  have hoperand : (operandRule .all).Fails (ruleContext goal width flags depth) chars := by
    refine (Reads.peek h).bind_fails ?_
    split
    · next hkind => rw [hkind] at hstart; contradiction
    · next hkind => rw [hkind] at hstart; contradiction
    · next hkind => rw [hkind] at hstart; contradiction
    · exact .bind hprimary
  have hunary : unaryRule.Fails (ruleContext goal width flags (depth + 1)) chars := by
    refine (Reads.peek h).bind_fails (Reads.flags.bind_fails ?_)
    rw [hoperator]
    exact .ite_neg (by simp [hincrement, hdecrement]) (.ite_neg (by simp [hawait])
      (.bind (.call hoperand)))
  have hoperators : (operatorsRule 0).Fails (ruleContext goal width flags (depth + 2)) chars :=
    (Reads.peek h).bind_fails (.ite_neg (by simpa using hprivate) (.bind (.call hunary)))
  have hnotAsync : (first.token.kind == .word (some .async_) && !first.token.escaped) = false := by
    simp [hasync]
  have hasyncArrow : (atNamedArrow true).Reads (ruleContext goal width flags (depth + 3)) chars
      false chars := by
    refine .bind (.peek h) ?_
    rw [hnotAsync]
    exact .pure
  refine (Reads.peek h).bind_fails (Reads.flags.bind_fails ?_)
  refine (Reads.atKeyword_of_ne h hyield).bind_fails (.ite_neg (by simp) ?_)
  refine harrow.bind_fails (.ite_neg Bool.false_ne_true ?_)
  exact hasyncArrow.bind_fails (.ite_neg Bool.false_ne_true (.bind (.call hoperators)))

/-- A function whose body has no end. -/
theorem functionRule {parameters : Node} {afterParameters : List Char}
    (h : scanToken goal chars = .ok first) (hfunction : first.token.kind = .word (some .function_))
    (hescaped : first.token.escaped = false) (hsecond : scanToken goal first.rest = .ok second)
    (hopen : second.token.kind = .punct .openParen)
    (hparameters : (Parser.parameters plainForm).Reads (ruleContext goal width flags depth)
      first.rest parameters afterParameters)
    (hinside : bodyStatements.Fails (ruleContext goal width Reads.bodyFlags depth)
      afterParameters) :
    (Parser.functionRule functionName).Fails (ruleContext goal width flags depth) chars := by
  have hfunctionBody : (functionBody plainForm).Fails (ruleContext goal width flags depth)
      afterParameters := by
    rw [functionBody_eq_bind]
    exact .withFlags (.bind hinside)
  refine (Reads.eatKeyword_of_ne h (by simp [hfunction])).bind_fails ?_
  refine (Reads.expectKeyword h hfunction hescaped hsecond).bind_fails ?_
  refine (Reads.eatPunct_of_ne hsecond (by simp [hopen])).bind_fails ?_
  have hname : (functionName plainForm).Reads (ruleContext goal width flags depth) first.rest
      .absent first.rest := .bind (.atPunct_of_eq hsecond hopen) (.ite_pos rfl .pure)
  exact hname.bind_fails (hparameters.bind_fails (.bind hfunctionBody))

/-- An expression in parentheses that cannot be read. -/
theorem parenthesized (h : scanToken goal chars = .ok first)
    (hopen : first.token.kind = .punct .openParen)
    (hsecond : scanToken goal first.rest = .ok second)
    (hfirst : second.token.kind ≠ .punct .closeParen ∧ second.token.kind ≠ .punct .ellipsis)
    (hitem : Parser.assignment.Fails
      (ruleContext goal width { flags with allowIn := true } depth) first.rest) :
    primary.Fails (ruleContext goal width flags depth) chars := by
  have hpart : parenthesizedItem.Fails (ruleContext goal width flags depth) first.rest :=
    (Reads.atPunct_of_ne hsecond hfirst.2).bind_fails
      (.ite_neg Bool.false_ne_true (.withFlags hitem))
  have hlist : (commaSeparated .closeParen parenthesizedItem).Fails
      (ruleContext goal width flags depth) first.rest :=
    .loop (.rounds ((Reads.atPunct_of_ne hsecond hfirst.1).bind_fails
      (.ite_neg Bool.false_ne_true (.bind hpart))))
  refine (Reads.peek h).bind_fails ?_
  rw [hopen]
  show Parser.parenthesized.Fails _ _
  exact (Reads.expectPunct h hopen hsecond).bind_fails (.bind hlist)

end Fails

end ModuleBundler.Script.Parser

namespace ModuleBundler.Linking

open Script Text

variable {after code chars lead gap text tail : List Char} {node : Node} {nodes : List Node}
  {width depth : Nat} {flags : Flags} {first next : Lexeme} {condition condition' : Prop}
  {follow : List Char → Prop}

/-! ### Factories that cannot be read -/

section Fails

variable (hinside : Parser.bodyStatements.Fails
    (ruleContext .script width Parser.Reads.bodyFlags (depth + 1)) (" \x7b".toList ++ tail))
  (hwidth : 3 ≤ width)

include hinside hwidth

/-- A function whose statements cannot be read is no expression. -/
theorem fails_function : Parser.assignment.Fails
    (ruleContext .script width flags (depth + 5))
    ("function (require, module, exports) \x7b".toList ++ tail) := by
  have hfunction := scanToken_function tail
  have hopen : scanToken .script (" (require, module, exports) \x7b".toList ++ tail) =
      .ok (lexeme ⟨"(require, module, exports) \x7b".toList ++ tail, false⟩ (.punct .openParen)
        ("require, module, exports) \x7b".toList ++ tail) [] false) := rfl
  have hopenBody : scanToken .script (" \x7b".toList ++ tail) =
      .ok (lexeme ⟨"\x7b".toList ++ tail, false⟩ (.punct .openBrace) tail [] false) := rfl
  have hrule : (Parser.functionRule Parser.functionName).Fails
      (ruleContext .script width flags (depth + 1))
      ("function (require, module, exports) \x7b".toList ++ tail) :=
    .functionRule hfunction rfl rfl hopen rfl
      (.parameters hopen rfl (fun _ => separated_parameters) hwidth (scanToken_closeParameters tail)
        rfl hopenBody) hinside
  have hprimary : Parser.primary.Fails (ruleContext .script width flags (depth + 1))
      ("function (require, module, exports) \x7b".toList ++ tail) := by
    refine (Parser.Reads.peek hfunction).bind_fails ?_
    exact hrule
  exact .call (.assignmentRule_of_primary hfunction rfl
    (.atNamedArrow_false hfunction (.atIdentifier_of_reserved hfunction rfl rfl)) hprimary)

/-- The function in parentheses is no statement. -/
theorem fails_factory : (Parser.statement .list).Fails
    (ruleContext .script width flags (depth + 10))
    ("(function (require, module, exports) \x7b".toList ++ tail) := by
  have hopen : scanToken .script ("(function (require, module, exports) \x7b".toList ++ tail) =
      .ok (lexeme ⟨"(function (require, module, exports) \x7b".toList ++ tail, false⟩
        (.punct .openParen) ("function (require, module, exports) \x7b".toList ++ tail) [] false) :=
    rfl
  have hgrouped (flags : Flags) : Parser.primary.Fails (ruleContext .script width flags (depth + 5))
      ("(function (require, module, exports) \x7b".toList ++ tail) :=
    .parenthesized hopen rfl (scanToken_function tail) ⟨nofun, nofun⟩
      (fails_function hinside hwidth)
  have hexpression (flags : Flags) : Parser.assignment.Fails
      (ruleContext .script width flags (depth + 9))
      ("(function (require, module, exports) \x7b".toList ++ tail) :=
    .call (.assignmentRule_of_primary hopen rfl
      (.atNamedArrow_false hopen (.atIdentifier_of_not_word hopen nofun)) (hgrouped flags))
  exact .call ((Parser.Reads.peek hopen).bind_fails (.bind (.withFlags (.bind (hexpression _)))))

end Fails

/-- If the code cannot be read as statements inside of a function, the function around it is no
script. -/
theorem not_parseScript_factory {nodes : List Node}
    (hdepth : 8 * ((factory code).length + 2) = depth + 10)
    (hinside : Parser.bodyStatements.Fails
      (ruleContext .script (factory code).length Parser.Reads.bodyFlags (depth + 1))
      (" \x7b".toList ++ ('\n' :: code ++ factoryTail))) :
    parseScript (factory code) ≠ .ok nodes := by
  have htext : factory code =
      "(function (require, module, exports) \x7b".toList ++ ('\n' :: code ++ factoryTail) := rfl
  have hopen : scanToken .script (factory code) = .ok (lexeme ⟨factory code, false⟩
      (.punct .openParen) ("function (require, module, exports) \x7b".toList ++
        ('\n' :: code ++ factoryTail)) [] false) := rfl
  have hlength : 3 ≤ (factory code).length := by
    rw [htext, List.length_append]
    exact Nat.le_add_right_of_le (by decide)
  have hstatement : (Parser.statement .list).Fails (topContext .script (factory code).length)
      (factory code) := by
    rw [topContext, hdepth]
    exact fails_factory hinside hlength
  have hprogram : (Parser.repeatUntil Parser.atEnd (Parser.statement .list)).Fails
      (topContext .script (factory code).length) (factory code) :=
    .loop (.rounds (Parser.Reads.bind_fails (.bind (.peek hopen) .pure)
      (.ite_neg Bool.false_ne_true (.bind hstatement))))
  intro hparse
  obtain ⟨trees, htrees, -⟩ := Except.bind_eq_ok_iff.mp hparse
  obtain ⟨cursor, last, hcursor, hrun⟩ := exists_run_of_parseText rfl htrees
  obtain ⟨fault, hfault⟩ := hprogram hcursor
  cases hrun.symm.trans hfault

/-- The brace in front of a body. -/
theorem scanToken_openBody (tail : List Char) : scanToken .script (" \x7b".toList ++ tail) =
    .ok (lexeme ⟨"\x7b".toList ++ tail, false⟩ (.punct .openBrace) tail [] false) :=
  rfl

/-- Code that does not start with a token is no body of a factory. -/
theorem not_parseScript_factory_of_error {nodes : List Node} {fault : Fault}
    (h : scanToken .script ('\n' :: code ++ factoryTail) = .error fault) :
    parseScript (factory code) ≠ .ok nodes := by
  obtain ⟨depth, hdepth⟩ : ∃ depth, 8 * ((factory code).length + 2) = depth + 10 :=
    ⟨8 * (factory code).length + 6, by omega⟩
  exact not_parseScript_factory hdepth
    (.bind (.eatPunct_bind (scanToken_openBody _) rfl (.of_error h)))

/-! ### The rest of a body -/

/-- The kind of the first token of a text. -/
def firstKind? (chars : List Char) : Option TokenKind :=
  (scanToken .script chars).toOption.map fun next => next.token.kind

theorem firstKind?_eq_some {kind : TokenKind} : firstKind? chars = some kind ↔
    ∃ next, scanToken .script chars = .ok next ∧ next.token.kind = kind := by
  simp only [firstKind?, Option.map_eq_some_iff, Except.toOption_eq_some_iff]

/-- Can a statement start with a token of the kind, and not only go on with it? -/
def opensStatement : TokenKind → Bool
  | .word (some .else_) | .word (some .catch_) | .word (some .finally_) => false
  | .punct .closeBrace | .endOfSource => false
  | _ => true

/-- The text starts with a token, and not with a word that goes on with a statement. -/
def Fresh (chars : List Char) : Prop :=
  ∃ next, scanToken .script chars = .ok next ∧ next.token.kind ≠ .word (some .else_) ∧
    next.token.kind ≠ .word (some .catch_) ∧ next.token.kind ≠ .word (some .finally_)

theorem fresh_of_opensStatement (h : scanToken .script chars = .ok next)
    (hopens : opensStatement next.token.kind) : Fresh chars := by
  refine ⟨next, h, ?_, ?_, ?_⟩
  all_goals
    intro hkind
    rw [hkind] at hopens
    contradiction

/-- Wherever the text stands in a body with a text of the kind behind it, it starts with the token
that it starts with alone, and is a statement if the condition holds, which ends with its last
character; otherwise it cannot be read. Width and depth are at least what a text of its length is
read with. -/
structure StandsIf (follow : List Char → Prop) (condition : Prop) (text : List Char)
    (node : Node) : Prop where
  opens : (firstKind? text).any opensStatement
  starts {lead tail : List Char} (hlead : Blank lead) (htail : follow tail) :
    firstKind? (lead ++ (text ++ tail)) = firstKind? text
  reads {lead tail : List Char} {width depth : Nat} (hlead : Blank lead) (htail : follow tail)
    (hwidth : text.length + 2 ≤ width) (hdepth : 8 * (text.length + 2) ≤ depth) :
    (Parser.statement .list).ReadsIf condition (bodyContext width depth) (lead ++ (text ++ tail))
      node tail

namespace StandsIf

variable (h : StandsIf follow condition text node)

include h

theorem ne_nil : text ≠ [] := by
  rintro rfl
  exact Bool.false_ne_true h.opens

/-- A statement starts wherever the text stands. -/
theorem exists_first (hlead : Blank lead) (htail : follow tail) :
    ∃ first, scanToken .script (lead ++ (text ++ tail)) = .ok first ∧
      opensStatement first.token.kind := by
  have hopens := h.opens
  rw [← h.starts hlead htail, Option.any_eq_true] at hopens
  obtain ⟨kind, hkind, hopens⟩ := hopens
  obtain ⟨first, hfirst, rfl⟩ := firstKind?_eq_some.mp hkind
  exact ⟨first, hfirst, hopens⟩

end StandsIf

/-- A text that starts everywhere with a token of a kind that a statement can start with. -/
theorem standsIf_of_kind (kind : TokenKind) (hopens : opensStatement kind)
    (hstarts : ∀ {lead : List Char} (tail : List Char), Blank lead →
      firstKind? (lead ++ (text ++ tail)) = some kind)
    (hreads : ∀ {lead tail : List Char} {width depth : Nat}, Blank lead → follow tail →
      text.length + 2 ≤ width → 8 * (text.length + 2) ≤ depth →
        (Parser.statement .list).ReadsIf condition (bodyContext width depth)
          (lead ++ (text ++ tail)) node tail) : StandsIf follow condition text node := by
  have hown : firstKind? text = some kind := by
    have hnil := hstarts [] blank_nil
    rwa [List.nil_append, List.append_nil] at hnil
  refine ⟨?_, fun {_} _ hlead _ => ?_, hreads⟩
  · rw [hown]
    exact hopens
  · rw [hown]
    exact hstarts _ hlead

/-- The text is the rest of a function up to the brace in front of the given text, with these
statements in the rest of its body, if the condition holds; otherwise one of them cannot be read. -/
structure BodyIf (after : List Char) (condition : Prop) (chars : List Char) (nodes : List Node) :
    Prop where
  length_le : nodes.length + 2 ≤ chars.length
  fresh {lead : List Char} (hlead : Blank lead) : Fresh (lead ++ chars)
  repeats {lead : List Char} {width depth : Nat} (hlead : Blank lead)
    (hwidth : chars.length ≤ width) (hdepth : 8 * chars.length ≤ depth) :
    ∃ last, ClosesBody after last ∧
      Parser.RepeatsIf condition (Parser.atPunct .closeBrace) (Parser.statement .list)
        (bodyContext width depth) (lead ++ chars) nodes last

theorem closesBody_factoryTail : ClosesBody factoryEnd factoryTail :=
  ⟨_, rfl, rfl, rfl⟩

/-- The brace on the next line closes the body behind blanks too. -/
theorem ClosesBody.append (h : ClosesBody after ('\n' :: tail)) (hlead : Blank lead)
    (hgap : EndsBlank gap) : ClosesBody after (lead ++ (gap ++ '\n' :: tail)) := by
  obtain ⟨newline, hskip⟩ := hlead false
  have hscan : scanToken .script (lead ++ (gap ++ '\n' :: tail)) =
      scanToken .script ('\n' :: tail) := by
    rw [scanToken, hskip, hgap]
    rfl
  obtain ⟨next, hnext, hkind, hrest⟩ := h
  exact ⟨next, hscan.trans hnext, hkind, hrest⟩

theorem ClosesBody.ne_nil (h : ClosesBody after ('\n' :: tail)) : tail ≠ [] := by
  rintro rfl
  obtain ⟨next, hnext, hkind, -⟩ := h
  obtain rfl := Except.ok.inj hnext
  contradiction

namespace BodyIf

/-- Behind the last statement, there may be blanks. -/
theorem last (hclose : ClosesBody after ('\n' :: tail)) (hgap : EndsBlank gap) :
    BodyIf after True (gap ++ '\n' :: tail) [] where
  length_le := by
    have hlength := List.length_pos_of_ne_nil hclose.ne_nil
    rw [List.length_append, List.length_cons, List.length_nil]
    omega
  fresh hlead := by
    obtain ⟨next, hnext, hkind, -⟩ := hclose.append hlead hgap
    exact ⟨next, hnext, by simp [hkind]⟩
  repeats {lead _ _} hlead _ _ := by
    obtain ⟨next, hnext, hkind, hrest⟩ := hclose.append hlead hgap
    exact ⟨_, ⟨next, hnext, hkind, hrest⟩, .done (.atPunct_of_eq hnext hkind)⟩

theorem last_factory (hgap : EndsBlank gap) : BodyIf factoryEnd True (gap ++ factoryTail) [] :=
  .last closesBody_factoryTail hgap

/-- In front of each statement, there may be blanks. -/
theorem blank (h : BodyIf after condition chars nodes) (hgap : Blank gap) :
    BodyIf after condition (gap ++ chars) nodes where
  length_le := by
    rw [List.length_append]
    exact Nat.le_add_left_of_le h.length_le
  fresh hlead := by
    rw [← List.append_assoc]
    exact h.fresh (hlead.append hgap)
  repeats hlead hwidth hdepth := by
    rw [List.length_append] at hwidth hdepth
    rw [← List.append_assoc]
    exact h.repeats (hlead.append hgap) (by omega) (by omega)

/-- A statement in front of the rest of a body. -/
theorem statement (hstands : StandsIf follow condition text node) (hfollow : follow chars)
    (h : BodyIf after condition' chars nodes) :
    BodyIf after (condition ∧ condition') (text ++ chars) (node :: nodes) where
  length_le := by
    have htext := List.length_pos_of_ne_nil hstands.ne_nil
    have hrest := h.length_le
    rw [List.length_append, List.length_cons]
    omega
  fresh hlead := by
    obtain ⟨first, hfirst, hopens⟩ := hstands.exists_first hlead hfollow
    exact fresh_of_opensStatement hfirst hopens
  repeats {_ _ depth} hlead hwidth hdepth := by
    have hchars := h.length_le
    rw [List.length_append] at hwidth hdepth
    have hless : 8 * chars.length ≤ depth := by omega
    obtain ⟨last, hlast, hrest⟩ := h.repeats blank_nil (Nat.le_of_add_left_le hwidth) hless
    obtain ⟨first, hfirst, hopens⟩ := hstands.exists_first hlead hfollow
    have hclose : first.token.kind ≠ .punct .closeBrace := by
      intro hkind
      rw [hkind] at hopens
      contradiction
    refine ⟨last, hlast, .more (.atPunct_of_ne hfirst hclose) ?_ hrest⟩
    exact hstands.reads hlead hfollow (by omega) (by omega)

/-! ### The whole body -/

section Whole

variable (h : BodyIf factoryEnd condition (code ++ factoryTail) nodes)

include h

/-- The body of a factory starts behind the line of its head. -/
theorem exists_repeats : ∃ depth first last, 8 * ((factory code).length + 2) = depth + 10 ∧
    scanToken .script ('\n' :: code ++ factoryTail) = .ok first ∧
      ClosesBody factoryEnd last ∧ nodes.length ≤ (factory code).length ∧
        Parser.RepeatsIf condition (Parser.atPunct .closeBrace) (Parser.statement .list)
          (bodyContext (factory code).length (depth + 1)) ('\n' :: code ++ factoryTail)
            nodes last := by
  have hlength : (code ++ factoryTail).length ≤ (factory code).length := by
    have htext : factory code = factoryHead ++ (code ++ factoryTail) := List.append_assoc ..
    rw [htext]
    exact (List.suffix_append factoryHead (code ++ factoryTail)).length_le
  have hcount := h.length_le
  obtain ⟨depth, hdepth⟩ : ∃ depth, 8 * ((factory code).length + 2) = depth + 10 :=
    ⟨8 * (factory code).length + 6, by omega⟩
  have hdeep : 8 * (code ++ factoryTail).length ≤ depth + 1 := by omega
  obtain ⟨first, hfirst, -⟩ := h.fresh blank_lineBreak
  obtain ⟨last, hlast, hrepeats⟩ := h.repeats blank_lineBreak hlength hdeep
  exact ⟨depth, first, last, hdepth, hfirst, hlast, by omega, hrepeats⟩

/-- **A body that is read makes a script.** -/
theorem parseScript (hc : condition) (hsettled : Node.anyUnsettled nodes = false) :
    parseScript (factory code) = .ok [factoryTree nodes] := by
  obtain ⟨depth, first, last, hdepth, hfirst, hlast, hcount, hrepeats⟩ := h.exists_repeats
  exact parseScript_factory hdepth hfirst (hrepeats.1 hc) hlast hcount hsettled

/-- **A script has a body that is read.** -/
theorem of_parseScript {trees : List Node}
    (hparse : Script.parseScript (factory code) = .ok trees) :
    condition ∧ trees = [factoryTree nodes] ∧ Node.anyUnsettled nodes = false := by
  obtain ⟨depth, first, last, hdepth, hfirst, hlast, hcount, hrepeats⟩ := h.exists_repeats
  have hc : condition := Classical.byContradiction fun hc => by
    have hbrace : (Parser.expectPunct .openBrace).Reads (bodyContext (factory code).length
        (depth + 1)) (" \x7b".toList ++ ('\n' :: code ++ factoryTail)) () _ :=
      .expectPunct (scanToken_openBody _) rfl hfirst
    exact not_parseScript_factory hdepth (hbrace.bind_fails (hrepeats.2 hc).fails) hparse
  have htext := parseText_factory hdepth hfirst (hrepeats.1 hc) hlast hcount
  rw [Script.parseScript, htext] at hparse
  have hsettled : Node.anyUnsettled nodes = false := by
    rw [← anyUnsettled_factoryTree]
    by_contra hunsettled
    rw [Bool.not_eq_false] at hunsettled
    have hfail : (if Node.anyUnsettled [factoryTree nodes] = true then
        Except.error Fault.misplacedInitializer else .ok [factoryTree nodes]) = .ok trees := hparse
    rw [if_pos hunsettled] at hfail
    contradiction
  have hok := parseScript_factory hdepth hfirst (hrepeats.1 hc) hlast hcount hsettled
  rw [Script.parseScript, htext] at hok
  exact ⟨hc, Except.ok.inj (hparse.symm.trans hok), hsettled⟩

end Whole

/-- **A body that is read makes a function**, which is read to its end. -/
theorem writesFunction {chars : List Char} (h : BodyIf [] condition chars nodes) (hc : condition) :
    WritesFunction ("(require, module, exports) \x7b\n".toList ++ chars) (functionTree nodes) := by
  set inside := "(require, module, exports) \x7b\n".toList ++ chars
  have htext : functionText inside =
      "function (require, module, exports) \x7b".toList ++ ('\n' :: chars) := rfl
  have hlength : chars.length + 3 ≤ (functionText inside).length := by
    rw [htext, List.length_append, List.length_cons]
    have hhead : 3 ≤ "function (require, module, exports) \x7b".toList.length := by decide
    omega
  have hcount := h.length_le
  obtain ⟨first, hfirst, -⟩ := h.fresh blank_lineBreak
  obtain ⟨depth, hdepth⟩ : ∃ depth, 8 * ((functionText inside).length + 2) = depth + 1 :=
    ⟨8 * (functionText inside).length + 15, by omega⟩
  have hwide : chars.length ≤ (functionText inside).length := by omega
  have hdeep : 8 * chars.length ≤ depth + 1 := by omega
  obtain ⟨last, hlast, hrepeats⟩ := h.repeats blank_lineBreak hwide hdeep
  have hfunction : (Parser.functionRule Parser.functionName).Reads
      (topContext .script (functionText inside).length) (functionText inside)
        (functionTree nodes) [] := by
    rw [topContext, hdepth]
    exact reads_function hfirst (hrepeats.1 hc) (by omega) (by omega) hlast rfl
  have hstart := scanToken_function ('\n' :: chars)
  exact parseText_of_reads rfl hstart (hfunction.withExtent hstart)

end BodyIf

end ModuleBundler.Linking
