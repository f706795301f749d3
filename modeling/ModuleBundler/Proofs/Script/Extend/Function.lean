import ModuleBundler.Proofs.Script.Extend.Parse

/-!
# Functions in front of more text

A text that is a function and nothing else is read as the same function in front of more text: its
body ends at the same brace.

## Main definitions

* `WritesFunction` — a text is a function and nothing else.

## Main results

* `WritesFunction.reads` — the function in front of more text.
-/

namespace ModuleBundler.Script

variable {chars inside tail : List Char} {cursor second last : Cursor} {width depth : Nat}
  {context : Context} {first third : Lexeme}

/-- A function whose keyword has the given text behind it. -/
def functionText (inside : List Char) : List Char :=
  "function ".toList ++ inside

/-- The text behind the keyword is the rest of the function, which is read to its end. -/
def WritesFunction (inside : List Char) (node : Node) : Prop :=
  parseText .script (Parser.functionRule Parser.functionName).withExtent (functionText inside) =
    .ok (node, (functionText inside).length)

namespace Parser

variable {α β : Type} {parser other : Parser α}

/-! ### Sequences of parsers -/

theorem ext_run (h : ∀ context cursor, parser.run context cursor = other.run context cursor) :
    parser = other := by
  cases parser
  cases other
  congr
  funext context cursor
  exact h context cursor

instance : LawfulMonad Parser :=
  LawfulMonad.mk' Parser
    (fun parser => ext_run fun context cursor => by
      show (parser >>= fun a => pure a).run context cursor = _
      rw [run_bind]
      cases parser.run context cursor <;> rfl)
    (fun _ _ => rfl)
    (fun parser f g => ext_run fun context cursor => by
      simp only [run_bind]
      cases parser.run context cursor <;> rfl)

theorem withFlags_bind (change : Flags → Flags) (parser : Parser α) (next : α → Parser β) :
    withFlags change (parser >>= next) =
      withFlags change parser >>= fun a => withFlags change (next a) :=
  rfl

theorem withFlags_pure (change : Flags → Flags) (a : α) :
    withFlags change (pure a : Parser α) = pure a :=
  rfl

theorem bind_eq_ok_iff {next : α → Parser β} {b : β} {context : Context} {cursor last : Cursor} :
    (parser >>= next).run context cursor = .ok (b, last) ↔
      ∃ a between, parser.run context cursor = .ok (a, between) ∧
        (next a).run context between = .ok (b, last) := by
  rw [run_bind]
  cases parser.run context cursor with
  | error fault => simp
  | ok outcome =>
    obtain ⟨a, between⟩ := outcome
    refine ⟨fun h => ⟨a, between, rfl, h⟩, ?_⟩
    rintro ⟨_, _, ⟨⟩, h⟩
    exact h

/-- A punctuator that must be next is passed over, or the parser fails. -/
theorem run_expectPunct (p : Punct) (context : Context) (cursor : Cursor) :
    (expectPunct p).run context cursor =
      if cursor.token.kind = .punct p then (cursor.advance context.goal).map ((), ·)
      else .error .unexpectedToken := by
  have hpeek : (atPunct p).run context cursor = .ok (cursor.token.kind == .punct p, cursor) := rfl
  have hadvance : advance.run context cursor = (cursor.advance context.goal).map ((), ·) := rfl
  by_cases hkind : cursor.token.kind = .punct p
  · rw [hkind, beq_self_eq_true] at hpeek
    simp only [expectPunct, eatPunct, run_bind, hpeek, if_pos, hkind, hadvance]
    cases cursor.advance context.goal <;> rfl
  · rw [beq_eq_false_iff_ne.mpr hkind] at hpeek
    simp only [expectPunct, eatPunct, run_bind, hpeek, if_neg hkind]
    rfl

/-- A keyword that must be next is passed over, or the parser fails. -/
theorem run_expectKeyword (k : Keyword) (context : Context)
    (hkind : cursor.token.kind = .word (some k)) (hescaped : cursor.token.escaped = false) :
    (expectKeyword k).run context cursor = (cursor.advance context.goal).map ((), ·) := by
  have hkeyword : (atKeyword k).run context cursor =
      .ok (cursor.token.kind == .word (some k), cursor) := rfl
  have hpeek : peek.run context cursor = .ok (cursor.token, cursor) := rfl
  have hadvance : advance.run context cursor = (cursor.advance context.goal).map ((), ·) := rfl
  rw [hkind, beq_self_eq_true] at hkeyword
  simp only [expectKeyword, eatKeyword, advanceKeyword, run_bind, hkeyword, if_pos, hpeek, hescaped]
  simp only [Bool.false_eq_true, if_false, hadvance]
  cases cursor.advance context.goal <;> rfl

theorem withFlags_expectPunct (change : Flags → Flags) (p : Punct) :
    withFlags change (expectPunct p) = expectPunct p := by
  refine ext_run fun context cursor => ?_
  show (expectPunct p).run (context.withFlags change) cursor = _
  rw [run_expectPunct, run_expectPunct]
  rfl

/-! ### Functions -/

/-- What stands between the keyword of a function and the brace that closes it. -/
structure FunctionOpening where
  form : FunctionForm
  name : Node
  parameters : Node
  statements : List Node

/-- The function that a closing brace makes of its opening. -/
def FunctionOpening.tree (opening : FunctionOpening) : Node :=
  .mk (.function opening.form)
    [opening.name, opening.parameters, .mk .functionBody opening.statements]

/-- What stands between the keyword of a function and the brace that closes it. -/
def functionOpening (isAsync : Bool) : Parser FunctionOpening := do
  let isGenerator ← eatPunct (.operator .multiply)
  let form : FunctionForm := ⟨isAsync, isGenerator, false⟩
  let name ← functionName form
  let parameters ← parameters form
  let statements ← inFunction form do
    expectPunct .openBrace
    repeatUntil (atPunct .closeBrace) (statement .list)
  return ⟨form, name, parameters, statements⟩

theorem functionBody_eq (form : FunctionForm) :
    functionBody form = (do
      let statements ← inFunction form do
        expectPunct .openBrace
        repeatUntil (atPunct .closeBrace) (statement .list)
      expectPunct .closeBrace
      return .mk .functionBody statements) := by
  simp only [functionBody, inFunction, withFlags_bind, withFlags_pure, withFlags_expectPunct,
    bind_assoc]

/-- A function ends with the brace behind its opening. -/
theorem functionRule_eq :
    functionRule functionName = (do
      let isAsync ← eatKeyword .async_
      expectKeyword .function_
      let opening ← functionOpening isAsync
      expectPunct .closeBrace
      return opening.tree) := by
  simp only [functionRule, functionOpening, functionBody_eq, bind_assoc, pure_bind]
  rfl

end Parser

/-- A function is read up to the brace that closes it. -/
theorem exists_functionOpening {node : Node} (hcursor : cursor.At context.goal chars)
    (hkind : cursor.token.kind = .word (some .function_)) (hescaped : cursor.token.escaped = false)
    (h : (Parser.functionRule Parser.functionName).run context cursor = .ok (node, last)) :
    ∃ second opening target, second.At context.goal cursor.next.rest ∧
      (Parser.functionOpening false).run context second = .ok (opening, target) ∧
        target.token.kind = .punct .closeBrace ∧ last.behind = target.next.rest ∧
          node = opening.tree := by
  rw [Parser.functionRule_eq] at h
  obtain ⟨isAsync, between, hasync, h⟩ := Parser.bind_eq_ok_iff.mp h
  obtain ⟨_, second, hfunction, h⟩ := Parser.bind_eq_ok_iff.mp h
  obtain ⟨opening, target, hopening, h⟩ := Parser.bind_eq_ok_iff.mp h
  obtain ⟨_, last', hclose, h⟩ := Parser.bind_eq_ok_iff.mp h
  obtain ⟨rfl, rfl⟩ := Prod.mk.inj (Except.ok.inj h)
  have hnotAsync : (Parser.eatKeyword .async_).Reads context chars false chars :=
    .eatKeyword_of_ne hcursor.next (by rw [show cursor.next.token.kind = _ from hkind]; simp)
  obtain ⟨cursor', hcursor', hrun⟩ := hnotAsync hcursor
  obtain ⟨rfl, rfl⟩ := Prod.mk.inj (Except.ok.inj (hrun.symm.trans hasync))
  obtain rfl := hcursor.unique hcursor'
  rw [Parser.run_expectKeyword .function_ context hkind hescaped] at hfunction
  obtain ⟨between, hadvance, hpair⟩ := Except.map_eq_ok_iff.mp hfunction
  obtain ⟨-, rfl⟩ := Prod.mk.inj hpair
  obtain ⟨next, hnext, rfl⟩ := Except.map_eq_ok_iff.mp hadvance
  rw [Parser.run_expectPunct] at hclose
  split_ifs at hclose with hbrace
  obtain ⟨final, hfinal, hpair⟩ := Except.map_eq_ok_iff.mp hclose
  obtain ⟨-, rfl⟩ := Prod.mk.inj hpair
  obtain ⟨_, -, rfl⟩ := Except.map_eq_ok_iff.mp hfinal
  exact ⟨_, opening, target, ⟨hnext, rfl⟩, hopening, hbrace, rfl, rfl⟩

/-- What a parser comes to on a whole text. -/
theorem exists_run_of_parseText {α : Type} {goal : Goal} {parser : Parser α} {a : α}
    (hshebang : skipShebang chars = chars) (h : parseText goal parser chars = .ok a) :
    ∃ cursor last, cursor.At goal chars ∧
      parser.run (topContext goal chars.length) cursor = .ok (a, last) := by
  obtain ⟨cursor, hstart, h⟩ := Except.bind_eq_ok_iff.mp h
  obtain ⟨⟨a', last⟩, hrun, h⟩ := Except.bind_eq_ok_iff.mp h
  obtain rfl := Except.ok.inj h
  rw [startCursor, hshebang] at hstart
  obtain ⟨next, hnext, rfl⟩ := Except.map_eq_ok_iff.mp hstart
  exact ⟨_, last, ⟨hnext, rfl⟩, hrun⟩

theorem Parser.withExtent_eq_ok {α : Type} {parser : Parser α} {a : α} {length : Nat}
    (h : parser.withExtent.run context cursor = .ok ((a, length), last)) :
    parser.run context cursor = .ok (a, last) ∧ length = cursor.extent last := by
  obtain ⟨⟨a', last'⟩, hrun, heq⟩ := Except.map_eq_ok_iff.mp h
  obtain ⟨hpair, rfl⟩ := Prod.mk.inj heq
  obtain ⟨rfl, rfl⟩ := Prod.mk.inj hpair
  exact ⟨hrun, rfl⟩

/-- Where there is a token, there is a text. -/
theorem here_ne_nil_of_scanToken {goal : Goal} (h : scanToken goal chars = .ok first)
    (hkind : first.token.kind ≠ .endOfSource) : first.here ≠ [] := by
  obtain ⟨⟨chars, newline⟩, -, htoken⟩ := exists_skipTrivia_of_scanToken h
  intro hnil
  obtain ⟨hhere, -⟩ := tokenAt_suffix htoken
  obtain rfl : chars = [] := hhere.symm.trans hnil
  obtain rfl := Except.ok.inj htoken
  exact hkind rfl

/-- What is allowed at the top of a script. -/
def topFlags : Flags :=
  ⟨true, false, false, false⟩

section Run

variable {flags : Flags} {width' depth' : Nat} {node : Node}
  (hcursor : cursor.At .script (functionText inside))
  (hrun : (Parser.functionRule Parser.functionName).run (ruleContext .script width flags depth)
    cursor = .ok (node, last))
  (hextent : cursor.extent last = (functionText inside).length)

include hcursor hrun hextent

/-- A function that is the whole text opens behind its keyword and is closed by the last brace. -/
theorem exists_opening_of_run : ∃ second opening target, second.At .script (' ' :: inside) ∧
    (Parser.functionOpening false).run (ruleContext .script width flags depth) second =
      .ok (opening, target) ∧
    second.Reaches .script target ∧ target.token.kind = .punct .closeBrace ∧
      target.next.rest = [] ∧ node = opening.tree := by
  have hstart : scanToken .script (functionText inside) = .ok (lexeme ⟨functionText inside, false⟩
      (.word (some .function_)) (' ' :: inside) "function".toList false) := rfl
  have hfunction : cursor.next = _ := Except.ok.inj (hcursor.next.symm.trans hstart)
  obtain ⟨second, opening, target, hsecond, hopening, hbrace, hbehind, rfl⟩ :=
    exists_functionOpening hcursor (congrArg (fun next => next.token.kind) hfunction)
      (congrArg (fun next => next.token.escaped) hfunction) hrun
  rw [hfunction] at hsecond
  have hreach : second.Reaches .script target :=
    (Parser.functionOpening false).forward (Context.sound_ruleContext _ _ flags _) hopening
  refine ⟨second, opening, target, hsecond, hopening, hreach, hbrace, ?_, rfl⟩
  rw [Cursor.extent, hfunction, hbehind] at hextent
  have hlength : 0 < (functionText inside).length := Nat.zero_lt_succ _
  refine List.length_eq_zero_iff.mp ?_
  change (functionText inside).length - _ = (functionText inside).length at hextent
  omega

/-- A function that is a text of its own is a function in front of more text, up to the same
brace. -/
theorem reads_function_of_run (hclosed : EndsClosed inside)
    (hfirst : scanToken .script chars = .ok first)
    (hkind : first.token.kind = .word (some .function_)) (hescaped : first.token.escaped = false)
    (hrest : first.rest = ' ' :: inside ++ tail) (hnext : scanToken .script tail = .ok third)
    (hwidth : width ≤ width') (hdepth : depth ≤ depth') :
    (Parser.functionRule Parser.functionName).Reads (ruleContext .script width' flags depth') chars
      node tail := by
  obtain ⟨second, opening, target, hsecond, hopening, hreach, hbrace, hlast, rfl⟩ :=
    exists_opening_of_run hcursor hrun hextent
  have htarget : target.At .script target.behind :=
    hreach.at_behind (hsecond.behind ▸ hsecond) hbrace
  have hsuffix : target.next.here <:+ ' ' :: inside :=
    (hreach.suffix hsecond.aligned).trans (scanToken_suffix hsecond.next).2
  have hend : EndsClosed target.next.here :=
    (hclosed.suffix (List.suffix_cons ..)).of_suffix hsuffix
      (here_ne_nil_of_scanToken htarget.next (ne_of_eq_of_ne hbrace (by simp)))
  have hparted : Parted target.next.here tail := hend.parted
  have hsealed : target.token.kind.isSealed := congrArg TokenKind.isSealed hbrace
  have hsecond' := hreach.at_extend hsecond hsealed hparted
  have htarget' := (Cursor.Reaches.refl target).at_extend htarget hsealed hparted
  have hopening' : (Parser.functionOpening false).Reads (ruleContext .script width' flags depth')
      first.rest opening (target.behind ++ tail) := by
    rw [hrest]
    exact Parser.reads_extend hsecond hopening hbrace hparted hwidth hdepth
  have htail : (target.extend tail).next.rest = tail := by
    show target.next.rest ++ tail = tail
    rw [hlast, List.nil_append]
  have hclose : (Parser.expectPunct .closeBrace).Reads (ruleContext .script width' flags depth')
      (target.behind ++ tail) () tail := by
    have hread : (Parser.expectPunct .closeBrace).Reads (ruleContext .script width' flags depth')
        (target.behind ++ tail) () (target.extend tail).next.rest :=
      .expectPunct htarget'.next hbrace (by rw [htail]; exact hnext)
    rwa [htail] at hread
  rw [Parser.functionRule_eq]
  refine .bind (.eatKeyword_of_ne hfirst (by simp [hkind])) ?_
  refine .bind (.expectKeyword hfirst hkind hescaped (by rw [hrest]; exact hsecond'.next)) ?_
  exact .bind hopening' (.bind hclose .pure)

end Run

/-- **A function that is a text of its own is a function in front of more text**, up to the same
brace. -/
theorem WritesFunction.reads {node : Node} (h : WritesFunction inside node)
    (hclosed : EndsClosed inside) (hfirst : scanToken .script chars = .ok first)
    (hkind : first.token.kind = .word (some .function_)) (hescaped : first.token.escaped = false)
    (hrest : first.rest = ' ' :: inside ++ tail) (hnext : scanToken .script tail = .ok third)
    (hwidth : (functionText inside).length ≤ width)
    (hdepth : 8 * ((functionText inside).length + 2) ≤ depth) :
    (Parser.functionRule Parser.functionName).Reads (ruleContext .script width topFlags depth) chars
      node tail := by
  obtain ⟨cursor, last, hcursor, hrun⟩ := exists_run_of_parseText rfl h
  obtain ⟨hrun, hextent⟩ := Parser.withExtent_eq_ok hrun
  exact reads_function_of_run hcursor hrun hextent.symm hclosed hfirst hkind hescaped hrest hnext
    hwidth hdepth

end ModuleBundler.Script
