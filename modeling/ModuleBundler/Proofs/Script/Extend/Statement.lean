import ModuleBundler.Proofs.Script.Extend.Expression
import ModuleBundler.Proofs.Script.Postcondition

/-!
# Statements in front of a seam

A statement at the end of a text is the same statement in front of more text, if what is behind it
cannot go on with it. A statement that ends with a semicolon takes the one at the seam, if there is
one; a statement that ends with a brace leaves it. Both kinds are told apart by the tree of the
statement: a loop and a choice end as their last statement does.

## Main definitions

* `Node.ending` — how a statement ends.
* `Seam.AllContexts` — contexts in which all rules come to the same at a seam.
* `Seam.Concludes` — parsers of statements that come to the same at a seam.

## Main results

* `Seam.allContexts_ruleContext` — the contexts of the grammar are such contexts.
-/

namespace ModuleBundler.Script

open ModuleBundler.Script.Parser

/-! ### The ends of statements -/

/-- How a statement ends. -/
inductive Ending where
  /-- With a semicolon that may be left out. -/
  | semicolon
  /-- With a brace, or with a semicolon that is all of the statement. -/
  | brace
  | other
  deriving DecidableEq

/-- How the statement ends, by its tree. -/
def Node.ending : Node → Ending
  | mk .expressionStatement _ | mk (.variableList _) _ | mk .debuggerStatement _ => .semicolon
  | mk .returnStatement _ | mk .throwStatement _ => .semicolon
  | mk .breakStatement _ | mk .continueStatement _ | mk .doWhileStatement _ => .semicolon
  | mk .block _ | mk .switchStatement _ | mk .tryStatement _ | mk .emptyStatement _ => .brace
  | mk (.function _) _ | mk .classDefinition _ => .brace
  | mk .whileStatement [_, body] | mk .withStatement [_, body] => body.ending
  | mk .labeledStatement [_, body] => body.ending
  | mk .forStatement [_, _, _, body] => body.ending
  | mk .forInStatement [_, _, body] | mk (.forOfStatement _) [_, _, body] => body.ending
  | mk .ifStatement [_, whenTrue, mk .absent _] => whenTrue.ending
  | mk .ifStatement [_, whenTrue, whenFalse] =>
    if whenTrue.ending = .other then .other else whenFalse.ending
  | _ => .other

/-- A choice with two alternatives ends as the second one. -/
theorem Node.ending_ifStatement {condition whenTrue whenFalse : Node}
    (h : whenFalse.kind ≠ .absent) :
    (mk .ifStatement [condition, whenTrue, whenFalse]).ending =
      if whenTrue.ending = .other then .other else whenFalse.ending := by
  obtain ⟨kind, children⟩ := whenFalse
  cases kind with
  | absent => exact absurd rfl h
  | _ => rfl

theorem Node.kind_ne_absent_of_ending {node : Node} (h : node.ending ≠ .other) :
    node.kind ≠ .absent := by
  obtain ⟨kind, children⟩ := node
  rintro rfl
  exact h rfl

namespace Seam

variable {α : Type} (seam : Seam) {context context' : Context} {c c' d d' : Cursor}

/-- The cursor in the longer text behind a statement: at the end of the text, it is the one behind
the semicolon at the seam if the statement takes it. -/
def behind : Ending → Cursor
  | .brace => seam.stop
  | _ => seam.final

/-- The cursor in the longer text for the one behind a statement of the shorter text. -/
def Past (ending : Ending) (c d : Cursor) : Prop :=
  (c.Live seam.goal ∧ d = c.extend seam.tail) ∨ (c = .finish ∧ d = seam.behind ending)

variable {seam} in
theorem Past.eq_extend {ending : Ending} (h : seam.Past ending c d) (hc : c.Live seam.goal) :
    d = c.extend seam.tail := by
  obtain ⟨-, rfl⟩ | ⟨rfl, -⟩ := h
  · rfl
  · exact absurd rfl hc.ne_endOfSource

variable {seam} in
theorem Past.eq_behind {ending : Ending} (h : seam.Past ending .finish d) :
    d = seam.behind ending := by
  obtain ⟨hlive, -⟩ | ⟨-, rfl⟩ := h
  · exact absurd rfl hlive.ne_endOfSource
  · rfl

variable {seam} in
/-- There is no other alternative behind a statement that ends in front of a seam. -/
theorem Past.kind_ne_else {ending : Ending} (h : seam.Past ending c d)
    (hc : c.token.kind ≠ .word (some .else_)) : d.token.kind ≠ .word (some .else_) := by
  obtain ⟨-, rfl⟩ | ⟨rfl, rfl⟩ := h
  · exact hc
  · cases ending with
    | brace => exact seam.ends.ne_of_goesOn rfl
    | _ => exact seam.not_else

/-- From the cursor on, the second outcome is the first statement in the longer text, if the end of
the text can be reached from there and the end of the statement is known. -/
def Settles (c : Cursor) (first second : Outcome Node) : Prop :=
  ∀ node c', first = .ok (node, c') → c'.Finishes seam.goal →
    node.kind ≠ .absent ∧ (node.ending ≠ .other →
      c.Finishes seam.goal ∧ ∃ d', second = .ok (node, d') ∧ seam.Past node.ending c' d')

/-- Two contexts for the two texts: what all rules come to is the same in the longer one. -/
structure AllContexts (context context' : Context) : Prop
    extends seam.Contexts context context' where
  statements : ∀ {place : Place} {flags : Flags} {c : Cursor}, c.Live seam.goal →
    seam.Settles c (context.rules (.statement place) flags c)
      (context'.rules (.statement place) flags (c.extend seam.tail))

/-- The parser reads the same statement in front of more text. -/
def Concludes (parser : Parser Node) : Prop :=
  ∀ ⦃context context'⦄, seam.AllContexts context context' → ∀ ⦃c⦄, c.Live seam.goal →
    seam.Settles c (parser.run context c) (parser.run context' (c.extend seam.tail))

/-- At the end of the text the parser ends a statement, and takes the semicolon at the seam. -/
def Terminates (parser : Parser Node) : Prop :=
  ∀ ⦃context context'⦄, seam.AllContexts context context' → ∀ ⦃c node c'⦄,
    c.Spent seam.goal → parser.run context c = .ok (node, c') →
      c' = c ∧ node.ending = .semicolon ∧
        (c = .finish → parser.run context' seam.stop = .ok (node, seam.final))

variable {seam} {parser other : Parser Node} {first : Parser α} {next : α → Parser Node}

/-! ### Sequences and choices -/

namespace Terminates

theorem of_needsToken (h : parser.NeedsToken) : seam.Terminates parser :=
  fun _ _ hcontext _ _ _ hend hrun => absurd hrun (h hcontext.needsToken hend.kind_eq _)

theorem bind (h : seam.Idles first) (hnext : ∀ a, seam.Terminates (next a)) :
    seam.Terminates (first >>= next) := by
  intro context context' hcontext c node c' hend hrun
  obtain ⟨a, between, hfirst, hrest⟩ := bind_eq_ok_iff.mp hrun
  obtain ⟨rfl, hstop⟩ := h hcontext.toContexts hend hfirst
  obtain ⟨rfl, hending, hfinal⟩ := hnext a hcontext hend hrest
  refine ⟨rfl, hending, fun hfinish => ?_⟩
  rw [run_bind, hstop hfinish]
  exact hfinal hfinish

/-- What is known of a token that ends a statement is known at the seam. -/
theorem look {a : α} (hknown : ∀ ⦃context cursor⦄, cursor.token.Ends →
    first.run context cursor = .ok (a, cursor)) (h : seam.Terminates (next a)) :
    seam.Terminates (first >>= next) := by
  intro context context' hcontext c node c' hend hrun
  rw [run_bind, hknown (.of_endOfSource hend.kind_eq)] at hrun
  rw [run_bind, hknown seam.ends]
  exact h hcontext hend hrun

theorem ite_pos {condition : Prop} [Decidable condition] (hc : condition)
    (h : seam.Terminates parser) : seam.Terminates (if condition then parser else other) := by
  rwa [if_pos hc]

end Terminates

namespace Concludes

/-- What ends with a brace leaves everything behind it. -/
theorem of_mirrors (h : seam.Mirrors parser)
    (hending : parser.Ensures (fun _ => True) fun node => node.ending = .brace) :
    seam.Concludes parser := by
  intro context context' hcontext c hc node c' hrun hlast
  have hbrace : node.ending = .brace := hending trivial hrun
  refine ⟨Node.kind_ne_absent_of_ending (by rw [hbrace]; decide), fun _ => ?_⟩
  rw [hbrace]
  exact h hcontext.toContexts hc node c' hrun hlast

/-- Nothing is said about other nodes. -/
theorem of_other (hending : parser.Ensures (fun _ => True) fun node =>
    node.ending = .other ∧ node.kind ≠ .absent) : seam.Concludes parser := by
  intro context context' _ c _ node c' hrun _
  obtain ⟨hother, hkind⟩ := hending trivial hrun
  exact ⟨hkind, fun hne => absurd hother hne⟩

theorem fail_bind {fault : Fault} : seam.Concludes (Parser.fail fault >>= next) :=
  fun _ _ _ _ _ _ _ hrun => by contradiction

theorem bind_of_ensures {post : α → Prop} (h : seam.Mirrors first)
    (hpost : first.Ensures (fun _ => True) post) (hnext : ∀ a, post a → seam.Concludes (next a))
    (hterminates : ∀ a, post a → seam.Terminates (next a)) : seam.Concludes (first >>= next) := by
  intro context context' hcontext c hc node last hrun hlast
  obtain ⟨a, between, hfirst, hrest⟩ := bind_eq_ok_iff.mp hrun
  have ha : post a := hpost trivial hfirst
  have hreach : c.Reaches seam.goal between :=
    hcontext.goal_eq ▸ first.forward hcontext.sound hfirst
  rw [run_bind]
  obtain hlive | hend := hc.reaches hreach
  · obtain ⟨hkind, hlands⟩ := hnext a ha hcontext hlive node last hrest hlast
    refine ⟨hkind, fun hending => ?_⟩
    obtain ⟨hbetween, last', hrest', hpast⟩ := hlands hending
    obtain ⟨hstart, between', hfirst', hbeside⟩ :=
      h hcontext.toContexts hc a between hfirst hbetween
    rw [hfirst', hbeside.eq_extend hlive]
    exact ⟨hstart, last', hrest', hpast⟩
  · obtain ⟨rfl, hending, hstop⟩ := hterminates a ha hcontext hend hrest
    have hfinish : last = .finish := hlast.eq_finish hend.kind_eq
    refine ⟨Node.kind_ne_absent_of_ending (by rw [hending]; decide), fun _ => ?_⟩
    obtain ⟨hstart, between', hfirst', hbeside⟩ := h hcontext.toContexts hc a last hfirst hlast
    rw [hfirst', hbeside.eq_stop hend.kind_eq, hending]
    exact ⟨hstart, seam.final, hstop hfinish, .inr ⟨hfinish, rfl⟩⟩

theorem bind (h : seam.Mirrors first) (hnext : ∀ a, seam.Concludes (next a))
    (hterminates : ∀ a, seam.Terminates (next a)) : seam.Concludes (first >>= next) :=
  have htrivial : first.Ensures (fun _ => True) fun _ => True := fun _ _ _ _ _ _ => trivial
  .bind_of_ensures h htrivial (fun a _ => hnext a) fun a _ => hterminates a

/-- What needs a token behind what is read first finds one. -/
theorem bind_of_needsToken (h : seam.Mirrors first) (hnext : ∀ a, seam.Concludes (next a))
    (hneeds : ∀ a, (next a).NeedsToken) : seam.Concludes (first >>= next) :=
  .bind h hnext fun a => .of_needsToken (hneeds a)

/-- What only looks stays at the same token. -/
theorem still (hstill : first.Still) (h : seam.Mirrors first)
    (hnext : ∀ a, seam.Concludes (next a)) : seam.Concludes (first >>= next) := by
  intro context context' hcontext c hc node last hrun hlast
  obtain ⟨a, between, hfirst, hrest⟩ := bind_eq_ok_iff.mp hrun
  obtain rfl := hstill hfirst
  obtain ⟨hkind, hlands⟩ := hnext a hcontext hc node last hrest hlast
  refine ⟨hkind, fun hending => ?_⟩
  obtain ⟨hbetween, last', hrest', hpast⟩ := hlands hending
  obtain ⟨-, between', hfirst', hbeside⟩ := h hcontext.toContexts hc a between hfirst hbetween
  rw [run_bind, hfirst', hbeside.eq_extend hc]
  exact ⟨hbetween, last', hrest', hpast⟩

theorem ite {condition : Prop} [Decidable condition] (h : seam.Concludes parser)
    (hother : seam.Concludes other) : seam.Concludes (if condition then parser else other) := by
  split
  · exact h
  · exact hother

theorem statement (place : Place) : seam.Concludes (Parser.statement place) := by
  intro context context' hcontext c hc
  show seam.Settles c _ (context'.rules (.statement place) context'.flags _)
  rw [hcontext.same.2]
  exact hcontext.statements hc

/-- A statement around another one ends as this one does. -/
theorem wrap (h : seam.Concludes parser) (f : Node → Node) (hkind : ∀ node, (f node).kind ≠ .absent)
    (hf : ∀ node, (f node).ending = node.ending) : seam.Concludes (do return f (← parser)) := by
  intro context context' hcontext c hc node last hrun hlast
  obtain ⟨inner, between, hfirst, hrest⟩ := bind_eq_ok_iff.mp hrun
  obtain ⟨rfl, rfl⟩ := Prod.mk.inj (Except.ok.inj hrest)
  refine ⟨hkind inner, fun hending => ?_⟩
  rw [hf] at hending
  obtain ⟨hstart, last', hfirst', hpast⟩ := (h hcontext hc inner between hfirst hlast).2 hending
  rw [run_bind, hfirst', hf]
  exact ⟨hstart, last', rfl, hpast⟩

/-- What stands in front of a sealed token is the same in front of more text. -/
theorem after (hnext : ∀ a, seam.Concludes (next a))
    (hseals : ∀ a, (next a).Seals) : seam.Concludes (first >>= next) := by
  intro context context' hcontext c hc node last hrun hlast
  obtain ⟨a, between, hfirst, hrest⟩ := bind_eq_ok_iff.mp hrun
  obtain ⟨hbetween, hreach, hfirst'⟩ :=
    hcontext.run_extend hc hfirst (hseals a hcontext.sound hrest)
  obtain ⟨hkind, hlands⟩ := hnext a hcontext hbetween node last hrest hlast
  refine ⟨hkind, fun hending => ?_⟩
  obtain ⟨hfinishes, hmore⟩ := hlands hending
  rw [run_bind, hfirst']
  exact ⟨hfinishes.of_reaches hbetween hc hreach, hmore⟩

end Concludes

variable (seam) in
/-- The parser concludes, and passes a sealed token on its way. -/
structure Heads (parser : Parser Node) : Prop where
  concludes : seam.Concludes parser
  seals : parser.Seals

namespace Heads

theorem after (h : ∀ a, seam.Heads (next a)) : seam.Heads (first >>= next) :=
  ⟨.after (fun a => (h a).concludes) fun a => (h a).seals, .after fun a => (h a).seals⟩

theorem bind (h : seam.Closes first) (hnext : ∀ a, seam.Concludes (next a))
    (hterminates : ∀ a, seam.Terminates (next a)) : seam.Heads (first >>= next) :=
  ⟨.bind h.mirrors hnext hterminates, .bind h.seals⟩

theorem ite {condition : Prop} [Decidable condition] (h : seam.Heads parser)
    (hother : seam.Heads other) : seam.Heads (if condition then parser else other) :=
  ⟨.ite h.concludes hother.concludes, .ite h.seals hother.seals⟩

theorem fail_bind {fault : Fault} : seam.Heads (Parser.fail fault >>= next) :=
  ⟨.fail_bind, .bind .fail⟩

end Heads

/-! ### Semicolons -/

section Semicolons

variable {node : Node}

theorem run_endStatement (context : Context) (cursor : Cursor) :
    endStatement.run context cursor =
      if cursor.token.kind == .punct .semicolon then (cursor.advance context.goal).map ((), ·)
      else if cursor.token.newline || cursor.token.kind == .punct .closeBrace ||
          cursor.token.kind == .endOfSource then .ok ((), cursor)
      else .error .missingSemicolon := by
  show Parser.run (if _ then _ else _) context cursor = _
  split_ifs <;> rfl

theorem run_eatPunct (p : Punct) (context : Context) (cursor : Cursor) :
    (eatPunct p).run context cursor =
      if cursor.token.kind == .punct p then (cursor.advance context.goal).map (true, ·)
      else .ok (false, cursor) := by
  rw [← bind_pure (eatPunct p), eatPunct_bind]
  show Parser.run (if _ then _ else _) context cursor = _
  split_ifs with hkind
  · have hadvance : advance.run context cursor = (cursor.advance context.goal).map ((), ·) := rfl
    rw [run_bind, hadvance]
    cases cursor.advance context.goal <;> rfl
  · rfl

/-- A parser that takes a semicolon, or nothing. -/
theorem Concludes.of_semicolon (hending : node.ending = .semicolon) (h : seam.Mirrors first)
    (hsemicolon : ∀ ⦃context cursor a last⦄, first.run context cursor = .ok (a, last) →
      last = cursor ∨ cursor.token.kind = .punct .semicolon ∧
        cursor.advance context.goal = .ok last) :
    seam.Concludes (first >>= fun _ => Pure.pure node) := by
  intro context context' hcontext c hc node' last hrun hlast
  obtain ⟨a, between, hfirst, hrest⟩ := bind_eq_ok_iff.mp hrun
  obtain ⟨rfl, rfl⟩ := Prod.mk.inj (Except.ok.inj hrest)
  refine ⟨Node.kind_ne_absent_of_ending (by rw [hending]; decide), fun _ => ?_⟩
  obtain ⟨hstart, last', hfirst', hbeside⟩ := h hcontext.toContexts hc a between hfirst hlast
  have hlive : between.Live seam.goal := by
    obtain rfl | ⟨hkind, hadvance⟩ := hsemicolon hfirst
    · exact hc
    · exact hlast.of_semicolon hc hkind (hcontext.goal_eq ▸ hadvance)
  rw [run_bind, hfirst']
  exact ⟨hstart, last', rfl, .inl ⟨hlive, hbeside.eq_extend hlive⟩⟩

theorem Terminates.of_semicolon (hending : node.ending = .semicolon)
    (hspent : ∀ ⦃context cursor a last⦄, cursor.token.kind = .endOfSource →
      first.run context cursor = .ok (a, last) → last = cursor)
    (hstop : ∀ ⦃context : Context⦄, context.goal = seam.goal →
      ∃ a, first.run context seam.stop = .ok (a, seam.final)) :
    seam.Terminates (first >>= fun _ => Pure.pure node) := by
  intro context context' hcontext c node' c' hend hrun
  obtain ⟨a, between, hfirst, hrest⟩ := bind_eq_ok_iff.mp hrun
  obtain ⟨rfl, rfl⟩ := Prod.mk.inj (Except.ok.inj hrest)
  refine ⟨hspent hend.kind_eq hfirst, hending, fun _ => ?_⟩
  obtain ⟨b, hfirst'⟩ := hstop (hcontext.same.1.trans hcontext.goal_eq)
  rw [run_bind, hfirst']
  rfl

theorem Concludes.endStatement (h : node.ending = .semicolon) :
    seam.Concludes (do
      Parser.endStatement
      return node) := by
  refine .of_semicolon h (.still .peek .peek fun _ => .ite .advance (.ite (.pure _) .fail))
    fun context cursor a last hrun => ?_
  rw [run_endStatement] at hrun
  split_ifs at hrun with hkind
  · exact .inr ⟨beq_iff_eq.mp hkind, map_eq_ok hrun⟩
  · exact .inl (Prod.mk.inj (Except.ok.inj hrun)).2.symm

theorem Terminates.endStatement (h : node.ending = .semicolon) :
    seam.Terminates (do
      Parser.endStatement
      return node) := by
  refine .of_semicolon h (fun context cursor a last hend hrun => ?_) fun context hgoal => ⟨(), ?_⟩
  · rw [run_endStatement, hend, if_neg (by decide), if_pos (by simp)] at hrun
    exact (Prod.mk.inj (Except.ok.inj hrun)).2.symm
  · rw [run_endStatement]
    split_ifs with hkind hends
    · rw [hgoal, seam.advance_stop (beq_iff_eq.mp hkind)]
      rfl
    · rw [seam.final_eq (ne_of_beq_false (Bool.eq_false_iff.mpr hkind))]
    · have hstop := seam.ends.atStatementEnd
      rw [Bool.eq_false_iff.mpr hkind, Bool.or_false] at hstop
      exact absurd hstop hends

/-- The semicolon behind the condition of a loop may be left out everywhere. -/
theorem Concludes.eatSemicolon (h : node.ending = .semicolon) :
    seam.Concludes (do
      let _ ← Parser.eatPunct .semicolon
      return node) := by
  refine .of_semicolon h (.eatPunct _) fun context cursor a last hrun => ?_
  rw [run_eatPunct] at hrun
  split_ifs at hrun with hkind
  · obtain ⟨next, hnext, heq⟩ := Except.map_eq_ok_iff.mp hrun
    obtain ⟨-, rfl⟩ := Prod.mk.inj heq
    exact .inr ⟨beq_iff_eq.mp hkind, hnext⟩
  · exact .inl (Prod.mk.inj (Except.ok.inj hrun)).2.symm

theorem Terminates.eatSemicolon (h : node.ending = .semicolon) :
    seam.Terminates (do
      let _ ← Parser.eatPunct .semicolon
      return node) := by
  refine .of_semicolon h (fun context cursor a last hend hrun => ?_) fun context hgoal => ?_
  · rw [run_eatPunct, hend, if_neg (by decide)] at hrun
    exact (Prod.mk.inj (Except.ok.inj hrun)).2.symm
  · rw [run_eatPunct]
    split_ifs with hkind
    · rw [hgoal, seam.advance_stop (beq_iff_eq.mp hkind)]
      exact ⟨true, rfl⟩
    · rw [seam.final_eq (ne_of_beq_false (Bool.eq_false_iff.mpr hkind))]
      exact ⟨false, rfl⟩

end Semicolons

/-! ### Simple statements -/

/-- A value that is read, and the end of the statement. -/
theorem Concludes.ended {f : α → Node} (h : seam.Mirrors first)
    (hending : ∀ a, (f a).ending = .semicolon) :
    seam.Concludes (do
      let a ← first
      Parser.endStatement
      return f a) :=
  .bind h (fun a => .endStatement (hending a)) fun a => .endStatement (hending a)

theorem Concludes.expressionStatement : seam.Concludes Parser.expressionStatement :=
  .ended (.withFlags .expression) fun _ => rfl

theorem ensures_variableList (kind : VariableKind) {pre : Context → Prop} :
    (Parser.variableList kind).Ensures pre fun node => node.ending = .semicolon := by
  refine .ite (fun _ => .after fun _ => ?_) fun _ => ?_
  all_goals exact .after fun _ => .after fun _ => .after fun _ => .pure rfl

theorem Mirrors.checkValues (node : Node) : seam.Mirrors (Parser.checkValues node) := by
  unfold Parser.checkValues
  split
  · exact .ite .fail (.pure _)
  · exact .pure _

theorem Idles.checkValues (node : Node) : seam.Idles (Parser.checkValues node) := by
  unfold Parser.checkValues
  split
  · exact .ite .fail (.pure _)
  · exact .pure _

theorem Concludes.variableStatement (kind : VariableKind) :
    seam.Concludes (Parser.variableStatement kind) := by
  refine .bind_of_ensures (.variableList kind) (ensures_variableList kind) (fun node hnode => ?_)
    fun node hnode => .bind (.checkValues node) fun _ => .endStatement hnode
  exact .still (.checkValues node) (.checkValues node) fun _ => .endStatement hnode

theorem Concludes.jump {keyword : Keyword} {kind : NodeKind}
    (h : ∀ label, (Node.mk kind [label]).ending = .semicolon) :
    seam.Concludes (Parser.jump keyword kind) := by
  have hend (label : Node) : seam.Terminates (do
      Parser.endStatement
      return Node.mk kind [label]) := .endStatement (h label)
  refine .bind (.expectKeyword _) (fun _ => ?_) fun _ => ?_
  · refine .still .atStatementEnd .atStatementEnd fun _ => .ite ?_ ?_
    · exact .bind (.pure _) (fun _ => .endStatement (h _)) fun _ => hend _
    · exact .bind .identifier (fun _ => .endStatement (h _)) fun _ => hend _
  · exact .look (fun _ _ => run_atStatementEnd_of_ends) (.ite_pos rfl (.bind (.pure _)
      fun _ => hend _))

theorem Concludes.returnStatement : seam.Concludes Parser.returnStatement := by
  have hend (value : Node) : seam.Terminates (do
      Parser.endStatement
      return Node.mk .returnStatement [value]) := .endStatement rfl
  have hvalue : seam.Concludes (do
      Parser.expectKeyword .return_
      let value ← if ← Parser.atStatementEnd then Parser.absent
        else Parser.withIn Parser.expression
      Parser.endStatement
      return Node.mk .returnStatement [value]) := by
    refine .bind (.expectKeyword _) (fun _ => ?_) fun _ => ?_
    · refine .still .atStatementEnd .atStatementEnd fun _ => .ite ?_ ?_
      · exact .bind (.pure _) (fun _ => .endStatement rfl) fun _ => hend _
      · exact .bind (.withFlags .expression) (fun _ => .endStatement rfl) fun _ => hend _
    · exact .look (fun _ _ => run_atStatementEnd_of_ends) (.ite_pos rfl (.bind (.pure _)
        fun _ => hend _))
  exact .still .flags .flags fun _ => .ite hvalue .fail_bind

theorem Concludes.throwStatement : seam.Concludes Parser.throwStatement := by
  refine .bind_of_needsToken (.expectKeyword _) (fun _ => ?_) fun _ => ?_
  · exact .still .peek .peek fun _ => .ite .fail_bind (.ended (.withFlags .expression) fun _ => rfl)
  · exact .still .peek fun _ => .ite (.bind .unexpected) (.bind (.withFlags .expression))

/-! ### Blocks, functions and classes -/

theorem Closes.block : seam.Closes Parser.block :=
  .after fun _ => .after fun _ => .bind (.expectPunct _) (fun _ => .pure _) fun _ => .pure _

theorem Concludes.block : seam.Concludes Parser.block :=
  .of_mirrors Closes.block.mirrors (.after fun _ => .after fun _ => .after fun _ => .pure rfl)

theorem Closes.condition : seam.Closes Parser.condition :=
  .after fun _ => .after fun _ => .bind (.expectPunct _) (fun _ => .pure _) fun _ => .pure _

theorem Concludes.switchStatement : seam.Concludes Parser.switchStatement := by
  refine .of_mirrors (Closes.mirrors ?_) ?_
  · exact .after fun _ => .after fun _ => .after fun _ => .after fun _ => .bind (.expectPunct _)
      (fun _ => .pure _) fun _ => .pure _
  · exact .after fun _ => .after fun _ => .after fun _ => .after fun _ => .after fun _ => .pure rfl

theorem ensures_functionRule {name : FunctionForm → Parser Node} {pre : Context → Prop} :
    (Parser.functionRule name).Ensures pre fun node => node.ending = .brace :=
  .after fun _ => .after fun _ => .after fun _ => .after fun _ => .after fun _ => .after fun _ =>
    .pure rfl

theorem ensures_classRule {pre : Context → Prop} :
    Parser.classRule.Ensures pre fun node => node.ending = .brace := by
  refine .after fun _ => .after fun _ => .after fun _ => .ite (fun _ => ?_) fun _ => ?_
  all_goals
    refine .after fun _ => .after fun _ => .ite (fun _ => ?_) fun _ => ?_
    all_goals exact .after fun _ => .after fun _ => .after fun _ => .after fun _ => .pure rfl

theorem Closes.functionDeclaration (place : Place) :
    seam.Closes (Parser.functionDeclaration place) := by
  refine .bind (.functionRule _) (fun node => ?_) fun node => ?_
  · split
    · exact .reject (.pure _)
    · exact .pure _
  · split
    · exact .reject (.pure _)
    · exact .pure _

theorem Concludes.functionDeclaration (place : Place) :
    seam.Concludes (Parser.functionDeclaration place) := by
  refine .of_mirrors (Closes.functionDeclaration place).mirrors ?_
  refine ensures_functionRule.bind fun node hnode => ?_
  split
  · exact .ite (fun _ => .fail_bind) fun _ => .pure hnode
  · exact .pure hnode

theorem Concludes.classDeclaration (place : Place) :
    seam.Concludes (Parser.classDeclaration place) :=
  .ite .fail_bind (.of_mirrors Closes.classRule.mirrors ensures_classRule)

theorem Closes.catchClause : seam.Closes Parser.catchClause := by
  have hclause (target : Node) : seam.Closes (do
      return Node.mk .catchClause [target, ← Parser.block]) :=
    .bind .block (fun _ => .pure _) fun _ => .pure _
  exact .after fun _ => .after fun _ => .ite (.after fun _ => .after fun _ => hclause _)
    (.after fun _ => hclause _)

theorem NeedsToken.block : Parser.block.NeedsToken :=
  .bind (.expectPunct _)

/-- The last block of a `try` statement. -/
theorem Trails.finallyClause (body handler : Node) :
    seam.Trails (do
      if ← Parser.eatKeyword .finally_ then
        let last ← Parser.block
        return Node.mk .tryStatement [body, handler, last]
      else
        if handler.kind == .absent then Parser.unexpected
        return Node.mk .tryStatement [body, handler, ← Parser.absent]) := by
  have hbare : seam.Idles (do return Node.mk .tryStatement [body, handler, ← Parser.absent]) :=
    .bind (.pure _) fun _ => .pure _
  refine ⟨.bind (.eatKeyword _) (fun _ => .ite (.make Closes.block.mirrors _) (.reject ?_))
    fun _ => .ite (.of_needsToken (.bind NeedsToken.block)) (.reject hbare), ?_⟩
  · exact .bind (.pure _) (fun _ => .pure _) fun _ => .pure _
  · exact .look (fun _ _ => run_eatKeyword_of_ends rfl)
      (.ite_neg Bool.false_ne_true (.reject hbare))

theorem Concludes.tryStatement : seam.Concludes Parser.tryStatement := by
  refine .of_mirrors ?_ ?_
  · refine .bind (.expectKeyword _) (fun _ => .bind Closes.block.mirrors (fun body => ?_)
      fun body => ?_) fun _ => .of_needsToken (.bind NeedsToken.block)
    · refine .still (.atKeyword _) (.atKeyword _) fun _ => ?_
      exact .either Closes.catchClause.mirrors (.pure _)
        (fun handler => (Trails.finallyClause body handler).mirrors)
        fun handler => (Trails.finallyClause body handler).idles
    · exact .look (fun _ _ => run_atKeyword_of_ends rfl) (.ite_neg Bool.false_ne_true
        (.bind (.pure _) fun handler => (Trails.finallyClause body handler).idles))
  · refine .after fun _ => .after fun body => .after fun _ => .ite (fun _ => ?_) fun _ => ?_
    all_goals
      refine .after fun handler => .after fun _ => .ite (fun _ => ?_) fun _ => ?_
      · exact .after fun _ => .pure rfl
      · exact .ite (fun _ => .fail_bind) fun _ => .after fun _ => .pure rfl

/-! ### Choices and loops -/

theorem Concludes.loopBody : seam.Concludes Parser.loopBody :=
  .statement .alone

theorem Concludes.whileStatement : seam.Concludes Parser.whileStatement := by
  refine .bind_of_needsToken (.expectKeyword _) (fun _ => ?_) fun _ =>
    .bind (.bind (.expectPunct _))
  refine .bind_of_needsToken Closes.condition.mirrors (fun _ => ?_) fun _ => .bind .call
  exact .wrap .loopBody _ (fun _ => nofun) fun _ => rfl

theorem Concludes.withStatement : seam.Concludes Parser.withStatement := by
  refine .bind_of_needsToken (.expectKeyword _) (fun _ => ?_) fun _ =>
    .bind (.bind (.expectPunct _))
  refine .bind_of_needsToken Closes.condition.mirrors (fun _ => ?_) fun _ => .bind .call
  exact .wrap (.statement _) _ (fun _ => nofun) fun _ => rfl

theorem Concludes.labeledStatement : seam.Concludes Parser.labeledStatement := by
  refine .bind_of_needsToken .identifier (fun _ => ?_) fun _ => .bind (.expectPunct _)
  refine .bind_of_needsToken (.expectPunct _) (fun _ => ?_) fun _ => .bind .call
  exact .wrap (.statement _) _ (fun _ => nofun) fun _ => rfl

/-- The alternatives of a choice. At the seam there is no other alternative. -/
theorem Concludes.branches (condition : Node) :
    seam.Concludes (do
      let whenTrue ← Parser.statement .alone
      let whenFalse ← if ← Parser.eatKeyword .else_ then Parser.statement .alone
        else Parser.absent
      return Node.mk .ifStatement [condition, whenTrue, whenFalse]) := by
  intro context context' hcontext c hc node last hrun hlast
  obtain ⟨whenTrue, between, hfirst, hrest⟩ := bind_eq_ok_iff.mp hrun
  obtain ⟨taken, middle, heat, hbranch⟩ := bind_eq_ok_iff.mp hrest
  have hreach : c.Reaches seam.goal between :=
    hcontext.goal_eq ▸ (Parser.statement .alone).forward hcontext.sound hfirst
  obtain ⟨rfl, helse⟩ | ⟨rfl, helse, rfl⟩ := eatKeyword_eq_ok heat
  · obtain ⟨whenFalse, last, hsecond, hnode⟩ := bind_eq_ok_iff.mp hbranch
    obtain ⟨rfl, rfl⟩ := Prod.mk.inj (Except.ok.inj hnode)
    have hbetween : between.Live seam.goal := by
      refine (hc.reaches hreach).resolve_right fun hend => ?_
      cases hend.kind_eq.symm.trans helse
    have hreach' : between.Reaches seam.goal middle :=
      hcontext.goal_eq ▸ (Parser.eatKeyword .else_).forward hcontext.sound heat
    have hmiddle : middle.Live seam.goal := by
      refine (hbetween.reaches hreach').resolve_right fun hend => ?_
      exact NeedsToken.call hcontext.needsToken hend.kind_eq _ hsecond
    obtain ⟨hkind, hlands⟩ := Concludes.statement .alone hcontext hmiddle _ _ hsecond hlast
    refine ⟨nofun, fun hending => ?_⟩
    rw [Node.ending_ifStatement hkind] at hending ⊢
    split_ifs at hending ⊢ with hother
    · exact absurd rfl hending
    obtain ⟨hfinishes, last', hsecond', hpast⟩ := hlands hending
    obtain ⟨hfinishes', middle', heat', hbeside⟩ :=
      Mirrors.eatKeyword .else_ hcontext.toContexts hbetween _ _ heat hfinishes
    obtain ⟨hstart, between', hfirst', hpast'⟩ :=
      (Concludes.statement .alone hcontext hc _ _ hfirst hfinishes').2 hother
    obtain rfl := hbeside.eq_extend hmiddle
    obtain rfl := hpast'.eq_extend hbetween
    refine ⟨hstart, last', bind_eq_ok_iff.mpr ⟨whenTrue, _, hfirst', ?_⟩, hpast⟩
    refine bind_eq_ok_iff.mpr ⟨true, _, heat', ?_⟩
    exact bind_eq_ok_iff.mpr ⟨whenFalse, last', hsecond', rfl⟩
  · obtain ⟨whenFalse, last, habsent, hnode⟩ := bind_eq_ok_iff.mp hbranch
    obtain ⟨rfl, rfl⟩ := Prod.mk.inj (Except.ok.inj habsent)
    obtain ⟨rfl, rfl⟩ := Prod.mk.inj (Except.ok.inj hnode)
    refine ⟨nofun, fun hending => ?_⟩
    obtain ⟨hstart, last', hfirst', hpast⟩ :=
      (Concludes.statement .alone hcontext hc _ _ hfirst hlast).2 hending
    have heat' : (eatKeyword .else_).run context' last' = _ :=
      run_eatKeyword_of_ne (hpast.kind_ne_else helse)
    refine ⟨hstart, last', bind_eq_ok_iff.mpr ⟨whenTrue, last', hfirst', ?_⟩, hpast⟩
    exact bind_eq_ok_iff.mpr ⟨false, last', heat', rfl⟩

/-- The end of the head of a loop, and the statement that it repeats. -/
theorem Heads.loopRest {f : Node → Node} (hkind : ∀ node, (f node).kind ≠ .absent)
    (hf : ∀ node, (f node).ending = node.ending) :
    seam.Heads (do
      Parser.expectPunct .closeParen
      return f (← Parser.loopBody)) where
  concludes := .bind_of_needsToken (.expectPunct _) (fun _ => .wrap .loopBody f hkind hf)
    fun _ => .bind .call
  seals := .bind (.expectPunct _)

theorem Heads.forInRest (target : Node) : seam.Heads (Parser.forInRest target) :=
  .after fun _ => .loopRest (fun _ => nofun) fun _ => rfl

theorem Heads.forOfRest (isAwait : Bool) (target : Node) :
    seam.Heads (Parser.forOfRest isAwait target) :=
  .after fun _ => .loopRest (fun _ => nofun) fun _ => rfl

theorem Closes.optionalExpression (stop : Punct) : seam.Closes (Parser.optionalExpression stop) :=
  .after fun _ => .either fun _ => .bind (.expectPunct _) (fun _ => .pure _) fun _ => .pure _

theorem Heads.forRest (isAwait : Bool) (initial : Node) :
    seam.Heads (Parser.forRest isAwait initial) := by
  refine .ite .fail_bind (.after fun _ => .after fun _ => ?_)
  refine .bind (.optionalExpression _) (fun _ => ?_) fun _ => .of_needsToken (.bind .call)
  exact .wrap .loopBody _ (fun _ => nofun) fun _ => rfl

theorem Heads.forDeclaration (isAwait : Bool) (kind : VariableKind) :
    seam.Heads (Parser.forDeclaration isAwait kind) := by
  refine .after fun _ => .after fun _ => .ite (.after fun _ => .forOfRest _ _) ?_
  refine .after fun _ => .ite (.ite .fail_bind (.after fun _ => .forInRest _)) ?_
  exact .after fun _ => .forRest _ _

theorem Heads.forExpression (isAwait : Bool) : seam.Heads (Parser.forExpression isAwait) := by
  refine .after fun _ => .after fun _ => .after fun _ => .after fun _ => .ite ?_ ?_
  · exact .ite .fail_bind (.after fun _ => .after fun _ => .forOfRest _ _)
  · refine .after fun _ => .ite ?_ (.forRest _ _)
    exact .ite .fail_bind (.after fun _ => .after fun _ => .forInRest _)

theorem Heads.forStatement : seam.Heads Parser.forStatement := by
  refine .after fun _ => .after fun isAwait => .after fun _ => .ite .fail_bind ?_
  refine .after fun _ => .after fun _ => .ite (.after fun _ => .forRest _ _) (.after fun kind => ?_)
  cases kind with
  | some kind => exact .forDeclaration _ kind
  | none => exact .forExpression _

theorem Concludes.doWhileStatement : seam.Concludes Parser.doWhileStatement := by
  refine (Heads.after fun _ => .after fun body => .after fun _ => ?_).concludes
  exact .bind .condition (fun _ => .eatSemicolon rfl) fun _ => .eatSemicolon rfl

theorem Concludes.ifStatement : seam.Concludes Parser.ifStatement := by
  refine .bind_of_needsToken (.expectKeyword _) (fun _ => ?_) fun _ =>
    .bind (.bind (.expectPunct _))
  exact .bind_of_needsToken Closes.condition.mirrors .branches fun _ => .bind .call

/-! ### Statements that start with a word -/

/-- A parser that asks for the token behind the next one concludes if it does for every answer. -/
theorem Concludes.peekSecond {next : Option Token → Parser Node}
    (h : ∀ second, seam.Concludes (next second))
    (hend : ∀ token token' : Token, token.kind = .endOfSource → token'.Ends →
      Starves (next (some token)) ∨ next (some token) = next (some token')) :
    seam.Concludes (Parser.peekSecond >>= next) := by
  intro context context' hcontext c hc node last hrun hlast
  rw [run_peekSecond_bind hcontext.goal_eq] at hrun
  rw [run_peekSecond_bind (hcontext.same.1.trans hcontext.goal_eq)]
  obtain ⟨hkind, hlands⟩ := h _ hcontext hc node last hrun hlast
  refine ⟨hkind, fun hending => ?_⟩
  have hstart := (hlands hending).1
  rw [run_peekSecond_extend hend hcontext.toContexts hrun hstart]
  exact hlands hending

/-- A declaration needs a pattern behind its keyword. -/
theorem starves_variableStatement : Starves (Parser.variableStatement .lexical) := by
  rintro context c second hcontext hadvance hend ⟨node, last⟩ hrun
  obtain ⟨list, between, hlist, -⟩ := bind_eq_ok_iff.mp hrun
  obtain ⟨⟨⟩, second', hfirst, hrest⟩ := bind_eq_ok_iff.mp hlist
  obtain rfl : second = second' :=
    Except.ok.inj (hadvance.symm.trans (advance_of_advanceKeyword hfirst))
  have hneeds : Parser.declarator.NeedsToken := .bind .call
  exact hneeds.bind hcontext hend _ hrest

/-- The word `let` is looked at before the token behind it. -/
theorem letStatement_eq (place : Place) :
    Parser.letStatement place = (do
      if (← Parser.peek).escaped then Parser.expressionStatement
      else
        match letUse place (((← Parser.peekSecond).map Token.kind).getD .endOfSource) with
        | .expression => Parser.expressionStatement
        | .declaration =>
          if place = .alone then Parser.fail .misplacedDeclaration
          Parser.variableStatement .lexical
        | .name =>
          let name ← Parser.identifier
          Parser.endStatement
          return .mk .expressionStatement [name]) := by
  refine ext_run fun context cursor => ?_
  show Parser.run (if _ then _ else _) context cursor =
    Parser.run (if _ then _ else _) context cursor
  split_ifs <;> rfl

theorem letUse_of_ends {token : Token} (h : token.Ends) : letUse .alone token.kind = .name := by
  have hkind := h.not_goesOn
  unfold letUse
  split
  all_goals first | rfl | (next heq => rw [heq] at hkind; contradiction)

theorem Concludes.letStatement (place : Place) : seam.Concludes (Parser.letStatement place) := by
  rw [letStatement_eq]
  refine .still .peek .peek fun first => .ite .expressionStatement (.peekSecond (fun second => ?_)
    fun token token' hend hends => ?_)
  · split
    · exact .expressionStatement
    · exact .ite .fail_bind (.variableStatement _)
    · exact .ended .identifier fun _ => rfl
  · cases place with
    | alone =>
      refine .inr ?_
      simp only [Option.map_some, Option.getD_some, letUse_of_ends hends,
        letUse_of_ends (.of_endOfSource hend)]
    | _ =>
      refine .inl ?_
      simp only [Option.map_some, Option.getD_some, hend]
      exact starves_variableStatement

/-- No name goes on with a statement on its line. -/
theorem isNameToken_of_ends {token : Token} (h : token.Ends) (hline : token.newline = false) :
    isNameToken token = false := by
  have hstops : token.kind.stops := h.stops.resolve_left (Bool.eq_false_iff.mp hline)
  unfold isNameToken
  split
  · next hkind =>
    rw [hkind] at hstops
    contradiction
  · next hkind =>
    rw [hkind] at hstops
    contradiction
  · rfl

theorem Mirrors.usingKind? : seam.Mirrors Parser.usingKind? := by
  refine .still .flags .flags fun flags => .still .peek .peek fun token => ?_
  refine .peekSecond_of_eq (.pure _) (fun second => ?_) (fun second hends => ?_) (.pure none)
  · refine .ite (Mirrors.pure _).before ?_
    split
    · exact (Mirrors.pure _).before
    · split_ifs with hword
      · rw [Bool.and_eq_true, Bool.and_eq_true, beq_iff_eq] at hword
        refine .peekThird hword.1.2 (fun third => ?_) fun third third' hends hends' => ?_
        · split <;> exact .pure _
        · have hnone {token : Token} (h : token.Ends) :
              (isNameToken token && !token.newline) = false := by
            cases hline : token.newline with
            | false => rw [isNameToken_of_ends h hline, Bool.false_and]
            | true => rw [Bool.not_true, Bool.and_false]
          simp only [hnone hends, hnone hends']
      · exact (Mirrors.pure _).before
    · exact (Mirrors.pure _).before
  · refine ite_eq_left_iff.mpr fun hnot => ?_
    have hline : second.newline = false := by
      rw [Bool.or_eq_true, not_or] at hnot
      exact Bool.eq_false_iff.mpr hnot.2
    have hstops : (TokenKind.word (some .using_)).stops = false := rfl
    have husing := hends.and_not_newline hstops
    rw [hline, Bool.not_false, Bool.and_true] at husing
    rw [isNameToken_of_ends hends hline, husing, Bool.and_false]
    split <;> rfl

theorem Concludes.nameStatement (place : Place) : seam.Concludes (Parser.nameStatement place) := by
  refine .still .atAsyncFunction .atAsyncFunction fun isFunction =>
    .ite (.functionDeclaration place) (.still .usingKind? .usingKind? fun kind => ?_)
  split
  · exact .ite .fail_bind (.variableStatement _)
  · refine .peekSecond (fun second => ?_) fun token token' hend hends => ?_
    · exact .still .atIdentifier .atIdentifier fun _ => .ite .labeledStatement .expressionStatement
    · have hcolon {token : Token} (h : token.Ends) : (token.kind == .punct .colon) = false :=
        beq_eq_false_iff_ne.mpr (h.ne_of_goesOn rfl)
      refine .inr ?_
      simp only [Option.any_some, hcolon hends, hcolon (.of_endOfSource hend)]

theorem ensures_nestedDeclaration {pre : Context → Prop} :
    Parser.nestedDeclaration.Ensures pre fun node =>
      node.ending = .other ∧ node.kind ≠ .absent := by
  refine .after fun _ => .ite (fun _ => ?_) fun _ => ?_
  all_goals exact .after fun _ => .pure ⟨rfl, nofun⟩

theorem Mirrors.atImportDeclaration : seam.Mirrors Parser.atImportDeclaration := by
  refine .still (.atKeyword _) (.atKeyword _) fun _ => .ite ?_ (.pure _)
  refine .peekSecond_of_eq (.pure _) (fun _ => (Mirrors.pure _).before) (fun token hends => ?_)
    (.pure true)
  have hparen : (token.kind == .punct .openParen) = false :=
    beq_eq_false_iff_ne.mpr (hends.ne_of_goesOn rfl)
  have hdot : (token.kind == .punct .dot) = false :=
    beq_eq_false_iff_ne.mpr (hends.ne_of_goesOn rfl)
  simp only [Option.any_some, hparen, hdot]
  rfl

theorem Concludes.keywordStatement (place : Place) (keyword : Keyword) :
    seam.Concludes (Parser.keywordStatement place keyword) := by
  unfold Parser.keywordStatement
  split
  · exact .variableStatement _
  · exact .ite .fail_bind (.variableStatement _)
  · exact .letStatement _
  · exact .functionDeclaration _
  · exact .classDeclaration _
  · exact .ifStatement
  · exact Heads.forStatement.concludes
  · exact .whileStatement
  · exact .doWhileStatement
  · exact .switchStatement
  · exact .withStatement
  · exact .jump fun _ => rfl
  · exact .jump fun _ => rfl
  · exact .returnStatement
  · exact .throwStatement
  · exact .tryStatement
  · exact .bind .advanceKeyword (fun _ => .endStatement rfl) fun _ => .endStatement rfl
  · exact .of_other ensures_nestedDeclaration
  · exact .still .atImportDeclaration .atImportDeclaration fun _ =>
      .ite (.of_other ensures_nestedDeclaration) .expressionStatement
  · exact .nameStatement _

theorem Concludes.statementRule (place : Place) : seam.Concludes (Parser.statementRule place) := by
  refine .still .peek .peek fun token => ?_
  split
  · exact .block
  · exact .of_mirrors (.advance_pure _) (.after fun _ => .pure rfl)
  · exact .classDeclaration place
  · exact .keywordStatement place _
  · exact .nameStatement place
  · exact .expressionStatement

/-! ### The contexts of the grammar -/

theorem Mirrors.grammar {rule : Rule} (h : ∀ place, rule ≠ .statement place) :
    seam.Mirrors (Script.grammar rule) := by
  cases rule with
  | assignment => exact .assignmentRule
  | operators floor => exact .operatorsRule floor
  | unary => exact .unaryRule
  | operand set => exact .operandRule set
  | binding => exact .bindingRule
  | statement place => exact absurd rfl (h place)

/-- A part of the contexts of the grammar that does not depend on their rules. -/
theorem contexts_ruleContext {width width' depth depth' : Nat} {flags : Flags}
    (hwidth : width ≤ width') (hdepth : depth ≤ depth')
    (hrules : ∀ {rule : Rule} {flags : Flags} {c : Cursor}, (∀ place, rule ≠ .statement place) →
      c.Live seam.goal → seam.Lands c (rulesAt seam.goal width depth rule flags c)
        (rulesAt seam.goal width' depth' rule flags (c.extend seam.tail))) :
    seam.Contexts (ruleContext seam.goal width flags depth)
      (ruleContext seam.goal width' flags depth') where
  goal_eq := rfl
  sound := Context.sound_ruleContext seam.goal width flags depth
  needsToken := Context.needsToken_ruleContext seam.goal width flags depth
  same := ⟨rfl, rfl⟩
  width_le := hwidth
  extends_ simulation := Context.extends_ruleContext simulation hwidth hdepth
  rules := hrules

/-- **All rules of the grammar come to the same in front of more text**, up to the seam. -/
theorem allContexts_ruleContext {width width' depth depth' : Nat} {flags : Flags}
    (hwidth : width ≤ width') (hdepth : depth ≤ depth') :
    seam.AllContexts (ruleContext seam.goal width flags depth)
      (ruleContext seam.goal width' flags depth') := by
  induction depth generalizing depth' flags with
  | zero =>
    refine ⟨contexts_ruleContext hwidth hdepth ?_, ?_⟩
    · intro rule flags c _ _ node c' hrun
      contradiction
    · intro place flags c _ node c' hrun
      contradiction
  | succ depth ih =>
    obtain ⟨depth', rfl⟩ : ∃ n, depth' = n + 1 := ⟨depth' - 1, by omega⟩
    have hbelow {flags : Flags} : seam.AllContexts (ruleContext seam.goal width flags depth)
        (ruleContext seam.goal width' flags depth') := ih (Nat.le_of_succ_le_succ hdepth)
    refine ⟨contexts_ruleContext hwidth hdepth fun hrule hc => ?_, fun hc => ?_⟩
    · exact Mirrors.grammar hrule hbelow.toContexts hc
    · exact Concludes.statementRule _ hbelow hc

end Seam

end ModuleBundler.Script
