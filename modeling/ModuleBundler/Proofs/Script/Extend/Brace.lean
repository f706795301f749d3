import ModuleBundler.Proofs.Script.Extend.Statement

/-!
# Statements that end with a brace

A statement that ends with a brace, or is nothing but a semicolon, ends there in front of every text
that does not start with `else` or `finally`: the brace is read in both texts as the same token, and
what stands in front of it is read as it was. So here the next token need not start a line.

## Main definitions

* `Brink` — a place behind a text, with such a text behind it.
* `Brink.Shuts` — parsers that end at a brace, and do so in front of more text.

## Main results

* `Brink.contexts_ruleContext` — the contexts of the grammar are those of statements that do.
-/

namespace ModuleBundler.Script

open ModuleBundler.Script.Parser

namespace Cursor

variable {goal : Goal} {cursor next : Cursor}

/-- The cursor is at a punctuator only where it has read one. -/
def Spelled (goal : Goal) (cursor : Cursor) : Prop :=
  ∀ p, cursor.token.kind = .punct p → cursor.At goal cursor.behind

theorem Spelled.reaches (h : cursor.Spelled goal) (hreach : cursor.Reaches goal next) :
    next.Spelled goal :=
  fun _ => hreach.at_punct h

/-- From the cursor on there is a sealed token in front of a closed end of the text. -/
def Enclosed (goal : Goal) (cursor : Cursor) : Prop :=
  ∃ last, cursor.Reaches goal last ∧ last.token.kind.isSealed ∧ EndsClosed last.next.here

end Cursor

/-- What the parser comes to, it comes to everywhere, and without reading. -/
def Parser.Constant {α : Type} (parser : Parser α) : Prop :=
  ∀ ⦃context cursor a next⦄, parser.run context cursor = .ok (a, next) →
    next = cursor ∧ ∀ context' cursor', parser.run context' cursor' = .ok (a, cursor')

namespace Parser.Constant

variable {α β : Type} {parser other : Parser α} {next : α → Parser β}

protected theorem pure (a : α) : (Pure.pure a : Parser α).Constant := by
  intro context cursor a' next hrun
  obtain ⟨rfl, rfl⟩ := Prod.mk.inj (Except.ok.inj hrun)
  exact ⟨rfl, fun _ _ => rfl⟩

theorem fail_bind {fault : Fault} : (Parser.fail fault >>= next).Constant :=
  fun _ _ _ _ hrun => by contradiction

theorem bind (h : parser.Constant) (hnext : ∀ a, (next a).Constant) :
    (parser >>= next).Constant := by
  intro context cursor b last hrun
  obtain ⟨a, between, hfirst, hrest⟩ := bind_eq_ok_iff.mp hrun
  obtain ⟨rfl, hsame⟩ := h hfirst
  obtain ⟨rfl, hsame'⟩ := hnext a hrest
  refine ⟨rfl, fun context' cursor' => ?_⟩
  exact bind_eq_ok_iff.mpr ⟨a, cursor', hsame context' cursor', hsame' context' cursor'⟩

theorem ite {condition : Prop} [Decidable condition] (h : parser.Constant)
    (hother : other.Constant) : (if condition then parser else other).Constant := by
  split
  · exact h
  · exact hother

end Parser.Constant

/-- A place behind a text: the text behind it does not start with a word that goes on with a
statement. -/
structure Brink where
  goal : Goal
  tail : List Char
  /-- The cursor at the first token behind the place. -/
  stop : Cursor
  at_stop : stop.At goal tail
  not_else : stop.token.kind ≠ .word (some .else_)
  not_finally : stop.token.kind ≠ .word (some .finally_)

namespace Brink

variable {α β : Type} (brink : Brink) {context context' : Context} {c c' : Cursor}
  {good : α → Prop} {better : β → Prop}

/-- From the cursor on, the second outcome is the first one in the longer text, if this is good and
comes at the end of the text. -/
def Agrees (good : α → Prop) (c : Cursor) (first second : Outcome α) : Prop :=
  ∀ a, first = .ok (a, .finish) → good a →
    c.Enclosed brink.goal ∧ second = .ok (a, brink.stop)

/-- The statements that end with a brace. What is no statement does not matter. -/
def EndsWithBrace (node : Node) : Prop :=
  node.kind ≠ .absent → node.ending = .brace

/-- Two contexts for the two texts: what is read in front of a sealed token is the same in the
longer one, and so are statements that end with a brace. -/
structure Contexts (context context' : Context) : Prop where
  goal_eq : context.goal = brink.goal
  sound : context.Sound
  same : context'.goal = context.goal ∧ context'.flags = context.flags
  extends_ : ∀ {target : Cursor} (simulation : Simulation context.goal target),
    context.Extends simulation context'
  statements : ∀ {place : Place} {flags : Flags} {c : Cursor}, c.Spelled brink.goal →
    brink.Agrees EndsWithBrace c (context.rules (.statement place) flags c)
      (context'.rules (.statement place) flags (c.extend brink.tail))

/-- The parser ends at a brace, and does so in front of more text. -/
def Shuts (good : α → Prop) (parser : Parser α) : Prop :=
  ∀ ⦃context context'⦄, brink.Contexts context context' → ∀ ⦃c⦄, c.Spelled brink.goal →
    brink.Agrees good c (parser.run context c) (parser.run context' (c.extend brink.tail))

/-- The parser does so from the given token on. -/
def ShutsAt (good : α → Prop) (token : Token) (parser : Parser α) : Prop :=
  ∀ ⦃context context'⦄, brink.Contexts context context' → ∀ ⦃c⦄, c.Spelled brink.goal →
    c.token = token →
      brink.Agrees good c (parser.run context c) (parser.run context' (c.extend brink.tail))

variable {brink}

theorem Contexts.withFlags (h : brink.Contexts context context') (change : Flags → Flags) :
    brink.Contexts (context.withFlags change) (context'.withFlags change) where
  goal_eq := h.goal_eq
  sound := h.sound
  same := ⟨h.same.1, congrArg change h.same.2⟩
  extends_ simulation := (h.extends_ simulation).withFlags change
  statements := h.statements

/-- What stands in front of the brace is the same in front of more text. -/
theorem Contexts.run_extend {parser : Parser α} {a : α} (h : brink.Contexts context context')
    (hrun : parser.run context c = .ok (a, c')) (hlast : c'.Enclosed brink.goal) :
    c.Enclosed brink.goal ∧
      parser.run context' (c.extend brink.tail) = .ok (a, c'.extend brink.tail) := by
  have hreach : c.Reaches brink.goal c' := h.goal_eq ▸ parser.forward h.sound hrun
  obtain ⟨last, hlast', hsealed, hclosed⟩ := hlast
  let simulation := Simulation.extension context.goal last brink.tail hsealed hclosed.parted
  obtain ⟨_, hrun', rfl⟩ := parser.transport h.sound (h.extends_ simulation) (c := c) rfl a c'
    hrun (h.goal_eq.symm ▸ hlast')
  exact ⟨⟨last, hreach.trans hlast', hsealed, hclosed⟩, hrun'⟩

/-- The last token of the text is passed over, with more text behind it or not. -/
theorem advance_last {p : Punct} (hc : c.Spelled brink.goal) (hkind : c.token.kind = .punct p)
    (hp : p.isFinal) (hadvance : c.advance brink.goal = .ok .finish) :
    c.Enclosed brink.goal ∧ (c.extend brink.tail).advance brink.goal = .ok brink.stop := by
  obtain ⟨lexeme, -, hfinish⟩ := Except.map_eq_ok_iff.mp hadvance
  have hrest : c.next.rest = [] := (Cursor.mk.inj hfinish).2
  obtain ⟨d, hd, hhere, -⟩ := here_eq_of_isFinal (hc p hkind).next hkind hp
  have htail : (c.extend brink.tail).next.rest = brink.tail := by
    show c.next.rest ++ brink.tail = brink.tail
    rw [hrest, List.nil_append]
  refine ⟨⟨c, .refl c, congrArg TokenKind.isSealed hkind, ?_⟩, ?_⟩
  · rw [hhere, hrest]
    exact hd
  · rw [Cursor.advance, htail, brink.at_stop.next, ← brink.at_stop.behind]
    rfl

/-- A closing brace. -/
theorem Shuts.expectPunct {p : Punct} (hp : p.isFinal) (a : α) :
    brink.Shuts good (do
      Parser.expectPunct p
      return a) := by
  intro context context' hcontext c hc b hrun _
  obtain ⟨⟨⟩, between, hfirst, hrest⟩ := bind_eq_ok_iff.mp hrun
  obtain ⟨rfl, rfl⟩ := Prod.mk.inj (Except.ok.inj hrest)
  rw [run_expectPunct] at hfirst
  split_ifs at hfirst with hkind
  have hadvance := map_eq_ok hfirst
  rw [hcontext.goal_eq] at hadvance
  obtain ⟨henclosed, hadvance'⟩ := advance_last hc hkind hp hadvance
  have hkind' : (c.extend brink.tail).token.kind = .punct p := hkind
  refine ⟨henclosed, bind_eq_ok_iff.mpr ⟨(), brink.stop, ?_, rfl⟩⟩
  rw [run_expectPunct, if_pos hkind', hcontext.same.1, hcontext.goal_eq, hadvance']
  rfl

theorem ShutsAt.of_shuts {parser : Parser α} {token : Token} (h : brink.Shuts good parser) :
    brink.ShutsAt good token parser :=
  fun _ _ hcontext _ hc _ => h hcontext hc

namespace Shuts

variable {parser other : Parser α} {first : Parser β} {next : β → Parser α}

/-! ### Sequences and choices -/

theorem after (h : ∀ b, brink.Shuts good (next b)) : brink.Shuts good (first >>= next) := by
  intro context context' hcontext c hc a hrun hgood
  obtain ⟨b, between, hfirst, hrest⟩ := bind_eq_ok_iff.mp hrun
  have hreach : c.Reaches brink.goal between :=
    hcontext.goal_eq ▸ first.forward hcontext.sound hfirst
  obtain ⟨henclosed, hrest'⟩ := h b hcontext (hc.reaches hreach) a hrest hgood
  obtain ⟨henclosed', hfirst'⟩ := hcontext.run_extend hfirst henclosed
  exact ⟨henclosed', bind_eq_ok_iff.mpr ⟨b, _, hfirst', hrest'⟩⟩

theorem peek {next : Token → Parser α} (h : ∀ token, brink.ShutsAt good token (next token)) :
    brink.Shuts good (Parser.peek >>= next) :=
  fun _ _ hcontext c hc => h c.token hcontext hc rfl

theorem ite {condition : Prop} [Decidable condition] (h : brink.Shuts good parser)
    (hother : brink.Shuts good other) : brink.Shuts good (if condition then parser else other) := by
  split
  · exact h
  · exact hother

theorem fail_bind {fault : Fault} : brink.Shuts good (Parser.fail fault >>= next) :=
  fun _ _ _ _ _ _ hrun => by contradiction

/-- What is never good does not matter. -/
theorem of_ensures (h : parser.Ensures (fun _ => True) fun a => ¬good a) :
    brink.Shuts good parser :=
  fun _ _ _ _ _ _ hrun hgood => absurd hgood (h trivial hrun)

theorem withFlags {change : Flags → Flags} (h : brink.Shuts good parser) :
    brink.Shuts good (Parser.withFlags change parser) :=
  fun _ _ hcontext _ hc => h (hcontext.withFlags change) hc

theorem statement (place : Place) : brink.Shuts EndsWithBrace (Parser.statement place) := by
  intro context context' hcontext c hc
  show brink.Agrees _ c _ (context'.rules (.statement place) context'.flags _)
  rw [hcontext.same.2]
  exact hcontext.statements hc

/-- Something is made of what is read. -/
theorem map (h : brink.Shuts better first) {f : β → α} (hf : ∀ b, good (f b) → better b) :
    brink.Shuts good (do return f (← first)) := by
  intro context context' hcontext c hc a hrun hgood
  obtain ⟨b, between, hfirst, hrest⟩ := bind_eq_ok_iff.mp hrun
  obtain ⟨rfl, rfl⟩ := Prod.mk.inj (Except.ok.inj hrest)
  obtain ⟨henclosed, hfirst'⟩ := h hcontext hc b hfirst (hf b hgood)
  exact ⟨henclosed, bind_eq_ok_iff.mpr ⟨b, _, hfirst', rfl⟩⟩

/-- A function in a context of its own. -/
theorem functionBody (form : FunctionForm) :
    brink.Shuts (fun _ => True) (Parser.functionBody form) :=
  .withFlags (.after fun _ => .after fun _ => .expectPunct rfl _)

/-- Behind what ends the text, something is made of it. -/
theorem bind_constant (h : brink.Shuts better first) (hnext : ∀ b, (next b).Constant)
    (hgood : ∀ b, (next b).Ensures (fun _ => True) fun a => good a → better b) :
    brink.Shuts good (first >>= next) := by
  intro context context' hcontext c hc a hrun ha
  obtain ⟨b, between, hfirst, hrest⟩ := bind_eq_ok_iff.mp hrun
  obtain ⟨rfl, hsame⟩ := hnext b hrest
  obtain ⟨henclosed, hfirst'⟩ := h hcontext hc b hfirst (hgood b trivial hrest ha)
  exact ⟨henclosed, bind_eq_ok_iff.mpr ⟨b, _, hfirst', hsame context' brink.stop⟩⟩

/-- Behind what ends the text, a keyword is looked for that is not at the brink either. -/
theorem bind_eatKeyword {k : Keyword} {alternative rest : β → Parser α}
    (h : brink.Shuts better first) (hk : brink.stop.token.kind ≠ .word (some k))
    (halternative : ∀ b, brink.Shuts good (alternative b)) (hrest : ∀ b, (rest b).Constant)
    (hgood : ∀ b, (rest b).Ensures (fun _ => True) fun a => good a → better b) :
    brink.Shuts good (do
      let b ← first
      if ← Parser.eatKeyword k then alternative b else rest b) := by
  intro context context' hcontext c hc a hrun ha
  obtain ⟨b, between, hfirst, hchoice⟩ := bind_eq_ok_iff.mp hrun
  obtain ⟨taken, middle, heat, hbranch⟩ := bind_eq_ok_iff.mp hchoice
  obtain ⟨rfl, -⟩ | ⟨rfl, hne, rfl⟩ := eatKeyword_eq_ok heat
  · have hreach : c.Reaches brink.goal middle := by
      rw [← hcontext.goal_eq]
      exact (first.forward hcontext.sound hfirst).trans
        ((Parser.eatKeyword k).forward hcontext.sound heat)
    obtain ⟨henclosed, hbranch'⟩ := halternative b hcontext (hc.reaches hreach) a hbranch ha
    obtain ⟨henclosed', heat'⟩ := hcontext.run_extend heat henclosed
    obtain ⟨henclosed'', hfirst'⟩ := hcontext.run_extend hfirst henclosed'
    refine ⟨henclosed'', bind_eq_ok_iff.mpr ⟨b, _, hfirst', ?_⟩⟩
    exact bind_eq_ok_iff.mpr ⟨true, _, heat', hbranch'⟩
  · obtain ⟨rfl, hsame⟩ := hrest b hbranch
    obtain ⟨henclosed, hfirst'⟩ := h hcontext hc b hfirst (hgood b trivial hbranch ha)
    refine ⟨henclosed, bind_eq_ok_iff.mpr ⟨b, _, hfirst', ?_⟩⟩
    exact bind_eq_ok_iff.mpr ⟨false, _, run_eatKeyword_of_ne hk, hsame context' brink.stop⟩

/-! ### Blocks, functions and classes -/

section Brackets

variable {good : Node → Prop}

theorem block : brink.Shuts good Parser.block :=
  .after fun _ => .after fun _ => .expectPunct rfl _

theorem functionRule (name : FunctionForm → Parser Node) :
    brink.Shuts good (Parser.functionRule name) :=
  .after fun _ => .after fun _ => .after fun _ => .after fun _ => .after fun _ =>
    .map (.functionBody _) fun _ _ => trivial

theorem functionDeclaration (place : Place) :
    brink.Shuts good (Parser.functionDeclaration place) := by
  refine .bind_constant (.functionRule _) (fun node => ?_) fun node _ _ _ _ _ _ _ => trivial
  split
  · exact .ite .fail_bind (.pure _)
  · exact .pure _

theorem classRule : brink.Shuts good Parser.classRule := by
  refine .after fun _ => .after fun _ => .after fun _ => ?_
  refine .ite (.after fun _ => ?_) (.after fun _ => ?_)
  all_goals exact .after fun _ => .ite (.after fun _ => .after fun _ => .after fun _ =>
    .expectPunct rfl _) (.after fun _ => .after fun _ => .after fun _ => .expectPunct rfl _)

theorem classDeclaration (place : Place) : brink.Shuts good (Parser.classDeclaration place) :=
  .ite .fail_bind .classRule

theorem switchStatement : brink.Shuts good Parser.switchStatement :=
  .after fun _ => .after fun _ => .after fun _ => .after fun _ => .expectPunct rfl _

theorem catchClause : brink.Shuts good Parser.catchClause := by
  have hclause (target : Node) : brink.Shuts good (do
      return Node.mk .catchClause [target, ← Parser.block]) :=
    .map .block fun _ _ => trivial
  exact .after fun _ => .after fun _ => .ite (.after fun _ => .after fun _ => hclause _)
    (.after fun _ => hclause _)

/-- What stands behind the block of a `try` statement that catches. -/
theorem bind_finallyClause {first : Parser Node} (h : brink.Shuts (fun _ => True) first)
    (body : Node) :
    brink.Shuts good (do
      let handler ← first
      if ← Parser.eatKeyword .finally_ then
        let last ← Parser.block
        return Node.mk .tryStatement [body, handler, last]
      else
        if handler.kind == .absent then Parser.unexpected
        return Node.mk .tryStatement [body, handler, ← Parser.absent]) := by
  refine .bind_eatKeyword h brink.not_finally (fun handler => .map .block fun _ _ => trivial)
    (fun handler => ?_) fun _ _ _ _ _ _ _ _ => trivial
  exact .ite .fail_bind (.bind (.pure _) fun _ => .pure _)

theorem tryStatement : brink.Shuts good Parser.tryStatement := by
  refine .after fun _ => .after fun body => .after fun _ => .ite ?_ ?_
  · exact .bind_finallyClause .catchClause body
  · -- Without a clause that catches there is a last block.
    show brink.Shuts good (Pure.pure Node.absent >>= _)
    rw [pure_bind]
    exact .after fun _ => .ite (.map .block fun _ _ => trivial) .fail_bind

end Brackets

/-! ### Statements -/

/-- A statement around another one ends with a brace if this one does. -/
theorem wrap {f : Node → Node} (hkind : ∀ node, (f node).kind ≠ .absent)
    (hf : ∀ node, (f node).ending = node.ending) :
    brink.Shuts EndsWithBrace (do return f (← Parser.statement .alone)) :=
  .map (.statement .alone) fun node hbrace _ => (hf node).symm.trans (hbrace (hkind node))

theorem ifStatement : brink.Shuts EndsWithBrace Parser.ifStatement := by
  refine .after fun _ => .after fun condition => ?_
  have hsecond (whenTrue : Node) : brink.Shuts EndsWithBrace (do
      return Node.mk .ifStatement [condition, whenTrue, ← Parser.statement .alone]) := by
    refine .map (.statement .alone) fun whenFalse hbrace hkind => ?_
    have hending := hbrace nofun
    rw [Node.ending_ifStatement hkind] at hending
    split_ifs at hending
    exact hending
  have habsent {whenTrue : Node} : (do
      return Node.mk .ifStatement [condition, whenTrue, ← Parser.absent] : Parser Node).Ensures
        (fun _ => True) fun node => EndsWithBrace node → EndsWithBrace whenTrue := by
    have hnone : Parser.absent.Ensures (fun _ => True) fun node => node = .absent := .pure rfl
    refine hnone.bind fun node hnode => ?_
    subst hnode
    exact .pure fun hbrace _ => hbrace nofun
  have hrest (whenTrue : Node) : (do
      return Node.mk .ifStatement [condition, whenTrue, ← Parser.absent] : Parser Node).Constant :=
    .bind (.pure _) fun _ => .pure _
  exact .bind_eatKeyword (.statement .alone) brink.not_else hsecond hrest fun _ => habsent

theorem labeledStatement : brink.Shuts EndsWithBrace Parser.labeledStatement :=
  .after fun _ => .after fun _ => .wrap (fun _ => nofun) fun _ => rfl

theorem whileStatement : brink.Shuts EndsWithBrace Parser.whileStatement :=
  .after fun _ => .after fun _ => .wrap (fun _ => nofun) fun _ => rfl

theorem withStatement : brink.Shuts EndsWithBrace Parser.withStatement :=
  .after fun _ => .after fun _ => .wrap (fun _ => nofun) fun _ => rfl

theorem forInRest (target : Node) : brink.Shuts EndsWithBrace (Parser.forInRest target) :=
  .after fun _ => .after fun _ => .wrap (fun _ => nofun) fun _ => rfl

theorem forOfRest (isAwait : Bool) (target : Node) :
    brink.Shuts EndsWithBrace (Parser.forOfRest isAwait target) :=
  .after fun _ => .after fun _ => .wrap (fun _ => nofun) fun _ => rfl

theorem forRest (isAwait : Bool) (initial : Node) :
    brink.Shuts EndsWithBrace (Parser.forRest isAwait initial) :=
  .ite .fail_bind (.after fun _ => .after fun _ => .after fun _ =>
    .wrap (fun _ => nofun) fun _ => rfl)

theorem forDeclaration (isAwait : Bool) (kind : VariableKind) :
    brink.Shuts EndsWithBrace (Parser.forDeclaration isAwait kind) := by
  refine .after fun _ => .after fun _ => .ite (.after fun _ => .forOfRest _ _) ?_
  refine .after fun _ => .ite (.ite .fail_bind (.after fun _ => .forInRest _)) ?_
  exact .after fun _ => .forRest _ _

theorem forExpression (isAwait : Bool) :
    brink.Shuts EndsWithBrace (Parser.forExpression isAwait) := by
  refine .after fun _ => .after fun _ => .after fun _ => .after fun _ => .ite ?_ ?_
  · exact .ite .fail_bind (.after fun _ => .after fun _ => .forOfRest _ _)
  · refine .after fun _ => .ite ?_ (.forRest _ _)
    exact .ite .fail_bind (.after fun _ => .after fun _ => .forInRest _)

theorem forStatement : brink.Shuts EndsWithBrace Parser.forStatement := by
  refine .after fun _ => .after fun isAwait => .after fun _ => .ite .fail_bind ?_
  refine .after fun _ => .after fun _ => .ite (.after fun _ => .forRest _ _) (.after fun kind => ?_)
  cases kind with
  | some kind => exact .forDeclaration _ kind
  | none => exact .forExpression _

/-! ### Statements that start with a word -/

theorem not_endsWithBrace {node : Node} (h : node.ending = .semicolon) : ¬EndsWithBrace node := by
  intro hbrace
  have hkind : node.kind ≠ .absent := Node.kind_ne_absent_of_ending (by rw [h]; decide)
  cases h.symm.trans (hbrace hkind)

/-- A statement that ends with a semicolon. -/
theorem of_semicolon {parser : Parser Node}
    (h : parser.Ensures (fun _ => True) fun node => node.ending = .semicolon) :
    brink.Shuts EndsWithBrace parser :=
  .of_ensures (h.mono fun _ => not_endsWithBrace)

theorem expressionStatement : brink.Shuts EndsWithBrace Parser.expressionStatement :=
  .of_semicolon (.after fun _ => .after fun _ => .pure rfl)

theorem variableStatement (kind : VariableKind) :
    brink.Shuts EndsWithBrace (Parser.variableStatement kind) := by
  refine .of_semicolon ((Seam.ensures_variableList kind).bind fun node hnode => ?_)
  exact .after fun _ => .after fun _ => .pure hnode

theorem nestedDeclaration : brink.Shuts EndsWithBrace Parser.nestedDeclaration := by
  refine .of_ensures (Seam.ensures_nestedDeclaration.mono fun node h hbrace => ?_)
  cases h.1.symm.trans (hbrace h.2)

theorem letStatement (place : Place) : brink.Shuts EndsWithBrace (Parser.letStatement place) := by
  refine .after fun second => .after fun _ => .ite .expressionStatement ?_
  split
  · exact .expressionStatement
  · exact .ite .fail_bind (.variableStatement _)
  · exact .of_semicolon (.after fun _ => .after fun _ => .pure rfl)

theorem nameStatement (place : Place) : brink.Shuts EndsWithBrace (Parser.nameStatement place) := by
  refine .after fun _ => .ite (.functionDeclaration place) (.after fun kind => ?_)
  split
  · exact .ite .fail_bind (.variableStatement _)
  · exact .after fun _ => .after fun _ => .ite .labeledStatement .expressionStatement

theorem jump {keyword : Keyword} {kind : NodeKind}
    (h : ∀ label, (Node.mk kind [label]).ending = .semicolon) :
    brink.Shuts EndsWithBrace (Parser.jump keyword kind) := by
  refine .of_semicolon (.after fun _ => .after fun _ => .ite (fun _ => ?_) fun _ => ?_)
  all_goals exact .after fun _ => .after fun _ => .pure (h _)

theorem returnStatement : brink.Shuts EndsWithBrace Parser.returnStatement := by
  refine .of_semicolon (.after fun _ => .ite (fun _ => .after fun _ => ?_) fun _ => .fail_bind)
  refine .after fun _ => .ite (fun _ => ?_) fun _ => ?_
  all_goals exact .after fun _ => .after fun _ => .pure rfl

theorem throwStatement : brink.Shuts EndsWithBrace Parser.throwStatement :=
  .of_semicolon (.after fun _ => .after fun _ => .ite (fun _ => .fail_bind) fun _ =>
    .after fun _ => .after fun _ => .pure rfl)

theorem keywordStatement (place : Place) (keyword : Keyword) :
    brink.Shuts EndsWithBrace (Parser.keywordStatement place keyword) := by
  unfold Parser.keywordStatement
  split
  · exact .variableStatement _
  · exact .ite .fail_bind (.variableStatement _)
  · exact .letStatement _
  · exact .functionDeclaration _
  · exact .classDeclaration _
  · exact .ifStatement
  · exact .forStatement
  · exact .whileStatement
  · exact .of_semicolon (.after fun _ => .after fun _ => .after fun _ => .after fun _ =>
      .after fun _ => .pure rfl)
  · exact .switchStatement
  · exact .withStatement
  · exact .jump fun _ => rfl
  · exact .jump fun _ => rfl
  · exact .returnStatement
  · exact .throwStatement
  · exact .tryStatement
  · exact .of_semicolon (.after fun _ => .after fun _ => .pure rfl)
  · exact .nestedDeclaration
  · exact .after fun _ => .ite .nestedDeclaration .expressionStatement
  · exact .nameStatement _

/-- A semicolon alone. -/
theorem emptyStatement {good : Node → Prop} {token : Token}
    (hkind : token.kind = .punct .semicolon) :
    brink.ShutsAt good token (do
      Parser.advance
      return Node.mk .emptyStatement []) := by
  rintro context context' hcontext c hc rfl node hrun _
  obtain ⟨⟨⟩, between, hfirst, hrest⟩ := bind_eq_ok_iff.mp hrun
  obtain ⟨rfl, rfl⟩ := Prod.mk.inj (Except.ok.inj hrest)
  have hadvance : c.advance brink.goal = .ok .finish := hcontext.goal_eq ▸ map_eq_ok hfirst
  obtain ⟨henclosed, hadvance'⟩ := advance_last hc hkind rfl hadvance
  refine ⟨henclosed, bind_eq_ok_iff.mpr ⟨(), brink.stop, ?_, rfl⟩⟩
  show ((c.extend brink.tail).advance context'.goal).map _ = _
  rw [hcontext.same.1, hcontext.goal_eq, hadvance']
  rfl

theorem statementRule (place : Place) : brink.Shuts EndsWithBrace (Parser.statementRule place) := by
  refine .peek fun token => ?_
  split
  · exact .of_shuts .block
  · next hkind => exact emptyStatement hkind
  · exact .of_shuts (.classDeclaration place)
  · exact .of_shuts (.keywordStatement place _)
  · exact .of_shuts (.nameStatement place)
  · exact .of_shuts .expressionStatement

end Shuts

/-! ### The contexts of the grammar -/

/-- **Statements that end with a brace end there in front of more text.** -/
theorem contexts_ruleContext {width width' depth depth' : Nat} {flags : Flags}
    (hwidth : width ≤ width') (hdepth : depth ≤ depth') :
    brink.Contexts (ruleContext brink.goal width flags depth)
      (ruleContext brink.goal width' flags depth') := by
  have hcontexts {depth depth' : Nat} {flags : Flags} (hdepth : depth ≤ depth')
      (hstatements : ∀ {place : Place} {flags : Flags} {c : Cursor}, c.Spelled brink.goal →
        brink.Agrees EndsWithBrace c (rulesAt brink.goal width depth (.statement place) flags c)
          (rulesAt brink.goal width' depth' (.statement place) flags (c.extend brink.tail))) :
      brink.Contexts (ruleContext brink.goal width flags depth)
        (ruleContext brink.goal width' flags depth') :=
    ⟨rfl, Context.sound_ruleContext brink.goal width flags depth, ⟨rfl, rfl⟩,
      fun simulation => Context.extends_ruleContext simulation hwidth hdepth, hstatements⟩
  induction depth generalizing depth' flags with
  | zero =>
    refine hcontexts hdepth fun _ _ hrun => ?_
    contradiction
  | succ depth ih =>
    obtain ⟨depth', rfl⟩ : ∃ n, depth' = n + 1 := ⟨depth' - 1, by omega⟩
    exact hcontexts hdepth fun hc =>
      Shuts.statementRule _ (ih (Nat.le_of_succ_le_succ hdepth)) hc

end Brink

end ModuleBundler.Script
