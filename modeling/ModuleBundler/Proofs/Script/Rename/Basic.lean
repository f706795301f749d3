import ModuleBundler.Proofs.Script.Extend.Seam

/-!
# Reading with `await` as a name

What is read with `await` as an operator can be read with `await` as a name as well. The two ways
part at the first word that is used as the operator: as a name it is an operand itself, and what it
waits for stands behind it. If that starts on the same line with a token that can follow no name, it
*blocks* all that may go on with an operand, and no statement ends in front of it.

So a parser *keeps* to what it reads when `await` becomes a name, or it fails; or it *strays*, and
stops in front of a token that blocks. What comes next *stalls* there, and fails as soon as it needs
a token of its own.

## Main definitions

* `TokenKind.blocks`, `Cursor.Blocked` — tokens that can follow no name.
* `Parser.Halts`, `Parser.Stalls` — parsers that come no further than to some cursors.
* `Passage.Guarded` — texts in which every word `await` stands in front of such a token.
* `Passage.Keeps`, `Passage.Strays` — parsers where `await` becomes a name.

## Main results

* `Passage.Renames.bind` — sequences of parsers.
-/

namespace ModuleBundler.Script

/-! ### Tokens that block -/

/-- Can a token of the kind start an operand, and follow no name on its line? -/
def TokenKind.blocks : TokenKind → Bool
  | .word (some .in_) | .word (some .instanceof_) | .word (some .of_) => false
  | .word _ | .number | .bigint | .string _ => true
  | .punct .not | .punct .complement | .punct .openBrace | .punct .decorator => true
  | _ => false

/-- The next token stands on the line of the last one and can follow no name. -/
structure Cursor.Blocked (cursor : Cursor) : Prop where
  blocks : cursor.token.kind.blocks
  same_line : cursor.token.newline = false

/-- The next token is the word `await`, behind which such a token stands. -/
structure Cursor.Awaits (goal : Goal) (cursor : Cursor) : Prop where
  kind_eq : cursor.token.kind = .word (some .await_)
  blocked : ∀ ⦃next⦄, cursor.advance goal = .ok next → next.Blocked

theorem TokenKind.beq_of_blocks {kind other : TokenKind} (h : kind.blocks)
    (hother : other.blocks = false) : (kind == other) = false := by
  refine beq_eq_false_iff_ne.mpr fun heq => ?_
  rw [heq, hother] at h
  contradiction

theorem Cursor.Blocked.beq {cursor : Cursor} {kind : TokenKind} (h : cursor.Blocked)
    (hkind : kind.blocks = false) : (cursor.token.kind == kind) = false :=
  TokenKind.beq_of_blocks h.blocks hkind

/-! ### Where parsers stop -/

namespace Parser

variable {α β σ : Type} {parser other : Parser α} {next : α → Parser β} {context : Context}
  {cursor : Cursor} {start middle stop : Cursor → Prop}

/-- Whatever the parser comes to, it stops at a cursor of the kind. -/
def Stops (parser : Parser α) (context : Context) (cursor : Cursor) (stop : Cursor → Prop) : Prop :=
  ∀ ⦃a last⦄, parser.run context cursor = .ok (a, last) → stop last

/-- From every cursor of the first kind, the parser comes to one of the second kind at most. -/
def Halts (start stop : Cursor → Prop) (parser : Parser α) : Prop :=
  ∀ ⦃context cursor⦄, start cursor → parser.Stops context cursor stop

/-- In front of a token that blocks, the parser comes to a cursor of the kind at most. -/
abbrev Stalls (stop : Cursor → Prop) (parser : Parser α) : Prop :=
  parser.Halts Cursor.Blocked stop

theorem Stops.bind (h : parser.Stops context cursor middle)
    (hnext : ∀ a ⦃between⦄, middle between → (next a).Stops context between stop) :
    (parser >>= next).Stops context cursor stop := by
  intro b last hrun
  obtain ⟨a, between, hfirst, hrest⟩ := bind_eq_ok_iff.mp hrun
  exact hnext a (h hfirst) hrest

namespace Halts

protected theorem bind (h : parser.Halts start middle) (hnext : ∀ a, (next a).Halts middle stop) :
    (parser >>= next).Halts start stop :=
  fun _ _ hstart => (h hstart).bind fun a _ hbetween => hnext a hbetween

/-- From nowhere, a parser comes to nothing. -/
theorem of_nowhere : parser.Halts (fun _ => False) stop :=
  fun _ _ hstart => hstart.elim

/-- Nothing is read behind a parser that fails. -/
theorem bind_of_fails (h : parser.Halts start fun _ => False) :
    (parser >>= next).Halts start stop :=
  .bind h fun _ => of_nowhere

protected theorem pure {a : α} : (Pure.pure a : Parser α).Halts stop stop := by
  intro context cursor hstop b last hrun
  obtain ⟨-, rfl⟩ := Prod.mk.inj (Except.ok.inj hrun)
  exact hstop

protected theorem fail {fault : Fault} : (Parser.fail fault : Parser α).Halts start stop :=
  fun _ _ _ _ _ hrun => nomatch hrun

theorem fail_bind {fault : Fault} {next : α → Parser β} :
    (Parser.fail fault >>= next).Halts start stop :=
  .bind_of_fails .fail

protected theorem unexpected : (Parser.unexpected : Parser α).Halts start stop :=
  .fail

/-- The result is made of what is read last. -/
theorem make {f : α → β} (h : parser.Halts start stop) :
    (parser >>= fun a => Pure.pure (f a)).Halts start stop :=
  .bind h fun _ => .pure

section Choice

variable {condition : Prop} [Decidable condition]

protected theorem ite (h : parser.Halts start stop) (hother : other.Halts start stop) :
    (if condition then parser else other).Halts start stop := by
  split
  · exact h
  · exact hother

theorem ite_neg (hc : ¬condition) (h : other.Halts start stop) :
    (if condition then parser else other).Halts start stop := by
  rwa [if_neg hc]

theorem ite_pos (hc : condition) (h : parser.Halts start stop) :
    (if condition then parser else other).Halts start stop := by
  rwa [if_pos hc]

end Choice

/-- What comes first is known. -/
theorem known {a : α} (hknown : ∀ ⦃context cursor⦄, start cursor →
    parser.run context cursor = .ok (a, cursor)) (h : (next a).Halts start stop) :
    (parser >>= next).Halts start stop := by
  intro context cursor hstart b last hrun
  rw [run_bind, hknown hstart] at hrun
  exact h hstart hrun

theorem flags {next : Flags → Parser β} (h : ∀ flags, (next flags).Halts start stop) :
    (Parser.flags >>= next).Halts start stop :=
  fun context _ hstart => h context.flags hstart

/-! ### Loops -/

theorem rounds {body : σ → Parser (σ ⊕ α)} (h : ∀ state, (body state).Halts stop stop)
    (fuel : Nat) (state : σ) : (Parser.rounds body fuel state).Halts stop stop := by
  induction fuel generalizing state with
  | zero => exact .fail
  | succ fuel ih =>
    refine .bind (h state) fun outcome => ?_
    cases outcome with
    | inl state => exact ih state
    | inr a => exact .pure

protected theorem loop {body : σ → Parser (σ ⊕ α)} (h : ∀ state, (body state).Halts stop stop)
    (state : σ) : (Parser.loop body state).Halts stop stop :=
  fun context _ hstop => rounds h (context.width + 1) state hstop

/-! ### In front of a token that blocks -/

/-- The next token is one that blocks. -/
theorem peek {next : Token → Parser β}
    (h : ∀ token : Token, token.kind.blocks → token.newline = false →
      (next token).Stalls stop) : (Parser.peek >>= next).Stalls stop :=
  fun _ cursor hblocked => h cursor.token hblocked.blocks hblocked.same_line hblocked

theorem atPunct {p : Punct} {next : Bool → Parser β} (hp : (TokenKind.punct p).blocks = false)
    (h : (next false).Stalls stop) : (Parser.atPunct p >>= next).Stalls stop :=
  .known (fun _ cursor hblocked =>
    congrArg (fun found => Except.ok (found, cursor)) (hblocked.beq hp)) h

theorem run_eatPunct {p : Punct} (hp : (TokenKind.punct p).blocks = false)
    (h : cursor.Blocked) : (Parser.eatPunct p).run context cursor = .ok (false, cursor) := by
  have hfound : (Parser.atPunct p).run context cursor = .ok (false, cursor) :=
    congrArg (fun found => Except.ok (found, cursor)) (h.beq hp)
  rw [Parser.eatPunct, run_bind, hfound]
  rfl

theorem eatPunct {p : Punct} {next : Bool → Parser β} (hp : (TokenKind.punct p).blocks = false)
    (h : (next false).Stalls stop) : (Parser.eatPunct p >>= next).Stalls stop :=
  .known (fun _ _ => run_eatPunct hp) h

theorem expectPunct {p : Punct} {next : Unit → Parser β}
    (hp : (TokenKind.punct p).blocks = false) : (Parser.expectPunct p >>= next).Stalls stop := by
  refine .bind_of_fails ?_
  rw [expectPunct_eq]
  exact .atPunct hp (.ite_neg Bool.false_ne_true .unexpected)

theorem atKeyword {k : Keyword} {next : Bool → Parser β}
    (hk : (TokenKind.word (some k)).blocks = false) (h : (next false).Stalls stop) :
    (Parser.atKeyword k >>= next).Stalls stop :=
  .known (fun _ cursor hblocked =>
    congrArg (fun found => Except.ok (found, cursor)) (hblocked.beq hk)) h

/-- No statement ends there. -/
theorem endStatement {next : Unit → Parser β} :
    (Parser.endStatement >>= next).Stalls stop := by
  refine .bind_of_fails (.peek fun token hblocks hline => ?_)
  have hne {kind : TokenKind} : kind.blocks = false → (token.kind == kind) = false :=
    TokenKind.beq_of_blocks hblocks
  rw [hne rfl, hne rfl, hne rfl, hline]
  exact .fail

/-- Neither does a substitution. -/
theorem reread_template {next : Unit → Parser β} :
    (Parser.reread .template >>= next).Stalls stop := by
  refine .bind_of_fails fun context cursor hblocked a last hrun => ?_
  have happlies : Rereading.template.applies cursor.next.token.kind = false := by
    unfold Rereading.applies
    split
    · contradiction
    · contradiction
    · next hkind => exact absurd hkind (beq_eq_false_iff_ne.mp (hblocked.beq rfl))
    · rfl
  have hfail : cursor.reread .template = .error .unexpectedToken := by
    simp [Cursor.reread, Lexeme.reread, happlies, Except.map]
  have hrun' : (cursor.reread .template).map ((), ·) = .ok (a, last) := hrun
  rw [hfail] at hrun'
  contradiction

end Halts

end Parser

/-- A keyword that is passed over has no escapes. -/
theorem Parser.not_escaped_of_advanceKeyword {context : Context} {cursor next : Cursor}
    (h : advanceKeyword.run context cursor = .ok ((), next)) : cursor.token.escaped = false := by
  by_contra hescaped
  rw [Bool.not_eq_false] at hescaped
  have hfail : (if cursor.token.escaped then Parser.fail .escapedKeyword >>= fun _ => Parser.advance
    else Parser.advance).run context cursor = .ok ((), next) := h
  rw [if_pos hescaped] at hfail
  contradiction

/-! ### Where `await` becomes a name -/

/-- The same with `await` as a name. -/
def Flags.named (flags : Flags) : Flags :=
  { flags with allowAwait := false }

/-- The same with `await` as a name. -/
def Context.named (context : Context) : Context :=
  context.withFlags Flags.named

/-- Where the rule may stop when `await` becomes a name, if it reads anything else: what operands
are read by strays as they do, and all other rules fail. -/
def Rule.Stop : Rule → Cursor → Prop
  | .assignment | .operators _ | .unary => Cursor.Blocked
  | .operand _ | .binding | .statement _ => fun _ => False

/-- Does the rule read an expression? -/
def Rule.isExpression : Rule → Bool
  | .assignment | .operators _ | .unary | .operand _ => true
  | .binding | .statement _ => false

/-- A passage of a text, up to a target. -/
structure Passage where
  goal : Goal
  target : Cursor

/-- The word `await` is a name, and an expression that starts with it stops behind it. -/
structure Context.Names (goal : Goal) (context : Context) : Prop where
  goal_eq : context.goal = goal
  flags : context.flags.allowAwait = false
  rules : ∀ ⦃rule flags cursor⦄, rule.isExpression → flags.allowAwait = false →
    cursor.Awaits goal → ∀ ⦃node last⦄,
      context.rules rule flags cursor = .ok (node, last) → last.Blocked

namespace Passage

variable {α β σ : Type} {passage : Passage} {parser other : Parser α} {next : α → Parser β}
  {context : Context} {cursor last : Cursor} {middle stop : Cursor → Prop}

/-- On the way to the target, every word `await` stands in front of a token that blocks. -/
def Guarded (passage : Passage) (cursor : Cursor) : Prop :=
  ∀ ⦃wait⦄, cursor.Reaches passage.goal wait → wait.token.kind = .word (some .await_) →
    wait.token.escaped = false → ∀ ⦃next⦄, wait.advance passage.goal = .ok next →
      next.Reaches passage.goal passage.target → next.Blocked

theorem Guarded.reaches (h : passage.Guarded cursor) (hreach : cursor.Reaches passage.goal last) :
    passage.Guarded last :=
  fun _ hwait => h (hreach.trans hwait)

/-- A word `await` that is passed over on the way stands in front of such a token. -/
theorem Guarded.awaits (h : passage.Guarded cursor)
    (hkind : cursor.token.kind = .word (some .await_)) (hescaped : cursor.token.escaped = false)
    (hpasses : cursor.Passes passage.goal passage.target) : cursor.Awaits passage.goal := by
  obtain ⟨second, hadvance, hreach⟩ := hpasses.exists_advance hkind
  refine ⟨hkind, fun next hnext => ?_⟩
  obtain rfl := Except.ok.inj (hadvance.symm.trans hnext)
  exact h (.refl _) hkind hescaped hadvance hreach

/-- The second outcome, which is that with `await` as a name, is the first one, or it stops at a
cursor of the kind. -/
def Parted (passage : Passage) (stop : Cursor → Prop) (first second : Outcome α) : Prop :=
  ∀ ⦃a last⦄, first = .ok (a, last) → last.Reaches passage.goal passage.target →
    second = .ok (a, last) ∨ ∀ ⦃a last⦄, second = .ok (a, last) → stop last

/-- Where `await` becomes a name, the rules part as they may. -/
structure Contexts (passage : Passage) (context : Context) : Prop where
  sound : context.Sound
  names : context.named.Names passage.goal
  rules : ∀ ⦃rule flags cursor⦄, passage.Guarded cursor →
    passage.Parted rule.Stop (context.rules rule flags cursor)
      (context.rules rule flags.named cursor)

theorem Contexts.goal_eq (h : passage.Contexts context) : context.goal = passage.goal :=
  h.names.goal_eq

theorem Contexts.withFlags (h : passage.Contexts context) {change : Flags → Flags} :
    passage.Contexts (context.withFlags change) where
  sound := h.sound
  names := ⟨h.names.goal_eq, rfl, h.names.rules⟩
  rules := h.rules

/-- Where `await` becomes a name, the parser comes to the same, or to a cursor of the kind at
most. -/
def Renames (passage : Passage) (stop : Cursor → Prop) (parser : Parser α) : Prop :=
  ∀ ⦃context⦄, passage.Contexts context → ∀ ⦃cursor⦄, passage.Guarded cursor →
    passage.Parted stop (parser.run context cursor) (parser.run context.named cursor)

/-- The parser comes to the same, or it fails. -/
abbrev Keeps (passage : Passage) (parser : Parser α) : Prop :=
  passage.Renames (fun _ => False) parser

/-- The parser comes to the same, or it stops in front of a token that blocks. -/
abbrev Strays (passage : Passage) (parser : Parser α) : Prop :=
  passage.Renames Cursor.Blocked parser

namespace Renames

/-- What does not ask for the word `await` comes to the same. -/
theorem of_same (h : ∀ context cursor,
    parser.run context.named cursor = parser.run context cursor) : passage.Renames stop parser :=
  fun context _ cursor _ _ _ hrun _ => .inl ((h context cursor).trans hrun)

theorem of_keeps (h : passage.Keeps parser) : passage.Renames stop parser :=
  fun _ hcontext _ hguarded _ _ hrun hreach =>
    (h hcontext hguarded hrun hreach).imp_right fun hfails _ _ hrun => (hfails hrun).elim

/-! ### Sequences -/

/-- **A sequence of parsers**: where the first one has stopped, the second one goes on to where the
sequence may stop. -/
protected theorem bind (h : passage.Renames middle parser)
    (hnext : ∀ a, passage.Renames stop (next a)) (hhalts : ∀ a, (next a).Halts middle stop) :
    passage.Renames stop (parser >>= next) := by
  intro context hcontext cursor hguarded b last hrun hreach
  obtain ⟨a, between, hfirst, hrest⟩ := Parser.bind_eq_ok_iff.mp hrun
  have hforward := parser.forward hcontext.sound hfirst
  have hforward' := (next a).forward hcontext.sound hrest
  rw [hcontext.goal_eq] at hforward hforward'
  obtain hsame | hstops := h hcontext hguarded hfirst (hforward'.trans hreach)
  · obtain hsame' | hstops' := hnext a hcontext (hguarded.reaches hforward) hrest hreach
    · exact .inl (Parser.bind_eq_ok_iff.mpr ⟨a, between, hsame, hsame'⟩)
    · refine .inr fun b' last' hrun' => ?_
      obtain ⟨a', between', hfirst', hrest'⟩ := Parser.bind_eq_ok_iff.mp hrun'
      obtain ⟨rfl, rfl⟩ := Prod.mk.inj (Except.ok.inj (hsame.symm.trans hfirst'))
      exact hstops' hrest'
  · refine .inr fun b' last' hrun' => ?_
    obtain ⟨a', between', hfirst', hrest'⟩ := Parser.bind_eq_ok_iff.mp hrun'
    exact hhalts a' (hstops hfirst') hrest'

/-- What comes first keeps to what it reads. -/
theorem after (h : passage.Keeps parser) (hnext : ∀ a, passage.Renames stop (next a)) :
    passage.Renames stop (parser >>= next) :=
  .bind h hnext fun _ => .of_nowhere

/-- Behind a parser that may stray, the sequence fails in front of a token that blocks. -/
theorem before (h : passage.Strays parser) (hnext : ∀ a, passage.Renames stop (next a))
    (hstalls : ∀ a, (next a).Stalls stop) : passage.Renames stop (parser >>= next) :=
  .bind h hnext hstalls

protected theorem pure {a : α} : passage.Renames stop (Pure.pure a) :=
  .of_same fun _ _ => rfl

protected theorem fail {fault : Fault} : passage.Renames stop (Parser.fail fault : Parser α) :=
  .of_same fun _ _ => rfl

theorem fail_bind {fault : Fault} {next : α → Parser β} :
    passage.Renames stop (Parser.fail fault >>= next) :=
  .of_same fun _ _ => rfl

/-- The result is made of what is read last. -/
theorem make {f : α → β} (h : passage.Renames stop parser) :
    passage.Renames stop (parser >>= fun a => Pure.pure (f a)) :=
  .bind h (fun _ => .pure) fun _ => .pure

section Choice

variable {condition : Prop} [Decidable condition]

protected theorem ite (h : passage.Renames stop parser) (hother : passage.Renames stop other) :
    passage.Renames stop (if condition then parser else other) := by
  split
  · exact h
  · exact hother

/-- A choice between two parsers in front of others. -/
theorem either {next : α → Parser β} (h : passage.Renames middle parser)
    (hother : passage.Renames middle other) (hnext : ∀ a, passage.Renames stop (next a))
    (hhalts : ∀ a, (next a).Halts middle stop) :
    passage.Renames stop (if condition then parser >>= next else other >>= next) :=
  .ite (.bind h hnext hhalts) (.bind hother hnext hhalts)

end Choice

/-! ### Contexts -/

/-- What is allowed else may be asked for. -/
theorem flags {next : Flags → Parser β} (hsame : ∀ flags, next flags.named = next flags)
    (h : ∀ flags, passage.Renames stop (next flags)) :
    passage.Renames stop (Parser.flags >>= next) := by
  intro context hcontext cursor hguarded b last hrun hreach
  have hnext := h context.flags hcontext hguarded hrun hreach
  rw [← hsame] at hnext
  exact hnext

/-- What is allowed makes a difference for some tokens only. -/
theorem peek_flags {next : Token → Flags → Parser β}
    (h : ∀ token flags, passage.Renames stop (next token flags))
    (hother : ∀ ⦃context⦄, passage.Contexts context → ∀ ⦃cursor⦄, passage.Guarded cursor →
      next cursor.token context.flags.named = next cursor.token context.flags ∨
        passage.Parted stop ((next cursor.token context.flags).run context cursor)
          ((next cursor.token context.flags.named).run context.named cursor)) :
    passage.Renames stop (Parser.peek >>= fun token => Parser.flags >>= next token) := by
  intro context hcontext cursor hguarded
  obtain hsame | hparted := hother hcontext hguarded
  · have hparted := h cursor.token context.flags hcontext hguarded
    intro a last hrun hreach
    have hnamed := hparted hrun hreach
    rw [← hsame] at hnamed
    exact hnamed
  · exact hparted

/-- A check of what is allowed may be passed when `await` becomes a name, and it may fail then. -/
theorem flags_reject {condition : Flags → Prop} [DecidablePred condition]
    {failing next : Flags → Parser β}
    (hfailing : ∀ flags, (failing flags).Halts (fun _ => True) fun _ => False)
    (hsame : ∀ flags, next flags.named = next flags)
    (h : ∀ flags, passage.Renames stop (next flags)) :
    passage.Renames stop (Parser.flags >>= fun flags =>
      if condition flags then failing flags else next flags) := by
  intro context hcontext cursor hguarded b last hrun hreach
  replace hrun : Parser.run (if condition context.flags then failing context.flags
    else next context.flags) context cursor = .ok (b, last) := hrun
  have hnamed : (Parser.flags >>= fun flags => if condition flags then failing flags
      else next flags).run context.named cursor = Parser.run (if condition context.flags.named then
        failing context.flags.named else next context.flags.named) context.named cursor := rfl
  rw [hnamed, hsame]
  split_ifs at hrun
  · exact (hfailing _ trivial hrun).elim
  · split_ifs
    · exact .inr fun _ _ hfails => (hfailing _ trivial hfails).elim
    · exact h context.flags hcontext hguarded hrun hreach

/-- What else is allowed may change. -/
protected theorem withFlags {change : Flags → Flags} (h : passage.Renames stop parser)
    (hchange : ∀ flags, change flags.named = (change flags).named) :
    passage.Renames stop (Parser.withFlags change parser) := by
  intro context hcontext cursor hguarded a last hrun hreach
  have hnamed : context.named.withFlags change = (context.withFlags change).named :=
    congrArg (fun flags => { context with flags }) (hchange context.flags)
  have hchanged : passage.Contexts (context.withFlags change) := hcontext.withFlags
  have hparted := h hchanged hguarded hrun hreach
  rw [← hnamed] at hparted
  exact hparted

/-- Nothing changes where something else says what is allowed. -/
theorem withFixedFlags {change : Flags → Flags} (h : ∀ flags, change flags.named = change flags) :
    passage.Renames stop (Parser.withFlags change parser) :=
  .of_same fun context cursor =>
    congrArg (fun flags => parser.run { context with flags } cursor) (h context.flags)

theorem withIn (h : passage.Renames stop parser) : passage.Renames stop (Parser.withIn parser) :=
  .withFlags h fun _ => rfl

theorem withoutIn (h : passage.Renames stop parser) :
    passage.Renames stop (Parser.withoutIn parser) :=
  .withFlags h fun _ => rfl

theorem call {rule : Rule} : passage.Renames rule.Stop (Parser.call rule) :=
  fun _ hcontext _ hguarded => hcontext.rules hguarded

/-- How much is read follows from what is read. -/
theorem measured {measure : Cursor → Cursor → Nat}
    {hmeasure : ∀ {goal target} (simulation : Simulation goal target) {c d c' d' : Cursor},
      simulation.Related c d → simulation.Related c' d' → measure d d' = measure c c'}
    (h : passage.Renames stop parser) :
    passage.Renames stop (Parser.measured measure hmeasure parser) := by
  have hmap {context : Context} {cursor : Cursor} {outcome : α × Nat} {last : Cursor} :
      (Parser.measured measure hmeasure parser).run context cursor = .ok (outcome, last) ↔
        ∃ a, parser.run context cursor = .ok (a, last) ∧ (a, measure cursor last) = outcome := by
    show (parser.run context cursor).map _ = _ ↔ _
    rw [Except.map_eq_ok_iff]
    constructor
    · rintro ⟨⟨a, last⟩, hrun, heq⟩
      obtain ⟨rfl, rfl⟩ := Prod.mk.inj heq
      exact ⟨a, hrun, rfl⟩
    · rintro ⟨a, hrun, rfl⟩
      exact ⟨(a, last), hrun, rfl⟩
  intro context hcontext cursor hguarded outcome last hrun hreach
  obtain ⟨a, hparser, rfl⟩ := hmap.mp hrun
  obtain hsame | hstops := h hcontext hguarded hparser hreach
  · exact .inl (hmap.mpr ⟨a, hsame, rfl⟩)
  · refine .inr fun outcome' last' hrun' => ?_
    obtain ⟨a', hrun', -⟩ := hmap.mp hrun'
    exact hstops hrun'

/-! ### Loops -/

theorem rounds {body : σ → Parser (σ ⊕ α)} (h : ∀ state, passage.Renames stop (body state))
    (hhalts : ∀ state, (body state).Halts stop stop) (fuel : Nat) (state : σ) :
    passage.Renames stop (Parser.rounds body fuel state) := by
  induction fuel generalizing state with
  | zero => exact .fail
  | succ fuel ih =>
    refine .bind (h state) (fun outcome => ?_) fun outcome => ?_
    · cases outcome with
      | inl state => exact ih state
      | inr a => exact .pure
    · cases outcome with
      | inl state => exact .rounds hhalts fuel state
      | inr a => exact .pure

protected theorem loop {body : σ → Parser (σ ⊕ α)} (h : ∀ state, passage.Renames stop (body state))
    (hhalts : ∀ state, (body state).Halts stop stop) (state : σ) :
    passage.Renames stop (Parser.loop body state) :=
  fun context hcontext _ hguarded =>
    rounds h hhalts (context.width + 1) state hcontext hguarded

/-- A loop whose rounds keep to what they read does so. -/
theorem loop_of_keeps {body : σ → Parser (σ ⊕ α)} (h : ∀ state, passage.Keeps (body state))
    (state : σ) : passage.Keeps (Parser.loop body state) :=
  .loop h (fun _ => .of_nowhere) state

/-! ### Tokens -/

theorem ask {question : Flags → Token → α}
    (h : ∀ flags token, question flags.named token = question flags token) :
    passage.Renames stop (Parser.ask question) :=
  .of_same fun context cursor =>
    congrArg (fun answer => Except.ok (answer, cursor)) (h context.flags cursor.token)

theorem peek : passage.Renames stop Parser.peek :=
  .ask fun _ _ => rfl

theorem advance : passage.Renames stop Parser.advance :=
  .of_same fun _ _ => rfl

theorem reread (way : Rereading) : passage.Renames stop (Parser.reread way) :=
  .of_same fun _ _ => rfl

theorem peekSecond : passage.Renames stop Parser.peekSecond :=
  .of_same fun _ _ => rfl

theorem peekThird : passage.Renames stop Parser.peekThird :=
  .of_same fun _ _ => rfl

theorem atPunct {p : Punct} : passage.Renames stop (Parser.atPunct p) :=
  .of_same fun _ _ => rfl

theorem eatPunct {p : Punct} : passage.Renames stop (Parser.eatPunct p) :=
  .after .atPunct fun _ => .ite (.after .advance fun _ => .pure) .pure

theorem expectPunct {p : Punct} : passage.Renames stop (Parser.expectPunct p) :=
  .after .eatPunct fun _ => .ite .pure .fail

theorem atKeyword {k : Keyword} : passage.Renames stop (Parser.atKeyword k) :=
  .of_same fun _ _ => rfl

theorem advanceKeyword : passage.Renames stop Parser.advanceKeyword :=
  .after .peek fun _ => .ite .fail_bind .advance

theorem eatKeyword {k : Keyword} : passage.Renames stop (Parser.eatKeyword k) :=
  .after .atKeyword fun _ => .ite (.after .advanceKeyword fun _ => .pure) .pure

theorem expectKeyword {k : Keyword} : passage.Renames stop (Parser.expectKeyword k) :=
  .after .eatKeyword fun _ => .ite .pure .fail

theorem endStatement : passage.Renames stop Parser.endStatement :=
  .after .peek fun _ => .ite .advance (.ite .pure .fail)

theorem atStatementEnd : passage.Renames stop Parser.atStatementEnd :=
  .of_same fun _ _ => rfl

/-! ### Names -/

theorem atIdentifier : passage.Renames stop Parser.atIdentifier := by
  refine .after .peek fun token => ?_
  split
  all_goals exact .pure

/-- A name stays one. -/
theorem rejectOperatorWord : passage.Renames stop Parser.rejectOperatorWord := by
  refine .after .peek fun token => .flags_reject (fun _ => .fail_bind) (fun _ => rfl) fun _ => ?_
  exact .ite .fail .pure

theorem identifier : passage.Renames stop Parser.identifier := by
  refine .after .atIdentifier fun _ => .ite ?_ .fail_bind
  exact .after .rejectOperatorWord fun _ => .after .peek fun _ => .after .advance fun _ => .pure

theorem propertyName : passage.Renames stop Parser.propertyName := by
  refine .after .peek fun token => ?_
  split
  · exact .after .advance fun _ => .pure
  · exact .fail

/-! ### Lists -/

variable {item rest : Parser Node} {close : Punct} {finished : Parser Bool}

/-- A list whose items keep to what they read. -/
theorem repeatUntil (hfinished : passage.Keeps finished) (h : passage.Keeps item) :
    passage.Keeps (Parser.repeatUntil finished item) := by
  refine .loop_of_keeps (fun _ => ?_) []
  exact .after hfinished fun _ => .ite .pure (.make h)

/-- A list that is finished in front of a token that blocks. -/
theorem repeatUntil_of_finished (hfinished : passage.Keeps finished)
    (hknown : ∀ ⦃context cursor⦄, cursor.Blocked →
      finished.run context cursor = .ok (true, cursor))
    (h : passage.Strays item) : passage.Strays (Parser.repeatUntil finished item) := by
  refine .loop (fun _ => ?_) (fun _ => ?_) []
  · exact .after hfinished fun _ => .ite .pure (.make h)
  · exact .known hknown (.ite_pos rfl .pure)

/-- What stands behind an item is a comma or the end of the list. -/
theorem commaSeparated (hclose : (TokenKind.punct close).blocks = false)
    (h : passage.Strays item) : passage.Keeps (Parser.commaSeparated close item) := by
  refine .loop_of_keeps (fun reversed => ?_) []
  refine .after .atPunct fun _ => .ite .pure (.before h (fun node => ?_) fun node => ?_)
  · exact .after .eatPunct fun _ => .ite .pure (.after .atPunct fun _ => .ite .pure .fail_bind)
  · refine .eatPunct rfl (.ite_neg Bool.false_ne_true (.atPunct hclose ?_))
    exact .ite_neg Bool.false_ne_true .fail_bind

theorem patternItems (hclose : (TokenKind.punct close).blocks = false)
    (h : passage.Strays item) (hrest : passage.Keeps rest) :
    passage.Keeps (Parser.patternItems close item rest) := by
  refine .loop_of_keeps (fun reversed => ?_) []
  refine .after .atPunct fun _ => .ite .pure (.after .atPunct fun _ => .ite ?_ ?_)
  · refine .after (.after .expectPunct fun _ => .make hrest) fun _ => ?_
    exact .after .atPunct fun _ => .ite .pure .fail_bind
  · refine .before h (fun node => ?_) fun node => ?_
    · exact .after .eatPunct fun _ => .ite .pure (.after .atPunct fun _ => .ite .pure .fail_bind)
    · refine .eatPunct rfl (.ite_neg Bool.false_ne_true (.atPunct hclose ?_))
      exact .ite_neg Bool.false_ne_true .fail_bind

end Renames

end Passage

end ModuleBundler.Script
