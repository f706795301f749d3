import ModuleBundler.Script.Cursor

/-!
# Parsers

A parser reads tokens one by one and builds a tree or fails. What a word may mean depends on where
it stands; the *context* says so. The grammar refers to itself in a few places, so the context also
holds what reads the *rules* of the grammar at these places.

A parser carries two properties. It goes *forward*: what it leaves behind can be reached from where
it started. And it can be *transported* from one text to another: it sees nothing but tokens, so it
comes to the same where the same tokens are read. Every parser has both, since those that parsers are
made of have them.

## Main definitions

* `Script.Context` — what is allowed at some place of the text.
* `Script.Parser` — parsers, a monad.
* `Script.Parser.call` — a parser for a rule of the grammar.
* `Script.Parser.loop` — runs a parser again and again.
-/

namespace ModuleBundler.Script

/-! ### Contexts -/

/-- Where a statement stands: in a list of statements, or alone as a part of another statement. -/
inductive Place where
  | list
  | alone
  deriving DecidableEq

/-- What may follow an operand: all links, all but calls, or only those that decorators have. -/
inductive LinkSet where
  | all
  | withoutCalls
  | decorating
  deriving DecidableEq

/-- The rules of the grammar to which other rules refer. -/
inductive Rule where
  /-- An expression without a comma. -/
  | assignment
  /-- Operands and operators that bind tighter than the given precedence. -/
  | operators (floor : Nat)
  /-- An operand with the operators in front of it. -/
  | unary
  /-- An operand without operators, with the links behind it. -/
  | operand (set : LinkSet)
  /-- A name or a pattern that binds names. -/
  | binding
  /-- A statement or declaration. -/
  | statement (place : Place)
  deriving DecidableEq

/-- What is allowed at some place: the operator `in`, the words `yield` and `await` as operators,
the statement `return`. -/
structure Flags where
  allowIn : Bool
  allowYield : Bool
  allowAwait : Bool
  allowReturn : Bool
  deriving DecidableEq

/-- What a parser knows: the goal, what is allowed, and what reads the rules of the grammar. The
width bounds the number of characters of the text. -/
structure Context where
  goal : Goal
  width : Nat
  flags : Flags
  rules : Rule → Flags → Cursor → Outcome Node

namespace Context

/-- What reads the rules goes forward. -/
def Sound (context : Context) : Prop :=
  ∀ rule flags cursor node next, context.rules rule flags cursor = .ok (node, next) →
    cursor.Reaches context.goal next

variable {context context' : Context} {target : Cursor}

/-- Another context allows the same, for a text that need not be as short, and its rules come to the
same in the other text. -/
structure Extends (simulation : Simulation context.goal target) (context' : Context) : Prop where
  goal_eq : context'.goal = context.goal
  flags_eq : context'.flags = context.flags
  width_le : context.width ≤ context'.width
  rules : ∀ {rule flags c d}, simulation.Related c d →
    simulation.Follows (context.rules rule flags c) (context'.rules rule flags d)

/-- The same context with other things allowed. -/
def withFlags (context : Context) (change : Flags → Flags) : Context :=
  { context with flags := change context.flags }

theorem Sound.withFlags (change : Flags → Flags) (h : context.Sound) :
    (context.withFlags change).Sound :=
  h

theorem Extends.withFlags {simulation : Simulation context.goal target} (change : Flags → Flags)
    (h : context.Extends simulation context') :
    (context.withFlags change).Extends simulation (context'.withFlags change) where
  goal_eq := h.goal_eq
  flags_eq := congrArg change h.flags_eq
  width_le := h.width_le
  rules := h.rules

end Context

/-! ### Parsers -/

/-- Parsers read tokens in a context and fail with a fault. -/
structure Parser (α : Type) where
  run : Context → Cursor → Outcome α
  forward : ∀ {context cursor a next}, context.Sound → run context cursor = .ok (a, next) →
    cursor.Reaches context.goal next
  transport : ∀ {context context' target} {simulation : Simulation context.goal target} {c d},
    context.Sound → context.Extends simulation context' → simulation.Related c d →
      simulation.Follows (run context c) (run context' d)

namespace Parser

variable {α β σ : Type}

/-- Comes to a value without reading. -/
protected def pure (a : α) : Parser α where
  run _ cursor := .ok (a, cursor)
  forward _ h := by
    obtain ⟨-, rfl⟩ := Prod.mk.inj (Except.ok.inj h)
    exact .refl _
  transport _ _ hrelated _ _ h _ := by
    obtain ⟨rfl, rfl⟩ := Prod.mk.inj (Except.ok.inj h)
    exact ⟨_, rfl, hrelated⟩

/-- Goes on with what was read. -/
protected def bind (parser : Parser α) (next : α → Parser β) : Parser β where
  run context cursor :=
    match parser.run context cursor with
    | .ok (a, cursor) => (next a).run context cursor
    | .error fault => .error fault
  forward hsound h := by
    split at h
    · next heq => exact (parser.forward hsound heq).trans ((next _).forward hsound h)
    · contradiction
  transport hsound hextends hrelated b last h hreach := by
    split at h
    · next a between heq =>
      -- The cursor in between leads to the target by way of the last one.
      have hbetween := ((next a).forward hsound h).trans hreach
      obtain ⟨between', hrun, hrelated⟩ :=
        parser.transport hsound hextends hrelated _ _ heq hbetween
      rw [hrun]
      exact (next a).transport hsound hextends hrelated _ _ h hreach
    · contradiction

instance : Monad Parser where
  pure := Parser.pure
  bind := Parser.bind

theorem run_bind (parser : Parser α) (next : α → Parser β) (context : Context) (cursor : Cursor) :
    (parser >>= next).run context cursor =
      match parser.run context cursor with
      | .ok (a, cursor) => (next a).run context cursor
      | .error fault => .error fault :=
  rfl

/-- Fails. -/
def fail (fault : Fault) : Parser α where
  run _ _ := .error fault
  forward _ h := nomatch h
  transport _ _ _ _ _ h := nomatch h

/-- Fails because the next token cannot stand here. -/
def unexpected : Parser α :=
  fail .unexpectedToken

/-! ### Tokens -/

/-- A question about the next token and the context. -/
def ask (question : Flags → Token → α) : Parser α where
  run context cursor := .ok (question context.flags cursor.token, cursor)
  forward _ h := by
    obtain ⟨-, rfl⟩ := Prod.mk.inj (Except.ok.inj h)
    exact .refl _
  transport {_ _ _ simulation _ _} _ hextends hrelated _ _ h _ := by
    obtain ⟨rfl, rfl⟩ := Prod.mk.inj (Except.ok.inj h)
    exact ⟨_, by rw [simulation.token_eq hrelated, hextends.flags_eq], hrelated⟩

/-- The next token. -/
def peek : Parser Token :=
  ask fun _ token => token

/-- What is allowed here. -/
def flags : Parser Flags :=
  ask fun flags _ => flags

theorem map_eq_ok {attempt : Except Fault Cursor} {a : Unit} {next : Cursor}
    (h : attempt.map ((), ·) = .ok (a, next)) : attempt = .ok next := by
  cases attempt with
  | error _ => contradiction
  | ok cursor => rw [(Prod.mk.inj (Except.ok.inj h)).2]

/-- Passes over the next token. -/
def advance : Parser Unit where
  run context cursor := (cursor.advance context.goal).map ((), ·)
  forward _ h := (Cursor.Step.advance (map_eq_ok h)).reaches
  transport {_ _ _ simulation _ _} _ hextends hrelated _ _ h hreach := by
    obtain ⟨next', hadvance, hrelated⟩ := simulation.advance hrelated (map_eq_ok h) hreach
    exact ⟨next', by rw [hextends.goal_eq, hadvance]; rfl, hrelated⟩

/-- Reads the next token again in another way. -/
def reread (way : Rereading) : Parser Unit where
  run _ cursor := (cursor.reread way).map ((), ·)
  forward _ h := (Cursor.Step.reread way (map_eq_ok h)).reaches
  transport {_ _ _ simulation _ _} _ _ hrelated _ _ h hreach := by
    obtain ⟨next', hreread, hrelated⟩ := simulation.reread hrelated (map_eq_ok h) hreach
    exact ⟨next', by rw [hreread]; rfl, hrelated⟩

/-- The token behind the next one, if that is a word. -/
def peekSecond : Parser (Option Token) where
  run context cursor := .ok ((cursor.behindWord? context.goal).map Cursor.token, cursor)
  forward _ h := by
    obtain ⟨-, rfl⟩ := Prod.mk.inj (Except.ok.inj h)
    exact .refl _
  transport {_ _ _ simulation _ _} _ hextends hrelated _ _ h hreach := by
    obtain ⟨rfl, rfl⟩ := Prod.mk.inj (Except.ok.inj h)
    rw [hextends.goal_eq]
    obtain ⟨hc, hd⟩ | ⟨c', d', hc, hd, hrelated', -⟩ :=
      simulation.behindWord?_cases hrelated hreach
    · exact ⟨_, by rw [hc, hd], hrelated⟩
    · exact ⟨_, by rw [hc, hd, Option.map_some, Option.map_some, simulation.token_eq hrelated'],
        hrelated⟩

/-- The token two places behind the next one, if that and the one behind it are words. -/
def peekThird : Parser (Option Token) where
  run context cursor :=
    .ok (((cursor.behindWord? context.goal).bind (·.behindWord? context.goal)).map Cursor.token,
      cursor)
  forward _ h := by
    obtain ⟨-, rfl⟩ := Prod.mk.inj (Except.ok.inj h)
    exact .refl _
  transport {_ _ _ simulation _ _} _ hextends hrelated _ _ h hreach := by
    obtain ⟨rfl, rfl⟩ := Prod.mk.inj (Except.ok.inj h)
    rw [hextends.goal_eq]
    obtain ⟨hc, hd⟩ | ⟨c', d', hc, hd, hrelated', hreach'⟩ :=
      simulation.behindWord?_cases hrelated hreach
    · exact ⟨_, by rw [hc, hd], hrelated⟩
    · rw [hc, hd, Option.bind_some, Option.bind_some]
      obtain ⟨hc', hd'⟩ | ⟨c'', d'', hc', hd', hrelated'', -⟩ :=
        simulation.behindWord?_cases hrelated' hreach'
      · exact ⟨_, by rw [hc', hd'], hrelated⟩
      · exact ⟨_, by
          rw [hc', hd', Option.map_some, Option.map_some, simulation.token_eq hrelated''],
          hrelated⟩

/-! ### Places in the text -/

/-- Reads and measures what is read, in a way in which related texts are alike. -/
def measured (measure : Cursor → Cursor → Nat)
    (hmeasure : ∀ {goal target} (simulation : Simulation goal target) {c d c' d' : Cursor},
      simulation.Related c d → simulation.Related c' d' → measure d d' = measure c c')
    (parser : Parser α) : Parser (α × Nat) where
  run context cursor :=
    (parser.run context cursor).map fun (a, next) => ((a, measure cursor next), next)
  forward {context cursor _ _} hsound h := by
    cases hrun : parser.run context cursor with
    | error fault => rw [hrun] at h; contradiction
    | ok outcome =>
      rw [hrun] at h
      obtain ⟨-, rfl⟩ := Prod.mk.inj (Except.ok.inj h)
      exact parser.forward hsound hrun
  transport {context _ _ simulation c _} hsound hextends hrelated _ _ h hreach := by
    cases hrun : parser.run context c with
    | error fault => rw [hrun] at h; contradiction
    | ok outcome =>
      rw [hrun] at h
      obtain ⟨rfl, rfl⟩ := Prod.mk.inj (Except.ok.inj h)
      obtain ⟨d', hrun', hrelated'⟩ :=
        parser.transport hsound hextends hrelated _ _ hrun hreach
      exact ⟨d', by rw [hrun', ← hmeasure simulation hrelated hrelated']; rfl, hrelated'⟩

/-- Reads, and counts the characters from the next token before up to the next token after. -/
def withDistance : Parser α → Parser (α × Nat) :=
  measured Cursor.distance Simulation.distance_eq

/-- Reads, and counts the characters from the next token before up to the end of the last token. -/
def withExtent : Parser α → Parser (α × Nat) :=
  measured Cursor.extent Simulation.extent_eq

/-! ### Contexts -/

/-- Runs a parser where something else is allowed. -/
def withFlags (change : Flags → Flags) (parser : Parser α) : Parser α where
  run context cursor := parser.run (context.withFlags change) cursor
  forward hsound h := by
    have hreach := parser.forward (hsound.withFlags change) h
    exact hreach
  transport hsound hextends hrelated :=
    parser.transport (hsound.withFlags change) (hextends.withFlags change) hrelated

/-- Reads what a rule of the grammar says. -/
def call (rule : Rule) : Parser Node where
  run context cursor := context.rules rule context.flags cursor
  forward hsound h := hsound _ _ _ _ _ h
  transport _ hextends hrelated := by
    rw [hextends.flags_eq]
    exact hextends.rules hrelated

/-! ### Loops -/

/-- Runs a parser again and again, at most `fuel` times. What it comes to is the state of the next
round or the result. -/
def rounds (body : σ → Parser (σ ⊕ α)) : (fuel : Nat) → σ → Parser α
  | 0, _ => fail .nestedTooDeep
  | fuel + 1, state => do
    match ← body state with
    | .inl state => rounds body fuel state
    | .inr a => return a

/-- More rounds come to the same. -/
theorem rounds_mono {body : σ → Parser (σ ⊕ α)} {fuel more : Nat} {state : σ} {context : Context}
    {cursor next : Cursor} {a : α} (hle : fuel ≤ more)
    (h : (rounds body fuel state).run context cursor = .ok (a, next)) :
    (rounds body more state).run context cursor = .ok (a, next) := by
  induction fuel generalizing more state cursor with
  | zero => contradiction
  | succ fuel ih =>
    obtain ⟨more, rfl⟩ : ∃ n, more = n + 1 := ⟨more - 1, by omega⟩
    rw [rounds, run_bind] at h ⊢
    cases hbody : (body state).run context cursor with
    | error fault => rw [hbody] at h; contradiction
    | ok outcome =>
      rw [hbody] at h
      obtain ⟨state' | result, between⟩ := outcome
      · exact ih (by omega) h
      · exact h

/-- Runs a parser again and again, as often as a list in the text can have items. -/
def loop (body : σ → Parser (σ ⊕ α)) (state : σ) : Parser α where
  run context cursor := (rounds body (context.width + 1) state).run context cursor
  forward hsound h := (rounds body _ state).forward hsound h
  transport hsound hextends hrelated a c' h hreach := by
    obtain ⟨d', hrun, hrelated'⟩ :=
      (rounds body _ state).transport hsound hextends hrelated a c' h hreach
    exact ⟨d', rounds_mono (Nat.succ_le_succ hextends.width_le) hrun, hrelated'⟩

end Parser

end ModuleBundler.Script
