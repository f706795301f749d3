import ModuleBundler.Proofs.Script.Extend.Needs

/-!
# The seam between two texts

A text that is read to its end may go on where more text stands behind it: an expression without a
semicolon goes on in front of a parenthesis. It ends as it did if the next token starts another line
and goes on with no expression, or if it is a semicolon or a closing brace. At such a *seam* a
parser finds the same as at the end of the text: nothing to go on with.

A parser *mirrors* at a seam if it comes to the same in front of more text, up to the seam. It
*idles* if it starts at the end of the text, comes to something without reading, and comes to the
same at the seam. A sequence of parsers mirrors if both do and the second one idles. A parser that
*closes* what it reads passes over a bracket, and what stands in front of a bracket is no matter of
the seam.

## Main definitions

* `Token.Ends` — tokens that go on with nothing in front of them.
* `Seam` — a place between two texts with such a token behind it.
* `Seam.Mirrors`, `Seam.Idles`, `Seam.Closes` — parsers in front of a seam and at a seam.

## Main results

* `Seam.Mirrors.bind`, `Seam.Mirrors.after` — sequences of parsers.
-/

namespace ModuleBundler.Script

variable {goal : Goal} {chars tail : List Char} {p : Punct} {k : Keyword}

/-! ### Tokens that end what stands in front of them -/

/-- Can a token of the kind go on with an expression or a statement in front of it? -/
def TokenKind.goesOn : TokenKind → Bool
  | .punct .dot | .punct .optionalDot | .punct .openParen | .punct .openBracket => true
  | .punct .comma | .punct .question | .punct .colon | .punct .arrow => true
  | .punct (.operator _) | .punct (.assign _) | .template _ _ => true
  | .word (some .in_) | .word (some .instanceof_) => true
  | .word (some .else_) | .word (some .catch_) | .word (some .finally_) => true
  | _ => false

/-- Does a statement end in front of a token of the kind, wherever it stands? -/
def TokenKind.stops : TokenKind → Bool
  | .punct .semicolon | .punct .closeBrace | .endOfSource => true
  | _ => false

/-- The token goes on with nothing, and a statement ends in front of it. -/
structure Token.Ends (token : Token) : Prop where
  not_goesOn : token.kind.goesOn = false
  stops : token.newline ∨ token.kind.stops

namespace Token.Ends

variable {token : Token}

theorem of_endOfSource (h : token.kind = .endOfSource) : token.Ends :=
  ⟨by rw [h]; rfl, .inr (by rw [h]; rfl)⟩

theorem ne_of_goesOn {kind : TokenKind} (h : token.Ends) (hkind : kind.goesOn) :
    token.kind ≠ kind := by
  intro heq
  have hends := h.not_goesOn
  rw [heq, hkind] at hends
  contradiction

/-- A token that would go on with a statement on its line starts another one. -/
theorem and_not_newline {kind : TokenKind} (h : token.Ends) (hkind : kind.stops = false) :
    (token.kind == kind && !token.newline) = false := by
  obtain hnewline | hstops := h.stops
  · rw [hnewline, Bool.not_true, Bool.and_false]
  · refine Bool.and_eq_false_imp.mpr fun heq => ?_
    rw [beq_iff_eq.mp heq, hkind] at hstops
    contradiction

/-- In front of the token a statement can end. -/
theorem atStatementEnd (h : token.Ends) :
    (token.newline || token.kind == .punct .semicolon || token.kind == .punct .closeBrace ||
      token.kind == .endOfSource) = true := by
  obtain hnewline | hstops := h.stops
  · rw [hnewline]
    rfl
  · unfold TokenKind.stops at hstops
    split at hstops
    · next hkind => simp [hkind]
    · next hkind => simp [hkind]
    · next hkind => simp [hkind]
    · contradiction

end Token.Ends

namespace Parser

variable {context : Context} {cursor : Cursor}

/-- No punctuator that goes on with something is found. -/
theorem run_atPunct_of_ends (hp : (TokenKind.punct p).goesOn) (h : cursor.token.Ends) :
    (atPunct p).run context cursor = .ok (false, cursor) := by
  have hne : (cursor.token.kind == .punct p) = false :=
    beq_eq_false_iff_ne.mpr (h.ne_of_goesOn hp)
  exact congrArg (fun found => Except.ok (found, cursor)) hne

theorem run_eatPunct_of_ends (hp : (TokenKind.punct p).goesOn) (h : cursor.token.Ends) :
    (eatPunct p).run context cursor = .ok (false, cursor) := by
  rw [eatPunct, run_bind, run_atPunct_of_ends hp h]
  rfl

/-- No word that goes on with something is found. -/
theorem run_atKeyword_of_ends (hk : (TokenKind.word (some k)).goesOn) (h : cursor.token.Ends) :
    (atKeyword k).run context cursor = .ok (false, cursor) := by
  have hne : (cursor.token.kind == .word (some k)) = false :=
    beq_eq_false_iff_ne.mpr (h.ne_of_goesOn hk)
  exact congrArg (fun found => Except.ok (found, cursor)) hne

theorem advance_of_advanceKeyword {next : Cursor}
    (h : advanceKeyword.run context cursor = .ok ((), next)) :
    cursor.advance context.goal = .ok next := by
  obtain ⟨token, hrest⟩ := Still.exists_of_bind .peek h
  split_ifs at hrest
  · contradiction
  · exact map_eq_ok hrest

theorem run_eatKeyword (k : Keyword) (context : Context) (cursor : Cursor) :
    (eatKeyword k).run context cursor =
      if cursor.token.kind == .word (some k) then
        (advanceKeyword >>= fun _ => pure true).run context cursor
      else .ok (false, cursor) := by
  show Parser.run (if _ then _ else _) context cursor = _
  split_ifs <;> rfl

theorem run_eatKeyword_of_ne (h : cursor.token.kind ≠ .word (some k)) :
    (eatKeyword k).run context cursor = .ok (false, cursor) := by
  rw [run_eatKeyword, if_neg (fun heq => h (beq_iff_eq.mp heq))]

theorem run_eatKeyword_of_ends (hk : (TokenKind.word (some k)).goesOn) (h : cursor.token.Ends) :
    (eatKeyword k).run context cursor = .ok (false, cursor) :=
  run_eatKeyword_of_ne (h.ne_of_goesOn hk)

/-- A keyword that is passed over is there, and one that is not passed over is not. -/
theorem eatKeyword_eq_ok {taken : Bool} {next : Cursor}
    (h : (eatKeyword k).run context cursor = .ok (taken, next)) :
    (taken = true ∧ cursor.token.kind = .word (some k)) ∨
      (taken = false ∧ cursor.token.kind ≠ .word (some k) ∧ next = cursor) := by
  rw [run_eatKeyword] at h
  split_ifs at h with hkind
  · obtain ⟨⟨⟩, between, -, hlast⟩ := bind_eq_ok_iff.mp h
    exact .inl ⟨(Prod.mk.inj (Except.ok.inj hlast)).1.symm, beq_iff_eq.mp hkind⟩
  · obtain ⟨rfl, rfl⟩ := Prod.mk.inj (Except.ok.inj h)
    exact .inr ⟨rfl, fun heq => hkind (beq_iff_eq.mpr heq), rfl⟩

/-- A statement can end. -/
theorem run_atStatementEnd_of_ends (h : cursor.token.Ends) :
    atStatementEnd.run context cursor = .ok (true, cursor) :=
  congrArg (fun ends => Except.ok (ends, cursor)) h.atStatementEnd

end Parser

/-! ### Cursors at a text -/

/-- The text ends with a character that is no semicolon. -/
def EndsOpen (chars : List Char) : Prop :=
  ∃ c, chars.getLast? = some c ∧ c ≠ ';'

theorem EndsOpen.ne_nil (h : EndsOpen chars) : chars ≠ [] := by
  rintro rfl
  obtain ⟨_, ⟨⟩, _⟩ := h

theorem EndsOpen.of_suffix {rest : List Char} (h : EndsOpen chars) (hsuffix : rest <:+ chars)
    (hne : rest ≠ []) : EndsOpen rest := by
  obtain ⟨front, rfl⟩ := hsuffix
  rwa [EndsOpen, List.getLast?_append_of_ne_nil _ hne] at h

theorem EndsOpen.append (h : EndsOpen chars) (front : List Char) : EndsOpen (front ++ chars) := by
  rwa [EndsOpen, List.getLast?_append_of_ne_nil _ h.ne_nil]

namespace Cursor

variable {cursor next last : Cursor}

/-- The cursor behind the last token of a text. -/
def finish : Cursor :=
  ⟨lexeme ⟨[], false⟩ .endOfSource [] [] false, []⟩

/-- The cursor is at a token of a text that does not end with a semicolon. -/
structure Live (goal : Goal) (cursor : Cursor) : Prop where
  genuine : cursor.Genuine goal
  at_punct : ∀ p, cursor.token.kind = .punct p → cursor.At goal cursor.behind
  endsOpen : EndsOpen cursor.next.here

/-- The cursor is at the end of a text. -/
structure Spent (goal : Goal) (cursor : Cursor) : Prop where
  genuine : cursor.Genuine goal
  kind_eq : cursor.token.kind = .endOfSource

/-- Behind the end of a text is its end. -/
theorem Spent.advance (h : cursor.Spent goal) (hadvance : cursor.advance goal = .ok next) :
    next.Spent goal := by
  have hreach : cursor.Reaches goal next := (Cursor.Step.advance hadvance).reaches
  have hgenuine : next.Genuine goal := hreach.genuine h.genuine
  have hsuffix : next.next.here <:+ cursor.next.here := hreach.suffix h.genuine.aligned
  rw [h.genuine.fits.ends.mp h.kind_eq, List.suffix_nil] at hsuffix
  exact ⟨hgenuine, hgenuine.fits.ends.mpr hsuffix⟩

theorem Live.ne_endOfSource (h : cursor.Live goal) : cursor.token.kind ≠ .endOfSource :=
  fun hend => h.endsOpen.ne_nil (h.genuine.fits.ends.mp hend)

/-- From a token of a text, a token or the end of the text can be reached. -/
theorem Live.reaches (h : cursor.Live goal) (hreach : cursor.Reaches goal next) :
    next.Live goal ∨ next.Spent goal := by
  have hgenuine : next.Genuine goal := hreach.genuine h.genuine
  by_cases hnil : next.next.here = []
  · exact .inr ⟨hgenuine, hgenuine.fits.ends.mpr hnil⟩
  · exact .inl ⟨hgenuine, fun _ => hreach.at_punct h.at_punct,
      h.endsOpen.of_suffix (hreach.suffix h.genuine.aligned) hnil⟩

/-- Where another token is reached, there is a token. -/
theorem Live.of_reaches_sealed (h : cursor.Live goal) (hreach : cursor.Reaches goal next)
    (hlast : next.Reaches goal last) (hsealed : last.token.kind.isSealed) : next.Live goal := by
  refine (h.reaches hreach).resolve_right fun hend => ?_
  have hgenuine : next.Genuine goal := hreach.genuine h.genuine
  have hsuffix : last.next.here <:+ next.next.here := hlast.suffix hgenuine.aligned
  rw [hgenuine.fits.ends.mp hend.kind_eq, List.suffix_nil] at hsuffix
  have hkind : last.token.kind = .endOfSource :=
    (hlast.genuine hgenuine).fits.ends.mpr hsuffix
  rw [hkind] at hsealed
  contradiction

theorem token_finish_ends : finish.token.Ends :=
  .of_endOfSource rfl

/-- From the cursor the end of the text is reached token by token, and nothing stands behind the
last token. -/
inductive Finishes (goal : Goal) : Cursor → Prop
  | done : Finishes goal finish
  | step {cursor next : Cursor} (hlive : cursor.Live goal) (hstep : Step goal cursor next)
    (hnext : Finishes goal next) : Finishes goal cursor

theorem Finishes.eq_finish (h : cursor.Finishes goal) (hend : cursor.token.kind = .endOfSource) :
    cursor = finish := by
  cases h with
  | done => rfl
  | step hlive => exact absurd hend hlive.ne_endOfSource

/-- Behind a semicolon of the text is a token. -/
theorem Finishes.of_semicolon (h : next.Finishes goal) (hcursor : cursor.Live goal)
    (hkind : cursor.token.kind = .punct .semicolon) (hadvance : cursor.advance goal = .ok next) :
    next.Live goal := by
  cases h with
  | step hlive => exact hlive
  | done =>
    obtain ⟨lexeme, -, hnext⟩ := Except.map_eq_ok_iff.mp hadvance
    have hrest : cursor.next.rest = [] := (Cursor.mk.inj hnext).2
    obtain ⟨c, -, hhere, hc⟩ := here_eq_of_isFinal (hcursor.at_punct _ hkind).next hkind rfl
    obtain ⟨d, hd, hne⟩ := hcursor.endsOpen
    rw [hhere, hrest, hc rfl] at hd
    exact absurd (Option.some.inj hd).symm hne

/-- Tokens in front of a token lead to the same end. -/
theorem Finishes.of_reaches (h : next.Finishes goal) (hnext : next.Live goal)
    (hcursor : cursor.Live goal) (hreach : cursor.Reaches goal next) : cursor.Finishes goal := by
  induction hreach with
  | refl => exact h
  | step hstep hrest ih =>
    obtain hsecond | hend := hcursor.reaches hstep.reaches
    · exact .step hcursor hstep (ih h hnext hsecond)
    · have hgenuine := hstep.genuine hcursor.genuine
      have hsuffix := hrest.suffix hgenuine.aligned
      rw [hgenuine.fits.ends.mp hend.kind_eq, List.suffix_nil] at hsuffix
      exact absurd hsuffix hnext.endsOpen.ne_nil

/-- Behind a word, the next token leads to the same end. -/
theorem Finishes.advance_word {keyword : Option Keyword} (h : cursor.Finishes goal)
    (hword : cursor.token.kind = .word keyword) :
    ∃ next, cursor.advance goal = .ok next ∧ next.Finishes goal := by
  cases h with
  | done => contradiction
  | @step _ next _ hstep hnext =>
    cases hstep with
    | advance h => exact ⟨next, h, hnext⟩
    | reread way h =>
      obtain ⟨lexeme, hlexeme, -⟩ := Except.map_eq_ok_iff.mp h
      unfold Lexeme.reread at hlexeme
      dsimp only at hlexeme
      split_ifs at hlexeme with happlies
      obtain ⟨p, hpunct⟩ := Rereading.exists_punct_of_applies happlies
      cases hpunct.symm.trans hword

end Cursor

/-! ### Sealed tokens -/

/-- The parser comes to a token that has a mark of its own at its end. -/
def Parser.Seals {α : Type} (parser : Parser α) : Prop :=
  ∀ ⦃context cursor a next⦄, context.Sound → parser.run context cursor = .ok (a, next) →
    ∃ last, cursor.Reaches context.goal last ∧ last.token.kind.isSealed

namespace Parser.Seals

variable {α β : Type} {parser other : Parser α} {next : α → Parser β}

theorem after (h : ∀ a, (next a).Seals) : (parser >>= next).Seals := by
  intro context cursor b final hsound hrun
  obtain ⟨a, between, hfirst, hrest⟩ := bind_eq_ok_iff.mp hrun
  obtain ⟨last, hreach, hsealed⟩ := h a hsound hrest
  exact ⟨last, (parser.forward hsound hfirst).trans hreach, hsealed⟩

theorem bind (h : parser.Seals) : (parser >>= next).Seals := by
  intro context cursor b final hsound hrun
  obtain ⟨a, between, hfirst, -⟩ := bind_eq_ok_iff.mp hrun
  exact h hsound hfirst

theorem fail {fault : Fault} : (Parser.fail fault : Parser α).Seals :=
  fun _ _ _ _ _ hrun => by contradiction

theorem ite {condition : Prop} [Decidable condition] (h : parser.Seals) (hother : other.Seals) :
    (if condition then parser else other).Seals := by
  split
  · exact h
  · exact hother

theorem withFlags {change : Flags → Flags} (h : parser.Seals) :
    (Parser.withFlags change parser).Seals := by
  intro context cursor a final hsound hrun
  have hsound' : (context.withFlags change).Sound := hsound
  obtain ⟨last, hreach, hsealed⟩ := h hsound' hrun
  exact ⟨last, hreach, hsealed⟩

theorem expectPunct (p : Punct) : (Parser.expectPunct p).Seals := by
  intro context cursor a final _ hrun
  rw [run_expectPunct] at hrun
  split_ifs at hrun with hkind
  exact ⟨cursor, .refl cursor, congrArg TokenKind.isSealed hkind⟩

end Parser.Seals

/-! ### Seams -/

/-- A place between two texts: the second one starts with a separator, and its first token goes on
with nothing. If this is a semicolon, the word `else` is not behind it. -/
structure Seam where
  goal : Goal
  tail : List Char
  /-- The cursor at the first token behind the seam. -/
  stop : Cursor
  /-- The cursor behind a statement that ends at the seam with or without a semicolon. -/
  final : Cursor
  apart : StartsApart tail
  at_stop : stop.At goal tail
  ends : stop.token.Ends
  final_eq : stop.token.kind ≠ .punct .semicolon → final = stop
  advance_stop : stop.token.kind = .punct .semicolon → stop.advance goal = .ok final
  not_else : final.token.kind ≠ .word (some .else_)

namespace Seam

variable {α β σ : Type} (seam : Seam) {context context' : Context} {c c' d : Cursor}

/-- The cursor in the longer text for a cursor in the shorter one: the same with more text behind
it, or the one behind the seam for the one at the end. -/
def Beside (c d : Cursor) : Prop :=
  (c.Live seam.goal ∧ d = c.extend seam.tail) ∨ (c = .finish ∧ d = seam.stop)

/-- From the cursor on, the second outcome is the first one in the longer text, if the end of the
text can be reached from there. -/
def Lands (c : Cursor) (first second : Outcome α) : Prop :=
  ∀ a c', first = .ok (a, c') → c'.Finishes seam.goal →
    c.Finishes seam.goal ∧ ∃ d', second = .ok (a, d') ∧ seam.Beside c' d'

/-- Two contexts for the two texts: what the rules for expressions come to is the same in the longer
one. -/
structure Contexts (context context' : Context) : Prop where
  goal_eq : context.goal = seam.goal
  sound : context.Sound
  needsToken : context.NeedsToken
  same : context'.goal = context.goal ∧ context'.flags = context.flags
  width_le : context.width ≤ context'.width
  extends_ : ∀ {target : Cursor} (simulation : Simulation context.goal target),
    context.Extends simulation context'
  rules : ∀ {rule : Rule} {flags : Flags} {c : Cursor}, (∀ place, rule ≠ .statement place) →
    c.Live seam.goal → seam.Lands c (context.rules rule flags c)
      (context'.rules rule flags (c.extend seam.tail))

variable {seam}

theorem Contexts.withFlags (h : seam.Contexts context context') (change : Flags → Flags) :
    seam.Contexts (context.withFlags change) (context'.withFlags change) where
  goal_eq := h.goal_eq
  sound := h.sound
  needsToken := h.needsToken
  same := ⟨h.same.1, congrArg change h.same.2⟩
  width_le := h.width_le
  extends_ simulation := (h.extends_ simulation).withFlags change
  rules := h.rules

variable (seam) in
/-- From a token of the text on, the parser comes to the same in front of more text. -/
def Mirrors (parser : Parser α) : Prop :=
  ∀ ⦃context context'⦄, seam.Contexts context context' → ∀ ⦃c⦄, c.Live seam.goal →
    seam.Lands c (parser.run context c) (parser.run context' (c.extend seam.tail))

variable (seam) in
/-- At the end of the text the parser reads nothing, and comes to the same at the seam. -/
def Idles (parser : Parser α) : Prop :=
  ∀ ⦃context context'⦄, seam.Contexts context context' → ∀ ⦃c a c'⦄,
    c.Spent seam.goal → parser.run context c = .ok (a, c') →
      c' = c ∧ (c = .finish → parser.run context' seam.stop = .ok (a, seam.stop))

variable (seam) in
/-- The parser goes on with what stands in front of it: it mirrors and idles. -/
structure Trails (parser : Parser α) : Prop where
  mirrors : seam.Mirrors parser
  idles : seam.Idles parser

variable (seam) in
/-- The parser mirrors, and passes a sealed token. -/
structure Closes (parser : Parser α) : Prop where
  mirrors : seam.Mirrors parser
  seals : parser.Seals

/-! ### Cursors and tokens -/

theorem beside_of_live (h : c.Live seam.goal) : seam.Beside c (c.extend seam.tail) :=
  .inl ⟨h, rfl⟩

theorem Beside.eq_extend (h : seam.Beside c d) (hc : c.Live seam.goal) :
    d = c.extend seam.tail := by
  obtain ⟨-, rfl⟩ | ⟨rfl, -⟩ := h
  · rfl
  · exact absurd rfl hc.ne_endOfSource

theorem Beside.eq_stop (h : seam.Beside c d) (hc : c.token.kind = .endOfSource) :
    d = seam.stop := by
  obtain ⟨hlive, -⟩ | ⟨-, rfl⟩ := h
  · exact absurd hc hlive.ne_endOfSource
  · rfl

/-- A step is one in front of more text. -/
theorem advance_extend (hadvance : c.advance seam.goal = .ok c') (h : c'.Finishes seam.goal) :
    ∃ d', (c.extend seam.tail).advance seam.goal = .ok d' ∧ seam.Beside c' d' := by
  obtain ⟨next, hnext, hc'⟩ := Except.map_eq_ok_iff.mp hadvance
  cases h with
  | step hlive _ _ =>
    subst hc'
    have hmore := scanToken_extend seam.tail hnext (seam.apart.parted hlive.endsOpen.ne_nil)
      (.inr (.inr seam.apart))
    exact ⟨_, (congrArg (Except.map _) hmore).trans rfl, beside_of_live hlive⟩
  | done =>
    have hrest : c.next.rest = [] := (Cursor.mk.inj hc').2
    have htail : (c.extend seam.tail).next.rest = seam.tail := by
      show c.next.rest ++ seam.tail = seam.tail
      rw [hrest, List.nil_append]
    refine ⟨seam.stop, ?_, .inr ⟨rfl, rfl⟩⟩
    rw [Cursor.advance, htail, seam.at_stop.next, ← seam.at_stop.behind]
    rfl

/-- A token that is read again is read again in front of more text. -/
theorem reread_extend {way : Rereading} (h : c.Live seam.goal) (hreread : c.reread way = .ok c') :
    c'.Live seam.goal ∧ (c.extend seam.tail).reread way = .ok (c'.extend seam.tail) := by
  have hreach : c.Reaches seam.goal c' := (Cursor.Step.reread way hreread).reaches
  obtain ⟨next, hnext, rfl⟩ := Except.map_eq_ok_iff.mp hreread
  have hsame : next.here = c.next.here := (Lexeme.reread_suffix hnext).1
  have hmore := Lexeme.reread_extend seam.tail hnext h.endsOpen.ne_nil (.inr (.inr seam.apart))
  exact ⟨⟨hreach.genuine h.genuine, fun _ => hreach.at_punct h.at_punct, hsame.symm ▸ h.endsOpen⟩,
    (congrArg (Except.map _) hmore).trans rfl⟩

/-- What stands in front of a sealed token is the same in front of more text. -/
theorem Contexts.run_extend {parser : Parser α} {a : α} (h : seam.Contexts context context')
    (hc : c.Live seam.goal) (hrun : parser.run context c = .ok (a, c'))
    (hsealed : ∃ last, c'.Reaches context.goal last ∧ last.token.kind.isSealed) :
    c'.Live seam.goal ∧ c.Reaches seam.goal c' ∧
      parser.run context' (c.extend seam.tail) = .ok (a, c'.extend seam.tail) := by
  obtain ⟨last, hlast, hsealed⟩ := hsealed
  have hreach : c.Reaches seam.goal c' := h.goal_eq ▸ parser.forward h.sound hrun
  have hlast' : c'.Reaches seam.goal last := h.goal_eq ▸ hlast
  have hlive : last.Live seam.goal :=
    hc.of_reaches_sealed (hreach.trans hlast') (.refl last) hsealed
  let simulation := Simulation.extension context.goal last seam.tail hsealed
    (seam.apart.parted hlive.endsOpen.ne_nil)
  obtain ⟨_, hrun', rfl⟩ := parser.transport h.sound (h.extends_ simulation) (c := c) rfl a c'
    hrun hlast
  exact ⟨hc.of_reaches_sealed hreach hlast' hsealed, hreach, hrun'⟩

/-! ### Sequences and choices -/

section Combinators

variable {parser other : Parser α} {next : α → Parser β}

namespace Mirrors

theorem pure (a : α) : seam.Mirrors (Pure.pure a) := by
  intro context context' _ c hc a' c' hrun hlast
  obtain ⟨rfl, rfl⟩ := Prod.mk.inj (Except.ok.inj hrun)
  exact ⟨hlast, _, rfl, beside_of_live hc⟩

theorem fail {fault : Fault} : seam.Mirrors (Parser.fail fault : Parser α) :=
  fun _ _ _ _ _ _ _ hrun => by contradiction

theorem fail_bind {fault : Fault} : seam.Mirrors (Parser.fail fault >>= next) :=
  fun _ _ _ _ _ _ _ hrun => by contradiction

theorem unexpected : seam.Mirrors (Parser.unexpected : Parser α) :=
  .fail

theorem ask (question : Flags → Token → α) : seam.Mirrors (Parser.ask question) := by
  intro context context' hcontext c hc a' c' hrun hlast
  obtain ⟨rfl, rfl⟩ := Prod.mk.inj (Except.ok.inj hrun)
  refine ⟨hlast, _, ?_, beside_of_live hc⟩
  show Except.ok (question context'.flags _, _) = _
  rw [hcontext.same.2]
  rfl

theorem peek : seam.Mirrors Parser.peek :=
  .ask _

theorem flags : seam.Mirrors Parser.flags :=
  .ask _

theorem advance : seam.Mirrors Parser.advance := by
  rintro context context' hcontext c hc ⟨⟩ c' hrun hlast
  have hadvance : c.advance seam.goal = .ok c' := hcontext.goal_eq ▸ Parser.map_eq_ok hrun
  obtain ⟨d', hmore, hbeside⟩ := advance_extend hadvance hlast
  refine ⟨.step hc (.advance hadvance) hlast, d', ?_, hbeside⟩
  show (Cursor.advance context'.goal _).map _ = _
  rw [hcontext.same.1, hcontext.goal_eq, hmore]
  rfl

/-- What idles behind a parser is at rest at the end of the text. -/
theorem bind (h : seam.Mirrors parser) (hnext : ∀ a, seam.Mirrors (next a))
    (hidle : ∀ a, seam.Idles (next a)) : seam.Mirrors (parser >>= next) := by
  intro context context' hcontext c hc b last hrun hlast
  obtain ⟨a, between, hfirst, hrest⟩ := Parser.bind_eq_ok_iff.mp hrun
  have hreach : c.Reaches seam.goal between :=
    hcontext.goal_eq ▸ parser.forward hcontext.sound hfirst
  rw [Parser.run_bind]
  obtain hlive | hend := hc.reaches hreach
  · obtain ⟨hbetween, last', hrest', hbeside⟩ := hnext a hcontext hlive b last hrest hlast
    obtain ⟨hstart, between', hfirst', hbeside'⟩ := h hcontext hc a between hfirst hbetween
    rw [hfirst', hbeside'.eq_extend hlive]
    exact ⟨hstart, last', hrest', hbeside⟩
  · obtain ⟨rfl, hstop⟩ := hidle a hcontext hend hrest
    obtain ⟨hstart, between', hfirst', hbeside⟩ := h hcontext hc a last hfirst hlast
    rw [hfirst', hbeside.eq_stop hend.kind_eq]
    exact ⟨hstart, seam.stop, hstop (hlast.eq_finish hend.kind_eq),
      hbeside.eq_stop hend.kind_eq ▸ hbeside⟩

/-- What only looks stays at the same token. -/
theorem still (hstill : parser.Still) (h : seam.Mirrors parser)
    (hnext : ∀ a, seam.Mirrors (next a)) : seam.Mirrors (parser >>= next) := by
  intro context context' hcontext c hc b last hrun hlast
  obtain ⟨a, between, hfirst, hrest⟩ := Parser.bind_eq_ok_iff.mp hrun
  obtain rfl := hstill hfirst
  obtain ⟨hbetween, last', hrest', hbeside⟩ := hnext a hcontext hc b last hrest hlast
  obtain ⟨-, between', hfirst', hbeside'⟩ := h hcontext hc a between hfirst hbetween
  rw [Parser.run_bind, hfirst', hbeside'.eq_extend hc]
  exact ⟨hbetween, last', hrest', hbeside⟩

/-- A token that is read again is no end of the text. -/
theorem reread (way : Rereading) {next : Unit → Parser β} (hnext : ∀ a, seam.Mirrors (next a)) :
    seam.Mirrors (Parser.reread way >>= next) := by
  intro context context' hcontext c hc b last hrun hlast
  obtain ⟨⟨⟩, between, hfirst, hrest⟩ := Parser.bind_eq_ok_iff.mp hrun
  have hreread : c.reread way = .ok between := Parser.map_eq_ok hfirst
  obtain ⟨hlive, hmore⟩ := reread_extend hc hreread
  obtain ⟨hbetween, hlands⟩ := hnext () hcontext hlive b last hrest hlast
  have hfirst' : (Parser.reread way).run context' (c.extend seam.tail) =
      .ok ((), between.extend seam.tail) := congrArg (Except.map ((), ·)) hmore
  rw [Parser.run_bind, hfirst']
  exact ⟨.step hc (.reread way hreread) hbetween, hlands⟩

theorem after (hnext : ∀ a, seam.Closes (next a)) : seam.Mirrors (parser >>= next) := by
  intro context context' hcontext c hc b last hrun hlast
  obtain ⟨a, between, hfirst, hrest⟩ := Parser.bind_eq_ok_iff.mp hrun
  obtain ⟨hbetween, hreach, hfirst'⟩ :=
    hcontext.run_extend hc hfirst ((hnext a).seals hcontext.sound hrest)
  obtain ⟨hfinishes, hlands⟩ := (hnext a).mirrors hcontext hbetween b last hrest hlast
  rw [Parser.run_bind, hfirst']
  exact ⟨hfinishes.of_reaches hbetween hc hreach, hlands⟩

theorem ite {condition : Prop} [Decidable condition] (h : seam.Mirrors parser)
    (hother : seam.Mirrors other) : seam.Mirrors (if condition then parser else other) := by
  split
  · exact h
  · exact hother

/-- A choice in front of what both alternatives have in common. -/
theorem either {condition : Prop} [Decidable condition] (h : seam.Mirrors parser)
    (hother : seam.Mirrors other) (hnext : ∀ a, seam.Mirrors (next a))
    (hidle : ∀ a, seam.Idles (next a)) :
    seam.Mirrors (if condition then parser >>= next else other >>= next) :=
  .ite (.bind h hnext hidle) (.bind hother hnext hidle)

/-- A test after which the parser goes on or fails. -/
theorem reject {condition : Prop} [Decidable condition] {fault : Fault} {rest : Parser β}
    (h : seam.Mirrors rest) :
    seam.Mirrors (if condition then Parser.fail fault >>= next else rest) :=
  .ite .fail_bind h

theorem need {condition : Prop} [Decidable condition] {fault : Fault} {rest : Parser β}
    (h : seam.Mirrors rest) :
    seam.Mirrors (if condition then rest else Parser.fail fault >>= next) :=
  .ite h .fail_bind

theorem withFlags {change : Flags → Flags} (h : seam.Mirrors parser) :
    seam.Mirrors (Parser.withFlags change parser) :=
  fun _ _ hcontext _ hc => h (hcontext.withFlags change) hc

theorem call {rule : Rule} (hrule : ∀ place, rule ≠ .statement place) :
    seam.Mirrors (Parser.call rule) := by
  intro context context' hcontext c hc
  show seam.Lands c _ (context'.rules rule context'.flags _)
  rw [hcontext.same.2]
  exact hcontext.rules hrule hc

end Mirrors

namespace Idles

theorem of_needsToken (h : parser.NeedsToken) : seam.Idles parser :=
  fun _ _ hcontext _ _ _ hend hrun => absurd hrun (h hcontext.needsToken hend.kind_eq _)

theorem pure (a : α) : seam.Idles (Pure.pure a) := by
  intro context context' _ c a' c' _ hrun
  obtain ⟨rfl, rfl⟩ := Prod.mk.inj (Except.ok.inj hrun)
  exact ⟨rfl, fun _ => rfl⟩

theorem fail {fault : Fault} : seam.Idles (Parser.fail fault : Parser α) :=
  .of_needsToken .fail

/-- What needs a token fails behind the end of the text as well. -/
theorem advanceKeyword_bind {next : Unit → Parser β} (h : (next ()).NeedsToken) :
    seam.Idles (Parser.advanceKeyword >>= next) := by
  intro context context' hcontext c b c' hend hrun
  obtain ⟨⟨⟩, between, hfirst, hrest⟩ := Parser.bind_eq_ok_iff.mp hrun
  have hadvance : c.advance seam.goal = .ok between :=
    hcontext.goal_eq ▸ Parser.advance_of_advanceKeyword hfirst
  exact absurd hrest (h hcontext.needsToken (hend.advance hadvance).kind_eq _)

/-- A token that ends what stands in front of it is all that the parser needs to know. -/
theorem peek {next : Token → Parser β} {rest : Parser β}
    (h : ∀ token : Token, token.Ends → next token = rest) (hrest : seam.Idles rest) :
    seam.Idles (Parser.peek >>= next) := by
  intro context context' hcontext c a c' hend hrun
  change (next c.token).run context c = _ at hrun
  rw [h _ (.of_endOfSource hend.kind_eq)] at hrun
  have hstop : (Parser.peek >>= next).run context' seam.stop = rest.run context' seam.stop := by
    rw [← h _ seam.ends]
    rfl
  rw [hstop]
  exact hrest hcontext hend hrun

/-- What is known of a token that ends what stands in front of it is known at the seam. -/
theorem look {a : α} (hknown : ∀ ⦃context cursor⦄, cursor.token.Ends →
    parser.run context cursor = .ok (a, cursor)) (h : seam.Idles (next a)) :
    seam.Idles (parser >>= next) := by
  intro context context' hcontext c b c' hend hrun
  rw [Parser.run_bind, hknown (.of_endOfSource hend.kind_eq)] at hrun
  rw [Parser.run_bind, hknown seam.ends]
  exact h hcontext hend hrun

theorem flags {next : Flags → Parser β} (h : ∀ flags, seam.Idles (next flags)) :
    seam.Idles (Parser.flags >>= next) := by
  intro context context' hcontext c a c' hend hrun
  have hstop : (Parser.flags >>= next).run context' seam.stop =
      (next context.flags).run context' seam.stop := by
    rw [← hcontext.same.2]
    rfl
  rw [hstop]
  exact h context.flags hcontext hend hrun

theorem bind (h : seam.Idles parser) (hnext : ∀ a, seam.Idles (next a)) :
    seam.Idles (parser >>= next) := by
  intro context context' hcontext c b c' hend hrun
  obtain ⟨a, between, hfirst, hrest⟩ := Parser.bind_eq_ok_iff.mp hrun
  obtain ⟨rfl, hstop⟩ := h hcontext hend hfirst
  obtain ⟨rfl, hstop'⟩ := hnext a hcontext hend hrest
  refine ⟨rfl, fun hfinish => ?_⟩
  rw [Parser.run_bind, hstop hfinish]
  exact hstop' hfinish

theorem ite {condition : Prop} [Decidable condition] (h : seam.Idles parser)
    (hother : seam.Idles other) : seam.Idles (if condition then parser else other) := by
  split
  · exact h
  · exact hother

theorem ite_neg {condition : Prop} [Decidable condition] (hc : ¬condition)
    (h : seam.Idles other) : seam.Idles (if condition then parser else other) := by
  rwa [if_neg hc]

theorem ite_pos {condition : Prop} [Decidable condition] (hc : condition)
    (h : seam.Idles parser) : seam.Idles (if condition then parser else other) := by
  rwa [if_pos hc]

theorem fail_bind {fault : Fault} : seam.Idles (Parser.fail fault >>= next) :=
  .of_needsToken (.bind .fail)

theorem reject {condition : Prop} [Decidable condition] {fault : Fault} {rest : Parser β}
    (h : seam.Idles rest) :
    seam.Idles (if condition then Parser.fail fault >>= next else rest) :=
  .ite .fail_bind h

end Idles

namespace Closes

theorem after (h : ∀ a, seam.Closes (next a)) : seam.Closes (parser >>= next) :=
  ⟨.after h, .after fun a => (h a).seals⟩

theorem bind (h : seam.Closes parser) (hnext : ∀ a, seam.Mirrors (next a))
    (hidle : ∀ a, seam.Idles (next a)) : seam.Closes (parser >>= next) :=
  ⟨.bind h.mirrors hnext hidle, .bind h.seals⟩

theorem ite {condition : Prop} [Decidable condition] (h : seam.Closes parser)
    (hother : seam.Closes other) : seam.Closes (if condition then parser else other) :=
  ⟨.ite h.mirrors hother.mirrors, .ite h.seals hother.seals⟩

/-- A choice in front of what both alternatives have in common. -/
theorem either {condition : Prop} [Decidable condition] (h : ∀ a, seam.Closes (next a)) :
    seam.Closes (if condition then parser >>= next else other >>= next) :=
  .ite (.after h) (.after h)

theorem withFlags {change : Flags → Flags} (h : seam.Closes parser) :
    seam.Closes (Parser.withFlags change parser) :=
  ⟨.withFlags h.mirrors, .withFlags h.seals⟩

end Closes

/-! ### Loops -/

section Loops

variable {body : σ → Parser (σ ⊕ α)}

namespace Idles

theorem rounds (h : ∀ state, seam.Idles (body state)) (fuel : Nat) (state : σ) :
    seam.Idles (Parser.rounds body fuel state) := by
  induction fuel generalizing state with
  | zero => exact .fail
  | succ fuel ih =>
    refine .bind (h state) fun outcome => ?_
    cases outcome with
    | inl state => exact ih state
    | inr a => exact .pure a

theorem loop (h : ∀ state, seam.Idles (body state)) (state : σ) :
    seam.Idles (Parser.loop body state) := by
  intro context context' hcontext c a c' hend hrun
  obtain ⟨rfl, hstop⟩ := rounds h (context.width + 1) state hcontext hend hrun
  exact ⟨rfl, fun hfinish =>
    Parser.rounds_mono (Nat.succ_le_succ hcontext.width_le) (hstop hfinish)⟩

end Idles

namespace Mirrors

theorem rounds (h : ∀ state, seam.Mirrors (body state)) (hidle : ∀ state, seam.Idles (body state))
    (fuel : Nat) (state : σ) : seam.Mirrors (Parser.rounds body fuel state) := by
  induction fuel generalizing state with
  | zero => exact .fail
  | succ fuel ih =>
    refine .bind (h state) (fun outcome => ?_) fun outcome => ?_
    · cases outcome with
      | inl state => exact ih state
      | inr a => exact .pure a
    · cases outcome with
      | inl state => exact .rounds hidle fuel state
      | inr a => exact .pure a

theorem loop (h : ∀ state, seam.Mirrors (body state)) (hidle : ∀ state, seam.Idles (body state))
    (state : σ) : seam.Mirrors (Parser.loop body state) := by
  intro context context' hcontext c hc a c' hrun hlast
  obtain ⟨hstart, d', hmore, hbeside⟩ :=
    rounds h hidle (context.width + 1) state hcontext hc a c' hrun hlast
  exact ⟨hstart, d', Parser.rounds_mono (Nat.succ_le_succ hcontext.width_le) hmore, hbeside⟩

end Mirrors

theorem Trails.loop (h : ∀ state, seam.Trails (body state)) (state : σ) :
    seam.Trails (Parser.loop body state) :=
  ⟨.loop (fun state => (h state).mirrors) (fun state => (h state).idles) state,
    .loop (fun state => (h state).idles) state⟩

end Loops

/-! ### Punctuators, keywords and names -/

section Tokens

theorem Mirrors.atPunct (p : Punct) : seam.Mirrors (Parser.atPunct p) :=
  .still .peek .peek fun _ => .pure _

theorem Mirrors.atKeyword (k : Keyword) : seam.Mirrors (Parser.atKeyword k) :=
  .still .peek .peek fun _ => .pure _

theorem Mirrors.eatPunct (p : Punct) : seam.Mirrors (Parser.eatPunct p) :=
  .still (.atPunct p) (.atPunct p) fun _ =>
    .ite (.bind .advance (fun _ => .pure _) fun _ => .pure _) (.pure _)

theorem Closes.expectPunct (p : Punct) : seam.Closes (Parser.expectPunct p) where
  mirrors := by
    rw [Parser.expectPunct_eq]
    exact .still (.atPunct p) (.atPunct p) fun _ => .ite .advance .unexpected
  seals := .expectPunct p

theorem Mirrors.expectPunct (p : Punct) : seam.Mirrors (Parser.expectPunct p) :=
  (Closes.expectPunct p).mirrors

theorem Mirrors.advanceKeyword : seam.Mirrors Parser.advanceKeyword :=
  .still .peek .peek fun _ => .ite .fail_bind .advance

theorem Mirrors.eatKeyword (k : Keyword) : seam.Mirrors (Parser.eatKeyword k) :=
  .still (.atKeyword k) (.atKeyword k) fun _ =>
    .ite (.bind .advanceKeyword (fun _ => .pure _) fun _ => .pure _) (.pure _)

theorem Mirrors.expectKeyword (k : Keyword) : seam.Mirrors (Parser.expectKeyword k) := by
  rw [Parser.expectKeyword_eq]
  exact .still (.atKeyword k) (.atKeyword k) fun _ => .ite .advanceKeyword .unexpected

theorem Mirrors.atIdentifier : seam.Mirrors Parser.atIdentifier := by
  refine .still .peek .peek fun token => ?_
  split <;> exact .pure _

theorem Mirrors.rejectOperatorWord : seam.Mirrors Parser.rejectOperatorWord := by
  refine .still .peek .peek fun token => .still .flags .flags fun flags => ?_
  have hyield : seam.Mirrors (if (flags.allowYield && token.kind == .word (some .yield_)) = true
      then Parser.fail .reservedName else Pure.pure ()) := .ite .fail (.pure _)
  exact .ite .fail_bind hyield

/-- A token that is passed over and of which something is made. -/
theorem Mirrors.advance_pure (a : α) :
    seam.Mirrors (do
      Parser.advance
      Pure.pure a) :=
  .bind .advance (fun _ => .pure a) fun _ => .pure a

theorem Mirrors.identifier : seam.Mirrors Parser.identifier := by
  refine .still .atIdentifier .atIdentifier fun _ => .ite ?_ .fail_bind
  exact .still .rejectOperatorWord .rejectOperatorWord fun _ => .still .peek .peek fun _ =>
    .advance_pure _

theorem Mirrors.propertyName : seam.Mirrors Parser.propertyName := by
  refine .still .peek .peek fun token => ?_
  split
  · exact .advance_pure _
  · exact .unexpected

end Tokens

/-! ### Looking ahead -/

section Ahead

variable {token : Token} {keyword : Option Keyword}

variable (seam) in
/-- The parser mirrors from a word on that has the given token of the text behind it. -/
def MirrorsBefore (token : Token) (parser : Parser α) : Prop :=
  ∀ ⦃context context'⦄, seam.Contexts context context' → ∀ ⦃c second keyword⦄, c.Live seam.goal →
    c.token.kind = .word keyword → c.advance seam.goal = .ok second → second.Live seam.goal →
      second.token = token →
        seam.Lands c (parser.run context c) (parser.run context' (c.extend seam.tail))

theorem Mirrors.before (h : seam.Mirrors parser) : seam.MirrorsBefore token parser :=
  fun _ _ hcontext _ _ _ hc _ _ _ _ => h hcontext hc

theorem MirrorsBefore.ite {condition : Prop} [Decidable condition]
    (h : seam.MirrorsBefore token parser) (hother : seam.MirrorsBefore token other) :
    seam.MirrorsBefore token (if condition then parser else other) := by
  split
  · exact h
  · exact hother

/-- The parser cannot go on behind the next token if that is the last one. -/
def Starves (parser : Parser α) : Prop :=
  ∀ ⦃context c second⦄, context.NeedsToken → c.advance context.goal = .ok second →
    second.token.kind = .endOfSource → ∀ outcome, parser.run context c ≠ .ok outcome

theorem behindWord?_of_word {goal : Goal} (hword : c.token.kind = .word keyword) :
    c.behindWord? goal = (c.advance goal).toOption := by
  rw [Cursor.behindWord?, hword]

theorem behindWord?_of_not_word {goal : Goal} (hword : ∀ keyword, c.token.kind ≠ .word keyword) :
    c.behindWord? goal = none := by
  unfold Cursor.behindWord?
  split
  · next keyword hkind => exact absurd hkind (hword keyword)
  · rfl

theorem behindWord?_eq_some {goal : Goal} {second : Cursor} (h : c.behindWord? goal = some second) :
    ∃ keyword, c.token.kind = .word keyword ∧ c.advance goal = .ok second := by
  unfold Cursor.behindWord? at h
  split at h
  · next keyword hkind =>
    refine ⟨keyword, hkind, ?_⟩
    cases hadvance : c.advance goal with
    | ok next =>
      rw [hadvance] at h
      exact congrArg Except.ok (Option.some.inj h)
    | error fault =>
      rw [hadvance] at h
      contradiction
  · contradiction

/-- The token behind the next one is the same in front of more text, unless it is the end of the
text. -/
theorem second_extend (h : c.Finishes seam.goal) :
    ((c.extend seam.tail).behindWord? seam.goal).map Cursor.token =
        (c.behindWord? seam.goal).map Cursor.token ∨
      ∃ second, c.advance seam.goal = .ok second ∧ second.token.kind = .endOfSource ∧
        (c.behindWord? seam.goal).map Cursor.token = some second.token ∧
        ((c.extend seam.tail).behindWord? seam.goal).map Cursor.token = some seam.stop.token := by
  by_cases hword : ∃ keyword, c.token.kind = .word keyword
  · obtain ⟨keyword, hword⟩ := hword
    have hword' : (c.extend seam.tail).token.kind = .word keyword := hword
    obtain ⟨second, hadvance, hsecond⟩ := h.advance_word hword
    obtain ⟨second', hadvance', hbeside⟩ := advance_extend hadvance hsecond
    rw [behindWord?_of_word hword, behindWord?_of_word hword', hadvance, hadvance']
    obtain ⟨-, rfl⟩ | ⟨rfl, rfl⟩ := hbeside
    · exact .inl rfl
    · exact .inr ⟨.finish, rfl, rfl, rfl, rfl⟩
  · have hnot (keyword : Option Keyword) : c.token.kind ≠ .word keyword :=
      fun hkind => hword ⟨keyword, hkind⟩
    rw [behindWord?_of_not_word hnot, behindWord?_of_not_word (c := c.extend seam.tail) hnot]
    exact .inl rfl

/-- The token behind the next one may be asked for, if all tokens that end a statement have the same
answer, or the parser cannot go on behind the next one at the end of the text. -/
theorem run_peekSecond_extend {next : Option Token → Parser β} {outcome : β × Cursor}
    (hend : ∀ token token' : Token, token.kind = .endOfSource → token'.Ends →
      Starves (next (some token)) ∨ next (some token) = next (some token'))
    (hcontext : seam.Contexts context context')
    (hrun : (next ((c.behindWord? seam.goal).map Cursor.token)).run context c = .ok outcome)
    (h : c.Finishes seam.goal) :
    next (((c.extend seam.tail).behindWord? seam.goal).map Cursor.token) =
      next ((c.behindWord? seam.goal).map Cursor.token) := by
  obtain heq | ⟨second, hadvance, heof, hsome, hsome'⟩ := second_extend h
  · rw [heq]
  · rw [hsome] at hrun ⊢
    rw [hsome']
    refine ((hend second.token seam.stop.token heof seam.ends).resolve_left fun hstarves => ?_).symm
    exact hstarves hcontext.needsToken (hcontext.goal_eq ▸ hadvance) heof _ hrun

theorem run_peekSecond_bind {next : Option Token → Parser β} {goal : Goal} {context : Context}
    (hgoal : context.goal = goal) (c : Cursor) :
    (Parser.peekSecond >>= next).run context c =
      (next ((c.behindWord? goal).map Cursor.token)).run context c :=
  hgoal ▸ rfl

/-- A parser that asks for the token behind the next one mirrors if it does for every answer. -/
theorem Mirrors.peekSecond {next : Option Token → Parser β} (hnone : seam.Mirrors (next none))
    (hsome : ∀ token, seam.MirrorsBefore token (next (some token)))
    (hend : ∀ token token' : Token, token.kind = .endOfSource → token'.Ends →
      Starves (next (some token)) ∨ next (some token) = next (some token'))
    (hstop : ∀ token : Token, token.Ends → seam.Mirrors (next (some token))) :
    seam.Mirrors (Parser.peekSecond >>= next) := by
  intro context context' hcontext c hc b last hrun hlast
  rw [run_peekSecond_bind hcontext.goal_eq] at hrun
  rw [run_peekSecond_bind (hcontext.same.1.trans hcontext.goal_eq)]
  suffices hlands : c.Finishes seam.goal ∧ ∃ d',
      (next ((c.behindWord? seam.goal).map Cursor.token)).run context' (c.extend seam.tail) =
        .ok (b, d') ∧ seam.Beside last d' by
    rwa [run_peekSecond_extend hend hcontext hrun hlands.1]
  cases hsecond : c.behindWord? seam.goal with
  | none =>
    rw [hsecond] at hrun
    exact hnone hcontext hc b last hrun hlast
  | some second =>
    rw [hsecond] at hrun
    obtain ⟨keyword, hword, hadvance⟩ := behindWord?_eq_some hsecond
    obtain hlive | heof := hc.reaches (Cursor.Step.advance hadvance).reaches
    · exact hsome second.token hcontext hc hword hadvance hlive rfl b last hrun hlast
    · exact hstop second.token (.of_endOfSource heof.kind_eq) hcontext hc b last hrun hlast

/-- The token behind the next one may be asked for, if all tokens that end a statement have the same
answer. -/
theorem Mirrors.peekSecond_of_eq {next : Option Token → Parser β} {rest : Parser β}
    (hnone : seam.Mirrors (next none))
    (hsome : ∀ token, seam.MirrorsBefore token (next (some token)))
    (hends : ∀ token : Token, token.Ends → next (some token) = rest) (hrest : seam.Mirrors rest) :
    seam.Mirrors (Parser.peekSecond >>= next) := by
  refine .peekSecond hnone hsome (fun token token' hend hends' => ?_) fun token htoken => ?_
  · exact .inr ((hends token (.of_endOfSource hend)).trans (hends token' hends').symm)
  · rw [hends token htoken]
    exact hrest

/-- The third token may be asked for behind a word, if all tokens that end a statement have the same
answer. -/
theorem MirrorsBefore.peekThird {next : Option Token → Parser β}
    (hword : token.kind = .word keyword) (h : ∀ third, seam.Mirrors (next third))
    (hsame : ∀ token token' : Token, token.Ends → token'.Ends →
      next (some token) = next (some token')) :
    seam.MirrorsBefore token (Parser.peekThird >>= next) := by
  rintro context context' hcontext c second first hc hfirst hadvance hsecond rfl b last hrun hlast
  have hgoal' : context'.goal = seam.goal := hcontext.same.1.trans hcontext.goal_eq
  have hrunThird {context : Context} (hgoal : context.goal = seam.goal) (c : Cursor) :
      (Parser.peekThird >>= next).run context c =
        (next (((c.behindWord? seam.goal).bind (·.behindWord? seam.goal)).map Cursor.token)).run
          context c := hgoal ▸ rfl
  rw [hrunThird hcontext.goal_eq] at hrun
  rw [hrunThird hgoal']
  obtain ⟨hstart, hlands⟩ := h _ hcontext hc b last hrun hlast
  -- The end of the text is behind the second word, which is the one that was passed over.
  obtain ⟨_, hok, hfinishes⟩ := hstart.advance_word hfirst
  obtain rfl := Except.ok.inj (hadvance.symm.trans hok)
  obtain ⟨third, hthird, hend⟩ := hfinishes.advance_word hword
  obtain ⟨second', hadvance', hbeside⟩ := advance_extend hadvance hfinishes
  obtain rfl := hbeside.eq_extend hsecond
  obtain ⟨third', hthird', hbeside'⟩ := advance_extend hthird hend
  have hfirst' : (c.extend seam.tail).token.kind = .word first := hfirst
  have hword' : (second.extend seam.tail).token.kind = .word keyword := hword
  have hahead : (c.behindWord? seam.goal).bind (·.behindWord? seam.goal) = some third := by
    rw [behindWord?_of_word hfirst, hadvance]
    exact (behindWord?_of_word hword).trans (by rw [hthird]; rfl)
  have hahead' : ((c.extend seam.tail).behindWord? seam.goal).bind (·.behindWord? seam.goal) =
      some third' := by
    rw [behindWord?_of_word hfirst', hadvance']
    exact (behindWord?_of_word hword').trans (by rw [hthird']; rfl)
  rw [hahead] at hlands
  rw [hahead']
  obtain ⟨-, rfl⟩ | ⟨rfl, rfl⟩ := hbeside'
  · exact ⟨hstart, hlands⟩
  · show _ ∧ ∃ d', (next (some seam.stop.token)).run _ _ = _ ∧ _
    rw [hsame _ _ seam.ends Cursor.token_finish_ends]
    exact ⟨hstart, hlands⟩

end Ahead

end Combinators

end Seam

end ModuleBundler.Script
