import ModuleBundler.Proofs.Script.Reads
import ModuleBundler.Script.Grammar.Postfix

/-!
# Where parsers fail

A parser *fails* at a text if it does so from every cursor at its start. Where no token can be read
there is no such cursor; who passes over the token in front of it fails instead. So a failure behind
a token is one in front of it.

A parser that looks at the text before it passes over any of it *goes on* as another one; then it
reads and fails as that one does.

## Main definitions

* `Parser.Fails` — a parser fails at the start of a text.
* `Parser.GoesOnAs` — a parser does what another one does.
* `Parser.ReadsIf`, `Parser.ReadsExactlyIf` — a parser reads if a condition holds, and fails
  otherwise.

## Main results

* `Parser.Reads.bind_fails` — a sequence fails behind what was read.
* `Parser.Fails.advance_bind` — it fails behind a token.
* `Parser.Reads.goesOnAs` — a sequence goes on as what follows the parsers that look ahead.
-/

namespace ModuleBundler.Script

/-- There is at most one cursor at the start of a text. -/
theorem Cursor.At.unique {goal : Goal} {chars : List Char} {cursor cursor' : Cursor}
    (h : cursor.At goal chars) (h' : cursor'.At goal chars) : cursor = cursor' := by
  have hnext : cursor.next = cursor'.next := Except.ok.inj (h.next.symm.trans h'.next)
  have hbehind : cursor.behind = cursor'.behind := h.behind.trans h'.behind.symm
  cases cursor
  cases cursor'
  cases hnext
  cases hbehind
  rfl

namespace Parser

variable {α β σ : Type} {parser other : Parser α} {context : Context}
  {chars between rest : List Char} {a : α} {next : Lexeme}

/-- The parser fails at the start of the text. -/
def Fails (parser : Parser α) (context : Context) (chars : List Char) : Prop :=
  ∀ ⦃cursor⦄, cursor.At context.goal chars → ∃ fault, parser.run context cursor = .error fault

/-- Where a token can be read, a parser that reads does not fail. -/
theorem Reads.not_fails (h : parser.Reads context chars a rest)
    (hnext : scanToken context.goal chars = .ok next) : ¬parser.Fails context chars := by
  intro hfails
  have hcursor : Cursor.At context.goal chars ⟨next, chars⟩ := ⟨hnext, rfl⟩
  obtain ⟨last, -, hrun⟩ := h hcursor
  obtain ⟨fault, hrun'⟩ := hfails hcursor
  cases hrun.symm.trans hrun'

/-- A sequence fails behind what was read. -/
theorem Reads.bind_fails {continuation : α → Parser β} (h : parser.Reads context chars a between)
    (hcontinuation : (continuation a).Fails context between) :
    (parser >>= continuation).Fails context chars := by
  intro cursor hcursor
  obtain ⟨middle, hmiddle, hrun⟩ := h hcursor
  obtain ⟨fault, hrun'⟩ := hcontinuation hmiddle
  exact ⟨fault, by rw [run_bind, hrun]; exact hrun'⟩

/-! ### Looking ahead -/

/-- The parsers do the same from the start of the text. -/
def GoesOnAs (parser other : Parser α) (context : Context) (chars : List Char) : Prop :=
  ∀ ⦃cursor⦄, cursor.At context.goal chars → parser.run context cursor = other.run context cursor

/-- A sequence goes on as what follows a parser that looks ahead. -/
theorem Reads.goesOnAs {continuation : α → Parser β} {other : Parser β}
    (h : parser.Reads context chars a chars)
    (hcontinuation : (continuation a).GoesOnAs other context chars) :
    (parser >>= continuation).GoesOnAs other context chars := by
  intro cursor hcursor
  obtain ⟨cursor', hcursor', hrun⟩ := h hcursor
  rw [run_bind, hrun]
  exact (hcontinuation hcursor').trans (by rw [hcursor'.unique hcursor])

namespace GoesOnAs

protected theorem refl : parser.GoesOnAs parser context chars :=
  fun _ _ => rfl

theorem reads (h : parser.GoesOnAs other context chars)
    (hother : other.Reads context chars a rest) : parser.Reads context chars a rest := by
  intro cursor hcursor
  rw [h hcursor]
  exact hother hcursor

theorem fails (h : parser.GoesOnAs other context chars) (hother : other.Fails context chars) :
    parser.Fails context chars := by
  intro cursor hcursor
  rw [h hcursor]
  exact hother hcursor

section Choice

variable {condition : Prop} [Decidable condition] {alternative : Parser α}

theorem ite_neg (hcondition : ¬condition) (h : parser.GoesOnAs other context chars) :
    (if condition then alternative else parser).GoesOnAs other context chars := by
  rwa [if_neg hcondition]

end Choice

end GoesOnAs

namespace Fails

protected theorem bind {continuation : α → Parser β} (h : parser.Fails context chars) :
    (parser >>= continuation).Fails context chars := by
  intro cursor hcursor
  obtain ⟨fault, hrun⟩ := h hcursor
  exact ⟨fault, by rw [run_bind, hrun]⟩

section Choice

variable {condition : Prop} [Decidable condition]

theorem ite_pos (hcondition : condition) (h : parser.Fails context chars) :
    (if condition then parser else other).Fails context chars := by
  rwa [if_pos hcondition]

theorem ite_neg (hcondition : ¬condition) (h : other.Fails context chars) :
    (if condition then parser else other).Fails context chars := by
  rwa [if_neg hcondition]

end Choice

/-! ### Tokens -/

/-- Where no token can be read, there is no cursor to read from. -/
theorem of_error {fault : Fault} (h : scanToken context.goal chars = .error fault) :
    parser.Fails context chars :=
  fun _ hcursor => nomatch h.symm.trans hcursor.next

/-- Nothing can be passed over if there is no token behind it. -/
theorem advance {fault : Fault} (h : scanToken context.goal chars = .ok next)
    (hsecond : scanToken context.goal next.rest = .error fault) :
    Parser.advance.Fails context chars := by
  intro cursor hcursor
  obtain rfl : next = cursor.next := Except.ok.inj (h.symm.trans hcursor.next)
  refine ⟨fault, ?_⟩
  show ((scanToken _ _).map _).map _ = _
  rw [hsecond]
  rfl

/-- A sequence fails behind a token, or there is no token behind it. -/
theorem advance_bind {continuation : Unit → Parser β}
    (h : scanToken context.goal chars = .ok next)
    (hcontinuation : (continuation ()).Fails context next.rest) :
    (Parser.advance >>= continuation).Fails context chars := by
  cases hsecond : scanToken context.goal next.rest with
  | ok second => exact (Reads.advance h hsecond).bind_fails hcontinuation
  | error fault => exact .bind (.advance h hsecond)

theorem eatPunct_bind {p : Punct} {continuation : Bool → Parser β}
    (h : scanToken context.goal chars = .ok next) (hkind : next.token.kind = .punct p)
    (hcontinuation : (continuation true).Fails context next.rest) :
    (eatPunct p >>= continuation).Fails context chars := by
  cases hsecond : scanToken context.goal next.rest with
  | ok second => exact (Reads.eatPunct_of_eq h hkind hsecond).bind_fails hcontinuation
  | error fault =>
    exact .bind ((Reads.atPunct_of_eq h hkind).bind_fails
      (.ite_pos rfl (.bind (.advance h hsecond))))

/-! ### Loops -/

section Loop

variable {body : σ → Parser (σ ⊕ α)} {state state' : σ} {fuel : Nat}

theorem rounds (h : (body state).Fails context chars) :
    (Parser.rounds body (fuel + 1) state).Fails context chars :=
  .bind h

theorem rounds_inl (h : (body state).Reads context chars (.inl state') between)
    (hrest : (Parser.rounds body fuel state').Fails context between) :
    (Parser.rounds body (fuel + 1) state).Fails context chars :=
  h.bind_fails hrest

theorem loop (h : (Parser.rounds body (context.width + 1) state).Fails context chars) :
    (Parser.loop body state).Fails context chars :=
  h

end Loop

end Fails

/-! ### Reading under a condition -/

/-- The parser reads the text up to the rest if the condition holds, and fails otherwise. -/
def ReadsIf (condition : Prop) (parser : Parser α) (context : Context) (chars : List Char) (a : α)
    (rest : List Char) : Prop :=
  (condition → parser.Reads context chars a rest) ∧ (¬condition → parser.Fails context chars)

section ReadsIf

variable {condition condition' : Prop} {b : β} {continuation : α → Parser β}

theorem Reads.readsIf_bind (h : parser.Reads context chars a between)
    (hcontinuation : (continuation a).ReadsIf condition context between b rest) :
    (parser >>= continuation).ReadsIf condition context chars b rest :=
  ⟨fun hc => h.bind (hcontinuation.1 hc), fun hc => h.bind_fails (hcontinuation.2 hc)⟩

theorem GoesOnAs.readsIf (h : parser.GoesOnAs other context chars)
    (hother : other.ReadsIf condition context chars a rest) :
    parser.ReadsIf condition context chars a rest :=
  ⟨fun hc => h.reads (hother.1 hc), fun hc => h.fails (hother.2 hc)⟩

namespace ReadsIf

theorem of_iff (h : parser.ReadsIf condition context chars a rest)
    (hiff : condition' ↔ condition) : parser.ReadsIf condition' context chars a rest :=
  ⟨fun hc => h.1 (hiff.mp hc), fun hc => h.2 (mt hiff.mpr hc)⟩

theorem ite_neg {choice : Prop} [Decidable choice] (hchoice : ¬choice)
    (h : other.ReadsIf condition context chars a rest) :
    (if choice then parser else other).ReadsIf condition context chars a rest := by
  rwa [if_neg hchoice]

theorem bind_reads (h : parser.ReadsIf condition context chars a between)
    (hcontinuation : (continuation a).Reads context between b rest) :
    (parser >>= continuation).ReadsIf condition context chars b rest :=
  ⟨fun hc => (h.1 hc).bind hcontinuation, fun hc => .bind (h.2 hc)⟩

/-- A sequence is read if both of its parts are. -/
protected theorem bind (h : parser.ReadsIf condition context chars a between)
    (hcontinuation : (continuation a).ReadsIf condition' context between b rest) :
    (parser >>= continuation).ReadsIf (condition ∧ condition') context chars b rest := by
  refine ⟨fun hc => (h.1 hc.1).bind (hcontinuation.1 hc.2), fun hc => ?_⟩
  by_cases hfirst : condition
  · exact (h.1 hfirst).bind_fails (hcontinuation.2 fun hsecond => hc ⟨hfirst, hsecond⟩)
  · exact .bind (h.2 hfirst)

end ReadsIf

/-- The text starts with a token, and the parser reads it up to the rest if the condition holds, and
fails otherwise. -/
structure ReadsExactlyIf (condition : Prop) (parser : Parser α) (context : Context)
    (chars : List Char) (a : α) (rest : List Char) : Prop where
  exists_token : ∃ next, scanToken context.goal chars = .ok next
  readsIf : parser.ReadsIf condition context chars a rest

theorem ReadsExactlyIf.reads_iff (h : parser.ReadsExactlyIf condition context chars a rest) :
    parser.Reads context chars a rest ↔ condition := by
  obtain ⟨next, hnext⟩ := h.exists_token
  refine ⟨fun hreads => Classical.byContradiction fun hc => ?_, h.readsIf.1⟩
  exact hreads.not_fails hnext (h.readsIf.2 hc)

end ReadsIf

/-! ### Words that cannot be passed over -/

/-- No token can be read at the start of the text, or a word with no token behind it. -/
def Stuck (goal : Goal) (chars : List Char) : Prop :=
  ∀ ⦃first⦄, scanToken goal chars = .ok first →
    (∃ keyword, first.token.kind = .word keyword) ∧
      ∃ fault, scanToken goal first.rest = .error fault

theorem stuck_of_error {goal : Goal} {fault : Fault} (h : scanToken goal chars = .error fault) :
    Stuck goal chars := by
  intro first hfirst
  cases h.symm.trans hfirst

theorem Reads.exists_atIdentifier (h : scanToken context.goal chars = .ok next) :
    ∃ isIdentifier, atIdentifier.Reads context chars isIdentifier chars := by
  cases hkind : next.token.kind with
  | word keyword =>
    cases keyword with
    | none => exact ⟨true, .atIdentifier_of_none h hkind⟩
    | some keyword =>
      refine ⟨!keyword.isReserved, .bind (.peek h) ?_⟩
      rw [hkind]
      exact .pure
  | _ => exact ⟨false, .atIdentifier_of_not_word h (by simp [hkind])⟩

namespace Stuck

variable (h : Stuck context.goal chars)

include h

/-- What fails where the word in front of it cannot be passed over fails. -/
theorem fails (hparser : ∀ ⦃first keyword⦄, scanToken context.goal chars = .ok first →
      first.token.kind = .word keyword → Parser.advance.Fails context chars →
      parser.Fails context chars) : parser.Fails context chars := by
  intro cursor hcursor
  obtain ⟨⟨keyword, hkind⟩, fault, hsecond⟩ := h hcursor.next
  exact hparser hcursor.next hkind (.advance hcursor.next hsecond) hcursor

theorem propertyName : Parser.propertyName.Fails context chars := by
  refine h.fails fun first keyword hfirst hkind hadvance => ?_
  refine (Reads.peek hfirst).bind_fails ?_
  rw [hkind]
  exact .bind hadvance

theorem property : Parser.property.Fails context chars := by
  refine h.fails fun first keyword hfirst hkind _ => ?_
  refine (Reads.peek hfirst).bind_fails ?_
  rw [hkind]
  exact h.propertyName

theorem memberName : Parser.memberName.Fails context chars := by
  refine h.fails fun first keyword hfirst hkind _ => ?_
  refine (Reads.peek hfirst).bind_fails ?_
  rw [hkind]
  exact h.propertyName

end Stuck

end Parser

end ModuleBundler.Script
