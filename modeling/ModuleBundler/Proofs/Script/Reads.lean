import ModuleBundler.Script.Grammar.Token

/-!
# What parsers read

A parser *reads* a text up to some rest if it does so from every cursor at the start of the text,
and what it comes to does not depend on what was read before. While `Ensures` says nothing about
faults, `Reads` says that there is none. Sequences, lists and the common parsers follow the tokens of
the text.

## Main definitions

* `Cursor.At` — the cursor at the start of a text.
* `Parser.Reads` — a parser reads a text and comes to a value.
* `Parser.Separated`, `Parser.Repeated` — texts of items, between commas or one behind the other.

## Main results

* `Parser.Reads.bind` — sequences.
* `Parser.Separated.reads`, `Parser.Repeated.reads` — lists.
-/

namespace ModuleBundler.Script

/-- The cursor is at the start of a text. -/
structure Cursor.At (goal : Goal) (chars : List Char) (cursor : Cursor) : Prop where
  next : scanToken goal chars = .ok cursor.next
  behind : cursor.behind = chars

namespace Parser

variable {α β σ : Type} {parser other : Parser α} {context : Context}
  {chars between rest : List Char} {a : α} {b : β} {next second third : Lexeme}

/-- The parser reads the text up to the rest and comes to the value. -/
def Reads (parser : Parser α) (context : Context) (chars : List Char) (a : α)
    (rest : List Char) : Prop :=
  ∀ ⦃cursor⦄, cursor.At context.goal chars →
    ∃ next, next.At context.goal rest ∧ parser.run context cursor = .ok (a, next)

namespace Reads

/-! ### Sequences -/

protected theorem pure : (Pure.pure a : Parser α).Reads context chars a chars :=
  fun cursor h => ⟨cursor, h, rfl⟩

protected theorem bind {continuation : α → Parser β} (h : parser.Reads context chars a between)
    (hcontinuation : (continuation a).Reads context between b rest) :
    (parser >>= continuation).Reads context chars b rest := by
  intro cursor hcursor
  obtain ⟨middle, hmiddle, hrun⟩ := h hcursor
  obtain ⟨last, hlast, hrun'⟩ := hcontinuation hmiddle
  exact ⟨last, hlast, by rw [run_bind, hrun]; exact hrun'⟩

section Choice

variable {condition : Prop} [Decidable condition]

theorem ite_pos (hcondition : condition) (h : parser.Reads context chars a rest) :
    (if condition then parser else other).Reads context chars a rest := by
  rwa [if_pos hcondition]

theorem ite_neg (hcondition : ¬condition) (h : other.Reads context chars a rest) :
    (if condition then parser else other).Reads context chars a rest := by
  rwa [if_neg hcondition]

end Choice

theorem withFlags {change : Flags → Flags}
    (h : parser.Reads (context.withFlags change) chars a rest) :
    (Parser.withFlags change parser).Reads context chars a rest :=
  h

/-! ### Tokens -/

theorem flags : Parser.flags.Reads context chars context.flags chars :=
  fun cursor h => ⟨cursor, h, rfl⟩

theorem peek (h : scanToken context.goal chars = .ok next) :
    Parser.peek.Reads context chars next.token chars := by
  intro cursor hcursor
  obtain rfl : next = cursor.next := Except.ok.inj (h.symm.trans hcursor.next)
  exact ⟨cursor, hcursor, rfl⟩

theorem advance (h : scanToken context.goal chars = .ok next)
    (hsecond : scanToken context.goal next.rest = .ok second) :
    Parser.advance.Reads context chars () next.rest := by
  intro cursor hcursor
  obtain rfl : next = cursor.next := Except.ok.inj (h.symm.trans hcursor.next)
  refine ⟨⟨second, cursor.next.rest⟩, ⟨hsecond, rfl⟩, ?_⟩
  show ((scanToken _ _).map _).map _ = _
  rw [hsecond]
  rfl

theorem peekSecond_of_word {keyword : Option Keyword} (h : scanToken context.goal chars = .ok next)
    (hword : next.token.kind = .word keyword)
    (hsecond : scanToken context.goal next.rest = .ok second) :
    peekSecond.Reads context chars (some second.token) chars := by
  intro cursor hcursor
  obtain rfl : next = cursor.next := Except.ok.inj (h.symm.trans hcursor.next)
  refine ⟨cursor, hcursor, ?_⟩
  have hbehind : cursor.behindWord? context.goal = some ⟨second, cursor.next.rest⟩ := by
    rw [Cursor.behindWord?, show cursor.token.kind = _ from hword, Cursor.advance, hsecond]
    rfl
  show Except.ok ((cursor.behindWord? context.goal).map Cursor.token, cursor) = _
  rw [hbehind]
  rfl

theorem peekSecond_of_not_word (h : scanToken context.goal chars = .ok next)
    (hword : ∀ keyword, next.token.kind ≠ .word keyword) :
    peekSecond.Reads context chars none chars := by
  intro cursor hcursor
  obtain rfl : next = cursor.next := Except.ok.inj (h.symm.trans hcursor.next)
  refine ⟨cursor, hcursor, ?_⟩
  have hbehind : cursor.behindWord? context.goal = none := by
    unfold Cursor.behindWord?
    split
    · next keyword hkind => exact absurd hkind (hword keyword)
    · rfl
  show Except.ok ((cursor.behindWord? context.goal).map Cursor.token, cursor) = _
  rw [hbehind]
  rfl

/-! ### Places in the text -/

theorem withDistance (h : parser.Reads context chars a rest)
    (hnext : scanToken context.goal chars = .ok next)
    (hsecond : scanToken context.goal rest = .ok second) :
    parser.withDistance.Reads context chars (a, next.here.length - second.here.length) rest := by
  intro cursor hcursor
  obtain ⟨last, hlast, hrun⟩ := h hcursor
  obtain rfl : next = cursor.next := Except.ok.inj (hnext.symm.trans hcursor.next)
  obtain rfl : second = last.next := Except.ok.inj (hsecond.symm.trans hlast.next)
  refine ⟨last, hlast, ?_⟩
  show (parser.run context cursor).map _ = _
  rw [hrun]
  rfl

theorem withExtent (h : parser.Reads context chars a rest)
    (hnext : scanToken context.goal chars = .ok next) :
    parser.withExtent.Reads context chars (a, next.here.length - rest.length) rest := by
  intro cursor hcursor
  obtain ⟨last, hlast, hrun⟩ := h hcursor
  obtain rfl : next = cursor.next := Except.ok.inj (hnext.symm.trans hcursor.next)
  refine ⟨last, hlast, ?_⟩
  show (parser.run context cursor).map _ = _
  rw [hrun, ← hlast.behind]
  rfl

/-! ### Loops -/

section Loop

variable {body : σ → Parser (σ ⊕ α)} {state state' : σ} {fuel : Nat}

theorem rounds_inl (h : (body state).Reads context chars (.inl state') between)
    (hrest : (rounds body fuel state').Reads context between a rest) :
    (rounds body (fuel + 1) state).Reads context chars a rest :=
  .bind h hrest

theorem rounds_inr (h : (body state).Reads context chars (.inr a) rest) :
    (rounds body (fuel + 1) state).Reads context chars a rest :=
  .bind h .pure

theorem loop (h : (rounds body (context.width + 1) state).Reads context chars a rest) :
    (Parser.loop body state).Reads context chars a rest :=
  h

end Loop

/-! ### Punctuators -/

variable {p : Punct}

theorem atPunct (h : scanToken context.goal chars = .ok next) :
    (Parser.atPunct p).Reads context chars (next.token.kind == .punct p) chars :=
  .bind (.peek h) .pure

theorem atPunct_of_eq (h : scanToken context.goal chars = .ok next)
    (hkind : next.token.kind = .punct p) : (Parser.atPunct p).Reads context chars true chars := by
  have hread : (Parser.atPunct p).Reads context chars (next.token.kind == .punct p) chars :=
    .atPunct h
  rwa [hkind, beq_self_eq_true] at hread

theorem atPunct_of_ne (h : scanToken context.goal chars = .ok next)
    (hkind : next.token.kind ≠ .punct p) : (Parser.atPunct p).Reads context chars false chars := by
  have hread : (Parser.atPunct p).Reads context chars (next.token.kind == .punct p) chars :=
    .atPunct h
  rwa [beq_eq_false_iff_ne.mpr hkind] at hread

theorem eatPunct_of_eq (h : scanToken context.goal chars = .ok next)
    (hkind : next.token.kind = .punct p)
    (hsecond : scanToken context.goal next.rest = .ok second) :
    (eatPunct p).Reads context chars true next.rest :=
  .bind (.atPunct_of_eq h hkind) (.ite_pos rfl (.bind (.advance h hsecond) .pure))

theorem eatPunct_of_ne (h : scanToken context.goal chars = .ok next)
    (hkind : next.token.kind ≠ .punct p) : (eatPunct p).Reads context chars false chars :=
  .bind (.atPunct_of_ne h hkind) (.ite_neg Bool.false_ne_true .pure)

theorem expectPunct (h : scanToken context.goal chars = .ok next)
    (hkind : next.token.kind = .punct p)
    (hsecond : scanToken context.goal next.rest = .ok second) :
    (Parser.expectPunct p).Reads context chars () next.rest :=
  .bind (.eatPunct_of_eq h hkind hsecond) (.ite_pos rfl .pure)

/-! ### Keywords -/

variable {k : Keyword}

theorem atKeyword_of_eq (h : scanToken context.goal chars = .ok next)
    (hkind : next.token.kind = .word (some k)) :
    (Parser.atKeyword k).Reads context chars true chars := by
  have hread : (Parser.atKeyword k).Reads context chars (next.token.kind == .word (some k)) chars :=
    .bind (.peek h) .pure
  rwa [hkind, beq_self_eq_true] at hread

theorem atKeyword_of_ne (h : scanToken context.goal chars = .ok next)
    (hkind : next.token.kind ≠ .word (some k)) :
    (Parser.atKeyword k).Reads context chars false chars := by
  have hread : (Parser.atKeyword k).Reads context chars (next.token.kind == .word (some k)) chars :=
    .bind (.peek h) .pure
  rwa [beq_eq_false_iff_ne.mpr hkind] at hread

theorem advanceKeyword (h : scanToken context.goal chars = .ok next)
    (hescaped : next.token.escaped = false)
    (hsecond : scanToken context.goal next.rest = .ok second) :
    Parser.advanceKeyword.Reads context chars () next.rest :=
  .bind (.peek h) (.ite_neg (by rw [hescaped]; exact Bool.false_ne_true) (.advance h hsecond))

theorem eatKeyword_of_ne (h : scanToken context.goal chars = .ok next)
    (hkind : next.token.kind ≠ .word (some k)) :
    (eatKeyword k).Reads context chars false chars :=
  .bind (.atKeyword_of_ne h hkind) (.ite_neg Bool.false_ne_true .pure)

theorem expectKeyword (h : scanToken context.goal chars = .ok next)
    (hkind : next.token.kind = .word (some k)) (hescaped : next.token.escaped = false)
    (hsecond : scanToken context.goal next.rest = .ok second) :
    (Parser.expectKeyword k).Reads context chars () next.rest :=
  .bind (.bind (.atKeyword_of_eq h hkind)
    (.ite_pos rfl (.bind (.advanceKeyword h hescaped hsecond) .pure))) (.ite_pos rfl .pure)

/-- The distance behind a keyword is the length of what stands up to the next token. -/
theorem expectKeyword_withDistance (word : List Char) (h : scanToken context.goal chars = .ok next)
    (hkind : next.token.kind = .word (some k)) (hescaped : next.token.escaped = false)
    (hsecond : scanToken context.goal next.rest = .ok second)
    (hhere : next.here = word ++ second.here) :
    (Parser.expectKeyword k).withDistance.Reads context chars ((), word.length) next.rest := by
  have hread : (Parser.expectKeyword k).withDistance.Reads context chars
      ((), next.here.length - second.here.length) next.rest :=
    .withDistance (.expectKeyword h hkind hescaped hsecond) h hsecond
  rwa [hhere, List.length_append, Nat.add_sub_cancel] at hread

/-! ### Names and the ends of statements -/

theorem atIdentifier_of_none (h : scanToken context.goal chars = .ok next)
    (hkind : next.token.kind = .word none) : atIdentifier.Reads context chars true chars := by
  refine .bind (.peek h) ?_
  rw [hkind]
  exact .pure

theorem atIdentifier_of_reserved (h : scanToken context.goal chars = .ok next)
    (hkind : next.token.kind = .word (some k)) (hreserved : k.isReserved = true) :
    atIdentifier.Reads context chars false chars := by
  refine .bind (.peek h) ?_
  rw [hkind]
  show (Pure.pure (!k.isReserved) : Parser Bool).Reads context chars false chars
  rw [hreserved]
  exact .pure

theorem atIdentifier_of_not_word (h : scanToken context.goal chars = .ok next)
    (hword : ∀ keyword, next.token.kind ≠ .word keyword) :
    atIdentifier.Reads context chars false chars := by
  refine .bind (.peek h) ?_
  split
  · next hkind => exact absurd hkind (hword none)
  · next keyword hkind => exact absurd hkind (hword (some keyword))
  · exact .pure

/-- A name that is no keyword is an identifier wherever it stands. -/
theorem identifier (h : scanToken context.goal chars = .ok next)
    (hkind : next.token.kind = .word none)
    (hsecond : scanToken context.goal next.rest = .ok second) :
    Parser.identifier.Reads context chars (.mk (.identifier next.token.text) []) next.rest := by
  have hallowed : rejectOperatorWord.Reads context chars () chars := by
    refine .bind (.peek h) (.bind .flags ?_)
    rw [hkind]
    exact .ite_neg (by simp) (.ite_neg (by simp) .pure)
  refine .bind (.atIdentifier_of_none h hkind) (.ite_pos rfl ?_)
  exact .bind hallowed (.bind (.peek h) (.bind (.advance h hsecond) .pure))

theorem propertyName {keyword : Option Keyword} (h : scanToken context.goal chars = .ok next)
    (hkind : next.token.kind = .word keyword)
    (hsecond : scanToken context.goal next.rest = .ok second) :
    Parser.propertyName.Reads context chars (.mk (.propertyName next.token.text) []) next.rest := by
  refine .bind (.peek h) ?_
  rw [hkind]
  exact .bind (.advance h hsecond) .pure

theorem endStatement_of_semicolon (h : scanToken context.goal chars = .ok next)
    (hkind : next.token.kind = .punct .semicolon)
    (hsecond : scanToken context.goal next.rest = .ok second) :
    endStatement.Reads context chars () next.rest := by
  refine .bind (.peek h) ?_
  rw [hkind]
  exact .ite_pos rfl (.advance h hsecond)

end Reads

/-! ### Lists -/

/-- The text up to the rest writes nodes between commas, none of which is spread, and the rest
starts with the closing punctuator. -/
inductive Separated (close : Punct) (item : Parser Node) (context : Context) :
    (chars : List Char) → List Node → (rest : List Char) → Prop
  | last {chars rest : List Char} {node : Node} {next second : Lexeme}
    (hnext : scanToken context.goal chars = .ok next) (hopen : next.token.kind ≠ .punct close)
    (hspread : next.token.kind ≠ .punct .ellipsis)
    (hitem : item.Reads context chars node rest)
    (hsecond : scanToken context.goal rest = .ok second)
    (hclose : second.token.kind = .punct close) : Separated close item context chars [node] rest
  | more {chars between rest : List Char} {node : Node} {nodes : List Node} {next second : Lexeme}
    (hnext : scanToken context.goal chars = .ok next) (hopen : next.token.kind ≠ .punct close)
    (hspread : next.token.kind ≠ .punct .ellipsis)
    (hitem : item.Reads context chars node between)
    (hsecond : scanToken context.goal between = .ok second)
    (hcomma : second.token.kind = .punct .comma)
    (hrest : Separated close item context second.rest nodes rest) :
    Separated close item context chars (node :: nodes) rest

namespace Separated

variable {close : Punct} {item : Parser Node} {nodes : List Node}

theorem exists_scanToken (h : Separated close item context chars nodes rest) :
    ∃ next, scanToken context.goal chars = .ok next := by
  cases h with
  | last hnext | more hnext => exact ⟨_, hnext⟩

/-- Such a text is read as the nodes. -/
protected theorem reads (h : Separated close item context chars nodes rest)
    (hcomma : close ≠ .comma) (hwidth : nodes.length ≤ context.width) :
    (commaSeparated close item).Reads context chars (nodes, false) rest := by
  refine .loop ?_
  suffices hrounds : ∀ (fuel : Nat) (reversed : List Node), nodes.length ≤ fuel →
      (rounds _ fuel reversed).Reads context chars (reversed.reverse ++ nodes, false) rest from
    hrounds (context.width + 1) [] (by omega)
  clear hwidth
  induction h with
  | last hnext hopen hspread hitem hsecond hclose =>
    intro fuel reversed hfuel
    obtain ⟨fuel, rfl⟩ : ∃ n, fuel = n + 1 := ⟨fuel - 1, by simp at hfuel; omega⟩
    refine .rounds_inr (.bind (.atPunct_of_ne hnext hopen) (.ite_neg Bool.false_ne_true ?_))
    refine .bind hitem (.bind (.eatPunct_of_ne hsecond ?_) (.ite_neg Bool.false_ne_true ?_))
    · rw [hclose]
      simpa using hcomma
    · refine .bind (.atPunct_of_eq hsecond hclose) (.ite_pos rfl ?_)
      rw [← List.reverse_cons]
      exact .pure
  | @more chars between rest node nodes next second hnext hopen hspread hitem hsecond hcomma' hrest
      ih =>
    intro fuel reversed hfuel
    obtain ⟨fuel, rfl⟩ : ∃ n, fuel = n + 1 := ⟨fuel - 1, by simp at hfuel; omega⟩
    obtain ⟨third, hthird⟩ := hrest.exists_scanToken
    have hmore := ih fuel (node :: reversed) (by simpa using hfuel)
    rw [List.reverse_cons, List.append_assoc, List.singleton_append] at hmore
    refine .rounds_inl (.bind (.atPunct_of_ne hnext hopen) (.ite_neg Bool.false_ne_true ?_)) hmore
    exact .bind hitem (.bind (.eatPunct_of_eq hsecond hcomma' hthird) (.ite_pos rfl .pure))

end Separated

/-- The text up to the rest writes nodes one behind the other, and the rest stops them. -/
inductive Repeated (stop : Parser Bool) (item : Parser Node) (context : Context) :
    (chars : List Char) → List Node → (rest : List Char) → Prop
  | done {chars : List Char} (h : stop.Reads context chars true chars) :
    Repeated stop item context chars [] chars
  | more {chars between rest : List Char} {node : Node} {nodes : List Node}
    (hstop : stop.Reads context chars false chars) (hitem : item.Reads context chars node between)
    (hrest : Repeated stop item context between nodes rest) :
    Repeated stop item context chars (node :: nodes) rest

/-- Such a text is read as the nodes. -/
protected theorem Repeated.reads {stop : Parser Bool} {item : Parser Node} {nodes : List Node}
    (h : Repeated stop item context chars nodes rest) (hwidth : nodes.length ≤ context.width) :
    (repeatUntil stop item).Reads context chars nodes rest := by
  refine .loop ?_
  suffices hrounds : ∀ (fuel : Nat) (reversed : List Node), nodes.length < fuel →
      (rounds _ fuel reversed).Reads context chars (reversed.reverse ++ nodes) rest from
    hrounds (context.width + 1) [] (by omega)
  clear hwidth
  induction h with
  | done hstop =>
    intro fuel reversed hfuel
    obtain ⟨fuel, rfl⟩ : ∃ n, fuel = n + 1 := ⟨fuel - 1, by omega⟩
    rw [List.append_nil]
    exact .rounds_inr (.bind hstop (.ite_pos rfl .pure))
  | @more chars between rest node nodes hstop hitem hrest ih =>
    intro fuel reversed hfuel
    obtain ⟨fuel, rfl⟩ : ∃ n, fuel = n + 1 := ⟨fuel - 1, by omega⟩
    have hmore := ih fuel (node :: reversed) (by simpa using hfuel)
    rw [List.reverse_cons, List.append_assoc, List.singleton_append] at hmore
    exact .rounds_inl (.bind hstop (.ite_neg Bool.false_ne_true (.bind hitem .pure))) hmore

/-- An empty list is read as no nodes. -/
theorem Reads.commaSeparated_nil {close : Punct} {item : Parser Node}
    (h : scanToken context.goal chars = .ok next) (hkind : next.token.kind = .punct close) :
    (commaSeparated close item).Reads context chars ([], false) chars :=
  .loop (.rounds_inr (.bind (.atPunct_of_eq h hkind) (.ite_pos rfl .pure)))

end Parser

end ModuleBundler.Script
