import ModuleBundler.Script.Scan
import ModuleBundler.Script.Node

/-!
# Reading token by token

A text is read from left to right. A *cursor* says how far this has gone: it holds the next token and
the text behind the last one. There are two ways on, to the token behind the next one and to another
reading of the same token; what can be reached by them is all that a parser can ever see.

Two texts may agree on what is read between two places. A *simulation* relates the cursors of two
such texts up to a target, so that every step towards the target in the first text is one in the
second.

## Main definitions

* `Script.Cursor` — how far a text has been read.
* `Script.Cursor.Reaches` — the cursors that can follow a cursor.
* `Script.Simulation` — reading two texts side by side.
-/

namespace ModuleBundler.Script

/-- How far a text has been read: the next token, and the text behind the last one. -/
structure Cursor where
  next : Lexeme
  behind : List Char
  deriving DecidableEq

namespace Cursor

/-- The next token. -/
def token (cursor : Cursor) : Token :=
  cursor.next.token

/-- Passes over the next token. -/
def advance (goal : Goal) (cursor : Cursor) : Except Fault Cursor :=
  (scanToken goal cursor.next.rest).map fun next => ⟨next, cursor.next.rest⟩

/-- Reads the next token again in another way. -/
def reread (way : Rereading) (cursor : Cursor) : Except Fault Cursor :=
  (cursor.next.reread way).map fun next => { cursor with next }

/-- The cursor behind the next token, if this is a word and a token follows it. -/
def behindWord? (goal : Goal) (cursor : Cursor) : Option Cursor :=
  match cursor.token.kind with
  | .word _ => (cursor.advance goal).toOption
  | _ => none

/-- The number of characters from the next token on up to the next token of a later cursor. -/
def distance (cursor later : Cursor) : Nat :=
  cursor.next.here.length - later.next.here.length

/-- The number of characters from the next token on up to the end of the last token of a later
cursor. -/
def extent (cursor later : Cursor) : Nat :=
  cursor.next.here.length - later.behind.length

/-- One step of reading. -/
inductive Step (goal : Goal) (cursor next : Cursor) : Prop
  | advance (h : cursor.advance goal = .ok next)
  | reread (way : Rereading) (h : cursor.reread way = .ok next)

/-- The cursors that can follow a cursor. -/
inductive Reaches (goal : Goal) : Cursor → Cursor → Prop
  | refl (cursor : Cursor) : Reaches goal cursor cursor
  | step {first second last : Cursor} (h : Step goal first second)
    (hrest : Reaches goal second last) : Reaches goal first last

variable {goal : Goal} {first second last : Cursor}

theorem Step.reaches (h : Step goal first second) : first.Reaches goal second :=
  .step h (.refl second)

theorem Reaches.trans (h : first.Reaches goal second) (h' : second.Reaches goal last) :
    first.Reaches goal last := by
  induction h with
  | refl => exact h'
  | step hstep _ ih => exact .step hstep (ih h')

/-- A word has one reading only. -/
theorem Step.advance_of_word {keyword : Option Keyword} (h : Step goal first second)
    (hword : first.token.kind = .word keyword) : first.advance goal = .ok second := by
  cases h with
  | advance h => exact h
  | reread way h =>
    have happlies : way.applies first.next.token.kind = false := by
      rw [show first.next.token.kind = _ from hword]
      cases way <;> rfl
    simp [Cursor.reread, Lexeme.reread, happlies, Except.map] at h

/-- So a cursor at a word is left by passing over the word. -/
theorem Reaches.exists_advance {keyword : Option Keyword} (h : first.Reaches goal last)
    (hword : first.token.kind = .word keyword) (hne : last.token.kind ≠ .word keyword) :
    ∃ second, first.advance goal = .ok second ∧ second.Reaches goal last := by
  cases h with
  | refl => exact absurd hword hne
  | step hstep hrest => exact ⟨_, hstep.advance_of_word hword, hrest⟩

end Cursor

/-! ### Simulations -/

/-- Relates the cursors of two texts such that every step towards the target in the first text is a
step in the second. Related cursors have the same next token, and are equally far apart. -/
structure Simulation (goal : Goal) (target : Cursor) where
  Related : Cursor → Cursor → Prop
  token_eq : ∀ {c d : Cursor}, Related c d → d.token = c.token
  advance : ∀ {c d c' : Cursor}, Related c d → c.advance goal = .ok c' → c'.Reaches goal target →
    ∃ d', d.advance goal = .ok d' ∧ Related c' d'
  reread : ∀ {c d c' : Cursor} {way : Rereading}, Related c d → c.reread way = .ok c' →
    c'.Reaches goal target → ∃ d', d.reread way = .ok d' ∧ Related c' d'
  distance_eq : ∀ {c d c' d' : Cursor}, Related c d → Related c' d' → d.distance d' = c.distance c'
  extent_eq : ∀ {c d c' d' : Cursor}, Related c d → Related c' d' → d.extent d' = c.extent c'
  target_ne_word : ∀ keyword, target.token.kind ≠ .word keyword

/-- Behind words, related cursors are related, or there is nothing in both texts. -/
theorem Simulation.behindWord?_cases {goal : Goal} {target c d : Cursor}
    (simulation : Simulation goal target) (hrelated : simulation.Related c d)
    (hreach : c.Reaches goal target) :
    c.behindWord? goal = none ∧ d.behindWord? goal = none ∨
      ∃ c' d', c.behindWord? goal = some c' ∧ d.behindWord? goal = some d' ∧
        simulation.Related c' d' ∧ c'.Reaches goal target := by
  have htoken := simulation.token_eq hrelated
  unfold Cursor.behindWord?
  rw [htoken]
  split
  · next keyword hword =>
    obtain ⟨c', hadvance, hreach'⟩ :=
      hreach.exists_advance hword (simulation.target_ne_word keyword)
    obtain ⟨d', hadvance', hrelated'⟩ := simulation.advance hrelated hadvance hreach'
    rw [hadvance, hadvance']
    exact .inr ⟨c', d', rfl, rfl, hrelated', hreach'⟩
  · exact .inl ⟨rfl, rfl⟩

/-- What a parser comes to: a fault, or a value and the cursor behind what was read. -/
abbrev Outcome (α : Type) :=
  Except Fault (α × Cursor)

/-- The second outcome is the first one in the other text, if the first one still leads to the
target. -/
def Simulation.Follows {goal : Goal} {target : Cursor} (simulation : Simulation goal target)
    {α : Type} (first second : Outcome α) : Prop :=
  ∀ a c', first = .ok (a, c') → c'.Reaches goal target →
    ∃ d', second = .ok (a, d') ∧ simulation.Related c' d'

end ModuleBundler.Script
