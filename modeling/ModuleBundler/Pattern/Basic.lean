import ModuleBundler.Pattern.CharSet

/-!
# Patterns

A pattern says which stretches of a text it matches. It is read as a map on *spots*, the positions
between the characters of a text: from the spots at which a match may start it leads to the spots at
which the match may end. A sequence of patterns is then the composition of maps, and a choice is
their union.

## Main definitions

* `Pattern` — patterns.
* `Spot` — a position in a text.
* `Pattern.advance` — from the starts of matches to their ends.
* `Pattern.occursIn` — whether a pattern matches somewhere in a text.
* `Pattern.size` — the number of parts when all repetitions are written out.
-/

namespace ModuleBundler

/-- Conditions on a position, which match no character. -/
inductive Condition where
  | textStart
  | textEnd
  | lineStart
  | lineEnd
  /-- The same for lines that a carriage return may end as well. -/
  | returnLineStart
  | returnLineEnd
  | wordBoundary (word : CharSet)
  | insideWord (word : CharSet)
  | wordStart (word : CharSet)
  | wordEnd (word : CharSet)
  | noWordBefore (word : CharSet)
  | noWordAfter (word : CharSet)
  deriving DecidableEq, Repr

/-- A pattern. -/
inductive Pattern where
  | empty
  | one (set : CharSet)
  | require (condition : Condition)
  | sequence (first second : Pattern)
  | choice (left right : Pattern)
  /-- At least `least` matches behind each other, and at most `most` of them if that is given. -/
  | repeated (pattern : Pattern) (least : Nat) (most : Option Nat)
  deriving DecidableEq, Repr

/-- A position in a text: the character in front of it and the text behind it. -/
structure Spot where
  before : Option Char
  after : List Char
  deriving DecidableEq

namespace Condition

/-- Does the condition hold at a position? -/
def holds (condition : Condition) (spot : Spot) : Bool :=
  let next := spot.after.head?
  let wordBefore (word : CharSet) := spot.before.any word.contains
  let wordAfter (word : CharSet) := next.any word.contains
  match condition with
  | textStart => spot.before.isNone
  | textEnd => next.isNone
  | lineStart => spot.before.all (· == '\n')
  | lineEnd => next.all (· == '\n')
  | returnLineStart =>
    spot.before.all fun c => c == '\n' || (c == '\r' && next != some '\n')
  | returnLineEnd =>
    next.all fun c => c == '\r' || (c == '\n' && spot.before != some '\r')
  | wordBoundary word => wordBefore word != wordAfter word
  | insideWord word => wordBefore word == wordAfter word
  | wordStart word => !wordBefore word && wordAfter word
  | wordEnd word => wordBefore word && !wordAfter word
  | noWordBefore word => !wordBefore word
  | noWordAfter word => !wordAfter word

end Condition

namespace Spot

/-- All positions of a text, from the one behind the given character on. -/
def all (before : Option Char) : List Char → List Spot
  | [] => [⟨before, []⟩]
  | c :: cs => ⟨before, c :: cs⟩ :: all (some c) cs

/-- The position behind the next character, if the set contains it. -/
def step (set : CharSet) (spot : Spot) : Option Spot :=
  match spot.after with
  | c :: cs => if set.contains c then some ⟨some c, cs⟩ else none
  | [] => none

/-- Do two positions of one text agree? -/
def agrees (first second : Spot) : Bool :=
  first.after.length == second.after.length

/-- The positions of a list that are not among others. -/
def without (spots others : List Spot) : List Spot :=
  spots.filter fun spot => !others.any spot.agrees

/-- The positions of two lists, without repetitions if the first one has none. -/
def join (first second : List Spot) : List Spot :=
  second.foldl (fun spots spot => if spots.any spot.agrees then spots else spots ++ [spot]) first

end Spot

namespace Pattern

/-- Applies a map on positions a number of times. -/
def iterate (map : List Spot → List Spot) : Nat → List Spot → List Spot
  | 0, spots => spots
  | n + 1, spots => if spots.isEmpty then [] else iterate map n (map spots)

/-- All positions that a map reaches from new ones in at most `n` steps, with those reached so
far. -/
def closure (map : List Spot → List Spot) : Nat → List Spot → List Spot → List Spot
  | 0, reached, _ => reached
  | n + 1, reached, new =>
    let next := Spot.without (map new) reached
    if next.isEmpty then reached else closure map n (Spot.join reached next) next

/-- The most steps that lead to new positions, from any of the given ones. -/
def reach (spots : List Spot) : Nat :=
  (spots.map fun spot => spot.after.length).foldl max 0 + 1

/-- The ends of the matches that start at the given positions. -/
def advance : Pattern → List Spot → List Spot
  | empty, spots => spots
  | one set, spots => spots.filterMap (Spot.step set)
  | require condition, spots => spots.filter condition.holds
  | sequence first second, spots => second.advance (first.advance spots)
  | choice left right, spots => Spot.join (left.advance spots) (right.advance spots)
  | repeated pattern least most, spots =>
    let start := iterate pattern.advance least spots
    let steps := match most with
      | some most => min (most - least) (reach start)
      | none => reach start
    closure pattern.advance steps start start

/-- Does the pattern match somewhere in the text? -/
def occursIn (pattern : Pattern) (text : List Char) : Bool :=
  !(pattern.advance (Spot.all none text)).isEmpty

/-! ### Sizes -/

/-- Does the pattern have no way to match a character? -/
def isWidthless : Pattern → Bool
  | empty | require _ => true
  | one _ => false
  | sequence first second => first.isWidthless && second.isWidthless
  | choice left right => left.isWidthless && right.isWidthless
  | repeated pattern _ most => pattern.isWidthless || most == some 0

/-- The number of parts of a pattern when all repetitions are written out. Repetitions of what
matches no character need to be written only once. -/
def size : Pattern → Nat
  | empty | require _ | one _ => 1
  | sequence first second => first.size + second.size
  | choice left right => left.size + right.size + 1
  | repeated pattern least most =>
    if pattern.isWidthless then pattern.size else pattern.size * max 1 (most.getD least) + 1

end Pattern

end ModuleBundler
