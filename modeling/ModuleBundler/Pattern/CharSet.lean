import ModuleBundler.Text.CaseFold
import ModuleBundler.Text.WritingSystem

/-!
# Sets of characters

What one position of a pattern may match: an interval, a property of the character standard, or what
operations on sets make of these.

## Main definitions

* `Property`, `Property.holds` — the properties that a pattern can name.
* `CharSet`, `CharSet.contains` — sets of characters.
-/

namespace ModuleBundler

open Text

/-- The properties of characters that a pattern can name. -/
inductive Property where
  | any
  | assigned
  | ascii
  | alphabetic
  | blank
  | lowercase
  | uppercase
  | word
  | identifierStart
  | identifierPart
  | letter
  | casedLetter
  | mark
  | number
  | punctuation
  | symbol
  | separator
  | other
  | category (category : Category)
  | writtenIn (system : WritingSystem)
  deriving DecidableEq, Repr

/-- Does a character have a property? -/
def Property.holds (property : Property) (c : Char) : Bool :=
  match property with
  | .any => true
  | .assigned => Category.ofChar c != .cn
  | .ascii => c.toNat < 0x80
  | .alphabetic => isAlphabetic c
  | .blank => isBlank c
  | .lowercase => isLowercase c
  | .uppercase => isUppercase c
  | .word => isWordChar c
  | .identifierStart => isIdentifierStart c
  | .identifierPart => isIdentifierPart c
  | .letter => (Category.ofChar c).isLetter
  | .casedLetter =>
    let category := Category.ofChar c
    category == .lu || category == .ll || category == .lt
  | .mark => (Category.ofChar c).isMark
  | .number => (Category.ofChar c).isNumber
  | .punctuation => (Category.ofChar c).isPunctuation
  | .symbol => (Category.ofChar c).isSymbol
  | .separator => (Category.ofChar c).isSeparator
  | .other => (Category.ofChar c).isOther
  | .category wanted => Category.ofChar c == wanted
  | .writtenIn system => system.contains c

/-- A set of characters. -/
inductive CharSet where
  | nothing
  | interval (first last : Char)
  | having (property : Property)
  | complement (set : CharSet)
  | union (left right : CharSet)
  | intersection (left right : CharSet)
  /-- All characters that differ in case only from a character of the set. -/
  | folded (set : CharSet)
  deriving DecidableEq, Repr

namespace CharSet

/-- The set of one character. -/
def single (c : Char) : CharSet :=
  interval c c

/-- The characters of one set that are not in another one. -/
def difference (left right : CharSet) : CharSet :=
  intersection left (complement right)

/-- The characters of exactly one of two sets. -/
def symmetricDifference (left right : CharSet) : CharSet :=
  union (difference left right) (difference right left)

/-- The union of several sets. -/
def unionOf (sets : List CharSet) : CharSet :=
  sets.foldl union nothing

/-- Does a set contain a character? -/
def contains : CharSet → Char → Bool
  | nothing, _ => false
  | interval first last, c => first ≤ c && c ≤ last
  | having property, c => property.holds c
  | complement set, c => !set.contains c
  | union left right, c => left.contains c || right.contains c
  | intersection left right, c => left.contains c && right.contains c
  | folded set, c => set.contains c || (caseVariants c).any set.contains

end CharSet

end ModuleBundler
