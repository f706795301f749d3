import ModuleBundler.Pattern.Basic
import ModuleBundler.Pattern.PropertyName
import ModuleBundler.Text.CodePoint

/-!
# Reading escapes and sets of patterns

A pattern is read from left to right under *flags*, which the pattern itself may change. An escape
stands for a character, a set of characters or a condition; a set in brackets is made of characters,
intervals, named classes, other sets in brackets and operations on these.

## Main definitions

* `Pattern.Flags`, `Pattern.Reader` — readers of parts of patterns.
* `Pattern.readEscape` — what a backslash starts.
* `Pattern.readBracket` — a set in brackets.
-/

namespace ModuleBundler.Pattern

open Text

/-- What can be switched inside a pattern: whether case counts, what the anchors and the point
match, whether blanks and comments are ignored, and whether classes go beyond ASCII. -/
structure Flags where
  ignoreCase : Bool
  manyLines : Bool
  pointMatchesAll : Bool
  returnsEndLines : Bool
  ignoreBlanks : Bool
  beyondAscii : Bool

/-- The flags at the start of a pattern. -/
def Flags.initial : Flags :=
  ⟨false, false, false, false, false, true⟩

/-- How far a pattern has been read: the text ahead, the flags, and the names of groups so far. -/
structure Reading where
  ahead : List Char
  flags : Flags
  names : List (List Char)

/-- Readers of parts of patterns, which refuse what is no pattern. -/
abbrev Reader := StateT Reading Option

/-! ### Characters -/

/-- Refuses the pattern. -/
def refuse {α : Type} : Reader α :=
  StateT.lift none

/-- The text ahead. -/
def ahead : Reader (List Char) := do
  return (← get).ahead

/-- Goes on behind a part of the text. -/
def goOn (rest : List Char) : Reader Unit :=
  modify fun reading => { reading with ahead := rest }

/-- Passes over a text if it is ahead. -/
def eat (text : List Char) : Reader Bool := do
  let cs ← ahead
  if text.isPrefixOf cs then
    goOn (cs.drop text.length)
    return true
  return false

/-- The next character, which is passed over. -/
def next : Reader Char := do
  match ← ahead with
  | c :: cs =>
    goOn cs
    return c
  | [] => refuse

/-- The text behind blanks and comments; a comment ends with its line. -/
def dropBlanks : Bool → List Char → List Char
  | _, [] => []
  | true, c :: cs => dropBlanks (c != '\n') cs
  | false, c :: cs =>
    if c == '#' then dropBlanks true cs else if isBlank c then dropBlanks false cs else c :: cs

/-- Passes over blanks and comments where they are ignored. -/
def skipBlanks : Reader Unit := do
  if (← get).flags.ignoreBlanks then goOn (dropBlanks false (← ahead))

/-! ### Sets under flags -/

/-- The set of a character, or of all characters that differ from it in case where case does not
count. -/
def literalSet (flags : Flags) (c : Char) : CharSet :=
  if flags.ignoreCase then .folded (.single c) else .single c

/-- The set with all characters that differ in case only, where case does not count. -/
def foldedSet (flags : Flags) (set : CharSet) : CharSet :=
  if flags.ignoreCase then .folded set else set

/-- The complement of a set, where it can be written. -/
def complementSet (flags : Flags) (set : CharSet) : Reader CharSet :=
  if flags.beyondAscii then return .complement set else refuse

/-- The decimal digits. -/
def digits (flags : Flags) : CharSet :=
  if flags.beyondAscii then .having (.category .nd) else asciiDigits

/-- The blanks. -/
def blanks (flags : Flags) : CharSet :=
  if flags.beyondAscii then .having .blank else asciiBlanks

/-- The characters of words. -/
def words (flags : Flags) : CharSet :=
  if flags.beyondAscii then .having .word else asciiWords

/-! ### Escapes -/

/-- What an escape stands for. -/
inductive Meaning where
  | literal (c : Char)
  | set (set : CharSet)
  | condition (condition : Condition)

/-- The character with a number, if there is one that the flags allow. -/
def character (n : Nat) : Reader Char := do
  let flags := (← get).flags
  if n > 0x10FFFF ∨ isSurrogate n ∨ (!flags.beyondAscii ∧ n > 0x7F) then refuse
  return Char.ofNat n

/-- The character that hexadecimal digits write, as many as given or any number in braces. -/
def readHexadecimal (count : Nat) : Reader Char := do
  if ← eat ['{'] then
    let cs ← ahead
    let digits := cs.takeWhile (· != '}')
    goOn (cs.drop digits.length)
    unless ← eat ['}'] do refuse
    if digits.isEmpty ∨ !digits.all isHexDigit then refuse
    character (hexNumber digits)
  else
    let digits := (← ahead).take count
    if digits.length ≠ count ∨ !digits.all isHexDigit then refuse
    goOn ((← ahead).drop count)
    character (hexNumber digits)

/-- The property that the text between braces names, and whether it is negated there. -/
def propertyIn? (text : List Char) : Option (Property × Bool) :=
  let name := text.takeWhile fun c => !(c == '=' || c == ':' || c == '!')
  match text.drop name.length with
  | [] => (Property.ofName? text).map (·, false)
  | '!' :: '=' :: value => (Property.ofEquation? name value).map (·, true)
  | '!' :: _ => none
  | _ :: value => (Property.ofEquation? name value).map (·, false)

/-- A property behind the letter that starts it. -/
def readProperty (negated : Bool) : Reader CharSet := do
  let flags := (← get).flags
  unless flags.beyondAscii do refuse
  skipBlanks
  let found ←
    if ← eat ['{'] then
      let cs ← ahead
      let text := cs.takeWhile (· != '}')
      goOn (cs.drop text.length)
      unless ← eat ['}'] do refuse
      pure (propertyIn? text)
    else
      let c ← next
      pure ((Property.ofName? [c]).map (·, false))
  match found with
  | some (property, inside) =>
    let set := foldedSet flags (.having property)
    return if negated != inside then .complement set else set
  | none => refuse

/-- The conditions at the borders of words that are named in braces. -/
def namedBorder? (word : CharSet) (name : List Char) : Option Condition :=
  match String.ofList name with
  | "start" => some (.wordStart word)
  | "end" => some (.wordEnd word)
  | "start-half" => some (.noWordBefore word)
  | "end-half" => some (.noWordAfter word)
  | _ => none

/-- A condition at the border of a word; a name in braces chooses a special one. -/
def readBorder (word : CharSet) : Reader Condition := do
  match ← ahead with
  | '{' :: c :: cs =>
    if c.isAlpha ∨ c = '-' then
      let name := (c :: cs).takeWhile fun c => c.isAlpha || c == '-'
      goOn ((c :: cs).drop name.length)
      unless ← eat ['}'] do refuse
      match namedBorder? word name with
      | some condition => return condition
      | none => refuse
    else return .wordBoundary word
  | ['{'] => refuse
  | _ => return .wordBoundary word

/-- The character that a letter behind a backslash stands for. -/
def letterEscape? : Char → Option Char
  | 'a' => some (Char.ofNat 0x7)
  | 'f' => some (Char.ofNat 0xC)
  | 't' => some '\t'
  | 'n' => some '\n'
  | 'r' => some '\r'
  | 'v' => some (Char.ofNat 0xB)
  | _ => none

/-- Can a backslash stand in front of the character to make it stand for itself? -/
def isEscapable (c : Char) : Bool :=
  c.toNat < 0x80 && !c.isAlphanum && c != '<' && c != '>'

/-- What a backslash starts, behind the backslash. -/
def readEscape : Reader Meaning := do
  let flags := (← get).flags
  let c ← next
  match c with
  | 'x' => return .literal (← readHexadecimal 2)
  | 'u' => return .literal (← readHexadecimal 4)
  | 'U' => return .literal (← readHexadecimal 8)
  | 'p' => return .set (← readProperty false)
  | 'P' => return .set (← readProperty true)
  | 'd' => return .set (digits flags)
  | 's' => return .set (blanks flags)
  | 'w' => return .set (words flags)
  | 'D' => return .set (← complementSet flags (digits flags))
  | 'S' => return .set (← complementSet flags (blanks flags))
  | 'W' => return .set (← complementSet flags (words flags))
  | 'A' => return .condition .textStart
  | 'z' => return .condition .textEnd
  | 'b' => return .condition (← readBorder (words flags))
  | 'B' => return .condition (.insideWord (words flags))
  | '<' => return .condition (.wordStart (words flags))
  | '>' => return .condition (.wordEnd (words flags))
  | _ =>
    match letterEscape? c with
    | some c => return .literal c
    | none => if isEscapable c then return .literal c else refuse

/-! ### Sets in brackets -/

/-- An operation between two sets in brackets. -/
inductive SetOperation where
  | intersection
  | difference
  | symmetricDifference

/-- The result of an operation between two sets. -/
def SetOperation.apply : SetOperation → CharSet → CharSet → CharSet
  | intersection => CharSet.intersection
  | difference => CharSet.difference
  | symmetricDifference => CharSet.symmetricDifference

/-- The operation ahead, which is passed over. -/
def readOperation? : Reader (Option SetOperation) := do
  if ← eat ['&', '&'] then return some .intersection
  if ← eat ['-', '-'] then return some .difference
  if ← eat ['~', '~'] then return some .symmetricDifference
  return none

/-- A class of ASCII characters between colons, behind the bracket that opens it. Anything else is
left unread. -/
def readAsciiClass? : Reader (Option CharSet) := do
  let saved ← get
  if ← eat [':'] then
    let negated ← eat ['^']
    let cs ← ahead
    let name := cs.takeWhile (· != ':')
    goOn (cs.drop name.length)
    if ← eat [':', ']'] then
      if let some set := asciiClass? name then
        return some (if negated then .complement set else set)
  set saved
  return none

/-- A character or a class in brackets. -/
def readSetItem : Reader Meaning := do
  let c ← next
  if c = '\\' then readEscape
  else
    if !(← get).flags.beyondAscii ∧ c.toNat > 0x7F then refuse
    return .literal c

/-- The blanks ahead apart, do a hyphen and the end of an interval follow? -/
def intervalFollows : Reader Bool := do
  match ← ahead with
  | '-' :: cs =>
    let cs := if (← get).flags.ignoreBlanks then dropBlanks false cs else cs
    return cs.head? != some ']' && cs.head? != some '-'
  | _ => return false

/-- An interval, a character or a class in brackets. -/
def readSetRange : Reader CharSet := do
  let first ← readSetItem
  skipBlanks
  if (← ahead).isEmpty then refuse
  if ← intervalFollows then
    let _ ← next
    skipBlanks
    match first, ← readSetItem with
    | .literal first, .literal last =>
      if first ≤ last then return .interval first last else refuse
    | _, _ => refuse
  else
    match first with
    | .literal c => return .single c
    | .set set => return set
    | .condition _ => refuse

/-- Passes over the hyphens at the start of a set, each of which stands for itself. -/
def readHyphens : (fuel : Nat) → CharSet → Reader CharSet
  | 0, _ => refuse
  | fuel + 1, found => do
    if ← eat ['-'] then
      skipBlanks
      readHyphens fuel (.union found (.single '-'))
    else return found

/-- An operation and the set on its left. -/
abbrev Pending := Option (SetOperation × CharSet)

/-- The set that an operation and the set on its right make. -/
def Pending.complete (flags : Flags) (right : CharSet) : Pending → CharSet
  | some (operation, left) => operation.apply (foldedSet flags left) (foldedSet flags right)
  | none => right

mutual

/-- A set in brackets, behind the bracket that opens it. -/
def readBracket : (fuel : Nat) → Reader CharSet
  | 0 => refuse
  | fuel + 1 => do
    let flags := (← get).flags
    skipBlanks
    let negated ← eat ['^']
    skipBlanks
    let hyphens ← readHyphens ((← ahead).length + 1) .nothing
    let start ←
      if hyphens = .nothing ∧ (← eat [']']) then pure (CharSet.single ']') else pure hyphens
    let set ← readMembers fuel none start
    let set := foldedSet flags set
    if negated then complementSet flags set else return set

/-- The members of a set up to its closing bracket. -/
def readMembers : (fuel : Nat) → Pending → CharSet → Reader CharSet
  | 0, _, _ => refuse
  | fuel + 1, pending, found => do
    skipBlanks
    let flags := (← get).flags
    if ← eat [']'] then return pending.complete flags found
    if ← eat ['['] then
      let inner ←
        match ← readAsciiClass? with
        | some set => pure set
        | none => readBracket fuel
      readMembers fuel pending (.union found inner)
    else
      match ← readOperation? with
      | some operation => readMembers fuel (some (operation, pending.complete flags found)) .nothing
      | none => readMembers fuel pending (.union found (← readSetRange))

end

end ModuleBundler.Pattern
