import ModuleBundler.Path.Basic
import ModuleBundler.Pattern.Reading

/-!
# Patterns for paths

A pattern is written as text; groups in parentheses bound what repetitions, choices and flags apply
to. Whether groups capture what they match makes no difference here, and neither does whether
repetitions prefer long or short matches.

## Main definitions

* `Pattern.readItems` — a pattern up to the end of its group.
* `PathPattern`, `PathPattern.ofText?` — patterns with the text that writes them.
* `PathPattern.accepts` — whether a path matches.
-/

namespace ModuleBundler

namespace Pattern

open Text

/-! ### Flags and names of groups -/

/-- Flags with one of them switched. -/
def Flags.switch (flags : Flags) (on : Bool) : Char → Option Flags
  | 'i' => some { flags with ignoreCase := on }
  | 'm' => some { flags with manyLines := on }
  | 's' => some { flags with pointMatchesAll := on }
  | 'R' => some { flags with returnsEndLines := on }
  | 'x' => some { flags with ignoreBlanks := on }
  | 'u' => some { flags with beyondAscii := on }
  | 'U' => some flags
  | _ => none

/-- The flags that a list of letters switches on, and off behind a hyphen. Each letter can occur
once, and a letter stands behind the hyphen. -/
def switchAll (flags : Flags) : (seen : List Char) → (on : Bool) → List Char → Option Flags
  | _, _, [] => some flags
  | seen, on, c :: cs =>
    if c = '-' then if on ∧ !cs.isEmpty then switchAll flags seen false cs else none
    else if seen.contains c then none
    else (flags.switch on c).bind fun flags => switchAll flags (c :: seen) on cs

/-- Can the character stand in the name of a group? -/
def isGroupNameChar (first : Bool) (c : Char) : Bool :=
  c == '_' ||
    if first then isAlphabetic c
    else isAlphanumeric c || c == '.' || c == '[' || c == ']'

/-- Reads the name of a group up to the bracket that closes it. No name occurs twice. -/
def readGroupName : Reader Unit := do
  let cs ← ahead
  let name := cs.takeWhile (· != '>')
  goOn (cs.drop name.length)
  unless ← eat ['>'] do refuse
  match name with
  | [] => refuse
  | c :: rest =>
    unless isGroupNameChar true c && rest.all (isGroupNameChar false) do refuse
  if (← get).names.contains name then refuse
  modify fun reading => { reading with names := name :: reading.names }

/-- What stands behind an opening parenthesis. -/
inductive GroupHead where
  /-- Flags for the rest of the group around it. -/
  | switches
  /-- A group of its own. -/
  | opens

/-- Reads what says how a group is meant, and switches the flags that it names. -/
def readGroupHead : Reader GroupHead := do
  skipBlanks
  for look in [['?', '='], ['?', '!'], ['?', '<', '='], ['?', '<', '!']] do
    if look.isPrefixOf (← ahead) then refuse
  if (← eat ['?', 'P', '<']) || (← eat ['?', '<']) then
    readGroupName
    return .opens
  unless ← eat ['?'] do return .opens
  let cs ← ahead
  let letters := cs.takeWhile fun c => c != ':' && c != ')'
  goOn (cs.drop letters.length)
  match switchAll (← get).flags [] true letters with
  | none => refuse
  | some flags =>
    modify fun reading => { reading with flags }
    if ← eat [':'] then return .opens
    unless ← eat [')'] do refuse
    if letters.isEmpty then refuse
    return .switches

/-! ### Repetitions -/

/-- A number of repetitions, blanks around it apart. -/
def readCount : Reader Nat := do
  goOn ((← ahead).dropWhile isBlank)
  let digits := (← ahead).takeWhile Char.isDigit
  if digits.isEmpty then refuse
  goOn (((← ahead).drop digits.length).dropWhile isBlank)
  let count := digits.foldl (fun n c => n * 10 + (c.toNat - 48)) 0
  if count < Nat.pow 2 32 then return count else refuse

/-- The bounds of a repetition in braces, behind the brace that opens it. -/
def readBounds : Reader (Nat × Option Nat) := do
  let least ← readCount
  let most ←
    if ← eat [','] then
      skipBlanks
      if (← ahead).head? = some '}' then pure none else pure (some (← readCount))
    else pure (some least)
  unless ← eat ['}'] do refuse
  if most.any (· < least) then refuse
  return (least, most)

/-- The bounds of the repetition that the next character starts, if it starts one. -/
def readRepetition? : Reader (Option (Nat × Option Nat)) := do
  let found ←
    if ← eat ['?'] then pure (some (0, some 1))
    else if ← eat ['*'] then pure (some (0, none))
    else if ← eat ['+'] then pure (some (1, none))
    else if ← eat ['{'] then
      skipBlanks
      let bounds ← readBounds
      skipBlanks
      pure (some bounds)
    else pure none
  if found.isSome then
    let _ ← eat ['?']
  return found

/-! ### Patterns -/

/-- The pattern that a condition at the start or end of lines or texts is. -/
def anchor (flags : Flags) (atStart : Bool) : Pattern :=
  .require <|
    match flags.manyLines, flags.returnsEndLines, atStart with
    | false, _, true => .textStart
    | false, _, false => .textEnd
    | true, false, true => .lineStart
    | true, false, false => .lineEnd
    | true, true, true => .returnLineStart
    | true, true, false => .returnLineEnd

/-- What a point matches. -/
def point (flags : Flags) : Reader Pattern := do
  unless flags.beyondAscii do refuse
  if flags.pointMatchesAll then return .one (.having .any)
  let lineEnds :=
    if flags.returnsEndLines then CharSet.union (.single '\n') (.single '\r') else .single '\n'
  return .one (.complement lineEnds)

/-- The pattern that an escape is. -/
def Meaning.pattern (flags : Flags) : Meaning → Pattern
  | literal c => .one (literalSet flags c)
  | set chars => .one chars
  | condition border => .require border

/-- A pattern of one character, class or condition. -/
def readSingle : Reader Pattern := do
  let flags := (← get).flags
  let c ← next
  match c with
  | '\\' => return (← readEscape).pattern flags
  | '.' => point flags
  | '^' => return anchor flags true
  | '$' => return anchor flags false
  | '[' => return .one (← readBracket (2 * (← ahead).length + 4))
  | _ => return .one (literalSet flags c)

/-- A part of a sequence; `repeatable` unless it only switches flags. -/
structure Part where
  pattern : Pattern
  repeatable : Bool

/-- The sequence of parts, the last of which comes first. -/
def sequenceOf (parts : List Part) : Pattern :=
  parts.foldl (fun pattern part => .sequence part.pattern pattern) .empty

/-- The choice between patterns, the last of which comes first. -/
def choiceOf (last : Pattern) (before : List Pattern) : Pattern :=
  before.foldl (fun pattern earlier => .choice earlier pattern) last

/-- The greatest size of a pattern. -/
def greatestSize : Nat :=
  327680

/-- The number of groups that may stand in each other. -/
def deepest : Nat :=
  250

/-- Reads a pattern up to the end of the text or to the parenthesis that closes its group, which is
not passed over. Choices that are complete and parts of the current one are carried along, the last
ones first. -/
def readItems : (fuel depth : Nat) → List Pattern → List Part → Reader Pattern
  | 0, _, _, _ => refuse
  | fuel + 1, depth, choices, parts => do
    skipBlanks
    match ← ahead with
    | [] | ')' :: _ => return choiceOf (sequenceOf parts) choices
    | '|' :: cs =>
      goOn cs
      readItems fuel depth (sequenceOf parts :: choices) []
    | '(' :: cs =>
      if depth = 0 then refuse
      goOn cs
      let outer := (← get).flags
      match ← readGroupHead with
      | .switches => readItems fuel depth choices (⟨.empty, false⟩ :: parts)
      | .opens =>
        let inner ← readItems fuel (depth - 1) [] []
        unless ← eat [')'] do refuse
        modify fun reading => { reading with flags := outer }
        readItems fuel depth choices (⟨inner, true⟩ :: parts)
    | _ =>
      match ← readRepetition? with
      | some (least, most) =>
        match parts with
        | ⟨pattern, true⟩ :: before =>
          readItems fuel depth choices (⟨.repeated pattern least most, true⟩ :: before)
        | _ => refuse
      | none =>
        let pattern ← readSingle
        readItems fuel depth choices (⟨pattern, true⟩ :: parts)

/-- The pattern that a text writes, if it writes one. -/
def ofText? (text : List Char) : Option Pattern := do
  let (pattern, reading) ← readItems (text.length + 1) deepest [] [] ⟨text, .initial, []⟩
  if reading.ahead.isEmpty ∧ pattern.size ≤ greatestSize then some pattern else none

end Pattern

/-- A pattern for paths with the text that writes it. -/
structure PathPattern where
  text : String
  pattern : Pattern
  deriving DecidableEq, Repr

namespace PathPattern

/-- The pattern that a text writes, if it writes one. -/
def ofText? (text : String) : Option PathPattern :=
  (Pattern.ofText? text.toList).map fun pattern => ⟨text, pattern⟩

/-- Does a path match the pattern somewhere? -/
def accepts (pattern : PathPattern) (path : Path) : Bool :=
  pattern.pattern.occursIn path.chars

end PathPattern

end ModuleBundler
