import ModuleBundler.Script.Token

/-!
# Blanks and comments

Between two tokens there may be blanks, line breaks and comments. Skipping them loses one bit of
information that the grammar needs: whether a line break was among them.

Scripts know two more comments than modules: one that starts with `<!--` anywhere, and one that
starts with `-->` at the beginning of a line.

## Main definitions

* `Script.isLineBreak`, `Script.isSpace` — the characters between tokens.
* `Script.skipTrivia` — the text from the next token on.
-/

namespace ModuleBundler.Script

/-- Does the character end a line? -/
def isLineBreak (c : Char) : Bool :=
  c == '\n' || c == '\r' || c.toNat == 0x2028 || c.toNat == 0x2029

/-- Is the character a blank between two tokens of a line? -/
def isSpace (c : Char) : Bool :=
  let n := c.toNat
  n == 0x20 || n == 0x9 || n == 0xB || n == 0xC || n == 0x85 || n == 0xA0 || n == 0x1680 ||
    (0x2000 ≤ n && n ≤ 0x200B) || n == 0x202F || n == 0x205F || n == 0x3000 || n == 0xFEFF

/-- What is left of the source at some point, and whether a line break was passed on the way. -/
structure Rest where
  chars : List Char
  newline : Bool
  deriving DecidableEq, Repr

/-- What is being skipped: blanks, a comment up to the end of the line, or a comment up to its
closing mark. -/
inductive Trivia where
  | blank
  | line
  | block

/-- Skips blanks and comments. -/
def skipTrivia (goal : Goal) : Trivia → List Char → Bool → Except Fault Rest
  | .blank, '/' :: '/' :: cs, newline => skipTrivia goal .line cs newline
  | .blank, '/' :: '*' :: cs, newline => skipTrivia goal .block cs newline
  | .blank, '<' :: '!' :: '-' :: '-' :: cs, newline =>
    if goal = .script then skipTrivia goal .line cs newline
    else .ok ⟨'<' :: '!' :: '-' :: '-' :: cs, newline⟩
  | .blank, '-' :: '-' :: '>' :: cs, newline =>
    if goal = .script ∧ newline then skipTrivia goal .line cs newline
    else .ok ⟨'-' :: '-' :: '>' :: cs, newline⟩
  | .blank, c :: cs, newline =>
    if isLineBreak c then skipTrivia goal .blank cs true
    else if isSpace c then skipTrivia goal .blank cs newline
    else .ok ⟨c :: cs, newline⟩
  | .line, c :: cs, newline =>
    if isLineBreak c then skipTrivia goal .blank cs true else skipTrivia goal .line cs newline
  | .block, '*' :: '/' :: cs, newline => skipTrivia goal .blank cs newline
  | .block, c :: cs, newline => skipTrivia goal .block cs (newline || isLineBreak c)
  | .block, [], _ => .error .unterminatedComment
  | .blank, [], newline => .ok ⟨[], newline⟩
  | .line, [], newline => .ok ⟨[], newline⟩

/-- A first line that starts with `#!` is passed over. -/
def skipShebang : List Char → List Char
  | '#' :: '!' :: cs => cs.dropWhile fun c => !isLineBreak c
  | cs => cs

end ModuleBundler.Script
