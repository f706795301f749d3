/-!
# Tokens of scripts

A script is read as a sequence of *tokens*: names, punctuators, numbers, strings, pieces of
templates and regular expressions. A token does not know where it stands: how a text is read does not
depend on what stands in front of it.

Reserved words and words that mean something in some places only are both names to the scanner; a
token carries the keyword that its name spells, and the grammar decides what to make of it.

## Main definitions

* `Script.Keyword`, `Script.keywordOf?` — the words that the grammar mentions.
* `Script.Operator`, `Script.Punct`, `Script.punctuators` — binary operators and punctuators.
* `Script.Token` — a token.
* `Script.Fault` — why a text is not a script.
-/

namespace ModuleBundler.Script

/-- A name as the characters it denotes, escapes decoded. -/
abbrev Name := List Char

/-! ### Faults -/

/-- What is wrong with a text that is not a script. -/
inductive Fault where
  | unexpectedCharacter
  | unterminatedComment
  | unterminatedString
  | unterminatedTemplate
  | unterminatedPattern
  | malformedEscape
  | malformedNumber
  | malformedFlags
  | unexpectedToken
  | missingSemicolon
  | escapedKeyword
  | reservedName
  | invalidTarget
  | misplacedInitializer
  | missingInitializer
  | misplacedDeclaration
  | misplacedReturn
  | mixedOperators
  | nestedTooDeep
  | duplicateExport (name : Name)
  deriving DecidableEq, Repr

/-! ### Keywords -/

/-- The words that the grammar mentions: first the reserved ones, then those reserved in strict
code, then those that have a meaning in some places only. -/
inductive Keyword where
  | await_ | break_ | case_ | catch_ | class_ | const_ | continue_ | debugger_ | default_
  | delete_ | do_ | else_ | enum_ | export_ | extends_ | false_ | finally_ | for_ | function_
  | if_ | import_ | in_ | instanceof_ | new_ | null_ | return_ | super_ | switch_ | this_
  | throw_ | true_ | try_ | typeof_ | var_ | void_ | while_ | with_ | yield_
  | let_ | static_ | implements_ | interface_ | package_ | private_ | protected_ | public_
  | accessor_ | as_ | assert_ | async_ | defer_ | from_ | get_ | meta_ | of_ | set_ | source_
  | target_ | using_
  deriving DecidableEq, Repr

/-- The spelling of every keyword. -/
def keywords : List (Name × Keyword) := [
  (['a', 'w', 'a', 'i', 't'], .await_),
  (['b', 'r', 'e', 'a', 'k'], .break_),
  (['c', 'a', 's', 'e'], .case_),
  (['c', 'a', 't', 'c', 'h'], .catch_),
  (['c', 'l', 'a', 's', 's'], .class_),
  (['c', 'o', 'n', 's', 't'], .const_),
  (['c', 'o', 'n', 't', 'i', 'n', 'u', 'e'], .continue_),
  (['d', 'e', 'b', 'u', 'g', 'g', 'e', 'r'], .debugger_),
  (['d', 'e', 'f', 'a', 'u', 'l', 't'], .default_),
  (['d', 'e', 'l', 'e', 't', 'e'], .delete_),
  (['d', 'o'], .do_),
  (['e', 'l', 's', 'e'], .else_),
  (['e', 'n', 'u', 'm'], .enum_),
  (['e', 'x', 'p', 'o', 'r', 't'], .export_),
  (['e', 'x', 't', 'e', 'n', 'd', 's'], .extends_),
  (['f', 'a', 'l', 's', 'e'], .false_),
  (['f', 'i', 'n', 'a', 'l', 'l', 'y'], .finally_),
  (['f', 'o', 'r'], .for_),
  (['f', 'u', 'n', 'c', 't', 'i', 'o', 'n'], .function_),
  (['i', 'f'], .if_),
  (['i', 'm', 'p', 'o', 'r', 't'], .import_),
  (['i', 'n'], .in_),
  (['i', 'n', 's', 't', 'a', 'n', 'c', 'e', 'o', 'f'], .instanceof_),
  (['n', 'e', 'w'], .new_),
  (['n', 'u', 'l', 'l'], .null_),
  (['r', 'e', 't', 'u', 'r', 'n'], .return_),
  (['s', 'u', 'p', 'e', 'r'], .super_),
  (['s', 'w', 'i', 't', 'c', 'h'], .switch_),
  (['t', 'h', 'i', 's'], .this_),
  (['t', 'h', 'r', 'o', 'w'], .throw_),
  (['t', 'r', 'u', 'e'], .true_),
  (['t', 'r', 'y'], .try_),
  (['t', 'y', 'p', 'e', 'o', 'f'], .typeof_),
  (['v', 'a', 'r'], .var_),
  (['v', 'o', 'i', 'd'], .void_),
  (['w', 'h', 'i', 'l', 'e'], .while_),
  (['w', 'i', 't', 'h'], .with_),
  (['y', 'i', 'e', 'l', 'd'], .yield_),
  (['l', 'e', 't'], .let_),
  (['s', 't', 'a', 't', 'i', 'c'], .static_),
  (['i', 'm', 'p', 'l', 'e', 'm', 'e', 'n', 't', 's'], .implements_),
  (['i', 'n', 't', 'e', 'r', 'f', 'a', 'c', 'e'], .interface_),
  (['p', 'a', 'c', 'k', 'a', 'g', 'e'], .package_),
  (['p', 'r', 'i', 'v', 'a', 't', 'e'], .private_),
  (['p', 'r', 'o', 't', 'e', 'c', 't', 'e', 'd'], .protected_),
  (['p', 'u', 'b', 'l', 'i', 'c'], .public_),
  (['a', 'c', 'c', 'e', 's', 's', 'o', 'r'], .accessor_),
  (['a', 's'], .as_),
  (['a', 's', 's', 'e', 'r', 't'], .assert_),
  (['a', 's', 'y', 'n', 'c'], .async_),
  (['d', 'e', 'f', 'e', 'r'], .defer_),
  (['f', 'r', 'o', 'm'], .from_),
  (['g', 'e', 't'], .get_),
  (['m', 'e', 't', 'a'], .meta_),
  (['o', 'f'], .of_),
  (['s', 'e', 't'], .set_),
  (['s', 'o', 'u', 'r', 'c', 'e'], .source_),
  (['t', 'a', 'r', 'g', 'e', 't'], .target_),
  (['u', 's', 'i', 'n', 'g'], .using_)]

/-- The keyword that a name spells. -/
def keywordOf? (name : Name) : Option Keyword :=
  (keywords.find? fun entry => entry.1 == name).map Prod.snd

/-- Can the keyword never be an identifier? The words `await` and `yield` are missing: whether they
can depends on the function around them. -/
def Keyword.isReserved : Keyword → Bool
  | .break_ | .case_ | .catch_ | .class_ | .const_ | .continue_ | .debugger_ | .default_ | .delete_
  | .do_ | .else_ | .enum_ | .export_ | .extends_ | .false_ | .finally_ | .for_ | .function_
  | .if_ | .import_ | .in_ | .instanceof_ | .new_ | .null_ | .return_ | .super_ | .switch_
  | .this_ | .throw_ | .true_ | .try_ | .typeof_ | .var_ | .void_ | .while_ | .with_ => true
  | _ => false

/-- Is the keyword reserved in strict code, though sloppy code may use it as an identifier? -/
def Keyword.isStrictReserved : Keyword → Bool
  | .let_ | .static_ | .implements_ | .interface_ | .package_ | .private_ | .protected_
  | .public_ => true
  | _ => false

/-! ### Operators and punctuators -/

/-- The operators between two operands. -/
inductive Operator where
  | add | subtract | multiply | divide | remainder | power
  | shiftLeft | shiftRight | shiftRightZero
  | less | greater | atMost | atLeast | isIn | isInstance
  | equal | notEqual | identical | notIdentical
  | bitAnd | bitOr | bitXor
  | and | or | coalesce
  deriving DecidableEq, Repr

/-- How tightly an operator binds: a larger number binds tighter. -/
def Operator.precedence : Operator → Nat
  | .coalesce => 1
  | .or => 2
  | .and => 3
  | .bitOr => 4
  | .bitXor => 5
  | .bitAnd => 6
  | .equal | .notEqual | .identical | .notIdentical => 7
  | .less | .greater | .atMost | .atLeast | .isIn | .isInstance => 8
  | .shiftLeft | .shiftRight | .shiftRightZero => 9
  | .add | .subtract => 10
  | .multiply | .divide | .remainder => 11
  | .power => 12

/-- The punctuators; `assign none` is the plain assignment and `assign (some op)` the assignment
that applies `op` first. -/
inductive Punct where
  | openBrace | closeBrace | openParen | closeParen | openBracket | closeBracket
  | dot | optionalDot | ellipsis | semicolon | comma | colon | question | arrow | decorator
  | increment | decrement | not | complement
  | operator (op : Operator)
  | assign (op : Option Operator)
  deriving DecidableEq, Repr

/-- The spelling of every punctuator but `optionalDot`, no spelling standing before one that it
begins. -/
def punctuators : List (List Char × Punct) := [
  (['>', '>', '>', '='], .assign (some .shiftRightZero)),
  (['.', '.', '.'], .ellipsis),
  (['=', '=', '='], .operator .identical),
  (['!', '=', '='], .operator .notIdentical),
  (['*', '*', '='], .assign (some .power)),
  (['<', '<', '='], .assign (some .shiftLeft)),
  (['>', '>', '='], .assign (some .shiftRight)),
  (['>', '>', '>'], .operator .shiftRightZero),
  (['&', '&', '='], .assign (some .and)),
  (['|', '|', '='], .assign (some .or)),
  (['?', '?', '='], .assign (some .coalesce)),
  (['=', '>'], .arrow),
  (['=', '='], .operator .equal),
  (['!', '='], .operator .notEqual),
  (['<', '='], .operator .atMost),
  (['>', '='], .operator .atLeast),
  (['&', '&'], .operator .and),
  (['|', '|'], .operator .or),
  (['?', '?'], .operator .coalesce),
  (['+', '+'], .increment),
  (['-', '-'], .decrement),
  (['+', '='], .assign (some .add)),
  (['-', '='], .assign (some .subtract)),
  (['*', '='], .assign (some .multiply)),
  (['/', '='], .assign (some .divide)),
  (['%', '='], .assign (some .remainder)),
  (['&', '='], .assign (some .bitAnd)),
  (['|', '='], .assign (some .bitOr)),
  (['^', '='], .assign (some .bitXor)),
  (['<', '<'], .operator .shiftLeft),
  (['>', '>'], .operator .shiftRight),
  (['*', '*'], .operator .power),
  (['{'], .openBrace),
  (['}'], .closeBrace),
  (['('], .openParen),
  ([')'], .closeParen),
  (['['], .openBracket),
  ([']'], .closeBracket),
  (['.'], .dot),
  ([';'], .semicolon),
  ([','], .comma),
  ([':'], .colon),
  (['?'], .question),
  (['@'], .decorator),
  (['~'], .complement),
  (['!'], .not),
  (['='], .assign none),
  (['<'], .operator .less),
  (['>'], .operator .greater),
  (['+'], .operator .add),
  (['-'], .operator .subtract),
  (['*'], .operator .multiply),
  (['/'], .operator .divide),
  (['%'], .operator .remainder),
  (['&'], .operator .bitAnd),
  (['|'], .operator .bitOr),
  (['^'], .operator .bitXor)]

/-! ### Tokens -/

/-- The kinds of tokens. -/
inductive TokenKind where
  /-- The end of the source. -/
  | endOfSource
  /-- A name, and the keyword it spells. -/
  | word (keyword : Option Keyword)
  /-- A name behind a number sign. -/
  | privateName
  | punct (p : Punct)
  | number
  | bigint
  /-- A string; `wellFormed` when its value has no half of a surrogate pair on its own. -/
  | string (wellFormed : Bool)
  | regex
  /-- A piece of a template, up to its end or up to a substitution; `valid` when its escapes are. -/
  | template (closes valid : Bool)
  deriving DecidableEq, Repr

/-- A token. For a word `text` is its name, for a string its value, for a number its spelling. -/
structure Token where
  kind : TokenKind
  /-- Is there a line break between the previous token and this one? -/
  newline : Bool
  text : Name
  /-- Was the name written with an escape? -/
  escaped : Bool
  deriving DecidableEq, Repr

/-- Whether a text is read as a module or as a script. -/
inductive Goal where
  | module
  | script
  deriving DecidableEq, Repr

end ModuleBundler.Script
