import ModuleBundler.Pattern.CharSet

/-!
# Names of properties

A pattern names a property of characters by a short or long name. Case, spaces, hyphens and low
lines in names do not count, and neither does the word `is` in front of a name.

## Main definitions

* `Property.ofName?` — the property with a name.
* `Property.ofEquation?` — the property that a name and a value write.
* `asciiClass?` — the classes of ASCII characters that can stand in brackets.
-/

namespace ModuleBundler

open Text

namespace Property

/-- A name without what does not count in it. -/
def plainName (name : List Char) : String :=
  let counted := (name.filter fun c => !(c == ' ' || c == '-' || c == '_')).map Char.toLower
  match counted with
  | 'i' :: 's' :: rest => String.ofList rest
  | _ => String.ofList counted

/-- The properties that are general categories or groups of them. -/
def categoryNames : List (List String × Property) := [
  (["l", "letter"], letter),
  (["lc", "casedletter"], casedLetter),
  (["lu", "uppercaseletter"], category .lu),
  (["ll", "lowercaseletter"], category .ll),
  (["lt", "titlecaseletter"], category .lt),
  (["lm", "modifierletter"], category .lm),
  (["lo", "otherletter"], category .lo),
  (["m", "mark", "combiningmark"], mark),
  (["mn", "nonspacingmark"], category .mn),
  (["mc", "spacingmark"], category .mc),
  (["me", "enclosingmark"], category .me),
  (["n", "number"], number),
  (["nd", "decimalnumber", "digit"], category .nd),
  (["nl", "letternumber"], category .nl),
  (["no", "othernumber"], category .no),
  (["p", "punctuation", "punct"], punctuation),
  (["pc", "connectorpunctuation"], category .pc),
  (["pd", "dashpunctuation"], category .pd),
  (["ps", "openpunctuation"], category .ps),
  (["pe", "closepunctuation"], category .pe),
  (["pi", "initialpunctuation"], category .pi),
  (["pf", "finalpunctuation"], category .pf),
  (["po", "otherpunctuation"], category .po),
  (["s", "symbol"], symbol),
  (["sm", "mathsymbol"], category .sm),
  (["sc", "currencysymbol"], category .sc),
  (["sk", "modifiersymbol"], category .sk),
  (["so", "othersymbol"], category .so),
  (["z", "separator"], separator),
  (["zs", "spaceseparator"], category .zs),
  (["zl", "lineseparator"], category .zl),
  (["zp", "paragraphseparator"], category .zp),
  (["c", "other"], other),
  (["cc", "control", "cntrl"], category .cc),
  (["cf", "format"], category .cf),
  (["co", "privateuse"], category .co),
  (["cn", "unassigned"], category .cn),
  (["any"], any),
  (["assigned"], assigned),
  (["ascii"], ascii)]

/-- The properties that are writing systems. -/
def systemNames : List (List String × Property) := [
  (["latin", "latn"], writtenIn .latin),
  (["greek", "grek"], writtenIn .greek),
  (["cyrillic", "cyrl"], writtenIn .cyrillic),
  (["armenian", "armn"], writtenIn .armenian),
  (["hebrew", "hebr"], writtenIn .hebrew),
  (["arabic", "arab"], writtenIn .arabic),
  (["devanagari", "deva"], writtenIn .devanagari),
  (["thai"], writtenIn .thai),
  (["georgian", "geor"], writtenIn .georgian),
  (["hangul", "hang"], writtenIn .hangul),
  (["hiragana", "hira"], writtenIn .hiragana),
  (["katakana", "kana"], writtenIn .katakana),
  (["han", "hani"], writtenIn .han)]

/-- The other properties. -/
def binaryNames : List (List String × Property) := [
  (["alphabetic", "alpha"], alphabetic),
  (["whitespace", "wspace", "space"], blank),
  (["lowercase", "lower"], lowercase),
  (["uppercase", "upper"], uppercase),
  (["idstart", "ids", "xidstart", "xids"], identifierStart),
  (["idcontinue", "idc", "xidcontinue", "xidc"], identifierPart)]

/-- The property that a table gives a name to. -/
def lookup? (table : List (List String × Property)) (name : String) : Option Property :=
  (table.find? fun entry => entry.1.contains name).map Prod.snd

/-- The property with a name. -/
def ofName? (name : List Char) : Option Property :=
  lookup? (binaryNames ++ categoryNames ++ systemNames) (plainName name)

/-- The property that a name and a value write. -/
def ofEquation? (name value : List Char) : Option Property :=
  let name := plainName name
  if name = "gc" ∨ name = "generalcategory" then lookup? categoryNames (plainName value)
  else if name = "sc" ∨ name = "script" ∨ name = "scx" ∨ name = "scriptextensions" then
    lookup? systemNames (plainName value)
  else none

end Property

/-- The intervals of the classes of ASCII characters that can stand in brackets. -/
def asciiClasses : List (String × List (Char × Char)) := [
  ("alnum", [('0', '9'), ('A', 'Z'), ('a', 'z')]),
  ("alpha", [('A', 'Z'), ('a', 'z')]),
  ("ascii", [('\x00', '\x7f')]),
  ("blank", [('\t', '\t'), (' ', ' ')]),
  ("cntrl", [('\x00', '\x1f'), ('\x7f', '\x7f')]),
  ("digit", [('0', '9')]),
  ("graph", [('!', '~')]),
  ("lower", [('a', 'z')]),
  ("print", [(' ', '~')]),
  ("punct", [('!', '/'), (':', '@'), ('[', Char.ofNat 0x60), ('\x7b', '~')]),
  ("space", [('\t', '\r'), (' ', ' ')]),
  ("upper", [('A', 'Z')]),
  ("word", [('0', '9'), ('A', 'Z'), ('_', '_'), ('a', 'z')]),
  ("xdigit", [('0', '9'), ('A', 'F'), ('a', 'f')])]

/-- The set of some intervals. -/
def CharSet.ofIntervals (intervals : List (Char × Char)) : CharSet :=
  unionOf (intervals.map fun (first, last) => interval first last)

/-- The class of ASCII characters with a name. -/
def asciiClass? (name : List Char) : Option CharSet :=
  (asciiClasses.lookup (String.ofList name)).map CharSet.ofIntervals

/-- The decimal digits among the ASCII characters. -/
def asciiDigits : CharSet :=
  .interval '0' '9'

/-- The blanks among the ASCII characters. -/
def asciiBlanks : CharSet :=
  .ofIntervals [('\t', '\r'), (' ', ' ')]

/-- The characters of words among the ASCII characters. -/
def asciiWords : CharSet :=
  .ofIntervals [('0', '9'), ('A', 'Z'), ('_', '_'), ('a', 'z')]

end ModuleBundler
