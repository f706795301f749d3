import ModuleBundler.Script.Item
import ModuleBundler.Text.CharClass
import ModuleBundler.Text.Quoted

/-!
# Names in linked code

Linked code loads a module by calling `require` and reads its exports as members of the value of the
call. A name that is no identifier is written as a string.

## Main definitions

* `Linking.isPlainName` — names that may stand without quotes.
* `Linking.member`, `Linking.destructuring` — access to one export, and to several.
-/

namespace ModuleBundler.Linking

open Script Text

/-- May the name stand without quotes? -/
def isPlainName : Name → Bool
  | [] => false
  | c :: cs =>
    (isAlphabetic c || c == '_' || c == '$') &&
      cs.all fun c => isAlphanumeric c || c == '_' || c == '$'

/-- The member of an object under a name. -/
def member (object name : Name) : List Char :=
  if isPlainName name then object ++ '.' :: name
  else object ++ '[' :: Quoted.encode name ++ [']']

/-- The object that holds the exports of a module. -/
def exportsObject : Name :=
  "exports".toList

/-- The assignment of a value to an export. -/
def assignExport (exported value : List Char) : List Char :=
  member exportsObject exported ++ " = ".toList ++ value ++ [';']

/-- The declaration of a constant name or pattern. -/
def constant (target value : List Char) : List Char :=
  "const ".toList ++ target ++ " = ".toList ++ value ++ [';']

/-- The call that loads a module. -/
def require (specifier : Name) : List Char :=
  "require(".toList ++ Quoted.encode specifier ++ [')']

/-- One name of a destructuring pattern. -/
def destructured (entry : ImportedName) : List Char :=
  if entry.imported = entry.localName then entry.imported
  else
    (if isPlainName entry.imported then entry.imported else Quoted.encode entry.imported) ++
      ": ".toList ++ entry.localName

/-- The pattern that reads the given names. -/
def destructuring (entries : List ImportedName) : List Char :=
  "\x7b ".toList ++ List.intercalate ", ".toList (entries.map destructured) ++ " \x7d".toList

/-- The name of a temporary constant. -/
def temporary (index : Nat) : Name :=
  "__minipack_import_".toList ++ Nat.toDigits 10 index

end ModuleBundler.Linking
