import ModuleBundler.Decimal.Binary

/-!
# Documents of values

A document is a value: nothing, a truth value, a number, a text, a list of values or an object. The
members of an object keep the order in which their names first occurred.

## Main definitions

* `Json` — values.
-/

namespace ModuleBundler

/-- A value. -/
inductive Json where
  | null
  | boolean (value : Bool)
  | integer (value : Int)
  | decimal (isNegative : Bool) (size : Binary)
  | text (chars : List Char)
  | array (items : List Json)
  | object (members : List (List Char × Json))

end ModuleBundler
