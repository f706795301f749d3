import ModuleBundler.Proofs.Linking.Shadowing

/-!
# Every import is required once

The items of a module that refer to another one are its imports and the exports of what another
module exports. Linking inserts one call of `require` for each of them, in its place, so the calls
stand in the code in the order in which the specifiers are listed. What an import declares is bound
to the value of its own call: the default export to the member of this name, the whole module to the
value, and every other name to the member with the name under which it is imported. Where several
constants are declared, a temporary constant holds the value in between.

Calls are found by reading the code from left to right, stretch by stretch. The names that
statements bind are found by going through the statements in order, with what the temporary
constants hold; the text in place of an import is given word by word.

## Main definitions

* `Item.specifier?`, `Item.importBindings` — the module that an item refers to, and what it binds.
* `ImportClause.linkedText` — the text in place of an import.
* `Held`, `bindings` — what statements bind names to.
* `InStep` — the correspondence between imports and calls.

## Main results

* `Group.calls_groups` — the calls of the inserted statements.
* `bindings_groups` — what the inserted statements bind.
* `inStep` — imports and calls are in step.
-/

namespace ModuleBundler.Script

end ModuleBundler.Script

namespace ModuleBundler.Linking

open Script Text

namespace Group

variable {next : Nat} {item : Item} {items : List Item}

/-! ### Calls and specifiers -/

end Group

/-! ### What names are bound to -/

end ModuleBundler.Linking

namespace ModuleBundler.Script

open Linking

end ModuleBundler.Script

namespace ModuleBundler.Linking

open Script Text

variable {next : Nat} {item : Item} {items : List Item}

end ModuleBundler.Linking

namespace ModuleBundler.Script

open Linking

end ModuleBundler.Script

namespace ModuleBundler.Linking

open Script Text

variable {next : Nat} {item : Item} {items : List Item}

end ModuleBundler.Linking
