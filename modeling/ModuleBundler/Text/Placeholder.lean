/-!
# Open wording

Some messages end with the explanation of a reader that is not described here, of patterns, numbers
or scripts. The wording of such explanations is left open.

## Main definitions

* `Text.detail` — stands for an explanation whose wording is left open.
-/

namespace ModuleBundler.Text

/-- Stands for an explanation whose wording is left open. -/
def detail : String :=
  "<detail>"

end ModuleBundler.Text
