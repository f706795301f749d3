import ModuleBundler.Failure
import ModuleBundler.Loading.Loader
import ModuleBundler.Pattern.PathPattern

/-!
# Rules

A rule gives the loaders for all files whose path matches a pattern. They run from the last to the
first, each on the text that the one before it made. The rules that match a path apply in order, and
which of them match depends on the path alone.

## Main definitions

* `Rule` — patterns with loaders.
* `Rule.transform` — the text that the rules make of the text of a file.
-/

namespace ModuleBundler

/-- The loaders for the files whose path matches a pattern. -/
structure Rule where
  test : PathPattern
  loaders : List Loader

namespace Rule

/-- The name of a rule is the text of its pattern. -/
def name (rule : Rule) : String :=
  rule.test.text

/-- Does the rule apply to the file at a path? -/
def covers (rule : Rule) (path : Path) : Bool :=
  rule.test.accepts path

/-- Runs one loader of a rule. -/
def runLoader (rule : Rule) (path : Path) (source : String) (loader : Loader) : Attempt String := do
  Attempt.log .debug .loading s!"Applying loader '{loader.name}' of rule '{rule.name}' to {path}"
  match loader.run source with
  | .ok text => return text
  | .error cause => throw (.transform path rule.name loader.name cause)

/-- Runs the loaders of a rule. -/
def apply (rule : Rule) (path : Path) (source : String) : Attempt String :=
  rule.loaders.reverse.foldlM (rule.runLoader path) source

/-- Applies the rules that cover a path. -/
def transform (rules : List Rule) (path : Path) (source : String) : Attempt String :=
  (rules.filter (·.covers path)).foldlM (fun text rule => rule.apply path text) source

end Rule

end ModuleBundler
