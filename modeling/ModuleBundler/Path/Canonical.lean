import ModuleBundler.Path.Basic

/-!
# Canonical paths

A path is brought into canonical form by reading its components from left to right: a step to the
parent undoes the name before it. Nothing is looked up, so a step through a link is undone like any
other.

## Main definitions

* `Path.canonical` — the canonical components.
* `Path.normalize` — the path in canonical form.
* `Path.absolute?` — the canonical absolute path, seen from a working directory.
-/

namespace ModuleBundler.Path

/-- Adds a component to canonical components, the last of which stands first. A step to the parent
stays at the root, and it is kept where there is no name to undo. -/
def pushComponent : List Component → Component → List Component
  | stack, .current => stack
  | .name _ :: stack, .parent => stack
  | .root :: stack, .parent => .root :: stack
  | stack, component => component :: stack

/-- The canonical form of components. -/
def canonical (components : List Component) : List Component :=
  (components.foldl pushComponent []).reverse

/-- The path in canonical form. -/
def normalize (path : Path) : Path :=
  ofComponents (canonical path.components)

/-- The canonical absolute path that a path means in a working directory. The empty path means
nothing. -/
def absolute? (workingDirectory path : Path) : Option Path :=
  if path.chars = [] then none
  else if path.isAbsolute then some path.normalize
  else some (ofComponents (canonical (workingDirectory.components ++ path.components)))

end ModuleBundler.Path
