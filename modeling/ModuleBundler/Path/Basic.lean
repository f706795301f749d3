/-!
# Paths

A path is a text; its meaning is the list of its *components*. Empty pieces and pieces that are a
point mean nothing, except that a point in front of a relative path is a component of its own.
Paths with equal components name the same file.

## Main definitions

* `Path`, `Path.components` — paths and their components.
* `Path.join` — a path behind another one.
* `Path.parent?` — the path of the directory around a file.
-/

namespace ModuleBundler

/-- A path, as it is written. -/
structure Path where
  chars : List Char
  deriving DecidableEq, Repr, Inhabited

/-- A component of a path. -/
inductive Component where
  | root
  | current
  | parent
  | name (chars : List Char)
  deriving DecidableEq, Repr

namespace Path

/-- The path that a string writes. -/
def ofString (text : String) : Path :=
  ⟨text.toList⟩

/-- The path as a string. -/
def toString (path : Path) : String :=
  String.ofList path.chars

instance : ToString Path :=
  ⟨toString⟩

/-- Does the path start at the root? -/
def isAbsolute (path : Path) : Bool :=
  path.chars.head? = some '/'

/-- The root of all absolute paths. -/
def root : Path :=
  ⟨['/']⟩

/-! ### Components -/

/-- The pieces of a text between slashes. -/
def pieces : List Char → List (List Char)
  | [] => [[]]
  | c :: cs =>
    if c = '/' then [] :: pieces cs
    else
      match pieces cs with
      | [] => [[c]]
      | piece :: rest => (c :: piece) :: rest

/-- The component that a piece is, if it means something. -/
def component? : List Char → Option Component
  | [] | ['.'] => none
  | ['.', '.'] => some .parent
  | piece => some (.name piece)

/-- The components that pieces mean, each with the position behind its last character; the first
piece starts at `offset`. -/
def locate (offset : Nat) : List (List Char) → List (Component × Nat)
  | [] => []
  | piece :: rest =>
    let stop := offset + piece.length
    (component? piece).toList.map (·, stop) ++ locate (stop + 1) rest

/-- The components of a path, each with the position behind its last character. -/
def located (path : Path) : List (Component × Nat) :=
  match path.chars with
  | '/' :: cs => (.root, 1) :: locate 1 (pieces cs)
  | ['.'] => [(.current, 1)]
  | '.' :: '/' :: cs => (.current, 1) :: locate 2 (pieces cs)
  | cs => locate 0 (pieces cs)

/-- The components of a path. -/
def components (path : Path) : List Component :=
  path.located.map Prod.fst

/-- Do two paths name the same file? -/
def same (first second : Path) : Bool :=
  first.components = second.components

/-- The text of a component. -/
def textOf : Component → List Char
  | .root => []
  | .current => ['.']
  | .parent => ['.', '.']
  | .name chars => chars

/-- The path with the given components, the root only in front. -/
def ofComponents : List Component → Path
  | [.root] => root
  | components => ⟨List.intercalate ['/'] (components.map textOf)⟩

/-! ### Paths from paths -/

/-- A path behind another one. An absolute path replaces what stands before it. -/
def join (first second : Path) : Path :=
  if second.isAbsolute then second
  else if first.chars = [] ∨ first.chars.getLast? = some '/' then ⟨first.chars ++ second.chars⟩
  else ⟨first.chars ++ '/' :: second.chars⟩

/-- The path without its last component. The root has no parent, and neither has a path without
components. -/
def parent? (path : Path) : Option Path :=
  match path.located.reverse with
  | [] | (.root, _) :: _ => none
  | [_] => some ⟨[]⟩
  | _ :: (_, stop) :: _ => some ⟨path.chars.take stop⟩

end Path

end ModuleBundler
