import ModuleBundler.Asset

/-!
# The graph of imports

A build starts with the file of the entry and follows the specifiers of every file that it builds,
level by level: first the files that the entry imports, then those that these import. Assets are
numbered in the order in which they are built.

A file that is imported several times is built once for each import, unless it stands on the chain
of imports that leads to the import; or it is built once only.

## Main definitions

* `Reuse` — the two ways to treat a file that has been built.
* `Visit` — an asset with the chain of imports that led to it.
* `Workshop.graph` — all assets that an entry needs.
-/

namespace ModuleBundler

/-- When an asset that has been built is used for another import. -/
inductive Reuse where
  /-- When it stands on the chain that leads to the import. -/
  | onChain
  /-- Always. -/
  | byPath
  deriving DecidableEq, Repr

/-- An asset with the paths and numbers of the assets on the chain that led to it: its own first,
that of the entry last. -/
structure Visit where
  asset : Asset
  chain : List (Path × AssetId)

/-- What has been built so far: the numbers that were handed out, and the first asset for every
path. -/
structure Progress where
  numbering : Numbering
  known : List (List Component × AssetId)

namespace Progress

/-- Nothing has been built. -/
def start : Progress :=
  ⟨.start, []⟩

/-- The first asset for a path. -/
def find? (progress : Progress) (path : Path) : Option AssetId :=
  progress.known.lookup path.components

/-- One more asset has been built. -/
def add (progress : Progress) (numbering : Numbering) (asset : Asset) : Progress where
  numbering := numbering
  known :=
    if (progress.find? asset.path).isSome then progress.known
    else progress.known ++ [(asset.path.components, asset.id)]

end Progress

/-- The asset that an import of a path uses, if it has been built. -/
def Reuse.find? (reuse : Reuse) (progress : Progress) (visit : Visit) (path : Path) :
    Option AssetId :=
  match reuse with
  | byPath => progress.find? path
  | onChain => (visit.chain.find? fun link => link.1.same path).map Prod.snd

namespace Workshop

/-- The visit of an asset that another one imports, or of the entry. -/
def visitOf (chain : List (Path × AssetId)) (asset : Asset) : Visit :=
  ⟨asset, (asset.path, asset.id) :: chain⟩

/-- Follows one specifier of an asset: the number of the asset that it refers to, and the visit of
that asset if it had to be built. -/
def follow (workshop : Workshop) (reuse : Reuse) (visit : Visit) (progress : Progress)
    (specifier : String) : Attempt (AssetId × Option Visit × Progress) := do
  let importer := visit.asset.path
  let path := importer.resolve specifier
  Attempt.log .trace .graph s!"Resolved '{specifier}' from {importer} to {path}"
  match reuse.find? progress visit path with
  | some id =>
    Attempt.log .debug .graph s!"Reusing asset {id} for '{specifier}'"
    return (id, none, progress)
  | none =>
    let (asset, numbering) ←
      (workshop.build progress.numbering path).adapt (.importing specifier importer)
    return (asset.id, some (visitOf visit.chain asset), progress.add numbering asset)

/-- Follows specifiers of an asset, with the mapping of those before them. -/
def followAll (workshop : Workshop) (reuse : Reuse) (visit : Visit) :
    List String → Mapping → Progress → Attempt (Mapping × List Visit × Progress)
  | [], mapping, progress => return (mapping, [], progress)
  | specifier :: specifiers, mapping, progress => do
    let (id, child, progress) ← workshop.follow reuse visit progress specifier
    let (mapping, children, progress) ←
      followAll workshop reuse visit specifiers (mapping.insert specifier id) progress
    return (mapping, child.toList ++ children, progress)

/-- Follows all specifiers of a level: its assets with their mappings, and the next level. -/
def level (workshop : Workshop) (reuse : Reuse) :
    List Visit → Progress → Attempt (List Asset × List Visit × Progress)
  | [], progress => return ([], [], progress)
  | visit :: visits, progress => do
    let (mapping, children, progress) ←
      workshop.followAll reuse visit visit.asset.specifiers visit.asset.mapping progress
    let (assets, more, progress) ← level workshop reuse visits progress
    return ({ visit.asset with mapping } :: assets, children ++ more, progress)

/-- The assets of a level and of all levels below it; `fuel` bounds the number of levels. -/
def levels (workshop : Workshop) (reuse : Reuse) :
    (fuel : Nat) → List Visit → Progress → Attempt (List Asset)
  | _, [], _ => return []
  | 0, visits, _ => return visits.map Visit.asset
  | fuel + 1, visits, progress => do
    let (assets, next, progress) ← workshop.level reuse visits progress
    return assets ++ (← levels workshop reuse fuel next progress)

/-- All assets that an entry needs. Every level holds a file that the chains to it do not, so there
are no more levels than files. -/
def graph (workshop : Workshop) (reuse : Reuse) (workingDirectory entry : Path) :
    Attempt (List Asset) := do
  match Path.absolute? workingDirectory entry with
  | none => throw (.unreadable entry .emptyPath)
  | some path =>
    Attempt.log .info .graph s!"Building dependency graph from {path}"
    let (asset, numbering) ← workshop.build .start path
    let progress := Progress.start.add numbering asset
    let assets ← workshop.levels reuse (workshop.storage.size + 1) [visitOf [] asset] progress
    Attempt.log .info .graph s!"Dependency graph complete: {assets.length} assets"
    return assets

end Workshop

end ModuleBundler
