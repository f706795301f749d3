import ModuleBundler.Proofs.Graph.BreadthFirst
import ModuleBundler.Proofs.Graph.SimpleChains

/-!
# The import that a graph fails at

A graph fails at the first import, in the order in which imports are followed, that refers to a file
that cannot be prepared. The failure names this import and the file, and nothing is asked for behind
it. The chain of the import is the least simple chain whose file cannot be prepared, whether files
are built again or once only: what has been built until then are the files at the ends of the simple
chains before it, all of them or the first of each file.

## Main definitions

* `Workshop.Preceding` — the simple chains before another one.
* `Workshop.Frontier` — what has been built when a specifier is followed.
* `Workshop.Attributed` — what a graph comes to, and the files that are asked for.

## Main results

* `Workshop.Reached.resolve_mem_files` — what has been followed has been built.
* `Workshop.Exhausted.preceding` — the chains of a traversal that builds files again are those
  before the next one.
* `Workshop.graph_attributed` — what every graph comes to.
-/

namespace ModuleBundler

/-- The files that are built for files at the ends of chains: all of them, or the first of each
file. -/
def Reuse.kept : Reuse → List Path → List Path
  | .onChain, files => files
  | .byPath, files => files.eraseDups

namespace Workshop

variable {workshop : Workshop} {reuse : Reuse} {entry : Path}

/-! ### What has been followed -/

/-- What has been followed has been built: what the specifiers of finished assets refer to, and what
the first specifiers of the next asset do. -/
theorem Reached.resolve_mem_files {traversal : Traversal}
    (h : workshop.Reached reuse entry traversal) (hcanonical : entry.IsCanonical)
    (habsolute : entry.isAbsolute) {i j : Nat} {asset : Asset} {specifier : String}
    (hplace : i < traversal.finished.length ∨
      i = traversal.finished.length ∧ j < traversal.followed)
    (hasset : traversal.built[i]? = some asset)
    (hspecifier : asset.specifiers[j]? = some specifier) :
    asset.path.resolve specifier ∈ traversal.files := by
  have hmapped := h.mapped hcanonical habsolute
  rw [Traversal.built, List.getElem?_map] at hasset
  obtain ⟨full, hfull, rfl⟩ := Option.map_eq_some_iff.mp hasset
  rcases hplace with hlt | ⟨rfl, hlt⟩
  · rw [Traversal.queue, List.getElem?_append_left hlt] at hfull
    exact (hmapped.finished full (List.mem_of_getElem? hfull)).resolve_mem
      (List.getElem?_eq_some_iff.mp hspecifier).1 hspecifier
  · rw [Traversal.queue, List.getElem?_append_right le_rfl, Nat.sub_self, List.getElem?_map,
      ← List.head?_eq_getElem?] at hfull
    obtain ⟨visit, hvisit, rfl⟩ := Option.map_eq_some_iff.mp hfull
    exact (hmapped.head visit hvisit).resolve_mem hlt hspecifier

/-! ### Simple chains in order -/

/-- All simple chains before another simple chain, in their order. -/
structure Preceding (workshop : Workshop) (entry : Path) (last : List Nat)
    (chains : List (List Nat)) : Prop where
  simple : workshop.Simple entry last
  mem_iff : ∀ chain, chain ∈ chains ↔ workshop.Simple entry chain ∧ Before chain last
  ordered : chains.Pairwise Before

section Exhausted

variable {finished : List Asset} {visit : Visit} {rest : List Visit} {followed : Nat}
  {progress : Progress} {reads : List Path} {done others : List (List Nat)} {chain : List Nat}
  (h : workshop.Exhausted entry ⟨finished, visit :: rest, followed, progress, reads⟩ done
    (chain :: others))
  (hcharted : workshop.Charted entry ⟨finished, visit :: rest, followed, progress, reads⟩ done
    (chain :: others))

include h hcharted

/-- A simple chain before the next one is that of an asset. -/
theorem Exhausted.mem_of_before {other : List Nat} (hsimple : workshop.Simple entry other)
    (hbefore : Before other (chain ++ [followed])) : other ∈ done ++ chain :: others := by
  induction other using List.reverseRecOn with
  | nil => exact hcharted.nil_mem
  | append_singleton first position ih =>
    have hfirst : Before first (chain ++ [followed]) := by
      have hle := length_le_of_before hbefore
      exact .of_length_lt (by simp at hle ⊢; omega)
    refine h.complete first position ?_ hsimple
    rcases List.mem_append.mp (ih hsimple.of_concat hfirst) with hdone | hahead
    · exact Or.inl hdone
    rcases List.mem_cons.mp hahead with rfl | hother
    · refine Or.inr ⟨rfl, ?_⟩
      rcases Nat.lt_trichotomy position followed with hlt | rfl | hlt
      · exact hlt
      · exact absurd hbefore (Std.Irrefl.irrefl _)
      · exact absurd hbefore (Std.Asymm.asymm _ _ (before_concat_self first hlt))
    · -- a chain behind the one that is followed leads on to later chains only
      have hpairs := (List.pairwise_append.mp hcharted.ordered).2.1
      have hafter := List.rel_of_pairwise_cons hpairs hother
      exact absurd hbefore (Std.Asymm.asymm _ _ (before_concat hafter followed position))

/-- The chains of a traversal that builds files again are the simple chains before the next one. -/
theorem Exhausted.preceding
    (hcoherent : workshop.Coherent ⟨finished, visit :: rest, followed, progress, reads⟩)
    {specifier : String} (hspecifier : visit.asset.specifiers[followed]? = some specifier)
    (hfind : reuse.find? progress visit (visit.asset.path.resolve specifier) = none) :
    workshop.Preceding entry (chain ++ [followed]) (done ++ chain :: others) where
  simple := hcharted.simple_next hcoherent hspecifier hfind
  mem_iff other :=
    ⟨fun hmem => ⟨hcharted.simple other hmem, hcharted.before_next other hmem⟩,
      fun hother => h.mem_of_before hcharted hother.1 hother.2⟩
  ordered := hcharted.ordered

end Exhausted

/-! ### What has been built -/

/-- The assets that have been built when the specifier at a position of the asset at a place is
followed: they are numbered in order, each of them is what its file was prepared to, and all
specifiers before this one refer to files of them. They are built from the files at the ends of the
simple chains that come before the one that goes on at this specifier. -/
structure Frontier (workshop : Workshop) (reuse : Reuse) (entry : Path) (built : List Asset)
    (place position : Nat) : Prop where
  ids : built.map Asset.id = (List.range built.length).map AssetId.nth
  prepared : ∀ asset ∈ built,
    (workshop.prepare asset.path).result = .ok ⟨asset.specifiers, asset.code⟩
  followed : ∀ i j, i < place ∨ i = place ∧ j < position →
    ∀ asset specifier, built[i]? = some asset → asset.specifiers[j]? = some specifier →
      asset.path.resolve specifier ∈ built.map Asset.path
  chains : ∃ chain chains, workshop.Preceding entry (chain ++ [position]) chains ∧
    workshop.destination? entry chain = built[place]?.map Asset.path ∧
    built.map Asset.path = reuse.kept (chains.filterMap (workshop.destination? entry))

/-- The ends of the chains of a traversal are its files. -/
theorem Charted.filterMap_destination? {traversal : Traversal} {done ahead : List (List Nat)}
    (h : workshop.Charted entry traversal done ahead) (hcoherent : workshop.Coherent traversal) :
    (done ++ ahead).filterMap (workshop.destination? entry) = traversal.files := by
  calc (done ++ ahead).filterMap (workshop.destination? entry)
      = ((done ++ ahead).map (workshop.destination? entry)).filterMap id := by
        rw [List.filterMap_map]
        rfl
    _ = traversal.files := by
        rw [h.map_destination? hcoherent, List.filterMap_map]
        exact List.filterMap_some

section Stuck

variable {finished : List Asset} {visit : Visit} {rest : List Visit} {followed : Nat}
  {progress : Progress} {reads : List Path} {specifier : String}

/-- The asset that is followed stands behind those that are finished. -/
theorem getElem?_built_head :
    (Traversal.mk finished (visit :: rest) followed progress reads).built[finished.length]? =
      some visit.asset.bare := by
  simp [Traversal.built, Traversal.queue]

/-- What has been built when the chains before the next one are known. -/
theorem Reached.frontier
    (h : workshop.Reached reuse entry ⟨finished, visit :: rest, followed, progress, reads⟩)
    (hcanonical : entry.IsCanonical) (habsolute : entry.isAbsolute) {chain : List Nat}
    {chains : List (List Nat)} (hchains : workshop.Preceding entry (chain ++ [followed]) chains)
    (hchain : workshop.destination? entry chain = some visit.asset.path)
    (hfiles : (Traversal.mk finished (visit :: rest) followed progress reads).files =
      reuse.kept (chains.filterMap (workshop.destination? entry))) :
    workshop.Frontier reuse entry
      (Traversal.mk finished (visit :: rest) followed progress reads).built finished.length
        followed := by
  have hcoherent := h.coherent hcanonical habsolute
  refine ⟨hcoherent.ids, hcoherent.prepared, fun i j hplace asset specifier hasset hspecifier => ?_,
    chain, chains, hchains, ?_, ?_⟩
  · rw [Traversal.map_path_built]
    exact h.resolve_mem_files hcanonical habsolute hplace hasset hspecifier
  · rw [getElem?_built_head, hchain]
    rfl
  · rw [Traversal.map_path_built, hfiles]

/-- The chains before the next one, in a traversal that builds files again. -/
theorem Reached.exists_preceding
    (h : workshop.Reached .onChain entry ⟨finished, visit :: rest, followed, progress, reads⟩)
    (hcanonical : entry.IsCanonical) (habsolute : entry.isAbsolute)
    (hspecifier : visit.asset.specifiers[followed]? = some specifier)
    (hfind : Reuse.onChain.find? progress visit (visit.asset.path.resolve specifier) = none) :
    ∃ chain chains, workshop.Preceding entry (chain ++ [followed]) chains ∧
      workshop.destination? entry chain = some visit.asset.path ∧
      chains.filterMap (workshop.destination? entry) =
        (Traversal.mk finished (visit :: rest) followed progress reads).files := by
  have hcoherent := h.coherent hcanonical habsolute
  obtain ⟨done, ahead, hcharted, hexhausted⟩ := h.exists_exhausted hcanonical habsolute
  obtain ⟨chain, others, rfl⟩ := hcharted.exists_head
  exact ⟨chain, _, hexhausted.preceding hcharted hcoherent hspecifier hfind,
    hcharted.destination?_head hcoherent, hcharted.filterMap_destination? hcoherent⟩

/-- What every traversal that is stuck has built. Where files are built once only, the traversal that
builds them again is stuck at the same specifier. -/
theorem Reached.frontier_of_stuck {directory path : Path} {failure : Failure}
    (h : workshop.Reached reuse entry ⟨finished, visit :: rest, followed, progress, reads⟩)
    (hdirectory : directory.isAbsolute) (hentry : Path.absolute? directory path = some entry)
    (hspecifier : visit.asset.specifiers[followed]? = some specifier)
    (hfind : reuse.find? progress visit (visit.asset.path.resolve specifier) = none)
    (hprepare : (workshop.prepare (visit.asset.path.resolve specifier)).result = .error failure) :
    workshop.Frontier reuse entry
      (Traversal.mk finished (visit :: rest) followed progress reads).built finished.length
        followed := by
  obtain ⟨hcanonical, habsolute⟩ := Path.absolute?_spec hdirectory hentry
  cases reuse with
  | onChain =>
    obtain ⟨chain, chains, hchains, hchain, hfiles⟩ :=
      h.exists_preceding hcanonical habsolute hspecifier hfind
    exact h.frontier hcanonical habsolute hchains hchain hfiles.symm
  | byPath =>
    obtain ⟨analysis, hanalysis, -⟩ := h.exists_run
    obtain ⟨copies, hcopies, hend⟩ := exists_settles_graph .onChain hdirectory hentry hanalysis
    obtain ⟨once, honce, hcondenses⟩ := hcopies.exists_condenses hcanonical habsolute
    have hcoherent := hcopies.coherent hcanonical habsolute
    have hmapped := hcopies.mapped hcanonical habsolute
    obtain ⟨outcome, asked, hsettles, hcondensed⟩ :=
      hcondenses.settles hcoherent hmapped (honce.coherent hcanonical habsolute) hend
    have hstuck : workshop.Settles .byPath ⟨finished, visit :: rest, followed, progress, reads⟩ _ _ :=
      .stuck hspecifier hfind hprepare
    obtain rfl := hsettles.eq_of_reached honce h hstuck
    obtain rfl := (hsettles.unique hstuck).1
    generalize (workshop.graph .onChain directory path).result = result at hend hcondensed
    generalize (workshop.graph .onChain directory path).reads = reads' at hend
    cases hend with
    | done => cases hcondensed
    | stuck hspecifier' hfind' hprepare' =>
      obtain ⟨_, visit', _, _, _, hpath, heq⟩ :=
        hcondenses.exists_head_of_stuck hcoherent hmapped hspecifier' hprepare'
      cases heq
      obtain ⟨chain, chains, hchains, hchain, hfiles⟩ :=
        hcopies.exists_preceding hcanonical habsolute hspecifier' hfind'
      refine h.frontier hcanonical habsolute hchains (hchain.trans (congrArg some hpath.symm)) ?_
      rw [hcondenses.files, hfiles]
      rfl

end Stuck

/-! ### What a graph comes to -/

/-- What a graph comes to, and the files that are asked for, in order. -/
inductive Attributed (workshop : Workshop) (reuse : Reuse) (directory path : Path) :
    Except Failure (List Asset) → List Path → Prop
  /-- The path of the entry means nothing; no file is asked for. -/
  | unplaced (h : Path.absolute? directory path = none) :
      Attributed workshop reuse directory path (.error (.unreadable path .emptyPath)) []
  /-- The entry cannot be prepared. -/
  | entry {entry : Path} {failure : Failure} (h : Path.absolute? directory path = some entry)
      (hprepare : (workshop.prepare entry).result = .error failure)
      (hrejects : workshop.Rejects entry failure) :
      Attributed workshop reuse directory path (.error failure) [entry]
  /-- The file that a specifier of a built asset refers to cannot be prepared. -/
  | importing {entry : Path} {built : List Asset} {place position : Nat} {importer : Asset}
      {specifier : String} {failure : Failure} (h : Path.absolute? directory path = some entry)
      (hfrontier : workshop.Frontier reuse entry built place position)
      (himporter : built[place]? = some importer)
      (hspecifier : importer.specifiers[position]? = some specifier)
      (hprepare : (workshop.prepare (importer.path.resolve specifier)).result = .error failure)
      (hrejects : workshop.Rejects (importer.path.resolve specifier) failure)
      (hcause : (Failure.importing specifier importer.path failure).rootCause = failure) :
      Attributed workshop reuse directory path
        (.error (.importing specifier importer.path failure))
        (built.map Asset.path ++ [importer.path.resolve specifier])
  /-- All files can be prepared. -/
  | complete {entry : Path} {assets : List Asset} (h : Path.absolute? directory path = some entry)
      (hids : assets.map Asset.id = (List.range assets.length).map AssetId.nth) :
      Attributed workshop reuse directory path (.ok assets) (assets.map Asset.path)

/-- What a traversal at its end comes to. -/
theorem Settles.exists_attributed {directory path : Path} {traversal : Traversal}
    {outcome : Except Failure (List Asset)} {asked : List Path}
    (h : workshop.Settles reuse traversal outcome asked)
    (hreached : workshop.Reached reuse entry traversal) (hdirectory : directory.isAbsolute)
    (hentry : Path.absolute? directory path = some entry) :
    ∃ reads, workshop.Attributed reuse directory path outcome reads ∧
      (workshop.analyzer.Silent → asked = reads) := by
  obtain ⟨hcanonical, habsolute⟩ := Path.absolute?_spec hdirectory hentry
  cases h with
  | @done finished followed progress =>
    have hids := (hreached.coherent hcanonical habsolute).ids
    rw [Traversal.built_of_pending_eq_nil rfl, List.map_map, List.length_map] at hids
    refine ⟨_, .complete hentry hids, fun hsilent => ?_⟩
    exact (hreached.reads_eq_files hsilent).trans (Traversal.files_of_pending_eq_nil rfl)
  | @stuck finished visit rest followed progress reads specifier failure hspecifier hfind hprepare =>
    have hfrontier := hreached.frontier_of_stuck hdirectory hentry hspecifier hfind hprepare
    have hrejects := rejects_of_prepare hprepare
    have himporting : workshop.Attributed reuse directory path
        (.error (.importing specifier visit.asset.bare.path failure)) _ :=
      .importing hentry hfrontier getElem?_built_head hspecifier hprepare hrejects
        hrejects.rootCause_eq
    refine ⟨_, himporting, fun hsilent => ?_⟩
    rw [reads_prepare hsilent, Traversal.map_path_built, ← hreached.reads_eq_files hsilent]
    rfl

/-- **A graph fails at the first import that cannot be built, and names it.** -/
theorem graph_attributed (workshop : Workshop) (reuse : Reuse) {directory : Path}
    (hdirectory : directory.isAbsolute) (path : Path) :
    ∃ reads, workshop.Attributed reuse directory path (workshop.graph reuse directory path).result
        reads ∧
      (workshop.analyzer.Silent → (workshop.graph reuse directory path).reads = reads) := by
  cases hentry : Path.absolute? directory path with
  | none =>
    obtain ⟨hresult, hreads⟩ : (workshop.graph reuse directory path).result = _ ∧ _ :=
      graph_of_absolute?_eq_none hentry
    rw [hresult]
    exact ⟨_, .unplaced hentry, fun _ => hreads⟩
  | some entry =>
    cases hprepare : (workshop.prepare entry).result with
    | error failure =>
      obtain ⟨hresult, hreads⟩ : (workshop.graph reuse directory path).result = _ ∧ _ :=
        graph_of_prepare_eq_error hentry hprepare
      rw [hresult]
      refine ⟨_, .entry hentry hprepare (rejects_of_prepare hprepare), fun hsilent => ?_⟩
      rw [hreads, reads_prepare hsilent]
    | ok analysis =>
      obtain ⟨traversal, hreached, hsettles⟩ :=
        exists_settles_graph reuse hdirectory hentry hprepare
      exact hsettles.exists_attributed hreached hdirectory hentry

/-- A workshop of two files, of which the first one imports the second one twice, and the second one
imports a third one that is not there. -/
def broken : Workshop where
  storage := .memory (.ofList [(.ofString "/a", "./b"), (.ofString "/b", "./c")])
  rules := []
  analyzer := fun _ source => return .ok ⟨[source, source], source⟩

theorem graph_attributed_broken :
    Path.root.isAbsolute ∧ broken.analyzer.Silent ∧
      broken.Attributed .onChain .root (.ofString "a")
        (.error (.importing "./c" (.ofString "/b")
          (.unreadable (.ofString "/c") (.absentFile (.ofString "/c")))))
        [.ofString "/a", .ofString "/b", .ofString "/b", .ofString "/c"] := by
  have hsilent : broken.analyzer.Silent := fun _ _ => rfl
  obtain ⟨reads, hattributed, hreads⟩ :=
    graph_attributed broken .onChain (show Path.root.isAbsolute from rfl) (.ofString "a")
  obtain rfl : [.ofString "/a", .ofString "/b", .ofString "/b", .ofString "/c"] = reads :=
    hreads hsilent
  exact ⟨rfl, hsilent, hattributed⟩

end Workshop

end ModuleBundler
