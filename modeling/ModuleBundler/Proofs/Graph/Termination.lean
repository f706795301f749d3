import ModuleBundler.Proofs.Graph.BreadthFirst

/-!
# Every traversal of a tree of files ends

The chain of an asset starts with the asset and goes on with the chain of the one that it was built
for. No chain holds a file twice, so none is longer than the tree has files, and a traversal can
only go on for so many levels. When every file is built once, there are no more assets than files
either.

## Main definitions

* `FileTree.fileCount` — how many files a tree holds.
* `Workshop.Takes` — runs of so many steps.
* `Workshop.Descended` — the visits of all assets of a traversal, each with its chain.
* `Workshop.Confined` — what bounds the assets of a traversal.

## Main results

* `Workshop.Takes.le_of_settles` — no run is longer than one that has come to its end.
* `Workshop.Reached.exists_descended` — every traversal that is reached from an entry has such
  visits.
* `Workshop.graph_ends` — every traversal of a tree of files ends, and is confined until then.
-/

namespace ModuleBundler

/-! ### The files of a tree -/

/-- How many files a tree holds. -/
def FileTree.fileCount (tree : FileTree) : Nat :=
  (tree.files.map Prod.fst).eraseDups.length

/-- Different files that can be read from a tree are no more than it holds. -/
theorem FileTree.length_le_fileCount {tree : FileTree} {paths : List Path}
    (hdistinct : Path.Distinct paths) (hread : ∀ path ∈ paths, ∃ text, tree.read path = .ok text) :
    paths.length ≤ tree.fileCount := by
  have hnodup : (paths.map Path.components).Nodup := by
    refine List.pairwise_map.mpr (hdistinct.imp fun hne heq => hne ?_)
    simpa [Path.same] using heq
  have hsubset : paths.map Path.components ⊆ (tree.files.map Prod.fst).eraseDups := by
    intro key hkey
    obtain ⟨path, hpath, rfl⟩ := List.mem_map.mp hkey
    obtain ⟨text, htext⟩ := hread path hpath
    unfold read get? at htext
    split at htext
    next found hfound =>
      obtain ⟨before, after, hfiles, -⟩ := List.lookup_eq_some_iff.mp hfound
      simp [hfiles, List.mem_eraseDups]
    next => cases htext
  simpa [fileCount] using hnodup.length_le_of_subset hsubset

namespace Workshop

variable {workshop : Workshop} {reuse : Reuse} {entry : Path}

/-! ### Counted runs -/

/-- Runs of so many steps. -/
inductive Takes (workshop : Workshop) (reuse : Reuse) : Nat → Traversal → Traversal → Prop
  | none {traversal : Traversal} : Takes workshop reuse 0 traversal traversal
  | step {count : Nat} {before next after : Traversal} (hstep : workshop.Step reuse before next)
      (hrest : Takes workshop reuse count next after) :
      Takes workshop reuse (count + 1) before after

theorem Takes.run {count : Nat} {before after : Traversal}
    (h : workshop.Takes reuse count before after) :
    Relation.ReflTransGen (workshop.Step reuse) before after := by
  induction h with
  | none => exact .refl
  | step hstep _ ih => exact .head hstep ih

theorem exists_takes_of_run {before after : Traversal}
    (h : Relation.ReflTransGen (workshop.Step reuse) before after) :
    ∃ count, workshop.Takes reuse count before after := by
  induction h using Relation.ReflTransGen.head_induction_on with
  | refl => exact ⟨0, .none⟩
  | head hstep _ ih =>
    obtain ⟨count, htakes⟩ := ih
    exact ⟨count + 1, .step hstep htakes⟩

/-- No run is longer than one that has come to its end. -/
theorem Takes.le_of_settles {count other : Nat} {start last traversal : Traversal}
    {outcome : Except Failure (List Asset)} {reads : List Path}
    (h : workshop.Takes reuse count start last)
    (hsettles : workshop.Settles reuse last outcome reads)
    (hother : workshop.Takes reuse other start traversal) : other ≤ count := by
  induction h generalizing other with
  | none =>
    cases hother with
    | none => exact le_rfl
    | step hstep _ => exact absurd hstep hsettles.not_step
  | step hstep _ ih =>
    cases hother with
    | none => exact Nat.zero_le _
    | step hstep' hrest' =>
      obtain rfl := Step.rightUnique hstep hstep'
      exact Nat.succ_le_succ (ih hsettles hrest')

/-! ### The chains of all assets -/

/-- The visits of all assets of a traversal, in the order in which the assets were built. The chain
of the entry is the entry alone; that of every other asset goes on with the chain of an asset that
was built before, and that imports its file. While an asset is not finished, its chain is the one
that its specifiers are compared with. -/
structure Descended (workshop : Workshop) (entry : Path) (traversal : Traversal)
    (visits : List Visit) : Prop where
  assets : visits.map (·.asset.bare) = traversal.built
  pending : (visits.drop traversal.finished.length).map Visit.chain =
    traversal.pending.map Visit.chain
  linked : ∀ visit ∈ visits, visit.Linked traversal.built
  origin : ∀ (i : Nat) (visit : Visit), visits[i]? = some visit →
    i = 0 ∧ visit.asset.path = entry ∧ visit.chain.tail = [] ∨
      ∃ j < i, ∃ importer, visits[j]? = some importer ∧ visit.chain.tail = importer.chain ∧
        workshop.Imports importer.asset.path visit.asset.path

theorem Descended.opening (entry : Path) (analysis : Linking.Analysis) :
    workshop.Descended entry (workshop.opening entry analysis)
      [visitOf [] (stamp .start entry analysis)] where
  assets := rfl
  pending := rfl
  linked visit hvisit := by
    rw [List.mem_singleton.mp hvisit]
    refine ⟨rfl, fun link hlink => ?_, Path.distinct_singleton _⟩
    rw [List.mem_singleton.mp hlink]
    exact ⟨_, List.mem_singleton_self _, rfl, rfl⟩
  origin i visit hvisit := by
    obtain ⟨rfl, rfl⟩ : i = 0 ∧ visitOf [] (stamp .start entry analysis) = visit := by
      simpa [List.getElem?_singleton] using hvisit
    exact .inl ⟨rfl, rfl, rfl⟩

section Head

variable {finished : List Asset} {visit : Visit} {rest visits : List Visit} {followed : Nat}
  {progress : Progress} {reads : List Path}

/-- The asset that is followed has a visit, and its chain is the one that is compared. -/
theorem Descended.exists_head
    (h : workshop.Descended entry ⟨finished, visit :: rest, followed, progress, reads⟩ visits) :
    ∃ head, visits[finished.length]? = some head ∧ head.chain = visit.chain ∧
      head.asset.path = visit.asset.path := by
  have hpending := h.pending
  obtain ⟨head, others, hdrop, hchain, -⟩ := List.map_eq_cons_iff.mp hpending
  have hhead : visits[finished.length]? = some head := by
    have hzero : (visits.drop finished.length)[0]? = some head := by rw [hdrop]; rfl
    simpa using hzero
  refine ⟨head, hhead, hchain, ?_⟩
  have hbuilt := congrArg (·[finished.length]?) h.assets
  simp only [List.getElem?_map, hhead, Traversal.built, Traversal.queue] at hbuilt
  simpa [Asset.bare] using congrArg (Option.map Asset.path) hbuilt

/-- An asset that is built for a specifier descends from the asset that is followed. -/
theorem Descended.build
    (h : workshop.Descended entry ⟨finished, visit :: rest, followed, progress, reads⟩ visits)
    (hcoherent : workshop.Coherent ⟨finished, visit :: rest, followed, progress, reads⟩)
    {specifier : String} (hspecifier : visit.asset.specifiers[followed]? = some specifier)
    (hfind : reuse.find? progress visit (visit.asset.path.resolve specifier) = none)
    {asset : Asset} (hbare : asset.bare = asset)
    (hpath : asset.path = visit.asset.path.resolve specifier) {progress' : Progress}
    {reads' : List Path} :
    workshop.Descended entry
      ⟨finished, visit.record specifier asset.id :: (rest ++ [visitOf visit.chain asset]),
        followed + 1, progress', reads'⟩ (visits ++ [visitOf visit.chain asset]) := by
  have hbuilt := built_build finished visit rest followed (followed + 1) progress progress' reads
    reads' specifier hbare
  obtain ⟨head, hhead, hchain, hfile⟩ := h.exists_head
  have hlt : finished.length < visits.length := (List.getElem?_eq_some_iff.mp hhead).1
  refine ⟨?_, ?_, fun other hother => ?_, fun i other hother => ?_⟩
  · rw [hbuilt, List.map_append, h.assets]
    simp [visitOf, hbare]
  · have hpending := h.pending
    dsimp only at hpending ⊢
    rw [List.drop_append_of_le_length hlt.le, List.map_append, hpending]
    simp [Visit.record]
  · rw [hbuilt]
    rcases List.mem_append.mp hother with hother | hother
    · exact (h.linked other hother).mono _
    · rw [List.mem_singleton.mp hother]
      have hfresh := hcoherent.fresh List.mem_cons_self hfind
      exact (hcoherent.linked visit List.mem_cons_self).child (hpath ▸ hfresh)
  · rcases Nat.lt_or_ge i visits.length with hi | hi
    · rw [List.getElem?_append_left hi] at hother
      refine (h.origin i other hother).imp_right ?_
      rintro ⟨j, hj, importer, himporter, hrest⟩
      refine ⟨j, hj, importer, ?_, hrest⟩
      rw [List.getElem?_append_left (List.getElem?_eq_some_iff.mp himporter).1, himporter]
    · obtain ⟨hlast, rfl⟩ : i - visits.length = 0 ∧ visitOf visit.chain asset = other := by
        rw [List.getElem?_append_right hi] at hother
        simpa [List.getElem?_singleton] using hother
      refine .inr ⟨finished.length, by omega, head, ?_, hchain.symm, followed, ?_⟩
      · rw [List.getElem?_append_left hlt, hhead]
      · rw [hfile, hcoherent.importAt?_of_specifier hspecifier]
        exact congrArg some hpath.symm

end Head

/-- A step keeps the chains of all assets. -/
theorem exists_descended_of_step {before after : Traversal} {visits : List Visit}
    (hcoherent : workshop.Coherent before) (h : workshop.Descended entry before visits)
    (hstep : workshop.Step reuse before after) :
    ∃ visits', workshop.Descended entry after visits' := by
  cases hstep with
  | @reuse finished visit rest followed progress reads specifier id hspecifier hfind =>
    have hbuilt := built_record finished visit rest followed (followed + 1) progress reads specifier
      id
    refine ⟨visits, h.assets.trans hbuilt.symm, h.pending, ?_, h.origin⟩
    rw [hbuilt]
    exact h.linked
  | build hspecifier hfind hprepare hasset =>
    exact ⟨_, h.build hcoherent hspecifier hfind (by rw [hasset]; rfl) (by rw [hasset]; rfl)⟩
  | @finish finished visit rest followed progress reads hdone =>
    have hbuilt := built_finish finished visit rest followed 0 progress reads
    refine ⟨visits, h.assets.trans hbuilt.symm, ?_, ?_, h.origin⟩
    · have hpending := congrArg List.tail h.pending
      rw [← List.map_tail, List.tail_drop] at hpending
      rwa [List.length_append, List.length_singleton]
    · rw [hbuilt]
      exact h.linked

/-- Every traversal that is reached from an entry has chains for all of its assets. -/
theorem Reached.exists_descended {traversal : Traversal}
    (h : workshop.Reached reuse entry traversal) (hcanonical : entry.IsCanonical)
    (habsolute : entry.isAbsolute) : ∃ visits, workshop.Descended entry traversal visits := by
  induction h with
  | opening => exact ⟨_, .opening entry _⟩
  | step hbefore hstep ih =>
    obtain ⟨visits, hdescended⟩ := ih
    exact exists_descended_of_step (hbefore.coherent hcanonical habsolute) hdescended hstep

/-! ### Bounds -/

/-- What bounds the assets of a traversal: when every file is built once there are no more assets
than files, and the chain of every asset holds different files, no more than there are. -/
structure Confined (workshop : Workshop) (reuse : Reuse) (entry : Path) (count : Nat)
    (traversal : Traversal) : Prop where
  assets : reuse = .byPath → traversal.queue.length ≤ count
  chains : ∃ visits, workshop.Descended entry traversal visits ∧
    ∀ visit ∈ visits, visit.chain.length ≤ count

section Tree

variable {tree : FileTree}

/-- What has been built can be read. -/
theorem Coherent.exists_read (htree : workshop.storage = .memory tree) {traversal : Traversal}
    (h : workshop.Coherent traversal) {asset : Asset} (hasset : asset ∈ traversal.built) :
    ∃ text, tree.read asset.path = .ok text := by
  obtain ⟨source, -, hsource, -⟩ := result_prepare_eq_ok.mp (h.prepared asset hasset)
  rw [htree] at hsource
  exact ⟨source, hsource⟩

/-- A chain holds no more files than the tree. -/
theorem Descended.length_chain_le (htree : workshop.storage = .memory tree)
    {traversal : Traversal} (hcoherent : workshop.Coherent traversal) {visits : List Visit}
    (h : workshop.Descended entry traversal visits) {visit : Visit} (hvisit : visit ∈ visits) :
    visit.chain.length ≤ tree.fileCount := by
  have hlinked := h.linked visit hvisit
  rw [← List.length_map Prod.fst]
  refine FileTree.length_le_fileCount hlinked.distinct fun path hpath => ?_
  obtain ⟨link, hlink, rfl⟩ := List.mem_map.mp hpath
  obtain ⟨asset, hasset, heq, -⟩ := hlinked.links link hlink
  exact heq ▸ hcoherent.exists_read htree hasset

/-- Assets of different files are no more than the files of the tree. -/
theorem Reached.length_queue_le (htree : workshop.storage = .memory tree) {traversal : Traversal}
    (h : workshop.Reached .byPath entry traversal) (hcanonical : entry.IsCanonical)
    (habsolute : entry.isAbsolute) : traversal.queue.length ≤ tree.fileCount := by
  have hcoherent := h.coherent hcanonical habsolute
  obtain ⟨done, ahead, -, hspanned⟩ := h.exists_spanned hcanonical habsolute
  have hdistinct : Path.Distinct traversal.files := by
    refine Path.distinct_of_nodup (fun file hfile => ?_) hspanned.nodup
    obtain ⟨asset, hasset, rfl⟩ := Traversal.mem_files_iff.mp hfile
    exact (hcoherent.canonical asset hasset).1
  have hread : ∀ file ∈ traversal.files, ∃ text, tree.read file = .ok text := by
    intro file hfile
    obtain ⟨asset, hasset, rfl⟩ := Traversal.mem_files_iff.mp hfile
    exact hcoherent.exists_read htree hasset
  have hle := FileTree.length_le_fileCount hdistinct hread
  rwa [Traversal.files, List.length_map] at hle

theorem Reached.confined (htree : workshop.storage = .memory tree) {traversal : Traversal}
    (h : workshop.Reached reuse entry traversal) (hcanonical : entry.IsCanonical)
    (habsolute : entry.isAbsolute) : workshop.Confined reuse entry tree.fileCount traversal where
  assets hreuse := by
    subst hreuse
    exact h.length_queue_le htree hcanonical habsolute
  chains := by
    obtain ⟨visits, hdescended⟩ := h.exists_descended hcanonical habsolute
    exact ⟨visits, hdescended, fun visit hvisit =>
      hdescended.length_chain_le htree (h.coherent hcanonical habsolute) hvisit⟩

end Tree

/-! ### The end -/

/-- The traversal from a start ends after so many steps, and not later. -/
structure Ends (workshop : Workshop) (reuse : Reuse) (start : Traversal)
    (outcome : Except Failure (List Asset)) (count : Nat) : Prop where
  settles : ∃ last reads, workshop.Takes reuse count start last ∧
    workshop.Settles reuse last outcome reads
  longest : ∀ (other : Nat) (traversal : Traversal),
    workshop.Takes reuse other start traversal → other ≤ count

/-- **Every traversal of a tree of files ends.** A graph is refused because its entry is no path or
cannot be prepared, or it is what the traversal from the entry comes to after finitely many steps;
until then the traversal is confined by the number of files. -/
theorem graph_ends (tree : FileTree) (rules : List Rule) (analyzer : Analyzer) (reuse : Reuse)
    {directory : Path} (hdirectory : directory.isAbsolute) (path : Path) :
    let workshop : Workshop := ⟨.memory tree, rules, analyzer⟩
    let outcome := (workshop.graph reuse directory path).result
    Path.absolute? directory path = none ∧ outcome = .error (.unreadable path .emptyPath) ∨
      ∃ entry, Path.absolute? directory path = some entry ∧
        ((∃ failure, (workshop.prepare entry).result = .error failure ∧
            outcome = .error failure) ∨
          ∃ analysis, (workshop.prepare entry).result = .ok analysis ∧
            (∃ count, workshop.Ends reuse (workshop.opening entry analysis) outcome count) ∧
            ∀ traversal, workshop.Reached reuse entry traversal →
              workshop.Confined reuse entry tree.fileCount traversal) := by
  intro workshop outcome
  cases habsolute : Path.absolute? directory path with
  | none => exact .inl ⟨rfl, (graph_of_absolute?_eq_none habsolute).1⟩
  | some entry =>
    refine .inr ⟨entry, rfl, ?_⟩
    cases hprepare : (workshop.prepare entry).result with
    | error failure => exact .inl ⟨failure, rfl, (graph_of_prepare_eq_error habsolute hprepare).1⟩
    | ok analysis =>
      obtain ⟨hcanonical, hroot⟩ := Path.absolute?_spec hdirectory habsolute
      obtain ⟨last, hreached, hsettles⟩ := exists_settles_graph reuse hdirectory habsolute hprepare
      obtain ⟨analysis', hprepare', hrun⟩ := hreached.exists_run
      obtain rfl : analysis = analysis' := Except.ok.inj (hprepare.symm.trans hprepare')
      obtain ⟨count, htakes⟩ := exists_takes_of_run hrun
      refine .inr ⟨analysis, rfl, ⟨count, ⟨last, _, htakes, hsettles⟩, fun _ _ hother =>
        htakes.le_of_settles hsettles hother⟩, fun traversal h => ?_⟩
      exact h.confined rfl hcanonical hroot

theorem graph_ends_pair :
    Path.root.isAbsolute ∧ ∃ entry analysis, Path.absolute? .root (.ofString "a") = some entry ∧
      (pair.prepare entry).result = .ok analysis ∧
      (∃ count, pair.Ends .onChain (pair.opening entry analysis) (.ok pairCopies) count) ∧
      ∀ traversal, pair.Reached .onChain entry traversal →
        pair.Confined .onChain entry 2 traversal := by
  refine ⟨rfl, ?_⟩
  rcases graph_ends (.ofList [(.ofString "/a", "./b"), (.ofString "/b", "./a")]) []
    pair.analyzer .onChain (show Path.root.isAbsolute from rfl) (.ofString "a") with
    ⟨-, hoption⟩ | ⟨entry, hentry, ⟨failure, -, hfailure⟩ | ⟨analysis, hanalysis, hends, hbound⟩⟩
  · cases hoption
  · cases hfailure
  · exact ⟨entry, analysis, hentry, hanalysis, hends, hbound⟩

end Workshop

end ModuleBundler
