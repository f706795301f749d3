import Mathlib.Logic.Relation
import ModuleBundler.ImportGraph
import ModuleBundler.Proofs.Asset

/-!
# The traversal of a graph, step by step

The assets that have been built form a queue. The specifiers of its first unfinished asset are
followed one after the other; each of them refers to an asset that is there, or one more asset is
built and put at the end of the queue. When all of them have been followed the asset is finished.
The traversal ends when no asset is left to finish, or when a file that is needed cannot be
prepared.

Every step is determined by the traversal before it, so there is one end at most.

## Main definitions

* `Traversal`, `Traversal.queue`, `Traversal.files` — how far a traversal has come.
* `Workshop.Step` — one step of a traversal.
* `Workshop.Reached` — the traversals that are reached from an entry.
* `Workshop.Settles` — traversals at their end, with what they come to.

## Main results

* `Workshop.Step.rightUnique` — a traversal has one step at most.
* `Workshop.Settles.eq_of_reached` — traversals from one entry have one end.
-/

namespace ModuleBundler

/-- How far a traversal has come: the assets whose specifiers have all been followed, the others in
the order in which they were built, how many specifiers of the first of these have been followed,
and the files that were asked for. -/
structure Traversal where
  finished : List Asset
  pending : List Visit
  followed : Nat
  progress : Progress
  reads : List Path

/-- All assets that have been built, in the order in which they were. -/
def Traversal.queue (traversal : Traversal) : List Asset :=
  traversal.finished ++ traversal.pending.map Visit.asset

/-- The files of the assets that have been built, in this order. -/
def Traversal.files (traversal : Traversal) : List Path :=
  traversal.queue.map Asset.path

/-- The visit with an asset for one more specifier. -/
def Visit.record (visit : Visit) (specifier : String) (id : AssetId) : Visit :=
  { visit with asset.mapping := visit.asset.mapping.insert specifier id }

namespace Workshop

/-- The traversal of which nothing but the entry has been built. -/
def opening (workshop : Workshop) (entry : Path) (analysis : Linking.Analysis) : Traversal :=
  let asset := stamp .start entry analysis
  ⟨[], [visitOf [] asset], 0, Progress.start.add (Numbering.start.next).2 asset,
    (workshop.prepare entry).reads⟩

/-- One step of a traversal. -/
inductive Step (workshop : Workshop) (reuse : Reuse) : Traversal → Traversal → Prop
  /-- A specifier refers to an asset that is there. -/
  | reuse {finished : List Asset} {visit : Visit} {rest : List Visit} {followed : Nat}
      {progress : Progress} {reads : List Path} {specifier : String} {id : AssetId}
      (hspecifier : visit.asset.specifiers[followed]? = some specifier)
      (hfind : reuse.find? progress visit (visit.asset.path.resolve specifier) = some id) :
      Step workshop reuse ⟨finished, visit :: rest, followed, progress, reads⟩
        ⟨finished, visit.record specifier id :: rest, followed + 1, progress, reads⟩
  /-- The asset that a specifier refers to is built. -/
  | build {finished : List Asset} {visit : Visit} {rest : List Visit} {followed : Nat}
      {progress : Progress} {reads : List Path} {specifier : String} {analysis : Linking.Analysis}
      {asset : Asset}
      (hspecifier : visit.asset.specifiers[followed]? = some specifier)
      (hfind : reuse.find? progress visit (visit.asset.path.resolve specifier) = none)
      (hprepare : (workshop.prepare (visit.asset.path.resolve specifier)).result = .ok analysis)
      (hasset : asset = stamp progress.numbering (visit.asset.path.resolve specifier) analysis) :
      Step workshop reuse ⟨finished, visit :: rest, followed, progress, reads⟩
        ⟨finished, visit.record specifier asset.id :: (rest ++ [visitOf visit.chain asset]),
          followed + 1, progress.add progress.numbering.next.2 asset,
          reads ++ (workshop.prepare (visit.asset.path.resolve specifier)).reads⟩
  /-- All specifiers of an asset have been followed. -/
  | finish {finished : List Asset} {visit : Visit} {rest : List Visit} {followed : Nat}
      {progress : Progress} {reads : List Path}
      (hdone : visit.asset.specifiers[followed]? = none) :
      Step workshop reuse ⟨finished, visit :: rest, followed, progress, reads⟩
        ⟨finished ++ [visit.asset], rest, 0, progress, reads⟩

/-- The traversals that are reached from an entry. -/
inductive Reached (workshop : Workshop) (reuse : Reuse) (entry : Path) : Traversal → Prop
  | opening {analysis : Linking.Analysis} (h : (workshop.prepare entry).result = .ok analysis) :
      Reached workshop reuse entry (workshop.opening entry analysis)
  | step {before after : Traversal} (h : Reached workshop reuse entry before)
      (hstep : workshop.Step reuse before after) : Reached workshop reuse entry after

/-- Traversals at their end, with what they come to and the files that were asked for. -/
inductive Settles (workshop : Workshop) (reuse : Reuse) :
    Traversal → Except Failure (List Asset) → List Path → Prop
  /-- All assets are finished. -/
  | done {finished : List Asset} {followed : Nat} {progress : Progress} {reads : List Path} :
      Settles workshop reuse ⟨finished, [], followed, progress, reads⟩ (.ok finished) reads
  /-- A specifier refers to a file that cannot be prepared. -/
  | stuck {finished : List Asset} {visit : Visit} {rest : List Visit} {followed : Nat}
      {progress : Progress} {reads : List Path} {specifier : String} {failure : Failure}
      (hspecifier : visit.asset.specifiers[followed]? = some specifier)
      (hfind : reuse.find? progress visit (visit.asset.path.resolve specifier) = none)
      (hprepare : (workshop.prepare (visit.asset.path.resolve specifier)).result =
        .error failure) :
      Settles workshop reuse ⟨finished, visit :: rest, followed, progress, reads⟩
        (.error (.importing specifier visit.asset.path failure))
        (reads ++ (workshop.prepare (visit.asset.path.resolve specifier)).reads)

variable {workshop : Workshop} {reuse : Reuse} {entry : Path}

/-! ### One end at most -/

/-- A traversal has one step at most. -/
theorem Step.rightUnique : Relator.RightUnique (workshop.Step reuse) := by
  rintro before after other hafter hother
  cases hafter with
  | reuse hspecifier hfind =>
    cases hother with
    | reuse hspecifier' hfind' => simp_all
    | build hspecifier' hfind' => simp_all
    | finish hdone => simp_all
  | build hspecifier hfind hprepare hasset =>
    cases hother with
    | reuse hspecifier' hfind' => simp_all
    | build hspecifier' hfind' hprepare' hasset' => simp_all
    | finish hdone => simp_all
  | finish hdone =>
    cases hother with
    | reuse hspecifier => simp_all
    | build hspecifier => simp_all
    | finish => rfl

/-- At its end a traversal has no step. -/
theorem Settles.not_step {traversal after : Traversal} {outcome : Except Failure (List Asset)}
    {reads : List Path} (h : workshop.Settles reuse traversal outcome reads) :
    ¬ workshop.Step reuse traversal after := by
  intro hstep
  cases h with
  | done => cases hstep
  | stuck hspecifier hfind hprepare => cases hstep <;> simp_all

/-- A traversal at its end comes to one thing. -/
theorem Settles.unique {traversal : Traversal} {outcome outcome' : Except Failure (List Asset)}
    {reads reads' : List Path} (h : workshop.Settles reuse traversal outcome reads)
    (h' : workshop.Settles reuse traversal outcome' reads') :
    outcome = outcome' ∧ reads = reads' := by
  cases h with
  | done => cases h' with
    | done => exact ⟨rfl, rfl⟩
  | stuck hspecifier hfind hprepare => cases h' with
    | stuck hspecifier' hfind' hprepare' => simp_all

theorem Reached.exists_run {traversal : Traversal} (h : workshop.Reached reuse entry traversal) :
    ∃ analysis, (workshop.prepare entry).result = .ok analysis ∧
      Relation.ReflTransGen (workshop.Step reuse) (workshop.opening entry analysis) traversal := by
  induction h with
  | opening h => exact ⟨_, h, .refl⟩
  | step _ hstep ih =>
    obtain ⟨analysis, hprepare, hrun⟩ := ih
    exact ⟨analysis, hprepare, hrun.tail hstep⟩

theorem Reached.run {before after : Traversal} (h : workshop.Reached reuse entry before)
    (hrun : Relation.ReflTransGen (workshop.Step reuse) before after) :
    workshop.Reached reuse entry after := by
  induction hrun with
  | refl => exact h
  | tail _ hstep ih => exact .step ih hstep

/-- Traversals from one entry have one end. -/
theorem Settles.eq_of_reached {traversal traversal' : Traversal}
    {outcome outcome' : Except Failure (List Asset)} {reads reads' : List Path}
    (hreached : workshop.Reached reuse entry traversal)
    (hreached' : workshop.Reached reuse entry traversal')
    (h : workshop.Settles reuse traversal outcome reads)
    (h' : workshop.Settles reuse traversal' outcome' reads') : traversal = traversal' := by
  obtain ⟨analysis, hprepare, hrun⟩ := hreached.exists_run
  obtain ⟨analysis', hprepare', hrun'⟩ := hreached'.exists_run
  obtain rfl : analysis = analysis' := Except.ok.inj (hprepare.symm.trans hprepare')
  rcases Relation.ReflTransGen.total_of_right_unique Step.rightUnique hrun hrun' with hmore | hmore
  · rcases hmore.cases_head with heq | ⟨next, hstep, -⟩
    · exact heq
    · exact absurd hstep h.not_step
  · rcases hmore.cases_head with heq | ⟨next, hstep, -⟩
    · exact heq.symm
    · exact absurd hstep h'.not_step

/-- Traversals from one entry come to one thing. -/
theorem Settles.unique_of_reached {traversal traversal' : Traversal}
    {outcome outcome' : Except Failure (List Asset)} {reads reads' : List Path}
    (hreached : workshop.Reached reuse entry traversal)
    (hreached' : workshop.Reached reuse entry traversal')
    (h : workshop.Settles reuse traversal outcome reads)
    (h' : workshop.Settles reuse traversal' outcome' reads') :
    outcome = outcome' ∧ reads = reads' := by
  obtain rfl := h.eq_of_reached hreached hreached' h'
  exact h.unique h'

end Workshop

end ModuleBundler
