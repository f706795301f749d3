import ModuleBundler.Proofs.Graph.Run

/-!
# The graph depends on the files that are asked for

Which files a build asks for depends on what it has read before. A task is *local* if it is the same
on every other storage that answers the same for the files that it asks for on the first one; all
other files make no difference, and neither does how many there are.

The number of levels of a graph is bounded by the size of the storage, which is no answer to a
question for a file. The bound is never met, so a larger one gives the same graph, and two storages
can be given a common bound.

## Main definitions

* `Attempt.Local` — tasks that are the same where the files that they ask for are the same.
* `Workshop.graphWithin` — the graph with a bound on its levels.

## Main results

* `Attempt.Local.bind` — local tasks in sequence.
* `Workshop.graphWithin_eq_graph` — a larger bound gives the same graph.
* `Workshop.local_graph` — graphs are local.
-/

namespace ModuleBundler

/-! ### Local tasks -/

namespace Attempt

variable {α β : Type}

/-- Attempts that go on in the same way behind a success are the same. -/
theorem bind_congr_of_ok {attempt : Attempt α} {next next' : α → Attempt β}
    (h : ∀ a, attempt.result = .ok a → next a = next' a) :
    attempt >>= next = attempt >>= next' := by
  have hcont : ExceptT.bindCont next attempt.result = ExceptT.bindCont next' attempt.result := by
    cases hresult : attempt.result with
    | error failure => rfl
    | ok a => exact h a hresult
  change Traced.bind attempt.run (ExceptT.bindCont next) =
    Traced.bind attempt.run (ExceptT.bindCont next')
  exact congrArg (fun second : Traced (Except Failure β) =>
    Traced.mk (attempt.run.journal ++ second.journal) second.value) hcont

/-- What comes first in a sequence is asked for by the sequence. -/
theorem reads_subset_bind (attempt : Attempt α) (next : α → Attempt β) :
    attempt.reads ⊆ (attempt >>= next).reads := by
  intro path hpath
  cases hresult : attempt.result with
  | error failure => rwa [reads_bind_of_error hresult]
  | ok a =>
    rw [reads_bind_of_ok hresult]
    exact List.mem_append_left _ hpath

/-- The task is the same on every storage that answers the same for the files that it asks for. -/
def Local (task : Storage → Attempt α) : Prop :=
  ∀ ⦃first second : Storage⦄,
    (∀ path ∈ (task first).reads, second.read path = first.read path) → task second = task first

namespace Local

/-- A task that uses no storage is local. -/
theorem const (attempt : Attempt α) : Local fun _ => attempt :=
  fun _ _ _ => rfl

/-- What comes second is asked for files on a storage that has answered the same before, so both
storages are at the same place. -/
theorem bind {task : Storage → Attempt α} {next : Storage → α → Attempt β} (h : Local task)
    (hnext : ∀ a, Local (next · a)) : Local fun storage => task storage >>= next storage := by
  intro first second hagree
  have htask : task second = task first :=
    h fun path hpath => hagree path (reads_subset_bind _ _ hpath)
  simp only [htask]
  refine bind_congr_of_ok fun a ha => hnext a fun path hpath => hagree path ?_
  rw [reads_bind_of_ok ha]
  exact List.mem_append_right _ hpath

theorem adapt {task : Storage → Attempt α} (h : Local task) (f : Failure → Failure) :
    Local fun storage => (ExceptT.adapt f (task storage) : Attempt α) := by
  intro first second hagree
  simp only [reads_adapt] at hagree
  simp only [h hagree]

/-- To ask for a file is local. -/
theorem read (failure : StorageFailure → Failure) (path : Path) :
    Local fun storage => ofResult failure (storage.read path) := by
  intro first second hagree
  have hpath : path ∈ (ofResult failure (first.read path)).reads := by
    rw [reads_ofResult, Storage.reads_read]
    exact List.mem_singleton_self path
  simp only [hagree path hpath]

end Local

end Attempt

namespace Workshop

open Attempt

variable {reuse : Reuse}

/-- A workshop that uses another storage. -/
def withStorage (workshop : Workshop) (storage : Storage) : Workshop :=
  { workshop with storage }

/-! ### Following specifiers -/

section

variable (workshop : Workshop) (reuse)

theorem local_prepare (path : Path) :
    Local fun storage => (workshop.withStorage storage).prepare path :=
  .bind (.read _ path) fun source => .bind (.const (Rule.transform workshop.rules path source))
    fun text => .const (ofResult (.malformed path) (workshop.analyzer path text))

theorem local_build (numbering : Numbering) (path : Path) :
    Local fun storage => (workshop.withStorage storage).build numbering path :=
  .bind (workshop.local_prepare path) fun _ => .const _

theorem local_follow (visit : Visit) (progress : Progress) (specifier : String) :
    Local fun storage => (workshop.withStorage storage).follow reuse visit progress specifier := by
  refine .bind (.const _) fun _ => ?_
  cases reuse.find? progress visit (visit.asset.path.resolve specifier) with
  | some id => exact .const _
  | none => exact .bind ((workshop.local_build _ _).adapt _) fun _ => .const _

theorem local_followAll (visit : Visit) (specifiers : List String) (mapping : Mapping)
    (progress : Progress) : Local fun storage =>
      (workshop.withStorage storage).followAll reuse visit specifiers mapping progress := by
  induction specifiers generalizing mapping progress with
  | nil => exact .const _
  | cons specifier specifiers ih =>
    exact .bind (workshop.local_follow reuse visit progress specifier) fun _ =>
      .bind (ih _ _) fun _ => .const _

theorem local_level (visits : List Visit) (progress : Progress) :
    Local fun storage => (workshop.withStorage storage).level reuse visits progress := by
  induction visits generalizing progress with
  | nil => exact .const _
  | cons visit visits ih =>
    exact .bind (workshop.local_followAll reuse visit _ _ progress) fun _ =>
      .bind (ih _) fun _ => .const _

/-- With the same bound, the levels are followed alike. -/
theorem local_levels (fuel : Nat) (visits : List Visit) (progress : Progress) :
    Local fun storage => (workshop.withStorage storage).levels reuse fuel visits progress := by
  induction fuel generalizing visits progress with
  | zero => cases visits <;> exact .const _
  | succ fuel ih =>
    cases visits with
    | nil => exact .const _
    | cons visit visits =>
      exact .bind (workshop.local_level reuse _ progress) fun _ => .bind (ih _ _) fun _ => .const _

end

/-! ### The bound on levels -/

variable {workshop : Workshop} {entry : Path}

/-- Where no chain is longer than a bound, levels beyond that bound make no difference. -/
theorem levels_eq_of_le {bound fuel more : Nat} {visits : List Visit} {progress : Progress}
    {finished : List Asset} {reads : List Path}
    (hbound : ∀ traversal, Relation.ReflTransGen (workshop.Step reuse)
      ⟨finished, visits, 0, progress, reads⟩ traversal →
        ∀ visit ∈ traversal.pending, visit.chain.length ≤ bound)
    (hfuel : ∀ visit ∈ visits, bound < visit.chain.length + fuel) (hle : fuel ≤ more) :
    workshop.levels reuse more visits progress = workshop.levels reuse fuel visits progress := by
  induction fuel generalizing visits progress finished reads more with
  | zero =>
    cases visits with
    | nil => simp only [levels]
    | cons visit visits =>
      -- the bound would be met by a chain that is longer than it
      have hmeets := hbound _ .refl visit List.mem_cons_self
      have hbeyond := hfuel visit List.mem_cons_self
      omega
  | succ fuel ih =>
    obtain ⟨more, rfl⟩ : ∃ n, more = n + 1 := ⟨more - 1, by omega⟩
    cases visits with
    | nil => simp only [levels]
    | cons visit visits =>
      simp only [levels]
      refine bind_congr_of_ok fun outcome hlevel => ?_
      obtain ⟨assets, next, after⟩ := outcome
      have hrun : Relation.ReflTransGen (workshop.Step reuse)
          ⟨finished, (visit :: visits) ++ [], 0, progress, reads⟩
          ⟨finished ++ assets, [] ++ next, 0, after, _⟩ := run_of_level hlevel
      rw [List.append_nil, List.nil_append] at hrun
      have hnext : ∀ child ∈ next, bound < child.chain.length + fuel := by
        intro child hchild
        obtain ⟨importer, himporter, hlength⟩ := length_chain_of_level hlevel child hchild
        have := hfuel importer himporter
        omega
      have hlevels : workshop.levels reuse more next after =
          workshop.levels reuse fuel next after :=
        ih (fun traversal hmore => hbound traversal (hrun.trans hmore)) hnext (by omega)
      simp only [hlevels]

/-- The graph of an entry, of which at most so many levels are followed. -/
def graphWithin (workshop : Workshop) (reuse : Reuse) (fuel : Nat) (directory path : Path) :
    Attempt (List Asset) := do
  match Path.absolute? directory path with
  | none => throw (.unreadable path .emptyPath)
  | some entry =>
    Attempt.log .info .graph s!"Building dependency graph from {entry}"
    let (asset, numbering) ← workshop.build .start entry
    let progress := Progress.start.add numbering asset
    let assets ← workshop.levels reuse fuel [visitOf [] asset] progress
    Attempt.log .info .graph s!"Dependency graph complete: {assets.length} assets"
    return assets

/-- A bound that is larger than that of the graph is not met either. -/
theorem graphWithin_eq_graph {fuel : Nat} {directory path : Path}
    (hdirectory : directory.isAbsolute) (hfuel : workshop.storage.size + 1 ≤ fuel) :
    workshop.graphWithin reuse fuel directory path = workshop.graph reuse directory path := by
  unfold graphWithin graph
  cases habsolute : Path.absolute? directory path with
  | none => rfl
  | some entry =>
    obtain ⟨hcanonical, hroot⟩ := Path.absolute?_spec hdirectory habsolute
    refine bind_congr_of_ok fun _ _ => bind_congr_of_ok fun built hbuilt => ?_
    rw [result_build] at hbuilt
    cases hprepare : (workshop.prepare entry).result with
    | error failure =>
      rw [hprepare] at hbuilt
      cases hbuilt
    | ok analysis =>
      rw [hprepare] at hbuilt
      obtain rfl : (stamp .start entry analysis, Numbering.start.next.2) = built :=
        Except.ok.inj hbuilt
      have hopening : workshop.Reached reuse entry (workshop.opening entry analysis) :=
        .opening hprepare
      have hbound : ∀ traversal, Relation.ReflTransGen (workshop.Step reuse)
          (workshop.opening entry analysis) traversal →
            ∀ visit ∈ traversal.pending, visit.chain.length ≤ workshop.storage.size :=
        fun traversal hrun visit hvisit =>
          ((hopening.run hrun).coherent hcanonical hroot).length_chain_le hvisit
      have hlevels := levels_eq_of_le hbound (fun visit _ => by omega) hfuel
      dsimp only
      rw [hlevels]

theorem local_graphWithin (workshop : Workshop) (reuse : Reuse) (fuel : Nat)
    (directory path : Path) :
    Local fun storage => (workshop.withStorage storage).graphWithin reuse fuel directory path := by
  unfold graphWithin
  cases Path.absolute? directory path with
  | none => exact .const _
  | some entry =>
    exact .bind (.const _) fun _ => .bind (workshop.local_build _ entry) fun _ =>
      .bind (workshop.local_levels reuse fuel _ _) fun _ => .const _

/-- **Graphs are local**: a graph is the same on every storage that answers the same for the files
that it asks for. -/
theorem local_graph (workshop : Workshop) (reuse : Reuse) {directory : Path}
    (hdirectory : directory.isAbsolute) (path : Path) :
    Local fun storage => (workshop.withStorage storage).graph reuse directory path := by
  intro first second hagree
  -- A bound that is large enough for both storages.
  let fuel := max first.size second.size + 1
  have hfirst : (workshop.withStorage first).graphWithin reuse fuel directory path =
      (workshop.withStorage first).graph reuse directory path :=
    graphWithin_eq_graph hdirectory (Nat.succ_le_succ (Nat.le_max_left _ _))
  have hsecond : (workshop.withStorage second).graphWithin reuse fuel directory path =
      (workshop.withStorage second).graph reuse directory path :=
    graphWithin_eq_graph hdirectory (Nat.succ_le_succ (Nat.le_max_right _ _))
  simp only [← hfirst] at hagree
  simp only [← hfirst, ← hsecond]
  exact workshop.local_graphWithin reuse fuel directory path hagree

end Workshop

end ModuleBundler
