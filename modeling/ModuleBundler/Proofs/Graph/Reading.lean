import ModuleBundler.Proofs.Graph.BreadthFirst
import ModuleBundler.Proofs.Journal

/-!
# The files of a graph

A graph is built without writing a file, and what it asks for are the files of its assets, in the
order of their numbers.

## Main definitions

* `Attempt.WritesNothing` — attempts that write no file.
* `Analyzer.Quiet` — analyzers that leave files alone.

## Main results

* `Workshop.writesNothing_graph` — a graph is built without writing.
* `Workshop.reads_graph` — what it asks for.
-/

namespace ModuleBundler

/-! ### Attempts that write nothing -/

namespace Attempt

variable {α β ε : Type}

/-- The attempt writes no file. -/
def WritesNothing (attempt : Attempt α) : Prop :=
  attempt.journal.writes = []

/-- The files of an attempt that writes none are those that it asks for. -/
theorem WritesNothing.files {attempt : Attempt α} (h : attempt.WritesNothing) :
    attempt.journal.files = attempt.reads.map .read :=
  Journal.files_eq_map_reads h

namespace WritesNothing

theorem pure (a : α) : WritesNothing (Pure.pure a : Attempt α) := rfl

theorem log (level : Level) (topic : Topic) (message : String) :
    WritesNothing (Attempt.log level topic message) := rfl

theorem ofResult (failure : ε → Failure) {traced : Traced (Except ε α)}
    (h : traced.journal.writes = []) : WritesNothing (Attempt.ofResult failure traced) := by
  change Journal.writes (traced.journal ++ []) = []
  rwa [List.append_nil]

theorem adapt (f : Failure → Failure) {attempt : Attempt α} (h : attempt.WritesNothing) :
    WritesNothing (ExceptT.adapt f attempt) := by
  change Journal.writes (attempt.run.journal ++ []) = []
  rwa [List.append_nil]

theorem bind {attempt : Attempt α} {next : α → Attempt β} (h : attempt.WritesNothing)
    (hnext : ∀ a, (next a).WritesNothing) : (attempt >>= next).WritesNothing := by
  change Journal.writes (attempt.run.journal ++ (ExceptT.bindCont next attempt.result).journal) = []
  have hcont : Journal.writes (ExceptT.bindCont next attempt.result).journal = [] := by
    cases attempt.result with
    | ok a => exact hnext a
    | error failure => rfl
  rw [Journal.writes_append, hcont, List.append_nil]
  exact h

theorem foldlM {γ : Type} {step : β → γ → Attempt β} (h : ∀ b c, (step b c).WritesNothing)
    (cs : List γ) (b : β) : (cs.foldlM step b).WritesNothing := by
  induction cs generalizing b with
  | nil => exact .pure b
  | cons c cs ih =>
    rw [List.foldlM_cons]
    exact .bind (h b c) ih

end WritesNothing

end Attempt

/-- An analyzer that leaves files alone. -/
def Analyzer.Quiet (analyzer : Analyzer) : Prop :=
  ∀ path source, (analyzer path source).journal.files = []

theorem Analyzer.Quiet.silent {analyzer : Analyzer} (h : analyzer.Quiet) : analyzer.Silent :=
  fun path source => by rw [← Journal.reads_files, h]; rfl

theorem Analyzer.Quiet.writes {analyzer : Analyzer} (h : analyzer.Quiet) (path : Path)
    (source : String) : (analyzer path source).journal.writes = [] := by
  rw [← Journal.writes_files, h]
  rfl

/-- The analyzer for modules leaves files alone. -/
theorem Analyzer.quiet_modules : Analyzer.modules.Quiet := by
  intro path source
  unfold Analyzer.modules
  split <;> rfl

theorem Storage.writes_read (storage : Storage) (path : Path) :
    (storage.read path).journal.writes = [] := by
  cases storage <;> rfl

theorem Rule.writesNothing_transform (rules : List Rule) (path : Path) (source : String) :
    (transform rules path source).WritesNothing := by
  refine .foldlM (fun text rule => .foldlM (fun text loader => ?_) _ text) _ source
  unfold runLoader
  refine .bind (.log _ _ _) fun _ => ?_
  split <;> rfl

/-! ### Graphs -/

namespace Workshop

variable {workshop : Workshop}

section

variable (hquiet : workshop.analyzer.Quiet)
include hquiet

theorem writesNothing_build (numbering : Numbering) (path : Path) :
    (workshop.build numbering path).WritesNothing := by
  refine .bind (.bind (.ofResult _ (workshop.storage.writes_read path)) fun source =>
    .bind (Rule.writesNothing_transform ..) fun text => .ofResult _ (hquiet.writes path text))
      fun analysis => .bind (.log _ _ _) fun _ => .pure _

theorem writesNothing_follow (reuse : Reuse) (visit : Visit) (progress : Progress)
    (specifier : String) : (workshop.follow reuse visit progress specifier).WritesNothing := by
  unfold follow
  refine .bind (.log _ _ _) fun _ => ?_
  split
  · exact .bind (.log _ _ _) fun _ => .pure _
  · exact .bind (.adapt _ (writesNothing_build hquiet _ _)) fun _ => .pure _

theorem writesNothing_followAll (reuse : Reuse) (visit : Visit) (specifiers : List String)
    (mapping : Mapping) (progress : Progress) :
    (workshop.followAll reuse visit specifiers mapping progress).WritesNothing := by
  induction specifiers generalizing mapping progress with
  | nil => exact .pure _
  | cons specifier specifiers ih =>
    exact .bind (writesNothing_follow hquiet _ _ _ _) fun _ => .bind (ih _ _) fun _ => .pure _

theorem writesNothing_level (reuse : Reuse) (visits : List Visit) (progress : Progress) :
    (workshop.level reuse visits progress).WritesNothing := by
  induction visits generalizing progress with
  | nil => exact .pure _
  | cons visit visits ih =>
    exact .bind (writesNothing_followAll hquiet _ _ _ _ _) fun _ => .bind (ih _) fun _ => .pure _

theorem writesNothing_levels (reuse : Reuse) (fuel : Nat) (visits : List Visit)
    (progress : Progress) : (workshop.levels reuse fuel visits progress).WritesNothing := by
  induction fuel generalizing visits progress with
  | zero => cases visits <;> exact .pure _
  | succ fuel ih =>
    cases visits with
    | nil => exact .pure _
    | cons visit visits =>
      exact .bind (writesNothing_level hquiet _ _ _) fun _ => .bind (ih _ _) fun _ => .pure _

/-- A graph is built without writing. -/
theorem writesNothing_graph (reuse : Reuse) (directory path : Path) :
    (workshop.graph reuse directory path).WritesNothing := by
  unfold graph
  split
  · rfl
  · exact .bind (.log _ _ _) fun _ => .bind (writesNothing_build hquiet _ _) fun _ =>
      .bind (writesNothing_levels hquiet _ _ _ _) fun _ => .bind (.log _ _ _) fun _ => .pure _

/-- What a graph asks for are the files of its assets, in the order of their numbers. -/
theorem reads_graph {reuse : Reuse} {directory path : Path} {assets : List Asset}
    (hdirectory : directory.isAbsolute)
    (h : (workshop.graph reuse directory path).result = .ok assets) :
    (workshop.graph reuse directory path).reads = assets.map Asset.path := by
  obtain ⟨entry, -, traversal, hreached, -, hpending, rfl, hreads⟩ :=
    exists_reached_of_graph_eq_ok hdirectory h
  rw [← hreads, hreached.reads_eq_files hquiet.silent]
  exact Traversal.files_of_pending_eq_nil hpending

end

end Workshop

end ModuleBundler
