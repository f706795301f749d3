import ModuleBundler.Proofs.Build
import ModuleBundler.Proofs.Graph.Locality
import ModuleBundler.Proofs.Storage.FileTree

/-!
# A build depends on the files that it asks for

Two trees of files that agree on whatever a build on the first one asks for are the same to the
build: it asks both for the same files in the same order, comes to the same, and writes the same to
the same path. What it asks for is found out on the way, so both builds are kept at the same place
from step to step.

A tree changes when the bundle is written. Both trees change in the same way then, so they still
agree wherever they did.

## Main definitions

* `BuildM.SameRun` — two runs on trees of files do the same and come to the same.
* `BuildM.Local` — programs whose run is the same where the files that they ask for are the same.

## Main results

* `BuildM.Local.bind` — local programs in sequence.
* `Bundler.local_run` — every build is local.
* `Bundler.run_eq_of_agree` — builds on trees that agree on what is asked for.
-/

namespace ModuleBundler

open Attempt

variable {σ α β : Type}

/-! ### Trees that agree -/

namespace FileTree

variable {first second : FileTree} {path : Path}

theorem read_eq_of_get?_eq (h : second.get? path = first.get? path) :
    (Storage.memory second).read path = (Storage.memory first).read path := by
  have hread : second.read path = first.read path := by rw [read, read, h]
  exact congrArg (Traced.mk [.read path]) hread

/-- A file that is put into both trees leaves them in agreement. -/
theorem get?_insert_eq_of_get?_eq (file : Path) (text : String)
    (h : second.get? path = first.get? path) :
    (second.insert file text).get? path = (first.insert file text).get? path := by
  rw [get?_insert, get?_insert, h]

end FileTree

/-! ### Local programs -/

namespace BuildM

/-- Two runs, of which one starts on the first tree and the other on the second, do the same, come
to the same and leave the same session. Where the trees agreed before, they agree afterwards. -/
structure SameRun (first second : FileTree) (run run' : Traced (Except Failure α × World σ)) :
    Prop where
  journal : run'.journal = run.journal
  outcome : run'.value.1 = run.value.1
  session : run'.value.2.session = run.value.2.session
  trees : ∃ after after', run.value.2.storage = .memory after ∧
    run'.value.2.storage = .memory after' ∧
      ∀ path, second.get? path = first.get? path → after'.get? path = after.get? path

/-- The same runs, taken apart. -/
theorem SameRun.exists_eq {first second : FileTree} {run run' : Traced (Except Failure α × World σ)}
    (h : SameRun first second run run') : ∃ journal result session after after',
      run = ⟨journal, result, ⟨session, .memory after⟩⟩ ∧
        run' = ⟨journal, result, ⟨session, .memory after'⟩⟩ ∧
          ∀ path, second.get? path = first.get? path → after'.get? path = after.get? path := by
  obtain ⟨journal, result, session, storage⟩ := run
  obtain ⟨journal', result', session', storage'⟩ := run'
  obtain ⟨hjournal, houtcome, hsession, after, after', hstorage, hstorage', hkeeps⟩ := h
  dsimp only at hjournal houtcome hsession hstorage hstorage'
  subst hjournal houtcome hsession hstorage hstorage'
  exact ⟨_, _, _, after, after', rfl, rfl, hkeeps⟩

/-- The run of the program is the same on every tree that agrees on the files that it asks for. -/
def Local (program : BuildM σ α) : Prop :=
  ∀ ⦃session : Session σ⦄ ⦃first second : FileTree⦄,
    (∀ path ∈ (program.run ⟨session, .memory first⟩).journal.reads,
      second.get? path = first.get? path) →
    SameRun first second (program.run ⟨session, .memory first⟩)
      (program.run ⟨session, .memory second⟩)

namespace Local

theorem bind {program : BuildM σ α} {next : α → BuildM σ β} (h : Local program)
    (hnext : ∀ a, Local (next a)) : Local (program >>= next) := by
  intro session first second hagree
  have hprogram : ∀ path ∈ (program.run ⟨session, .memory first⟩).journal.reads,
      second.get? path = first.get? path := by
    intro path hpath
    refine hagree path ?_
    rw [Program.run_bind]
    change path ∈ Journal.reads (_ ++ _)
    rw [Attempt.journal_reads_append]
    exact List.mem_append_left _ hpath
  obtain ⟨journal, result, between, after, after', hfirst, hsecond, hkeeps⟩ :=
    (h hprogram).exists_eq
  cases result with
  | error failure =>
    rw [Program.run_bind_of_error hfirst, Program.run_bind_of_error hsecond]
    exact ⟨rfl, rfl, rfl, after, after', rfl, rfl, hkeeps⟩
  | ok a =>
    rw [Program.run_bind_of_ok hfirst] at hagree
    have hrest : ∀ path ∈ ((next a).run ⟨between, .memory after⟩).journal.reads,
        after'.get? path = after.get? path := by
      intro path hpath
      refine hkeeps path (hagree path ?_)
      rw [Attempt.journal_reads_append]
      exact List.mem_append_right _ hpath
    obtain ⟨journal', result, session', last, last', hfirst', hsecond', hkeeps'⟩ :=
      (hnext a hrest).exists_eq
    rw [Program.run_bind_eq hfirst hfirst', Program.run_bind_eq hsecond hsecond']
    exact ⟨rfl, rfl, rfl, last, last', rfl, rfl, fun path hpath => hkeeps' path (hkeeps path hpath)⟩

/-- What leaves the tree alone and does not look at it is local. -/
theorem of_blind {program : BuildM σ α} (h : ∀ session, ∃ journal result after, ∀ storage,
    program.run ⟨session, storage⟩ = ⟨journal, result, ⟨after, storage⟩⟩) : Local program := by
  intro session first second _
  obtain ⟨journal, result, after, hrun⟩ := h session
  rw [hrun, hrun]
  exact ⟨rfl, rfl, rfl, first, second, rfl, rfl, fun _ hpath => hpath⟩

theorem pure (a : α) : Local (Pure.pure a : BuildM σ α) :=
  .of_blind fun session => ⟨[], .ok a, session, fun _ => rfl⟩

theorem throw (failure : Failure) : Local (MonadExcept.throw failure : BuildM σ α) :=
  .of_blind fun session => ⟨[], .error failure, session, fun _ => rfl⟩

theorem withHooks (hooks : HookM σ α) : Local (BuildM.withHooks hooks) :=
  .of_blind fun _ => ⟨_, _, _, fun storage => run_withHooks rfl storage⟩

theorem log (level : Level) (topic : Topic) (message : String) :
    Local (BuildM.log level topic message : BuildM σ Unit) :=
  .of_blind fun session => ⟨_, _, session, fun _ => run_log level topic message _⟩

/-- A local task, on the storage of a build. -/
theorem attempt {task : Storage → Attempt α} (h : Attempt.Local task) :
    Local (get >>= fun world => BuildM.attempt (task world.storage) : BuildM σ α) := by
  intro session first second hagree
  have hrun (tree : FileTree) :
      (get >>= fun world => BuildM.attempt (task world.storage) : BuildM σ α).run
          ⟨session, .memory tree⟩ =
        ⟨(task (.memory tree)).journal, (task (.memory tree)).result, ⟨session, .memory tree⟩⟩ :=
    Program.run_bind_eq (Program.run_get _) (run_attempt _ _)
  rw [hrun] at hagree ⊢
  rw [hrun]
  have htask : task (.memory second) = task (.memory first) :=
    h fun path hpath => FileTree.read_eq_of_get?_eq (hagree path hpath)
  rw [htask]
  exact ⟨rfl, rfl, rfl, first, second, rfl, rfl, fun _ hpath => hpath⟩

/-- To write a file asks for none, and it changes all trees alike. -/
theorem write (path : Path) (text : String) : Local (BuildM.write path text : BuildM σ Unit) := by
  intro session first second _
  have hrun (tree : FileTree) : (BuildM.write path text).run ⟨session, .memory tree⟩ =
      ⟨[.write path text], .ok (), ⟨session, .memory (tree.insert path text)⟩⟩ :=
    run_write rfl session
  rw [hrun, hrun]
  exact ⟨rfl, rfl, rfl, _, _, rfl, rfl, fun _ hpath =>
    FileTree.get?_insert_eq_of_get?_eq path text hpath⟩

end Local

/-! ### Emission -/

theorem local_chooseOutput (path : Path) : Local (chooseOutput path : BuildM σ Path) := by
  refine .bind (.withHooks _) fun (context, outcome) => ?_
  cases outcome with
  | error failure => exact .throw _
  | ok _ => exact .pure _

theorem local_emit (renderer : Renderer) (template : String) (output : Path)
    (modules : List RenderedModule) :
    Local (emit renderer template output modules : BuildM σ _) := by
  unfold emit
  cases renderModules renderer template modules with
  | error failure => exact .throw failure
  | ok text =>
    exact .bind (local_chooseOutput output) fun path => .bind (.write path text) fun _ =>
      .bind (.log _ _ _) fun _ => .pure _

end BuildM

/-! ### Builds -/

namespace Bundler

open BuildM

variable {bundler : Bundler σ}

theorem local_readTemplate (options : BuildOptions) : Attempt.Local (readTemplate options) := by
  unfold readTemplate
  cases options.template with
  | none => exact .const _
  | some path => exact .read _ path

/-- The assets and the template are the same where the files are that are asked for. -/
theorem local_collect (hdirectory : bundler.workingDirectory.isAbsolute) :
    Attempt.Local bundler.collect := by
  let workshop : Workshop := ⟨.memory .empty, bundler.options.rules, bundler.analyzer⟩
  exact .bind (workshop.local_graph bundler.options.reuse hdirectory bundler.options.entry) fun _ =>
    .bind (local_readTemplate bundler.options) fun _ => .const _

theorem local_produce (bundler : Bundler σ) (patience : Nat) (assets : List Asset)
    (template : String) : Local (bundler.produce patience assets template) := by
  refine .bind (local_emit ..) fun summary => .bind (.withHooks _) fun settlement => ?_
  cases settlement with
  | pending => exact .pure _
  | settled => exact .bind (.log _ _ _) fun _ => .pure _

/-- Every build is local. -/
theorem local_run (hdirectory : bundler.workingDirectory.isAbsolute) (patience : Nat) :
    Local (bundler.run patience) := by
  have hrun : bundler.run patience = (do
      BuildM.withHooks (Plugin.applyAll bundler.plugins)
      let collected ← get >>= fun world => BuildM.attempt (bundler.collect world.storage)
      bundler.produce patience collected.1 collected.2) := by
    simp only [run_eq_bind, bind_assoc]
  rw [hrun]
  exact .bind (.withHooks _) fun _ => .bind (.attempt (local_collect hdirectory)) fun _ =>
    local_produce ..

/-- **A build depends only on the files that it asks for.** If a second tree agrees with the first
one on every path that the build on the first one asks for, where a file that is missing from one is
missing from the other, then the build on the second one asks for the same paths in the same order,
comes to the same assets and summary or the same failure, and writes the same text to the same path,
if any. All that is logged is the same, and where the trees agreed, they agree afterwards. -/
theorem run_eq_of_agree (bundler : Bundler σ) (hdirectory : bundler.workingDirectory.isAbsolute)
    (patience : Nat) (session : Session σ) (first second : FileTree)
    (hagree : ∀ path ∈ ((bundler.run patience).run ⟨session, .memory first⟩).journal.reads,
      second.get? path = first.get? path) :
    let run := (bundler.run patience).run ⟨session, .memory first⟩
    let run' := (bundler.run patience).run ⟨session, .memory second⟩
    run'.journal.reads = run.journal.reads ∧ run'.journal.writes = run.journal.writes ∧
      run'.value.1 = run.value.1 ∧ SameRun first second run run' := by
  intro run run'
  have hsame : SameRun first second run run' := local_run hdirectory patience hagree
  exact ⟨congrArg Journal.reads hsame.journal, congrArg Journal.writes hsame.journal,
    hsame.outcome, hsame⟩

/-- Two files that import each other. -/
def lonely : FileTree :=
  .ofList [(.ofString "/a", "./b"), (.ofString "/b", "./a")]

/-- The same files among others. -/
def crowded : FileTree :=
  .ofList [(.ofString "/d", "./a"), (.ofString "/b", "./a"), (.ofString "/c", ""),
    (.ofString "/a", "./b")]

theorem reads_run_lonely :
    ((pair.run 1).run ⟨pairWorld.session, .memory lonely⟩).journal.reads =
      [.ofString "/a", .ofString "/b"] :=
  rfl

/-- Files that are not asked for make no difference, not even where the bundle is written. -/
theorem run_eq_of_agree_crowded :
    pair.workingDirectory.isAbsolute ∧
      (∀ path ∈ ((pair.run 1).run ⟨pairWorld.session, .memory lonely⟩).journal.reads,
        crowded.get? path = lonely.get? path) ∧
      ((pair.run 1).run ⟨pairWorld.session, .memory crowded⟩).journal.reads =
        [.ofString "/a", .ofString "/b"] ∧
      ((pair.run 1).run ⟨pairWorld.session, .memory crowded⟩).journal.writes =
        [(.ofString "/c", "./b, ./a")] ∧
      SameRun lonely crowded ((pair.run 1).run ⟨pairWorld.session, .memory lonely⟩)
        ((pair.run 1).run ⟨pairWorld.session, .memory crowded⟩) := by
  have hdirectory : pair.workingDirectory.isAbsolute := rfl
  have hagree : ∀ path ∈ ((pair.run 1).run ⟨pairWorld.session, .memory lonely⟩).journal.reads,
      crowded.get? path = lonely.get? path := by
    rw [reads_run_lonely]
    decide
  obtain ⟨hreads, hwrites, -, hsame⟩ :=
    run_eq_of_agree pair hdirectory 1 pairWorld.session lonely crowded hagree
  exact ⟨hdirectory, hagree, hreads.trans reads_run_lonely, hwrites.trans rfl, hsame⟩

end Bundler

end ModuleBundler
