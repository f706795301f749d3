import ModuleBundler.Asset
import ModuleBundler.Proofs.Attempt

/-!
# Preparing and building one asset

What a file is prepared to is determined by its path: its text is read, the rules transform it, and
the analyzer lists its specifiers. An asset is what the file was prepared to under the next number.

## Main definitions

* `AssetId.nth` — the number that is handed out after so many others.
* `Analyzer.Silent` — analyzers that ask for no file.
* `Workshop.Rejects` — why a file cannot be prepared.

## Main results

* `Workshop.result_prepare_eq_ok` — what a file is prepared to.
* `Workshop.rejects_of_prepare` — why it cannot be.
* `Workshop.reads_prepare` — to prepare a file, it is asked for and no other.
* `Workshop.result_build` — what is built, and when nothing is.
-/

namespace ModuleBundler

/-- The number that is handed out after `n` others. Numbers have 32 bits. -/
def AssetId.nth (n : Nat) : AssetId :=
  ⟨UInt32.ofNat n⟩

theorem AssetId.index_nth {n : Nat} (h : n < UInt32.size) : (AssetId.nth n).index = n :=
  UInt32.toNat_ofNat_of_lt' h

/-- An analyzer that asks for no file. -/
def Analyzer.Silent (analyzer : Analyzer) : Prop :=
  ∀ path source, (analyzer path source).journal.reads = []

/-- The analyzer for modules asks for no file. -/
theorem Analyzer.silent_modules : Analyzer.modules.Silent := by
  intro path source
  unfold Analyzer.modules
  split <;> rfl

namespace Storage

theorem value_read (storage : Storage) (path : Path) :
    (storage.read path).value = storage.content path := by
  cases storage <;> rfl

theorem reads_read (storage : Storage) (path : Path) :
    (storage.read path).journal.reads = [path] := by
  cases storage <;> rfl

end Storage

namespace Rule

theorem reads_runLoader (rule : Rule) (path : Path) (source : String) (loader : Loader) :
    (rule.runLoader path source loader).reads = [] := by
  unfold runLoader
  rw [Attempt.reads_log_bind]
  split <;> rfl

/-- To transform a text, no file is asked for. -/
theorem reads_transform (rules : List Rule) (path : Path) (source : String) :
    (transform rules path source).reads = [] :=
  Attempt.reads_foldlM_eq_nil
    (fun text rule => Attempt.reads_foldlM_eq_nil (rule.reads_runLoader path) _ text) _ source

/-- A text that cannot be transformed is rejected by a loader of a rule for the path. -/
theorem exists_of_result_transform_eq_error {rules : List Rule} {path : Path} {source : String}
    {failure : Failure} (h : (transform rules path source).result = .error failure) :
    ∃ rule ∈ rules, ∃ text cause, ∃ loader : Loader, rule.covers path ∧ loader ∈ rule.loaders ∧
      loader.run text = .error cause ∧ failure = .transform path rule.name loader.name cause := by
  obtain ⟨rule, hrule, before, happly⟩ := Attempt.exists_of_result_foldlM_eq_error h
  obtain ⟨loader, hloader, text, hrun⟩ := Attempt.exists_of_result_foldlM_eq_error happly
  obtain ⟨hmem, hcovers⟩ := List.mem_filter.mp hrule
  rw [runLoader, Attempt.result_log_bind] at hrun
  cases hcause : loader.run text with
  | ok after =>
    rw [hcause] at hrun
    cases hrun
  | error cause =>
    rw [hcause] at hrun
    cases hrun
    exact ⟨rule, hmem, text, cause, loader, hcovers, List.mem_reverse.mp hloader, hcause, rfl⟩

end Rule

namespace Workshop

variable {workshop : Workshop}

/-- A file is prepared by reading it, transforming its text and analyzing what comes out. -/
theorem result_prepare_eq_ok {path : Path} {analysis : Linking.Analysis} :
    (workshop.prepare path).result = .ok analysis ↔
      ∃ source text, workshop.storage.content path = .ok source ∧
        (Rule.transform workshop.rules path source).result = .ok text ∧
        (workshop.analyzer path text).value = .ok analysis := by
  unfold prepare
  simp only [Attempt.result_bind_eq_ok, Attempt.result_ofResult_eq_ok, Storage.value_read]
  constructor
  · rintro ⟨source, hsource, text, htext, hanalysis⟩
    exact ⟨source, text, hsource, htext, hanalysis⟩
  · rintro ⟨source, text, hsource, htext, hanalysis⟩
    exact ⟨source, hsource, text, htext, hanalysis⟩

/-- Why the file at a path cannot be prepared: it cannot be read, a loader of a rule for its path
fails, or its transformed text cannot be analyzed. -/
inductive Rejects (workshop : Workshop) (path : Path) : Failure → Prop
  | unreadable {cause : StorageFailure} (h : workshop.storage.content path = .error cause) :
      Rejects workshop path (.unreadable path cause)
  | transform {source text : String} {rule : Rule} {loader : Loader} {cause : Cause}
      (hsource : workshop.storage.content path = .ok source) (hrule : rule ∈ workshop.rules)
      (hcovers : rule.covers path) (hloader : loader ∈ rule.loaders)
      (hrun : loader.run text = .error cause) :
      Rejects workshop path (.transform path rule.name loader.name cause)
  | malformed {source text : String} {cause : Cause}
      (hsource : workshop.storage.content path = .ok source)
      (htext : (Rule.transform workshop.rules path source).result = .ok text)
      (hanalysis : (workshop.analyzer path text).value = .error cause) :
      Rejects workshop path (.malformed path cause)

/-- A file that cannot be prepared fails for a reason of its own. -/
theorem rejects_of_prepare {path : Path} {failure : Failure}
    (h : (workshop.prepare path).result = .error failure) : workshop.Rejects path failure := by
  unfold prepare at h
  rcases Attempt.result_bind_eq_error.mp h with hread | ⟨source, hsource, h⟩
  · obtain ⟨cause, hcause, rfl⟩ := Attempt.result_ofResult_eq_error.mp hread
    rw [Storage.value_read] at hcause
    exact .unreadable hcause
  rw [Attempt.result_ofResult_eq_ok, Storage.value_read] at hsource
  rcases Attempt.result_bind_eq_error.mp h with htransform | ⟨text, htext, h⟩
  · obtain ⟨rule, hrule, text, cause, loader, hcovers, hloader, hrun, rfl⟩ :=
      Rule.exists_of_result_transform_eq_error htransform
    exact .transform hsource hrule hcovers hloader hrun
  · obtain ⟨cause, hcause, rfl⟩ := Attempt.result_ofResult_eq_error.mp h
    exact .malformed hsource htext hcause

/-- The failure is not that of an import. -/
theorem Rejects.rootCause_eq {path : Path} {failure : Failure} (h : workshop.Rejects path failure) :
    failure.rootCause = failure := by
  cases h <;> rfl

/-- To prepare a file, it is asked for and no other. -/
theorem reads_prepare (hsilent : workshop.analyzer.Silent) (path : Path) :
    (workshop.prepare path).reads = [path] := by
  have hread : ((Attempt.ofResult (.unreadable path) (workshop.storage.read path)) :
      Attempt String).reads = [path] := by
    rw [Attempt.reads_ofResult, Storage.reads_read]
  unfold prepare
  cases hsource : (Attempt.ofResult (.unreadable path) (workshop.storage.read path)).result with
  | error failure => rw [Attempt.reads_bind_of_error hsource, hread]
  | ok source =>
    rw [Attempt.reads_bind_of_ok hsource, hread]
    cases htext : (Rule.transform workshop.rules path source).result with
    | error failure => rw [Attempt.reads_bind_of_error htext, Rule.reads_transform, List.append_nil]
    | ok text =>
      rw [Attempt.reads_bind_of_ok htext, Rule.reads_transform, Attempt.reads_ofResult, hsilent,
        List.append_nil, List.append_nil]

/-- The asset that the file at a path becomes under the next number. -/
def stamp (numbering : Numbering) (path : Path) (analysis : Linking.Analysis) : Asset :=
  ⟨⟨numbering.allocated⟩, path, analysis.code, analysis.specifiers, []⟩

/-- An asset is built if its file can be prepared, and takes the next number; otherwise nothing is
built, for the same reason. -/
theorem result_build (numbering : Numbering) (path : Path) :
    (workshop.build numbering path).result =
      (workshop.prepare path).result.map fun analysis =>
        (stamp numbering path analysis, numbering.next.2) := by
  unfold build
  cases h : (workshop.prepare path).result with
  | error failure =>
    rw [Attempt.result_bind_of_error h]
    rfl
  | ok analysis =>
    rw [Attempt.result_bind_of_ok h]
    rfl

theorem reads_build_eq_reads_prepare (numbering : Numbering) (path : Path) :
    (workshop.build numbering path).reads = (workshop.prepare path).reads := by
  unfold build
  cases h : (workshop.prepare path).result with
  | error failure => rw [Attempt.reads_bind_of_error h]
  | ok analysis =>
    rw [Attempt.reads_bind_of_ok h]
    dsimp only [Numbering.next]
    rw [Attempt.reads_log_bind, Attempt.reads_pure, List.append_nil]

end Workshop

end ModuleBundler
