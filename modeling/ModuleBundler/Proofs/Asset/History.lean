import ModuleBundler.Proofs.Asset
import ModuleBundler.Proofs.Loading.Chain
import ModuleBundler.Proofs.Program

/-!
# Histories of builders

A builder is asked for the assets of files, one after the other, while the files change. To build an
asset, the file is read, its text is transformed, and what comes out is analyzed; the first of these
stages that fails is the last one, and the builder stays as it was. Only when all of them succeed a
number is given away. So the assets of a history are numbered in the order in which they were built,
whatever was asked for in between.

## Main definitions

* `Workshop.Prepares` — the ends of preparing a file, with all that is done.
* `Builder`, `Builder.build` — what hands out numbers, and how it builds assets.
* `BuilderAction`, `BuilderStep`, `Builder.history` — what is asked for, and what happens.
* `Builder.Builds` — what comes of asking for an asset.
* `Builder.Numbers` — what is true of a history.

## Main results

* `Workshop.run_prepare_iff` — preparing a file comes to one of its ends.
* `Builder.run_build_iff` — what comes of asking for an asset.
* `Builder.numbers` — only assets that are built take numbers.
-/

namespace ModuleBundler

/-! ### Stages -/

namespace Workshop

variable {workshop : Workshop} {path : Path} {journal : Journal}
  {result : Except Failure Linking.Analysis}

/-- The ends of preparing a file: what is done, and what it comes to. -/
inductive Prepares (workshop : Workshop) (path : Path) :
    Journal → Except Failure Linking.Analysis → Prop
  /-- The file cannot be read. -/
  | unreadable {reading : Journal} {cause : StorageFailure}
    (hread : workshop.storage.read path = ⟨reading, .error cause⟩) :
    Prepares workshop path reading (.error (.unreadable path cause))
  /-- A loader fails. -/
  | transform {reading transforming : Journal} {source rule loader : String} {cause : Cause}
    (hread : workshop.storage.read path = ⟨reading, .ok source⟩)
    (htransform : (Rule.transform workshop.rules path source).run =
      ⟨transforming, .error (.transform path rule loader cause)⟩) :
    Prepares workshop path (reading ++ transforming) (.error (.transform path rule loader cause))
  /-- What the loaders make of the text cannot be analyzed. -/
  | malformed {reading transforming analyzing : Journal} {source text : String} {cause : Cause}
    (hread : workshop.storage.read path = ⟨reading, .ok source⟩)
    (htransform : (Rule.transform workshop.rules path source).run = ⟨transforming, .ok text⟩)
    (hanalyze : workshop.analyzer path text = ⟨analyzing, .error cause⟩) :
    Prepares workshop path (reading ++ (transforming ++ analyzing)) (.error (.malformed path cause))
  /-- Every stage succeeds. -/
  | analyzed {reading transforming analyzing : Journal} {source text : String}
    {analysis : Linking.Analysis}
    (hread : workshop.storage.read path = ⟨reading, .ok source⟩)
    (htransform : (Rule.transform workshop.rules path source).run = ⟨transforming, .ok text⟩)
    (hanalyze : workshop.analyzer path text = ⟨analyzing, .ok analysis⟩) :
    Prepares workshop path (reading ++ (transforming ++ analyzing)) (.ok analysis)

theorem run_read {storage : Storage} {outcome : Except StorageFailure String}
    (h : storage.read path = ⟨journal, outcome⟩) :
    (Attempt.ofResult (.unreadable path) (storage.read path)).run =
      ⟨journal, outcome.mapError (.unreadable path)⟩ := by
  rw [Attempt.run_ofResult, h]

theorem run_analyze {text : String} {outcome : Except Cause Linking.Analysis}
    (h : workshop.analyzer path text = ⟨journal, outcome⟩) :
    (Attempt.ofResult (.malformed path) (workshop.analyzer path text)).run =
      ⟨journal, outcome.mapError (.malformed path)⟩ := by
  rw [Attempt.run_ofResult, h]

/-- Behind a text that was read and transformed, the analysis decides. -/
theorem run_prepare_of_text {reading transforming analyzing : Journal} {source text : String}
    {outcome : Except Cause Linking.Analysis}
    (hread : workshop.storage.read path = ⟨reading, .ok source⟩)
    (htransform : (Rule.transform workshop.rules path source).run = ⟨transforming, .ok text⟩)
    (hanalyze : workshop.analyzer path text = ⟨analyzing, outcome⟩) :
    (workshop.prepare path).run =
      ⟨reading ++ (transforming ++ analyzing), outcome.mapError (.malformed path)⟩ := by
  rw [prepare, Attempt.run_bind_of_ok (run_read hread), Attempt.journal, Attempt.result,
    Attempt.run_bind_of_ok htransform, Attempt.journal, Attempt.result, run_analyze hanalyze]

/-- At each of its ends, that is what has been done. -/
theorem Prepares.run_prepare (h : workshop.Prepares path journal result) :
    (workshop.prepare path).run = ⟨journal, result⟩ := by
  cases h with
  | unreadable hread => exact Attempt.run_bind_of_error (run_read hread)
  | transform hread htransform =>
    rw [prepare, Attempt.run_bind_of_ok (run_read hread), Attempt.journal, Attempt.result,
      Attempt.run_bind_of_error htransform]
  | malformed hread htransform hanalyze => exact run_prepare_of_text hread htransform hanalyze
  | analyzed hread htransform hanalyze => exact run_prepare_of_text hread htransform hanalyze

/-- Whatever the file is, preparing it comes to an end. -/
theorem exists_prepares (workshop : Workshop) (path : Path) :
    ∃ journal result, workshop.Prepares path journal result := by
  rcases hread : workshop.storage.read path with ⟨reading, cause | source⟩
  · exact ⟨_, _, .unreadable hread⟩
  obtain ⟨transforming, outcome, hends⟩ :=
    Stage.exists_ends path (Rule.chain workshop.rules path) source
  have htransform := Rule.run_transform_iff.mpr hends
  cases hends with
  | stopped => exact ⟨_, _, .transform hread htransform⟩
  | @passed text =>
    rcases hanalyze : workshop.analyzer path text with ⟨analyzing, cause | analysis⟩
    · exact ⟨_, _, .malformed hread htransform hanalyze⟩
    · exact ⟨_, _, .analyzed hread htransform hanalyze⟩

/-- **Preparing a file comes to one of its ends.** -/
theorem run_prepare_iff :
    (workshop.prepare path).run = ⟨journal, result⟩ ↔ workshop.Prepares path journal result := by
  refine ⟨fun h => ?_, Prepares.run_prepare⟩
  obtain ⟨_, _, hprepares⟩ := exists_prepares workshop path
  cases hprepares.run_prepare.symm.trans h
  exact hprepares

end Workshop

/-! ### Builders -/

/-- What builds assets, and the numbers that it has given away. -/
structure Builder where
  workshop : Workshop
  numbering : Numbering

namespace Builder

/-- No number has been given away. -/
def start (workshop : Workshop) : Builder :=
  ⟨workshop, .start⟩

/-- Builds the asset for a file under the next number, which is given away by this. -/
def build (path : Path) : ExceptT Failure (StateT Builder Traced) Asset := do
  let builder ← get
  let (asset, numbering) ←
    ExceptT.mk (StateT.lift (builder.workshop.build builder.numbering path).run)
  set { builder with numbering }
  return asset

end Builder

/-- What can happen to a builder: it is asked for the asset of a file, or the files change. -/
inductive BuilderAction where
  | build (path : Path)
  | change (storage : Storage)

/-- Does it; what comes of it is known for assets only. -/
def BuilderAction.perform : BuilderAction → StateT Builder Traced (Option (Except Failure Asset))
  | build path => do return some (← (Builder.build path).run)
  | change storage => do
    modify fun builder => { builder with workshop.storage := storage }
    return none

/-- Something that happens to a builder. -/
structure BuilderStep where
  before : Builder
  action : BuilderAction

namespace BuilderStep

/-- What is done. -/
def journal (step : BuilderStep) : Journal :=
  (step.action.perform.run step.before).journal

/-- What comes of it, if an asset was asked for. -/
def outcome? (step : BuilderStep) : Option (Except Failure Asset) :=
  (step.action.perform.run step.before).value.1

/-- The builder afterwards. -/
def after (step : BuilderStep) : Builder :=
  (step.action.perform.run step.before).value.2

/-- The asset that is built. -/
def asset? (step : BuilderStep) : Option Asset :=
  step.outcome?.bind Except.toOption

end BuilderStep

namespace Builder

/-- The builder after all that happens. -/
def afterAll : Builder → List BuilderAction → Builder
  | builder, [] => builder
  | builder, action :: actions => afterAll (BuilderStep.after ⟨builder, action⟩) actions

/-- All that happens, with the builders to which it happens. -/
def history : Builder → List BuilderAction → List BuilderStep
  | _, [] => []
  | builder, action :: actions =>
    ⟨builder, action⟩ :: history (BuilderStep.after ⟨builder, action⟩) actions

/-- The assets that are built, in order. -/
def built (builder : Builder) (actions : List BuilderAction) : List Asset :=
  (builder.history actions).filterMap BuilderStep.asset?

/-! ### Single steps -/

variable {builder after : Builder} {path : Path} {journal : Journal}
  {outcome : Except Failure Asset}

/-- What is logged when an asset is built. -/
def report (asset : Asset) : Event :=
  .record ⟨.debug, .asset,
    s!"Built asset {asset.id} for {asset.path} with {asset.specifiers.length} dependencies"⟩

/-- What comes of asking for the asset of a file: what is done, and what is left of the builder. -/
inductive Builds (builder : Builder) (path : Path) :
    Journal → Except Failure Asset → Builder → Prop
  /-- A stage fails, and the builder stays as it is. -/
  | failed {journal : Journal} {failure : Failure}
    (h : builder.workshop.Prepares path journal (.error failure)) :
    Builds builder path journal (.error failure) builder
  /-- Every stage succeeds, and the asset takes the next number. -/
  | built {journal : Journal} {analysis : Linking.Analysis}
    (h : builder.workshop.Prepares path journal (.ok analysis)) :
    Builds builder path
      (journal ++ [report (Workshop.stamp builder.numbering path analysis)])
      (.ok (Workshop.stamp builder.numbering path analysis))
      { builder with numbering := ⟨builder.numbering.allocated + 1⟩ }

theorem run_build_of_error {failure : Failure}
    (h : builder.workshop.Prepares path journal (.error failure)) :
    (build path).run builder = ⟨journal, .error failure, builder⟩ := by
  have hbuild : (builder.workshop.build builder.numbering path).run = _ :=
    Attempt.run_bind_of_error h.run_prepare
  exact Program.run_bind_eq (Program.run_get builder)
    (Program.run_bind_of_error (Program.run_lift hbuild builder))

theorem run_build_of_ok {analysis : Linking.Analysis}
    (h : builder.workshop.Prepares path journal (.ok analysis)) :
    (build path).run builder =
      ⟨journal ++ [report (Workshop.stamp builder.numbering path analysis)],
        .ok (Workshop.stamp builder.numbering path analysis),
        { builder with numbering := ⟨builder.numbering.allocated + 1⟩ }⟩ := by
  have hbuild : (builder.workshop.build builder.numbering path).run =
      ⟨journal ++ [report (Workshop.stamp builder.numbering path analysis)],
        .ok (Workshop.stamp builder.numbering path analysis, builder.numbering.next.2)⟩ :=
    Attempt.run_bind_of_ok h.run_prepare
  show _ = Traced.mk ([] ++ _) _
  refine Program.run_bind_eq (Program.run_get builder)
    ((Program.run_bind_of_ok (Program.run_lift hbuild builder)).trans ?_)
  exact congrArg (Traced.mk · _) (List.append_nil _)

/-- What comes of it is what is said. -/
theorem Builds.run_build (h : builder.Builds path journal outcome after) :
    (build path).run builder = ⟨journal, outcome, after⟩ := by
  cases h with
  | failed h => exact run_build_of_error h
  | built h => exact run_build_of_ok h

/-- **Asking for the asset of a file.** -/
theorem run_build_iff : (build path).run builder = ⟨journal, outcome, after⟩ ↔
    builder.Builds path journal outcome after := by
  refine ⟨fun h => ?_, Builds.run_build⟩
  obtain ⟨_, failure | analysis, hprepares⟩ := builder.workshop.exists_prepares path
  · cases (run_build_of_error hprepares).symm.trans h
    exact .failed hprepares
  · cases (run_build_of_ok hprepares).symm.trans h
    exact .built hprepares

end Builder

namespace BuilderStep

variable {step : BuilderStep} {path : Path}

/-- Where an asset is asked for, the builder builds it or fails. -/
theorem builds (h : step.action = .build path) :
    ∃ outcome, step.outcome? = some outcome ∧
      step.before.Builds path step.journal outcome step.after := by
  obtain ⟨before, action⟩ := step
  obtain rfl : action = .build path := h
  rcases hrun : (Builder.build path).run before with ⟨journal, outcome, after⟩
  have hperform : (BuilderAction.build path).perform.run before =
      ⟨((Builder.build path).run before).journal ++ [],
        some ((Builder.build path).run before).value.1,
        ((Builder.build path).run before).value.2⟩ :=
    rfl
  rw [hrun, List.append_nil] at hperform
  rw [outcome?, BuilderStep.journal, BuilderStep.after, hperform]
  exact ⟨outcome, rfl, Builder.run_build_iff.mp hrun⟩

/-- A step builds no asset and gives no number away, or it builds one under the next number. -/
theorem numbering_cases (step : BuilderStep) :
    step.asset? = none ∧ step.after.numbering = step.before.numbering ∨
      ∃ asset, step.asset? = some asset ∧ asset.id = ⟨step.before.numbering.allocated⟩ ∧
        step.after.numbering = ⟨step.before.numbering.allocated + 1⟩ := by
  cases haction : step.action with
  | change storage =>
    obtain ⟨before, action⟩ := step
    obtain rfl : action = .change storage := haction
    exact .inl ⟨rfl, rfl⟩
  | build path =>
    obtain ⟨outcome, houtcome, hbuilds⟩ := builds haction
    rw [asset?, houtcome]
    generalize step.journal = journal, step.after = after at hbuilds
    cases hbuilds with
    | failed => exact .inl ⟨rfl, rfl⟩
    | built => exact .inr ⟨_, rfl, rfl, rfl⟩

/-- A build that fails leaves the builder as it was. -/
theorem after_eq_of_error {failure : Failure} (h : step.outcome? = some (.error failure)) :
    step.after = step.before := by
  cases haction : step.action with
  | change storage =>
    obtain ⟨before, action⟩ := step
    obtain rfl : action = .change storage := haction
    cases h
  | build path =>
    obtain ⟨outcome, houtcome, hbuilds⟩ := builds haction
    obtain rfl : outcome = .error failure := Option.some.inj (houtcome.symm.trans h)
    generalize step.journal = journal, step.after = after at hbuilds
    cases hbuilds with
    | failed => rfl

end BuilderStep

namespace Builder

/-! ### Histories -/

variable {builder : Builder} {actions : List BuilderAction} {n : Nat}

theorem built_cons (action : BuilderAction) : builder.built (action :: actions) =
    (BuilderStep.asset? ⟨builder, action⟩).toList ++
      (BuilderStep.after ⟨builder, action⟩).built actions := by
  unfold built
  rw [history, List.filterMap_cons]
  cases BuilderStep.asset? ⟨builder, action⟩ <;> rfl

theorem length_built_le {front : List BuilderAction} (h : front <+: actions) :
    (builder.built front).length ≤ (builder.built actions).length := by
  obtain ⟨back, rfl⟩ := h
  induction front generalizing builder with
  | nil => exact Nat.zero_le _
  | cons action front ih =>
    rw [List.cons_append, built_cons, built_cons, List.length_append, List.length_append]
    exact Nat.add_le_add_left ih _

/-- What is given away, and to what it is given, when `n` numbers have been given away before. -/
theorem numbering_afterAll (h : builder.numbering.allocated = UInt32.ofNat n) :
    (builder.afterAll actions).numbering.allocated =
        UInt32.ofNat (n + (builder.built actions).length) ∧
      (builder.built actions).map Asset.id =
        (List.range' n (builder.built actions).length).map AssetId.nth := by
  induction actions generalizing builder n with
  | nil => exact ⟨h, rfl⟩
  | cons action actions ih =>
    rw [built_cons]
    obtain ⟨hnone, hsame⟩ | ⟨asset, hasset, hid, hnext⟩ :=
      BuilderStep.numbering_cases ⟨builder, action⟩
    · rw [hnone]
      exact ih (hsame ▸ h)
    · have hallocated : (BuilderStep.after ⟨builder, action⟩).numbering.allocated =
          UInt32.ofNat (n + 1) := by
        rw [hnext, UInt32.ofNat_add, ← h]
        rfl
      have hfirst : asset.id = .nth n := hid.trans (congrArg AssetId.mk h)
      obtain ⟨hafter, hids⟩ := ih hallocated
      rw [hasset, Option.toList_some, List.singleton_append, List.length_cons, List.range'_succ,
        List.map_cons, List.map_cons, ← hids, hfirst, Nat.add_comm _ 1, ← Nat.add_assoc]
      exact ⟨hafter, rfl⟩

/-- What is true of all that happens to a builder. -/
structure Numbers (workshop : Workshop) (actions : List BuilderAction) : Prop where
  /-- The assets are numbered in the order in which they are built. -/
  ids : ((start workshop).built actions).map (·.id.index) =
    List.range ((start workshop).built actions).length
  /-- At any time, as many numbers have been given away as assets have been built. -/
  allocated : ∀ front, front <+: actions →
    ((start workshop).afterAll front).numbering.allocated.toNat =
      ((start workshop).built front).length
  /-- Where an asset is asked for, the first stage that fails is the last one, and it is named with
  the path that was asked for; otherwise the asset takes the next number. -/
  builds : ∀ step ∈ (start workshop).history actions, ∀ path, step.action = .build path →
    ∃ outcome, step.outcome? = some outcome ∧
      step.before.Builds path step.journal outcome step.after
  /-- A build that fails leaves the builder as it was. -/
  unchanged : ∀ step ∈ (start workshop).history actions, ∀ failure,
    step.outcome? = some (.error failure) → step.after = step.before

/-- **Only assets that are built take numbers**, as long as there are numbers. -/
theorem numbers (workshop : Workshop) (actions : List BuilderAction)
    (hcount : ((start workshop).built actions).length < UInt32.size) :
    Numbers workshop actions where
  ids := by
    have hids : ((start workshop).built actions).map Asset.id = _ :=
      (numbering_afterAll (show (start workshop).numbering.allocated = UInt32.ofNat 0 from rfl)).2
    calc ((start workshop).built actions).map (·.id.index)
        = (((start workshop).built actions).map Asset.id).map AssetId.index := by
          rw [List.map_map]
          rfl
      _ = (List.range ((start workshop).built actions).length).map (AssetId.index ∘ .nth) := by
          rw [hids, List.map_map, ← List.range_eq_range']
      _ = List.range ((start workshop).built actions).length := by
          refine (List.map_congr_left fun i hi => ?_).trans (List.map_id _)
          exact AssetId.index_nth (Nat.lt_trans (List.mem_range.mp hi) hcount)
  allocated front hfront := by
    have hallocated : ((start workshop).afterAll front).numbering.allocated = _ :=
      (numbering_afterAll (show (start workshop).numbering.allocated = UInt32.ofNat 0 from rfl)).1
    rw [hallocated, Nat.zero_add]
    exact UInt32.toNat_ofNat_of_lt' (Nat.lt_of_le_of_lt (length_built_le hfront) hcount)
  builds _ _ _ := BuilderStep.builds
  unchanged _ _ _ := BuilderStep.after_eq_of_error

/-- A workshop with one file. -/
def lone : Workshop where
  storage := .memory (.ofList [(.ofString "/a", "./b")])
  rules := []
  analyzer := fun _ source => return .ok ⟨[source], source⟩

/-- A file is built twice, and in between it is not there. -/
def comingAndGoing : List BuilderAction := [
  .build (.ofString "/a"), .change (.memory (.ofList [])), .build (.ofString "/a"),
  .change lone.storage, .build (.ofString "/a")]

theorem numbers_comingAndGoing :
    ((start lone).built comingAndGoing).length = 2 ∧ Numbers lone comingAndGoing := by
  have hlength : ((start lone).built comingAndGoing).length = 2 := rfl
  exact ⟨hlength, numbers lone comingAndGoing (hlength ▸ by decide)⟩

end Builder

end ModuleBundler
