import ModuleBundler.Loading.Rule
import ModuleBundler.Proofs.Attempt
import ModuleBundler.Proofs.Program

/-!
# Rules as one chain of loaders

The rules for a path come to one chain: the loaders of the rules that cover the path, rule by rule
in order, those of each rule from the last to the first. Every loader is given what the one in front
of it has made. The first one that fails ends the transformation, and no loader behind it runs.
Which loaders are in the chain is determined by the path, whatever the text is.

## Main definitions

* `Stage`, `Rule.chain` — the loaders for a path, in the order in which they run.
* `Stage.Passes` — texts that pass through loaders.
* `Stage.Ends` — the ends of a transformation, with the loaders that have run.
* `Rule.Composed` — what rules do with the text of a file.

## Main results

* `Rule.transform_eq_foldlM` — to apply rules is to run their chain.
* `Stage.run_foldlM_iff` — a chain comes to one of its ends.
* `Rule.composed` — rules act as one chain of loaders.
-/

namespace ModuleBundler

/-- A loader of a rule. -/
structure Stage where
  rule : Rule
  loader : Loader

namespace Stage

variable {path : Path} {stage : Stage} {stages front back : List Stage}
  {source between text : String} {journal : Journal} {result : Except Failure String}
  {cause : Cause}

/-- What is logged when the loader runs. -/
def announcement (path : Path) (stage : Stage) : Event :=
  .record ⟨.debug, .loading,
    s!"Applying loader '{stage.loader.name}' of rule '{stage.rule.name}' to {path}"⟩

/-- Runs the loader. -/
def run (path : Path) (source : String) (stage : Stage) : Attempt String :=
  stage.rule.runLoader path source stage.loader

theorem run_of_ok (h : stage.loader.run source = .ok text) :
    (stage.run path source).run = ⟨[stage.announcement path], .ok text⟩ := by
  unfold run Rule.runLoader
  rw [h]
  rfl

theorem run_of_error (h : stage.loader.run source = .error cause) :
    (stage.run path source).run =
      ⟨[stage.announcement path],
        .error (.transform path stage.rule.name stage.loader.name cause)⟩ := by
  unfold run Rule.runLoader
  rw [h]
  rfl

/-! ### Texts that pass through loaders -/

/-- Every loader succeeds when it is given what the one in front of it has made; what the last one
makes comes out. -/
inductive Passes : List Stage → (source text : String) → Prop
  | nil (source : String) : Passes [] source source
  | cons {stage : Stage} {stages : List Stage} {source between text : String}
    (hrun : stage.loader.run source = .ok between) (hrest : Passes stages between text) :
    Passes (stage :: stages) source text

/-- A text passes through loaders, all of which run. -/
theorem Passes.run_foldlM (h : Passes stages source text) :
    (stages.foldlM (run path) source).run = ⟨stages.map (announcement path), .ok text⟩ := by
  induction h with
  | nil source => rfl
  | cons hrun _ ih =>
    rw [List.foldlM_cons, Attempt.run_bind_of_ok (run_of_ok hrun)]
    rw [Attempt.journal, Attempt.result, ih]
    rfl

/-! ### Ends of a transformation -/

/-- The ends of a transformation: the loaders that have run, and what they come to. -/
inductive Ends (path : Path) (stages : List Stage) (source : String) :
    Journal → Except Failure String → Prop
  /-- All loaders succeed. -/
  | passed {text : String} (h : Passes stages source text) :
    Ends path stages source (stages.map (announcement path)) (.ok text)
  /-- A loader fails behind others that succeed. -/
  | stopped {front back : List Stage} {stage : Stage} {between : String} {cause : Cause}
    (hsplit : stages = front ++ stage :: back) (hfront : Passes front source between)
    (hrun : stage.loader.run between = .error cause) :
    Ends path stages source ((front ++ [stage]).map (announcement path))
      (.error (.transform path stage.rule.name stage.loader.name cause))

/-- At each of its ends, that is what the chain has done. -/
theorem Ends.run_foldlM (h : Ends path stages source journal result) :
    (stages.foldlM (run path) source).run = ⟨journal, result⟩ := by
  cases h with
  | passed h => exact h.run_foldlM
  | @stopped front back stage between cause hsplit hfront hrun =>
    have hstage : ((stage :: back).foldlM (run path) between).run = _ :=
      Attempt.run_bind_of_error (run_of_error hrun)
    rw [hsplit, List.foldlM_append, Attempt.run_bind_of_ok hfront.run_foldlM, Attempt.journal,
      Attempt.result, hstage, List.map_append]
    rfl

/-- A loader in front of a chain succeeds. -/
theorem Ends.cons (hrun : stage.loader.run source = .ok between)
    (h : Ends path stages between journal result) :
    Ends path (stage :: stages) source (stage.announcement path :: journal) result := by
  cases h with
  | passed h => exact .passed (.cons hrun h)
  | stopped hsplit hfront hfails =>
    exact .stopped (congrArg (stage :: ·) hsplit) (.cons hrun hfront) hfails

/-- Every chain comes to an end. -/
theorem exists_ends (path : Path) (stages : List Stage) (source : String) :
    ∃ journal result, Ends path stages source journal result := by
  induction stages generalizing source with
  | nil => exact ⟨_, _, .passed (.nil source)⟩
  | cons stage stages ih =>
    cases hrun : stage.loader.run source with
    | error cause => exact ⟨_, _, .stopped (List.nil_append _).symm (.nil source) hrun⟩
    | ok between =>
      obtain ⟨journal, result, hends⟩ := ih between
      exact ⟨_, _, hends.cons hrun⟩

/-- **A chain comes to one of its ends.** -/
theorem run_foldlM_iff :
    (stages.foldlM (run path) source).run = ⟨journal, result⟩ ↔
      Ends path stages source journal result := by
  refine ⟨fun h => ?_, Ends.run_foldlM⟩
  obtain ⟨_, _, hends⟩ := exists_ends path stages source
  cases hends.run_foldlM.symm.trans h
  exact hends

/-- The loaders that run stand at the start of the chain. -/
theorem Ends.journal_prefix (h : Ends path stages source journal result) :
    journal <+: stages.map (announcement path) := by
  cases h with
  | passed => exact List.prefix_refl _
  | @stopped front back stage _ _ hsplit =>
    refine List.IsPrefix.map _ ⟨back, ?_⟩
    rw [hsplit, List.append_assoc]
    rfl

end Stage

namespace Rule

open Stage

/-- The loaders for a path, in the order in which they run. -/
def chain (rules : List Rule) (path : Path) : List Stage :=
  (rules.filter (·.covers path)).flatMap fun rule => rule.loaders.reverse.map (Stage.mk rule)

/-- To apply rules is to run their chain. -/
theorem transform_eq_foldlM (rules : List Rule) (path : Path) (source : String) :
    transform rules path source = (chain rules path).foldlM (Stage.run path) source := by
  unfold transform chain
  induction rules.filter (·.covers path) generalizing source with
  | nil => rfl
  | cons rule rules ih =>
    rw [List.foldlM_cons, List.flatMap_cons, List.foldlM_append, List.foldlM_map]
    exact congrArg (rule.apply path source >>= ·) (funext ih)

theorem run_transform_iff {rules : List Rule} {path : Path} {source : String} {journal : Journal}
    {result : Except Failure String} :
    (transform rules path source).run = ⟨journal, result⟩ ↔
      Ends path (chain rules path) source journal result := by
  rw [transform_eq_foldlM, run_foldlM_iff]

theorem result_transform_eq_ok {rules : List Rule} {path : Path} {source text : String} :
    (transform rules path source).result = .ok text ↔ Passes (chain rules path) source text := by
  obtain ⟨journal, result, hends⟩ := exists_ends path (chain rules path) source
  rw [Attempt.result, run_transform_iff.mpr hends]
  constructor
  · rintro rfl
    cases hends with
    | passed h => exact h
  · intro h
    cases hends.run_foldlM.symm.trans h.run_foldlM
    rfl

theorem transform_append (rules more : List Rule) (path : Path) (source : String) :
    transform (rules ++ more) path source =
      transform rules path source >>= transform more path := by
  unfold transform
  rw [List.filter_append, List.foldlM_append]

theorem transform_filter (rules : List Rule) (path : Path) :
    transform (rules.filter (·.covers path)) path = transform rules path := by
  funext source
  simp only [transform, List.filter_filter, Bool.and_self]

/-- What rules do with the text of a file at a path, whatever the text is. -/
structure Composed (rules : List Rule) (path : Path) : Prop where
  /-- They are successful if all loaders of the chain are, one after the other, and the last text
  comes out. -/
  succeeds_iff : ∀ source text, (transform rules path source).result = .ok text ↔
    Passes (chain rules path) source text
  /-- Otherwise the first loader that fails is named, and it is the last one that runs. -/
  run_iff : ∀ source journal result, (transform rules path source).run = ⟨journal, result⟩ ↔
    Ends path (chain rules path) source journal result
  /-- Rules with others behind them are applied first, and then the others to what comes out. -/
  append : ∀ more source,
    transform (rules ++ more) path source = transform rules path source >>= transform more path
  /-- Of every text, the loaders that run are the first ones of the same chain. -/
  prefixes : ∀ source,
    (transform rules path source).journal <+: (chain rules path).map (announcement path)
  /-- A rule that does not cover the path does nothing, whatever the rules in front of it make of
  the text. -/
  covering : transform (rules.filter (·.covers path)) path = transform rules path

/-- **Rules act as one chain of loaders.** -/
theorem composed (rules : List Rule) (path : Path) : Composed rules path where
  succeeds_iff _ _ := result_transform_eq_ok
  run_iff _ _ _ := run_transform_iff
  append more source := transform_append rules more path source
  prefixes source := by
    obtain ⟨journal, result, hends⟩ := exists_ends path (chain rules path) source
    rw [Attempt.journal, run_transform_iff.mpr hends]
    exact hends.journal_prefix
  covering := transform_filter rules path

end Rule

end ModuleBundler
