import ModuleBundler.Failure

/-!
# What attempts come to

An attempt is known by what it comes to and by the files that it asks for. Both are determined by
those of its parts: a sequence of attempts goes on only behind a success, and what it asks for is
what its parts ask for, in order.

## Main definitions

* `Attempt.reads` — the files that an attempt asks for.

## Main results

* `Attempt.result_bind_eq_ok`, `Attempt.result_bind_eq_error` — when a sequence of attempts
  succeeds, and when it fails.
* `Attempt.reads_bind_of_ok`, `Attempt.reads_bind_of_error` — what a sequence asks for.
-/

namespace ModuleBundler.Attempt

variable {α β ε : Type}

/-- The files that an attempt asks for. -/
def reads (attempt : Attempt α) : List Path :=
  attempt.journal.reads

theorem journal_reads_append (first second : Journal) :
    Journal.reads (first ++ second) = first.reads ++ second.reads :=
  List.filterMap_append

/-! ### Single attempts -/

@[simp] theorem result_pure (a : α) : (pure a : Attempt α).result = .ok a := rfl

@[simp] theorem reads_pure (a : α) : (pure a : Attempt α).reads = [] := rfl

theorem result_ofResult (failure : ε → Failure) (traced : Traced (Except ε α)) :
    (ofResult failure traced).result = traced.value.mapError failure := rfl

theorem result_ofResult_eq_ok {failure : ε → Failure} {traced : Traced (Except ε α)} {a : α} :
    (ofResult failure traced).result = .ok a ↔ traced.value = .ok a := by
  rw [result_ofResult]
  cases traced.value with
  | error e => constructor <;> intro h <;> cases h
  | ok b => constructor <;> intro h <;> cases h <;> rfl

theorem result_ofResult_eq_error {failure : ε → Failure} {traced : Traced (Except ε α)}
    {reason : Failure} :
    (ofResult failure traced).result = .error reason ↔
      ∃ e, traced.value = .error e ∧ failure e = reason := by
  rw [result_ofResult]
  cases traced.value with
  | error e =>
    constructor
    · intro h
      cases h
      exact ⟨e, rfl, rfl⟩
    · rintro ⟨_, he, rfl⟩
      cases he
      rfl
  | ok a =>
    constructor
    · intro h
      cases h
    · rintro ⟨_, he, -⟩
      cases he

theorem run_ofResult (failure : ε → Failure) (traced : Traced (Except ε α)) :
    (ofResult failure traced).run = ⟨traced.journal, traced.value.mapError failure⟩ :=
  congrArg (Traced.mk · _) (List.append_nil _)

@[simp] theorem reads_ofResult (failure : ε → Failure) (traced : Traced (Except ε α)) :
    (ofResult failure traced).reads = traced.journal.reads := by
  rw [reads, journal, run_ofResult]

theorem result_adapt (f : Failure → Failure) (attempt : Attempt α) :
    result (ExceptT.adapt f attempt) = attempt.result.mapError f := rfl

@[simp] theorem reads_adapt (f : Failure → Failure) (attempt : Attempt α) :
    reads (ExceptT.adapt f attempt) = attempt.reads := by
  change Journal.reads (attempt.run.journal ++ []) = _
  rw [List.append_nil]
  rfl

/-! ### Sequences -/

variable {attempt : Attempt α} {next : α → Attempt β}

theorem result_bind_of_ok {a : α} (h : attempt.result = .ok a) :
    (attempt >>= next).result = (next a).result := by
  change (ExceptT.bindCont next attempt.result).value = _
  rw [h]
  rfl

theorem result_bind_of_error {failure : Failure} (h : attempt.result = .error failure) :
    (attempt >>= next).result = .error failure := by
  change (ExceptT.bindCont next attempt.result).value = _
  rw [h]
  rfl

/-- Behind a success a sequence goes on. -/
theorem run_bind_of_ok {a : α} {journal : Journal} (h : attempt.run = ⟨journal, .ok a⟩) :
    (attempt >>= next).run = ⟨journal ++ (next a).journal, (next a).result⟩ := by
  change Traced.bind attempt.run (ExceptT.bindCont next) = _
  rw [h]
  rfl

/-- Behind a failure it does not. -/
theorem run_bind_of_error {failure : Failure} {journal : Journal}
    (h : attempt.run = ⟨journal, .error failure⟩) :
    (attempt >>= next).run = ⟨journal, .error failure⟩ := by
  change Traced.bind attempt.run (ExceptT.bindCont next) = _
  rw [h]
  exact congrArg (Traced.mk · _) (List.append_nil _)

/-- A sequence does no more than what fails. -/
theorem journal_bind_of_error {failure : Failure} (h : attempt.result = .error failure) :
    (attempt >>= next).journal = attempt.journal := by
  change attempt.run.journal ++ (ExceptT.bindCont next attempt.result).journal = _
  rw [h]
  exact List.append_nil _

theorem reads_bind_of_ok {a : α} (h : attempt.result = .ok a) :
    (attempt >>= next).reads = attempt.reads ++ (next a).reads := by
  change Journal.reads (attempt.run.journal ++ (ExceptT.bindCont next attempt.result).journal) = _
  rw [h, journal_reads_append]
  rfl

theorem reads_bind_of_error {failure : Failure} (h : attempt.result = .error failure) :
    (attempt >>= next).reads = attempt.reads :=
  congrArg Journal.reads (journal_bind_of_error h)

/-- A sequence of attempts succeeds if its parts do. -/
theorem result_bind_eq_ok {b : β} :
    (attempt >>= next).result = .ok b ↔
      ∃ a, attempt.result = .ok a ∧ (next a).result = .ok b := by
  cases h : attempt.result with
  | error failure => simp [result_bind_of_error h]
  | ok a => simp [result_bind_of_ok h]

/-- A sequence of attempts fails with the failure of the first part that fails. -/
theorem result_bind_eq_error {failure : Failure} :
    (attempt >>= next).result = .error failure ↔
      attempt.result = .error failure ∨
        ∃ a, attempt.result = .ok a ∧ (next a).result = .error failure := by
  cases h : attempt.result with
  | error other => simp [result_bind_of_error h]
  | ok a => simp [result_bind_of_ok h]

@[simp] theorem result_log_bind (level : Level) (topic : Topic) (message : String)
    (next : Unit → Attempt β) : (log level topic message >>= next).result = (next ()).result :=
  result_bind_of_ok rfl

@[simp] theorem reads_log_bind (level : Level) (topic : Topic) (message : String)
    (next : Unit → Attempt β) : (log level topic message >>= next).reads = (next ()).reads :=
  reads_bind_of_ok rfl

/-- Steps that ask for no file ask for none in sequence. -/
theorem reads_foldlM_eq_nil {γ : Type} {step : β → γ → Attempt β}
    (h : ∀ b c, (step b c).reads = []) (cs : List γ) (b : β) : (cs.foldlM step b).reads = [] := by
  induction cs generalizing b with
  | nil => rfl
  | cons c cs ih =>
    rw [List.foldlM_cons]
    cases hstep : (step b c).result with
    | error failure => rw [reads_bind_of_error hstep, h]
    | ok b' => rw [reads_bind_of_ok hstep, h, ih, List.append_nil]

/-- Steps in sequence fail with the failure of one of them. -/
theorem exists_of_result_foldlM_eq_error {γ : Type} {step : β → γ → Attempt β} {cs : List γ} {b : β}
    {failure : Failure} (h : (cs.foldlM step b).result = .error failure) :
    ∃ c ∈ cs, ∃ b', (step b' c).result = .error failure := by
  induction cs generalizing b with
  | nil => cases h
  | cons c cs ih =>
    rw [List.foldlM_cons] at h
    rcases result_bind_eq_error.mp h with hstep | ⟨b', -, hrest⟩
    · exact ⟨c, List.mem_cons_self, b, hstep⟩
    · obtain ⟨d, hd, hfails⟩ := ih hrest
      exact ⟨d, List.mem_cons_of_mem _ hd, hfails⟩

end ModuleBundler.Attempt
