import ModuleBundler.Journal

/-!
# What programs come to

A program acts on a state, may fail, and leaves a journal. Its run from a state is the journal, the
outcome and the state afterwards. A sequence goes on from where its first part has ended, if that
was no failure.

## Main results

* `Traced.instLawfulMonad` — traced values obey the laws of monads.
* `Program.run_bind_of_ok`, `Program.run_bind_of_error` — the run of a sequence.
-/

namespace ModuleBundler

instance Traced.instLawfulMonad : LawfulMonad Traced :=
  .mk' Traced
    (fun traced => congrArg (Traced.mk · traced.value) (List.append_nil _))
    (fun _ _ => rfl)
    (fun _ _ _ => congrArg (Traced.mk · _) (List.append_assoc ..))

namespace Program

variable {ε ς α β : Type} {program : ExceptT ε (StateT ς Traced) α}
  {next : α → ExceptT ε (StateT ς Traced) β} {before after : ς} {journal : Journal}

theorem run_get (before : ς) :
    (get : ExceptT ε (StateT ς Traced) ς).run before = ⟨[], .ok before, before⟩ :=
  rfl

/-- What acts on no state leaves it as it is. -/
theorem run_lift {task : ExceptT ε Traced α} {result : Except ε α}
    (h : task.run = ⟨journal, result⟩) (before : ς) :
    (ExceptT.mk (StateT.lift task.run) : ExceptT ε (StateT ς Traced) α).run before =
      ⟨journal, result, before⟩ := by
  change Traced.mk (task.run.journal ++ []) (task.run.value, before) = _
  rw [h, List.append_nil]

theorem run_bind (before : ς) :
    (program >>= next).run before = Traced.bind (program.run before) fun result =>
      (ExceptT.bindCont next result.1).run result.2 :=
  rfl

/-- Behind a success a sequence goes on. -/
theorem run_bind_of_ok {a : α} (h : program.run before = ⟨journal, .ok a, after⟩) :
    (program >>= next).run before =
      ⟨journal ++ ((next a).run after).journal, ((next a).run after).value⟩ := by
  rw [run_bind, h]
  rfl

/-- The run of a sequence whose parts are known. -/
theorem run_bind_eq {a : α} {more : Journal} {result : Except ε β × ς}
    (h : program.run before = ⟨journal, .ok a, after⟩)
    (hnext : (next a).run after = ⟨more, result⟩) :
    (program >>= next).run before = ⟨journal ++ more, result⟩ := by
  rw [run_bind_of_ok h, hnext]

/-- Behind a failure it does not. -/
theorem run_bind_of_error {failure : ε}
    (h : program.run before = ⟨journal, .error failure, after⟩) :
    (program >>= next).run before = ⟨journal, .error failure, after⟩ := by
  rw [run_bind, h]
  exact congrArg (Traced.mk · _) (List.append_nil _)

/-- A sequence is successful if its parts are. -/
theorem exists_run_of_bind_eq_ok {b : β} (h : ((program >>= next).run before).value.1 = .ok b) :
    ∃ journal a after, program.run before = ⟨journal, .ok a, after⟩ ∧
      ((next a).run after).value.1 = .ok b := by
  rcases hrun : program.run before with ⟨journal, failure | a, after⟩
  · rw [run_bind_of_error hrun] at h
    cases h
  · rw [run_bind_of_ok hrun] at h
    exact ⟨journal, a, after, rfl, h⟩

end Program

end ModuleBundler
