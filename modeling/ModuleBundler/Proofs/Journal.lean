import ModuleBundler.Journal

/-!
# The files of a journal

What a journal says about files is what is left of it without the log records.

## Main definitions

* `Journal.files` — the events of a journal that are about files.

## Main results

* `Journal.files_eq_map_reads` — if nothing is written, these are the files that are asked for.
-/

namespace ModuleBundler.Journal

/-- The events of a journal that are about files. -/
def files (journal : Journal) : Journal :=
  journal.filter fun event => (record? event).isNone

@[simp] theorem files_nil : files [] = [] := rfl

@[simp] theorem files_record (record : Record) (journal : Journal) :
    files (.record record :: journal) = files journal := rfl

@[simp] theorem files_read (path : Path) (journal : Journal) :
    files (.read path :: journal) = .read path :: files journal := rfl

@[simp] theorem files_write (path : Path) (text : String) (journal : Journal) :
    files (.write path text :: journal) = .write path text :: files journal := rfl

@[simp] theorem files_append (first second : Journal) :
    files (first ++ second) = files first ++ files second :=
  List.filter_append ..

theorem writes_append (first second : Journal) :
    writes (first ++ second) = writes first ++ writes second :=
  List.filterMap_append

/-- Who asks for files does not write them. -/
theorem writes_map_read (paths : List Path) : writes (paths.map .read) = [] := by
  unfold writes
  rw [List.filterMap_map, List.filterMap_eq_nil_iff]
  exact fun _ _ => rfl

/-- The files that are asked for are said by the events that are about files. -/
theorem reads_files (journal : Journal) : reads (files journal) = reads journal := by
  unfold reads files
  rw [List.filterMap_filter]
  refine congrArg (List.filterMap · journal) (funext fun event => ?_)
  cases event <;> rfl

/-- The files that are written are said by the events that are about files. -/
theorem writes_files (journal : Journal) : writes (files journal) = writes journal := by
  unfold writes files
  rw [List.filterMap_filter]
  refine congrArg (List.filterMap · journal) (funext fun event => ?_)
  cases event <;> rfl

/-- If nothing is written, files are only asked for. -/
theorem files_eq_map_reads {journal : Journal} (h : writes journal = []) :
    files journal = (reads journal).map .read := by
  induction journal with
  | nil => rfl
  | cons event journal ih =>
    cases event with
    | record record => exact ih h
    | read path => exact congrArg (Event.read path :: ·) (ih h)
    | write path text => cases h

end ModuleBundler.Journal
