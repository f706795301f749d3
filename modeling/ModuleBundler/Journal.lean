import ModuleBundler.Path.Basic

/-!
# Journals

What a build does to the world around it is written down in the order in which it happens: the
messages that it logs, the files that it reads and the files that it writes. A traced value is a
value with the journal of how it was obtained.

## Main definitions

* `Record`, `Event`, `Journal` — the entries of a journal.
* `Traced` — values with journals, as a monad.
* `Journal.reads`, `Journal.writes`, `Journal.records` — the parts of a journal.
-/

namespace ModuleBundler

/-! ### Log records -/

/-- How much detail a log record is about. -/
inductive Level where
  | error
  | info
  | debug
  | trace
  deriving DecidableEq, Repr

/-- The name of a level. -/
def Level.name : Level → String
  | error => "ERROR"
  | info => "INFO"
  | debug => "DEBUG"
  | trace => "TRACE"

/-- Does the level carry more detail than another one? -/
def Level.rank : Level → Nat
  | error => 0
  | info => 1
  | debug => 2
  | trace => 3

/-- The part of the program that a log record comes from. -/
inductive Topic where
  | program
  | analysis
  | asset
  | build
  | emission
  | graph
  | hooks
  | plugins
  | settings
  | storage
  | loading
  deriving DecidableEq, Repr

/-- The name of a topic in log records. -/
def Topic.name : Topic → String
  | program => "minipack"
  | analysis => "minipack::analyzer"
  | asset => "minipack::asset"
  | build => "minipack::bundler"
  | emission => "minipack::emit"
  | graph => "minipack::graph"
  | hooks => "minipack::hooks"
  | plugins => "minipack::plugin"
  | settings => "minipack::config"
  | storage => "minipack::fs"
  | loading => "minipack::transform"

/-- A message for the log. -/
structure Record where
  level : Level
  topic : Topic
  message : String
  deriving DecidableEq, Repr

/-! ### Journals -/

/-- An entry of a journal. -/
inductive Event where
  | record (record : Record)
  /-- A file is asked for, whether it can be read or not. -/
  | read (path : Path)
  /-- A file has been written. -/
  | write (path : Path) (text : String)
  deriving DecidableEq, Repr

/-- Events in the order in which they happened. -/
abbrev Journal := List Event

namespace Journal

/-- The log record of an event. -/
def record? : Event → Option Record
  | .record record => some record
  | .read _ | .write _ _ => none

/-- The path that an event asks for. -/
def read? : Event → Option Path
  | .read path => some path
  | .record _ | .write _ _ => none

/-- The file that an event writes. -/
def write? : Event → Option (Path × String)
  | .write path text => some (path, text)
  | .record _ | .read _ => none

/-- The log records of a journal. -/
def records (journal : Journal) : List Record :=
  journal.filterMap record?

/-- The paths that were asked for. -/
def reads (journal : Journal) : List Path :=
  journal.filterMap read?

/-- The files that were written. -/
def writes (journal : Journal) : List (Path × String) :=
  journal.filterMap write?

end Journal

/-! ### Traced values -/

/-- A value with the journal of how it was obtained. -/
structure Traced (α : Type) where
  journal : Journal
  value : α

namespace Traced

/-- A value that took no event to obtain. -/
protected def pure {α : Type} (value : α) : Traced α :=
  ⟨[], value⟩

/-- A value that is obtained from another one. -/
protected def bind {α β : Type} (first : Traced α) (next : α → Traced β) : Traced β :=
  let second := next first.value
  ⟨first.journal ++ second.journal, second.value⟩

instance : Monad Traced where
  pure := Traced.pure
  bind := Traced.bind

@[simp] theorem value_pure {α : Type} (a : α) : (pure a : Traced α).value = a := rfl

@[simp] theorem journal_pure {α : Type} (a : α) : (pure a : Traced α).journal = [] := rfl

@[simp] theorem value_bind {α β : Type} (m : Traced α) (f : α → Traced β) :
    (m >>= f).value = (f m.value).value := rfl

@[simp] theorem journal_bind {α β : Type} (m : Traced α) (f : α → Traced β) :
    (m >>= f).journal = m.journal ++ (f m.value).journal := rfl

/-- One event. -/
def event (event : Event) : Traced Unit :=
  ⟨[event], ()⟩

/-- A message for the log. -/
def log (level : Level) (topic : Topic) (message : String) : Traced Unit :=
  event (.record ⟨level, topic, message⟩)

end Traced

end ModuleBundler
