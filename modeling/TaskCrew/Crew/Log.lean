import TaskCrew.Crew.Notice

/-!
# Logs

What the threads of a run log bears a label that names the run. A run within a task takes place on
the thread of a worker, so its entries may bear several labels.

* `RunLabel` — the label of a run, with its fields;
* `LogEntry` — what is logged, by which thread, and with which labels;
* `LogEntry.within` — an entry of a run that takes place on a thread of another run;
* `LogEntry.listedAs`, `Log.group` — entries under the names of their threads.

**Design.** The thread that calls for a run has no name until the run is part of another one: then
it is the thread of a worker.
-/

namespace TaskCrew

/-- What the log entries of a run bear. -/
structure RunLabel where
  executor : String
  workers : UInt64
  errorLimit : UInt64
  deriving DecidableEq, Repr

namespace RunLabel

/-- A stand-in for the identifier of a run, which is drawn by lot: groups of 8, 4, 4, 4 and 12
hexadecimal digits, of which the third begins with a four. -/
def identifier : String :=
  "00000000-0000-4000-8000-000000000000"

def name : String := "run"

/-- The place in the program that labels belong to. -/
def topic : String := "bounded_executor::core::executor"

def level : Level := .info

def fields (l : RunLabel) : List (String × FieldValue) :=
  [("run_id", .text identifier), ("executor", .text l.executor), ("workers", .number l.workers),
    ("error_limit", .number l.errorLimit)]

end RunLabel

/-- A log entry. -/
structure LogEntry where
  /-- The name of the thread, unless it is the one that called for the run. -/
  thread : Option String
  notice : Notice
  /-- The labels, that of the innermost run first. -/
  labels : List RunLabel
  deriving DecidableEq, Repr

namespace LogEntry

def label? (e : LogEntry) : Option RunLabel :=
  e.labels.head?

/-- An entry of a run that was called for on a thread, while that thread bore labels. -/
def within (thread : String) (labels : List RunLabel) (e : LogEntry) : LogEntry :=
  match e.thread with
  | some _ => e
  | none => { e with thread := some thread, labels := e.labels ++ labels }

/-- The name of the thread, if it is the name of a crew with a dash and more behind it. -/
def listedAs (crew : String) (e : LogEntry) : Option String :=
  e.thread.filter fun name => (crew ++ "-").toList.isPrefixOf name.toList

end LogEntry

namespace Log

/-- Entries under names, each name's in order. -/
def group (name : LogEntry → Option String) (entries : List LogEntry) :
    List (Option String × List LogEntry) :=
  (entries.map name).eraseDups.map fun n => (n, entries.filter fun e => name e == n)

end Log

end TaskCrew
