import TaskCrew.Executor.Run
import TaskCrew.Telemetry.Filter

/-!
# Printed log lines

* `Log.lines` — the log entries that pass a filter, as lines, thread by thread;
* `Telemetry.lines` — the lines of a run on one worker.
-/

namespace TaskCrew

/-- A log entry as it is printed. -/
structure LogLine where
  level : Level
  text : String
  deriving DecidableEq, Repr

/-- The entries that pass a filter, as lines, with the names of the threads that print any. -/
def Log.lines (f : Filter) (entries : List LogEntry) : List (Option String × List LogLine) :=
  (Log.group LogEntry.thread (entries.filter f.passes)).map fun (thread, entries) =>
    (thread, entries.map fun e => ⟨e.notice.level, e.notice.line⟩)

namespace Telemetry

/-- The name of the thread that calls for the run. -/
def callerName : String := "main"

/-- The lines that a run of tasks on one worker prints under the filter of a text, given the logs of
the runs within the tasks. Without a filter there is no run. -/
def lines (filter : Option String) (errorLimit : Int64) (bodies : List Body)
    (inner : Nat → Nat → List LogEntry) : List (String × List LogLine) :=
  match Filter.ofText filter with
  | .panicked => []
  | .returned f =>
    let a := Entry.run.call none { workerCount := 1, errorLimit := errorLimit } bodies
    (Log.lines f (a.log inner)).map fun (thread, lines) => (thread.getD callerName, lines)

end Telemetry

end TaskCrew
