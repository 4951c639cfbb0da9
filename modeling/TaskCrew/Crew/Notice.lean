import TaskCrew.Ledger.Basic
import TaskCrew.Report

/-!
# Log entries

* `Level` — how important an entry is;
* `Notice` — the entries that the threads of a run log;
* `Notice.level`, `Notice.topic`, `Notice.message`, `Notice.fields` — the importance, the place in
  the program that filters go by, the text, and the values that an entry carries, in order;
* `Notice.carried` — the names of all that an entry carries;
* `Notice.line` — an entry as a line of text.
-/

namespace TaskCrew

/-- How important a log entry is. -/
inductive Level
  | trace
  | debug
  | info
  | warn
  | error
  deriving DecidableEq, Repr

namespace Level

/-- The levels, the least important first. -/
def all : List Level :=
  [trace, debug, info, warn, error]

def word : Level → String
  | trace => "TRACE"
  | debug => "DEBUG"
  | info => "INFO"
  | warn => "WARN"
  | error => "ERROR"

/-- The place of a level, counted from the most important one. -/
def rank : Level → Nat
  | error => 1
  | warn => 2
  | info => 3
  | debug => 4
  | trace => 5

end Level

/-- The value of a field of a log entry. -/
inductive FieldValue
  | number (n : UInt64)
  | text (s : String)
  deriving DecidableEq, Repr

def FieldValue.shown : FieldValue → String
  | .number n => toString n.toNat
  | .text s => s

/-- What the threads of a run log. -/
inductive Notice
  | workerStarted (worker : Nat)
  | workerCancelled (worker : Nat)
  /-- A worker finds the queue empty for good. -/
  | queueClosed (worker : Nat)
  /-- A worker was woken by the signal. -/
  | workerWoken (worker : Nat)
  /-- A worker drops a task because the signal is fired. -/
  | taskDropped (worker : Nat)
  | workerExiting (worker : Nat)
  | taskFailed (worker : Nat) (error : String)
  | taskPanicked (worker : Nat)
  | limitReached (failures limit : UInt64)
  | producerStarted (tasks : Nat)
  | producerCancelled (index total : Nat)
  /-- The producer finds that no worker is left. -/
  | queueDisconnected (index : Nat)
  /-- The producer was woken by the signal. -/
  | producerWoken (index total : Nat)
  /-- The producer has closed the queue and is about to end. -/
  | producerExiting
  | threadDied (thread : String)
  | leftoverDropped (count : UInt64)
  | startAborted (reason : String)
  /-- Threads had died when the start was aborted. -/
  | cleanupFailed (error : String)
  | runStarted (tasks : Nat)
  | runCompleted (report : Report)
  | unsubmitted (count : UInt64)
  | runDied (error : String)
  deriving DecidableEq, Repr

namespace Notice

def level : Notice → Level
  | taskPanicked _ | limitReached _ _ | cleanupFailed _ => .warn
  | threadDied _ | startAborted _ | runDied _ => .error
  | runStarted _ | runCompleted _ => .info
  | _ => .debug

/-- The place in the program that an entry belongs to. -/
def topic : Notice → String
  | limitReached _ _ => "bounded_executor::core::state"
  | runStarted _ | runCompleted _ | unsubmitted _ => "bounded_executor::core::executor"
  | runDied _ => "bounded_executor::runtime::tokio_runtime"
  | _ => "bounded_executor::core::worker_pool"

def message : Notice → String
  | workerStarted _ => "Worker thread started"
  | workerCancelled _ => "Worker observed cancellation, exiting"
  | queueClosed _ => "Task queue closed, exiting"
  | workerWoken _ => "Cancelled while waiting, exiting"
  | taskDropped _ => "Dropping task received after cancellation"
  | workerExiting _ => "Worker thread exiting"
  | taskFailed _ _ => "Task failed"
  | taskPanicked _ => "Task panicked, counting as failure"
  | limitReached _ _ => "Error limit reached, cancelling remaining tasks"
  | producerStarted _ => "Producer started"
  | producerCancelled _ _ => "Producer observed cancellation"
  | queueDisconnected _ => "Task queue disconnected"
  | producerWoken _ _ => "Producer cancelled while submitting"
  | producerExiting => "Producer exiting, task queue closed"
  | threadDied _ => "Executor thread panicked"
  | leftoverDropped _ => "Dropped tasks left in the queue"
  | startAborted _ => "Aborting run during startup"
  | cleanupFailed _ => "Startup cleanup observed a panicked thread"
  | runStarted _ => "Run started"
  | runCompleted _ => "Run completed"
  | unsubmitted _ => "Tasks left unsubmitted after cancellation"
  | runDied _ => "Blocking run task failed to join"

def fields : Notice → List (String × FieldValue)
  | workerStarted w | workerCancelled w | queueClosed w | workerWoken w | taskDropped w
  | workerExiting w | taskPanicked w => [("worker_id", number w)]
  | taskFailed w error => [("worker_id", number w), ("error", .text error)]
  | limitReached failures limit => [("failures", .number failures), ("error_limit", .number limit)]
  | producerStarted tasks | runStarted tasks => [("tasks", number tasks)]
  | producerCancelled index total | producerWoken index total =>
    [("index", number index), ("total", number total)]
  | queueDisconnected index => [("index", number index)]
  | producerExiting => []
  | threadDied thread => [("thread", .text thread)]
  | leftoverDropped count => [("abandoned", .number count)]
  | startAborted reason => [("reason", .text reason)]
  | cleanupFailed error | runDied error => [("error", .text error)]
  | runCompleted report =>
    ("outcome", .text report.outcome.shown) ::
      [Counter.submitted, .started, .failed, .abandoned].map fun k =>
        (k.key, .number (report.stats.counters.get k))
  | unsubmitted count => [("not_submitted", .number count)]
where
  /-- The number as the value of a field. -/
  number (n : Nat) : FieldValue := .number (UInt64.ofNat n)

/-- The names of all that an entry carries: the values, the text, and how long a run took. -/
def carried (n : Notice) : List String :=
  let duration := match n with
    | runCompleted _ => ["elapsed_ms"]
    | _ => []
  "message" :: n.fields.map (·.1) ++ duration

/-- An entry as a line: the text, and each value behind its name. -/
def line (n : Notice) : String :=
  n.fields.foldl (fun text (k, v) => text ++ " " ++ k ++ "=" ++ v.shown) n.message

end Notice

end TaskCrew
