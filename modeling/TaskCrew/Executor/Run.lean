import TaskCrew.Crew.Drive
import TaskCrew.Crew.History
import TaskCrew.Executor.Basic
import TaskCrew.Exit

/-!
# Running task lists

* `Return.result` — what the threads of a run come to;
* `Executor.report?` — what a run of an executor comes to, once it is over;
* `Exit.result`, `Exit.shielded` — the result of a call, and what a caller is told that is shielded from it;
* `Entry` — the ways to have tasks run, with the executor each makes and the result each gives;
* `Executor.perform`, `Entry.call` — a run from its beginning to its end, and what it leaves behind;
* `Account.peakBounded`, … — whether a run was as it should be;
* `Account.log` — the log of a run, with those of the runs within its tasks.

**Design.** What a run comes to is a function of the state in which its threads leave it, whatever
way led there, so statements about results hold for every way in which threads can mix.

A run with a thread of its own is handed to a runtime, which joins it: a run that returned comes back
with what it returned, and one that broke off with a reason in the words of the runtime. Left out is a
runtime that is shut down before such a run has begun, and so never carries it out.
-/

namespace TaskCrew

/-- What the threads of a run come to. -/
def Return.result (p : Plan) : Return → Exit (Except RunError Unit)
  | .finished [] => .returned (.ok ())
  | .finished dead => .returned (.error (.ofInternalFault (.died (dead.map p.workerName))))
  | .refused r =>
    .returned (.error (.ofInternalFault (.notStarted (p.threadName r.started) r.why)))
  | .panicked => .panicked

namespace Executor

def plan (e : Executor) (bodies : List Body) : Plan :=
  ⟨e.config, bodies⟩

/-- The ledger that a run begins with. -/
def newLedger (e : Executor) : Ledger :=
  { limit := e.config.normalizedErrorLimit }

def begin (e : Executor) (bodies : List Body) : Crew :=
  Crew.begin (e.plan bodies) e.newLedger {} 0

/-- The report on a run as its threads left it. -/
def reportOn (e : Executor) (s : Crew) : Report :=
  ⟨if s.ledger.limitReached then .limitReached else .success,
    s.counters.snapshot e.config.workerCount⟩

/-- What a run comes to, once it is over. -/
def report? (e : Executor) (bodies : List Body) (s : Crew) :
    Option (Exit (Except RunError Report)) :=
  s.return?.map fun r =>
    match r.result (e.plan bodies) with
    | .returned (.ok ()) => .returned (.ok (e.reportOn s))
    | .returned (.error error) => .returned (.error error)
    | .panicked => .panicked

end Executor

/-! ## Entry points -/

/-- The result of a call for what its run comes to. -/
def Exit.result : Exit (Except RunError Report) → Exit (Except RunError Unit)
  | .returned r => .returned (r.bind Report.result)
  | .panicked => .panicked

/-- What a caller is told of the end of a call by the thread that shields it. If the call broke off, the
runtime says why it is lost. -/
def Exit.shielded (why : String) : Exit (Except RunError Unit) → Except RunError Unit
  | .returned r => r
  | .panicked => .error (.ofInternalFault (.notJoined why))

/-- A way to have tasks run. -/
inductive Entry
  /-- With an executor for this one run. -/
  | run
  /-- The same, for a caller that must not be kept waiting. -/
  | runAsync
  | execute
  /-- The same, for a caller that must not be kept waiting. -/
  | executeAsync
  /-- With an executor, for its report. -/
  | report
  deriving DecidableEq, Repr

namespace Entry

/-- The run takes place on a thread of its own, which shields the caller. -/
def isAsync : Entry → Bool
  | .runAsync | .executeAsync => true
  | .run | .execute | .report => false

/-- The name of the thread that starts the run, unless it is the one that calls for it. -/
def starter (entry : Entry) : Option String :=
  if entry.isAsync then some "tokio-rt-worker" else none

/-- The executor is made for each run. -/
def isOwnExecutor : Entry → Bool
  | .run | .runAsync => true
  | .execute | .executeAsync | .report => false

/-- The executor that tasks are run with. One that is made for a run takes the number of workers and
the error limit from the configuration, and nothing else. -/
def executor (entry : Entry) (name : Option String) (c : Config) : Except RunError Executor :=
  if entry.isOwnExecutor then
    Executor.ofConfig { workerCount := c.workerCount, errorLimit := c.errorLimit }
  else Executor.named (name.getD Executor.plainName) c

/-- The result that an entry gives for what the run comes to, and for what the runtime would say of a run
that is lost. -/
def result (entry : Entry) (why : String) (exit : Exit (Except RunError Report)) :
    Exit (Except RunError Unit) :=
  if entry.isAsync then .returned (exit.result.shielded why) else exit.result

/-- What the runtime says of a run that broke off. -/
def loss : String := "task panicked"

/-- The report that an entry gives for what the run comes to. -/
def report? (entry : Entry) : Exit (Except RunError Report) → Option Report
  | .returned (.ok r) => if entry = .report then some r else none
  | _ => none

end Entry

/-! ## Accounts of runs -/

/-- What a run leaves behind. -/
structure Account where
  plan : Plan
  /-- The run as its threads left it. -/
  crew : Crew
  /-- The result, if the run is over. -/
  result : Option (Exit (Except RunError Unit))
  /-- The report, if there is one. -/
  report : Option Report := none
  labels : List RunLabel := []
  /-- The name of the thread that started the run, unless it is the one that called for it. -/
  starter : Option String := none
  /-- What the caller logs before the threads begin. -/
  opening : List LogEntry := []
  /-- What the caller logs after the threads have ended. -/
  closing : List LogEntry := []

namespace Account

def brokeOff (a : Account) : Bool :=
  match a.result with
  | some .panicked => true
  | _ => false

/-- Never were more tasks under way than there are workers. -/
def peakBounded (a : Account) : Bool :=
  a.crew.peak ≤ a.plan.workers

/-- As many tasks were counted as begun as did begin. -/
def startedMatchesCalls (a : Account) (s : Stats) : Bool :=
  s.counters.started.toNat == a.crew.began.length

/-- No more tasks were submitted than there are. -/
def submittedBounded (a : Account) (s : Stats) : Bool :=
  s.counters.submitted.toNat ≤ a.plan.total

/-- As many tasks failed as the limit allows. -/
def limitReached (a : Account) (s : Stats) : Bool :=
  a.plan.config.normalizedErrorLimit ≤ s.counters.failed

/-- The log of a run, given the logs of the runs of each number within each task. -/
def log (a : Account) (inner : Nat → Nat → List LogEntry) : List LogEntry :=
  a.opening ++ a.crew.entries a.plan a.labels a.starter inner ++ a.closing

end Account

namespace Executor

/-- The label of the runs of an executor. -/
def label (e : Executor) : RunLabel :=
  ⟨e.name, e.config.workerCount, e.config.normalizedErrorLimit⟩

/-- What is logged after a run by the thread that started it, and by the one that called for it. -/
def closing (e : Executor) (entry : Entry) (tasks : Nat) :
    Exit (Except RunError Report) → List LogEntry
  | .returned (.ok r) =>
    ⟨entry.starter, .runCompleted r, [e.label]⟩ ::
      if r.outcome = .limitReached then
        [⟨entry.starter, .unsubmitted (UInt64.ofNat tasks - r.stats.counters.submitted), [e.label]⟩]
      else []
  | .returned (.error _) => []
  | .panicked => if entry.isAsync then [⟨none, .runDied Entry.loss, []⟩] else []

/-- A run from its beginning to its end. -/
def perform (e : Executor) (entry : Entry) (bodies : List Body) : Account :=
  let p := e.plan bodies
  let s := p.carryOut e.newLedger {}
  let exit := e.report? bodies s
  { plan := p
    crew := s
    result := exit.map (entry.result Entry.loss)
    report := exit.bind entry.report?
    labels := [e.label]
    starter := entry.starter
    opening := [⟨entry.starter, .runStarted p.total, [e.label]⟩]
    closing := (exit.map (e.closing entry p.total)).getD [] }

end Executor

/-- A run by way of an entry, with the executor that it makes. -/
def Entry.call (entry : Entry) (name : Option String) (c : Config) (bodies : List Body) : Account :=
  match entry.executor name c with
  | .ok e => e.perform entry bodies
  | .error error =>
    let p : Plan := ⟨c, bodies⟩
    { plan := p
      crew := Crew.begin p ⟨c.normalizedErrorLimit, 0, false, {}⟩ {} 0
      result := some (.returned (.error error)) }

end TaskCrew
