import TaskCrew.Body
import TaskCrew.Crew.Notice

/-!
# A run in progress

A crew works through a list of tasks: a starter starts the threads and joins them, a producer
hands tasks to a queue in order, and workers take them out and carry them out. All of them share a
ledger of failures with its signal, and counters.

* `Plan` — the configuration and the tasks of a run, and the names of its threads;
* `Worker`, `Producer`, `Starter` — where each kind of thread stands, by its next step;
* `Refusal`, `Return` — a thread that was refused, and what the starter comes back with;
* `Event` — what happened, one thing after the other;
* `Crew` — a run in progress, and `Crew.begin`, a run before its first step;
* `Crew.IsOver`, `Crew.received`, … — what can be told of a run.

**Design.** The state holds what the threads share, the place of each thread, and the history of
the run, which no step looks at. Calls of `fire` from outside the run are threads of their own, so
a signal that is fired from outside at any moment is a run like any other.
-/

namespace TaskCrew

/-! ## Plans -/

/-- The configuration and the tasks of a run. -/
structure Plan where
  config : Config
  /-- What the tasks do, in order. -/
  bodies : List Body

namespace Plan

def workers (p : Plan) : Nat :=
  p.config.workerCount.toNat

/-- How many tasks the queue holds; with none, a task is handed over from thread to thread. -/
def capacity (p : Plan) : Nat :=
  p.config.effectiveQueueCapacity.toNat

def total (p : Plan) : Nat :=
  p.bodies.length

def jobs (p : Plan) : List Job :=
  Job.number p.bodies

def workerName (p : Plan) (worker : Nat) : String :=
  p.config.threadNamePrefix ++ "-" ++ toString worker

def producerName (p : Plan) : String :=
  p.config.threadNamePrefix ++ "-producer"

/-- The name of the thread that is started after so many others: a worker, or at last the
producer. -/
def threadName (p : Plan) (started : Nat) : String :=
  if started < p.workers then p.workerName started else p.producerName

/-- Thread names hold no null character, so threads can have them. -/
def Nameable (p : Plan) : Prop :=
  '\x00' ∉ p.config.threadNamePrefix.toList

instance (p : Plan) : Decidable p.Nameable :=
  inferInstanceAs (Decidable (_ ∉ _))

/-- The greatest number of bytes that one object takes. -/
def objectBound : Nat := 9223372036854775807

/-- The queue, of 24 bytes for a task, and the list of threads, of 48 bytes for each of the workers
and the producer, are no larger than an object can be. The number of threads is one more than that of the
workers, as in a build that checks sums for overflow: without the check it wraps around for the greatest
number of workers, and the list then grows only as threads are started. -/
def Fits (p : Plan) : Prop :=
  24 * p.capacity ≤ objectBound ∧ 48 * (p.workers + 1) ≤ objectBound

instance (p : Plan) : Decidable p.Fits :=
  inferInstanceAs (Decidable (_ ∧ _))

/-- The run can begin at all. -/
def Sound (p : Plan) : Prop :=
  p.Fits ∧ p.Nameable

instance (p : Plan) : Decidable p.Sound :=
  inferInstanceAs (Decidable (_ ∧ _))

end Plan

/-! ## Where threads stand -/

/-- Where a worker stands, by its next step. -/
inductive Worker
  | entering
  /-- Looks at the flag before it takes a task. -/
  | checking
  /-- Waits for a task, for the end of the queue, or for the signal. -/
  | selecting
  /-- Has received a task, and looks at the flag again. -/
  | holding (job : Job)
  | dropping (job : Job)
  /-- Found the flag unset, and counts the task as begun. -/
  | cleared (job : Job)
  /-- Begins the task. -/
  | calling (job : Job)
  /-- Carries out a task; this is left of it. -/
  | working (index : Nat) (rest : Body)
  /-- Fires the signal as part of a task. -/
  | firing (index : Nat) (rest : Body) (f : Firing)
  /-- Counts a success. -/
  | succeeding
  /-- Counts a task that broke off. -/
  | panicking
  /-- Counts a failed task. -/
  | failing
  | recording (r : Recording)
  /-- Is about to end; it dies or not. -/
  | leaving (died : Bool)
  /-- Lets go of the queue. -/
  | releasing (died : Bool)
  | gone (died : Bool)
  deriving DecidableEq, Repr

/-- Where the producer stands, by its next step. -/
inductive Producer
  | unborn
  | entering
  /-- Looks whether tasks are left, and at the flag. -/
  | checking
  /-- Waits for room in the queue, for the end of all workers, or for the signal. -/
  | offering
  /-- Counts a task as submitted. -/
  | counting
  | closing
  | leaving
  | gone
  deriving DecidableEq, Repr

/-- A thread that the system refused to start. -/
structure Refusal where
  /-- So many threads were started before it. -/
  started : Nat
  /-- What the system said. -/
  why : String
  deriving DecidableEq, Repr

/-- What the starter comes back with. -/
inductive Return
  /-- All threads were started, and these workers died. -/
  | finished (dead : List Nat)
  | refused (r : Refusal)
  /-- The call broke off. -/
  | panicked
  deriving DecidableEq, Repr

/-- Where the starter stands, by its next step. -/
inductive Starter
  /-- Starts the next thread; so many are started. -/
  | starting (started : Nat)
  /-- Closes the queue, for the next thread was refused. -/
  | closing (r : Refusal)
  /-- Fires the signal, for a thread was refused. -/
  | aborting (r : Refusal) (f : Firing)
  /-- Joins the next thread; so many are joined, these workers are dead, and a thread was refused or
  not. -/
  | joining (joined : Nat) (dead : List Nat) (refused : Option Refusal)
  | settling (dead : List Nat) (refused : Option Refusal)
  | returned (r : Return)
  deriving DecidableEq, Repr

/-! ## What happened -/

/-- A thread of a run. -/
inductive Thread
  | caller
  | worker (k : Nat)
  | producer
  deriving DecidableEq, Repr

/-- One thing that happened in a run. -/
inductive Event
  | sent (index : Nat)
  | received (worker index : Nat)
  /-- A worker dropped a task that it had received. -/
  | dropped (worker index : Nat)
  | began (worker index : Nat)
  | ended (worker index : Nat)
  | gaveUp (worker index : Nat)
  /-- The run of a number within a task took place. -/
  | inner (worker index number : Nat)
  | logged (thread : Thread) (notice : Notice)
  deriving DecidableEq, Repr

/-! ## Runs in progress -/

/-- A run in progress. -/
structure Crew where
  ledger : Ledger
  counters : Counters
  starter : Starter
  producer : Producer
  /-- The tasks not handed over, in order; the producer offers the first. -/
  unsent : List Job
  /-- The tasks in the queue, in order. -/
  queue : List Job
  /-- The queue may still be fed. -/
  fed : Bool
  /-- Where the workers stand that were started. -/
  workers : List Worker
  /-- Where calls of `fire` from outside stand; one that has returned is nothing. -/
  outsiders : List (Option Firing)
  marks : List (String × Nat)
  /-- What happened, the latest first. -/
  history : List Event

namespace Crew

/-- A run before its first step, on a ledger and counters, with so many calls of `fire` from
outside. -/
def begin (p : Plan) (l : Ledger) (c : Counters) (outsiders : Nat) : Crew where
  ledger := l
  counters := c
  starter := .starting 0
  producer := .unborn
  unsent := p.jobs
  queue := []
  fed := true
  workers := []
  outsiders := List.replicate outsiders (some .acquire)
  marks := []
  history := []

def marked (s : Crew) (mark : String) : Nat :=
  (s.marks.lookup mark).getD 0

/-- The run with a mark counted once more. -/
def mark (s : Crew) (mark : String) : Crew :=
  { s with marks := (mark, s.marked mark + 1) :: s.marks.filter fun m => m.1 != mark }

def record (s : Crew) (e : Event) : Crew :=
  { s with history := e :: s.history }

/-- The run after a thread logged an entry. -/
def log (s : Crew) (t : Thread) (n : Notice) : Crew :=
  s.record (.logged t n)

/-- The run with a worker at another place. -/
def setWorker (s : Crew) (k : Nat) (w : Worker) : Crew :=
  { s with workers := s.workers.set k w }

def count (s : Crew) (k : Counter) : Crew :=
  { s with counters := s.counters.count k }

/-- The run with one thread fewer under way. -/
def leave (s : Crew) : Crew :=
  { s with counters := s.counters.leave }

/-- The run with its ledger in another state. -/
def withLedger (s : Crew) (l : Ledger) : Crew :=
  { s with ledger := l }

/-- The run with its signal in another state. -/
def withSignal (s : Crew) (g : Signal) : Crew :=
  { s with ledger := { s.ledger with signal := g } }

/-- Whether every worker that was started has ended. -/
def isDeserted (s : Crew) : Bool :=
  s.workers.all fun
    | .gone _ => true
    | _ => false

def return? (s : Crew) : Option Return :=
  match s.starter with
  | .returned r => some r
  | _ => none

def IsOver (s : Crew) : Prop :=
  s.return?.isSome

instance (s : Crew) : Decidable s.IsOver :=
  inferInstanceAs (Decidable (_ = true))

end Crew

end TaskCrew
