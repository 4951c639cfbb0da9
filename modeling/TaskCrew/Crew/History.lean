import TaskCrew.Crew.Log
import TaskCrew.Crew.State

/-!
# What happened in a run

Views of the history of a run.

* `Crew.began`, `Crew.ended` — the tasks in the order in which they began and ended;
* `Crew.called` — the tasks that began, in order of their numbers;
* `Crew.peak` — how many tasks were under way at the same time at most;
* `Crew.runners` — the names of the workers that began a task;
* `Crew.inner` — the runs within tasks that took place;
* `Crew.timeouts` — how many waits were given up;
* `Crew.entries` — what the threads logged, together with the logs of the runs within tasks.
-/

namespace TaskCrew

namespace Event

def began? : Event → Option Nat
  | .began _ index => some index
  | _ => none

def ended? : Event → Option Nat
  | .ended _ index => some index
  | _ => none

/-- The worker on whose thread a run took place, its task, and the number of the run within it. -/
def inner? : Event → Option (Nat × Nat × Nat)
  | .inner worker index number => some (worker, index, number)
  | _ => none

def runner? : Event → Option Nat
  | .began worker _ => some worker
  | _ => none

def isGivingUp : Event → Bool
  | .gaveUp _ _ => true
  | _ => false

end Event

namespace Crew

/-- What happened, in order. -/
def events (s : Crew) : List Event :=
  s.history.reverse

/-- The tasks in the order in which they began. -/
def began (s : Crew) : List Nat :=
  s.events.filterMap Event.began?

/-- The tasks in the order in which they ended. -/
def ended (s : Crew) : List Nat :=
  s.events.filterMap Event.ended?

/-- The tasks that began, in order of their numbers, each once. -/
def called (s : Crew) : List Nat :=
  (s.began.mergeSort (· ≤ ·)).eraseDups

def beganOnce (s : Crew) : Bool :=
  s.called.length == s.began.length

def endedAll (s : Crew) : Bool :=
  s.began.all s.ended.contains

/-- How many tasks are under way after events, and how many were at the same time at most, before
the events too. -/
def peakAfter (now most : Nat) : List Event → Nat
  | [] => most
  | .began _ _ :: events => peakAfter (now + 1) (max most (now + 1)) events
  | .ended _ _ :: events => peakAfter (now - 1) most events
  | _ :: events => peakAfter now most events

/-- How many tasks were under way at the same time at most. -/
def peak (s : Crew) : Nat :=
  peakAfter 0 0 s.events

/-- The names of the workers that began a task, in order, each once. -/
def runners (p : Plan) (s : Crew) : List String :=
  (((s.events.filterMap Event.runner?).map p.workerName).mergeSort (· ≤ ·)).eraseDups

/-- The runs within tasks that took place, by worker, task and number, in order. -/
def inner (s : Crew) : List (Nat × Nat × Nat) :=
  s.events.filterMap Event.inner?

def timeouts (s : Crew) : Nat :=
  s.history.countP Event.isGivingUp

end Crew

/-- The name of a thread of a run; the one that started it has none of its own. -/
def Plan.nameOf (p : Plan) : Thread → Option String
  | .caller => none
  | .worker k => some (p.workerName k)
  | .producer => some p.producerName

/-- What the threads of a run log, with labels. The thread that started the run has a name or not,
and the log of the run of a number within a task is known. -/
def Crew.entries (p : Plan) (labels : List RunLabel) (starter : Option String)
    (inner : Nat → Nat → List LogEntry) (s : Crew) : List LogEntry :=
  s.events.flatMap fun
    | .logged t n => [⟨(p.nameOf t).or starter, n, labels⟩]
    | .inner worker index number =>
      (inner index number).map (LogEntry.within (p.workerName worker) labels)
    | _ => []

end TaskCrew
