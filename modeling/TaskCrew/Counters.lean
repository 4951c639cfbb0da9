import TaskCrew.Text.Quoted

/-!
# Counters and statistics

* `Counter` — what is counted in a run;
* `Counters` — the counts, with `get` and `add`;
* `Stats`, `Counters.snapshot` — the counts together with the number of workers;
* `Stats.startedAccounted`, `Stats.submittedAccounted` — whether the counts of tasks add up;
* `Stats.shown` — statistics as a shown record.

Counts are words of 64 bits and wrap around.
-/

namespace TaskCrew

/-- What is counted in a run. -/
inductive Counter
  | submitted
  | started
  | succeeded
  /-- Tasks that failed, by an error or by breaking off. -/
  | failed
  /-- Those of the failed tasks that broke off. -/
  | panicked
  /-- Tasks handed to the queue but never begun. -/
  | abandoned
  | live
  deriving DecidableEq, Repr

namespace Counter

def all : List Counter :=
  [submitted, started, succeeded, failed, panicked, abandoned, live]

def key : Counter → String
  | submitted => "submitted"
  | started => "started"
  | succeeded => "succeeded"
  | failed => "failed"
  | panicked => "panicked"
  | abandoned => "abandoned"
  | live => "live_routines"

def ofKey? (text : String) : Option Counter :=
  all.find? fun c => c.key == text

end Counter

/-- The counts of a run. -/
structure Counters where
  submitted : UInt64 := 0
  started : UInt64 := 0
  succeeded : UInt64 := 0
  failed : UInt64 := 0
  panicked : UInt64 := 0
  /-- Tasks handed to the queue but never begun. -/
  abandoned : UInt64 := 0
  live : UInt64 := 0
  deriving DecidableEq, Repr

namespace Counters

def get (c : Counters) : Counter → UInt64
  | .submitted => c.submitted
  | .started => c.started
  | .succeeded => c.succeeded
  | .failed => c.failed
  | .panicked => c.panicked
  | .abandoned => c.abandoned
  | .live => c.live

/-- The counts after a number was added to one of them. -/
def add (c : Counters) (k : Counter) (n : UInt64) : Counters :=
  match k with
  | .submitted => { c with submitted := c.submitted + n }
  | .started => { c with started := c.started + n }
  | .succeeded => { c with succeeded := c.succeeded + n }
  | .failed => { c with failed := c.failed + n }
  | .panicked => { c with panicked := c.panicked + n }
  | .abandoned => { c with abandoned := c.abandoned + n }
  | .live => { c with live := c.live + n }

/-- The counts after one more was counted. -/
def count (c : Counters) (k : Counter) : Counters :=
  c.add k 1

/-- The counts after a thread has ended. -/
def leave (c : Counters) : Counters :=
  { c with live := c.live - 1 }

/-- How many tasks were submitted but neither begun nor abandoned; none if there are fewer. -/
def leftover (c : Counters) : UInt64 :=
  let rest := if c.started ≤ c.submitted then c.submitted - c.started else 0
  if c.abandoned ≤ rest then rest - c.abandoned else 0

theorem get_add_self (c : Counters) (k : Counter) (n : UInt64) :
    (c.add k n).get k = c.get k + n := by
  cases k <;> rfl

theorem get_add_of_ne (c : Counters) {k j : Counter} (n : UInt64) (h : j ≠ k) :
    (c.add k n).get j = c.get j := by
  cases k <;> cases j <;> simp [add, get] at h ⊢

/-- Counts that agree in every counter are the same. -/
theorem ext_get {c d : Counters} (h : ∀ k, c.get k = d.get k) : c = d := by
  cases c
  cases d
  simp only [mk.injEq]
  exact ⟨h .submitted, h .started, h .succeeded, h .failed, h .panicked, h .abandoned, h .live⟩

end Counters

/-- The statistics of a run. -/
structure Stats where
  workerCount : UInt64 := 0
  counters : Counters := {}
  deriving DecidableEq, Repr

/-- The statistics that the counts give for a number of workers. -/
def Counters.snapshot (c : Counters) (workerCount : UInt64) : Stats :=
  ⟨workerCount, c⟩

namespace Stats

/-- The statistics as names with numbers, in order. -/
def fields (s : Stats) : List (String × UInt64) :=
  ("worker_count", s.workerCount) :: Counter.all.map fun k => (k.key, s.counters.get k)

/-- Every task that was begun succeeded or failed. -/
def startedAccounted (s : Stats) : Bool :=
  s.counters.started == s.counters.succeeded + s.counters.failed

/-- Every task that was submitted was begun or abandoned. -/
def submittedAccounted (s : Stats) : Bool :=
  s.counters.submitted == s.counters.started + s.counters.abandoned

def shown (s : Stats) : String :=
  Text.shownRecord "RunStats" (s.fields.map fun (k, n) => (k, toString n.toNat))

end Stats

end TaskCrew
