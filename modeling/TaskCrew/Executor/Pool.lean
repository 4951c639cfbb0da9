import TaskCrew.Executor.Run
import TaskCrew.Ledger.Session

/-!
# Runs that share a ledger

Below the executors, several task lists can be run one after the other on one ledger and the same
counters, so failures add up and a signal that is fired stays fired.

* `Pool` — a configuration with a ledger and counters;
* `Pool.Preparation`, `Pool.prepare` — what is done to the ledger before the first run;
* `Pool.perform`, `Pool.performAll` — one run, and runs in order.
-/

namespace TaskCrew

/-- A configuration with a ledger and counters for all runs. -/
structure Pool where
  config : Config
  ledger : Ledger
  counters : Counters := {}

namespace Pool

/-- The pool of a configuration before anything is done. -/
def new (c : Config) : Pool where
  config := c
  ledger := { limit := c.normalizedErrorLimit }

/-- What can be done before the first run. -/
inductive Preparation
  | record
  | fire
  deriving DecidableEq, Repr

/-- The pool after a preparation, with whether that fired the signal. -/
def prepare (t : Pool) : Preparation → Pool × Bool
  | .record => let (l, won) := t.ledger.record; ({ t with ledger := l }, won)
  | .fire => let (l, won) := t.ledger.fire; ({ t with ledger := l }, won)

/-- The pool after preparations, with which of them fired the signal. -/
def prepareAll (t : Pool) : List Preparation → Pool × List Bool
  | [] => (t, [])
  | a :: rest =>
    let (t, won) := t.prepare a
    let (t, wins) := t.prepareAll rest
    (t, won :: wins)

/-- The pool after a run, with what the run leaves behind. -/
def perform (t : Pool) (bodies : List Body) : Pool × Account :=
  let p : Plan := ⟨t.config, bodies⟩
  let s := p.carryOut t.ledger t.counters
  ({ t with ledger := s.ledger, counters := s.counters },
    { plan := p, crew := s, result := s.return?.map fun r => r.result p })

def performAll (t : Pool) : List (List Body) → List Account
  | [] => []
  | bodies :: rest =>
    let (t, a) := t.perform bodies
    a :: t.performAll rest

end Pool

end TaskCrew
