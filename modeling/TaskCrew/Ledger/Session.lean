import TaskCrew.Contention
import TaskCrew.Counters
import TaskCrew.Ledger.Basic

/-!
# Sessions with a ledger

A session works on one ledger and the counters beside it, command after command, and answers each
with what it brought about.

* `Ledger.Command`, `Ledger.Response` — what can be asked for, and what the answer is;
* `Ledger.Session`, `Ledger.Session.perform` — a ledger with counters, and one command on it;
* `Ledger.respond` — the responses to commands, each with the standing of the ledger afterwards.
-/

namespace TaskCrew.Ledger

/-- What can be asked of a ledger. -/
inductive Command
  | record
  | fire
  /-- To let several threads record so many failures each, all at once. -/
  | recordTogether (threads each : Nat)
  /-- To add a number to a counter. -/
  | add (counter : Counter) (n : UInt64)
  /-- To give the statistics for a number of workers. -/
  | snapshot (workerCount : UInt64)
  deriving DecidableEq, Repr

/-- What a command brings about. -/
inductive Response
  /-- Yes or no. -/
  | verdict (value : Bool)
  | number (n : Nat)
  | stats (s : Stats)
  deriving DecidableEq, Repr

/-- A ledger with counters. -/
structure Session where
  ledger : Ledger
  counters : Counters := {}

/-- What can be told of a ledger at any time. -/
structure Standing where
  failures : UInt64
  fired : Bool
  /-- Whether the count has reached the limit. -/
  limitReached : Bool
  deriving DecidableEq, Repr

def standing (l : Ledger) : Standing :=
  ⟨l.failures, l.signal.fired, l.limitReached⟩

/-- Whether an answer says that its call fired the signal. -/
def Answer.won : Answer → Bool
  | .recorded _ won => won
  | .signal (.fired won) => won
  | _ => false

/-- The ledger after threads make their calls at once, with how many calls fired the signal. -/
def callTogether (l : Ledger) (calls : List (List Call)) : Ledger × Nat :=
  let (l, answers) := Contention.settle Call.step? Call.cost l calls
  (l, answers.countP Answer.won)

/-- The ledger after one failure was recorded, with whether that fired the signal. -/
def record (l : Ledger) : Ledger × Bool :=
  let (l, wins) := l.callTogether [[.record .acquire]]
  (l, wins == 1)

/-- The ledger after its signal was fired from outside, with whether that was the first time. -/
def fire (l : Ledger) : Ledger × Bool :=
  let (l, wins) := l.callTogether [[.signal (.fire .acquire)]]
  (l, wins == 1)

/-- The session after a command, with the response. -/
def Session.perform (t : Session) : Command → Session × Response
  | .record =>
    let (l, won) := t.ledger.record
    ({ t with ledger := l }, .verdict won)
  | .fire =>
    let (l, won) := t.ledger.fire
    ({ t with ledger := l }, .verdict won)
  | .recordTogether threads each =>
    let (l, wins) := t.ledger.callTogether
      (List.replicate threads (List.replicate each (.record .acquire)))
    ({ t with ledger := l }, .number wins)
  | .add counter n =>
    ({ t with counters := t.counters.add counter n }, .number (t.counters.get counter).toNat)
  | .snapshot workerCount => (t, .stats (t.counters.snapshot workerCount))

/-- The responses to commands, each with the standing of the ledger afterwards. -/
def Session.respond (t : Session) : List Command → List (Response × Standing)
  | [] => []
  | c :: cs =>
    let (t, response) := t.perform c
    (response, t.ledger.standing) :: t.respond cs

/-- The responses to commands on a new ledger with a limit. -/
def respond (limit : UInt64) (commands : List Command) : List (Response × Standing) :=
  Session.respond ⟨{ limit := limit }, {}⟩ commands

end TaskCrew.Ledger
