import TaskCrew.Contention
import TaskCrew.Signal.Basic

/-!
# Sessions with a signal

A session works on one signal, command after command, and answers each with what it brought about.

* `Signal.Command`, `Signal.Response` — what can be asked for, and what the answer is;
* `Signal.Session`, `Signal.Session.perform` — the signal with its listeners, and one command on it;
* `Signal.respond` — the responses to commands, each with the flag afterwards.

A command that several threads carry out at once lets them take turns; which of them fires the
signal is open, and only how many of them do is told.
-/

namespace TaskCrew.Signal

/-- What can be asked of a signal. -/
inductive Command
  | fire
  | isFired
  | listen
  /-- To look whether a listener is awake. -/
  | poll
  /-- To let a listener wait for a short while. -/
  | wait
  /-- To let several threads fire it at once. -/
  | fireTogether (threads : Nat)
  /-- To let several threads wait, and then to fire it. -/
  | wakeTogether (threads : Nat)
  deriving DecidableEq, Repr

/-- What a command brings about. -/
inductive Response
  /-- Yes or no. -/
  | verdict (value : Bool)
  | listener (index : Nat)
  | asleep
  | timedOut
  | awake
  /-- How many threads fired the signal, or woke. -/
  | threads (count : Nat)
  deriving DecidableEq, Repr

/-- The word for a response that is neither a number nor a verdict. -/
def Response.word? : Response → Option String
  | .asleep => some "Empty"
  | .timedOut => some "Timeout"
  | .awake => some "Disconnected"
  | .verdict _ | .listener _ | .threads _ => none

/-- A signal with its listeners. -/
structure Session where
  signal : Signal := {}
  listeners : Nat := 0

/-- The signal after so many threads fire it at once, with how many of them did. -/
def fireTogether (s : Signal) (threads : Nat) : Signal × Nat :=
  let (s, answers) := Contention.settle Call.step? Call.cost s
    (List.replicate threads [.fire .acquire])
  (s, answers.count (.fired true))

/-- The session after a command, with the response. -/
def Session.perform (t : Session) : Command → Session × Response
  | .fire =>
    let (s, wins) := t.signal.fireTogether 1
    ({ t with signal := s }, .verdict (wins == 1))
  | .isFired => (t, .verdict t.signal.fired)
  | .listen => ({ t with listeners := t.listeners + 1 }, .listener t.listeners)
  | .poll => (t, if t.signal.awake then .awake else .asleep)
  | .wait => (t, if t.signal.awake then .awake else .timedOut)
  | .fireTogether threads =>
    let (s, wins) := t.signal.fireTogether threads
    ({ t with signal := s }, .threads wins)
  | .wakeTogether threads =>
    let (s, _) := t.signal.fireTogether 1
    ({ t with signal := s }, .threads (if s.awake then threads else 0))

/-- The responses to commands, each with the flag afterwards. -/
def Session.respond (t : Session) : List Command → List (Response × Bool)
  | [] => []
  | c :: cs =>
    let (t, response) := t.perform c
    (response, t.signal.fired) :: t.respond cs

/-- The responses to commands on a new signal, each with the flag afterwards. -/
def respond (commands : List Command) : List (Response × Bool) :=
  Session.respond {} commands

end TaskCrew.Signal
