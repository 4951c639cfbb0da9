import TaskCrew.Crew.State

/-!
# Steps of a run

* `Actor`, `Choice`, `Move` — who takes a step, and in which way;
* `Crew.workerStep?`, `Crew.producerStep?`, `Crew.starterStep?`, `Crew.outsiderStep?` — the next
  step of each kind of thread;
* `Crew.step?` — the run after a move, or nothing if the move is impossible;
* `Crew.ReachesBy`, `Crew.Reaches` — the ways in which moves of a kind, or any moves, can mix.

**Design.** A step touches at most one thing that other threads may touch at the same time, so
threads mix as finely as they can. The second way of a step is for what the program does not
decide: being woken by the signal rather than served by the queue, a task that goes the other way,
a wait that is given up. A third way is for a thread that the system refuses, with what it says.

A task that is handed over without a queue passes in one step from a producer that offers it to a
worker that waits. A call that only looks at the ledger takes no step of its own.
-/

namespace TaskCrew

/-- Who takes a step. -/
inductive Actor
  | starter
  | producer
  | worker (k : Nat)
  | outsider (k : Nat)
  deriving DecidableEq, Repr

/-- In which way a step is taken. -/
inductive Choice
  | usual
  | other
  /-- The thread that is to be started is refused, for a reason that the system gives. -/
  | refused (why : String)
  deriving DecidableEq, Repr

/-- A step that may be taken. -/
structure Move where
  actor : Actor
  choice : Choice
  deriving DecidableEq, Repr

namespace Crew

/-! ## Workers -/

/-- The run after a worker has left its loop. -/
def quit (s : Crew) (k : Nat) : Crew :=
  (s.log (.worker k) (.workerExiting k)).setWorker k (.leaving false)

/-- The run after a worker took a task from the queue, found it empty for good, or was handed a task
by the producer. -/
def receive? (p : Plan) (k : Nat) (s : Crew) : Option Crew :=
  match s.queue with
  | j :: queue =>
    some (({ s with queue := queue }.record (.received k j.index)).setWorker k (.holding j))
  | [] =>
    if !s.fed then some ((s.log (.worker k) (.queueClosed k)).quit k)
    else match s.producer, s.unsent with
      | .offering, j :: unsent =>
        if p.capacity = 0 then
          some ((({ s with producer := .counting, unsent := unsent }.record (.sent j.index)).record
            (.received k j.index)).setWorker k (.holding j))
        else none
      | _, _ => none

/-- Whether what an action waits for has come about. -/
def isAwaited (s : Crew) : Action → Bool
  | .await mark n => n ≤ s.marked mark
  | .awaitSubmitted n => n ≤ s.counters.submitted
  | .awaitFailures n => !s.ledger.locked && n ≤ s.ledger.failures
  | .awaitFired => s.ledger.signal.fired
  | .signal _ | .fire | .inner _ => true

/-- The run after a worker did the next thing of a task. -/
def actStep? (k index : Nat) (a : Action) (rest : Body) (c : Choice) (s : Crew) : Option Crew :=
  match a, c with
  | .signal mark, .usual => some ((s.mark mark).setWorker k (.working index rest))
  | .fire, .usual => some (s.setWorker k (.firing index rest .acquire))
  | .inner number, .usual =>
    some ((s.record (.inner k index number)).setWorker k (.working index rest))
  | .signal _, .other | .fire, .other | .inner _, .other | _, .refused _ => none
  | a, .usual => if s.isAwaited a then some (s.setWorker k (.working index rest)) else none
  | _, .other => some ((s.record (.gaveUp k index)).setWorker k (.working index rest))

/-- The run after a task of a worker came to its end. -/
def endStep (k index : Nat) (e : Ending) (s : Crew) : Crew :=
  let s := s.record (.ended k index)
  match e with
  | .success => s.setWorker k .succeeding
  | .failure f => (s.log (.worker k) (.taskFailed k f.message)).setWorker k .failing
  | .panic _ => (s.log (.worker k) (.taskPanicked k)).setWorker k .panicking
  | .poison text => (s.log (.worker k) (.taskFailed k text)).setWorker k (.leaving true)

/-- The run after a step of recording a failure. -/
def recordStep? (k : Nat) (r : Recording) (s : Crew) : Option Crew :=
  match r.step? s.ledger with
  | none => none
  | some (l, .inl r) =>
    let s := s.withLedger l
    let s := match r with
      | .release count true => s.log (.worker k) (.limitReached count l.limit)
      | _ => s
    some (s.setWorker k (.recording r))
  | some (l, .inr _) => some ((s.withLedger l).setWorker k .checking)

/-- The run after the next step of a worker. -/
def workerStep? (p : Plan) (k : Nat) (c : Choice) (s : Crew) : Option Crew :=
  match s.workers[k]?, c with
  | some .entering, .usual =>
    some (((s.count .live).log (.worker k) (.workerStarted k)).setWorker k .checking)
  | some .checking, .usual =>
    if s.ledger.signal.fired then some ((s.log (.worker k) (.workerCancelled k)).quit k)
    else some (s.setWorker k .selecting)
  | some .selecting, .usual => s.receive? p k
  | some .selecting, .other =>
    if s.ledger.signal.awake then some ((s.log (.worker k) (.workerWoken k)).quit k) else none
  | some (.holding j), .usual =>
    if s.ledger.signal.fired then some (s.setWorker k (.dropping j))
    else some (s.setWorker k (.cleared j))
  | some (.dropping j), .usual =>
    let s := (s.count .abandoned).record (.dropped k j.index)
    some ((s.log (.worker k) (.taskDropped k)).quit k)
  | some (.cleared j), .usual => some ((s.count .started).setWorker k (.calling j))
  | some (.calling j), .usual =>
    some ((s.record (.began k j.index)).setWorker k (.working j.index j.body))
  | some (.working index (.done e)), .usual => some (s.endStep k index e)
  | some (.working index (.act a rest)), c => s.actStep? k index a rest c
  | some (.working index (.either left _)), .usual => some (s.setWorker k (.working index left))
  | some (.working index (.either _ right)), .other => some (s.setWorker k (.working index right))
  | some (.firing index rest f), .usual =>
    match f.step? s.ledger.signal with
    | none => none
    | some (g, .inl f) => some ((s.withSignal g).setWorker k (.firing index rest f))
    | some (g, .inr _) => some ((s.withSignal g).setWorker k (.working index rest))
  | some .succeeding, .usual => some ((s.count .succeeded).setWorker k .checking)
  | some .panicking, .usual => some ((s.count .panicked).setWorker k .failing)
  | some .failing, .usual => some ((s.count .failed).setWorker k (.recording .acquire))
  | some (.recording r), .usual => s.recordStep? k r
  | some (.leaving died), .usual => some (s.leave.setWorker k (.releasing died))
  | some (.releasing died), .usual => some (s.setWorker k (.gone died))
  | _, _ => none

/-! ## The producer -/

/-- The run with the producer at another place. -/
def setProducer (s : Crew) (q : Producer) : Crew :=
  { s with producer := q }

/-- The run after the producer put a task into the queue, or found that no worker is left. -/
def offer? (p : Plan) (j : Job) (unsent : List Job) (s : Crew) : Option Crew :=
  if s.isDeserted then some ((s.log .producer (.queueDisconnected j.index)).setProducer .closing)
  else if s.queue.length < p.capacity then
    some ({ s with queue := s.queue ++ [j], unsent := unsent, producer := .counting }.record
      (.sent j.index))
  else none

/-- The run after the next step of the producer. -/
def producerStep? (p : Plan) (c : Choice) (s : Crew) : Option Crew :=
  match s.producer, c with
  | .entering, .usual =>
    some (((s.count .live).log .producer (.producerStarted p.total)).setProducer .checking)
  | .checking, .usual =>
    match s.unsent with
    | [] => some (s.setProducer .closing)
    | j :: _ =>
      if s.ledger.signal.fired then
        some ((s.log .producer (.producerCancelled j.index p.total)).setProducer .closing)
      else some (s.setProducer .offering)
  | .offering, .usual =>
    match s.unsent with
    | [] => none
    | j :: unsent => s.offer? p j unsent
  | .offering, .other =>
    match s.unsent with
    | [] => none
    | j :: _ =>
      if s.ledger.signal.awake then
        some ((s.log .producer (.producerWoken j.index p.total)).setProducer .closing)
      else none
  | .counting, .usual => some ((s.count .submitted).setProducer .checking)
  | .closing, .usual =>
    some (({ s with fed := false }.log .producer .producerExiting).setProducer .leaving)
  | .leaving, .usual => some (s.leave.setProducer .gone)
  | _, _ => none

/-! ## The starter -/

/-- The run with the starter at another place. -/
def setStarter (s : Crew) (q : Starter) : Crew :=
  { s with starter := q }

/-- The run after the starter started the next thread, or was refused. -/
def startStep? (p : Plan) (started : Nat) (c : Choice) (s : Crew) : Option Crew :=
  match c with
  | .usual =>
    if ¬ p.Sound then some (s.setStarter (.returned .panicked))
    else if started < p.workers then
      let s := { s with workers := s.workers ++ [Worker.entering] }
      some (s.setStarter (.starting (started + 1)))
    else some ((s.setProducer .entering).setStarter (.joining 0 [] none))
  | .other => none
  | .refused why => if p.Sound then some (s.setStarter (.closing ⟨started, why⟩)) else none

/-- The run after the starter joined the next thread. -/
def joinStep? (p : Plan) (joined : Nat) (dead : List Nat) (refused : Option Refusal) (s : Crew) :
    Option Crew :=
  match s.workers[joined]? with
  | some (.gone true) =>
    some ((s.log .caller (.threadDied (p.workerName joined))).setStarter
      (.joining (joined + 1) (dead ++ [joined]) refused))
  | some (.gone false) => some (s.setStarter (.joining (joined + 1) dead refused))
  | some _ => none
  | none =>
    if refused.isSome ∨ s.producer = .gone then some (s.setStarter (.settling dead refused))
    else none

/-- The run after the starter settled the counters and came back. -/
def settleStep (p : Plan) (dead : List Nat) (refused : Option Refusal) (s : Crew) : Crew :=
  let left := s.counters.leftover
  let s := if left = 0 then s
    else { s with counters := s.counters.add .abandoned left }.log .caller (.leftoverDropped left)
  match refused with
  | none => s.setStarter (.returned (.finished dead))
  | some r =>
    let error := RunError.ofInternalFault (.died (dead.map p.workerName))
    let s := if dead.isEmpty then s else s.log .caller (.cleanupFailed error.message)
    s.setStarter (.returned (.refused r))

/-- The run after the next step of the starter. -/
def starterStep? (p : Plan) (c : Choice) (s : Crew) : Option Crew :=
  match s.starter, c with
  | .starting started, c => s.startStep? p started c
  | .closing r, .usual =>
    let reason := InternalFault.message (.notStarted (p.threadName r.started) r.why)
    some (({ s with fed := false }.log .caller (.startAborted reason)).setStarter
      (.aborting r .acquire))
  | .aborting r f, .usual =>
    match f.step? s.ledger.signal with
    | none => none
    | some (g, .inl f) => some ((s.withSignal g).setStarter (.aborting r f))
    | some (g, .inr _) => some ((s.withSignal g).setStarter (.joining 0 [] (some r)))
  | .joining joined dead refused, .usual => s.joinStep? p joined dead refused
  | .settling dead refused, .usual => some (s.settleStep p dead refused)
  | _, _ => none

/-! ## Calls from outside -/

/-- The run after the next step of a call of `fire` from outside. -/
def outsiderStep? (k : Nat) (c : Choice) (s : Crew) : Option Crew :=
  match s.outsiders[k]?, c with
  | some (some f), .usual =>
    match f.step? s.ledger.signal with
    | none => none
    | some (g, .inl f) =>
      some { s.withSignal g with outsiders := s.outsiders.set k (some f) }
    | some (g, .inr _) => some { s.withSignal g with outsiders := s.outsiders.set k none }
  | _, _ => none

/-! ## All together -/

def step? (p : Plan) (m : Move) (s : Crew) : Option Crew :=
  match m.actor with
  | .starter => s.starterStep? p m.choice
  | .producer => s.producerStep? p m.choice
  | .worker k => s.workerStep? p k m.choice
  | .outsider k => s.outsiderStep? k m.choice

/-- One state of a run comes from another by moves of a kind, in any order. -/
inductive ReachesBy (p : Plan) (kind : Move → Prop) (s : Crew) : Crew → Prop
  | refl : ReachesBy p kind s s
  | tail {t u : Crew} (m : Move) (reached : ReachesBy p kind s t) (allowed : kind m)
      (stepped : t.step? p m = some u) : ReachesBy p kind s u

/-- One state of a run comes from another by any moves in any order. -/
abbrev Reaches (p : Plan) : Crew → Crew → Prop :=
  ReachesBy p fun _ => True

end Crew

end TaskCrew
