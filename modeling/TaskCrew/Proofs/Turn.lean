import TaskCrew.Crew.History
import TaskCrew.Crew.Step
import Mathlib.Tactic.Common

/-!
# What one step of a run does

A step of a run is a turn of one of its threads: the thread passes from one place to another, and
what the threads share passes from one state to another.

* `WorkerTurn`, `ProducerTurn`, `StarterTurn`, `OutsiderTurn` — the turns of each kind of thread,
  one constructor for each thing that it can do, with what it finds and what it leaves;
* `Turn` — the turns of a run, by the moves that make them;
* `turn_of_step?` — every possible move is a turn;
* `marks_of_step?`, `eq_mark_of_step?` — who counts marks, and how;
* `isAwaited_of_step?` — whoever goes on from a wait and does not give it up has got what it waited for;
* `ReachesBy.invariant` — what holds at the beginning and is kept by every turn, holds of every
  state that a run reaches;
* `IsRun`, `follow` — a run as the sequence of its states, and a run given by its moves.

Whatever a run keeps is proved from the turns, so the step functions are opened here and nowhere
else. A turn says in full what it does to the ledger, the counters, the queue and the tasks; of the
log entries and the marks it says only that nothing else changes; who counts marks, and who gives up a
wait, is said apart.
-/

namespace TaskCrew

/-- Nothing happened to a task: an entry was logged, a wait was given up, or a run within a task took
place. -/
def Event.Incidental : Event → Prop
  | .gaveUp _ _ | .inner _ _ _ | .logged _ _ => True
  | _ => False

/-- What is left of a body after an action other than firing the signal, or after a choice. -/
inductive Body.GoesOn : Body → Body → Prop
  | act {a : Action} {rest : Body} (calm : a ≠ .fire) : GoesOn (.act a rest) rest
  | left {left right : Body} : GoesOn (.either left right) left
  | right {left right : Body} : GoesOn (.either left right) right

/-- Where a worker stands after a task with an ending. -/
def Worker.after : Ending → Worker
  | .success => .succeeding
  | .failure _ => .failing
  | .panic _ => .panicking
  | .poison _ => .leaving true

/-- A worker is not about to count a mark. -/
def Worker.IsSilent (w : Worker) : Prop :=
  ∀ index mark rest, w ≠ .working index (.act (.signal mark) rest)

/-! ## Calls -/

/-- The turns of a call of `fire` that go on: where it stood, the signal then, and where it stands. -/
inductive Firing.Turn (g : Signal) : Firing → Signal → Firing → Prop
  | acquire (free : g.locked = false) : Turn g .acquire { g with locked := true } .take
  | take (armed : g.armed = true) : Turn g .take { g with armed := false } .store
  | miss (unarmed : g.armed = false) : Turn g .take g (.release false)
  | store : Turn g .store { g with fired := true } .dispose
  | dispose : Turn g .dispose { g with awake := true } (.release true)

lemma Firing.turn_of_step? {g g' : Signal} {f f' : Firing} (h : f.step? g = some (g', .inl f')) :
    f.Turn g g' f' := by
  cases f with
  | acquire =>
    simp only [step?, Option.ite_none_left_eq_some, Option.some.injEq, Prod.mk.injEq,
      Sum.inl.injEq] at h
    obtain ⟨free, rfl, rfl⟩ := h
    exact .acquire (by simpa using free)
  | take =>
    simp only [step?] at h
    split at h
    · next armed => cases h; exact .take armed
    · next unarmed => cases h; exact .miss (by simpa using unarmed)
  | store => cases h; exact .store
  | dispose => cases h; exact .dispose
  | release won => cases h

/-- A call of `fire` returns after it gave the lock back. -/
lemma Firing.eq_release_of_step? {g g' : Signal} {f : Firing} {won : Bool}
    (h : f.step? g = some (g', .inr won)) :
    f = .release won ∧ g' = { g with locked := false } := by
  cases f with
  | acquire => simp [step?] at h
  | take => simp only [step?] at h; split at h <;> cases h
  | store | dispose => cases h
  | release won => cases h; exact ⟨rfl, rfl⟩

/-- The turns of a call that records a failure that go on: where it stood, the ledger then, and where
it stands. -/
inductive Recording.Turn (l : Ledger) : Recording → Ledger → Recording → Prop
  | acquire (free : l.locked = false) : Turn l .acquire { l with locked := true } .increment
  | increment : Turn l .increment { l with failures := l.failures + 1 } (.compare (l.failures + 1))
  | reach {count : UInt64} (reached : l.limit ≤ count) :
    Turn l (.compare count) l (.firing count .acquire)
  | pass {count : UInt64} (below : ¬ l.limit ≤ count) :
    Turn l (.compare count) l (.release count false)
  | fire {count : UInt64} {f f' : Firing} {g : Signal}
      (step : f.step? l.signal = some (g, .inl f')) :
    Turn l (.firing count f) { l with signal := g } (.firing count f')
  | endFiring {count : UInt64} {f : Firing} {g : Signal} {won : Bool}
      (step : f.step? l.signal = some (g, .inr won)) :
    Turn l (.firing count f) { l with signal := g } (.release count won)

lemma Recording.turn_of_step? {l l' : Ledger} {r r' : Recording}
    (h : r.step? l = some (l', .inl r')) : r.Turn l l' r' := by
  cases r with
  | acquire =>
    simp only [step?, Option.ite_none_left_eq_some, Option.some.injEq, Prod.mk.injEq,
      Sum.inl.injEq] at h
    obtain ⟨free, rfl, rfl⟩ := h
    exact .acquire (by simpa using free)
  | increment => cases h; exact .increment
  | compare count =>
    simp only [step?] at h
    split at h
    · next reached => cases h; exact .reach reached
    · next below => cases h; exact .pass below
  | firing count f =>
    simp only [step?] at h
    split at h
    · cases h
    · next step => cases h; exact .fire step
    · next step => cases h; exact .endFiring step
  | release count won => cases h

/-- A call that records a failure returns after it gave the lock back. -/
lemma Recording.eq_release_of_step? {l l' : Ledger} {r : Recording} {answer : UInt64 × Bool}
    (h : r.step? l = some (l', .inr answer)) :
    (∃ count won, r = .release count won) ∧ l' = { l with locked := false } := by
  cases r with
  | acquire => simp [step?] at h
  | increment => cases h
  | compare count => simp only [step?] at h; split at h <;> cases h
  | firing count f => simp only [step?] at h; split at h <;> cases h
  | release count won => cases h; exact ⟨⟨count, won, rfl⟩, rfl⟩

namespace Crew

/-- The run after more events, the latest first. -/
def note (s : Crew) (events : List Event) : Crew :=
  { s with history := events ++ s.history }

variable {p : Plan} {s t : Crew}

/-! ## Workers -/

/-- A worker that looks for a task, finds a reason to leave and logs it. -/
def resign (s : Crew) (k : Nat) (n : Notice) : Crew :=
  (s.log (.worker k) n).log (.worker k) (.workerExiting k)

/-- The turns of a worker: where it stood, where it stands, and the run apart from that. -/
inductive WorkerTurn (p : Plan) (k : Nat) (s : Crew) : Worker → Worker → Crew → Prop
  | enter : WorkerTurn p k s .entering .checking
      ((s.count .live).log (.worker k) (.workerStarted k))
  | cancelled (fired : s.ledger.signal.fired = true) :
    WorkerTurn p k s .checking (.leaving false) (s.resign k (.workerCancelled k))
  | wait (unfired : s.ledger.signal.fired = false) : WorkerTurn p k s .checking .selecting s
  | receive {j : Job} {queue : List Job} (front : s.queue = j :: queue) :
    WorkerTurn p k s .selecting (.holding j)
      ({ s with queue := queue }.record (.received k j.index))
  | closed (empty : s.queue = []) (unfed : s.fed = false) :
    WorkerTurn p k s .selecting (.leaving false) (s.resign k (.queueClosed k))
  | handOver {j : Job} {unsent : List Job} (empty : s.queue = []) (fed : s.fed = true)
      (offered : s.producer = .offering) (next : s.unsent = j :: unsent)
      (direct : p.capacity = 0) :
    WorkerTurn p k s .selecting (.holding j)
      (({ s with producer := .counting, unsent := unsent }.record (.sent j.index)).record
        (.received k j.index))
  | woken (awake : s.ledger.signal.awake = true) :
    WorkerTurn p k s .selecting (.leaving false) (s.resign k (.workerWoken k))
  | refuse {j : Job} (fired : s.ledger.signal.fired = true) :
    WorkerTurn p k s (.holding j) (.dropping j) s
  | clear {j : Job} (unfired : s.ledger.signal.fired = false) :
    WorkerTurn p k s (.holding j) (.cleared j) s
  | drop {j : Job} : WorkerTurn p k s (.dropping j) (.leaving false)
      (((s.count .abandoned).record (.dropped k j.index)).resign k (.taskDropped k))
  | start {j : Job} : WorkerTurn p k s (.cleared j) (.calling j) (s.count .started)
  | call {j : Job} : WorkerTurn p k s (.calling j) (.working j.index j.body)
      (s.record (.began k j.index))
  | proceed {index : Nat} {body rest : Body} (goesOn : body.GoesOn rest)
      (marks : List (String × Nat)) (events : List Event)
      (incidental : ∀ e ∈ events, e.Incidental) :
    WorkerTurn p k s (.working index body) (.working index rest)
      ({ s with marks := marks }.note events)
  | finish {index : Nat} {e : Ending} (events : List Event)
      (incidental : ∀ e ∈ events, e.Incidental) :
    WorkerTurn p k s (.working index (.done e)) (.after e)
      ((s.record (.ended k index)).note events)
  | beginFiring {index : Nat} {rest : Body} :
    WorkerTurn p k s (.working index (.act .fire rest)) (.firing index rest .acquire) s
  | fire {index : Nat} {rest : Body} {f f' : Firing} {g : Signal}
      (step : f.step? s.ledger.signal = some (g, .inl f')) :
    WorkerTurn p k s (.firing index rest f) (.firing index rest f') (s.withSignal g)
  | endFiring {index : Nat} {rest : Body} {f : Firing} {g : Signal} {won : Bool}
      (step : f.step? s.ledger.signal = some (g, .inr won)) :
    WorkerTurn p k s (.firing index rest f) (.working index rest) (s.withSignal g)
  | succeed : WorkerTurn p k s .succeeding .checking (s.count .succeeded)
  | panic : WorkerTurn p k s .panicking .failing (s.count .panicked)
  | fail : WorkerTurn p k s .failing (.recording .acquire) (s.count .failed)
  | record {r r' : Recording} {l : Ledger} (step : r.step? s.ledger = some (l, .inl r'))
      (events : List Event) (incidental : ∀ e ∈ events, e.Incidental) :
    WorkerTurn p k s (.recording r) (.recording r') ((s.withLedger l).note events)
  | endRecording {r : Recording} {l : Ledger} {answer : UInt64 × Bool}
      (step : r.step? s.ledger = some (l, .inr answer)) :
    WorkerTurn p k s (.recording r) .checking (s.withLedger l)
  | leave {died : Bool} : WorkerTurn p k s (.leaving died) (.releasing died) s.leave
  | release {died : Bool} : WorkerTurn p k s (.releasing died) (.gone died) s

/-- A worker that waits receives a task, finds the queue closed, or is handed a task. -/
lemma exists_workerTurn_of_receive? {k : Nat} (h : s.receive? p k = some t) :
    ∃ w s', WorkerTurn p k s .selecting w s' ∧ t = s'.setWorker k w := by
  rw [receive?] at h
  split at h
  · next j queue hq =>
    cases h
    exact ⟨_, _, .receive hq, rfl⟩
  · next hq =>
    split at h
    · next hf =>
      cases h
      exact ⟨_, _, .closed hq (by simpa using hf), rfl⟩
    · next hf =>
      split at h
      · next j unsent hp hu =>
        split at h
        · next hc =>
          cases h
          exact ⟨_, _, .handOver hq (by simpa using hf) hp hu hc, rfl⟩
        · cases h
      · cases h

/-- A worker that carries out an action goes on with the rest of the body. -/
lemma exists_workerTurn_of_actStep? (p : Plan) {k index : Nat} {a : Action} {rest : Body} {c : Choice}
    (h : s.actStep? k index a rest c = some t) :
    ∃ w s', WorkerTurn p k s (.working index (.act a rest)) w s' ∧ t = s'.setWorker k w := by
  have calm (ha : a ≠ .fire) (marks : List (String × Nat)) (events : List Event)
      (hi : ∀ e ∈ events, e.Incidental)
      (ht : t = ({ s with marks := marks }.note events).setWorker k (.working index rest)) :
      ∃ w s', WorkerTurn p k s (.working index (.act a rest)) w s' ∧ t = s'.setWorker k w :=
    ⟨_, _, .proceed (.act ha) marks events hi, ht⟩
  rw [actStep?.eq_def] at h
  split at h
  · next mark =>
    cases h
    exact calm (by simp) (s.mark mark).marks [] (by simp) rfl
  · cases h
    exact ⟨_, _, .beginFiring, rfl⟩
  · cases h
    exact calm (by simp) s.marks [_] (by simp [Event.Incidental]) rfl
  · cases h
  · cases h
  · cases h
  · cases h
  · next hfire _ =>
    split at h
    · cases h
      exact calm (by rintro rfl; exact hfire rfl) s.marks [] (by simp) rfl
    · cases h
  · next hfire _ =>
    cases h
    exact calm (by rintro rfl; exact hfire rfl) s.marks [_] (by simp [Event.Incidental]) rfl

/-- A worker that records a failure goes on recording it, or is done with it. -/
lemma exists_workerTurn_of_recordStep? (p : Plan) {k : Nat} {r : Recording}
    (h : s.recordStep? k r = some t) :
    ∃ w s', WorkerTurn p k s (.recording r) w s' ∧ t = s'.setWorker k w := by
  rw [recordStep?] at h
  split at h
  · cases h
  · next l r' step =>
    cases h
    split
    · exact ⟨_, _, .record step [_] (by simp [Event.Incidental]), rfl⟩
    · exact ⟨_, _, .record step [] (by simp), rfl⟩
  · next l answer step =>
    cases h
    exact ⟨_, _, .endRecording step, rfl⟩

/-- Where a worker stood before its step, and what its turn was. -/
lemma exists_workerTurn {k : Nat} {c : Choice} (h : s.workerStep? p k c = some t) :
    ∃ w w' s', s.workers[k]? = some w ∧ WorkerTurn p k s w w' s' ∧ t = s'.setWorker k w' := by
  rw [workerStep?.eq_def] at h
  split at h
  case h_1 hw => cases h; exact ⟨_, _, _, hw, .enter, rfl⟩
  case h_2 hw =>
    split at h
    · next hf => cases h; exact ⟨_, _, _, hw, .cancelled hf, rfl⟩
    · next hf => cases h; exact ⟨_, _, _, hw, .wait (by simpa using hf), rfl⟩
  case h_3 hw =>
    obtain ⟨w, s', turn, rfl⟩ := exists_workerTurn_of_receive? h
    exact ⟨_, _, _, hw, turn, rfl⟩
  case h_4 hw =>
    split at h
    · next ha => cases h; exact ⟨_, _, _, hw, .woken ha, rfl⟩
    · cases h
  case h_5 hw =>
    split at h
    · next hf => cases h; exact ⟨_, _, _, hw, .refuse hf, rfl⟩
    · next hf => cases h; exact ⟨_, _, _, hw, .clear (by simpa using hf), rfl⟩
  case h_6 hw => cases h; exact ⟨_, _, _, hw, .drop, rfl⟩
  case h_7 hw => cases h; exact ⟨_, _, _, hw, .start, rfl⟩
  case h_8 hw => cases h; exact ⟨_, _, _, hw, .call, rfl⟩
  case h_9 index e hw =>
    cases h
    cases e with
    | success => exact ⟨_, _, _, hw, .finish [] (by simp), rfl⟩
    | failure | panic | poison =>
      exact ⟨_, _, _, hw, .finish [_] (by simp [Event.Incidental]), rfl⟩
  case h_10 hw =>
    obtain ⟨w, s', turn, rfl⟩ := exists_workerTurn_of_actStep? p h
    exact ⟨_, _, _, hw, turn, rfl⟩
  case h_11 hw =>
    cases h
    exact ⟨_, _, _, hw, .proceed .left s.marks [] (by simp), rfl⟩
  case h_12 hw =>
    cases h
    exact ⟨_, _, _, hw, .proceed .right s.marks [] (by simp), rfl⟩
  case h_13 hw =>
    split at h
    · cases h
    · next step => cases h; exact ⟨_, _, _, hw, .fire step, rfl⟩
    · next step => cases h; exact ⟨_, _, _, hw, .endFiring step, rfl⟩
  case h_14 hw => cases h; exact ⟨_, _, _, hw, .succeed, rfl⟩
  case h_15 hw => cases h; exact ⟨_, _, _, hw, .panic, rfl⟩
  case h_16 hw => cases h; exact ⟨_, _, _, hw, .fail, rfl⟩
  case h_17 hw =>
    obtain ⟨w, s', turn, rfl⟩ := exists_workerTurn_of_recordStep? p h
    exact ⟨_, _, _, hw, turn, rfl⟩
  case h_18 hw => cases h; exact ⟨_, _, _, hw, .leave, rfl⟩
  case h_19 hw => cases h; exact ⟨_, _, _, hw, .release, rfl⟩
  case h_20 => cases h

namespace WorkerTurn

variable {k : Nat} {w w' : Worker} {s' : Crew}

lemma workers_eq (h : WorkerTurn p k s w w' s') : s'.workers = s.workers := by
  cases h <;> rfl

lemma setWorker_workers (h : WorkerTurn p k s w w' s') :
    (s'.setWorker k w').workers = s.workers.set k w' := by
  rw [setWorker, h.workers_eq]

lemma starter_eq (h : WorkerTurn p k s w w' s') : s'.starter = s.starter := by
  cases h <;> rfl

lemma outsiders_eq (h : WorkerTurn p k s w w' s') : s'.outsiders = s.outsiders := by
  cases h <;> rfl

lemma fed_eq (h : WorkerTurn p k s w w' s') : s'.fed = s.fed := by
  cases h <;> rfl

/-- A worker moves the producer only by taking a task out of its hands. -/
lemma producer_eq_or (h : WorkerTurn p k s w w' s') :
    s'.producer = s.producer ∨ s.producer = .offering ∧ s'.producer = .counting := by
  cases h
  case handOver offered _ _ => exact .inr ⟨offered, rfl⟩
  all_goals exact .inl rfl

/-- A worker that has ended takes no turn. -/
lemma ne_gone (h : WorkerTurn p k s w w' s') (died : Bool) : w ≠ .gone died := by
  rintro rfl
  cases h

end WorkerTurn

/-! ## The producer -/

/-- The turns of the producer: where it stood, where it stands, and the run apart from that. -/
inductive ProducerTurn (p : Plan) (s : Crew) : Producer → Producer → Crew → Prop
  | enter : ProducerTurn p s .entering .checking
      ((s.count .live).log .producer (.producerStarted p.total))
  | exhausted (sent : s.unsent = []) : ProducerTurn p s .checking .closing s
  | cancelled {j : Job} {unsent : List Job} (next : s.unsent = j :: unsent)
      (fired : s.ledger.signal.fired = true) :
    ProducerTurn p s .checking .closing
      (s.log .producer (.producerCancelled j.index p.total))
  | offer {j : Job} {unsent : List Job} (next : s.unsent = j :: unsent)
      (unfired : s.ledger.signal.fired = false) :
    ProducerTurn p s .checking .offering s
  | deserted {j : Job} {unsent : List Job} (next : s.unsent = j :: unsent)
      (deserted : s.isDeserted = true) :
    ProducerTurn p s .offering .closing (s.log .producer (.queueDisconnected j.index))
  | send {j : Job} {unsent : List Job} (next : s.unsent = j :: unsent)
      (manned : s.isDeserted = false) (room : s.queue.length < p.capacity) :
    ProducerTurn p s .offering .counting
      ({ s with queue := s.queue ++ [j], unsent := unsent }.record (.sent j.index))
  | woken {j : Job} {unsent : List Job} (next : s.unsent = j :: unsent)
      (awake : s.ledger.signal.awake = true) :
    ProducerTurn p s .offering .closing (s.log .producer (.producerWoken j.index p.total))
  | count : ProducerTurn p s .counting .checking (s.count .submitted)
  | close : ProducerTurn p s .closing .leaving ({ s with fed := false }.log .producer .producerExiting)
  | leave : ProducerTurn p s .leaving .gone s.leave

namespace ProducerTurn

variable {q q' : Producer} {s' : Crew}

lemma workers_eq (h : ProducerTurn p s q q' s') : s'.workers = s.workers := by
  cases h <;> rfl

lemma starter_eq (h : ProducerTurn p s q q' s') : s'.starter = s.starter := by
  cases h <;> rfl

lemma outsiders_eq (h : ProducerTurn p s q q' s') : s'.outsiders = s.outsiders := by
  cases h <;> rfl

lemma ledger_eq (h : ProducerTurn p s q q' s') : s'.ledger = s.ledger := by
  cases h <;> rfl

end ProducerTurn

/-- What the turn of the producer was. -/
lemma exists_producerTurn {c : Choice} (h : s.producerStep? p c = some t) :
    ∃ q s', ProducerTurn p s s.producer q s' ∧ t = s'.setProducer q := by
  rw [producerStep?.eq_def] at h
  split at h
  case h_1 hq => cases h; rw [hq]; exact ⟨_, _, .enter, rfl⟩
  case h_2 hq =>
    rw [hq]
    split at h
    · next hu => cases h; exact ⟨_, _, .exhausted hu, rfl⟩
    · next hu =>
      split at h
      · next hf => cases h; exact ⟨_, _, .cancelled hu hf, rfl⟩
      · next hf => cases h; exact ⟨_, _, .offer hu (by simpa using hf), rfl⟩
  case h_3 hq =>
    rw [hq]
    split at h
    · cases h
    · next hu =>
      rw [offer?] at h
      split at h
      · next hd => cases h; exact ⟨_, _, .deserted hu hd, rfl⟩
      · next hd =>
        split at h
        · next hr => cases h; exact ⟨_, _, .send hu (by simpa using hd) hr, rfl⟩
        · cases h
  case h_4 hq =>
    rw [hq]
    split at h
    · cases h
    · next hu =>
      split at h
      · next ha => cases h; exact ⟨_, _, .woken hu ha, rfl⟩
      · cases h
  case h_5 hq => cases h; rw [hq]; exact ⟨_, _, .count, rfl⟩
  case h_6 hq => cases h; rw [hq]; exact ⟨_, _, .close, rfl⟩
  case h_7 hq => cases h; rw [hq]; exact ⟨_, _, .leave, rfl⟩
  case h_8 => cases h

/-! ## The starter -/

/-- The turns of the starter: where it stood, where it stands, and the run apart from that. It is
refused a thread only if the system says so. -/
inductive StarterTurn (p : Plan) (s : Crew) : Choice → Starter → Starter → Crew → Prop
  | breakOff {started : Nat} (unsound : ¬ p.Sound) :
    StarterTurn p s .usual (.starting started) (.returned .panicked) s
  | startWorker {started : Nat} (sound : p.Sound) (few : started < p.workers) :
    StarterTurn p s .usual (.starting started) (.starting (started + 1))
      { s with workers := s.workers ++ [.entering] }
  | startProducer {started : Nat} (sound : p.Sound) (all : p.workers ≤ started) :
    StarterTurn p s .usual (.starting started) (.joining 0 [] none) (s.setProducer .entering)
  | refused {started : Nat} (why : String) (sound : p.Sound) :
    StarterTurn p s (.refused why) (.starting started) (.closing ⟨started, why⟩) s
  | close {r : Refusal} (reason : String) :
    StarterTurn p s .usual (.closing r) (.aborting r .acquire)
      ({ s with fed := false }.log .caller (.startAborted reason))
  | fire {r : Refusal} {f f' : Firing} {g : Signal}
      (step : f.step? s.ledger.signal = some (g, .inl f')) :
    StarterTurn p s .usual (.aborting r f) (.aborting r f') (s.withSignal g)
  | endFiring {r : Refusal} {f : Firing} {g : Signal} {won : Bool}
      (step : f.step? s.ledger.signal = some (g, .inr won)) :
    StarterTurn p s .usual (.aborting r f) (.joining 0 [] (some r)) (s.withSignal g)
  | joinDead {joined : Nat} {dead : List Nat} {refused : Option Refusal}
      (gone : s.workers[joined]? = some (.gone true)) :
    StarterTurn p s .usual (.joining joined dead refused)
      (.joining (joined + 1) (dead ++ [joined]) refused)
      (s.log .caller (.threadDied (p.workerName joined)))
  | join {joined : Nat} {dead : List Nat} {refused : Option Refusal}
      (gone : s.workers[joined]? = some (.gone false)) :
    StarterTurn p s .usual (.joining joined dead refused) (.joining (joined + 1) dead refused) s
  | joinLast {joined : Nat} {dead : List Nat} {refused : Option Refusal}
      (all : s.workers.length ≤ joined) (gone : refused.isSome ∨ s.producer = .gone) :
    StarterTurn p s .usual (.joining joined dead refused) (.settling dead refused) s
  | settle {dead : List Nat} {refused : Option Refusal} (events : List Event)
      (incidental : ∀ e ∈ events, e.Incidental) :
    StarterTurn p s .usual (.settling dead refused)
      (.returned (match refused with
        | none => .finished dead
        | some r => .refused r))
      ({ s with counters := s.counters.add .abandoned s.counters.leftover }.note events)

namespace StarterTurn

variable {c : Choice} {q q' : Starter} {s' : Crew}

lemma outsiders_eq (h : StarterTurn p s c q q' s') : s'.outsiders = s.outsiders := by
  cases h <;> rfl

lemma unsent_eq (h : StarterTurn p s c q q' s') : s'.unsent = s.unsent := by
  cases h <;> rfl

lemma queue_eq (h : StarterTurn p s c q q' s') : s'.queue = s.queue := by
  cases h <;> rfl

/-- The starter brings in workers that begin, and no others. -/
lemma mem_workers (h : StarterTurn p s c q q' s') {w : Worker} (mem : w ∈ s'.workers) :
    w ∈ s.workers ∨ w = .entering := by
  cases h
  case startWorker => simpa using mem
  all_goals exact .inl mem

end StarterTurn

/-- Settling adds what is left over to the abandoned tasks, and nothing if nothing is left over. -/
lemma exists_starterTurn_settleStep (p : Plan) (s : Crew) (dead : List Nat)
    (refused : Option Refusal) :
    ∃ q s', StarterTurn p s .usual (.settling dead refused) q s' ∧
      s.settleStep p dead refused = s'.setStarter q := by
  have settled : ∃ events : List Event, (∀ e ∈ events, e.Incidental) ∧
      (if s.counters.leftover = 0 then s
        else { s with counters := s.counters.add .abandoned s.counters.leftover }.log .caller
          (.leftoverDropped s.counters.leftover)) =
      { s with counters := s.counters.add .abandoned s.counters.leftover }.note events := by
    split
    · next h =>
      refine ⟨[], by simp, ?_⟩
      simp [h, note, Counters.add]
    · exact ⟨[_], by simp [Event.Incidental], rfl⟩
  obtain ⟨events, incidental, he⟩ := settled
  simp only [settleStep, he]
  cases refused with
  | none => exact ⟨_, _, .settle events incidental, rfl⟩
  | some r =>
    by_cases hd : dead.isEmpty
    · exact ⟨_, _, .settle events incidental, by simp [hd]⟩
    · refine ⟨_, _, .settle (.logged .caller (.cleanupFailed
        (RunError.ofInternalFault (.died (dead.map p.workerName))).message) :: events) ?_, ?_⟩
      · intro e h
        rcases List.mem_cons.1 h with rfl | h
        · trivial
        · exact incidental e h
      · rw [if_neg hd]
        rfl

/-- A starter that starts threads starts a worker or the producer, is refused, or breaks off. -/
lemma exists_starterTurn_of_startStep? {started : Nat} {c : Choice}
    (h : s.startStep? p started c = some t) :
    ∃ q s', StarterTurn p s c (.starting started) q s' ∧ t = s'.setStarter q := by
  cases c with
  | usual =>
    simp only [startStep?] at h
    split at h
    · next hs => cases h; exact ⟨_, _, .breakOff hs, rfl⟩
    · next hs =>
      split at h
      · next hn => cases h; exact ⟨_, _, .startWorker (not_not.1 hs) hn, rfl⟩
      · next hn =>
        cases h
        exact ⟨_, _, .startProducer (not_not.1 hs) (Nat.le_of_not_lt hn), rfl⟩
  | other => cases h
  | refused why =>
    simp only [startStep?] at h
    split at h
    · next hs => cases h; exact ⟨_, _, .refused why hs, rfl⟩
    · cases h

/-- A starter that joins threads joins the next one, or finds that it was the last. -/
lemma exists_starterTurn_of_joinStep? {joined : Nat} {dead : List Nat} {refused : Option Refusal}
    (h : s.joinStep? p joined dead refused = some t) :
    ∃ q s', StarterTurn p s .usual (.joining joined dead refused) q s' ∧ t = s'.setStarter q := by
  rw [joinStep?] at h
  split at h
  · next hw => cases h; exact ⟨_, _, .joinDead hw, rfl⟩
  · next hw => cases h; exact ⟨_, _, .join hw, rfl⟩
  · cases h
  · next hw =>
    split at h
    · next hr => cases h; exact ⟨_, _, .joinLast (List.getElem?_eq_none_iff.1 hw) hr, rfl⟩
    · cases h

/-- What the turn of the starter was. -/
lemma exists_starterTurn {c : Choice} (h : s.starterStep? p c = some t) :
    ∃ q s', StarterTurn p s c s.starter q s' ∧ t = s'.setStarter q := by
  rw [starterStep?.eq_def] at h
  split at h
  case h_1 hq => rw [hq]; exact exists_starterTurn_of_startStep? h
  case h_2 hq => cases h; rw [hq]; exact ⟨_, _, .close _, rfl⟩
  case h_3 hq =>
    rw [hq]
    split at h
    · cases h
    · next step => cases h; exact ⟨_, _, .fire step, rfl⟩
    · next step => cases h; exact ⟨_, _, .endFiring step, rfl⟩
  case h_4 hq => rw [hq]; exact exists_starterTurn_of_joinStep? h
  case h_5 hq =>
    cases h
    rw [hq]
    exact exists_starterTurn_settleStep p s _ _
  case h_6 => cases h

/-! ## Calls from outside -/

/-- The run with a call from outside at another place. -/
def setOutsider (s : Crew) (k : Nat) (call : Option Firing) : Crew :=
  { s with outsiders := s.outsiders.set k call }

/-- The turns of a call of `fire` from outside: where it stood, where it stands, and the run apart
from that. -/
inductive OutsiderTurn (s : Crew) : Firing → Option Firing → Crew → Prop
  | fire {f f' : Firing} {g : Signal} (step : f.step? s.ledger.signal = some (g, .inl f')) :
    OutsiderTurn s f (some f') (s.withSignal g)
  | endFiring {f : Firing} {g : Signal} {won : Bool}
      (step : f.step? s.ledger.signal = some (g, .inr won)) :
    OutsiderTurn s f none (s.withSignal g)

/-- Where a call from outside stood before its step, and what its turn was. -/
lemma exists_outsiderTurn {k : Nat} {c : Choice} (h : s.outsiderStep? k c = some t) :
    ∃ f f' s', s.outsiders[k]? = some (some f) ∧ OutsiderTurn s f f' s' ∧
      t = s'.setOutsider k f' := by
  rw [outsiderStep?.eq_def] at h
  split at h
  · next hf =>
    split at h
    · cases h
    · next step => cases h; exact ⟨_, _, _, hf, .fire step, rfl⟩
    · next step => cases h; exact ⟨_, _, _, hf, .endFiring step, rfl⟩
  · cases h

/-! ## All together -/

/-- The turns of a run, by the moves that make them. -/
inductive Turn (p : Plan) (s : Crew) : Move → Crew → Prop
  | worker {k : Nat} {c : Choice} {w w' : Worker} {s' : Crew} (place : s.workers[k]? = some w)
      (turn : WorkerTurn p k s w w' s') : Turn p s ⟨.worker k, c⟩ (s'.setWorker k w')
  | producer {c : Choice} {q q' : Producer} {s' : Crew} (place : s.producer = q)
      (turn : ProducerTurn p s q q' s') : Turn p s ⟨.producer, c⟩ (s'.setProducer q')
  | starter {c : Choice} {q q' : Starter} {s' : Crew} (place : s.starter = q)
      (turn : StarterTurn p s c q q' s') : Turn p s ⟨.starter, c⟩ (s'.setStarter q')
  | outsider {k : Nat} {c : Choice} {f : Firing} {f' : Option Firing} {s' : Crew}
      (place : s.outsiders[k]? = some (some f)) (turn : OutsiderTurn s f f' s') :
    Turn p s ⟨.outsider k, c⟩ (s'.setOutsider k f')

/-- Every possible move is a turn of the thread that makes it. -/
theorem turn_of_step? {m : Move} (h : s.step? p m = some t) : Turn p s m t := by
  obtain ⟨actor, c⟩ := m
  cases actor with
  | starter =>
    obtain ⟨q, s', turn, rfl⟩ := exists_starterTurn h
    exact .starter rfl turn
  | producer =>
    obtain ⟨q, s', turn, rfl⟩ := exists_producerTurn h
    exact .producer rfl turn
  | worker k =>
    obtain ⟨w, w', s', place, turn, rfl⟩ := exists_workerTurn h
    exact .worker place turn
  | outsider k =>
    obtain ⟨f, f', s', place, turn, rfl⟩ := exists_outsiderTurn h
    exact .outsider place turn

/-- What holds of every worker goes on to hold of every worker if it holds of one that begins and is
kept by the turns of workers. -/
lemma Turn.forall_workers {m : Move} {P : Worker → Prop} (h : Turn p s m t)
    (all : ∀ w ∈ s.workers, P w) (entering : P .entering)
    (step : ∀ {k w w' s'}, s.workers[k]? = some w → WorkerTurn p k s w w' s' → P w → P w') :
    ∀ w ∈ t.workers, P w := by
  cases h with
  | worker place turn =>
    intro w mem
    rw [setWorker, turn.workers_eq] at mem
    rcases List.mem_or_eq_of_mem_set mem with mem | rfl
    · exact all w mem
    · exact step place turn (all _ (List.mem_of_getElem? place))
  | producer place turn =>
    rw [setProducer, turn.workers_eq]
    exact all
  | starter place turn =>
    intro w mem
    rcases turn.mem_workers mem with mem | rfl
    · exact all w mem
    · exact entering
  | outsider place turn => cases turn <;> exact all

/-- Only a turn of the starter moves it. -/
lemma Turn.starter_or {m : Move} (h : Turn p s m t) : t.starter = s.starter ∨
    ∃ c q q' s', m = ⟨.starter, c⟩ ∧ s.starter = q ∧ StarterTurn p s c q q' s' ∧
      t = s'.setStarter q' := by
  cases h with
  | worker place turn => exact .inl turn.starter_eq
  | producer place turn => exact .inl turn.starter_eq
  | starter place turn => exact .inr ⟨_, _, _, _, rfl, place, turn, rfl⟩
  | outsider place turn => exact .inl (by cases turn <;> rfl)

/-- No turn changes the limit of the ledger. -/
lemma Turn.limit_eq {m : Move} (h : Turn p s m t) : t.ledger.limit = s.ledger.limit := by
  cases h with
  | worker place turn =>
    cases turn with
    | record step => cases Recording.turn_of_step? step <;> rfl
    | endRecording step =>
      obtain ⟨-, rfl⟩ := Recording.eq_release_of_step? step
      rfl
    | _ => rfl
  | producer place turn => exact congrArg Ledger.limit turn.ledger_eq
  | starter place turn => cases turn <;> rfl
  | outsider place turn => cases turn <;> rfl

/-! ## Marks -/

lemma lookup_filter_of_ne {marks : List (String × Nat)} {mark other : String} (ne : other ≠ mark) :
    (marks.filter fun m => m.1 != mark).lookup other = marks.lookup other := by
  induction marks with
  | nil => rfl
  | cons m marks ih =>
    by_cases same : m.1 = mark
    · have differs : (other == m.1) = false := by simpa [same] using ne
      rw [List.filter_cons_of_neg (by simp [same]), ih, List.lookup_cons, differs]
    · rw [List.filter_cons_of_pos (by simpa using same), List.lookup_cons, List.lookup_cons, ih]

lemma marked_mark (s : Crew) (mark other : String) :
    (s.mark mark).marked other = s.marked other + (mark == other).toNat := by
  by_cases same : other = mark
  · simp [Crew.mark, marked, same]
  · have differs : (other == mark) = false := by simpa using same
    have differs' : (mark == other) = false := by simpa using Ne.symm same
    simp [Crew.mark, marked, List.lookup_cons, differs, differs', lookup_filter_of_ne same]

lemma marked_congr (mark : String) (marks : t.marks = s.marks) : t.marked mark = s.marked mark := by
  rw [marked, marks, marked]

/-- A worker that counts a mark does nothing else. -/
lemma eq_mark_of_step? {k index : Nat} {mark : String} {rest : Body} {c : Choice}
    (place : s.workers[k]? = some (.working index (.act (.signal mark) rest)))
    (h : s.step? p ⟨.worker k, c⟩ = some t) :
    t = (s.mark mark).setWorker k (.working index rest) := by
  cases c with
  | usual => simpa [step?, workerStep?, place, actStep?, eq_comm] using h
  | other | refused => simp [step?, workerStep?, place, actStep?] at h

/-- No other action counts marks. -/
lemma marks_of_actStep? {k index : Nat} {a : Action} {rest : Body} {c : Choice}
    (silent : ∀ mark, a ≠ .signal mark) (h : s.actStep? k index a rest c = some t) :
    t.marks = s.marks := by
  rw [actStep?.eq_def] at h
  split at h
  case h_1 mark => exact absurd rfl (silent mark)
  case h_2 | h_3 => cases h; rfl
  case h_4 | h_5 | h_6 | h_7 => cases h
  case h_8 =>
    split at h
    · cases h; rfl
    · cases h
  case h_9 => cases h; rfl

/-- Nobody else counts marks. -/
lemma marks_of_step? {m : Move} (h : s.step? p m = some t)
    (silent : ∀ k w, m.actor = .worker k → s.workers[k]? = some w → w.IsSilent) :
    t.marks = s.marks := by
  have turn := turn_of_step? h
  cases turn with
  | @worker k c w w' s' place turn =>
    cases turn with
    | @proceed index body rest goesOn =>
      cases goesOn with
      | @act a rest calm =>
        refine marks_of_actStep? (a := a) (k := k) ?_ (by simpa [step?, workerStep?, place] using h)
        rintro mark rfl
        exact silent k _ rfl place index mark rest rfl
      | left | right =>
        have marks := congrArg (Option.map Crew.marks) h
        cases c with
        | usual | other => simpa [step?, workerStep?, place, setWorker, eq_comm] using marks
        | refused why => simp [step?, workerStep?, place] at h
    | _ => rfl
  | producer place turn => cases turn <;> rfl
  | starter place turn => cases turn <;> rfl
  | outsider place turn => cases turn <;> rfl

/-- Marks are never counted down. -/
lemma marked_le_of_step? {m : Move} (h : s.step? p m = some t) (mark : String) :
    s.marked mark ≤ t.marked mark := by
  by_cases silent : ∀ k w, m.actor = .worker k → s.workers[k]? = some w → w.IsSilent
  · exact Nat.le_of_eq (marked_congr mark (marks_of_step? h silent)).symm
  · simp only [Worker.IsSilent, ne_eq, not_forall, not_not] at silent
    obtain ⟨k, w, actor, place, index, other, rest, rfl⟩ := silent
    obtain ⟨a, c⟩ := m
    subst actor
    rw [eq_mark_of_step? place h]
    exact Nat.le.intro (s.marked_mark other mark).symm

/-! ## Waits -/

/-- A worker that does the next thing of a task, and gives up no wait, has got what it waited for. -/
lemma isAwaited_of_step? {k index : Nat} {a : Action} {rest : Body} {c : Choice}
    (place : s.workers[k]? = some (.working index (.act a rest)))
    (h : s.step? p ⟨.worker k, c⟩ = some t) (patient : t.timeouts = s.timeouts) :
    s.isAwaited a = true := by
  have acts : s.actStep? k index a rest c = some t := by simpa [step?, workerStep?, place] using h
  rw [actStep?.eq_def] at acts
  split at acts
  case h_1 | h_2 | h_3 => rfl
  case h_4 | h_5 | h_6 | h_7 => cases acts
  case h_8 =>
    split at acts
    · assumption
    · cases acts
  case h_9 =>
    cases acts
    have more : List.countP Event.isGivingUp (.gaveUp k index :: s.history) = s.timeouts + 1 :=
      List.countP_cons_of_pos rfl
    exact absurd (more.symm.trans patient) (Nat.succ_ne_self _)

/-! ## Runs -/

/-- What holds at the beginning and is kept by every turn holds of every state that is reached. -/
theorem ReachesBy.invariant {kind : Move → Prop} {I : Crew → Prop} (h : ReachesBy p kind s t)
    (base : I s)
    (step : ∀ {m u v}, ReachesBy p kind s u → kind m → Turn p u m v → I u → I v) : I t := by
  induction h with
  | refl => exact base
  | tail m reached allowed stepped ih => exact step reached allowed (turn_of_step? stepped) ih

/-- Fewer kinds of moves reach no more states. -/
theorem ReachesBy.mono {kind kind' : Move → Prop} (h : ReachesBy p kind s t)
    (imp : ∀ m, kind m → kind' m) : ReachesBy p kind' s t := by
  induction h with
  | refl => exact .refl
  | tail m _ allowed stepped ih => exact .tail m ih (imp m allowed) stepped

theorem ReachesBy.trans {kind : Move → Prop} {u : Crew} (h : ReachesBy p kind s t)
    (h' : ReachesBy p kind t u) : ReachesBy p kind s u := by
  induction h' with
  | refl => exact h
  | tail m _ allowed stepped ih => exact .tail m ih allowed stepped

/-- A run by moves of a kind, as the sequence of its states; it may stand still. -/
def IsRun (p : Plan) (kind : Move → Prop) (run : Nat → Crew) : Prop :=
  ∀ n, (∃ m, kind m ∧ (run n).step? p m = some (run (n + 1))) ∨ run (n + 1) = run n

lemma IsRun.reaches {kind : Move → Prop} {run : Nat → Crew} (h : IsRun p kind run) (n : Nat) :
    ReachesBy p kind (run 0) (run n) := by
  induction n with
  | zero => exact .refl
  | succ n ih =>
    rcases h n with ⟨m, allowed, stepped⟩ | still
    · exact .tail m ih allowed stepped
    · rw [still]; exact ih

/-- Every state that is reached is one of a run. -/
lemma ReachesBy.exists_isRun {kind : Move → Prop} (h : ReachesBy p kind s t) :
    ∃ run n, run 0 = s ∧ IsRun p kind run ∧ run n = t := by
  induction h with
  | refl => exact ⟨fun _ => s, 0, rfl, fun _ => .inr rfl, rfl⟩
  | @tail t u m _ allowed stepped ih =>
    obtain ⟨run, n, begins, isRun, rfl⟩ := ih
    -- the run goes on with the last move and stands still from then on
    have past {i : Nat} (lt : n < i) : (if i ≤ n then run i else u) = u := if_neg (Nat.not_le_of_gt lt)
    refine ⟨fun i => if i ≤ n then run i else u, n + 1, by simpa using begins, fun i => ?_,
      past (Nat.lt_succ_self n)⟩
    rcases Nat.lt_trichotomy i n with lt | rfl | gt
    · simpa [Nat.le_of_lt lt, Nat.succ_le_of_lt lt] using isRun i
    · exact .inl ⟨m, allowed, by simpa [past (Nat.lt_succ_self i)] using stepped⟩
    · exact .inr ((past (Nat.lt_succ_of_lt gt)).trans (past gt).symm)

/-- The run after moves in order, apart from those that are impossible. -/
def follow (p : Plan) (moves : List Move) (s : Crew) : Crew :=
  moves.foldl (fun s m => (s.step? p m).getD s) s

lemma reaches_follow (p : Plan) (moves : List Move) (s : Crew) : Reaches p s (s.follow p moves) := by
  induction moves generalizing s with
  | nil => exact .refl
  | cons m moves ih =>
    cases stepped : s.step? p m with
    | none => simpa [follow, stepped] using ih s
    | some t =>
      have first : Reaches p s t := .tail m .refl trivial stepped
      simpa [follow, stepped] using first.trans (ih t)

lemma step?_eq_some_follow {m : Move} (possible : (s.step? p m).isSome) :
    s.step? p m = some (s.follow p [m]) := by
  obtain ⟨t, stepped⟩ := Option.isSome_iff_exists.1 possible
  simp [follow, stepped]

end Crew

end TaskCrew
