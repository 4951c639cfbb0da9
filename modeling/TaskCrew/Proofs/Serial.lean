import TaskCrew.Proofs.Course
import TaskCrew.Proofs.Exhaustion
import TaskCrew.Proofs.Refusal

/-!
# Runs of one worker

With one worker, whatever the producer does and however far it runs ahead, tasks are carried out in
the order of the list, one after the other, and the run is the course of the list.

* `Worker.isClear` — a worker has found the signal unset and not yet fired it;
* `Crew.Serial` — what every turn keeps in a run of one worker;
* `serial_of_reaches` — every state is serial that a run of one worker reaches;
* `Serial.endsAfter`, `Serial.follows` — where the worker stops, and what the run has come to then;
* `run_serial` — a run of one worker does what the course of its list says, and cannot but come to that.

The signal is fired by the worker itself, so as long as the worker is clear the signal is not fired: it
drops no task, and the tasks that it has begun so far do not make it stop.
-/

namespace TaskCrew

/-- A worker has found the signal unset, and has not yet looked whether to fire it. -/
def Worker.isClear : Worker → Bool
  | .selecting | .holding _ | .cleared _ | .calling _ | .working _ _ | .succeeding | .panicking |
    .failing | .recording .acquire | .recording .increment => true
  | _ => false

/-- The endings of the tasks, in order. -/
def Plan.endings (p : Plan) : List Ending :=
  p.bodies.map Body.ending

namespace Crew

variable {p : Plan} {k : Nat} {w w' : Worker} {s t s' : Crew}

/-! ## Turns of the only worker -/

/-- A worker is clear because it was clear or has just found the signal unset, and leaves the signal
alone. -/
lemma WorkerTurn.isClear (h : WorkerTurn p k s w w' s') (keeps : w.Keeps p)
    (clear : w'.isClear = true) :
    s'.ledger.signal = s.ledger.signal ∧
      (w.isClear = true ∨ s.ledger.signal.fired = false) := by
  cases h
  case wait unfired => exact ⟨rfl, .inr unfired⟩
  case record step _ _ =>
    cases Recording.turn_of_step? step with
    | acquire | increment => exact ⟨rfl, .inl rfl⟩
    | _ => cases clear
  case endFiring => exact keeps.elim
  case finish | proceed | receive | handOver | clear | start | call | panic | fail =>
    exact ⟨rfl, .inl rfl⟩
  all_goals cases clear

/-- A worker begins or keeps what it has received, in order. -/
lemma WorkerTurn.pending_toList (h : WorkerTurn p k s w w' s') (keeping : w.isDropping = false) :
    w.pending?.toList ++ ((Worker.news k w w').bind Event.received?).toList =
      ((Worker.news k w w').bind Event.began?).toList ++ w'.pending?.toList := by
  cases h
  case drop => cases keeping
  case proceed goesOn _ _ _ => cases goesOn <;> rfl
  case finish e _ _ => cases e <;> rfl
  all_goals rfl

/-- A worker ends or goes on with what it has begun, in order. -/
lemma WorkerTurn.underway_toList (h : WorkerTurn p k s w w' s') :
    w.underway?.toList ++ ((Worker.news k w w').bind Event.began?).toList =
      ((Worker.news k w w').bind Event.ended?).toList ++ w'.underway?.toList := by
  cases h
  case proceed goesOn _ _ _ => cases goesOn <;> rfl
  case finish e _ _ => cases e <;> rfl
  all_goals rfl

/-- A worker begins a task as its next step, or none. -/
lemma WorkerTurn.began_or (h : WorkerTurn p k s w w' s') :
    (Worker.news k w w').bind Event.began? = none ∨
      ∃ j, w = .calling j ∧ (Worker.news k w w').bind Event.began? = some j.index := by
  cases h
  case call j => exact .inr ⟨j, rfl, rfl⟩
  case proceed goesOn _ _ _ => cases goesOn <;> exact .inl rfl
  all_goals exact .inl rfl

/-! ## What every turn keeps -/

/-- The only worker is clear only while the signal is not fired; it drops no task, begins tasks in the
order in which it receives them, ends one before it begins the next, and begins one only if those
before do not make it stop. -/
structure Serial (p : Plan) (s : Crew) : Prop where
  clear : ∀ w ∈ s.workers, w.isClear = true → s.ledger.signal.fired = false
  keeping : ∀ w ∈ s.workers, w.isDropping = false
  dropped : s.dropped = []
  received : s.received = s.began ++ s.pending
  began : s.began = s.ended ++ s.underway
  going : ∀ i < s.began.length,
    ¬ Stops p.config.normalizedErrorLimit.toNat (p.endings.take i)

/-- If there is one worker at most, a worker that takes a turn is the only one. -/
lemma eq_singleton {workers : List Worker} (one : workers.length ≤ 1) (place : workers[k]? = some w) :
    k = 0 ∧ workers = [w] := by
  obtain ⟨lt, hw⟩ := List.getElem?_eq_some_iff.1 place
  obtain ⟨x, rfl⟩ := List.length_eq_one_iff.1 (show workers.length = 1 by omega)
  obtain rfl : k = 0 := by simpa using lt
  exact ⟨rfl, by rw [← hw]; rfl⟩

lemma pending_of_singleton (only : s.workers = [w]) : s.pending = w.pending?.toList := by
  rw [pending, only]
  cases hw : w.pending? <;> simp [hw]

lemma underway_of_singleton (only : s.workers = [w]) : s.underway = w.underway?.toList := by
  rw [underway, only]
  cases hw : w.underway? <;> simp [hw]

lemma Serial.worker (h : s.Serial p) (one : s.workers.length ≤ 1) (keeps : w.Keeps p)
    (place : s.workers[k]? = some w) (turn : WorkerTurn p k s w w' s')
    (going : ∀ j, w = .calling j →
      ¬ Stops p.config.normalizedErrorLimit.toNat (p.endings.take s.began.length)) :
    (s'.setWorker k w').Serial p := by
  obtain ⟨rfl, only⟩ := eq_singleton one place
  have workers : (s'.setWorker 0 w').workers = [w'] := by
    simp [setWorker, turn.workers_eq, only]
  have seen {view : Event → Option Nat} (isView : Event.IsView view) :
      (s'.setWorker 0 w').seen view = s.seen view ++ ((Worker.news 0 w w').bind view).toList :=
    turn.seen_eq isView
  have began := seen Event.isView_began?
  rw [← began_eq_seen, ← began_eq_seen] at began
  have keeping : w.isDropping = false := h.keeping w (by simp [only])
  have unfired : w.isClear = true → s.ledger.signal.fired = false := h.clear w (by simp [only])
  refine ⟨?_, ?_, ?_, ?_, ?_, ?_⟩
  · -- nobody else fires the signal between the look of the worker and its own call
    rw [workers]
    intro x mem clear
    rw [List.mem_singleton.1 mem] at clear
    obtain ⟨signal, before⟩ := turn.isClear keeps clear
    show s'.ledger.signal.fired = false
    rw [signal]
    exact before.elim unfired id
  · rw [workers]
    intro x mem
    rw [List.mem_singleton.1 mem]
    cases turn
    case refuse fired => simp [unfired rfl] at fired
    case finish e _ _ => cases e <;> rfl
    all_goals rfl
  · rw [Crew.dropped, seen Event.isView_dropped?, turn.news_dropped keeping, ← Crew.dropped, h.dropped]
    rfl
  · rw [Crew.received, seen Event.isView_received?, ← Crew.received, h.received,
      pending_of_singleton only, List.append_assoc, turn.pending_toList keeping, ← List.append_assoc,
      ← began, pending_of_singleton workers]
  · rw [began, h.began, underway_of_singleton only, List.append_assoc, turn.underway_toList,
      ← List.append_assoc, ended_eq_seen (s'.setWorker 0 w'), seen Event.isView_ended?,
      underway_of_singleton workers]
    rfl
  · rw [began]
    intro i hi
    rcases turn.began_or with idle | ⟨j, rfl, begins⟩
    · rw [idle, Option.toList_none, List.append_nil] at hi
      exact h.going i hi
    · rw [begins, Option.toList_some, List.length_append, List.length_singleton] at hi
      rcases Nat.lt_succ_iff_lt_or_eq.1 hi with hi | rfl
      · exact h.going i hi
      · exact going j rfl

lemma StarterTurn.filterMap_workers {c : Choice} {q q' : Starter} (h : StarterTurn p s c q q' s')
    {f : Worker → Option Nat} (idle : f .entering = none) :
    s'.workers.filterMap f = s.workers.filterMap f := by
  cases h
  case startWorker => simp [idle]
  all_goals rfl

/-- What another thread does keeps a run serial if it leaves the ledger and the tasks of workers
alone. -/
lemma Serial.of_seen_eq (h : s.Serial p)
    (seen : ∀ {view}, Event.IsView view → t.seen view = s.seen view)
    (ledger : t.ledger = s.ledger)
    (workers : ∀ w ∈ t.workers, w ∈ s.workers ∨ w = .entering)
    (filterMap : ∀ f : Worker → Option Nat, f .entering = none →
      t.workers.filterMap f = s.workers.filterMap f) : t.Serial p := by
  have began : t.began = s.began := seen Event.isView_began?
  have pending : t.pending = s.pending := filterMap _ rfl
  have underway : t.underway = s.underway := filterMap _ rfl
  refine ⟨?_, ?_, ?_, ?_, ?_, ?_⟩
  · intro w mem clear
    rw [ledger]
    rcases workers w mem with mem | rfl
    · exact h.clear w mem clear
    · cases clear
  · intro w mem
    rcases workers w mem with mem | rfl
    · exact h.keeping w mem
    · rfl
  · exact (seen Event.isView_dropped?).trans h.dropped
  · rw [began, pending]
    exact (seen Event.isView_received?).trans h.received
  · rw [began, underway, h.began]
    exact congrArg (· ++ s.underway) (seen Event.isView_ended?).symm
  · rw [began]
    exact h.going

/-! ## When the worker stops -/

/-- The tasks begun are the first of the list. -/
lemma Serial.began_eq_range (h : s.Serial p) (conserved : s.Conserved p) :
    s.began = List.range s.began.length ∧ s.began.length ≤ p.total := by
  obtain ⟨range, length⟩ := conserved.received_eq_range
  have le : s.began.length ≤ s.received.length := by
    rw [h.received, List.length_append]
    exact Nat.le_add_right _ _
  refine ⟨?_, by omega⟩
  calc s.began = s.received.take s.began.length := by rw [h.received, List.take_left]
    _ = (List.range s.received.length).take s.began.length := by rw [← range]
    _ = List.range s.began.length := by rw [List.take_range, Nat.min_eq_left le]

lemma Serial.map_ending_began (h : s.Serial p) (conserved : s.Conserved p) :
    s.began.map p.ending = p.endings.take s.began.length := by
  obtain ⟨range, le⟩ := h.began_eq_range conserved
  calc s.began.map p.ending = (List.range s.began.length).map p.ending := by rw [← range]
    _ = ((List.range p.total).take s.began.length).map p.ending := by
      rw [List.take_range, Nat.min_eq_left le]
    _ = p.endings.take s.began.length := by rw [List.map_take, p.map_ending_range, Plan.endings]

lemma Counted.any_kills_iff (h : s.Counted p) :
    (s.ended.map p.ending).any Ending.kills = true ↔ 0 < total Worker.dies s.workers := by
  rw [← h.killed, total_toNat, List.countP_pos_iff]
  simp

/-- When every failure is in the ledger, the tasks that have ended make a worker stop exactly if the
ledger has reached the limit or a worker is dead. -/
lemma stops_ended_iff {kind : Move → Prop} {outsiders : Nat} (steady : p.Steady)
    (small : p.total < UInt64.size) (h : ReachesBy p kind (p.begin outsiders) s)
    (owes : total (Worker.owes .failed) s.workers = 0)
    (recorded : total Worker.unrecorded s.workers = 0) :
    Stops p.config.normalizedErrorLimit.toNat (s.ended.map p.ending) ↔
      s.ledger.limit ≤ s.ledger.failures ∨ 0 < total Worker.dies s.workers := by
  have failures := failures_of_reaches steady small h
  rw [owes, recorded] at failures
  rw [Stops, (counted_of_reaches steady h).any_kills_iff, limit_of_reaches h, UInt64.le_iff_toNat_le,
    total_map, failures]
  rfl

/-- The tasks begun do not make the worker stop that is about to begin one more. -/
lemma Serial.going_of_calling (h : s.Serial p) (prompt : s.Prompt) (steady : p.Steady)
    (small : p.total < UInt64.size) {kind : Move → Prop} {outsiders : Nat}
    (reached : ReachesBy p kind (p.begin outsiders) s) {j : Job} (only : s.workers = [.calling j]) :
    ¬ Stops p.config.normalizedErrorLimit.toNat (p.endings.take s.began.length) := by
  have none (f : Worker → Nat) (idle : f (.calling j) = 0) : total f s.workers = 0 := by
    rw [only, total, idle]
    rfl
  -- a worker that is about to begin a task has ended, counted and recorded all tasks before it
  have ended : s.began = s.ended := by
    rw [h.began, underway_of_singleton only]
    exact List.append_nil _
  have unfired := h.clear (.calling j) (by simp [only]) rfl
  rw [← h.map_ending_began (conserved_of_reaches reached), ended,
    stops_ended_iff steady small reached (none _ rfl) (none _ rfl)]
  rintro (limit | dead)
  · have fires := none Worker.fires rfl
    rcases prompt.fired limit with fired | pos
    · simp [unfired] at fired
    · omega
  · have dies := none Worker.dies rfl
    omega

/-- A turn keeps a run of one worker serial. -/
theorem Serial.turn {m : Move} (h : s.Serial p) (one : s.workers.length ≤ 1)
    (alone : s.LeftAlone) (prompt : s.Prompt) (steady : p.Steady) (small : p.total < UInt64.size)
    {kind : Move → Prop} {outsiders : Nat} (reached : ReachesBy p kind (p.begin outsiders) s)
    (turn : Turn p s m t) : t.Serial p := by
  cases turn with
  | worker place turn =>
    have keeps := keeps_of_reaches steady reached _ (List.mem_of_getElem? place)
    refine h.worker one keeps place turn ?_
    rintro j rfl
    exact h.going_of_calling prompt steady small reached (eq_singleton one place).2
  | @producer c q q' s' place turn =>
    have workers : (s'.setProducer q').workers = s.workers := turn.workers_eq
    exact h.of_seen_eq (fun isView => turn.seen_eq isView) turn.ledger_eq
      (fun w mem => .inl (workers ▸ mem)) fun f _ => by rw [workers]
  | starter place turn =>
    exact h.of_seen_eq (fun isView => turn.seen_eq isView)
      (turn.ledger_eq (place ▸ alone.starter)) (fun w mem => turn.mem_workers mem)
      fun f idle => turn.filterMap_workers idle
  | outsider place turn => simp [alone.outsiders] at place

/-- Every state is serial that a run of one worker reaches. -/
theorem serial_of_reaches (sound : p.Sound) (steady : p.Steady) (small : p.total < UInt64.size)
    (one : p.workers = 1) (h : ReachesBy p Move.IsGranted (p.begin 0) s) : s.Serial p := by
  refine h.invariant ⟨nofun, nofun, rfl, rfl, rfl, nofun⟩ ?_
  intro m u v reached _ turn serial
  have alone := leftAlone_of_reaches sound steady.quiet reached
  have few : u.workers.length ≤ 1 := one ▸ (staffed_of_reaches reached).length_le
  exact serial.turn few alone (prompt_of_reaches sound steady.quiet small reached) steady small reached turn

/-! ## When the run is over -/

/-- The tasks, the counters and the ledger of a run are those of a course. -/
structure Follows (s : Crew) (c : Course) : Prop where
  began : s.began = List.range c.began
  ended : s.ended = s.began
  started : s.counters.started.toNat = c.began
  succeeded : s.counters.succeeded.toNat = c.succeeded
  failed : s.counters.failed.toNat = c.failed
  panicked : s.counters.panicked.toNat = c.panicked
  failures : s.ledger.failures.toNat = c.failed

lemma Serial.ended_eq_began (h : s.Serial p) (gone : ∀ w ∈ s.workers, ∃ died, w = .gone died) :
    s.ended = s.began := by
  have idle : s.underway = [] := filterMap_of_gone (fun _ => rfl) gone
  rw [h.began, idle, List.append_nil]

/-- A run that is over has begun as many tasks as it takes to make the worker stop, or all. -/
theorem Serial.endsAfter (h : s.Serial p) (sound : p.Sound) (steady : p.Steady)
    (small : p.total < UInt64.size) (hired : 0 < p.workers)
    (reached : ReachesBy p Move.IsGranted (p.begin 0) s) {dead : List Nat}
    (back : s.return? = some (.finished dead)) :
    EndsAfter p.config.normalizedErrorLimit.toNat p.endings s.began.length := by
  have conserved := conserved_of_reaches reached
  have length : p.endings.length = p.total := List.length_map _
  obtain ⟨-, joined, -⟩ := (staffed_of_reaches reached).of_finished back
  have gone := joined.all_gone
  have stops : Stops p.config.normalizedErrorLimit.toNat (p.endings.take s.began.length) ↔
      s.ledger.limit ≤ s.ledger.failures ∨ 0 < total Worker.dies s.workers := by
    rw [← h.map_ending_began conserved, ← h.ended_eq_began gone]
    exact stops_ended_iff steady small reached (total_of_gone (fun _ => rfl) gone)
      (total_of_gone (fun _ => rfl) gone)
  refine ⟨length ▸ (h.began_eq_range conserved).2, h.going, ?_⟩
  rw [stops, or_iff_not_imp_left]
  intro going
  obtain ⟨below, alive⟩ := not_or.1 going
  -- the signal is fired only if the limit is reached, so nothing kept the worker from going on
  have unfired : s.ledger.signal.fired = false := by
    by_contra fired
    have unarmed := (locked_of_reaches reached).signal.armed_of_fired (by simpa using fired)
    exact below ((prompt_of_reaches sound steady.quiet small reached).armed unarmed)
  rw [joined.dead_eq_nil (by omega)] at back
  have all := (began_perm_range hired reached unfired back).length_eq
  rw [all, List.length_range, length]

/-- When the worker has ended, the run is what its tasks come to if all of them are begun. -/
theorem Serial.follows (h : s.Serial p) (steady : p.Steady) (small : p.total < UInt64.size)
    {kind : Move → Prop} {outsiders : Nat} (reached : ReachesBy p kind (p.begin outsiders) s)
    (settled : s.Settled p) (gone : ∀ w ∈ s.workers, ∃ died, w = .gone died) (limit : Nat) :
    s.Follows (.whole limit (s.began.map p.ending)) := by
  have conserved := conserved_of_reaches reached
  have ended := h.ended_eq_began gone
  have length : (s.began.map p.ending).length = s.began.length := List.length_map _
  have results {k : Counter} (result : k.IsResult) :
      (s.counters.get k).toNat = total (Ending.adds k) (s.began.map p.ending) := by
    rw [total_map, ← ended]
    exact (counted_of_reaches steady reached).toNat_get conserved small gone result
  refine ⟨?_, ended, ?_, results (.inl rfl), results (.inr (.inl rfl)), results (.inr (.inr rfl)), ?_⟩
  · rw [Course.whole, length]
    exact (h.began_eq_range conserved).1
  · rw [Course.whole, length]
    exact settled.started
  · rw [failures_eq_of_gone steady small reached gone, ← total_map (Ending.adds .failed) p.ending]
    rfl

/-- If the queue holds no task, none is abandoned. -/
lemma Serial.abandoned_eq_zero (h : s.Serial p) (small : p.total < UInt64.size)
    {kind : Move → Prop} {outsiders : Nat} (reached : ReachesBy p kind (p.begin outsiders) s)
    (direct : p.capacity = 0) : s.counters.abandoned = 0 := by
  obtain ⟨n, f, tallied⟩ := tallied_of_reaches small reached
  have empty : s.queue.length = 0 := Nat.le_zero.1 (direct ▸ length_queue_le reached)
  have behind : s.leftBehind = 0 := by
    rw [leftBehind, empty, ite_self]
  have none : n .abandoned = 0 := by
    rw [tallied.abandoned, h.dropped, behind]
    rfl
  have shown := tallied.shows .abandoned
  rw [none] at shown
  exact shown

/-- The only worker is found dead, or none is. -/
lemma Joined.dead_of_one {workers : List Worker} {dead : List Nat}
    (h : Joined workers workers.length dead) (one : workers.length = 1) :
    dead = if 0 < total Worker.dies workers then [0] else [] := by
  obtain ⟨w, rfl⟩ := List.length_eq_one_iff.1 one
  obtain ⟨died, rfl⟩ := h.all_gone w (by simp)
  rw [h.dead_eq]
  cases died <;> rfl

end Crew

/-! ## The refinement -/

namespace Executor

variable {e : Executor} {bodies : List Body} {s : Crew} {r : Except RunError Unit}

lemma workers_eq_one (one : e.config.workerCount = 1) (bodies : List Body) :
    (e.plan bodies).workers = 1 := by
  rw [Plan.workers, plan, one]
  rfl

/-- A run of one worker returns what its tasks come to if all of them are begun. -/
lemma Returns.eq_result (returns : e.Returns bodies s r) (one : e.config.workerCount = 1)
    (steady : (e.plan bodies).Steady) (small : bodies.length < UInt64.size)
    (h : Crew.ReachesBy (e.plan bodies) Move.IsGranted (e.begin bodies) s)
    (serial : s.Serial (e.plan bodies)) {dead : List Nat} (back : s.return? = some (.finished dead)) :
    r = (Course.whole e.config.normalizedErrorLimit.toNat
      (s.began.map (e.plan bodies).ending)).result (e.config.threadNamePrefix ++ "-0") := by
  obtain ⟨manned, joined, -⟩ := (Crew.staffed_of_reaches h).of_finished back
  have gone := joined.all_gone
  have found := joined.dead_of_one (manned.1.trans (workers_eq_one one bodies))
  have killed := (Crew.counted_of_reaches steady h).any_kills_iff
  rw [serial.ended_eq_began gone] at killed
  by_cases died : 0 < total Worker.dies s.workers
  · rw [if_pos died] at found
    rw [found] at back
    rw [returns.eq_of_dead back, Course.result, Course.whole, if_pos (killed.2 died)]
    have name : (e.plan bodies).workerName 0 = e.config.threadNamePrefix ++ "-0" :=
      String.append_assoc
    show Except.error (RunError.internal ("threads panicked: " ++ (e.plan bodies).workerName 0)) = _
    rw [name]
  · rw [if_neg died] at found
    rw [found] at back
    have failures := Crew.failures_eq_of_gone steady small h gone
    rw [← total_map (Ending.adds .failed) (e.plan bodies).ending] at failures
    have reached : s.ledger.limit ≤ s.ledger.failures ↔ e.config.normalizedErrorLimit.toNat ≤
        total (Ending.adds .failed) (s.began.map (e.plan bodies).ending) := by
      rw [← failures, UInt64.le_iff_toNat_le, Crew.limit_of_reaches h]
      rfl
    rw [returns.eq_of_alive back, Course.result, Course.whole, if_neg (killed.not.2 died)]
    by_cases limit : s.ledger.limit ≤ s.ledger.failures
    · rw [if_pos limit, if_pos (reached.1 limit)]
    · rw [if_neg limit, if_neg (reached.not.1 limit)]

/-- A run of one worker that returns has done what the course of its list says. -/
lemma Returns.serial (one : e.config.workerCount = 1) (steady : ∀ b ∈ bodies, b.Fixed ∧ b.Quiet)
    (small : bodies.length < UInt64.size)
    (h : Crew.ReachesBy (e.plan bodies) Move.IsGranted (e.begin bodies) s)
    (returns : e.Returns bodies s r) :
    let limit := (max e.config.errorLimit.toInt 1).toNat
    let course := Course.of limit (bodies.map Body.ending)
    EndsAfter limit (bodies.map Body.ending) course.began ∧
    s.Follows course ∧
    r = course.result (e.config.threadNamePrefix ++ "-0") ∧
    (e.config.effectiveQueueCapacity = 0 →
      s.counters.submitted = s.counters.started ∧ s.counters.abandoned = 0) := by
  have sound := returns.sound h
  have hired := e.workers_pos bodies
  have single := workers_eq_one one bodies
  have serial := Crew.serial_of_reaches sound steady small single h
  obtain ⟨back, hr⟩ := returns.exists_return
  obtain ⟨dead, rfl⟩ := Crew.exists_finished_of_return sound h hr
  have staffed := Crew.staffed_of_reaches h
  have gone := (staffed.of_finished hr).2.1.all_gone
  obtain ⟨n, f, tallied⟩ := Crew.tallied_of_reaches (p := e.plan bodies) small h
  have settled := tallied.settled staffed (Crew.conserved_of_reaches h) small
    (by simp [Crew.HasJoined, hr])
  have ends := serial.endsAfter sound steady small hired h hr
  have positive : 0 < e.config.normalizedErrorLimit.toNat := by
    have least := e.config.toNat_normalizedErrorLimit
    omega
  have course : Course.of e.config.normalizedErrorLimit.toNat (bodies.map Body.ending) =
      .whole e.config.normalizedErrorLimit.toNat (s.began.map (e.plan bodies).ending) := by
    rw [serial.map_ending_began (Crew.conserved_of_reaches h)]
    exact Course.of_eq_whole ends positive
  rw [← e.config.toNat_normalizedErrorLimit, Int.toNat_natCast]
  intro limit course'
  refine ⟨?_, ?_, ?_, ?_⟩
  · show EndsAfter _ _ (Course.of _ _).began
    rw [course, Course.whole, List.length_map]
    exact ends
  · show s.Follows (Course.of _ _)
    rw [course]
    exact serial.follows steady small h settled gone _
  · show r = (Course.of _ _).result _
    rw [course]
    exact returns.eq_result one steady small h serial hr
  · intro direct
    have none := serial.abandoned_eq_zero small h (by rw [Plan.capacity, plan, direct]; rfl)
    refine ⟨UInt64.toNat_inj.1 ?_, none⟩
    rw [settled.submitted, none]
    rfl

/-- A run that is over and whose threads were all started returns. -/
lemma exists_returns {kind : Move → Prop}
    (h : Crew.ReachesBy (e.plan bodies) kind (e.begin bodies) s) (born : s.producer ≠ .unborn)
    (finished : s.IsOver) : ∃ r, e.Returns bodies s r := by
  obtain ⟨back, hr⟩ := Option.isSome_iff_exists.1 finished
  obtain ⟨answer, report⟩ := answers_of_isOver (sound_of_born h born hr) h finished
  exact ⟨answer.bind Report.result, by rw [Returns, report]; rfl⟩

/-- **A run of one worker carries out its tasks one after the other.** Let every task have one ending,
whatever happens; tasks of an executor have no way to fire the signal. If no thread is refused and
`execute` returns, then whatever the capacity of the queue and the order of steps, the tasks begun are
the shortest part of the list that makes the worker stop, or the whole list; the tasks, the counters,
the ledger and the result are those of the course of the list; and without room in the queue, no task
is submitted that is not begun. And from the moment on when all threads are started, the run cannot but
return, as the course says. -/
theorem run_serial (one : e.config.workerCount = 1) (steady : ∀ b ∈ bodies, b.Fixed ∧ b.Quiet)
    (small : bodies.length < UInt64.size)
    (h : Crew.ReachesBy (e.plan bodies) Move.IsGranted (e.begin bodies) s) :
    let limit := (max e.config.errorLimit.toInt 1).toNat
    let course := Course.of limit (bodies.map Body.ending)
    (∀ r, e.Returns bodies s r →
      EndsAfter limit (bodies.map Body.ending) course.began ∧
      s.Follows course ∧
      r = course.result (e.config.threadNamePrefix ++ "-0") ∧
      (e.config.effectiveQueueCapacity = 0 →
        s.counters.submitted = s.counters.started ∧ s.counters.abandoned = 0)) ∧
    (s.producer ≠ .unborn → ∀ (kind : Move → Prop) (run : Nat → Crew), run 0 = s →
      Crew.IsMaximal (e.plan bodies) kind run →
      ∃ n, e.Returns bodies (run n) (course.result (e.config.threadNamePrefix ++ "-0")) ∧
        (run n).Follows course) := by
  intro limit course
  refine ⟨fun r returns => returns.serial one steady small h, ?_⟩
  rintro born kind run rfl maximal
  obtain ⟨n, -, -, ended⟩ := maximal.exists_hasEnded (p := e.plan bodies) h
  have onward := maximal.isRun.reaches n
  have reached : Crew.Reaches (e.plan bodies) (e.begin bodies) (run n) :=
    (h.mono fun _ _ => trivial).trans (onward.mono fun _ _ => trivial)
  have still := Crew.born_of_reaches onward born
  obtain ⟨r, returns⟩ := exists_returns reached still ended.isOver
  obtain ⟨-, follows, rfl, -⟩ := returns.serial one steady small (granted_of_born reached still)
  exact ⟨n, returns, follows⟩

/-- An executor of one worker that puts up with one failure and has no room in its queue. -/
def solo : Executor :=
  ⟨plainName, { workerCount := 1, errorLimit := 2, queueCapacity := some 0 }, by decide⟩

/-- Tasks of which one breaks off and the next kills the worker. -/
def deadlyTasks : List Body :=
  [.done .success, .done (.panic "none"), .done (.poison "gone"), .done .success]

def soloRun : Crew :=
  (solo.plan deadlyTasks).carryOut solo.newLedger {}

theorem run_serial_solo :
    solo.Returns deadlyTasks soloRun (.error (.internal "threads panicked: bx-worker-0")) ∧
      soloRun.Follows ⟨3, 1, 1, 1, some .dead⟩ ∧
      soloRun.counters.submitted = soloRun.counters.started := by
  have returns : solo.Returns deadlyTasks soloRun
      (.error (.internal "threads panicked: bx-worker-0")) := by rw [Returns]; rfl
  have reached : Crew.ReachesBy (solo.plan deadlyTasks) Move.IsGranted (solo.begin deadlyTasks)
      soloRun := Crew.granted_drive (by decide) _ .refl
  have steady : ∀ b ∈ deadlyTasks, b.Fixed ∧ b.Quiet := by
    simp [deadlyTasks, Body.Fixed, Body.Ends, Body.Quiet]
  have course : Course.of (max solo.config.errorLimit.toInt 1).toNat (deadlyTasks.map Body.ending) =
      ⟨3, 1, 1, 1, some .dead⟩ := by decide
  obtain ⟨-, follows, -, direct⟩ := (run_serial rfl steady (by decide) reached).1 _ returns
  exact ⟨returns, course ▸ follows, (direct (by decide)).1⟩

end Executor

end TaskCrew
