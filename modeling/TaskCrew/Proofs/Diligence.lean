import TaskCrew.Proofs.Endings

/-!
# Runs whose signal is not fired

Nobody stops before the signal is fired: as long as it is not, workers drop no task and leave only when
the queue is closed and empty, and the producer closes the queue only when no task is left, or when
nobody is left to take one.

* `Worker.hasLeft`, `Producer.hasStopped` — a worker that left its loop, a producer that stopped;
* `Crew.Diligent` — what holds of a run as long as the signal is not fired;
* `diligent_of_reaches` — every state that a run reaches is diligent if the signal is not fired;
* `Crew.Spent`, `spent_of_reaches` — the producer stops only when no task is left, or when every worker
  is dead;
* `began_perm_range` — a run that is over has begun every task if no worker died and the signal is not
  fired.
-/

namespace TaskCrew

/-- A worker has left its loop alive. -/
def Worker.hasLeft : Worker → Bool
  | .leaving died | .releasing died | .gone died => !died
  | _ => false

def Worker.isDropping : Worker → Bool
  | .dropping _ => true
  | _ => false

/-- The producer hands over no more tasks. -/
def Producer.hasStopped : Producer → Bool
  | .closing | .leaving | .gone => true
  | _ => false

namespace Crew

variable {p : Plan} {k : Nat} {w w' : Worker} {s t s' : Crew}

/-- As long as the signal is not fired, no task is dropped, no worker leaves before the queue is closed
and empty, and the producer stops only when no task is left or a worker died. -/
structure Diligent (s : Crew) : Prop where
  keeping : ∀ w ∈ s.workers, w.isDropping = false
  dropped : s.dropped = []
  left : ∀ w ∈ s.workers, w.hasLeft = true → s.fed = false ∧ s.queue = []
  stopped : s.producer.hasStopped = true → s.unsent = [] ∨ 0 < total Worker.dies s.workers

/-! ## A signal that is fired stays fired -/

lemma Turn.keeps {m : Move} (h : Turn p s m t) : s.ledger.signal.Keeps t.ledger.signal := by
  cases h with
  | worker place turn =>
    cases turn with
    | fire step | endFiring step => exact Signal.keeps_of_step? step
    | record step =>
      cases Recording.turn_of_step? step with
      | fire call | endFiring call => exact Signal.keeps_of_step? call
      | _ => exact ⟨id, id⟩
    | endRecording step =>
      obtain ⟨-, rfl⟩ := Recording.eq_release_of_step? step
      exact ⟨id, id⟩
    | _ => exact ⟨id, id⟩
  | producer place turn => rw [setProducer, turn.ledger_eq]; exact ⟨id, id⟩
  | starter place turn =>
    cases turn with
    | fire step | endFiring step => exact Signal.keeps_of_step? step
    | _ => exact ⟨id, id⟩
  | outsider place turn =>
    cases turn with
    | fire step | endFiring step => exact Signal.keeps_of_step? step

lemma Turn.fired {m : Move} (h : Turn p s m t) (fired : s.ledger.signal.fired = true) :
    t.ledger.signal.fired = true :=
  h.keeps.fired fired

lemma Turn.unfired {m : Move} (h : Turn p s m t) (unfired : t.ledger.signal.fired = false) :
    s.ledger.signal.fired = false := by
  by_contra fired
  simp [h.fired (by simpa using fired)] at unfired

/-- As long as the flag is unset, nobody is woken. -/
lemma Locked.asleep (h : s.Locked) (unfired : s.ledger.signal.fired = false) :
    s.ledger.signal.awake = false := by
  by_contra awake
  simp [h.signal.fired_of_awake (by simpa using awake)] at unfired

/-! ## Every turn keeps a run diligent -/

lemma WorkerTurn.hasLeft_of (h : WorkerTurn p k s w w' s') (unfired : s.ledger.signal.fired = false)
    (asleep : s.ledger.signal.awake = false) (keeping : w.isDropping = false)
    (left : w'.hasLeft = true) : w.hasLeft = true ∨ s.fed = false ∧ s.queue = [] := by
  cases h
  case cancelled fired => simp [unfired] at fired
  case woken awake => simp [asleep] at awake
  case closed empty unfed => exact .inr ⟨unfed, empty⟩
  case drop => cases keeping
  case leave | release => exact .inl left
  case finish e _ _ => cases e <;> cases left
  all_goals cases left

/-- A worker that is not about to drop a task drops none. -/
lemma WorkerTurn.news_dropped (h : WorkerTurn p k s w w' s') (keeping : w.isDropping = false) :
    (Worker.news k w w').bind Event.dropped? = none := by
  cases h
  case drop => cases keeping
  case proceed goesOn _ _ _ => cases goesOn <;> rfl
  all_goals rfl

/-- A worker that is dead stays dead. -/
lemma WorkerTurn.dies_le (h : WorkerTurn p k s w w' s') : w.dies ≤ w'.dies := by
  cases h
  case leave | release => exact Nat.le_refl _
  all_goals exact Nat.zero_le _

/-- A worker that takes a task out of the hands of the producer lets it go on. -/
lemma WorkerTurn.hasStopped (h : WorkerTurn p k s w w' s')
    (stopped : s'.producer.hasStopped = true) :
    s.producer.hasStopped = true ∧ s'.unsent = s.unsent := by
  cases h
  case handOver => cases stopped
  all_goals exact ⟨stopped, rfl⟩

lemma Diligent.worker (h : s.Diligent) (unfired : s.ledger.signal.fired = false)
    (asleep : s.ledger.signal.awake = false) (place : s.workers[k]? = some w)
    (turn : WorkerTurn p k s w w' s') : (s'.setWorker k w').Diligent := by
  have mem := List.mem_of_getElem? place
  have keeping := h.keeping w mem
  have workers := turn.setWorker_workers
  have fed : (s'.setWorker k w').fed = s.fed := turn.fed_eq
  constructor
  · intro x hx
    rw [workers] at hx
    rcases List.mem_or_eq_of_mem_set hx with hx | rfl
    · exact h.keeping x hx
    · cases turn
      case refuse fired => simp [unfired] at fired
      case finish e _ _ => cases e <;> rfl
      all_goals rfl
  · have dropped : (s'.setWorker k w').dropped = _ := turn.seen_eq Event.isView_dropped?
    rw [dropped, turn.news_dropped keeping, ← Crew.dropped, h.dropped]
    rfl
  · intro x hx left
    rw [workers] at hx
    have ended : s.fed = false ∧ s.queue = [] := by
      rcases List.mem_or_eq_of_mem_set hx with hx | rfl
      · exact h.left x hx left
      · rcases turn.hasLeft_of unfired asleep keeping left with left | ended
        · exact h.left w mem left
        · exact ended
    refine ⟨fed.trans ended.1, ?_⟩
    cases turn
    case receive front => simp [ended.2] at front
    all_goals exact ended.2
  · intro stopped
    obtain ⟨stopped, unsent⟩ := turn.hasStopped stopped
    have set := total_set Worker.dies w' place
    have le := turn.dies_le
    rw [workers]
    -- no turn of a worker gives a task back, and nobody comes back to life
    rcases h.stopped stopped with none | dead
    · exact .inl (unsent.trans none)
    · exact .inr (by omega)

/-- If everybody has left a producer that waits for room, everybody is dead. -/
lemma Diligent.all_dead (h : s.Diligent) (staffed : s.Staffed p) (offering : s.producer = .offering)
    (deserted : s.isDeserted = true) : ∀ w ∈ s.workers, w = .gone true := by
  obtain ⟨-, -, open_⟩ := staffed.manned (by simp [offering])
  intro w mem
  have gone := List.all_eq_true.1 deserted w mem
  cases w with
  | gone died =>
    cases died with
    | true => rfl
    | false =>
      have closed := (h.left _ mem rfl).1
      rw [open_, offering] at closed
      cases closed
  | _ => cases gone

/-- If everybody has left a producer that waits for room, one of them died. -/
lemma Diligent.exists_dead (h : s.Diligent) (staffed : s.Staffed p) (hired : 0 < p.workers)
    (offering : s.producer = .offering) (deserted : s.isDeserted = true) :
    0 < total Worker.dies s.workers := by
  obtain ⟨length, -, -⟩ := staffed.manned (by simp [offering])
  obtain ⟨w, mem⟩ := List.exists_mem_of_length_pos (length ▸ hired)
  have dies := le_total_of_mem Worker.dies mem
  rw [h.all_dead staffed offering deserted w mem] at dies
  exact dies

lemma Diligent.producer {q q' : Producer} (h : s.Diligent) (staffed : s.Staffed p)
    (hired : 0 < p.workers) (unfired : s.ledger.signal.fired = false)
    (asleep : s.ledger.signal.awake = false) (place : s.producer = q)
    (turn : ProducerTurn p s q q' s') : (s'.setProducer q').Diligent := by
  have workers : (s'.setProducer q').workers = s.workers := turn.workers_eq
  have dropped : (s'.setProducer q').dropped = s.dropped := turn.seen_eq Event.isView_dropped?
  refine ⟨by rw [workers]; exact h.keeping, dropped.trans h.dropped, ?_, ?_⟩
  · intro x hx left
    rw [workers] at hx
    obtain ⟨unfed, empty⟩ := h.left x hx left
    cases turn
    case send =>
      have open_ := (staffed.manned (by simp [place])).2.2
      rw [unfed, place] at open_
      cases open_
    case close => exact ⟨rfl, empty⟩
    all_goals exact ⟨unfed, empty⟩
  · intro stopped
    rw [workers]
    cases turn
    case exhausted none => exact .inl none
    case cancelled fired => simp [unfired] at fired
    case woken awake => simp [asleep] at awake
    case deserted deserted => exact .inr (h.exists_dead staffed hired place deserted)
    case close => exact h.stopped (by rw [place]; rfl)
    case leave => exact h.stopped (by rw [place]; rfl)
    all_goals cases stopped

lemma Diligent.starter {c : Choice} {q q' : Starter} (h : s.Diligent)
    (turn : StarterTurn p s c q q' s') : (s'.setStarter q').Diligent := by
  have dropped : (s'.setStarter q').dropped = s.dropped := turn.seen_eq Event.isView_dropped?
  have dies : total Worker.dies (s'.setStarter q').workers = total Worker.dies s.workers :=
    turn.total_workers _ rfl
  refine ⟨?_, dropped.trans h.dropped, ?_, ?_⟩
  · intro x mem
    rcases turn.mem_workers mem with mem | rfl
    · exact h.keeping x mem
    · rfl
  · intro x mem left
    rcases turn.mem_workers mem with mem | rfl
    · obtain ⟨unfed, empty⟩ := h.left x mem left
      cases turn
      case close => exact ⟨rfl, empty⟩
      all_goals exact ⟨unfed, empty⟩
    · cases left
  · intro stopped
    rw [dies]
    cases turn
    case startProducer => cases stopped
    all_goals exact h.stopped stopped

/-- A turn keeps a run diligent whose signal is not fired. -/
theorem Diligent.turn {m : Move} (h : s.Diligent) (staffed : s.Staffed p) (hired : 0 < p.workers)
    (unfired : s.ledger.signal.fired = false) (asleep : s.ledger.signal.awake = false)
    (turn : Turn p s m t) : t.Diligent := by
  cases turn with
  | worker place turn => exact h.worker unfired asleep place turn
  | producer place turn => exact h.producer staffed hired unfired asleep place turn
  | starter place turn => exact h.starter turn
  | outsider place turn => cases turn <;> exact ⟨h.keeping, h.dropped, h.left, h.stopped⟩

/-- Every state that a run reaches is diligent if the signal is not fired. -/
theorem diligent_of_reaches {kind : Move → Prop} {outsiders : Nat} (hired : 0 < p.workers)
    (h : ReachesBy p kind (p.begin outsiders) s) (unfired : s.ledger.signal.fired = false) :
    s.Diligent := by
  refine h.invariant (I := fun s => s.ledger.signal.fired = false → s.Diligent) ?_ ?_ unfired
  · exact fun _ => ⟨nofun, rfl, nofun, nofun⟩
  · intro m u v reached _ turn diligent unfired
    have before := turn.unfired unfired
    exact (diligent before).turn (staffed_of_reaches reached) hired before
      ((locked_of_reaches reached).asleep before) turn

/-! ## When the producer stops -/

/-- A producer that has stopped left no task, or nobody is left to take one. -/
def Spent (s : Crew) : Prop :=
  s.producer.hasStopped = true → s.unsent = [] ∨ ∀ w ∈ s.workers, w = .gone true

lemma Spent.turn {m : Move} (h : s.Spent) (diligent : s.Diligent) (staffed : s.Staffed p)
    (unfired : s.ledger.signal.fired = false) (asleep : s.ledger.signal.awake = false)
    (turn : Turn p s m t) : t.Spent := by
  intro stopped
  cases turn with
  | worker place turn =>
    obtain ⟨stopped, unsent⟩ := turn.hasStopped stopped
    refine (h stopped).imp unsent.trans fun dead => ?_
    exact absurd (dead _ (List.mem_of_getElem? place)) (turn.ne_gone true)
  | @producer c q q' s' place turn =>
    have workers : (s'.setProducer q').workers = s.workers := turn.workers_eq
    rw [workers]
    cases turn
    case exhausted none => exact .inl none
    case cancelled fired => simp [unfired] at fired
    case woken awake => simp [asleep] at awake
    case deserted deserted => exact .inr (diligent.all_dead staffed place deserted)
    case close | leave => exact h (by rw [place]; rfl)
    all_goals cases stopped
  | starter place turn =>
    cases turn
    case startProducer => cases stopped
    case startWorker =>
      -- the producer is started last
      unfold Staffed at staffed
      rw [place] at staffed
      have unborn : s.producer = .unborn := staffed.1.2.2.1
      simp [setStarter, unborn, Producer.hasStopped] at stopped
    all_goals exact h stopped
  | outsider place turn => cases turn <;> exact h stopped

/-- As long as the signal is not fired, the producer stops only when no task is left, or when every
worker is dead. -/
theorem spent_of_reaches {kind : Move → Prop} {outsiders : Nat} (hired : 0 < p.workers)
    (h : ReachesBy p kind (p.begin outsiders) s) (unfired : s.ledger.signal.fired = false) :
    s.Spent := by
  refine h.invariant (I := fun s => s.ledger.signal.fired = false → s.Spent) ?_ ?_ unfired
  · exact fun _ => nofun
  · intro m u v reached _ turn spent unfired
    have before := turn.unfired unfired
    exact (spent before).turn (diligent_of_reaches hired reached before)
      (staffed_of_reaches reached) before ((locked_of_reaches reached).asleep before) turn

/-! ## Nothing is left -/

/-- A run that is over has begun every task if all threads were started, no worker died and the signal
is not fired. -/
theorem began_perm_range {kind : Move → Prop} {outsiders : Nat} (hired : 0 < p.workers)
    (h : ReachesBy p kind (p.begin outsiders) s) (unfired : s.ledger.signal.fired = false)
    (back : s.return? = some (.finished [])) : s.began.Perm (List.range p.total) := by
  have diligent := diligent_of_reaches hired h unfired
  have conserved := conserved_of_reaches h
  obtain ⟨⟨length, -, -⟩, joined, producer⟩ := (staffed_of_reaches h).of_finished back
  have gone := joined.all_gone
  have alive : total Worker.dies s.workers = 0 := by
    rw [← count_gone gone, joined.count_eq_zero]
  have unsent : s.unsent = [] := by
    rcases diligent.stopped (by rw [producer]; rfl) with none | dead
    · exact none
    · omega
  -- any worker will do, for it left alive and so found the queue closed and empty
  have queue : s.queue = [] := by
    obtain ⟨w, mem⟩ := List.exists_mem_of_length_pos (length ▸ hired)
    obtain ⟨died, rfl⟩ := gone w mem
    have dies := le_total_of_mem Worker.dies mem
    rw [alive] at dies
    cases died with
    | true => cases dies
    | false => exact (diligent.left _ mem rfl).2
  have pending : s.pending = [] := filterMap_of_gone (fun _ => rfl) gone
  obtain ⟨range, all⟩ := conserved.received_eq_range
  have perm := conserved.received_perm
  rw [queue, unsent] at all
  rw [range, show s.received.length = p.total from all, diligent.dropped, pending, List.nil_append,
    List.append_nil] at perm
  exact perm.symm

end Crew

end TaskCrew
