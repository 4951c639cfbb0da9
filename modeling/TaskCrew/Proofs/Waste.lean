import TaskCrew.Proofs.Cancellation
import TaskCrew.Proofs.Refusal
import Mathlib.Data.List.Count

/-!
# How many tasks are handed over in vain

A task is handed over in vain if no worker begins it: a worker that received it found the signal fired, or
nobody took it out of the queue. Each worker drops one task at most, the worker that fires the signal drops
none, and the queue holds no more tasks than it has room for.

* `Crew.wasted` — the tasks that were dropped and those that are left in the queue;
* `Worker.mayDrop` — a worker may yet drop a task once the signal is fired;
* `drops_le_of_reaches`, `drops_lt_of_reaches` — how many tasks workers drop, whoever fires the signal, and
  if one of the workers does;
* `sent_perm_of_gone` — when all workers have ended, every task that was handed over was begun or wasted;
* `run_wastes_little` — how many tasks are wasted at most, and when none is.
-/

namespace TaskCrew

/-- Once the signal is fired, a worker may yet drop a task if it waits for one or has it in hand. -/
def Worker.mayDrop : Worker → Bool
  | .selecting | .holding _ | .dropping _ => true
  | _ => false

namespace Crew

variable {p : Plan} {kind : Move → Prop} {outsiders k : Nat} {w w' : Worker} {s t s' : Crew}

/-- The tasks that were dropped, and those in the queue. -/
def wasted (s : Crew) : List Nat :=
  s.dropped ++ s.queue.map Job.index

/-- How many tasks are dropped, or may yet be dropped once the signal is fired. -/
def drops (s : Crew) : Nat :=
  s.dropped.length + s.workers.countP Worker.mayDrop

/-! ## Tasks that are dropped -/

/-- Once the signal is fired, a worker drops the task that it waits for or has in hand, and then none. -/
lemma WorkerTurn.mayDrop_le (h : WorkerTurn p k s w w' s') (fired : s.ledger.signal.fired = true) :
    weigh (fun _ => 1) ((Worker.news k w w').bind Event.dropped?) + w'.mayDrop.toNat ≤
      w.mayDrop.toNat := by
  cases h
  case wait unfired => simp [fired] at unfired
  case proceed goesOn _ _ _ => cases goesOn <;> exact Nat.le_refl _
  case finish e _ _ => cases e <;> exact Nat.le_refl _
  case drop => exact Nat.le_refl _
  case receive | handOver | refuse => exact Nat.le_refl _
  all_goals exact Nat.zero_le _

/-- A worker that sets the flag drops no task from then on. -/
lemma WorkerTurn.mayDrop_of_fires (h : WorkerTurn p k s w w' s')
    (unfired : s.ledger.signal.fired = false) (fired : s'.ledger.signal.fired = true) :
    w'.mayDrop = false := by
  cases h
  case wait | receive | handOver | refuse => exact absurd (unfired.symm.trans fired) (by simp)
  case finish e _ _ => cases e <;> rfl
  all_goals rfl

/-- Once the signal is fired, the tasks that are dropped or may yet be grow no more. -/
lemma Turn.drops_le {m : Move} (h : Turn p s m t) (fired : s.ledger.signal.fired = true) :
    t.drops ≤ s.drops := by
  rw [drops, drops, ← total_toNat, ← total_toNat]
  cases h with
  | @worker k c w w' s' place turn =>
    have dropped : (s'.setWorker k w').dropped.length = _ := turn.length_seen Event.isView_dropped?
    have step := turn.mayDrop_le fired
    have set := total_set (fun w => w.mayDrop.toNat) w' place
    rw [dropped, turn.setWorker_workers]
    rw [Crew.dropped]
    omega
  | @producer c q q' s' place turn =>
    have dropped : (s'.setProducer q').dropped = s.dropped := turn.seen_eq Event.isView_dropped?
    have workers : (s'.setProducer q').workers = s.workers := turn.workers_eq
    exact Nat.le_of_eq (by rw [dropped, workers])
  | @starter c q q' s' place turn =>
    have dropped : (s'.setStarter q').dropped = s.dropped := turn.seen_eq Event.isView_dropped?
    have workers : total (fun w => w.mayDrop.toNat) (s'.setStarter q').workers =
        total (fun w => w.mayDrop.toNat) s.workers := turn.total_workers _ rfl
    exact Nat.le_of_eq (by rw [dropped, workers])
  | outsider place turn => cases turn <;> exact Nat.le_refl _

/-- No task is dropped by the turn that fires the signal, or before. -/
lemma Turn.dropped_eq_nil {m : Move} (h : Turn p s m t) (diligent : s.Diligent) : t.dropped = [] := by
  rw [← diligent.dropped]
  cases h with
  | @worker k c w w' s' place turn =>
    have dropped : (s'.setWorker k w').dropped = _ := turn.seen_eq Event.isView_dropped?
    rw [dropped, turn.news_dropped (diligent.keeping w (List.mem_of_getElem? place))]
    exact List.append_nil _
  | producer place turn => exact turn.seen_eq Event.isView_dropped?
  | starter place turn => exact turn.seen_eq Event.isView_dropped?
  | outsider place turn => cases turn <;> rfl

/-- What bounds the drops when the signal is fired bounds them from then on. -/
lemma drops_le_of_fires {bound : Nat} (h : ReachesBy p kind (p.begin outsiders) s)
    (first : ∀ {m u v}, ReachesBy p kind (p.begin outsiders) u → Turn p u m v →
      u.ledger.signal.fired = false → v.ledger.signal.fired = true → v.drops ≤ bound)
    (fired : s.ledger.signal.fired = true) : s.drops ≤ bound := by
  refine h.invariant (I := fun s => s.ledger.signal.fired = true → s.drops ≤ bound) nofun ?_ fired
  intro m u v reached _ turn before fired
  cases earlier : u.ledger.signal.fired with
  | true => exact Nat.le_trans (turn.drops_le earlier) (before earlier)
  | false => exact first reached turn earlier fired

/-- Each worker drops one task at most. -/
theorem drops_le_of_reaches (hired : 0 < p.workers) (h : ReachesBy p kind (p.begin outsiders) s)
    (fired : s.ledger.signal.fired = true) : s.drops ≤ p.workers := by
  refine drops_le_of_fires h ?_ fired
  intro m u v reached turn unfired fired
  have few := ((staffed_of_reaches reached).turn turn).length_le
  rw [drops, turn.dropped_eq_nil (diligent_of_reaches hired reached unfired), List.length_nil,
    Nat.zero_add]
  exact Nat.le_trans List.countP_le_length few

/-- The worker that fires the signal drops none, if nobody else fires it. -/
theorem drops_lt_of_reaches (sound : p.Sound) (hired : 0 < p.workers)
    (h : ReachesBy p Move.IsGranted (p.begin 0) s) (fired : s.ledger.signal.fired = true) :
    s.drops < p.workers := by
  refine Nat.lt_of_le_pred hired (drops_le_of_fires h ?_ fired)
  intro m u v reached turn unfired fired
  have few := ((staffed_of_reaches reached).turn turn).length_le
  rw [drops, turn.dropped_eq_nil (diligent_of_reaches hired reached unfired), List.length_nil,
    Nat.zero_add]
  have same (ledger : v.ledger = u.ledger) : False := by
    rw [ledger, unfired] at fired
    cases fired
  refine Nat.le_pred_of_lt (Nat.lt_of_lt_of_le (List.countP_lt_length_iff.2 ?_) few)
  cases turn with
  | @worker k c w w' s' place turn =>
    have here : (s'.setWorker k w').workers[k]? = some w' := by
      rw [turn.setWorker_workers, List.getElem?_set_self (List.getElem?_eq_some_iff.1 place).1]
    exact ⟨w', List.mem_of_getElem? here, turn.mayDrop_of_fires unfired fired⟩
  | producer place turn => exact (same turn.ledger_eq).elim
  | starter place turn =>
    have full := full_of_reaches sound reached
    rw [place] at full
    exact (same (turn.ledger_eq full)).elim
  | outsider place turn => simp [outsiders_of_reaches reached] at place

/-! ## Tasks that are wasted -/

/-- When all workers have ended, every task that was handed over was begun or wasted. -/
lemma sent_perm_of_gone (h : ReachesBy p kind (p.begin outsiders) s)
    (gone : ∀ w ∈ s.workers, ∃ died, w = .gone died) : s.sent.Perm (s.began ++ s.wasted) := by
  have perm := (conserved_of_reaches h).received_perm
  have pending : s.pending = [] := filterMap_of_gone (fun _ => rfl) gone
  rw [pending, List.append_nil] at perm
  rw [sent_eq h, wasted, ← List.append_assoc]
  exact (perm.trans List.perm_append_comm).append_right _

/-- Without the signal, tasks are wasted only if every worker died. -/
lemma wasted_eq_nil (hired : 0 < p.workers) (h : ReachesBy p kind (p.begin outsiders) s)
    (gone : ∀ w ∈ s.workers, ∃ died, w = .gone died) (unfired : s.ledger.signal.fired = false)
    (alive : ∃ w ∈ s.workers, w ≠ .gone true) : s.wasted = [] := by
  have diligent := diligent_of_reaches hired h unfired
  obtain ⟨w, mem, left⟩ := alive
  obtain ⟨died, rfl⟩ := gone w mem
  cases died with
  | true => exact absurd rfl left
  | false =>
    rw [wasted, diligent.dropped, (diligent.left _ mem rfl).2]
    rfl

/-- **Few tasks are handed over in vain.** Let a run with at least one worker and fewer tasks than words
count be made of whatever moves, all threads be started, and let tasks do whatever they do. When the starter
has joined all threads, every task that was handed over was begun or wasted, and the wasted ones are counted
as abandoned. They are no more than the queue has room for and there are workers; they are one fewer if
nobody fires the signal from outside; and there are none unless the signal is fired or every worker died. -/
theorem run_wastes_little {dead : List Nat} (hired : 0 < p.workers) (small : p.total < UInt64.size)
    (h : ReachesBy p kind (p.begin outsiders) s) (back : s.return? = some (.finished dead)) :
    (s.sent.Perm (s.began ++ s.wasted) ∧ s.counters.abandoned.toNat = s.wasted.length) ∧
    s.counters.abandoned.toNat ≤ p.capacity + p.workers ∧
    (outsiders = 0 → s.counters.abandoned.toNat ≤ p.capacity + p.workers - 1) ∧
    (s.counters.abandoned ≠ 0 →
      s.ledger.signal.fired = true ∨ ∀ w ∈ s.workers, w = .gone true) := by
  obtain ⟨-, joined, producer⟩ := (staffed_of_reaches h).of_finished back
  have gone := joined.all_gone
  have room := length_queue_le h
  have counted : s.counters.abandoned.toNat = s.wasted.length := by
    have settled : s.HasJoined := by rw [HasJoined, back]; trivial
    rw [toNat_abandoned small h, leftBehind, if_pos settled, wasted, List.length_append,
      List.length_map]
  have bounded {bound : Nat} (le : s.ledger.signal.fired = true → s.drops ≤ bound) :
      s.counters.abandoned.toNat ≤ p.capacity + bound := by
    rw [counted, wasted, List.length_append, List.length_map]
    cases signal : s.ledger.signal.fired with
    | true =>
      have drops := le signal
      rw [Crew.drops] at drops
      omega
    | false =>
      rw [(diligent_of_reaches hired h signal).dropped, List.length_nil]
      omega
  refine ⟨⟨sent_perm_of_gone h gone, counted⟩, bounded (drops_le_of_reaches hired h), ?_, ?_⟩
  · rintro rfl
    have sound : p.Sound := (sound_or_panicked h back).resolve_right (by simp)
    have full : s.starter.IsFull := (staffed_of_reaches h).isFull (by simp [producer])
    have one_less := bounded fun fired =>
      Nat.le_pred_of_lt (drops_lt_of_reaches sound hired (granted_of_isFull h full) fired)
    rwa [Nat.pred_eq_sub_one, ← Nat.add_sub_assoc hired] at one_less
  · intro some_wasted
    cases signal : s.ledger.signal.fired with
    | true => exact .inl rfl
    | false =>
      refine .inr fun w mem => ?_
      by_contra alive
      refine some_wasted (UInt64.toNat_inj.1 ?_)
      rw [counted, wasted_eq_nil hired h gone signal ⟨w, mem, alive⟩]
      rfl

/-- Two workers with a queue for one task, and three tasks, of which the first breaks off. -/
def narrowPair : Plan :=
  ⟨{ workerCount := 2, queueCapacity := some 1 },
    [.done (.panic "none"), .done .success, .done .success]⟩

/-- Both workers have received a task, and the third task is in the queue. -/
def bothHold (outsiders : Nat) : Crew :=
  (narrowPair.begin outsiders).follow narrowPair <|
    [.starter, .starter, .starter, .producer, .producer, .worker 0, .worker 0, .worker 1, .worker 1,
      .producer, .worker 0, .producer, .producer, .producer, .worker 1, .producer, .producer,
      .producer].map (⟨·, .usual⟩)

/-- The run after each of these threads in turn took so many steps. -/
def inTurns (p : Plan) (turns : List (Actor × Nat)) (s : Crew) : Crew :=
  s.follow p (turns.flatMap fun (actor, steps) => List.replicate steps ⟨actor, .usual⟩)

/-- The first worker carries out the first task and fires the signal; the second drops its own. -/
def firedWithin : Crew :=
  (bothHold 0).inTurns narrowPair [(.worker 0, 18), (.worker 1, 4), (.producer, 4), (.starter, 4)]

/-- The signal is fired from outside, and both workers drop their tasks. -/
def firedOutside : Crew :=
  (bothHold 1).inTurns narrowPair
    [(.outsider 0, 5), (.worker 0, 4), (.worker 1, 4), (.producer, 4), (.starter, 4)]

theorem run_wastes_little_narrowPair :
    (firedWithin.counters.abandoned.toNat ≤ 1 + 2 - 1 ∧ firedWithin.wasted = [1, 2]) ∧
      firedOutside.counters.abandoned.toNat ≤ 1 + 2 ∧ firedOutside.wasted = [0, 1, 2] := by
  have within : Reaches narrowPair (narrowPair.begin 0) firedWithin :=
    (reaches_follow _ _ _).trans (reaches_follow _ _ _)
  have outside : Reaches narrowPair (narrowPair.begin 1) firedOutside :=
    (reaches_follow _ _ _).trans (reaches_follow _ _ _)
  have back : firedWithin.return? = some (.finished []) := by decide +kernel
  have back' : firedOutside.return? = some (.finished []) := by decide +kernel
  obtain ⟨-, -, bound, -⟩ := run_wastes_little (by decide) (by decide) within back
  obtain ⟨-, bound', -⟩ := run_wastes_little (by decide) (by decide) outside back'
  exact ⟨⟨bound rfl, by decide +kernel⟩, bound', by decide +kernel⟩

end Crew

end TaskCrew
