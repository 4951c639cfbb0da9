import TaskCrew.Executor.Run
import TaskCrew.Proofs.Conservation

/-!
# What the counters say

Counters are words, and threads count one thing after the other, so the counts of a run in progress
do not agree with each other. They agree up to what the threads have done and not yet counted.

* `Counters.Shows` — the counters are the words of numbers that do not wrap around;
* `Worker.counts`, `Worker.owes`, … — what a worker counts next, and what it has yet to count;
* `Crew.Tallied` — the numbers that the counters stand for, in terms of what happened and of what is
  yet to be counted;
* `tallied_of_reaches` — in every state that a run reaches, there are such numbers;
* `run_accounts` — when all threads were joined, the counts agree.

The numbers that the counters stand for are no part of a run. They are no greater than the number of
tasks, so if that is a word, the counters are these numbers.
-/

namespace TaskCrew

/-! ## Counters as words -/

namespace Counters

variable {c : Counters} {n : Counter → Nat}

/-- The counters are the words of these numbers. -/
def Shows (c : Counters) (n : Counter → Nat) : Prop :=
  ∀ k, c.get k = UInt64.ofNat (n k)

lemma Shows.add (h : c.Shows n) (k : Counter) (m : Nat) :
    (c.add k (UInt64.ofNat m)).Shows fun j => n j + if k = j then m else 0 := by
  intro j
  show (c.add k (UInt64.ofNat m)).get j = UInt64.ofNat (n j + if k = j then m else 0)
  by_cases hj : k = j
  · subst hj
    rw [get_add_self, h, if_pos rfl, UInt64.ofNat_add]
  · rw [get_add_of_ne _ _ (Ne.symm hj), h, if_neg hj, Nat.add_zero]

lemma Shows.count (h : c.Shows n) (k : Counter) :
    (c.count k).Shows fun j => n j + if k = j then 1 else 0 :=
  h.add k 1

lemma Shows.leave (h : c.Shows n) (pos : 0 < n .live) :
    c.leave.Shows fun j => n j - if j = .live then 1 else 0 := by
  intro j
  show c.leave.get j = UInt64.ofNat (n j - if j = .live then 1 else 0)
  by_cases hj : j = .live
  · subst hj
    rw [if_pos rfl, UInt64.ofNat_sub pos, ← h]
    rfl
  · rw [if_neg hj, Nat.sub_zero, ← h]
    cases j <;> first | rfl | exact absurd rfl hj

lemma Shows.toNat_get (h : c.Shows n) {k : Counter} (lt : n k < UInt64.size) :
    (c.get k).toNat = n k := by
  rw [h, UInt64.toNat_ofNat_of_lt' lt]

/-- What is left over is none if the counts say that there is less than none. -/
lemma toNat_leftover (c : Counters) :
    c.leftover.toNat = c.submitted.toNat - c.started.toNat - c.abandoned.toNat := by
  simp only [leftover]
  by_cases started : c.started ≤ c.submitted
  · have le := UInt64.le_iff_toNat_le.1 started
    rw [if_pos started]
    by_cases abandoned : c.abandoned ≤ c.submitted - c.started
    · rw [if_pos abandoned, UInt64.toNat_sub_of_le _ _ abandoned, UInt64.toNat_sub_of_le _ _ started]
    · rw [if_neg abandoned]
      rw [UInt64.le_iff_toNat_le, UInt64.toNat_sub_of_le _ _ started] at abandoned
      show 0 = _
      omega
  · rw [if_neg started]
    rw [UInt64.le_iff_toNat_le] at started
    have none : (if c.abandoned ≤ 0 then 0 - c.abandoned else 0) = 0 := by
      split
      · next h => rw [UInt64.le_zero_iff.1 h]; rfl
      · rfl
    rw [none]
    show 0 = _
    omega

end Counters

/-! ## What a worker has yet to count -/

namespace Worker

/-- What a worker counts next. -/
@[simp] def counts : Worker → Option Counter
  | .entering => some .live
  | .dropping _ => some .abandoned
  | .cleared _ => some .started
  | .succeeding => some .succeeded
  | .panicking => some .panicked
  | .failing => some .failed
  | _ => none

/-- A worker counts this next. -/
def ticks (k : Counter) (w : Worker) : Nat :=
  weigh (fun j => if j = k then 1 else 0) w.counts

/-- A worker takes itself off the threads under way next. -/
@[simp] def quits (k : Counter) : Worker → Nat
  | .leaving _ => if k = .live then 1 else 0
  | _ => 0

/-- A worker has counted a task as begun that it has not begun. -/
@[simp] def calls : Worker → Nat
  | .calling _ => 1
  | _ => 0

/-- A worker has yet to count this for the task that it ended. -/
@[simp] def owes : Counter → Worker → Nat
  | .succeeded, .succeeding | .panicked, .panicking | .failed, .panicking | .failed, .failing => 1
  | _, _ => 0

/-- A worker dies or is dead. -/
@[simp] def dies : Worker → Nat
  | .leaving died | .releasing died | .gone died => died.toNat
  | _ => 0

/-- A worker has counted a failure that it has not recorded in the ledger. -/
@[simp] def unrecorded : Worker → Nat
  | .recording .acquire | .recording .increment => 1
  | _ => 0

/-- A worker records a failure in the ledger next. -/
@[simp] def increments : Worker → Nat
  | .recording .increment => 1
  | _ => 0

/-- A worker is counted among the threads under way. -/
@[simp] def lives : Worker → Nat
  | .entering | .releasing _ | .gone _ => 0
  | _ => 1

/-- What a worker counts as it passes from one place to another is what it had yet to count, together
with what happens, apart from what it has yet to count then. -/
structure Balanced (k : Nat) (w w' : Worker) : Prop where
  submitted : w.ticks .submitted = 0
  started : w.ticks .started + w.calls =
    weigh (fun _ => 1) ((news k w w').bind Event.began?) + w'.calls
  abandoned : w.ticks .abandoned = weigh (fun _ => 1) ((news k w w').bind Event.dropped?)
  ended : weigh (fun _ => 1) ((news k w w').bind Event.ended?)
      + w.owes .succeeded + w.owes .failed + w.dies =
    w.ticks .succeeded + w.ticks .failed + w'.owes .succeeded + w'.owes .failed + w'.dies
  panicked : w.ticks .panicked + w'.owes .panicked + w.owes .failed ≤
    w.ticks .failed + w'.owes .failed + w.owes .panicked
  failed : w.ticks .failed + w.unrecorded = w.increments + w'.unrecorded
  live : w.ticks .live + w.lives = w.quits .live + w'.lives
  quits_eq : ∀ j, j ≠ .live → w.quits j = 0

end Worker

namespace Crew

variable {p : Plan} {s t : Crew} {n : Counter → Nat} {f : Nat}

lemma unrecorded_of_step? {l l' : Ledger} {r r' : Recording}
    (h : r.step? l = some (l', .inl r')) :
    (Worker.recording r).unrecorded =
      (Worker.recording r).increments + (Worker.recording r').unrecorded := by
  cases Recording.turn_of_step? h <;> rfl

lemma failures_of_step? {l l' : Ledger} {r r' : Recording} (h : r.step? l = some (l', .inl r')) :
    l'.failures = l.failures + UInt64.ofNat (Worker.recording r).increments := by
  cases Recording.turn_of_step? h <;> simp

/-- A worker counts in time what it does. -/
lemma WorkerTurn.balanced {k : Nat} {w w' : Worker} {s' : Crew} (h : WorkerTurn p k s w w' s') :
    Worker.Balanced k w w' := by
  cases h
  case proceed goesOn _ _ _ =>
    cases goesOn <;> constructor <;> simp [Worker.ticks, Worker.news]
  case finish e _ _ =>
    cases e <;> constructor <;>
      simp [Worker.ticks, Worker.news, Worker.after, Event.began?, Event.dropped?, Event.ended?]
  case record step _ _ =>
    have := unrecorded_of_step? step
    constructor <;> simp_all [Worker.ticks, Worker.news]
  case endRecording step =>
    obtain ⟨⟨count, won, rfl⟩, -⟩ := Recording.eq_release_of_step? step
    constructor <;> simp [Worker.ticks, Worker.news]
  all_goals
    constructor <;>
      simp +contextual [Worker.ticks, Worker.news, Event.began?, Event.dropped?, Event.ended?]

lemma WorkerTurn.shows {k : Nat} {w w' : Worker} {s' : Crew} (h : WorkerTurn p k s w w' s')
    (shows : s.counters.Shows n) (alive : w.lives ≤ n .live) :
    s'.counters.Shows fun j => n j + w.ticks j - w.quits j := by
  cases h
  case leave died => exact shows.leave alive
  case enter | drop | start | succeed | panic | fail => exact shows.count _
  all_goals exact shows

lemma WorkerTurn.failures_eq {k : Nat} {w w' : Worker} {s' : Crew} (h : WorkerTurn p k s w w' s') :
    s'.ledger.failures = s.ledger.failures + UInt64.ofNat w.increments := by
  cases h
  case record step _ _ => exact failures_of_step? step
  case endRecording step =>
    obtain ⟨⟨count, won, rfl⟩, rfl⟩ := Recording.eq_release_of_step? step
    simp [withLedger]
  all_goals exact (UInt64.add_zero _).symm

end Crew

/-! ## What the producer has yet to count -/

namespace Producer

@[simp] def counts : Producer → Option Counter
  | .entering => some .live
  | .counting => some .submitted
  | _ => none

def ticks (k : Counter) (q : Producer) : Nat :=
  weigh (fun j => if j = k then 1 else 0) q.counts

/-- The producer takes itself off the threads under way next. -/
@[simp] def quits (k : Counter) : Producer → Nat
  | .leaving => if k = .live then 1 else 0
  | _ => 0

/-- The producer has yet to count the task that was handed over. -/
@[simp] def owes : Producer → Nat
  | .counting => 1
  | _ => 0

/-- The producer is counted among the threads under way. -/
@[simp] def lives : Producer → Nat
  | .unborn | .entering | .gone => 0
  | _ => 1

end Producer

namespace Crew

variable {p : Plan} {s t : Crew} {n : Counter → Nat} {f : Nat}

lemma ProducerTurn.shows {q q' : Producer} {s' : Crew} (h : ProducerTurn p s q q' s')
    (shows : s.counters.Shows n) (alive : q.lives ≤ n .live) :
    s'.counters.Shows fun j => n j + q.ticks j - q.quits j := by
  cases h
  case leave => exact shows.leave alive
  case enter | count => exact shows.count _
  all_goals exact shows

/-- The producer counts in time what it does, and counts nothing else. -/
lemma ProducerTurn.balanced {q q' : Producer} {s' : Crew} (h : ProducerTurn p s q q' s') :
    q.ticks .submitted + q'.owes + s'.unsent.length = q.owes + s.unsent.length ∧
    q.ticks .live + q.lives = q.quits .live + q'.lives ∧
    ∀ j, (j ≠ .live → q.quits j = 0) ∧ (j ≠ .submitted → j ≠ .live → q.ticks j = 0) := by
  cases h
  case send next _ _ =>
    simp [Producer.ticks, next, Crew.record, Nat.add_comm]
  all_goals
    simp +contextual [Producer.ticks, eq_comm, log, Crew.record, Crew.count, Crew.leave]

/-! ## The numbers that the counters stand for -/

/-- The starter has joined every thread that it started, and has come back. -/
def HasJoined (s : Crew) : Prop :=
  match s.return? with
  | some (.finished _) | some (.refused _) => True
  | _ => False

instance (s : Crew) : Decidable s.HasJoined :=
  match h : s.return? with
  | some (.finished _) | some (.refused _) => .isTrue (by rw [HasJoined, h]; trivial)
  | some .panicked | none => .isFalse (by rw [HasJoined, h]; exact id)

/-- How many tasks were found in the queue when all threads were joined. -/
def leftBehind (s : Crew) : Nat :=
  if s.HasJoined then s.queue.length else 0

/-- The counters and the ledger show numbers that agree with each other and with what happened, up to
what the threads have yet to count. -/
structure Tallied (p : Plan) (s : Crew) (n : Counter → Nat) (f : Nat) : Prop where
  shows : s.counters.Shows n
  failures : s.ledger.failures = UInt64.ofNat f
  submitted : n .submitted + s.producer.owes + s.unsent.length = p.total
  started : n .started = s.began.length + total Worker.calls s.workers
  abandoned : n .abandoned = s.dropped.length + s.leftBehind
  ended : s.ended.length = n .succeeded + n .failed + total (Worker.owes .succeeded) s.workers
    + total (Worker.owes .failed) s.workers + total Worker.dies s.workers
  panicked : n .panicked + total (Worker.owes .panicked) s.workers ≤
    n .failed + total (Worker.owes .failed) s.workers
  failed : n .failed = f + total Worker.unrecorded s.workers
  live : n .live = total Worker.lives s.workers + s.producer.lives

lemma leftBehind_of_not_isOver (h : ¬ s.IsOver) : s.leftBehind = 0 := by
  refine if_neg fun joined => h ?_
  cases hr : s.return? with
  | none => simp [HasJoined, hr] at joined
  | some r => simp [IsOver, hr]

/-- What a view finds grows by what happened to the task of the worker. -/
lemma WorkerTurn.length_seen {k : Nat} {w w' : Worker} {s' : Crew} {view : Event → Option Nat}
    (h : WorkerTurn p k s w w' s') (isView : Event.IsView view) :
    (s'.seen view).length =
      (s.seen view).length + weigh (fun _ => 1) ((Worker.news k w w').bind view) := by
  rw [h.seen_eq isView, List.length_append, ← total_one, ← total_one, total_toList, total_one]

/-- The producer owes a count for a task that a worker took out of its hands. -/
lemma WorkerTurn.owes_eq {k : Nat} {w w' : Worker} {s' : Crew} (h : WorkerTurn p k s w w' s') :
    s'.producer.owes + s'.unsent.length = s.producer.owes + s.unsent.length ∧
      s'.producer.lives = s.producer.lives := by
  cases h
  case handOver empty fed offered next direct =>
    simp [Crew.record, offered, next, Nat.add_comm]
  all_goals exact ⟨rfl, rfl⟩

lemma Tallied.worker {k : Nat} {w w' : Worker} {s' : Crew} (h : s.Tallied p n f)
    (staffed : s.Staffed p) (place : s.workers[k]? = some w) (turn : WorkerTurn p k s w w' s') :
    ∃ n' f', (s'.setWorker k w').Tallied p n' f' := by
  have balanced := turn.balanced
  have workers := turn.setWorker_workers
  have set (g : Worker → Nat) := total_set g w' place
  have grown {view : Event → Option Nat} (isView : Event.IsView view) :
      ((s'.setWorker k w').seen view).length = _ := turn.length_seen isView
  have underway := turn.not_isOver staffed place
  have still : (s'.setWorker k w').leftBehind = 0 := by
    refine leftBehind_of_not_isOver ?_
    simpa [IsOver, return?, setWorker, turn.starter_eq] using underway
  have before := leftBehind_of_not_isOver underway
  obtain ⟨owes, lives⟩ := turn.owes_eq
  -- the word does not wrap around when a worker takes itself off
  have alive : w.lives ≤ n .live := by
    have := le_total_of_mem Worker.lives (List.mem_of_getElem? place)
    have := h.live
    omega
  refine ⟨fun j => n j + w.ticks j - w.quits j, f + w.increments, ?_, ?_, ?_, ?_, ?_, ?_, ?_, ?_, ?_⟩
  · exact turn.shows h.shows alive
  · show s'.ledger.failures = _
    rw [turn.failures_eq, h.failures, UInt64.ofNat_add]
  · have := h.submitted
    have := balanced.submitted
    have := balanced.quits_eq .submitted (by simp)
    show _ + s'.producer.owes + s'.unsent.length = _
    omega
  · have := h.started
    have := balanced.started
    have := balanced.quits_eq .started (by simp)
    have := set Worker.calls
    have := grown Event.isView_began?
    rw [workers]
    rw [began_eq_seen] at *
    omega
  · have := h.abandoned
    have := balanced.abandoned
    have := balanced.quits_eq .abandoned (by simp)
    have := grown Event.isView_dropped?
    rw [still, dropped]
    rw [before, dropped] at *
    omega
  · have := h.ended
    have := balanced.ended
    have := balanced.quits_eq .succeeded (by simp)
    have := balanced.quits_eq .failed (by simp)
    have := set (Worker.owes .succeeded)
    have := set (Worker.owes .failed)
    have := set Worker.dies
    have := grown Event.isView_ended?
    rw [workers]
    rw [ended_eq_seen] at *
    omega
  · have := h.panicked
    have := balanced.panicked
    have := balanced.quits_eq .panicked (by simp)
    have := balanced.quits_eq .failed (by simp)
    have := set (Worker.owes .panicked)
    have := set (Worker.owes .failed)
    rw [workers]
    omega
  · have := h.failed
    have := balanced.failed
    have := balanced.quits_eq .failed (by simp)
    have := set Worker.unrecorded
    rw [workers]
    omega
  · have := h.live
    have := balanced.live
    have := set Worker.lives
    show _ = total Worker.lives (s'.setWorker k w').workers + s'.producer.lives
    rw [workers, lives]
    omega

lemma Tallied.producer {q q' : Producer} {s' : Crew} (h : s.Tallied p n f)
    (staffed : s.Staffed p) (place : s.producer = q) (turn : ProducerTurn p s q q' s') :
    ∃ n' f', (s'.setProducer q').Tallied p n' f' := by
  obtain ⟨submitted, live, others⟩ := turn.balanced
  have workers : (s'.setProducer q').workers = s.workers := turn.workers_eq
  have same {view : Event → Option Nat} (isView : Event.IsView view) :
      (s'.setProducer q').seen view = s.seen view := turn.seen_eq isView
  have underway := turn.not_isOver staffed place
  have still : (s'.setProducer q').leftBehind = 0 := by
    refine leftBehind_of_not_isOver ?_
    simpa [IsOver, return?, setProducer, turn.starter_eq] using underway
  have before := leftBehind_of_not_isOver underway
  have alive : q.lives ≤ n .live := by
    rw [h.live, place]
    exact Nat.le_add_left _ _
  have untouched {j : Counter} (hs : j ≠ .submitted) (hl : j ≠ .live) :
      n j + q.ticks j - q.quits j = n j := by
    rw [(others j).1 hl, (others j).2 hs hl]
    rfl
  refine ⟨fun j => n j + q.ticks j - q.quits j, f, turn.shows h.shows alive, ?_, ?_, ?_, ?_, ?_,
    ?_, ?_, ?_⟩
  · show s'.ledger.failures = _
    rw [turn.ledger_eq, h.failures]
  · have := h.submitted
    have := (others .submitted).1 (by simp)
    show _ + q'.owes + s'.unsent.length = _
    rw [place] at *
    omega
  · rw [untouched (by simp) (by simp), workers, began_eq_seen, same Event.isView_began?]
    exact h.started
  · rw [untouched (by simp) (by simp), dropped, same Event.isView_dropped?, still, ← before]
    exact h.abandoned
  · rw [untouched (by simp) (by simp), untouched (by simp) (by simp), workers, ended_eq_seen,
      same Event.isView_ended?]
    exact h.ended
  · rw [untouched (by simp) (by simp), untouched (by simp) (by simp), workers]
    exact h.panicked
  · rw [untouched (by simp) (by simp), workers]
    exact h.failed
  · have := h.live
    show _ = total Worker.lives (s'.setProducer q').workers + q'.lives
    rw [workers]
    rw [place] at *
    omega

/-- Where nothing happens to a task and nothing changes that is yet to be counted, the counters show
the same numbers, but for the tasks that were left behind. -/
lemma Tallied.of_shows {n' : Counter → Nat} (h : s.Tallied p n f) (shows : t.counters.Shows n')
    (same : ∀ k, k ≠ .abandoned → n' k = n k)
    (behind : n' .abandoned + s.leftBehind = n .abandoned + t.leftBehind)
    (failures : t.ledger.failures = s.ledger.failures)
    (seen : ∀ {view}, Event.IsView view → t.seen view = s.seen view)
    (unsent : t.unsent = s.unsent)
    (producer : t.producer.owes = s.producer.owes ∧ t.producer.lives = s.producer.lives)
    (workers : ∀ g : Worker → Nat, g .entering = 0 → total g t.workers = total g s.workers) :
    t.Tallied p n' f where
  shows := shows
  failures := failures.trans h.failures
  submitted := by rw [same _ (by simp), producer.1, unsent, h.submitted]
  started := by
    rw [same _ (by simp), began_eq_seen, seen Event.isView_began?, workers _ rfl]
    exact h.started
  abandoned := by
    have := h.abandoned
    rw [dropped, seen Event.isView_dropped?]
    rw [dropped] at this
    omega
  ended := by
    rw [same _ (by simp), same _ (by simp), ended_eq_seen, seen Event.isView_ended?,
      workers _ rfl, workers _ rfl, workers _ rfl]
    exact h.ended
  panicked := by
    rw [same _ (by simp), same _ (by simp), workers _ rfl, workers _ rfl]
    exact h.panicked
  failed := by rw [same _ (by simp), workers _ rfl]; exact h.failed
  live := by rw [same _ (by simp), workers _ rfl, producer.2]; exact h.live

/-- A worker that has counted a task as begun still has it in hand. -/
lemma total_calls_le (s : Crew) :
    total Worker.calls s.workers ≤ total (fun w => weigh (fun _ => 1) w.pending?) s.workers := by
  refine total_le_total fun w _ => ?_
  cases w <;> simp [Worker.pending?]

lemma leftBehind_le (s : Crew) : s.leftBehind ≤ s.queue.length := by
  rw [leftBehind]
  split
  · exact Nat.le_refl _
  · exact Nat.zero_le _

/-- The tasks are all that anything is counted of but threads. -/
lemma Tallied.le_total (h : s.Tallied p n f) (conserved : s.Conserved p) :
    f ≤ p.total ∧ ∀ k, k ≠ .live → n k ≤ p.total := by
  have received := conserved.received_total fun _ => 1
  have length := conserved.received_eq_range.2
  have ended := conserved.length_ended_le
  have calls := s.total_calls_le
  have behind := s.leftBehind_le
  obtain ⟨-, -, submitted, started, abandoned, counted, panicked, failed, -⟩ := h
  simp only [total_one] at received
  refine ⟨by omega, fun k other => ?_⟩
  cases k with
  | live => exact absurd rfl other
  | _ => omega

/-- No counter but that of threads wraps around. -/
lemma Tallied.toNat_get (h : s.Tallied p n f) (conserved : s.Conserved p)
    (small : p.total < UInt64.size) {k : Counter} (other : k ≠ .live) :
    (s.counters.get k).toNat = n k :=
  h.shows.toNat_get (Nat.lt_of_le_of_lt ((h.le_total conserved).2 k other) small)

/-- Before the starter settles the counters, the submitted tasks are those begun, dropped and in the
queue. -/
lemma Tallied.submitted_of_settling (h : s.Tallied p n f) (staffed : s.Staffed p)
    (conserved : s.Conserved p) (small : p.total < UInt64.size) {dead : List Nat}
    {refused : Option Refusal} (place : s.starter = .settling dead refused) :
    s.counters.submitted.toNat =
      s.counters.started.toNat + s.counters.abandoned.toNat + s.queue.length := by
  rw [Staffed, place] at staffed
  obtain ⟨manned, joined, closed⟩ := staffed
  have idle (g : Worker → Nat) (hg : ∀ died, g (.gone died) = 0) : total g s.workers = 0 :=
    total_of_gone hg joined.all_gone
  have sent : s.producer.owes = 0 := by
    cases refused with
    | none => rw [closed rfl]; rfl
    | some started => rw [manned.2.2.1]; rfl
  have behind : s.leftBehind = 0 := if_neg (by simp [HasJoined, return?, place])
  have received := conserved.received_total fun _ => 1
  have length := conserved.received_eq_range.2
  have pending := idle (fun w => weigh (fun _ => 1) w.pending?) fun _ => rfl
  have calls := idle Worker.calls fun _ => rfl
  have submitted := h.submitted
  have started := h.started
  have abandoned := h.abandoned
  have hs : s.counters.submitted.toNat = n .submitted :=
    h.toNat_get conserved small (k := .submitted) (by decide)
  have hb : s.counters.started.toNat = n .started := h.toNat_get conserved small (k := .started) (by decide)
  have ha : s.counters.abandoned.toNat = n .abandoned :=
    h.toNat_get conserved small (k := .abandoned) (by decide)
  simp only [total_one] at received
  omega

/-- What the starter does apart from settling changes no counter. -/
lemma StarterTurn.counters_eq {c : Choice} {q q' : Starter} {s' : Crew}
    (h : StarterTurn p s c q q' s') (busy : ∀ dead refused, q ≠ .settling dead refused) :
    s'.counters = s.counters ∧ s'.ledger.failures = s.ledger.failures ∧
      ¬ (s'.setStarter q').HasJoined := by
  cases h
  case settle dead refused _ _ => exact absurd rfl (busy dead refused)
  all_goals exact ⟨rfl, rfl, id⟩

lemma Tallied.starter {c : Choice} {q q' : Starter} {s' : Crew} (h : s.Tallied p n f)
    (staffed : s.Staffed p) (conserved : s.Conserved p) (small : p.total < UInt64.size)
    (place : s.starter = q) (turn : StarterTurn p s c q q' s') :
    ∃ n' f', (s'.setStarter q').Tallied p n' f' := by
  have busy (hq : ∀ r, q ≠ .returned r) : ¬ s.HasJoined := by
    cases q with
    | returned r => exact absurd rfl (hq r)
    | _ => simp [HasJoined, return?, place]
  by_cases settling : ∃ dead refused, q = .settling dead refused
  · obtain ⟨dead, refused, rfl⟩ := settling
    -- neither subtraction goes below zero, for the queue is what is left of the submitted tasks
    have leftover : s.counters.leftover = UInt64.ofNat s.queue.length := by
      have submitted := h.submitted_of_settling staffed conserved small place
      have length := conserved.received_eq_range.2
      refine UInt64.toNat_inj.1 ?_
      rw [Counters.toNat_leftover, UInt64.toNat_ofNat_of_lt' (by omega)]
      omega
    have before : s.leftBehind = 0 := if_neg (busy (by simp))
    cases turn with
    | settle events incidental =>
      have shows := leftover ▸ h.shows.add .abandoned s.queue.length
      refine ⟨_, f, h.of_shows shows ?_ ?_ rfl (fun isView => seen_note isView.1 incidental) rfl
        ⟨rfl, rfl⟩ fun _ _ => rfl⟩
      · intro k hk
        rw [if_neg (Ne.symm hk), Nat.add_zero]
      · rw [if_pos rfl, before, leftBehind, if_pos]
        · rfl
        · cases refused <;> trivial
  · push Not at settling
    obtain ⟨counters, failures, still⟩ := turn.counters_eq settling
    have before : s.leftBehind = 0 := by
      refine if_neg (busy ?_)
      rintro r rfl
      cases turn
    have behind : (s'.setStarter q').leftBehind = 0 := if_neg still
    refine ⟨n, f, h.of_shows (counters ▸ h.shows) (fun _ _ => rfl) (by rw [before, behind])
      failures (fun isView => turn.seen_eq isView) turn.unsent_eq ?_ turn.total_workers⟩
    cases turn with
    | startProducer sound all =>
      rw [Staffed, place] at staffed
      have unborn : s.producer = .unborn := staffed.1.2.2.1
      simp [setStarter, setProducer, unborn]
    | _ => exact ⟨rfl, rfl⟩

lemma Tallied.outsider {k : Nat} {g : Firing} {g' : Option Firing} {s' : Crew}
    (h : s.Tallied p n f) (turn : OutsiderTurn s g g' s') : (s'.setOutsider k g').Tallied p n f := by
  cases turn <;>
    exact h.of_shows h.shows (fun _ _ => rfl) rfl rfl (fun _ => rfl) rfl ⟨rfl, rfl⟩ fun _ _ => rfl

theorem Tallied.turn {m : Move} (h : s.Tallied p n f) (staffed : s.Staffed p)
    (conserved : s.Conserved p) (small : p.total < UInt64.size) (turn : Turn p s m t) :
    ∃ n' f', t.Tallied p n' f' := by
  cases turn with
  | worker place turn => exact h.worker staffed place turn
  | producer place turn => exact h.producer staffed place turn
  | starter place turn => exact h.starter staffed conserved small place turn
  | outsider place turn => exact ⟨n, f, h.outsider turn⟩

/-- In every state that a run reaches, the counters show numbers that agree. -/
theorem tallied_of_reaches {kind : Move → Prop} {outsiders : Nat} (small : p.total < UInt64.size)
    (h : ReachesBy p kind (p.begin outsiders) s) : ∃ n f, s.Tallied p n f := by
  refine h.invariant (I := fun s => ∃ n f, s.Tallied p n f) ⟨fun _ => 0, 0, ?_⟩ ?_
  · refine ⟨fun k => by cases k <;> rfl, rfl, ?_, rfl, rfl, rfl, Nat.le_refl _, rfl, rfl⟩
    simp [Plan.begin, Crew.begin, Plan.jobs, Job.length_number, Plan.total]
  · intro m u v reached _ turn tallied
    obtain ⟨n, f, hu⟩ := tallied
    exact hu.turn (staffed_of_reaches reached) (conserved_of_reaches reached) small turn

/-! ## When all threads are joined -/

/-- The counts of a run agree with each other, with the ledger and with what happened. -/
structure Settled (p : Plan) (s : Crew) : Prop where
  submitted : s.counters.submitted.toNat = s.counters.started.toNat + s.counters.abandoned.toNat
  submitted_le : s.counters.submitted.toNat ≤ p.total
  started : s.counters.started.toNat = s.began.length
  ended : s.counters.started.toNat =
    s.counters.succeeded.toNat + s.counters.failed.toNat + s.workers.count (.gone true)
  panicked_le : s.counters.panicked ≤ s.counters.failed
  failures : s.ledger.failures = s.counters.failed
  live : s.counters.live = 0

lemma HasJoined.isOver (h : s.HasJoined) : s.IsOver := by
  cases hr : s.return? with
  | none => simp [HasJoined, hr] at h
  | some r => simp [IsOver, hr]

lemma count_gone (gone : ∀ w ∈ s.workers, ∃ died, w = .gone died) :
    s.workers.count (.gone true) = total Worker.dies s.workers := by
  rw [← total_beq]
  refine total_congr fun w mem => ?_
  obtain ⟨died, rfl⟩ := gone w mem
  cases died <;> rfl

/-- Once all threads are joined, nothing is yet to be counted. -/
theorem Tallied.settled (h : s.Tallied p n f) (staffed : s.Staffed p) (conserved : s.Conserved p)
    (small : p.total < UInt64.size) (joined : s.HasJoined) : s.Settled p := by
  obtain ⟨gone, ended⟩ := hasEnded_of_isOver staffed joined.isOver
  have idle (g : Worker → Nat) (hg : ∀ died, g (.gone died) = 0) : total g s.workers = 0 :=
    total_of_gone hg gone
  have producer : s.producer.owes = 0 ∧ s.producer.lives = 0 := by
    split at ended
    · exact absurd ended id
    · rw [ended.2]; exact ⟨rfl, rfl⟩
    · rw [ended.2]; exact ⟨rfl, rfl⟩
    · rw [ended.2]; exact ⟨rfl, rfl⟩
  have received := conserved.received_total fun _ => 1
  have pending := idle (fun w => weigh (fun _ => 1) w.pending?) fun _ => rfl
  have began := conserved.began_total fun _ => 1
  have underway := idle (fun w => weigh (fun _ => 1) w.underway?) fun _ => rfl
  have length := conserved.received_eq_range.2
  have behind : s.leftBehind = s.queue.length := if_pos joined
  simp only [total_one] at received began
  have word (k : Counter) (other : k ≠ .live) : (s.counters.get k).toNat = n k :=
    h.toNat_get conserved small other
  obtain ⟨shows, failures, submitted, started, abandoned, counted, panicked, failed, live⟩ := h
  rw [producer.1] at submitted
  rw [idle Worker.calls fun _ => rfl] at started
  rw [idle (Worker.owes .succeeded) fun _ => rfl, idle (Worker.owes .failed) fun _ => rfl,
    ← count_gone gone] at counted
  rw [idle (Worker.owes .panicked) fun _ => rfl, idle (Worker.owes .failed) fun _ => rfl] at panicked
  rw [idle Worker.unrecorded fun _ => rfl] at failed
  rw [idle Worker.lives fun _ => rfl, producer.2] at live
  have hs : s.counters.submitted.toNat = n .submitted := word .submitted nofun
  have hb : s.counters.started.toNat = n .started := word .started nofun
  have ha : s.counters.abandoned.toNat = n .abandoned := word .abandoned nofun
  have hg : s.counters.succeeded.toNat = n .succeeded := word .succeeded nofun
  have hf : s.counters.failed.toNat = n .failed := word .failed nofun
  have hp : s.counters.panicked.toNat = n .panicked := word .panicked nofun
  refine ⟨by omega, by omega, by omega, by omega, ?_, ?_, ?_⟩
  · rw [UInt64.le_iff_toNat_le]
    omega
  · rw [failures, ← Nat.add_zero f, ← failed]
    exact (shows .failed).symm
  · have shown := shows .live
    rwa [live] at shown

/-- Once all threads are joined, the counts agree. -/
theorem settled_of_reaches {kind : Move → Prop} {outsiders : Nat}
    (h : ReachesBy p kind (p.begin outsiders) s) (small : p.total < UInt64.size)
    (joined : s.HasJoined) : s.Settled p := by
  obtain ⟨n, f, tallied⟩ := tallied_of_reaches small h
  exact tallied.settled (staffed_of_reaches h) (conserved_of_reaches h) small joined

end Crew

lemma Executor.report?_eq_ok {e : Executor} {bodies : List Body} {s : Crew} {r : Report}
    (h : e.report? bodies s = some (.returned (.ok r))) :
    s.return? = some (.finished []) ∧ r = e.reportOn s := by
  cases hr : s.return? with
  | none => simp [Executor.report?, hr] at h
  | some back =>
    rw [Executor.report?, hr] at h
    cases back with
    | finished dead =>
      cases dead with
      | nil => exact ⟨rfl, by simpa [Return.result] using h.symm⟩
      | cons k dead => simp [Return.result] at h
    | refused started => simp [Return.result] at h
    | panicked => simp [Return.result] at h

lemma Executor.outcome_reportOn (e : Executor) (s : Crew) :
    (e.reportOn s).outcome = .limitReached ↔ s.ledger.limit ≤ s.ledger.failures := by
  by_cases reached : s.ledger.limit ≤ s.ledger.failures
  · simp [reportOn, Ledger.limitReached, reached]
  · simp [reportOn, Ledger.limitReached, reached]

namespace Crew

variable {p : Plan} {s : Crew}

/-- The starter found no worker dead if none died. -/
lemma Joined.dead_eq_nil {workers : List Worker} {dead : List Nat}
    (h : Joined workers workers.length dead) (alive : total Worker.dies workers = 0) :
    dead = [] := by
  rw [h.dead_eq, List.filter_eq_nil_iff]
  intro i _ died
  have mem := List.mem_of_getElem? (of_decide_eq_true died)
  have := le_total_of_mem Worker.dies mem
  simp only [Worker.dies, Bool.toNat_true] at this
  omega

/-- No worker died if the starter found none dead. -/
lemma Joined.count_eq_zero {workers : List Worker} (h : Joined workers workers.length []) :
    workers.count (.gone true) = 0 := by
  refine List.count_eq_zero.2 fun mem => ?_
  obtain ⟨i, place⟩ := List.mem_iff_getElem?.1 mem
  have dead : i ∈ (List.range workers.length).filter fun i => workers[i]? = some (.gone true) :=
    List.mem_filter.2 ⟨List.mem_range.2 (List.getElem?_eq_some_iff.1 place).1, by simpa using place⟩
  rw [← h.dead_eq] at dead
  cases dead

/-- **The counts of a run agree.** Whatever moves a run of fewer tasks than words count is made of,
once the starter has joined all threads the counts agree with each other, with the ledger and with
what happened; and whatever report an executor then gives accounts for every task that was begun and
says that the limit was reached exactly if as many tasks failed. -/
theorem run_accounts {kind : Move → Prop} {outsiders : Nat}
    (h : ReachesBy p kind (p.begin outsiders) s) (small : p.total < UInt64.size)
    (joined : s.HasJoined) :
    s.Settled p ∧
      ∀ (e : Executor) (bodies : List Body) (r : Report), e.plan bodies = p →
        e.report? bodies s = some (.returned (.ok r)) →
        r.stats.counters.started.toNat =
            r.stats.counters.succeeded.toNat + r.stats.counters.failed.toNat ∧
          (r.outcome = .limitReached ↔
            max e.config.errorLimit.toInt 1 ≤ (r.stats.counters.failed.toNat : Int)) := by
  have settled := settled_of_reaches h small joined
  refine ⟨settled, ?_⟩
  rintro e bodies r rfl report
  obtain ⟨back, rfl⟩ := Executor.report?_eq_ok report
  have alive := ((staffed_of_reaches h).of_finished back).2.1.count_eq_zero
  have ended := settled.ended
  rw [alive, Nat.add_zero] at ended
  refine ⟨ended, ?_⟩
  have limit := limit_of_reaches h
  have reached : s.ledger.limit ≤ s.ledger.failures ↔
      max e.config.errorLimit.toInt 1 ≤ (s.counters.failed.toNat : Int) := by
    rw [limit, Executor.plan, settled.failures, ← e.config.toNat_normalizedErrorLimit, Int.ofNat_le,
      UInt64.le_iff_toNat_le]
  exact (e.outcome_reportOn s).trans reached

theorem run_accounts_threeTasks :
    (Plan.threeTasks.carryOut { limit := 1 } {}).HasJoined ∧
      (Plan.threeTasks.carryOut { limit := 1 } {}).Settled .threeTasks := by
  have joined : (Plan.threeTasks.carryOut { limit := 1 } {}).HasJoined := by decide +kernel
  have reached : Reaches .threeTasks (Plan.threeTasks.begin 0)
      (Plan.threeTasks.carryOut { limit := 1 } {}) := reaches_drive _ _ .refl
  exact ⟨joined, (run_accounts reached (by decide) joined).1⟩

end Crew

end TaskCrew
