import TaskCrew.Proofs.Termination
import Mathlib.Data.List.Nodup

/-!
# Who has a task

The tasks pass from the list to the workers in order, and every task that was received belongs to one
worker, which has it in hand, has begun it, or has dropped it.

* `Event.ofWorker`, `Crew.receivedBy`, … — what a view finds of one worker;
* `Worker.job?`, `jobs_of_reaches` — the task that a worker has in hand is one of the list;
* `Crew.Custody`, `custody_of_reaches` — what a worker received is what it dropped, began and has in
  hand;
* `Crew.BelongsTo` — a task belongs to one worker, and met with one fate;
* `ReadsFired`, `exists_readsFired` — a worker that dropped a task has seen the flag set while it had
  the task in hand;
* `run_hands_over` — tasks are neither lost nor doubled, and pass on in order.
-/

namespace TaskCrew

namespace Event

/-- The worker whose task something happened to. -/
def worker? : Event → Option Nat
  | .received k _ | .dropped k _ | .began k _ | .ended k _ => some k
  | _ => none

/-- What a view finds of one worker. -/
def ofWorker (k : Nat) (view : Event → Option Nat) (e : Event) : Option Nat :=
  if e.worker? = some k then view e else none

variable {view : Event → Option Nat} {e : Event} {k l i : Nat}

lemma IsView.ofWorker (h : IsView view) (k : Nat) : IsView (ofWorker k view) := by
  refine ⟨fun e incidental => ?_, fun index => ?_⟩
  · rw [Event.ofWorker, h.1 e incidental, ite_self]
  · rw [Event.ofWorker, h.2 index, ite_self]

/-- Whatever a view finds is found of some worker. -/
lemma IsView.exists_worker (h : IsView view) (found : view e = some i) :
    ∃ k, e.worker? = some k := by
  cases e with
  | received k _ | dropped k _ | began k _ | ended k _ => exact ⟨k, rfl⟩
  | sent index => simp [h.2] at found
  | gaveUp | inner | logged => exact absurd (found.symm.trans (h.1 _ (by trivial))) nofun

/-- What a view finds of two workers it finds of both together. -/
lemma count_ofWorker_add_le (view : Event → Option Nat) (ne : k ≠ l) (events : List Event)
    (i : Nat) :
    (events.filterMap (ofWorker k view)).count i + (events.filterMap (ofWorker l view)).count i ≤
      (events.filterMap view).count i := by
  rw [List.count_filterMap, List.count_filterMap, List.count_filterMap, ← total_toNat,
    ← total_toNat, ← total_toNat, ← total_add]
  refine total_le_total fun e _ => ?_
  by_cases hk : e.worker? = some k
  · simp [ofWorker, hk, ne]
  · simp only [ofWorker, hk, if_false]
    split <;> simp

end Event

namespace Worker

/-- The task that a worker has in hand and has not begun. -/
def job? : Worker → Option Job
  | .holding j | .dropping j | .cleared j | .calling j => some j
  | _ => none

lemma worker?_of_news {k : Nat} {w w' : Worker} {e : Event} (h : news k w w' = some e) :
    e.worker? = some k := by
  unfold news at h
  split at h <;> cases h <;> rfl

/-- A view finds of one worker what happened to a task of that worker. -/
lemma bind_news_ofWorker (view : Event → Option Nat) (k l : Nat) (w w' : Worker) :
    (news l w w').bind (Event.ofWorker k view) = if l = k then (news l w w').bind view else none := by
  cases he : news l w w' with
  | none => simp
  | some e => simp [Event.ofWorker, worker?_of_news he]

end Worker

namespace Crew

variable {p : Plan} {k l i : Nat} {w w' : Worker} {s t s' : Crew}

/-- The tasks that a worker received, in order. -/
def receivedBy (s : Crew) (k : Nat) : List Nat :=
  s.seen (Event.ofWorker k Event.received?)

/-- The tasks that a worker dropped, in order. -/
def droppedBy (s : Crew) (k : Nat) : List Nat :=
  s.seen (Event.ofWorker k Event.dropped?)

/-- The tasks that a worker began, in order. -/
def begunBy (s : Crew) (k : Nat) : List Nat :=
  s.seen (Event.ofWorker k Event.began?)

/-- The task that a worker has received and not begun. -/
def inHand (s : Crew) (k : Nat) : Option Nat :=
  s.workers[k]?.bind Worker.pending?

/-! ## The tasks in hand -/

lemma WorkerTurn.mem_jobs (h : WorkerTurn p k s w w' s') (conserved : s.Conserved p)
    (own : ∀ j ∈ w.job?, j ∈ p.jobs) : ∀ j ∈ w'.job?, j ∈ p.jobs := by
  obtain ⟨taken, jobs, -⟩ := conserved.handed
  cases h
  case receive front =>
    rintro j ⟨⟩
    simp [jobs, front]
  case handOver next _ =>
    rintro j ⟨⟩
    simp [jobs, next]
  case refuse | clear | start => exact own
  case finish e _ _ => cases e <;> exact nofun
  all_goals exact nofun

/-- In every state that a run reaches, the tasks that workers have in hand are tasks of the list. -/
theorem jobs_of_reaches {kind : Move → Prop} {outsiders : Nat}
    (h : ReachesBy p kind (p.begin outsiders) s) :
    ∀ w ∈ s.workers, ∀ j ∈ w.job?, j ∈ p.jobs := by
  refine h.invariant (I := fun s => ∀ w ∈ s.workers, ∀ j ∈ w.job?, j ∈ p.jobs) nofun ?_
  intro m u v reached _ turn own
  exact turn.forall_workers own nofun fun _ turn => turn.mem_jobs (conserved_of_reaches reached)

/-! ## What a worker received -/

/-- Whatever number is given to tasks, those that a worker received add up to those that it dropped,
began and has in hand. -/
def Custody (s : Crew) : Prop :=
  ∀ k f, total f (s.receivedBy k) =
    total f (s.droppedBy k) + total f (s.begunBy k) + weigh f (s.inHand k)

lemma inHand_set_self (place : s.workers[k]? = some w) (workers : t.workers = s.workers.set k w') :
    t.inHand k = w'.pending? := by
  rw [inHand, workers, List.getElem?_set_self (List.getElem?_eq_some_iff.1 place).1,
    Option.bind_some]

lemma inHand_set_of_ne (ne : l ≠ k) (workers : t.workers = s.workers.set l w') :
    t.inHand k = s.inHand k := by
  rw [inHand, workers, List.getElem?_set_ne ne, inHand]

lemma Custody.worker (h : s.Custody) (place : s.workers[l]? = some w)
    (turn : WorkerTurn p l s w w' s') : (s'.setWorker l w').Custody := by
  intro k f
  have seen {view : Event → Option Nat} (isView : Event.IsView view) :
      total f ((s'.setWorker l w').seen (Event.ofWorker k view)) =
        total f (s.seen (Event.ofWorker k view)) +
          weigh f (if l = k then (Worker.news l w w').bind view else none) := by
    show total f (s'.seen _) = _
    rw [turn.seen_eq (isView.ofWorker k), total_append, total_toList, Worker.bind_news_ofWorker]
  have before := h k f
  simp only [receivedBy, droppedBy, begunBy, seen Event.isView_received?,
    seen Event.isView_dropped?, seen Event.isView_began?] at before ⊢
  by_cases own : l = k
  · subst own
    have step := turn.pending_eq f
    have hand : s.inHand l = w.pending? := by rw [inHand, place, Option.bind_some]
    rw [hand] at before
    simp only [if_true]
    rw [inHand_set_self place turn.setWorker_workers]
    omega
  · simp only [own, if_false, weigh_none]
    rw [inHand_set_of_ne own turn.setWorker_workers]
    omega

/-- What another thread does leaves to every worker what it has. -/
lemma Custody.of_seen_eq (h : s.Custody)
    (seen : ∀ {view}, Event.IsView view → t.seen view = s.seen view)
    (hands : ∀ k, t.inHand k = s.inHand k) : t.Custody := by
  intro k f
  rw [receivedBy, droppedBy, begunBy, seen (Event.isView_received?.ofWorker k),
    seen (Event.isView_dropped?.ofWorker k), seen (Event.isView_began?.ofWorker k), hands]
  exact h k f

/-- The starter leaves every worker where it stands, but for one that begins. -/
lemma StarterTurn.getElem?_workers {c : Choice} {q q' : Starter} (h : StarterTurn p s c q q' s')
    (k : Nat) :
    s'.workers[k]? = s.workers[k]? ∨ s.workers[k]? = none ∧ s'.workers[k]? = some .entering := by
  cases h
  case startWorker =>
    show (s.workers ++ [Worker.entering])[k]? = _ ∨ _ ∧ (s.workers ++ [Worker.entering])[k]? = _
    rcases Nat.lt_trichotomy k s.workers.length with lt | rfl | gt
    · exact .inl (List.getElem?_append_left lt)
    · exact .inr ⟨List.getElem?_eq_none (Nat.le_refl _), List.getElem?_concat_length⟩
    · refine .inl ?_
      rw [List.getElem?_eq_none (Nat.le_of_lt gt), List.getElem?_eq_none (by simpa using Nat.succ_le_of_lt gt)]
  all_goals exact .inl rfl

lemma StarterTurn.inHand_eq {c : Choice} {q q' : Starter} (h : StarterTurn p s c q q' s') (k : Nat) :
    s'.inHand k = s.inHand k := by
  rcases h.getElem?_workers k with same | ⟨none, new⟩
  · rw [inHand, same, inHand]
  · rw [inHand, new, inHand, none]
    rfl

theorem Custody.turn {m : Move} (h : s.Custody) (turn : Turn p s m t) : t.Custody := by
  cases turn with
  | worker place turn => exact h.worker place turn
  | producer place turn =>
    refine h.of_seen_eq (fun isView => turn.seen_eq isView) fun k => ?_
    rw [inHand, setProducer, turn.workers_eq, inHand]
  | starter place turn =>
    exact h.of_seen_eq (fun isView => turn.seen_eq isView) turn.inHand_eq
  | outsider place turn => cases turn <;> exact h.of_seen_eq (fun _ => rfl) fun _ => rfl

/-- In every state that a run reaches, what a worker received is accounted for. -/
theorem custody_of_reaches {kind : Move → Prop} {outsiders : Nat}
    (h : ReachesBy p kind (p.begin outsiders) s) : s.Custody :=
  h.invariant (fun _ _ => rfl) fun _ _ turn custody => custody.turn turn

/-! ## Every task has one owner and one fate -/

lemma mem_seen_iff {view : Event → Option Nat} (isView : Event.IsView view) :
    i ∈ s.seen view ↔ ∃ k, i ∈ s.seen (Event.ofWorker k view) := by
  simp only [seen, List.mem_filterMap]
  constructor
  · rintro ⟨e, mem, found⟩
    obtain ⟨k, worker⟩ := isView.exists_worker found
    exact ⟨k, e, mem, by rw [Event.ofWorker, if_pos worker, found]⟩
  · rintro ⟨k, e, mem, found⟩
    rw [Event.ofWorker] at found
    split at found
    · exact ⟨e, mem, found⟩
    · cases found

/-- How often a worker received a task is how often it dropped it, began it and has it in hand. -/
lemma Custody.count_eq (h : s.Custody) (k i : Nat) :
    (s.receivedBy k).count i =
      (s.droppedBy k).count i + (s.begunBy k).count i + (s.inHand k).toList.count i := by
  have totals := h k fun j => (j == i).toNat
  rwa [← total_toList, total_beq, total_beq, total_beq, total_beq] at totals

/-- A task belongs to a worker: it received the task once, and either has the task in hand, or has
begun it once, or has dropped it; and no other worker has had anything to do with the task. -/
structure BelongsTo (s : Crew) (i k : Nat) : Prop where
  received : (s.receivedBy k).count i = 1
  fate : (s.droppedBy k).count i + (s.begunBy k).count i + (s.inHand k).toList.count i = 1
  others : ∀ l, l ≠ k →
    i ∉ s.receivedBy l ∧ i ∉ s.droppedBy l ∧ i ∉ s.begunBy l ∧ i ∉ s.inHand l

/-- Every task that was received belongs to a worker. -/
theorem Custody.exists_belongsTo (h : s.Custody) (conserved : s.Conserved p)
    (mem : i ∈ s.received) : ∃ k, s.BelongsTo i k := by
  obtain ⟨k, own⟩ := (mem_seen_iff Event.isView_received?).1 mem
  have once := List.nodup_iff_count_le_one.1 conserved.nodup_received i
  -- what two workers received adds up to no more than what was received, and nothing was twice
  have both {l : Nat} (ne : l ≠ k) : (s.receivedBy k).count i + (s.receivedBy l).count i ≤
      s.received.count i :=
    Event.count_ofWorker_add_le Event.received? (Ne.symm ne) s.events i
  have pos : 0 < (s.receivedBy k).count i := List.count_pos_iff.2 own
  have received : (s.receivedBy k).count i = 1 := by
    have := both (l := k + 1) (by omega)
    omega
  refine ⟨k, received, (h.count_eq k i).symm.trans received, fun l ne => ?_⟩
  have none : (s.receivedBy l).count i = 0 := by
    have := both ne
    omega
  have fates := h.count_eq l i
  rw [none] at fates
  have empty : i ∉ (s.inHand l).toList := List.count_eq_zero.1 (by omega)
  exact ⟨List.count_eq_zero.1 none, List.count_eq_zero.1 (by omega),
    List.count_eq_zero.1 (by omega), fun hand => empty (Option.mem_toList.2 hand)⟩

/-- Only tasks that were received are begun. -/
lemma Custody.mem_received (h : s.Custody) (began : i ∈ s.began) : i ∈ s.received := by
  obtain ⟨k, own⟩ := (mem_seen_iff Event.isView_began?).1 began
  have pos : 0 < (s.begunBy k).count i := List.count_pos_iff.2 own
  have count := h.count_eq k i
  exact (mem_seen_iff Event.isView_received?).2 ⟨k, List.count_pos_iff.1 (by
    show 0 < (s.receivedBy k).count i
    omega)⟩

/-! ## Tasks that were dropped -/

/-- At a point of a run, a worker has a task in hand, looks at the flag, finds it set, and goes on to
drop the task. -/
structure ReadsFired (run : Nat → Crew) (n k : Nat) (j : Job) : Prop where
  holding : (run n).workers[k]? = some (.holding j)
  fired : (run n).ledger.signal.fired = true
  dropping : (run (n + 1)).workers[k]? = some (.dropping j)

/-- A worker that is about to drop a task was so before, or has just seen the flag set. -/
lemma Turn.dropping {m : Move} {j : Job} (h : Turn p s m t)
    (dropping : t.workers[k]? = some (.dropping j)) :
    s.workers[k]? = some (.dropping j) ∨
      s.workers[k]? = some (.holding j) ∧ s.ledger.signal.fired = true := by
  cases h with
  | @worker l c w w' s' place turn =>
    rw [turn.setWorker_workers] at dropping
    by_cases own : l = k
    · subst own
      rw [List.getElem?_set_self (List.getElem?_eq_some_iff.1 place).1] at dropping
      have now : w' = .dropping j := Option.some.inj dropping
      cases turn
      case refuse fired =>
        cases now
        exact .inr ⟨place, fired⟩
      case finish e _ _ => cases e <;> cases now
      all_goals cases now
    · rw [List.getElem?_set_ne own] at dropping
      exact .inl dropping
  | producer place turn =>
    rw [setProducer, turn.workers_eq] at dropping
    exact .inl dropping
  | starter place turn =>
    rcases turn.getElem?_workers k with same | ⟨-, new⟩
    · exact .inl (same ▸ dropping)
    · exact absurd (new.symm.trans dropping) (by simp)
  | outsider place turn => cases turn <;> exact .inl dropping

/-- A worker drops a task only if it was about to. -/
lemma Turn.mem_droppedBy {m : Move} (h : Turn p s m t) (mem : i ∈ t.droppedBy k) :
    i ∈ s.droppedBy k ∨ ∃ j : Job, j.index = i ∧ s.workers[k]? = some (.dropping j) := by
  cases h with
  | @worker l c w w' s' place turn =>
    have seen : (s'.setWorker l w').droppedBy k = _ :=
      turn.seen_eq (Event.isView_dropped?.ofWorker k)
    rw [seen, Worker.bind_news_ofWorker, List.mem_append] at mem
    refine mem.imp id fun new => ?_
    split at new
    case isFalse => cases new
    case isTrue own =>
      subst own
      cases turn
      case drop j =>
        refine ⟨j, ?_, place⟩
        simpa [Worker.news, Event.dropped?, eq_comm] using new
      case proceed goesOn _ _ _ => cases goesOn <;> simp [Worker.news] at new
      all_goals simp [Worker.news, Event.dropped?] at new
  | @producer c q q' s' place turn =>
    have seen : (s'.setProducer q').droppedBy k = s.droppedBy k :=
      turn.seen_eq (Event.isView_dropped?.ofWorker k)
    exact .inl (seen ▸ mem)
  | @starter c q q' s' place turn =>
    have seen : (s'.setStarter q').droppedBy k = s.droppedBy k :=
      turn.seen_eq (Event.isView_dropped?.ofWorker k)
    exact .inl (seen ▸ mem)
  | outsider place turn => cases turn <;> exact .inl mem

/-- What a state of a run shows that the state before it did not show came about in between. -/
lemma IsRun.turn_or {kind : Move → Prop} {run : Nat → Crew} (h : IsRun p kind run) (n : Nat) :
    (∃ m, Turn p (run n) m (run (n + 1))) ∨ run (n + 1) = run n :=
  (h n).imp (fun ⟨m, _, step⟩ => ⟨m, turn_of_step? step⟩) id

/-- A worker that is about to drop a task has seen the flag set while it had the task in hand. -/
lemma IsRun.exists_of_dropping {kind : Move → Prop} {outsiders : Nat} {run : Nat → Crew}
    (h : IsRun p kind run) (begins : run 0 = p.begin outsiders) {n : Nat} {j : Job}
    (dropping : (run n).workers[k]? = some (.dropping j)) : ∃ m < n, ReadsFired run m k j := by
  induction n with
  | zero =>
    rw [begins] at dropping
    cases dropping
  | succ n ih =>
    have earlier (before : (run n).workers[k]? = some (.dropping j)) :
        ∃ m < n + 1, ReadsFired run m k j := by
      obtain ⟨m, lt, reads⟩ := ih before
      exact ⟨m, Nat.lt_succ_of_lt lt, reads⟩
    rcases h.turn_or n with ⟨m, turn⟩ | still
    · rcases turn.dropping dropping with before | ⟨holding, fired⟩
      · exact earlier before
      · exact ⟨n, Nat.lt_succ_self n, holding, fired, dropping⟩
    · exact earlier (still ▸ dropping)

/-- A worker that dropped a task has seen the flag set while it had the task in hand. -/
theorem IsRun.exists_readsFired {kind : Move → Prop} {outsiders : Nat} {run : Nat → Crew}
    (h : IsRun p kind run) (begins : run 0 = p.begin outsiders) {n : Nat}
    (mem : i ∈ (run n).droppedBy k) :
    ∃ m < n, ∃ j : Job, j.index = i ∧ ReadsFired run m k j := by
  induction n with
  | zero =>
    rw [begins] at mem
    cases mem
  | succ n ih =>
    have earlier (before : i ∈ (run n).droppedBy k) :
        ∃ m < n + 1, ∃ j : Job, j.index = i ∧ ReadsFired run m k j := by
      obtain ⟨m, lt, reads⟩ := ih before
      exact ⟨m, Nat.lt_succ_of_lt lt, reads⟩
    rcases h.turn_or n with ⟨m, turn⟩ | still
    · rcases turn.mem_droppedBy mem with before | ⟨j, rfl, dropping⟩
      · exact earlier before
      · obtain ⟨m, lt, reads⟩ := h.exists_of_dropping begins dropping
        exact ⟨m, Nat.lt_succ_of_lt lt, j, rfl, reads⟩
    · exact earlier (still ▸ mem)

/-- **No task is lost or doubled, and tasks pass on in order.** In every state that a run reaches,
whatever moves it is made of and whoever fires the signal: the tasks received, in the queue and unsent
are the list, in order, so the tasks received are the first of the list; every task that was received
belongs to one worker; what workers have in hand are the tasks of the list; only tasks that were
received are begun, and none twice. A worker has dropped only tasks that it had in hand when it saw
the flag set, and once the run is over nobody has a task in hand, so every task that was received was
begun or dropped; and however it goes on, the run comes to its end. -/
theorem run_hands_over {kind : Move → Prop} {outsiders : Nat}
    (h : ReachesBy p kind (p.begin outsiders) s) :
    (∃ taken, p.jobs = taken ++ s.queue ++ s.unsent ∧ s.received = taken.map Job.index) ∧
    s.received <+: p.jobs.map Job.index ∧
    (∀ i ∈ s.received, ∃ k, s.BelongsTo i k) ∧
    (∀ w ∈ s.workers, ∀ j ∈ w.job?, p.bodies[j.index]? = some j.body) ∧
    (∀ i ∈ s.began, i ∈ s.received) ∧ s.began.Nodup ∧
    (∀ (run : Nat → Crew) (n : Nat), run 0 = p.begin outsiders → IsRun p kind run → run n = s →
      ∀ k, ∀ i ∈ s.droppedBy k, ∃ m < n, ∃ j : Job, j.index = i ∧ ReadsFired run m k j) ∧
    (s.IsOver → ∀ k, s.inHand k = none) ∧
    ∀ run : Nat → Crew, run 0 = s → IsMaximal p kind run → ∃ n, (run n).IsOver := by
  have conserved := conserved_of_reaches h
  have custody := custody_of_reaches h
  obtain ⟨taken, jobs, received⟩ := conserved.handed
  refine ⟨⟨taken, jobs, received⟩, ?_, fun i => custody.exists_belongsTo conserved, ?_,
    fun i => custody.mem_received, conserved.nodup_began, ?_, ?_, ?_⟩
  · rw [received, jobs, List.append_assoc, List.map_append]
    exact List.prefix_append _ _
  · intro w mem j hand
    exact Plan.getElem?_of_mem_jobs (jobs_of_reaches h w mem j hand)
  · rintro run n begins isRun rfl k i mem
    exact isRun.exists_readsFired begins mem
  · intro finished k
    obtain ⟨gone, -⟩ := hasEnded_of_isOver (staffed_of_reaches h) finished
    cases place : s.workers[k]? with
    | none => rw [inHand, place, Option.bind_none]
    | some w =>
      obtain ⟨died, rfl⟩ := gone w (List.mem_of_getElem? place)
      rw [inHand, place]
      rfl
  · rintro run rfl maximal
    obtain ⟨n, -, -, ended⟩ := maximal.exists_hasEnded h
    exact ⟨n, ended.isOver⟩

/-- One worker with two tasks. -/
def twoTasks : Plan :=
  ⟨{ workerCount := 1 }, [.done .success, .done .success]⟩

/-- The worker receives the first task; then the signal is fired from outside, and the worker drops the
task. -/
def droppingMoves : List Move :=
  [.starter, .starter, .producer, .producer, .worker 0, .worker 0, .producer, .worker 0, .outsider 0,
    .outsider 0, .outsider 0, .worker 0, .worker 0].map (⟨·, .usual⟩)

theorem run_hands_over_twoTasks :
    ((twoTasks.begin 1).follow twoTasks droppingMoves).dropped = [0] ∧
      (∃ k, ((twoTasks.begin 1).follow twoTasks droppingMoves).BelongsTo 0 k) ∧
      ∃ (run : Nat → Crew) (n : Nat) (j : Job), ReadsFired run n 0 j := by
  have reached := reaches_follow twoTasks droppingMoves (twoTasks.begin 1)
  obtain ⟨-, -, owners, -, -, -, reads, -⟩ := run_hands_over reached
  obtain ⟨run, n, begins, isRun, last⟩ := reached.exists_isRun
  obtain ⟨m, -, j, -, found⟩ := reads run n begins isRun last 0 0 (by decide +kernel)
  exact ⟨by rfl, owners 0 (by decide +kernel), run, m, j, found⟩

end Crew

end TaskCrew
