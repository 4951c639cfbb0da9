import TaskCrew.Proofs.Custody
import TaskCrew.Proofs.Diligence
import TaskCrew.Proofs.Termination

/-!
# What goes on after the signal is fired

Threads look at the flag at a few places only, so a run does not stop at once when the flag is set: each
thread goes on to the place where it looks next.

* `Worker.committed?`, `Crew.committed` — the tasks that workers are going to begin, for they found the
  flag unset;
* `began_perm_of_fired` — once the flag is set, only these are begun;
* `length_receivedBy_le`, `length_sent_le` — once the flag is set, each worker receives one more task at
  most, and the producer hands over one more at most;
* `Crew.WindsUp` — what becomes of a run after the flag is set;
* `run_stops` — every run winds up in this way, whoever sets the flag.
-/

namespace TaskCrew

/-- The task that a worker is going to begin, for it found the flag unset. -/
def Worker.committed? : Worker → Option Nat
  | .cleared j | .calling j => some j.index
  | _ => none

/-- The producer offers a task. -/
def Producer.offers : Producer → Nat
  | .offering => 1
  | _ => 0

namespace Crew

variable {p : Plan} {kind : Move → Prop} {k l i : Nat} {w w' : Worker} {s t u s' : Crew}

/-- The tasks that workers are going to begin, for they found the flag unset. -/
def committed (s : Crew) : List Nat :=
  s.workers.filterMap Worker.committed?

lemma total_committed (f : Nat → Nat) (s : Crew) :
    total f s.committed = total (fun w => weigh f w.committed?) s.workers :=
  total_filterMap f Worker.committed? s.workers

lemma ReachesBy.fired (h : ReachesBy p kind t u) (fired : t.ledger.signal.fired = true) :
    u.ledger.signal.fired = true :=
  h.invariant (I := fun u => u.ledger.signal.fired = true) fired fun _ _ turn => turn.fired

/-! ## What happened stays so -/

lemma WorkerTurn.history_suffix (h : WorkerTurn p k s w w' s') : s.history <:+ s'.history := by
  cases h
  case enter | receive | call => exact ⟨[_], rfl⟩
  case cancelled | closed | woken | handOver => exact ⟨[_, _], rfl⟩
  case drop => exact ⟨[_, _, _], rfl⟩
  case proceed events _ => exact ⟨events, rfl⟩
  case finish index _ events _ => exact ⟨events ++ [.ended k index], by simp [note, Crew.record]⟩
  case record events _ => exact ⟨events, rfl⟩
  all_goals exact List.suffix_refl _

lemma Turn.history_suffix {m : Move} (h : Turn p s m t) : s.history <:+ t.history := by
  cases h with
  | worker place turn => exact turn.history_suffix
  | producer place turn =>
    cases turn with
    | enter | cancelled | deserted | woken | send | close => exact ⟨[_], rfl⟩
    | _ => exact List.suffix_refl _
  | starter place turn =>
    cases turn with
    | close | joinDead => exact ⟨[_], rfl⟩
    | settle events incidental => exact ⟨events, rfl⟩
    | _ => exact List.suffix_refl _
  | outsider place turn => cases turn <;> exact List.suffix_refl _

/-- What a view has found it goes on to find. -/
lemma seen_prefix_of_reaches (h : ReachesBy p kind t u) (view : Event → Option Nat) :
    t.seen view <+: u.seen view := by
  have suffix : t.history <:+ u.history :=
    h.invariant (I := fun u => t.history <:+ u.history) (List.suffix_refl _) fun _ _ turn before =>
      before.trans turn.history_suffix
  exact (List.reverse_prefix.2 suffix).filterMap view

/-! ## Tasks that are begun -/

/-- Once the flag is set, a worker begins a task that it was going to begin, and decides on no other. -/
lemma WorkerTurn.committed_eq (h : WorkerTurn p k s w w' s') (fired : s.ledger.signal.fired = true)
    (f : Nat → Nat) :
    weigh f ((Worker.news k w w').bind Event.began?) + weigh f w'.committed? =
      weigh f w.committed? := by
  cases h
  case clear unfired => simp [fired] at unfired
  case proceed goesOn _ _ _ => cases goesOn <;> rfl
  case finish e _ _ => cases e <;> rfl
  all_goals simp [Worker.news, Worker.committed?, Event.began?]

/-- Once the flag is set, the tasks begun and those that are going to be begun stay the same. -/
lemma Turn.total_committed {m : Move} (h : Turn p s m t) (fired : s.ledger.signal.fired = true)
    (f : Nat → Nat) :
    total f t.began + total f t.committed = total f s.began + total f s.committed := by
  rw [Crew.total_committed, Crew.total_committed]
  cases h with
  | @worker k c w w' s' place turn =>
    have began : (s'.setWorker k w').began = _ := turn.seen_eq Event.isView_began?
    have step := turn.committed_eq fired f
    have set := total_set (fun w => weigh f w.committed?) w' place
    rw [began, total_append, total_toList, turn.setWorker_workers, ← began_eq_seen]
    omega
  | @producer c q q' s' place turn =>
    have began : (s'.setProducer q').began = s.began := turn.seen_eq Event.isView_began?
    have workers : (s'.setProducer q').workers = s.workers := turn.workers_eq
    rw [began, workers]
  | @starter c q q' s' place turn =>
    have began : (s'.setStarter q').began = s.began := turn.seen_eq Event.isView_began?
    have workers := turn.total_workers (fun w => weigh f w.committed?) rfl
    rw [began]
    exact congrArg _ workers
  | outsider place turn => cases turn <;> rfl

/-- Once the flag is set, only tasks are begun that workers were going to begin then. -/
theorem began_perm_of_fired (h : ReachesBy p kind t u) (fired : t.ledger.signal.fired = true) :
    (u.began ++ u.committed).Perm (t.began ++ t.committed) := by
  refine perm_of_total_eq fun f => ?_
  rw [total_append, total_append]
  exact h.invariant (I := fun u => total f u.began + total f u.committed = _) rfl
    fun reached _ turn before => (turn.total_committed (reached.fired fired) f).trans before

lemma length_began_eq (h : ReachesBy p kind t u) (fired : t.ledger.signal.fired = true) :
    u.began.length + u.committed.length = t.began.length + t.committed.length := by
  simpa using (began_perm_of_fired h fired).length_eq

/-! ## Tasks that are received -/

/-- One if a worker waits for a task, and none if it does not. -/
def awaiting (s : Crew) (k : Nat) : Nat :=
  weigh (fun w : Worker => w.isSelecting.toNat) s.workers[k]?

/-- Once the flag is set, a worker receives a task only if it waited for one, and does not come to wait
for another. -/
lemma WorkerTurn.received_le (h : WorkerTurn p k s w w' s') (fired : s.ledger.signal.fired = true) :
    weigh (fun _ => 1) ((Worker.news k w w').bind Event.received?) + w'.isSelecting.toNat ≤
      w.isSelecting.toNat := by
  cases h
  case wait unfired => simp [fired] at unfired
  case proceed goesOn _ _ _ => cases goesOn <;> simp [Worker.news, Worker.isSelecting]
  case finish e _ _ => cases e <;> simp [Worker.news, Worker.after, Worker.isSelecting, Event.received?]
  all_goals simp [Worker.news, Worker.isSelecting, Event.received?]

lemma Turn.length_receivedBy {m : Move} (h : Turn p s m t) (fired : s.ledger.signal.fired = true)
    (k : Nat) :
    (t.receivedBy k).length + t.awaiting k ≤ (s.receivedBy k).length + s.awaiting k := by
  have isView := Event.isView_received?.ofWorker k
  cases h with
  | @worker l c w w' s' place turn =>
    have received : ((s'.setWorker l w').receivedBy k).length = _ := turn.length_seen isView
    rw [received, Worker.bind_news_ofWorker, awaiting, awaiting, turn.setWorker_workers]
    by_cases own : l = k
    · subst own
      have step := turn.received_le fired
      rw [if_pos rfl, place, List.getElem?_set_self (List.getElem?_eq_some_iff.1 place).1, weigh_some,
        weigh_some, Nat.add_assoc]
      exact Nat.add_le_add_left step _
    · rw [if_neg own, List.getElem?_set_ne own]
      exact Nat.le_refl _
  | @producer c q q' s' place turn =>
    have received : (s'.setProducer q').receivedBy k = s.receivedBy k := turn.seen_eq isView
    have workers : (s'.setProducer q').workers = s.workers := turn.workers_eq
    exact Nat.le_of_eq (by rw [received, awaiting, awaiting, workers])
  | @starter c q q' s' place turn =>
    have received : (s'.setStarter q').receivedBy k = s.receivedBy k := turn.seen_eq isView
    refine Nat.add_le_add (Nat.le_of_eq (congrArg _ received)) ?_
    show weigh _ s'.workers[k]? ≤ weigh _ s.workers[k]?
    rcases turn.getElem?_workers k with same | ⟨-, new⟩
    · exact Nat.le_of_eq (congrArg _ same)
    · rw [new]
      exact Nat.zero_le _
  | outsider place turn => cases turn <;> exact Nat.le_refl _

/-- Once the flag is set, each worker receives one more task at most. -/
theorem length_receivedBy_le (h : ReachesBy p kind t u) (fired : t.ledger.signal.fired = true)
    (k : Nat) : (u.receivedBy k).length ≤ (t.receivedBy k).length + 1 := by
  have le : (u.receivedBy k).length + u.awaiting k ≤ (t.receivedBy k).length + t.awaiting k :=
    h.invariant (I := fun u => (u.receivedBy k).length + u.awaiting k ≤ _) (Nat.le_refl _)
      fun reached _ turn => Nat.le_trans (turn.length_receivedBy (reached.fired fired) k)
  have one : t.awaiting k ≤ 1 := by
    rw [awaiting]
    cases t.workers[k]? with
    | none => exact Nat.zero_le _
    | some w => exact Bool.toNat_le _
  omega

/-! ## Tasks that are handed over -/

/-- Once the flag is set, the producer does not come to offer a task. -/
lemma Turn.offers_le {m : Move} (h : Turn p s m t) (fired : s.ledger.signal.fired = true) :
    t.producer.offers ≤ s.producer.offers := by
  cases h with
  | @worker k c w w' s' place turn =>
    show s'.producer.offers ≤ _
    rcases turn.producer_eq_or with same | ⟨-, counting⟩
    · exact Nat.le_of_eq (congrArg _ same)
    · rw [counting]
      exact Nat.zero_le _
  | producer place turn =>
    cases turn with
    | offer next unfired => simp [fired] at unfired
    | _ => exact Nat.zero_le _
  | starter place turn =>
    cases turn with
    | startProducer => exact Nat.zero_le _
    | _ => exact Nat.le_refl _
  | outsider place turn => cases turn <;> exact Nat.le_refl _

lemma Turn.length_sent {m : Move} (h : Turn p s m t) (fired : s.ledger.signal.fired = true) :
    t.sent.length + t.producer.offers ≤ s.sent.length + s.producer.offers := by
  rcases h.handsOver with ⟨sent, -⟩ | ⟨j, -, sent, offering, counting⟩
  · rw [sent]
    exact Nat.add_le_add_left (h.offers_le fired) _
  · rw [sent, offering, counting, List.length_append]
    exact Nat.le_refl _

/-- Once the flag is set, no task is handed over but the one that the producer offers. -/
theorem length_sent_le (h : ReachesBy p kind t u) (fired : t.ledger.signal.fired = true) :
    u.sent.length ≤ t.sent.length + t.producer.offers := by
  have le : u.sent.length + u.producer.offers ≤ t.sent.length + t.producer.offers :=
    h.invariant (I := fun u => u.sent.length + u.producer.offers ≤ _) (Nat.le_refl _)
      fun reached _ turn => Nat.le_trans (turn.length_sent (reached.fired fired))
  omega

/-! ## Tasks that come late -/

/-- What a worker has in hand it has received. -/
lemma Conserved.mem_received (h : s.Conserved p) (mem : w ∈ s.workers) (hand : w.pending? = some i) :
    i ∈ s.received :=
  h.received_perm.mem_iff.2 (List.mem_append_right _ (List.mem_filterMap.2 ⟨w, mem, hand⟩))

/-- A task that was begun, or that a worker is going to begin, was received. -/
lemma mem_received_of_committed {outsiders : Nat} (h : ReachesBy p kind (p.begin outsiders) s)
    (mem : i ∈ s.began ++ s.committed) : i ∈ s.received := by
  rcases List.mem_append.1 mem with began | committed
  · exact (custody_of_reaches h).mem_received began
  · obtain ⟨w, place, going⟩ := List.mem_filterMap.1 committed
    refine (conserved_of_reaches h).mem_received place ?_
    cases w with
    | cleared j | calling j => exact going
    | _ => cases going

/-- A task that was received is dropped, begun or going to be begun, or a worker that has yet to look at
the flag or is about to drop the task has it in hand. -/
lemma Conserved.dropped_or (h : s.Conserved p) (mem : i ∈ s.received) :
    i ∈ s.dropped ∨ i ∈ s.began ++ s.committed ∨
      ∃ j : Job, j.index = i ∧ (.holding j ∈ s.workers ∨ .dropping j ∈ s.workers) := by
  rcases List.mem_append.1 (h.received_perm.mem_iff.1 mem) with done | hand
  · exact (List.mem_append.1 done).imp id fun began => .inl (List.mem_append_left _ began)
  · obtain ⟨w, place, pending⟩ := List.mem_filterMap.1 hand
    have going (committed : w.committed? = some i) : i ∈ s.began ++ s.committed :=
      List.mem_append_right _ (List.mem_filterMap.2 ⟨w, place, committed⟩)
    cases w with
    | holding j => exact .inr (.inr ⟨j, Option.some.inj pending, .inl place⟩)
    | dropping j => exact .inr (.inr ⟨j, Option.some.inj pending, .inr place⟩)
    | cleared j | calling j => exact .inr (.inl (going pending))
    | _ => cases pending

/-! ## The step that sets the flag -/

/-- A worker that sets the flag is not going to begin a task. -/
lemma WorkerTurn.committed?_of_fires (h : WorkerTurn p k s w w' s')
    (unfired : s.ledger.signal.fired = false) (fired : s'.ledger.signal.fired = true) :
    w'.committed? = none := by
  cases h
  case clear | start => exact absurd (unfired.symm.trans fired) (by simp)
  case finish e _ _ => cases e <;> rfl
  all_goals rfl

/-! ## What is counted -/

/-- The tasks that were dropped, and those that are left behind, are counted as abandoned. -/
lemma toNat_abandoned {outsiders : Nat} (small : p.total < UInt64.size)
    (h : ReachesBy p kind (p.begin outsiders) s) :
    s.counters.abandoned.toNat = s.dropped.length + s.leftBehind := by
  obtain ⟨n, f, tallied⟩ := tallied_of_reaches small h
  rw [← tallied.abandoned]
  exact tallied.toNat_get (conserved_of_reaches h) small (k := .abandoned) nofun

/-- As long as no task was handed over, none was received, begun or counted. -/
lemma idle_of_sent_eq_nil {outsiders : Nat} (small : p.total < UInt64.size)
    (h : ReachesBy p kind (p.begin outsiders) s) (none : s.sent = []) :
    s.received = [] ∧ s.began = [] ∧ s.counters.submitted = 0 ∧ s.counters.started = 0 := by
  obtain ⟨n, f, tallied⟩ := tallied_of_reaches small h
  have conserved := conserved_of_reaches h
  have length := conserved.received_eq_range.2
  have all := congrArg List.length (sent_append_unsent h)
  simp only [none, List.nil_append, List.length_map, Plan.jobs, Job.length_number] at all
  have received : s.received.length = 0 := by
    simp only [Plan.total] at length
    omega
  have split := conserved.received_total fun _ => 1
  simp only [total_one, received] at split
  have calls := s.total_calls_le
  have submitted : n .submitted = 0 := by
    have := tallied.submitted
    simp only [Plan.total] at this
    omega
  have started : n .started = 0 := by
    have := tallied.started
    omega
  refine ⟨List.length_eq_zero_iff.1 received, List.length_eq_zero_iff.1 (by omega), ?_, ?_⟩
  · exact (tallied.shows .submitted).trans (by rw [submitted]; rfl)
  · exact (tallied.shows .started).trans (by rw [started]; rfl)

/-- As long as the producer is not started, no task was handed over. -/
lemma sent_eq_nil_of_unborn {outsiders : Nat} (h : ReachesBy p kind (p.begin outsiders) s)
    (unborn : s.producer = .unborn) : s.sent = [] := by
  refine h.invariant (I := fun s => s.producer = .unborn → s.sent = []) (fun _ => rfl) ?_ unborn
  intro m u v _ _ turn before unborn
  rcases turn.handsOver with ⟨sent, -⟩ | ⟨j, -, -, -, counting⟩
  · rw [sent]
    refine before ?_
    by_contra born
    exact turn.born born unborn
  · exact absurd (counting.symm.trans unborn) (by simp)

/-- As long as the producer is not started, no task was received, begun or carried out. -/
lemma idle_of_unborn {outsiders : Nat} (h : ReachesBy p kind (p.begin outsiders) s)
    (unborn : s.producer = .unborn) : s.received = [] ∧ s.began = [] ∧ s.underway = [] := by
  have conserved := conserved_of_reaches h
  have length := conserved.received_eq_range.2
  have all := congrArg List.length (sent_append_unsent h)
  simp only [sent_eq_nil_of_unborn h unborn, List.nil_append, List.length_map, Plan.jobs,
    Job.length_number] at all
  rw [Plan.total] at length
  have received := conserved.received_perm.length_eq
  have began := conserved.began_perm.length_eq
  simp only [List.length_append] at received began
  refine ⟨?_, ?_, ?_⟩
  · exact List.length_eq_zero_iff.1 (by omega)
  · exact List.length_eq_zero_iff.1 (by omega)
  · exact List.length_eq_zero_iff.1 (by omega)

/-! ## The end of a run whose signal is fired -/

/-- What becomes of a run that has come to a state and goes on to another, if the flag is set in the
first: no more tasks are begun than workers were going to begin; one more task is handed over at most;
each worker receives one more at most; and what is received late is dropped and counted as abandoned. -/
structure WindsUp (t u : Crew) : Prop where
  began : t.began <+: u.began ∧ u.began.length ≤ t.began.length + t.committed.length
  sent : t.sent <+: u.sent ∧ u.sent.length ≤ t.sent.length + 1
  received : ∀ k, t.receivedBy k <+: u.receivedBy k ∧
    (u.receivedBy k).length ≤ (t.receivedBy k).length + 1
  late : ∀ i ∈ u.received, i ∉ t.received → i ∉ u.began ∧ (i ∈ u.dropped ∨
    ∃ j : Job, j.index = i ∧ (.holding j ∈ u.workers ∨ .dropping j ∈ u.workers))
  ended : u.IsOver → ∀ i ∈ u.received, i ∉ t.received → i ∈ u.dropped
  abandoned : u.counters.abandoned.toNat = u.dropped.length + u.leftBehind

/-- Every run winds up whose signal is fired. -/
theorem windsUp_of_fired {outsiders : Nat} (small : p.total < UInt64.size)
    (h : Reaches p (p.begin outsiders) t) (fired : t.ledger.signal.fired = true)
    (goesOn : Reaches p t u) : t.WindsUp u := by
  have reached := h.trans goesOn
  have perm := began_perm_of_fired goesOn fired
  have length := length_began_eq goesOn fired
  -- whatever is begun from now on was received before, for its worker had found the flag unset
  have fresh {i : Nat} (late : i ∉ t.received) : i ∉ u.began ++ u.committed := fun mem =>
    late (mem_received_of_committed h (perm.mem_iff.1 mem))
  have fate (i : Nat) (mem : i ∈ u.received) (late : i ∉ t.received) : i ∈ u.dropped ∨
      ∃ j : Job, j.index = i ∧ (.holding j ∈ u.workers ∨ .dropping j ∈ u.workers) := by
    rcases (conserved_of_reaches reached).dropped_or mem with dropped | committed | hand
    · exact .inl dropped
    · exact absurd committed (fresh late)
    · exact .inr hand
  have offers : t.producer.offers ≤ 1 := by
    cases t.producer <;> simp [Producer.offers]
  refine ⟨⟨seen_prefix_of_reaches goesOn _, by omega⟩, ⟨seen_prefix_of_reaches goesOn _, ?_⟩,
    fun k => ⟨seen_prefix_of_reaches goesOn _, length_receivedBy_le goesOn fired k⟩, ?_, ?_,
    toNat_abandoned small reached⟩
  · exact Nat.le_trans (length_sent_le goesOn fired) (Nat.add_le_add_left offers _)
  · intro i mem late
    exact ⟨fun began => fresh late (List.mem_append_left _ began), fate i mem late⟩
  · intro finished i mem late
    obtain ⟨gone, -⟩ := hasEnded_of_isOver (staffed_of_reaches reached) finished
    rcases fate i mem late with dropped | ⟨j, -, holding | dropping⟩
    · exact dropped
    · obtain ⟨died, busy⟩ := gone _ holding
      cases busy
    · obtain ⟨died, busy⟩ := gone _ dropping
      cases busy

/-- **A run stops once its signal is fired, but for what threads are past looking.** Whoever sets the
flag, and whenever: let tasks that workers are going to begin then, for they found the flag unset, be
counted; there is one for each worker at most, and for each other worker if a worker sets the flag.
However the run goes on, it begins no more tasks than that, hands over one more at most, and each worker
receives one more at most; whatever is received late is dropped and counted as abandoned. The run comes
to its end; and if the flag is set before the run takes its first step, no task is handed over, received,
begun or counted. -/
theorem run_stops {outsiders : Nat} {m : Move} (small : p.total < UInt64.size)
    (h : Reaches p (p.begin outsiders) s) (step : s.step? p m = some t)
    (unfired : s.ledger.signal.fired = false) (fired : t.ledger.signal.fired = true) :
    t.committed.length ≤ p.workers ∧
    (∀ k, m.actor = .worker k → t.committed.length + 1 ≤ p.workers) ∧
    (∀ u, Reaches p t u → t.WindsUp u) ∧
    (∀ (kind : Move → Prop) (run : Nat → Crew), run 0 = t → IsMaximal p kind run →
      ∃ n, (run n).HasEnded p) ∧
    (t.starter = .starting 0 → ∀ u, Reaches p t u → u.sent = [] ∧ u.received = [] ∧ u.began = [] ∧
      u.counters.submitted = 0 ∧ u.counters.started = 0) := by
  have reached : Reaches p (p.begin outsiders) t := .tail m h trivial step
  have few := (staffed_of_reaches reached).length_le
  refine ⟨Nat.le_trans (List.length_filterMap_le _ _) few, ?_,
    fun u goesOn => windsUp_of_fired small reached fired goesOn, ?_, ?_⟩
  · rintro k actor
    have turn := turn_of_step? step
    cases turn with
    | @worker k c w w' s' place turn =>
      have here : (s'.setWorker k w').workers[k]? = some w' := by
        rw [turn.setWorker_workers, List.getElem?_set_self (List.getElem?_eq_some_iff.1 place).1]
      have idle := turn.committed?_of_fires unfired fired
      exact Nat.lt_of_lt_of_le (List.length_filterMap_lt_length_iff_exists.2
        ⟨w', List.mem_of_getElem? here, idle⟩) few
    | producer | starter | outsider => cases actor
  · rintro kind run rfl maximal
    obtain ⟨n, -, -, ended⟩ := maximal.exists_hasEnded reached
    exact ⟨n, ended⟩
  · intro early u goesOn
    have unborn : t.producer = .unborn := by
      have staffed := staffed_of_reaches reached
      rw [Staffed, early] at staffed
      exact staffed.1.2.2.1
    have none : u.sent = [] := by
      have le := length_sent_le goesOn fired
      rw [sent_eq_nil_of_unborn reached unborn, unborn] at le
      exact List.length_eq_zero_iff.1 (Nat.le_zero.1 le)
    exact ⟨none, idle_of_sent_eq_nil small (reached.trans goesOn) none⟩

/-- Three workers with three tasks, of which the first breaks off. -/
def threeWorkers : Plan :=
  ⟨{ workerCount := 3 }, [.done (.panic "none"), .done .success, .done .success]⟩

/-- The first worker is about to set the flag; the second has found it unset and is going to begin a
task; the third waits for a task, and the producer offers one. -/
def aboutToFire : Crew :=
  (threeWorkers.begin 0).follow threeWorkers <|
    [.starter, .starter, .starter, .starter, .producer, .producer, .worker 0, .worker 0, .worker 1,
      .worker 1, .worker 2, .worker 2, .producer, .worker 0, .worker 0, .worker 0, .worker 0, .worker 0,
      .worker 0, .worker 0, .producer, .producer, .producer, .worker 1, .worker 1, .producer,
      .producer, .worker 0, .worker 0, .worker 0, .worker 0, .worker 0].map (⟨·, .usual⟩)

/-- The first worker has just set the flag. -/
def justFired : Crew :=
  aboutToFire.follow threeWorkers [⟨.worker 0, .usual⟩]

/-- The producer has handed over its task, which the third worker has received and dropped, and the
second worker has begun its own. -/
def woundUp : Crew :=
  justFired.follow threeWorkers <|
    [.producer, .worker 2, .worker 2, .worker 2, .worker 1, .worker 1].map (⟨·, .usual⟩)

theorem run_stops_threeWorkers :
    justFired.committed.length + 1 ≤ 3 ∧ justFired.WindsUp woundUp ∧
      woundUp.began.length = justFired.began.length + justFired.committed.length ∧
      woundUp.sent.length = justFired.sent.length + 1 ∧
      (woundUp.receivedBy 2).length = (justFired.receivedBy 2).length + 1 ∧ woundUp.dropped = [2] := by
  have step : aboutToFire.step? threeWorkers ⟨.worker 0, .usual⟩ = some justFired :=
    step?_eq_some_follow (by decide +kernel)
  obtain ⟨-, few, windsUp, -⟩ := run_stops (by decide) (reaches_follow threeWorkers _ _) step
    (by decide +kernel) (by decide +kernel)
  exact ⟨few 0 rfl, windsUp woundUp (reaches_follow _ _ _), by decide +kernel, by decide +kernel,
    by decide +kernel, by decide +kernel⟩

end Crew

end TaskCrew
