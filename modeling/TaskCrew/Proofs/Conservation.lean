import TaskCrew.Proofs.Locking

/-!
# No task is lost

Every task is in one place at any time: with the producer, in the queue, in the hands of a worker,
dropped, or begun; and every task that was begun is under way or has ended.

* `Crew.sent`, `Crew.received`, `Crew.dropped` — the tasks that were handed over, and those that
  workers received and dropped, in order;
* `Worker.pending?`, `Worker.underway?` — the task that a worker has not begun, or has not ended;
* `Crew.Conserved` — the tasks are in the order of the list, and whatever number is given to tasks,
  the numbers add up;
* `conserved_of_reaches` — in every state that a run reaches, the tasks are conserved.

Giving the number one to every task counts tasks, and giving it to one task only finds that task, so
`Conserved.received_perm` and `Conserved.began_perm` say the same of the tasks themselves.
-/

namespace TaskCrew

namespace Event

def received? : Event → Option Nat
  | .received _ index => some index
  | _ => none

def dropped? : Event → Option Nat
  | .dropped _ index => some index
  | _ => none

def sent? : Event → Option Nat
  | .sent index => some index
  | _ => none

/-- A view that finds nothing where nothing happened to a task. -/
def Overlooks (view : Event → Option Nat) : Prop :=
  ∀ e : Event, e.Incidental → view e = none

/-- A view of what workers do with tasks. -/
def IsView (view : Event → Option Nat) : Prop :=
  Overlooks view ∧ ∀ index, view (.sent index) = none

lemma overlooks_sent? : Overlooks sent? := by
  intro e h
  cases e <;> first | rfl | cases h

lemma isView_received? : IsView received? := by
  refine ⟨fun e h => ?_, fun _ => rfl⟩
  cases e <;> first | rfl | cases h

lemma isView_dropped? : IsView dropped? := by
  refine ⟨fun e h => ?_, fun _ => rfl⟩
  cases e <;> first | rfl | cases h

lemma isView_began? : IsView began? := by
  refine ⟨fun e h => ?_, fun _ => rfl⟩
  cases e <;> first | rfl | cases h

lemma isView_ended? : IsView ended? := by
  refine ⟨fun e h => ?_, fun _ => rfl⟩
  cases e <;> first | rfl | cases h

end Event

/-- Tasks are numbered in order. -/
lemma Plan.map_index_jobs (p : Plan) : p.jobs.map Job.index = List.range p.total := by
  simp [Plan.jobs, Job.number, Plan.total, List.map_map, Function.comp_def, List.range_eq_range']

/-- The tasks of a plan are those of the list under their numbers. -/
lemma Plan.getElem?_of_mem_jobs {p : Plan} {j : Job} (h : j ∈ p.jobs) :
    p.bodies[j.index]? = some j.body := by
  simp only [jobs, Job.number, List.mem_map, Prod.exists] at h
  obtain ⟨body, index, mem, rfl⟩ := h
  exact List.mem_zipIdx_iff_getElem?.1 mem

namespace Worker

/-- The task that a worker has received and not begun. -/
def pending? : Worker → Option Nat
  | .holding j | .dropping j | .cleared j | .calling j => some j.index
  | _ => none

/-- The task that a worker has begun and not ended. -/
def underway? : Worker → Option Nat
  | .working index _ | .firing index _ _ => some index
  | _ => none

/-- What happens to a task when a worker passes from one place to another. -/
def news (k : Nat) : Worker → Worker → Option Event
  | .selecting, .holding j => some (.received k j.index)
  | .dropping j, _ => some (.dropped k j.index)
  | .calling j, _ => some (.began k j.index)
  | .working index (.done _), _ => some (.ended k index)
  | _, _ => none

end Worker

namespace Crew

variable {p : Plan} {s t : Crew}

/-! ## Views of what happened -/

/-- What a view finds in the history, in order. -/
def seen (view : Event → Option Nat) (s : Crew) : List Nat :=
  s.events.filterMap view

/-- The tasks that the producer handed over, in order. -/
def sent (s : Crew) : List Nat :=
  s.seen Event.sent?

/-- The tasks that workers received, in order. -/
def received (s : Crew) : List Nat :=
  s.seen Event.received?

/-- The tasks that workers dropped, in order. -/
def dropped (s : Crew) : List Nat :=
  s.seen Event.dropped?

lemma began_eq_seen (s : Crew) : s.began = s.seen Event.began? := rfl

lemma ended_eq_seen (s : Crew) : s.ended = s.seen Event.ended? := rfl

variable {view : Event → Option Nat}

lemma seen_of_history_eq (h : t.history = s.history) : t.seen view = s.seen view := by
  simp [seen, events, h]

lemma seen_record (s : Crew) (e : Event) :
    (s.record e).seen view = s.seen view ++ (view e).toList := by
  simp only [seen, events, record, List.reverse_cons, List.filterMap_append]
  cases h : view e <;> simp [h]

lemma seen_log (overlooks : Event.Overlooks view) (s : Crew) (thread : Thread) (n : Notice) :
    (s.log thread n).seen view = s.seen view := by
  rw [log, seen_record, overlooks (.logged thread n) trivial]
  simp

lemma seen_note (overlooks : Event.Overlooks view) {events : List Event}
    (incidental : ∀ e ∈ events, e.Incidental) : (s.note events).seen view = s.seen view := by
  have none : events.reverse.filterMap view = [] :=
    List.filterMap_eq_nil_iff.2 fun e he => overlooks e (incidental e (List.mem_reverse.1 he))
  simp [seen, Crew.events, note, none]

lemma seen_resign (overlooks : Event.Overlooks view) (s : Crew) (k : Nat) (n : Notice) :
    (s.resign k n).seen view = s.seen view := by
  rw [resign, seen_log overlooks, seen_log overlooks]

/-- A view finds in the turn of a worker what happened to its task. -/
lemma WorkerTurn.seen_eq {k : Nat} {w w' : Worker} {s' : Crew} (h : WorkerTurn p k s w w' s')
    (isView : Event.IsView view) :
    s'.seen view = s.seen view ++ ((Worker.news k w w').bind view).toList := by
  have same {t : Crew} (ht : t.history = s.history) {news : Option Event} (hn : news = none) :
      t.seen view = s.seen view ++ (news.bind view).toList := by
    rw [seen_of_history_eq ht, hn, Option.bind_none, Option.toList_none, List.append_nil]
  have one {t : Crew} (ht : t.seen view = s.seen view) (e : Event) :
      (t.record e).seen view = s.seen view ++ ((some e).bind view).toList := by
    rw [seen_record, ht, Option.bind_some]
  cases h with
  | enter =>
    rw [seen_log isView.1]
    exact same rfl rfl
  | cancelled | closed | woken =>
    rw [seen_resign isView.1]
    exact same rfl rfl
  | receive front => exact one rfl _
  | handOver empty fed offered next direct =>
    refine one ?_ _
    rw [seen_record, isView.2, Option.toList_none, List.append_nil]
    rfl
  | drop =>
    rw [seen_resign isView.1]
    exact one rfl _
  | call => exact one rfl _
  | @finish index e events incidental =>
    rw [seen_note isView.1 incidental]
    exact one rfl _
  | proceed goesOn marks events incidental =>
    rw [seen_note isView.1 incidental]
    exact same rfl (by cases goesOn <;> rfl)
  | record step events incidental =>
    rw [seen_note isView.1 incidental]
    exact same rfl rfl
  | _ => exact same rfl rfl

lemma ProducerTurn.seen_eq {q q' : Producer} {s' : Crew} (h : ProducerTurn p s q q' s')
    (isView : Event.IsView view) : s'.seen view = s.seen view := by
  cases h with
  | enter => rw [seen_log isView.1]; rfl
  | exhausted | offer => rfl
  | cancelled | deserted | woken => rw [seen_log isView.1]
  | send => rw [seen_record, isView.2]; simp [seen, events]
  | count | leave => rfl
  | close => rw [seen_log isView.1]; rfl

lemma StarterTurn.seen_eq {c : Choice} {q q' : Starter} {s' : Crew}
    (h : StarterTurn p s c q q' s') (isView : Event.IsView view) : s'.seen view = s.seen view := by
  cases h with
  | close => rw [seen_log isView.1]; rfl
  | joinDead => rw [seen_log isView.1]
  | settle events incidental => rw [seen_note isView.1 incidental]; rfl
  | _ => rfl

lemma OutsiderTurn.seen_eq {f : Firing} {f' : Option Firing} {s' : Crew}
    (h : OutsiderTurn s f f' s') : s'.seen view = s.seen view := by
  cases h <;> rfl

/-! ## What every turn keeps -/

/-- The tasks received, in the queue and unsent are the tasks of the list, in order; and whatever
number is given to tasks, the tasks received add up to those dropped, begun and in hand, and the
tasks begun to those ended and under way. -/
structure Conserved (p : Plan) (s : Crew) : Prop where
  handed : ∃ taken, p.jobs = taken ++ s.queue ++ s.unsent ∧ s.received = taken.map Job.index
  received_total : ∀ f, total f s.received =
    total f s.dropped + total f s.began + total (fun w => weigh f w.pending?) s.workers
  began_total : ∀ f, total f s.began =
    total f s.ended + total (fun w => weigh f w.underway?) s.workers

/-- A worker that passes from one place to another drops or begins what it had received, or keeps
it. -/
lemma WorkerTurn.pending_eq {k : Nat} {w w' : Worker} {s' : Crew} (h : WorkerTurn p k s w w' s')
    (f : Nat → Nat) :
    weigh f ((Worker.news k w w').bind Event.received?) + weigh f w.pending? =
      weigh f ((Worker.news k w w').bind Event.dropped?)
        + weigh f ((Worker.news k w w').bind Event.began?) + weigh f w'.pending? := by
  cases h
  case proceed goesOn _ _ _ => cases goesOn <;> rfl
  case finish e _ _ => cases e <;> rfl
  all_goals simp [Worker.news, Worker.pending?, Event.received?, Event.dropped?, Event.began?]

/-- A worker that passes from one place to another ends what it had begun, or goes on with it. -/
lemma WorkerTurn.underway_eq {k : Nat} {w w' : Worker} {s' : Crew} (h : WorkerTurn p k s w w' s')
    (f : Nat → Nat) :
    weigh f ((Worker.news k w w').bind Event.began?) + weigh f w.underway? =
      weigh f ((Worker.news k w w').bind Event.ended?) + weigh f w'.underway? := by
  cases h
  case proceed goesOn _ _ _ => cases goesOn <;> rfl
  case finish e _ _ =>
    cases e <;> simp [Worker.news, Worker.underway?, Worker.after, Event.began?, Event.ended?]
  all_goals simp [Worker.news, Worker.underway?, Event.began?, Event.ended?]

/-- A worker receives the first of the tasks in the queue, or the first of the unsent if there is
none. -/
lemma WorkerTurn.handed {k : Nat} {w w' : Worker} {s' : Crew} (h : WorkerTurn p k s w w' s')
    (handed : ∃ taken, p.jobs = taken ++ s.queue ++ s.unsent ∧ s.received = taken.map Job.index) :
    ∃ taken, p.jobs = taken ++ s'.queue ++ s'.unsent ∧ s'.received = taken.map Job.index := by
  obtain ⟨taken, hj, hr⟩ := handed
  have seen : s'.received =
      taken.map Job.index ++ ((Worker.news k w w').bind Event.received?).toList := by
    rw [← hr]
    exact h.seen_eq Event.isView_received?
  cases h
  case receive j queue front =>
    exact ⟨taken ++ [j], by simp [hj, front, Crew.record],
      by simpa [Worker.news, Event.received?] using seen⟩
  case handOver j unsent empty _ _ next _ =>
    exact ⟨taken ++ [j], by simp [hj, empty, next, Crew.record],
      by simpa [Worker.news, Event.received?] using seen⟩
  case proceed goesOn _ _ _ =>
    refine ⟨taken, hj, ?_⟩
    cases goesOn <;> simpa [Worker.news] using seen
  all_goals exact ⟨taken, hj, by simpa [Worker.news, Event.received?] using seen⟩

lemma Conserved.worker {k : Nat} {w w' : Worker} {s' : Crew} (h : s.Conserved p)
    (place : s.workers[k]? = some w) (turn : WorkerTurn p k s w w' s') :
    (s'.setWorker k w').Conserved p := by
  have workers := turn.setWorker_workers
  have seen {view : Event → Option Nat} (isView : Event.IsView view) (f : Nat → Nat) :
      total f ((s'.setWorker k w').seen view) =
        total f (s.seen view) + weigh f ((Worker.news k w w').bind view) := by
    show total f (s'.seen view) = _
    rw [turn.seen_eq isView, total_append, total_toList]
  refine ⟨turn.handed h.handed, fun f => ?_, fun f => ?_⟩
  · have hr := h.received_total f
    have hs := total_set (fun w => weigh f w.pending?) w' place
    have ht := turn.pending_eq f
    simp only [received, dropped, began_eq_seen, workers, seen Event.isView_received?,
      seen Event.isView_dropped?, seen Event.isView_began?] at hr ⊢
    omega
  · have hb := h.began_total f
    have hs := total_set (fun w => weigh f w.underway?) w' place
    have ht := turn.underway_eq f
    simp only [began_eq_seen, ended_eq_seen, workers, seen Event.isView_began?,
      seen Event.isView_ended?] at hb ⊢
    omega

/-- What a thread other than a worker does keeps the tasks conserved, if no task is seen to pass and
the tasks that are with the producer and in the queue stay in order. -/
lemma Conserved.of_seen_eq (h : s.Conserved p)
    (seen : ∀ {view}, Event.IsView view → t.seen view = s.seen view)
    (jobs : t.queue ++ t.unsent = s.queue ++ s.unsent)
    (workers : ∀ f : Worker → Nat, f .entering = 0 → total f t.workers = total f s.workers) :
    t.Conserved p := by
  obtain ⟨taken, hj, hr⟩ := h.handed
  refine ⟨⟨taken, ?_, (seen Event.isView_received?).trans hr⟩, fun f => ?_, fun f => ?_⟩
  · rw [List.append_assoc, jobs, ← List.append_assoc, hj]
  · have hr := h.received_total f
    simp only [received, dropped, began_eq_seen] at hr ⊢
    rw [seen Event.isView_received?, seen Event.isView_dropped?, seen Event.isView_began?,
      workers _ rfl, hr]
  · have hb := h.began_total f
    simp only [began_eq_seen, ended_eq_seen] at hb ⊢
    rw [seen Event.isView_began?, seen Event.isView_ended?, workers _ rfl, hb]

/-- The producer puts the first of the unsent tasks at the end of the queue. -/
lemma ProducerTurn.jobs_eq {q q' : Producer} {s' : Crew} (h : ProducerTurn p s q q' s') :
    s'.queue ++ s'.unsent = s.queue ++ s.unsent := by
  cases h
  case send next _ _ => simp [next, Crew.record]
  all_goals rfl

lemma Conserved.producer {q q' : Producer} {s' : Crew} (h : s.Conserved p)
    (turn : ProducerTurn p s q q' s') : (s'.setProducer q').Conserved p :=
  h.of_seen_eq (fun isView => turn.seen_eq isView) turn.jobs_eq fun f _ =>
    congrArg (total f) turn.workers_eq

lemma Conserved.starter {c : Choice} {q q' : Starter} {s' : Crew} (h : s.Conserved p)
    (turn : StarterTurn p s c q q' s') : (s'.setStarter q').Conserved p :=
  h.of_seen_eq (fun isView => turn.seen_eq isView)
    (congrArg₂ (· ++ ·) turn.queue_eq turn.unsent_eq) turn.total_workers

lemma Conserved.outsider {k : Nat} {f : Firing} {f' : Option Firing} {s' : Crew}
    (h : s.Conserved p) (turn : OutsiderTurn s f f' s') : (s'.setOutsider k f').Conserved p := by
  cases turn <;> exact h.of_seen_eq (fun _ => rfl) rfl fun _ _ => rfl

theorem Conserved.turn {m : Move} (h : s.Conserved p) (turn : Turn p s m t) : t.Conserved p := by
  cases turn with
  | worker place turn => exact h.worker place turn
  | producer place turn => exact h.producer turn
  | starter place turn => exact h.starter turn
  | outsider place turn => exact h.outsider turn

/-- In every state that a run reaches, the tasks are conserved. -/
theorem conserved_of_reaches {kind : Move → Prop} {outsiders : Nat}
    (h : ReachesBy p kind (p.begin outsiders) s) : s.Conserved p :=
  h.invariant ⟨⟨[], rfl, rfl⟩, fun _ => rfl, fun _ => rfl⟩ fun _ _ turn hu => hu.turn turn

/-- The queue never holds more tasks than it has room for. -/
theorem length_queue_le {kind : Move → Prop} {outsiders : Nat}
    (h : ReachesBy p kind (p.begin outsiders) s) : s.queue.length ≤ p.capacity := by
  refine h.invariant (I := fun s => s.queue.length ≤ p.capacity) (Nat.zero_le _) ?_
  intro m u v _ _ turn le
  cases turn with
  | worker place turn =>
    cases turn with
    | receive front =>
      rw [front] at le
      exact Nat.le_of_succ_le le
    | _ => exact le
  | producer place turn =>
    cases turn with
    | send next manned room => simpa [Crew.record, setProducer] using Nat.succ_le_of_lt room
    | _ => exact le
  | starter place turn =>
    rw [setStarter, turn.queue_eq]
    exact le
  | outsider place turn => cases turn <;> exact le

/-! ## The tasks themselves -/

/-- The tasks that workers have received and not begun. -/
def pending (s : Crew) : List Nat :=
  s.workers.filterMap Worker.pending?

/-- The tasks that workers have begun and not ended. -/
def underway (s : Crew) : List Nat :=
  s.workers.filterMap Worker.underway?

/-- A task that was received was dropped or begun, or a worker has it in hand. -/
theorem Conserved.received_perm (h : s.Conserved p) :
    s.received.Perm (s.dropped ++ s.began ++ s.pending) := by
  refine perm_of_total_eq fun f => ?_
  rw [h.received_total, total_append, total_append, pending, total_filterMap]

/-- A task that was begun has ended, or a worker carries it out. -/
theorem Conserved.began_perm (h : s.Conserved p) : s.began.Perm (s.ended ++ s.underway) := by
  refine perm_of_total_eq fun f => ?_
  rw [h.began_total, total_append, underway, total_filterMap]

/-! ## When all workers have ended -/

lemma total_of_gone {f : Worker → Nat} (idle : ∀ died, f (.gone died) = 0)
    (gone : ∀ w ∈ s.workers, ∃ died, w = .gone died) : total f s.workers = 0 := by
  refine total_eq_zero fun w mem => ?_
  obtain ⟨died, rfl⟩ := gone w mem
  exact idle died

lemma filterMap_of_gone {f : Worker → Option Nat} (idle : ∀ died, f (.gone died) = none)
    (gone : ∀ w ∈ s.workers, ∃ died, w = .gone died) : s.workers.filterMap f = [] := by
  refine List.filterMap_eq_nil_iff.2 fun w mem => ?_
  obtain ⟨died, rfl⟩ := gone w mem
  exact idle died

/-- When all workers have ended, so has every task that was begun. -/
lemma Conserved.ended_perm_began (h : s.Conserved p)
    (gone : ∀ w ∈ s.workers, ∃ died, w = .gone died) : s.ended.Perm s.began := by
  have idle : s.underway = [] := filterMap_of_gone (fun _ => rfl) gone
  have perm := h.began_perm
  rw [idle, List.append_nil] at perm
  exact perm.symm

/-! ## The order of tasks -/

/-- The tasks received are the first of the list. -/
theorem Conserved.received_eq_range (h : s.Conserved p) :
    s.received = List.range s.received.length ∧
      s.received.length + s.queue.length + s.unsent.length = p.total := by
  obtain ⟨taken, hj, hr⟩ := h.handed
  have length : s.received.length = taken.length := by rw [hr, List.length_map]
  have all := p.map_index_jobs
  have total := congrArg List.length hj
  simp only [Plan.jobs, Job.length_number, List.length_append] at total
  have first : taken.map Job.index = (List.range p.total).take taken.length := by
    rw [← all, hj]
    simp
  refine ⟨?_, by rw [length]; exact total.symm⟩
  rw [length, hr, first, List.take_range, Nat.min_eq_left]
  show taken.length ≤ p.bodies.length
  omega

/-- No task is received twice. -/
lemma Conserved.nodup_received (h : s.Conserved p) : s.received.Nodup := by
  rw [h.received_eq_range.1]
  exact List.nodup_range

/-- No task is begun twice. -/
lemma Conserved.nodup_began (h : s.Conserved p) : s.began.Nodup := by
  have nodup := h.received_perm.nodup_iff.1 h.nodup_received
  exact (List.nodup_append.1 (List.nodup_append.1 nodup).1).2.1

/-- No more tasks end than there are. -/
theorem Conserved.length_ended_le (h : s.Conserved p) : s.ended.length ≤ p.total := by
  have received := h.received_perm.length_eq
  have began := h.began_perm.length_eq
  have length := h.received_eq_range.2
  simp only [List.length_append] at received began
  omega

/-! ## The tasks that were handed over -/

/-- On the way from one state to another, no task was handed over, or the one that the producer
offered. -/
def HandsOver (s t : Crew) : Prop :=
  t.sent = s.sent ∧ t.unsent = s.unsent ∨
    ∃ j, s.unsent = j :: t.unsent ∧ t.sent = s.sent ++ [j.index] ∧ s.producer = .offering ∧
      t.producer = .counting

lemma WorkerTurn.handsOver {k : Nat} {w w' : Worker} {s' : Crew} (h : WorkerTurn p k s w w' s') :
    s.HandsOver s' := by
  have overlooks := Event.overlooks_sent?
  have record (s : Crew) (e : Event) (other : e.sent? = none) : (s.record e).sent = s.sent := by
    rw [sent, seen_record, other, Option.toList_none, List.append_nil, sent]
  cases h
  case handOver j unsent empty fed offered next direct =>
    refine .inr ⟨j, next, ?_, offered, rfl⟩
    rw [record _ _ rfl, sent, seen_record]
    rfl
  case enter => exact .inl ⟨seen_log overlooks _ _ _, rfl⟩
  case cancelled | closed | woken => exact .inl ⟨seen_resign overlooks _ _ _, rfl⟩
  case receive | call => exact .inl ⟨record _ _ rfl, rfl⟩
  case drop => exact .inl ⟨(seen_resign overlooks _ _ _).trans (record _ _ rfl), rfl⟩
  case proceed incidental => exact .inl ⟨seen_note overlooks incidental, rfl⟩
  case finish incidental =>
    exact .inl ⟨(seen_note overlooks incidental).trans (record _ _ rfl), rfl⟩
  case record incidental => exact .inl ⟨seen_note overlooks incidental, rfl⟩
  all_goals exact .inl ⟨rfl, rfl⟩

lemma ProducerTurn.handsOver {q q' : Producer} {s' : Crew} (h : ProducerTurn p s q q' s')
    (place : s.producer = q) : s.HandsOver (s'.setProducer q') := by
  have overlooks := Event.overlooks_sent?
  cases h with
  | send next manned room =>
    refine .inr ⟨_, next, ?_, place, rfl⟩
    exact seen_record _ _
  | enter | cancelled | deserted | woken | close => exact .inl ⟨seen_log overlooks _ _ _, rfl⟩
  | _ => exact .inl ⟨rfl, rfl⟩

lemma StarterTurn.handsOver {c : Choice} {q q' : Starter} {s' : Crew}
    (h : StarterTurn p s c q q' s') : s.HandsOver (s'.setStarter q') := by
  have overlooks := Event.overlooks_sent?
  refine .inl ⟨?_, h.unsent_eq⟩
  cases h with
  | close | joinDead => exact seen_log overlooks _ _ _
  | settle events incidental => exact seen_note overlooks incidental
  | _ => rfl

lemma Turn.handsOver {m : Move} (h : Turn p s m t) : s.HandsOver t := by
  cases h with
  | worker place turn => exact turn.handsOver
  | producer place turn => exact turn.handsOver place
  | starter place turn => exact turn.handsOver
  | outsider place turn => cases turn <;> exact .inl ⟨rfl, rfl⟩

/-- The tasks handed over and the unsent ones are the tasks of the list, in order. -/
theorem sent_append_unsent {kind : Move → Prop} {outsiders : Nat}
    (h : ReachesBy p kind (p.begin outsiders) s) :
    s.sent ++ s.unsent.map Job.index = p.jobs.map Job.index := by
  refine h.invariant (I := fun s => s.sent ++ s.unsent.map Job.index = _) rfl ?_
  intro m u v _ _ turn all
  rcases turn.handsOver with ⟨sent, unsent⟩ | ⟨j, next, sent, -⟩
  · rw [sent, unsent, all]
  · rw [← all, next, sent, List.map_cons, List.append_assoc, List.singleton_append]

/-- What was handed over was received, or is in the queue. -/
theorem sent_eq {kind : Move → Prop} {outsiders : Nat} (h : ReachesBy p kind (p.begin outsiders) s) :
    s.sent = s.received ++ s.queue.map Job.index := by
  obtain ⟨taken, jobs, received⟩ := (conserved_of_reaches h).handed
  have all := sent_append_unsent h
  rw [jobs, List.map_append, List.map_append, ← received] at all
  exact List.append_cancel_right all

end Crew

end TaskCrew
