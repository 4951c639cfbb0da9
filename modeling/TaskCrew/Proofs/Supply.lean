import TaskCrew.Proofs.Diligence

/-!
# Workers that wait for a task get one

A worker that is ready for a task needs nobody but the producer to get the next task of the list and to
begin it, whatever the other workers do or do not.

* `Move.Serves` — the moves of the producer and of one worker;
* `Crew.CanBring` — by such moves, a worker comes to a place, and all that the others have to do with
  stays as it is;
* `canBring_of_ready` — as long as the signal is not fired, a worker that is ready comes to carry out the
  next task that nobody has received;
* `exists_full` — so as many tasks come to be carried out at once as there are workers or tasks.

The path depends on where the producer stands and on what the queue holds: the worker takes from the
queue if there is anything in it, and otherwise the producer goes on until it offers a task, which passes
to the worker through the queue or from hand to hand.
-/

namespace TaskCrew

/-- A move of the producer or of one worker. -/
def Move.Serves (k : Nat) (m : Move) : Prop :=
  m.actor = .producer ∨ m.actor = .worker k

namespace Crew

variable {p : Plan} {k : Nat} {w w' : Worker} {j : Job} {left : List Job} {s t : Crew}

/-- The tasks that no worker has received, in order. -/
def unreceived (s : Crew) : List Job :=
  s.queue ++ s.unsent

/-- By moves of the producer and one worker, a run comes to a state in which that worker stands at a
place and these tasks are not received, and in which the other workers and the ledger are as before. -/
def CanBring (p : Plan) (k : Nat) (s : Crew) (w : Worker) (left : List Job) : Prop :=
  ∃ t, ReachesBy p (Move.Serves k) s t ∧ t.workers = s.workers.set k w ∧ t.ledger = s.ledger ∧
    t.unreceived = left

/-! ## One move after the other -/

lemma ReachesBy.head {kind : Move → Prop} {m : Move} {u : Crew} (allowed : kind m)
    (stepped : s.step? p m = some t) (h : ReachesBy p kind t u) : ReachesBy p kind s u :=
  (ReachesBy.tail m .refl allowed stepped).trans h

/-- What comes to another state begins with a move that is possible. -/
lemma ReachesBy.exists_first {kind : Move → Prop} (h : ReachesBy p kind s t) (ne : t ≠ s) :
    ∃ m, kind m ∧ (s.step? p m).isSome := by
  induction h with
  | refl => exact absurd rfl ne
  | @tail t u m reached allowed stepped ih =>
    by_cases first : t = s
    · subst first
      exact ⟨m, allowed, Option.isSome_iff_exists.2 ⟨u, stepped⟩⟩
    · exact ih first

/-- The worker takes a step and goes on from there. -/
lemma CanBring.worker (h : t.CanBring p k w left)
    (stepped : s.step? p ⟨.worker k, .usual⟩ = some t) (workers : t.workers = s.workers.set k w')
    (ledger : t.ledger = s.ledger) : s.CanBring p k w left := by
  obtain ⟨u, reached, hw, hl, rest⟩ := h
  refine ⟨u, reached.head (.inr rfl) stepped, ?_, hl.trans ledger, rest⟩
  rw [hw, workers, List.set_set]

/-- The producer takes a step and the worker goes on from there. -/
lemma CanBring.producer (h : t.CanBring p k w left)
    (stepped : s.step? p ⟨.producer, .usual⟩ = some t) (workers : t.workers = s.workers)
    (ledger : t.ledger = s.ledger) : s.CanBring p k w left := by
  obtain ⟨u, reached, hw, hl, rest⟩ := h
  exact ⟨u, reached.head (.inl rfl) stepped, by rw [hw, workers], hl.trans ledger, rest⟩

lemma getElem?_setWorker (s : Crew) (w' : Worker) (place : s.workers[k]? = some w) :
    (s.setWorker k w').workers[k]? = some w' :=
  List.getElem?_set_self (List.getElem?_eq_some_iff.1 place).1

/-! ## From a task in hand to its beginning -/

lemma canBring_of_calling (place : s.workers[k]? = some (.calling j)) :
    s.CanBring p k (.working j.index j.body) s.unreceived :=
  ⟨(s.record (.began k j.index)).setWorker k (.working j.index j.body),
    .tail ⟨.worker k, .usual⟩ .refl (.inr rfl) (by simp [step?, workerStep?, place]), rfl, rfl, rfl⟩

lemma canBring_of_cleared (place : s.workers[k]? = some (.cleared j)) :
    s.CanBring p k (.working j.index j.body) s.unreceived :=
  (canBring_of_calling ((s.count .started).getElem?_setWorker (.calling j) place)).worker
    (by simp [step?, workerStep?, place]) rfl rfl

lemma canBring_of_holding (place : s.workers[k]? = some (.holding j))
    (unfired : s.ledger.signal.fired = false) :
    s.CanBring p k (.working j.index j.body) s.unreceived :=
  (canBring_of_cleared (s.getElem?_setWorker (.cleared j) place)).worker
    (by simp [step?, workerStep?, place, unfired]) rfl rfl

/-! ## From the loop to a task in hand -/

/-- A worker that waits takes the first task out of the queue. -/
lemma canBring_of_front {queue : List Job} (place : s.workers[k]? = some .selecting)
    (unfired : s.ledger.signal.fired = false) (front : s.queue = j :: queue) :
    s.CanBring p k (.working j.index j.body) (queue ++ s.unsent) := by
  have taken := ({ s with queue := queue }.record (.received k j.index)).getElem?_setWorker
    (.holding j) place
  have brought := canBring_of_holding (p := p) taken unfired
  exact brought.worker (by simp [step?, workerStep?, place, receive?, front]) rfl rfl

/-- A producer that offers a task hands it to a worker that waits, through the queue or from hand to
hand. -/
lemma canBring_of_offering {unsent : List Job} (place : s.workers[k]? = some .selecting)
    (unfired : s.ledger.signal.fired = false) (empty : s.queue = []) (fed : s.fed = true)
    (offering : s.producer = .offering) (next : s.unsent = j :: unsent) :
    s.CanBring p k (.working j.index j.body) unsent := by
  by_cases direct : p.capacity = 0
  · have handed := (({ s with producer := .counting, unsent := unsent }.record
      (.sent j.index)).record (.received k j.index)).getElem?_setWorker (.holding j) place
    have brought := (canBring_of_holding (p := p) handed unfired).worker (s := s)
      (by simp [step?, workerStep?, place, receive?, empty, fed, offering, next, direct]) rfl rfl
    simpa [unreceived, setWorker, record, empty] using brought
  · have present : s.isDeserted = false := by
      rw [isDeserted, List.all_eq_false]
      exact ⟨_, List.mem_of_getElem? place, by simp⟩
    have front : s.queue ++ [j] = [j] := by rw [empty, List.nil_append]
    have brought := canBring_of_front (p := p)
      (s := { s with queue := s.queue ++ [j], unsent := unsent, producer := .counting }.record
        (.sent j.index)) place unfired front
    exact brought.producer
      (by simp [step?, producerStep?, offer?, present, offering, next, empty,
        Nat.pos_of_ne_zero direct]) rfl rfl

/-- A producer that looks whether tasks are left offers the next one. -/
lemma canBring_of_checking {unsent : List Job} (place : s.workers[k]? = some .selecting)
    (unfired : s.ledger.signal.fired = false) (empty : s.queue = []) (fed : s.fed = true)
    (checking : s.producer = .checking) (next : s.unsent = j :: unsent) :
    s.CanBring p k (.working j.index j.body) unsent :=
  (canBring_of_offering (s := s.setProducer .offering) place unfired empty fed rfl next).producer
    (by simp [step?, producerStep?, checking, next, unfired]) rfl rfl

/-- There are tasks to hand over only as long as the queue is fed and the producer has not stopped. -/
def Supplied (s : Crew) : Prop :=
  s.unsent ≠ [] → s.fed = true ∧ s.producer ≠ .unborn ∧ s.producer.hasStopped = false

/-- As long as the signal is not fired and somebody is not dead, the producer does not stop before all
tasks are handed over. -/
lemma supplied_of_reaches {kind : Move → Prop} {outsiders : Nat} (hired : 0 < p.workers)
    (h : ReachesBy p kind (p.begin outsiders) s) (born : s.producer ≠ .unborn)
    (unfired : s.ledger.signal.fired = false) (mem : w ∈ s.workers) (alive : w ≠ .gone true) :
    s.Supplied := by
  intro left
  have going : s.producer.hasStopped = false := by
    by_contra stopped
    rcases spent_of_reaches hired h unfired (by simpa using stopped) with none | dead
    · exact left none
    · exact alive (dead w mem)
  refine ⟨?_, born, going⟩
  rw [((staffed_of_reaches h).manned born).2.2]
  cases hq : s.producer with
  | leaving | gone => rw [hq] at going; cases going
  | _ => rfl

/-- A worker that waits gets the next task, wherever the producer stands. -/
lemma canBring_of_selecting (place : s.workers[k]? = some .selecting)
    (unfired : s.ledger.signal.fired = false) (supplied : s.Supplied) (next : s.unreceived = j :: left) :
    s.CanBring p k (.working j.index j.body) left := by
  cases front : s.queue with
  | cons j' queue =>
    rw [unreceived, front, List.cons_append] at next
    obtain ⟨rfl, rfl⟩ := List.cons.inj next
    exact canBring_of_front place unfired front
  | nil =>
    rw [unreceived, front, List.nil_append] at next
    obtain ⟨fed, born, going⟩ := supplied (by simp [next])
    cases hq : s.producer with
    | unborn => exact absurd hq born
    | offering => exact canBring_of_offering place unfired front fed hq next
    | checking => exact canBring_of_checking place unfired front fed hq next
    | entering =>
      exact (canBring_of_checking
        (s := ((s.count .live).log .producer (.producerStarted p.total)).setProducer .checking)
        place unfired front fed rfl next).producer (by simp [step?, producerStep?, hq]) rfl rfl
    | counting =>
      exact (canBring_of_checking (s := (s.count .submitted).setProducer .checking) place unfired
        front fed rfl next).producer (by simp [step?, producerStep?, hq]) rfl rfl
    | closing | leaving | gone => rw [hq] at going; cases going

end Crew

/-- A worker is ready for a task: it begins, is at the head of its loop, or waits for a task. -/
def Worker.isReady : Worker → Bool
  | .entering | .checking | .selecting => true
  | _ => false

/-- A worker has received a task and is going to begin it, unless the signal is fired. -/
def Worker.isHolding : Worker → Bool
  | .holding _ | .cleared _ | .calling _ => true
  | _ => false

/-- A worker has not left its loop. -/
def Worker.isLive : Worker → Bool
  | .leaving _ | .releasing _ | .gone _ => false
  | _ => true

namespace Crew

variable {p : Plan} {kind : Move → Prop} {k outsiders : Nat} {w : Worker} {j : Job} {left : List Job}
  {s t : Crew}

/-- **A worker that is ready gets a task.** As long as the signal is not fired, a worker that is ready
comes to carry out the next task that nobody has received, by moves of the producer and its own. -/
theorem canBring_of_ready (hired : 0 < p.workers) (h : ReachesBy p kind (p.begin outsiders) s)
    (born : s.producer ≠ .unborn) (unfired : s.ledger.signal.fired = false)
    (place : s.workers[k]? = some w) (ready : w.isReady = true) (next : s.unreceived = j :: left) :
    s.CanBring p k (.working j.index j.body) left := by
  have alive : w ≠ .gone true := by
    rintro rfl
    cases ready
  have supplied := supplied_of_reaches hired h born unfired (List.mem_of_getElem? place) alive
  have awaiting {u : Crew} (place : u.workers[k]? = some .checking) (same : u.ledger = s.ledger)
      (supplied : u.Supplied) (next : u.unreceived = j :: left) :
      u.CanBring p k (.working j.index j.body) left := by
    have unfired : u.ledger.signal.fired = false := same ▸ unfired
    have waiting := u.getElem?_setWorker .selecting place
    exact (canBring_of_selecting waiting unfired supplied next).worker
      (by simp [step?, workerStep?, place, unfired]) rfl rfl
  cases w with
  | selecting => exact canBring_of_selecting place unfired supplied next
  | checking => exact awaiting place rfl supplied next
  | entering =>
    have began := ((s.count .live).log (.worker k) (.workerStarted k)).getElem?_setWorker .checking
      place
    exact (awaiting began rfl supplied next).worker (by simp [step?, workerStep?, place]) rfl rfl
  | _ => cases ready

/-- A worker that has a task in hand comes to carry it out. -/
lemma exists_canBring_of_isHolding (place : s.workers[k]? = some w) (holding : w.isHolding = true)
    (unfired : s.ledger.signal.fired = false) :
    ∃ index body, s.CanBring p k (.working index body) s.unreceived := by
  cases w with
  | holding j => exact ⟨_, _, canBring_of_holding place unfired⟩
  | cleared j => exact ⟨_, _, canBring_of_cleared place⟩
  | calling j => exact ⟨_, _, canBring_of_calling place⟩
  | _ => cases holding

/-! ## As many as there can be -/

/-- A move of the producer, or of a worker that carries out no task in a state. -/
def Spares (s : Crew) (m : Move) : Prop :=
  m.actor = .producer ∨ ∃ k w, m.actor = .worker k ∧ s.workers[k]? = some w ∧ w.isBusy = false

/-- Every worker that has not left its loop is ready for a task, has one in hand, or carries one out. -/
def IsSettled (s : Crew) : Prop :=
  ∀ w ∈ s.workers, w.isLive = true → w.isReady = true ∨ w.isHolding = true ∨ w.isBusy = true

/-- How many tasks are carried out. -/
def busy (s : Crew) : Nat :=
  s.workers.countP Worker.isBusy

/-- How many workers have not left their loops. -/
def live (s : Crew) : Nat :=
  s.workers.countP Worker.isLive

/-- How many tasks are carried out, are in the hands of workers that are going to begin them, or are not
received. -/
def outstanding (s : Crew) : Nat :=
  s.busy + s.workers.countP Worker.isHolding + s.unreceived.length

lemma countP_set (kind : Worker → Bool) (w' : Worker) (place : s.workers[k]? = some w)
    (workers : t.workers = s.workers.set k w') :
    t.workers.countP kind + (kind w).toNat = s.workers.countP kind + (kind w').toNat := by
  have set := total_set (fun w => (kind w).toNat) w' place
  rw [← workers, total_toNat, total_toNat] at set
  exact set

/-- In a settled state, workers that have not left are ready, have a task in hand or carry one out. -/
lemma IsSettled.live_eq (h : s.IsSettled) :
    s.live = s.workers.countP Worker.isReady + s.workers.countP Worker.isHolding + s.busy := by
  rw [live, busy, ← total_toNat, ← total_toNat, ← total_toNat, ← total_toNat, ← total_add, ← total_add]
  refine total_congr fun w mem => ?_
  have kinds := h w mem
  cases w <;> simp_all [Worker.isLive, Worker.isReady, Worker.isHolding, Worker.isBusy]

/-- If not as many tasks are carried out as there can be, a worker that is not at work can come to carry
out one more: the one that it has in hand, or one that is not received. -/
lemma exists_canBring (hired : 0 < p.workers) (h : ReachesBy p kind (p.begin outsiders) s)
    (born : s.producer ≠ .unborn) (unfired : s.ledger.signal.fired = false) (settled : s.IsSettled)
    (few : s.busy < min s.live s.outstanding) :
    ∃ k w index body left, s.workers[k]? = some w ∧ w.isLive = true ∧ w.isBusy = false ∧
      s.CanBring p k (.working index body) left ∧
      left.length + 1 = s.unreceived.length + w.isHolding.toNat := by
  have live := settled.live_eq
  rw [outstanding, Nat.lt_min] at few
  by_cases holds : 0 < s.workers.countP Worker.isHolding
  · obtain ⟨w, mem, holding⟩ := List.countP_pos_iff.1 holds
    obtain ⟨k, place⟩ := List.mem_iff_getElem?.1 mem
    obtain ⟨index, body, brought⟩ := exists_canBring_of_isHolding (p := p) place holding unfired
    refine ⟨k, w, index, body, _, place, ?_, ?_, brought, by rw [holding]; rfl⟩
    · cases w <;> first | rfl | cases holding
    · cases w <;> first | rfl | cases holding
  · have waits : 0 < s.workers.countP Worker.isReady := by omega
    obtain ⟨w, mem, ready⟩ := List.countP_pos_iff.1 waits
    obtain ⟨k, place⟩ := List.mem_iff_getElem?.1 mem
    obtain ⟨j, left, next⟩ : ∃ j left, s.unreceived = j :: left :=
      List.exists_cons_of_length_pos (by omega)
    refine ⟨k, w, j.index, j.body, left, place, ?_, ?_,
      canBring_of_ready hired h born unfired place ready next, ?_⟩
    · cases w <;> first | rfl | cases ready
    · cases w <;> first | rfl | cases ready
    · rw [next]
      cases w <;> first | rfl | cases ready

/-- Moves that spare those at work now spare those at work before, if one more worker came to work. -/
lemma Spares.of_set {m : Move} {index : Nat} {body : Body} (h : t.Spares m)
    (workers : t.workers = s.workers.set k (.working index body)) : s.Spares m := by
  obtain producer | ⟨i, w, actor, place, idle⟩ := h
  · exact .inl producer
  · refine .inr ⟨i, w, actor, ?_, idle⟩
    by_cases same : i = k
    · subst same
      have lt := (List.getElem?_eq_some_iff.1 place).1
      rw [workers, List.length_set] at lt
      rw [workers, List.getElem?_set_self lt] at place
      cases place
      cases idle
    · rwa [workers, List.getElem?_set_ne (Ne.symm same)] at place

/-- **As many tasks are carried out at once as there can be.** Let every worker that has not left be
ready for a task, have one in hand, or carry one out, and let the signal be unfired. Then as many tasks
come to be carried out at once as there are such workers, or as there are tasks that they carry out,
have in hand or have not received — while those that are at work now stand still. -/
theorem exists_full (hired : 0 < p.workers) (h : Reaches p (p.begin outsiders) s)
    (born : s.producer ≠ .unborn) (unfired : s.ledger.signal.fired = false) (settled : s.IsSettled) :
    ∃ t, ReachesBy p s.Spares s t ∧ t.busy = min s.live s.outstanding := by
  -- on the number of workers that are not at work, for each move from here on brings one to work
  generalize gap : s.live - s.busy = n
  induction n generalizing s with
  | zero =>
    have live := settled.live_eq
    refine ⟨s, .refl, ?_⟩
    rw [outstanding]
    omega
  | succ n ih =>
    by_cases few : s.busy < min s.live s.outstanding
    swap
    · have live := settled.live_eq
      refine ⟨s, .refl, ?_⟩
      rw [outstanding] at few ⊢
      omega
    obtain ⟨k, w, index, body, left, place, alive, idle, ⟨t, reached, workers, ledger, rest⟩, count⟩ :=
      exists_canBring hired h born unfired settled few
    have busy : t.busy = s.busy + 1 := by
      have set := countP_set Worker.isBusy _ place workers
      rwa [idle] at set
    have live : t.live = s.live := by
      have set := countP_set Worker.isLive _ place workers
      rw [alive] at set
      exact Nat.add_right_cancel set
    have holding : t.workers.countP Worker.isHolding + w.isHolding.toNat =
        s.workers.countP Worker.isHolding := countP_set Worker.isHolding _ place workers
    have outstanding : t.outstanding = s.outstanding := by
      rw [Crew.outstanding, Crew.outstanding, rest]
      omega
    have settled : t.IsSettled := by
      intro x mem
      rw [workers] at mem
      rcases List.mem_or_eq_of_mem_set mem with mem | rfl
      · exact settled x mem
      · exact fun _ => .inr (.inr rfl)
    obtain ⟨u, onward, full⟩ := ih (h.trans (reached.mono fun _ _ => trivial))
      (born_of_reaches reached born) (ledger ▸ unfired) settled (by omega)
    refine ⟨u, ?_, by rw [full, live, outstanding]⟩
    have spared (m : Move) (serves : m.Serves k) : s.Spares m :=
      serves.imp id fun actor => ⟨k, w, actor, place, idle⟩
    exact (reached.mono spared).trans (onward.mono fun _ spares => spares.of_set workers)

end Crew

end TaskCrew
