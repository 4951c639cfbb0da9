import TaskCrew.Crew.Drive
import TaskCrew.Proofs.Turn

/-!
# Which threads a run has

The starter knows which threads it has started and which of them have ended, and it closes the
queue only if no producer will. `Staffed` says that what it knows is so.

* `Plan.begin` — a run before its first step, on a new ledger;
* `Crew.Manned`, `Crew.Joined` — the threads that there are, and those that were joined;
* `Crew.Staffed` — what the starter knows, by where it stands;
* `staffed_of_reaches` — every state that a run reaches is staffed;
* `Crew.HasEnded`, `hasEnded_of_isOver` — a run is over only when every thread has ended;
* `Move.IsGranted`, `full_of_reaches`, `granted_of_isFull` — if no thread is refused, all threads are
  started; and if they are, none was refused;
* `starter_of_sound`, `starter_of_unsound` — the call breaks off exactly if the run cannot begin.
-/

namespace TaskCrew

/-- A run before its first step, on a new ledger and new counters, with so many calls of `fire` from
outside. -/
def Plan.begin (p : Plan) (outsiders : Nat) : Crew :=
  Crew.begin p { limit := p.config.normalizedErrorLimit } {} outsiders

/-- Two workers with three tasks, one of which breaks off. -/
def Plan.threeTasks : Plan :=
  ⟨{ workerCount := 2 }, [.done .success, .done (.panic "none"), .done .success]⟩

def Producer.hasClosed : Producer → Bool
  | .leaving | .gone => true
  | _ => false

namespace Crew

variable {p : Plan} {s t : Crew}

/-- The threads that there are when no more threads are started: every worker and the producer, or
so many workers if the next thread was refused. -/
def Manned (p : Plan) (s : Crew) : Option Refusal → Prop
  | none => s.workers.length = p.workers ∧ s.producer ≠ .unborn ∧ s.fed = !s.producer.hasClosed
  | some r =>
    s.workers.length = r.started ∧ r.started ≤ p.workers ∧ s.producer = .unborn ∧ s.fed = false

/-- So many workers are started, and no producer. -/
def Hired (p : Plan) (s : Crew) (started : Nat) : Prop :=
  s.workers.length = started ∧ started ≤ p.workers ∧ s.producer = .unborn ∧ s.fed = true

/-- So many workers were joined, and these of them are dead. -/
structure Joined (workers : List Worker) (joined : Nat) (dead : List Nat) : Prop where
  le : joined ≤ workers.length
  gone : ∀ i < joined, ∃ died, workers[i]? = some (.gone died)
  dead_eq : dead = (List.range joined).filter fun i => workers[i]? = some (.gone true)

/-- What the starter knows of the threads, by where it stands. -/
def Staffed (p : Plan) (s : Crew) : Prop :=
  match s.starter with
  | .starting started => s.Hired p started ∧ (0 < started → p.Sound)
  | .closing r => s.Hired p r.started
  | .aborting r _ => s.Manned p (some r)
  | .joining joined dead refused => s.Manned p refused ∧ Joined s.workers joined dead
  | .settling dead refused =>
    s.Manned p refused ∧ Joined s.workers s.workers.length dead ∧
      (refused = none → s.producer = .gone)
  | .returned (.finished dead) =>
    s.Manned p none ∧ Joined s.workers s.workers.length dead ∧ s.producer = .gone
  | .returned (.refused r) =>
    s.Manned p (some r) ∧ ∃ dead, Joined s.workers s.workers.length dead
  | .returned .panicked => s.workers = [] ∧ s.producer = .unborn ∧ s.fed = true

lemma Manned.length_le {refused : Option Refusal} (h : s.Manned p refused) :
    s.workers.length ≤ p.workers := by
  cases refused with
  | none => exact Nat.le_of_eq h.1
  | some started => rw [h.1]; exact h.2.1

/-- If the producer is started, so are all workers, and the queue is open until the producer closes
it. -/
lemma Staffed.manned (h : s.Staffed p) (born : s.producer ≠ .unborn) : s.Manned p none := by
  have of_manned {refused : Option Refusal} (hm : s.Manned p refused) : s.Manned p none := by
    cases refused with
    | none => exact hm
    | some started => exact absurd hm.2.2.1 born
  unfold Staffed at h
  split at h
  · exact absurd h.1.2.2.1 born
  · exact absurd h.2.2.1 born
  · exact of_manned h
  · exact of_manned h.1
  · exact of_manned h.1
  · exact h.1
  · exact of_manned h.1
  · exact absurd h.2.1 born

/-- No more workers are started than there are to be. -/
lemma Staffed.length_le (h : s.Staffed p) : s.workers.length ≤ p.workers := by
  unfold Staffed at h
  split at h
  · exact h.1.1 ▸ h.1.2.1
  · exact h.1 ▸ h.2.1
  · exact Manned.length_le h
  · exact h.1.length_le
  · exact h.1.length_le
  · exact h.1.length_le
  · exact h.1.length_le
  · exact h.1 ▸ Nat.zero_le _

/-! ## Every turn keeps a run staffed -/

lemma Manned.of_eq {refused : Option Refusal} (h : s.Manned p refused)
    (length : t.workers.length = s.workers.length) (fed : t.fed = s.fed)
    (born : t.producer = .unborn ↔ s.producer = .unborn)
    (closed : t.producer.hasClosed = s.producer.hasClosed) : t.Manned p refused := by
  cases refused with
  | none => exact ⟨length.trans h.1, born.not.2 h.2.1, by rw [fed, closed]; exact h.2.2⟩
  | some started =>
    obtain ⟨hl, hle, hu, hf⟩ := h
    exact ⟨length.trans hl, hle, born.2 hu, fed.trans hf⟩

/-- The turn of a worker leaves those alone that were joined. -/
lemma Joined.worker {joined k : Nat} {dead : List Nat} {w w' : Worker} {s' : Crew}
    (h : Joined s.workers joined dead) (place : s.workers[k]? = some w)
    (turn : WorkerTurn p k s w w' s') : Joined (s.workers.set k w') joined dead := by
  have same : ∀ i < joined, (s.workers.set k w')[i]? = s.workers[i]? := by
    intro i hi
    refine List.getElem?_set_ne ?_
    rintro rfl
    obtain ⟨died, hd⟩ := h.gone k hi
    exact turn.ne_gone died (Option.some.inj (place.symm.trans hd))
  refine ⟨by simpa using h.le, fun i hi => same i hi ▸ h.gone i hi, ?_⟩
  rw [h.dead_eq]
  refine List.filter_congr fun i hi => ?_
  rw [same i (List.mem_range.1 hi)]

lemma Joined.succ {workers : List Worker} {joined : Nat} {dead : List Nat} {died : Bool}
    (h : Joined workers joined dead) (gone : workers[joined]? = some (.gone died)) :
    Joined workers (joined + 1) (dead ++ if died then [joined] else []) where
  le := (List.getElem?_eq_some_iff.1 gone).1
  gone i hi := by
    rcases Nat.lt_succ_iff_lt_or_eq.1 hi with hi | rfl
    · exact h.gone i hi
    · exact ⟨died, gone⟩
  dead_eq := by
    rw [List.range_succ, List.filter_append, ← h.dead_eq]
    cases died <;> simp [gone]

/-- What the starter knows stays so while it stands still, if no thread comes, and the queue, those
that have ended and the producer that has closed the queue stay as they are. -/
lemma Staffed.of_starter_eq (h : s.Staffed p) (starter : t.starter = s.starter)
    (length : t.workers.length = s.workers.length)
    (joined : ∀ {joined dead}, Joined s.workers joined dead → Joined t.workers joined dead)
    (manned : ∀ {refused}, s.Manned p refused → t.Manned p refused)
    (fed : s.producer = .unborn → t.fed = s.fed ∧ t.producer = .unborn)
    (gone : s.producer = .gone → t.producer = .gone) : t.Staffed p := by
  have hired {started : Nat} (hh : s.Hired p started) : t.Hired p started :=
    ⟨length.trans hh.1, hh.2.1, (fed hh.2.2.1).2, (fed hh.2.2.1).1.trans hh.2.2.2⟩
  unfold Staffed at h ⊢
  rw [starter]
  split at h
  · exact ⟨hired h.1, h.2⟩
  · exact hired h
  · exact manned h
  · exact ⟨manned h.1, joined h.2⟩
  · exact ⟨manned h.1, length ▸ joined h.2.1, fun hr => gone (h.2.2 hr)⟩
  · exact ⟨manned h.1, length ▸ joined h.2.1, gone h.2.2⟩
  · obtain ⟨dead, hd⟩ := h.2
    exact ⟨manned h.1, dead, length ▸ joined hd⟩
  · exact ⟨List.length_eq_zero_iff.1 (by rw [length, h.1]; rfl), (fed h.2.1).2,
      (fed h.2.1).1.trans h.2.2⟩

lemma Staffed.worker {k : Nat} {w w' : Worker} {s' : Crew} (h : s.Staffed p)
    (place : s.workers[k]? = some w) (turn : WorkerTurn p k s w w' s') :
    (s'.setWorker k w').Staffed p := by
  have length : (s'.setWorker k w').workers.length = s.workers.length := by
    simp [setWorker, turn.workers_eq]
  have born : s'.producer = .unborn ↔ s.producer = .unborn := by
    rcases turn.producer_eq_or with hq | ⟨hq, hq'⟩
    · rw [hq]
    · simp [hq, hq']
  have closed : s'.producer.hasClosed = s.producer.hasClosed := by
    rcases turn.producer_eq_or with hq | ⟨hq, hq'⟩
    · rw [hq]
    · simp [hq, hq', Producer.hasClosed]
  have gone : s.producer = .gone → s'.producer = .gone := by
    rcases turn.producer_eq_or with hq | ⟨hq, _⟩
    · rw [hq]; exact id
    · simp [hq]
  have workers := turn.setWorker_workers
  exact h.of_starter_eq turn.starter_eq length (fun hj => workers ▸ hj.worker place turn)
    (fun hm => hm.of_eq length turn.fed_eq born closed)
    (fun hu => ⟨turn.fed_eq, born.2 hu⟩) gone

/-- A producer that takes a turn is started. -/
lemma ProducerTurn.ne_unborn {q q' : Producer} {s' : Crew} (h : ProducerTurn p s q q' s') :
    q ≠ .unborn ∧ q' ≠ .unborn ∧ q ≠ .gone := by
  cases h <;> simp

/-- The producer closes the queue in one step. -/
lemma ProducerTurn.fed_eq {q q' : Producer} {s' : Crew} (h : ProducerTurn p s q q' s')
    (fed : s.fed = !q.hasClosed) : s'.fed = !q'.hasClosed := by
  cases h <;> simp_all [Producer.hasClosed, log, record, Crew.count,
    Crew.leave]

lemma Staffed.producer {q q' : Producer} {s' : Crew} (h : s.Staffed p) (place : s.producer = q)
    (turn : ProducerTurn p s q q' s') : (s'.setProducer q').Staffed p := by
  obtain ⟨hq, hq', hg⟩ := turn.ne_unborn
  have workers : (s'.setProducer q').workers = s.workers := turn.workers_eq
  refine h.of_starter_eq turn.starter_eq (by rw [workers]) (fun hj => workers ▸ hj) ?_ ?_ ?_
  · intro refused hm
    cases refused with
    | none =>
      exact ⟨by rw [workers]; exact hm.1, hq', turn.fed_eq (place ▸ hm.2.2)⟩
    | some started => exact absurd (place.symm.trans hm.2.2.1) hq
  · exact fun hu => absurd (place.symm.trans hu) hq
  · exact fun hu => absurd (place.symm.trans hu) hg

lemma Staffed.outsider {k : Nat} {f : Firing} {f' : Option Firing} {s' : Crew}
    (h : s.Staffed p) (turn : OutsiderTurn s f f' s') : (s'.setOutsider k f').Staffed p := by
  cases turn <;>
    exact h.of_starter_eq rfl rfl id (fun hm => hm.of_eq rfl rfl Iff.rfl rfl)
      (fun hu => ⟨rfl, hu⟩) id

lemma Staffed.starter {c : Choice} {q q' : Starter} {s' : Crew} (h : s.Staffed p)
    (place : s.starter = q) (turn : StarterTurn p s c q q' s') :
    (s'.setStarter q').Staffed p := by
  unfold Staffed at h
  rw [place] at h
  cases turn with
  | @breakOff started unsound =>
    obtain ⟨⟨hl, -, hu, hf⟩, hs⟩ := h
    have : started = 0 := by
      by_contra hne
      exact unsound (hs (Nat.pos_of_ne_zero hne))
    exact ⟨List.length_eq_zero_iff.1 (hl.trans this), hu, hf⟩
  | startWorker sound few =>
    obtain ⟨⟨hl, -, hu, hf⟩, -⟩ := h
    exact ⟨⟨by simp [setStarter, hl], few, hu, hf⟩, fun _ => sound⟩
  | startProducer sound all =>
    obtain ⟨⟨hl, hle, -, hf⟩, -⟩ := h
    refine ⟨⟨?_, by simp [setStarter, setProducer], ?_⟩, Nat.zero_le _, by simp, by simp⟩
    · exact hl.trans (Nat.le_antisymm hle all)
    · simpa [setStarter, setProducer, Producer.hasClosed] using hf
  | refused sound => exact h.1
  | close reason =>
    obtain ⟨hl, hle, hu, -⟩ := h
    exact ⟨hl, hle, hu, rfl⟩
  | fire step => exact h
  | endFiring step => exact ⟨h, Nat.zero_le _, by simp, by simp⟩
  | joinDead gone => exact ⟨h.1, h.2.succ gone⟩
  | join gone => exact ⟨h.1, by simpa [setStarter] using h.2.succ gone⟩
  | @joinLast joined dead refused all gone =>
    have hj : joined = s.workers.length := Nat.le_antisymm h.2.le all
    subst hj
    refine ⟨h.1, h.2, ?_⟩
    rintro rfl
    simpa [setStarter] using gone
  | @settle dead refused events incidental =>
    cases refused with
    | none => exact ⟨h.1, h.2.1, h.2.2 rfl⟩
    | some started => exact ⟨h.1, dead, h.2.1⟩

theorem Staffed.turn {m : Move} (h : s.Staffed p) (turn : Turn p s m t) : t.Staffed p := by
  cases turn with
  | worker place turn => exact h.worker place turn
  | producer place turn => exact h.producer place turn
  | starter place turn => exact h.starter place turn
  | outsider place turn => exact h.outsider turn

/-- Every state that a run reaches is staffed. -/
theorem staffed_of_reaches {kind : Move → Prop} {outsiders : Nat}
    (h : ReachesBy p kind (p.begin outsiders) s) : s.Staffed p :=
  h.invariant ⟨⟨rfl, Nat.zero_le _, rfl, rfl⟩, by simp⟩ fun _ _ turn hu => hu.turn turn

/-- The limit of the ledger is that of the configuration at any time. -/
theorem limit_of_reaches {kind : Move → Prop} {outsiders : Nat}
    (h : ReachesBy p kind (p.begin outsiders) s) :
    s.ledger.limit = p.config.normalizedErrorLimit :=
  h.invariant (I := fun s => s.ledger.limit = p.config.normalizedErrorLimit) rfl
    fun _ _ turn hu => turn.limit_eq.trans hu

/-! ## Runs that are over -/

/-- The starter has come back, and every thread that was started has ended: all workers and the
producer, or so many workers if the next thread was refused, or none if the call broke off. -/
def HasEnded (p : Plan) (s : Crew) : Prop :=
  (∀ w ∈ s.workers, ∃ died, w = .gone died) ∧
    match s.return? with
    | none => False
    | some (.finished _) => s.workers.length = p.workers ∧ s.producer = .gone
    | some (.refused r) => s.workers.length = r.started ∧ s.producer = .unborn
    | some .panicked => s.workers = [] ∧ s.producer = .unborn

lemma Joined.all_gone {workers : List Worker} {dead : List Nat}
    (h : Joined workers workers.length dead) : ∀ w ∈ workers, ∃ died, w = .gone died := by
  intro w mem
  obtain ⟨i, place⟩ := List.mem_iff_getElem?.1 mem
  obtain ⟨died, hd⟩ := h.gone i (List.getElem?_eq_some_iff.1 place).1
  exact ⟨died, Option.some.inj (place.symm.trans hd)⟩

/-- A run is over only when every thread that was started has ended. -/
theorem hasEnded_of_isOver (staffed : s.Staffed p) (finished : s.IsOver) : s.HasEnded p := by
  unfold Staffed at staffed
  cases hq : s.starter with
  | returned r =>
    rw [hq] at staffed
    have hr : s.return? = some r := by simp [return?, hq]
    rw [HasEnded, hr]
    cases r with
    | finished dead =>
      obtain ⟨manned, joined, gone⟩ := staffed
      exact ⟨joined.all_gone, manned.1, gone⟩
    | refused started =>
      obtain ⟨manned, dead, joined⟩ := staffed
      exact ⟨joined.all_gone, manned.1, manned.2.2.1⟩
    | panicked =>
      obtain ⟨none, unborn, -⟩ := staffed
      refine ⟨?_, none, unborn⟩
      rw [none]
      simp
  | _ => simp [IsOver, return?, hq] at finished

lemma HasEnded.isOver (h : s.HasEnded p) : s.IsOver := by
  cases back : s.return? with
  | none =>
    rw [HasEnded, back] at h
    exact h.2.elim
  | some r => simp [IsOver, back]

/-- What the starter knows when it comes back with the dead workers. -/
lemma Staffed.of_finished {dead : List Nat} (h : s.Staffed p)
    (back : s.return? = some (.finished dead)) :
    s.Manned p none ∧ Joined s.workers s.workers.length dead ∧ s.producer = .gone := by
  unfold Staffed at h
  cases hq : s.starter with
  | returned r =>
    have hr : r = .finished dead := by simpa [return?, hq] using back
    rw [hq, hr] at h
    exact h
  | _ => simp [return?, hq] at back

lemma WorkerTurn.not_isOver {k : Nat} {w w' : Worker} {s' : Crew} (h : WorkerTurn p k s w w' s')
    (staffed : s.Staffed p) (place : s.workers[k]? = some w) : ¬ s.IsOver := by
  intro finished
  obtain ⟨died, hd⟩ := (hasEnded_of_isOver staffed finished).1 w (List.mem_of_getElem? place)
  exact h.ne_gone died hd

lemma ProducerTurn.not_isOver {q q' : Producer} {s' : Crew} (h : ProducerTurn p s q q' s')
    (staffed : s.Staffed p) (place : s.producer = q) : ¬ s.IsOver := by
  intro finished
  obtain ⟨born, -, present⟩ := h.ne_unborn
  have ended := (hasEnded_of_isOver staffed finished).2
  split at ended
  · exact ended
  · exact present (place.symm.trans ended.2)
  · exact born (place.symm.trans ended.2)
  · exact born (place.symm.trans ended.2)

/-! ## Runs in which no thread is refused -/

end Crew

def Choice.isRefusal : Choice → Bool
  | .refused _ => true
  | _ => false

/-- A move in which no thread is refused. -/
def Move.IsGranted (m : Move) : Prop :=
  m.actor = .starter → m.choice.isRefusal = false

instance (m : Move) : Decidable m.IsGranted :=
  inferInstanceAs (Decidable (_ → _))

/-- The starter has met with nothing that keeps it from starting all threads. -/
def Starter.IsFull : Starter → Prop
  | .starting _ | .joining _ _ none | .settling _ none | .returned (.finished _) => True
  | _ => False

namespace Crew

variable {p : Plan} {s t : Crew}

/-- If no thread is refused and the run can begin at all, the starter starts all threads. -/
theorem full_of_reaches {outsiders : Nat} (sound : p.Sound)
    (h : ReachesBy p Move.IsGranted (p.begin outsiders) s) : s.starter.IsFull := by
  refine h.invariant (I := fun s => s.starter.IsFull) trivial ?_
  intro m u v _ granted turn full
  obtain same | ⟨c, q, q', s', rfl, place, moved, rfl⟩ := turn.starter_or
  · rw [same]
    exact full
  rw [place] at full
  cases moved with
  | refused => cases granted rfl
  | breakOff unsound => exact absurd sound unsound
  | startWorker | startProducer => trivial
  | close | fire | endFiring => cases full
  | @joinDead _ _ refused | @join _ _ refused | @joinLast _ _ refused | @settle _ refused =>
    cases refused with
    | none => trivial
    | some started => cases full

/-- A producer that is started stays so. -/
lemma Turn.born {m : Move} (h : Turn p s m t) (born : s.producer ≠ .unborn) :
    t.producer ≠ .unborn := by
  cases h with
  | worker place turn =>
    rcases turn.producer_eq_or with same | ⟨-, counting⟩
    · rw [setWorker, same]
      exact born
    · rw [setWorker, counting]
      simp
  | producer place turn => exact turn.ne_unborn.2.1
  | starter place turn =>
    cases turn with
    | startProducer => simp [setStarter, setProducer]
    | _ => exact born
  | outsider place turn => cases turn <;> exact born

lemma born_of_reaches {kind : Move → Prop} (h : ReachesBy p kind s t) (born : s.producer ≠ .unborn) :
    t.producer ≠ .unborn :=
  h.invariant (I := fun t => t.producer ≠ .unborn) born fun _ _ turn => turn.born

/-- If the producer is started, nothing has kept the starter from starting all threads. -/
lemma Staffed.isFull (h : s.Staffed p) (born : s.producer ≠ .unborn) : s.starter.IsFull := by
  have none_of_manned {refused : Option Refusal} (hm : s.Manned p refused) : refused = none := by
    cases refused with
    | none => rfl
    | some started => exact absurd hm.2.2.1 born
  unfold Staffed at h
  split at h
  case h_1 place => rw [place]; trivial
  case h_2 => exact absurd h.2.2.1 born
  case h_3 => cases none_of_manned h
  case h_4 place => rw [place, none_of_manned h.1]; trivial
  case h_5 place => rw [place, none_of_manned h.1]; trivial
  case h_6 place => rw [place]; trivial
  case h_7 => cases none_of_manned h.1
  case h_8 => exact absurd h.2.1 born

/-- If nothing has kept the starter from starting all threads after a turn, nothing had before. -/
lemma Turn.isFull {m : Move} (h : Turn p s m t) (full : t.starter.IsFull) :
    s.starter.IsFull ∧ m.IsGranted := by
  cases h with
  | worker place turn =>
    rw [setWorker, turn.starter_eq] at full
    exact ⟨full, by simp [Move.IsGranted]⟩
  | producer place turn =>
    rw [setProducer, turn.starter_eq] at full
    exact ⟨full, by simp [Move.IsGranted]⟩
  | outsider place turn => exact ⟨by cases turn <;> exact full, by simp [Move.IsGranted]⟩
  | starter place turn =>
    rw [place]
    cases turn with
    | breakOff | refused | close | fire | endFiring => exact full.elim
    | startWorker | startProducer => exact ⟨trivial, fun _ => rfl⟩
    | @joinDead _ _ refused | @join _ _ refused | @joinLast _ _ refused | @settle _ refused =>
      cases refused with
      | none => exact ⟨trivial, fun _ => rfl⟩
      | some started => exact full.elim

/-- A run in which nothing has kept the starter from starting all threads is one in which no thread was
refused. -/
theorem granted_of_isFull {kind : Move → Prop} (h : ReachesBy p kind s t) (full : t.starter.IsFull) :
    ReachesBy p Move.IsGranted s t := by
  induction h with
  | refl => exact .refl
  | tail m _ _ stepped ih =>
    obtain ⟨before, granted⟩ := (turn_of_step? stepped).isFull full
    exact .tail m (ih before) granted stepped

/-- If no thread is refused and the run can begin at all, the starter comes back with the dead
workers. -/
lemma exists_finished_of_return {outsiders : Nat} (sound : p.Sound)
    (h : ReachesBy p Move.IsGranted (p.begin outsiders) s) {r : Return}
    (back : s.return? = some r) : ∃ dead, r = .finished dead := by
  have full := full_of_reaches sound h
  cases hq : s.starter with
  | returned r' =>
    have hr : r' = r := by simpa [return?, hq] using back
    rw [hq, hr] at full
    cases r with
    | finished dead => exact ⟨dead, rfl⟩
    | refused | panicked => exact full.elim
  | _ => simp [return?, hq] at back

/-- If the run cannot begin at all, the call breaks off at its first step. -/
lemma starter_of_unsound {kind : Move → Prop} {outsiders : Nat} (unsound : ¬ p.Sound)
    (h : ReachesBy p kind (p.begin outsiders) s) :
    s.starter = .starting 0 ∨ s.starter = .returned .panicked := by
  refine h.invariant (I := fun s => s.starter = .starting 0 ∨ s.starter = .returned .panicked)
    (.inl rfl) ?_
  intro m u v _ _ turn stuck
  obtain same | ⟨c, q, q', s', -, place, moved, rfl⟩ := turn.starter_or
  · rw [same]
    exact stuck
  rw [place] at stuck
  cases moved with
  | breakOff => exact .inr rfl
  | startWorker sound | startProducer sound | refused _ sound => exact absurd sound unsound
  | _ => simp at stuck

/-- If the run cannot begin at all, no thread is started. -/
lemma unmanned_of_unsound {kind : Move → Prop} {outsiders : Nat} (unsound : ¬ p.Sound)
    (h : ReachesBy p kind (p.begin outsiders) s) : s.workers = [] ∧ s.producer = .unborn := by
  have staffed := staffed_of_reaches h
  unfold Staffed at staffed
  rcases starter_of_unsound unsound h with place | place
  · rw [place] at staffed
    obtain ⟨⟨length, -, unborn, -⟩, -⟩ := staffed
    exact ⟨List.length_eq_zero_iff.1 length, unborn⟩
  · rw [place] at staffed
    exact ⟨staffed.1, staffed.2.1⟩

/-- If the run can begin, the call does not break off. -/
lemma starter_of_sound {kind : Move → Prop} {outsiders : Nat} (sound : p.Sound)
    (h : ReachesBy p kind (p.begin outsiders) s) : s.starter ≠ .returned .panicked := by
  refine h.invariant (I := fun s => s.starter ≠ .returned .panicked) (by simp [Plan.begin, begin]) ?_
  intro m u v _ _ turn going
  obtain same | ⟨c, q, q', s', -, place, moved, rfl⟩ := turn.starter_or
  · rw [same]
    exact going
  cases moved with
  | breakOff unsound => exact absurd sound unsound
  | @settle dead refused => cases refused <;> simp [setStarter]
  | _ => simp [setStarter]

/-- If the run cannot begin at all, the call breaks off. -/
theorem sound_or_panicked {kind : Move → Prop} {outsiders : Nat}
    (h : ReachesBy p kind (p.begin outsiders) s) {r : Return} (back : s.return? = some r) :
    p.Sound ∨ r = .panicked := by
  rw [or_iff_not_imp_left]
  intro unsound
  rcases starter_of_unsound unsound h with place | place
  · simp [return?, place] at back
  · simpa [return?, place, eq_comm] using back

/-- No thread is refused by a machine that can start one. -/
lemma isGranted_of_mem_preferences {m : Move} (able : p.CanStart) (mem : m ∈ s.preferences p) :
    m.IsGranted := by
  obtain ⟨actor, choice⟩ := m
  rintro rfl
  simp only [preferences, workerMoves, List.mem_append, List.mem_filterMap, List.mem_map, List.mem_cons,
    able, true_or, if_true] at mem
  cases choice with
  | usual | other => rfl
  | refused why => grind

/-- A run that is driven on such a machine is one in which no thread is refused. -/
theorem granted_drive (able : p.CanStart) (moves : Nat)
    (h : ReachesBy p Move.IsGranted s t) : ReachesBy p Move.IsGranted s (drive p moves t) := by
  induction moves generalizing t with
  | zero => exact h
  | succ moves ih =>
    simp only [drive]
    split
    · exact h
    · next u hu =>
      obtain ⟨m, mem, step⟩ := List.exists_of_findSome?_eq_some hu
      exact ih (.tail m h (isGranted_of_mem_preferences able mem) step)

end Crew

end TaskCrew
