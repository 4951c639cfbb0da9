import TaskCrew.Proofs.Cancellation
import TaskCrew.Proofs.Limit
import TaskCrew.Proofs.Supply

/-!
# Tasks that wait for each other

Tasks that each wait until all of them have begun do not wait in vain if there are as many workers: those
that have come wait, and as long as one is missing, a worker is left for it, which gets it.

* `Body.Meets`, `Body.IsFree` — what is left of a task that counts a mark and waits until all that do have,
  before that and after;
* `Body.Joins`, `Plan.Gathers` — so many tasks of a list count the mark first and then wait for each other,
  and the others succeed and wait for nothing;
* `Crew.Gathered`, `gathered_of_reaches` — as long as one is missing, those that have counted the mark and
  those that are yet to come make up the number, and no more workers wait than have counted the mark;
* `free_of_reaches` — nobody waits for anything but the mark, so once all have counted it, nobody waits;
* `Crew.CanAdvance`, `canAdvance_of_gathers` — a run of such tasks goes on, if no wait is given up;
* `run_feeds_workers` — workers that wait for a task get one, as many tasks are carried out at once as there
  can be, and tasks that wait for each other meet.

Once they have met, tasks end in any way, and the signal may be fired before all tasks are begun. But up to
then nobody fails, so nothing keeps a task from being begun for which others wait.
-/

namespace TaskCrew

/-! ## Tasks -/

/-- A task succeeds, never counts a mark, and waits for nothing. -/
def Body.IsPlain (mark : String) : Body → Prop
  | .done e => e = .success
  | .act (.signal other) rest => other ≠ mark ∧ rest.IsPlain mark
  | .act (.inner _) rest => rest.IsPlain mark
  | .act _ _ => False
  | .either left right => left.IsPlain mark ∧ right.IsPlain mark

/-- A task waits for nothing but a mark, counted so often at most; whatever else it does, and however it
ends. -/
def Body.IsFree (mark : String) (count : Nat) : Body → Prop
  | .done _ => True
  | .act (.await other n) rest => other = mark ∧ n ≤ count ∧ rest.IsFree mark count
  | .act (.awaitSubmitted _) _ | .act (.awaitFailures _) _ | .act .awaitFired _ => False
  | .act _ rest => rest.IsFree mark count
  | .either left right => left.IsFree mark count ∧ right.IsFree mark count

/-- Until it has waited for a mark to be counted so often, a task waits for nothing but fewer counts, does
not count it again and does not fail. What it does then is free. -/
def Body.Meets (mark : String) (count : Nat) : Body → Prop
  | .done e => e = .success
  | .act (.signal other) rest => other ≠ mark ∧ rest.Meets mark count
  | .act (.await other n) rest =>
    other = mark ∧ (n < count ∧ rest.Meets mark count ∨ n = count ∧ rest.IsFree mark count)
  | .act (.inner _) rest => rest.Meets mark count
  | .act _ _ => False
  | .either left right => left.Meets mark count ∧ right.Meets mark count

/-- A task counts a mark first. -/
def Body.comes (mark : String) : Body → Bool
  | .act (.signal other) _ => other == mark
  | _ => false

/-- There is something in a task to wait for. -/
def Body.waits : Body → Bool
  | .done _ => false
  | .act (.await _ n) rest => 0 < n || rest.waits
  | .act _ rest => rest.waits
  | .either left right => left.waits || right.waits

/-- A task succeeds and waits for nothing, or counts a mark first and then waits until it was counted so
often. -/
def Body.Joins (mark : String) (count : Nat) (b : Body) : Prop :=
  b.IsPlain mark ∨ ∃ rest, b = .act (.signal mark) rest ∧ rest.Meets mark count

/-- So many tasks of a list count a mark first and then wait until all of them have, and end in any way; the
others succeed and wait for nothing. -/
def Plan.Gathers (p : Plan) (mark : String) (count : Nat) : Prop :=
  (∀ b ∈ p.bodies, b.Joins mark count) ∧ p.bodies.countP (Body.comes mark) = count

variable {mark : String} {count : Nat} {b rest : Body}

namespace Body

lemma IsPlain.meets (h : b.IsPlain mark) : b.Meets mark count := by
  induction b with
  | done e => exact h
  | either left right left_ih right_ih => exact ⟨left_ih h.1, right_ih h.2⟩
  | act a rest ih =>
    cases a with
    | signal other => exact ⟨h.1, ih h.2⟩
    | inner number => exact ih h
    | _ => exact h.elim

lemma Meets.isFree (h : b.Meets mark count) : b.IsFree mark count := by
  induction b with
  | done e => trivial
  | either left right left_ih right_ih => exact ⟨left_ih h.1, right_ih h.2⟩
  | act a rest ih =>
    cases a with
    | signal other => exact ih h.2
    | await other n =>
      obtain ⟨same, ⟨lt, meets⟩ | ⟨eq, free⟩⟩ := h
      · exact ⟨same, Nat.le_of_lt lt, ih meets⟩
      · exact ⟨same, Nat.le_of_eq eq, free⟩
    | inner number => exact ih h
    | _ => exact h.elim

lemma Joins.isFree (h : b.Joins mark count) : b.IsFree mark count := by
  rcases h with plain | ⟨rest, rfl, meets⟩
  · exact plain.meets.isFree
  · exact meets.isFree

lemma Meets.comes_eq (h : b.Meets mark count) : b.comes mark = false := by
  cases b with
  | act a rest =>
    cases a with
    | signal other => simpa [comes] using h.1
    | _ => rfl
  | _ => rfl

lemma IsPlain.waits_eq (h : b.IsPlain mark) : b.waits = false := by
  induction b with
  | done e => rfl
  | either left right left_ih right_ih => rw [waits, left_ih h.1, right_ih h.2]; rfl
  | act a rest ih =>
    cases a with
    | signal other => exact ih h.2
    | inner number => exact ih h
    | _ => exact h.elim

lemma GoesOn.isFree (h : b.GoesOn rest) (free : b.IsFree mark count) : rest.IsFree mark count := by
  cases h with
  | left => exact free.1
  | right => exact free.2
  | @act a rest calm =>
    cases a with
    | await other n => exact free.2.2
    | awaitSubmitted | awaitFailures | awaitFired => exact free.elim
    | _ => exact free

/-- A task that goes on is still before the meeting, unless it has waited for that. -/
lemma GoesOn.meets (h : b.GoesOn rest) (meets : b.Meets mark count)
    (early : ∀ n rest, b = .act (.await mark n) rest → n < count) : rest.Meets mark count := by
  cases h with
  | left => exact meets.1
  | right => exact meets.2
  | @act a rest calm =>
    cases a with
    | signal other => exact meets.2
    | await other n =>
      obtain ⟨rfl, ⟨-, meets⟩ | ⟨rfl, -⟩⟩ := meets
      · exact meets
      · exact absurd (early n rest rfl) (Nat.lt_irrefl n)
    | inner number => exact meets
    | _ => exact meets.elim

lemma GoesOn.waits_le (h : b.GoesOn rest) (waits : rest.waits = true) : b.waits = true := by
  cases h with
  | left => simp [Body.waits, waits]
  | right => simp [Body.waits, waits]
  | @act a rest calm => cases a <;> simp [Body.waits, waits]

/-- A task that has begun waits for nothing before it has counted the mark. -/
lemma Joins.waits_and (h : b.Joins mark count) : (b.waits && !b.comes mark) = false := by
  rcases h with plain | ⟨rest, rfl, meets⟩
  · rw [plain.waits_eq, Bool.false_and]
  · simp [comes]

end Body

/-- What a worker has in hand, or is left of a task, waits for nothing but a mark, counted so often at
most. -/
def Worker.IsFree (mark : String) (count : Nat) : Worker → Prop
  | .holding j | .cleared j | .calling j => j.body.IsFree mark count
  | .working _ b | .firing _ b _ => b.IsFree mark count
  | _ => True

/-- What a worker has in hand, or is left of a task, is before the meeting, and the worker has not failed. -/
def Worker.Joins (mark : String) (count : Nat) : Worker → Prop
  | .holding j | .cleared j | .calling j => j.body.Joins mark count
  | .working _ b => b.Meets mark count ∨ b.Joins mark count
  | .entering | .checking | .selecting | .succeeding => True
  | .leaving died | .releasing died | .gone died => died = false
  | _ => False

/-- A worker is going to count a mark first. -/
def Worker.comes (mark : String) : Worker → Bool
  | .holding j | .cleared j | .calling j => j.body.comes mark
  | .working _ b => b.comes mark
  | _ => false

/-- A worker may have to wait. -/
def Worker.waits (mark : String) : Worker → Bool
  | .working _ b => b.waits && !b.comes mark
  | _ => false

/-- A worker is not at the meeting, waiting for a mark to be counted so often. -/
def Worker.IsEarly (mark : String) (count : Nat) (w : Worker) : Prop :=
  ∀ index n rest, w = .working index (.act (.await mark n) rest) → n < count

namespace Crew

variable {p : Plan} {k : Nat} {w w' : Worker} {s t s' : Crew}

/-! ## Who has come, and who waits -/

/-- How many tasks are yet to count a mark. -/
def coming (s : Crew) (mark : String) : Nat :=
  total (fun w => (w.comes mark).toNat) s.workers
    + total (fun j => (j.body.comes mark).toNat) s.unreceived

/-- How many workers may have to wait. -/
def waiting (s : Crew) (mark : String) : Nat :=
  total (fun w => (w.waits mark).toNat) s.workers

/-- Nobody has failed and nobody has fired the signal; what workers have in hand is before the meeting; the
tasks that have counted a mark and those that are yet to come make up the number; and no more workers wait
than have counted the mark. -/
structure Gathered (p : Plan) (mark : String) (count : Nat) (s : Crew) : Prop where
  ledger : s.ledger = { limit := p.config.normalizedErrorLimit }
  joins : ∀ w ∈ s.workers, w.Joins mark count
  coming : s.marked mark + s.coming mark = count
  waiting : s.waiting mark ≤ s.marked mark

/-! ## Workers that count no mark -/

/-- A worker that is not about to count a mark is past counting it. -/
lemma meets_of_joins {index : Nat} (own : (Worker.working index b).Joins mark count)
    (silent : (Worker.working index b).IsSilent) : b.Meets mark count := by
  rcases own with meets | plain | ⟨rest, rfl, -⟩
  · exact meets
  · exact plain.meets
  · exact absurd rfl (silent index mark rest)

/-- What a worker takes to hand and goes on with before the meeting, and how it leaves the ledger. -/
lemma WorkerTurn.joins (h : WorkerTurn p k s w w' s') (unfired : s.ledger.signal.fired = false)
    (asleep : s.ledger.signal.awake = false) (tasks : ∀ j ∈ s.unreceived, j.body.Joins mark count)
    (silent : w.IsSilent) (early : w.IsEarly mark count) (own : w.Joins mark count) :
    w'.Joins mark count ∧ s'.ledger = s.ledger := by
  cases h
  case cancelled fired | refuse fired => simp [unfired] at fired
  case woken awake => simp [asleep] at awake
  case receive front => exact ⟨tasks _ (by simp [unreceived, front]), rfl⟩
  case handOver next _ => exact ⟨tasks _ (by simp [unreceived, next]), rfl⟩
  case clear | start | leave | release => exact ⟨own, rfl⟩
  case call => exact ⟨.inr own, rfl⟩
  case proceed index body rest goesOn _ _ _ =>
    have meets := meets_of_joins own silent
    exact ⟨.inl (goesOn.meets meets fun n rest here => early index n rest (by rw [here])), rfl⟩
  case finish index e _ _ =>
    have success : e = .success := meets_of_joins own (by simp [Worker.IsSilent])
    subst success
    exact ⟨trivial, rfl⟩
  case beginFiring => exact (meets_of_joins own (by simp [Worker.IsSilent])).elim
  case drop | fire | endFiring | panic | fail | record | endRecording => exact own.elim
  case enter | wait | closed | succeed => exact ⟨by trivial, rfl⟩

/-- Whoever takes a task that is yet to count a mark is going to count it. -/
lemma WorkerTurn.coming_eq (h : WorkerTurn p k s w w' s') (unfired : s.ledger.signal.fired = false)
    (silent : w.IsSilent) (early : w.IsEarly mark count) (own : w.Joins mark count) :
    (w'.comes mark).toNat + total (fun j => (j.body.comes mark).toNat) s'.unreceived =
      (w.comes mark).toNat + total (fun j => (j.body.comes mark).toNat) s.unreceived := by
  cases h
  case receive j queue front =>
    have next : s.unreceived = j :: (queue ++ s.unsent) := by rw [unreceived, front, List.cons_append]
    rw [next]
    exact (Nat.zero_add _).symm
  case handOver j unsent empty _ _ next _ =>
    have next : s.unreceived = j :: (s.queue ++ unsent) := by rw [unreceived, empty, next]; rfl
    rw [next]
    exact (Nat.zero_add _).symm
  case refuse fired => simp [unfired] at fired
  case proceed index body rest goesOn _ _ _ =>
    have meets := meets_of_joins own silent
    have left := goesOn.meets meets fun n rest here => early index n rest (by rw [here])
    simp only [Worker.comes, meets.comes_eq, left.comes_eq]
    rfl
  case finish e _ _ => cases e <;> rfl
  case endFiring => exact own.elim
  all_goals rfl

/-- No other worker begins to wait than one that has counted the mark. -/
lemma WorkerTurn.waits_of (h : WorkerTurn p k s w w' s') (silent : w.IsSilent) (own : w.Joins mark count)
    (waits : w'.waits mark = true) : w.waits mark = true := by
  cases h
  case call j =>
    rw [Worker.waits, own.waits_and] at waits
    cases waits
  case proceed index body rest goesOn _ _ _ =>
    have meets := meets_of_joins own silent
    simp only [Worker.waits, Bool.and_eq_true] at waits ⊢
    exact ⟨goesOn.waits_le waits.1, by rw [meets.comes_eq]; rfl⟩
  case finish e _ _ => cases e <;> cases waits
  case endFiring => exact own.elim
  all_goals cases waits

/-! ## Every turn keeps tasks gathered -/

namespace Gathered

lemma unfired (h : s.Gathered p mark count) : s.ledger.signal.fired = false := by
  rw [h.ledger]

lemma asleep (h : s.Gathered p mark count) : s.ledger.signal.awake = false := by
  rw [h.ledger]

/-- A worker that counts no mark keeps tasks gathered. -/
lemma worker (h : s.Gathered p mark count) (tasks : ∀ j ∈ s.unreceived, j.body.Joins mark count)
    (place : s.workers[k]? = some w) (turn : WorkerTurn p k s w w' s')
    (silent : w.IsSilent) (early : w.IsEarly mark count)
    (marks : (s'.setWorker k w').marks = s.marks) : (s'.setWorker k w').Gathered p mark count := by
  have own := h.joins w (List.mem_of_getElem? place)
  have workers := turn.setWorker_workers
  have marked := marked_congr mark marks
  obtain ⟨joins, ledger⟩ := turn.joins h.unfired h.asleep tasks silent early own
  constructor
  · exact ledger.trans h.ledger
  · intro x mem
    rw [workers] at mem
    rcases List.mem_or_eq_of_mem_set mem with mem | rfl
    · exact h.joins x mem
    · exact joins
  · have before := h.coming
    have set := total_set (fun w => (w.comes mark).toNat) w' place
    have same := turn.coming_eq h.unfired silent early own
    have unreceived : (s'.setWorker k w').unreceived = s'.unreceived := rfl
    rw [Crew.coming] at before ⊢
    rw [marked, workers, unreceived]
    omega
  · have before := h.waiting
    have set := total_set (fun w => (w.waits mark).toNat) w' place
    have le : (w'.waits mark).toNat ≤ (w.waits mark).toNat := by
      have waits := turn.waits_of silent own
      cases hw : w'.waits mark with
      | false => exact Nat.zero_le _
      | true => exact Nat.le_of_eq (by rw [waits hw])
    rw [Crew.waiting] at before ⊢
    rw [marked, workers]
    omega

/-- A worker that counts a mark has come, and may wait from then on. -/
lemma signal {index : Nat} {other : String} (h : s.Gathered p mark count)
    (place : s.workers[k]? = some (.working index (.act (.signal other) rest))) :
    ((s.mark other).setWorker k (.working index rest)).Gathered p mark count := by
  have own := h.joins _ (List.mem_of_getElem? place)
  have meets : rest.Meets mark count := by
    rcases own with meets | plain | ⟨rest, same, meets⟩
    · exact meets.2
    · exact plain.2.meets
    · cases same
      exact meets
  have marked : ((s.mark other).setWorker k (.working index rest)).marked mark =
      s.marked mark + (other == mark).toNat := s.marked_mark other mark
  constructor
  · exact h.ledger
  · intro x mem
    rcases List.mem_or_eq_of_mem_set mem with mem | rfl
    · exact h.joins x mem
    · exact .inl meets
  · have before := h.coming
    have set := total_set (fun w => (w.comes mark).toNat) (.working index rest) place
    have comes : (Worker.working index (.act (.signal other) rest)).comes mark = (other == mark) := rfl
    have came : (Worker.working index rest).comes mark = false := meets.comes_eq
    simp only [comes, came, Bool.toNat_false] at set
    rw [Crew.coming] at before
    rw [marked, Crew.coming]
    show _ + (total _ (s.workers.set k _) + total _ s.unreceived) = _
    omega
  · have before := h.waiting
    have set := total_set (fun w => (w.waits mark).toNat) (.working index rest) place
    have le : ((Worker.working index rest).waits mark).toNat ≤
        ((Worker.working index (.act (.signal other) rest)).waits mark).toNat
          + (other == mark).toNat := by
      show (rest.waits && !rest.comes mark).toNat ≤
        (rest.waits && !(other == mark)).toNat + (other == mark).toNat
      rw [meets.comes_eq]
      cases rest.waits <;> cases other == mark <;> decide
    rw [Crew.waiting] at before
    rw [marked, Crew.waiting]
    show total _ (s.workers.set k _) ≤ _
    omega

/-- What a thread other than a worker does keeps tasks gathered. -/
lemma of_eq (h : s.Gathered p mark count) (ledger : t.ledger = s.ledger)
    (mem : ∀ w ∈ t.workers, w ∈ s.workers ∨ w = .entering)
    (workers : ∀ f : Worker → Nat, f .entering = 0 → total f t.workers = total f s.workers)
    (unreceived : t.unreceived = s.unreceived) (marks : t.marks = s.marks) :
    t.Gathered p mark count := by
  have marked := marked_congr mark marks
  refine ⟨ledger.trans h.ledger, fun w present => ?_, ?_, ?_⟩
  · rcases mem w present with present | rfl
    · exact h.joins w present
    · trivial
  · rw [marked, Crew.coming, workers _ rfl, unreceived]
    exact h.coming
  · rw [marked, Crew.waiting, workers _ rfl]
    exact h.waiting

end Gathered

/-- What is given up stays given up. -/
lemma Turn.timeouts_le {m : Move} (h : Turn p s m t) : s.timeouts ≤ t.timeouts :=
  h.history_suffix.sublist.countP_le

/-- The tasks that nobody has received are some of the list. -/
lemma joins_of_unreceived (gathers : p.Gathers mark count) (h : s.Conserved p) :
    ∀ j ∈ s.unreceived, j.body.Joins mark count := by
  intro j mem
  obtain ⟨taken, jobs, -⟩ := h.handed
  have listed : j ∈ p.jobs := by
    rw [jobs, List.append_assoc]
    exact List.mem_append_right taken mem
  exact gathers.1 _ (List.mem_of_getElem? (Plan.getElem?_of_mem_jobs listed))

/-- As long as nothing keeps the starter from starting all threads, no wait is given up and one is missing of
those that wait for each other, the tasks of a list stay gathered. -/
theorem gathered_of_reaches {kind : Move → Prop} (gathers : p.Gathers mark count)
    (h : ReachesBy p kind (p.begin 0) s) (full : s.starter.IsFull) (patient : s.timeouts = 0)
    (missing : s.marked mark < count) : s.Gathered p mark count := by
  induction h with
  | refl =>
    refine ⟨rfl, by simp [Plan.begin, begin], ?_, Nat.le_refl 0⟩
    have bodies : p.jobs.map Job.body = p.bodies := by
      simp [Plan.jobs, Job.number, Function.comp_def]
    have coming : total (fun j : Job => (j.body.comes mark).toNat) p.jobs = count := by
      rw [← total_map (fun b : Body => (b.comes mark).toNat) Job.body, bodies, total_toNat]
      exact gathers.2
    show 0 + (0 + total _ p.jobs) = count
    omega
  | @tail u t m reached allowed stepped ih =>
    have turn := turn_of_step? stepped
    obtain ⟨before, -⟩ := turn.isFull full
    have waited : u.timeouts = 0 := Nat.le_zero.1 (patient ▸ turn.timeouts_le)
    have missed : u.marked mark < count := Nat.lt_of_le_of_lt (marked_le_of_step? stepped mark) missing
    have gathered := ih before waited missed
    have tasks := joins_of_unreceived gathers (conserved_of_reaches reached)
    cases turn with
    | @worker k c w w' s' place turn =>
      by_cases silent : w.IsSilent
      · refine gathered.worker tasks place turn silent ?_ (marks_of_step? stepped ?_)
        · -- whoever goes on from a wait has seen the mark counted so often
          rintro index n rest rfl
          have seen := isAwaited_of_step? place stepped (patient.trans waited.symm)
          exact Nat.lt_of_le_of_lt (by simpa [isAwaited] using seen) missed
        · rintro i x ⟨⟩ standing
          cases place.symm.trans standing
          exact silent
      · simp only [Worker.IsSilent, ne_eq, not_forall, not_not] at silent
        obtain ⟨index, other, rest, rfl⟩ := silent
        rw [eq_mark_of_step? place stepped]
        exact gathered.signal place
    | @producer c q q' s' place turn =>
      have workers : ∀ w ∈ (s'.setProducer q').workers, w ∈ u.workers ∨ w = .entering :=
        fun w mem => .inl (turn.workers_eq ▸ mem)
      exact gathered.of_eq turn.ledger_eq workers (fun f _ => congrArg (total f) turn.workers_eq)
        turn.jobs_eq (marks_of_step? stepped (by simp))
    | @starter c q q' s' place turn =>
      rw [place] at before
      have ledger : (s'.setStarter q').ledger = u.ledger := by
        cases turn with
        | fire | endFiring => exact before.elim
        | _ => rfl
      exact gathered.of_eq ledger (fun w => turn.mem_workers) turn.total_workers
        (congrArg₂ (· ++ ·) turn.queue_eq turn.unsent_eq) (marks_of_step? stepped (by simp))
    | outsider place turn => simp [outsiders_of_reaches reached] at place

/-! ## What tasks wait for -/

lemma WorkerTurn.isFree (h : WorkerTurn p k s w w' s')
    (tasks : ∀ j ∈ s.unreceived, j.body.IsFree mark count) (free : w.IsFree mark count) :
    w'.IsFree mark count := by
  cases h
  case receive front => exact tasks _ (by simp [unreceived, front])
  case handOver next _ => exact tasks _ (by simp [unreceived, next])
  case clear | start | call | beginFiring | fire | endFiring => exact free
  case proceed goesOn _ _ _ => exact goesOn.isFree free
  case finish e _ _ => cases e <;> trivial
  all_goals trivial

/-- Nobody ever waits for anything but the mark, counted as often as tasks wait for each other. -/
theorem free_of_reaches {kind : Move → Prop} {outsiders : Nat} (gathers : p.Gathers mark count)
    (h : ReachesBy p kind (p.begin outsiders) s) : ∀ w ∈ s.workers, w.IsFree mark count := by
  refine h.invariant (I := fun s => ∀ w ∈ s.workers, w.IsFree mark count) nofun ?_
  intro m u v reached _ turn free
  have tasks := joins_of_unreceived gathers (conserved_of_reaches reached)
  exact turn.forall_workers free trivial fun _ turn own =>
    turn.isFree (fun j mem => (tasks j mem).isFree) own

/-! ## Nobody waits in vain -/

/-- A worker gives up a wait, or another action of a task. -/
def GivesUp (s : Crew) (m : Move) : Prop :=
  m.choice = .other ∧ ∃ k index a rest, m.actor = .worker k ∧
    s.workers[k]? = some (.working index (.act a rest))

/-- A move is due and possible that gives up no wait. -/
def CanAdvance (p : Plan) (s : Crew) : Prop :=
  ∃ m, s.Due m ∧ ¬ s.GivesUp m ∧ (s.step? p m).isSome

lemma CanAdvance.worker (h : (s.workerStep? p k .usual).isSome) : s.CanAdvance p :=
  ⟨⟨.worker k, .usual⟩, ⟨by simp [Move.IsGranted], by simp⟩, by simp [GivesUp], h⟩

/-- The producer and a worker that carries out no task go on without giving up a wait. -/
lemma CanBring.canAdvance {index : Nat} {left : List Job}
    (h : s.CanBring p k (.working index b) left) (place : s.workers[k]? = some w)
    (idle : w.isBusy = false) : s.CanAdvance p := by
  obtain ⟨t, reached, workers, -⟩ := h
  have moved : t ≠ s := by
    rintro rfl
    have lt := (List.getElem?_eq_some_iff.1 place).1
    rw [workers, List.getElem?_set_self lt] at place
    cases place
    cases idle
  obtain ⟨m, serves, possible⟩ := reached.exists_first moved
  refine ⟨m, ⟨?_, ?_⟩, ?_, possible⟩
  · intro actor
    rcases serves with actor' | actor' <;> cases actor.symm.trans actor'
  · intro i actor
    rcases serves with actor' | actor' <;> cases actor.symm.trans actor'
  · rintro ⟨-, i, index, a, rest, actor, busy⟩
    rcases serves with actor' | actor'
    · cases actor.symm.trans actor'
    · cases actor.symm.trans actor'
      cases place.symm.trans busy
      cases idle

namespace Gathered

variable {kind : Move → Prop}

/-- A worker that carries out a task goes on with it, unless it has to wait. -/
lemma canAdvance_of_working {index : Nat} (free : b.IsFree mark count)
    (place : s.workers[k]? = some (.working index b))
    (ready : ∀ n rest, b = .act (.await mark n) rest → n ≤ s.marked mark) : s.CanAdvance p := by
  apply CanAdvance.worker (k := k)
  cases b with
  | done e => simp [workerStep?, place]
  | either left right => simp [workerStep?, place]
  | act a rest =>
    cases a with
    | signal | fire | inner => simp [workerStep?, place, actStep?]
    | await other n =>
      obtain ⟨rfl, -⟩ := free
      simp [workerStep?, place, actStep?, isAwaited, ready n rest rfl]
    | awaitSubmitted | awaitFailures | awaitFired => exact free.elim

/-- A worker that has left alive has found the queue closed and empty, so no task is left. -/
lemma unreceived_eq_nil (h : s.Gathered p mark count) (hired : 0 < p.workers)
    (reached : ReachesBy p kind (p.begin 0) s) (born : s.producer ≠ .unborn)
    (gone : .gone false ∈ s.workers) : s.unreceived = [] := by
  obtain ⟨unfed, empty⟩ := (diligent_of_reaches hired reached h.unfired).left _ gone rfl
  have closed := ((staffed_of_reaches reached).manned born).2.2
  have stopped : s.producer.hasStopped = true := by
    rw [unfed] at closed
    cases hq : s.producer with
    | leaving | gone => rfl
    | _ => rw [hq] at closed; cases closed
  rw [unreceived, empty, List.nil_append]
  rcases spent_of_reaches hired reached h.unfired stopped with none | dead
  · exact none
  · cases dead _ gone

/-- A worker that has not to wait goes on, as long as it has a task that is yet to come or any task is
left for it. -/
lemma canAdvance_of_patient (h : s.Gathered p mark count) (hired : 0 < p.workers)
    (reached : ReachesBy p kind (p.begin 0) s) (born : s.producer ≠ .unborn)
    (place : s.workers[k]? = some w) (patient : w.waits mark = false)
    (task : w.comes mark = true ∨ s.unreceived ≠ []) : s.CanAdvance p := by
  have mem := List.mem_of_getElem? place
  have own := h.joins w mem
  cases w with
  | entering | checking | selecting =>
    have left : s.unreceived ≠ [] := task.resolve_left (by simp [Worker.comes])
    obtain ⟨j, left, next⟩ := List.exists_cons_of_ne_nil left
    exact (canBring_of_ready hired reached born h.unfired place rfl next).canAdvance place rfl
  | holding j => exact (canBring_of_holding (p := p) place h.unfired).canAdvance place rfl
  | cleared j => exact (canBring_of_cleared (p := p) place).canAdvance place rfl
  | calling j => exact (canBring_of_calling (p := p) place).canAdvance place rfl
  | succeeding | leaving | releasing => exact .worker (k := k) (by simp [workerStep?, place])
  | working index b =>
    have free : b.IsFree mark count := own.elim Body.Meets.isFree Body.Joins.isFree
    apply canAdvance_of_working free place
    rintro n rest rfl
    have zero : n = 0 := by
      by_contra pos
      simp [Worker.waits, Body.waits, Body.comes, Nat.pos_of_ne_zero pos] at patient
    exact zero ▸ Nat.zero_le _
  | gone died =>
    have alive : died = false := own
    subst alive
    have left : s.unreceived ≠ [] := task.resolve_left (by simp [Worker.comes])
    exact absurd (h.unreceived_eq_nil hired reached born mem) left
  | _ => exact own.elim

/-- As long as one is missing of those that wait for each other, somebody goes on. -/
lemma canAdvance_of_missing (h : s.Gathered p mark count) (enough : count ≤ p.workers)
    (reached : ReachesBy p kind (p.begin 0) s) (born : s.producer ≠ .unborn)
    (missing : s.marked mark < count) : s.CanAdvance p := by
  have hired : 0 < p.workers := by omega
  have coming := h.coming
  rw [Crew.coming] at coming
  by_cases hand : 0 < total (fun w => (w.comes mark).toNat) s.workers
  · obtain ⟨w, mem, comes⟩ := exists_of_total_pos hand
    obtain ⟨k, place⟩ := List.mem_iff_getElem?.1 mem
    have comes : w.comes mark = true := by
      by_contra no
      rw [Bool.not_eq_true] at no
      simp [no] at comes
    refine h.canAdvance_of_patient hired reached born place ?_ (.inl comes)
    cases w with
    | working index b =>
      have comes : b.comes mark = true := comes
      rw [Worker.waits, comes, Bool.not_true, Bool.and_false]
    | _ => rfl
  · -- fewer workers wait than there are, so one of them is left for the task that is missing
    have left : s.unreceived ≠ [] := by
      intro none
      rw [none] at coming
      have nothing : total (fun j : Job => (j.body.comes mark).toNat) [] = 0 := rfl
      omega
    obtain ⟨w, mem, patient⟩ : ∃ w ∈ s.workers, w.waits mark = false := by
      by_contra all
      push Not at all
      have waiting := h.waiting
      have every : s.waiting mark = s.workers.length := by
        rw [← total_one, Crew.waiting]
        exact total_congr fun w mem => by simp [all w mem]
      have length := ((staffed_of_reaches reached).manned born).1
      omega
    obtain ⟨k, place⟩ := List.mem_iff_getElem?.1 mem
    exact h.canAdvance_of_patient hired reached born place patient (.inr left)

end Gathered

/-- A worker carries out a task only if the producer is started. -/
lemma born_of_working {kind : Move → Prop} {outsiders index : Nat}
    (h : ReachesBy p kind (p.begin outsiders) s) (mem : .working index b ∈ s.workers) :
    s.producer ≠ .unborn := by
  intro unborn
  have underway : index ∈ s.underway := List.mem_filterMap.2 ⟨_, mem, rfl⟩
  rw [(idle_of_unborn h unborn).2.2] at underway
  cases underway

/-- **Tasks that wait for each other meet.** If there are as many workers as tasks that wait for each
other and no wait was given up so far, a run that is not over goes on, though none is given up. -/
theorem canAdvance_of_gathers {kind : Move → Prop} (gathers : p.Gathers mark count)
    (enough : count ≤ p.workers) (h : ReachesBy p kind (p.begin 0) s) (patient : s.timeouts = 0)
    (underway : ¬ s.IsOver) : s.CanAdvance p := by
  obtain ⟨m, due, possible⟩ := canGoOn (staffed_of_reaches h) (locked_of_reaches h)
    (offered_of_reaches h) underway
  by_cases gives : s.GivesUp m
  swap
  · exact ⟨m, due, gives, possible⟩
  obtain ⟨choice, k, index, a, rest, actor, place⟩ := gives
  have mem := List.mem_of_getElem? place
  have born := born_of_working h mem
  by_cases missing : s.marked mark < count
  · have full := (staffed_of_reaches h).isFull born
    exact (gathered_of_reaches gathers h full patient missing).canAdvance_of_missing enough h born missing
  · -- all have come, so nobody has to wait any more
    have free : (Body.act a rest).IsFree mark count := free_of_reaches gathers h _ mem
    apply Gathered.canAdvance_of_working free place
    rintro n rest ⟨⟩
    exact Nat.le_trans free.2.1 (Nat.le_of_not_lt missing)

/-! ## All together -/

/-- If a task is not received, the next one that nobody has received is the one after those that were. -/
lemma exists_next (h : s.Conserved p) (missing : ∃ i < p.total, i ∉ s.received) :
    ∃ j left, s.unreceived = j :: left ∧ j.index = s.received.length ∧
      p.bodies[s.received.length]? = some j.body := by
  obtain ⟨i, lt, absent⟩ := missing
  obtain ⟨range, length⟩ := h.received_eq_range
  obtain ⟨taken, jobs, received⟩ := h.handed
  rw [range, List.mem_range, Nat.not_lt] at absent
  obtain ⟨j, left, next⟩ : ∃ j left, s.unreceived = j :: left := by
    apply List.exists_cons_of_length_pos
    rw [unreceived, List.length_append]
    omega
  rw [List.append_assoc, show s.queue ++ s.unsent = j :: left from next] at jobs
  have count : s.received.length = taken.length := by rw [received, List.length_map]
  have listed : p.jobs[taken.length]? = some j := by rw [jobs]; simp
  have index : j.index = taken.length := by
    have numbered : (p.jobs.map Job.index)[taken.length]? = some j.index := by
      rw [List.getElem?_map, listed, Option.map_some]
    rw [p.map_index_jobs] at numbered
    obtain ⟨inside, value⟩ := List.getElem?_eq_some_iff.1 numbered
    rw [List.getElem_range] at value
    exact value.symm
  refine ⟨j, left, next, index.trans count.symm, ?_⟩
  rw [count, ← index]
  exact Plan.getElem?_of_mem_jobs (List.mem_of_getElem? listed)

/-- **Workers that wait for a task get one.** Let there be a worker at all. As long as all threads are
started and the signal is not fired, whatever moves a run is made of: if a task is not received, every
worker that is ready for a task comes to carry out the next one by moves of the producer and its own, while
every other worker stands still; and if all workers that have not left are ready, have a task in hand or
carry one out, then as many tasks come to be carried out at once as there are such workers, or as there are
tasks that they carry out, have in hand or have not received, while those that are at work stand still. And
if some tasks wait until all of them have begun, and then end in any way, while the other tasks succeed and
wait for nothing, and if there are as many workers as tasks that wait, then as long as no wait was given up,
a run that is not over goes on without giving one up. -/
theorem run_feeds_workers {kind : Move → Prop} {outsiders : Nat} (hired : 0 < p.workers) :
    (∀ s : Crew, ReachesBy p kind (p.begin outsiders) s → s.producer ≠ .unborn →
      s.ledger.signal.fired = false →
      (∀ k w, s.workers[k]? = some w → w.isReady = true → (∃ i < p.total, i ∉ s.received) →
        ∃ t body, ReachesBy p (Move.Serves k) s t ∧ p.bodies[s.received.length]? = some body ∧
          t.workers = s.workers.set k (.working s.received.length body)) ∧
      (s.IsSettled → ∃ t, ReachesBy p s.Spares s t ∧ t.busy = min s.live s.outstanding)) ∧
    ∀ mark count, p.Gathers mark count → count ≤ p.workers →
      ∀ s : Crew, ReachesBy p kind (p.begin 0) s → s.timeouts = 0 → ¬ s.IsOver → s.CanAdvance p := by
  refine ⟨fun s h born unfired => ⟨?_, ?_⟩, ?_⟩
  · intro k w place ready missing
    obtain ⟨j, left, next, index, body⟩ := exists_next (conserved_of_reaches h) missing
    obtain ⟨t, reached, workers, -⟩ := canBring_of_ready hired h born unfired place ready next
    exact ⟨t, j.body, reached, body, index ▸ workers⟩
  · exact exists_full hired (h.mono fun _ _ => trivial) born unfired
  · intro mark count gathers enough s h
    exact canAdvance_of_gathers gathers enough h

/-- A task that counts a mark, waits until it was counted twice, and ends. -/
def pairUp (e : Ending) : Body :=
  .ofActions [.signal "here", .await "here" 2] e

/-- Two workers, with tasks that pass from hand to hand, two of which wait for each other and then fail. -/
def pairing : Plan :=
  ⟨{ workerCount := 2, queueCapacity := some 0 },
    [.done .success, pairUp (.failure (.ofText "none")), pairUp (.panic "none")]⟩

/-- All threads are started, the first worker waits for a task, and the others have not begun. -/
def firstWaits : Crew :=
  (pairing.begin 0).follow pairing ([.starter, .starter, .starter, .worker 0, .worker 0].map (⟨·, .usual⟩))

theorem run_feeds_workers_pairing :
    (∃ t, ReachesBy pairing (Move.Serves 0) firstWaits t ∧
      t.workers = [.working 0 (.done .success), .entering]) ∧
    (∃ t, ReachesBy pairing firstWaits.Spares firstWaits t ∧ t.busy = 2) ∧
    firstWaits.CanAdvance pairing := by
  have reached : Reaches pairing (pairing.begin 0) firstWaits := reaches_follow pairing _ _
  obtain ⟨supply, meeting⟩ := @run_feeds_workers pairing (fun _ => True) 0 (by decide)
  obtain ⟨feeds, fills⟩ := supply firstWaits reached (by decide +kernel) (by decide +kernel)
  have standing : firstWaits.workers = [.selecting, .entering] := by decide +kernel
  have none : firstWaits.received = [] := by decide +kernel
  refine ⟨?_, ?_, ?_⟩
  · obtain ⟨t, body, onward, task, workers⟩ :=
      feeds 0 .selecting (by rw [standing]; rfl) rfl ⟨0, by decide, by rw [none]; exact List.not_mem_nil⟩
    rw [none] at task workers
    cases task
    exact ⟨t, onward, by rw [workers, standing]; rfl⟩
  · obtain ⟨t, onward, busy⟩ := fills (by simp [IsSettled, standing, Worker.isReady])
    exact ⟨t, onward, by rw [busy]; decide +kernel⟩
  · have pairs (e : Ending) : (pairUp e).Joins "here" 2 := .inr ⟨_, rfl, rfl, .inr ⟨rfl, trivial⟩⟩
    have joins : ∀ b ∈ pairing.bodies, b.Joins "here" 2 :=
      List.forall_mem_cons.2 ⟨.inl rfl,
        List.forall_mem_cons.2 ⟨pairs _, List.forall_mem_singleton.2 (pairs _)⟩⟩
    exact meeting "here" 2 ⟨joins, by decide⟩ (by decide) firstWaits reached (by decide +kernel)
      (by decide +kernel)

end Crew

end TaskCrew
