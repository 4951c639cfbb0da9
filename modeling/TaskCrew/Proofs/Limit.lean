import TaskCrew.Proofs.Endings

/-!
# When the signal is fired

If nobody fires the signal but workers that record failures, it is fired by the failure that reaches
the limit, and by no other.

* `Worker.Knows`, `knows_of_reaches` — a worker knows the count from its own increment on, whatever
  else goes on;
* `Worker.fires` — a worker is about to fire the signal if the count has reached the limit;
* `Plan.Quiet`, `Crew.LeftAlone` — nobody fires the signal but workers that record failures;
* `Crew.Prompt` — the signal is fired only if the limit is reached; and if it is reached, the signal
  is fired or a worker is about to fire it;
* `prompt_of_reaches` — every state is prompt that a run reaches which is left alone.

A worker knows the count because it has the lock of the ledger: nobody else counts in the meantime.
-/

namespace TaskCrew

/-- A worker that has recorded a failure knows the count, and fires the signal only if the count has
reached the limit. -/
def Worker.Knows (l : Ledger) : Worker → Prop
  | .recording (.compare count) => count = l.failures
  | .recording (.firing _ _) => l.limit ≤ l.failures
  | _ => True

/-- A worker that has recorded a failure has yet to look whether to fire the signal, or to fire it. -/
def Worker.fires : Worker → Nat
  | .recording (.compare _) => 1
  | .recording (.firing _ .acquire) | .recording (.firing _ .take) |
    .recording (.firing _ .store) => 1
  | _ => 0

/-- No task fires the signal. -/
def Plan.Quiet (p : Plan) : Prop :=
  ∀ b ∈ p.bodies, b.Quiet

lemma Plan.Steady.quiet {p : Plan} (h : p.Steady) : p.Quiet :=
  fun b mem => (h b mem).2

/-- What a worker has in hand never fires the signal. -/
def Worker.IsQuiet : Worker → Prop
  | .holding j | .dropping j | .cleared j | .calling j => j.body.Quiet
  | .working _ rest => rest.Quiet
  | .firing _ _ _ => False
  | _ => True

namespace Crew

variable {p : Plan} {k : Nat} {w w' : Worker} {s t s' : Crew}

/-! ## Whoever counts knows the count -/

lemma knows_congr {l l' : Ledger} {w : Worker} (failures : l'.failures = l.failures)
    (limit : l'.limit = l.limit) (h : w.Knows l) : w.Knows l' := by
  unfold Worker.Knows at h ⊢
  rw [failures, limit]
  exact h

/-- Only a worker that has the lock knows anything of the count. -/
lemma knows_of_holdsLedger_eq_zero {w : Worker} (l : Ledger) (h : w.holdsLedger = 0) :
    w.Knows l := by
  cases w with
  | recording r => cases r <;> trivial
  | _ => trivial

/-- What holds of every worker goes on to do so if the worker that passes on has the lock of the ledger
while it changes the count, and nothing need hold of whoever does not have it. -/
lemma Locked.forall_set {P : Ledger → Worker → Prop} {l : Ledger} (locked : s.Locked)
    (all : ∀ w ∈ s.workers, P s.ledger w) (place : s.workers[k]? = some w)
    (failures : w.holdsLedger = 1 ∨ l.failures = s.ledger.failures)
    (free : ∀ x : Worker, x.holdsLedger = 0 → P l x)
    (still : l.failures = s.ledger.failures → ∀ x, P s.ledger x → P l x) (new : P l w') :
    ∀ x ∈ s.workers.set k w', P l x := by
  intro x mem
  obtain ⟨i, hx⟩ := List.mem_iff_getElem?.1 mem
  by_cases hi : i = k
  · subst hi
    rw [List.getElem?_set_self (List.getElem?_eq_some_iff.1 place).1] at hx
    rw [← Option.some.inj hx]
    exact new
  · rw [List.getElem?_set_ne (Ne.symm hi)] at hx
    rcases failures with holds | failures
    · refine free x (eq_zero_of_total_le place hx hi ?_)
      rw [locked.ledger, holds]
      exact Bool.toNat_le _
    · exact still failures x (all x (List.mem_of_getElem? hx))

/-- A worker learns the count by its own increment, and keeps it until it gives the lock back. -/
lemma WorkerTurn.knows (h : WorkerTurn p k s w w' s') (knows : w.Knows s.ledger) :
    w'.Knows s'.ledger := by
  cases h
  case record step _ _ =>
    cases Recording.turn_of_step? step with
    | acquire | pass | endFiring => trivial
    | increment => rfl
    | reach reached => rwa [show _ = s.ledger.failures from knows] at reached
    | fire => exact knows
  case finish e _ _ => cases e <;> trivial
  all_goals trivial

/-- A worker that changes the count is about to count a failure. -/
lemma WorkerTurn.failures_or (h : WorkerTurn p k s w w' s') :
    w = .recording .increment ∧ s'.ledger.failures = s.ledger.failures + 1 ∨
      s'.ledger.failures = s.ledger.failures := by
  have failures := h.failures_eq
  by_cases counts : w = .recording .increment
  · subst counts
    exact .inl ⟨rfl, failures⟩
  · have none : w.increments = 0 := by
      unfold Worker.increments
      split
      · exact absurd rfl counts
      · rfl
    rw [none] at failures
    exact .inr (failures.trans (UInt64.add_zero _))

/-- Only a worker that has the lock changes the count. -/
lemma WorkerTurn.failures_eq_or (h : WorkerTurn p k s w w' s') :
    w.holdsLedger = 1 ∨ s'.ledger.failures = s.ledger.failures :=
  h.failures_or.imp (fun ⟨counts, _⟩ => by rw [counts]; rfl) id

/-- In every state that a run reaches, whoever has counted a failure knows the count. -/
theorem knows_of_reaches {kind : Move → Prop} {outsiders : Nat}
    (h : ReachesBy p kind (p.begin outsiders) s) : ∀ w ∈ s.workers, w.Knows s.ledger := by
  refine h.invariant (I := fun s => ∀ w ∈ s.workers, w.Knows s.ledger) nofun ?_
  intro m u v reached _ turn knows
  have limit := turn.limit_eq
  cases turn with
  | worker place turn =>
    rw [turn.setWorker_workers]
    exact (locked_of_reaches reached).forall_set (P := fun l w => w.Knows l) knows place
      turn.failures_eq_or (fun _ => knows_of_holdsLedger_eq_zero _)
      (fun failures _ => knows_congr failures limit)
      (turn.knows (knows _ (List.mem_of_getElem? place)))
  | producer place turn =>
    intro w mem
    rw [setProducer, turn.workers_eq] at mem
    rw [setProducer, turn.ledger_eq]
    exact knows w mem
  | starter place turn =>
    intro w mem
    rcases turn.mem_workers mem with mem | rfl
    · exact knows_congr (by cases turn <;> rfl) limit (knows w mem)
    · trivial
  | outsider place turn =>
    intro w mem
    cases turn <;> exact knows_congr rfl limit (knows w mem)

/-! ## Runs that are left alone -/

lemma WorkerTurn.isQuiet (h : WorkerTurn p k s w w' s') (quiet : p.Quiet)
    (conserved : s.Conserved p) (own : w.IsQuiet) : w'.IsQuiet := by
  have listed {j : Job} (mem : j ∈ p.jobs) : j.body.Quiet :=
    quiet _ (List.mem_of_getElem? (Plan.getElem?_of_mem_jobs mem))
  obtain ⟨taken, jobs, -⟩ := conserved.handed
  cases h
  case receive front => exact listed (by simp [jobs, front])
  case handOver next _ => exact listed (by simp [jobs, next])
  case refuse | clear | start | call => exact own
  case proceed goesOn _ _ _ => exact goesOn.quiet own
  case finish e _ _ => cases e <;> trivial
  case beginFiring => exact absurd rfl own.1
  case fire | endFiring => exact own.elim
  all_goals trivial

/-- If no task fires the signal, no worker has one in hand that does. -/
theorem quiet_of_reaches {kind : Move → Prop} {outsiders : Nat} (quiet : p.Quiet)
    (h : ReachesBy p kind (p.begin outsiders) s) : ∀ w ∈ s.workers, w.IsQuiet := by
  refine h.invariant (I := fun s => ∀ w ∈ s.workers, w.IsQuiet) nofun ?_
  intro m u v reached _ turn own
  exact turn.forall_workers own trivial fun _ turn =>
    turn.isQuiet quiet (conserved_of_reaches reached)

/-- Nobody fires the signal but workers that record failures. -/
structure LeftAlone (s : Crew) : Prop where
  starter : s.starter.IsFull
  outsiders : s.outsiders = []
  workers : ∀ w ∈ s.workers, w.IsQuiet

lemma outsiders_of_reaches {kind : Move → Prop} (h : ReachesBy p kind (p.begin 0) s) :
    s.outsiders = [] := by
  refine h.invariant (I := fun s => s.outsiders = []) rfl ?_
  intro m u v _ _ turn none
  cases turn with
  | worker place turn => exact turn.outsiders_eq.trans none
  | producer place turn => exact turn.outsiders_eq.trans none
  | starter place turn => exact turn.outsiders_eq.trans none
  | outsider place turn => simp [none] at place

/-- A run of quiet tasks is left alone if no thread is refused. -/
theorem leftAlone_of_reaches (sound : p.Sound) (quiet : p.Quiet)
    (h : ReachesBy p Move.IsGranted (p.begin 0) s) : s.LeftAlone :=
  ⟨full_of_reaches sound h, outsiders_of_reaches h, quiet_of_reaches quiet h⟩

/-- The signal is fired only if the limit is reached; and if it is, the signal is fired or a worker is
about to fire it. -/
structure Prompt (s : Crew) : Prop where
  armed : s.ledger.signal.armed = false → s.ledger.limit ≤ s.ledger.failures
  fired : s.ledger.limit ≤ s.ledger.failures →
    s.ledger.signal.fired = true ∨ 0 < total Worker.fires s.workers

/-- The signal is fired only if the limit is reached. -/
lemma Prompt.le_of_fired (h : s.Prompt) (locked : s.Locked) (fired : s.ledger.signal.fired = true) :
    s.ledger.limit ≤ s.ledger.failures :=
  h.armed (locked.signal.armed_of_fired fired)

/-- A worker that counts a failure finds the count below the number of tasks. -/
lemma failures_lt_total {kind : Move → Prop} {outsiders : Nat} (small : p.total < UInt64.size)
    (h : ReachesBy p kind (p.begin outsiders) s) (mem : .recording .increment ∈ s.workers) :
    s.ledger.failures.toNat < p.total := by
  obtain ⟨n, f, tallied⟩ := tallied_of_reaches small h
  have unrecorded := le_total_of_mem Worker.unrecorded mem
  have few := (conserved_of_reaches h).length_ended_le
  have ended := tallied.ended
  have failed := tallied.failed
  simp only [Worker.unrecorded] at unrecorded
  rw [tallied.failures, UInt64.toNat_ofNat_of_lt' (by omega)]
  omega

/-! ## Every turn keeps a run prompt -/

/-- The turn of a worker is one of a call that records a failure, or leaves the count and the signal
alone. -/
lemma WorkerTurn.recording_or (h : WorkerTurn p k s w w' s') (quiet : w.IsQuiet) :
    (∃ r r', w = .recording r ∧ w' = .recording r' ∧ r.Turn s.ledger s'.ledger r') ∨
      (∃ locked, s'.ledger = { s.ledger with locked := locked }) ∧ w.fires = 0 ∧ w'.fires = 0 := by
  cases h
  case record step _ _ => exact .inl ⟨_, _, rfl, rfl, Recording.turn_of_step? step⟩
  case endRecording step =>
    obtain ⟨⟨count, won, rfl⟩, rfl⟩ := Recording.eq_release_of_step? step
    exact .inr ⟨⟨false, rfl⟩, rfl, rfl⟩
  case fire | endFiring => exact quiet.elim
  case beginFiring => exact absurd rfl quiet.1
  case finish e _ _ => exact .inr ⟨⟨s.ledger.locked, rfl⟩, rfl, by cases e <;> rfl⟩
  all_goals exact .inr ⟨⟨s.ledger.locked, rfl⟩, rfl, rfl⟩

/-- Counting one more does not wrap around below a bound that is a word. -/
lemma toNat_add_one_of_lt {n : UInt64} {bound : Nat} (small : bound < UInt64.size)
    (lt : n.toNat < bound) : (n + 1).toNat = n.toNat + 1 := by
  have one : (1 : UInt64).toNat = 1 := rfl
  rw [UInt64.toNat_add, one, Nat.mod_eq_of_lt (by simp only [UInt64.size] at small; omega)]

/-- Counting one more failure goes on from a limit that was reached. -/
lemma le_add_one {limit failures : UInt64} {n : Nat} (small : n < UInt64.size)
    (lt : failures.toNat < n) (h : limit ≤ failures) : limit ≤ failures + 1 := by
  rw [UInt64.le_iff_toNat_le] at h ⊢
  rw [toNat_add_one_of_lt small lt]
  omega

/-- A call that records a failure fires the signal if the count has reached the limit. -/
lemma Prompt.recording {r r' : Recording} {l : Ledger} (h : s.Prompt) (locked : s.Locked)
    (knows : (Worker.recording r).Knows s.ledger)
    (below : .recording .increment ∈ s.workers → s.ledger.failures.toNat < p.total)
    (small : p.total < UInt64.size) (place : s.workers[k]? = some (.recording r))
    (step : r.Turn s.ledger l r') (ledger : t.ledger = l)
    (workers : t.workers = s.workers.set k (.recording r')) : t.Prompt := by
  have mem := List.mem_of_getElem? place
  have fires := total_set Worker.fires (.recording r') place
  have still (le : (Worker.recording r).fires ≤ (Worker.recording r').fires)
      (pos : 0 < total Worker.fires s.workers) : 0 < total Worker.fires t.workers := by
    rw [workers]
    omega
  have pending (pos : 0 < (Worker.recording r').fires) : 0 < total Worker.fires t.workers := by
    have := le_total_of_mem Worker.fires mem
    rw [workers]
    omega
  cases step with
  | acquire free =>
    refine ⟨ledger ▸ h.armed, ?_⟩
    intro reached
    rw [ledger] at reached ⊢
    exact (h.fired reached).imp id (still (Nat.le_refl _))
  | increment =>
    refine ⟨?_, fun _ => .inr (pending Nat.one_pos)⟩
    intro unarmed
    rw [ledger] at unarmed ⊢
    exact le_add_one small (below mem) (h.armed unarmed)
  | reach reached => exact ⟨ledger ▸ h.armed, fun _ => .inr (pending Nat.one_pos)⟩
  | @pass count below =>
    refine ⟨ledger ▸ h.armed, ?_⟩
    intro reached
    rw [ledger, ← show count = s.ledger.failures from knows] at reached
    exact absurd reached below
  | @fire count f f' g step =>
    have reached : s.ledger.limit ≤ s.ledger.failures := knows
    refine ⟨fun _ => ledger ▸ reached, fun _ => ?_⟩
    rw [ledger]
    cases Firing.turn_of_step? step with
    | acquire | take => exact .inr (pending Nat.one_pos)
    -- who finds the token gone has the lock, so the call that took it has stored the flag
    | miss unarmed => exact .inl (locked.fired_of_take mem rfl unarmed)
    | store => exact .inl rfl
    | dispose => exact (h.fired reached).imp id (still (Nat.le_refl _))
  | @endFiring count f g won step =>
    have reached : s.ledger.limit ≤ s.ledger.failures := knows
    obtain ⟨rfl, rfl⟩ := Firing.eq_release_of_step? step
    refine ⟨fun _ => ledger ▸ reached, fun _ => ?_⟩
    rw [ledger]
    exact (h.fired reached).imp id (still (Nat.le_refl _))

lemma Prompt.worker (h : s.Prompt) (locked : s.Locked) (quiet : w.IsQuiet)
    (knows : w.Knows s.ledger)
    (below : .recording .increment ∈ s.workers → s.ledger.failures.toNat < p.total)
    (small : p.total < UInt64.size) (place : s.workers[k]? = some w)
    (turn : WorkerTurn p k s w w' s') : (s'.setWorker k w').Prompt := by
  have workers := turn.setWorker_workers
  have fires := total_set Worker.fires w' place
  rcases turn.recording_or quiet with ⟨r, r', rfl, rfl, step⟩ | ⟨⟨b, ledger⟩, hw, hw'⟩
  · exact h.recording locked knows below small place step rfl workers
  · have ledger : (s'.setWorker k w').ledger = { s.ledger with locked := b } := ledger
    constructor
    · rw [ledger]
      exact h.armed
    · rw [workers, ledger]
      intro reached
      exact (h.fired reached).imp id fun pos => by omega

/-- A starter that is refused no thread leaves the ledger alone. -/
lemma StarterTurn.ledger_eq {c : Choice} {q q' : Starter} (h : StarterTurn p s c q q' s')
    (full : q.IsFull) : s'.ledger = s.ledger := by
  cases h
  case close | fire | endFiring => exact full.elim
  all_goals rfl

/-- A turn keeps a run prompt that is left alone. -/
theorem Prompt.turn {m : Move} (h : s.Prompt) (locked : s.Locked) (alone : s.LeftAlone)
    (knows : ∀ w ∈ s.workers, w.Knows s.ledger)
    (below : .recording .increment ∈ s.workers → s.ledger.failures.toNat < p.total)
    (small : p.total < UInt64.size) (turn : Turn p s m t) : t.Prompt := by
  cases turn with
  | worker place turn =>
    have mem := List.mem_of_getElem? place
    exact h.worker locked (alone.workers _ mem) (knows _ mem) below small place turn
  | @producer c q q' s' place turn =>
    have ledger : (s'.setProducer q').ledger = s.ledger := turn.ledger_eq
    have workers : (s'.setProducer q').workers = s.workers := turn.workers_eq
    constructor
    · rw [ledger]; exact h.armed
    · rw [ledger, workers]; exact h.fired
  | @starter c q q' s' place turn =>
    have ledger : (s'.setStarter q').ledger = s.ledger := turn.ledger_eq (place ▸ alone.starter)
    have fires : total Worker.fires (s'.setStarter q').workers = total Worker.fires s.workers :=
      turn.total_workers _ rfl
    exact ⟨by rw [ledger]; exact h.armed, by rw [ledger, fires]; exact h.fired⟩
  | outsider place turn => simp [alone.outsiders] at place

/-- Every state is prompt that a run reaches which is left alone. -/
theorem prompt_of_reaches (sound : p.Sound) (quiet : p.Quiet) (small : p.total < UInt64.size)
    (h : ReachesBy p Move.IsGranted (p.begin 0) s) : s.Prompt := by
  refine h.invariant ⟨nofun, ?_⟩ ?_
  · intro reached
    have least := p.config.toNat_normalizedErrorLimit
    have none : p.config.normalizedErrorLimit.toNat ≤ 0 := UInt64.le_iff_toNat_le.1 reached
    omega
  · intro m u v reached _ turn prompt
    exact prompt.turn (locked_of_reaches reached) (leftAlone_of_reaches sound quiet reached)
      (knows_of_reaches reached) (failures_lt_total small reached) small turn

end Crew

end TaskCrew
