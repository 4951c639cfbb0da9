import TaskCrew.Proofs.Verdict

/-!
# How far failures go beyond the limit

Between the failure that reaches the limit and the flag that everybody sees, other workers may end
tasks, and tasks that are under way then may still fail. All this adds one failure for each of the
other workers at most.

* `Worker.mayFail` — a worker may add a failure to the ledger before it looks at the flag again;
* `Crew.Contained` — as long as the flag is not set, the count goes beyond the limit only while a
  worker is about to set it; and at any time, the count and what may be added to it are contained;
* `contained_of_reaches` — every state that a run reaches is contained, whoever fires the signal;
* `run_overshoot` — the ledger and the counter of failures never exceed the limit by as much as there
  are workers.

A worker that has counted the limit has the lock of the ledger until the flag is set. So whoever else
has failed waits for the lock meanwhile, and finds the flag set before it takes another task.
-/

namespace TaskCrew

namespace Worker

/-- A worker may add a failure to the ledger before it looks at the flag again. -/
def mayFail : Worker → Nat
  | .cleared _ | .calling _ | .working _ _ | .firing _ _ _ | .panicking | .failing |
    .recording .acquire | .recording .increment => 1
  | _ => 0

/-- A worker that is about to fire the signal adds nothing before that. -/
lemma fires_add_mayFail_le (w : Worker) : w.fires + w.mayFail ≤ 1 := by
  cases w with
  | recording r =>
    cases r with
    | firing count f => cases f <;> simp [fires, mayFail]
    | _ => simp [fires, mayFail]
  | _ => simp [fires, mayFail]

lemma unrecorded_le_mayFail (w : Worker) : w.unrecorded ≤ w.mayFail := by
  cases w with
  | recording r => cases r <;> simp [mayFail]
  | _ => simp

end Worker

lemma toNat_add_one_le (n : UInt64) : (n + 1).toNat ≤ n.toNat + 1 := by
  rw [UInt64.toNat_add]
  exact Nat.mod_le _ _

namespace Crew

variable {p : Plan} {k : Nat} {w w' : Worker} {s t s' : Crew}

/-- As long as the flag is not set, the count is below the limit, or a worker is about to set the flag;
and at any time, the count together with the failures that workers may add is below the limit by one
more than there are workers. -/
structure Contained (p : Plan) (s : Crew) : Prop where
  below : s.ledger.signal.fired = false →
    s.ledger.failures.toNat + 1 ≤ s.ledger.limit.toNat + total Worker.fires s.workers
  contained : s.ledger.failures.toNat + total Worker.mayFail s.workers + 1 ≤
    s.ledger.limit.toNat + p.workers

/-! ## Turns of workers -/

/-- As long as the flag is not set, a worker that counts a failure goes on to look whether to fire the
signal, and it stops being about to fire it only if the count is below the limit. -/
lemma WorkerTurn.fires_le (h : WorkerTurn p k s w w' s') (locked : s.Locked) (mem : w ∈ s.workers)
    (knows : w.Knows s.ledger) (unfired : s'.ledger.signal.fired = false) :
    s'.ledger.failures.toNat + w.fires ≤ s.ledger.failures.toNat + w'.fires ∨
      s'.ledger.failures.toNat + 1 ≤ s.ledger.limit.toNat := by
  cases h
  case record step _ _ =>
    cases Recording.turn_of_step? step with
    | acquire | reach => exact .inl (Nat.le_refl _)
    | increment => exact .inl (toNat_add_one_le _)
    | @pass count below =>
      have count_eq : count = s.ledger.failures := knows
      rw [count_eq, UInt64.le_iff_toNat_le] at below
      exact .inr (Nat.lt_of_not_le below)
    | fire call =>
      cases Firing.turn_of_step? call with
      | acquire | take | dispose => exact .inl (Nat.le_refl _)
      -- the token is gone only if the flag is set, for the call that took it had the lock
      | miss unarmed =>
        have fired : s.ledger.signal.fired = true := locked.fired_of_take mem rfl unarmed
        exact absurd (fired.symm.trans unfired) (by simp)
      | store => cases unfired
    | endFiring call =>
      obtain ⟨rfl, -⟩ := Firing.eq_release_of_step? call
      exact .inl (Nat.le_refl _)
  case endRecording step =>
    obtain ⟨⟨count, won, rfl⟩, rfl⟩ := Recording.eq_release_of_step? step
    exact .inl (Nat.le_refl _)
  all_goals exact .inl (Nat.le_add_right _ _)

/-- Once the flag is set, a worker may add a failure only if it might before. -/
lemma WorkerTurn.mayFail_le (h : WorkerTurn p k s w w' s')
    (fired : s'.ledger.signal.fired = true) :
    s'.ledger.failures.toNat + w'.mayFail ≤ s.ledger.failures.toNat + w.mayFail := by
  cases h
  case clear unfired => exact absurd (fired.symm.trans unfired) (by simp)
  case finish e _ _ => cases e <;> simp [Worker.after, Worker.mayFail, note, Crew.record]
  case record step _ _ =>
    cases Recording.turn_of_step? step with
    | increment => exact toNat_add_one_le _
    | _ => exact Nat.le_refl _
  case endRecording step =>
    obtain ⟨-, rfl⟩ := Recording.eq_release_of_step? step
    exact Nat.le_add_right _ _
  all_goals exact Nat.le_refl _

/-! ## Every turn keeps a run contained -/

/-- Each worker is about to fire the signal or may add a failure, so as long as the flag is not set, the
number of workers contains the failures. -/
lemma Contained.of_below
    (below : s.ledger.signal.fired = false →
      s.ledger.failures.toNat + 1 ≤ s.ledger.limit.toNat + total Worker.fires s.workers)
    (few : s.workers.length ≤ p.workers)
    (contained : s.ledger.signal.fired = true →
      s.ledger.failures.toNat + total Worker.mayFail s.workers + 1 ≤
        s.ledger.limit.toNat + p.workers) : s.Contained p := by
  refine ⟨below, ?_⟩
  by_cases fired : s.ledger.signal.fired = true
  · exact contained fired
  · have below := below (by simpa using fired)
    have each : total (fun w : Worker => w.fires + w.mayFail) s.workers ≤ total (fun _ => 1) s.workers :=
      total_le_total fun w _ => w.fires_add_mayFail_le
    rw [total_add, total_one] at each
    omega

lemma Contained.worker (h : s.Contained p) (locked : s.Locked) (knows : w.Knows s.ledger)
    (few : s.workers.length ≤ p.workers) (place : s.workers[k]? = some w)
    (turn : WorkerTurn p k s w w' s') (unfired : s'.ledger.signal.fired = false →
      s.ledger.signal.fired = false) (limit : s'.ledger.limit = s.ledger.limit) :
    (s'.setWorker k w').Contained p := by
  have workers := turn.setWorker_workers
  have ledger : (s'.setWorker k w').ledger = s'.ledger := rfl
  have fires := total_set Worker.fires w' place
  have mayFail := total_set Worker.mayFail w' place
  refine .of_below ?_ ?_ ?_
  · intro still
    have below := h.below (unfired still)
    have here := le_total_of_mem Worker.fires (List.mem_of_getElem? place)
    have step := turn.fires_le locked (List.mem_of_getElem? place) knows still
    rw [workers, ledger, limit]
    rcases step with step | step
    · omega
    · exact Nat.le_add_right_of_le step
  · rw [workers, List.length_set]
    exact few
  · intro fired
    have contained := h.contained
    have step := turn.mayFail_le fired
    rw [workers, ledger, limit]
    omega

/-- What another thread does keeps a run contained if it leaves the count and the workers alone. -/
lemma Contained.of_failures_eq (h : s.Contained p) (failures : t.ledger.failures = s.ledger.failures)
    (limit : t.ledger.limit = s.ledger.limit)
    (unfired : t.ledger.signal.fired = false → s.ledger.signal.fired = false)
    (workers : ∀ f : Worker → Nat, f .entering = 0 → total f t.workers = total f s.workers) :
    t.Contained p := by
  constructor
  · intro still
    rw [failures, limit, workers _ rfl]
    exact h.below (unfired still)
  · rw [failures, limit, workers _ rfl]
    exact h.contained

theorem Contained.turn {m : Move} (h : s.Contained p) (locked : s.Locked)
    (knows : ∀ w ∈ s.workers, w.Knows s.ledger) (few : s.workers.length ≤ p.workers)
    (turn : Turn p s m t) : t.Contained p := by
  have limit := turn.limit_eq
  have unfired := turn.unfired
  cases turn with
  | worker place turn =>
    exact h.worker locked (knows _ (List.mem_of_getElem? place)) few place turn unfired limit
  | producer place turn =>
    exact h.of_failures_eq (congrArg Ledger.failures turn.ledger_eq) limit unfired fun f _ =>
      congrArg (total f) turn.workers_eq
  | starter place turn =>
    exact h.of_failures_eq (by cases turn <;> rfl) limit unfired turn.total_workers
  | outsider place turn =>
    exact h.of_failures_eq (by cases turn <;> rfl) limit unfired fun f _ => by cases turn <;> rfl

/-- Every state that a run reaches is contained. -/
theorem contained_of_reaches {kind : Move → Prop} {outsiders : Nat}
    (h : ReachesBy p kind (p.begin outsiders) s) : s.Contained p := by
  refine h.invariant ?_ ?_
  · have least : (p.config.normalizedErrorLimit.toNat : Int) = _ :=
      p.config.toNat_normalizedErrorLimit
    have positive : 1 ≤ p.config.normalizedErrorLimit.toNat := by omega
    exact ⟨fun _ => Nat.le_add_right_of_le positive, Nat.le_add_right_of_le positive⟩
  · intro m u v reached _ turn contained
    exact contained.turn (locked_of_reaches reached) (knows_of_reaches reached)
      (staffed_of_reaches reached).length_le turn

/-- In every state that a run reaches, the counter of failures is contained with the ledger. -/
theorem Contained.toNat_le (h : s.Contained p) {kind : Move → Prop} {outsiders : Nat}
    (small : p.total < UInt64.size) (reached : ReachesBy p kind (p.begin outsiders) s) :
    s.ledger.failures.toNat ≤ s.counters.failed.toNat ∧
      s.counters.failed.toNat + 1 ≤ s.ledger.limit.toNat + p.workers := by
  obtain ⟨n, f, tallied⟩ := tallied_of_reaches small reached
  have ended := tallied.ended
  have recorded := tallied.failed
  have few := (conserved_of_reaches reached).length_ended_le
  have failed : s.counters.failed.toNat = n .failed :=
    tallied.shows.toNat_get (k := .failed) (by omega)
  have failures : s.ledger.failures.toNat = f := by
    rw [tallied.failures, UInt64.toNat_ofNat_of_lt' (by omega)]
  have contained := h.contained
  have unrecorded : total Worker.unrecorded s.workers ≤ total Worker.mayFail s.workers :=
    total_le_total fun w _ => w.unrecorded_le_mayFail
  omega

end Crew

/-! ## The bound -/

/-- A call gives the error of the limit only if the ledger has reached the limit. -/
lemma Entry.limitReached_of_result {e : Executor} {bodies : List Body} {s : Crew} {entry : Entry}
    {why : String}
    (h : (e.report? bodies s).map (entry.result why) = some (.returned (.error .limitReached))) :
    s.return? = some (.finished []) ∧ s.ledger.limit ≤ s.ledger.failures := by
  cases report : e.report? bodies s with
  | none => simp [report] at h
  | some exit =>
    rw [report, Option.map_some, Option.some.injEq] at h
    cases exit with
    | panicked =>
      cases async : entry.isAsync <;>
        simp [Entry.result, Exit.result, Exit.shielded, async, RunError.ofInternalFault] at h
    | returned r =>
      cases r with
      | ok r =>
        obtain ⟨back, rfl⟩ := Executor.report?_eq_ok report
        refine ⟨back, ?_⟩
        by_contra below
        simp [Entry.result, Exit.result, Exit.shielded, Except.bind, Report.result, Executor.reportOn,
          Ledger.limitReached, below] at h
      | error error =>
        obtain rfl : error = .limitReached := by
          simpa [Entry.result, Exit.result, Exit.shielded, Except.bind] using h
        -- an error that comes with no report names threads
        cases hr : s.return? with
        | none => simp [Executor.report?, hr] at report
        | some back =>
          simp only [Executor.report?, hr, Option.map_some, Option.some.injEq] at report
          cases back with
          | finished dead =>
            cases dead <;> simp [Return.result, RunError.ofInternalFault] at report
          | refused => simp [Return.result, RunError.ofInternalFault] at report
          | panicked => simp [Return.result] at report

namespace Crew

variable {p : Plan} {s : Crew}

/-- **Failures exceed the limit by less than the number of workers.** Whatever moves a run of fewer
tasks than words count is made of, whatever its tasks do and whoever fires the signal: at any time,
the ledger and the counter of failures are at most the limit and one less than the number of workers;
and whenever a call that had these tasks run gives the error of the limit, they are at least the
limit. -/
theorem run_overshoot {kind : Move → Prop} {outsiders : Nat}
    (h : ReachesBy p kind (p.begin outsiders) s) (small : p.total < UInt64.size) :
    let limit := (max p.config.errorLimit.toInt 1).toNat
    (s.ledger.failures.toNat ≤ limit + p.workers - 1 ∧
      s.counters.failed.toNat ≤ limit + p.workers - 1) ∧
    ∀ (e : Executor) (bodies : List Body) (entry : Entry) (why : String), e.plan bodies = p →
      (e.report? bodies s).map (entry.result why) = some (.returned (.error .limitReached)) →
      limit ≤ s.ledger.failures.toNat ∧ limit ≤ s.counters.failed.toNat := by
  have limit : s.ledger.limit.toNat = (max p.config.errorLimit.toInt 1).toNat := by
    rw [limit_of_reaches h, ← p.config.toNat_normalizedErrorLimit, Int.toNat_natCast]
  have bounds := (contained_of_reaches h).toNat_le small h
  rw [← limit]
  refine ⟨by omega, ?_⟩
  rintro e bodies entry why rfl result
  have reached := UInt64.le_iff_toNat_le.1 (Entry.limitReached_of_result result).2
  omega

/-- Tasks of which the first two break off. -/
def twoFailures : List Body :=
  [.done (.panic "none"), .done (.panic "none"), .done .success]

/-- Two workers that put up with no failure, and both have one. -/
def twoFailuresRun : Crew :=
  (Executor.pair.plan twoFailures).carryOut Executor.pair.newLedger {}

theorem run_overshoot_twoFailures :
    (twoFailuresRun.ledger.failures = 2 ∧ twoFailuresRun.ledger.failures.toNat ≤ 1 + 2 - 1) ∧
      (∀ why, (Executor.pair.report? twoFailures twoFailuresRun).map (Entry.execute.result why) =
        some (.returned (.error .limitReached))) ∧ 1 ≤ twoFailuresRun.counters.failed.toNat := by
  have reached : Reaches (Executor.pair.plan twoFailures) ((Executor.pair.plan twoFailures).begin 0)
      twoFailuresRun := reaches_drive _ _ .refl
  have result (why : String) : (Executor.pair.report? twoFailures twoFailuresRun).map
      (Entry.execute.result why) = some (.returned (.error .limitReached)) := by rfl
  obtain ⟨⟨failures, -⟩, returned⟩ := run_overshoot reached (by decide)
  exact ⟨⟨by rfl, failures⟩, result, (returned Executor.pair twoFailures .execute "" rfl (result "")).2⟩

end Crew

end TaskCrew
