import TaskCrew.Proofs.Diligence
import TaskCrew.Proofs.Limit
import TaskCrew.Proofs.Precedence

/-!
# The result of a run does not depend on how threads mix

If every task has one ending, whatever happens, the result of a run is known beforehand: it depends on
how many tasks of the whole list fail, and on the error limit, and on nothing else.

* `countFailing` — how many tasks of a list fail;
* `limit_le_failures_iff` — when a run is over, its ledger has reached the limit exactly if as many
  tasks of the list fail;
* `Executor.Returns.eq_verdict` — the result of a run, whatever the number of workers, the capacity of the
  queue and the order of steps.

Which tasks are begun does depend on the order of steps. If the ledger has not reached the limit, the
signal was not fired, so every task was begun; and if it has, as many tasks fail.
-/

namespace TaskCrew

/-- How many tasks of a list fail. -/
def countFailing (bodies : List Body) : Nat :=
  bodies.countP fun b => b.ending.counts

lemma Ending.adds_failed (e : Ending) : e.adds .failed = e.counts.toNat := by
  cases e <;> rfl

namespace Plan

variable (p : Plan)

lemma map_ending_range : (List.range p.total).map p.ending = p.bodies.map Body.ending := by
  refine List.ext_getElem (by simp [total]) ?_
  intro i hi hi'
  have lt : i < p.bodies.length := by simpa using hi'
  simp [ending, lt]

/-- A number for each ending adds up to the same over the numbers of tasks and over the tasks. -/
lemma total_ending_range (f : Ending → Nat) :
    TaskCrew.total (fun i => f (p.ending i)) (List.range p.total) =
      TaskCrew.total (fun b => f b.ending) p.bodies := by
  rw [← total_map f p.ending, map_ending_range, total_map]

/-- A counter that counts each ending of a kind once counts all tasks of that kind. -/
lemma total_adds {k : Counter} {kind : Ending → Bool} (adds : ∀ e : Ending, e.adds k = (kind e).toNat) :
    TaskCrew.total (fun i => (p.ending i).adds k) (List.range p.total) =
      p.bodies.countP fun b => kind b.ending := by
  rw [total_ending_range p fun e => e.adds k, ← total_toNat]
  exact total_congr fun b _ => adds b.ending

lemma total_adds_failed :
    TaskCrew.total (fun i => (p.ending i).adds .failed) (List.range p.total) =
      countFailing p.bodies :=
  p.total_adds Ending.adds_failed

end Plan

namespace Crew

variable {p : Plan} {s : Crew}

/-- Every task that was begun is one of the list. -/
lemma Conserved.total_began_le (h : s.Conserved p) (f : Nat → Nat) :
    total f s.began ≤ total f (List.range p.total) := by
  have received := h.received_total f
  obtain ⟨range, length⟩ := h.received_eq_range
  have split : List.range p.total = s.received ++
      (List.range (s.queue.length + s.unsent.length)).map (s.received.length + ·) := by
    rw [range, List.length_range, ← List.range_add, ← length, Nat.add_assoc]
  rw [split, total_append]
  omega

/-- When all workers have ended, every failure is in the ledger. -/
lemma failures_eq_of_gone {kind : Move → Prop} {outsiders : Nat} (steady : p.Steady)
    (small : p.total < UInt64.size) (h : ReachesBy p kind (p.begin outsiders) s)
    (gone : ∀ w ∈ s.workers, ∃ died, w = .gone died) :
    s.ledger.failures.toNat = total (fun i => (p.ending i).adds .failed) s.began := by
  have failures := failures_of_reaches steady small h
  rw [total_of_gone (fun _ => rfl) gone, total_of_gone (fun _ => rfl) gone,
    total_perm _ ((conserved_of_reaches h).ended_perm_began gone)] at failures
  omega

/-- When a run is over, its ledger has reached the limit exactly if as many tasks of the list fail. -/
theorem limit_le_failures_iff (sound : p.Sound) (steady : p.Steady) (small : p.total < UInt64.size)
    (hired : 0 < p.workers) (h : ReachesBy p Move.IsGranted (p.begin 0) s)
    (back : s.return? = some (.finished [])) :
    s.ledger.limit ≤ s.ledger.failures ↔
      max p.config.errorLimit.toInt 1 ≤ (countFailing p.bodies : Int) := by
  have gone := ((staffed_of_reaches h).of_finished back).2.1.all_gone
  have failures := failures_eq_of_gone steady small h gone
  have le := (conserved_of_reaches h).total_began_le fun i => (p.ending i).adds .failed
  rw [p.total_adds_failed] at le
  rw [← p.config.toNat_normalizedErrorLimit, Int.ofNat_le, ← limit_of_reaches h,
    UInt64.le_iff_toNat_le]
  by_cases fired : s.ledger.signal.fired = true
  · -- the signal is fired only if the limit is reached, and no more tasks were begun than there are
    have reached := (prompt_of_reaches sound steady.quiet small h).le_of_fired
      (locked_of_reaches h) fired
    rw [UInt64.le_iff_toNat_le] at reached
    omega
  · -- every task was begun
    rw [Bool.not_eq_true] at fired
    rw [failures, total_perm _ (began_perm_range hired h fired back), p.total_adds_failed]

/-- If no task kills a worker and no thread is refused, no worker is dead when the run is over. -/
theorem return_eq_finished (sound : p.Sound) (steady : p.Steady)
    (mild : ∀ b ∈ p.bodies, b.ending.kills = false)
    (h : ReachesBy p Move.IsGranted (p.begin 0) s) {r : Return} (back : s.return? = some r) :
    r = .finished [] := by
  have killed := (counted_of_reaches steady h).killed
  have none : total (fun i => (p.ending i).kills.toNat) s.ended = 0 := by
    refine total_eq_zero fun i _ => ?_
    have alive : (p.ending i).kills = false := by
      rw [Plan.ending]
      cases hb : p.bodies[i]? with
      | none => rfl
      | some b => exact mild b (List.mem_of_getElem? hb)
    rw [alive]
    rfl
  obtain ⟨dead, rfl⟩ := exists_finished_of_return sound h back
  have joined := ((staffed_of_reaches h).of_finished back).2.1
  rw [joined.dead_eq_nil (by omega)]

end Crew

/-! ## The verdict -/

namespace Executor

/-- When its threads have left a run like this, `execute` returns this result. -/
def Returns (e : Executor) (bodies : List Body) (s : Crew) (r : Except RunError Unit) : Prop :=
  (e.report? bodies s).map Exit.result = some (.returned r)

lemma workerCount_ne_zero (e : Executor) : e.config.workerCount ≠ 0 :=
  (Config.fault?_eq_none_iff.1 e.fault?_config).1

lemma workers_pos (e : Executor) (bodies : List Body) : 0 < (e.plan bodies).workers := by
  refine Nat.pos_of_ne_zero fun idle => e.workerCount_ne_zero ?_
  exact UInt64.toNat_inj.1 idle

variable {e : Executor} {bodies : List Body} {s : Crew} {r : Except RunError Unit}

lemma Returns.exists_return (h : e.Returns bodies s r) : ∃ back, s.return? = some back := by
  cases hr : s.return? with
  | none => simp [Returns, report?, hr] at h
  | some back => exact ⟨back, rfl⟩

/-- A run that returns could begin, for the call did not break off. -/
lemma Returns.sound (returns : e.Returns bodies s r)
    (h : Crew.ReachesBy (e.plan bodies) Move.IsGranted (e.begin bodies) s) :
    (e.plan bodies).Sound := by
  obtain ⟨back, hr⟩ := returns.exists_return
  rcases Crew.sound_or_panicked h hr with sound | rfl
  · exact sound
  · simp [Returns, report?, hr, Return.result, Exit.result] at returns

/-- If no worker died, there is a report. -/
lemma report?_of_alive (back : s.return? = some (.finished [])) :
    e.report? bodies s = some (.returned (.ok (e.reportOn s))) := by
  simp [report?, back, Return.result]

/-- If no worker died, the result is that of the ledger. -/
lemma Returns.eq_of_alive (returns : e.Returns bodies s r) (back : s.return? = some (.finished [])) :
    r = if s.ledger.limit ≤ s.ledger.failures then .error .limitReached else .ok () := by
  have report : e.report? bodies s = some (.returned (.ok (e.reportOn s))) := report?_of_alive back
  have result : r = Report.result (e.reportOn s) := by
    simpa [Returns, report, Exit.result, Except.bind, eq_comm] using returns
  rw [result]
  by_cases reached : s.ledger.limit ≤ s.ledger.failures
  · simp [Report.result, (e.outcome_reportOn s).2 reached, reached]
  · simp [Report.result, reportOn, Ledger.limitReached, reached]

/-- If workers died, the result is an error that names them. -/
lemma Returns.eq_of_dead {k : Nat} {dead : List Nat} (returns : e.Returns bodies s r)
    (back : s.return? = some (.finished (k :: dead))) :
    r = .error (.ofInternalFault (.died ((k :: dead).map (e.plan bodies).workerName))) := by
  simpa [Returns, report?, back, Return.result, Exit.result, Except.bind, eq_comm] using returns

/-- The result of a run is known beforehand from the tasks and the error limit. -/
theorem Returns.eq_verdict (steady : (e.plan bodies).Steady)
    (mild : ∀ b ∈ bodies, b.ending.kills = false) (small : bodies.length < UInt64.size)
    (h : Crew.ReachesBy (e.plan bodies) Move.IsGranted (e.begin bodies) s)
    (returns : e.Returns bodies s r) :
    r = if max e.config.errorLimit.toInt 1 ≤ (countFailing bodies : Int) then .error .limitReached
      else .ok () := by
  have sound := returns.sound h
  have back : s.return? = some (.finished []) := by
    obtain ⟨back, hr⟩ := returns.exists_return
    rw [hr, Crew.return_eq_finished sound steady mild h hr]
  have iff : s.ledger.limit ≤ s.ledger.failures ↔
      max e.config.errorLimit.toInt 1 ≤ (countFailing bodies : Int) :=
    Crew.limit_le_failures_iff (p := e.plan bodies) sound steady small (e.workers_pos bodies) h back
  rw [returns.eq_of_alive back]
  by_cases reached : s.ledger.limit ≤ s.ledger.failures
  · rw [if_pos reached, if_pos (iff.1 reached)]
  · rw [if_neg reached, if_neg (iff.not.1 reached)]

/-- **The result of a run does not depend on how threads mix.** Let every task have one ending,
whatever happens, and let none kill a worker; tasks of an executor have no way to fire the signal. If
no thread is refused and `execute` returns, it succeeds exactly if fewer tasks of the whole list fail
than the limit allows, and gives the error of the limit exactly if as many do; so any other run of the
same tasks with the same limit returns the same, whatever the number of workers, the capacity of the
queue and the order of steps. -/
theorem run_result (steady : ∀ b ∈ bodies, b.Fixed ∧ b.Quiet)
    (mild : ∀ b ∈ bodies, b.ending.kills = false) (small : bodies.length < UInt64.size)
    (h : Crew.ReachesBy (e.plan bodies) Move.IsGranted (e.begin bodies) s)
    (returns : e.Returns bodies s r) :
    (r = .ok () ↔ (countFailing bodies : Int) < max e.config.errorLimit.toInt 1) ∧
    (r = .error .limitReached ↔ max e.config.errorLimit.toInt 1 ≤ (countFailing bodies : Int)) ∧
    ∀ (e' : Executor) (s' : Crew) (r' : Except RunError Unit),
      e'.config.errorLimit = e.config.errorLimit →
      Crew.ReachesBy (e'.plan bodies) Move.IsGranted (e'.begin bodies) s' →
      e'.Returns bodies s' r' → r' = r := by
  have verdict := returns.eq_verdict steady mild small h
  refine ⟨?_, ?_, ?_⟩
  · rw [verdict]
    by_cases reached : max e.config.errorLimit.toInt 1 ≤ (countFailing bodies : Int)
    · simp [reached, Int.not_lt.2 reached]
    · simp [reached, Int.not_le.1 reached]
  · rw [verdict]
    by_cases reached : max e.config.errorLimit.toInt 1 ≤ (countFailing bodies : Int)
    · simp [reached]
    · simp [reached]
  · intro e' s' r' limit h' returns'
    rw [verdict, returns'.eq_verdict steady mild small h', limit]

def pair : Executor :=
  ⟨plainName, { workerCount := 2 }, by decide⟩

theorem run_result_pair :
    pair.Returns Plan.threeTasks.bodies (Plan.threeTasks.carryOut pair.newLedger {})
      (.error .limitReached) ∧
      max pair.config.errorLimit.toInt 1 ≤ (countFailing Plan.threeTasks.bodies : Int) := by
  have returns : pair.Returns Plan.threeTasks.bodies (Plan.threeTasks.carryOut pair.newLedger {})
      (.error .limitReached) := by rw [Returns]; rfl
  have reached : Crew.ReachesBy (pair.plan Plan.threeTasks.bodies) Move.IsGranted
      (pair.begin Plan.threeTasks.bodies) (Plan.threeTasks.carryOut pair.newLedger {}) :=
    Crew.granted_drive (by decide) _ .refl
  have steady : ∀ b ∈ Plan.threeTasks.bodies, b.Fixed ∧ b.Quiet := by
    simp [Plan.threeTasks, Body.Fixed, Body.Ends, Body.Quiet]
  exact ⟨returns, (run_result steady (by decide) (by decide) reached returns).2.1.1 rfl⟩

end Executor

end TaskCrew
