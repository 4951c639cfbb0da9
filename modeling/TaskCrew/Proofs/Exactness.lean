import TaskCrew.Proofs.Limit
import TaskCrew.Proofs.Verdict
import Mathlib.Algebra.Group.Nat.Defs

/-!
# Words that count like numbers

The counters of a run are words, which wrap around, and what is left over is found by subtractions that stop
at zero. Neither ever matters: every step changes the counters as it would change numbers, and when the
starter settles them, nothing is subtracted from less.

* `Counters.Exact` — the counters change as numbers do;
* `Crew.present` — the threads that have entered and not yet left;
* `toNat_live`, `toNat_get_le` — the threads that are counted are those that are present, and nothing else
  is counted more often than there are tasks;
* `Crew.SettlesExactly` — what is left over is what was handed over and never received;
* `run_counts_exactly` — the counters of a run never wrap around.

In the middle of a run a task may be begun before it is counted as submitted, so nothing is said of what
would be left over then.
-/

namespace TaskCrew

namespace Counters

/-- The counters change as numbers do: nothing is counted, or one more, or one thread fewer, or what is left
over is added to what was abandoned. -/
inductive Exact (c : Counters) : Counters → Prop
  | same : Exact c c
  | count (k : Counter) (exact : ((c.count k).get k).toNat = (c.get k).toNat + 1) : Exact c (c.count k)
  | leave (exact : c.leave.live.toNat + 1 = c.live.toNat) : Exact c c.leave
  | settle (exact : (c.add .abandoned c.leftover).abandoned.toNat =
      c.abandoned.toNat + c.leftover.toNat) : Exact c (c.add .abandoned c.leftover)

variable {c : Counters}

lemma Exact.of_count {k : Counter} (room : (c.get k).toNat + 1 < UInt64.size) : c.Exact (c.count k) := by
  refine .count k ?_
  rw [Counters.count, get_add_self]
  exact Crew.toNat_add_one_of_lt room (Nat.lt_succ_self _)

lemma Exact.of_leave (pos : 1 ≤ c.live.toNat) : c.Exact c.leave := by
  refine .leave ?_
  have le : (1 : UInt64) ≤ c.live := UInt64.le_iff_toNat_le.2 pos
  show (c.live - 1).toNat + 1 = c.live.toNat
  rw [UInt64.toNat_sub_of_le _ _ le]
  exact Nat.sub_add_cancel pos

end Counters

lemma Worker.lives_le_one (w : Worker) : w.lives ≤ 1 := by
  cases w <;> simp

lemma Producer.lives_le_one (q : Producer) : q.lives ≤ 1 := by
  cases q <;> simp

namespace Crew

variable {p : Plan} {kind : Move → Prop} {outsiders k : Nat} {w w' : Worker} {s t s' : Crew}

/-- How many threads have entered and not yet left. -/
def present (s : Crew) : Nat :=
  total Worker.lives s.workers + s.producer.lives

lemma present_le (s : Crew) : s.present ≤ s.workers.length + 1 := by
  rw [present, ← total_one]
  exact Nat.add_le_add (total_le_total fun w _ => w.lives_le_one) s.producer.lives_le_one

/-! ## How far the counters go -/

lemma toNat_get_le (small : p.total < UInt64.size) (h : ReachesBy p kind (p.begin outsiders) s)
    {k : Counter} (other : k ≠ .live) : (s.counters.get k).toNat ≤ p.total := by
  obtain ⟨n, f, tallied⟩ := tallied_of_reaches small h
  have conserved := conserved_of_reaches h
  rw [tallied.toNat_get conserved small other]
  exact (tallied.le_total conserved).2 k other

lemma toNat_failures_le (small : p.total < UInt64.size) (h : ReachesBy p kind (p.begin outsiders) s) :
    s.ledger.failures.toNat ≤ p.total := by
  obtain ⟨n, f, tallied⟩ := tallied_of_reaches small h
  have le := (tallied.le_total (conserved_of_reaches h)).1
  rwa [tallied.failures, UInt64.toNat_ofNat_of_lt' (Nat.lt_of_le_of_lt le small)]

/-- There are fewer threads than words count, for the list of threads would not fit otherwise. -/
lemma present_lt (h : ReachesBy p kind (p.begin outsiders) s) : s.present + 1 < UInt64.size := by
  by_cases sound : p.Sound
  · have fits : 48 * (p.workers + 1) ≤ Plan.objectBound := sound.1.2
    have few := (staffed_of_reaches h).length_le
    have le := s.present_le
    simp only [Plan.objectBound] at fits
    simp only [UInt64.size]
    omega
  · obtain ⟨none, unborn⟩ := unmanned_of_unsound sound h
    rw [present, none, unborn]
    decide

/-- The threads that are counted are those that are present. -/
theorem toNat_live (small : p.total < UInt64.size) (h : ReachesBy p kind (p.begin outsiders) s) :
    s.counters.live.toNat = s.present := by
  obtain ⟨n, f, tallied⟩ := tallied_of_reaches small h
  have room := present_lt h
  rw [present, ← tallied.live] at room ⊢
  exact tallied.shows.toNat_get (k := .live) (Nat.lt_of_succ_lt room)

/-- Every counter has room for one more. -/
lemma room_of_reaches (small : p.total < 2 ^ 63) (h : ReachesBy p kind (p.begin outsiders) s)
    (k : Counter) : (s.counters.get k).toNat + 1 < UInt64.size := by
  have words : p.total < UInt64.size := Nat.lt_trans small (by decide)
  by_cases threads : k = .live
  · subst threads
    have room := present_lt h
    rwa [← toNat_live words h] at room
  · have le := toNat_get_le words h threads
    simp only [UInt64.size]
    omega

/-! ## Steps -/

lemma WorkerTurn.exact (h : WorkerTurn p k s w w' s')
    (room : ∀ j, (s.counters.get j).toNat + 1 < UInt64.size) (alive : w.lives ≤ s.counters.live.toNat) :
    s.counters.Exact s'.counters := by
  cases h
  case enter => exact .of_count (room .live)
  case drop => exact .of_count (room .abandoned)
  case start => exact .of_count (room .started)
  case succeed => exact .of_count (room .succeeded)
  case panic => exact .of_count (room .panicked)
  case fail => exact .of_count (room .failed)
  case leave => exact .of_leave alive
  all_goals exact .same

lemma ProducerTurn.exact {q q' : Producer} (h : ProducerTurn p s q q' s')
    (room : ∀ j, (s.counters.get j).toNat + 1 < UInt64.size) (alive : q.lives ≤ s.counters.live.toNat) :
    s.counters.Exact s'.counters := by
  cases h
  case enter => exact .of_count (room .live)
  case count => exact .of_count (room .submitted)
  case leave => exact .of_leave alive
  all_goals exact .same

/-- A worker that has not left is counted. -/
lemma lives_le_live (small : p.total < UInt64.size) (h : ReachesBy p kind (p.begin outsiders) s)
    (mem : w ∈ s.workers) : w.lives ≤ s.counters.live.toNat := by
  rw [toNat_live small h, present]
  exact Nat.le_add_right_of_le (le_total_of_mem Worker.lives mem)

/-- What is left over is what was submitted and neither begun nor dropped, and both subtractions are those of
numbers. It is as much as was handed over and never received, and that much is added to what was
abandoned. -/
structure SettlesExactly (p : Plan) (s : Crew) : Prop where
  started_le : s.counters.started ≤ s.counters.submitted
  abandoned_le : s.counters.abandoned ≤ s.counters.submitted - s.counters.started
  leftover : s.counters.leftover =
    s.counters.submitted - s.counters.started - s.counters.abandoned
  unreceived : ∃ left, s.sent = s.received ++ left ∧ s.counters.leftover.toNat = left.length
  added : ∀ t, s.step? p ⟨.starter, .usual⟩ = some t →
    t.counters.abandoned.toNat = s.counters.abandoned.toNat + s.counters.leftover.toNat

lemma submitted_of_settling (small : p.total < UInt64.size)
    (h : ReachesBy p kind (p.begin outsiders) s) {dead : List Nat} {refused : Option Refusal}
    (place : s.starter = .settling dead refused) :
    s.counters.submitted.toNat =
      s.counters.started.toNat + s.counters.abandoned.toNat + s.queue.length := by
  obtain ⟨n, f, tallied⟩ := tallied_of_reaches small h
  exact tallied.submitted_of_settling (staffed_of_reaches h) (conserved_of_reaches h) small place

/-- What is left over is added to what was abandoned as a number would be. -/
lemma toNat_add_leftover (small : p.total < UInt64.size)
    (h : ReachesBy p kind (p.begin outsiders) s) {dead : List Nat} {refused : Option Refusal}
    (place : s.starter = .settling dead refused) :
    (s.counters.abandoned + s.counters.leftover).toNat =
      s.counters.abandoned.toNat + s.counters.leftover.toNat := by
  have submitted := submitted_of_settling small h place
  have le : s.counters.submitted.toNat ≤ p.total := toNat_get_le small h (k := .submitted) (by decide)
  have leftover := Counters.toNat_leftover s.counters
  rw [UInt64.toNat_add, Nat.mod_eq_of_lt]
  simp only [UInt64.size] at small
  omega

lemma StarterTurn.exact {c : Choice} {q q' : Starter} (h : StarterTurn p s c q q' s')
    (sum : ∀ dead refused, q = .settling dead refused →
      (s.counters.abandoned + s.counters.leftover).toNat =
        s.counters.abandoned.toNat + s.counters.leftover.toNat) :
    s.counters.Exact s'.counters := by
  cases h with
  | @settle dead refused => exact .settle (sum dead refused rfl)
  | _ => exact .same

lemma settlesExactly_of_settling (small : p.total < UInt64.size)
    (h : ReachesBy p kind (p.begin outsiders) s) {dead : List Nat} {refused : Option Refusal}
    (place : s.starter = .settling dead refused) : s.SettlesExactly p := by
  have submitted := submitted_of_settling small h place
  have started_le : s.counters.started ≤ s.counters.submitted := by
    rw [UInt64.le_iff_toNat_le]
    omega
  have abandoned_le : s.counters.abandoned ≤ s.counters.submitted - s.counters.started := by
    rw [UInt64.le_iff_toNat_le, UInt64.toNat_sub_of_le _ _ started_le]
    omega
  refine ⟨started_le, abandoned_le, ?_, ⟨s.queue.map Job.index, sent_eq h, ?_⟩, fun t step => ?_⟩
  · simp only [Counters.leftover, if_pos started_le, if_pos abandoned_le]
  · rw [Counters.toNat_leftover, List.length_map]
    omega
  · rw [← toNat_add_leftover small h place]
    cases turn_of_step? step with
    | starter place' turn =>
      rw [place] at place'
      subst place'
      cases turn
      rfl

/-- Every step changes the counters as it would change numbers. -/
theorem exact_of_step? (small : p.total < 2 ^ 63) (h : ReachesBy p kind (p.begin outsiders) s) {m : Move}
    (step : s.step? p m = some t) : s.counters.Exact t.counters := by
  have words : p.total < UInt64.size := Nat.lt_trans small (by decide)
  have room := room_of_reaches small h
  cases turn_of_step? step with
  | worker place turn => exact turn.exact room (lives_le_live words h (List.mem_of_getElem? place))
  | producer place turn =>
    refine turn.exact room ?_
    rw [toNat_live words h, present, place]
    exact Nat.le_add_left _ _
  | starter place turn =>
    refine turn.exact ?_
    rintro dead refused rfl
    exact toNat_add_leftover words h place
  | outsider place turn => cases turn <;> exact .same

/-- So it does with the failures in the ledger. -/
theorem exact_failures_of_step? (small : p.total < UInt64.size)
    (h : ReachesBy p kind (p.begin outsiders) s) {m : Move} (step : s.step? p m = some t) :
    t.ledger.failures = s.ledger.failures ∨
      t.ledger.failures.toNat = s.ledger.failures.toNat + 1 := by
  cases turn_of_step? step with
  | @worker k c w w' s' place turn =>
    rcases turn.failures_or with ⟨rfl, added⟩ | same
    · have lt := failures_lt_total small h (List.mem_of_getElem? place)
      refine .inr ?_
      show s'.ledger.failures.toNat = _
      rw [added]
      exact toNat_add_one_of_lt small lt
    · exact .inl same
  | producer place turn => exact .inl (congrArg Ledger.failures turn.ledger_eq)
  | starter place turn => exact .inl (by cases turn <;> rfl)
  | outsider place turn => exact .inl (by cases turn <;> rfl)

/-! ## Reports -/

/-- The tasks that a report says were not submitted are all but the submitted ones. -/
lemma toNat_unsubmitted (small : p.total < UInt64.size) (h : ReachesBy p kind (p.begin outsiders) s)
    {e : Executor} {bodies : List Body} {r : Report} {entry : Entry} {l : LogEntry} {n : UInt64}
    (plan : e.plan bodies = p) (report : e.report? bodies s = some (.returned (.ok r)))
    (logged : l ∈ e.closing entry bodies.length (.returned (.ok r))) (notice : l.notice = .unsubmitted n) :
    n.toNat + r.stats.counters.submitted.toNat = bodies.length := by
  obtain ⟨-, rfl⟩ := Executor.report?_eq_ok report
  have counted : n = UInt64.ofNat bodies.length - s.counters.submitted := by
    rw [Executor.closing] at logged
    split at logged
    · simp only [List.mem_cons, List.not_mem_nil, or_false] at logged
      rcases logged with rfl | rfl
      · cases notice
      · cases notice
        rfl
    · obtain rfl := List.mem_singleton.1 logged
      cases notice
  have total : bodies.length = p.total := by rw [← plan]; rfl
  have words : (UInt64.ofNat bodies.length).toNat = bodies.length :=
    UInt64.toNat_ofNat_of_lt' (total ▸ small)
  have le : s.counters.submitted ≤ UInt64.ofNat bodies.length := by
    rw [UInt64.le_iff_toNat_le, words, total]
    exact toNat_get_le small h (k := .submitted) (by decide)
  show n.toNat + s.counters.submitted.toNat = bodies.length
  rw [counted, UInt64.toNat_sub_of_le _ _ le, words]
  exact Nat.sub_add_cancel (words ▸ UInt64.le_iff_toNat_le.1 le)

/-- **The counters of a run never wrap around.** Let a run of fewer than 2 ^ 63 tasks be made of whatever
moves, with workers that die, threads that are refused and a signal that is fired from outside. At any time
the threads that are counted as under way are those that have entered and not left, which are one more than
there are workers at most, and whoever is about to leave is counted. Every step changes the counters and the
ledger as it would change numbers. When the starter settles the counters, tasks were begun and dropped no
more than they were submitted, and what is left over is what was handed over and never received. The ledger
and all counters but that of threads stay at most the number of tasks, and so a report tells rightly how
many tasks were not submitted. -/
theorem run_counts_exactly (small : p.total < 2 ^ 63) (h : ReachesBy p kind (p.begin outsiders) s) :
    (s.counters.live.toNat = s.present ∧ s.present ≤ p.workers + 1 ∧
      (s.producer = .leaving ∨ (∃ died, .leaving died ∈ s.workers) → 1 ≤ s.counters.live.toNat)) ∧
    (∀ m t, s.step? p m = some t → s.counters.Exact t.counters ∧
      (t.ledger.failures = s.ledger.failures ∨
        t.ledger.failures.toNat = s.ledger.failures.toNat + 1)) ∧
    (∀ dead refused, s.starter = .settling dead refused → s.SettlesExactly p) ∧
    (s.ledger.failures.toNat ≤ p.total ∧ ∀ k, k ≠ .live → (s.counters.get k).toNat ≤ p.total) ∧
    ∀ (e : Executor) (bodies : List Body) (r : Report), e.plan bodies = p →
      e.report? bodies s = some (.returned (.ok r)) →
        r.stats.counters.submitted.toNat ≤ bodies.length ∧
        ∀ (entry : Entry), ∀ l ∈ e.closing entry bodies.length (.returned (.ok r)), ∀ n,
          l.notice = .unsubmitted n → n.toNat + r.stats.counters.submitted.toNat = bodies.length := by
  have words : p.total < UInt64.size := Nat.lt_trans small (by decide)
  have live := toNat_live words h
  refine ⟨⟨live, ?_, ?_⟩, fun m t step => ⟨exact_of_step? small h step, exact_failures_of_step? words h step⟩,
    fun dead refused => settlesExactly_of_settling words h,
    ⟨toNat_failures_le words h, fun k => toNat_get_le words h⟩, ?_⟩
  · exact Nat.le_trans s.present_le (Nat.succ_le_succ (staffed_of_reaches h).length_le)
  · rintro (leaving | ⟨died, mem⟩)
    · rw [live, present, leaving]
      exact Nat.le_add_left _ _
    · exact lives_le_live words h mem
  · intro e bodies r plan report
    refine ⟨?_, fun entry l logged n notice => toNat_unsubmitted words h plan report logged notice⟩
    obtain ⟨-, rfl⟩ := Executor.report?_eq_ok report
    have le := toNat_get_le words h (k := .submitted) (by decide)
    rwa [← plan] at le

end Crew

namespace Executor

/-- Six tasks, of which the first breaks off. -/
def sixTasks : List Body :=
  .done (.panic "none") :: List.replicate 5 (.done .success)

/-- A run of them after so many moves. -/
def sixTasksRun (moves : Nat) : Crew :=
  Crew.drive (pair.plan sixTasks) moves (pair.begin sixTasks)

theorem run_counts_exactly_sixTasks :
    (sixTasksRun 40).counters.live.toNat = 3 ∧
    (sixTasksRun 55).counters.leftover = 2 ∧ (sixTasksRun 55).SettlesExactly (pair.plan sixTasks) ∧
    ∃ r, pair.report? sixTasks (sixTasksRun 56) = some (.returned (.ok r)) ∧
      r.stats.counters.submitted.toNat ≤ 6 := by
  have reached (moves : Nat) :
      Crew.Reaches (pair.plan sixTasks) (pair.begin sixTasks) (sixTasksRun moves) :=
    Crew.reaches_drive _ moves .refl
  have small : (pair.plan sixTasks).total < 2 ^ 63 := by decide
  have back : (sixTasksRun 56).return? = some (.finished []) := by decide +kernel
  obtain ⟨⟨live, -⟩, -⟩ := Crew.run_counts_exactly small (reached 40)
  obtain ⟨-, -, settles, -⟩ := Crew.run_counts_exactly small (reached 55)
  obtain ⟨-, -, -, -, reports⟩ := Crew.run_counts_exactly small (reached 56)
  have report : pair.report? sixTasks (sixTasksRun 56) = _ := report?_of_alive back
  exact ⟨live.trans (by decide +kernel), by decide +kernel, settles [] none (by decide +kernel), _, report,
    (reports pair sixTasks _ rfl report).1⟩

end Executor

end TaskCrew
