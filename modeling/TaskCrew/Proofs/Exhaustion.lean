import TaskCrew.Proofs.Termination
import TaskCrew.Proofs.Verdict

/-!
# Runs below the limit

If fewer tasks fail than the limit allows and none kills a worker, nobody stops before every task is
carried out, so the whole report is known beforehand.

* `countEnding`, `completeCounts` — the counts of a list whose tasks are all carried out;
* `Executor.completeReport`, `Executor.Completes` — the report on such a run, and the runs that come
  back with it;
* `complete_of_below` — a run that has not reached the limit has begun every task and left none
  behind;
* `run_exhausts` — every run below the limit comes back with the complete report, and every report
  that tells of success is one of a run that has begun every task.
-/

namespace TaskCrew

def Ending.isSuccess : Ending → Bool
  | .success => true
  | .failure _ | .panic _ | .poison _ => false

def Ending.isPanic : Ending → Bool
  | .panic _ => true
  | .success | .failure _ | .poison _ => false

lemma Ending.adds_succeeded (e : Ending) : e.adds .succeeded = e.isSuccess.toNat := by
  cases e <;> rfl

lemma Ending.adds_panicked (e : Ending) : e.adds .panicked = e.isPanic.toNat := by
  cases e <;> rfl

/-- How many tasks of a list have an ending of a kind. -/
def countEnding (kind : Ending → Bool) (bodies : List Body) : Nat :=
  bodies.countP fun b => kind b.ending

/-- The counts of a run that has carried out every task of a list. -/
def completeCounts (bodies : List Body) : Counters where
  submitted := .ofNat bodies.length
  started := .ofNat bodies.length
  succeeded := .ofNat (countEnding Ending.isSuccess bodies)
  failed := .ofNat (countFailing bodies)
  panicked := .ofNat (countEnding Ending.isPanic bodies)
  abandoned := 0
  live := 0

namespace Executor

/-- The report on a run that has carried out every task and met with fewer failures than the limit
allows. -/
def completeReport (e : Executor) (bodies : List Body) : Report :=
  ⟨.success, (completeCounts bodies).snapshot e.config.workerCount⟩

/-- A run has come back with the complete report, and has begun every task once. -/
structure Completes (e : Executor) (bodies : List Body) (s : Crew) : Prop where
  report : e.report? bodies s = some (.returned (.ok (e.completeReport bodies)))
  began : s.began.Perm (List.range bodies.length)

end Executor

namespace Crew

variable {p : Plan} {s : Crew}

/-! ## What a run that has not reached the limit leaves behind -/

/-- A run that is over and has not reached the limit has begun every task and abandoned none, if no
worker died. -/
theorem complete_of_below (sound : p.Sound) (quiet : p.Quiet) (small : p.total < UInt64.size)
    (hired : 0 < p.workers) (h : ReachesBy p Move.IsGranted (p.begin 0) s)
    (back : s.return? = some (.finished [])) (below : ¬ s.ledger.limit ≤ s.ledger.failures) :
    s.began.Perm (List.range p.total) ∧ s.counters.submitted.toNat = p.total ∧
      s.counters.started.toNat = p.total ∧ s.counters.abandoned.toNat = 0 := by
  have unfired : s.ledger.signal.fired = false := by
    by_contra fired
    exact below ((prompt_of_reaches sound quiet small h).le_of_fired (locked_of_reaches h)
      (by simpa using fired))
  have began := began_perm_range hired h unfired back
  have settled := settled_of_reaches h small (by simp [HasJoined, back])
  have started : s.counters.started.toNat = p.total := by
    rw [settled.started, began.length_eq, List.length_range]
  have submitted := settled.submitted
  have le := settled.submitted_le
  exact ⟨began, by omega, started, by omega⟩

/-- If every task was begun, the results that were counted are those of the list. -/
lemma toNat_get_of_began (steady : p.Steady) (small : p.total < UInt64.size)
    (h : ReachesBy p Move.IsGranted (p.begin 0) s) (back : s.return? = some (.finished []))
    (began : s.began.Perm (List.range p.total)) {k : Counter} (result : k.IsResult)
    {kind : Ending → Bool} (adds : ∀ e : Ending, e.adds k = (kind e).toNat) :
    (s.counters.get k).toNat = countEnding kind p.bodies := by
  have gone := ((staffed_of_reaches h).of_finished back).2.1.all_gone
  have conserved := conserved_of_reaches h
  rw [(counted_of_reaches steady h).toNat_get conserved small gone result,
    total_perm _ ((conserved.ended_perm_began gone).trans began)]
  exact p.total_adds adds

/-- The counts of a run that has not reached the limit are known from the list. -/
theorem counters_eq_complete (sound : p.Sound) (steady : p.Steady) (small : p.total < UInt64.size)
    (hired : 0 < p.workers) (h : ReachesBy p Move.IsGranted (p.begin 0) s)
    (back : s.return? = some (.finished [])) (below : ¬ s.ledger.limit ≤ s.ledger.failures) :
    s.counters = completeCounts p.bodies := by
  obtain ⟨began, submitted, started, abandoned⟩ :=
    complete_of_below sound steady.quiet small hired h back below
  have settled := settled_of_reaches h small (by simp [HasJoined, back])
  have word {n : UInt64} {m : Nat} (shows : n.toNat = m) : n = .ofNat m := by
    rw [← shows, UInt64.ofNat_toNat]
  have result {k : Counter} (hk : k.IsResult) {kind : Ending → Bool}
      (adds : ∀ e : Ending, e.adds k = (kind e).toNat) :
      s.counters.get k = .ofNat (countEnding kind p.bodies) :=
    word (toNat_get_of_began steady small h back began hk adds)
  refine Counters.ext_get fun k => ?_
  cases k with
  | submitted => exact word submitted
  | started => exact word started
  | succeeded => exact result (.inl rfl) Ending.adds_succeeded
  | failed => exact result (.inr (.inl rfl)) Ending.adds_failed
  | panicked => exact result (.inr (.inr rfl)) Ending.adds_panicked
  | abandoned => exact word abandoned
  | live => exact settled.live

end Crew

/-! ## Runs that come back with the complete report -/

namespace Executor

variable {e : Executor} {bodies : List Body} {s : Crew}

/-- If the producer is started, no thread was refused. -/
lemma granted_of_born {kind : Move → Prop}
    (h : Crew.ReachesBy (e.plan bodies) kind (e.begin bodies) s) (born : s.producer ≠ .unborn) :
    Crew.ReachesBy (e.plan bodies) Move.IsGranted (e.begin bodies) s :=
  Crew.granted_of_isFull h ((Crew.staffed_of_reaches h).isFull born)

/-- If the producer is started, a run comes back only if it could begin at all. -/
lemma sound_of_born {kind : Move → Prop}
    (h : Crew.ReachesBy (e.plan bodies) kind (e.begin bodies) s) (born : s.producer ≠ .unborn)
    {r : Return} (back : s.return? = some r) : (e.plan bodies).Sound := by
  rcases Crew.sound_or_panicked (granted_of_born h born) back with sound | rfl
  · exact sound
  · have ended := (Crew.hasEnded_of_isOver (Crew.staffed_of_reaches h) (by simp [Crew.IsOver, back])).2
    rw [back] at ended
    exact absurd ended.2 born

/-- A run below the limit that is over has come back with the complete report. -/
theorem completes_of_isOver {kind : Move → Prop} (steady : (e.plan bodies).Steady)
    (mild : ∀ b ∈ bodies, b.ending.kills = false) (small : bodies.length < UInt64.size)
    (few : (countFailing bodies : Int) < max e.config.errorLimit.toInt 1)
    (h : Crew.ReachesBy (e.plan bodies) kind (e.begin bodies) s) (born : s.producer ≠ .unborn)
    (finished : s.IsOver) : e.Completes bodies s := by
  have granted := granted_of_born h born
  have hired := e.workers_pos bodies
  obtain ⟨r, back⟩ := Option.isSome_iff_exists.1 finished
  have sound := sound_of_born h born back
  rw [Crew.return_eq_finished sound steady mild granted back] at back
  -- the tasks that fail are known, so the ledger is below the limit whichever came first
  have below : ¬ s.ledger.limit ≤ s.ledger.failures := by
    rw [Crew.limit_le_failures_iff (p := e.plan bodies) sound steady small hired granted back]
    exact Int.not_le.2 few
  have counters := Crew.counters_eq_complete (p := e.plan bodies) sound steady small hired granted
    back below
  refine ⟨?_, (Crew.complete_of_below (p := e.plan bodies) sound steady.quiet small hired granted
    back below).1⟩
  rw [report?_of_alive back, reportOn, counters]
  simp [Ledger.limitReached, below, completeReport, plan]

/-- **Below the limit, every task is carried out.** Let tasks of an executor have no way to fire the
signal, and let the run be made of whatever moves. If every task has one ending, none kills a worker
and fewer fail than the limit allows, then from the moment on when all threads are started — the
producer is the last of them — the run cannot but come back, and it comes back with the report that
the list determines and with every task begun once. And whatever the tasks come to, any report that
tells of success says that all tasks were submitted and begun and that none was abandoned. -/
theorem run_exhausts {kind : Move → Prop} (quiet : ∀ b ∈ bodies, b.Quiet)
    (small : bodies.length < UInt64.size)
    (h : Crew.ReachesBy (e.plan bodies) kind (e.begin bodies) s) :
    ((∀ b ∈ bodies, b.Fixed) → (∀ b ∈ bodies, b.ending.kills = false) →
      (countFailing bodies : Int) < max e.config.errorLimit.toInt 1 → s.producer ≠ .unborn →
      (s.IsOver → e.Completes bodies s) ∧
        ∀ run : Nat → Crew, run 0 = s → Crew.IsMaximal (e.plan bodies) kind run →
          ∃ n, e.Completes bodies (run n)) ∧
    ∀ r : Report, e.report? bodies s = some (.returned (.ok r)) → r.outcome = .success →
      r.stats.counters.submitted.toNat = bodies.length ∧
        r.stats.counters.started.toNat = bodies.length ∧ r.stats.counters.abandoned = 0 := by
  refine ⟨fun fixed mild few born => ?_, ?_⟩
  · have steady : (e.plan bodies).Steady := fun b mem => ⟨fixed b mem, quiet b mem⟩
    refine ⟨completes_of_isOver steady mild small few h born, ?_⟩
    rintro run rfl maximal
    obtain ⟨n, -, -, ended⟩ := maximal.exists_hasEnded (p := e.plan bodies) h
    have reached := maximal.isRun.reaches n
    exact ⟨n, completes_of_isOver steady mild small few (h.trans reached)
      (Crew.born_of_reaches reached born) ended.isOver⟩
  · intro r report success
    obtain ⟨back, rfl⟩ := report?_eq_ok report
    have born := ((Crew.staffed_of_reaches (p := e.plan bodies) h).of_finished back).1.2.1
    have below : ¬ s.ledger.limit ≤ s.ledger.failures := by
      rw [← e.outcome_reportOn, success]
      simp
    obtain ⟨-, submitted, started, abandoned⟩ := Crew.complete_of_below (p := e.plan bodies)
      (sound_of_born h born back) quiet small (e.workers_pos bodies) (granted_of_born h born) back
      below
    exact ⟨submitted, started, UInt64.toNat_inj.1 abandoned⟩

/-- An executor of two workers that puts up with one failure. -/
def lenientPair : Executor :=
  ⟨plainName, { workerCount := 2, errorLimit := 2 }, by decide⟩

theorem run_exhausts_lenientPair :
    lenientPair.Completes Plan.threeTasks.bodies
      (Crew.drive (lenientPair.plan Plan.threeTasks.bodies) 100
        (lenientPair.begin Plan.threeTasks.bodies)) ∧
      lenientPair.completeReport Plan.threeTasks.bodies =
        ⟨.success, ⟨2, { submitted := 3, started := 3, succeeded := 2, failed := 1, panicked := 1 }⟩⟩ := by
  have quiet : ∀ b ∈ Plan.threeTasks.bodies, b.Quiet := by simp [Plan.threeTasks, Body.Quiet]
  have fixed : ∀ b ∈ Plan.threeTasks.bodies, b.Fixed := by
    simp [Plan.threeTasks, Body.Fixed, Body.Ends]
  have reached : Crew.Reaches (lenientPair.plan Plan.threeTasks.bodies)
      (lenientPair.begin Plan.threeTasks.bodies) _ :=
    Crew.reaches_drive (lenientPair.plan Plan.threeTasks.bodies) 100 .refl
  refine ⟨?_, by rfl⟩
  exact ((run_exhausts quiet (by decide) reached).1 fixed (by decide) (by decide)
    (by decide +kernel)).1 (by decide +kernel)

end Executor

end TaskCrew
