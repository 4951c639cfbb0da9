import TaskCrew.Proofs.Refusal

/-!
# A start that is broken off leaves nothing behind

Workers are started before the producer, so as long as the producer is not started they find nothing to
do. If a thread is refused then, the starter gets all of them out again, wherever they stand, and the run
comes back as if it had never begun.

* `Worker.isIdle`, `Crew.Untouched` — workers that have met with no task, and a run in which all are so;
* `untouched_of_reaches` — a run is untouched as long as the producer is not started;
* `exists_refused` — any of the threads may be the one that is refused;
* `Crew.Traceless` — nothing has come of a run;
* `Crew.FailsWith`, `Crew.Unwound` — the words of the error that a run comes back with, and how it comes back
  when a thread was refused;
* `run_unwinds` — whichever thread is refused, the run unwinds.
-/

namespace TaskCrew

/-- A worker has met with no task yet, or has left without one. -/
def Worker.isIdle : Worker → Bool
  | .entering | .checking | .selecting => true
  | .leaving died | .releasing died | .gone died => !died
  | _ => false

namespace Crew

variable {p : Plan} {kind : Move → Prop} {outsiders k : Nat} {r : Refusal} {w w' : Worker} {s t u s' : Crew}

/-- No worker has met with a task, and nothing is counted but threads under way. -/
structure Untouched (s : Crew) : Prop where
  idle : ∀ w ∈ s.workers, w.isIdle = true
  queue : s.queue = []
  counters : s.counters = { live := UInt64.ofNat (total Worker.lives s.workers) }
  failures : s.ledger.failures = 0

/-! ## Every turn keeps a run untouched -/

/-- A worker that finds no task meets with none, and counts itself alone. -/
lemma WorkerTurn.isIdle (h : WorkerTurn p k s w w' s') (idle : w.isIdle = true)
    (empty : s.queue = []) (unborn : s'.producer = .unborn) :
    w'.isIdle = true ∧ s'.queue = [] ∧ s'.ledger = s.ledger ∧
      (w.lives = w'.lives ∧ s'.counters = s.counters ∨
        w.lives = 0 ∧ w'.lives = 1 ∧ s'.counters = s.counters.count .live ∨
        w.lives = 1 ∧ w'.lives = 0 ∧ s'.counters = s.counters.leave) := by
  cases h
  case enter => exact ⟨rfl, empty, rfl, .inr (.inl ⟨rfl, rfl, rfl⟩)⟩
  case leave => exact ⟨idle, empty, rfl, .inr (.inr ⟨rfl, rfl, rfl⟩)⟩
  case cancelled | wait | closed | woken => exact ⟨rfl, empty, rfl, .inl ⟨rfl, rfl⟩⟩
  case release => exact ⟨idle, empty, rfl, .inl ⟨rfl, rfl⟩⟩
  case receive front => rw [empty] at front; cases front
  case handOver => cases unborn
  all_goals cases idle

lemma Untouched.worker (h : s.Untouched) (place : s.workers[k]? = some w)
    (unborn : s'.producer = .unborn) (turn : WorkerTurn p k s w w' s') :
    (s'.setWorker k w').Untouched := by
  have workers := turn.setWorker_workers
  have lives := total_set Worker.lives w' place
  obtain ⟨idle, empty, ledger, counted⟩ :=
    turn.isIdle (h.idle w (List.mem_of_getElem? place)) h.queue unborn
  refine ⟨?_, empty, ?_, (congrArg Ledger.failures ledger).trans h.failures⟩
  · intro x mem
    rw [workers] at mem
    rcases List.mem_or_eq_of_mem_set mem with mem | rfl
    · exact h.idle x mem
    · exact idle
  · show s'.counters = _
    rw [workers]
    rcases counted with ⟨same, counters⟩ | ⟨out, here, counters⟩ | ⟨here, out, counters⟩
    · have eq : total Worker.lives (s.workers.set k w') = total Worker.lives s.workers := by omega
      rw [counters, h.counters, eq]
    · have eq : total Worker.lives (s.workers.set k w') = total Worker.lives s.workers + 1 := by omega
      rw [counters, h.counters, eq, UInt64.ofNat_add]
      rfl
    · have eq : total Worker.lives (s.workers.set k w') + 1 = total Worker.lives s.workers := by omega
      rw [counters, h.counters, ← eq, UInt64.ofNat_add, Counters.leave]
      simp

/-- A turn keeps a run untouched if it does not start the producer. -/
lemma Untouched.turn {m : Move} (h : s.Untouched) (unborn : t.producer = .unborn)
    (turn : Turn p s m t) : t.Untouched := by
  cases turn with
  | worker place turn => exact h.worker place unborn turn
  | producer place turn => exact absurd unborn turn.ne_unborn.2.1
  | @starter c q q' s' place turn =>
    have lives : total Worker.lives s'.workers = total Worker.lives s.workers :=
      turn.total_workers _ rfl
    refine ⟨?_, turn.queue_eq.trans h.queue, ?_, ?_⟩
    · intro x mem
      rcases turn.mem_workers mem with mem | rfl
      · exact h.idle x mem
      · rfl
    · show s'.counters = { live := UInt64.ofNat (total Worker.lives s'.workers) }
      rw [lives, ← h.counters]
      cases turn with
      -- nothing is left over where nothing was submitted
      | settle =>
        show s.counters.add .abandoned s.counters.leftover = s.counters
        rw [h.counters]
        simp [Counters.leftover, Counters.add]
      | _ => rfl
    · cases turn <;> exact h.failures
  | outsider place turn => cases turn <;> exact ⟨h.idle, h.queue, h.counters, h.failures⟩

/-- As long as the producer is not started, a run is untouched. -/
theorem untouched_of_reaches (h : ReachesBy p kind (p.begin outsiders) s)
    (unborn : s.producer = .unborn) : s.Untouched := by
  refine h.invariant (I := fun s => s.producer = .unborn → s.Untouched) ?_ ?_ unborn
  · exact fun _ => ⟨nofun, rfl, rfl, rfl⟩
  · intro m u v _ _ turn untouched unborn
    refine (untouched ?_).turn unborn turn
    by_contra born
    exact turn.born born unborn

/-! ## A thread is refused -/

lemma refused?_eq_none_of_isFull {q : Starter} (h : q.IsFull) : q.refused? = none := by
  cases q with
  | starting => rfl
  | closing | aborting => exact h.elim
  | joining _ _ refused | settling _ refused =>
    cases refused with
    | none => rfl
    | some r => exact h.elim
  | returned back =>
    cases back with
    | finished dead => rfl
    | refused | panicked => exact h.elim

/-- Any worker, or the producer, may be the first thread that is refused. -/
lemma exists_refused (sound : p.Sound) (outsiders : Nat) (le : k ≤ p.workers) (why : String) :
    ∃ s, Reaches p (p.begin outsiders) s ∧ s.starter = .starting k ∧
      (s.step? p ⟨.starter, .refused why⟩).isSome := by
  have started : ∃ s, Reaches p (p.begin outsiders) s ∧ s.starter = .starting k := by
    induction k with
    | zero => exact ⟨_, .refl, rfl⟩
    | succ k ih =>
      obtain ⟨s, reached, place⟩ := ih (Nat.le_of_succ_le le)
      refine ⟨({ s with workers := s.workers ++ [.entering] } : Crew).setStarter (.starting (k + 1)),
        .tail ⟨.starter, .usual⟩ reached trivial ?_, rfl⟩
      have few : k < p.workers := le
      simp [step?, starterStep?, place, startStep?, sound, few]
  obtain ⟨s, reached, place⟩ := started
  exact ⟨s, reached, place, by simp [step?, starterStep?, place, startStep?, sound]⟩

/-- No task was handed over, received, begun or dropped, and nothing was counted but threads under
way. -/
structure Traceless (s : Crew) : Prop where
  tasks : s.sent = [] ∧ s.received = [] ∧ s.began = [] ∧ s.dropped = []
  counted : ∀ c, c ≠ .live → s.counters.get c = 0
  failures : s.ledger.failures = 0

/-- As long as the producer is not started, nothing has come of a run. -/
lemma traceless_of_unborn (h : ReachesBy p kind (p.begin outsiders) s) (unborn : s.producer = .unborn) :
    s.Traceless := by
  have untouched := untouched_of_reaches h unborn
  obtain ⟨received, began, -⟩ := idle_of_unborn h unborn
  have dropped : s.dropped = [] := by
    have split := (conserved_of_reaches h).received_perm.length_eq
    rw [received, List.length_append, List.length_append] at split
    exact List.length_eq_zero_iff.1 (by simp only [List.length_nil] at split; omega)
  refine ⟨⟨sent_eq_nil_of_unborn h unborn, received, began, dropped⟩, ?_, untouched.failures⟩
  intro c other
  rw [untouched.counters]
  cases c with
  | live => exact absurd rfl other
  | _ => rfl

/-- The threads of a run come back with an error of these words, and so does every call that had its tasks
run, whatever a runtime would say of a run that broke off. -/
def FailsWith (p : Plan) (s : Crew) (words : String) : Prop :=
  s.return?.map (Return.result p) = some (.returned (.error (.internal words))) ∧
    ∀ (e : Executor) (bodies : List Body) (entry : Entry) (lost : String), e.plan bodies = p →
      (e.report? bodies s).map (entry.result lost) = some (.returned (.error (.internal words)))

/-- A run has come back with an error that names the thread that was refused after so many others, which is
the next worker, or the producer after all workers, and goes on with what the system said. The signal is
fired, and the workers that were started have left alive and taken themselves off. -/
structure Unwound (p : Plan) (started : Nat) (why : String) (s : Crew) : Prop where
  worker : started < p.workers → s.FailsWith p
    ("failed to spawn " ++ (p.config.threadNamePrefix ++ "-" ++ toString started) ++ ": " ++ why)
  producer : started = p.workers → s.FailsWith p
    ("failed to spawn " ++ (p.config.threadNamePrefix ++ "-producer") ++ ": " ++ why)
  fired : s.ledger.signal.fired = true
  ended : s.workers.length = started ∧ (∀ w ∈ s.workers, w = .gone false) ∧ s.producer = .unborn
  live : s.counters.live = 0

/-- A run that has come back with the thread that was refused fails with its name. -/
lemma failsWith_of_refused (back : s.return? = some (.refused r)) :
    s.FailsWith p ("failed to spawn " ++ p.threadName r.started ++ ": " ++ r.why) := by
  refine ⟨by rw [back]; rfl, ?_⟩
  rintro e bodies entry lost rfl
  rw [Executor.report?, back]
  cases entry <;> rfl

/-- A run that was refused a thread is unwound when it is over. -/
lemma unwound_of_isOver (h : ReachesBy p kind (p.begin outsiders) s)
    (refused : s.starter.refused? = some r) (finished : s.IsOver) : s.Unwound p r.started r.why := by
  have back := return_of_refused? refused finished
  obtain ⟨gone, ended⟩ := hasEnded_of_isOver (staffed_of_reaches h) finished
  rw [back] at ended
  have untouched := untouched_of_reaches h ended.2
  have fails := failsWith_of_refused (p := p) back
  refine ⟨fun few => ?_, fun all => ?_, fired_of_refused h back, ⟨ended.1, ?_, ended.2⟩, ?_⟩
  · rwa [Plan.threadName, if_pos few] at fails
  · rwa [Plan.threadName, if_neg (by omega)] at fails
  · intro w mem
    obtain ⟨died, rfl⟩ := gone w mem
    have idle := untouched.idle _ mem
    cases died with
    | true => cases idle
    | false => rfl
  · have none : total Worker.lives s.workers = 0 := total_of_gone (fun _ => rfl) gone
    rw [untouched.counters, none]
    rfl

/-- **A start that is broken off leaves nothing behind.** If a run can begin at all, any of its threads may
be the first that is refused: one of the workers, or the producer after all workers. However a run is made
up to there, and however its workers go on while the starter gets them out: no task is ever handed over,
received, begun or counted, and the run comes to its end. It comes back with the error that names the
thread and goes on with what the system said, whatever call it was made by; and then the signal is fired,
and the workers that were started have left. -/
theorem run_unwinds (p : Plan) (outsiders : Nat) :
    (p.Sound → ∀ k ≤ p.workers, ∀ why, ∃ s, Reaches p (p.begin outsiders) s ∧
      s.starter = .starting k ∧ (s.step? p ⟨.starter, .refused why⟩).isSome) ∧
    ∀ k why s t, Reaches p (p.begin outsiders) s → s.starter = .starting k →
      s.step? p ⟨.starter, .refused why⟩ = some t →
      (k ≤ p.workers ∧ s.workers.length = k ∧ s.producer = .unborn) ∧
      (∀ u, Reaches p t u → u.Traceless ∧ (u.IsOver → u.Unwound p k why)) ∧
      ∀ (kind : Move → Prop) (run : Nat → Crew), run 0 = t → IsMaximal p kind run →
        ∃ n, (run n).IsOver := by
  refine ⟨fun sound k le why => exists_refused sound outsiders le why, ?_⟩
  intro k why s t h place step
  have reached : Reaches p (p.begin outsiders) t := .tail _ h trivial step
  have staffed := staffed_of_reaches h
  rw [Staffed, place] at staffed
  obtain ⟨⟨length, le, unborn, -⟩, -⟩ := staffed
  have refused : t.starter.refused? = some ⟨k, why⟩ := by
    obtain ⟨q, s', turn, rfl⟩ := exists_starterTurn (s := s) (c := .refused why) step
    rw [place] at turn
    cases turn with
    | refused => rfl
  refine ⟨⟨le, length, unborn⟩, fun u goesOn => ⟨?_, ?_⟩, ?_⟩
  · -- a starter that was refused a thread starts no more
    refine traceless_of_unborn (reached.trans goesOn) ?_
    by_contra born
    have full := (staffed_of_reaches (reached.trans goesOn)).isFull born
    have still := refused?_of_reaches goesOn refused
    rw [refused?_eq_none_of_isFull full] at still
    cases still
  · exact unwound_of_isOver (reached.trans goesOn) (refused?_of_reaches goesOn refused)
  · rintro kind run rfl maximal
    obtain ⟨n, -, -, ended⟩ := maximal.exists_hasEnded reached
    exact ⟨n, ended.isOver⟩

/-- Two workers are started; the first waits for a task, and the second has not begun. -/
def waitingPair : Crew :=
  (Plan.threeTasks.begin 0).follow .threeTasks
    ([.starter, .starter, .worker 0, .worker 0].map (⟨·, .usual⟩))

/-- The producer is refused. The first worker finds the queue closed before the signal is fired, the second
finds the flag set. -/
def unwoundPair : Crew :=
  (waitingPair.follow .threeTasks [⟨.starter, .refused "too many threads"⟩]).follow .threeTasks
    ([.starter, .worker 0, .starter, .starter, .starter, .starter, .starter, .worker 1, .worker 1,
      .worker 1, .worker 1, .worker 0, .worker 0, .starter, .starter, .starter, .starter].map
      (⟨·, .usual⟩))

theorem run_unwinds_waitingPair :
    unwoundPair.IsOver ∧ unwoundPair.Traceless ∧
      unwoundPair.FailsWith .threeTasks "failed to spawn bx-worker-producer: too many threads" := by
  have reached : Reaches .threeTasks (Plan.threeTasks.begin 0) waitingPair := reaches_follow _ _ _
  have onward : Reaches .threeTasks
      (waitingPair.follow .threeTasks [⟨.starter, .refused "too many threads"⟩]) unwoundPair :=
    reaches_follow _ _ _
  have refused := step?_eq_some_follow (p := .threeTasks) (s := waitingPair)
    (m := ⟨.starter, .refused "too many threads"⟩) (by decide +kernel)
  have finished : unwoundPair.IsOver := by decide +kernel
  obtain ⟨-, unwinds, -⟩ :=
    (run_unwinds .threeTasks 0).2 2 _ waitingPair _ reached (by decide +kernel) refused
  obtain ⟨traceless, unwound⟩ := unwinds unwoundPair onward
  exact ⟨finished, traceless, (unwound finished).producer (by decide)⟩

end Crew

end TaskCrew
