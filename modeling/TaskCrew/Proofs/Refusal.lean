import TaskCrew.Proofs.Cancellation
import TaskCrew.Proofs.Verdict

/-!
# Threads that cannot be started

A run that can begin answers, whatever happens: with a report, with the workers that died, or with the
thread that was refused. A refused thread is reported after the signal is fired and all threads that were
started have ended.

* `Starter.refused?`, `refused?_of_reaches` — a starter that was refused a thread remembers which;
* `Crew.Aborted`, `aborted_of_reaches` — it joins threads only after the signal is fired;
* `Executor.Refuses` — a run comes back with the thread that was refused, all others ended;
* `run_answers` — a run that can begin answers, and every refused thread is reported;
* `not_answers_nullNamed` — but a configuration may pass its checks and not let a run begin.

A run can begin if its threads can have their names, and if the queue and the list of threads fit into
objects. The checks of a configuration ask for neither, and then the call breaks off.
-/

namespace TaskCrew

/-- The thread that a starter was refused, if it was refused one. -/
def Starter.refused? : Starter → Option Refusal
  | .closing r | .aborting r _ => some r
  | .joining _ _ refused | .settling _ refused => refused
  | .returned (.refused r) => some r
  | _ => none

namespace Crew

variable {p : Plan} {kind : Move → Prop} {outsiders : Nat} {r : Refusal} {s t : Crew}

/-! ## The refused thread -/

/-- A starter that was refused a thread goes on to know which. -/
lemma Turn.refused?_eq {m : Move} (h : Turn p s m t) (refused : s.starter.refused? = some r) :
    t.starter.refused? = some r := by
  obtain same | ⟨c, q, q', s', -, place, moved, rfl⟩ := h.starter_or
  · rw [same]
    exact refused
  rw [place] at refused
  cases moved with
  | breakOff | startWorker | startProducer | refused => cases refused
  | close | fire | endFiring | joinDead | join | joinLast => exact refused
  | @settle dead found events incidental =>
    have found_eq : found = some r := refused
    rw [found_eq]
    rfl

lemma refused?_of_reaches (h : ReachesBy p kind s t) (refused : s.starter.refused? = some r) :
    t.starter.refused? = some r :=
  h.invariant (I := fun t => t.starter.refused? = some r) refused fun _ _ turn => turn.refused?_eq

/-- A starter that was refused a thread comes back with it. -/
lemma return_of_refused? (refused : s.starter.refused? = some r) (finished : s.IsOver) :
    s.return? = some (.refused r) := by
  cases hq : s.starter with
  | returned back =>
    rw [hq] at refused
    cases back with
    | refused r =>
      cases refused
      simp [return?, hq]
    | finished | panicked => cases refused
  | _ => simp [IsOver, return?, hq] at finished

/-! ## The signal is fired first -/

/-- A starter that was refused a thread and is past setting the flag. -/
def Starter.hasFired : Starter → Bool
  | .aborting _ .dispose | .aborting _ (.release _) => true
  | .joining _ _ (some _) | .settling _ (some _) | .returned (.refused _) => true
  | _ => false

/-- A starter that was refused a thread joins threads only after the flag is set. -/
def Aborted (s : Crew) : Prop :=
  Starter.hasFired s.starter = true → s.ledger.signal.fired = true

lemma Aborted.turn {m : Move} (h : s.Aborted) (locked : s.Locked) (turn : Turn p s m t) :
    t.Aborted := by
  intro past
  have stays (before : Starter.hasFired s.starter = true) : t.ledger.signal.fired = true :=
    turn.fired (h before)
  obtain same | ⟨c, q, q', s', -, place, moved, rfl⟩ := turn.starter_or
  · rw [same] at past
    exact stays past
  rw [place] at stays
  cases moved with
  | breakOff | startWorker | startProducer | refused | close => cases past
  | @fire r f f' g step =>
    cases Firing.turn_of_step? step with
    | acquire | take => cases past
    | miss unarmed =>
      -- the call has the lock, so whoever took the token has set the flag
      refine locked.fired_of_takes ?_ unarmed
      rw [calling, place]
      show 0 < 1 + _ + _
      omega
    | store => rfl
    | dispose => exact stays rfl
  | endFiring step =>
    obtain ⟨rfl, -⟩ := Firing.eq_release_of_step? step
    exact stays rfl
  | @joinDead _ _ refused | @join _ _ refused | @joinLast _ _ refused | @settle _ refused =>
    cases refused with
    | none => cases past
    | some r => exact stays rfl

lemma aborted_of_reaches (h : ReachesBy p kind (p.begin outsiders) s) : s.Aborted :=
  h.invariant nofun fun reached _ turn aborted => aborted.turn (locked_of_reaches reached) turn

/-- A run comes back with a thread that was refused only after the flag is set. -/
lemma fired_of_refused (h : ReachesBy p kind (p.begin outsiders) s)
    (back : s.return? = some (.refused r)) : s.ledger.signal.fired = true := by
  apply aborted_of_reaches h
  cases hq : s.starter with
  | returned found =>
    have same : found = .refused r := by simpa [return?, hq] using back
    rw [same]
    rfl
  | _ => simp [return?, hq] at back

end Crew

/-! ## Answers -/

namespace Executor

variable {e : Executor} {bodies : List Body} {s : Crew}

/-- A run has come back with the thread that was refused: the error names it and says why, the signal is
fired, no more threads were started, they have ended, and no task was begun. -/
structure Refuses (e : Executor) (bodies : List Body) (r : Refusal) (s : Crew) : Prop where
  report : e.report? bodies s = some (.returned (.error (.ofInternalFault
    (.notStarted ((e.plan bodies).threadName r.started) r.why))))
  fired : s.ledger.signal.fired = true
  started : s.workers.length = r.started ∧ s.producer = .unborn
  ended : ∀ w ∈ s.workers, ∃ died, w = .gone died
  began : s.began = []

/-- A run answers: it has come to a report or an error. -/
def Answers (e : Executor) (bodies : List Body) (s : Crew) : Prop :=
  ∃ answer, e.report? bodies s = some (.returned answer)

/-- A run that is over answers if it could begin. -/
lemma answers_of_isOver {kind : Move → Prop} (sound : (e.plan bodies).Sound)
    (h : Crew.ReachesBy (e.plan bodies) kind (e.begin bodies) s) (finished : s.IsOver) :
    e.Answers bodies s := by
  have going := Crew.starter_of_sound (p := e.plan bodies) sound h
  cases hq : s.starter with
  | returned r =>
    have back : s.return? = some r := by simp [Crew.return?, hq]
    cases r with
    | finished dead =>
      cases dead with
      | nil => exact ⟨_, report?_of_alive back⟩
      | cons k dead => exact ⟨_, by rw [report?, back]; rfl⟩
    | refused r => exact ⟨_, by rw [report?, back]; rfl⟩
    | panicked => exact absurd hq going
  | _ => simp [Crew.IsOver, Crew.return?, hq] at finished

/-- A run that is over has come back with the thread that was refused, if one was. -/
lemma refuses_of_isOver {kind : Move → Prop} {r : Refusal}
    (h : Crew.ReachesBy (e.plan bodies) kind (e.begin bodies) s)
    (refused : s.starter.refused? = some r) (finished : s.IsOver) : e.Refuses bodies r s := by
  have back := Crew.return_of_refused? refused finished
  obtain ⟨gone, ended⟩ :=
    Crew.hasEnded_of_isOver (Crew.staffed_of_reaches (p := e.plan bodies) h) finished
  rw [back] at ended
  refine ⟨by rw [report?, back]; rfl, Crew.fired_of_refused (p := e.plan bodies) h back, ended, gone, ?_⟩
  exact (Crew.idle_of_unborn (p := e.plan bodies) h ended.2).2.1

/-- A run that cannot begin starts no thread, and breaks off. -/
lemma breaksOff_of_unsound {kind : Move → Prop} (unsound : ¬ (e.plan bodies).Sound)
    (h : Crew.ReachesBy (e.plan bodies) kind (e.begin bodies) s) :
    s.workers = [] ∧ s.producer = .unborn ∧ s.began = [] ∧
      (s.IsOver → e.report? bodies s = some .panicked) := by
  have none := Crew.unmanned_of_unsound (p := e.plan bodies) unsound h
  refine ⟨none.1, none.2, (Crew.idle_of_unborn (p := e.plan bodies) h none.2).2.1, fun finished => ?_⟩
  obtain ⟨r, back⟩ := Option.isSome_iff_exists.1 finished
  obtain rfl := (Crew.sound_or_panicked (p := e.plan bodies) h back).resolve_left unsound
  rw [report?, back]
  rfl

/-- **Whatever cannot be started is reported, if the run can begin.** Let a run of an executor be made of
whatever moves, and let tasks do whatever they do. It cannot but come back. If its threads can have their
names and what it needs fits into objects, it answers, with a report or with an error; and from the moment
on when a thread is refused, it joins threads only after the signal is fired, and comes back only with the
error that names the thread and says why, with all threads that were started ended and no task begun. If
the run cannot begin, no thread is started and the call breaks off. -/
theorem run_answers {kind : Move → Prop}
    (h : Crew.ReachesBy (e.plan bodies) kind (e.begin bodies) s) :
    (∀ run : Nat → Crew, run 0 = s → Crew.IsMaximal (e.plan bodies) kind run →
      ∃ n, (run n).IsOver) ∧
    ((e.plan bodies).Sound → s.IsOver → e.Answers bodies s) ∧
    (∀ joined dead r, s.starter = .joining joined dead (some r) → s.ledger.signal.fired = true) ∧
    (∀ r, s.starter.refused? = some r → ∀ t, Crew.ReachesBy (e.plan bodies) kind s t →
      t.IsOver → e.Refuses bodies r t) ∧
    (¬ (e.plan bodies).Sound → s.workers = [] ∧ s.producer = .unborn ∧ s.began = [] ∧
      (s.IsOver → e.report? bodies s = some .panicked)) := by
  refine ⟨?_, fun sound => answers_of_isOver sound h, ?_, ?_, ?_⟩
  · rintro run rfl maximal
    obtain ⟨n, -, -, ended⟩ := maximal.exists_hasEnded (p := e.plan bodies) h
    exact ⟨n, ended.isOver⟩
  · intro joined dead r joining
    exact Crew.aborted_of_reaches (p := e.plan bodies) h (by rw [joining]; rfl)
  · intro r refused t reached finished
    exact refuses_of_isOver (h.trans reached) (Crew.refused?_of_reaches reached refused) finished
  · exact fun unsound => breaksOff_of_unsound unsound h

/-- The first of two workers is started and the second refused. -/
def refusedPair : Crew :=
  (pair.begin [.done .success]).follow (pair.plan [.done .success])
    [⟨.starter, .usual⟩, ⟨.starter, .refused "too many threads"⟩]

/-- The starter closes the queue, fires the signal and joins the first worker, which leaves. -/
def endedPair : Crew :=
  refusedPair.follow (pair.plan [.done .success])
    ([.starter, .starter, .starter, .starter, .starter, .starter, .worker 0, .worker 0, .worker 0,
      .worker 0, .starter, .starter, .starter].map (⟨·, .usual⟩))

theorem run_answers_pair :
    pair.Refuses [.done .success] ⟨1, "too many threads"⟩ endedPair ∧
      pair.Answers [.done .success] endedPair := by
  have reached : Crew.Reaches (pair.plan [.done .success]) (pair.begin [.done .success]) refusedPair :=
    Crew.reaches_follow _ _ _
  have onward : Crew.Reaches (pair.plan [.done .success]) refusedPair endedPair :=
    Crew.reaches_follow _ _ _
  have finished : endedPair.IsOver := by decide +kernel
  obtain ⟨-, -, -, refuses, -⟩ := run_answers reached
  obtain ⟨-, answers, -⟩ := run_answers (reached.trans onward)
  exact ⟨refuses _ (by decide +kernel) endedPair onward finished, answers (by decide) finished⟩

/-- An executor of two workers whose names hold a null character. -/
def nullNamed : Executor :=
  ⟨plainName, { workerCount := 2, threadNamePrefix := "a\x00b" }, by decide⟩

/-- The checks of a configuration are not enough for a run to answer: names may hold a null character. -/
theorem not_answers_nullNamed :
    ¬ ∀ s, Crew.Reaches (nullNamed.plan [.done .success]) (nullNamed.begin [.done .success]) s →
      s.IsOver → nullNamed.Answers [.done .success] s := by
  intro answers
  have reached := Crew.reaches_follow (nullNamed.plan [.done .success]) [⟨.starter, .usual⟩]
    (nullNamed.begin [.done .success])
  obtain ⟨answer, report⟩ := answers _ reached (by decide +kernel)
  have broken : nullNamed.report? [.done .success]
      ((nullNamed.begin [.done .success]).follow (nullNamed.plan [.done .success])
        [⟨.starter, .usual⟩]) = some .panicked := by rfl
  rw [broken] at report
  cases report

end Executor

end TaskCrew
