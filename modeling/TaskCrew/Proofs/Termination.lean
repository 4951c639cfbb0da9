import TaskCrew.Crew.Drive
import TaskCrew.Proofs.Conservation

/-!
# Every run comes to an end

No run gets stuck and none goes on forever: every step lowers the cost of a run, and as long as a
thread of the run has not ended, one of the threads can take a step.

* `Turn.cost_lt` — every turn lowers the cost of a staffed run;
* `Crew.Due` — the moves that do not depend on anything outside the run;
* `canGoOn` — a run that is not over has a move of this kind that is possible;
* `IsMaximal`, `IsMaximal.exists_hasEnded` — a run that goes on for as long as it can has ended after as
  many steps as it costs at most;
* `run_ends` — every run comes to its end, and is over only when every thread has ended.

A thread that waits for a lock waits for one that has it and can go on. With all locks free, only a
worker that waits for a task, a producer that waits for room and a starter that waits for a thread
may be unable to go on, and then the queue, with what the starter knows of the threads, shows that
they do not wait for each other.
-/

namespace TaskCrew

lemma Body.GoesOn.cost_lt {body rest : Body} (h : body.GoesOn rest) : rest.cost < body.cost := by
  cases h with
  | @act a rest calm => cases a <;> simp_all [cost, Action.cost]
  | left => simp only [cost]; omega
  | right => simp only [cost]; omega

lemma Worker.cost_after_lt (e : Ending) : (Worker.after e).cost < 16 := by
  cases e <;> simp [Worker.after, Worker.cost]

namespace Crew

variable {p : Plan} {s t : Crew}

/-! ## Every step lowers the cost -/

/-- The cost of what workers and the producer share. -/
def handingCost (s : Crew) : Nat :=
  s.producer.cost + unsentCost s.unsent + queueCost s.queue

lemma cost_eq (p : Plan) (s : Crew) : s.cost p =
    s.starter.cost p.workers + s.handingCost + total Worker.cost s.workers
      + outsiderCost s.outsiders := by
  simp only [cost, handingCost]
  omega

lemma WorkerTurn.cost_lt {k : Nat} {w w' : Worker} {s' : Crew} (h : WorkerTurn p k s w w' s') :
    w'.cost + s'.handingCost < w.cost + s.handingCost := by
  cases h
  case receive front =>
    simp only [Worker.cost, handingCost, Crew.record, front, queueCost, total]
    omega
  case handOver empty _ offered next _ =>
    simp only [Worker.cost, handingCost, Crew.record, offered, next, unsentCost, total,
      Producer.cost]
    omega
  case proceed goesOn _ _ _ => simpa [Worker.cost, handingCost, note] using goesOn.cost_lt
  case finish e _ _ =>
    have := Worker.cost_after_lt e
    simpa [Worker.cost, handingCost, note, Crew.record, Body.cost] using this
  case beginFiring =>
    simp only [Worker.cost, Body.cost, Action.cost, Firing.cost]
    omega
  case fire step =>
    simpa [Worker.cost, handingCost, withSignal] using Firing.cost_of_step? step
  case endFiring f _ _ _ => simpa [Worker.cost, handingCost, withSignal] using f.cost_pos
  case record step _ _ =>
    simpa [Worker.cost, handingCost, withLedger, note] using Recording.cost_of_step? step
  case endRecording r _ _ _ => simpa [Worker.cost, handingCost, withLedger] using r.cost_pos
  all_goals
    simp only [Worker.cost, handingCost, Crew.count, Crew.leave, Crew.record, resign, log,
      Recording.cost]
    omega

lemma ProducerTurn.cost_lt {q q' : Producer} {s' : Crew} (h : ProducerTurn p s q q' s') :
    (s'.setProducer q').handingCost < (s.setProducer q).handingCost := by
  cases h
  case send next _ _ =>
    simp only [handingCost, setProducer, Crew.record, next, unsentCost, queueCost, total,
      total_append, Producer.cost]
    omega
  all_goals
    simp [handingCost, setProducer, Producer.cost, Crew.count, Crew.leave, log, Crew.record]

/-- A starter that joins a thread has one fewer to join, and one that starts a thread passes part of
its cost on to it. -/
lemma StarterTurn.cost_lt {c : Choice} {q q' : Starter} {s' : Crew}
    (h : StarterTurn p s c q q' s') (staffed : (s.setStarter q).Staffed p) :
    q'.cost p.workers + s'.handingCost + total Worker.cost s'.workers <
      q.cost p.workers + s.handingCost + total Worker.cost s.workers := by
  cases h
  case startWorker sound few =>
    simp only [Starter.cost, handingCost, total_append, total, Worker.cost]
    omega
  case startProducer sound all =>
    obtain ⟨⟨-, -, unborn, -⟩, -⟩ := staffed
    have unborn : s.producer = .unborn := unborn
    simp only [Starter.cost, handingCost, setProducer, unborn, Producer.cost]
    omega
  case joinDead joined _ refused gone =>
    obtain ⟨manned, -⟩ := staffed
    have le := manned.length_le
    have lt := (List.getElem?_eq_some_iff.1 gone).1
    simp only [setStarter] at le
    simp only [Starter.cost, handingCost, log, Crew.record]
    omega
  case join joined _ refused gone =>
    obtain ⟨manned, -⟩ := staffed
    have le := manned.length_le
    have lt := (List.getElem?_eq_some_iff.1 gone).1
    simp only [setStarter] at le
    simp only [Starter.cost]
    omega
  case joinLast joined _ refused _ _ =>
    obtain ⟨manned, hj⟩ := staffed
    have le := manned.length_le
    have := hj.le
    simp only [setStarter] at le this
    simp only [Starter.cost]
    omega
  case fire step =>
    have := Firing.cost_of_step? step
    simp only [Starter.cost, handingCost, withSignal]
    omega
  case endFiring f _ _ _ =>
    have := f.cost_pos
    simp only [Starter.cost, handingCost, withSignal]
    omega
  all_goals
    simp only [Starter.cost, handingCost, log, Crew.record, note, Firing.cost]
    omega

lemma OutsiderTurn.cost_lt {f : Firing} {f' : Option Firing} {s' : Crew}
    (h : OutsiderTurn s f f' s') : (f'.map Firing.cost).getD 0 < f.cost := by
  cases h with
  | fire step => exact Firing.cost_of_step? step
  | endFiring step => exact f.cost_pos

/-- Every turn lowers the cost of a staffed run. -/
theorem Turn.cost_lt {m : Move} (h : Turn p s m t) (staffed : s.Staffed p) :
    t.cost p < s.cost p := by
  rw [cost_eq, cost_eq]
  cases h with
  | @worker k c w w' s' place turn =>
    have lt := turn.cost_lt
    have set := total_set Worker.cost w' place
    have handing : (s'.setWorker k w').handingCost = s'.handingCost := rfl
    have workers := turn.setWorker_workers
    have starter : (s'.setWorker k w').starter = s.starter := turn.starter_eq
    have outsiders : (s'.setWorker k w').outsiders = s.outsiders := turn.outsiders_eq
    rw [handing, workers, starter, outsiders]
    omega
  | @producer c q q' s' place turn =>
    have lt := turn.cost_lt
    subst place
    have workers : (s'.setProducer q').workers = s.workers := turn.workers_eq
    have starter : (s'.setProducer q').starter = s.starter := turn.starter_eq
    have outsiders : (s'.setProducer q').outsiders = s.outsiders := turn.outsiders_eq
    rw [workers, starter, outsiders]
    exact Nat.add_lt_add_right (Nat.add_lt_add_right (Nat.add_lt_add_left lt _) _) _
  | @starter c q q' s' place turn =>
    subst place
    have lt := turn.cost_lt staffed
    have outsiders : (s'.setStarter q').outsiders = s.outsiders := turn.outsiders_eq
    rw [outsiders]
    exact Nat.add_lt_add_right lt _
  | @outsider k c f f' s' place turn =>
    have lt := turn.cost_lt
    have set := total_set (fun call => (call.map Firing.cost).getD 0) f' place
    simp only [Option.map_some, Option.getD_some] at set
    have starter : (s'.setOutsider k f').starter = s.starter := by cases turn <;> rfl
    have handing : (s'.setOutsider k f').handingCost = s.handingCost := by cases turn <;> rfl
    have workers : (s'.setOutsider k f').workers = s.workers := by cases turn <;> rfl
    have outsiders : (s'.setOutsider k f').outsiders = s.outsiders.set k f' := by
      cases turn <;> rfl
    rw [starter, handing, workers, outsiders, outsiderCost, outsiderCost]
    omega

/-! ## Some thread can go on -/

/-- A move is due: it does not depend on anything outside the run, as it does if a thread is refused
or a call of `fire` from outside begins. -/
def Due (s : Crew) (m : Move) : Prop :=
  m.IsGranted ∧ ∀ k, m.actor = .outsider k → s.outsiders[k]? ≠ some (some .acquire)

/-- A move that is due is possible. -/
def CanGoOn (p : Plan) (s : Crew) : Prop :=
  ∃ m, s.Due m ∧ (s.step? p m).isSome

lemma CanGoOn.worker {k : Nat} {c : Choice} (h : (s.workerStep? p k c).isSome) : s.CanGoOn p :=
  ⟨⟨.worker k, c⟩, ⟨by simp [Move.IsGranted], by simp⟩, h⟩

lemma CanGoOn.producer {c : Choice} (h : (s.producerStep? p c).isSome) : s.CanGoOn p :=
  ⟨⟨.producer, c⟩, ⟨by simp [Move.IsGranted], by simp⟩, h⟩

lemma CanGoOn.starter (h : (s.starterStep? p .usual).isSome) : s.CanGoOn p :=
  ⟨⟨.starter, .usual⟩, ⟨fun _ => rfl, by simp⟩, h⟩

/-- Only a call that waits for the lock may be unable to go on. -/
lemma isSome_firingStep? {f : Firing} {g : Signal} (h : f = .acquire → g.locked = false) :
    (f.step? g).isSome := by
  cases f with
  | acquire => simp [Firing.step?, h rfl]
  | take => simp only [Firing.step?]; split <;> rfl
  | store | dispose | release => rfl

lemma isSome_recordingStep? {r : Recording} {l : Ledger}
    (ledger : r = .acquire → l.locked = false)
    (signal : r.call? = some .acquire → l.signal.locked = false) : (r.step? l).isSome := by
  cases r with
  | acquire => simp [Recording.step?, ledger rfl]
  | increment | release => rfl
  | compare count => simp only [Recording.step?]; split <;> rfl
  | firing count f =>
    have step := isSome_firingStep? fun hf => signal (congrArg some hf)
    simp only [Recording.step?]
    split
    · next hf => simp [hf] at step
    · rfl
    · rfl

/-- A body goes on, for a wait can be given up. -/
lemma exists_actStep? (s : Crew) (k index : Nat) (a : Action) (rest : Body) :
    ∃ c, (s.actStep? k index a rest c).isSome := by
  cases a with
  | signal | fire | inner => exact ⟨.usual, rfl⟩
  | await | awaitSubmitted | awaitFailures | awaitFired => exact ⟨.other, rfl⟩

/-- Only a worker that has ended, or waits for a task or a lock, may be unable to go on. -/
lemma canGoOn_of_worker {k : Nat} {w : Worker} (place : s.workers[k]? = some w)
    (busy : w ≠ .selecting ∧ ∀ died, w ≠ .gone died)
    (ledger : w = .recording .acquire → s.ledger.locked = false)
    (signal : w.call? = some .acquire → s.ledger.signal.locked = false) : s.CanGoOn p := by
  cases w with
  | selecting => exact absurd rfl busy.1
  | gone died => exact absurd rfl (busy.2 died)
  | entering | dropping | cleared | calling | succeeding | panicking | failing | leaving
  | releasing => exact .worker (k := k) (c := .usual) (by simp [workerStep?, place])
  | checking | holding =>
    refine .worker (k := k) (c := .usual) ?_
    simp only [workerStep?, place]
    split <;> rfl
  | working index body =>
    cases body with
    | done e => exact .worker (k := k) (c := .usual) (by simp [workerStep?, place])
    | either left right => exact .worker (k := k) (c := .usual) (by simp [workerStep?, place])
    | act a rest =>
      obtain ⟨c, hc⟩ := exists_actStep? s k index a rest
      exact .worker (k := k) (c := c) (by simpa [workerStep?, place] using hc)
  | firing index rest f =>
    have step := isSome_firingStep? fun hf => signal (congrArg some hf)
    refine .worker (k := k) (c := .usual) ?_
    simp only [workerStep?, place]
    split
    · next hf => simp [hf] at step
    · rfl
    · rfl
  | recording r =>
    have step := isSome_recordingStep? (fun hr => ledger (congrArg _ hr)) signal
    refine .worker (k := k) (c := .usual) ?_
    simp only [workerStep?, place, recordStep?]
    split
    · next hr => simp [hr] at step
    · rfl
    · rfl

lemma Firing.ne_acquire_of_holds {f : Firing} (h : 0 < f.holds) : f ≠ .acquire := by
  rintro rfl
  cases h

/-- The call that has the lock of the signal can go on. -/
lemma canGoOn_of_signal_locked (h : s.Locked) (locked : s.ledger.signal.locked = true) :
    s.CanGoOn p := by
  have one : s.calling Firing.holds = 1 := by rw [h.signal.holding_eq, locked]; rfl
  by_cases starter : 0 < weigh Firing.holds s.starter.call?
  · refine .starter ?_
    cases hq : s.starter with
    | aborting started f =>
      rw [hq] at starter
      have step : (f.step? s.ledger.signal).isSome :=
        isSome_firingStep? fun hf => absurd hf (Firing.ne_acquire_of_holds starter)
      simp only [starterStep?, hq]
      split
      · next hf => simp [hf] at step
      · rfl
      · rfl
    | _ => simp [hq, Starter.call?] at starter
  by_cases worker : 0 < total (fun w => weigh Firing.holds w.call?) s.workers
  · obtain ⟨w, mem, holds⟩ := exists_of_total_pos worker
    obtain ⟨k, place⟩ := List.mem_iff_getElem?.1 mem
    refine canGoOn_of_worker place ⟨?_, ?_⟩ ?_ ?_
    · rintro rfl
      cases holds
    · rintro died rfl
      cases holds
    · rintro rfl
      cases holds
    · intro acquiring
      rw [acquiring] at holds
      cases holds
  obtain ⟨call, mem, holds⟩ : ∃ call ∈ s.outsiders, 0 < weigh Firing.holds call := by
    refine exists_of_total_pos ?_
    simp only [calling] at one
    omega
  obtain ⟨k, place⟩ := List.mem_iff_getElem?.1 mem
  cases call with
  | none => cases holds
  | some f =>
    have late : f ≠ .acquire := Firing.ne_acquire_of_holds holds
    have step : (f.step? s.ledger.signal).isSome := isSome_firingStep? fun hf => absurd hf late
    refine ⟨⟨.outsider k, .usual⟩, ⟨by simp [Move.IsGranted], ?_⟩, ?_⟩
    · intro i hi acquiring
      cases hi
      rw [place] at acquiring
      exact late (by simpa using acquiring)
    · simp only [step?, outsiderStep?, place]
      split
      · next hf => simp [hf] at step
      · rfl
      · rfl

/-- The worker that has the lock of the ledger can go on, if the lock of the signal is free. -/
lemma canGoOn_of_ledger_locked (h : s.Locked) (free : s.ledger.signal.locked = false)
    (locked : s.ledger.locked = true) : s.CanGoOn p := by
  have pos : 0 < total Worker.holdsLedger s.workers := by
    rw [h.ledger, locked]
    exact Nat.one_pos
  obtain ⟨w, mem, holds⟩ := exists_of_total_pos pos
  obtain ⟨k, place⟩ := List.mem_iff_getElem?.1 mem
  refine canGoOn_of_worker place ⟨?_, ?_⟩ ?_ fun _ => free
  · rintro rfl
    cases holds
  · rintro died rfl
    cases holds
  · rintro rfl
    cases holds

/-- A producer that waits for room has a task to hand over. -/
def Offered (s : Crew) : Prop :=
  s.producer = .offering → s.unsent ≠ []

lemma Offered.turn {m : Move} (h : s.Offered) (turn : Turn p s m t) : t.Offered := by
  cases turn with
  | worker place turn =>
    cases turn with
    | handOver empty fed offered next direct =>
      intro offering
      cases offering
    | _ => exact h
  | producer place turn =>
    intro offering
    cases turn with
    | offer next unfired => simp [setProducer, next]
    | _ => cases offering
  | starter place turn =>
    cases turn with
    | startProducer sound all =>
      intro offering
      cases offering
    | _ => exact h
  | outsider place turn => cases turn <;> exact h

lemma offered_of_reaches {kind : Move → Prop} {outsiders : Nat}
    (h : ReachesBy p kind (p.begin outsiders) s) : s.Offered :=
  h.invariant (fun offering => nomatch offering) fun _ _ turn hu => hu.turn turn

/-- Only a producer that waits for room, or is not started or has ended, may be unable to go on. -/
lemma canGoOn_of_producer (h : s.producer ≠ .unborn ∧ s.producer ≠ .offering ∧ s.producer ≠ .gone) :
    s.CanGoOn p := by
  refine .producer (c := .usual) ?_
  cases hq : s.producer with
  | unborn => exact absurd hq h.1
  | offering => exact absurd hq h.2.1
  | gone => exact absurd hq h.2.2
  | checking =>
    simp only [producerStep?, hq]
    split
    · rfl
    · split <;> rfl
  | entering | counting | closing | leaving => simp [producerStep?, hq]

/-- With all locks free, a worker waits for a task only if a producer can hand one over, or has
closed the queue. -/
lemma canGoOn_of_selecting {k : Nat} {refused : Option Refusal} (manned : s.Manned p refused)
    (offered : s.Offered) (place : s.workers[k]? = some .selecting) : s.CanGoOn p := by
  have receive (h : (s.receive? p k).isSome) : s.CanGoOn p :=
    .worker (k := k) (c := .usual) (by simpa [workerStep?, place] using h)
  cases hq : s.queue with
  | cons j queue => exact receive (by simp [receive?, hq])
  | nil =>
    by_cases fed : s.fed = true
    swap
    · exact receive (by simp [receive?, hq, fed])
    cases refused with
    | some started =>
      rw [manned.2.2.2] at fed
      cases fed
    | none =>
      obtain ⟨-, born, open_⟩ := manned
      by_cases offering : s.producer = .offering
      · obtain ⟨j, unsent, next⟩ := List.exists_cons_of_ne_nil (offered offering)
        by_cases direct : p.capacity = 0
        · exact receive (by simp [receive?, hq, fed, offering, next, direct])
        · have present : s.isDeserted = false := by
            simp only [isDeserted, List.all_eq_false]
            exact ⟨_, List.mem_of_getElem? place, by simp⟩
          refine .producer (c := .usual) ?_
          simp [producerStep?, offering, next, offer?, present, hq, Nat.pos_of_ne_zero direct]
      · -- a producer that has ended has closed the queue
        refine canGoOn_of_producer ⟨born, offering, ?_⟩
        intro gone
        rw [open_, gone] at fed
        cases fed

/-- When all workers have ended, the producer finds that no worker is left. -/
lemma canGoOn_of_deserted (offered : s.Offered) (born : s.producer ≠ .unborn)
    (gone : s.producer ≠ .gone) (deserted : ∀ w ∈ s.workers, ∃ died, w = .gone died) :
    s.CanGoOn p := by
  by_cases offering : s.producer = .offering
  · obtain ⟨j, unsent, next⟩ := List.exists_cons_of_ne_nil (offered offering)
    have deserted : s.isDeserted = true := by
      simp only [isDeserted, List.all_eq_true]
      intro w mem
      obtain ⟨died, rfl⟩ := deserted w mem
      rfl
    refine .producer (c := .usual) ?_
    simp [producerStep?, offering, next, offer?, deserted]
  · exact canGoOn_of_producer ⟨born, offering, gone⟩

/-- With all locks free, a starter that joins threads waits only for threads that can go on. -/
lemma canGoOn_of_joining {joined : Nat} {dead : List Nat} {refused : Option Refusal}
    (joining : s.starter = .joining joined dead refused) (manned : s.Manned p refused)
    (le : joined ≤ s.workers.length) (offered : s.Offered) (free : s.ledger.locked = false)
    (signal : s.ledger.signal.locked = false) : s.CanGoOn p := by
  by_cases ended : ∀ w ∈ s.workers, ∃ died, w = .gone died
  · by_cases producer : refused = none ∧ s.producer ≠ .gone
    · obtain ⟨rfl, gone⟩ := producer
      exact canGoOn_of_deserted offered manned.2.1 gone ended
    refine .starter ?_
    simp only [starterStep?, joining, joinStep?]
    rcases Nat.lt_or_eq_of_le le with lt | rfl
    · obtain ⟨died, hd⟩ := ended _ (List.getElem_mem lt)
      rw [List.getElem?_eq_getElem lt, hd]
      cases died <;> rfl
    · rw [List.getElem?_eq_none le, if_pos]
      · rfl
      · cases refused with
        | none => exact .inr (by simpa using producer)
        | some started => exact .inl rfl
  · push Not at ended
    obtain ⟨w, mem, alive⟩ := ended
    obtain ⟨k, place⟩ := List.mem_iff_getElem?.1 mem
    by_cases selecting : w = .selecting
    · subst selecting
      exact canGoOn_of_selecting manned offered place
    · exact canGoOn_of_worker place ⟨selecting, alive⟩ (fun _ => free) fun _ => signal

/-- A run that is not over can go on. -/
theorem canGoOn (staffed : s.Staffed p) (locked : s.Locked) (offered : s.Offered)
    (underway : ¬ s.IsOver) : s.CanGoOn p := by
  -- whoever has a lock can go on, the inner lock first, so the places count only with both free
  by_cases signal : s.ledger.signal.locked = true
  · exact canGoOn_of_signal_locked locked signal
  rw [Bool.not_eq_true] at signal
  by_cases ledger : s.ledger.locked = true
  · exact canGoOn_of_ledger_locked locked signal ledger
  rw [Bool.not_eq_true] at ledger
  unfold Staffed at staffed
  cases hq : s.starter with
  | starting started =>
    refine .starter ?_
    simp only [starterStep?, hq, startStep?]
    split
    · rfl
    · split <;> rfl
  | closing started => exact .starter (by simp [starterStep?, hq])
  | aborting started f =>
    have step : (f.step? s.ledger.signal).isSome := isSome_firingStep? fun _ => signal
    refine .starter ?_
    simp only [starterStep?, hq]
    split
    · next hf => simp [hf] at step
    · rfl
    · rfl
  | joining joined dead refused =>
    rw [hq] at staffed
    exact canGoOn_of_joining hq staffed.1 staffed.2.le offered ledger signal
  | settling dead refused => exact .starter (by simp [starterStep?, hq])
  | returned r => exact absurd (by simp [IsOver, return?, hq]) underway

/-! ## Every run comes to its end -/

/-- A run by moves of a kind, as the sequence of its states; it stands still only when no move that
is due is possible any more. -/
def IsMaximal (p : Plan) (kind : Move → Prop) (run : Nat → Crew) : Prop :=
  ∀ n, (∃ m, kind m ∧ (run n).step? p m = some (run (n + 1))) ∨
    run (n + 1) = run n ∧ ∀ m, (run n).Due m → (run n).step? p m = none

lemma IsMaximal.isRun {kind : Move → Prop} {run : Nat → Crew} (h : IsMaximal p kind run) :
    IsRun p kind run :=
  fun n => (h n).imp id And.left

/-- Every step of a run lowers its cost. -/
lemma cost_lt_of_reaches {kind : Move → Prop} {outsiders : Nat}
    (h : ReachesBy p kind (p.begin outsiders) s) {m : Move} (step : s.step? p m = some t) :
    t.cost p < s.cost p :=
  (turn_of_step? step).cost_lt (staffed_of_reaches h)

/-- A run that has not ended can go on. -/
lemma exists_due_of_reaches {kind : Move → Prop} {outsiders : Nat}
    (h : ReachesBy p kind (p.begin outsiders) s) (open_ : ¬ s.HasEnded p) :
    ∃ m, s.Due m ∧ (s.step? p m).isSome :=
  canGoOn (staffed_of_reaches h) (locked_of_reaches h) (offered_of_reaches h)
    fun finished => open_ (hasEnded_of_isOver (staffed_of_reaches h) finished)

/-- A run that stands still only when no move is due comes to a stop after as many steps as it costs at
most, and has ended then. -/
theorem IsMaximal.exists_hasEnded {kind kind' : Move → Prop} {outsiders : Nat} {run : Nat → Crew}
    (maximal : IsMaximal p kind run) (h : ReachesBy p kind' (p.begin outsiders) (run 0)) :
    ∃ n ≤ (run 0).cost p, (∀ m, kind m → (run n).step? p m ≠ some (run (n + 1))) ∧
      (run n).HasEnded p := by
  have reached (n : Nat) : Reaches p (p.begin outsiders) (run n) :=
    (h.mono fun _ _ => trivial).trans ((maximal.isRun.reaches n).mono fun _ _ => trivial)
  obtain ⟨n, le, stopped⟩ := exists_le_of_cost_lt (fun n => (run n).cost p)
    (fun n => ∃ m, kind m ∧ (run n).step? p m = some (run (n + 1)))
    fun n ⟨m, _, step⟩ => cost_lt_of_reaches (reached n) step
  refine ⟨n, le, fun m allowed step => stopped ⟨m, allowed, step⟩, ?_⟩
  by_contra open_
  obtain ⟨m, due, possible⟩ := exists_due_of_reaches (reached n) open_
  rcases maximal n with goes | ⟨-, stuck⟩
  · exact stopped goes
  · rw [stuck m due] at possible
    cases possible

/-- **Every run comes to its end.** Whatever moves a run is made of: every step lowers its cost; as
long as a thread has not ended, a move is possible that does not depend on anything outside; so it
comes to a stop after as many steps as it costs at most, and has ended then. It is over only when it
has ended, with every task that was begun; and if no thread was refused, these threads are all
workers and the producer. -/
theorem run_ends (p : Plan) (kind : Move → Prop) (outsiders : Nat) {s : Crew}
    (h : ReachesBy p kind (p.begin outsiders) s) :
    (∀ m t, s.step? p m = some t → t.cost p < s.cost p) ∧
    (¬ s.HasEnded p → ∃ m, s.Due m ∧ (s.step? p m).isSome) ∧
    (∀ run : Nat → Crew, run 0 = s → IsMaximal p kind run →
      ∃ n ≤ s.cost p, (∀ m, kind m → (run n).step? p m ≠ some (run (n + 1))) ∧
        ReachesBy p kind s (run n) ∧ (run n).HasEnded p) ∧
    (s.IsOver → s.HasEnded p ∧ s.ended.Perm s.began) ∧
    (p.Sound → (∀ m, kind m → m.IsGranted) → s.IsOver →
      s.workers.length = p.workers ∧ (∀ w ∈ s.workers, ∃ died, w = .gone died) ∧
        s.producer = .gone) := by
  refine ⟨fun m t => cost_lt_of_reaches h, exists_due_of_reaches h, ?_, ?_, ?_⟩
  · rintro run rfl maximal
    obtain ⟨n, le, stopped, ended⟩ := maximal.exists_hasEnded h
    exact ⟨n, le, stopped, maximal.isRun.reaches n, ended⟩
  · intro finished
    have ended := hasEnded_of_isOver (staffed_of_reaches h) finished
    exact ⟨ended, (conserved_of_reaches h).ended_perm_began ended.1⟩
  · intro sound granted finished
    have full := full_of_reaches sound (h.mono granted)
    obtain ⟨gone, ended⟩ := hasEnded_of_isOver (staffed_of_reaches h) finished
    cases hq : s.starter with
    | returned r =>
      rw [hq] at full
      cases r with
      | finished dead =>
        rw [return?, hq] at ended
        exact ⟨ended.1, gone, ended.2⟩
      | refused | panicked => cases full
    | _ => simp [IsOver, return?, hq] at finished

theorem run_ends_threeTasks :
    (Plan.threeTasks.carryOut { limit := 1 } {}).IsOver ∧
      (Plan.threeTasks.carryOut { limit := 1 } {}).HasEnded .threeTasks := by
  have finished : (Plan.threeTasks.carryOut { limit := 1 } {}).IsOver := by decide +kernel
  exact ⟨finished, ((run_ends .threeTasks _ 0 (reaches_drive _ _ .refl)).2.2.2.1 finished).1⟩

end Crew

end TaskCrew
