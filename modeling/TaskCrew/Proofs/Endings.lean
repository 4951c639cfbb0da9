import TaskCrew.Proofs.Accounting

/-!
# What tasks come to

If every task has one ending, whatever happens, the counters and the ledger are known from the tasks
that have ended.

* `Plan.Steady`, `Plan.ending` — every task has one ending, and leaves the signal alone;
* `Worker.Keeps`, `keeps_of_reaches` — what is left of a task in the hands of a worker leads to the
  ending of the task;
* `Crew.Counted`, `counted_of_reaches` — the counters of results and the workers that died, in terms
  of how tasks ended;
* `failures_of_reaches` — the same for the ledger.
-/

namespace TaskCrew

/-- A body never fires the signal. -/
def Body.Quiet : Body → Prop
  | .done _ => True
  | .act a rest => a ≠ .fire ∧ rest.Quiet
  | .either left right => left.Quiet ∧ right.Quiet

/-- How often a counter counts a task with an ending. -/
def Ending.adds : Counter → Ending → Nat
  | .succeeded, .success | .failed, .failure _ | .failed, .panic _ | .panicked, .panic _ => 1
  | _, _ => 0

def Counter.IsResult (k : Counter) : Prop :=
  k = .succeeded ∨ k = .failed ∨ k = .panicked

namespace Plan

/-- Every task has one ending, whatever happens, and never fires the signal. -/
def Steady (p : Plan) : Prop :=
  ∀ b ∈ p.bodies, b.Fixed ∧ b.Quiet

def ending (p : Plan) (index : Nat) : Ending :=
  (p.bodies[index]?.map Body.ending).getD .success

variable {p : Plan} {j : Job}

/-- The body of a steady task leads to the ending of the task. -/
lemma Steady.ends (steady : p.Steady) (h : j ∈ p.jobs) :
    j.body.Ends (p.ending j.index) ∧ j.body.Quiet := by
  have place := getElem?_of_mem_jobs h
  obtain ⟨⟨e, ends⟩, quiet⟩ := steady j.body (List.mem_of_getElem? place)
  refine ⟨?_, quiet⟩
  rw [ending, place, Option.map_some, Option.getD_some, Body.ending_eq_of_ends ends]
  exact ends

end Plan

/-- What is left of a task in the hands of a worker leads to the ending of the task. -/
def Worker.Keeps (p : Plan) : Worker → Prop
  | .holding j | .dropping j | .cleared j | .calling j => j ∈ p.jobs
  | .working index rest => rest.Ends (p.ending index) ∧ rest.Quiet
  | .firing _ _ _ => False
  | _ => True

lemma Worker.owes_after (k : Counter) (e : Ending) : (Worker.after e).owes k = e.adds k := by
  cases k <;> cases e <;> rfl

lemma Body.GoesOn.ends {body rest : Body} {e : Ending} (h : body.GoesOn rest) (ends : body.Ends e) :
    rest.Ends e := by
  cases h with
  | act calm => exact ends
  | left => exact ends.1
  | right => exact ends.2

lemma Body.GoesOn.quiet {body rest : Body} (h : body.GoesOn rest) (quiet : body.Quiet) :
    rest.Quiet := by
  cases h with
  | act calm => exact quiet.2
  | left => exact quiet.1
  | right => exact quiet.2

namespace Crew

variable {p : Plan} {s t : Crew}

/-! ## Workers keep to the endings of tasks -/

lemma WorkerTurn.keeps {k : Nat} {w w' : Worker} {s' : Crew} (h : WorkerTurn p k s w w' s')
    (steady : p.Steady) (conserved : s.Conserved p) (keeps : w.Keeps p) : w'.Keeps p := by
  obtain ⟨taken, jobs, -⟩ := conserved.handed
  cases h
  case receive front => simp [Worker.Keeps, jobs, front]
  case handOver next _ => simp [Worker.Keeps, jobs, next]
  case refuse | clear | start => exact keeps
  case call => exact steady.ends keeps
  case proceed goesOn _ _ _ => exact ⟨goesOn.ends keeps.1, goesOn.quiet keeps.2⟩
  case finish e _ _ => cases e <;> trivial
  case beginFiring => exact absurd rfl keeps.2.1
  case fire | endFiring => exact keeps.elim
  all_goals trivial

/-- What a worker has in hand leads to the ending of the task. -/
theorem keeps_of_reaches {kind : Move → Prop} {outsiders : Nat} (steady : p.Steady)
    (h : ReachesBy p kind (p.begin outsiders) s) : ∀ w ∈ s.workers, w.Keeps p := by
  refine h.invariant (I := fun s => ∀ w ∈ s.workers, w.Keeps p) (by simp [Plan.begin, Crew.begin]) ?_
  intro m u v reached _ turn keeps
  exact turn.forall_workers keeps trivial fun _ turn =>
    turn.keeps steady (conserved_of_reaches reached)

/-! ## Counting endings -/

/-- A worker counts in time how tasks end. -/
lemma WorkerTurn.owes_ended {k : Nat} {w w' : Worker} {s' : Crew} (h : WorkerTurn p k s w w' s')
    (keeps : w.Keeps p) {j : Counter} (result : j.IsResult) :
    weigh (fun i => (p.ending i).adds j) ((Worker.news k w w').bind Event.ended?) + w.owes j =
      w.ticks j + w'.owes j := by
  cases h
  case proceed goesOn _ _ _ => cases goesOn <;> simp [Worker.news, Worker.ticks]
  case finish index e _ _ =>
    have ending : e = p.ending index := keeps.1
    have nothing : Worker.owes j (.working index (.done e)) = 0 := by cases j <;> rfl
    show (p.ending index).adds j + Worker.owes j _ = 0 + (Worker.after e).owes j
    rw [nothing, Worker.owes_after, ending, Nat.add_comm]
  all_goals
    rcases result with rfl | rfl | rfl <;> simp [Worker.news, Worker.ticks, Event.ended?]

/-- A worker dies of a task that kills it. -/
lemma WorkerTurn.dies_ended {k : Nat} {w w' : Worker} {s' : Crew} (h : WorkerTurn p k s w w' s')
    (keeps : w.Keeps p) :
    weigh (fun i => (p.ending i).kills.toNat) ((Worker.news k w w').bind Event.ended?) + w.dies =
      w'.dies := by
  cases h
  case proceed goesOn _ _ _ => cases goesOn <;> simp [Worker.news]
  case finish index e _ _ =>
    have ending : e = p.ending index := keeps.1
    cases e <;> simp [Worker.news, Event.ended?, ← ending, Worker.after, Ending.kills]
  all_goals simp [Worker.news, Event.ended?]

/-- A worker adds to a counter what it counts. -/
lemma WorkerTurn.get_counters {k : Nat} {w w' : Worker} {s' : Crew} (h : WorkerTurn p k s w w' s')
    {j : Counter} (other : j ≠ .live) :
    s'.counters.get j = s.counters.get j + UInt64.ofNat (w.ticks j) := by
  have counted (i : Counter) : (s.counters.count i).get j =
      s.counters.get j + UInt64.ofNat (if i = j then 1 else 0) := by
    by_cases hj : i = j
    · rw [if_pos hj, ← hj]
      exact s.counters.get_add_self i 1
    · rw [if_neg hj]
      exact (s.counters.get_add_of_ne 1 (Ne.symm hj)).trans (UInt64.add_zero _).symm
  cases h
  case leave =>
    have same : s.counters.leave.get j = s.counters.get j := by
      cases j <;> first | rfl | exact absurd rfl other
    exact same.trans (UInt64.add_zero _).symm
  case enter | drop | start | succeed | panic | fail => exact counted _
  all_goals exact (UInt64.add_zero _).symm

/-- The counters of results show how tasks ended, up to what workers have yet to count, and a worker
died for every task that kills. -/
structure Counted (p : Plan) (s : Crew) : Prop where
  results : ∀ k : Counter, k.IsResult → ∃ n, s.counters.get k = UInt64.ofNat n ∧
    total (fun i => (p.ending i).adds k) s.ended = n + total (Worker.owes k) s.workers
  killed : total (fun i => (p.ending i).kills.toNat) s.ended = total Worker.dies s.workers

lemma Counted.worker {k : Nat} {w w' : Worker} {s' : Crew} (h : s.Counted p)
    (place : s.workers[k]? = some w) (keeps : w.Keeps p) (turn : WorkerTurn p k s w w' s') :
    (s'.setWorker k w').Counted p := by
  have workers := turn.setWorker_workers
  have ended (f : Nat → Nat) : total f (s'.setWorker k w').ended =
      total f s.ended + weigh f ((Worker.news k w w').bind Event.ended?) := by
    show total f (s'.seen Event.ended?) = _
    rw [turn.seen_eq Event.isView_ended?, total_append, total_toList]
    rfl
  constructor
  · intro j result
    obtain ⟨n, shown, counted⟩ := h.results j result
    have owes := turn.owes_ended keeps result
    have set := total_set (Worker.owes j) w' place
    refine ⟨n + w.ticks j, ?_, ?_⟩
    · rw [UInt64.ofNat_add, ← shown]
      exact turn.get_counters (by rcases result with rfl | rfl | rfl <;> simp)
    · rw [ended, workers]
      omega
  · have killed := h.killed
    have dies := turn.dies_ended keeps
    have set := total_set Worker.dies w' place
    rw [ended, workers]
    omega

lemma Counted.of_get_eq (h : s.Counted p)
    (counters : ∀ k : Counter, k.IsResult → t.counters.get k = s.counters.get k)
    (seen : t.ended = s.ended)
    (workers : ∀ g : Worker → Nat, g .entering = 0 → total g t.workers = total g s.workers) :
    t.Counted p := by
  constructor
  · intro j result
    obtain ⟨n, shown, counted⟩ := h.results j result
    refine ⟨n, (counters j result).trans shown, ?_⟩
    rw [seen, workers _ (by cases j <;> rfl), counted]
  · rw [seen, workers _ rfl, h.killed]

lemma ProducerTurn.get_counters {q q' : Producer} {s' : Crew} (h : ProducerTurn p s q q' s')
    {j : Counter} (result : j.IsResult) : s'.counters.get j = s.counters.get j := by
  cases h <;> rcases result with rfl | rfl | rfl <;> rfl

lemma StarterTurn.get_counters {c : Choice} {q q' : Starter} {s' : Crew}
    (h : StarterTurn p s c q q' s') {j : Counter} (result : j.IsResult) :
    s'.counters.get j = s.counters.get j := by
  cases h <;> rcases result with rfl | rfl | rfl <;> rfl

theorem Counted.turn {m : Move} (h : s.Counted p) (keeps : ∀ w ∈ s.workers, w.Keeps p)
    (turn : Turn p s m t) : t.Counted p := by
  cases turn with
  | worker place turn => exact h.worker place (keeps _ (List.mem_of_getElem? place)) turn
  | producer place turn =>
    exact h.of_get_eq (fun _ => turn.get_counters) (turn.seen_eq Event.isView_ended?)
      fun g _ => congrArg (total g) turn.workers_eq
  | starter place turn =>
    exact h.of_get_eq (fun _ => turn.get_counters) (turn.seen_eq Event.isView_ended?)
      turn.total_workers
  | outsider place turn =>
    cases turn <;> exact h.of_get_eq (fun _ _ => rfl) rfl fun _ _ => rfl

/-- In every state that a run of steady tasks reaches, the results are counted. -/
theorem counted_of_reaches {kind : Move → Prop} {outsiders : Nat} (steady : p.Steady)
    (h : ReachesBy p kind (p.begin outsiders) s) : s.Counted p := by
  refine h.invariant ⟨fun k _ => ⟨0, by cases k <;> rfl, rfl⟩, rfl⟩ ?_
  intro m u v reached _ turn counted
  exact counted.turn (keeps_of_reaches steady reached) turn

lemma total_adds_le (p : Plan) (k : Counter) (indices : List Nat) :
    total (fun i => (p.ending i).adds k) indices ≤ indices.length := by
  rw [← total_one]
  refine total_le_total fun i _ => ?_
  cases k <;> cases p.ending i <;> simp [Ending.adds]

/-- When all workers have ended, the counters of results say how tasks ended. -/
lemma Counted.toNat_get (h : s.Counted p) (conserved : s.Conserved p)
    (small : p.total < UInt64.size) (gone : ∀ w ∈ s.workers, ∃ died, w = .gone died) {k : Counter}
    (result : k.IsResult) :
    (s.counters.get k).toNat = total (fun i => (p.ending i).adds k) s.ended := by
  obtain ⟨n, shown, counted⟩ := h.results k result
  have idle : total (Worker.owes k) s.workers = 0 :=
    total_of_gone (fun _ => by cases k <;> rfl) gone
  have le := total_adds_le p k s.ended
  have few := conserved.length_ended_le
  rw [shown, UInt64.toNat_ofNat_of_lt' (by omega)]
  omega

/-! ## The ledger -/

/-- What the ledger shows is how many tasks ended in a way that counts, up to the failures that workers
have yet to count or to record. -/
theorem failures_of_reaches {kind : Move → Prop} {outsiders : Nat} (steady : p.Steady)
    (small : p.total < UInt64.size) (h : ReachesBy p kind (p.begin outsiders) s) :
    total (fun i => (p.ending i).adds .failed) s.ended = s.ledger.failures.toNat
      + total Worker.unrecorded s.workers + total (Worker.owes .failed) s.workers := by
  obtain ⟨n, f, tallied⟩ := tallied_of_reaches small h
  obtain ⟨m, shown, counted⟩ := (counted_of_reaches steady h).results .failed (.inr (.inl rfl))
  have few := (conserved_of_reaches h).length_ended_le
  have ended := tallied.ended
  have failed := tallied.failed
  have le := total_adds_le p .failed s.ended
  have word := tallied.shows .failed
  rw [shown, ← UInt64.toNat_inj, UInt64.toNat_ofNat_of_lt' (by omega),
    UInt64.toNat_ofNat_of_lt' (by omega)] at word
  rw [tallied.failures, UInt64.toNat_ofNat_of_lt' (by omega)]
  omega

end Crew

end TaskCrew
