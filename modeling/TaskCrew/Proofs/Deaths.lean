import TaskCrew.Proofs.Custody
import TaskCrew.Proofs.Exhaustion

/-!
# Workers that die

A worker that carries out a task that kills it dies, and nobody else does; the others take over the
rest of the list.

* `Crew.dead` — the dead workers, in order of their numbers;
* `Crew.total_dies_eq` — below the limit, as many workers are dead at the end as tasks of the list
  kill, or all of them if more do;
* `Executor.NamesDead`, `Executor.Mourns` — the error that names the dead, and the runs that come back
  with as many dead workers as there must be;
* `Crew.Falls`, `IsRun.dies_iff` — a worker is dead exactly if a task killed it at some point of the run;
* `run_mourns` — how runs with such tasks end.

Which worker takes which task is open, so it is not known beforehand who dies. But as long as a worker
is alive, the queue is emptied and the producer goes on, so every task is begun; and if none is, each
of them died of a task of its own.
-/

namespace TaskCrew

lemma countP_range_getElem? {α : Type} [BEq α] [LawfulBEq α] (as : List α) (a : α) :
    (List.range as.length).countP (fun i => as[i]? == some a) = as.count a := by
  have places : (List.range as.length).map (as[·]?) = as.map some := by
    refine List.ext_getElem (by simp) fun i hi _ => ?_
    have lt : i < as.length := by simpa using hi
    simp [lt]
  have counted := congrArg (List.countP (· == some a)) places
  rw [List.countP_map, List.countP_map] at counted
  exact counted

namespace Crew

variable {p : Plan} {k : Nat} {w w' : Worker} {s t s' : Crew}

/-! ## The dead -/

/-- The dead workers, in order of their numbers. -/
def dead (s : Crew) : List Nat :=
  (List.range s.workers.length).filter fun i => s.workers[i]? = some (.gone true)

/-- The starter that comes back has found the dead workers, and no others. -/
lemma Staffed.eq_dead {dead : List Nat} (h : s.Staffed p)
    (back : s.return? = some (.finished dead)) : dead = s.dead :=
  (h.of_finished back).2.1.dead_eq

lemma length_dead (gone : ∀ w ∈ s.workers, ∃ died, w = .gone died) :
    s.dead.length = total Worker.dies s.workers := by
  rw [← count_gone gone, ← countP_range_getElem?, dead, ← List.countP_eq_length_filter]
  exact List.countP_congr fun i _ => by simp

lemma total_dies_le (s : Crew) : total Worker.dies s.workers ≤ s.workers.length := by
  rw [← total_one]
  refine total_le_total fun w _ => ?_
  cases w with
  | leaving died | releasing died | gone died => exact Bool.toNat_le died
  | _ => exact Nat.zero_le _

/-- If as many workers are dead as there are, all of them are. -/
lemma dead_eq_range (gone : ∀ w ∈ s.workers, ∃ died, w = .gone died)
    (all : total Worker.dies s.workers = s.workers.length) :
    s.dead = List.range s.workers.length := by
  refine List.filter_eq_self.2 ?_
  rw [← List.length_filter_eq_length_iff, List.length_range]
  exact (length_dead gone).trans all

/-! ## How many die -/

/-- When all workers have ended, one is dead for every task that was begun and kills. -/
lemma total_dies_eq_began {kind : Move → Prop} {outsiders : Nat} (steady : p.Steady)
    (h : ReachesBy p kind (p.begin outsiders) s)
    (gone : ∀ w ∈ s.workers, ∃ died, w = .gone died) :
    total Worker.dies s.workers = total (fun i => (p.ending i).kills.toNat) s.began := by
  rw [← (counted_of_reaches steady h).killed]
  exact total_perm _ ((conserved_of_reaches h).ended_perm_began gone)

lemma total_kills_range (p : Plan) :
    total (fun i => (p.ending i).kills.toNat) (List.range p.total) =
      countEnding Ending.kills p.bodies := by
  rw [p.total_ending_range fun e => e.kills.toNat, total_toNat]
  rfl

/-- If fewer tasks fail than the limit allows, the signal is not fired. -/
lemma unfired_of_few (sound : p.Sound) (steady : p.Steady) (small : p.total < UInt64.size)
    (few : (countFailing p.bodies : Int) < max p.config.errorLimit.toInt 1)
    (h : ReachesBy p Move.IsGranted (p.begin 0) s) : s.ledger.signal.fired = false := by
  by_contra fired
  have reached := (prompt_of_reaches sound steady.quiet small h).le_of_fired (locked_of_reaches h)
    (by simpa using fired)
  have failures := failures_of_reaches steady small h
  have conserved := conserved_of_reaches h
  -- no more failures are recorded than tasks of the list fail
  have began := conserved.began_total fun i => (p.ending i).adds .failed
  have le := conserved.total_began_le fun i => (p.ending i).adds .failed
  rw [p.total_adds_failed] at le
  rw [limit_of_reaches h, UInt64.le_iff_toNat_le] at reached
  rw [← p.config.toNat_normalizedErrorLimit, Int.ofNat_lt] at few
  omega

/-- If a worker is left alive when all have ended, every task was begun. -/
lemma began_perm_of_alive {kind : Move → Prop} {outsiders : Nat} (hired : 0 < p.workers)
    (h : ReachesBy p kind (p.begin outsiders) s) (unfired : s.ledger.signal.fired = false)
    (gone : ∀ w ∈ s.workers, ∃ died, w = .gone died) (producer : s.producer = .gone)
    (alive : .gone false ∈ s.workers) : s.began.Perm (List.range p.total) := by
  have diligent := diligent_of_reaches hired h unfired
  have conserved := conserved_of_reaches h
  have queue : s.queue = [] := (diligent.left _ alive rfl).2
  have unsent : s.unsent = [] := by
    rcases spent_of_reaches hired h unfired (by rw [producer]; rfl) with none | dead
    · exact none
    · cases dead _ alive
  have pending : s.pending = [] := filterMap_of_gone (fun _ => rfl) gone
  obtain ⟨range, all⟩ := conserved.received_eq_range
  have perm := conserved.received_perm
  rw [queue, unsent] at all
  rw [range, show s.received.length = p.total from all, diligent.dropped, pending, List.nil_append,
    List.append_nil] at perm
  exact perm.symm

lemma exists_alive (gone : ∀ w ∈ s.workers, ∃ died, w = .gone died)
    (fewer : total Worker.dies s.workers < s.workers.length) : .gone false ∈ s.workers := by
  by_contra none
  have dead : ∀ w ∈ s.workers, Worker.gone true = w := by
    intro w mem
    obtain ⟨died, rfl⟩ := gone w mem
    cases died with
    | true => rfl
    | false => exact absurd mem none
  have all := List.count_eq_length.2 dead
  rw [count_gone gone] at all
  omega

/-- Below the limit, as many workers are dead at the end as tasks of the list kill, or all of them if
more do; and if a worker is left alive, every task was begun. -/
theorem total_dies_eq (sound : p.Sound) (steady : p.Steady) (small : p.total < UInt64.size)
    (hired : 0 < p.workers) (few : (countFailing p.bodies : Int) < max p.config.errorLimit.toInt 1)
    (h : ReachesBy p Move.IsGranted (p.begin 0) s)
    (gone : ∀ w ∈ s.workers, ∃ died, w = .gone died) (producer : s.producer = .gone) :
    total Worker.dies s.workers = min (countEnding Ending.kills p.bodies) p.workers ∧
      (countEnding Ending.kills p.bodies < p.workers → s.began.Perm (List.range p.total)) := by
  have unfired := unfired_of_few sound steady small few h
  have dies := total_dies_eq_began steady h gone
  have le := (conserved_of_reaches h).total_began_le fun i => (p.ending i).kills.toNat
  rw [total_kills_range] at le
  obtain ⟨length, -, -⟩ := (staffed_of_reaches h).manned (by simp [producer])
  have bound := s.total_dies_le
  by_cases fewer : total Worker.dies s.workers < s.workers.length
  · have began := began_perm_of_alive hired h unfired gone producer (exists_alive gone fewer)
    rw [total_perm _ began, total_kills_range] at dies
    exact ⟨by omega, fun _ => began⟩
  · exact ⟨by omega, fun few => absurd few (by omega)⟩

/-! ## When somebody dies -/

/-- At this point of a run, a worker has come to the end of a task, and dies of it. -/
structure Falls (run : Nat → Crew) (n k i : Nat) : Prop where
  working : ∃ text, (run n).workers[k]? = some (.working i (.done (.poison text)))
  leaving : (run (n + 1)).workers[k]? = some (.leaving true)

/-- A worker that is not dead dies only of a task. -/
lemma WorkerTurn.dies_or (h : WorkerTurn p k s w w' s') :
    w'.dies = w.dies ∨ ∃ i text, w = .working i (.done (.poison text)) ∧ w' = .leaving true := by
  cases h
  case finish i e _ _ =>
    cases e with
    | poison text => exact .inr ⟨i, text, rfl, rfl⟩
    | _ => exact .inl rfl
  all_goals exact .inl rfl

/-- One worker more is dead after a turn only if a task killed one. -/
lemma Turn.dies_or {m : Move} (h : Turn p s m t) :
    total Worker.dies t.workers = total Worker.dies s.workers ∨
      ∃ k i : Nat, (∃ text, s.workers[k]? = some (.working i (.done (.poison text)))) ∧
        t.workers[k]? = some (.leaving true) := by
  cases h with
  | @worker k c w w' s' place turn =>
    have set := total_set Worker.dies w' place
    rw [turn.setWorker_workers]
    rcases turn.dies_or with same | ⟨i, text, rfl, rfl⟩
    · exact .inl (by omega)
    · refine .inr ⟨k, i, ⟨text, place⟩, ?_⟩
      rw [List.getElem?_set_self (List.getElem?_eq_some_iff.1 place).1]
  | producer place turn => exact .inl (congrArg (total Worker.dies) turn.workers_eq)
  | starter place turn => exact .inl (turn.total_workers _ rfl)
  | outsider place turn => cases turn <;> exact .inl rfl

/-- Nobody comes back to life. -/
lemma Turn.dies_le {m : Move} (h : Turn p s m t) :
    total Worker.dies s.workers ≤ total Worker.dies t.workers := by
  cases h with
  | @worker k c w w' s' place turn =>
    have set := total_set Worker.dies w' place
    have le := turn.dies_le
    rw [turn.setWorker_workers]
    omega
  | producer place turn => exact Nat.le_of_eq (congrArg (total Worker.dies) turn.workers_eq).symm
  | starter place turn => exact Nat.le_of_eq (turn.total_workers _ rfl).symm
  | outsider place turn => cases turn <;> exact Nat.le_refl _

lemma IsRun.dies_le {kind : Move → Prop} {run : Nat → Crew} (h : IsRun p kind run) {m n : Nat}
    (le : m ≤ n) : total Worker.dies (run m).workers ≤ total Worker.dies (run n).workers := by
  induction le with
  | refl => exact Nat.le_refl _
  | @step n _ ih =>
    rcases h.turn_or n with ⟨m, turn⟩ | still
    · exact Nat.le_trans ih turn.dies_le
    · rwa [still]

/-- Somebody is dead exactly if a task killed somebody at some point of the run. -/
theorem IsRun.dies_iff {kind : Move → Prop} {outsiders : Nat} {run : Nat → Crew}
    (h : IsRun p kind run) (begins : run 0 = p.begin outsiders) (n : Nat) :
    0 < total Worker.dies (run n).workers ↔ ∃ m < n, ∃ k i, Falls run m k i := by
  constructor
  · intro dead
    induction n with
    | zero =>
      rw [begins] at dead
      cases dead
    | succ n ih =>
      have earlier (before : 0 < total Worker.dies (run n).workers) :
          ∃ m < n + 1, ∃ k i, Falls run m k i := by
        obtain ⟨m, lt, falls⟩ := ih before
        exact ⟨m, Nat.lt_succ_of_lt lt, falls⟩
      rcases h.turn_or n with ⟨m, turn⟩ | still
      · rcases turn.dies_or with same | ⟨k, i, working, leaving⟩
        · exact earlier (same ▸ dead)
        · exact ⟨n, Nat.lt_succ_self n, k, i, working, leaving⟩
      · exact earlier (still ▸ dead)
  · rintro ⟨m, lt, k, i, falls⟩
    have dies := le_total_of_mem Worker.dies (List.mem_of_getElem? falls.leaving)
    exact Nat.lt_of_lt_of_le Nat.one_pos (Nat.le_trans dies (h.dies_le lt))

end Crew

/-! ## What runs come to -/

namespace Executor

variable {e : Executor} {bodies : List Body} {s : Crew}

/-- A run comes to the error that names the dead workers, in order of their numbers: each by the prefix,
a dash and its number. -/
def NamesDead (e : Executor) (bodies : List Body) (s : Crew) : Prop :=
  e.report? bodies s = some (.returned (.error (.internal ("threads panicked: " ++
    ", ".intercalate (s.dead.map fun k => e.config.threadNamePrefix ++ "-" ++ toString k)))))

/-- A run has come back with all threads joined and as many workers dead as tasks of the list kill, or
all of them if more do. If a worker is left alive, every task was carried out; if none is, each of them
died of a task of its own. -/
structure Mourns (e : Executor) (bodies : List Body) (s : Crew) : Prop where
  ended : s.HasEnded (e.plan bodies)
  back : s.return? = some (.finished s.dead)
  deaths : s.dead.length = min (countEnding Ending.kills bodies) (e.plan bodies).workers
  named : 0 < countEnding Ending.kills bodies → e.NamesDead bodies s
  complete : countEnding Ending.kills bodies < (e.plan bodies).workers →
    s.began.Perm (List.range bodies.length) ∧ s.counters.submitted.toNat = bodies.length ∧
      s.counters.started.toNat = bodies.length ∧ s.counters.abandoned = 0
  all : (e.plan bodies).workers ≤ countEnding Ending.kills bodies →
    s.dead = List.range (e.plan bodies).workers ∧
      s.began.countP (fun i => ((e.plan bodies).ending i).kills) = (e.plan bodies).workers

/-- A run whose threads were all started comes back with the dead workers. -/
lemma finished_of_isOver {kind : Move → Prop}
    (h : Crew.ReachesBy (e.plan bodies) kind (e.begin bodies) s) (born : s.producer ≠ .unborn)
    (finished : s.IsOver) :
    (e.plan bodies).Sound ∧ s.return? = some (.finished s.dead) ∧
      s.HasEnded (e.plan bodies) ∧ s.producer = .gone := by
  obtain ⟨r, back⟩ := Option.isSome_iff_exists.1 finished
  have staffed := Crew.staffed_of_reaches (p := e.plan bodies) h
  have sound := sound_of_born h born back
  obtain ⟨dead, rfl⟩ := Crew.exists_finished_of_return sound (granted_of_born h born) back
  have found := staffed.eq_dead back
  exact ⟨sound, found ▸ back, Crew.hasEnded_of_isOver staffed finished, (staffed.of_finished back).2.2⟩

/-- A run comes to the error that names the dead workers exactly if there are any. -/
lemma namesDead_iff (back : s.return? = some (.finished s.dead)) :
    e.NamesDead bodies s ↔ s.dead ≠ [] := by
  rw [NamesDead, report?, back]
  cases s.dead with
  | nil => simp [Return.result]
  | cons k rest => exact ⟨fun _ => List.cons_ne_nil k rest, fun _ => rfl⟩

/-- A run below the limit whose threads were all started comes back with as many dead workers as there
must be. -/
theorem mourns_of_isOver {kind : Move → Prop} (steady : (e.plan bodies).Steady)
    (small : bodies.length < UInt64.size)
    (few : (countFailing bodies : Int) < max e.config.errorLimit.toInt 1)
    (h : Crew.ReachesBy (e.plan bodies) kind (e.begin bodies) s) (born : s.producer ≠ .unborn)
    (finished : s.IsOver) : e.Mourns bodies s := by
  obtain ⟨sound, back, ended, producer⟩ := finished_of_isOver h born finished
  have granted := granted_of_born h born
  have hired := e.workers_pos bodies
  have gone := ended.1
  obtain ⟨length, -, -⟩ := (Crew.staffed_of_reaches (p := e.plan bodies) h).manned born
  obtain ⟨dies, complete⟩ :=
    Crew.total_dies_eq (p := e.plan bodies) sound steady small hired few granted gone producer
  have deaths := Crew.length_dead gone
  rw [dies] at deaths
  refine ⟨ended, back, deaths, fun deadly => ?_, fun fewer => ?_, fun more => ⟨?_, ?_⟩⟩
  · rw [namesDead_iff back, ← List.length_pos_iff, deaths]
    exact Nat.lt_min.2 ⟨deadly, hired⟩
  · have began := complete fewer
    have settled := Crew.settled_of_reaches (p := e.plan bodies) h small (by simp [Crew.HasJoined, back])
    have started : s.counters.started.toNat = bodies.length := by
      rw [settled.started, began.length_eq, List.length_range, Plan.total, plan]
    have submitted := settled.submitted
    have le : s.counters.submitted.toNat ≤ bodies.length := settled.submitted_le
    exact ⟨began, by omega, started, UInt64.toNat_inj.1 (by show _ = 0; omega)⟩
  · rw [← length]
    refine Crew.dead_eq_range gone ?_
    rw [dies, length]
    exact Nat.min_eq_right more
  · rw [← total_toNat, ← Crew.total_dies_eq_began steady (p := e.plan bodies) h gone, dies]
    exact Nat.min_eq_right more

/-- **A worker dies of every task that kills, as long as there is one left.** From the moment on when
all threads are started — the producer is the last of them — let a run be made of whatever moves. If
every task has one ending, none fires the signal and fewer fail than the limit allows, the run cannot
but come back, with all threads joined and as many workers dead as tasks kill, or all of them if more
do: the error names the dead in order, and the living have carried out every task. And whatever tasks
do and whether or not the limit was reached, a run that is over comes to the error that names the dead
exactly if a task killed a worker on the way; if every task has one ending, that is to say that such a
task was begun. -/
theorem run_mourns {kind : Move → Prop} (h : Crew.ReachesBy (e.plan bodies) kind (e.begin bodies) s)
    (born : s.producer ≠ .unborn) :
    ((∀ b ∈ bodies, b.Fixed ∧ b.Quiet) → bodies.length < UInt64.size →
      (countFailing bodies : Int) < max e.config.errorLimit.toInt 1 →
      (s.IsOver → e.Mourns bodies s) ∧
        ∀ run : Nat → Crew, run 0 = s → Crew.IsMaximal (e.plan bodies) kind run →
          ∃ n, e.Mourns bodies (run n)) ∧
    (s.IsOver → ∀ (run : Nat → Crew) (n : Nat), run 0 = e.begin bodies →
      Crew.IsRun (e.plan bodies) kind run → run n = s →
      (e.NamesDead bodies s ↔ ∃ m < n, ∃ k i, Crew.Falls run m k i)) ∧
    ((∀ b ∈ bodies, b.Fixed ∧ b.Quiet) → s.IsOver →
      (e.NamesDead bodies s ↔ ∃ i ∈ s.began, ((e.plan bodies).ending i).kills = true)) := by
  have somebody (finished : s.IsOver) :
      e.NamesDead bodies s ↔ 0 < total Worker.dies s.workers := by
    obtain ⟨-, back, ended, -⟩ := finished_of_isOver h born finished
    rw [namesDead_iff back, ← Crew.length_dead ended.1, List.length_pos_iff]
  refine ⟨fun steady small few => ⟨mourns_of_isOver steady small few h born, ?_⟩, ?_, ?_⟩
  · rintro run rfl maximal
    obtain ⟨n, -, -, ended⟩ := maximal.exists_hasEnded (p := e.plan bodies) h
    have reached := maximal.isRun.reaches n
    exact ⟨n, mourns_of_isOver steady small few (h.trans reached) (Crew.born_of_reaches reached born)
      ended.isOver⟩
  · rintro finished run n begins isRun rfl
    rw [somebody finished]
    exact isRun.dies_iff (p := e.plan bodies) begins n
  · intro steady finished
    obtain ⟨-, -, ended, -⟩ := finished_of_isOver h born finished
    rw [somebody finished,
      Crew.total_dies_eq_began (p := e.plan bodies) steady h ended.1, total_toNat,
      List.countP_pos_iff]

/-- Three tasks that kill among others, one of which fails. -/
def fatalTasks : List Body :=
  [.done .success, .done (.poison "a"), .done (.panic "b"), .done (.poison "c"), .done (.poison "d"),
    .done .success]

theorem run_mourns_lenientPair :
    lenientPair.Mourns fatalTasks
      (Crew.drive (lenientPair.plan fatalTasks) 200 (lenientPair.begin fatalTasks)) ∧
      lenientPair.NamesDead fatalTasks
        (Crew.drive (lenientPair.plan fatalTasks) 200 (lenientPair.begin fatalTasks)) := by
  have steady : ∀ b ∈ fatalTasks, b.Fixed ∧ b.Quiet := by
    simp [fatalTasks, Body.Fixed, Body.Ends, Body.Quiet]
  have reached : Crew.Reaches (lenientPair.plan fatalTasks) (lenientPair.begin fatalTasks) _ :=
    Crew.reaches_drive (lenientPair.plan fatalTasks) 200 .refl
  obtain ⟨below, -, whichever⟩ := run_mourns reached (by decide +kernel)
  have finished : (Crew.drive (lenientPair.plan fatalTasks) 200
      (lenientPair.begin fatalTasks)).IsOver := by decide +kernel
  exact ⟨(below steady (by decide) (by decide)).1 finished,
    (whichever steady finished).2 ⟨1, by decide +kernel, by decide⟩⟩

end Executor

end TaskCrew
