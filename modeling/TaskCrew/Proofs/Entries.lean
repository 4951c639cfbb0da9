import TaskCrew.Proofs.Exhaustion
import TaskCrew.Proofs.Refusal

/-!
# All entries agree

There are several ways to have tasks run. They differ in where the executor comes from, on which thread
the run takes place and in what is made of its report, but not in what the tasks come to.

* `Executor.Ends`, `Entry.Ends` — the ends that a call can come to, over all ways in which threads can
  mix, with the tasks that it has begun;
* `Entry.Ends.of_call` — a call that is carried out comes to one of them;
* `verdict` — the result that the tasks, the number of workers and the error limit determine;
* `exists_isOver` — a run can always be carried on to its end with no thread refused;
* `entries_agree` — with the same tasks, the same number of workers and the same limit, every entry
  gives the verdict, and a caller that must not be kept waiting is told what any other caller is told,
  except that a call that breaks off is an error for it.
-/

namespace TaskCrew

/-! ## The ends of calls -/

/-- A run of an executor has come to this end by way of an entry, with these tasks begun, and was left in
a state of a kind. A runtime may say of a run that broke off what it likes. -/
inductive Executor.Ends (e : Executor) (entry : Entry) (bodies : List Body) (kind : Crew → Prop) :
    Exit (Except RunError Unit) → List Nat → Prop
  | ofReport {s : Crew} {exit : Exit (Except RunError Report)} (why : String)
    (reached : Crew.Reaches (e.plan bodies) (e.begin bodies) s) (left : kind s)
    (report : e.report? bodies s = some exit) :
    Ends e entry bodies kind (entry.result why exit) s.began

/-- A call has come to this end by way of an entry, with these tasks begun: its executor was refused, or a
run of its executor was left in a state of a kind. -/
inductive Entry.Ends (entry : Entry) (name : Option String) (c : Config) (bodies : List Body)
    (kind : Crew → Prop) : Exit (Except RunError Unit) → List Nat → Prop
  | refused {error : RunError} (refused : entry.executor name c = .error error) :
    Ends entry name c bodies kind (.returned (.error error)) []
  | ran {e : Executor} {exit : Exit (Except RunError Unit)} {began : List Nat}
    (made : entry.executor name c = .ok e) (ends : e.Ends entry bodies kind exit began) :
    Ends entry name c bodies kind exit began

/-- A call that is carried out comes to one of its ends. -/
theorem Entry.Ends.of_call {entry : Entry} {name : Option String} {c : Config} {bodies : List Body}
    {exit : Exit (Except RunError Unit)} (h : (entry.call name c bodies).result = some exit) :
    entry.Ends name c bodies (fun _ => True) exit (entry.call name c bodies).crew.began := by
  cases made : entry.executor name c with
  | error error =>
    simp only [call, made] at h ⊢
    obtain rfl := Option.some.inj h
    exact .refused made
  | ok e =>
    simp only [call, made] at h ⊢
    obtain ⟨x, report, rfl⟩ := Option.map_eq_some_iff.1 h
    exact .ran made (.ofReport Entry.loss (Crew.reaches_drive _ _ .refl) trivial report)

/-! ## Runs whose threads are all started -/

namespace Crew

/-- All threads were started, of which the producer is the last. -/
def AllStarted (s : Crew) : Prop :=
  s.producer ≠ .unborn

/-- A run can be carried on to its end with no thread refused. -/
lemma exists_isOver {p : Plan} {outsiders : Nat} {s : Crew}
    (h : ReachesBy p Move.IsGranted (p.begin outsiders) s) :
    ∃ t, ReachesBy p Move.IsGranted s t ∧ t.IsOver := by
  induction cost : s.cost p using Nat.strongRecOn generalizing s with
  | _ n ih =>
    by_cases ended : s.HasEnded p
    · exact ⟨s, .refl, ended.isOver⟩
    obtain ⟨m, due, possible⟩ := exists_due_of_reaches h ended
    obtain ⟨t, step⟩ := Option.isSome_iff_exists.1 possible
    have lt := cost_lt_of_reaches h step
    obtain ⟨u, onward, isOver⟩ := ih (t.cost p) (cost ▸ lt) (.tail m h due.1 step) rfl
    exact ⟨u, .trans (.tail m .refl due.1 step) onward, isOver⟩

end Crew

/-- The result that tasks come to with so many workers and an error limit. -/
def verdict (n : UInt64) (limit : Int64) (bodies : List Body) : Except RunError Unit :=
  if n = 0 then .error (.ofConfigFault .noWorkers)
  else if max limit.toInt 1 ≤ (countFailing bodies : Int) then .error .limitReached
  else .ok ()

namespace Executor

variable {e : Executor} {entry : Entry} {bodies : List Body} {s : Crew}

lemma isOver_of_report? {exit : Exit (Except RunError Report)}
    (h : e.report? bodies s = some exit) : s.IsOver := by
  cases hr : s.return? with
  | none => simp [report?, hr] at h
  | some back => simp [Crew.IsOver, hr]

/-- A run whose threads are all started is over only with the verdict, by whatever entry. -/
theorem report?_eq_verdict {kind : Move → Prop} (steady : (e.plan bodies).Steady)
    (mild : ∀ b ∈ bodies, b.ending.kills = false) (small : bodies.length < UInt64.size)
    (h : Crew.ReachesBy (e.plan bodies) kind (e.begin bodies) s) (started : s.AllStarted)
    (finished : s.IsOver) (entry : Entry) (why : String) :
    (e.report? bodies s).map (entry.result why) =
      some (.returned (verdict e.config.workerCount e.config.errorLimit bodies)) := by
  have granted := granted_of_born h started
  obtain ⟨r, back⟩ := Option.isSome_iff_exists.1 finished
  have sound := sound_of_born h started back
  rw [Crew.return_eq_finished sound steady mild granted back] at back
  have report : e.report? bodies s = _ := report?_of_alive back
  have returns : e.Returns bodies s (e.reportOn s).result := by
    rw [Returns, report]
    rfl
  rw [report, verdict, if_neg e.workerCount_ne_zero, ← returns.eq_verdict steady mild small granted]
  cases entry <;> rfl

/-- A run that can begin can come to its end with all threads started. -/
lemma exists_allStarted (sound : (e.plan bodies).Sound) :
    ∃ s, Crew.Reaches (e.plan bodies) (e.begin bodies) s ∧ s.AllStarted ∧ s.IsOver := by
  have start : Crew.ReachesBy (e.plan bodies) Move.IsGranted (e.begin bodies) (e.begin bodies) := .refl
  obtain ⟨s, reached, isOver⟩ := Crew.exists_isOver start
  obtain ⟨r, back⟩ := Option.isSome_iff_exists.1 isOver
  obtain ⟨dead, rfl⟩ := Crew.exists_finished_of_return sound reached back
  have born := ((Crew.staffed_of_reaches reached).of_finished back).1.2.1
  exact ⟨s, reached.mono fun _ _ => trivial, born, isOver⟩

end Executor

/-! ## Executors of entries -/

namespace Config

/-- The default configuration with another number of workers and another error limit. -/
def ofLimits (n : UInt64) (limit : Int64) : Config :=
  { workerCount := n, errorLimit := limit }

variable {n : UInt64} {limit : Int64}

/-- It is the same on every machine. -/
lemma setAll_new_eq_ofLimits (m : Machine) :
    (new m).setAll [.workerCount n, .errorLimit limit] = ofLimits n limit := rfl

lemma fault?_ofLimits : (ofLimits n limit).fault? = if n = 0 then some .noWorkers else none := by
  rw [fault?]
  rfl

end Config

namespace Entry

variable {n : UInt64} {limit : Int64} (entry : Entry) (name : Option String)

/-- An executor for one run is made from what a configuration of this kind has anyway. -/
lemma executor_ofLimits :
    ∃ title, entry.executor name (.ofLimits n limit) = Executor.named title (.ofLimits n limit) := by
  rw [executor]
  by_cases own : entry.isOwnExecutor
  · exact ⟨_, if_pos own⟩
  · exact ⟨_, if_neg own⟩

lemma executor_zero :
    entry.executor name (.ofLimits 0 limit) = .error (.ofConfigFault .noWorkers) := by
  obtain ⟨title, eq⟩ := entry.executor_ofLimits name
  rw [eq, Executor.named_of_fault?_eq_some title Config.fault?_ofLimits]

lemma exists_executor (limit : Int64) (hired : n ≠ 0) :
    ∃ e, entry.executor name (.ofLimits n limit) = .ok e ∧ e.config = .ofLimits n limit := by
  obtain ⟨title, eq⟩ := entry.executor_ofLimits name
  have accepted : (Config.ofLimits n limit).fault? = none := by
    rw [Config.fault?_ofLimits, if_neg hired]
  exact ⟨_, eq.trans (Executor.named_of_fault?_eq_none title accepted), rfl⟩

end Entry

/-! ## Callers that must not be kept waiting -/

namespace InternalFault

/-- The wording of a fault of the threads begins with a letter of its own. -/
def initial : InternalFault → Char
  | notStarted _ _ => 'f'
  | died _ => 't'
  | notJoined _ => 'b'

lemma head?_message (f : InternalFault) : f.message.toList.head? = some f.initial := by
  have head {front : String} {c : Char} (initial : front.toList.head? = some c) (back : String) :
      (front ++ back).toList.head? = some c := by
    rw [String.toList_append, List.head?_append, initial]
    rfl
  cases f with
  | notStarted thread why => exact head (head (head rfl thread) ": ") why
  | died threads => exact head rfl _
  | notJoined why => exact head rfl why

/-- An error tells which kind of fault has led to it. -/
lemma initial_eq {f g : InternalFault} (h : RunError.ofInternalFault f = .ofInternalFault g) :
    f.initial = g.initial := by
  have message : f.message = g.message := RunError.internal.inj h
  have head := f.head?_message
  rw [message, g.head?_message] at head
  exact (Option.some.inj head).symm

end InternalFault

namespace Executor

variable {e : Executor} {bodies : List Body} {s : Crew} {kind : Crew → Prop}
  {exit : Exit (Except RunError Unit)} {began : List Nat}

/-- If a thread was refused, the result is an error that names it. -/
lemma Returns.eq_of_refused {refusal : Refusal} {r : Except RunError Unit} (returns : e.Returns bodies s r)
    (back : s.return? = some (.refused refusal)) :
    r = .error (.ofInternalFault
      (.notStarted ((e.plan bodies).threadName refusal.started) refusal.why)) := by
  simpa [Returns, report?, back, Return.result, Exit.result, Except.bind, eq_comm] using returns

/-- No call that returns gives the error of a call that broke off. -/
theorem Returns.ne_notJoined {r : Except RunError Unit} (returns : e.Returns bodies s r) (why : String) :
    r ≠ .error (.ofInternalFault (.notJoined why)) := by
  rintro rfl
  obtain ⟨back, hr⟩ := returns.exists_return
  cases back with
  | finished dead =>
    cases dead with
    | nil =>
      have alive := returns.eq_of_alive hr
      split at alive <;> cases alive
    | cons k dead =>
      have died := Except.error.inj (returns.eq_of_dead hr)
      exact absurd (InternalFault.initial_eq died) (by simp [InternalFault.initial])
  | refused refusal =>
    have refused := Except.error.inj (returns.eq_of_refused hr)
    exact absurd (InternalFault.initial_eq refused) (by simp [InternalFault.initial])
  | panicked => simp [Returns, report?, hr, Return.result, Exit.result] at returns

/-- A call breaks off only if no run can begin, and then no task was begun. -/
theorem Ends.eq_nil_of_panicked (h : e.Ends .execute bodies kind .panicked began) : began = [] := by
  generalize ending : Exit.panicked = exit at h
  obtain @⟨s, inner, why, reached, left, report⟩ := h
  have broken : inner = .panicked := by
    cases inner with
    | returned answer => cases ending
    | panicked => rfl
  have unsound : ¬ (e.plan bodies).Sound := by
    intro sound
    obtain ⟨answer, answers⟩ := answers_of_isOver sound reached (isOver_of_report? report)
    rw [broken, answers] at report
    cases report
  exact (breaksOff_of_unsound unsound reached).2.2.1

/-- A caller that must not be kept waiting is told what the call comes to for another one. -/
theorem ends_executeAsync_iff :
    e.Ends .executeAsync bodies kind exit began ↔
      ∃ inner why, e.Ends .execute bodies kind inner began ∧ exit = .returned (inner.shielded why) := by
  constructor
  · rintro @⟨s, exit, why, reached, left, report⟩
    exact ⟨_, why, .ofReport why reached left report, rfl⟩
  · rintro ⟨inner, why, @⟨s, exit, -, reached, left, report⟩, rfl⟩
    exact .ofReport why reached left report

/-- A caller that must not be kept waiting is told that the call broke off only if it did. -/
theorem ends_executeAsync_notJoined_iff (why : String) :
    e.Ends .executeAsync bodies kind (.returned (.error (.ofInternalFault (.notJoined why)))) began ↔
      e.Ends .execute bodies kind .panicked began := by
  rw [ends_executeAsync_iff]
  constructor
  · rintro ⟨inner, said, ends, told⟩
    cases inner with
    | panicked => exact ends
    | returned r =>
      exfalso
      generalize ending : Exit.returned r = exit at ends
      obtain @⟨s, inner, _, reached, left, report⟩ := ends
      have returns : e.Returns bodies s r := by rw [Returns, report, ending]; rfl
      exact returns.ne_notJoined why (Exit.returned.inj told).symm
  · exact fun ends => ⟨_, why, ends, rfl⟩

end Executor

/-! ## One verdict -/

section Verdict

variable {n : UInt64} {limit : Int64} {name : Option String} {bodies : List Body}
  (steady : ∀ b ∈ bodies, b.Fixed ∧ b.Quiet) (mild : ∀ b ∈ bodies, b.ending.kills = false)
  (small : bodies.length < UInt64.size)

include steady mild small

/-- Once all threads are started, a call comes to no end but the verdict. -/
theorem Entry.Ends.eq_verdict {entry : Entry} {exit : Exit (Except RunError Unit)} {began : List Nat}
    (h : entry.Ends name (.ofLimits n limit) bodies Crew.AllStarted exit began) :
    exit = .returned (verdict n limit bodies) ∧ (n = 0 → began = []) := by
  by_cases idle : n = 0
  · subst idle
    obtain @⟨error, refused⟩ | @⟨e, _, _, made, -⟩ := h
    · obtain rfl := Except.error.inj (refused.symm.trans (entry.executor_zero name))
      exact ⟨rfl, fun _ => rfl⟩
    · cases made.symm.trans (entry.executor_zero name)
  · obtain ⟨e, made, config⟩ := entry.exists_executor name limit idle
    obtain @⟨error, refused⟩ | @⟨e', _, _, made', @⟨s, exit, why, reached, started, report⟩⟩ := h
    · cases made.symm.trans refused
    · obtain rfl := Except.ok.inj (made.symm.trans made')
      have answer := e.report?_eq_verdict steady mild small reached started
        (Executor.isOver_of_report? report) entry why
      rw [report, config] at answer
      exact ⟨Option.some.inj answer, fun zero => absurd zero idle⟩

/-- Every entry can come to the verdict, if what a run needs fits into objects. -/
theorem Entry.exists_ends_verdict (entry : Entry)
    (fits : n = 0 ∨ (⟨.ofLimits n limit, bodies⟩ : Plan).Fits) :
    ∃ began, entry.Ends name (.ofLimits n limit) bodies Crew.AllStarted
      (.returned (verdict n limit bodies)) began := by
  by_cases idle : n = 0
  · subst idle
    exact ⟨[], .refused (entry.executor_zero name)⟩
  · obtain ⟨e, made, config⟩ := entry.exists_executor name limit idle
    have plan : e.plan bodies = ⟨.ofLimits n limit, bodies⟩ := by rw [Executor.plan, config]
    have sound : (e.plan bodies).Sound := by
      rw [plan]
      refine ⟨fits.resolve_left idle, ?_⟩
      show '\x00' ∉ "bx-worker".toList
      decide
    obtain ⟨s, reached, started, isOver⟩ := Executor.exists_allStarted sound
    have answer := e.report?_eq_verdict steady mild small reached started isOver entry Entry.loss
    obtain ⟨exit, report, told⟩ := Option.map_eq_some_iff.1 answer
    rw [config] at told
    exact ⟨s.began, .ran made (told ▸ .ofReport Entry.loss reached started report)⟩

/-- **All entries agree.** Let every task have one ending, whatever happens, and let none kill a worker.
For any number of workers and any error limit, whichever entry the tasks are run by: a call whose threads
are all started comes to no end but the verdict, it can come to that if what a run needs fits into objects,
and it cannot but come to it from the moment on when all threads are started. Without workers, the verdict
is the error of the check that the configuration fails, and no task is begun.

For any executor and whatever tasks do, and whether threads are refused or not: a caller that must not be
kept waiting is told exactly what a call comes to for any other caller. That the run is lost, in whatever
words of the runtime, it is told exactly if the call breaks off for any other caller, and then no task was
begun. -/
theorem entries_agree :
    (∀ entry : Entry,
      (∀ exit began, entry.Ends name (.ofLimits n limit) bodies Crew.AllStarted exit began →
        exit = .returned (verdict n limit bodies) ∧ (n = 0 → began = [])) ∧
      (n = 0 ∨ (⟨.ofLimits n limit, bodies⟩ : Plan).Fits →
        ∃ began, entry.Ends name (.ofLimits n limit) bodies Crew.AllStarted
          (.returned (verdict n limit bodies)) began) ∧
      ∀ (e : Executor) (kind : Move → Prop) (run : Nat → Crew),
        entry.executor name (.ofLimits n limit) = .ok e →
        Crew.ReachesBy (e.plan bodies) kind (e.begin bodies) (run 0) → (run 0).AllStarted →
        Crew.IsMaximal (e.plan bodies) kind run →
        ∃ k, ∀ why, (e.report? bodies (run k)).map (entry.result why) =
          some (.returned (verdict n limit bodies))) ∧
    ∀ (e : Executor) (tasks : List Body) (left : Crew → Prop) (began : List Nat),
      (∀ exit, e.Ends .executeAsync tasks left exit began ↔
        ∃ inner why, e.Ends .execute tasks left inner began ∧
          exit = .returned (inner.shielded why)) ∧
      (∀ why, e.Ends .executeAsync tasks left
          (.returned (.error (.internal ("blocking run join failed: " ++ why)))) began ↔
        e.Ends .execute tasks left .panicked began) ∧
      (e.Ends .execute tasks left .panicked began → began = []) := by
  refine ⟨fun entry => ⟨?_, entry.exists_ends_verdict steady mild small, ?_⟩, ?_⟩
  · exact fun exit began ends => ends.eq_verdict steady mild small
  · intro e kind run made reached started maximal
    have hired : n ≠ 0 := by
      rintro rfl
      cases made.symm.trans (entry.executor_zero name)
    obtain ⟨e', made', config⟩ := entry.exists_executor name limit hired
    obtain rfl := Except.ok.inj (made.symm.trans made')
    obtain ⟨k, -, -, ended⟩ := maximal.exists_hasEnded (p := e.plan bodies) reached
    have onward := maximal.isRun.reaches k
    refine ⟨k, fun why => ?_⟩
    have answer := e.report?_eq_verdict steady mild small (reached.trans onward)
      (Crew.born_of_reaches onward started) ended.isOver entry why
    rwa [config] at answer
  · intro e tasks left began
    exact ⟨fun exit => Executor.ends_executeAsync_iff, Executor.ends_executeAsync_notJoined_iff,
      Executor.Ends.eq_nil_of_panicked⟩

end Verdict

/-- Three tasks of which one fails are no error for two workers and a limit of two, and are not run
without workers. -/
theorem entries_agree_threeTasks :
    (∃ began, Entry.run.Ends none (.ofLimits 2 2) Plan.threeTasks.bodies Crew.AllStarted
      (.returned (.ok ())) began) ∧
    (∃ began, Entry.executeAsync.Ends none (.ofLimits 2 2) Plan.threeTasks.bodies Crew.AllStarted
      (.returned (.ok ())) began) ∧
    ∃ began, Entry.runAsync.Ends none (.ofLimits 0 2) Plan.threeTasks.bodies Crew.AllStarted
      (.returned (.error (.ofConfigFault .noWorkers))) began := by
  have steady : ∀ b ∈ Plan.threeTasks.bodies, b.Fixed ∧ b.Quiet := by
    simp [Plan.threeTasks, Body.Fixed, Body.Ends, Body.Quiet]
  obtain ⟨two, -⟩ := @entries_agree 2 2 none _ steady (by decide) (by decide)
  obtain ⟨idle, -⟩ := @entries_agree 0 2 none _ steady (by decide) (by decide)
  exact ⟨(two .run).2.1 (.inr (by decide)), (two .executeAsync).2.1 (.inr (by decide)),
    (idle .runAsync).2.1 (.inl rfl)⟩

end TaskCrew
