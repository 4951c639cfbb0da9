import TaskCrew.Executor.Builder
import TaskCrew.Proofs.Precedence

/-!
# Builders build what was set last

A builder keeps what thread names begin with beside its configuration, and puts the two together only when
it builds. What it would build at any moment is followed by `finalConfig`, and every setting does to it what
it does to a configuration, so the last setting of each field counts, whichever place it is kept in.

* `Step.setting?`, `settings`, `afterAll_eq_setAll` — the settings of a session, which is all that it leaves
  behind;
* `finalConfig_setAll`, `config_setAll` — what settings do to the configuration that would be built, and to
  the one that is shown;
* `Start`, `Start.shown`, `Start.outcome` — where a session begins, and the configurations that it comes to,
  each field by itself;
* `Start.Builds` — an executor is built as if it were made of its name and the outcome;
* `getElem?_forks`, `getElem?_states` — what is built and shown along the way;
* `build_afterAll` — all of this about a session.
-/

namespace TaskCrew

namespace Builder

variable {s t : Setting}

/-! ## Settings of a session -/

/-- The setting of a step, if it is one. -/
def Step.setting? : Step → Option Setting
  | .set s => some s
  | .build => none

def settings (steps : List Step) : List Setting :=
  steps.filterMap Step.setting?

/-- Builds along the way leave no trace. -/
lemma afterAll_eq_setAll (b : Builder) (steps : List Step) : b.afterAll steps = b.setAll (settings steps) := by
  induction steps generalizing b with
  | nil => rfl
  | cons step steps ih =>
    cases step with
    | set s => exact ih (b.set s)
    | build => exact ih b

lemma afterAll_append (b : Builder) (front back : List Step) :
    b.afterAll (front ++ back) = (b.afterAll front).afterAll back :=
  List.foldl_append

/-! ## What settings do -/

lemma name_set (b : Builder) (s : Setting) : (b.set s).name = b.name := by
  cases s <;> rfl

/-- The configuration to be built takes a setting like any other configuration. -/
lemma finalConfig_set (b : Builder) (s : Setting) : (b.set s).finalConfig = b.finalConfig.set s := by
  cases s <;> rfl

lemma name_setAll (b : Builder) (settings : List Setting) : (b.setAll settings).name = b.name := by
  induction settings generalizing b with
  | nil => rfl
  | cons s settings ih => exact (ih (b.set s)).trans (b.name_set s)

lemma finalConfig_setAll (b : Builder) (settings : List Setting) :
    (b.setAll settings).finalConfig = b.finalConfig.setAll settings := by
  induction settings generalizing b with
  | nil => rfl
  | cons s settings ih =>
    calc ((b.set s).setAll settings).finalConfig
      _ = (b.set s).finalConfig.setAll settings := ih (b.set s)
      _ = (b.finalConfig.set s).setAll settings := by rw [finalConfig_set]

/-- The configuration that is shown takes all settings but those of thread names. -/
lemma config_setAll (b : Builder) (settings : List Setting) :
    (b.setAll settings).config =
      b.config.setAll (settings.filter fun s => s.field ≠ .threadNamePrefix) := by
  induction settings generalizing b with
  | nil => rfl
  | cons s settings ih => cases s <;> exact ih _

/-- Settings for different fields may be made in either order. -/
lemma set_comm (b : Builder) (h : s.field ≠ t.field) : (b.set s).set t = (b.set t).set s := by
  cases s with
  | threadNamePrefix text =>
    cases t with
    | threadNamePrefix text' => exact absurd rfl h
    | workerCount | errorLimit | queueCapacity | threadStackSize => rfl
  | workerCount | errorLimit | queueCapacity | threadStackSize =>
    cases t with
    | threadNamePrefix text => rfl
    | workerCount | errorLimit | queueCapacity | threadStackSize =>
      exact congrArg (Builder.mk b.name · b.threadNamePrefix) (b.config.set_comm h)

/-! ## Sessions -/

/-- Where building starts: with the default configuration of a machine, or with a given one. -/
inductive Start
  | new (machine : Machine) (name : String)
  | ofConfig (name : String) (c : Config)
  deriving DecidableEq, Repr

namespace Start

/-- The builder at the start. -/
def builder : Start → Builder
  | new machine name => Builder.new machine name
  | ofConfig name c => Builder.ofConfig name c

def name : Start → String
  | new _ name | ofConfig name _ => name

def config : Start → Config
  | new machine _ => .new machine
  | ofConfig _ c => c

/-- What thread names begin with unless a setting says otherwise: the name of the executor, or what they
begin with in the configuration that was given, whatever that is. -/
def threadNamePrefix : Start → String
  | new _ name => name
  | ofConfig _ c => c.threadNamePrefix

/-- The configuration that is shown after some steps: each field but that of thread names holds what was set
last, or else what it held at the start. -/
def shown (start : Start) (steps : List Step) : Config where
  workerCount := (Setting.last? (settings steps) .workerCount).getD start.config.workerCount
  errorLimit := (Setting.last? (settings steps) .errorLimit).getD start.config.errorLimit
  queueCapacity := (Setting.last? (settings steps) .queueCapacity).getD start.config.queueCapacity
  threadStackSize := (Setting.last? (settings steps) .threadStackSize).getD start.config.threadStackSize
  threadNamePrefix := start.config.threadNamePrefix

/-- The configuration that is built after some steps: the one that is shown, but for thread names. -/
def outcome (start : Start) (steps : List Step) : Config :=
  { start.shown steps with
    threadNamePrefix :=
      (Setting.last? (settings steps) .threadNamePrefix).getD start.threadNamePrefix }

lemma name_builder (start : Start) : start.builder.name = start.name := by
  cases start <;> rfl

lemma config_builder (start : Start) : start.builder.config = start.config := by
  cases start <;> rfl

lemma finalConfig_builder (start : Start) :
    start.builder.finalConfig = { start.config with threadNamePrefix := start.threadNamePrefix } := by
  cases start <;> rfl

lemma name_afterAll (start : Start) (steps : List Step) :
    (start.builder.afterAll steps).name = start.name := by
  rw [afterAll_eq_setAll, name_setAll, name_builder]

/-- The configuration that a builder shows is the one at the start with the numbers that were set last. -/
theorem config_afterAll (start : Start) (steps : List Step) :
    (start.builder.afterAll steps).config = start.shown steps := by
  refine Config.eq_of_get fun f => ?_
  rw [afterAll_eq_setAll, config_setAll, Config.get_setAll, Setting.last?_filter, config_builder]
  cases f <;> rfl

/-- What is put together from both places is what was set last of each field. -/
theorem finalConfig_afterAll (start : Start) (steps : List Step) :
    (start.builder.afterAll steps).finalConfig = start.outcome steps := by
  refine Config.eq_of_get fun f => ?_
  rw [afterAll_eq_setAll, finalConfig_setAll, Config.get_setAll, finalConfig_builder]
  cases f <;> rfl

/-- The result of a build after some steps. It is as if the executor were made of its name and the outcome: it
is made if there are workers, a stack and a name for threads, and otherwise the error names the first check
that the outcome fails. -/
structure Builds (start : Start) (steps : List Step) (result : Except RunError Executor) : Prop where
  named : result = Executor.named start.name (start.outcome steps)
  made_iff : (∃ e, result = .ok e) ↔ (start.outcome steps).workerCount ≠ 0 ∧
    (start.outcome steps).threadStackSize ≠ 0 ∧ (start.outcome steps).threadNamePrefix ≠ ""
  made : ∀ e, result = .ok e → e.name = start.name ∧ e.config = start.outcome steps
  refused_iff : ∀ error, result = .error error ↔
    ∃ fault, (start.outcome steps).FailsFirst fault ∧ error = .invalidConfig fault.message

/-- At any time, a builder builds the outcome of the steps up to then. -/
theorem builds (start : Start) (steps : List Step) :
    start.Builds steps (start.builder.afterAll steps).build := by
  have named : (start.builder.afterAll steps).build =
      Executor.named start.name (start.outcome steps) := by
    rw [build, start.name_afterAll, start.finalConfig_afterAll]
  constructor
  · exact named
  · rw [named, ← Config.fault?_eq_none_iff]
    exact Executor.exists_named_eq_ok_iff start.name
  · rw [named]
    exact fun e => Executor.eq_of_named
  · intro error
    rw [named, Executor.named_eq_error_iff]
    simp only [Config.fault?_eq_some_iff]
    rfl

end Start

/-! ## Along the way -/

lemma forks_append (b : Builder) (front back : List Step) :
    b.forks (front ++ back) = b.forks front ++ (b.afterAll front).forks back := by
  induction front generalizing b with
  | nil => rfl
  | cons step front ih =>
    cases step with
    | set s => exact ih (b.set s)
    | build => exact congrArg (b.build :: ·) (ih b)

lemma length_forks (b : Builder) (steps : List Step) : (b.forks steps).length = steps.count .build := by
  induction steps generalizing b with
  | nil => rfl
  | cons step steps ih =>
    cases step with
    | set s =>
      have other : Step.set s ≠ .build := nofun
      rw [forks, ih, List.count_cons_of_ne other]
    | build => rw [forks, List.length_cons, ih, List.count_cons_self]

/-- What a build along the way gives is what the builder up to then builds. -/
lemma getElem?_forks (b : Builder) (front back : List Step) :
    (b.forks (front ++ .build :: back))[front.count .build]? = some (b.afterAll front).build := by
  rw [forks_append, ← b.length_forks, List.getElem?_append_right (Nat.le_refl _), Nat.sub_self]
  rfl

/-- Without one of the builds, the others give the same. -/
lemma forks_eraseIdx (b : Builder) (front back : List Step) :
    (b.forks (front ++ .build :: back)).eraseIdx (front.count .build) = b.forks (front ++ back) := by
  rw [forks_append, forks_append, ← b.length_forks, List.eraseIdx_append_of_length_le (Nat.le_refl _),
    Nat.sub_self]
  rfl

lemma length_states (b : Builder) (steps : List Step) : (b.states steps).length = steps.length + 1 := by
  induction steps generalizing b with
  | nil => rfl
  | cons step steps ih => exact congrArg (· + 1) (ih (b.after step))

lemma getElem?_states (b : Builder) (front back : List Step) :
    (b.states (front ++ back))[front.length]? = some (b.afterAll front) := by
  induction front generalizing b with
  | nil => cases back <;> rfl
  | cons step front ih => exact ih (b.after step)

/-- **A builder builds what was set last.** Wherever building starts and whatever steps are taken, what the
builder builds in the end is what would be made of the name and of the configuration in which each field
holds what was set last, or else what it held at the start, where threads are named after the executor unless
there was a configuration or a setting to say otherwise.

Every build along the way gives what the steps up to it would give as a whole, and nothing that comes after
it would be different without it. Two settings for different fields may change places. And at any time, the
configuration that is shown is the one at the start with the numbers that were set last. -/
theorem build_afterAll (start : Start) :
    (∀ steps, start.Builds steps (start.builder.afterAll steps).build) ∧
    (∀ steps, (start.builder.forks steps).length = steps.count .build) ∧
    (∀ front back,
      (∃ result, (start.builder.forks (front ++ .build :: back))[front.count .build]? = some result ∧
        start.Builds front result) ∧
      (start.builder.forks (front ++ .build :: back)).eraseIdx (front.count .build) =
        start.builder.forks (front ++ back) ∧
      start.builder.afterAll (front ++ .build :: back) = start.builder.afterAll (front ++ back)) ∧
    (∀ front back s t, s.field ≠ t.field →
      start.builder.afterAll (front ++ .set s :: .set t :: back) =
        start.builder.afterAll (front ++ .set t :: .set s :: back)) ∧
    (∀ steps, (start.builder.states steps).length = steps.length + 1) ∧
    ∀ front back, ∃ b, (start.builder.states (front ++ back))[front.length]? = some b ∧
      b.name = start.name ∧ b.config = start.shown front := by
  refine ⟨start.builds, start.builder.length_forks, ?_, ?_, start.builder.length_states, ?_⟩
  · intro front back
    refine ⟨⟨_, start.builder.getElem?_forks front back, start.builds front⟩,
      start.builder.forks_eraseIdx front back, ?_⟩
    rw [afterAll_append, afterAll_append]
    rfl
  · intro front back s t differ
    have swapped := (start.builder.afterAll front).set_comm differ
    rw [afterAll_append, afterAll_append]
    exact congrArg (afterAll · back) swapped
  · intro front back
    exact ⟨_, start.builder.getElem?_states front back, start.name_afterAll front,
      start.config_afterAll front⟩

/-- The name for threads is taken away and given back around a build, which is refused for it. The one that
came with the configuration is the default one, and it counts all the same. Without a setting, there are as
many workers as processors. -/
theorem build_afterAll_refusedBetween :
    let machine : Machine := ⟨4, by decide⟩
    let start := Start.ofConfig "nightly" (.new machine)
    let front : List Step := [.set (.workerCount 0)]
    let back : List Step := [.build, .set (.queueCapacity (some 0)), .set (.threadNamePrefix "etl")]
    let steps := front ++ .set (.workerCount 3) :: .set (.threadNamePrefix "") :: back
    (Setting.workerCount 3).field ≠ (Setting.threadNamePrefix "").field ∧
    start.builder.afterAll steps =
      start.builder.afterAll (front ++ .set (.threadNamePrefix "") :: .set (.workerCount 3) :: back) ∧
    (start.builder.forks steps)[0]? = some (.error (.ofConfigFault .noThreadName)) ∧
    (start.builder.afterAll steps).build =
      Executor.named "nightly" { workerCount := 3, queueCapacity := some 0, threadNamePrefix := "etl" } ∧
    (start.builder.afterAll []).build = Executor.named "nightly" { workerCount := 4 } ∧
    ((Start.new machine "nightly").builder.afterAll []).build =
      Executor.named "nightly" { workerCount := 4, threadNamePrefix := "nightly" } := by
  intro machine start front back steps
  have differ : (Setting.workerCount 3).field ≠ (Setting.threadNamePrefix "").field := by decide
  obtain ⟨builds, -, cut, swap, -⟩ := build_afterAll start
  obtain ⟨⟨result, there, refused⟩, -⟩ :=
    cut (front ++ [.set (.workerCount 3), .set (.threadNamePrefix "")]) back.tail
  have noName : result = .error (.ofConfigFault .noThreadName) := by
    refine (refused.refused_iff _).2 ⟨.noThreadName, ⟨[.noWorkers, .noStack], [], rfl, ?_, rfl⟩, rfl⟩
    have workers : (3 : UInt64) ≠ 0 := by decide
    have stack : (2097152 : UInt64) ≠ 0 := by decide
    exact List.forall_mem_cons.2 ⟨workers, List.forall_mem_singleton.2 stack⟩
  rw [noName] at there
  exact ⟨differ, swap front back _ _ differ, there, (builds steps).named, (builds []).named,
    ((build_afterAll (.new machine "nightly")).1 []).named⟩

end Builder

end TaskCrew
