import TaskCrew.RunError

/-!
# Executors

* `Executor` — a name with a configuration that passes its checks;
* `Executor.named`, `Executor.ofConfig` — the executor of a configuration, unless it is refused.

**Design.** An executor carries the proof that its configuration passes, so a run of an executor
has at least one worker, a stack, and a name for its threads.
-/

namespace TaskCrew

/-- What runs task lists. -/
structure Executor where
  name : String
  config : Config
  fault?_config : config.fault? = none

namespace Executor

/-- The executor of a configuration under a name. -/
def named (name : String) (c : Config) : Except RunError Executor :=
  match h : c.fault? with
  | some f => .error (.ofConfigFault f)
  | none => .ok ⟨name, c, h⟩

/-- The name of an executor that is given none. -/
def plainName : String := "executor"

def ofConfig (c : Config) : Except RunError Executor :=
  named plainName c

theorem named_of_fault?_eq_none {c : Config} (name : String) (h : c.fault? = none) :
    named name c = .ok ⟨name, c, h⟩ := by
  unfold named
  split
  · next f hf => simp [h] at hf
  · rfl

theorem named_of_fault?_eq_some {c : Config} {f : Config.Fault} (name : String)
    (h : c.fault? = some f) : named name c = .error (.ofConfigFault f) := by
  unfold named
  split
  · next g hg => simp [h] at hg; simp [hg]
  · next hn => simp [h] at hn

theorem exists_named_eq_ok_iff {c : Config} (name : String) :
    (∃ e, named name c = .ok e) ↔ c.fault? = none := by
  constructor
  · rintro ⟨e, made⟩
    cases fault : c.fault? with
    | none => rfl
    | some f => cases made.symm.trans (named_of_fault?_eq_some name fault)
  · exact fun accepted => ⟨_, named_of_fault?_eq_none name accepted⟩

/-- An executor has the name and the configuration that it was made of. -/
theorem eq_of_named {c : Config} {name : String} {e : Executor} (made : named name c = .ok e) :
    e.name = name ∧ e.config = c := by
  have accepted := (exists_named_eq_ok_iff name).1 ⟨e, made⟩
  obtain rfl := Except.ok.inj (made.symm.trans (named_of_fault?_eq_none name accepted))
  exact ⟨rfl, rfl⟩

theorem named_eq_error_iff {c : Config} {error : RunError} (name : String) :
    named name c = .error error ↔ ∃ f, c.fault? = some f ∧ error = .ofConfigFault f := by
  cases fault : c.fault? with
  | none => simp [named_of_fault?_eq_none name fault]
  | some f => simp [named_of_fault?_eq_some name fault, eq_comm]

end Executor

end TaskCrew
