import Mathlib.Data.List.Nodup
import TaskCrew.Config.Basic

/-!
# The last setting of a field counts, and the first check that fails

* `Config.Field.Content`, `Config.get`, `Setting.get?` — what a field holds, in a configuration and by a
  setting;
* `Setting.last?`, `Config.get_setAll` — the last thing that settings say of a field, which is what the field
  holds once they are applied;
* `Config.set_comm`, `Config.setAll_perm` — settings for different fields may be applied in any order;
* `Config.Fails`, `Config.fault?_eq_some_iff`, `Config.fault?_eq_none_iff` — the checks that a configuration
  fails, the first of which is its fault.

A configuration is seen through its fields: two configurations are the same if all fields hold the same.
-/

namespace TaskCrew

namespace Config

/-- What a field holds. -/
def Field.Content : Field → Type
  | .workerCount | .threadStackSize => UInt64
  | .errorLimit => Int64
  | .queueCapacity => Option UInt64
  | .threadNamePrefix => String

/-- What a field of a configuration holds. -/
def get (c : Config) : (f : Field) → f.Content
  | .workerCount => c.workerCount
  | .errorLimit => c.errorLimit
  | .queueCapacity => c.queueCapacity
  | .threadStackSize => c.threadStackSize
  | .threadNamePrefix => c.threadNamePrefix

lemma eq_of_get {c d : Config} (h : ∀ f, c.get f = d.get f) : c = d := by
  rw [Config.mk.injEq]
  exact ⟨h .workerCount, h .errorLimit, h .queueCapacity, h .threadStackSize, h .threadNamePrefix⟩

end Config

open Config (Field)

/-! ## What settings say of a field -/

namespace Setting

variable {f : Field} {s : Setting}

/-- What a field is to hold by a setting, if the setting is for it. -/
def get? : Setting → (f : Field) → Option f.Content
  | .workerCount n, .workerCount => some n
  | .errorLimit n, .errorLimit => some n
  | .queueCapacity n, .queueCapacity => some n
  | .threadStackSize n, .threadStackSize => some n
  | .threadNamePrefix text, .threadNamePrefix => some text
  | _, _ => none

lemma get?_eq_none_iff : s.get? f = none ↔ s.field ≠ f := by
  cases s <;> cases f <;> simp [get?, field]

/-- The last thing that settings say of a field. -/
def last? (settings : List Setting) (f : Field) : Option f.Content :=
  (settings.filterMap (·.get? f)).getLast?

lemma last?_cons (s : Setting) (settings : List Setting) (f : Field) :
    last? (s :: settings) f = (last? settings f).or (s.get? f) := by
  rw [last?, List.filterMap_cons]
  cases s.get? f with
  | none => rw [Option.or_none, last?]
  | some x =>
    rw [List.getLast?_cons, last?]
    cases (settings.filterMap (·.get? f)).getLast? <;> rfl

lemma last?_eq_none {settings : List Setting} (others : ∀ s ∈ settings, s.field ≠ f) :
    last? settings f = none := by
  rw [last?, List.filterMap_eq_nil_iff.2 fun s mem => get?_eq_none_iff.2 (others s mem), List.getLast?_nil]

/-- The only setting of a field says what it is to hold. -/
lemma last?_of_mem {settings : List Setting} (distinct : (settings.map field).Nodup) (mem : s ∈ settings) :
    last? settings s.field = s.get? s.field := by
  induction settings with
  | nil => cases mem
  | cons t settings ih =>
    rw [List.map_cons, List.nodup_cons] at distinct
    obtain ⟨once, distinct⟩ := distinct
    rw [last?_cons]
    rcases List.mem_cons.1 mem with rfl | mem
    · have others : ∀ t ∈ settings, t.field ≠ s.field := fun t mem same =>
        once (List.mem_map.2 ⟨t, mem, same⟩)
      rw [last?_eq_none others, Option.none_or]
    · have other : t.field ≠ s.field := fun same => once (List.mem_map.2 ⟨s, mem, same.symm⟩)
      rw [ih distinct mem, get?_eq_none_iff.2 other, Option.or_none]

/-- Without the settings for one field, nothing is said of this field, and of others what was said with
them. -/
lemma last?_filter (settings : List Setting) (f g : Field) :
    last? (settings.filter fun s => s.field ≠ g) f = if f = g then none else last? settings f := by
  by_cases same : f = g
  · subst same
    have nothing : (settings.filter fun s => s.field ≠ f).filterMap (·.get? f) = [] := by
      refine List.filterMap_eq_nil_iff.2 fun s mem => get?_eq_none_iff.2 ?_
      simpa using (List.mem_filter.1 mem).2
    rw [if_pos rfl, last?, nothing, List.getLast?_nil]
  · rw [if_neg same, last?, last?, List.filterMap_filter]
    congr 2
    funext s
    by_cases left : s.field = g
    · have unsaid : s.get? f = none := get?_eq_none_iff.2 fun eq => same (eq.symm.trans left)
      simp [left, unsaid]
    · simp [left]

end Setting

/-! ## What settings come to -/

namespace Config

variable {c : Config} {s t : Setting}

lemma get_set (c : Config) (s : Setting) (f : Field) :
    (c.set s).get f = (s.get? f).getD (c.get f) := by
  cases s <;> cases f <;> rfl

/-- Once settings are applied, a field holds the last thing that they say of it, or what it held before. -/
theorem get_setAll (c : Config) (settings : List Setting) (f : Field) :
    (c.setAll settings).get f = (Setting.last? settings f).getD (c.get f) := by
  induction settings generalizing c with
  | nil => rfl
  | cons s settings ih =>
    rw [setAll, List.foldl_cons, ← setAll, ih, get_set, Setting.last?_cons]
    cases Setting.last? settings f <;> rfl

/-- Settings for different fields may be applied in either order. -/
lemma set_comm (c : Config) (h : s.field ≠ t.field) : (c.set s).set t = (c.set t).set s := by
  refine eq_of_get fun f => ?_
  rw [get_set, get_set, get_set, get_set]
  by_cases own : s.field = f
  · have unsaid : t.get? f = none := Setting.get?_eq_none_iff.2 fun eq => h (own.trans eq.symm)
    rw [unsaid]
    rfl
  · rw [Setting.get?_eq_none_iff.2 own]
    rfl

/-- Settings for different fields may be applied in any order. -/
lemma setAll_perm (c : Config) {ss ts : List Setting} (distinct : (ss.map Setting.field).Nodup)
    (perm : ss.Perm ts) : c.setAll ss = c.setAll ts := by
  apply perm.foldl_eq'
  intro s hs t ht d
  by_cases eq : s.field = t.field
  · rw [List.inj_on_of_nodup_map distinct hs ht eq]
  · exact d.set_comm eq

/-! ## Checks -/

/-- The configuration fails the check that a fault is for. -/
def Fails (c : Config) : Fault → Prop
  | .noWorkers => c.workerCount = 0
  | .noStack => c.threadStackSize = 0
  | .noThreadName => c.threadNamePrefix = ""

instance (c : Config) : DecidablePred c.Fails
  | .noWorkers => inferInstanceAs (Decidable (c.workerCount = 0))
  | .noStack => inferInstanceAs (Decidable (c.threadStackSize = 0))
  | .noThreadName => inferInstanceAs (Decidable (c.threadNamePrefix = ""))

/-- All faults, in the order of their checks. -/
def Fault.all : List Fault :=
  [.noWorkers, .noStack, .noThreadName]

/-- The configuration fails a check, and none of those before it. -/
def FailsFirst (c : Config) (fault : Fault) : Prop :=
  ∃ front back, Fault.all = front ++ fault :: back ∧ (∀ earlier ∈ front, ¬c.Fails earlier) ∧ c.Fails fault

lemma fault?_eq_find? (c : Config) : c.fault? = Fault.all.find? fun fault => c.Fails fault := by
  rw [fault?, Fault.all]
  simp only [List.find?_cons, List.find?_nil, Fails]
  split_ifs <;> simp [*]

/-- The fault of a configuration is that of the first check that it fails. -/
theorem fault?_eq_some_iff {fault : Fault} : c.fault? = some fault ↔ c.FailsFirst fault := by
  rw [fault?_eq_find?, List.find?_eq_some_iff_append, FailsFirst]
  simp only [decide_eq_true_eq, Bool.not_eq_true', decide_eq_false_iff_not]
  constructor
  · rintro ⟨fails, front, back, order, passes⟩
    exact ⟨front, back, order, passes, fails⟩
  · rintro ⟨front, back, order, passes, fails⟩
    exact ⟨fails, front, back, order, passes⟩

/-- A configuration has no fault exactly if it passes every check. -/
theorem fault?_eq_none_iff : c.fault? = none ↔
    c.workerCount ≠ 0 ∧ c.threadStackSize ≠ 0 ∧ c.threadNamePrefix ≠ "" := by
  rw [fault?_eq_find?, List.find?_eq_none]
  simp only [decide_eq_true_eq, Fault.all, List.forall_mem_cons, List.not_mem_nil, false_imp_iff,
    implies_true, and_true]
  rfl

end Config

end TaskCrew
