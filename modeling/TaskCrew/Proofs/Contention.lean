import TaskCrew.Contention
import Mathlib.Tactic.Common

/-!
# What contending threads do

Whatever object threads call, one step of a thread moves its first call on, or ends it with an answer.

* `Contention.Turn` — the turns of threads, by what the step of the call brought about;
* `Contention.Reaches.invariant` — what holds at the beginning and is kept by every turn holds of every
  state that is reached;
* `Contention.Reaches.forall_callers` — what calls and answers can be sure of at any time;
* `Contention.worth` — a number for every call and every answer, added up, and `worth_set`, how a turn
  changes it;
* `Contention.IsMaximal`, `IsMaximal.exists_isDone` — calls that get cheaper with every step all return,
  if a thread that has calls left can always take a step.
-/

namespace TaskCrew.Contention

variable {Object Call Answer : Type} {next : Step Object Call Answer}
  {t u v : Contention Object Call Answer}

/-! ## Turns -/

/-- A thread after a step of its first call, with the calls that are left and the answers before. -/
def resume (calls : List Call) (answers : List Answer) : Call ⊕ Answer → Caller Call Answer
  | .inl call => ⟨call :: calls, answers⟩
  | .inr answer => ⟨calls, answer :: answers⟩

/-- The turns of threads: where the call stood, what the object is then, and what the call came to. -/
inductive Turn (next : Step Object Call Answer) (t : Contention Object Call Answer) :
    Contention Object Call Answer → Prop
  | mk {k : Nat} {call : Call} {calls : List Call} {answers : List Answer} {o : Object}
      {result : Call ⊕ Answer} (place : t.callers[k]? = some ⟨call :: calls, answers⟩)
      (step : next t.object call = some (o, result)) :
    Turn next t ⟨o, t.callers.set k (resume calls answers result)⟩

lemma turn_of_step? {k : Nat} (h : t.step? next k = some u) : Turn next t u := by
  rw [step?] at h
  split at h
  · cases h
  · cases h
  · next place =>
    split at h
    · cases h
    · next step => cases h; exact .mk place step
    · next step => cases h; exact .mk place step

/-- What holds at the beginning and is kept by every turn holds of every state that is reached. -/
theorem Reaches.invariant {I : Contention Object Call Answer → Prop} (h : Reaches next t u)
    (base : I t) (step : ∀ {u v}, Reaches next t u → Turn next u v → I u → I v) : I u := by
  induction h with
  | refl => exact base
  | tail k reached stepped ih => exact step reached (turn_of_step? stepped) ih

theorem Reaches.trans (h : Reaches next t u) (h' : Reaches next u v) : Reaches next t v := by
  induction h' with
  | refl => exact h
  | tail k _ stepped ih => exact .tail k ih stepped

/-! ## Numbers for calls and answers -/

/-- A number for every call that is to be made or under way, and for every answer, added up. -/
def worth (f : Call → Nat) (g : Answer → Nat) (t : Contention Object Call Answer) : Nat :=
  t.cost f + total g t.answers

lemma worth_eq_total (f : Call → Nat) (g : Answer → Nat) (t : Contention Object Call Answer) :
    t.worth f g = total (fun c => total f c.calls + total g c.answers) t.callers := by
  rw [worth, cost, answers, total_flatMap, ← total_add]
  refine total_congr fun c _ => ?_
  rw [total_perm g c.answers.reverse_perm]

/-- A turn changes the number of one call, which becomes that of the call then or of its answer. -/
lemma worth_set (f : Call → Nat) (g : Answer → Nat) {k : Nat} {call : Call} {calls : List Call}
    {answers : List Answer} (o : Object) (result : Call ⊕ Answer)
    (place : t.callers[k]? = some ⟨call :: calls, answers⟩) :
    worth f g ⟨o, t.callers.set k (resume calls answers result)⟩ + f call =
      t.worth f g + result.elim f g := by
  have set := total_set (fun c : Caller Call Answer => total f c.calls + total g c.answers)
    (resume calls answers result) place
  rw [worth_eq_total, worth_eq_total]
  cases result <;> simp only [resume, total, Sum.elim_inl, Sum.elim_inr] at set ⊢ <;> omega

/-- The same for calls alone, with nothing for answers. -/
lemma cost_set (f : Call → Nat) {k : Nat} {call : Call} {calls : List Call} {answers : List Answer}
    (o : Object) (result : Call ⊕ Answer) (place : t.callers[k]? = some ⟨call :: calls, answers⟩) :
    cost f ⟨o, t.callers.set k (resume calls answers result)⟩ + f call =
      t.cost f + result.elim f fun _ => 0 := by
  have none (u : Contention Object Call Answer) : u.worth f (fun _ => 0) = u.cost f := by
    rw [worth, total_eq_zero fun _ _ => rfl, Nat.add_zero]
  rw [← none, ← none]
  exact worth_set f _ o result place

lemma mem_answers {a : Answer} : a ∈ t.answers ↔ ∃ c ∈ t.callers, a ∈ c.answers := by
  simp [answers]

lemma answers_start (o : Object) (calls : List (List Call)) :
    (start o calls : Contention Object Call Answer).answers = [] := by
  simp [start, answers, List.flatMap_map]

lemma cost_start (f : Call → Nat) (o : Object) (calls : List (List Call)) :
    (start o calls : Contention Object Call Answer).cost f = total f calls.flatten := by
  rw [cost, start, total_map, ← List.flatMap_id, total_flatMap]
  rfl

lemma worth_start (f : Call → Nat) (g : Answer → Nat) (o : Object) (calls : List (List Call)) :
    (start o calls : Contention Object Call Answer).worth f g = total f calls.flatten := by
  rw [worth, answers_start, cost_start]
  rfl

/-- Calls that have not begun are worth nothing together if each is worth nothing. -/
lemma worth_start_eq_zero {f : Call → Nat} (g : Answer → Nat) (o : Object) {calls : List (List Call)}
    (zero : ∀ cs ∈ calls, ∀ call ∈ cs, f call = 0) :
    (start o calls : Contention Object Call Answer).worth f g = 0 := by
  rw [worth_start]
  refine total_eq_zero fun call mem => ?_
  obtain ⟨cs, hcs, mem⟩ := List.mem_flatten.1 mem
  exact zero cs hcs call mem

lemma cost_start_eq_zero {f : Call → Nat} (o : Object) {calls : List (List Call)}
    (zero : ∀ cs ∈ calls, ∀ call ∈ cs, f call = 0) :
    (start o calls : Contention Object Call Answer).cost f = 0 :=
  Nat.eq_zero_of_add_eq_zero_right (worth_start_eq_zero (fun _ => 0) o zero)

lemma cost_add (f f' : Call → Nat) (t : Contention Object Call Answer) :
    t.cost (fun c => f c + f' c) = t.cost f + t.cost f' := by
  rw [cost, cost, cost, ← total_add]
  exact total_congr fun c _ => total_add f f' c.calls

lemma worth_add (f f' : Call → Nat) (g g' : Answer → Nat) (t : Contention Object Call Answer) :
    t.worth (fun c => f c + f' c) (fun a => g a + g' a) = t.worth f g + t.worth f' g' := by
  rw [worth, worth, worth, cost_add, total_add]
  omega

lemma cost_le_cost {f f' : Call → Nat} (t : Contention Object Call Answer)
    (le : ∀ c ∈ t.callers, ∀ call ∈ c.calls, f call ≤ f' call) : t.cost f ≤ t.cost f' :=
  total_le_total fun c mem => total_le_total (le c mem)

lemma worth_le_worth {f f' : Call → Nat} {g g' : Answer → Nat}
    (le : ∀ c ∈ t.callers, ∀ call ∈ c.calls, f call ≤ f' call) (le' : ∀ a ∈ t.answers, g a ≤ g' a) :
    t.worth f g ≤ t.worth f' g' :=
  Nat.add_le_add (cost_le_cost t le) (total_le_total le')

/-- A number that is not zero is that of an answer, or of a call. -/
lemma exists_of_worth_pos {f : Call → Nat} {g : Answer → Nat} (h : 0 < t.worth f g) :
    (∃ a ∈ t.answers, 0 < g a) ∨ ∃ c ∈ t.callers, ∃ call ∈ c.calls, 0 < f call := by
  by_cases answered : 0 < total g t.answers
  · exact .inl (exists_of_total_pos answered)
  · have open_ : 0 < t.cost f := by
      rw [worth] at h
      omega
    obtain ⟨c, mem, pos⟩ := exists_of_total_pos open_
    exact .inr ⟨c, mem, exists_of_total_pos pos⟩

lemma le_worth_of_mem (f : Call → Nat) (g : Answer → Nat) {a : Answer} (mem : a ∈ t.answers) :
    g a ≤ t.worth f g :=
  Nat.le_trans (le_total_of_mem g mem) (Nat.le_add_left _ _)

lemma le_cost_of_mem (f : Call → Nat) {c : Caller Call Answer} {call : Call} (mem : c ∈ t.callers)
    (mem' : call ∈ c.calls) : f call ≤ t.cost f :=
  Nat.le_trans (le_total_of_mem f mem') (le_total_of_mem (fun c => total f c.calls) mem)

/-- When all calls have returned, nothing is left of them. -/
lemma cost_of_isDone (f : Call → Nat) (done : t.isDone = true) : t.cost f = 0 := by
  refine total_eq_zero fun c mem => ?_
  rw [isDone, List.all_eq_true] at done
  rw [List.isEmpty_iff.1 (done c mem)]
  rfl

lemma exists_place_of_not_isDone (open_ : t.isDone = false) :
    ∃ (k : Nat) (call : Call) (calls : List Call) (answers : List Answer),
      t.callers[k]? = some ⟨call :: calls, answers⟩ := by
  rw [isDone, List.all_eq_false] at open_
  obtain ⟨⟨calls, answers⟩, mem, more⟩ := open_
  obtain ⟨k, place⟩ := List.mem_iff_getElem?.1 mem
  cases calls with
  | nil => exact absurd rfl more
  | cons call calls => exact ⟨k, call, calls, answers, place⟩

/-- What holds of every thread goes on to do so if it holds of the one that took a turn. -/
lemma forall_callers_set {P : Caller Call Answer → Prop} {k : Nat} {c' : Caller Call Answer}
    (new : P c') (old : ∀ i c, i ≠ k → t.callers[i]? = some c → P c) :
    ∀ c ∈ t.callers.set k c', P c := by
  intro c mem
  obtain ⟨i, place⟩ := List.mem_iff_getElem?.1 mem
  by_cases own : i = k
  · subst own
    have lt : i < t.callers.length := by simpa using (List.getElem?_eq_some_iff.1 place).1
    rw [List.getElem?_set_self lt] at place
    rw [← Option.some.inj place]
    exact new
  · rw [List.getElem?_set_ne (Ne.symm own)] at place
    exact old i c own place

/-- What holds of every call and every answer goes on to do so if it holds of what a turn came to. -/
lemma forall_resume {P : Call → Prop} {Q : Answer → Prop} {k : Nat} {call : Call} {calls : List Call}
    {answers : List Answer} {result : Call ⊕ Answer}
    (all : ∀ c ∈ t.callers, (∀ call ∈ c.calls, P call) ∧ ∀ a ∈ c.answers, Q a)
    (place : t.callers[k]? = some ⟨call :: calls, answers⟩) (now : result.elim P Q) :
    ∀ c ∈ t.callers.set k (resume calls answers result),
      (∀ call ∈ c.calls, P call) ∧ ∀ a ∈ c.answers, Q a := by
  refine forall_callers_set ?_ fun i c _ hc => all c (List.mem_of_getElem? hc)
  obtain ⟨first, answered⟩ := all _ (List.mem_of_getElem? place)
  obtain ⟨-, later⟩ := List.forall_mem_cons.1 first
  cases result with
  | inl c => exact ⟨List.forall_mem_cons.2 ⟨now, later⟩, answered⟩
  | inr a => exact ⟨later, List.forall_mem_cons.2 ⟨now, answered⟩⟩

/-- What all calls can be sure of before they begin, they and their answers can be sure of at any time, if a
turn takes it from nobody and gives it to what it comes to. -/
theorem Reaches.forall_callers {P : Object → Call → Prop} {Q : Object → Answer → Prop} {o : Object}
    {calls : List (List Call)} (h : Reaches next (start o calls) t)
    (base : ∀ cs ∈ calls, ∀ call ∈ cs, P o call)
    (step : ∀ {u : Contention Object Call Answer} {c : Caller Call Answer} {call : Call} {o' : Object}
      {result : Call ⊕ Answer}, Reaches next (start o calls) u → c ∈ u.callers → call ∈ c.calls →
      next u.object call = some (o', result) → P u.object call →
      ((∀ x, P u.object x → P o' x) ∧ ∀ a, Q u.object a → Q o' a) ∧ result.elim (P o') (Q o')) :
    ∀ c ∈ t.callers, (∀ call ∈ c.calls, P t.object call) ∧ ∀ a ∈ c.answers, Q t.object a := by
  refine h.invariant (I := fun t => ∀ c ∈ t.callers,
    (∀ call ∈ c.calls, P t.object call) ∧ ∀ a ∈ c.answers, Q t.object a) ?_ ?_
  · intro c mem
    obtain ⟨cs, hcs, rfl⟩ := List.mem_map.1 mem
    exact ⟨base cs hcs, nofun⟩
  · intro u v reached turn before
    cases turn with
    | @mk k call calls answers o' result place moved =>
      have mem := List.mem_of_getElem? place
      obtain ⟨⟨calls_keep, answers_keep⟩, now⟩ :=
        step reached mem List.mem_cons_self moved ((before _ mem).1 call List.mem_cons_self)
      exact forall_resume (fun c mem => ⟨fun x hx => calls_keep x ((before c mem).1 x hx),
        fun a ha => answers_keep a ((before c mem).2 a ha)⟩) place now

/-! ## All calls return -/

/-- A run of contending threads, as the sequence of its states; it stands still only when no thread can
take a step any more. -/
def IsMaximal (next : Step Object Call Answer) (run : Nat → Contention Object Call Answer) : Prop :=
  ∀ n, (∃ k, (run n).step? next k = some (run (n + 1))) ∨
    run (n + 1) = run n ∧ ∀ k, (run n).step? next k = none

lemma isSome_step? {k : Nat} {call : Call} {calls : List Call} {answers : List Answer}
    (place : t.callers[k]? = some ⟨call :: calls, answers⟩) (possible : (next t.object call).isSome) :
    (t.step? next k).isSome := by
  obtain ⟨⟨o, result⟩, step⟩ := Option.isSome_iff_exists.1 possible
  cases result <;> simp [step?, place, step]

/-- Every turn lowers the price of what is left, if every step of a call does. -/
lemma Turn.cost_lt {price : Call → Nat} (h : Turn next t u) (pos : ∀ call, 0 < price call)
    (lower : ∀ {o o' call call'}, next o call = some (o', .inl call') → price call' < price call) :
    u.cost price < t.cost price := by
  cases h with
  | @mk k call calls answers o result place step =>
    have set := cost_set price o result place
    cases result with
    | inl call' =>
      have := lower step
      rw [Sum.elim_inl] at set
      omega
    | inr answer =>
      have := pos call
      rw [Sum.elim_inr] at set
      omega

lemma IsMaximal.reaches {run : Nat → Contention Object Call Answer} (h : IsMaximal next run)
    (n : Nat) : Reaches next (run 0) (run n) := by
  induction n with
  | zero => exact .refl
  | succ n ih =>
    rcases h n with ⟨k, stepped⟩ | ⟨still, -⟩
    · exact .tail k ih stepped
    · rw [still]; exact ih

/-- All calls return after as many steps as they cost at most, if every step lowers the price and a
thread that has calls left can always take a step. -/
theorem IsMaximal.exists_isDone {price : Call → Nat} {run : Nat → Contention Object Call Answer}
    (h : IsMaximal next run) (pos : ∀ call, 0 < price call)
    (lower : ∀ {o o' call call'}, next o call = some (o', .inl call') → price call' < price call)
    (progress : ∀ n, (run n).isDone = false → ∃ k, ((run n).step? next k).isSome) :
    ∃ n ≤ (run 0).cost price, (run n).isDone = true := by
  obtain ⟨n, le, stopped⟩ := exists_le_of_cost_lt (fun n => (run n).cost price)
    (fun n => ∃ k, (run n).step? next k = some (run (n + 1)))
    fun n ⟨k, stepped⟩ => (turn_of_step? stepped).cost_lt pos lower
  refine ⟨n, le, ?_⟩
  by_contra open_
  obtain ⟨k, possible⟩ := progress n (by simpa using open_)
  rcases h n with goes | ⟨-, stuck⟩
  · exact stopped goes
  · rw [stuck k] at possible
    cases possible

end TaskCrew.Contention
