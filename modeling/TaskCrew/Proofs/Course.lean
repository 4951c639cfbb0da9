import TaskCrew.Proofs.Endings

/-!
# Tasks one after the other

What a list of tasks comes to when they are carried out in order, one after the other, by one worker
that stops at the failure that reaches the limit and dies of the first task that kills it.

* `Course`, `Course.step`, `Course.of` — the course of things, as a fold over the endings of tasks;
* `Stops` — the tasks so far make the worker stop;
* `EndsAfter` — the worker stops after so many tasks, or there are no more;
* `Course.whole` — what the tasks of a list come to if all of them are begun;
* `Course.of_eq_whole` — the course of a list is that of its shortest part that makes the worker stop,
  or of the whole list if there is none.
-/

namespace TaskCrew

/-- Why a worker stops before the end of its list. -/
inductive Stop
  /-- As many tasks failed as the limit allows. -/
  | limit
  | dead
  deriving DecidableEq, Repr

/-- The course of things, as far as they got. -/
structure Course where
  began : Nat := 0
  succeeded : Nat := 0
  failed : Nat := 0
  panicked : Nat := 0
  /-- Why the worker stopped, if it did. -/
  stop : Option Stop := none
  deriving DecidableEq, Repr

namespace Course

/-- The course after one more task, which is not begun if the worker has stopped. -/
def step (limit : Nat) (c : Course) (e : Ending) : Course :=
  if c.stop.isSome then c
  else
    { began := c.began + 1
      succeeded := c.succeeded + e.adds .succeeded
      failed := c.failed + e.adds .failed
      panicked := c.panicked + e.adds .panicked
      stop :=
        if e.kills then some .dead
        else if limit ≤ c.failed + e.adds .failed then some .limit
        else none }

/-- The course of a list of tasks. -/
def of (limit : Nat) (es : List Ending) : Course :=
  es.foldl (step limit) {}

/-- What the tasks of a list come to if all of them are begun. -/
def whole (limit : Nat) (es : List Ending) : Course where
  began := es.length
  succeeded := total (Ending.adds .succeeded) es
  failed := total (Ending.adds .failed) es
  panicked := total (Ending.adds .panicked) es
  stop :=
    if es.any Ending.kills then some .dead
    else if limit ≤ total (Ending.adds .failed) es then some .limit
    else none

end Course

/-- The tasks so far make the worker stop: as many failed as the limit allows, or one killed it. -/
def Stops (limit : Nat) (es : List Ending) : Prop :=
  limit ≤ total (Ending.adds .failed) es ∨ es.any Ending.kills = true

instance (limit : Nat) (es : List Ending) : Decidable (Stops limit es) :=
  inferInstanceAs (Decidable (_ ∨ _))

/-- The first so many tasks of a list are the shortest part that makes the worker stop, or the whole
list, and no shorter part does. -/
structure EndsAfter (limit : Nat) (es : List Ending) (k : Nat) : Prop where
  le : k ≤ es.length
  going : ∀ i < k, ¬ Stops limit (es.take i)
  last : Stops limit (es.take k) ∨ k = es.length

namespace Course

variable {limit : Nat} {es : List Ending}

lemma isSome_stop_whole : (whole limit es).stop.isSome = true ↔ Stops limit es := by
  simp only [whole, Stops]
  by_cases dead : es.any Ending.kills = true
  · simp [dead]
  · by_cases reached : limit ≤ total (Ending.adds .failed) es
    · simp [dead, reached]
    · simp [dead, reached]

/-- One more task is begun as long as the tasks so far do not make the worker stop. -/
lemma step_whole (going : ¬ Stops limit es) (e : Ending) :
    (whole limit es).step limit e = whole limit (es ++ [e]) := by
  have alive : es.any Ending.kills = false := by
    by_contra dead
    exact going (.inr (by simpa using dead))
  rw [step, if_neg (isSome_stop_whole.not.2 going)]
  simp [whole, total_append, total, alive]

/-- Nothing more is begun once the worker has stopped. -/
lemma foldl_step_of_stopped {c : Course} (stopped : c.stop.isSome = true) (es : List Ending) :
    es.foldl (step limit) c = c := by
  induction es with
  | nil => rfl
  | cons e es ih => rw [List.foldl_cons, step, if_pos stopped, ih]

/-- The course of a list is that of the shortest part that makes the worker stop, or of the whole list
if no part does. -/
theorem of_eq_whole {k : Nat} (h : EndsAfter limit es k) (positive : 0 < limit) :
    of limit es = whole limit (es.take k) := by
  -- up to `k`, the fold begins every task
  have part (i : Nat) (hi : i ≤ k) : of limit (es.take i) = whole limit (es.take i) := by
    induction i with
    | zero => simp [of, whole, total, Nat.not_le.2 positive]
    | succ i ih =>
      have lt : i < es.length := Nat.lt_of_lt_of_le hi h.le
      have next : es.take (i + 1) = es.take i ++ [es[i]] := by simp
      rw [next, of, List.foldl_append, ← of, ih (by omega)]
      exact step_whole (h.going i hi) _
  have split : of limit es = (es.drop k).foldl (step limit) (whole limit (es.take k)) := by
    rw [← part k (Nat.le_refl k), of, of, ← List.foldl_append, List.take_append_drop]
  rw [split]
  rcases h.last with stopped | rfl
  · exact foldl_step_of_stopped (isSome_stop_whole.2 stopped) _
  · rw [List.drop_length]
    rfl

/-- What a course comes to, in a run whose only worker has this name. -/
def result (worker : String) (c : Course) : Except RunError Unit :=
  match c.stop with
  | none => .ok ()
  | some .limit => .error .limitReached
  | some .dead => .error (.internal ("threads panicked: " ++ worker))

end Course

end TaskCrew
