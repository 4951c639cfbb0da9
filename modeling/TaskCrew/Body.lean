import TaskCrew.Failure

/-!
# What tasks do

* `Action` — one thing that a task does with what the tasks of a run share;
* `Ending` — how a task ends, and `Ending.counts`, whether it counts as a failure;
* `Body` — the actions of a task and its ending, which may depend on how things happen to mix;
* `Body.Fixed` — that a task has one ending, whatever happens;
* `Job` — a task with its number in the list.

**Design.** A body is a finite tree, so every task comes to an end, if nothing keeps it waiting
forever. A choice within it stands for anything that may come out one way or the other. What a task holds
is disposed of without a trace, whether it was carried out or not, and so is what a task breaks off with:
only the errors of tasks may do harm then, which is poison. Left out are tasks and panics that hold
something which breaks off when it is disposed of.
-/

namespace TaskCrew

/-- One thing that a task does. Marks are counted by all tasks of a run together. -/
inductive Action
  /-- Counts a mark up. -/
  | signal (mark : String)
  /-- Waits until a mark has been counted so far. -/
  | await (mark : String) (count : Nat)
  /-- Waits until so many tasks were submitted. -/
  | awaitSubmitted (count : UInt64)
  /-- Waits until so many failures were recorded. -/
  | awaitFailures (count : UInt64)
  | awaitFired
  | fire
  /-- Carries out the run of a number within the task, which shares nothing with this one. -/
  | inner (number : Nat)
  deriving DecidableEq, Repr

/-- How a task ends. The text of a panic is all there is to it, so nothing happens when it is disposed of. -/
inductive Ending
  | success
  | failure (f : Failure)
  | panic (text : String)
  /-- It fails with an error that kills the worker when it is disposed of. -/
  | poison (text : String)
  deriving DecidableEq, Repr

namespace Ending

/-- Whether an ending counts as a failure. Poison does not: the worker dies before it counts. -/
def counts : Ending → Bool
  | .failure _ | .panic _ => true
  | .success | .poison _ => false

def kills : Ending → Bool
  | .poison _ => true
  | .success | .failure _ | .panic _ => false

end Ending

/-- What a task does. -/
inductive Body
  | done (e : Ending)
  /-- It does one thing and goes on. -/
  | act (a : Action) (rest : Body)
  /-- It goes on in one of two ways. -/
  | either (left right : Body)
  deriving DecidableEq, Repr

namespace Body

/-- The body that does actions in order and ends. -/
def ofActions (actions : List Action) (e : Ending) : Body :=
  actions.foldr .act (.done e)

/-- Every way through a body leads to an ending. -/
def Ends (e : Ending) : Body → Prop
  | .done e' => e' = e
  | .act _ rest => rest.Ends e
  | .either left right => left.Ends e ∧ right.Ends e

/-- A body has one ending, whatever happens. -/
def Fixed (b : Body) : Prop :=
  ∃ e, b.Ends e

/-- The ending of the leftmost way through a body. -/
def ending : Body → Ending
  | .done e => e
  | .act _ rest => rest.ending
  | .either left _ => left.ending

/-- The only ending of a body is the one on its leftmost way. -/
theorem ending_eq_of_ends {b : Body} {e : Ending} (h : b.Ends e) : b.ending = e := by
  induction b with
  | done e' => exact h
  | act a rest ih => exact ih h
  | either left right ihl _ => exact ihl h.1

theorem ends_ofActions (actions : List Action) (e : Ending) : (ofActions actions e).Ends e := by
  induction actions with
  | nil => rfl
  | cons a actions ih => exact ih

end Body

/-- A task as it is shown, which does not tell what it does. -/
def Body.shown (_ : Body) : String :=
  "Task \x7b .. \x7d"

/-- A task with its number in the list. -/
structure Job where
  index : Nat
  body : Body
  deriving DecidableEq, Repr

namespace Job

/-- Tasks with their numbers, from zero on. -/
def number (bodies : List Body) : List Job :=
  bodies.zipIdx.map fun (body, index) => ⟨index, body⟩

theorem length_number (bodies : List Body) : (number bodies).length = bodies.length := by
  simp [number]

end Job

end TaskCrew
