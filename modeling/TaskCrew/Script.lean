import TaskCrew.Body
import TaskCrew.Crew.Log

/-!
# Scripts of tasks

A script says step by step what a task does, and how it ends.

* `Script.Step` — an action, or a whole run within the task, whose answer is known beforehand;
* `Script.Finish`, `Script.Finish.ending` — how a task ends, where texts may follow from its number;
* `Script`, `Script.body` — a script, and what a task of that script does;
* `Script.logOf`, `Script.lastAnswers` — the logs and the answers of the runs within tasks.

**Design.** A run within a task has its own ledger, marks and threads, so its answer does not
depend on the task around it. The script knows only whether that run failed, and keeps its answer,
of any type, and its log.
-/

namespace TaskCrew

/-- One step of a script. -/
inductive Script.Step (Answer : Type)
  /-- Something that the task does with what tasks share. -/
  | act (a : Action)
  /-- A whole run with its answer and its log, whether it failed, and whether the task fails with
  it. -/
  | run (answer : Answer) (log : List LogEntry) (failed propagate : Bool)

/-- How a task ends. -/
inductive Script.Finish
  | success
  /-- It fails, with a text of its own or one made from its number. -/
  | failure (text : Option String)
  /-- It breaks off, with a text of its own or one made from its number. -/
  | panic (text : Option String)
  /-- It fails with an error that kills the worker. -/
  | poison (text : String)
  /-- It fails with a cause in contexts, the innermost first. -/
  | wrapped (root : String) (contexts : List String)
  /-- It fails with an error of a run. -/
  | runError (e : RunError)
  deriving DecidableEq, Repr

/-- What a task does, step by step, and how it ends. -/
structure Script (Answer : Type) where
  steps : List (Script.Step Answer)
  finish : Script.Finish

namespace Script

/-- The ending of the task of a number. -/
def Finish.ending (index : Nat) : Finish → Ending
  | .success => .success
  | .failure none => .failure (.ofText ("task " ++ toString index ++ " failed"))
  | .failure (some text) => .failure (.ofText text)
  | .panic none => .panic ("task " ++ toString index ++ " panicked")
  | .panic (some text) => .panic text
  | .poison text => .poison text
  | .wrapped root contexts => .failure ((Failure.ofText root).inContexts contexts)
  | .runError e => .failure (.ofRunError e)

variable {Answer : Type}

/-- The actions that a task takes, and its ending: a run within it that fails may end the task
early. The runs are numbered from a number on. -/
def course (index number : Nat) (f : Finish) : List (Step Answer) → List Action × Ending
  | [] => ([], f.ending index)
  | .act a :: steps =>
    let (actions, e) := course index number f steps
    (a :: actions, e)
  | .run _ _ failed propagate :: steps =>
    if failed && propagate then
      ([.inner number],
        .failure (.ofText ("nested run of task " ++ toString index ++ " failed")))
    else
      let (actions, e) := course index (number + 1) f steps
      (.inner number :: actions, e)

/-- What the task of a number does. -/
def body (s : Script Answer) (index : Nat) : Body :=
  let (actions, e) := course index 0 s.finish s.steps
  .ofActions actions e

/-- The answers and the logs of the runs within the task. -/
def runs (s : Script Answer) : List (Answer × List LogEntry) :=
  s.steps.filterMap fun
    | .act _ => none
    | .run answer log _ _ => some (answer, log)

def bodies (scripts : List (Script Answer)) : List Body :=
  scripts.zipIdx.map fun (s, index) => s.body index

/-- The run of a number within the task of a number. -/
def run? (scripts : List (Script Answer)) (index number : Nat) : Option (Answer × List LogEntry) :=
  scripts[index]?.bind fun s => s.runs[number]?

/-- The log of the run of a number within the task of a number. -/
def logOf (scripts : List (Script Answer)) (index number : Nat) : List LogEntry :=
  ((run? scripts index number).map Prod.snd).getD []

/-- The answer of the last run within each task that had any, with the number of the task and that
of the worker on whose thread it took place, in order of the tasks. The runs that took place are
given by worker, task and number, in order. -/
def lastAnswers (scripts : List (Script Answer)) (inner : List (Nat × Nat × Nat)) :
    List (Nat × Nat × Answer) :=
  (List.range scripts.length).filterMap fun index =>
    (inner.reverse.find? fun (_, i, _) => i == index).bind fun (worker, _, number) =>
      (run? scripts index number).map fun (answer, _) => (index, worker, answer)

end Script

end TaskCrew
