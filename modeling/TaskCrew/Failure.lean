import TaskCrew.RunError

/-!
# Failures of tasks

What a task gives back when it fails: a root cause, wrapped in any number of contexts.

* `Failure.Root` — the cause, a text or an error of a run;
* `Failure.message` — the outermost context, or the cause if there is none;
* `Failure.chain` — all contexts and the cause, outermost first;
* `Failure.runError?` — the error of a run that is the cause, which contexts do not hide.
-/

namespace TaskCrew

/-- What a failure goes back to. -/
inductive Failure.Root
  | text (s : String)
  | run (e : RunError)
  deriving DecidableEq, Repr

/-- What a task gives back when it fails. -/
structure Failure where
  root : Failure.Root
  /-- The contexts, outermost first. -/
  contexts : List String := []
  deriving DecidableEq, Repr

namespace Failure

def Root.message : Root → String
  | .text s => s
  | .run e => e.message

def ofText (s : String) : Failure :=
  ⟨.text s, []⟩

/-- A failure that is an error of a run. -/
def ofRunError (e : RunError) : Failure :=
  ⟨.run e, []⟩

def inContext (f : Failure) (context : String) : Failure :=
  ⟨f.root, context :: f.contexts⟩

/-- The failure in contexts, the innermost given first. -/
def inContexts (f : Failure) (contexts : List String) : Failure :=
  contexts.foldl inContext f

/-- The contexts and the cause, outermost first. -/
def parts (f : Failure) : List String :=
  f.contexts ++ [f.root.message]

/-- The wording of a failure: its outermost part. -/
def message (f : Failure) : String :=
  f.parts.headD ""

/-- All parts of a failure, outermost first. -/
def chain (f : Failure) : String :=
  ": ".intercalate f.parts

/-- The error of a run that a failure goes back to. -/
def runError? (f : Failure) : Option RunError :=
  match f.root with
  | .run e => some e
  | .text _ => none

/-- The word for the kind of a failure. -/
def kind (f : Failure) : String :=
  if f.runError?.isSome then "RunError" else "TaskError"

end Failure

end TaskCrew
