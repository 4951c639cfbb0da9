import TaskCrew.Config.Basic

/-!
# Errors of a run

* `RunError` — how a run can fail as a whole, with its wording `message`, its shown form `shown` and
  the word for its kind `kind`;
* `InternalFault` — what goes wrong with the threads of a run, with its wording;
* `RunError.ofConfigFault`, `RunError.ofInternalFault` — the errors that these causes lead to.

A task that fails is not an error of the run: it is counted, and the run ends with `limitReached`
once enough tasks have failed.
-/

namespace TaskCrew

/-- How a run fails as a whole. -/
inductive RunError
  /-- As many tasks failed as the limit allows. -/
  | limitReached
  | invalidConfig (reason : String)
  /-- Something is wrong with the threads of the run. -/
  | internal (reason : String)
  deriving DecidableEq, Repr

/-- What goes wrong with the threads of a run. The reasons are in words that come from outside: from the
system that refuses a thread, or from the runtime that loses a run. -/
inductive InternalFault
  | notStarted (thread why : String)
  | died (threads : List String)
  /-- The run as a whole died. -/
  | notJoined (why : String)
  deriving DecidableEq, Repr

def InternalFault.message : InternalFault → String
  | .notStarted thread why => "failed to spawn " ++ thread ++ ": " ++ why
  | .died threads => "threads panicked: " ++ ", ".intercalate threads
  | .notJoined why => "blocking run join failed: " ++ why

namespace RunError

def ofConfigFault (f : Config.Fault) : RunError :=
  .invalidConfig f.message

/-- The error of something that went wrong with the threads. -/
def ofInternalFault (f : InternalFault) : RunError :=
  .internal f.message

def message : RunError → String
  | .limitReached => "errors limit exceeded"
  | .invalidConfig reason => "invalid configuration: " ++ reason
  | .internal reason => "internal error: " ++ reason

/-- The word for the kind of an error. -/
def kind : RunError → String
  | .limitReached => "ErrorsLimitExceeded"
  | .invalidConfig _ => "InvalidConfig"
  | .internal _ => "Internal"

/-- The error of a kind, with a reason where the kind has one. -/
def ofKind? (kind reason : String) : Option RunError :=
  [.limitReached, .invalidConfig reason, .internal reason].find? fun e => e.kind == kind

def shown : RunError → String
  | .limitReached => kind .limitReached
  | .invalidConfig reason => kind (.invalidConfig reason) ++ "(" ++ Text.quoted reason ++ ")"
  | .internal reason => kind (.internal reason) ++ "(" ++ Text.quoted reason ++ ")"

/-- Whether the run ended because of the limit. -/
def isLimitReached : RunError → Bool
  | .limitReached => true
  | _ => false

end RunError

end TaskCrew
