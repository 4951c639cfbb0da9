import TaskCrew.Counters
import TaskCrew.RunError

/-!
# Reports

* `Outcome` — how a run ended;
* `Report` — the outcome with the statistics;
* `Report.result` — the report as a plain success or error;
* `Report.shown` — a report as a shown record.
-/

namespace TaskCrew

/-- How a run ended. -/
inductive Outcome
  /-- Fewer tasks failed than the limit allows. -/
  | success
  /-- As many tasks failed as the limit allows. -/
  | limitReached
  deriving DecidableEq, Repr

namespace Outcome

def shown : Outcome → String
  | .success => "Success"
  | .limitReached => "ErrorsLimitExceeded"

/-- The outcome that has a shown form. -/
def ofShown? (text : String) : Option Outcome :=
  [success, limitReached].find? fun o => o.shown == text

end Outcome

/-- The outcome of a run with its statistics. -/
structure Report where
  outcome : Outcome
  stats : Stats
  deriving DecidableEq, Repr

namespace Report

/-- The report as a plain success or error. -/
def result (r : Report) : Except RunError Unit :=
  match r.outcome with
  | .success => .ok ()
  | .limitReached => .error .limitReached

def shown (r : Report) : String :=
  Text.shownRecord "RunReport" [("outcome", r.outcome.shown), ("stats", r.stats.shown)]

end Report

end TaskCrew
