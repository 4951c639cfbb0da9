/-!
# How calls come to their end

* `Exit` — what a call returns, or that it breaks off and returns nothing.
-/

namespace TaskCrew

/-- How a call comes to its end. -/
inductive Exit (α : Type)
  | returned (a : α)
  | panicked
  deriving DecidableEq, Repr

end TaskCrew
