/-!
# One-shot signals

A signal is fired once and stays fired. It has a token, which the call that fires it takes out of
its place for good and then disposes of; whoever listens wakes when the token is disposed of. A
flag beside it says the same to those who only look.

* `Signal` — the lock on the place of the token, the token, the flag, and whether listeners wake;
* `Firing`, `Firing.step?` — where a call that fires the signal stands, and its next step;
* `Signal.Call`, `Signal.Call.step?` — the calls on a signal: firing it, looking at the flag, and
  looking whether a listener is awake.

**Design.** The steps of a call are separate, because calls of several threads mix. The lock is held
from taking the token until after its disposal, so a call that comes too late returns only when the
flag is set and listeners are awake.
-/

namespace TaskCrew

/-- A one-shot signal. -/
structure Signal where
  /-- A call that fires the signal has the lock. -/
  locked : Bool := false
  /-- The token is in its place. -/
  armed : Bool := true
  fired : Bool := false
  /-- The token was disposed of: every listener is awake. -/
  awake : Bool := false
  deriving DecidableEq, Repr

/-! ## Firing -/

/-- Where a call that fires a signal stands, by its next step. -/
inductive Firing
  | acquire
  /-- Takes the token, if there is one. -/
  | take
  /-- Sets the flag. -/
  | store
  /-- Disposes of the token. -/
  | dispose
  /-- Gives the lock back; the call took the token or not. -/
  | release (won : Bool)
  deriving DecidableEq, Repr

namespace Firing

/-- The next step of a call: the signal after it, and where the call stands then or what it returns.
The step that waits for the lock is impossible while another call has it. -/
def step? (s : Signal) : Firing → Option (Signal × (Firing ⊕ Bool))
  | .acquire => if s.locked then none else some ({ s with locked := true }, .inl .take)
  | .take =>
    if s.armed then some ({ s with armed := false }, .inl .store)
    else some (s, .inl (.release false))
  | .store => some ({ s with fired := true }, .inl .dispose)
  | .dispose => some ({ s with awake := true }, .inl (.release true))
  | .release won => some ({ s with locked := false }, .inr won)

/-- How many steps a call may still take. -/
def cost : Firing → Nat
  | .acquire => 5
  | .take => 4
  | .store => 3
  | .dispose => 2
  | .release _ => 1

theorem cost_pos (f : Firing) : 0 < f.cost := by
  cases f <;> simp [cost]

theorem cost_of_step? {s s' : Signal} {f f' : Firing} (h : f.step? s = some (s', .inl f')) :
    f'.cost < f.cost := by
  cases f <;> grind [step?, cost]

end Firing

/-! ## Calls -/

namespace Signal

/-- Where a call on a signal stands. -/
inductive Call
  | fire (f : Firing)
  | isFired
  /-- It looks whether a listener is awake. -/
  | isAwake
  deriving DecidableEq, Repr

/-- What a call on a signal returns. -/
inductive Answer
  | fired (won : Bool)
  | flag (value : Bool)
  | awake (value : Bool)
  deriving DecidableEq, Repr

/-- The next step of a call on a signal. -/
def Call.step? (s : Signal) : Call → Option (Signal × (Call ⊕ Answer))
  | .fire f => (f.step? s).map fun (s, next) => (s, next.map .fire .fired)
  | .isFired => some (s, .inr (.flag s.fired))
  | .isAwake => some (s, .inr (.awake s.awake))

/-- How many steps a call may still take. -/
def Call.cost : Call → Nat
  | .fire f => f.cost
  | .isFired | .isAwake => 1

end Signal

end TaskCrew
