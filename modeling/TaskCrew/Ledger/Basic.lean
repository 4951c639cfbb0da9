import TaskCrew.Signal.Basic

/-!
# Ledgers of failures

A ledger counts failures and fires its signal when the count reaches the limit.

* `Ledger` — the limit, the count with its lock, and the signal;
* `Recording`, `Recording.step?` — where a call that records a failure stands, and its next step;
* `Ledger.Call`, `Ledger.Call.step?` — the calls on a ledger and on its signal.

**Design.** The lock of the count is held while the signal is fired, so the locks are always taken
in one order, and a failure recorded after the limit finds the signal fired. A call that fires the
signal from outside takes the inner lock only.
-/

namespace TaskCrew

/-- A count of failures with a limit and a signal. -/
structure Ledger where
  /-- The count at which the signal is fired. -/
  limit : UInt64
  failures : UInt64 := 0
  /-- A call has the lock of the count. -/
  locked : Bool := false
  signal : Signal := {}
  deriving DecidableEq, Repr

namespace Ledger

/-- Whether the count has reached the limit. -/
def limitReached (l : Ledger) : Bool :=
  l.limit ≤ l.failures

end Ledger

/-! ## Recording -/

/-- Where a call that records a failure stands, by its next step. From its own increment on, a call
knows the count. -/
inductive Recording
  /-- Waits for the lock of the count. -/
  | acquire
  | increment
  | compare (count : UInt64)
  | firing (count : UInt64) (f : Firing)
  /-- Gives the lock back; the call fired the signal or not. -/
  | release (count : UInt64) (won : Bool)
  deriving DecidableEq, Repr

namespace Recording

/-- The next step of a call: the ledger after it, and where the call stands then or what it returns,
which is the count with whether the call fired the signal. -/
def step? (l : Ledger) : Recording → Option (Ledger × (Recording ⊕ UInt64 × Bool))
  | .acquire => if l.locked then none else some ({ l with locked := true }, .inl .increment)
  | .increment =>
    some ({ l with failures := l.failures + 1 }, .inl (.compare (l.failures + 1)))
  | .compare count =>
    if l.limit ≤ count then some (l, .inl (.firing count .acquire))
    else some (l, .inl (.release count false))
  | .firing count f =>
    match f.step? l.signal with
    | none => none
    | some (s, .inl f) => some ({ l with signal := s }, .inl (.firing count f))
    | some (s, .inr won) => some ({ l with signal := s }, .inl (.release count won))
  | .release count won => some ({ l with locked := false }, .inr (count, won))

/-- How many steps a call may still take. -/
def cost : Recording → Nat
  | .acquire => 9
  | .increment => 8
  | .compare _ => 7
  | .firing _ f => f.cost + 1
  | .release _ _ => 1

theorem cost_pos (r : Recording) : 0 < r.cost := by
  cases r <;> simp [cost]

theorem cost_of_step? {l l' : Ledger} {r r' : Recording} (h : r.step? l = some (l', .inl r')) :
    r'.cost < r.cost := by
  cases r with
  | acquire | increment | compare | release => grind [step?, cost, Firing.cost]
  | firing count f =>
    simp only [step?] at h
    split at h
    · simp at h
    · next hf =>
      simp only [Option.some.injEq, Prod.mk.injEq, Sum.inl.injEq] at h
      have := Firing.cost_of_step? hf
      simp [← h.2, cost, this]
    · simp only [Option.some.injEq, Prod.mk.injEq, Sum.inl.injEq] at h
      have := f.cost_pos
      simp [← h.2, cost, this]

end Recording

/-! ## Calls -/

namespace Ledger

/-- Where a call on a ledger stands. -/
inductive Call
  | record (r : Recording)
  /-- It is a call on the signal. -/
  | signal (c : Signal.Call)
  | failures
  /-- It asks whether the count has reached the limit. -/
  | limitReached
  deriving DecidableEq, Repr

/-- What a call on a ledger returns. -/
inductive Answer
  /-- The count after the call's own increment, and whether the call fired the signal. -/
  | recorded (count : UInt64) (won : Bool)
  /-- What a call on the signal returns. -/
  | signal (a : Signal.Answer)
  | failures (count : UInt64)
  /-- Whether the count has reached the limit. -/
  | limitReached (value : Bool)
  deriving DecidableEq, Repr

/-- The next step of a call on a ledger. Reading the count takes the lock for an instant. -/
def Call.step? (l : Ledger) : Call → Option (Ledger × (Call ⊕ Answer))
  | .record r =>
    (r.step? l).map fun (l, next) => (l, next.map .record fun (n, won) => .recorded n won)
  | .signal c =>
    (c.step? l.signal).map fun (s, next) => ({ l with signal := s }, next.map .signal .signal)
  | .failures => if l.locked then none else some (l, .inr (.failures l.failures))
  | .limitReached => if l.locked then none else some (l, .inr (.limitReached l.limitReached))

/-- How many steps a call may still take. -/
def Call.cost : Call → Nat
  | .record r => r.cost
  | .signal c => c.cost
  | .failures | .limitReached => 1

end Ledger

end TaskCrew
