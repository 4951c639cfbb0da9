import TaskCrew.Total

/-!
# Calls of several threads on one object

Threads call the methods of an object that they share. A call takes several steps, and steps of
different threads mix in any order.

* `Caller` — a thread with the calls it is to make, the first of which may be under way, and the
  answers it has;
* `Contention` — an object with the threads that call it;
* `Contention.step?` — one step of one thread;
* `Contention.Reaches` — every way in which the steps can mix;
* `Contention.drive` — one way: the threads take turns.

**Design.** What a call does is a parameter: a function from the object and the place where the call
stands to the object after one step, with the new place or the answer. A step that is impossible for
now is no step.
-/

namespace TaskCrew

/-- A thread that makes calls, one after the other. -/
structure Caller (Call Answer : Type) where
  /-- The calls to make; the first may be under way. -/
  calls : List Call
  /-- The answers so far, the latest first. -/
  answers : List Answer := []

/-- An object with the threads that call it. -/
structure Contention (Object Call Answer : Type) where
  object : Object
  callers : List (Caller Call Answer)

namespace Contention

variable {Object Call Answer : Type}

abbrev Step (Object Call Answer : Type) : Type :=
  Object → Call → Option (Object × (Call ⊕ Answer))

/-- Threads that make calls, before the first step. -/
def start (o : Object) (calls : List (List Call)) : Contention Object Call Answer :=
  ⟨o, calls.map fun calls => ⟨calls, []⟩⟩

def step? (next : Step Object Call Answer) (k : Nat) (t : Contention Object Call Answer) :
    Option (Contention Object Call Answer) :=
  match t.callers[k]? with
  | none | some ⟨[], _⟩ => none
  | some ⟨call :: calls, answers⟩ =>
    match next t.object call with
    | none => none
    | some (o, .inl call) => some ⟨o, t.callers.set k ⟨call :: calls, answers⟩⟩
    | some (o, .inr answer) => some ⟨o, t.callers.set k ⟨calls, answer :: answers⟩⟩

/-- One state comes from another by steps of any threads in any order. -/
inductive Reaches (next : Step Object Call Answer) (t : Contention Object Call Answer) :
    Contention Object Call Answer → Prop
  | refl : Reaches next t t
  | tail {u v : Contention Object Call Answer} (k : Nat) (reached : Reaches next t u)
      (stepped : u.step? next k = some v) : Reaches next t v

/-! ## Taking turns -/

/-- The state after each of the first threads took one step, if it could. -/
def turn (next : Step Object Call Answer) : Nat → Contention Object Call Answer →
    Contention Object Call Answer
  | 0, t => t
  | k + 1, t =>
    let t := turn next k t
    (t.step? next k).getD t

/-- The state after so many rounds in which each thread took one step, if it could. -/
def drive (next : Step Object Call Answer) : Nat → Contention Object Call Answer →
    Contention Object Call Answer
  | 0, t => t
  | rounds + 1, t => drive next rounds (turn next t.callers.length t)

def isDone (t : Contention Object Call Answer) : Bool :=
  t.callers.all fun c => c.calls.isEmpty

/-- The answers of all threads, each thread's in the order of its calls. -/
def answers (t : Contention Object Call Answer) : List Answer :=
  t.callers.flatMap fun c => c.answers.reverse

/-- How many steps all threads may still take. -/
def cost (price : Call → Nat) (t : Contention Object Call Answer) : Nat :=
  total (fun c => total price c.calls) t.callers

/-- The object and the answers after threads made their calls, taking turns. -/
def settle (next : Step Object Call Answer) (price : Call → Nat) (o : Object)
    (calls : List (List Call)) : Object × List Answer :=
  let t : Contention Object Call Answer := start o calls
  let t := drive next (t.cost price) t
  (t.object, t.answers)

theorem reaches_turn (next : Step Object Call Answer) (k : Nat)
    {t u : Contention Object Call Answer} (h : Reaches next t u) :
    Reaches next t (turn next k u) := by
  induction k with
  | zero => exact h
  | succ k ih =>
    simp only [turn]
    cases hs : (turn next k u).step? next k with
    | none => exact ih
    | some v => exact .tail k ih hs

/-- Taking turns is one of the ways to mix steps. -/
theorem reaches_drive (next : Step Object Call Answer) (rounds : Nat)
    {t u : Contention Object Call Answer} (h : Reaches next t u) :
    Reaches next t (drive next rounds u) := by
  induction rounds generalizing u with
  | zero => exact h
  | succ rounds ih => exact ih (reaches_turn next _ h)

end Contention

end TaskCrew
