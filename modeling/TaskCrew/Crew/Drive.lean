import TaskCrew.Crew.Cost

/-!
# A run from its beginning to its end

Steps can mix in many ways; here is one of them, for a run that is carried out.

* `Crew.preferences` — the moves that are tried, the best first;
* `Crew.drive` — a run after as many of these moves as it costs at most;
* `Plan.carryOut` — a run from its beginning to its end.

**Design.** Workers come first until they have begun a task, so whoever can work is at work before
anything else happens, then the starter, then the producer, and then those that carry out tasks.
A wait is given up only if nothing else is left to do. A thread is refused if its stack does not fit
into the memory of the machine.
-/

namespace TaskCrew

/-- The memory of the machine in bytes. -/
def memory : UInt64 := 34359738368

/-- What the system says when it refuses a thread. -/
def refusal : String := "Resource temporarily unavailable (os error 11)"

/-- A thread of the run can be started. -/
def Plan.CanStart (p : Plan) : Prop :=
  p.config.threadStackSize < memory

instance (p : Plan) : Decidable p.CanStart :=
  inferInstanceAs (Decidable (_ < _))

def Worker.isBusy : Worker → Bool
  | .working _ _ | .firing _ _ _ => true
  | _ => false

def Worker.isSelecting : Worker → Bool
  | .selecting => true
  | _ => false

namespace Crew

/-- The moves of workers that are at a kind of place, in a way, in order. -/
def workerMoves (s : Crew) (kind : Worker → Bool) (c : Choice) : List Move :=
  s.workers.zipIdx.filterMap fun (w, k) => if kind w then some ⟨.worker k, c⟩ else none

/-- The moves that are tried, the best first. -/
def preferences (p : Plan) (s : Crew) : List Move :=
  s.workerMoves (fun w => !w.isBusy) .usual
    ++ s.workerMoves Worker.isSelecting .other
    ++ [⟨.starter, match s.starter with
        | .starting _ => if p.CanStart ∨ ¬ p.Sound then .usual else .refused refusal
        | _ => .usual⟩,
      ⟨.producer, .usual⟩, ⟨.producer, .other⟩]
    ++ s.workerMoves Worker.isBusy .usual
    ++ (List.range s.outsiders.length).map (fun k => ⟨.outsider k, .usual⟩)
    ++ s.workerMoves Worker.isBusy .other

/-- The run after the best move that is possible. -/
def advance? (p : Plan) (s : Crew) : Option Crew :=
  (s.preferences p).findSome? fun m => s.step? p m

/-- The run after so many moves, or fewer if none is possible any more. -/
def drive (p : Plan) : Nat → Crew → Crew
  | 0, s => s
  | moves + 1, s =>
    match s.advance? p with
    | none => s
    | some s => drive p moves s

/-- Whatever is driven mixes steps in one of the possible ways. -/
theorem reaches_drive (p : Plan) (moves : Nat) {s t : Crew} (h : Reaches p s t) :
    Reaches p s (drive p moves t) := by
  induction moves generalizing t with
  | zero => exact h
  | succ moves ih =>
    simp only [drive]
    split
    · exact h
    · next u hu =>
      obtain ⟨m, _, hm⟩ := List.exists_of_findSome?_eq_some hu
      exact ih (.tail m h trivial hm)

end Crew

/-- A run on a ledger and counters from its beginning to its end. -/
def Plan.carryOut (p : Plan) (l : Ledger) (c : Counters) : Crew :=
  let s := Crew.begin p l c 0
  s.drive p (s.cost p)

end TaskCrew
