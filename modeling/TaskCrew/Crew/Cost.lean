import TaskCrew.Crew.Step
import TaskCrew.Total

/-!
# How long a run can go on

Every part of a run has a cost: a bound on the steps that it may still take, together with the
steps that it leads others to take. The cost of a run is the sum, and every step lowers it, so a
run of any kind comes to an end after as many steps as it costs at most.

* `Action.cost`, `Body.cost`, `Worker.cost`, `Producer.cost`, `Starter.cost` — the cost of each
  part;
* `Crew.cost` — the cost of a run.

A task costs more in the queue than in the hands of a worker, and more with the producer than in the
queue, so handing it on lowers the sum.
-/

namespace TaskCrew

/-- The cost of an action: firing the signal takes a step to begin and those of the call. -/
def Action.cost : Action → Nat
  | .fire => 7
  | _ => 1

/-- The cost of a body: the actions on its longest way, and its end. -/
def Body.cost : Body → Nat
  | .done _ => 1
  | .act a rest => a.cost + rest.cost
  | .either left right => 1 + max left.cost right.cost

def Worker.cost : Worker → Nat
  | .entering => 5
  | .checking => 4
  | .selecting => 3
  | .holding j => 18 + j.body.cost
  | .dropping _ => 3
  | .cleared j => 17 + j.body.cost
  | .calling j => 16 + j.body.cost
  | .working _ rest => 15 + rest.cost
  | .firing _ rest f => 15 + rest.cost + f.cost
  | .succeeding => 5
  | .panicking => 15
  | .failing => 14
  | .recording r => 4 + r.cost
  | .leaving _ => 2
  | .releasing _ => 1
  | .gone _ => 0

/-- The cost of the producer, tasks apart. -/
def Producer.cost : Producer → Nat
  | .unborn => 6
  | .entering => 5
  | .checking => 4
  | .offering => 3
  | .counting => 5
  | .closing => 2
  | .leaving => 1
  | .gone => 0

/-- The cost of the starter of a number of workers, with those of the workers that it starts. -/
def Starter.cost (workers : Nat) : Starter → Nat
  | .starting started => 6 * (workers - started) + workers + 14
  | .closing _ => workers + 13
  | .aborting _ f => workers + 7 + f.cost
  | .joining joined _ _ => workers + 2 - joined
  | .settling _ _ => 1
  | .returned _ => 0

namespace Crew

/-- The cost of the tasks that are with the producer. -/
def unsentCost (jobs : List Job) : Nat :=
  total (fun j => 19 + j.body.cost) jobs

/-- The cost of the tasks that are in the queue. -/
def queueCost (jobs : List Job) : Nat :=
  total (fun j => 16 + j.body.cost) jobs

def outsiderCost (calls : List (Option Firing)) : Nat :=
  total (fun call => (call.map Firing.cost).getD 0) calls

def cost (p : Plan) (s : Crew) : Nat :=
  s.starter.cost p.workers + s.producer.cost + unsentCost s.unsent + queueCost s.queue
    + total Worker.cost s.workers + outsiderCost s.outsiders

end Crew

end TaskCrew
