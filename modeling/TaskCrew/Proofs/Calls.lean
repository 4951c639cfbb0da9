import TaskCrew.Ledger.Session
import TaskCrew.Proofs.Contention
import TaskCrew.Proofs.Diligence
import TaskCrew.Proofs.Limit
import TaskCrew.Proofs.Termination

/-!
# Threads that call a ledger

Threads record failures on one ledger, fire its signal from outside and ask it, and their steps mix in
any order. No failure is lost, and no thread waits forever.

* `Contention.agrees_set` — a signal that threads call shows what the calls on it do;
* `Ledger.Call.Turn` — what one step of a call does;
* `Ledger.Contest`, `Contest.start` — a ledger with the threads that call it, and before their first
  step;
* `Contest.Guarded` — the locks are had by exactly the calls that are past taking them;
* `counted_of_reaches`, `numbered_of_reaches` — no failure is lost, and each has its own count;
* `knows_of_reaches` — whoever has counted a failure knows the count as long as it has the lock;
* `exists_step` — as long as a call has not returned, one of the threads can take a step.
-/

namespace TaskCrew

/-- A signal goes on showing what the calls of contending threads do when one of them takes a turn. -/
lemma Contention.agrees_set {Object Call Answer : Type} {t : Contention Object Call Answer}
    (call? : Call → Option Firing) {g g' : Signal} {k : Nat} {call : Call} {calls : List Call}
    {answers : List Answer} {o : Object} {result : Call ⊕ Answer}
    (place : t.callers[k]? = some ⟨call :: calls, answers⟩)
    (follows : g.Follows (call? call) g' (result.elim call? fun _ => none))
    (agrees : g.Agrees (t.cost fun c => weigh Firing.holds (call? c))
      (t.cost fun c => weigh Firing.stores (call? c)) (t.cost fun c => weigh Firing.disposes (call? c))) :
    let u : Contention Object Call Answer := ⟨o, t.callers.set k (resume calls answers result)⟩
    g'.Agrees (u.cost fun c => weigh Firing.holds (call? c))
      (u.cost fun c => weigh Firing.stores (call? c))
      (u.cost fun c => weigh Firing.disposes (call? c)) := by
  intro u
  -- what the other calls come to is the total without this one, before and after
  have split (f : Firing → Nat) :
      t.cost (fun c => weigh f (call? c)) - weigh f (call? call) + weigh f (call? call) =
        t.cost fun c => weigh f (call? c) :=
    Nat.sub_add_cancel (le_cost_of_mem (fun c => weigh f (call? c)) (List.mem_of_getElem? place)
      List.mem_cons_self)
  have moved (f : Firing → Nat) :
      t.cost (fun c => weigh f (call? c)) - weigh f (call? call)
          + weigh f (result.elim call? fun _ => none) = u.cost fun c => weigh f (call? c) := by
    have set : u.cost (fun c => weigh f (call? c)) + weigh f (call? call) = _ :=
      cost_set (fun c => weigh f (call? c)) o result place
    have weighed : result.elim (fun c => weigh f (call? c)) (fun _ => 0) =
        weigh f (result.elim call? fun _ => none) := by cases result <;> rfl
    have := split f
    omega
  have step := follows (t.cost (fun c => weigh Firing.holds (call? c)) - weigh Firing.holds (call? call))
    (t.cost (fun c => weigh Firing.stores (call? c)) - weigh Firing.stores (call? call))
    (t.cost (fun c => weigh Firing.disposes (call? c)) - weigh Firing.disposes (call? call))
  simp only [split, moved] at step
  exact step agrees

namespace Recording

/-- A call has not counted its failure. -/
def uncounted : Recording → Nat
  | .acquire | .increment => 1
  | _ => 0

/-- The count that a call knows from its own increment on. -/
def count? : Recording → Option Nat
  | .compare count | .firing count _ | .release count _ => some count.toNat
  | .acquire | .increment => none

end Recording

namespace Ledger

/-! ## Calls -/

namespace Call

/-- A call that has not begun. -/
def IsFresh : Call → Prop
  | .record r => r = .acquire
  | .signal (.fire f) => f = .acquire
  | _ => True

def isRecording : Call → Bool
  | .record _ => true
  | _ => false

/-- A number for a call, given numbers for calls that record a failure and for calls of `fire`. -/
def value (f : Recording → Nat) (g : Firing → Nat) : Call → Nat
  | .record r => f r
  | .signal (.fire x) => g x
  | _ => 0

/-- The call of `fire` that a call is or makes. -/
def call? : Call → Option Firing
  | .record r => r.call?
  | .signal (.fire f) => some f
  | _ => none

/-- A call has not counted its failure. -/
abbrev uncounted : Call → Nat :=
  value Recording.uncounted fun _ => 0

/-- A call has the lock of the ledger. -/
abbrev holdsLedger : Call → Nat :=
  value Recording.holds fun _ => 0

/-- The count that a call knows from its own increment on. -/
def count? : Call → Option Nat
  | .record r => r.count?
  | _ => none

/-- A call waits for the lock of the ledger. -/
def WaitsForLedger : Call → Prop
  | .record r => r = .acquire
  | .failures | .limitReached => True
  | _ => False

/-- The turns of a call: where it stood, the ledger then, and where the call stands or what it
returns. -/
inductive Turn (l : Ledger) : Call → Ledger → Call ⊕ Answer → Prop
  | record {r r' : Recording} {l' : Ledger} (turn : r.Turn l l' r') :
    Turn l (.record r) l' (.inl (.record r'))
  | recorded {count : UInt64} {won : Bool} :
    Turn l (.record (.release count won)) { l with locked := false } (.inr (.recorded count won))
  | fire {f f' : Firing} {g : Signal} (step : f.step? l.signal = some (g, .inl f')) :
    Turn l (.signal (.fire f)) { l with signal := g } (.inl (.signal (.fire f')))
  | fired {won : Bool} :
    Turn l (.signal (.fire (.release won))) { l with signal := { l.signal with locked := false } }
      (.inr (.signal (.fired won)))
  | isFired : Turn l (.signal .isFired) l (.inr (.signal (.flag l.signal.fired)))
  | isAwake : Turn l (.signal .isAwake) l (.inr (.signal (.awake l.signal.awake)))
  | failures : Turn l .failures l (.inr (.failures l.failures))
  | limitReached : Turn l .limitReached l (.inr (.limitReached l.limitReached))

variable {l l' : Ledger} {call : Call} {result : Call ⊕ Answer}

lemma turn_of_step? (h : call.step? l = some (l', result)) : call.Turn l l' result := by
  cases call with
  | record r =>
    simp only [step?, Option.map_eq_some_iff, Prod.mk.injEq, Prod.exists] at h
    obtain ⟨l'', next, step, rfl, rfl⟩ := h
    cases next with
    | inl r' => exact .record (Recording.turn_of_step? step)
    | inr answer =>
      obtain ⟨⟨count, won, rfl⟩, rfl⟩ := Recording.eq_release_of_step? step
      cases step
      exact .recorded
  | signal c =>
    simp only [step?, Option.map_eq_some_iff, Prod.mk.injEq, Prod.exists] at h
    obtain ⟨g, next, step, rfl, rfl⟩ := h
    cases c with
    | fire f =>
      simp only [Signal.Call.step?, Option.map_eq_some_iff, Prod.mk.injEq, Prod.exists] at step
      obtain ⟨g', next', step, rfl, rfl⟩ := step
      cases next' with
      | inl f' => exact .fire step
      | inr won =>
        obtain ⟨rfl, rfl⟩ := Firing.eq_release_of_step? step
        exact .fired
    | isFired => cases step; exact .isFired
    | isAwake => cases step; exact .isAwake
  | failures =>
    simp only [step?, Option.ite_none_left_eq_some, Option.some.injEq, Prod.mk.injEq] at h
    obtain ⟨-, rfl, rfl⟩ := h
    exact .failures
  | limitReached =>
    simp only [step?, Option.ite_none_left_eq_some, Option.some.injEq, Prod.mk.injEq] at h
    obtain ⟨-, rfl, rfl⟩ := h
    exact .limitReached

/-- A call gets cheaper with every step. -/
lemma cost_of_step? {call' : Call} (h : call.step? l = some (l', .inl call')) :
    call'.cost < call.cost := by
  cases call with
  | record r =>
    simp only [step?, Option.map_eq_some_iff, Prod.mk.injEq, Prod.exists] at h
    obtain ⟨l'', next, step, -, moved⟩ := h
    cases next with
    | inl r' => cases moved; exact Recording.cost_of_step? step
    | inr answer => cases moved
  | signal c =>
    simp only [step?, Option.map_eq_some_iff, Prod.mk.injEq, Prod.exists] at h
    obtain ⟨g, next, step, -, moved⟩ := h
    cases c with
    | fire f =>
      simp only [Signal.Call.step?, Option.map_eq_some_iff, Prod.mk.injEq, Prod.exists] at step
      obtain ⟨g', next', step, -, rfl⟩ := step
      cases next' with
      | inl f' => cases moved; exact Firing.cost_of_step? step
      | inr won => cases moved
    | isFired | isAwake => cases step; cases moved
  | failures | limitReached =>
    simp only [step?, Option.ite_none_left_eq_some, Option.some.injEq, Prod.mk.injEq] at h
    cases h.2.2

lemma cost_pos (call : Call) : 0 < call.cost := by
  cases call with
  | record r => exact r.cost_pos
  | signal c =>
    cases c with
    | fire f => exact f.cost_pos
    | isFired | isAwake => exact Nat.one_pos
  | failures | limitReached => exact Nat.one_pos

/-- Only a call that waits for a lock may be unable to go on. -/
lemma isSome_step? (ledger : call.WaitsForLedger → l.locked = false)
    (signal : call.call? = some .acquire → l.signal.locked = false) : (call.step? l).isSome := by
  cases call with
  | record r =>
    have step := Crew.isSome_recordingStep? (r := r) (l := l) ledger signal
    simpa [step?] using step
  | signal c =>
    cases c with
    | fire f =>
      have step : (f.step? l.signal).isSome :=
        Crew.isSome_firingStep? fun waits => signal (congrArg some waits)
      simpa [step?, Signal.Call.step?] using step
    | isFired | isAwake => rfl
  | failures | limitReached => simp [step?, ledger trivial]

/-! ## What a turn does -/

lemma Turn.limit_eq (h : call.Turn l l' result) : l'.limit = l.limit := by
  cases h with
  | record turn => cases turn <;> rfl
  | _ => rfl

lemma Turn.keeps (h : call.Turn l l' result) : l.signal.Keeps l'.signal := by
  cases h with
  | record turn =>
    cases turn with
    | fire step | endFiring step => exact Signal.keeps_of_step? step
    | _ => exact ⟨id, id⟩
  | fire step => exact Signal.keeps_of_step? step
  | _ => exact ⟨id, id⟩

/-- A call that changes the count is about to count its failure, and has the lock. -/
lemma Turn.failures_eq_or (h : call.Turn l l' result) :
    l'.failures = l.failures ∨
      call = .record .increment ∧ l' = { l with failures := l.failures + 1 } ∧
        result = .inl (.record (.compare (l.failures + 1))) := by
  cases h with
  | record turn =>
    cases turn with
    | increment => exact .inr ⟨rfl, rfl, rfl⟩
    | _ => exact .inl rfl
  | _ => exact .inl rfl

lemma Turn.follows (h : call.Turn l l' result) :
    l.signal.Follows call.call? l'.signal (result.elim call? fun _ => none) := by
  cases h with
  | record turn =>
    cases turn with
    | acquire | increment | pass => exact Signal.follows_rfl _ _
    | reach => exact Signal.follows_acquire _
    | fire step => exact Signal.follows_of_step? step
    | endFiring step => exact Signal.follows_of_step?_inr step
  | recorded => exact Signal.follows_rfl _ _
  | fire step => exact Signal.follows_of_step? step
  | @fired won => exact Signal.follows_of_step?_inr (f := .release won) rfl
  | isFired | isAwake | failures | limitReached => exact Signal.follows_rfl _ _

lemma Turn.holdsLedger {a : Nat} (h : call.Turn l l' result)
    (hl : a + call.holdsLedger = l.locked.toNat) :
    a + result.elim Call.holdsLedger (fun _ => 0) = l'.locked.toNat := by
  cases h with
  | record turn =>
    cases turn with
    | acquire free => simpa [value, Recording.holds, free] using hl
    | increment | reach | pass | fire | endFiring => exact hl
  | recorded =>
    have := Bool.toNat_le l.locked
    simp only [value, Recording.holds] at hl
    simp only [Sum.elim_inr, Bool.toNat_false]
    omega
  | _ => exact hl

/-- What a call that has the lock of the ledger knows of the count. -/
def Knows (l : Ledger) : Call → Prop
  | .record (.compare count) => count = l.failures
  | .record (.firing count _) => count = l.failures ∧ l.limit ≤ count
  | _ => True

lemma knows_of_holdsLedger_eq_zero (l : Ledger) (h : call.holdsLedger = 0) : call.Knows l := by
  cases call with
  | record r =>
    cases r with
    | compare | firing => cases h
    | _ => trivial
  | _ => trivial

lemma Knows.of_failures_eq (h : call.Knows l) (limit : l'.limit = l.limit)
    (failures : l'.failures = l.failures) : call.Knows l' := by
  unfold Knows at h ⊢
  rw [limit, failures]
  exact h

lemma Turn.knows (h : call.Turn l l' result) (knows : call.Knows l) :
    result.elim (Knows l') fun _ => True := by
  cases h with
  | record turn =>
    cases turn with
    | increment => rfl
    | reach reached => exact ⟨knows, reached⟩
    | fire => exact knows
    | acquire | pass | endFiring => trivial
  | _ => trivial

end Call

/-- The count that an answer gives. -/
def Answer.count? : Answer → Option Nat
  | .recorded count _ => some count.toNat
  | _ => none

/-! ## Threads that call a ledger -/

/-- A ledger with the threads that call it. -/
abbrev Contest : Type :=
  Contention Ledger Call Answer

namespace Contest

/-- Threads that are about to call a new ledger with a limit. -/
def start (m : UInt64) (calls : List (List Call)) : Contest :=
  Contention.start { limit := m } calls

/-- One state comes from another by steps of any threads in any order. -/
abbrev Reaches : Contest → Contest → Prop :=
  Contention.Reaches Call.step?

variable {m : UInt64} {calls : List (List Call)} {t u : Contest}

/-- What holds at the beginning and is kept by the turn of every call holds of every state that is
reached. -/
theorem invariant {I : Contest → Prop} (h : Reaches t u) (base : I t)
    (step : ∀ {u : Contest} {k : Nat} {call : Call} {calls : List Call} {answers : List Answer}
      {l : Ledger} {result : Call ⊕ Answer}, Reaches t u →
      u.callers[k]? = some ⟨call :: calls, answers⟩ → call.Turn u.object l result → I u →
      I ⟨l, u.callers.set k (Contention.resume calls answers result)⟩) : I u := by
  refine h.invariant base ?_
  intro v w reached turn before
  cases turn with
  | mk place step' => exact step reached place (Call.turn_of_step? step') before

/-- Every call is one that has not begun. -/
def AllFresh (calls : List (List Call)) : Prop :=
  ∀ cs ∈ calls, ∀ call ∈ cs, call.IsFresh

lemma AllFresh.total_congr (fresh : AllFresh calls) {f g : Call → Nat}
    (same : ∀ call : Call, call.IsFresh → f call = g call) :
    total f calls.flatten = total g calls.flatten := by
  refine TaskCrew.total_congr fun call mem => ?_
  obtain ⟨cs, hcs, mem⟩ := List.mem_flatten.1 mem
  exact same call (fresh cs hcs call mem)

/-- How many calls record a failure. -/
def recordings (calls : List (List Call)) : Nat :=
  calls.flatten.countP Call.isRecording

/-- Only the first call of a thread has begun. -/
lemma fresh_of_reaches (fresh : AllFresh calls) (h : Reaches (start m calls) t) :
    ∀ c ∈ t.callers, ∀ call ∈ c.calls.tail, call.IsFresh := by
  refine invariant (I := fun t => ∀ c ∈ t.callers, ∀ call ∈ c.calls.tail, call.IsFresh) h ?_ ?_
  · intro c mem call later
    obtain ⟨cs, hcs, rfl⟩ := List.mem_map.1 mem
    exact fresh cs hcs call (List.mem_of_mem_tail later)
  · intro u k call calls answers l result reached place turn before
    refine Contention.forall_callers_set (fun call' later => ?_) ?_
    · have here := before _ (List.mem_of_getElem? place)
      cases result with
      | inl c => exact here call' later
      | inr a => exact here call' (List.mem_of_mem_tail later)
    · intro i c _ hc
      exact before c (List.mem_of_getElem? hc)

lemma limit_of_reaches (h : Reaches (start m calls) t) : t.object.limit = m := by
  refine invariant (I := fun t => t.object.limit = m) h rfl ?_
  intro u k call calls answers l result _ _ turn before
  exact turn.limit_eq.trans before

/-! ## Locks -/

/-- The locks are had by exactly the calls that are past taking them, and the signal shows what the
calls on it do. -/
structure Guarded (t : Contest) : Prop where
  signal : t.object.signal.Agrees (t.cost fun c => weigh Firing.holds c.call?)
    (t.cost fun c => weigh Firing.stores c.call?) (t.cost fun c => weigh Firing.disposes c.call?)
  ledger : t.cost Call.holdsLedger = t.object.locked.toNat

lemma weigh_call?_of_isFresh {f : Firing → Nat} (zero : f .acquire = 0) {call : Call}
    (fresh : call.IsFresh) : weigh f call.call? = 0 := by
  cases call with
  | record r => rw [show r = .acquire from fresh]; rfl
  | signal c =>
    cases c with
    | fire g => rw [show g = .acquire from fresh]; exact zero
    | isFired | isAwake => rfl
  | failures | limitReached => rfl

lemma holdsLedger_of_isFresh {call : Call} (fresh : call.IsFresh) : call.holdsLedger = 0 := by
  cases call with
  | record r => rw [show r = .acquire from fresh]; rfl
  | signal c => cases c <;> rfl
  | failures | limitReached => rfl

theorem guarded_of_reaches (fresh : AllFresh calls) (h : Reaches (start m calls) t) :
    t.Guarded := by
  refine invariant (I := Guarded) h ?_ ?_
  · have none (f : Firing → Nat) (zero : f .acquire = 0) :
        (start m calls).cost (fun c => weigh f c.call?) = 0 :=
      Contention.cost_start_eq_zero _ fun cs hcs call mem =>
        weigh_call?_of_isFresh zero (fresh cs hcs call mem)
    refine ⟨?_, ?_⟩
    · rw [none _ rfl, none _ rfl, none _ rfl]
      exact ⟨rfl, rfl, rfl, nofun, nofun⟩
    · exact Contention.cost_start_eq_zero _ fun cs hcs call mem =>
        holdsLedger_of_isFresh (fresh cs hcs call mem)
  · intro u k call calls answers l result _ place turn before
    constructor
    · exact Contention.agrees_set Call.call? place turn.follows before.signal
    · have le := Contention.le_cost_of_mem Call.holdsLedger (List.mem_of_getElem? place)
        List.mem_cons_self
      have set := Contention.cost_set Call.holdsLedger l result place
      have holds := turn.holdsLedger (a := u.cost Call.holdsLedger - call.holdsLedger)
        (by rw [Nat.sub_add_cancel le, before.ledger])
      show _ = l.locked.toNat
      omega

/-- While one call has the lock of the ledger, no other call has it. -/
lemma Guarded.holdsLedger_eq_zero (h : t.Guarded) {i k : Nat} {call : Call} {calls : List Call}
    {answers : List Answer} {c : Caller Call Answer}
    (place : t.callers[k]? = some ⟨call :: calls, answers⟩) (holds : call.holdsLedger = 1)
    (other : i ≠ k) (hc : t.callers[i]? = some c) : ∀ call' ∈ c.calls, call'.holdsLedger = 0 := by
  have le : t.cost Call.holdsLedger ≤ total Call.holdsLedger (call :: calls) := by
    rw [h.ledger, total, holds]
    exact Nat.le_trans (Bool.toNat_le _) (Nat.le_add_right 1 _)
  have none := eq_zero_of_total_le (f := fun c : Caller Call Answer => total Call.holdsLedger c.calls)
    place hc other le
  intro call' mem
  exact Nat.le_zero.1 (none ▸ le_total_of_mem Call.holdsLedger mem)

/-! ## Counting -/

/-- No failure is lost: those in the ledger and those yet to be counted are all there are. -/
theorem counted_of_reaches (fresh : AllFresh calls) (few : recordings calls < UInt64.size)
    (h : Reaches (start m calls) t) :
    t.object.failures.toNat + t.cost Call.uncounted =
      recordings calls := by
  refine invariant (I := fun t => t.object.failures.toNat + t.cost _ = recordings calls) h ?_ ?_
  · rw [start, Contention.cost_start, recordings, ← total_toNat]
    refine (Nat.zero_add _).trans (fresh.total_congr fun call fresh => ?_)
    cases call with
    | record r => rw [show r = .acquire from fresh]; rfl
    | signal c => cases c <;> rfl
    | failures | limitReached => rfl
  · intro u k call calls answers l result _ place turn before
    have set := Contention.cost_set Call.uncounted l result place
    have le := Contention.le_cost_of_mem Call.uncounted
      (List.mem_of_getElem? place) List.mem_cons_self
    rcases turn.failures_eq_or with same | ⟨rfl, rfl, rfl⟩
    · have still : result.elim Call.uncounted (fun _ => 0) =
          call.uncounted := by
        cases turn with
        | record turn =>
          cases turn with
          | increment => simp at same
          | _ => rfl
        | _ => rfl
      show l.failures.toNat + _ = _
      rw [same]
      omega
    · have one : Call.uncounted (.record .increment) = 1 := rfl
      have next := Crew.toNat_add_one_of_lt few (n := u.object.failures) (by omega)
      have zero : Call.uncounted (.record (.compare (u.object.failures + 1))) = 0 := rfl
      rw [Sum.elim_inl] at set
      show (u.object.failures + 1).toNat + _ = _
      omega

/-- Calls that have counted their failure know the numbers from one on, each another: whatever is given
to numbers, it adds up. -/
theorem numbered_of_reaches (fresh : AllFresh calls) (few : recordings calls < UInt64.size)
    (h : Reaches (start m calls) t) (f : Nat → Nat) :
    t.worth (fun c => weigh f c.count?) (fun a => weigh f a.count?) =
      total f (List.range' 1 t.object.failures.toNat) := by
  refine invariant (I := fun t => t.worth (fun c => weigh f c.count?) (fun a => weigh f a.count?) =
    total f (List.range' 1 t.object.failures.toNat)) h ?_ ?_
  · refine Contention.worth_start_eq_zero _ _ fun cs hcs call mem => ?_
    have fresh := fresh cs hcs call mem
    cases call with
    | record r => rw [show r = .acquire from fresh]; rfl
    | signal | failures | limitReached => rfl
  · intro u k call calls answers l result reached place turn before
    have set := Contention.worth_set (fun c : Call => weigh f c.count?)
      (fun a : Answer => weigh f a.count?) l result place
    have counted := counted_of_reaches fresh few reached
    have le := Contention.le_cost_of_mem Call.uncounted
      (List.mem_of_getElem? place) List.mem_cons_self
    rcases turn.failures_eq_or with same | ⟨rfl, rfl, rfl⟩
    · have still : result.elim (fun c => weigh f c.count?) (fun a => weigh f a.count?) =
          weigh f call.count? := by
        cases turn with
        | record turn =>
          cases turn with
          | increment => simp at same
          | _ => rfl
        | _ => rfl
      show _ = total f (List.range' 1 l.failures.toNat)
      rw [same]
      omega
    · have one : Call.uncounted (.record .increment) = 1 := rfl
      have next := Crew.toNat_add_one_of_lt few (n := u.object.failures) (by omega)
      have number : weigh f (Call.record (.compare (u.object.failures + 1))).count? =
          f (u.object.failures.toNat + 1) := by
        rw [← next]
        rfl
      have none : weigh f (Call.record .increment).count? = 0 := rfl
      rw [Sum.elim_inl, number, none] at set
      show _ = total f (List.range' 1 (u.object.failures + 1).toNat)
      rw [next, List.range'_concat, total_append, ← before, Nat.one_mul, Nat.add_comm 1]
      exact set

/-- When all calls have returned, those that recorded a failure have the counts from one on. -/
lemma counts_perm_of_isDone (fresh : AllFresh calls) (few : recordings calls < UInt64.size)
    (h : Reaches (start m calls) t) (done : t.isDone = true) :
    (t.answers.filterMap Answer.count?).Perm (List.range' 1 (recordings calls)) := by
  have counted := counted_of_reaches fresh few h
  rw [Contention.cost_of_isDone _ done, Nat.add_zero] at counted
  refine perm_of_total_eq fun f => ?_
  have numbered := numbered_of_reaches fresh few h f
  rw [Contention.worth, Contention.cost_of_isDone _ done, Nat.zero_add, counted] at numbered
  rw [total_filterMap, numbered]

/-- Whoever changes the count is a call that records a failure, which adds one and knows the count
then. -/
lemma failures_of_step? {k : Nat} (step : t.step? Call.step? k = some u) :
    u.object.failures = t.object.failures ∨
      u.object.failures = t.object.failures + 1 ∧ ∃ c, u.callers[k]? = some c ∧
        c.calls.head? = some (.record (.compare u.object.failures)) := by
  rw [Contention.step?] at step
  split at step
  · cases step
  · cases step
  · next place =>
    have lt := (List.getElem?_eq_some_iff.1 place).1
    split at step
    · cases step
    · next moved =>
      cases step
      rcases (Call.turn_of_step? moved).failures_eq_or with same | ⟨-, rfl, next⟩
      · exact .inl same
      · cases next
        exact .inr ⟨rfl, _, List.getElem?_set_self lt, rfl⟩
    · next moved =>
      cases step
      rcases (Call.turn_of_step? moved).failures_eq_or with same | ⟨-, -, next⟩
      · exact .inl same
      · cases next

/-- Whoever has counted a failure knows the count as long as it has the lock. -/
theorem knows_of_reaches (fresh : AllFresh calls) (h : Reaches (start m calls) t) :
    ∀ c ∈ t.callers, ∀ call ∈ c.calls, call.Knows t.object := by
  refine invariant (I := fun t => ∀ c ∈ t.callers, ∀ call ∈ c.calls, call.Knows t.object) h ?_ ?_
  · intro c mem call hcall
    obtain ⟨cs, hcs, rfl⟩ := List.mem_map.1 mem
    exact Call.knows_of_holdsLedger_eq_zero _ (holdsLedger_of_isFresh (fresh cs hcs call hcall))
  · intro u k call calls answers l result reached place turn before
    have mem := List.mem_of_getElem? place
    have later (call' : Call) (hcall : call' ∈ calls) : call'.Knows l :=
      Call.knows_of_holdsLedger_eq_zero l
        (holdsLedger_of_isFresh (fresh_of_reaches fresh reached _ mem call' hcall))
    refine Contention.forall_callers_set ?_ ?_
    · have now := turn.knows (before _ mem call List.mem_cons_self)
      intro call' hcall
      cases result with
      | inl c =>
        rcases List.mem_cons.1 hcall with rfl | hcall
        · exact now
        · exact later call' hcall
      | inr a => exact later call' hcall
    · intro i c other hc call' hcall
      have knows := before c (List.mem_of_getElem? hc) call' hcall
      rcases turn.failures_eq_or with same | ⟨rfl, rfl, rfl⟩
      · exact knows.of_failures_eq turn.limit_eq same
      · exact Call.knows_of_holdsLedger_eq_zero _
          ((guarded_of_reaches fresh reached).holdsLedger_eq_zero place rfl other hc call' hcall)

/-! ## What stays -/

lemma fired_of_reaches (h : Reaches t u) (fired : t.object.signal.fired = true) :
    u.object.signal.fired = true := by
  refine invariant (I := fun u => u.object.signal.fired = true) h fired ?_
  intro v k call calls answers l result _ _ turn before
  exact turn.keeps.fired before

lemma failures_le_of_reaches (fresh : AllFresh calls) (few : recordings calls < UInt64.size)
    (h : Reaches (start m calls) t) (h' : Reaches t u) :
    t.object.failures ≤ u.object.failures := by
  refine invariant (I := fun u => t.object.failures ≤ u.object.failures) h' (UInt64.le_refl _) ?_
  intro v k call calls' answers l result reached place turn before
  rcases turn.failures_eq_or with same | ⟨rfl, rfl, rfl⟩
  · show _ ≤ l.failures
    rw [same]
    exact before
  · have counted := counted_of_reaches fresh few (h.trans reached)
    have pending := Contention.le_cost_of_mem Call.uncounted (List.mem_of_getElem? place)
      List.mem_cons_self
    have one : Call.uncounted (.record .increment) = 1 := rfl
    exact Crew.le_add_one few (by omega) before

/-- A ledger that has reached its limit goes on saying so. -/
lemma limitReached_of_reaches (fresh : AllFresh calls) (few : recordings calls < UInt64.size)
    (h : Reaches (start m calls) t) (h' : Reaches t u) (reached : t.object.limitReached = true) :
    u.object.limitReached = true := by
  rw [limitReached, limit_of_reaches h, decide_eq_true_iff] at reached
  rw [limitReached, limit_of_reaches (h.trans h'), decide_eq_true_iff]
  exact UInt64.le_trans reached (failures_le_of_reaches fresh few h h')

/-! ## Nobody waits forever -/

/-- Only the first call of a thread has what a call that has not begun does not have. -/
lemma exists_first {f : Call → Nat} (fresh : AllFresh calls) (h : Reaches (start m calls) t)
    (zero : ∀ call : Call, call.IsFresh → f call = 0) (pos : 0 < t.cost f) :
    ∃ (k : Nat) (call : Call) (calls : List Call) (answers : List Answer),
      t.callers[k]? = some ⟨call :: calls, answers⟩ ∧ 0 < f call := by
  obtain ⟨⟨calls', answers⟩, mem, pos⟩ := exists_of_total_pos pos
  obtain ⟨k, place⟩ := List.mem_iff_getElem?.1 mem
  cases calls' with
  | nil => cases pos
  | cons call calls' =>
    refine ⟨k, call, calls', answers, place, ?_⟩
    have later : total f calls' = 0 := by
      refine total_eq_zero fun call' hcall => ?_
      exact zero call' (fresh_of_reaches fresh h _ mem call' hcall)
    rw [total, later] at pos
    exact pos

/-- As long as a call has not returned, one of the threads can take a step. -/
theorem exists_step (fresh : AllFresh calls) (h : Reaches (start m calls) t)
    (open_ : t.isDone = false) : ∃ k, (t.step? Call.step? k).isSome := by
  have guarded := guarded_of_reaches fresh h
  -- whoever has the lock of the signal waits for nothing, so the inner lock comes first
  by_cases signal : t.object.signal.locked = true
  · have pos : 0 < t.cost fun c => weigh Firing.holds c.call? := by
      rw [guarded.signal.holding_eq, signal]
      exact Nat.one_pos
    obtain ⟨k, call, calls', answers, place, holds⟩ :=
      exists_first fresh h (fun _ => weigh_call?_of_isFresh rfl) pos
    refine ⟨k, Contention.isSome_step? place (Call.isSome_step? ?_ ?_)⟩
    · intro waits
      cases call with
      | record r => rw [show r = .acquire from waits] at holds; cases holds
      | signal c => cases waits
      | failures | limitReached => cases holds
    · intro waits
      rw [waits] at holds
      cases holds
  rw [Bool.not_eq_true] at signal
  by_cases ledger : t.object.locked = true
  · have pos : 0 < t.cost Call.holdsLedger := by
      rw [guarded.ledger, ledger]
      exact Nat.one_pos
    obtain ⟨k, call, calls', answers, place, holds⟩ :=
      exists_first fresh h (fun _ => holdsLedger_of_isFresh) pos
    refine ⟨k, Contention.isSome_step? place (Call.isSome_step? ?_ fun _ => signal)⟩
    intro waits
    cases call with
    | record r => rw [show r = .acquire from waits] at holds; cases holds
    | signal c => cases waits
    | failures | limitReached => cases holds
  rw [Bool.not_eq_true] at ledger
  obtain ⟨k, call, calls', answers, place⟩ := Contention.exists_place_of_not_isDone open_
  exact ⟨k, Contention.isSome_step? place (Call.isSome_step? (fun _ => ledger) fun _ => signal)⟩

/-- A thread that waits for the lock of the ledger has no lock. -/
lemma holds_eq_zero_of_waits (fresh : AllFresh calls) (h : Reaches (start m calls) t)
    {c : Caller Call Answer} {call : Call} (mem : c ∈ t.callers) (first : c.calls.head? = some call)
    (waits : call.WaitsForLedger) :
    ∀ call' ∈ c.calls, call'.holdsLedger = 0 ∧ weigh Firing.holds call'.call? = 0 := by
  have later := fresh_of_reaches fresh h c mem
  cases hc : c.calls with
  | nil => nofun
  | cons call' calls' =>
    rw [hc] at first later
    cases first
    intro call' hcall
    rcases List.mem_cons.1 hcall with rfl | hcall
    · cases call' with
      | record r => rw [show r = .acquire from waits]; exact ⟨rfl, rfl⟩
      | signal c => cases waits
      | failures | limitReached => exact ⟨rfl, rfl⟩
    · exact ⟨holdsLedger_of_isFresh (later call' hcall), weigh_call?_of_isFresh rfl (later call' hcall)⟩

end Contest

end Ledger

end TaskCrew
