import TaskCrew.Proofs.Staffing
import TaskCrew.Total

/-!
# Who has the locks

The lock of the signal is had by a call of `fire`, made by a worker, the starter or from outside; the
lock of the ledger is had by a worker that records a failure. What the signal shows follows from
where the call stands that has the lock.

* `Firing.holds`, `Firing.stores`, `Firing.disposes` — what a call has and is about to do;
* `Signal.Agrees` — a signal shows what the calls on it are doing;
* `Signal.Keeps` — what a signal shows stays so;
* `Crew.calling` — a number for every call of `fire` in a run, added up;
* `Crew.Locked` — the locks of a run are had by exactly the threads that are past taking them;
* `locked_of_reaches` — every state that a run reaches is locked in this way.
-/

namespace TaskCrew

/-! ## Calls of `fire` -/

namespace Firing

def holds : Firing → Nat
  | .acquire => 0
  | _ => 1

/-- A call has the token and is about to set the flag. -/
def stores : Firing → Nat
  | .store => 1
  | _ => 0

/-- A call has set the flag and is about to dispose of the token. -/
def disposes : Firing → Nat
  | .dispose => 1
  | _ => 0

/-- A call has the lock and is about to look for the token. -/
def takes : Firing → Nat
  | .take => 1
  | _ => 0

lemma stores_add_takes_le (f : Firing) : f.stores + f.takes ≤ f.holds := by
  cases f <;> simp [stores, takes, holds]

end Firing

namespace Signal

/-- A signal shows how many calls have the lock, are about to set the flag, and are about to dispose
of the token. -/
structure Agrees (g : Signal) (holding storing disposing : Nat) : Prop where
  holding_eq : holding = g.locked.toNat
  storing_eq : storing = (!g.armed && !g.fired).toNat
  disposing_eq : disposing = (g.fired && !g.awake).toNat
  fired_of_awake : g.awake = true → g.fired = true
  armed_of_fired : g.fired = true → g.armed = false

/-- A signal goes on showing what the calls on it do, whatever the others do, when one of them
passes from one place to another. -/
def Follows (g : Signal) (call : Option Firing) (g' : Signal) (call' : Option Firing) : Prop :=
  ∀ a b c, g.Agrees (a + weigh Firing.holds call) (b + weigh Firing.stores call)
      (c + weigh Firing.disposes call) →
    g'.Agrees (a + weigh Firing.holds call') (b + weigh Firing.stores call')
      (c + weigh Firing.disposes call')

lemma follows_rfl (g : Signal) (call : Option Firing) : g.Follows call g call :=
  fun _ _ _ h => h

/-- A call that does not have the lock yet shows as little as none. -/
lemma follows_acquire (g : Signal) : g.Follows none g (some .acquire) :=
  fun _ _ _ h => h

/-- A step of a call shows in the signal. -/
lemma follows_of_step? {g g' : Signal} {f f' : Firing} (h : f.step? g = some (g', .inl f')) :
    g.Follows (some f) g' (some f') := by
  rintro a b c ⟨hh, hs, hd, haf, hfa⟩
  cases Firing.turn_of_step? h with
  | acquire free =>
    refine ⟨?_, hs, hd, haf, hfa⟩
    simp_all [Firing.holds]
  | take armed =>
    have hf : g.fired = false := by
      by_contra hf
      simp [hfa (by simpa using hf)] at armed
    refine ⟨hh, ?_, hd, haf, fun _ => rfl⟩
    simp_all [Firing.stores]
  | miss unarmed => exact ⟨hh, hs, hd, haf, hfa⟩
  | store =>
    have hu : g.armed = false ∧ g.fired = false := by
      simp only [weigh_some, Firing.stores] at hs
      constructor
      · by_contra ha
        simp_all
      · by_contra hf
        simp_all
    have hw : g.awake = false := by
      by_contra hw
      simp [haf (by simpa using hw)] at hu
    refine ⟨hh, ?_, ?_, fun _ => rfl, fun _ => hu.1⟩
    · simp_all [Firing.stores]
    · simp_all [Firing.disposes]
  | dispose =>
    have hu : g.fired = true := by
      simp only [weigh_some, Firing.disposes] at hd
      by_contra hf
      simp_all
    refine ⟨hh, hs, ?_, fun _ => hu, hfa⟩
    simp only [weigh_some, Firing.disposes] at hd ⊢
    simp only [Bool.not_true, Bool.and_false, Bool.toNat_false]
    have := Bool.toNat_le (g.fired && !g.awake)
    omega

/-- The last step of a call shows in the signal. -/
lemma follows_of_step?_inr {g g' : Signal} {f : Firing} {won : Bool}
    (h : f.step? g = some (g', .inr won)) : g.Follows (some f) g' none := by
  obtain ⟨rfl, rfl⟩ := Firing.eq_release_of_step? h
  rintro a b c ⟨hh, hs, hd, haf, hfa⟩
  refine ⟨?_, hs, hd, haf, hfa⟩
  simp only [weigh_some, weigh_none, Firing.holds] at hh ⊢
  have := Bool.toNat_le g.locked
  simp only [Bool.toNat_false]
  omega

/-- Nothing that a signal shows is taken back. -/
structure Keeps (g g' : Signal) : Prop where
  fired : g.fired = true → g'.fired = true
  awake : g.awake = true → g'.awake = true

lemma keeps_of_step? {g g' : Signal} {f : Firing} {next : Firing ⊕ Bool}
    (h : f.step? g = some (g', next)) : g.Keeps g' := by
  cases next with
  | inl f' =>
    cases Firing.turn_of_step? h with
    | store => exact ⟨fun _ => rfl, id⟩
    | dispose => exact ⟨id, fun _ => rfl⟩
    | acquire | take | miss => exact ⟨id, id⟩
  | inr won =>
    obtain ⟨-, rfl⟩ := Firing.eq_release_of_step? h
    exact ⟨id, id⟩

end Signal

/-! ## Calls that record a failure -/

namespace Recording

/-- A call has the lock of the count. -/
def holds : Recording → Nat
  | .acquire => 0
  | _ => 1

/-- The call of `fire` that a call makes. -/
def call? : Recording → Option Firing
  | .firing _ f => some f
  | _ => none

variable {l l' : Ledger} {r r' : Recording} {answer : UInt64 × Bool}

lemma follows_of_step? (h : r.step? l = some (l', .inl r')) :
    l.signal.Follows r.call? l'.signal r'.call? := by
  cases turn_of_step? h with
  | acquire | increment | pass => exact Signal.follows_rfl _ _
  | reach => exact Signal.follows_acquire _
  | fire step => exact Signal.follows_of_step? step
  | endFiring step => exact Signal.follows_of_step?_inr step

lemma follows_of_step?_inr (h : r.step? l = some (l', .inr answer)) :
    l.signal.Follows r.call? l'.signal none := by
  obtain ⟨⟨count, won, rfl⟩, rfl⟩ := eq_release_of_step? h
  exact Signal.follows_rfl _ _

/-- A step of a call keeps the lock of the count had by the calls that are past taking it. -/
lemma holds_of_step? {a : Nat} (h : r.step? l = some (l', .inl r'))
    (hl : a + r.holds = l.locked.toNat) : a + r'.holds = l'.locked.toNat := by
  cases turn_of_step? h with
  | acquire free => simp_all [holds]
  | increment | reach | pass | fire | endFiring => exact hl

lemma holds_of_step?_inr {a : Nat} (h : r.step? l = some (l', .inr answer))
    (hl : a + r.holds = l.locked.toNat) : a = l'.locked.toNat := by
  obtain ⟨⟨count, won, rfl⟩, rfl⟩ := eq_release_of_step? h
  have := Bool.toNat_le l.locked
  simp only [holds] at hl
  simp only [Bool.toNat_false]
  omega

end Recording

/-- The call of `fire` that a worker makes, in a task or to record a failure. -/
def Worker.call? : Worker → Option Firing
  | .firing _ _ f => some f
  | .recording r => r.call?
  | _ => none

/-- A worker has the lock of the ledger. -/
def Worker.holdsLedger : Worker → Nat
  | .recording r => r.holds
  | _ => 0

/-- The call of `fire` that the starter makes. -/
def Starter.call? : Starter → Option Firing
  | .aborting _ f => some f
  | _ => none

namespace Crew

variable {p : Plan} {s t : Crew}

/-- A number for every call of `fire` that is under way, added up. -/
def calling (f : Firing → Nat) (s : Crew) : Nat :=
  weigh f s.starter.call? + total (fun w => weigh f w.call?) s.workers
    + total (weigh f) s.outsiders

/-- The locks are had by exactly the threads that are past taking them, and the signal shows what
the calls on it do. -/
structure Locked (s : Crew) : Prop where
  signal : s.ledger.signal.Agrees (s.calling Firing.holds) (s.calling Firing.stores)
    (s.calling Firing.disposes)
  ledger : total Worker.holdsLedger s.workers = s.ledger.locked.toNat

/-- One thread passes on, and all others stand still. -/
lemma Locked.of_follows (h : s.Locked) (call call' : Option Firing)
    (calling : ∀ f, t.calling f + weigh f call = s.calling f + weigh f call')
    (signal : s.ledger.signal.Follows call t.ledger.signal call')
    (ledger : total Worker.holdsLedger t.workers = t.ledger.locked.toNat)
    (le : ∀ f, weigh f call ≤ s.calling f) : t.Locked := by
  refine ⟨?_, ledger⟩
  have step := signal (s.calling Firing.holds - weigh Firing.holds call)
    (s.calling Firing.stores - weigh Firing.stores call)
    (s.calling Firing.disposes - weigh Firing.disposes call)
  have split (f : Firing → Nat) : s.calling f - weigh f call + weigh f call = s.calling f :=
    Nat.sub_add_cancel (le f)
  have moved (f : Firing → Nat) : s.calling f - weigh f call + weigh f call' = t.calling f := by
    have := calling f
    have := le f
    omega
  simp only [split, moved] at step
  exact step h.signal

lemma WorkerTurn.follows {k : Nat} {w w' : Worker} {s' : Crew} (h : WorkerTurn p k s w w' s') :
    s.ledger.signal.Follows w.call? s'.ledger.signal w'.call? := by
  cases h
  case beginFiring => exact Signal.follows_acquire _
  case fire step => exact Signal.follows_of_step? step
  case endFiring step => exact Signal.follows_of_step?_inr step
  case fail => exact Signal.follows_rfl _ _
  case record step _ _ => exact Recording.follows_of_step? step
  case endRecording step => exact Recording.follows_of_step?_inr step
  case finish e _ _ => cases e <;> exact Signal.follows_rfl _ _
  all_goals exact Signal.follows_rfl _ _

lemma WorkerTurn.holdsLedger {k a : Nat} {w w' : Worker} {s' : Crew}
    (h : WorkerTurn p k s w w' s') (hl : a + w.holdsLedger = s.ledger.locked.toNat) :
    a + w'.holdsLedger = s'.ledger.locked.toNat := by
  cases h
  case record step _ _ => exact Recording.holds_of_step? step hl
  case endRecording step => exact Recording.holds_of_step?_inr step hl
  case finish e _ _ => cases e <;> exact hl
  all_goals exact hl

lemma Locked.worker {k : Nat} {w w' : Worker} {s' : Crew} (h : s.Locked)
    (place : s.workers[k]? = some w) (turn : WorkerTurn p k s w w' s') :
    (s'.setWorker k w').Locked := by
  have workers := turn.setWorker_workers
  have mem := List.mem_of_getElem? place
  refine h.of_follows w.call? w'.call? ?_ turn.follows ?_ ?_
  · intro f
    have := total_set (fun w => weigh f w.call?) w' place
    simp only [calling, workers]
    simp only [setWorker, turn.starter_eq, turn.outsiders_eq]
    omega
  · have hs := total_set Worker.holdsLedger w' place
    have hl := le_total_of_mem Worker.holdsLedger mem
    have := turn.holdsLedger (a := total Worker.holdsLedger s.workers - w.holdsLedger)
      (by rw [Nat.sub_add_cancel hl, h.ledger])
    rw [workers]
    show _ = s'.ledger.locked.toNat
    omega
  · intro f
    have := le_total_of_mem (fun w => weigh f w.call?) mem
    simp only [calling]
    omega

lemma StarterTurn.follows {c : Choice} {q q' : Starter} {s' : Crew}
    (h : StarterTurn p s c q q' s') :
    s.ledger.signal.Follows q.call? s'.ledger.signal q'.call? := by
  cases h
  case close => exact Signal.follows_acquire _
  case fire step => exact Signal.follows_of_step? step
  case endFiring step => exact Signal.follows_of_step?_inr step
  all_goals exact Signal.follows_rfl _ _

/-- The starter adds workers that begin, and touches no others. -/
lemma StarterTurn.total_workers {c : Choice} {q q' : Starter} {s' : Crew}
    (h : StarterTurn p s c q q' s') (f : Worker → Nat) (entering : f .entering = 0) :
    total f s'.workers = total f s.workers := by
  cases h
  case startWorker => simp [total_append, total, entering]
  all_goals rfl

lemma StarterTurn.locked_eq {c : Choice} {q q' : Starter} {s' : Crew}
    (h : StarterTurn p s c q q' s') : s'.ledger.locked = s.ledger.locked := by
  cases h <;> rfl

lemma Locked.starter {c : Choice} {q q' : Starter} {s' : Crew} (h : s.Locked)
    (place : s.starter = q) (turn : StarterTurn p s c q q' s') : (s'.setStarter q').Locked := by
  refine h.of_follows q.call? q'.call? ?_ turn.follows ?_ ?_
  · intro f
    have := turn.total_workers (fun w => weigh f w.call?) rfl
    simp only [calling, setStarter, this, turn.outsiders_eq, place]
    omega
  · show total _ s'.workers = s'.ledger.locked.toNat
    rw [turn.total_workers _ rfl, turn.locked_eq, h.ledger]
  · intro f
    simp only [calling, place]
    omega

lemma Locked.producer {q q' : Producer} {s' : Crew} (h : s.Locked)
    (turn : ProducerTurn p s q q' s') : (s'.setProducer q').Locked := by
  refine h.of_follows none none ?_ ?_ ?_ ?_
  · intro f
    simp only [calling, setProducer, turn.workers_eq, turn.starter_eq, turn.outsiders_eq]
  · show Signal.Follows _ _ s'.ledger.signal _
    rw [turn.ledger_eq]
    exact Signal.follows_rfl _ _
  · show total _ s'.workers = s'.ledger.locked.toNat
    rw [turn.workers_eq, turn.ledger_eq, h.ledger]
  · exact fun f => Nat.zero_le _

lemma Locked.outsider {k : Nat} {f : Firing} {f' : Option Firing} {s' : Crew} (h : s.Locked)
    (place : s.outsiders[k]? = some (some f)) (turn : OutsiderTurn s f f' s') :
    (s'.setOutsider k f').Locked := by
  have le (g : Firing → Nat) : weigh g (some f) ≤ s.calling g := by
    have := le_total_of_mem (weigh g) (List.mem_of_getElem? place)
    simp only [calling]
    omega
  have moved (g : Firing → Nat) := total_set (weigh g) f' place
  cases turn with
  | fire step =>
    refine h.of_follows (some f) _ (fun g => ?_) (Signal.follows_of_step? step) h.ledger le
    have := moved g
    simp only [calling, setOutsider, withSignal]
    omega
  | endFiring step =>
    refine h.of_follows (some f) _ (fun g => ?_) (Signal.follows_of_step?_inr step) h.ledger le
    have := moved g
    simp only [calling, setOutsider, withSignal]
    omega

theorem Locked.turn {m : Move} (h : s.Locked) (turn : Turn p s m t) : t.Locked := by
  cases turn with
  | worker place turn => exact h.worker place turn
  | producer place turn => exact h.producer turn
  | starter place turn => exact h.starter place turn
  | outsider place turn => exact h.outsider place turn

lemma locked_begin (p : Plan) (outsiders : Nat) : (p.begin outsiders).Locked := by
  have none (f : Firing → Nat) (hf : f .acquire = 0) : (p.begin outsiders).calling f = 0 := by
    have : total (weigh f) (List.replicate outsiders (some .acquire)) = 0 :=
      total_eq_zero fun a ha => by rw [List.eq_of_mem_replicate ha, weigh_some, hf]
    simp [calling, Plan.begin, Crew.begin, Starter.call?, total, this]
  refine ⟨?_, rfl⟩
  rw [none _ rfl, none _ rfl, none _ rfl]
  exact ⟨rfl, rfl, rfl, by simp [Plan.begin, Crew.begin], by simp [Plan.begin, Crew.begin]⟩

/-- Every state that a run reaches is locked. -/
theorem locked_of_reaches {kind : Move → Prop} {outsiders : Nat}
    (h : ReachesBy p kind (p.begin outsiders) s) : s.Locked :=
  h.invariant (locked_begin p outsiders) fun _ _ turn hu => hu.turn turn

lemma calling_add_le {f g h : Firing → Nat} (s : Crew) (le : ∀ x, f x + g x ≤ h x) :
    s.calling f + s.calling g ≤ s.calling h := by
  have weighed (call : Option Firing) : weigh f call + weigh g call ≤ weigh h call := by
    cases call with
    | none => exact Nat.le_refl _
    | some x => exact le x
  have starter := weighed s.starter.call?
  have workers : total _ s.workers ≤ total _ s.workers := total_le_total fun w _ => weighed w.call?
  have outsiders : total _ s.outsiders ≤ total _ s.outsiders :=
    total_le_total fun call _ => weighed call
  rw [total_add] at workers outsiders
  simp only [calling]
  omega

/-- A call that has the lock and finds no token finds the flag set. -/
lemma Locked.fired_of_takes (h : s.Locked) (takes : 0 < s.calling Firing.takes)
    (unarmed : s.ledger.signal.armed = false) : s.ledger.signal.fired = true := by
  by_contra unfired
  rw [Bool.not_eq_true] at unfired
  have one : s.calling Firing.stores = 1 := by
    rw [h.signal.storing_eq, unarmed, unfired]
    rfl
  have both := s.calling_add_le Firing.stores_add_takes_le
  have locked := h.signal.holding_eq
  have := Bool.toNat_le s.ledger.signal.locked
  omega

/-- A worker that is about to look for the token is a call that has the lock. -/
lemma calling_takes_pos {w : Worker} (mem : w ∈ s.workers) (take : w.call? = some .take) :
    0 < s.calling Firing.takes := by
  have takes := le_total_of_mem (fun w => weigh Firing.takes w.call?) mem
  simp only [take, weigh_some, Firing.takes] at takes
  rw [calling]
  omega

/-- A worker that finds no token finds the flag set. -/
lemma Locked.fired_of_take (h : s.Locked) {w : Worker} (mem : w ∈ s.workers)
    (take : w.call? = some .take) (unarmed : s.ledger.signal.armed = false) :
    s.ledger.signal.fired = true :=
  h.fired_of_takes (calling_takes_pos mem take) unarmed

end Crew

end TaskCrew
