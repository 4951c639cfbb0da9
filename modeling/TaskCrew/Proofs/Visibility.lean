import TaskCrew.Proofs.Winner
import TaskCrew.Signal.Session

/-!
# When a fired signal can be seen

A call that fires a signal sets the flag and then wakes the listeners, with the lock from before it takes
the token until after both. So a call that finds the token gone does not return before all of this is done,
whoever took it.

* `Signal.Use`, `Signal.Audience` — threads that fire a signal, look at its flag, make listeners and look at
  them;
* `Signal.IsVisible` — the flag is set and listeners are awake;
* `Firing.Sees`, `Signal.Reply.Sees` — what a call, and a thread that was answered, can be sure of;
* `Worker.Sees`, `sees_of_reaches` — what a worker can be sure of that records a failure;
* `fired_signal_is_seen` — whoever is back from firing the signal has everybody see it, and so has a worker
  that is back from recording a failure with the limit reached.
-/

namespace TaskCrew

/-! ## What a call of `fire` can be sure of -/

/-- Whoever looks at the flag finds it set, and whoever listens is awake. -/
structure Signal.IsVisible (g : Signal) : Prop where
  fired : g.fired = true
  awake : g.awake = true

lemma Signal.IsVisible.mono {g g' : Signal} (h : g.IsVisible) (keeps : g.Keeps g') : g'.IsVisible :=
  ⟨keeps.fired h.fired, keeps.awake h.awake⟩

/-- If nobody is on the way from taking the token to waking the listeners, a signal without its token is
visible. -/
lemma Signal.Agrees.isVisible {g : Signal} {holding storing disposing : Nat}
    (h : g.Agrees holding storing disposing) (unstored : storing = 0) (undisposed : disposing = 0)
    (unarmed : g.armed = false) : g.IsVisible := by
  have storing_eq := h.storing_eq
  have disposing_eq := h.disposing_eq
  rw [unstored, unarmed] at storing_eq
  have fired : g.fired = true := by
    cases fired : g.fired with
    | true => rfl
    | false => simp [fired] at storing_eq
  rw [undisposed, fired] at disposing_eq
  cases awake : g.awake with
  | true => exact ⟨fired, awake⟩
  | false => simp [awake] at disposing_eq

namespace Firing

variable {g g' : Signal} {f f' : Firing}

/-- A call that set the flag, or is about to return, can be sure of what it and the call before it did. -/
def Sees (g : Signal) : Firing → Prop
  | .dispose => g.fired = true
  | .release _ => g.IsVisible
  | _ => True

lemma Sees.mono (h : f.Sees g) (keeps : g.Keeps g') : f.Sees g' := by
  cases f with
  | acquire | take | store => trivial
  | dispose => exact keeps.fired h
  | release won => exact Signal.IsVisible.mono h keeps

/-- A call goes on to be sure if a token that it finds gone is one that was disposed of. -/
lemma Turn.sees (h : f.Turn g g' f') (sees : f.Sees g)
    (complete : f = .take → g.armed = false → g.IsVisible) : f'.Sees g' := by
  cases h with
  | acquire free | take armed => trivial
  | miss unarmed => exact complete rfl unarmed
  | store => rfl
  | dispose => exact ⟨sees, rfl⟩

lemma takes_add_stores_add_disposes_le (f : Firing) : f.takes + f.stores + f.disposes ≤ f.holds := by
  cases f <;> simp [takes, stores, disposes, holds]

end Firing

/-! ## Threads that use a signal -/

namespace Signal

/-- What a thread does with a signal, by its next step. -/
inductive Use
  | call (c : Call)
  /-- It makes a listener. -/
  | listen
  /-- It looks whether a listener is awake that was made. -/
  | poll (listener : Nat)
  deriving DecidableEq

/-- What a thread is answered. -/
inductive Reply
  | answer (a : Answer)
  | response (r : Response)
  deriving DecidableEq

/-- The listener is there, and it is awake. -/
def Session.IsReady (t : Session) (listener : Nat) : Prop :=
  listener < t.listeners ∧ (t.perform .poll).2 = .awake

lemma Session.isReady_iff {t : Session} {listener : Nat} :
    t.IsReady listener ↔ listener < t.listeners ∧ t.signal.awake = true := by
  simp [Session.IsReady, Session.perform]

/-- The next step of a thread. -/
def Use.step? (t : Session) : Use → Option (Session × (Use ⊕ Reply))
  | .call c => (c.step? t.signal).map fun (g, next) => ({ t with signal := g }, next.map .call .answer)
  | .listen => some ((t.perform .listen).1, .inr (.response (t.perform .listen).2))
  | .poll i =>
    if i < t.listeners then some ((t.perform .poll).1, .inr (.response (t.perform .poll).2)) else none

/-- A signal with its listeners and the threads that use it. -/
abbrev Audience : Type :=
  Contention Session Use Reply

namespace Use

/-- The call of `fire` that a thread makes. -/
def call? : Use → Option Firing
  | .call (.fire f) => some f
  | _ => none

/-- A thread has not begun. -/
def IsFresh (use : Use) : Prop :=
  ∀ f, use.call? = some f → f = .acquire

/-- A thread has taken the token. -/
def HasToken (use : Use) : Prop :=
  ∃ f, use.call? = some f ∧ f.hasToken = true

/-- What a thread can be sure of. -/
def Sees (g : Signal) (use : Use) : Prop :=
  ∀ f, use.call? = some f → f.Sees g

end Use

namespace Reply

/-- It is back from firing the signal, and took the token. -/
def won : Reply → Bool
  | .answer (.fired won) => won
  | _ => false

/-- It was told that the flag is unset or that a listener sleeps. -/
def isDenial : Reply → Bool
  | .answer (.flag seen) | .answer (.awake seen) => !seen
  | .response .asleep => true
  | _ => false

/-- What a thread can be sure of that is back from firing the signal. -/
def Sees (g : Signal) (r : Reply) : Prop :=
  ∀ won, r = .answer (.fired won) → g.IsVisible

lemma Sees.mono {r : Reply} {g g' : Signal} (h : r.Sees g) (keeps : g.Keeps g') : r.Sees g' :=
  fun won back => (h won back).mono keeps

end Reply

lemma Use.Sees.mono {use : Use} {g g' : Signal} (h : use.Sees g) (keeps : g.Keeps g') :
    use.Sees g' :=
  fun f call => (h f call).mono keeps

/-- The turns of a thread: where it stood, the signal with its listeners then, and where the thread stands
or what it is answered. -/
inductive Use.Turn (t : Session) : Use → Session → Use ⊕ Reply → Prop
  | fire {f f' : Firing} {g : Signal} (step : f.step? t.signal = some (g, .inl f')) :
    Turn t (.call (.fire f)) { t with signal := g } (.inl (.call (.fire f')))
  | fired {won : Bool} :
    Turn t (.call (.fire (.release won))) { t with signal := { t.signal with locked := false } }
      (.inr (.answer (.fired won)))
  | isFired : Turn t (.call .isFired) t (.inr (.answer (.flag t.signal.fired)))
  | isAwake : Turn t (.call .isAwake) t (.inr (.answer (.awake t.signal.awake)))
  | listen : Turn t .listen { t with listeners := t.listeners + 1 }
      (.inr (.response (.listener t.listeners)))
  | poll {i : Nat} (there : i < t.listeners) :
    Turn t (.poll i) t (.inr (.response (if t.signal.awake then .awake else .asleep)))

variable {use : Use} {o o' : Session} {result : Use ⊕ Reply}

lemma Use.turn_of_step? (h : use.step? o = some (o', result)) : use.Turn o o' result := by
  cases use with
  | call c =>
    simp only [Use.step?, Option.map_eq_some_iff, Prod.mk.injEq, Prod.exists] at h
    obtain ⟨g, next, step, rfl, rfl⟩ := h
    cases c with
    | fire f =>
      simp only [Call.step?, Option.map_eq_some_iff, Prod.mk.injEq, Prod.exists] at step
      obtain ⟨g', next', step, rfl, rfl⟩ := step
      cases next' with
      | inl f' => exact .fire step
      | inr won =>
        obtain ⟨rfl, rfl⟩ := Firing.eq_release_of_step? step
        exact .fired
    | isFired => cases step; exact .isFired
    | isAwake => cases step; exact .isAwake
  | listen => cases h; exact .listen
  | poll i =>
    simp only [Use.step?, Option.ite_none_right_eq_some] at h
    obtain ⟨there, h⟩ := h
    cases h
    exact .poll there

namespace Use

lemma Turn.follows (h : use.Turn o o' result) :
    o.signal.Follows use.call? o'.signal (result.elim call? fun _ => none) := by
  cases h with
  | fire step => exact follows_of_step? step
  | @fired won => exact follows_of_step?_inr (f := .release won) rfl
  | isFired | isAwake | listen | poll => exact follows_rfl _ _

lemma Turn.keeps (h : use.Turn o o' result) : o.signal.Keeps o'.signal := by
  cases h with
  | fire step => exact keeps_of_step? step
  | fired | isFired | isAwake | listen | poll => exact ⟨id, id⟩

/-- A thread takes the token from its place and tells of it when it is back. -/
lemma Turn.tokens (h : use.Turn o o' result) :
    result.elim (fun c => weigh (fun f => f.hasToken.toNat) c.call?) (fun r => r.won.toNat)
        + (!o.signal.armed).toNat =
      weigh (fun f => f.hasToken.toNat) use.call? + (!o'.signal.armed).toNat := by
  cases h with
  | fire step => exact (Firing.turn_of_step? step).hasToken
  | fired | isFired | isAwake | listen | poll => rfl

lemma Turn.sees (h : use.Turn o o' result) (sees : use.Sees o.signal)
    (complete : use.call? = some .take → o.signal.armed = false → o.signal.IsVisible) :
    result.elim (Use.Sees o'.signal) (Reply.Sees o'.signal) := by
  cases h with
  | @fire f f' g step =>
    rintro x ⟨⟩
    exact (Firing.turn_of_step? step).sees (sees f rfl) fun take => complete (congrArg some take)
  | @fired won => exact fun _ _ => IsVisible.mono (sees (.release won) rfl) ⟨id, id⟩
  | isFired | isAwake | listen | poll => exact nofun

/-- Nobody is told of a sleeping listener or an unset flag any more once the signal is visible. -/
lemma Turn.isDenial (h : use.Turn o o' result) (visible : o.signal.IsVisible) :
    result.elim (fun _ => 0) (fun r : Reply => r.isDenial.toNat) = 0 := by
  cases h with
  | fire | fired | listen => rfl
  | isFired => simp [Reply.isDenial, visible.fired]
  | isAwake => simp [Reply.isDenial, visible.awake]
  | poll => simp [Reply.isDenial, visible.awake]

end Use

namespace Audience

/-- Threads that are about to use a new signal. -/
def start (uses : List (List Use)) : Audience :=
  Contention.start {} uses

/-- One state comes from another by steps of any threads in any order. -/
abbrev Reaches : Audience → Audience → Prop :=
  Contention.Reaches Use.step?

variable {uses : List (List Use)} {t u : Audience}

theorem invariant {I : Audience → Prop} (h : Reaches t u) (base : I t)
    (step : ∀ {u : Audience} {k : Nat} {use : Use} {uses : List Use} {replies : List Reply}
      {o : Session} {result : Use ⊕ Reply}, Reaches t u →
      u.callers[k]? = some ⟨use :: uses, replies⟩ → use.Turn u.object o result → I u →
      I ⟨o, u.callers.set k (Contention.resume uses replies result)⟩) : I u := by
  refine h.invariant base ?_
  intro v w reached turn before
  cases turn with
  | mk place step' => exact step reached place (Use.turn_of_step? step') before

/-- No thread has begun. -/
def AllFresh (uses : List (List Use)) : Prop :=
  ∀ us ∈ uses, ∀ use ∈ us, use.IsFresh

/-! ### The lock and the token -/

/-- The signal shows what the calls on it do. -/
def Guarded (t : Audience) : Prop :=
  t.object.signal.Agrees (t.cost fun c => weigh Firing.holds c.call?)
    (t.cost fun c => weigh Firing.stores c.call?) (t.cost fun c => weigh Firing.disposes c.call?)

lemma AllFresh.weigh_eq_zero (fresh : AllFresh uses) {f : Firing → Nat} (zero : f .acquire = 0) :
    ∀ us ∈ uses, ∀ use ∈ us, weigh f use.call? = 0 := by
  intro us hus use mem
  cases call : use.call? with
  | none => rfl
  | some x =>
    rw [fresh us hus use mem x call]
    exact zero

theorem guarded_of_reaches (fresh : AllFresh uses) (h : Reaches (start uses) t) : t.Guarded := by
  refine invariant (I := Guarded) h ?_ ?_
  · have none {f : Firing → Nat} (zero : f .acquire = 0) :
        (start uses).cost (fun use => weigh f use.call?) = 0 :=
      Contention.cost_start_eq_zero _ (fresh.weigh_eq_zero zero)
    rw [Guarded, none rfl, none rfl, none rfl]
    exact ⟨rfl, rfl, rfl, nofun, nofun⟩
  · intro u k use uses replies o result _ place turn before
    exact Contention.agrees_set Use.call? place turn.follows before

/-- A thread that has the lock and finds the token gone finds the signal visible. -/
lemma Guarded.isVisible_of_take (h : t.Guarded) {c : Caller Use Reply} {use : Use} (mem : c ∈ t.callers)
    (mem' : use ∈ c.calls) (take : use.call? = some .take) (unarmed : t.object.signal.armed = false) :
    t.object.signal.IsVisible := by
  have takes := Contention.le_cost_of_mem (fun c => weigh Firing.takes c.call?) mem mem'
  have le : t.cost (fun c => weigh Firing.takes c.call? + weigh Firing.stores c.call?
      + weigh Firing.disposes c.call?) ≤ t.cost fun c => weigh Firing.holds c.call? := by
    refine Contention.cost_le_cost t fun c _ use _ => ?_
    cases use.call? with
    | none => exact Nat.le_refl 0
    | some f => exact f.takes_add_stores_add_disposes_le
  have locked := Bool.toNat_le t.object.signal.locked
  rw [← h.holding_eq] at locked
  rw [Contention.cost_add, Contention.cost_add] at le
  rw [take] at takes
  have one : weigh Firing.takes (some .take) = 1 := rfl
  exact h.isVisible (by omega) (by omega) unarmed

/-- The token is in its place as long as no thread has taken it. -/
theorem tokens_of_reaches (fresh : AllFresh uses) (h : Reaches (start uses) t) :
    t.worth (fun use => weigh (fun f => f.hasToken.toNat) use.call?) (fun r => r.won.toNat) =
      (!t.object.signal.armed).toNat := by
  refine invariant (I := fun t => t.worth (fun use => weigh (fun f => f.hasToken.toNat) use.call?)
    (fun r => r.won.toNat) = (!t.object.signal.armed).toNat) h ?_ ?_
  · exact Contention.worth_start_eq_zero _ _ (fresh.weigh_eq_zero rfl)
  · intro u k use uses replies o result _ place turn before
    have set := Contention.worth_set (fun use : Use => weigh (fun f => f.hasToken.toNat) use.call?)
      (fun r : Reply => r.won.toNat) o result place
    have tokens := turn.tokens
    show _ = (!o.signal.armed).toNat
    omega

/-- Some thread has taken the token. -/
def HasWinner (t : Audience) : Prop :=
  .answer (.fired true) ∈ t.answers ∨ ∃ c ∈ t.callers, ∃ use ∈ c.calls, use.HasToken

lemma hasWinner_of_unarmed (fresh : AllFresh uses) (h : Reaches (start uses) t)
    (unarmed : t.object.signal.armed = false) : t.HasWinner := by
  have pos : 0 < t.worth (fun use => weigh (fun f => f.hasToken.toNat) use.call?)
      (fun r => r.won.toNat) := by
    rw [tokens_of_reaches fresh h, unarmed]
    exact Nat.one_pos
  rcases Contention.exists_of_worth_pos pos with ⟨r, mem, won⟩ | ⟨c, mem, use, mem', token⟩
  · cases r with
    | answer a =>
      cases a with
      | fired won' =>
        cases won' with
        | true => exact .inl mem
        | false => cases won
      | flag | awake => cases won
    | response r => cases won
  · refine .inr ⟨c, mem, use, mem', ?_⟩
    cases call : use.call? with
    | none => simp [call] at token
    | some f =>
      refine ⟨f, call, ?_⟩
      cases took : f.hasToken with
      | true => rfl
      | false => simp [call, took] at token

/-! ### What threads can be sure of -/

lemma keeps_of_reaches (h : Reaches t u) : t.object.signal.Keeps u.object.signal := by
  refine invariant (I := fun u => t.object.signal.Keeps u.object.signal) h ⟨id, id⟩ ?_
  intro v k use uses replies o result _ _ turn before
  exact ⟨turn.keeps.fired ∘ before.fired, turn.keeps.awake ∘ before.awake⟩

theorem sees_of_reaches (fresh : AllFresh uses) (h : Reaches (start uses) t) :
    ∀ c ∈ t.callers, (∀ use ∈ c.calls, use.Sees t.object.signal) ∧
      ∀ r ∈ c.answers, r.Sees t.object.signal := by
  refine h.forall_callers (P := fun o use => use.Sees o.signal) (Q := fun o r => r.Sees o.signal) ?_ ?_
  · intro us hus use mem f call
    rw [fresh us hus use mem f call]
    trivial
  · intro u c use o result reached mem mem' step sees
    have turn := Use.turn_of_step? step
    exact ⟨⟨fun _ h => h.mono turn.keeps, fun _ h => h.mono turn.keeps⟩,
      turn.sees sees ((guarded_of_reaches fresh reached).isVisible_of_take mem mem')⟩

lemma isVisible_of_fired (fresh : AllFresh uses) (h : Reaches (start uses) t) {won : Bool}
    (back : .answer (.fired won) ∈ t.answers) : t.object.signal.IsVisible := by
  obtain ⟨c, mem, answered⟩ := Contention.mem_answers.1 back
  exact (sees_of_reaches fresh h c mem).2 _ answered won rfl

lemma denials_of_reaches (visible : t.object.signal.IsVisible) (h : Reaches t u) :
    u.answers.countP Reply.isDenial = t.answers.countP Reply.isDenial := by
  have none (v : Audience) :
      v.worth (fun _ => 0) (fun r => r.isDenial.toNat) = v.answers.countP Reply.isDenial := by
    have zero : v.cost (fun _ : Use => 0) = 0 := total_eq_zero fun _ _ => total_eq_zero fun _ _ => rfl
    rw [Contention.worth, zero, Nat.zero_add, total_toNat]
  rw [← none, ← none]
  refine invariant (I := fun u => u.worth (fun _ => 0) (fun r => r.isDenial.toNat) =
    t.worth (fun _ => 0) fun r => r.isDenial.toNat) h rfl ?_
  intro v k use uses replies o result reached place turn before
  have set := Contention.worth_set (fun _ : Use => 0) (fun r : Reply => r.isDenial.toNat) o result place
  have silent := turn.isDenial (visible.mono (keeps_of_reaches reached))
  omega

end Audience

end Signal

/-! ## Workers that record failures -/

/-- What a worker can be sure of that records a failure: it knows the count; and if the limit is reached, it
does not give the lock of the ledger back before the signal is visible. -/
def Worker.Sees (l : Ledger) : Worker → Prop
  | .recording (.compare count) => count = l.failures
  | .recording (.firing count f) => count = l.failures ∧ f.Sees l.signal
  | .recording (.release count _) => count = l.failures ∧ (l.limit ≤ count → l.signal.IsVisible)
  | _ => True

lemma Worker.Sees.mono {w : Worker} {l l' : Ledger} (h : w.Sees l) (failures : l'.failures = l.failures)
    (limit : l'.limit = l.limit) (keeps : l.signal.Keeps l'.signal) : w.Sees l' := by
  cases w with
  | recording r =>
    cases r with
    | acquire | increment => trivial
    | compare count => exact h.trans failures.symm
    | firing count f => exact ⟨h.1.trans failures.symm, Firing.Sees.mono h.2 keeps⟩
    | release count won =>
      refine ⟨h.1.trans failures.symm, fun reached => ?_⟩
      rw [limit] at reached
      exact (h.2 reached).mono keeps
  | _ => trivial

namespace Crew

variable {p : Plan} {kind : Move → Prop} {outsiders k : Nat} {w w' : Worker} {s t u s' : Crew}

/-- Only a worker that has the lock of the ledger can be sure of anything. -/
lemma sees_of_holdsLedger_eq_zero (l : Ledger) (h : w.holdsLedger = 0) : w.Sees l := by
  cases w with
  | recording r =>
    cases r with
    | acquire => trivial
    | _ => cases h
  | _ => trivial

lemma WorkerTurn.sees (h : WorkerTurn p k s w w' s') (sees : w.Sees s.ledger)
    (complete : w.call? = some .take → s.ledger.signal.armed = false → s.ledger.signal.IsVisible) :
    w'.Sees s'.ledger := by
  cases h
  case record step _ _ =>
    cases Recording.turn_of_step? step with
    | acquire => trivial
    | increment => rfl
    | reach reached => exact ⟨sees, trivial⟩
    | pass below => exact ⟨sees, fun reached => absurd reached below⟩
    | fire call =>
      refine ⟨sees.1, (Firing.turn_of_step? call).sees sees.2 ?_⟩
      rintro rfl
      exact complete rfl
    | endFiring call =>
      obtain ⟨rfl, rfl⟩ := Firing.eq_release_of_step? call
      exact ⟨sees.1, fun _ => Signal.IsVisible.mono sees.2 ⟨id, id⟩⟩
  case finish e _ _ => cases e <;> trivial
  all_goals trivial

/-- A call that has the lock and finds no token finds the signal visible. -/
lemma Locked.isVisible_of_take (h : s.Locked) (mem : w ∈ s.workers) (take : w.call? = some .take)
    (unarmed : s.ledger.signal.armed = false) : s.ledger.signal.IsVisible := by
  have takes := calling_takes_pos mem take
  have le := s.calling_add_le (f := fun f => f.takes + f.stores)
    Firing.takes_add_stores_add_disposes_le
  have both := s.calling_add_le (f := Firing.takes) (g := Firing.stores) fun _ => Nat.le_refl _
  have locked := Bool.toNat_le s.ledger.signal.locked
  rw [← h.signal.holding_eq] at locked
  exact h.signal.isVisible (by omega) (by omega) unarmed

/-- Whoever records a failure has the signal fired, and sees it, if the limit is reached. -/
theorem sees_of_reaches (h : ReachesBy p kind (p.begin outsiders) s) :
    ∀ w ∈ s.workers, w.Sees s.ledger := by
  refine h.invariant (I := fun s => ∀ w ∈ s.workers, w.Sees s.ledger) nofun ?_
  intro m u v reached _ turn sees
  have limit := turn.limit_eq
  have keeps := turn.keeps
  have locked := locked_of_reaches reached
  cases turn with
  | worker place turn =>
    have mem := List.mem_of_getElem? place
    rw [turn.setWorker_workers]
    exact locked.forall_set (P := fun l w => w.Sees l) sees place turn.failures_eq_or
      (fun _ => sees_of_holdsLedger_eq_zero _) (fun failures _ sees => sees.mono failures limit keeps)
      (turn.sees (sees _ mem) (locked.isVisible_of_take mem))
  | producer place turn =>
    intro w mem
    rw [setProducer, turn.workers_eq] at mem
    rw [setProducer, turn.ledger_eq]
    exact sees w mem
  | starter place turn =>
    intro w mem
    rcases turn.mem_workers mem with mem | rfl
    · exact (sees w mem).mono (by cases turn <;> rfl) limit keeps
    · trivial
  | outsider place turn =>
    intro w mem
    cases turn <;> exact (sees w mem).mono rfl limit keeps

lemma ReachesBy.keeps (h : ReachesBy p kind t u) : t.ledger.signal.Keeps u.ledger.signal := by
  refine h.invariant (I := fun u => t.ledger.signal.Keeps u.ledger.signal) ⟨id, id⟩ ?_
  intro m u v _ _ turn before
  exact ⟨turn.keeps.fired ∘ before.fired, turn.keeps.awake ∘ before.awake⟩

/-- A worker that is back from recording a failure with the limit reached has everybody see the signal. -/
lemma isVisible_of_recorded (h : ReachesBy p kind (p.begin outsiders) s) {r : Recording}
    (place : s.workers[k]? = some (.recording r)) (step : s.step? p ⟨.worker k, .usual⟩ = some t)
    (back : t.workers[k]? = some .checking) (reached : t.ledger.limit ≤ t.ledger.failures) :
    t.ledger.signal.IsVisible := by
  have sees := sees_of_reaches h _ (List.mem_of_getElem? place)
  have bound := (List.getElem?_eq_some_iff.1 place).1
  cases turn_of_step? step with
  | worker place' turn =>
    obtain rfl := Option.some.inj (place.symm.trans place')
    rw [turn.setWorker_workers, List.getElem?_set_self bound] at back
    cases turn with
    | record => cases back
    | endRecording moved =>
      obtain ⟨⟨count, won, rfl⟩, rfl⟩ := Recording.eq_release_of_step? moved
      obtain ⟨rfl, visible⟩ := sees
      exact visible reached

end Crew

/-! ## Everybody sees it -/

open Signal.Audience in
/-- **Whoever is back from firing a signal has everybody see it.** Let any number of threads fire a new
signal, look at its flag, make listeners and look at them, with their steps mixed in any order. No listener
is ever awake before the flag is set, and neither before a thread has taken the token. Once a call of `fire`
is back, whether it took the token or not, the flag is set and every listener is awake, those that are yet
to be made too; that stays so, and no thread is ever told otherwise again. And in every run, once a worker
is back from recording a failure with the limit reached, the signal is visible for good, so whenever the
worker looks at the flag before a task it leaves. -/
theorem fired_signal_is_seen :
    (∀ uses, AllFresh uses → ∀ t, Reaches (start uses) t →
      (∀ i, t.object.IsReady i → t.object.signal.fired = true) ∧
      (∀ won, .answer (.fired won) ∈ t.answers → ∀ u, Reaches t u →
        u.object.signal.fired = true ∧ (∀ i < u.object.listeners, u.object.IsReady i) ∧
          u.answers.countP Signal.Reply.isDenial = t.answers.countP Signal.Reply.isDenial) ∧
      ((t.object.signal.fired = true ∨ ∃ i, t.object.IsReady i) → t.HasWinner)) ∧
    ∀ (p : Plan) (kind : Move → Prop) (outsiders k : Nat) (r : Recording) (s t : Crew),
      Crew.ReachesBy p kind (p.begin outsiders) s → s.workers[k]? = some (.recording r) →
      s.step? p ⟨.worker k, .usual⟩ = some t → t.workers[k]? = some .checking →
      t.ledger.limit ≤ t.ledger.failures → ∀ u, Crew.ReachesBy p kind t u →
        u.ledger.signal.IsVisible ∧ (u.workers[k]? = some .checking →
          u.step? p ⟨.worker k, .usual⟩ =
            some ((u.log (.worker k) (.workerCancelled k)).quit k)) := by
  constructor
  · intro uses fresh t h
    have agrees : t.object.signal.Agrees _ _ _ := guarded_of_reaches fresh h
    have fired_of_ready (i : Nat) (ready : t.object.IsReady i) : t.object.signal.fired = true :=
      agrees.fired_of_awake (Signal.Session.isReady_iff.1 ready).2
    refine ⟨fired_of_ready, ?_, ?_⟩
    · intro won back u onward
      have visible := isVisible_of_fired fresh h back
      have still := visible.mono (keeps_of_reaches onward)
      exact ⟨still.fired, fun i there => Signal.Session.isReady_iff.2 ⟨there, still.awake⟩,
        denials_of_reaches visible onward⟩
    · intro seen
      have fired : t.object.signal.fired = true := by
        obtain fired | ⟨i, ready⟩ := seen
        · exact fired
        · exact fired_of_ready i ready
      exact hasWinner_of_unarmed fresh h (agrees.armed_of_fired fired)
  · intro p kind outsiders k r s t h place step back reached u onward
    have visible := (Crew.isVisible_of_recorded h place step back reached).mono onward.keeps
    refine ⟨visible, fun looks => ?_⟩
    simp [Crew.step?, Crew.workerStep?, looks, visible.fired]

/-- Two threads fire a signal, and a third makes listeners and looks at them and at the flag. -/
def Signal.threeUsers : List (List Signal.Use) :=
  [[.listen, .call (.fire .acquire)], [.call (.fire .acquire)],
    [.poll 0, .call .isFired, .listen, .poll 0, .poll 1]]

/-- All of them are done. -/
def Signal.threeUsersDone : Signal.Audience :=
  Contention.drive Signal.Use.step? 20 (Signal.Audience.start Signal.threeUsers)

/-- The second worker has recorded a failure, which reached the limit, and is about to give the lock back. -/
def Crew.limitRecorded : Crew :=
  Crew.drive .threeTasks 53 (Plan.threeTasks.begin 0)

theorem fired_signal_is_seen_threeUsers :
    (Signal.threeUsersDone.object.IsReady 1 ∧ Signal.threeUsersDone.HasWinner) ∧
      (Crew.limitRecorded.follow .threeTasks [⟨.worker 1, .usual⟩]).ledger.signal.IsVisible := by
  constructor
  · have fresh : Signal.Audience.AllFresh Signal.threeUsers := by
      simp [Signal.Audience.AllFresh, Signal.threeUsers, Signal.Use.IsFresh, Signal.Use.call?]
    obtain ⟨-, seen, winner⟩ := fired_signal_is_seen.1 Signal.threeUsers fresh Signal.threeUsersDone
      (Contention.reaches_drive Signal.Use.step? 20 .refl)
    obtain ⟨fired, ready, -⟩ := seen false (by decide +kernel) _ .refl
    exact ⟨ready 1 (by decide +kernel), winner (.inl fired)⟩
  · have reached : Crew.Reaches .threeTasks (Plan.threeTasks.begin 0) Crew.limitRecorded :=
      Crew.reaches_drive .threeTasks 53 .refl
    have place : Crew.limitRecorded.workers[1]? = some (.recording (.release 1 true)) := by
      decide +kernel
    have step := Crew.step?_eq_some_follow (p := .threeTasks) (s := Crew.limitRecorded)
      (m := ⟨.worker 1, .usual⟩) (by decide +kernel)
    exact (fired_signal_is_seen.2 .threeTasks _ 0 1 _ _ _ reached place step (by decide +kernel)
      (by decide +kernel) _ .refl).1

end TaskCrew
