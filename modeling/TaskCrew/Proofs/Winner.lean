import TaskCrew.Proofs.Calls

/-!
# One call fires the signal of a ledger

Whatever calls threads make on a ledger, one of them takes the token and says so, if there is a reason
to: a call that fires the signal from outside, or the limit.

* `Firing.hasToken`, `Recording.hasToken`, `Call.hasToken` — a call has taken the token;
* `tokens_of_reaches`, `decided_of_reaches` — the token is in its place as long as nobody has taken it,
  and nobody passes by it once the limit is reached;
* `Call.Tells`, `Answer.Tells`, `tells_of_reaches` — what a call and its answer say about the token;
* `Contest.OutsideWon` — a call of `fire` from outside took the token;
* `contest_has_one_winner` — one call wins, and which one, with all that holds of the threads.

A call that records a failure knows the count as long as it has the lock of the ledger, so the call that
reaches the limit looks for the token before anybody counts on. If it finds the token gone, a call from
outside has taken it, for no other call has its count.
-/

namespace TaskCrew

/-! ## The token -/

namespace Firing

/-- A call has taken the token. -/
def hasToken : Firing → Bool
  | .store | .dispose => true
  | .release won => won
  | .acquire | .take => false

/-- A call has looked for the token. -/
def hasLooked : Firing → Bool
  | .store | .dispose | .release _ => true
  | .acquire | .take => false

variable {g g' : Signal} {f f' : Firing}

/-- A call takes the token from its place. -/
lemma Turn.hasToken (h : f.Turn g g' f') :
    f'.hasToken.toNat + (!g.armed).toNat = f.hasToken.toNat + (!g'.armed).toNat := by
  cases h with
  | acquire | store | dispose => rfl
  | take armed => simp [Firing.hasToken, armed]
  | miss unarmed => simp [Firing.hasToken, unarmed]

/-- A call that has looked for the token has taken it, or found it gone. -/
lemma Turn.unarmed (h : f.Turn g g' f') (before : f.hasLooked = true → g.armed = false)
    (looked : f'.hasLooked = true) : g'.armed = false := by
  cases h with
  | acquire free => cases looked
  | take armed => rfl
  | miss unarmed => exact unarmed
  | store | dispose => exact before rfl

lemma Turn.armed_mono (h : f.Turn g g' f') (unarmed : g.armed = false) : g'.armed = false := by
  cases h with
  | take armed => rfl
  | acquire | miss | store | dispose => exact unarmed

end Firing

namespace Recording

/-- The call of `fire` that a call makes has taken the token. -/
def hasToken : Recording → Bool
  | .firing _ f => f.hasToken
  | .release _ won => won
  | _ => false

/-- A call has counted its failure and not yet looked for the token. -/
def decides : Recording → Nat
  | .compare _ | .firing _ .acquire | .firing _ .take => 1
  | _ => 0

lemma decides_le_holds (r : Recording) : r.decides ≤ r.holds := by
  cases r with
  | firing count f => cases f <;> simp [decides, holds]
  | _ => simp [decides, holds]

variable {l l' : Ledger} {r r' : Recording}

lemma Turn.hasToken (h : r.Turn l l' r') :
    r'.hasToken.toNat + (!l.signal.armed).toNat = r.hasToken.toNat + (!l'.signal.armed).toNat := by
  cases h with
  | acquire | increment | reach | pass => rfl
  | fire step => exact (Firing.turn_of_step? step).hasToken
  | endFiring step =>
    obtain ⟨rfl, rfl⟩ := Firing.eq_release_of_step? step
    rfl

lemma Turn.armed_mono (h : r.Turn l l' r') (unarmed : l.signal.armed = false) :
    l'.signal.armed = false := by
  cases h with
  | acquire | increment | reach | pass => exact unarmed
  | fire step => exact (Firing.turn_of_step? step).armed_mono unarmed
  | endFiring step =>
    obtain ⟨-, rfl⟩ := Firing.eq_release_of_step? step
    exact unarmed

end Recording

namespace Ledger

variable {l l' : Ledger} {call : Call} {result : Call ⊕ Answer}

namespace Call

/-- A call fires the signal from outside. -/
def isFiring : Call → Bool
  | .signal (.fire _) => true
  | _ => false

/-- A call has taken the token, itself or by the call of `fire` that it makes. -/
def hasToken : Call → Bool
  | .record r => r.hasToken
  | .signal (.fire f) => f.hasToken
  | _ => false

/-- A call has counted its failure and not yet looked for the token. -/
abbrev decides : Call → Nat :=
  value Recording.decides fun _ => 0

lemma Turn.armed_mono (h : call.Turn l l' result) (unarmed : l.signal.armed = false) :
    l'.signal.armed = false := by
  cases h with
  | record turn => exact turn.armed_mono unarmed
  | fire step => exact (Firing.turn_of_step? step).armed_mono unarmed
  | _ => exact unarmed

/-- A call takes the token from its place and tells of it when it returns. -/
lemma Turn.tokens (h : call.Turn l l' result) :
    result.elim (fun c => c.hasToken.toNat) (fun a => a.won.toNat) + (!l.signal.armed).toNat =
      call.hasToken.toNat + (!l'.signal.armed).toNat := by
  cases h with
  | record turn => exact turn.hasToken
  | fire step => exact (Firing.turn_of_step? step).hasToken
  | _ => rfl

/-- A call that counts a failure has to look for the token, and it does so unless the count is below the
limit. -/
lemma Turn.decides (h : call.Turn l l' result) (knows : call.Knows l)
    (armed : l'.signal.armed = true) :
    l'.failures.toNat < l.limit.toNat ∨
      l'.failures.toNat + call.decides ≤ l.failures.toNat + result.elim Call.decides fun _ => 0 := by
  cases h with
  | record turn =>
    cases turn with
    | acquire | reach => exact .inr (Nat.le_refl _)
    | increment =>
      refine .inr ?_
      show (l.failures + 1).toNat ≤ l.failures.toNat + 1
      rw [UInt64.toNat_add]
      exact Nat.mod_le _ _
    | pass below =>
      rw [show _ = l.failures from knows, UInt64.le_iff_toNat_le] at below
      exact .inl (Nat.not_le.1 below)
    | fire step =>
      cases Firing.turn_of_step? step with
      | take => cases armed
      | acquire | store | dispose => exact .inr (Nat.le_refl _)
      | miss unarmed => exact absurd (unarmed.symm.trans armed) (by simp)
    | endFiring step =>
      obtain ⟨rfl, rfl⟩ := Firing.eq_release_of_step? step
      exact .inr (Nat.le_refl _)
  | _ => exact .inr (Nat.le_refl _)

end Call

/-! ## What calls say about the token -/

/-- A number for an answer, given numbers for answers to calls that record a failure and to calls of
`fire`. -/
def Answer.value (f : UInt64 → Bool → Nat) (g : Bool → Nat) : Answer → Nat
  | .recorded count won => f count won
  | .signal (.fired won) => g won
  | _ => 0

/-- What whoever has recorded a failure says about the token: it has taken it only if its count is the
limit; and it has not looked for it only if its count is below the limit. -/
def Tells (l : Ledger) (count : UInt64) (won : Bool) : Prop :=
  (won = true → count = l.limit) ∧ (count < l.limit ∨ l.signal.armed = false)

/-- What a call says about the token. -/
def Call.Tells (l : Ledger) : Call → Prop
  | .record (.firing count f) =>
    (f.hasToken = true → count = l.limit) ∧ (f.hasLooked = true → l.signal.armed = false)
  | .record (.release count won) => Ledger.Tells l count won
  | .signal (.fire f) => f.hasLooked = true → l.signal.armed = false
  | _ => True

/-- What an answer says about the token. -/
def Answer.Tells (l : Ledger) : Answer → Prop
  | .recorded count won => Ledger.Tells l count won
  | .signal (.fired _) => l.signal.armed = false
  | _ => True

lemma Tells.mono {count : UInt64} {won : Bool} (h : l.Tells count won) (limit : l'.limit = l.limit)
    (armed : l.signal.armed = false → l'.signal.armed = false) : l'.Tells count won := by
  rw [Tells, limit]
  exact ⟨h.1, h.2.imp id armed⟩

lemma Call.Tells.mono (h : call.Tells l) (limit : l'.limit = l.limit)
    (armed : l.signal.armed = false → l'.signal.armed = false) : call.Tells l' := by
  cases call with
  | record r =>
    cases r with
    | firing count f => exact ⟨fun token => (h.1 token).trans limit.symm, fun looked => armed (h.2 looked)⟩
    | release count won => exact Ledger.Tells.mono h limit armed
    | _ => trivial
  | signal c =>
    cases c with
    | fire f => exact fun looked => armed (h looked)
    | _ => trivial
  | _ => trivial

lemma Answer.Tells.mono {a : Answer} (h : a.Tells l) (limit : l'.limit = l.limit)
    (armed : l.signal.armed = false → l'.signal.armed = false) : a.Tells l' := by
  cases a with
  | recorded count won => exact Ledger.Tells.mono h limit armed
  | signal a =>
    cases a with
    | fired won => exact armed h
    | _ => trivial
  | _ => trivial

lemma Tells.le {count : UInt64} {won : Bool} (h : l.Tells count won) :
    won.toNat + (count == l.limit && !won).toNat ≤ (count.toNat == l.limit.toNat).toNat := by
  cases won with
  | true => simp [h.1 rfl]
  | false =>
    by_cases eq : count = l.limit
    · simp [eq]
    · simp [beq_eq_false_iff_ne.2 eq]

/-- A call that took the token to record a failure has the count of the limit. -/
lemma Call.Tells.value_le (h : call.Tells l) :
    call.value (fun r => r.hasToken.toNat) (fun _ => 0) ≤
      weigh (fun n => (n == l.limit.toNat).toNat) call.count? := by
  cases call with
  | record r =>
    cases r with
    | firing count f =>
      show f.hasToken.toNat ≤ (count.toNat == l.limit.toNat).toNat
      cases token : f.hasToken with
      | true => simp [h.1 token]
      | false => exact Nat.zero_le _
    | release count won => exact Nat.le_trans (Nat.le_add_right _ _) (Ledger.Tells.le h)
    | _ => exact Nat.zero_le _
  | signal c => cases c <;> exact Nat.zero_le _
  | failures | limitReached => exact Nat.zero_le _

/-- So has a call that returned, and one that found the token gone at the limit. -/
lemma Answer.Tells.value_le {a : Answer} (h : a.Tells l) :
    a.value (fun count won => won.toNat + (count == l.limit && !won).toNat) (fun _ => 0) ≤
      weigh (fun n => (n == l.limit.toNat).toNat) a.count? := by
  cases a with
  | recorded count won => exact Ledger.Tells.le h
  | signal a => cases a <;> exact Nat.zero_le _
  | failures | limitReached => exact Nat.zero_le _

lemma Call.tells_of_isFresh (l : Ledger) (fresh : call.IsFresh) : call.Tells l := by
  cases call with
  | record r => rw [show r = .acquire from fresh]; trivial
  | signal c =>
    cases c with
    | fire f => rw [show f = .acquire from fresh]; exact nofun
    | _ => trivial
  | _ => trivial

/-- A call says the truth about the token if whoever takes it to record a failure has the count of the
limit. -/
lemma Call.Turn.tells (h : call.Turn l l' result) (tells : call.Tells l)
    (wins : ∀ count, call = .record (.firing count .take) → l.signal.armed = true →
      count = l.limit) :
    result.elim (Call.Tells l') (Answer.Tells l') := by
  cases h with
  | record turn =>
    cases turn with
    | acquire | increment => trivial
    | reach reached => exact ⟨nofun, nofun⟩
    | pass below => exact ⟨nofun, .inl (UInt64.not_le.1 below)⟩
    | @fire count f f' g step =>
      have turn := Firing.turn_of_step? step
      refine ⟨?_, turn.unarmed tells.2⟩
      intro token
      cases turn with
      | acquire | miss => cases token
      | take armed => exact wins count rfl armed
      | store | dispose => exact tells.1 rfl
    | endFiring step =>
      obtain ⟨rfl, rfl⟩ := Firing.eq_release_of_step? step
      exact ⟨tells.1, .inr (tells.2 rfl)⟩
  | recorded => exact tells
  | fire step => exact (Firing.turn_of_step? step).unarmed tells
  | fired => exact tells rfl
  | isFired | isAwake | failures | limitReached => trivial

/-! ## Who takes the token -/

namespace Contest

variable {m : UInt64} {calls : List (List Call)} {t u : Contest}

/-- The token is in its place as long as no call has taken it. -/
theorem tokens_of_reaches (fresh : AllFresh calls) (h : Reaches (start m calls) t) :
    t.worth (fun c => c.hasToken.toNat) (fun a => a.won.toNat) = (!t.object.signal.armed).toNat := by
  refine invariant (I := fun t => t.worth (fun c => c.hasToken.toNat) (fun a => a.won.toNat) =
    (!t.object.signal.armed).toNat) h ?_ ?_
  · refine Contention.worth_start_eq_zero _ _ fun cs hcs call mem => ?_
    have fresh := fresh cs hcs call mem
    cases call with
    | record r => rw [show r = .acquire from fresh]; rfl
    | signal c =>
      cases c with
      | fire f => rw [show f = .acquire from fresh]; rfl
      | _ => rfl
    | _ => rfl
  · intro u k call calls answers l result _ place turn before
    have set := Contention.worth_set (fun c : Call => c.hasToken.toNat)
      (fun a : Answer => a.won.toNat) l result place
    have tokens := turn.tokens
    show _ = (!l.signal.armed).toNat
    omega

/-- A call of `fire` from outside returns once. -/
lemma firings_of_reaches (h : Reaches (start m calls) t) :
    t.worth (fun c => c.isFiring.toNat) (Answer.value (fun _ _ => 0) fun _ => 1) =
      calls.flatten.countP Call.isFiring := by
  refine invariant (I := fun t => t.worth _ _ = calls.flatten.countP Call.isFiring) h ?_ ?_
  · rw [start, Contention.worth_start, total_toNat]
  · intro u k call calls' answers l result _ place turn before
    have set := Contention.worth_set (fun c : Call => c.isFiring.toNat)
      (Answer.value (fun _ _ => 0) fun _ => 1) l result place
    have still : result.elim (fun c => c.isFiring.toNat) (Answer.value (fun _ _ => 0) fun _ => 1) =
        call.isFiring.toNat := by cases turn <;> rfl
    omega

/-- As long as the token is in its place, the count is below the limit, or the call that reached it is
about to look for the token. -/
theorem decided_of_reaches (positive : 0 < m) (fresh : AllFresh calls)
    (h : Reaches (start m calls) t) (armed : t.object.signal.armed = true) :
    t.object.failures.toNat + 1 ≤ m.toNat + t.cost Call.decides := by
  refine invariant (I := fun t => t.object.signal.armed = true →
    t.object.failures.toNat + 1 ≤ m.toNat + t.cost _) h ?_ ?_ armed
  · intro _
    have least := UInt64.lt_iff_toNat_lt.1 positive
    exact Nat.le_trans least (Nat.le_add_right _ _)
  · intro u k call calls answers l result reached place turn before armed
    have armed_before : u.object.signal.armed = true := by
      by_contra unarmed
      have unarmed : l.signal.armed = false := turn.armed_mono (by simpa using unarmed)
      rw [show l.signal.armed = true from armed] at unarmed
      cases unarmed
    have bound := before armed_before
    have set := Contention.cost_set Call.decides l result place
    have knows := knows_of_reaches fresh reached _ (List.mem_of_getElem? place) call List.mem_cons_self
    have step := turn.decides knows armed
    rw [limit_of_reaches reached] at step
    show l.failures.toNat + 1 ≤ _
    omega

/-- A call that takes the token to record a failure has the count of the limit. -/
lemma eq_limit_of_take (positive : 0 < m) (fresh : AllFresh calls) (h : Reaches (start m calls) t)
    {c : Caller Call Answer} {count : UInt64} (mem : c ∈ t.callers)
    (take : .record (.firing count .take) ∈ c.calls) (armed : t.object.signal.armed = true) :
    count = t.object.limit := by
  have guarded := guarded_of_reaches fresh h
  obtain ⟨knows, reached⟩ := knows_of_reaches fresh h c mem _ take
  have decided := decided_of_reaches positive fresh h armed
  have le : t.cost Call.decides ≤ t.cost Call.holdsLedger := by
    refine Contention.cost_le_cost t fun c _ call _ => ?_
    cases call with
    | record r => exact r.decides_le_holds
    | signal c => cases c <;> exact Nat.le_refl _
    | _ => exact Nat.le_refl _
  have one := Bool.toNat_le t.object.locked
  rw [← guarded.ledger] at one
  rw [limit_of_reaches h, UInt64.le_iff_toNat_le] at reached
  rw [limit_of_reaches h, ← UInt64.toNat_inj]
  have same := congrArg UInt64.toNat knows
  omega

/-- All that calls and answers say about the token is true. -/
theorem tells_of_reaches (positive : 0 < m) (fresh : AllFresh calls)
    (h : Reaches (start m calls) t) :
    ∀ c ∈ t.callers, (∀ call ∈ c.calls, call.Tells t.object) ∧ ∀ a ∈ c.answers, a.Tells t.object := by
  refine h.forall_callers (P := fun l call => call.Tells l) (Q := fun l a => a.Tells l)
    (fun cs hcs call mem => Call.tells_of_isFresh _ (fresh cs hcs call mem)) ?_
  intro u c call l result reached mem mem' step tells
  have turn := Call.turn_of_step? step
  refine ⟨⟨fun x hx => hx.mono turn.limit_eq turn.armed_mono,
    fun a ha => ha.mono turn.limit_eq turn.armed_mono⟩, turn.tells tells ?_⟩
  rintro count rfl armed
  exact eq_limit_of_take positive fresh reached mem mem' armed

/-- An answer tells the truth about the token. -/
lemma tells_of_mem_answers (positive : 0 < m) (fresh : AllFresh calls)
    (h : Reaches (start m calls) t) {a : Answer} (mem : a ∈ t.answers) : a.Tells t.object := by
  obtain ⟨c, hc, ha⟩ := Contention.mem_answers.1 mem
  exact (tells_of_reaches positive fresh h c hc).2 a ha

/-! ## One call wins -/

/-- A call of `fire` from outside has taken the token. -/
def OutsideWon (t : Contest) : Prop :=
  .signal (.fired true) ∈ t.answers ∨
    ∃ c ∈ t.callers, ∃ f : Firing, f.hasToken = true ∧ .signal (.fire f) ∈ c.calls

/-- The tokens taken by calls from outside. -/
def outsideTokens (t : Contest) : Nat :=
  t.worth (Call.value (fun _ => 0) fun f => f.hasToken.toNat)
    (Answer.value (fun _ _ => 0) Bool.toNat)

/-- The tokens taken by calls that record a failure. -/
def recordingTokens (t : Contest) : Nat :=
  t.worth (Call.value (fun r => r.hasToken.toNat) fun _ => 0)
    (Answer.value (fun _ won => won.toNat) fun _ => 0)

/-- Together they took the token, if it is not in its place. -/
lemma tokens_add (fresh : AllFresh calls) (h : Reaches (start m calls) t) :
    t.recordingTokens + t.outsideTokens = (!t.object.signal.armed).toNat := by
  rw [← tokens_of_reaches fresh h, recordingTokens, outsideTokens, ← Contention.worth_add]
  congr 1
  · funext call
    cases call with
    | record r => rfl
    | signal c => cases c <;> simp [Call.value, Call.hasToken]
    | failures | limitReached => rfl
  · funext a
    cases a with
    | recorded count won => rfl
    | signal a => cases a <;> simp [Answer.value, Answer.won]
    | failures | limitReached => rfl

lemma outsideWon_iff : t.OutsideWon ↔ 0 < t.outsideTokens := by
  constructor
  · rintro (answered | ⟨c, mem, f, token, hcall⟩)
    · exact Contention.le_worth_of_mem _ (Answer.value (fun _ _ => 0) Bool.toNat) answered
    · have le := Contention.le_cost_of_mem (Call.value (fun _ => 0) fun f => f.hasToken.toNat) mem hcall
      have one : Call.value (fun _ => 0) (fun f => f.hasToken.toNat) (.signal (.fire f)) = 1 :=
        congrArg Bool.toNat token
      rw [outsideTokens, Contention.worth]
      omega
  · intro pos
    rcases Contention.exists_of_worth_pos pos with ⟨a, mem, won⟩ | ⟨c, mem, call, hcall, token⟩
    · cases a with
      | signal a =>
        cases a with
        | fired w =>
          cases w with
          | true => exact .inl mem
          | false => cases won
        | flag | awake => cases won
      | recorded | failures | limitReached => cases won
    · cases call with
      | signal c =>
        cases c with
        | fire f =>
          refine .inr ⟨c, mem, f, ?_, hcall⟩
          cases took : f.hasToken with
          | true => rfl
          | false =>
            rw [Call.value, took] at token
            cases token
        | isFired | isAwake => cases token
      | record | failures | limitReached => cases token

/-- A token that was taken from outside stays taken. -/
lemma outsideTokens_mono (h : Reaches t u) : t.outsideTokens ≤ u.outsideTokens := by
  refine invariant (I := fun u => t.outsideTokens ≤ u.outsideTokens) h (Nat.le_refl _) ?_
  intro v k call calls answers l result _ place turn before
  have set := Contention.worth_set (Call.value (fun _ => 0) fun f => f.hasToken.toNat)
    (Answer.value (fun _ _ => 0) Bool.toNat) l result place
  have le : call.value (fun _ => 0) (fun f => f.hasToken.toNat) ≤
      result.elim (Call.value (fun _ => 0) fun f => f.hasToken.toNat)
        (Answer.value (fun _ _ => 0) Bool.toNat) := by
    cases turn with
    | record turn | recorded | isFired | isAwake | failures | limitReached => exact Nat.le_refl _
    | fired => exact Nat.le_refl _
    | fire step =>
      cases Firing.turn_of_step? step with
      | acquire | store | dispose | miss => exact Nat.le_refl _
      | take => exact Nat.zero_le _
  refine Nat.le_trans before ?_
  show v.worth _ _ ≤ Contention.worth _ _ _
  omega

/-- If a call from outside took the token, no call that records a failure has it or will have it. -/
lemma recorded_not_mem_of_outsideWon (fresh : AllFresh calls) (h : Reaches (start m calls) t)
    (outside : t.OutsideWon) (count : UInt64) : .recorded count true ∉ t.answers := by
  intro mem
  have tokens := tokens_add fresh h
  have one := Contention.le_worth_of_mem (Call.value (fun r => r.hasToken.toNat) fun _ => 0)
    (Answer.value (fun _ won => won.toNat) fun _ => 0) mem
  have other := outsideWon_iff.1 outside
  have most := Bool.toNat_le !t.object.signal.armed
  simp only [Answer.value, Bool.toNat_true] at one
  rw [recordingTokens] at tokens
  omega

/-- A call that took the token and one that missed it at the limit are not two. -/
lemma recordingTokens_add_missed_le (positive : 0 < m) (fresh : AllFresh calls)
    (few : recordings calls < UInt64.size) (h : Reaches (start m calls) t) :
    t.recordingTokens +
      total (Answer.value (fun count won => (count == m && !won).toNat) fun _ => 0) t.answers ≤ 1 := by
  have limit := limit_of_reaches h
  subst limit
  calc t.recordingTokens + total _ t.answers
      = t.worth (Call.value (fun r => r.hasToken.toNat) fun _ => 0)
          (Answer.value (fun count won => won.toNat + (count == t.object.limit && !won).toNat)
            fun _ => 0) := by
        rw [recordingTokens, Contention.worth, Contention.worth, Nat.add_assoc, ← total_add]
        congr 2
        funext a
        cases a with
        | signal a => cases a <;> rfl
        | _ => rfl
    _ ≤ t.worth (fun c => weigh (fun n => (n == t.object.limit.toNat).toNat) c.count?)
          (fun a => weigh (fun n => (n == t.object.limit.toNat).toNat) a.count?) := by
        refine Contention.worth_le_worth (fun c hc call hcall => ?_) fun a ha => ?_
        · exact ((tells_of_reaches positive fresh h c hc).1 call hcall).value_le
        · exact (tells_of_mem_answers positive fresh h ha).value_le
    _ = (List.range' 1 t.object.failures.toNat).count t.object.limit.toNat := by
        rw [numbered_of_reaches fresh few h, total_beq]
    _ ≤ 1 := List.nodup_iff_count.1 List.nodup_range' _

/-- A call whose count is the limit takes the token, or finds that a call from outside has. -/
lemma outsideWon_of_missed (positive : 0 < m) (fresh : AllFresh calls)
    (few : recordings calls < UInt64.size) (h : Reaches (start m calls) t)
    (missed : .recorded m false ∈ t.answers) : t.OutsideWon := by
  have unarmed : t.object.signal.armed = false := by
    rcases (tells_of_mem_answers positive fresh h missed).2 with below | unarmed
    · rw [limit_of_reaches h] at below
      exact absurd below (UInt64.lt_irrefl m)
    · exact unarmed
  have tokens := tokens_add fresh h
  have most := recordingTokens_add_missed_le positive fresh few h
  have here := le_total_of_mem
    (Answer.value (fun count won => (count == m && !won).toNat) fun _ => 0) missed
  have one : Answer.value (fun count won => (count == m && !won).toNat) (fun _ => 0)
      (.recorded m false) = 1 := by simp [Answer.value]
  rw [unarmed, Bool.not_false, Bool.toNat_true] at tokens
  rw [outsideWon_iff]
  omega

/-- When all calls have returned, every call of `fire` has an answer. -/
lemma firings_of_isDone (h : Reaches (start m calls) t) (done : t.isDone = true) :
    total (Answer.value (fun _ _ => 0) fun _ => 1) t.answers = calls.flatten.countP Call.isFiring := by
  have kept := firings_of_reaches h
  rwa [Contention.worth, Contention.cost_of_isDone _ done, Nat.zero_add] at kept

/-- The count that a call has is one of those from one on, up to the count of the ledger. -/
lemma toNat_le_failures (fresh : AllFresh calls) (few : recordings calls < UInt64.size)
    (h : Reaches (start m calls) t) {count : UInt64} {won : Bool}
    (mem : .recorded count won ∈ t.answers) : count.toNat ≤ t.object.failures.toNat := by
  have here := Contention.le_worth_of_mem (t := t)
    (fun c : Call => weigh (fun n => (n == count.toNat).toNat) c.count?)
    (fun a : Answer => weigh (fun n => (n == count.toNat).toNat) a.count?) mem
  have one : weigh (fun n => (n == count.toNat).toNat) (Answer.recorded count won).count? = 1 := by
    simp [Answer.count?]
  rw [one, numbered_of_reaches fresh few h, total_beq] at here
  have member := List.count_pos_iff.1 here
  rw [List.mem_range'_1] at member
  omega

/-- If the token is gone when all calls have returned, there was a reason: a call fired the signal from
outside, or the limit was reached. -/
lemma reason_of_unarmed (positive : 0 < m) (fresh : AllFresh calls)
    (few : recordings calls < UInt64.size) (h : Reaches (start m calls) t) (done : t.isDone = true)
    (unarmed : t.object.signal.armed = false) :
    calls.flatten.any Call.isFiring = true ∨ m.toNat ≤ recordings calls := by
  have tokens := tokens_of_reaches fresh h
  rw [Contention.worth, Contention.cost_of_isDone _ done, unarmed, Nat.zero_add] at tokens
  have pos : 0 < total (fun a : Answer => a.won.toNat) t.answers := by
    rw [tokens]
    exact Nat.one_pos
  obtain ⟨a, mem, won⟩ := exists_of_total_pos pos
  cases a with
  | recorded count won' =>
    cases won' with
    | false => cases won
    | true =>
      have counted := counted_of_reaches fresh few h
      have le := toNat_le_failures fresh few h mem
      rw [(tells_of_mem_answers positive fresh h mem).1 rfl, limit_of_reaches h] at le
      exact .inr (by omega)
  | signal a =>
    cases a with
    | fired w =>
      have one := le_total_of_mem (Answer.value (fun _ _ => 0) fun _ => 1) mem
      rw [firings_of_isDone h done] at one
      obtain ⟨call, hcall, fires⟩ := List.countP_pos_iff.1 one
      exact .inl (List.any_eq_true.2 ⟨call, hcall, fires⟩)
    | flag | awake => cases won
  | failures | limitReached => cases won

/-- If there was a reason, the token is gone when all calls have returned. -/
lemma unarmed_of_reason (positive : 0 < m) (fresh : AllFresh calls)
    (few : recordings calls < UInt64.size) (h : Reaches (start m calls) t) (done : t.isDone = true)
    (reason : calls.flatten.any Call.isFiring = true ∨ m.toNat ≤ recordings calls) :
    t.object.signal.armed = false := by
  rcases reason with fired | reached
  · obtain ⟨call, hcall, fires⟩ := List.any_eq_true.1 fired
    have pos : 0 < calls.flatten.countP Call.isFiring := List.countP_pos_iff.2 ⟨call, hcall, fires⟩
    rw [← firings_of_isDone h done] at pos
    obtain ⟨a, mem, one⟩ := exists_of_total_pos pos
    cases a with
    | signal a =>
      cases a with
      | fired w => exact tells_of_mem_answers positive fresh h mem
      | flag | awake => cases one
    | recorded | failures | limitReached => cases one
  · by_contra armed
    have decided := decided_of_reaches positive fresh h (by simpa using armed)
    have counted := counted_of_reaches fresh few h
    rw [Contention.cost_of_isDone _ done] at decided counted
    omega

/-- **One call fires the signal of a ledger.** Let any number of threads make any calls on a new ledger
whose limit is not zero, fewer than words count of which record a failure, and let their steps mix in
any order. No failure is lost: whoever counts one adds one to the count and knows it, and when all calls
have returned, the count is the number of calls that record a failure, and these have the counts from one
on. Of all calls one says that it fired the signal, if one fires it from outside or the limit is reached,
and none otherwise. If no call from outside took the token, it is the call whose count is the limit; if
one did, no call that records a failure ever says so. The flag and the limit, once set and reached, stay
so. Each lock is had by exactly the calls that are past taking it, a thread that waits for the lock of the
ledger has none, as long as a call has not returned one of the threads can take a step, and so all calls
return. -/
theorem contest_has_one_winner (positive : 0 < m) (fresh : AllFresh calls)
    (few : recordings calls < UInt64.size) (h : Reaches (start m calls) t) :
    ((∀ k u, t.step? Call.step? k = some u → u.object.failures = t.object.failures ∨
        u.object.failures = t.object.failures + 1 ∧ ∃ c, u.callers[k]? = some c ∧
          c.calls.head? = some (.record (.compare u.object.failures))) ∧
      (t.isDone = true → t.object.failures.toNat = recordings calls ∧
        (t.answers.filterMap Answer.count?).Perm (List.range' 1 (recordings calls)))) ∧
    (t.answers.countP Answer.won ≤ 1 ∧
      (t.isDone = true → t.answers.countP Answer.won =
        if calls.flatten.any Call.isFiring = true ∨ m.toNat ≤ recordings calls then 1 else 0)) ∧
    (¬ t.OutsideWon → ∀ count won, .recorded count won ∈ t.answers → (won = true ↔ count = m)) ∧
    (t.OutsideWon → ∀ u, Reaches t u → ∀ count, .recorded count true ∉ u.answers) ∧
    (∀ u, Reaches t u →
      (t.object.signal.fired = true → u.object.signal.fired = true) ∧
        (t.object.limitReached = true → u.object.limitReached = true)) ∧
    (t.Guarded ∧ (∀ c ∈ t.callers, ∀ call, c.calls.head? = some call → call.WaitsForLedger →
        ∀ call' ∈ c.calls, call'.holdsLedger = 0 ∧ weigh Firing.holds call'.call? = 0) ∧
      (t.isDone = false → ∃ k, (t.step? Call.step? k).isSome) ∧
      ∀ run : Nat → Contest, run 0 = t → Contention.IsMaximal Call.step? run →
        ∃ n ≤ t.cost Call.cost, (run n).isDone = true) := by
  have tokens := tokens_of_reaches fresh h
  refine ⟨⟨fun k u => failures_of_step?, fun done => ⟨?_, counts_perm_of_isDone fresh few h done⟩⟩,
    ⟨?_, fun done => ?_⟩, ?_, ?_, ?_, guarded_of_reaches fresh h, ?_, exists_step fresh h, ?_⟩
  · have counted := counted_of_reaches fresh few h
    rwa [Contention.cost_of_isDone _ done, Nat.add_zero] at counted
  · have most := Bool.toNat_le !t.object.signal.armed
    rw [← total_toNat]
    rw [Contention.worth] at tokens
    omega
  · rw [Contention.worth, Contention.cost_of_isDone _ done, Nat.zero_add, total_toNat] at tokens
    rw [tokens]
    by_cases reason : calls.flatten.any Call.isFiring = true ∨ m.toNat ≤ recordings calls
    · rw [if_pos reason, unarmed_of_reason positive fresh few h done reason]
      rfl
    · have armed : t.object.signal.armed = true := by
        by_contra unarmed
        exact reason (reason_of_unarmed positive fresh few h done (by simpa using unarmed))
      rw [if_neg reason, armed]
      rfl
  · intro inside count won mem
    have tells := tells_of_mem_answers positive fresh h mem
    rw [Answer.Tells, Tells, limit_of_reaches h] at tells
    refine ⟨tells.1, ?_⟩
    rintro rfl
    by_contra missed
    rw [Bool.not_eq_true] at missed
    subst missed
    exact inside (outsideWon_of_missed positive fresh few h mem)
  · intro outside u reached count
    have pos := Nat.lt_of_lt_of_le (outsideWon_iff.1 outside) (outsideTokens_mono reached)
    exact recorded_not_mem_of_outsideWon fresh (h.trans reached) (outsideWon_iff.2 pos) count
  · intro u reached
    exact ⟨fired_of_reaches reached, limitReached_of_reaches fresh few h reached⟩
  · intro c mem call first waits
    exact holds_eq_zero_of_waits fresh h mem first waits
  · rintro run rfl maximal
    exact maximal.exists_isDone Call.cost_pos Call.cost_of_step? fun n =>
      exists_step fresh (h.trans (maximal.reaches n))

/-- Three threads, one of which fires the signal after it recorded a failure. -/
def threeCallers : List (List Call) :=
  [[.record .acquire, .record .acquire], [.record .acquire, .signal (.fire .acquire)],
    [.limitReached, .record .acquire]]

theorem contest_has_one_winner_threeCallers :
    (Contention.drive Call.step? 60 (start 2 threeCallers)).object.failures.toNat = 4 ∧
      (Contention.drive Call.step? 60 (start 2 threeCallers)).answers.countP Answer.won = 1 := by
  have fresh : AllFresh threeCallers := by
    simp [AllFresh, threeCallers, Call.IsFresh]
  have reached : Reaches (start 2 threeCallers)
      (Contention.drive Call.step? 60 (start 2 threeCallers)) :=
    Contention.reaches_drive Call.step? 60 .refl
  have done : (Contention.drive Call.step? 60 (start 2 threeCallers)).isDone = true := by decide +kernel
  obtain ⟨⟨-, counted⟩, ⟨-, won⟩, -⟩ :=
    contest_has_one_winner (by decide) fresh (by decide) reached
  exact ⟨(counted done).1, won done⟩

end Contest

end Ledger

end TaskCrew
