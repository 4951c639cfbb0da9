import TaskCrew.Decimal.Numeral
import TaskCrew.Proofs.Spelling

/-!
# The numbers that numerals denote

A numeral is read digit by digit, and every digit is checked against an end of the range. What comes
of it is said here of the text as a whole.

* `Range.Contains` — the numbers of a range;
* `Denotes` — the texts that stand for a number: digits, perhaps behind a sign;
* `addUp_eq_ok`, `addDown_eq_ok` — digits that are added up come to the number that they denote, unless it
  is beyond the end of the range;
* `read_eq_ok` — a text is read as the number that it denotes, and as nothing else;
* `denotes_ofInt` — the usual writing of an integer, within a range and outside of it.

No digit makes a number smaller, so a check that fails at some digit would fail at the end as well.
-/

namespace TaskCrew.Decimal

open Json (Digits readOn le_readOn ne_of_isDigit)

def Range.Contains (r : Range) (n : Int) : Prop :=
  r.least ≤ n ∧ n ≤ r.greatest

instance (r : Range) (n : Int) : Decidable (r.Contains n) :=
  inferInstanceAs (Decidable (_ ∧ _))

/-- A text stands for a number of a range: it is made of digits, at least one, which may have a plus
before them, or a minus where that is understood. -/
inductive Denotes (r : Range) : List Char → Int → Prop
  | plain (ds : Digits) (within : r.Contains (value ds.text)) : Denotes r ds.text (value ds.text)
  | plus (ds : Digits) (within : r.Contains (value ds.text)) :
    Denotes r ('+' :: ds.text) (value ds.text)
  | minus (ds : Digits) (signed : r.signed = true) (within : r.Contains (-value ds.text)) :
    Denotes r ('-' :: ds.text) (-value ds.text)

variable {r : Range} {cs : List Char} {m : Int}

namespace Numeral

/-! ## Adding up digits -/

lemma addUp_eq_ok {greatest : Int} {n : Nat} (start : (n : Int) ≤ greatest) :
    addUp greatest n cs = .ok m ↔
      (∀ c ∈ cs, c.isDigit = true) ∧ m = readOn n cs ∧ m ≤ greatest := by
  induction cs generalizing n with
  | nil =>
    simp only [addUp, Except.ok.injEq, List.not_mem_nil, false_implies, implies_true, true_and]
    constructor
    · rintro rfl
      exact ⟨rfl, start⟩
    · rintro ⟨rfl, -⟩
      rfl
  | cons c cs ih =>
    have next : 10 * (n : Int) + digitValue c = ((10 * n + digitValue c : Nat) : Int) := by push_cast; rfl
    have on : readOn n (c :: cs) = readOn (10 * n + digitValue c) cs := rfl
    rw [addUp, next, on, List.forall_mem_cons]
    cases c.isDigit with
    | false => simp
    | true =>
      simp only [Bool.not_true, Bool.false_eq_true, if_false]
      by_cases fits : ((10 * n + digitValue c : Nat) : Int) ≤ greatest
      · rw [if_neg (Int.not_lt.2 fits), ih fits, true_and]
      · have le := le_readOn (10 * n + digitValue c) cs
        rw [if_pos (Int.not_le.1 fits)]
        constructor
        · exact nofun
        · rintro ⟨-, rfl, fits'⟩
          omega

/-- What is added downwards is what is added upwards, the other way round. -/
lemma addDown_eq_ok_iff_addUp {least n : Int} :
    addDown least n cs = .ok m ↔ addUp (-least) (-n) cs = .ok (-m) := by
  induction cs generalizing n with
  | nil => simp [addDown, addUp]
  | cons c cs ih =>
    have next : -(10 * n - digitValue c) = 10 * -n + digitValue c := by omega
    rw [addDown, addUp]
    cases c.isDigit with
    | false => simp
    | true =>
      simp only [Bool.not_true, Bool.false_eq_true, if_false]
      by_cases fits : 10 * n - digitValue c < least
      · rw [if_pos fits, if_pos (by omega)]
        exact ⟨nofun, nofun⟩
      · rw [if_neg fits, if_neg (by omega), ih, next]

lemma addDown_eq_ok {least : Int} (start : least ≤ 0) :
    addDown least 0 cs = .ok m ↔
      (∀ c ∈ cs, c.isDigit = true) ∧ m = -(value cs : Int) ∧ least ≤ m := by
  have up := @addUp_eq_ok cs (-m) (-least) 0 (by omega)
  rw [addDown_eq_ok_iff_addUp, Int.neg_zero]
  refine up.trans (and_congr_right fun _ => ?_)
  have all : readOn 0 cs = value cs := rfl
  rw [all]
  omega

/-! ## Whole texts -/

lemma read_digits (ds : Digits) : read r ds.text = addUp r.greatest 0 ds.text := by
  obtain ⟨c, cs, eq, digit⟩ := ds.exists_cons
  have plus : c ≠ '+' := ne_of_isDigit digit rfl
  have minus : c ≠ '-' := ne_of_isDigit digit rfl
  rw [eq, read]
  · exact nofun
  · exact fun h => plus (List.cons.inj h).1
  · exact fun h => minus (List.cons.inj h).1
  · exact fun _ h => plus (List.cons.inj h).1
  · exact fun _ h => minus (List.cons.inj h).1

lemma read_plus (ds : Digits) : read r ('+' :: ds.text) = addUp r.greatest 0 ds.text := by
  rw [read]
  exact ds.ne_nil

lemma read_minus (ds : Digits) (signed : r.signed = true) :
    read r ('-' :: ds.text) = addDown r.least 0 ds.text := by
  rw [read, if_pos signed]
  exact ds.ne_nil

/-- A text is read as the number that it denotes. -/
theorem read_eq_ok (zero : r.Contains 0) : read r cs = .ok m ↔ Denotes r cs m := by
  obtain ⟨least, greatest⟩ := zero
  constructor
  · intro h
    unfold read at h
    split at h
    · cases h
    · cases h
    · cases h
    · next ds ne =>
      obtain ⟨digits, rfl, fits⟩ := (addUp_eq_ok greatest).1 h
      exact .plus ⟨ds, ne, digits⟩ ⟨by omega, fits⟩
    · next ds ne =>
      split at h
      · next signed =>
        obtain ⟨digits, rfl, fits⟩ := (addDown_eq_ok least).1 h
        exact .minus ⟨ds, ne, digits⟩ signed ⟨fits, by simp only; omega⟩
      · cases h
    · next ne _ _ _ _ =>
      obtain ⟨digits, rfl, fits⟩ := (addUp_eq_ok greatest).1 h
      exact .plain ⟨cs, ne, digits⟩ ⟨by omega, fits⟩
  · intro denotes
    cases denotes with
    | plain ds within =>
      rw [read_digits]
      exact (addUp_eq_ok greatest).2 ⟨ds.isDigit, rfl, within.2⟩
    | plus ds within =>
      rw [read_plus]
      exact (addUp_eq_ok greatest).2 ⟨ds.isDigit, rfl, within.2⟩
    | minus ds signed within =>
      rw [read_minus ds signed]
      exact (addDown_eq_ok least).2 ⟨ds.isDigit, rfl, within.1⟩

end Numeral

/-! ## The usual writing -/

lemma Denotes.contains (h : Denotes r cs m) : r.Contains m := by
  cases h <;> assumption

/-- A numeral is made of digits and signs. -/
lemma Denotes.isDigit_or (h : Denotes r cs m) {c : Char} (mem : c ∈ cs) :
    c.isDigit = true ∨ c = '+' ∨ c = '-' := by
  cases h with
  | plain ds => exact .inl (ds.isDigit c mem)
  | plus ds => exact (List.mem_cons.1 mem).elim (.inr ∘ .inl) fun mem => .inl (ds.isDigit c mem)
  | minus ds => exact (List.mem_cons.1 mem).elim (.inr ∘ .inr) fun mem => .inl (ds.isDigit c mem)

lemma ofNat_ne_cons {c : Char} (sign : c.isDigit = false) (n : Nat) (cs : List Char) :
    ofNat n ≠ c :: cs :=
  fun eq => ne_of_isDigit (isDigit_of_mem_ofNat (eq ▸ List.mem_cons_self)) sign rfl

/-- The usual writing of an integer denotes it within every range, and nothing outside of it. -/
theorem denotes_ofInt (unsigned : r.signed = false → 0 ≤ r.least) (i : Int) :
    Denotes r (ofInt i) m ↔ m = i ∧ r.Contains i := by
  constructor
  · intro h
    suffices eq : m = i from ⟨eq, eq ▸ h.contains⟩
    cases i with
    | ofNat n =>
      generalize text : ofInt (.ofNat n) = cs at h
      cases h with
      | plain ds => rw [← text, ofInt, value_ofNat]; rfl
      | plus ds => exact absurd text (ofNat_ne_cons rfl n ds.text)
      | minus ds => exact absurd text (ofNat_ne_cons rfl n ds.text)
    | negSucc n =>
      generalize text : ofInt (.negSucc n) = cs at h
      cases h with
      | plain ds =>
        have digit := ds.isDigit '-' (text ▸ List.mem_cons_self)
        cases digit
      | plus ds => cases (List.cons.inj text).1
      | minus ds => rw [← (List.cons.inj text).2, value_ofNat]; rfl
  · rintro ⟨rfl, within⟩
    cases m with
    | ofNat n =>
      have denotes : Denotes r (ofNat n) (value (ofNat n)) :=
        .plain (.ofNat n) (by rw [Digits.ofNat, value_ofNat]; exact within)
      rwa [value_ofNat] at denotes
    | negSucc n =>
      have signed : r.signed = true := by
        by_contra h
        have := unsigned (by simpa using h)
        have := within.1
        omega
      have denotes : Denotes r ('-' :: ofNat (n + 1)) (-value (ofNat (n + 1))) :=
        .minus (.ofNat (n + 1)) signed (by rw [Digits.ofNat, value_ofNat]; exact within)
      rwa [value_ofNat] at denotes

end TaskCrew.Decimal
