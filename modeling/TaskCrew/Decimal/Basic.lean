/-!
# Decimal digits

Numbers and their decimal writing.

* `digitOf`, `digitValue` — one digit and its value;
* `value` — the number that a list of digits denotes;
* `ofNat`, `ofInt` — the writing of a number without leading zeros;
* `value_ofNat` — a number is read back from its writing.
-/

namespace TaskCrew.Decimal

/-- The digit of a number below ten. -/
def digitOf (n : Nat) : Char :=
  Char.ofNat (48 + n % 10)

def digitValue (c : Char) : Nat :=
  c.toNat - 48

/-- The number that a list of digits denotes. -/
def value (cs : List Char) : Nat :=
  cs.foldl (fun n c => 10 * n + digitValue c) 0

/-- The digits of a number, without leading zeros. -/
def ofNat (n : Nat) : List Char :=
  if n < 10 then [digitOf n] else ofNat (n / 10) ++ [digitOf n]

/-- The digits of a number behind a minus sign if it is negative. -/
def ofInt : Int → List Char
  | .ofNat n => ofNat n
  | .negSucc n => '-' :: ofNat (n + 1)

theorem digitValue_digitOf (n : Nat) : digitValue (digitOf n) = n % 10 := by
  have h : n % 10 < 10 := Nat.mod_lt _ (by decide)
  have : ∀ k < 10, digitValue (Char.ofNat (48 + k)) = k := by decide
  exact this _ h

theorem isDigit_digitOf (n : Nat) : (digitOf n).isDigit = true := by
  have h : n % 10 < 10 := Nat.mod_lt _ (by decide)
  have : ∀ k < 10, (Char.ofNat (48 + k)).isDigit = true := by decide
  exact this _ h

theorem value_append_singleton (cs : List Char) (c : Char) :
    value (cs ++ [c]) = 10 * value cs + digitValue c := by
  simp [value]

/-- A number is read back from its digits. -/
theorem value_ofNat (n : Nat) : value (ofNat n) = n := by
  fun_induction ofNat n with
  | case1 n h => simp [value, digitValue_digitOf]; omega
  | case2 n h ih => rw [value_append_singleton, ih, digitValue_digitOf]; omega

theorem ofNat_ne_nil (n : Nat) : ofNat n ≠ [] := by
  fun_induction ofNat n <;> simp

/-- A number is written with digits only. -/
theorem isDigit_of_mem_ofNat {n : Nat} {c : Char} (h : c ∈ ofNat n) : c.isDigit = true := by
  fun_induction ofNat n with
  | case1 n hn => simp only [List.mem_singleton] at h; subst h; exact isDigit_digitOf n
  | case2 n hn ih =>
    rcases List.mem_append.1 h with h | h
    · exact ih h
    · simp only [List.mem_singleton] at h; subst h; exact isDigit_digitOf n

end TaskCrew.Decimal
