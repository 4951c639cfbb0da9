import TaskCrew.Decimal.Numeral
import TaskCrew.Json.Text

/-!
# Numbers of a document

* `Number` — what a written number is taken for: a count, a negative integer or a floating point
  number;
* `readNumber` — the number after its sign;
* `passNumber` — the text after a number that nobody wants, after its sign.

**Design.** A number without fraction and exponent that fits 64 bits is kept exactly; minus zero and
everything else becomes a floating point number. Of the digits only as many are used as fit a count
of 64 bits, those dropped before the point raise the exponent, and the exponent is applied by one
multiplication or division with a rounded power of ten. The value of a floating point number is
shown in messages only.
-/

namespace TaskCrew.Json

/-- What a written number is taken for. -/
inductive Number
  | count (n : Nat)
  /-- A negative integer, by its magnitude. -/
  | negative (n : Nat)
  | float (x : Float)

/-- The number as a thing that was found. -/
def Number.found : Number → Found
  | .count n => .integer n
  | .negative n => .integer (-n)
  | .float x => .float x

/-! ## Digits -/

/-- The digits at the start of a text. -/
def digits (cs : List Char) : List Char :=
  cs.takeWhile Char.isDigit

/-- The text after the digits at its start. -/
def afterDigits (cs : List Char) : List Char :=
  cs.dropWhile Char.isDigit

/-- Adds digits to a number as long as it stays a count of 64 bits; with the number of digits that
are left over. -/
def absorb (n : Nat) : List Char → Nat × Nat
  | [] => (n, 0)
  | d :: ds =>
    let m := 10 * n + Decimal.digitValue d
    if m ≤ Decimal.Range.count.greatest then absorb m ds else (n, ds.length + 1)

/-! ## Floating point numbers -/

def powerOfTen (n : Nat) : Float :=
  Float.ofScientific 1 false n

/-- A floating point number times a power of ten, or nothing if it is too large. -/
def scale (x : Float) (e : Int) : Option Float :=
  if e.natAbs ≤ 308 then
    if 0 ≤ e then
      let y := x * powerOfTen e.natAbs
      if y.isInf then none else some y
    else some (x / powerOfTen e.natAbs)
  else if x == 0 then some x
  else if 0 ≤ e then none
  else scale (x / powerOfTen 308) (e + 308)
  termination_by e.natAbs

/-- The floating point number with the given sign, digits and exponent, followed by the text. -/
def floatOf (negative : Bool) (n : Nat) (e : Int) (rest : List Char) : Reading Number :=
  match scale (UInt64.ofNat n).toFloat e with
  | some x => .ok (.float (if negative then -x else x), rest)
  | none => .error (.before .numberOutOfRange rest)

/-- An exponent read from digits: its value with the text after it, or the text after the digit
that carried it past 32 bits. -/
def addExponent (e : Nat) : List Char → Nat × List Char ⊕ List Char
  | [] => .inl (e, [])
  | c :: cs =>
    if c.isDigit then
      let e' := 10 * e + Decimal.digitValue c
      if e' ≤ 2147483647 then addExponent e' cs else .inr cs
    else .inl (e, c :: cs)

/-- The sign at the start of an exponent, and the text after it. -/
def exponentSign : List Char → Bool × List Char
  | '+' :: cs => (false, cs)
  | '-' :: cs => (true, cs)
  | cs => (false, cs)

def readExponent (negative : Bool) (n : Nat) (e : Int) (cs : List Char) : Reading Number :=
  let (down, cs) := exponentSign cs
  match cs with
  | [] => .error (.before .endInValue [])
  | c :: rest =>
    if !c.isDigit then .error (.past .invalidNumber cs)
    else match addExponent (Decimal.digitValue c) rest with
      | .inl (x, rest) => floatOf negative n (if down then e - x else e + x) rest
      | .inr rest =>
        if n ≠ 0 ∧ !down then .error (.before .numberOutOfRange rest)
        else .ok (.float (if negative then -0.0 else 0.0), afterDigits rest)

def readFraction (negative : Bool) (n : Nat) (e : Int) (cs : List Char) : Reading Number :=
  match digits cs with
  | [] => .error (if cs.isEmpty then .before .endInValue [] else .past .invalidNumber cs)
  | ds =>
    let (m, left) := absorb n ds
    let e := e - (ds.length - left : Nat)
    match afterDigits cs with
    | 'e' :: rest | 'E' :: rest => readExponent negative m e rest
    | rest => floatOf negative m e rest

/-- The number after its integer digits, of which some may have been dropped. -/
def finishNumber (negative : Bool) (n dropped : Nat) (cs : List Char) : Reading Number :=
  match cs with
  | '.' :: rest => readFraction negative n dropped rest
  | 'e' :: rest | 'E' :: rest => readExponent negative n dropped rest
  | rest =>
    if dropped ≠ 0 then floatOf negative n dropped rest
    else if !negative then .ok (.count n, rest)
    else if n = 0 ∨ -n < Decimal.Range.integer.least then
      .ok (.float (-(UInt64.ofNat n).toFloat), rest)
    else .ok (.negative n, rest)

def readNumber (negative : Bool) (cs : List Char) : Reading Number :=
  match cs with
  | [] => .error (.before .endInValue [])
  | '0' :: rest =>
    match digits rest with
    | [] => finishNumber negative 0 0 rest
    | _ => .error (.past .invalidNumber rest)
  | c :: rest =>
    if c.isDigit then
      let (n, dropped) := absorb 0 (digits (c :: rest))
      finishNumber negative n dropped (afterDigits (c :: rest))
    else .error (.past .invalidNumber (c :: rest))

/-! ## Passing over -/

/-- The text after an exponent part that nobody wants. -/
def passExponent (cs : List Char) : Except Fault (List Char) :=
  match (exponentSign cs).2 with
  | [] => .error (.past .invalidNumber [])
  | c :: rest =>
    if c.isDigit then .ok (afterDigits rest) else .error (.past .invalidNumber (c :: rest))

/-- The text after the exponent part, if one follows. -/
def passTail (cs : List Char) : Except Fault (List Char) :=
  match cs with
  | 'e' :: rest | 'E' :: rest => passExponent rest
  | rest => .ok rest

/-- The text after the fraction and the exponent part, if they follow. -/
def passFraction (cs : List Char) : Except Fault (List Char) :=
  match cs with
  | '.' :: rest =>
    match digits rest with
    | [] => .error (.past .invalidNumber rest)
    | _ => passTail (afterDigits rest)
  | rest => passTail rest

/-- The text after a number that nobody wants, after its sign. -/
def passNumber (cs : List Char) : Except Fault (List Char) :=
  match cs with
  | [] => .error (.past .invalidNumber [])
  | '0' :: rest =>
    match digits rest with
    | [] => passFraction rest
    | _ => .error (.past .invalidNumber rest)
  | c :: rest =>
    if c.isDigit then passFraction (afterDigits rest) else .error (.past .invalidNumber (c :: rest))

/-! ## Lengths -/

theorem afterDigits_length (cs : List Char) : (afterDigits cs).length ≤ cs.length :=
  (List.dropWhile_suffix Char.isDigit).length_le

theorem exponentSign_length (cs : List Char) : (exponentSign cs).2.length ≤ cs.length := by
  unfold exponentSign
  split <;> simp

theorem floatOf_rest {negative : Bool} {n : Nat} {e : Int} {cs rest : List Char} {x : Number}
    (h : floatOf negative n e cs = .ok (x, rest)) : rest = cs := by
  unfold floatOf at h
  split at h
  · simp only [Except.ok.injEq, Prod.mk.injEq] at h; exact h.2.symm
  · simp at h

theorem addExponent_length (e : Nat) (cs : List Char) :
    match addExponent e cs with
    | .inl (_, rest) => rest.length ≤ cs.length
    | .inr rest => rest.length ≤ cs.length := by
  induction cs generalizing e with
  | nil => simp [addExponent]
  | cons c cs ih =>
    simp only [addExponent]
    by_cases hc : c.isDigit = true
    · by_cases he : 10 * e + Decimal.digitValue c ≤ 2147483647
      · simp only [hc, he, if_true]
        have := ih (10 * e + Decimal.digitValue c)
        split at this <;> simp_all <;> omega
      · simp [hc, he]
    · simp [hc]

theorem readExponent_length {negative : Bool} {n : Nat} {e : Int} {cs rest : List Char}
    {x : Number} (h : readExponent negative n e cs = .ok (x, rest)) :
    rest.length ≤ cs.length := by
  unfold readExponent at h
  have hsign := exponentSign_length cs
  generalize hp : exponentSign cs = p at h hsign
  obtain ⟨down, cs'⟩ := p
  simp only at h hsign
  split at h
  · simp at h
  · next c r =>
    simp only [List.length_cons] at hsign
    split at h
    · simp at h
    · have hadd := addExponent_length (Decimal.digitValue c) r
      split at h
      · next e' r' hr =>
        have := floatOf_rest h
        simp only [hr] at hadd
        subst this; omega
      · next r' hr =>
        simp only [hr] at hadd
        split at h
        · simp at h
        · simp only [Except.ok.injEq, Prod.mk.injEq] at h
          have := afterDigits_length r'
          obtain ⟨-, rfl⟩ := h
          omega

theorem readFraction_length {negative : Bool} {n : Nat} {e : Int} {cs rest : List Char}
    {x : Number} (h : readFraction negative n e cs = .ok (x, rest)) :
    rest.length ≤ cs.length := by
  unfold readFraction at h
  have hd := afterDigits_length cs
  split at h
  · simp at h
  · simp only at h
    split at h
    · next r hr => have := readExponent_length h; simp only [hr, List.length_cons] at hd; omega
    · next r hr => have := readExponent_length h; simp only [hr, List.length_cons] at hd; omega
    · have := floatOf_rest h; subst this; exact hd

theorem finishNumber_length {negative : Bool} {n dropped : Nat} {cs rest : List Char}
    {x : Number} (h : finishNumber negative n dropped cs = .ok (x, rest)) :
    rest.length ≤ cs.length := by
  unfold finishNumber at h
  split at h
  · have := readFraction_length h; simp only [List.length_cons]; omega
  · have := readExponent_length h; simp only [List.length_cons]; omega
  · have := readExponent_length h; simp only [List.length_cons]; omega
  · split at h
    · exact Nat.le_of_eq (congrArg List.length (floatOf_rest h))
    · split at h
      · simp only [Except.ok.injEq, Prod.mk.injEq] at h; simp [h.2]
      · split at h <;> simp only [Except.ok.injEq, Prod.mk.injEq] at h <;> simp [h.2]

theorem readNumber_length {negative : Bool} {cs rest : List Char} {x : Number}
    (h : readNumber negative cs = .ok (x, rest)) : rest.length < cs.length := by
  unfold readNumber at h
  split at h
  · simp at h
  · split at h
    · have := finishNumber_length h; simp only [List.length_cons]; omega
    · simp at h
  · next c r _ =>
    split at h
    · next hc =>
      have := finishNumber_length h
      have hr := afterDigits_length r
      simp only [afterDigits, List.dropWhile_cons, hc, if_true] at this hr ⊢
      simp only [List.length_cons]; omega
    · simp at h

theorem passExponent_length {cs rest : List Char} (h : passExponent cs = .ok rest) :
    rest.length ≤ cs.length := by
  unfold passExponent at h
  have hsign := exponentSign_length cs
  split at h
  · simp at h
  · next c r hr =>
    simp only [hr, List.length_cons] at hsign
    split at h
    · simp only [Except.ok.injEq] at h
      have := afterDigits_length r
      subst h; omega
    · simp at h

theorem passTail_length {cs rest : List Char} (h : passTail cs = .ok rest) :
    rest.length ≤ cs.length := by
  unfold passTail at h
  split at h
  · have := passExponent_length h; simp only [List.length_cons]; omega
  · have := passExponent_length h; simp only [List.length_cons]; omega
  · simp only [Except.ok.injEq] at h; simp [h]

theorem passFraction_length {cs rest : List Char} (h : passFraction cs = .ok rest) :
    rest.length ≤ cs.length := by
  unfold passFraction at h
  split at h
  · next r =>
    split at h
    · simp at h
    · have := passTail_length h
      have := afterDigits_length r
      simp only [List.length_cons]; omega
  · exact passTail_length h

theorem passNumber_length {cs rest : List Char} (h : passNumber cs = .ok rest) :
    rest.length < cs.length := by
  unfold passNumber at h
  split at h
  · simp at h
  · split at h
    · have := passFraction_length h; simp only [List.length_cons]; omega
    · simp at h
  · next c r _ =>
    split at h
    · have := passFraction_length h
      have := afterDigits_length r
      simp only [List.length_cons]; omega
    · simp at h

end TaskCrew.Json
