import TaskCrew.Json.Number

/-!
# Values that are passed over, and values of a wanted type

* `passValue` — the text after a value that nobody wants, of any depth;
* `readCount`, `readInteger`, `readCount?`, `readName` — values of the types that settings have;
* `refuse` — the fault for a value of another type.

**Design.** Passing over keeps the open brackets on a list, so that depth costs no recursion. Three
functions follow what may come next: a value, the key of a member, or what follows a value.
-/

namespace TaskCrew.Json

/-! ## Passing over -/

/-- A bracket that is open. -/
inductive Bracket
  | list
  | object
  deriving DecidableEq, Repr

/-- The fault at the end of the text within a bracket. -/
def Bracket.atEnd : Bracket → Fault
  | .list => .before .endInList []
  | .object => .before .endInObject []

/-- The text after a value without brackets that nobody wants. -/
def passScalar (cs : List Char) : Except Fault (List Char) :=
  match cs with
  | [] => .error (.before .endInValue [])
  | 'n' :: rest => readLiteral ['u', 'l', 'l'] rest
  | 't' :: rest => readLiteral ['r', 'u', 'e'] rest
  | 'f' :: rest => readLiteral ['a', 'l', 's', 'e'] rest
  | '-' :: rest => passNumber rest
  | '"' :: rest => passText rest
  | c :: rest =>
    if c.isDigit then passNumber (c :: rest) else .error (.past .expectedValue (c :: rest))

/-- The text after the key of a member that nobody wants, and its colon. -/
def passKey (cs : List Char) : Except Fault (List Char) :=
  match skipBlank cs with
  | [] => .error (.before .endInObject [])
  | '"' :: rest =>
    match passText rest with
    | .error f => .error f
    | .ok rest =>
      match skipBlank rest with
      | [] => .error (.before .endInObject [])
      | ':' :: rest => .ok rest
      | rest => .error (.past .expectedColon rest)
  | rest => .error (.past .keyNotText rest)

theorem readLiteral_length {xs cs rest : List Char} (h : readLiteral xs cs = .ok rest) :
    rest.length ≤ cs.length := by
  fun_induction readLiteral xs cs with
  | case1 => simp only [Except.ok.injEq] at h; simp [h]
  | case2 => simp at h
  | case3 xs c cs ih => have := ih h; simp only [List.length_cons]; omega
  | case4 => simp at h

theorem passScalar_length {cs rest : List Char} (h : passScalar cs = .ok rest) :
    rest.length < cs.length := by
  unfold passScalar at h
  split at h
  · simp at h
  · have := readLiteral_length h; simp only [List.length_cons]; omega
  · have := readLiteral_length h; simp only [List.length_cons]; omega
  · have := readLiteral_length h; simp only [List.length_cons]; omega
  · have := passNumber_length h; simp only [List.length_cons]; omega
  · have := passText_length h; simp only [List.length_cons]; omega
  · split at h
    · exact passNumber_length h
    · simp at h

theorem passKey_length {cs rest : List Char} (h : passKey cs = .ok rest) :
    rest.length < cs.length := by
  unfold passKey at h
  have hs := skipBlank_length cs
  split at h
  · simp at h
  · next r heq =>
    simp only [heq, List.length_cons] at hs
    split at h
    · simp at h
    · next r' hr =>
      have := passText_length hr
      have hs' := skipBlank_length r'
      split at h
      · simp at h
      · next r'' heq' =>
        simp only [heq', List.length_cons] at hs'
        simp only [Except.ok.injEq] at h
        subst h; omega
      · simp at h
  · simp at h

mutual

/-- The text after a value that nobody wants and after the brackets around it. -/
def passValueIn (brackets : List Bracket) (cs : List Char) : Except Fault (List Char) :=
  match hs : skipBlank cs with
  | '[' :: rest =>
    have := length_of_skipBlank hs
    match hr : skipBlank rest with
    | [] => .error Bracket.list.atEnd
    | ']' :: rest' =>
      have := length_of_skipBlank hr
      passAfterIn brackets rest'
    | c :: rest' =>
      have := length_of_skipBlank hr
      passValueIn (.list :: brackets) (c :: rest')
  | '\x7b' :: rest =>
    have := length_of_skipBlank hs
    match hr : skipBlank rest with
    | [] => .error Bracket.object.atEnd
    | '\x7d' :: rest' =>
      have := length_of_skipBlank hr
      passAfterIn brackets rest'
    | c :: rest' =>
      have := length_of_skipBlank hr
      match hk : passKey (c :: rest') with
      | .error f => .error f
      | .ok rest'' =>
        have := passKey_length hk
        passValueIn (.object :: brackets) rest''
  | rest =>
    have := skipBlank_length cs
    match hk : passScalar rest with
    | .error f => .error f
    | .ok rest' =>
      have := passScalar_length hk
      passAfterIn brackets rest'
  termination_by cs.length
  decreasing_by all_goals grind

/-- The text after the brackets that are still open, behind one of their values. -/
def passAfterIn (brackets : List Bracket) (cs : List Char) : Except Fault (List Char) :=
  match brackets with
  | [] => .ok cs
  | .list :: outer =>
    match hs : skipBlank cs with
    | [] => .error Bracket.list.atEnd
    | ',' :: rest =>
      have := length_of_skipBlank hs
      passValueIn (.list :: outer) rest
    | ']' :: rest =>
      have := length_of_skipBlank hs
      passAfterIn outer rest
    | rest => .error (.past .expectedListEnd rest)
  | .object :: outer =>
    match hs : skipBlank cs with
    | [] => .error Bracket.object.atEnd
    | ',' :: rest =>
      have := length_of_skipBlank hs
      match hk : passKey rest with
      | .error f => .error f
      | .ok rest' =>
        have := passKey_length hk
        passValueIn (.object :: outer) rest'
    | '\x7d' :: rest =>
      have := length_of_skipBlank hs
      passAfterIn outer rest
    | rest => .error (.past .expectedObjectEnd rest)
  termination_by cs.length
  decreasing_by all_goals grind

end

/-! ## Lengths of what is passed over -/

theorem passIn_length (n : Nat) (brackets : List Bracket) (cs rest : List Char)
    (hn : cs.length ≤ n) :
    (passValueIn brackets cs = .ok rest → rest.length < cs.length) ∧
      (passAfterIn brackets cs = .ok rest → rest.length ≤ cs.length) := by
  induction n generalizing brackets cs with
  | zero =>
    have : cs = [] := List.length_eq_zero_iff.1 (Nat.le_zero.1 hn)
    subst this
    constructor
    · intro h; unfold passValueIn at h; simp [skipBlank, passScalar] at h
    · intro h; unfold passAfterIn at h; split at h <;> simp_all [skipBlank]
  | succ n ih =>
    have shorter (b : List Bracket) (cs' : List Char) (h : cs'.length < cs.length) :=
      ih b cs' (by omega)
    constructor
    · intro h
      unfold passValueIn at h
      have := skipBlank_length cs
      split at h
      · next r hs =>
        have := length_of_skipBlank hs
        split at h
        · simp at h
        · next r' hr =>
          have := length_of_skipBlank hr
          have := (shorter _ _ (by omega)).2 h
          omega
        · next c r' _ hr =>
          have := length_of_skipBlank hr
          have := (shorter _ _ (by simp; omega)).1 h
          simp at this; omega
      · next r hs =>
        have := length_of_skipBlank hs
        split at h
        · simp at h
        · next r' hr =>
          have := length_of_skipBlank hr
          have := (shorter _ _ (by omega)).2 h
          omega
        · next c r' _ hr =>
          have := length_of_skipBlank hr
          split at h
          · simp at h
          · next r'' hk =>
            have := passKey_length hk
            simp only [List.length_cons] at this
            have := (shorter _ _ (by omega)).1 h
            omega
      · split at h
        · simp at h
        · next r' hk =>
          have := passScalar_length hk
          have := (shorter _ _ (by omega)).2 h
          omega
    · intro h
      unfold passAfterIn at h
      split at h
      · simp only [Except.ok.injEq] at h; simp [h]
      · split at h
        · simp at h
        · next r hs =>
          have := length_of_skipBlank hs
          have := (shorter _ _ this).1 h
          omega
        · next r hs =>
          have := length_of_skipBlank hs
          have := (shorter _ _ this).2 h
          omega
        · simp at h
      · split at h
        · simp at h
        · next r hs =>
          have := length_of_skipBlank hs
          split at h
          · simp at h
          · next r' hk =>
            have := passKey_length hk
            have := (shorter _ _ (by omega)).1 h
            omega
        · next r hs =>
          have := length_of_skipBlank hs
          have := (shorter _ _ this).2 h
          omega
        · simp at h

/-- The text after a value that nobody wants. -/
def passValue (cs : List Char) : Except Fault (List Char) :=
  passValueIn [] cs

theorem passValue_length {cs rest : List Char} (h : passValue cs = .ok rest) :
    rest.length < cs.length :=
  (passIn_length cs.length [] cs rest (Nat.le_refl _)).1 h

/-! ## Values of a wanted type -/

/-- The fault for a value of another type than the wanted one. The text begins with the value. -/
def refuse (wanted : Wanted) (cs : List Char) : Fault :=
  let literal (found : Found) (expected rest : List Char) : Fault :=
    match readLiteral expected rest with
    | .error f => f
    | .ok rest => .before (.wrongType found wanted) rest
  let number (negative : Bool) (rest : List Char) : Fault :=
    match readNumber negative rest with
    | .error f => f
    | .ok (x, rest) => .before (.wrongType x.found wanted) rest
  match cs with
  | [] => .before .endInValue []
  | 'n' :: rest => literal .null ['u', 'l', 'l'] rest
  | 't' :: rest => literal (.bool true) ['r', 'u', 'e'] rest
  | 'f' :: rest => literal (.bool false) ['a', 'l', 's', 'e'] rest
  | '-' :: rest => number true rest
  | '"' :: rest =>
    match readText rest with
    | .error f => f
    | .ok (text, rest) => .before (.wrongType (.text (String.ofList text)) wanted) rest
  | '[' :: rest => .before (.wrongType .list wanted) ('[' :: rest)
  | '\x7b' :: rest => .before (.wrongType .object wanted) ('\x7b' :: rest)
  | c :: rest => if c.isDigit then number false (c :: rest) else .past .expectedValue (c :: rest)

/-- A number, if one stands here. -/
def readNumber? (cs : List Char) : Option (Reading Number) :=
  match cs with
  | '-' :: rest => some (readNumber true rest)
  | c :: rest => if c.isDigit then some (readNumber false (c :: rest)) else none
  | [] => none

def readCount (cs : List Char) : Reading UInt64 :=
  let cs := skipBlank cs
  match readNumber? cs with
  | none => .error (refuse .count cs)
  | some (.error f) => .error f
  | some (.ok (.count n, rest)) => .ok (UInt64.ofNat n, rest)
  | some (.ok (.negative n, rest)) => .error (.before (.wrongValue (.integer (-n)) .count) rest)
  | some (.ok (.float x, rest)) => .error (.before (.wrongType (.float x) .count) rest)

def readInteger (cs : List Char) : Reading Int64 :=
  let cs := skipBlank cs
  match readNumber? cs with
  | none => .error (refuse .integer cs)
  | some (.error f) => .error f
  | some (.ok (.count n, rest)) =>
    if n ≤ Decimal.Range.integer.greatest then .ok (Int64.ofInt n, rest)
    else .error (.before (.wrongValue (.integer n) .integer) rest)
  | some (.ok (.negative n, rest)) => .ok (Int64.ofInt (-n), rest)
  | some (.ok (.float x, rest)) => .error (.before (.wrongType (.float x) .integer) rest)

/-- A count of 64 bits, or the null value for none. -/
def readCount? (cs : List Char) : Reading (Option UInt64) :=
  match skipBlank cs with
  | 'n' :: rest => (readLiteral ['u', 'l', 'l'] rest).map fun rest => (none, rest)
  | rest => (readCount rest).map fun (n, rest) => (some n, rest)

def readName (cs : List Char) : Reading String :=
  match skipBlank cs with
  | '"' :: rest => (readText rest).map fun (text, rest) => (String.ofList text, rest)
  | rest => .error (refuse .text rest)

/-! ## Lengths of what is read -/

theorem readNumber?_length {cs rest : List Char} {x : Number}
    (h : readNumber? cs = some (.ok (x, rest))) : rest.length < cs.length := by
  unfold readNumber? at h
  split at h
  · simp only [Option.some.injEq] at h
    have := readNumber_length h
    simp only [List.length_cons]; omega
  · split at h
    · simp only [Option.some.injEq] at h
      exact readNumber_length h
    · simp at h
  · simp at h

theorem readCount_length {cs rest : List Char} {n : UInt64} (h : readCount cs = .ok (n, rest)) :
    rest.length < cs.length := by
  unfold readCount at h
  have := skipBlank_length cs
  simp only at h
  split at h
  · simp at h
  · simp at h
  · next hn =>
    have := readNumber?_length hn
    simp only [Except.ok.injEq, Prod.mk.injEq] at h
    obtain ⟨-, rfl⟩ := h
    omega
  · simp at h
  · simp at h

theorem readInteger_length {cs rest : List Char} {n : Int64} (h : readInteger cs = .ok (n, rest)) :
    rest.length < cs.length := by
  unfold readInteger at h
  have := skipBlank_length cs
  simp only at h
  split at h
  · simp at h
  · simp at h
  · next hn =>
    have := readNumber?_length hn
    split at h
    · simp only [Except.ok.injEq, Prod.mk.injEq] at h
      obtain ⟨-, rfl⟩ := h
      omega
    · simp at h
  · next hn =>
    have := readNumber?_length hn
    simp only [Except.ok.injEq, Prod.mk.injEq] at h
    obtain ⟨-, rfl⟩ := h
    omega
  · simp at h

private theorem map_eq_ok {ε α β : Type} {f : α → β} {x : Except ε α} {b : β}
    (h : x.map f = .ok b) :
    ∃ a, x = .ok a ∧ f a = b := by
  cases x with
  | error e => simp [Except.map] at h
  | ok a => exact ⟨a, rfl, by simpa [Except.map] using h⟩

theorem readCount?_length {cs rest : List Char} {n : Option UInt64}
    (h : readCount? cs = .ok (n, rest)) : rest.length < cs.length := by
  unfold readCount? at h
  have := skipBlank_length cs
  split at h
  · next r hs =>
    obtain ⟨r', hr, h⟩ := map_eq_ok h
    have := readLiteral_length hr
    have := length_of_skipBlank hs
    simp only [Prod.mk.injEq] at h
    obtain ⟨-, rfl⟩ := h
    omega
  · obtain ⟨⟨m, r'⟩, hr, h⟩ := map_eq_ok h
    have := readCount_length hr
    simp only [Prod.mk.injEq] at h
    obtain ⟨-, rfl⟩ := h
    omega

theorem readName_length {cs rest : List Char} {text : String} (h : readName cs = .ok (text, rest)) :
    rest.length < cs.length := by
  unfold readName at h
  split at h
  · next r hs =>
    obtain ⟨⟨m, r'⟩, hr, h⟩ := map_eq_ok h
    have := readText_length hr
    have := length_of_skipBlank hs
    simp only [Prod.mk.injEq] at h
    obtain ⟨-, rfl⟩ := h
    omega
  · simp at h

end TaskCrew.Json
