import TaskCrew.Proofs.Scalars

/-!
# The usual spelling

Everything that can be said by a value without brackets can be spelled in many ways; one of them is
the one that is written.

* `Glyph.usual`, `spell` — the spelling of characters, with an escape where one is needed;
* `Numeral.ofInt` — the spelling of an integer, without needless zeros;
* `Scalar.ofCount`, `Scalar.ofInteger`, `Scalar.ofString` — values to be read as something given.
-/

namespace TaskCrew.Json

/-! ## Text -/

/-- The last hexadecimal digit of a number. -/
def HexDigit.last (n : Nat) : HexDigit :=
  ⟨⟨n % 16, Nat.mod_lt n (Nat.succ_pos 15)⟩, false⟩

/-- A control character as a code. -/
def controlCode (n : Nat) : HexCode :=
  ⟨.last 0, .last 0, .last (n / 16), .last n⟩

lemma chars_controlCode :
    ∀ n < 32, (controlCode n).chars =
      ['0', '0', Nat.digitChar (n / 16), Nat.digitChar (n % 16)] := by
  decide

lemma value_controlCode : ∀ n < 32, (controlCode n).value = n := by
  decide

/-- How a character is spelled where nothing speaks for another spelling. -/
def Glyph.usual (c : Char) : Glyph :=
  if quote : c = '"' then .escape .quote
  else if backslash : c = '\\' then .escape .backslash
  else if c = '\x08' then .escape .backspace
  else if c = '\t' then .escape .tab
  else if c = '\n' then .escape .lineFeed
  else if c = '\x0c' then .escape .formFeed
  else if c = '\r' then .escape .carriageReturn
  else if control : c.toNat < 32 then .code (controlCode c.toNat)
  else .plain c ⟨quote, backslash, Nat.not_lt.1 control⟩

lemma write_usual (c : Char) : (Glyph.usual c).write = writeChar c := by
  unfold Glyph.usual writeChar
  split_ifs with _ _ _ _ _ _ _ control
  all_goals try rfl
  rw [Glyph.write, chars_controlCode _ control]
  rfl

lemma chars?_control {n : Nat} (control : n < 32) (gs : List Glyph) :
    chars? (.code (controlCode n) :: gs) = (chars? gs).map (Char.ofNat n :: ·) := by
  have trailing : isTrailingSurrogate n = false := by
    simp [isTrailingSurrogate]
    omega
  have leading : isLeadingSurrogate n = false := by
    simp [isLeadingSurrogate]
    omega
  simp [chars?.eq_def (.code (controlCode n) :: gs), value_controlCode n control, trailing, leading]

lemma chars?_usual (c : Char) (gs : List Glyph) :
    chars? (Glyph.usual c :: gs) = (chars? gs).map (c :: ·) := by
  unfold Glyph.usual
  split_ifs with h h h h h h h control
  all_goals try (subst h; rfl)
  · rw [chars?_control control, Char.ofNat_toNat]
  · rfl

/-- The usual spelling of a text. -/
def spell (cs : List Char) : List Glyph :=
  cs.map Glyph.usual

theorem writeGlyphs_spell (cs : List Char) : writeGlyphs (spell cs) = writeText cs := by
  simp [writeGlyphs, writeText, spell, List.flatMap_map, write_usual]

/-- A spelled text is the text that was to be spelled. -/
theorem chars?_spell (cs : List Char) : chars? (spell cs) = some cs := by
  induction cs with
  | nil => rfl
  | cons c cs ih => rw [spell, List.map_cons, chars?_usual, ← spell, ih, Option.map_some]

/-! ## Numbers -/

lemma leading_ofNat {n : Nat} {ds : List Char} (h : Decimal.ofNat n = '0' :: ds) : ds = [] := by
  fun_induction Decimal.ofNat n generalizing ds with
  | case1 n small => exact (List.cons.inj h).2.symm
  | case2 n big ih =>
    -- The digits before the last one would begin with a zero as well, so they would denote zero.
    cases front : Decimal.ofNat (n / 10) with
    | nil => exact absurd front (Decimal.ofNat_ne_nil _)
    | cons c cs =>
      rw [front, List.cons_append] at h
      obtain ⟨rfl, -⟩ := List.cons.inj h
      have zero := Decimal.value_ofNat (n / 10)
      rw [front, ih front] at zero
      have : Decimal.value ['0'] = 0 := rfl
      omega

/-- The digits of a number. -/
def Digits.ofNat (n : Nat) : Digits :=
  ⟨Decimal.ofNat n, Decimal.ofNat_ne_nil n, fun _ => Decimal.isDigit_of_mem_ofNat⟩

/-- The usual spelling of an integer. -/
def Numeral.ofInt (i : Int) : Numeral where
  negative := decide (i < 0)
  integer := .ofNat i.natAbs
  leading _ := leading_ofNat
  fraction := none
  exponent := none

theorem Numeral.write_ofInt (i : Int) : (ofInt i).write = Decimal.ofInt i := by
  have unsigned : (ofInt i).unsigned = Decimal.ofNat i.natAbs := List.append_nil _
  rw [write, unsigned]
  cases i with
  | ofNat n => rfl
  | negSucc n => exact if_pos (decide_eq_true (Int.negSucc_lt_zero n))

theorem Numeral.integer?_ofInt (i : Int) : (ofInt i).integer? = some i := by
  have magnitude : (ofInt i).magnitude = i.natAbs := Decimal.value_ofNat i.natAbs
  have whole : ¬((ofInt i).fraction.isSome ∨ (ofInt i).exponent.isSome ∨
      ((ofInt i).negative ∧ i.natAbs = 0)) := by
    rintro (fraction | exponent | ⟨negative, zero⟩)
    · cases fraction
    · cases exponent
    · have := of_decide_eq_true negative
      omega
  have sign : (ofInt i).negative = decide (i < 0) := rfl
  rw [integer?, magnitude, if_neg whole, sign, Option.some.injEq]
  by_cases negative : i < 0
  · rw [if_pos (decide_eq_true negative)]
    omega
  · rw [if_neg (by simpa using negative)]
    omega

namespace Scalar

def ofCount (n : UInt64) : Scalar :=
  .number (.ofInt n.toNat)

def ofInteger (i : Int64) : Scalar :=
  .number (.ofInt i.toInt)

def ofString (s : String) : Scalar :=
  .text (spell s.toList)

theorem count?_ofCount (n : UInt64) : (ofCount n).count? = some n := by
  have lt := n.toNat_lt
  rw [ofCount, count?, Numeral.within?_eq_some (Numeral.integer?_ofInt _)]
  · simp
  · exact Int.natCast_nonneg _
  · simp only [Decimal.Range.count]
    omega

theorem integer?_ofInteger (i : Int64) : (ofInteger i).integer? = some i := by
  have le := i.le_toInt
  have lt := i.toInt_lt
  rw [ofInteger, integer?, Numeral.within?_eq_some (Numeral.integer?_ofInt _)]
  · simp
  · simp only [Decimal.Range.integer]
    omega
  · simp only [Decimal.Range.integer]
    omega

theorem string?_ofString (s : String) : (ofString s).string? = some s := by
  rw [ofString, string?, chars?_spell, Option.map_some, String.ofList_toList]

end Scalar

end TaskCrew.Json
