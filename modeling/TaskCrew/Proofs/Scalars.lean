import Mathlib.Tactic.Common
import TaskCrew.Proofs.Grammar

/-!
# Reading values without brackets

What was written is read back, and what follows it is left. A reader stops where its value ends, so for
numbers the text has to go on with something that is no part of a number; within a document it always does.

* `skipBlank_token` — blanks are passed over up to the token after them;
* `readText_glyphs`, `passText_glyphs` — text values, which need not stand for characters to be passed over;
* `EndsNumber`, `passNumber_unsigned` — numbers that nobody wants;
* `Taken`, `taken_readNumber` — what a spelled number is read as;
* `passScalar_write`, `readCount_scalar`, … — a value is passed over, or read as a value of a wanted type
  exactly if it can be taken for one.

The faults of the readers are not told here, only that there is one; `toOption` forgets which.
-/

namespace TaskCrew.Json

/-! ## Readings without their faults -/

lemma toOption_map {α β : Type} (f : α → β) (r : Except Fault α) :
    (r.map f).toOption = r.toOption.map f := by
  cases r <;> rfl

lemma toOption_eq_some {α : Type} {r : Except Fault α} {x : α} : r.toOption = some x ↔ r = .ok x := by
  cases r <;> simp [Except.toOption]

lemma toOption_eq_none {α : Type} {r : Except Fault α} : r.toOption = none ↔ ∃ f, r = .error f := by
  cases r <;> simp [Except.toOption]

/-! ## Blanks -/

@[simp] lemma skipBlank_append (b : Blank) (cs : List Char) : skipBlank (b.text ++ cs) = skipBlank cs :=
  List.dropWhile_append_of_pos b.separates

lemma skipBlank_cons {c : Char} (h : isSeparator c = false) (cs : List Char) :
    skipBlank (c :: cs) = c :: cs :=
  List.dropWhile_cons_of_neg (by simp [h])

/-- Blanks are passed over up to the token after them. -/
lemma skipBlank_token (b : Blank) {c : Char} (h : isSeparator c = false) (cs : List Char) :
    skipBlank (b.text ++ c :: cs) = c :: cs := by
  rw [skipBlank_append, skipBlank_cons h]

/-! ## Text values -/

lemma hexValue?_char (d : HexDigit) : hexValue? d.char = some d.value := by
  obtain ⟨value, upper⟩ := d
  revert value upper
  decide

lemma readCode_chars (n : HexCode) (rest : List Char) :
    readCode (n.chars ++ rest) = .ok (n.value, rest) := by
  simp [readCode, HexCode.chars, HexCode.value, hexCode?, hexValue?_char]

lemma readEscape_letter (e : Escape) (rest : List Char) :
    readEscape (e.letter :: rest) = .ok (e.char, rest) := by
  cases e <;> rfl

lemma passEscape_letter (e : Escape) (rest : List Char) :
    passEscape (e.letter :: rest) = .ok rest := by
  cases e <;> rfl

lemma passEscape_code (n : HexCode) (rest : List Char) :
    passEscape ('u' :: n.chars ++ rest) = .ok rest := by
  rw [List.cons_append, passEscape, readCode_chars]
  rfl

variable {done : List Char} {c : Char} {cs rest : List Char}

lemma readTextFrom_plain (plain : IsPlain c) :
    readTextFrom done (c :: cs) = readTextFrom (c :: done) cs := by
  obtain ⟨quote, backslash, printable⟩ := plain
  rw [readTextFrom]
  · exact if_neg (Nat.not_lt.2 printable)
  · exact quote
  · exact backslash

lemma readTextFrom_escape (h : readEscape cs = .ok (c, rest)) :
    readTextFrom done ('\\' :: cs) = readTextFrom (c :: done) rest := by
  rw [readTextFrom]
  split
  · next hf => rw [h] at hf; cases hf
  · next hc => rw [h] at hc; cases hc; rfl

lemma readTextFrom_escape_error {f : Fault} (h : readEscape cs = .error f) :
    readTextFrom done ('\\' :: cs) = .error f := by
  rw [readTextFrom]
  split
  · next hf => rw [h] at hf; cases hf; rfl
  · next hc => rw [h] at hc; cases hc

lemma passText_plain (plain : IsPlain c) : passText (c :: cs) = passText cs := by
  obtain ⟨quote, backslash, printable⟩ := plain
  rw [passText]
  · exact if_neg (Nat.not_lt.2 printable)
  · exact quote
  · exact backslash

lemma passText_escape (h : passEscape cs = .ok rest) : passText ('\\' :: cs) = passText rest := by
  rw [passText]
  split
  · next hf => rw [h] at hf; cases hf
  · next hc => rw [h] at hc; cases hc; rfl

/-! ### Codes -/

variable {n m : HexCode}

lemma readCodeChar_of_trailing (h : isTrailingSurrogate n.value = true) :
    readCodeChar (n.chars ++ cs) = .error (.before .loneSurrogate cs) := by
  rw [readCodeChar, readCode_chars]
  exact if_pos h

lemma readCodeChar_of_single (trailing : isTrailingSurrogate n.value = false)
    (leading : isLeadingSurrogate n.value = false) :
    readCodeChar (n.chars ++ cs) = .ok (Char.ofNat n.value, cs) := by
  simp [readCodeChar, readCode_chars, trailing, leading]

lemma readCodeChar_of_pair (leading : isLeadingSurrogate n.value = true)
    (single : isTrailingSurrogate n.value = false) (trailing : isTrailingSurrogate m.value = true) :
    readCodeChar (n.chars ++ ((Glyph.code m).write ++ cs)) =
      .ok (Char.ofNat (0x10000 + 1024 * (n.value - 0xd800) + (m.value - 0xdc00)), cs) := by
  simp [readCodeChar, readCode_chars, Glyph.write, leading, single, trailing]

lemma readCodeChar_of_unpaired (leading : isLeadingSurrogate n.value = true)
    (single : isTrailingSurrogate n.value = false) (trailing : isTrailingSurrogate m.value = false) :
    readCodeChar (n.chars ++ ((Glyph.code m).write ++ cs)) = .error (.before .loneSurrogate cs) := by
  simp [readCodeChar, readCode_chars, Glyph.write, leading, single, trailing]

/-- A leading surrogate is no character unless a code comes next. -/
lemma readCodeChar_of_alone (leading : isLeadingSurrogate n.value = true)
    (alone : ∀ rest, cs ≠ '\\' :: 'u' :: rest) : ∃ f, readCodeChar (n.chars ++ cs) = .error f := by
  rw [readCodeChar, readCode_chars]
  simp only [leading, if_true]
  split
  · exact ⟨_, rfl⟩
  · split
    · exact absurd rfl (alone _)
    all_goals exact ⟨_, rfl⟩

lemma alone_of_ne_code {gs : List Glyph} (h : ∀ m gs', gs ≠ .code m :: gs') (rest : List Char) :
    ∀ cs, gs.flatMap Glyph.write ++ '"' :: rest ≠ '\\' :: 'u' :: cs := by
  intro cs eq
  cases gs with
  | nil => simp at eq
  | cons g gs =>
    cases g with
    | plain c plain =>
      rw [List.flatMap_cons, Glyph.write, List.append_assoc] at eq
      exact plain.2.1 (List.cons.inj eq).1
    | escape e => cases e <;> simp [Glyph.write, Escape.letter] at eq
    | code m => exact h m gs rfl

/-! ### Whole text values -/

lemma flatMap_write_cons (g : Glyph) (gs : List Glyph) (rest : List Char) :
    (g :: gs).flatMap Glyph.write ++ rest = g.write ++ (gs.flatMap Glyph.write ++ rest) := by
  rw [List.flatMap_cons, List.append_assoc]

lemma readTextFrom_code (h : readCodeChar (n.chars ++ cs) = .ok (c, rest)) :
    readTextFrom done ((Glyph.code n).write ++ cs) = readTextFrom (c :: done) rest :=
  readTextFrom_escape h

lemma readTextFrom_code_error {f : Fault} (h : readCodeChar (n.chars ++ cs) = .error f) :
    readTextFrom done ((Glyph.code n).write ++ cs) = .error f :=
  readTextFrom_escape_error h

lemma map_reverse_cons (o : Option (List Char)) :
    (o.map fun cs => ((c :: done).reverse ++ cs, rest)) =
      (o.map (c :: ·)).map fun cs => (done.reverse ++ cs, rest) := by
  cases o <;> simp

/-- The characters of a text value are read from its spelling, if it stands for any. -/
theorem readTextFrom_glyphs (gs : List Glyph) (done rest : List Char) :
    (readTextFrom done (gs.flatMap Glyph.write ++ '"' :: rest)).toOption =
      (chars? gs).map fun cs => (done.reverse ++ cs, rest) := by
  fun_induction chars? gs generalizing done with
  | case1 => simp [readTextFrom, Except.toOption]
  | case2 c plain gs ih =>
    rw [flatMap_write_cons, ← map_reverse_cons, ← ih]
    exact congrArg _ (readTextFrom_plain plain)
  | case3 e gs ih =>
    rw [flatMap_write_cons, ← map_reverse_cons, ← ih]
    exact congrArg _ (readTextFrom_escape (readEscape_letter e _))
  | case4 n gs trailing =>
    rw [flatMap_write_cons, readTextFrom_code_error (readCodeChar_of_trailing trailing)]
    rfl
  | case5 n single leading m gs trailing ih =>
    rw [flatMap_write_cons, flatMap_write_cons, ← map_reverse_cons, ← ih,
      readTextFrom_code (readCodeChar_of_pair leading (Bool.eq_false_iff.2 single) trailing)]
  | case6 n single leading m gs trailing =>
    rw [flatMap_write_cons, flatMap_write_cons, readTextFrom_code_error (readCodeChar_of_unpaired
      leading (Bool.eq_false_iff.2 single) (Bool.eq_false_iff.2 trailing))]
    rfl
  | case7 n gs single leading alone =>
    obtain ⟨f, fault⟩ := readCodeChar_of_alone leading (alone_of_ne_code alone rest)
    rw [flatMap_write_cons, readTextFrom_code_error fault]
    rfl
  | case8 n gs single leading ih =>
    rw [flatMap_write_cons, ← map_reverse_cons, ← ih, readTextFrom_code (readCodeChar_of_single
      (Bool.eq_false_iff.2 single) (Bool.eq_false_iff.2 leading))]

lemma writeGlyphs_append (gs : List Glyph) (rest : List Char) :
    writeGlyphs gs ++ rest = '"' :: (gs.flatMap Glyph.write ++ '"' :: rest) := by
  simp [writeGlyphs]

theorem readText_glyphs (gs : List Glyph) (rest : List Char) :
    (readText (gs.flatMap Glyph.write ++ '"' :: rest)).toOption =
      (chars? gs).map fun cs => (cs, rest) :=
  readTextFrom_glyphs gs [] rest

/-- Any spelling of a text value is passed over, whatever it stands for. -/
theorem passText_glyphs (gs : List Glyph) (rest : List Char) :
    passText (gs.flatMap Glyph.write ++ '"' :: rest) = .ok rest := by
  induction gs with
  | nil => simp [passText]
  | cons g gs ih =>
    rw [flatMap_write_cons]
    cases g with
    | plain c plain => exact (passText_plain plain).trans ih
    | escape e => exact (passText_escape (passEscape_letter e _)).trans ih
    | code n => exact (passText_escape (passEscape_code n _)).trans ih

/-! ## Numbers -/

/-- A text that does not go on with digits. -/
def EndsDigits (cs : List Char) : Prop :=
  ∀ c ∈ cs.head?, c.isDigit = false

/-- A text that does not go on with the number before it. -/
def EndsNumber (cs : List Char) : Prop :=
  ∀ c ∈ cs.head?, c.isDigit = false ∧ c ≠ '.' ∧ c ≠ 'e' ∧ c ≠ 'E'

lemma EndsNumber.endsDigits (h : EndsNumber cs) : EndsDigits cs :=
  fun c mem => (h c mem).1

lemma endsNumber_cons (h : c.isDigit = false ∧ c ≠ '.' ∧ c ≠ 'e' ∧ c ≠ 'E') : EndsNumber (c :: cs) := by
  intro d mem
  cases mem
  exact h

/-- A number ends at a blank. -/
lemma EndsNumber.blank (b : Blank) (h : EndsNumber cs) : EndsNumber (b.text ++ cs) := by
  cases hb : b.text with
  | nil => exact h
  | cons d ds =>
    have separator : isSeparator d = true := b.separates d (by simp [hb])
    simp only [isSeparator, Bool.or_eq_true, beq_iff_eq] at separator
    refine endsNumber_cons ?_
    rcases separator with ((rfl | rfl) | rfl) | rfl <;> decide

variable (ds : Digits)

lemma digits_eq_nil (h : EndsDigits cs) : digits cs = [] := by
  cases cs with
  | nil => rfl
  | cons c cs => simp [digits, h c rfl]

lemma digits_append (h : EndsDigits cs) : digits (ds.text ++ cs) = ds.text := by
  rw [digits, List.takeWhile_append_of_pos ds.isDigit]
  cases cs with
  | nil => simp
  | cons c cs => simp [h c rfl]

lemma afterDigits_append (h : EndsDigits cs) : afterDigits (ds.text ++ cs) = cs := by
  rw [afterDigits, List.dropWhile_append_of_pos ds.isDigit]
  cases cs with
  | nil => rfl
  | cons c cs => simp [h c rfl]

lemma Digits.exists_cons : ∃ c cs, ds.text = c :: cs ∧ c.isDigit = true := by
  cases h : ds.text with
  | nil => exact absurd h ds.ne_nil
  | cons c cs => exact ⟨c, cs, rfl, ds.isDigit c (by simp [h])⟩

lemma exponentSign_digits : exponentSign (ds.text ++ cs) = (false, ds.text ++ cs) := by
  obtain ⟨c, ds', eq, digit⟩ := ds.exists_cons
  rw [eq, List.cons_append, exponentSign]
  · rintro rest ⟨⟩
    exact absurd digit (by decide)
  · rintro rest ⟨⟩
    exact absurd digit (by decide)

lemma exponentSign_signed (e : Exponent) :
    exponentSign (e.signed ++ cs) = (e.sign.getD false, e.digits.text ++ cs) := by
  rw [Exponent.signed]
  split
  · next h => rw [h, exponentSign_digits]; rfl
  · next h => rw [h]; rfl
  · next h => rw [h]; rfl

/-! ### Numbers that nobody wants -/

lemma passExponent_signed (e : Exponent) (h : EndsDigits cs) : passExponent (e.signed ++ cs) = .ok cs := by
  obtain ⟨c, ds, eq, digit⟩ := e.digits.exists_cons
  have after := afterDigits_append e.digits h
  rw [passExponent, exponentSign_signed]
  rw [eq, List.cons_append, afterDigits, List.dropWhile_cons_of_pos digit] at after
  simp only [eq, List.cons_append]
  rw [if_pos digit, afterDigits, after]

lemma passTail_of_ends (h : EndsNumber cs) : passTail cs = .ok cs := by
  rw [passTail]
  · rintro rest rfl
    exact absurd rfl (h 'e' rfl).2.2.1
  · rintro rest rfl
    exact absurd rfl (h 'E' rfl).2.2.2

lemma passTail_write (e : Option Exponent) (h : EndsNumber cs) :
    passTail (writeExponent e ++ cs) = .ok cs := by
  cases e with
  | none => exact passTail_of_ends h
  | some e =>
    rw [← passExponent_signed e h.endsDigits, writeExponent]
    cases e.capital <;> rfl

/-- Before an exponent, or where a number ends, stands neither a digit nor a point. -/
lemma head_writeExponent (e : Option Exponent) (h : EndsNumber cs) :
    ∀ c ∈ (writeExponent e ++ cs).head?, c.isDigit = false ∧ c ≠ '.' := by
  intro c mem
  cases e with
  | none => exact ⟨(h c mem).1, (h c mem).2.1⟩
  | some e =>
    obtain rfl : (if e.capital then 'E' else 'e') = c := Option.some.inj mem
    cases e.capital <;> decide

lemma endsDigits_tail (x : Numeral) (h : EndsNumber cs) : EndsDigits (x.tail ++ cs) := by
  rw [Numeral.tail, List.append_assoc]
  cases x.fraction with
  | none => exact fun c mem => (head_writeExponent x.exponent h c mem).1
  | some ds =>
    intro c mem
    cases mem
    decide

lemma passFraction_tail (x : Numeral) (h : EndsNumber cs) : passFraction (x.tail ++ cs) = .ok cs := by
  have head := head_writeExponent x.exponent h
  rw [Numeral.tail, List.append_assoc]
  cases x.fraction with
  | none =>
    rw [writeFraction, List.nil_append, passFraction]
    · exact passTail_write x.exponent h
    · intro rest point
      rw [point] at head
      exact (head '.' rfl).2 rfl
  | some ds =>
    have ends : EndsDigits (writeExponent x.exponent ++ cs) := fun c mem => (head c mem).1
    rw [writeFraction, List.cons_append, passFraction, digits_append ds ends,
      afterDigits_append ds ends]
    split
    · next nil => exact absurd nil ds.ne_nil
    · exact passTail_write x.exponent h

/-- Every spelled number is passed over. -/
theorem passNumber_unsigned (x : Numeral) (h : EndsNumber cs) :
    passNumber (x.unsigned ++ cs) = .ok cs := by
  have ends := endsDigits_tail x h
  have fraction := passFraction_tail x h
  have after := afterDigits_append x.integer ends
  obtain ⟨c, ds, eq, digit⟩ := x.integer.exists_cons
  rw [Numeral.unsigned, List.append_assoc, eq, List.cons_append]
  by_cases zero : c = '0'
  · subst zero
    obtain rfl := x.leading ds eq
    rw [List.nil_append, passNumber, digits_eq_nil ends]
    exact fraction
  · rw [eq, List.cons_append, afterDigits, List.dropWhile_cons_of_pos digit] at after
    rw [passNumber]
    · rw [if_pos digit, afterDigits, after]
      exact fraction
    · exact zero

/-! ### Numbers that are wanted -/

/-- Digits read on from a number. -/
def readOn (n : Nat) (ds : List Char) : Nat :=
  ds.foldl (fun n c => 10 * n + Decimal.digitValue c) n

lemma le_readOn (n : Nat) (ds : List Char) : n ≤ readOn n ds := by
  induction ds generalizing n with
  | nil => exact Nat.le_refl n
  | cons d ds ih =>
    have := ih (10 * n + Decimal.digitValue d)
    rw [readOn] at this ⊢
    rw [List.foldl_cons]
    omega

/-- Digits are absorbed as long as the number fits 64 bits. -/
lemma absorb_eq (n : Nat) (ds : List Char) (fits : (readOn n ds : Int) ≤ Decimal.Range.count.greatest) :
    absorb n ds = (readOn n ds, 0) := by
  induction ds generalizing n with
  | nil => rfl
  | cons d ds ih =>
    have le := le_readOn (10 * n + Decimal.digitValue d) ds
    have eq : readOn n (d :: ds) = readOn (10 * n + Decimal.digitValue d) ds := rfl
    rw [eq] at fits ⊢
    rw [absorb, if_pos (by omega), ih _ fits]

lemma absorb_left_pos (n : Nat) (ds : List Char) (start : (n : Int) ≤ Decimal.Range.count.greatest)
    (exceeds : Decimal.Range.count.greatest < readOn n ds) : (absorb n ds).2 ≠ 0 := by
  induction ds generalizing n with
  | nil => exact absurd start (Int.not_le.2 exceeds)
  | cons d ds ih =>
    rw [absorb]
    by_cases fits : ((10 * n + Decimal.digitValue d : Nat) : Int) ≤ Decimal.Range.count.greatest
    · rw [if_pos fits]
      exact ih _ fits exceeds
    · rw [if_neg fits]
      exact Nat.succ_ne_zero _

/-- A number is read by its integer digits first, and then by what follows them. -/
lemma readNumber_unsigned (x : Numeral) (h : EndsNumber cs) :
    readNumber x.negative (x.unsigned ++ cs) =
      finishNumber x.negative (absorb 0 x.integer.text).1 (absorb 0 x.integer.text).2
        (x.tail ++ cs) := by
  have ends := endsDigits_tail x h
  have after := afterDigits_append x.integer ends
  have whole := digits_append x.integer ends
  obtain ⟨c, ds, eq, digit⟩ := x.integer.exists_cons
  rw [Numeral.unsigned, List.append_assoc]
  by_cases zero : c = '0'
  · subst zero
    obtain rfl := x.leading ds eq
    rw [eq, List.cons_append, List.nil_append, readNumber, digits_eq_nil ends]
    rfl
  · rw [eq, List.cons_append] at after whole ⊢
    rw [readNumber, if_pos digit, whole, after]
    exact zero

lemma floatOf_isFloat {negative : Bool} {k : Nat} {e : Int} {y : Number}
    (h : floatOf negative k e cs = .ok (y, rest)) : ∃ f, y = .float f := by
  rw [floatOf] at h
  split at h
  · cases h
    exact ⟨_, rfl⟩
  · cases h

lemma readExponent_isFloat {negative : Bool} {k : Nat} {e : Int} {y : Number}
    (h : readExponent negative k e cs = .ok (y, rest)) : ∃ f, y = .float f := by
  rw [readExponent] at h
  simp only at h
  split at h
  · cases h
  · split at h
    · cases h
    · split at h
      · exact floatOf_isFloat h
      · split at h
        · cases h
        · cases h
          exact ⟨_, rfl⟩

lemma readFraction_isFloat {negative : Bool} {k : Nat} {e : Int} {y : Number}
    (h : readFraction negative k e cs = .ok (y, rest)) : ∃ f, y = .float f := by
  rw [readFraction] at h
  split at h
  · cases h
  · simp only at h
    split at h
    · exact readExponent_isFloat h
    · exact readExponent_isFloat h
    · exact floatOf_isFloat h

lemma finishNumber_of_ends (h : EndsNumber cs) (negative : Bool) (k dropped : Nat) :
    finishNumber negative k dropped cs =
      if dropped ≠ 0 then floatOf negative k dropped cs
      else if !negative then .ok (.count k, cs)
      else if k = 0 ∨ -(k : Int) < Decimal.Range.integer.least then
        .ok (.float (-(UInt64.ofNat k).toFloat), cs)
      else .ok (.negative k, cs) := by
  rw [finishNumber]
  · rintro rest rfl
    exact (h '.' rfl).2.1 rfl
  · rintro rest rfl
    exact (h 'e' rfl).2.2.1 rfl
  · rintro rest rfl
    exact (h 'E' rfl).2.2.2 rfl

/-- A number with a fraction or an exponent is taken for a floating point number. -/
lemma finishNumber_tail_isFloat (x : Numeral) (part : x.fraction.isSome ∨ x.exponent.isSome)
    {negative : Bool} {k dropped : Nat} {y : Number}
    (h : finishNumber negative k dropped (x.tail ++ cs) = .ok (y, rest)) : ∃ f, y = .float f := by
  rw [Numeral.tail] at h
  cases hf : x.fraction with
  | some ds =>
    rw [hf, writeFraction, List.cons_append, List.cons_append, finishNumber] at h
    exact readFraction_isFloat h
  | none =>
    cases he : x.exponent with
    | none => simp [hf, he] at part
    | some e =>
      rw [hf, he, writeFraction, List.nil_append, writeExponent] at h
      cases hc : e.capital <;> rw [hc] at h <;> exact readExponent_isFloat h

/-- What a spelled number is read as: a count or a negative integer if it is spelled as an integer that
fits 64 bits, and otherwise a floating point number or nothing. -/
inductive Taken (x : Numeral) (cs : List Char) : Reading Number → Prop
  | count {k : Nat} (spelled : x.integer? = some k) (fits : (k : Int) ≤ Decimal.Range.count.greatest) :
    Taken x cs (.ok (.count k, cs))
  | negative {k : Nat} (spelled : x.integer? = some (-(k : Int))) (pos : k ≠ 0)
    (fits : Decimal.Range.integer.least ≤ -(k : Int)) : Taken x cs (.ok (.negative k, cs))
  | float (f : Float) (rest : List Char) (outside : ∀ i, x.integer? = some i →
      i < Decimal.Range.integer.least ∨ Decimal.Range.count.greatest < i) :
    Taken x cs (.ok (.float f, rest))
  | fault (f : Fault) (outside : ∀ i, x.integer? = some i →
      i < Decimal.Range.integer.least ∨ Decimal.Range.count.greatest < i) :
    Taken x cs (.error f)

lemma taken_of_isFloat {x : Numeral} {r : Reading Number}
    (outside : ∀ i, x.integer? = some i →
      i < Decimal.Range.integer.least ∨ Decimal.Range.count.greatest < i)
    (h : ∀ y rest, r = .ok (y, rest) → ∃ f, y = .float f) : Taken x cs r := by
  cases r with
  | error f => exact .fault f outside
  | ok p =>
    obtain ⟨y, rest⟩ := p
    obtain ⟨f, rfl⟩ := h y rest rfl
    exact .float f rest outside

theorem taken_readNumber (x : Numeral) (h : EndsNumber cs) :
    Taken x cs (readNumber x.negative (x.unsigned ++ cs)) := by
  rw [readNumber_unsigned x h]
  by_cases part : x.fraction.isSome ∨ x.exponent.isSome
  · refine taken_of_isFloat ?_ fun y rest => finishNumber_tail_isFloat x part
    simp [Numeral.integer?, ← or_assoc, part]
  obtain ⟨noFraction, noExponent⟩ := not_or.1 part
  rw [Option.not_isSome_iff_eq_none] at noFraction noExponent
  have tail : x.tail ++ cs = cs := by
    rw [Numeral.tail, noFraction, noExponent]
    rfl
  have magnitude : readOn 0 x.integer.text = x.magnitude := rfl
  have integer : x.integer? = if x.negative ∧ x.magnitude = 0 then none
      else some (if x.negative then -(x.magnitude : Int) else (x.magnitude : Int)) := by
    simp [Numeral.integer?, noFraction, noExponent]
  rw [tail, finishNumber_of_ends h]
  by_cases fits : (x.magnitude : Int) ≤ Decimal.Range.count.greatest
  · rw [absorb_eq 0 x.integer.text (by rwa [magnitude]), magnitude, if_neg (by simp)]
    cases negative : x.negative with
    | false => exact .count (by simp [integer, negative]) fits
    | true =>
      rw [negative] at integer
      by_cases small : x.magnitude = 0 ∨ -(x.magnitude : Int) < Decimal.Range.integer.least
      · simp only [Bool.not_true, Bool.false_eq_true, if_false, if_pos small]
        refine .float _ _ ?_
        intro i spelled
        rw [integer] at spelled
        by_cases zero : x.magnitude = 0
        · simp [zero] at spelled
        · simp only [zero, and_false, if_false, if_true, Option.some.injEq] at spelled
          exact .inl (spelled ▸ small.resolve_left zero)
      · simp only [Bool.not_true, Bool.false_eq_true, if_false, if_neg small]
        obtain ⟨pos, least⟩ := not_or.1 small
        exact .negative (by simp [integer, pos]) pos (Int.not_lt.1 least)
  · have exceeds := absorb_left_pos 0 x.integer.text (by decide) (by rw [magnitude]; omega)
    rw [if_pos exceeds]
    refine taken_of_isFloat ?_ fun y rest => floatOf_isFloat
    intro i spelled
    rw [integer] at spelled
    simp only [Decimal.Range.count, Decimal.Range.integer] at fits ⊢
    split at spelled
    · cases spelled
    · cases spelled
      split <;> omega

/-! ## Values without brackets -/

/-- A character that is neither a blank nor the end of a list or an object. -/
def Begins (c : Char) : Prop :=
  isSeparator c = false ∧ c ≠ ']' ∧ c ≠ '\x7d'

instance (c : Char) : Decidable (Begins c) :=
  inferInstanceAs (Decidable (_ ∧ _))

lemma ne_of_isDigit {d : Char} (digit : c.isDigit = true) (h : d.isDigit = false) : c ≠ d := by
  rintro rfl
  rw [digit] at h
  cases h

lemma begins_of_isDigit (digit : c.isDigit = true) : Begins c := by
  refine ⟨?_, ne_of_isDigit digit (by decide), ne_of_isDigit digit (by decide)⟩
  cases separator : isSeparator c with
  | false => rfl
  | true =>
    simp only [isSeparator, Bool.or_eq_true, beq_iff_eq] at separator
    rcases separator with ((rfl | rfl) | rfl) | rfl <;> exact absurd digit (by decide)

lemma Numeral.exists_cons (x : Numeral) :
    ∃ c cs, x.write = c :: cs ∧ (c = '-' ∨ c.isDigit = true) := by
  obtain ⟨c, ds, eq, digit⟩ := x.integer.exists_cons
  rw [write]
  by_cases negative : x.negative
  · exact ⟨_, _, if_pos negative, .inl rfl⟩
  · refine ⟨c, ds ++ x.tail, ?_, .inr digit⟩
    rw [if_neg negative, unsigned, eq, List.cons_append]

lemma Scalar.exists_cons (x : Scalar) :
    ∃ c cs, x.write = c :: cs ∧ Begins c ∧ c ≠ '[' ∧ c ≠ '\x7b' := by
  cases x with
  | null => exact ⟨_, _, rfl, by decide⟩
  | bool b => cases b <;> exact ⟨_, _, rfl, by decide⟩
  | text gs => exact ⟨_, _, rfl, by decide⟩
  | number x =>
    obtain ⟨c, cs, eq, rfl | digit⟩ := x.exists_cons
    · exact ⟨_, _, eq, by decide⟩
    · exact ⟨_, _, eq, begins_of_isDigit digit, ne_of_isDigit digit (by decide),
        ne_of_isDigit digit (by decide)⟩

lemma skipBlank_scalar (x : Scalar) (cs : List Char) : skipBlank (x.write ++ cs) = x.write ++ cs := by
  obtain ⟨c, rest, eq, begins, -⟩ := x.exists_cons
  rw [eq]
  exact skipBlank_cons begins.1 _

lemma readLiteral_append (xs cs : List Char) : readLiteral xs (xs ++ cs) = .ok cs := by
  induction xs with
  | nil => rfl
  | cons x xs ih => rw [List.cons_append, readLiteral, if_pos rfl, ih]

/-- Every value without brackets is passed over. -/
theorem passScalar_write (x : Scalar) (h : EndsNumber cs) : passScalar (x.write ++ cs) = .ok cs := by
  cases x with
  | null => exact readLiteral_append ['u', 'l', 'l'] cs
  | bool b =>
    cases b with
    | false => exact readLiteral_append ['a', 'l', 's', 'e'] cs
    | true => exact readLiteral_append ['r', 'u', 'e'] cs
  | text gs =>
    rw [Scalar.write, writeGlyphs_append]
    exact passText_glyphs gs cs
  | number x =>
    have passes := passNumber_unsigned x h
    obtain ⟨c, ds, eq, digit⟩ := x.integer.exists_cons
    rw [Scalar.write, Numeral.write]
    by_cases negative : x.negative
    · rw [if_pos negative]
      exact passes
    · rw [if_neg negative]
      rw [Numeral.unsigned, eq, List.append_assoc, List.cons_append] at passes ⊢
      rw [passScalar]
      · rw [if_pos digit]
        exact passes
      all_goals exact ne_of_isDigit digit (by decide)

/-! ### Values of a wanted type -/

lemma readNumber?_number (x : Numeral) :
    readNumber? (x.write ++ cs) = some (readNumber x.negative (x.unsigned ++ cs)) := by
  obtain ⟨c, ds, eq, digit⟩ := x.integer.exists_cons
  rw [Numeral.write]
  cases negative : x.negative with
  | true => rfl
  | false =>
    rw [if_neg Bool.false_ne_true, Numeral.unsigned, eq, List.append_assoc, List.cons_append,
      readNumber?]
    · exact if_pos digit
    · exact ne_of_isDigit digit (by decide)

lemma Numeral.within?_eq_some {x : Numeral} {i : Int} {r : Decimal.Range} (spelled : x.integer? = some i)
    (least : r.least ≤ i) (greatest : i ≤ r.greatest) : x.within? r = some i := by
  simp [within?, spelled, least, greatest]

lemma Numeral.within?_eq_none {x : Numeral} {r : Decimal.Range}
    (outside : ∀ i, x.integer? = some i → i < r.least ∨ r.greatest < i) : x.within? r = none := by
  rw [within?, Option.filter_eq_none_iff]
  intro i spelled
  have := outside i spelled
  simp only [decide_eq_true_eq]
  omega

variable (b : Blank)

lemma readNumber?_skipBlank (x : Numeral) :
    readNumber? (skipBlank (b.text ++ (x.write ++ cs))) =
      some (readNumber x.negative (x.unsigned ++ cs)) := by
  rw [skipBlank_append, ← readNumber?_number]
  exact congrArg _ (skipBlank_scalar (.number x) cs)

lemma readCount_number (x : Numeral) (h : EndsNumber cs) :
    (readCount (b.text ++ (x.write ++ cs))).toOption = (Scalar.number x).count?.map (·, cs) := by
  have taken := taken_readNumber x h
  simp only [readCount, readNumber?_skipBlank, Scalar.count?]
  generalize readNumber x.negative (x.unsigned ++ cs) = r at taken ⊢
  cases taken with
  | count spelled fits =>
    rw [Numeral.within?_eq_some spelled (Int.natCast_nonneg _) fits]
    rfl
  | negative spelled pos fits =>
    rw [Numeral.within?_eq_none]
    · rfl
    · intro i spelled'
      cases spelled.symm.trans spelled'
      exact .inl (by simp only [Decimal.Range.count]; omega)
  | float f rest outside | fault f outside =>
    rw [Numeral.within?_eq_none]
    · rfl
    · intro i spelled
      exact (outside i spelled).imp_left fun lt => Int.lt_trans lt (by decide)

lemma readInteger_number (x : Numeral) (h : EndsNumber cs) :
    (readInteger (b.text ++ (x.write ++ cs))).toOption = (Scalar.number x).integer?.map (·, cs) := by
  have taken := taken_readNumber x h
  simp only [readInteger, readNumber?_skipBlank, Scalar.integer?]
  generalize readNumber x.negative (x.unsigned ++ cs) = r at taken ⊢
  cases taken with
  | @count k spelled fits =>
    simp only
    by_cases small : (k : Int) ≤ Decimal.Range.integer.greatest
    · rw [if_pos small, Numeral.within?_eq_some spelled (by simp only [Decimal.Range.integer]; omega)
        small]
      rfl
    · rw [if_neg small, Numeral.within?_eq_none]
      · rfl
      · intro i spelled'
        cases spelled.symm.trans spelled'
        exact .inr (Int.not_le.1 small)
  | negative spelled pos fits =>
    rw [Numeral.within?_eq_some spelled fits (by simp only [Decimal.Range.integer]; omega)]
    rfl
  | float f rest outside | fault f outside =>
    rw [Numeral.within?_eq_none]
    · rfl
    · intro i spelled
      exact (outside i spelled).imp_right fun lt => Int.lt_trans (by decide) lt

/-- A value of another kind is no number: it begins with neither a sign nor a digit. -/
lemma readNumber?_scalar {x : Scalar} (other : ∀ n, x ≠ .number n) (cs : List Char) :
    readNumber? (skipBlank (b.text ++ (x.write ++ cs))) = none := by
  rw [skipBlank_append, skipBlank_scalar]
  cases x with
  | number n => exact absurd rfl (other n)
  | null | text gs => rfl
  | bool value => cases value <;> rfl

lemma readCount_of_no_number (h : readNumber? (skipBlank cs) = none) :
    (readCount cs).toOption = none := by
  simp only [readCount, h]
  rfl

lemma readInteger_of_no_number (h : readNumber? (skipBlank cs) = none) :
    (readInteger cs).toOption = none := by
  simp only [readInteger, h]
  rfl

theorem readCount_scalar (x : Scalar) (h : EndsNumber cs) :
    (readCount (b.text ++ (x.write ++ cs))).toOption = x.count?.map (·, cs) := by
  cases x with
  | number x => exact readCount_number b x h
  | null | bool value | text gs => exact readCount_of_no_number (readNumber?_scalar b (by simp) cs)

theorem readInteger_scalar (x : Scalar) (h : EndsNumber cs) :
    (readInteger (b.text ++ (x.write ++ cs))).toOption = x.integer?.map (·, cs) := by
  cases x with
  | number x => exact readInteger_number b x h
  | null | bool value | text gs => exact readInteger_of_no_number (readNumber?_scalar b (by simp) cs)

lemma readCount?_of_ne (h : ∀ rest, skipBlank cs ≠ 'n' :: rest) :
    readCount? cs = (readCount (skipBlank cs)).map fun (n, rest) => (some n, rest) := by
  rw [readCount?]
  split
  · next rest eq => exact absurd eq (h rest)
  · rfl

lemma readName_of_ne (h : ∀ rest, skipBlank cs ≠ '"' :: rest) : (readName cs).toOption = none := by
  rw [readName]
  split
  · next rest eq => exact absurd eq (h rest)
  · rfl

/-- A value that is no number begins with its own letter, and a number with a sign or a digit. -/
lemma Numeral.write_append_ne {d : Char} (x : Numeral) (sign : d ≠ '-') (digit : d.isDigit = false) :
    x.write ++ cs ≠ d :: rest := by
  intro eq
  obtain ⟨c, ds, write, rfl | isDigit⟩ := x.exists_cons
  · rw [write] at eq
    exact sign (List.cons.inj eq).1.symm
  · rw [write] at eq
    rw [(List.cons.inj eq).1, digit] at isDigit
    cases isDigit

theorem readCount?_scalar (x : Scalar) (h : EndsNumber cs) :
    (readCount? (b.text ++ (x.write ++ cs))).toOption = x.countOrNull?.map (·, cs) := by
  by_cases null : x = .null
  · subst null
    rw [readCount?, skipBlank_append, skipBlank_scalar]
    show Except.toOption (Except.map _ (readLiteral ['u', 'l', 'l'] (['u', 'l', 'l'] ++ cs))) = _
    rw [readLiteral_append]
    rfl
  have ne : ∀ rest, skipBlank (b.text ++ (x.write ++ cs)) ≠ 'n' :: rest := by
    intro rest
    rw [skipBlank_append, skipBlank_scalar]
    cases x with
    | null => exact absurd rfl null
    | bool value => cases value <;> exact nofun
    | text gs => exact nofun
    | number x => exact x.write_append_ne (by decide) (by decide)
  have count : (readCount (x.write ++ cs)).toOption = x.count?.map (·, cs) :=
    readCount_scalar .none x h
  rw [readCount?_of_ne ne, skipBlank_append, skipBlank_scalar, toOption_map, count]
  cases x with
  | null => exact absurd rfl null
  | bool value | text gs | number x =>
    rw [Scalar.countOrNull?, Option.map_map, Option.map_map]
    · rfl
    · exact null

theorem readName_scalar (x : Scalar) :
    (readName (b.text ++ (x.write ++ cs))).toOption = x.string?.map (·, cs) := by
  cases x with
  | text gs =>
    rw [readName, skipBlank_append, skipBlank_scalar, Scalar.write, writeGlyphs_append]
    simp only [toOption_map, readText_glyphs, Scalar.string?]
    cases chars? gs <;> rfl
  | null => exact readName_of_ne (by rw [skipBlank_append, skipBlank_scalar]; exact nofun)
  | bool value =>
    refine readName_of_ne ?_
    rw [skipBlank_append, skipBlank_scalar]
    cases value <;> exact nofun
  | number x =>
    refine readName_of_ne fun rest => ?_
    rw [skipBlank_append, skipBlank_scalar]
    exact x.write_append_ne (by decide) (by decide)

end TaskCrew.Json
