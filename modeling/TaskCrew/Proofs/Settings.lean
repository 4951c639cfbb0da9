import TaskCrew.Config.Document
import TaskCrew.Proofs.Passing
import TaskCrew.Proofs.Spelling

/-!
# Settings from values

* `Value.Admissible` — the values that a field has a use for;
* `Value.setting?`, `Value.setting?_isSome` — the setting that a value gives to a field, if it is
  admissible;
* `Setting.scalar`, `Setting.setting?_scalar` — the value of a setting, which gives the setting back;
* `readSetting_write` — a field is read from a value exactly if the value gives it a setting.
-/

namespace TaskCrew

open Json

/-! ## Settings from values -/

namespace Json

/-- The setting that a value gives to a field, if it is a value for it. -/
def Scalar.setting? (x : Scalar) : Config.Field → Option Setting
  | .workerCount => x.count?.map .workerCount
  | .errorLimit => x.integer?.map .errorLimit
  | .queueCapacity => x.countOrNull?.map .queueCapacity
  | .threadStackSize => x.count?.map .threadStackSize
  | .threadNamePrefix => x.string?.map .threadNamePrefix

/-- No field has a list or an object for its value. -/
def Value.setting? (f : Config.Field) : Value → Option Setting
  | .scalar x => x.setting? f
  | .list _ _ | .object _ _ => none

/-- A number that spells a count: nothing but digits, and below `2 ^ 64`. -/
def Numeral.IsCount (x : Numeral) : Prop :=
  x.negative = false ∧ x.fraction = none ∧ x.exponent = none ∧ x.magnitude < UInt64.size

/-- A number that spells a signed integer of 64 bits: digits, perhaps after a minus, but not minus
zero. -/
def Numeral.IsInteger (x : Numeral) : Prop :=
  x.fraction = none ∧ x.exponent = none ∧
    if x.negative then 0 < x.magnitude ∧ x.magnitude ≤ 9223372036854775808
    else x.magnitude ≤ 9223372036854775807

/-- The values that a field has a use for. -/
def Value.Admissible : Config.Field → Value → Prop
  | .workerCount, .scalar (.number x) => x.IsCount
  | .errorLimit, .scalar (.number x) => x.IsInteger
  | .queueCapacity, .scalar .null => True
  | .queueCapacity, .scalar (.number x) => x.IsCount
  | .threadStackSize, .scalar (.number x) => x.IsCount
  | .threadNamePrefix, .scalar (.text gs) => ∃ cs, chars? gs = some cs
  | _, _ => False

lemma Numeral.within?_isSome (x : Numeral) (r : Decimal.Range) :
    (x.within? r).isSome ↔ x.fraction = none ∧ x.exponent = none ∧
      if x.negative then
        0 < x.magnitude ∧ r.least ≤ -(x.magnitude : Int) ∧ -(x.magnitude : Int) ≤ r.greatest
      else r.least ≤ x.magnitude ∧ x.magnitude ≤ r.greatest := by
  rw [within?, integer?]
  cases x.fraction with
  | some ds => simp
  | none =>
    cases x.exponent with
    | some e => simp
    | none =>
      cases x.negative with
      | false => simp
      | true => by_cases zero : x.magnitude = 0 <;> simp [zero, Nat.pos_iff_ne_zero]

lemma Scalar.count?_isSome (x : Numeral) : (number x).count?.isSome ↔ x.IsCount := by
  rw [count?, Option.isSome_map, Numeral.within?_isSome, Numeral.IsCount]
  cases x.negative <;> simp [Decimal.Range.count, UInt64.size] <;> omega

lemma Scalar.integer?_isSome (x : Numeral) : (number x).integer?.isSome ↔ x.IsInteger := by
  rw [integer?, Option.isSome_map, Numeral.within?_isSome, Numeral.IsInteger]
  refine and_congr_right fun _ => and_congr_right fun _ => ?_
  cases x.negative <;> simp only [Decimal.Range.integer, Bool.false_eq_true, if_false, if_true] <;> omega

lemma Numeral.within?_eq_some_iff {x : Numeral} {r : Decimal.Range} {i : Int} :
    x.within? r = some i ↔ x.integer? = some i ∧ r.least ≤ i ∧ i ≤ r.greatest := by
  simp [within?, Option.filter_eq_some_iff]

/-- A number that spells an integer is not minus zero, and the integer has its sign. -/
lemma Numeral.eq_of_integer? {x : Numeral} {i : Int} (h : x.integer? = some i) :
    (i < 0 ↔ x.negative = true) ∧ i = if x.negative then -(x.magnitude : Int) else x.magnitude := by
  rw [integer?, Option.ite_none_left_eq_some] at h
  obtain ⟨spelled, h⟩ := h
  push Not at spelled
  have eq := (Option.some.inj h).symm
  refine ⟨?_, eq⟩
  cases negative : x.negative with
  | false =>
    rw [negative, if_neg Bool.false_ne_true] at eq
    simp only [Bool.false_eq_true, iff_false]
    omega
  | true =>
    have pos := spelled.2.2 negative
    rw [negative, if_pos rfl] at eq
    simp only [iff_true]
    omega

/-- A count is the number that is spelled. -/
lemma Scalar.toNat_of_count? {x : Numeral} {n : UInt64} (h : (number x).count? = some n) :
    n.toNat = x.magnitude := by
  obtain ⟨i, within, rfl⟩ := Option.map_eq_some_iff.1 h
  obtain ⟨spelled, least, greatest⟩ := Numeral.within?_eq_some_iff.1 within
  obtain ⟨sign, eq⟩ := Numeral.eq_of_integer? spelled
  simp only [Decimal.Range.count] at least greatest
  rw [UInt64.toNat_ofNat_of_lt' (by simp only [UInt64.size]; omega)]
  split at eq
  · next negative => exact absurd (sign.2 negative) (by omega)
  · omega

/-- A signed integer is the one that is spelled. -/
lemma Scalar.toInt_of_integer? {x : Numeral} {n : Int64} (h : (number x).integer? = some n) :
    n.toInt = if x.negative then -(x.magnitude : Int) else x.magnitude := by
  obtain ⟨i, within, rfl⟩ := Option.map_eq_some_iff.1 h
  obtain ⟨spelled, least, greatest⟩ := Numeral.within?_eq_some_iff.1 within
  rw [← (Numeral.eq_of_integer? spelled).2]
  exact Int64.toInt_ofInt_of_le least (Int.lt_add_one_of_le greatest)

lemma Scalar.setting?_isSome (f : Config.Field) (x : Scalar) :
    (x.setting? f).isSome ↔ (Value.scalar x).Admissible f := by
  cases f with
  | workerCount | threadStackSize =>
    cases x with
    | number x => rw [setting?, Option.isSome_map, count?_isSome, Value.Admissible]
    | null | bool | text => simp [setting?, count?, Value.Admissible]
  | errorLimit =>
    cases x with
    | number x => rw [setting?, Option.isSome_map, integer?_isSome, Value.Admissible]
    | null | bool | text => simp [setting?, integer?, Value.Admissible]
  | queueCapacity =>
    cases x with
    | number x =>
      rw [setting?, Option.isSome_map, countOrNull?, Option.isSome_map, count?_isSome, Value.Admissible]
      intro null
      cases null
    | null | bool | text => simp [setting?, countOrNull?, count?, Value.Admissible]
  | threadNamePrefix =>
    cases x with
    | text gs => simp [setting?, string?, Value.Admissible, Option.isSome_iff_exists]
    | null | bool | number => simp [setting?, string?, Value.Admissible]

/-- A field can be set to a value exactly if it has a use for it. -/
theorem Value.setting?_isSome (f : Config.Field) (v : Value) :
    (v.setting? f).isSome ↔ v.Admissible f := by
  cases v with
  | scalar x => exact x.setting?_isSome f
  | list | object => simp [setting?, Admissible]

/-- A value gives a setting only to the field that is asked for. -/
lemma Value.field_of_setting? {f : Config.Field} {v : Value} {s : Setting}
    (h : v.setting? f = some s) : s.field = f := by
  cases v with
  | scalar x =>
    cases f <;> obtain ⟨_, -, rfl⟩ := Option.map_eq_some_iff.1 h <;> rfl
  | list | object => cases h

namespace Member

/-- The key of a member, if it is Unicode. -/
def name? (m : Member Value) : Option String :=
  (chars? m.key.item).map String.ofList

/-- The field that a member is for, if there is one. -/
def field? (m : Member Value) : Option Config.Field :=
  m.name?.bind Config.Field.ofKey?

/-- The setting that a member gives. -/
def setting? (m : Member Value) : Option Setting :=
  m.field?.bind fun f => m.value.item.setting? f

end Member

end Json

/-! ## Values from settings -/

namespace Setting

/-- The value of a setting in a document. -/
def scalar : Setting → Scalar
  | .workerCount n => .ofCount n
  | .errorLimit n => .ofInteger n
  | .queueCapacity none => .null
  | .queueCapacity (some n) => .ofCount n
  | .threadStackSize n => .ofCount n
  | .threadNamePrefix text => .ofString text

/-- A setting is read back from its value. -/
theorem setting?_scalar (s : Setting) : s.scalar.setting? s.field = some s := by
  cases s with
  | workerCount n => exact congrArg (Option.map _) (Scalar.count?_ofCount n)
  | errorLimit n => exact congrArg (Option.map _) (Scalar.integer?_ofInteger n)
  | queueCapacity n =>
    cases n with
    | none => rfl
    | some n =>
      have count : (Scalar.ofCount n).countOrNull? = some (some n) :=
        congrArg (Option.map _) (Scalar.count?_ofCount n)
      exact congrArg (Option.map _) count
  | threadStackSize n => exact congrArg (Option.map _) (Scalar.count?_ofCount n)
  | threadNamePrefix text => exact congrArg (Option.map _) (Scalar.string?_ofString text)

end Setting

/-! ## Reading -/

variable {cs rest : List Char} {f : Config.Field}

lemma readSetting_scalar (b : Blank) (x : Scalar) (h : EndsNumber cs) :
    (readSetting f (b.text ++ (x.write ++ cs))).toOption = (x.setting? f).map (·, cs) := by
  cases f with
  | workerCount | threadStackSize =>
    rw [readSetting, toOption_map, readCount_scalar b x h, Scalar.setting?, Option.map_map,
      Option.map_map]
    rfl
  | errorLimit =>
    rw [readSetting, toOption_map, readInteger_scalar b x h, Scalar.setting?, Option.map_map,
      Option.map_map]
    rfl
  | queueCapacity =>
    rw [readSetting, toOption_map, readCount?_scalar b x h, Scalar.setting?, Option.map_map,
      Option.map_map]
    rfl
  | threadNamePrefix =>
    rw [readSetting, toOption_map, readName_scalar b x, Scalar.setting?, Option.map_map,
      Option.map_map]
    rfl

/-- No field takes a value that begins with a bracket. -/
lemma readSetting_bracket {c : Char} (bracket : c = '[' ∨ c = '\x7b') (b : Blank) (cs : List Char) :
    (readSetting f (b.text ++ c :: cs)).toOption = none := by
  have token : isSeparator c = false := by rcases bracket with rfl | rfl <;> rfl
  have number : readNumber? (c :: cs) = none := by rcases bracket with rfl | rfl <;> rfl
  have blank := skipBlank_token b token cs
  have ne {d : Char} (h : d ≠ '[' ∧ d ≠ '\x7b') (rest : List Char) :
      skipBlank (b.text ++ c :: cs) ≠ d :: rest := by
    rw [blank]
    rintro ⟨⟩
    exact bracket.elim h.1 h.2
  cases f with
  | workerCount | threadStackSize =>
    rw [readSetting, toOption_map, readCount_of_no_number (by rw [blank]; exact number)]
    rfl
  | errorLimit =>
    rw [readSetting, toOption_map, readInteger_of_no_number (by rw [blank]; exact number)]
    rfl
  | queueCapacity =>
    rw [readSetting, toOption_map, readCount?_of_ne (ne (by decide)), toOption_map, blank,
      readCount_of_no_number (by rw [skipBlank_cons token]; exact number)]
    rfl
  | threadNamePrefix =>
    rw [readSetting, toOption_map, readName_of_ne (ne (by decide))]
    rfl

/-- The setting of a field is read from a value exactly if it is a value for the field. -/
theorem readSetting_write (b : Blank) (v : Value) (h : EndsNumber cs) :
    (readSetting f (b.text ++ (v.write ++ cs))).toOption = (v.setting? f).map (·, cs) := by
  cases v with
  | scalar x =>
    rw [Value.write_scalar]
    exact readSetting_scalar b x h
  | list es gap =>
    rw [Value.write_list]
    exact readSetting_bracket (.inl rfl) b _
  | object ms gap =>
    rw [Value.write_object]
    exact readSetting_bracket (.inr rfl) b _

end TaskCrew
