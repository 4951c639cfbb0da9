import Mathlib.Data.List.TakeWhile
import TaskCrew.Config.Variables
import TaskCrew.Proofs.Numerals

/-!
# The meaning of variables

* `Framed`, `framed_trim`, `trim_eq` — a text with blanks around it, and what trimming leaves of it;
* `Variable.Holds`, `Variable.read_eq_ok` — the number that a text holds for a variable, which is the
  one that is read;
* `readVariables_accepted`, `readVariables_rejected`, `readVariables_congr` — asking for variables in order,
  to the end or up to the first that holds nothing; nothing else of the lookup matters;
* `Config.IsDefaultBut` — the configuration that has the numbers that are given, and is the default one
  otherwise;
* `ofVariables_lookup` — what the variables of a lookup come to.
-/

namespace TaskCrew

open Decimal (Denotes Range)

/-! ## Texts with blanks around them -/

namespace Text

/-- A text is another one with blanks before and after it. -/
def Framed (cs inner : List Char) : Prop :=
  ∃ before after : List Char, cs = before ++ inner ++ after ∧
    (∀ c ∈ before, isBlank c = true) ∧ ∀ c ∈ after, isBlank c = true

lemma dropWhile_solid {cs : List Char} (h : ∀ c ∈ cs.head?, isBlank c = false) :
    cs.dropWhile isBlank = cs := by
  cases cs with
  | nil => rfl
  | cons c cs => exact List.dropWhile_cons_of_neg (by simp [h c rfl])

theorem framed_trim (cs : List Char) : Framed cs (trim cs) := by
  have front := List.takeWhile_append_dropWhile (p := isBlank) (l := cs)
  have back := congrArg List.reverse
    (List.takeWhile_append_dropWhile (p := isBlank) (l := (trimStart cs).reverse))
  rw [List.reverse_append, List.reverse_reverse] at back
  refine ⟨cs.takeWhile isBlank, ((trimStart cs).reverse.takeWhile isBlank).reverse, ?_, ?_, ?_⟩
  · rw [List.append_assoc, trim, trimEnd, back]
    exact front.symm
  · exact fun c mem => List.mem_takeWhile_imp mem
  · exact fun c mem => List.mem_takeWhile_imp (List.mem_reverse.1 mem)

/-- Trimming leaves what the blanks are around, if there are none in it. -/
theorem trim_eq {cs inner : List Char} (framed : Framed cs inner)
    (solid : ∀ c ∈ inner, isBlank c = false) : trim cs = inner := by
  obtain ⟨before, after, rfl, blankBefore, blankAfter⟩ := framed
  have atEnd : trimEnd (inner ++ after) = inner := by
    rw [trimEnd, List.reverse_append, List.dropWhile_append_of_pos (by simpa using blankAfter),
      dropWhile_solid, List.reverse_reverse]
    exact fun c mem => solid c (List.mem_reverse.1 (List.mem_of_mem_head? mem))
  rw [trim, trimStart, List.append_assoc, List.dropWhile_append_of_pos blankBefore]
  cases inner with
  | nil =>
    have nothing : after.dropWhile isBlank = [] := List.dropWhile_eq_nil_iff.2 blankAfter
    rw [List.nil_append, nothing]
    rfl
  | cons c inner =>
    rw [dropWhile_solid, atEnd]
    rintro d ⟨⟩
    exact solid c List.mem_cons_self

end Text

/-! ## One variable -/

namespace Variable

/-- A text holds a number for a variable: blanks around it apart, it denotes a number of the range. -/
def Holds (v : Variable) (text : String) (n : Int) : Prop :=
  ∃ numeral, Text.Framed text.toList numeral ∧ Denotes v.range numeral n

def Accepts (v : Variable) (text : String) : Prop :=
  ∃ n, v.Holds text n

variable {v : Variable} {text : String} {n : Int}

lemma zero_contains (v : Variable) : v.range.Contains 0 := by
  cases v <;> decide

lemma isBlank_eq_false_of_isDigit {c : Char} (digit : c.isDigit = true) : Text.isBlank c = false := by
  have digits : 48 ≤ c.toNat ∧ c.toNat ≤ 57 := by
    simpa [Char.isDigit, UInt32.le_iff_toNat_le] using digit
  simp only [Text.isBlank, Bool.or_eq_false_iff, Bool.and_eq_false_iff, decide_eq_false_iff_not,
    beq_eq_false_iff_ne]
  omega

lemma holds_iff : v.Holds text n ↔ Denotes v.range (Text.trim text.toList) n := by
  constructor
  · rintro ⟨numeral, framed, denotes⟩
    rw [Text.trim_eq framed]
    · exact denotes
    · intro c mem
      rcases denotes.isDigit_or mem with digit | rfl | rfl
      · exact isBlank_eq_false_of_isDigit digit
      · rfl
      · rfl
  · exact fun denotes => ⟨_, Text.framed_trim _, denotes⟩

/-- A variable is read as the setting for the number that its text holds. -/
theorem read_eq_ok {s : Setting} : v.read text = .ok s ↔ ∃ n, v.Holds text n ∧ v.setting n = s := by
  simp only [holds_iff, ← Decimal.Numeral.read_eq_ok v.zero_contains]
  rw [read]
  cases Decimal.Numeral.read v.range (Text.trim text.toList) <;> simp [Except.map]

lemma accepts_iff : v.Accepts text ↔ ∃ s, v.read text = .ok s := by
  simp only [Accepts, read_eq_ok]
  constructor
  · rintro ⟨n, holds⟩
    exact ⟨_, n, holds, rfl⟩
  · rintro ⟨s, n, holds, -⟩
    exact ⟨n, holds⟩

end Variable

/-! ## Variables in order -/

variable {lookup other : String → Option String} {vs : List Variable}

/-- If every variable that is there holds a number, all are asked for, and all give their setting. -/
theorem readVariables_accepted {given : Variable → Option Int}
    (held : ∀ v ∈ vs, Option.Rel v.Holds (lookup v.key) (given v)) :
    readVariables lookup vs = (vs, .ok (vs.filterMap fun v => (given v).map v.setting)) := by
  induction vs with
  | nil => rfl
  | cons v vs ih =>
    obtain ⟨first, held⟩ := List.forall_mem_cons.1 held
    rw [readVariables, List.filterMap_cons, ih held]
    generalize lookup v.key = text, given v = number at first
    cases first with
    | none => rfl
    | some holds => simp only [Variable.read_eq_ok.2 ⟨_, holds, rfl⟩]; rfl

/-- The first variable that is there and holds no number is the last one that is asked for. -/
theorem readVariables_rejected {front : List Variable} (back : List Variable) {v : Variable} {text : String}
    (accepted : ∀ w ∈ front, ∀ t, lookup w.key = some t → w.Accepts t)
    (there : lookup v.key = some text) (rejected : ¬v.Accepts text) :
    ∃ fault, readVariables lookup (front ++ v :: back) =
      (front ++ [v], .error (.unreadable v text fault)) := by
  induction front with
  | nil =>
    cases read : v.read text with
    | error fault => exact ⟨fault, by simp only [List.nil_append, readVariables, there, read]⟩
    | ok s => exact absurd (Variable.accepts_iff.2 ⟨s, read⟩) rejected
  | cons w front ih =>
    obtain ⟨first, accepted⟩ := List.forall_mem_cons.1 accepted
    obtain ⟨fault, ih⟩ := ih accepted
    refine ⟨fault, ?_⟩
    rw [List.cons_append, readVariables, ih]
    cases found : lookup w.key with
    | none => rfl
    | some t =>
      obtain ⟨s, read⟩ := Variable.accepts_iff.1 (first t found)
      simp only [read]
      rfl

/-- If not all variables that are there hold a number, one of them is found unreadable. -/
theorem readVariables_unreadable
    (rejected : ¬∀ v ∈ vs, ∀ text, lookup v.key = some text → v.Accepts text) :
    ∃ v text fault, (readVariables lookup vs).2 = .error (.unreadable v text fault) := by
  suffices first : ∃ front v back, vs = front ++ v :: back ∧
      (∀ w ∈ front, ∀ text, lookup w.key = some text → w.Accepts text) ∧
      ¬∀ text, lookup v.key = some text → v.Accepts text by
    obtain ⟨front, v, back, rfl, accepted, rejected⟩ := first
    push Not at rejected
    obtain ⟨text, there, rejected⟩ := rejected
    obtain ⟨fault, read⟩ := readVariables_rejected back accepted there rejected
    exact ⟨v, text, fault, congrArg Prod.snd read⟩
  induction vs with
  | nil => exact absurd (fun _ => nofun) rejected
  | cons v vs ih =>
    by_cases head : ∀ text, lookup v.key = some text → v.Accepts text
    · obtain ⟨front, w, back, rfl, accepted, rejected⟩ :=
        ih fun tail => rejected (List.forall_mem_cons.2 ⟨head, tail⟩)
      exact ⟨v :: front, w, back, rfl, List.forall_mem_cons.2 ⟨head, accepted⟩, rejected⟩
    · exact ⟨[], v, vs, rfl, fun _ => nofun, head⟩

/-- Nothing matters of a lookup but what it says of the variables that are asked for. -/
theorem readVariables_congr
    (agree : ∀ v ∈ (readVariables lookup vs).1, other v.key = lookup v.key) :
    readVariables other vs = readVariables lookup vs := by
  induction vs with
  | nil => rfl
  | cons v vs ih =>
    have first : other v.key = lookup v.key := by
      apply agree v
      rw [readVariables]
      split
      · exact List.mem_cons_self
      · split <;> exact List.mem_cons_self
    cases there : lookup v.key with
    | none =>
      simp only [readVariables, there] at agree
      simp only [readVariables, first, there, ih fun w mem => agree w (List.mem_cons_of_mem _ mem)]
    | some text =>
      cases read : v.read text with
      | error fault => simp only [readVariables, first, there, read]
      | ok s =>
        simp only [readVariables, there, read] at agree
        simp only [readVariables, first, there, read,
          ih fun w mem => agree w (List.mem_cons_of_mem _ mem)]

/-! ## The configuration of variables -/

namespace Config

/-- The configuration has the numbers that are given, and what is not given is as it is by default on the
machine. -/
structure IsDefaultBut (c : Config) (machine : Machine) (given : Variable → Option Int) : Prop where
  workerCount : (c.workerCount.toNat : Int) = (given .workerCount).getD machine.cpus.toNat
  errorLimit : c.errorLimit.toInt = (given .errorLimit).getD (new machine).errorLimit.toInt
  queueCapacity : c.queueCapacity.map (fun n => (n.toNat : Int)) = given .queueCapacity
  threadStackSize : c.threadStackSize = (new machine).threadStackSize
  threadNamePrefix : c.threadNamePrefix = (new machine).threadNamePrefix

variable {machine : Machine} {numbers : Variable → Option Int}

/-- The settings that numbers give to their variables, applied to the default configuration. -/
def ofNumbers (machine : Machine) (numbers : Variable → Option Int) : Config :=
  (new machine).setAll (Variable.all.filterMap fun v => (numbers v).map v.setting)

lemma ofNumbers_eq : ofNumbers machine numbers = {
    workerCount := ((numbers .workerCount).map fun n => UInt64.ofNat n.toNat).getD machine.cpus
    errorLimit := ((numbers .errorLimit).map Int64.ofInt).getD 1
    queueCapacity := (numbers .queueCapacity).map fun n => UInt64.ofNat n.toNat } := by
  rw [ofNumbers, Variable.all]
  simp only [List.filterMap_cons, List.filterMap_nil]
  cases numbers .workerCount <;> cases numbers .errorLimit <;> cases numbers .queueCapacity <;> rfl

lemma toNat_ofNat_of_contains {n : Int} (within : Range.count.Contains n) :
    ((UInt64.ofNat n.toNat).toNat : Int) = n := by
  obtain ⟨least, greatest⟩ := within
  simp only [Range.count] at least greatest
  rw [UInt64.toNat_ofNat_of_lt' (by simp only [UInt64.size]; omega)]
  omega

lemma toInt_ofInt_of_contains {n : Int} (within : Range.integer.Contains n) :
    (Int64.ofInt n).toInt = n :=
  Int64.toInt_ofInt_of_le within.1 (Int.lt_add_one_of_le within.2)

/-- Numbers within the ranges of their variables are those of the configuration. -/
lemma isDefaultBut_ofNumbers (within : ∀ v, ∀ n ∈ numbers v, v.range.Contains n) :
    (ofNumbers machine numbers).IsDefaultBut machine numbers := by
  rw [ofNumbers_eq]
  constructor
  · cases given : numbers .workerCount with
    | none => rfl
    | some n => exact toNat_ofNat_of_contains (within .workerCount n given)
  · cases given : numbers .errorLimit with
    | none => rfl
    | some n => exact toInt_ofInt_of_contains (within .errorLimit n given)
  · cases given : numbers .queueCapacity with
    | none => rfl
    | some n => exact congrArg some (toNat_ofNat_of_contains (within .queueCapacity n given))
  · rfl
  · rfl

/-- Of the checks only the one of the number of workers can fail. -/
lemma IsDefaultBut.fault? {c : Config} (h : c.IsDefaultBut machine numbers) :
    c.fault? = if c.workerCount = 0 then some .noWorkers else none := by
  rw [Config.fault?, h.threadStackSize, h.threadNamePrefix]
  rfl

lemma ofVariables_of_settings {settings : List Setting}
    (read : (readVariables lookup Variable.all).2 = .ok settings) :
    ofVariables machine lookup = match ((new machine).setAll settings).fault? with
      | some fault => .error (.refused fault)
      | none => .ok ((new machine).setAll settings) := by
  unfold ofVariables
  generalize (readVariables lookup Variable.all).2 = result at read ⊢
  cases read
  rfl

/-- The variables are asked for in order. If all that are there hold numbers, the configuration is the
default one but for these numbers, and it is accepted unless there are no workers. Otherwise the first that
holds none is the last one asked for, and the fault names it and shows its text. What the lookup says of
variables that are not asked for does not matter. -/
theorem ofVariables_lookup (machine : Machine) (lookup : String → Option String) :
    ((∀ (v : Variable) (text : String), lookup v.key = some text → v.Accepts text) →
      askedVariables lookup = [.workerCount, .errorLimit, .queueCapacity] ∧
      ∃ (numbers : Variable → Option Int) (c : Config),
        (∀ v, Option.Rel v.Holds (lookup v.key) (numbers v)) ∧ c.IsDefaultBut machine numbers ∧
        c.fault? = (if c.workerCount = 0 then some .noWorkers else none) ∧
        ofVariables machine lookup =
          if c.workerCount = 0 then .error (.refused .noWorkers) else .ok c) ∧
    (∀ (front back : List Variable) (v : Variable) (text : String),
      [.workerCount, .errorLimit, .queueCapacity] = front ++ v :: back →
      (∀ w ∈ front, ∀ t, lookup w.key = some t → w.Accepts t) →
      lookup v.key = some text → ¬v.Accepts text →
      askedVariables lookup = front ++ [v] ∧
      ∃ fault, ofVariables machine lookup = .error (.unreadable v text fault) ∧
        (VariableFault.unreadable v text fault).message =
          v.key ++ ": cannot parse `" ++ text ++ "`: " ++ fault.message) ∧
    ∀ other : String → Option String,
      (∀ v ∈ askedVariables lookup, other v.key = lookup v.key) →
      askedVariables other = askedVariables lookup ∧
        ofVariables machine other = ofVariables machine lookup := by
  refine ⟨?_, ?_, ?_⟩
  · intro accepted
    have held (v : Variable) : ∃ number, Option.Rel v.Holds (lookup v.key) number := by
      cases found : lookup v.key with
      | none => exact ⟨none, .none⟩
      | some text =>
        obtain ⟨n, holds⟩ := accepted v text found
        exact ⟨some n, .some holds⟩
    choose numbers held using held
    have within : ∀ v, ∀ n ∈ numbers v, v.range.Contains n := by
      intro v n mem
      have holds := held v
      rw [Option.mem_def.1 mem] at holds
      generalize lookup v.key = text at holds
      cases holds with
      | some holds => exact (Variable.holds_iff.1 holds).contains
    have default : (ofNumbers machine numbers).IsDefaultBut machine numbers :=
      isDefaultBut_ofNumbers within
    have read : readVariables lookup Variable.all = _ := readVariables_accepted fun v _ => held v
    refine ⟨congrArg Prod.fst read, numbers, ofNumbers machine numbers, held, default, default.fault?, ?_⟩
    rw [ofVariables_of_settings (congrArg Prod.snd read), ← ofNumbers, default.fault?]
    split_ifs <;> rfl
  · intro front back v text order accepted there rejected
    obtain ⟨fault, read⟩ := readVariables_rejected back accepted there rejected
    rw [← order] at read
    have unreadable : ofVariables machine lookup = .error (.unreadable v text fault) := by
      rw [ofVariables, Variable.all, read]
    exact ⟨congrArg Prod.fst read, fault, unreadable, rfl⟩
  · intro other agree
    have same := readVariables_congr agree
    exact ⟨congrArg Prod.fst same, by rw [ofVariables, ofVariables, same]⟩

/-- Three texts with signs, blanks and leading zeros are accepted; a blank behind the sign is not, and then
nobody asks for the third. -/
theorem ofVariables_lookup_threeTexts :
    let machine : Machine := ⟨4, by decide⟩
    let texts (limit : String) (key : String) : Option String :=
      [(Variable.workerCount.key, "+3"), (Variable.errorLimit.key, limit),
        (Variable.queueCapacity.key, "\n0016")].lookup key
    ((∀ (v : Variable) (text : String), texts " -2 " v.key = some text → v.Accepts text) ∧
      ∃ (numbers : Variable → Option Int) (c : Config),
        (∀ v, Option.Rel v.Holds (texts " -2 " v.key) (numbers v)) ∧ c.IsDefaultBut machine numbers ∧
        ofVariables machine (texts " -2 ") =
          if c.workerCount = 0 then .error (.refused .noWorkers) else .ok c) ∧
    (¬Variable.errorLimit.Accepts "- 2" ∧ askedVariables (texts "- 2") = [.workerCount, .errorLimit] ∧
      ∃ fault, ofVariables machine (texts "- 2") = .error (.unreadable .errorLimit "- 2" fault)) := by
  intro machine texts
  have accepted (v : Variable) (text : String) (there : texts " -2 " v.key = some text) :
      v.Accepts text := by
    cases v <;> cases there <;> exact Variable.accepts_iff.2 ⟨_, rfl⟩
  have rejected : ¬Variable.errorLimit.Accepts "- 2" := by
    rw [Variable.accepts_iff]
    rintro ⟨s, read⟩
    cases read
  have first : ∀ w ∈ [Variable.workerCount], ∀ t, texts "- 2" w.key = some t → w.Accepts t := by
    refine List.forall_mem_singleton.2 fun t there => ?_
    cases there
    exact Variable.accepts_iff.2 ⟨_, rfl⟩
  obtain ⟨-, numbers, c, held, default, -, answer⟩ := (ofVariables_lookup machine _).1 accepted
  obtain ⟨asked, fault, unreadable, -⟩ :=
    (ofVariables_lookup machine _).2.1 [.workerCount] [.queueCapacity] .errorLimit "- 2" rfl first rfl rejected
  exact ⟨⟨accepted, numbers, c, held, default, answer⟩, rejected, asked, fault, unreadable⟩

end Config

end TaskCrew
