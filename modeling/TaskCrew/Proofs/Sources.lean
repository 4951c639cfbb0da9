import Mathlib.Data.List.Forall2
import TaskCrew.Proofs.RoundTrip
import TaskCrew.Proofs.Variables

/-!
# Documents and variables agree

The three fields that variables can give may be given by the members of an object as well. Both ways
read numbers on their own, and both come to the same.

* `Variable.field`, `setting?_ofInt` — the field of a variable, and what an integer is for it in a document;
* `Json.Member.Gives`, `settings?_of_gives` — members that give integers, and the settings they give;
* `Carries`, `readVariables_of_carries`, `readVariables_of_outside` — variables that carry the same integers,
  and the settings they give;
* `setAll_of_distinct` — the order of the members does not matter;
* `Concur` — the same answer from a document and from variables;
* `sources_agree` — both answers are the same, and when there is a configuration.
-/

namespace TaskCrew

open Json Config

variable {machine : Machine} {ms : List (Member Value)} {given : List (Variable × Int)}
  {lookup : String → Option String}

/-! ## One integer -/

/-- The field that a variable gives. -/
def Variable.field : Variable → Config.Field
  | workerCount => .workerCount
  | errorLimit => .errorLimit
  | queueCapacity => .queueCapacity

lemma Variable.field_setting (v : Variable) (n : Int) : (v.setting n).field = v.field := by
  cases v <;> rfl

lemma Variable.field_injective : Function.Injective Variable.field := by
  intro v w
  cases v <;> cases w <;> decide

lemma Json.Numeral.within?_ofInt (r : Decimal.Range) (n : Int) :
    (Numeral.ofInt n).within? r = if r.Contains n then some n else none := by
  rw [Numeral.within?, Numeral.integer?_ofInt, Option.filter_some]
  simp only [decide_eq_true_eq]
  rfl

/-- An integer is a value for the field of a variable exactly if it is one for the variable. -/
theorem Variable.setting?_ofInt (v : Variable) (n : Int) :
    (Scalar.number (.ofInt n)).setting? v.field =
      if v.range.Contains n then some (v.setting n) else none := by
  cases v with
  | workerCount =>
    rw [Variable.field, Scalar.setting?, Scalar.count?, Json.Numeral.within?_ofInt, Variable.range]
    split_ifs <;> rfl
  | errorLimit =>
    rw [Variable.field, Scalar.setting?, Scalar.integer?, Json.Numeral.within?_ofInt, Variable.range]
    split_ifs <;> rfl
  | queueCapacity =>
    rw [Variable.field, Scalar.setting?, Scalar.countOrNull?, Scalar.count?, Json.Numeral.within?_ofInt,
      Variable.range]
    · split_ifs <;> rfl
    · intro null
      cases null

/-! ## Members -/

/-- A member gives an integer in its usual writing to the field of a variable. -/
structure Json.Member.Gives (m : Member Value) (p : Variable × Int) : Prop where
  field : m.field? = some p.1.field
  value : m.value.item = .scalar (.number (.ofInt p.2))

/-- All integers are within the ranges of their variables. -/
def Within (given : List (Variable × Int)) : Prop :=
  ∀ p ∈ given, p.1.range.Contains p.2

lemma said_of_gives (gives : List.Forall₂ Member.Gives ms given) :
    said ms = given.map fun p => (p.1.field, (Scalar.number (.ofInt p.2)).setting? p.1.field) := by
  induction gives with
  | nil => rfl
  | @cons m p ms given gives _ ih =>
    have first : m.said? = some (p.1.field, (Scalar.number (.ofInt p.2)).setting? p.1.field) := by
      rw [Member.said?, gives.field, gives.value]
      rfl
    rw [said, List.filterMap_cons_some first, ← said, ih, List.map_cons]

lemma named_of_gives (gives : List.Forall₂ Member.Gives ms given) : Named ms := by
  induction gives with
  | nil => exact fun _ => nofun
  | @cons m p ms given gives _ ih =>
    refine List.forall_mem_cons.2 ⟨?_, ih⟩
    have field := gives.field
    rw [Member.field?] at field
    obtain ⟨name, named, -⟩ := Option.bind_eq_some_iff.1 field
    rw [named]
    rfl

/-- Members that give integers to different fields are read exactly if all integers are within their
ranges. -/
theorem settings?_of_gives (gives : List.Forall₂ Member.Gives ms given)
    (distinct : (given.map Prod.fst).Nodup) :
    (Within given → settings? [] ms = some (given.map fun p => p.1.setting p.2)) ∧
    (¬Within given → settings? [] ms = none) := by
  have said := said_of_gives gives
  simp only [Variable.setting?_ofInt] at said
  have fields : ((TaskCrew.said ms).map Prod.fst).Nodup := by
    have fields := distinct.map Variable.field_injective
    rw [List.map_map] at fields
    rw [said, List.map_map]
    exact fields
  have readable : Readable [] ms ↔ Within given := by
    rw [readable_iff, and_iff_right (named_of_gives gives), and_iff_right fields, said,
      List.forall_mem_map]
    refine forall₂_congr fun p _ => ?_
    by_cases within : p.1.range.Contains p.2 <;> simp [within]
  constructor
  · intro within
    refine settings?_eq_some.2 ⟨readable.2 within, ?_⟩
    rw [← filterMap_snd_said, said, List.filterMap_map, ← List.filterMap_eq_map]
    refine List.filterMap_congr fun p mem => ?_
    rw [Function.comp_apply, if_pos (within p mem)]
    rfl
  · intro outside
    refine Option.eq_none_iff_forall_ne_some.2 fun settings eq => ?_
    exact outside (readable.1 (settings?_eq_some.1 eq).1)

/-! ## Variables -/

/-- The variables hold integers in their usual writing, with blanks around them, and no others are
there. -/
def Carries (lookup : String → Option String) (given : List (Variable × Int)) : Prop :=
  ∀ v : Variable, Option.Rel (fun text n => Text.Framed text.toList (Decimal.ofInt n))
    (lookup v.key) (given.lookup v)

lemma isBlank_eq_false_of_mem_ofInt {c : Char} {n : Int} (mem : c ∈ Decimal.ofInt n) :
    Text.isBlank c = false := by
  cases n with
  | ofNat n => exact Variable.isBlank_eq_false_of_isDigit (Decimal.isDigit_of_mem_ofNat mem)
  | negSucc n =>
    rcases List.mem_cons.1 mem with rfl | mem
    · rfl
    · exact Variable.isBlank_eq_false_of_isDigit (Decimal.isDigit_of_mem_ofNat mem)

/-- A text with an integer in its usual writing holds this integer if it is within the range, and else
nothing. -/
lemma Variable.holds_ofInt {v : Variable} {text : String} {n m : Int}
    (framed : Text.Framed text.toList (Decimal.ofInt n)) : v.Holds text m ↔ m = n ∧ v.range.Contains n := by
  rw [holds_iff, Text.trim_eq framed fun c mem => isBlank_eq_false_of_mem_ofInt mem]
  exact Decimal.denotes_ofInt (by cases v <;> decide) n

section Distinct

variable (distinct : (given.map Prod.fst).Nodup)

include distinct

/-- A list without repeated variables gives to a variable what stands with it. -/
lemma lookup_eq_some_iff_mem {v : Variable} {n : Int} : given.lookup v = some n ↔ (v, n) ∈ given := by
  induction given with
  | nil => simp
  | cons p given ih =>
    obtain ⟨w, m⟩ := p
    obtain ⟨notAgain, distinct⟩ := List.nodup_cons.1 distinct
    by_cases same : v = w
    · subst same
      have rest : (v, n) ∉ given := fun mem => notAgain (List.mem_map.2 ⟨_, mem, rfl⟩)
      simp [rest, eq_comm]
    · have other : (v == w) = false := by simpa using same
      simp [List.lookup_cons, other, same, ih distinct]

/-- The settings that integers give do not depend on the order of the integers. -/
theorem setAll_of_distinct :
    (new machine).setAll (given.map fun p => p.1.setting p.2) =
      ofNumbers machine fun v => given.lookup v := by
  have perm : given.Perm (Variable.all.filterMap fun v => (given.lookup v).map (v, ·)) := by
    apply (List.perm_ext_iff_of_nodup distinct.of_map _).2
    · rintro ⟨v, n⟩
      have all : v ∈ Variable.all := by cases v <;> decide
      simp [← lookup_eq_some_iff_mem distinct, all]
    · apply List.Nodup.filterMap
      · rintro v w ⟨u, n⟩ mem mem'
        obtain ⟨_, -, eq⟩ := Option.map_eq_some_iff.1 mem
        obtain ⟨_, -, eq'⟩ := Option.map_eq_some_iff.1 mem'
        exact (Prod.mk.inj eq).1.trans (Prod.mk.inj eq').1.symm
      · decide
  have fields : ((given.map fun p => p.1.setting p.2).map Setting.field).Nodup := by
    have field : (Setting.field ∘ fun p : Variable × Int => p.1.setting p.2) =
        Variable.field ∘ Prod.fst :=
      funext fun p => p.1.field_setting p.2
    rw [List.map_map, field, ← List.map_map]
    exact distinct.map Variable.field_injective
  rw [setAll_perm _ fields (perm.map _), List.map_filterMap, ofNumbers]
  simp only [Option.map_map]
  rfl

/-- Of integers within their ranges, only the number of workers can be refused. -/
lemma fault?_of_distinct (within : Within given) :
    (ofNumbers machine fun v => given.lookup v).fault? =
      if (.workerCount, 0) ∈ given then some .noWorkers else none := by
  have default : (ofNumbers machine fun v => given.lookup v).IsDefaultBut machine _ :=
    isDefaultBut_ofNumbers fun v n there => within (v, n) ((lookup_eq_some_iff_mem distinct).1 there)
  have count := default.workerCount
  have zero : (ofNumbers machine fun v => given.lookup v).workerCount = 0 ↔ (.workerCount, 0) ∈ given := by
    rw [← lookup_eq_some_iff_mem distinct, ← UInt64.toNat_inj]
    cases there : given.lookup Variable.workerCount with
    | none =>
      rw [there, Option.getD_none] at count
      have one : 1 ≤ machine.cpus.toNat := machine.one_le_cpus
      rw [UInt64.toNat_zero]
      exact ⟨fun zero => by omega, nofun⟩
    | some n =>
      rw [there, Option.getD_some] at count
      rw [UInt64.toNat_zero, Option.some.injEq]
      omega
  rw [default.fault?]
  simp only [zero]

variable (carries : Carries lookup given)

include carries

lemma readVariables_of_carries (within : Within given) :
    (readVariables lookup Variable.all).2 =
      .ok (Variable.all.filterMap fun v => (given.lookup v).map v.setting) := by
  refine congrArg Prod.snd (readVariables_accepted fun v _ => ?_)
  have rel := carries v
  cases there : given.lookup v with
  | none =>
    rw [there] at rel
    generalize lookup v.key = text at rel ⊢
    cases rel with
    | none => exact .none
  | some n =>
    rw [there] at rel
    generalize lookup v.key = text at rel ⊢
    cases rel with
    | some framed =>
      exact .some (Variable.holds_ofInt framed |>.2
        ⟨rfl, within (v, n) ((lookup_eq_some_iff_mem distinct).1 there)⟩)

lemma readVariables_of_outside (outside : ¬Within given) :
    ∃ v text fault, (readVariables lookup Variable.all).2 = .error (.unreadable v text fault) := by
  apply readVariables_unreadable
  intro accepted
  refine outside fun p mem => ?_
  obtain ⟨v, n⟩ := p
  have rel := carries v
  rw [(lookup_eq_some_iff_mem distinct).2 mem] at rel
  generalize there : lookup v.key = text at rel
  cases rel with
  | some framed =>
    obtain ⟨m, holds⟩ := accepted v (by cases v <;> decide) _ there
    exact (Variable.holds_ofInt framed |>.1 holds).2

end Distinct

/-! ## Both -/

/-- A document and variables have the same answer: the same configuration, or the same refusal of it, or
neither of them can be read. -/
inductive Concur : Except DocumentFault Config → Except VariableFault Config → Prop
  | configuration (c : Config) : Concur (.ok c) (.ok c)
  | refused (fault : Config.Fault) : Concur (.error (.refused fault)) (.error (.refused fault))
  | unreadable {cs : List Char} {fault : Json.Fault} {v : Variable} {text : String}
    {fault' : Decimal.Numeral.Fault} :
    Concur (.error (.unreadable cs fault)) (.error (.unreadable v text fault'))

/-- A configuration that both were read as has one answer. -/
lemma concur_accept (c : Config) :
    Concur (accept c) (match c.fault? with
      | some fault => .error (.refused fault)
      | none => .ok c) := by
  rw [accept]
  cases c.fault? with
  | none => exact .configuration c
  | some fault => exact .refused fault

/-- Integers in their usual writing come to the same as members of an object, in any order, and as
variables, with blanks around them: there is a configuration exactly if all are within their ranges and no
workers are not among them, and zero workers are refused in the same words. -/
theorem sources_agree (machine : Machine) (before gap after : Blank) (distinct : (given.map Prod.fst).Nodup)
    (gives : List.Forall₂ Member.Gives ms given) (carries : Carries lookup given) :
    Concur (ofJson machine (Padded.document ⟨before, .object ms gap, after⟩))
      (ofVariables machine lookup) ∧
    ((∃ c, ofVariables machine lookup = .ok c) ↔ Within given ∧ (.workerCount, 0) ∉ given) ∧
    (Within given → (.workerCount, 0) ∈ given →
      (ofJson machine (Padded.document ⟨before, .object ms gap, after⟩)).mapError DocumentFault.message =
        .error Fault.noWorkers.message ∧
      (ofVariables machine lookup).mapError VariableFault.message = .error Fault.noWorkers.message) := by
  obtain ⟨inside, outside⟩ := settings?_of_gives gives distinct
  have document := readSettings_object before after gap ms
  by_cases within : Within given
  · have ofDocument := ofJson_of_settings machine (document.trans (inside within))
    have ofLookup : ofVariables machine lookup = _ :=
      ofVariables_of_settings (readVariables_of_carries distinct carries within)
    rw [setAll_of_distinct distinct] at ofDocument
    rw [← ofNumbers] at ofLookup
    have fault : (ofNumbers machine fun v => given.lookup v).fault? = _ :=
      fault?_of_distinct distinct within
    refine ⟨?_, ?_, ?_⟩
    · rw [ofDocument, ofLookup]
      exact concur_accept _
    · rw [ofLookup, fault]
      by_cases zero : (.workerCount, 0) ∈ given <;> simp [zero, within]
    · intro _ zero
      rw [ofDocument, ofLookup, accept, fault, if_pos zero]
      exact ⟨rfl, rfl⟩
  · obtain ⟨fault, ofDocument⟩ := ofJson_of_none machine (document.trans (outside within))
    obtain ⟨v, text, fault', read⟩ := readVariables_of_outside distinct carries within
    have ofLookup : ofVariables machine lookup = .error (.unreadable v text fault') := by
      rw [ofVariables, read]
    refine ⟨?_, ?_, fun inside => absurd inside within⟩
    · rw [ofDocument, ofLookup]
      exact .unreadable
    · rw [ofLookup]
      constructor
      · rintro ⟨c, ok⟩
        cases ok
      · rintro ⟨inside, -⟩
        exact absurd inside within

/-- The limit before the count, and a count of zero with blanks around it: both ways, there are no
workers. -/
theorem sources_agree_noWorkers :
    let machine : Machine := ⟨4, by decide⟩
    let given : List (Variable × Int) := [(.errorLimit, -5), (.workerCount, 0)]
    let ms := given.map fun p => p.1.field.member (.scalar (.number (.ofInt p.2)))
    let lookup (key : String) : Option String :=
      [(Variable.workerCount.key, " 0\n"), (Variable.errorLimit.key, "-5")].lookup key
    (given.map Prod.fst).Nodup ∧ List.Forall₂ Member.Gives ms given ∧ Carries lookup given ∧
    Within given ∧ (.workerCount, 0) ∈ given ∧
    Concur (ofJson machine (Padded.document ⟨.none, .object ms .none, .none⟩))
      (ofVariables machine lookup) ∧
    (ofJson machine (Padded.document ⟨.none, .object ms .none, .none⟩)).mapError DocumentFault.message =
      .error Fault.noWorkers.message ∧
    (ofVariables machine lookup).mapError VariableFault.message = .error Fault.noWorkers.message := by
  intro machine given ms lookup
  have distinct : (given.map Prod.fst).Nodup := by decide
  have gives : List.Forall₂ Member.Gives ms given :=
    .cons ⟨Config.Field.field?_member _ _, rfl⟩ (.cons ⟨Config.Field.field?_member _ _, rfl⟩ .nil)
  have carries : Carries lookup given := by
    intro v
    cases v with
    | workerCount =>
      refine .some ⟨[' '], ['\n'], ?_, List.forall_mem_singleton.2 rfl, List.forall_mem_singleton.2 rfl⟩
      show _ = [' '] ++ Decimal.ofNat 0 ++ ['\n']
      rw [Decimal.ofNat]
      rfl
    | errorLimit =>
      refine .some ⟨[], [], ?_, List.forall_mem_nil _, List.forall_mem_nil _⟩
      show _ = [] ++ '-' :: Decimal.ofNat 5 ++ []
      rw [Decimal.ofNat]
      rfl
    | queueCapacity => exact .none
  have within : Within given := by unfold Within; decide
  obtain ⟨concur, -, refused⟩ := sources_agree machine .none .none .none distinct gives carries
  exact ⟨distinct, gives, carries, within, by decide, concur, refused within (by decide)⟩

end TaskCrew
