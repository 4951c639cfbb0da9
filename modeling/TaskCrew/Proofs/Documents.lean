import Mathlib.Logic.Relation
import TaskCrew.Proofs.Members
import TaskCrew.Proofs.Precedence

/-!
# The meaning of objects

A document that is an object is read by its members, and by nothing else about it.

* `Padded.document`, `readSettings_object` — a value as a document, and the settings that an object gives;
* `Config.Parses`, `Config.accept`, `Config.Agree` — whether a document gets past reading, the answer for a
  configuration that was read, and documents with the same answer;
* `Config.Holds`, `Config.IsOverridden` — a field holds what a value says, and every field what its member
  says or else its default;
* `Edit` — changes to the members of an object that say nothing new: another order, other blanks, members
  for no field;
* `said`, `Edit.said`, `setAll_settings?_of_perm` — what members say of fields is kept by an edit, up to its
  order, and it determines the configuration;
* `ofJson_object` — what an object comes to, however it is spelled.
-/

namespace TaskCrew

open Json

variable {ms : List (Member Value)} {m : Member Value}

/-! ## Whole documents -/

/-- A value with the blanks around it, as a document. -/
def Json.Padded.document (d : Padded Value) : String :=
  String.ofList (d.write Value.write)

/-- What is read from a document is what is read from its value. -/
lemma readSettings_document {d : Padded Value} {settings : Option (List Setting)}
    (h : (readSettingsValue (d.write Value.write)).toOption = settings.map (·, d.after.text)) :
    (readSettings d.document.toList).toOption = settings := by
  have blank : skipBlank d.after.text = [] := by
    simpa [skipBlank] using skipBlank_append d.after []
  rw [Padded.document, String.toList_ofList, readSettings]
  cases settings with
  | none =>
    obtain ⟨fault, h⟩ := toOption_eq_none.1 h
    rw [h]
    rfl
  | some settings =>
    simp only [toOption_eq_some.1 h, blank]
    rfl

theorem readSettings_object (before after gap : Blank) (ms : List (Member Value)) :
    (readSettings (Padded.document ⟨before, .object ms gap, after⟩).toList).toOption =
      settings? [] ms := by
  apply readSettings_document
  have text : (⟨before, .object ms gap, after⟩ : Padded Value).write Value.write =
      before.text ++ '\x7b' :: fromMember true ms gap after.text := by
    rw [Padded.write, List.append_assoc, object_append]
  have brace := skipBlank_token before (c := '\x7b') (by decide) (fromMember true ms gap after.text)
  rw [text, readSettingsValue, brace]
  exact readMembers_write [] true .none ms gap after.text

namespace Config

/-- The document gets past reading; whether its configuration is accepted is another matter. -/
def Parses (machine : Machine) (text : String) : Prop :=
  ∀ cs fault, ofJson machine text ≠ .error (.unreadable cs fault)

/-- The answer for a configuration that was read. -/
def accept (c : Config) : Except DocumentFault Config :=
  match c.fault? with
  | some fault => .error (.refused fault)
  | none => .ok c

/-- A field of a configuration holds what a value says: the number that is spelled, or the text with its
escapes resolved. -/
def Holds (c : Config) : Field → Value → Prop
  | .workerCount, .scalar (.number x) => c.workerCount.toNat = x.magnitude
  | .errorLimit, .scalar (.number x) =>
    c.errorLimit.toInt = if x.negative then -(x.magnitude : Int) else x.magnitude
  | .queueCapacity, .scalar .null => c.queueCapacity = none
  | .queueCapacity, .scalar (.number x) => c.queueCapacity.map UInt64.toNat = some x.magnitude
  | .threadStackSize, .scalar (.number x) => c.threadStackSize.toNat = x.magnitude
  | .threadNamePrefix, .scalar (.text gs) => chars? gs = some c.threadNamePrefix.toList
  | _, _ => False

/-- The default configuration of a machine, overridden by members: a field that a member is for holds what
the member says, and any other field what it holds by default. -/
structure IsOverridden (c : Config) (machine : Machine) (ms : List (Member Value)) : Prop where
  given : ∀ m ∈ ms, ∀ f, m.field? = some f → c.Holds f m.value.item
  kept : ∀ f, f ∉ fields ms → c.get f = (new machine).get f

lemma holds_of_setting? {c : Config} {f : Field} {v : Value} {s : Setting} (value : v.setting? f = some s)
    (said : s.get? f = some (c.get f)) : c.Holds f v := by
  cases v with
  | list | object => cases value
  | scalar x =>
    cases f with
    | workerCount | threadStackSize =>
      obtain ⟨n, count, rfl⟩ := Option.map_eq_some_iff.1 value
      cases Option.some.inj said
      cases x with
      | number x => exact Scalar.toNat_of_count? count
      | null | bool | text => cases count
    | errorLimit =>
      obtain ⟨n, integer, rfl⟩ := Option.map_eq_some_iff.1 value
      cases Option.some.inj said
      cases x with
      | number x => exact Scalar.toInt_of_integer? integer
      | null | bool | text => cases integer
    | queueCapacity =>
      obtain ⟨capacity, given, rfl⟩ := Option.map_eq_some_iff.1 value
      have holds : capacity = c.queueCapacity := Option.some.inj said
      cases x with
      | null => exact holds.symm.trans (Option.some.inj given).symm
      | number x =>
        have given : (Scalar.number x).count?.map some = some capacity := given
        obtain ⟨n, count, rfl⟩ := Option.map_eq_some_iff.1 given
        rw [Holds, ← holds, Option.map_some, Scalar.toNat_of_count? count]
      | bool | text => cases given
    | threadNamePrefix =>
      obtain ⟨text, string, rfl⟩ := Option.map_eq_some_iff.1 value
      have holds : text = c.threadNamePrefix := Option.some.inj said
      cases x with
      | text gs =>
        obtain ⟨cs, chars, rfl⟩ := Option.map_eq_some_iff.1 string
        rw [Holds, ← holds, String.toList_ofList, chars]
      | null | bool | number => cases string

/-- Two answers are the same, where no document is more unreadable than another. -/
inductive Agree : Except DocumentFault Config → Except DocumentFault Config → Prop
  | configuration (c : Config) : Agree (.ok c) (.ok c)
  | refused (fault : Fault) : Agree (.error (.refused fault)) (.error (.refused fault))
  | unreadable {cs cs' : List Char} {fault fault' : Json.Fault} :
    Agree (.error (.unreadable cs fault)) (.error (.unreadable cs' fault'))

lemma Agree.refl : ∀ answer, Agree answer answer
  | .ok c => .configuration c
  | .error (.refused fault) => .refused fault
  | .error (.unreadable _ _) => .unreadable

variable {machine : Machine} {text text' : String} {settings : List Setting}

lemma ofJson_of_settings (machine : Machine)
    (h : (readSettings text.toList).toOption = some settings) :
    ofJson machine text = accept ((new machine).setAll settings) := by
  rw [ofJson, toOption_eq_some.1 h]
  rfl

lemma ofJson_of_none (machine : Machine) (h : (readSettings text.toList).toOption = none) :
    ∃ fault, ofJson machine text = .error (.unreadable text.toList fault) := by
  obtain ⟨fault, h⟩ := toOption_eq_none.1 h
  exact ⟨fault, by rw [ofJson, h]⟩

lemma accept_ne_unreadable (c : Config) (cs : List Char) (fault : Json.Fault) :
    accept c ≠ .error (.unreadable cs fault) := by
  rw [accept]
  cases c.fault? <;> exact nofun

/-- A document gets past reading exactly if it gives settings. -/
lemma parses_iff : Parses machine text ↔ (readSettings text.toList).toOption.isSome := by
  cases h : (readSettings text.toList).toOption with
  | none =>
    obtain ⟨fault, unreadable⟩ := ofJson_of_none machine h
    simpa using fun parses : Parses machine text => parses _ _ unreadable
  | some settings =>
    simp only [Option.isSome_some, iff_true]
    intro cs fault
    rw [ofJson_of_settings machine h]
    exact accept_ne_unreadable _ cs fault

/-- Documents from which the same configuration is read, or from which none is, have one answer. -/
lemma agree_of_setAll (h : (readSettings text.toList).toOption.map (new machine).setAll =
    (readSettings text'.toList).toOption.map (new machine).setAll) :
    Agree (ofJson machine text) (ofJson machine text') := by
  cases read : (readSettings text.toList).toOption with
  | none =>
    have read' := Option.map_eq_none_iff.1 (h.symm.trans (by rw [read]; rfl))
    obtain ⟨fault, unreadable⟩ := ofJson_of_none machine read
    obtain ⟨fault', unreadable'⟩ := ofJson_of_none machine read'
    rw [unreadable, unreadable']
    exact .unreadable
  | some settings =>
    obtain ⟨settings', read', eq⟩ := Option.map_eq_some_iff.1 (h.symm.trans (by rw [read]; rfl))
    rw [ofJson_of_settings machine read, ofJson_of_settings machine read', eq]
    exact .refl _

end Config

/-! ## What does not matter -/

namespace Json

/-- The value without blanks. -/
def Value.bare : Value → Value
  | .scalar x => .scalar x
  | .list es _ => .list (es.map fun e => ⟨.none, e.item.bare, .none⟩) .none
  | .object ms _ =>
    .object (ms.map fun m => ⟨⟨.none, m.key.item, .none⟩, ⟨.none, m.value.item.bare, .none⟩⟩) .none
  termination_by v => sizeOf v
  decreasing_by
  · have := sizeOf_item_lt ‹_›
    simp only [Value.list.sizeOf_spec]
    omega
  · have := sizeOf_value_lt ‹_›
    simp only [Value.object.sizeOf_spec]
    omega

namespace Member

/-- The member without blanks. -/
def bare (m : Member Value) : Member Value :=
  ⟨⟨.none, m.key.item, .none⟩, ⟨.none, m.value.item.bare, .none⟩⟩

/-- The member has a key that is for no field. -/
def Unknown (m : Member Value) : Prop :=
  ∃ name, m.name? = some name ∧ Config.Field.ofKey? name = none

/-- What a member says of a field: a setting, or a value that the field has no use for. -/
def said? (m : Member Value) : Option (Config.Field × Option Setting) :=
  m.field?.map fun f => (f, m.value.item.setting? f)

end Member

/-- A change to the members of an object that says nothing new. -/
inductive Edit : List (Member Value) → List (Member Value) → Prop
  | permute {ms ms' : List (Member Value)} (perm : ms.Perm ms') : Edit ms ms'
  | respace {ms ms' : List (Member Value)} (bare : ms.map Member.bare = ms'.map Member.bare) :
    Edit ms ms'
  | insert (ms ms' : List (Member Value)) {m : Member Value} (unknown : m.Unknown) :
    Edit (ms ++ ms') (ms ++ m :: ms')
  | remove (ms ms' : List (Member Value)) {m : Member Value} (unknown : m.Unknown) :
    Edit (ms ++ m :: ms') (ms ++ ms')

end Json

lemma Json.Value.setting?_bare (f : Config.Field) (v : Value) : v.bare.setting? f = v.setting? f := by
  cases v <;> rw [bare] <;> rfl

lemma Json.Member.said?_bare (m : Member Value) : m.bare.said? = m.said? := by
  have setting (f : Config.Field) : m.bare.value.item.setting? f = m.value.item.setting? f :=
    m.value.item.setting?_bare f
  rw [said?, said?]
  simp only [setting]
  rfl

lemma Json.Member.Unknown.said? (unknown : m.Unknown) : m.said? = none := by
  obtain ⟨name, named, unknown⟩ := unknown
  rw [Member.said?, field?, named, Option.bind_some, unknown, Option.map_none]

/-- What members say of fields. -/
def said (ms : List (Member Value)) : List (Config.Field × Option Setting) :=
  ms.filterMap Member.said?

variable {ms' : List (Member Value)}

/-- One change keeps what the members say, except for the order. -/
lemma Json.Edit.said (edit : Edit ms ms') : (said ms).Perm (said ms') := by
  cases edit with
  | permute perm => exact perm.filterMap _
  | respace bare =>
    have said_bare (ms : List (Member Value)) :
        TaskCrew.said (ms.map Member.bare) = TaskCrew.said ms := by
      simp [TaskCrew.said, List.filterMap_map, Member.said?_bare]
    rw [← said_bare ms, bare, said_bare ms']
  | insert ms ms' unknown =>
    simp [TaskCrew.said, List.filterMap_append, List.filterMap_cons_none unknown.said?]
  | remove ms ms' unknown =>
    simp [TaskCrew.said, List.filterMap_append, List.filterMap_cons_none unknown.said?]

lemma Json.Edit.named (edit : Edit ms ms') (named : Named ms) : Named ms' := by
  cases edit with
  | permute perm => exact fun m mem => named m (perm.mem_iff.2 mem)
  | respace bare =>
    intro m mem
    have spaced : m.bare ∈ ms.map Member.bare := bare ▸ List.mem_map_of_mem mem
    obtain ⟨m₀, mem₀, eq⟩ := List.mem_map.1 spaced
    have name? : m₀.bare.name? = m.bare.name? := by rw [eq]
    have isSome := named m₀ mem₀
    exact name? ▸ isSome
  | insert ms ms' unknown =>
    obtain ⟨name, name?, -⟩ := unknown
    obtain ⟨front, back⟩ := List.forall_mem_append.1 named
    exact List.forall_mem_append.2 ⟨front, List.forall_mem_cons.2 ⟨by rw [name?]; rfl, back⟩⟩
  | remove ms ms' unknown =>
    obtain ⟨front, back⟩ := List.forall_mem_append.1 named
    exact List.forall_mem_append.2 ⟨front, (List.forall_mem_cons.1 back).2⟩

/-! ### What is said determines what is read -/

lemma map_fst_said (ms : List (Member Value)) : (said ms).map Prod.fst = fields ms := by
  rw [said, fields, List.map_filterMap]
  apply List.filterMap_congr
  intro m mem
  rw [Member.said?, Option.map_map]
  exact Option.map_id'

lemma filterMap_snd_said (ms : List (Member Value)) :
    (said ms).filterMap Prod.snd = ms.filterMap Member.setting? := by
  rw [said, List.filterMap_filterMap]
  apply List.filterMap_congr
  intro m mem
  rw [Member.said?, Member.setting?]
  cases m.field? <;> rfl

lemma mem_said {p : Config.Field × Option Setting} :
    p ∈ said ms ↔ ∃ m ∈ ms, m.field? = some p.1 ∧ m.value.item.setting? p.1 = p.2 := by
  obtain ⟨f, s⟩ := p
  simp [said, Member.said?]

lemma fits_iff : (∀ m ∈ ms, m.Fits) ↔ ∀ p ∈ said ms, p.2.isSome := by
  constructor
  · intro fits p mem
    obtain ⟨m, mem, known, said⟩ := mem_said.1 mem
    exact said ▸ (m.value.item.setting?_isSome _).2 (fits m mem _ known)
  · intro said m mem f known
    rw [← Value.setting?_isSome]
    exact said (f, _) (mem_said.2 ⟨m, mem, known, rfl⟩)

lemma readable_iff : Readable [] ms ↔
    Named ms ∧ ((said ms).map Prod.fst).Nodup ∧ ∀ p ∈ said ms, p.2.isSome := by
  rw [map_fst_said, ← fits_iff]
  constructor
  · rintro ⟨named, distinct, -, fits⟩
    exact ⟨named, distinct, fits⟩
  · rintro ⟨named, distinct, fits⟩
    exact ⟨named, distinct, fun _ _ => List.not_mem_nil, fits⟩

lemma map_field_of_said {ps : List (Config.Field × Option Setting)}
    (own : ∀ p ∈ ps, ∃ s, p.2 = some s ∧ s.field = p.1) :
    (ps.filterMap Prod.snd).map Setting.field = ps.map Prod.fst := by
  induction ps with
  | nil => rfl
  | cons p ps ih =>
    obtain ⟨⟨s, said, field⟩, own⟩ := List.forall_mem_cons.1 own
    rw [List.filterMap_cons_some said, List.map_cons, List.map_cons, field, ih own]

/-- Members that can be read give at most one setting to each field. -/
lemma distinct_settings (readable : Readable [] ms) :
    ((ms.filterMap Member.setting?).map Setting.field).Nodup := by
  obtain ⟨-, distinct, fits⟩ := readable_iff.1 readable
  rw [← filterMap_snd_said, map_field_of_said]
  · exact distinct
  · intro p mem
    obtain ⟨s, said⟩ := Option.isSome_iff_exists.1 (fits p mem)
    obtain ⟨m, -, -, setting⟩ := mem_said.1 mem
    exact ⟨s, said, Value.field_of_setting? (setting.trans said)⟩

/-- Members that can be read, applied to the default configuration, override it. -/
lemma isOverridden_of_readable (machine : Machine) (readable : Readable [] ms) :
    ((Config.new machine).setAll (ms.filterMap Member.setting?)).IsOverridden machine ms := by
  constructor
  · intro m mem f isFor
    obtain ⟨-, -, fits⟩ := readable_iff.1 readable
    have said : (f, m.value.item.setting? f) ∈ said ms := mem_said.2 ⟨m, mem, isFor, rfl⟩
    obtain ⟨s, value⟩ : ∃ s, m.value.item.setting? f = some s := Option.isSome_iff_exists.1 (fits _ said)
    have setting : m.setting? = some s := by rw [Member.setting?, isFor, Option.bind_some, value]
    obtain rfl := Value.field_of_setting? value
    have last := Setting.last?_of_mem (distinct_settings readable) (List.mem_filterMap.2 ⟨m, mem, setting⟩)
    have said : s.get? s.field =
        some (((Config.new machine).setAll (ms.filterMap Member.setting?)).get s.field) := by
      rw [Config.get_setAll, last]
      cases s <;> rfl
    exact Config.holds_of_setting? value said
  · intro f absent
    rw [Config.get_setAll, Setting.last?_eq_none, Option.getD_none]
    intro s mem same
    obtain ⟨m, mem, setting⟩ := List.mem_filterMap.1 mem
    obtain ⟨g, isFor, value⟩ := Option.bind_eq_some_iff.1 setting
    obtain rfl := (Value.field_of_setting? value).symm.trans same
    exact absent (List.mem_filterMap.2 ⟨m, mem, isFor⟩)

/-- Members that say the same, in whatever order, make the same configuration or none. -/
theorem setAll_settings?_of_perm (named : Named ms) (named' : Named ms')
    (perm : (said ms).Perm (said ms')) (c : Config) :
    (settings? [] ms).map c.setAll = (settings? [] ms').map c.setAll := by
  have readable : Readable [] ms ↔ Readable [] ms' := by
    rw [readable_iff, readable_iff, (perm.map Prod.fst).nodup_iff]
    simp only [named, named', perm.mem_iff]
  by_cases h : Readable [] ms
  · rw [settings?_eq_some.2 ⟨h, rfl⟩, settings?_eq_some.2 ⟨readable.1 h, rfl⟩, Option.map_some,
      Option.map_some, c.setAll_perm (distinct_settings h)]
    rw [← filterMap_snd_said, ← filterMap_snd_said]
    exact perm.filterMap _
  · have none (ms : List (Member Value)) (h : ¬Readable [] ms) : settings? [] ms = none :=
      Option.eq_none_iff_forall_ne_some.2 fun settings eq => h (settings?_eq_some.1 eq).1
    rw [none ms h, none ms' (mt readable.2 h)]

/-- Changes that say nothing new keep what the members say, except for the order. -/
lemma said_of_edits (edits : Relation.ReflTransGen Edit ms ms') (named : Named ms) :
    Named ms' ∧ (said ms).Perm (said ms') := by
  induction edits with
  | refl => exact ⟨named, .refl _⟩
  | tail _ edit ih => exact ⟨edit.named ih.1, ih.2.trans edit.said⟩

open Config

/-- An object gets past reading exactly if its members can be read one after another. -/
lemma parses_object (machine : Machine) (before gap after : Blank) (ms : List (Member Value)) :
    Parses machine (Padded.document ⟨before, .object ms gap, after⟩) ↔ Readable [] ms := by
  rw [parses_iff, readSettings_object, Option.isSome_iff_exists]
  simp [settings?_eq_some]

/-- An object with a key that is not Unicode is never read, whether the key is for a field or not. -/
theorem not_parses_of_not_named (machine : Machine) (before gap after : Blank) (unnamed : ¬Named ms) :
    ¬Parses machine (Padded.document ⟨before, .object ms gap, after⟩) := by
  rw [parses_object, readable_iff]
  exact fun readable => unnamed readable.1

/-- An object is read if no field is given twice and every field has a value that it has a use for. Then
the configuration is the default one overridden by the members, each field by its own, unless a check
refuses it; and nothing else about the document matters: neither the order of the members, nor blanks, nor
members for no field. -/
theorem ofJson_object (machine : Machine) (before gap after : Blank) {ms : List (Member Value)}
    (named : Named ms) :
    (Parses machine (Padded.document ⟨before, .object ms gap, after⟩) ↔
      (fields ms).Nodup ∧ ∀ m ∈ ms, m.Fits) ∧
    (Parses machine (Padded.document ⟨before, .object ms gap, after⟩) →
      ∃ c : Config, c.IsOverridden machine ms ∧
        ofJson machine (Padded.document ⟨before, .object ms gap, after⟩) = accept c) ∧
    ∀ (before' gap' after' : Blank) (ms' : List (Member Value)), Relation.ReflTransGen Edit ms ms' →
      Agree (ofJson machine (Padded.document ⟨before, .object ms gap, after⟩))
        (ofJson machine (Padded.document ⟨before', .object ms' gap', after'⟩)) := by
  refine ⟨?_, ?_, ?_⟩
  · rw [parses_object, readable_iff, map_fst_said, ← fits_iff]
    exact and_iff_right named
  · intro parses
    have readable := (parses_object _ _ _ _ _).1 parses
    refine ⟨_, isOverridden_of_readable machine readable, ofJson_of_settings machine ?_⟩
    rw [readSettings_object, settings?_eq_some]
    exact ⟨readable, rfl⟩
  · intro before' gap' after' ms' edits
    obtain ⟨named', perm⟩ := said_of_edits edits named
    apply agree_of_setAll
    rw [readSettings_object, readSettings_object]
    exact setAll_settings?_of_perm named named' perm (new machine)

/-- On a machine with four processors, a count of three workers is read behind a member for no field, and
would be the same before it. -/
theorem ofJson_object_behind_unknown :
    let machine : Machine := ⟨4, by decide⟩
    let unknown : Member Value :=
      ⟨⟨.none, spell ['x'], .none⟩, ⟨.none, .list [⟨.none, .object [] .none, .none⟩] .none, .none⟩⟩
    let count := (Setting.workerCount 3).member
    Named [unknown, count] ∧
      ofJson machine (Padded.document ⟨.none, .object [unknown, count] .none, .none⟩) =
        .ok { workerCount := 3 } ∧
      Agree (ofJson machine (Padded.document ⟨.none, .object [unknown, count] .none, .none⟩))
        (ofJson machine (Padded.document ⟨.none, .object [count, unknown] .none, .none⟩)) := by
  intro machine unknown count
  have passed : unknown.field? = none := by decide
  have named : Named [unknown, count] := by
    refine List.forall_mem_cons.2 ⟨by decide, List.forall_mem_singleton.2 ?_⟩
    exact Option.isSome_iff_exists.2 ⟨_, Config.Field.name?_member .workerCount _⟩
  have known : count.field? = some .workerCount := Config.Field.field?_member .workerCount _
  have fields : fields [unknown, count] = [.workerCount] := by
    rw [fields_cons_of_unknown passed, fields_cons_of_known known]
    rfl
  have fits : ∀ m ∈ [unknown, count], m.Fits := by
    refine List.forall_mem_cons.2 ⟨by simp [Member.Fits, passed], List.forall_mem_singleton.2 ?_⟩
    intro f isFor
    obtain rfl := Option.some.inj (known.symm.trans isFor)
    rw [← Value.setting?_isSome]
    exact Option.isSome_iff_exists.2 ⟨_, Setting.setting?_scalar (.workerCount 3)⟩
  obtain ⟨parses, meaning, edits⟩ := ofJson_object machine .none .none .none named
  obtain ⟨c, overridden, read⟩ := meaning (parses.2 ⟨by rw [fields]; decide, fits⟩)
  have three : c.workerCount = 3 := by
    have holds := overridden.given count (by simp) .workerCount known
    have spelled : c.workerCount.toNat = 3 := holds.trans (Decimal.value_ofNat 3)
    exact UInt64.toNat_inj.1 spelled
  have eq : c = { workerCount := 3 } := by
    refine Config.eq_of_get fun f => ?_
    cases f with
    | workerCount => exact three
    | _ => exact overridden.kept _ (by rw [fields]; decide)
  refine ⟨named, ?_, edits _ _ _ _ (.single (.permute (.swap _ _ _)))⟩
  rw [read, eq]
  rfl

end TaskCrew
