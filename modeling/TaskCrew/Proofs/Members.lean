import TaskCrew.Proofs.Settings

/-!
# Members of objects

* `Member.name?`, `Member.field?`, `Member.setting?` — what a member is for, and the setting that it gives;
* `readMembers_unnamed`, …, `readMembers_known` — what reading comes to at one member;
* `settings?`, `readMembers_write` — the settings that members give, which are those that are read;
* `Readable`, `settings?_eq_some` — when members give settings: every key is Unicode, no field is given
  twice, and every value is one for its field;
* `Setting.member` — a setting as a member.

Fields that were given before are a parameter of the induction on members, as they are one of reading.
-/

namespace TaskCrew

open Json

variable {cs rest : List Char} {f : Config.Field}

/-! ## Members -/

lemma nextMember_end (first : Bool) (b gap : Blank) (cs : List Char) :
    nextMember first (b.text ++ (gap.text ++ '\x7d' :: cs)) = .ok (.inr cs) := by
  have blank := skipBlank_token gap (c := '\x7d') (by decide) cs
  simp only [nextMember, skipBlank_append, blank]

/-- Before the key of a member stands a comma, unless the member is the first. -/
def comma (first : Bool) : List Char :=
  if first then [] else [',']

lemma readColon_write (b : Blank) (cs : List Char) : readColon (b.text ++ ':' :: cs) = .ok cs := by
  have blank := skipBlank_token b (c := ':') (by decide) cs
  simp only [readColon, blank]

variable {given : List Config.Field} {first : Bool} {more afterKey afterColon : List Char}

lemma readMembers_end (h : nextMember first cs = .ok (.inr rest)) :
    readMembers given first cs = .ok ([], rest) := by
  rw [readMembers]
  grind

section Key

variable (next : nextMember first cs = .ok (.inl more))

include next

lemma readMembers_unnamed {fault : Fault} (key : readText more = .error fault) :
    readMembers given first cs = .error fault := by
  rw [readMembers]
  grind

variable {key : List Char} (named : readText more = .ok (key, afterKey))

include named

/-- A member that is for no field is passed over. -/
lemma readMembers_unknown (unknown : Config.Field.ofKey? (String.ofList key) = none)
    (colon : readColon afterKey = .ok afterColon) (passes : passValue afterColon = .ok rest) :
    readMembers given first cs = readMembers given false rest := by
  rw [readMembers]
  grind

variable (known : Config.Field.ofKey? (String.ofList key) = some f)

include known

lemma readMembers_again (again : f ∈ given) :
    readMembers given first cs = .error (duplicateFault f afterKey) := by
  rw [readMembers]
  grind

lemma readMembers_refused (fresh : f ∉ given) (colon : readColon afterKey = .ok afterColon)
    {fault : Fault} (refused : readSetting f afterColon = .error fault) :
    readMembers given first cs = .error fault := by
  rw [readMembers]
  grind

lemma readMembers_known (fresh : f ∉ given) (colon : readColon afterKey = .ok afterColon)
    {s : Setting} (set : readSetting f afterColon = .ok (s, rest)) :
    readMembers given first cs =
      (readMembers (f :: given) false rest).map fun (settings, rest) => (s :: settings, rest) := by
  rw [readMembers]
  split
  · next h => cases next.symm.trans h
  · next h => cases next.symm.trans h
  next h =>
  cases next.symm.trans h
  split
  · next h => cases named.symm.trans h
  next h =>
  cases named.symm.trans h
  split
  · next h =>
    cases known.symm.trans h
    rw [if_neg (by simpa using fresh)]
    split
    · next h => cases colon.symm.trans h
    next h =>
    cases colon.symm.trans h
    split
    · next h => cases set.symm.trans h
    next h =>
    cases set.symm.trans h
    cases readMembers (f :: given) false rest <;> rfl
  · next h => cases known.symm.trans h

end Key

/-! ## Whole objects -/

namespace Json.Member

/-- What follows the colon of a member. -/
def fromColon (m : Member Value) (cs : List Char) : List Char :=
  m.value.before.text ++ (m.value.item.write ++ (m.value.after.text ++ cs))

/-- What follows the key of a member. -/
def fromKey (m : Member Value) (cs : List Char) : List Char :=
  m.key.after.text ++ ':' :: m.fromColon cs

end Json.Member

lemma nextMember_write (first : Bool) (b : Blank) (m : Member Value) (cs : List Char) :
    nextMember first (b.text ++ (comma first ++ (m.write Value.write ++ cs))) =
      .ok (.inl (m.key.item.flatMap Glyph.write ++ '"' :: m.fromKey cs)) := by
  have text : m.write Value.write ++ cs =
      m.key.before.text ++ '"' :: (m.key.item.flatMap Glyph.write ++ '"' :: m.fromKey cs) := by
    rw [Member.write_append, writeGlyphs_append]
    rfl
  have quote := skipBlank_token m.key.before (c := '"') (by decide)
  rw [text, nextMember, skipBlank_append]
  cases first with
  | true => simp [comma, quote]
  | false =>
    rw [comma, if_neg Bool.false_ne_true, List.singleton_append, skipBlank_cons (by decide)]
    simp [quote]

/-- The text from a member of an object on: the members that are left, the gap, and the end. -/
def fromMember (first : Bool) (ms : List (Member Value)) (gap : Blank) (cs : List Char) : List Char :=
  match ms with
  | [] => gap.text ++ '\x7d' :: cs
  | m :: ms => comma first ++ (m.write Value.write ++ fromMember false ms gap cs)

variable {ms : List (Member Value)} {gap : Blank}

lemma fromMember_false :
    fromMember false ms gap cs = following (ms.map (·.write Value.write)) gap ('\x7d' :: cs) := by
  induction ms with
  | nil => rfl
  | cons m ms ih =>
    rw [fromMember, ih, List.map_cons, following_cons]
    rfl

lemma object_append :
    (Value.object ms gap).write ++ cs = '\x7b' :: fromMember true ms gap cs := by
  cases ms with
  | nil => exact Value.object_nil_append gap
  | cons m ms =>
    rw [Value.object_cons_append, fromMember, fromMember_false]
    rfl

lemma endsNumber_fromMember (b : Blank) : EndsNumber (b.text ++ fromMember false ms gap cs) := by
  rw [fromMember_false]
  exact endsNumber_following (.inr rfl) b _ gap cs

/-- The settings that members give, unless a key is not Unicode, a field is given once more, or a value
is none for its field. -/
def settings? (given : List Config.Field) : List (Member Value) → Option (List Setting)
  | [] => some []
  | m :: ms =>
    if m.name? = none then none
    else
      match m.field? with
      | none => settings? given ms
      | some f =>
        if f ∈ given then none
        else (m.value.item.setting? f).bind fun s => (settings? (f :: given) ms).map (s :: ·)

/-- The members of an object are read as the settings that they give, up to the end of the object. -/
theorem readMembers_write (given : List Config.Field) (first : Bool) (b : Blank)
    (ms : List (Member Value)) (gap : Blank) (cs : List Char) :
    (readMembers given first (b.text ++ fromMember first ms gap cs)).toOption =
      (settings? given ms).map (·, cs) := by
  induction ms generalizing given first b with
  | nil =>
    rw [fromMember, readMembers_end (nextMember_end first b gap cs)]
    rfl
  | cons m ms ih =>
    have next := nextMember_write first b m (fromMember false ms gap cs)
    have named := readText_glyphs m.key.item (m.fromKey (fromMember false ms gap cs))
    have colon := readColon_write m.key.after (m.fromColon (fromMember false ms gap cs))
    have ends : EndsNumber (m.value.after.text ++ fromMember false ms gap cs) :=
      endsNumber_fromMember m.value.after
    rw [fromMember, settings?, Member.field?, Member.name?]
    cases spelled : chars? m.key.item with
    | none =>
      obtain ⟨fault, named⟩ := toOption_eq_none.1 (named.trans (by rw [spelled]; rfl))
      rw [readMembers_unnamed next named]
      rfl
    | some key =>
      have named := toOption_eq_some.1 (named.trans (by rw [spelled]; rfl))
      rw [Option.map_some, Option.bind_some, if_neg nofun]
      cases known : Config.Field.ofKey? (String.ofList key) with
      | none =>
        rw [readMembers_unknown next named known colon (passValue_write _ _ ends)]
        exact ih given false m.value.after
      | some f =>
        by_cases again : f ∈ given
        · simp only [if_pos again, readMembers_again next named known again]
          rfl
        have value := readSetting_write (f := f) m.value.before m.value.item ends
        simp only [if_neg again]
        cases fits : m.value.item.setting? f with
        | none =>
          obtain ⟨fault, refused⟩ := toOption_eq_none.1 (value.trans (by rw [fits]; rfl))
          rw [readMembers_refused next named known again colon refused]
          rfl
        | some s =>
          have set := toOption_eq_some.1 (value.trans (by rw [fits]; rfl))
          rw [readMembers_known next named known again colon set, toOption_map, ih, Option.map_map,
            Option.bind_some, Option.map_map]
          rfl

/-! ## When members can be read -/

/-- The fields that members are for. -/
def fields (ms : List (Member Value)) : List Config.Field :=
  ms.filterMap Member.field?

/-- The value of a member is one for its field, if the member is for a field. -/
def Json.Member.Fits (m : Member Value) : Prop :=
  ∀ f, m.field? = some f → m.value.item.Admissible f

/-- Every member has a key that is Unicode. -/
def Named (ms : List (Member Value)) : Prop :=
  ∀ m ∈ ms, m.name?.isSome

/-- Members that can be read after others that have given some fields. -/
structure Readable (given : List Config.Field) (ms : List (Member Value)) : Prop where
  named : Named ms
  distinct : (fields ms).Nodup
  fresh : ∀ f ∈ fields ms, f ∉ given
  fits : ∀ m ∈ ms, m.Fits

variable {given : List Config.Field} {m : Member Value} {f : Config.Field} {name : String}

lemma fields_cons_of_unknown (unknown : m.field? = none) : fields (m :: ms) = fields ms :=
  List.filterMap_cons_none unknown

lemma fields_cons_of_known (known : m.field? = some f) : fields (m :: ms) = f :: fields ms :=
  List.filterMap_cons_some known

lemma readable_nil (given : List Config.Field) : Readable given [] :=
  ⟨by simp [Named], List.nodup_nil, by simp [fields], by simp⟩

lemma readable_cons_of_unknown (named : m.name? = some name) (unknown : m.field? = none) :
    Readable given (m :: ms) ↔ Readable given ms := by
  have fits : m.Fits := by simp [Member.Fits, unknown]
  constructor
  · rintro ⟨named, distinct, fresh, fits⟩
    rw [fields_cons_of_unknown unknown] at distinct fresh
    exact ⟨(List.forall_mem_cons.1 named).2, distinct, fresh, (List.forall_mem_cons.1 fits).2⟩
  · rintro ⟨named', distinct, fresh, fits'⟩
    rw [← fields_cons_of_unknown unknown] at distinct fresh
    exact ⟨List.forall_mem_cons.2 ⟨by simp [named], named'⟩, distinct, fresh,
      List.forall_mem_cons.2 ⟨fits, fits'⟩⟩

lemma readable_cons_of_known (named : m.name? = some name) (known : m.field? = some f) :
    Readable given (m :: ms) ↔
      f ∉ given ∧ m.value.item.Admissible f ∧ Readable (f :: given) ms := by
  have fits : m.Fits ↔ m.value.item.Admissible f := by simp [Member.Fits, known]
  constructor
  · rintro ⟨named, distinct, fresh, fits'⟩
    rw [fields_cons_of_known known] at distinct fresh
    obtain ⟨notAgain, distinct⟩ := List.nodup_cons.1 distinct
    obtain ⟨freshHead, fresh⟩ := List.forall_mem_cons.1 fresh
    refine ⟨freshHead, fits.1 (fits' m List.mem_cons_self), (List.forall_mem_cons.1 named).2, distinct,
      ?_, (List.forall_mem_cons.1 fits').2⟩
    intro g mem
    rw [List.mem_cons, not_or]
    exact ⟨ne_of_mem_of_not_mem mem notAgain, fresh g mem⟩
  · rintro ⟨freshHead, fitsHead, named', distinct, fresh, fits'⟩
    have notAgain : f ∉ fields ms := fun mem => fresh f mem List.mem_cons_self
    refine ⟨List.forall_mem_cons.2 ⟨by simp [named], named'⟩, ?_, ?_,
      List.forall_mem_cons.2 ⟨fits.2 fitsHead, fits'⟩⟩
    · rw [fields_cons_of_known known]
      exact List.nodup_cons.2 ⟨notAgain, distinct⟩
    · rw [fields_cons_of_known known]
      exact List.forall_mem_cons.2 ⟨freshHead, fun g mem => List.not_mem_of_not_mem_cons (fresh g mem)⟩

/-- Members give settings exactly if they can be read, and then each one gives its own. -/
theorem settings?_eq_some {settings : List Setting} :
    settings? given ms = some settings ↔
      Readable given ms ∧ ms.filterMap Member.setting? = settings := by
  induction ms generalizing given settings with
  | nil => simp [settings?, readable_nil]
  | cons m ms ih =>
    rw [settings?]
    cases named : m.name? with
    | none =>
      simp only [if_true, reduceCtorEq, false_iff, not_and]
      intro readable
      have := readable.named m List.mem_cons_self
      simp [named] at this
    | some name =>
      rw [if_neg nofun]
      cases known : m.field? with
      | none =>
        have skipped : m.setting? = none := by rw [Member.setting?, known, Option.bind_none]
        rw [readable_cons_of_unknown named known, List.filterMap_cons_none skipped]
        exact ih
      | some f =>
        have taken : m.setting? = m.value.item.setting? f := by
          rw [Member.setting?, known, Option.bind_some]
        rw [readable_cons_of_known named known, ← Value.setting?_isSome]
        by_cases again : f ∈ given
        · simp [again]
        simp only [if_neg again]
        cases value : m.value.item.setting? f with
        | none => simp
        | some s =>
          rw [List.filterMap_cons_some (taken.trans value), Option.bind_some, Option.map_eq_some_iff]
          simp only [ih]
          grind

/-! ## Members from settings -/

/-- A member for a field, without blanks and with the key in its usual spelling. -/
def Config.Field.member (f : Config.Field) (v : Value) : Member Value :=
  ⟨⟨.none, spell f.key.toList, .none⟩, ⟨.none, v, .none⟩⟩

lemma Config.Field.name?_member (f : Config.Field) (v : Value) : (f.member v).name? = some f.key := by
  rw [member, Member.name?, chars?_spell, Option.map_some, String.ofList_toList]

lemma Config.Field.field?_member (f : Config.Field) (v : Value) : (f.member v).field? = some f := by
  rw [Member.field?, name?_member, Option.bind_some]
  cases f <;> rfl

namespace Setting

/-- A setting as a member of an object. -/
def member (s : Setting) : Member Value :=
  s.field.member (.scalar s.scalar)

lemma setting?_member (s : Setting) : s.member.setting? = some s := by
  rw [Member.setting?, member, Config.Field.field?_member, Option.bind_some]
  exact s.setting?_scalar

end Setting

end TaskCrew
