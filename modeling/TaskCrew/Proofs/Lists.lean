import TaskCrew.Proofs.RoundTrip

/-!
# Lists instead of objects

A list gives its elements to the fields in order, so it is read like the object that has these
elements under the keys of the fields.

* `readElements_cons` — what reading comes to at one element;
* `elements?`, `readElements_write` — the settings that elements give, which are those that are read;
* `readListEnd_of_more` — with more elements than fields, there is no end behind the last field;
* `Spells`, `settings?_of_spells` — members with the same values for the same fields give the same settings;
* `ofJson_list` — so a list and an object come to the same.
-/

namespace TaskCrew

open Json

variable {cs rest : List Char} {f : Config.Field} {fields : List Config.Field} {first : Bool}

/-! ## One element -/

lemma nextElement_end (first : Bool) (b gap : Blank) (cs : List Char) :
    nextElement first (b.text ++ (gap.text ++ ']' :: cs)) = .ok none := by
  have blank := skipBlank_token gap (c := ']') (by decide) cs
  simp only [nextElement, skipBlank_append, blank]

/-- The text of an element without the blanks before it. -/
lemma nextElement_write (first : Bool) (b : Blank) (e : Padded Value) (cs : List Char) :
    nextElement first (b.text ++ (comma first ++ (e.write Value.write ++ cs))) =
      .ok (some (e.item.write ++ (e.after.text ++ cs))) := by
  obtain ⟨c, rest, eq, begins⟩ := e.item.exists_cons
  have token := skipBlank_token e.before begins.1 (rest ++ (e.after.text ++ cs))
  rw [Padded.write_append, eq, nextElement, skipBlank_append, List.cons_append]
  cases first with
  | true =>
    rw [comma, if_pos rfl, List.nil_append, token]
    simp [begins.2.1]
  | false =>
    rw [comma, if_neg Bool.false_ne_true, List.singleton_append, skipBlank_cons (by decide)]
    simp [token, begins.2.1]

lemma readElements_end (h : nextElement first cs = .ok none) :
    readElements fields first cs = .ok ([], cs) := by
  cases fields with
  | nil => rfl
  | cons f fields => simp only [readElements, h]

section Element

variable {item : List Char} (next : nextElement first cs = .ok (some item))

include next

lemma readElements_refused {fault : Fault} (refused : readSetting f item = .error fault) :
    readElements (f :: fields) first cs = .error fault := by
  simp only [readElements, next, refused]

lemma readElements_set {s : Setting} (set : readSetting f item = .ok (s, rest)) :
    readElements (f :: fields) first cs =
      (readElements fields false rest).map fun (settings, rest) => (s :: settings, rest) := by
  simp only [readElements, next, set]
  cases readElements fields false rest <;> rfl

end Element

/-! ## Whole lists -/

/-- The text from an element of a list on: the elements that are left, the gap, and the end. -/
def fromElement (first : Bool) (es : List (Padded Value)) (gap : Blank) (cs : List Char) : List Char :=
  match es with
  | [] => gap.text ++ ']' :: cs
  | e :: es => comma first ++ (e.write Value.write ++ fromElement false es gap cs)

variable {es : List (Padded Value)} {gap : Blank}

lemma fromElement_false :
    fromElement false es gap cs = following (es.map (·.write Value.write)) gap (']' :: cs) := by
  induction es with
  | nil => rfl
  | cons e es ih =>
    rw [fromElement, ih, List.map_cons, following_cons]
    rfl

lemma list_append : (Value.list es gap).write ++ cs = '[' :: fromElement true es gap cs := by
  cases es with
  | nil => exact Value.list_nil_append gap
  | cons e es =>
    rw [Value.list_cons_append, fromElement, fromElement_false]
    rfl

lemma endsNumber_fromElement (b : Blank) : EndsNumber (b.text ++ fromElement false es gap cs) := by
  rw [fromElement_false]
  exact endsNumber_following (.inl rfl) b _ gap cs

/-- An element is read as the setting of its field, and then those that follow. -/
lemma readElements_cons (first : Bool) (b : Blank) (e : Padded Value) :
    (readElements (f :: fields) first (b.text ++ fromElement first (e :: es) gap cs)).toOption =
      (e.item.setting? f).bind fun s =>
        (readElements fields false (e.after.text ++ fromElement false es gap cs)).toOption.map
          fun (settings, rest) => (s :: settings, rest) := by
  have next := nextElement_write first b e (fromElement false es gap cs)
  have ends : EndsNumber (e.after.text ++ fromElement false es gap cs) :=
    endsNumber_fromElement e.after
  have value := readSetting_write (f := f) .none e.item ends
  rw [fromElement]
  cases fits : e.item.setting? f with
  | none =>
    obtain ⟨fault, refused⟩ := toOption_eq_none.1 (value.trans (by rw [fits]; rfl))
    rw [readElements_refused next refused]
    rfl
  | some s =>
    have set := toOption_eq_some.1 (value.trans (by rw [fits]; rfl))
    rw [readElements_set next set, toOption_map]
    rfl

/-- The settings that elements give to fields in order, unless an element is none for its field. -/
def elements? : List Config.Field → List (Padded Value) → Option (List Setting)
  | f :: fields, e :: es => (e.item.setting? f).bind fun s => (elements? fields es).map (s :: ·)
  | _, _ => some []

/-- As long as there are not more elements than fields, an element has a field. -/
lemma exists_cons_of_le {e : Padded Value} (h : (e :: es).length ≤ fields.length) :
    ∃ f fields', fields = f :: fields' ∧ es.length ≤ fields'.length := by
  cases fields with
  | nil => cases h
  | cons f fields => exact ⟨f, fields, rfl, Nat.le_of_succ_le_succ h⟩

/-- Elements are read as the settings that they give if there are not more of them than fields. -/
theorem readElements_write (h : es.length ≤ fields.length) (first : Bool) (b gap : Blank)
    (cs : List Char) :
    ∃ b' : Blank, (readElements fields first (b.text ++ fromElement first es gap cs)).toOption =
      (elements? fields es).map (·, b'.text ++ (gap.text ++ ']' :: cs)) := by
  induction es generalizing fields first b with
  | nil =>
    refine ⟨b, ?_⟩
    rw [fromElement, readElements_end (nextElement_end first b gap cs)]
    cases fields <;> rfl
  | cons e es ih =>
    obtain ⟨f, fields, rfl, le⟩ := exists_cons_of_le h
    obtain ⟨b', ih⟩ := ih le false e.after
    refine ⟨b', ?_⟩
    rw [readElements_cons, ih, elements?, Option.map_bind]
    simp only [Option.map_map, Function.comp_def]

lemma readListEnd_end (b gap : Blank) : readListEnd (b.text ++ (gap.text ++ ']' :: cs)) = .ok cs := by
  have blank := skipBlank_token gap (c := ']') (by decide) cs
  simp only [readListEnd, skipBlank_append, blank]

lemma readListEnd_comma (b : Blank) : (readListEnd (b.text ++ ',' :: cs)).toOption = none := by
  rw [readListEnd, skipBlank_token b (by decide)]
  simp only
  split <;> rfl

/-- With more elements than fields a list does not end behind the last field. -/
theorem readListEnd_of_more (more : fields.length < es.length) (comma : fields = [] → first = false)
    (b : Blank) {p : List Setting × List Char}
    (read : (readElements fields first (b.text ++ fromElement first es gap cs)).toOption = some p) :
    (readListEnd p.2).toOption = none := by
  induction fields generalizing es first b p with
  | nil =>
    obtain ⟨e, es, rfl⟩ := List.exists_cons_of_length_pos more
    obtain rfl := comma rfl
    obtain rfl := Option.some.inj read
    exact readListEnd_comma b
  | cons f fields ih =>
    obtain ⟨e, es, rfl⟩ := List.exists_cons_of_length_pos (Nat.lt_of_le_of_lt (Nat.zero_le _) more)
    rw [readElements_cons] at read
    obtain ⟨s, -, behind⟩ := Option.bind_eq_some_iff.1 read
    obtain ⟨q, readBehind, rfl⟩ := Option.map_eq_some_iff.1 behind
    have notEnd := ih (Nat.lt_of_succ_lt_succ more) (fun _ => rfl) e.after readBehind
    exact notEnd

/-! ## Lists as documents -/

lemma readSettingsValue_list (before after gap : Blank) (es : List (Padded Value)) :
    (readSettingsValue ((⟨before, .list es gap, after⟩ : Padded Value).write Value.write)).toOption =
      (readElements Config.Field.all true (fromElement true es gap after.text)).toOption.bind
        fun (settings, rest) => (readListEnd rest).toOption.map (settings, ·) := by
  have text : (⟨before, .list es gap, after⟩ : Padded Value).write Value.write =
      before.text ++ '[' :: fromElement true es gap after.text := by
    rw [Padded.write, List.append_assoc, list_append]
  have bracket := skipBlank_token before (c := '[') (by decide) (fromElement true es gap after.text)
  rw [text, readSettingsValue, bracket]
  simp only
  cases readElements Config.Field.all true (fromElement true es gap after.text) with
  | error fault => rfl
  | ok p => exact toOption_map _ _

/-- A list gives the settings that its elements give to the fields in order. -/
theorem readSettings_list (h : es.length ≤ Config.Field.all.length) (before after gap : Blank) :
    (readSettings (Padded.document ⟨before, .list es gap, after⟩).toList).toOption =
      elements? Config.Field.all es := by
  apply readSettings_document
  obtain ⟨b, read⟩ := readElements_write h true .none gap after.text
  rw [readSettingsValue_list, ← List.nil_append (fromElement true es gap after.text)]
  refine (congrArg (Option.bind · _) read).trans ?_
  cases elements? Config.Field.all es with
  | none => rfl
  | some settings =>
    simp only [Option.map_some, Option.bind_some, readListEnd_end]
    rfl

/-- A list with more elements than there are fields gives no settings. -/
theorem readSettings_list_of_more (h : Config.Field.all.length < es.length)
    (before after gap : Blank) :
    (readSettings (Padded.document ⟨before, .list es gap, after⟩).toList).toOption = none := by
  apply readSettings_document
  rw [readSettingsValue_list, Option.map_none, Option.bind_eq_none_iff]
  intro p read
  exact Option.map_eq_none_iff.2 (readListEnd_of_more h nofun .none read)

/-- The members give the elements of a list to fields in order. -/
structure Spells (fields : List Config.Field) (es : List (Padded Value)) (ms : List (Member Value)) :
    Prop where
  keys : ms.map Member.field? = (fields.take es.length).map some
  values : ms.map (·.value.item) = es.map (·.item)

/-- Members that give elements to different fields are read as the elements are. -/
theorem settings?_of_spells {given : List Config.Field} {ms : List (Member Value)}
    (spells : Spells fields es ms) (distinct : fields.Nodup) (fresh : ∀ f ∈ fields, f ∉ given)
    (h : es.length ≤ fields.length) :
    settings? given ms = elements? fields es := by
  obtain ⟨keys, values⟩ := spells
  induction es generalizing fields given ms with
  | nil =>
    obtain rfl := List.map_eq_nil_iff.1 values
    cases fields <;> rfl
  | cons e es ih =>
    obtain ⟨f, fields, rfl, le⟩ := exists_cons_of_le h
    obtain ⟨m, ms, rfl, value, values⟩ := List.map_eq_cons_iff.1 values
    obtain ⟨known, keys⟩ := List.cons.inj keys
    obtain ⟨notAgain, distinct⟩ := List.nodup_cons.1 distinct
    obtain ⟨freshHead, fresh⟩ := List.forall_mem_cons.1 fresh
    have named : m.name? ≠ none := by
      intro unnamed
      rw [Member.field?, unnamed] at known
      cases known
    have freshTail : ∀ g ∈ fields, g ∉ f :: given := by
      intro g mem
      rw [List.mem_cons, not_or]
      exact ⟨ne_of_mem_of_not_mem mem notAgain, fresh g mem⟩
    have behind := ih distinct freshTail le keys values
    simp only [settings?, elements?, if_neg named, known, if_neg freshHead, value, behind]

/-- Any elements can be given to the fields by members as well. -/
lemma spells_members (h : es.length ≤ fields.length) :
    Spells fields es (List.zipWith (fun f e => f.member e.item) fields es) := by
  induction es generalizing fields with
  | nil => exact ⟨by simp, by simp⟩
  | cons e es ih =>
    obtain ⟨f, fields, rfl, le⟩ := exists_cons_of_le h
    obtain ⟨keys, values⟩ := ih le
    constructor
    · simp [keys, f.field?_member]
    · exact congrArg (e.item :: ·) values

open Config

/-- A list with at most as many elements as there are fields is worth what the object with these elements
under the keys of the first fields is worth; with more elements, a list is not read at all. -/
theorem ofJson_list (machine : Machine) (before gap after : Blank) (es : List (Padded Value)) :
    (es.length ≤ Field.all.length →
      ∀ (before' gap' after' : Blank) (ms : List (Member Value)), Spells Field.all es ms →
        Agree (ofJson machine (Padded.document ⟨before, .list es gap, after⟩))
          (ofJson machine (Padded.document ⟨before', .object ms gap', after'⟩))) ∧
    (Field.all.length < es.length → ¬Parses machine (Padded.document ⟨before, .list es gap, after⟩)) := by
  constructor
  · intro h before' gap' after' ms spells
    apply agree_of_setAll
    rw [readSettings_list h, readSettings_object,
      settings?_of_spells spells (by decide) (fun _ _ => List.not_mem_nil) h]
  · intro h
    rw [parses_iff, readSettings_list_of_more h]
    exact nofun

/-- A count and the null value, as a list and as an object; and a list of six null values. -/
theorem ofJson_list_of_two :
    let machine : Machine := ⟨4, by decide⟩
    let null : Padded Value := ⟨.none, .scalar .null, .none⟩
    let count : Padded Value := ⟨.none, .scalar (.ofCount 3), .none⟩
    Agree (ofJson machine (Padded.document ⟨.none, .list [count, null] .none, .none⟩))
      (ofJson machine (Padded.document ⟨.none, .object [Field.workerCount.member count.item,
        Field.errorLimit.member null.item] .none, .none⟩)) ∧
    ¬Parses machine (Padded.document ⟨.none, .list [null, null, null, null, null, null] .none, .none⟩) := by
  intro machine null count
  refine ⟨(ofJson_list _ _ _ _ _).1 (by decide) _ _ _ _ ?_, (ofJson_list _ _ _ _ _).2 (by decide)⟩
  have spells : Spells Field.all [count, null] _ := spells_members (by decide)
  exact spells

end TaskCrew
