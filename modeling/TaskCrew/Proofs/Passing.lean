import TaskCrew.Proofs.Scalars

/-!
# Values that nobody wants

A value of any depth is passed over up to its end, whatever its brackets hold.

* `following` — what follows a part between brackets;
* `passValueIn_scalar`, …, `passAfterIn_object_end` — one step of passing over, once the next token
  is known;
* `Value.Passes`, `Value.passes` — a value is passed over with any brackets open around it;
* `passValue_write` — and so with none.

The values within a value are passed over by steps of the same functions, with one bracket more open, so the
induction is on the value and goes through for all brackets at once.
-/

namespace TaskCrew.Json

variable {c : Char} {cs cs' rest rest' : List Char} {brackets : List Bracket}

/-! ## Parts between brackets -/

lemma separated_nil : separated [] = [] := rfl

lemma separated_cons (part : List Char) (parts : List (List Char)) :
    separated (part :: parts) = part ++ parts.flatMap (',' :: ·) := by
  induction parts generalizing part with
  | nil => simp [separated]
  | cons next parts ih =>
    have unfold : separated (part :: next :: parts) = part ++ (',' :: separated (next :: parts)) := by
      simp [separated, List.intercalate]
    rw [unfold, ih, List.flatMap_cons, List.cons_append]

/-- What follows a part between brackets: the parts that are left, and the gap before the text. -/
def following (parts : List (List Char)) (gap : Blank) (cs : List Char) : List Char :=
  parts.flatMap (',' :: ·) ++ (gap.text ++ cs)

lemma following_nil (gap : Blank) : following [] gap cs = gap.text ++ cs := rfl

lemma following_cons (part : List Char) (parts : List (List Char)) (gap : Blank) :
    following (part :: parts) gap cs = ',' :: (part ++ following parts gap cs) := by
  simp [following]

/-- A part that ends with a number is not carried on by what follows it. -/
lemma endsNumber_following (bracket : c = ']' ∨ c = '\x7d') (b : Blank) (parts : List (List Char))
    (gap : Blank) (cs : List Char) : EndsNumber (b.text ++ following parts gap (c :: cs)) := by
  apply EndsNumber.blank
  cases parts with
  | nil =>
    apply EndsNumber.blank
    apply endsNumber_cons
    rcases bracket with rfl | rfl <;> decide
  | cons part parts =>
    rw [following_cons]
    exact endsNumber_cons (by decide)

lemma separated_append (part : List Char) (parts : List (List Char)) (gap : Blank) :
    separated (part :: parts) ++ gap.text ++ cs = part ++ following parts gap cs := by
  simp [separated_cons, following]

lemma Padded.write_append {α : Type} (f : α → List Char) (x : Padded α) (cs : List Char) :
    x.write f ++ cs = x.before.text ++ (f x.item ++ (x.after.text ++ cs)) := by
  simp [write]

lemma Member.write_append {α : Type} (f : α → List Char) (m : Member α) (cs : List Char) :
    m.write f ++ cs = m.key.before.text ++ (writeGlyphs m.key.item ++
      (m.key.after.text ++ ':' :: (m.value.before.text ++ (f m.value.item ++
        (m.value.after.text ++ cs))))) := by
  simp [write, Padded.write]

namespace Value

lemma list_nil_append (gap : Blank) : (list [] gap).write ++ cs = '[' :: (gap.text ++ ']' :: cs) := by
  simp [write_list, separated_nil]

lemma list_cons_append (e : Padded Value) (es : List (Padded Value)) (gap : Blank) :
    (list (e :: es) gap).write ++ cs =
      '[' :: (e.write write ++ following (es.map (·.write write)) gap (']' :: cs)) := by
  rw [write_list, List.map_cons, ← separated_append]
  simp

lemma object_nil_append (gap : Blank) :
    (object [] gap).write ++ cs = '\x7b' :: (gap.text ++ '\x7d' :: cs) := by
  simp [write_object, separated_nil]

lemma object_cons_append (m : Member Value) (ms : List (Member Value)) (gap : Blank) :
    (object (m :: ms) gap).write ++ cs =
      '\x7b' :: (m.write write ++ following (ms.map (·.write write)) gap ('\x7d' :: cs)) := by
  rw [write_object, List.map_cons, ← separated_append]
  simp

lemma exists_cons (v : Value) : ∃ c cs, v.write = c :: cs ∧ Begins c := by
  cases v with
  | scalar x =>
    obtain ⟨c, cs, eq, begins, -⟩ := x.exists_cons
    exact ⟨c, cs, (write_scalar x).trans eq, begins⟩
  | list es gap => exact ⟨_, _, write_list es gap, by decide⟩
  | object ms gap => exact ⟨_, _, write_object ms gap, by decide⟩

end Value

/-! ## One step of passing over -/

lemma passValueIn_scalar {x : Scalar} (h : skipBlank cs = x.write ++ rest) (ends : EndsNumber rest) :
    passValueIn brackets cs = passAfterIn brackets rest := by
  have passes := passScalar_write x ends
  obtain ⟨c, cs', eq, -, list, object⟩ := x.exists_cons
  rw [eq] at h passes
  rw [passValueIn]
  grind

lemma passValueIn_list_nil (h : skipBlank cs = '[' :: rest) (h' : skipBlank rest = ']' :: rest') :
    passValueIn brackets cs = passAfterIn brackets rest' := by
  rw [passValueIn]
  grind

lemma passValueIn_list_cons (h : skipBlank cs = '[' :: rest) (h' : skipBlank rest = c :: rest')
    (ne : c ≠ ']') : passValueIn brackets cs = passValueIn (.list :: brackets) (c :: rest') := by
  rw [passValueIn]
  grind

lemma passValueIn_object_nil (h : skipBlank cs = '\x7b' :: rest)
    (h' : skipBlank rest = '\x7d' :: rest') :
    passValueIn brackets cs = passAfterIn brackets rest' := by
  rw [passValueIn]
  grind

lemma passValueIn_object_cons (h : skipBlank cs = '\x7b' :: rest) (h' : skipBlank rest = '"' :: rest')
    (key : passKey ('"' :: rest') = .ok cs') :
    passValueIn brackets cs = passValueIn (.object :: brackets) cs' := by
  rw [passValueIn]
  grind

lemma passAfterIn_list_comma (h : skipBlank cs = ',' :: rest) :
    passAfterIn (.list :: brackets) cs = passValueIn (.list :: brackets) rest := by
  rw [passAfterIn]
  grind

lemma passAfterIn_list_end (h : skipBlank cs = ']' :: rest) :
    passAfterIn (.list :: brackets) cs = passAfterIn brackets rest := by
  rw [passAfterIn]
  grind

lemma passAfterIn_object_comma (h : skipBlank cs = ',' :: rest) (key : passKey rest = .ok rest') :
    passAfterIn (.object :: brackets) cs = passValueIn (.object :: brackets) rest' := by
  rw [passAfterIn]
  grind

lemma passAfterIn_object_end (h : skipBlank cs = '\x7d' :: rest) :
    passAfterIn (.object :: brackets) cs = passAfterIn brackets rest := by
  rw [passAfterIn]
  grind

/-! ## Passing over whole values -/

/-- The key of a member is passed over together with its colon. -/
lemma passKey_write (before : Blank) (gs : List Glyph) (after : Blank) (cs : List Char) :
    passKey (before.text ++ (writeGlyphs gs ++ (after.text ++ ':' :: cs))) = .ok cs := by
  have colon : skipBlank (after.text ++ ':' :: cs) = ':' :: cs := skipBlank_token after (by decide) cs
  rw [passKey, writeGlyphs_append, skipBlank_token before (by decide)]
  simp only [passText_glyphs, colon]

/-- A value can be passed over, with any brackets open around it. -/
def Value.Passes (v : Value) : Prop :=
  ∀ (brackets : List Bracket) (b : Blank) (cs : List Char), EndsNumber cs →
    passValueIn brackets (b.text ++ (v.write ++ cs)) = passAfterIn brackets cs

/-- What is left of a list after an element is passed over. -/
lemma passAfterIn_elements (brackets : List Bracket) {es : List (Padded Value)}
    (passes : ∀ e ∈ es, e.item.Passes) (b gap : Blank) (cs : List Char) :
    passAfterIn (.list :: brackets)
        (b.text ++ following (es.map (·.write Value.write)) gap (']' :: cs)) =
      passAfterIn brackets cs := by
  induction es generalizing b with
  | nil =>
    rw [List.map_nil, following_nil]
    exact passAfterIn_list_end ((skipBlank_append b _).trans (skipBlank_token gap (by decide) cs))
  | cons e es ih =>
    have onward := ih (fun e mem => passes e (List.mem_cons_of_mem _ mem)) e.after
    have ends := endsNumber_following (.inl rfl) e.after (es.map (·.write Value.write)) gap cs
    rw [List.map_cons, following_cons, passAfterIn_list_comma (skipBlank_token b (by decide) _),
      Padded.write_append, passes e List.mem_cons_self _ _ _ ends, onward]

/-- What is left of an object after a member is passed over. -/
lemma passAfterIn_members (brackets : List Bracket) {ms : List (Member Value)}
    (passes : ∀ m ∈ ms, m.value.item.Passes) (b gap : Blank) (cs : List Char) :
    passAfterIn (.object :: brackets)
        (b.text ++ following (ms.map (·.write Value.write)) gap ('\x7d' :: cs)) =
      passAfterIn brackets cs := by
  induction ms generalizing b with
  | nil =>
    rw [List.map_nil, following_nil]
    exact passAfterIn_object_end ((skipBlank_append b _).trans (skipBlank_token gap (by decide) cs))
  | cons m ms ih =>
    have onward := ih (fun m mem => passes m (List.mem_cons_of_mem _ mem)) m.value.after
    have ends :=
      endsNumber_following (.inr rfl) m.value.after (ms.map (·.write Value.write)) gap cs
    rw [List.map_cons, following_cons, Member.write_append,
      passAfterIn_object_comma (skipBlank_token b (by decide) _) (passKey_write _ _ _ _),
      passes m List.mem_cons_self _ _ _ ends, onward]

lemma passes_list {es : List (Padded Value)} (gap : Blank) (passes : ∀ e ∈ es, e.item.Passes) :
    (Value.list es gap).Passes := by
  intro brackets b cs ends
  cases es with
  | nil =>
    rw [Value.list_nil_append]
    exact passValueIn_list_nil (skipBlank_token b (by decide) _) (skipBlank_token gap (by decide) cs)
  | cons e es =>
    have inside := passAfterIn_elements brackets
      (fun e mem => passes e (List.mem_cons_of_mem _ mem)) e.after gap cs
    have endsInside := endsNumber_following (.inl rfl) e.after (es.map (·.write Value.write)) gap cs
    have first := passes e List.mem_cons_self (.list :: brackets) .none _ endsInside
    obtain ⟨c, rest, eq, begins⟩ := e.item.exists_cons
    rw [Value.list_cons_append, Padded.write_append, ← inside, ← first, eq]
    refine passValueIn_list_cons (skipBlank_token b (by decide) _) ?_ begins.2.1
    exact skipBlank_token e.before begins.1 _

lemma passes_object {ms : List (Member Value)} (gap : Blank) (passes : ∀ m ∈ ms, m.value.item.Passes) :
    (Value.object ms gap).Passes := by
  intro brackets b cs ends
  cases ms with
  | nil =>
    rw [Value.object_nil_append]
    exact passValueIn_object_nil (skipBlank_token b (by decide) _) (skipBlank_token gap (by decide) cs)
  | cons m ms =>
    have inside := passAfterIn_members brackets
      (fun m mem => passes m (List.mem_cons_of_mem _ mem)) m.value.after gap cs
    have endsInside :=
      endsNumber_following (.inr rfl) m.value.after (ms.map (·.write Value.write)) gap cs
    rw [Value.object_cons_append, Member.write_append, ← inside,
      ← passes m List.mem_cons_self (.object :: brackets) m.value.before _ endsInside]
    have key := skipBlank_token m.key.before (c := '"') (by decide)
    exact passValueIn_object_cons (skipBlank_token b (by decide) _) (key _)
      (passKey_write .none m.key.item m.key.after _)

/-- Every value is passed over, of whatever depth it is. -/
theorem Value.passes (v : Value) : v.Passes := by
  induction v using Value.induct with
  | scalar x =>
    intro brackets b cs ends
    refine passValueIn_scalar (x := x) ?_ ends
    rw [skipBlank_append, write_scalar, skipBlank_scalar]
  | list es gap ih => exact passes_list gap ih
  | object ms gap ih => exact passes_object gap ih

/-- A value that nobody wants is passed over up to its end. -/
theorem passValue_write (v : Value) (b : Blank) (h : EndsNumber cs) :
    passValue (b.text ++ (v.write ++ cs)) = .ok cs := by
  rw [passValue, v.passes [] b cs h, passAfterIn]

end TaskCrew.Json
