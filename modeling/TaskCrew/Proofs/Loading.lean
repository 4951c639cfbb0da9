import TaskCrew.Config.Environment
import TaskCrew.Proofs.Lines

/-!
# Loading files of variables

A file is a layer beneath the environment: it says something only of variables that have no text, and of
these what it says first.

* `Layered` — an environment after a table of values was laid beneath it;
* `under`, `table` — the values of the lines of a file, each of which is read in the environment with the
  values of the lines before it beneath;
* `Takes` — the variables that a table sets can hold what it says of them;
* `applyAfter_loaded` — what assignments come to: their values are laid beneath the environment, up to the
  first one that no variable can hold;
* `Known.expand_eq`, `applyAfter_again` — in the environment that assignments have led to, they come to the
  same end;
* `ofEnvironment_layers`, `ofEnvironment_again` — the configuration of an environment with a file, and of
  what is left after it.

Lines are read in an environment that other lines have changed before. The value of an earlier line is then
in the environment, or was lost to a text that was there already, so the values of earlier lines, which are
looked up last, never come into play.
-/

namespace TaskCrew

namespace Environment

variable {e e' now after : Environment} {name text : String} {T : List (String × String)}

/-! ## Layers -/

/-- The environment after a table of values was laid beneath another one: a variable that has a text keeps
it, any other has the first value that the table gives it, and all else is as it was. -/
structure Layered (e : Environment) (T : List (String × String)) (after : Environment) : Prop where
  kept : ∀ name, e.text? name ≠ none → after.value? name = e.value? name
  first : ∀ name text, e.text? name = none → T.lookup name = some text →
    after.value? name = some (.text text)
  other : ∀ name, T.lookup name = none → after.value? name = e.value? name

lemma text?_congr (h : e'.value? name = e.value? name) : e'.text? name = e.text? name :=
  congrArg (Option.bind · Value.text?) h

lemma text?_of_value? (h : e.value? name = some (.text text)) : e.text? name = some text := by
  rw [text?, h]
  rfl

lemma layered_nil (e : Environment) : Layered e [] e :=
  ⟨fun _ _ => rfl, fun _ _ _ => nofun, fun _ _ => rfl⟩

/-- A table determines the environment that it is laid beneath. -/
lemma Layered.value?_eq (h : Layered e T now) (h' : Layered e T after) (name : String) :
    now.value? name = after.value? name := by
  by_cases unset : e.text? name = none
  · cases found : T.lookup name with
    | none => rw [h.other name found, h'.other name found]
    | some text => rw [h.first name text unset found, h'.first name text unset found]
  · rw [h.kept name unset, h'.kept name unset]

/-- Beneath, a table fills what has no text. -/
lemma Layered.text?_eq_none_iff (h : Layered e T now) :
    now.text? name = none ↔ e.text? name = none ∧ T.lookup name = none := by
  cases text : e.text? name with
  | some s =>
    have set : e.text? name ≠ none := text ▸ Option.some_ne_none s
    rw [text?_congr (h.kept name set), text]
    simp
  | none =>
    cases found : T.lookup name with
    | some s =>
      rw [text?_of_value? (h.first name s text found)]
      simp
    | none =>
      rw [text?_congr (h.other name found), text]
      simp

lemma lookup_append_singleton (T : List (String × String)) (key text name : String) :
    (T ++ [(key, text)]).lookup name = (T.lookup name).or (if name = key then some text else none) := by
  rw [List.lookup_append, List.lookup_cons, List.lookup_nil]
  by_cases same : name = key
  · rw [if_pos same, beq_iff_eq.2 same]
  · rw [if_neg same, beq_eq_false_iff_ne.2 same]

/-- A value for a variable that has a text is lost. -/
lemma Layered.skip (h : Layered e T now) {key : String} (set : now.text? key ≠ none) (text : String) :
    Layered e (T ++ [(key, text)]) now where
  kept := h.kept
  first name text' unset found := by
    rw [lookup_append_singleton] at found
    cases earlier : T.lookup name with
    | some t =>
      rw [earlier] at found
      exact h.first name text' unset (earlier.trans found)
    | none =>
      rw [earlier, Option.none_or] at found
      split_ifs at found with same
      subst same
      exact absurd (h.text?_eq_none_iff.2 ⟨unset, earlier⟩) set
  other name absent := by
    rw [lookup_append_singleton, Option.or_eq_none_iff] at absent
    exact h.other name absent.1

/-- A variable without a text gets the value. -/
lemma Layered.set (h : Layered e T now) {key : String} (unset : now.text? key = none) (text : String) :
    Layered e (T ++ [(key, text)]) (now.set key text) where
  kept name set := by
    have other : name ≠ key := by
      rintro rfl
      exact set (h.text?_eq_none_iff.1 unset).1
    rw [value?_set_of_ne text other, h.kept name set]
  first name text' unset' found := by
    rw [lookup_append_singleton] at found
    cases earlier : T.lookup name with
    | some t =>
      have other : name ≠ key := by
        rintro rfl
        cases (h.text?_eq_none_iff.1 unset).2.symm.trans earlier
      rw [earlier] at found
      rw [value?_set_of_ne text other, h.first name text' unset' (earlier.trans found)]
    | none =>
      rw [earlier, Option.none_or] at found
      split_ifs at found with same
      cases found
      rw [same, value?_set_self]
  other name absent := by
    rw [lookup_append_singleton, Option.or_eq_none_iff] at absent
    have other : name ≠ key := by simpa using absent.2
    rw [value?_set_of_ne text other, h.other name absent.1]

/-! ## The values of the lines -/

/-- The environment with a table of values beneath it. -/
def under (e : Environment) (T : List (String × String)) : Environment :=
  ⟨(T.filter fun p => (e.text? p.1).isNone).map (fun p => (p.1, .text p.2)) ++ e.entries⟩

lemma lookup_unset (e : Environment) (T : List (String × String)) (name : String) :
    ((T.filter fun p => (e.text? p.1).isNone).map fun p => (p.1, Value.text p.2)).lookup name =
      if (e.text? name).isNone then (T.lookup name).map .text else none := by
  induction T with
  | nil => split_ifs <;> rfl
  | cons p T ih =>
    obtain ⟨key, text⟩ := p
    by_cases same : name = key
    · subst same
      by_cases unset : (e.text? name).isNone
      · simp [unset]
      · simpa [unset] using ih
    · have differ : (name == key) = false := beq_eq_false_iff_ne.2 same
      by_cases unset : (e.text? key).isNone <;> simpa [unset, List.lookup_cons, differ] using ih

lemma value?_under (e : Environment) (T : List (String × String)) (name : String) :
    (e.under T).value? name =
      (if (e.text? name).isNone then (T.lookup name).map .text else none).or (e.value? name) := by
  rw [value?, under, List.lookup_append, lookup_unset, value?]

lemma layered_under (e : Environment) (T : List (String × String)) : Layered e T (e.under T) where
  kept name set := by
    have isSet : ¬ (e.text? name).isNone := fun unset => set (Option.isNone_iff_eq_none.1 unset)
    rw [value?_under, if_neg isSet, Option.none_or]
  first name text unset found := by
    rw [value?_under, unset, if_pos Option.isNone_none, found]
    rfl
  other name absent := by rw [value?_under, absent, Option.map_none, ite_self, Option.none_or]

lemma expand_of_resolve {earlier earlier' : List (String × String)}
    (resolve : e'.resolve earlier' = e.resolve earlier) : e'.expand earlier' = e.expand earlier := by
  funext value
  rw [expand, expand, resolve]

/-- What a value expands to depends on the texts of the environment alone. -/
lemma expand_congr (h : ∀ name, e'.text? name = e.text? name) : e'.expand = e.expand := by
  have textAt : e'.textAt? = e.textAt? := funext fun name => by simp only [textAt?, h]
  funext earlier
  refine expand_of_resolve (funext fun name => ?_)
  rw [resolve, resolve, textAt]

lemma Layered.expand_eq (h : Layered e T now) : now.expand = (e.under T).expand :=
  expand_congr fun name => text?_congr (h.value?_eq (layered_under e T) name)

/-- The table with the value of one more line, which is read in the environment with the table beneath. -/
def extend (e : Environment) (T : List (String × String)) (a : Assignment) : List (String × String) :=
  T ++ [(a.key, (e.under T).expand T.reverse a.value)]

lemma reverse_extend (e : Environment) (T : List (String × String)) (a : Assignment) :
    (e.extend T a).reverse = (a.key, (e.under T).expand T.reverse a.value) :: T.reverse :=
  List.reverse_concat

/-- The values of all lines. -/
def table (e : Environment) (as : List Assignment) : List (String × String) :=
  as.foldl e.extend []

/-- Later lines leave the values of earlier ones. -/
lemma exists_foldl_extend (e : Environment) (T : List (String × String)) (as : List Assignment) :
    ∃ back, as.foldl e.extend T = T ++ back := by
  induction as generalizing T with
  | nil => exact ⟨[], (List.append_nil T).symm⟩
  | cons a as ih =>
    obtain ⟨back, eq⟩ := ih (e.extend T a)
    exact ⟨_, eq.trans (List.append_assoc T _ back)⟩

/-! ## What is set -/

/-- The variables that a table sets can hold what they are set to. -/
def Takes (e : Environment) (T : List (String × String)) : Prop :=
  ∀ name text, e.text? name = none → T.lookup name = some text → '\x00' ∉ text.toList

lemma takes_of_forall (h : ∀ p ∈ T, '\x00' ∉ p.2.toList) : e.Takes T := by
  intro name text _ found
  obtain ⟨front, back, rfl, -⟩ := List.lookup_eq_some_iff.1 found
  exact h (name, text) (List.mem_append_right front List.mem_cons_self)

lemma Takes.of_append {T' : List (String × String)} (h : e.Takes (T ++ T')) : e.Takes T := by
  intro name text unset found
  apply h name text unset
  rw [List.lookup_append, found, Option.some_or]

/-- A value that comes last is refused if its variable has no text and cannot hold it. -/
lemma Layered.takes_append_iff (h : Layered e T now) (takes : e.Takes T) {key : String} :
    e.Takes (T ++ [(key, text)]) ↔ (now.text? key = none → '\x00' ∉ text.toList) := by
  constructor
  · intro takes unset
    obtain ⟨unset, absent⟩ := h.text?_eq_none_iff.1 unset
    apply takes key text unset
    rw [lookup_append_singleton, absent, Option.none_or, if_pos rfl]
  · intro holds name text' unset found
    rw [lookup_append_singleton] at found
    cases earlier : T.lookup name with
    | some t =>
      rw [earlier] at found
      exact takes name text' unset (earlier.trans found)
    | none =>
      rw [earlier, Option.none_or] at found
      split_ifs at found with same
      cases found
      exact holds (same ▸ h.text?_eq_none_iff.2 ⟨unset, earlier⟩)

/-- What loading a table comes to: it is laid beneath the environment, as a whole or up to the first value
that is refused. -/
inductive Loaded (e : Environment) (T : List (String × String)) : Exit Unit × Environment → Prop
  | whole {after : Environment} (takes : e.Takes T) (layered : Layered e T after) :
    Loaded e T (.returned (), after)
  | refused {after : Environment} {front back : List (String × String)} {p : String × String}
    (parts : T = front ++ p :: back) (takes : e.Takes front) (refused : ¬ e.Takes (front ++ [p]))
    (layered : Layered e front after) : Loaded e T (.panicked, after)

/-- What setting a variable that may have a text comes to. -/
lemma setUnset_cases (e : Environment) (name text : String) :
    (e.text? name ≠ none ∧ e.setUnset name text = .returned e) ∨
    (e.text? name = none ∧ '\x00' ∈ text.toList ∧ e.setUnset name text = .panicked) ∨
    (e.text? name = none ∧ '\x00' ∉ text.toList ∧ e.setUnset name text = .returned (e.set name text)) := by
  rw [setUnset]
  split_ifs with set null
  · exact .inl ⟨Option.isSome_iff_ne_none.1 set, rfl⟩
  · exact .inr (.inl ⟨by simpa using set, null, rfl⟩)
  · exact .inr (.inr ⟨by simpa using set, null, rfl⟩)

section

variable {a : Assignment} {as : List Assignment} {earlier : List (String × String)}

lemma applyAfter_of_returned (eq : e.setUnset a.key (e.expand earlier a.value) = .returned e') :
    e.applyAfter earlier (a :: as) = e'.applyAfter ((a.key, e.expand earlier a.value) :: earlier) as := by
  rw [applyAfter, eq]

lemma applyAfter_of_panicked (eq : e.setUnset a.key (e.expand earlier a.value) = .panicked) :
    e.applyAfter earlier (a :: as) = (.panicked, e) := by
  rw [applyAfter, eq]

end

/-- Assignments lay their values beneath the environment, one after the other. -/
theorem applyAfter_loaded (as : List Assignment) (layered : Layered e T now) (takes : e.Takes T) :
    Loaded e (as.foldl e.extend T) (now.applyAfter T.reverse as) := by
  induction as generalizing now T with
  | nil => exact .whole takes layered
  | cons a as ih =>
    have extended : e.Takes (e.extend T a) ↔ _ := layered.takes_append_iff takes
    rw [List.foldl_cons]
    obtain ⟨set, eq⟩ | ⟨unset, null, eq⟩ | ⟨unset, holds, eq⟩ :=
      now.setUnset_cases a.key (now.expand T.reverse a.value)
    · rw [applyAfter_of_returned eq, layered.expand_eq, ← reverse_extend]
      exact ih (layered.skip set _) (extended.2 fun unset => absurd unset set)
    · -- This value is refused, and later lines leave it in the table.
      rw [applyAfter_of_panicked eq]
      rw [layered.expand_eq] at null
      obtain ⟨back, parts⟩ := e.exists_foldl_extend (e.extend T a) as
      exact .refused (parts.trans (List.append_assoc T _ back)) takes
        (fun takes => extended.1 takes unset null) layered
    · rw [applyAfter_of_returned eq]
      rw [layered.expand_eq] at holds ⊢
      rw [← reverse_extend]
      exact ih (layered.set unset _) (extended.2 fun _ => holds)

/-! ## Loading again -/

/-- A name without an equals sign leads to the text of the variable. -/
lemma textAt?_eq_text? {cs : List Char} (plain : '=' ∉ cs) : e.textAt? cs = e.text? (String.ofList cs) := by
  have allPlain : ∀ c ∈ cs, (c != '=') = true := fun c mem => by
    rw [bne_iff_ne]
    rintro rfl
    exact plain mem
  rw [textAt?, List.takeWhile_eq_self_iff.2 allPlain, List.dropWhile_eq_nil_iff.2 allPlain]

/-- The values of earlier lines, all of which have set their variable or found it set. -/
def Known (e : Environment) (earlier : List (String × String)) : Prop :=
  ∀ p ∈ earlier, e.text? p.1 ≠ none ∧ '=' ∉ p.1.toList

/-- Values of earlier lines never come into play. -/
lemma Known.expand_eq {earlier : List (String × String)} (known : e.Known earlier) :
    e.expand earlier = e.expand [] := by
  refine expand_of_resolve (funext fun name => ?_)
  cases textAt : e.textAt? name with
  | some text => rw [resolve, resolve, textAt, Option.some_or, Option.some_or]
  | none =>
    cases found : earlier.lookup (String.ofList name) with
    | none => rw [resolve, resolve, found, List.lookup_nil]
    | some text =>
      -- The variable of the earlier line has a text, and its name leads to it.
      obtain ⟨front, back, rfl, -⟩ := List.lookup_eq_some_iff.1 found
      obtain ⟨set, plain⟩ := known _ (List.mem_append_right front List.mem_cons_self)
      rw [String.toList_ofList] at plain
      exact absurd ((textAt?_eq_text? plain).symm.trans textAt) set

/-- What has a text in one environment has the same text in the other one. -/
def Grows (e e' : Environment) : Prop :=
  ∀ name, e.text? name ≠ none → e'.text? name = e.text? name

lemma Grows.trans {e'' : Environment} (h : e.Grows e') (h' : e'.Grows e'') : e.Grows e'' :=
  fun name set => by rw [h' name (by rwa [h name set]), h name set]

lemma Known.mono {earlier : List (String × String)} (known : e.Known earlier) (grows : e.Grows e') :
    e'.Known earlier :=
  fun p mem => ⟨grows p.1 (known p mem).1 ▸ (known p mem).1, (known p mem).2⟩

lemma grows_of_setUnset (eq : e.setUnset name text = .returned e') :
    e.Grows e' ∧ e'.text? name ≠ none := by
  obtain ⟨set, eq'⟩ | ⟨-, -, eq'⟩ | ⟨unset, -, eq'⟩ := e.setUnset_cases name text
  · cases eq'.symm.trans eq
    exact ⟨fun _ _ => rfl, set⟩
  · cases eq'.symm.trans eq
  · cases eq'.symm.trans eq
    refine ⟨fun other set => text?_set_of_ne text ?_, ?_⟩
    · rintro rfl
      exact set unset
    · rw [text?_set_self]
      exact Option.some_ne_none text

/-- Assignments change no text. -/
lemma grows_applyAfter (as : List Assignment) (earlier : List (String × String)) :
    e.Grows (e.applyAfter earlier as).2 := by
  induction as generalizing e earlier with
  | nil => exact fun _ _ => rfl
  | cons a as ih =>
    cases eq : e.setUnset a.key (e.expand earlier a.value) with
    | returned next =>
      rw [applyAfter_of_returned eq]
      exact (grows_of_setUnset eq).1.trans (ih _)
    | panicked =>
      rw [applyAfter_of_panicked eq]
      exact fun _ _ => rfl

lemma setUnset_of_text? (set : e.text? name ≠ none) : e.setUnset name text = .returned e := by
  rw [setUnset, if_pos (Option.isSome_iff_ne_none.2 set)]

/-- In the environment that assignments have led to, they come to the same end. -/
theorem applyAfter_again {as : List Assignment} (plain : ∀ a ∈ as, '=' ∉ a.key.toList)
    {earlier earlier' : List (String × String)} (known : e.Known earlier)
    (known' : (e.applyAfter earlier as).2.Known earlier') :
    (e.applyAfter earlier as).2.applyAfter earlier' as = e.applyAfter earlier as := by
  induction as generalizing e earlier earlier' with
  | nil => rfl
  | cons a as ih =>
    cases eq : e.setUnset a.key (e.expand earlier a.value) with
    | panicked =>
      -- The line finds the environment in which it has broken off before.
      rw [applyAfter_of_panicked eq] at known' ⊢
      rw [known.expand_eq, ← known'.expand_eq] at eq
      exact applyAfter_of_panicked eq
    | returned next =>
      -- The line finds its variable set, whatever the value now resolves to.
      rw [applyAfter_of_returned eq] at known' ⊢
      obtain ⟨grows, set⟩ := grows_of_setUnset eq
      obtain ⟨plain, plainRest⟩ := List.forall_mem_cons.1 plain
      have known : next.Known ((a.key, e.expand earlier a.value) :: earlier) :=
        List.forall_mem_cons.2 ⟨⟨set, plain⟩, known.mono grows⟩
      have setLater := (grows_applyAfter as ((a.key, e.expand earlier a.value) :: earlier) a.key set).trans_ne set
      rw [applyAfter_of_returned (setUnset_of_text? setLater)]
      exact ih plainRest known (List.forall_mem_cons.2 ⟨⟨setLater, plain⟩, known'⟩)

end Environment

namespace Config

open Environment EnvironmentFile

/-! ## Configurations -/

/-- A file is a layer beneath the environment, made of the lines before its first malformed one: the
configuration is that of the environment with the values of these lines beneath it. Only a value that a
variable would be set to and cannot hold prevents this; the call breaks off there. From the first malformed
line on it makes no difference what the file is like. -/
theorem ofEnvironment_layers (machine : Machine) (e : Environment) (content : String) :
    Reads content (assignments content) ∧
    (e.Takes (e.table (assignments content)) → ∃ after, Layered e (e.table (assignments content)) after ∧
      ofEnvironment machine e (some content) = (.returned (ofVariables machine after.text?), after)) ∧
    (¬ e.Takes (e.table (assignments content)) → ∃ front p back after,
      e.table (assignments content) = front ++ p :: back ∧ e.Takes front ∧ ¬ e.Takes (front ++ [p]) ∧
      Layered e front after ∧ ofEnvironment machine e (some content) = (.panicked, after)) ∧
    ∀ front line after as, Broken content front line after as →
      ofEnvironment machine e (some (String.ofList front)) = ofEnvironment machine e (some content) ∧
      (after ≠ [] → ∀ more, ofEnvironment machine e (some (String.ofList (front ++ (line ++ more)))) =
        ofEnvironment machine e (some content)) ∧
      ∀ content' line' after' as', Broken content' front line' after' as' →
        ofEnvironment machine e (some content') = ofEnvironment machine e (some content) := by
  have same {content content' : String} (h : assignments content' = assignments content) :
      ofEnvironment machine e (some content') = ofEnvironment machine e (some content) := by
    rw [ofEnvironment, ofEnvironment, loadEnvironment, loadEnvironment, load, load, h]
  have loaded : Loaded e (e.table (assignments content)) (e.load content) :=
    applyAfter_loaded (assignments content) (layered_nil e) (takes_of_forall nofun)
  refine ⟨reads_assignments content, fun takes => ?_, fun refused => ?_, fun front line after as broken =>
    ⟨same broken.cut, fun follows more => ?_, fun content' line' after' as' broken' => ?_⟩⟩
  · rw [ofEnvironment, loadEnvironment]
    generalize e.load content = result at loaded
    cases loaded with
    | whole _ layered => exact ⟨_, layered, rfl⟩
    | refused parts _ refused =>
      rw [parts, List.append_cons] at takes
      exact absurd takes.of_append refused
  · rw [ofEnvironment, loadEnvironment]
    generalize e.load content = result at loaded
    cases loaded with
    | whole takes => exact absurd takes refused
    | refused parts takes refused layered => exact ⟨_, _, _, _, parts, takes, refused, layered, rfl⟩
  · exact same (broken.change (broken.behind follows more))
  · exact same (broken.change broken')

/-- A variable is set twice, the second time from the first, before a line that is malformed. -/
lemma broken_repeated : Broken "A=1\nA=$A$A\n?\nB=1\n" "A=1\nA=$A$A\n".toList "?\n".toList "B=1\n".toList
    [⟨"A", [.char '1']⟩, ⟨"A", [.reference ['A'], .reference ['A']]⟩] where
  text := by decide
  sound := by
    refine @Sound.cons "A=1\n".toList "A=1".toList _ [_] ⟨by decide, fun more _ => ?_⟩ (by decide)
      (.inr rfl) ?_
    · rw [takeLine_stretch (by decide) rfl]
      rfl
    · refine @Sound.cons "A=$A$A\n".toList "A=$A$A".toList _ _ ⟨by decide, fun more _ => ?_⟩ (by decide)
        (.inl rfl) .nil
      rw [takeLine_stretch (by decide) rfl]
      rfl
  ends := .inr rfl
  malformed := by
    refine @Malformed.line _ "?".toList _ ⟨by decide, fun more _ => ?_⟩ (by decide) (.inr rfl)
    rw [takeLine_stretch (by decide) rfl]
    rfl
  mark := nofun

theorem ofEnvironment_layers_repeated :
    let machine : Machine := ⟨4, by decide⟩
    table ⟨[]⟩ (assignments "A=1\nA=$A$A\n?\nB=1\n") = [("A", "1"), ("A", "11")] ∧
    (∃ after, Layered ⟨[]⟩ (table ⟨[]⟩ (assignments "A=1\nA=$A$A\n?\nB=1\n")) after ∧
      ofEnvironment machine ⟨[]⟩ (some "A=1\nA=$A$A\n?\nB=1\n") =
        (.returned (ofVariables machine after.text?), after)) ∧
    ofEnvironment machine ⟨[]⟩ (some "A=1\nA=$A$A\n") =
      ofEnvironment machine ⟨[]⟩ (some "A=1\nA=$A$A\n?\nB=1\n") := by
  intro machine
  have layers := ofEnvironment_layers machine ⟨[]⟩ "A=1\nA=$A$A\n?\nB=1\n"
  have values : table ⟨[]⟩ (assignments "A=1\nA=$A$A\n?\nB=1\n") = [("A", "1"), ("A", "11")] := by
    rw [broken_repeated.eq]
    decide
  refine ⟨values, layers.2.1 (values ▸ takes_of_forall (by decide)), ?_⟩
  exact (layers.2.2.2 _ _ _ _ broken_repeated).1

/-- A value with a null character: the environment after the file would hold what no variable can hold, and
no configuration is returned. -/
theorem not_layers_null :
    ¬ ∃ machine after,
      Layered ⟨[]⟩ (table ⟨[]⟩ (assignments "X=a\x00b\nBOUNDED_EXECUTOR_WORKER_COUNT=4\n")) after ∧
      ofEnvironment machine ⟨[]⟩ (some "X=a\x00b\nBOUNDED_EXECUTOR_WORKER_COUNT=4\n") =
        (.returned (ofVariables machine after.text?), after) := by
  rintro ⟨machine, after, -, returned⟩
  have lines : assignments "X=a\x00b\nBOUNDED_EXECUTOR_WORKER_COUNT=4\n" =
      ⟨"X", [.char 'a', .char '\x00', .char 'b']⟩ ::
        assignmentsFrom "BOUNDED_EXECUTOR_WORKER_COUNT=4\n".toList := by
    have taken : takeLine .complete [] ("X=a\x00b\n".toList ++ "BOUNDED_EXECUTOR_WORKER_COUNT=4\n".toList) =
        .line "X=a\x00b".toList "BOUNDED_EXECUTOR_WORKER_COUNT=4\n".toList := by
      rw [takeLine_stretch (by decide) rfl]
      rfl
    rw [assignments_eq]
    exact assignmentsFrom_of_line taken (by decide)
  rw [ofEnvironment, loadEnvironment, load, lines, applyAfter_of_panicked rfl] at returned
  cases returned

/-- When the same file is loaded once more, the configuration is the same and the environment stays as it
is. -/
theorem ofEnvironment_again (machine : Machine) (e : Environment) (file : Option String) :
    ofEnvironment machine (ofEnvironment machine e file).2 file = ofEnvironment machine e file := by
  cases file with
  | none => rfl
  | some content =>
    have plain : ∀ a ∈ assignments content, '=' ∉ a.key.toList := by
      intro a mem equals
      cases continues_of_mem_assignments mem '=' equals
    have again : (e.applyAfter [] (assignments content)).2.applyAfter [] (assignments content) = _ :=
      applyAfter_again plain (List.forall_mem_nil _) (List.forall_mem_nil _)
    have environment : (ofEnvironment machine e (some content)).2 = (e.load content).2 := by
      rw [ofEnvironment, loadEnvironment]
      split <;> (next eq => rw [eq])
    rw [environment, ofEnvironment, ofEnvironment, loadEnvironment, loadEnvironment, load, load, again]

end Config

end TaskCrew
