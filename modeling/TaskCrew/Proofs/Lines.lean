import Mathlib.Data.List.Basic
import Mathlib.Data.List.TakeWhile
import Mathlib.Tactic.Tauto
import TaskCrew.Environment.File

/-!
# The lines of a file of variables

A file is read line by line, up to the first malformed one. What follows a line has no part in it, and so
what follows the first malformed line has no part in the file.

* `IsLine`, `exists_isLine` — a line is taken by its own characters, whatever stands behind its end;
* `Sound` — whole lines none of which is malformed, with what they assign;
* `Malformed` — a malformed line, and what may stand behind it;
* `Broken`, `Reads` — a file taken apart at its first malformed line, and what the lines before it say;
* `reads_assignments`, `Reads.eq` — every file is read, and in one way;
* `Broken.cut`, `Broken.behind`, `Broken.change` — cut off before its first malformed line, or changed behind
  it, a file says the same;
* `continues_of_mem_assignments` — the characters in the names of variables.
-/

namespace TaskCrew

/-! ## One line -/

/-- The characters end with a line end. -/
def EndsLine (cs : List Char) : Prop :=
  cs.getLast? = some '\n'

lemma endsLine_append (cs : List Char) {ds : List Char} (ne : ds ≠ []) :
    EndsLine (cs ++ ds) ↔ EndsLine ds := by
  rw [EndsLine, EndsLine, List.getLast?_append_of_ne_nil _ ne]

lemma splitLine_append (cs : List Char) : (splitLine cs).1 ++ (splitLine cs).2 = cs := by
  induction cs with
  | nil => rfl
  | cons c cs ih =>
    rw [splitLine]
    split_ifs
    · rfl
    · exact congrArg (c :: ·) ih

lemma splitLine_ne_nil (c : Char) (cs : List Char) : (splitLine (c :: cs)).1 ≠ [] := by
  rw [splitLine]
  split_ifs <;> exact List.cons_ne_nil _ _

/-- If something is left behind a line, the line has its end. -/
lemma endsLine_splitLine {cs : List Char} (more : (splitLine cs).2 ≠ []) : EndsLine (splitLine cs).1 := by
  induction cs with
  | nil => exact absurd rfl more
  | cons c cs ih =>
    rw [splitLine] at more ⊢
    split_ifs at more ⊢ with newline
    · exact congrArg some newline
    · have rest : (splitLine cs).1 ≠ [] := by
        cases cs with
        | nil => exact absurd rfl more
        | cons d ds => exact splitLine_ne_nil d ds
      exact (endsLine_append [c] rest).2 (ih more)

/-- A line is split off whatever stands behind its end. -/
lemma splitLine_again (cs more : List Char) (ends : more = [] ∨ EndsLine (splitLine cs).1) :
    splitLine ((splitLine cs).1 ++ more) = ((splitLine cs).1, more) := by
  induction cs with
  | nil =>
    rcases ends with rfl | ends
    · rfl
    · cases ends
  | cons c cs ih =>
    rw [splitLine] at ends ⊢
    split_ifs at ends ⊢ with newline
    · rw [List.singleton_append, splitLine, if_pos newline]
    · have tail : more = [] ∨ EndsLine (splitLine cs).1 := by
        refine ends.imp_right fun ends => ?_
        by_cases rest : (splitLine cs).1 = []
        · simp only [rest] at ends
          exact absurd (Option.some.inj ends) newline
        · exact (endsLine_append [c] rest).1 ends
      simp only [List.cons_append, splitLine, if_neg newline, ih tail]

variable {q : LineState} {before cs text rest : List Char}

/-- What taking a line comes to when a stretch up to a line end is split off. -/
lemma takeLine_stretch {stretch more : List Char} (ne : stretch ≠ [])
    (split : splitLine (stretch ++ more) = (stretch, more)) :
    takeLine q before (stretch ++ more) =
      if (Text.trimStart (before ++ stretch)).head? = some '#' then .line [] more
      else match q.scan stretch with
        | .inr shown => .line (before ++ shown) more
        | .inl .complete => .line (chomp (before ++ stretch)) more
        | .inl q => takeLine q (before ++ stretch) more := by
  obtain ⟨c, cs, rfl⟩ := List.exists_cons_of_ne_nil ne
  rw [List.cons_append] at split ⊢
  rw [takeLine]
  generalize splitLine (c :: (cs ++ more)) = parts at split ⊢
  cases split
  rfl

/-- Characters are taken as a line, whatever stands behind their end. -/
structure IsLine (q : LineState) (before line text : List Char) : Prop where
  ne_nil : line ≠ []
  taken : ∀ more, more = [] ∨ EndsLine line → takeLine q before (line ++ more) = .line text more

/-- A line that goes on behind a stretch of it is a line as a whole. -/
lemma IsLine.append {q' : LineState} {stretch line : List Char} (ne : stretch ≠ [])
    (goesOn : ∀ more, more = [] ∨ EndsLine stretch →
      takeLine q before (stretch ++ more) = takeLine q' (before ++ stretch) more)
    (ends : EndsLine stretch) (isLine : IsLine q' (before ++ stretch) line text) :
    IsLine q before (stretch ++ line) text where
  ne_nil := List.append_ne_nil_of_left_ne_nil ne line
  taken more end' := by
    rw [List.append_assoc, goesOn _ (.inr ends)]
    exact isLine.taken more (end'.imp_right (endsLine_append _ isLine.ne_nil).1)

/-- A line is taken by its own characters. -/
theorem exists_isLine (taken : takeLine q before cs = .line text rest) :
    ∃ line, cs = line ++ rest ∧ (rest = [] ∨ EndsLine line) ∧ IsLine q before line text := by
  induction size : cs.length using Nat.strongRecOn generalizing q before cs with
  | ind n ih =>
  cases cs with
  | nil =>
    rw [takeLine] at taken
    split_ifs at taken
  | cons c cs =>
    have ne := splitLine_ne_nil c cs
    have shorter := splitLine_length c cs
    have parts := splitLine_append (c :: cs)
    have ends : (splitLine (c :: cs)).2 ≠ [] → _ := endsLine_splitLine
    have again := splitLine_again (c :: cs)
    generalize (splitLine (c :: cs)).1 = stretch, (splitLine (c :: cs)).2 = behind at *
    have whole : behind = [] ∨ EndsLine stretch := or_iff_not_imp_left.2 ends
    have step more h : takeLine q before (stretch ++ more) = _ := takeLine_stretch ne (again more h)
    rw [← parts] at taken ⊢
    rw [step _ whole] at taken
    split_ifs at taken with comment
    · cases taken
      exact ⟨stretch, rfl, whole, ne, fun more h => by rw [step more h, if_pos comment]⟩
    · split at taken
      · next scan =>
        cases taken
        exact ⟨stretch, rfl, whole, ne, fun more h => by rw [step more h, if_neg comment, scan]⟩
      · next scan =>
        cases taken
        exact ⟨stretch, rfl, whole, ne, fun more h => by rw [step more h, if_neg comment, scan]⟩
      · next q' notComplete scan =>
        obtain ⟨line, rfl, behind, isLine⟩ := ih _ (size ▸ shorter) taken rfl
        refine ⟨stretch ++ line, by rw [List.append_assoc], ?_, ?_⟩
        · exact behind.imp_right (endsLine_append _ isLine.ne_nil).2
        · refine isLine.append ne (fun more h => ?_) (ends ?_)
          · rw [step more h, if_neg comment, scan]
            cases q' with
            | complete => exact absurd rfl notComplete
            | _ => rfl
          · exact List.append_ne_nil_of_left_ne_nil isLine.ne_nil rest

/-- Only at the end of a file nothing comes next. -/
lemma eq_of_done (done : takeLine q before cs = .done) : q = .complete ∧ cs = [] := by
  fun_induction takeLine q before cs with
  | case1 => exact ⟨rfl, rfl⟩
  | case2 => cases done
  | case3 => cases done
  | case4 => cases done
  | case5 => cases done
  | case6 q before c cs stretch rest text comment q' notComplete scan ih =>
    exact absurd (ih done).1 notComplete

/-! ## Many lines -/

namespace EnvironmentFile

/-- The assignments of a line: at most one. -/
def assigned : LineContent → List Assignment
  | .assignment a => [a]
  | .nothing | .malformed => []

/-- Whole lines none of which is malformed, with what they assign. The last one may lack its end. -/
inductive Sound : List Char → List Assignment → Prop
  | nil : Sound [] []
  | cons {line text cs : List Char} {as : List Assignment} (isLine : IsLine .complete [] line text)
    (wellFormed : readLine text ≠ .malformed) (ends : cs = [] ∨ EndsLine line) (more : Sound cs as) :
    Sound (line ++ cs) (assigned (readLine text) ++ as)

/-- A malformed line with what stands behind its end; behind a line that is not finished there is
nothing. -/
inductive Malformed : List Char → List Char → Prop
  | line {line text after : List Char} (isLine : IsLine .complete [] line text)
    (malformed : readLine text = .malformed) (ends : after = [] ∨ EndsLine line) : Malformed line after
  | unfinished {line : List Char} (unfinished : takeLine .complete [] line = .unfinished) :
    Malformed line []

variable {front line after : List Char} {as as' : List Assignment}

lemma Malformed.ne_nil (h : Malformed line after) : line ≠ [] := by
  cases h with
  | line isLine => exact isLine.ne_nil
  | unfinished unfinished =>
    rintro rfl
    rw [takeLine, if_pos rfl] at unfinished
    cases unfinished

/-- Behind a malformed line that something follows, anything else may follow. -/
lemma Malformed.behind (h : Malformed line after) (follows : after ≠ []) (more : List Char) :
    Malformed line more := by
  cases h with
  | line isLine malformed ends => exact .line isLine malformed (.inr (ends.resolve_left follows))
  | unfinished => exact absurd rfl follows

lemma assignmentsFrom_eq (cs : List Char) :
    assignmentsFrom cs = match takeLine .complete [] cs with
      | .done | .unfinished => []
      | .line text rest =>
        match readLine text with
        | .malformed => []
        | content => assigned content ++ assignmentsFrom rest := by
  rw [assignmentsFrom]
  split
  · next taken => rw [taken]
  · next taken => rw [taken]
  · next text rest taken =>
    simp only [taken]
    cases readLine text <;> rfl

lemma assignmentsFrom_nil : assignmentsFrom [] = [] := by
  rw [assignmentsFrom_eq, takeLine, if_pos rfl]

lemma assignmentsFrom_of_line (taken : takeLine .complete [] cs = .line text rest)
    (wellFormed : readLine text ≠ .malformed) :
    assignmentsFrom cs = assigned (readLine text) ++ assignmentsFrom rest := by
  rw [assignmentsFrom_eq, taken]
  cases content : readLine text with
  | malformed => exact absurd content wellFormed
  | nothing | assignment => simp only [content]

/-- Lines that are not malformed assign what they assign on their own, whatever stands behind them. -/
theorem Sound.append (sound : Sound front as) (ends : rest = [] ∨ front = [] ∨ EndsLine front) :
    assignmentsFrom (front ++ rest) = as ++ assignmentsFrom rest := by
  induction sound with
  | nil => rfl
  | @cons line text cs as isLine wellFormed whole more ih =>
    have behind : cs ++ rest = [] ∨ EndsLine line := by
      rcases whole with rfl | whole
      · exact ends.imp_right fun ends => by simpa [isLine.ne_nil] using ends
      · exact .inr whole
    have tail : rest = [] ∨ cs = [] ∨ EndsLine cs := by
      refine ends.imp_right fun ends => or_iff_not_imp_left.2 fun ne => ?_
      have ends := ends.resolve_left (List.append_ne_nil_of_left_ne_nil isLine.ne_nil cs)
      exact (endsLine_append _ ne).1 ends
    rw [List.append_assoc, assignmentsFrom_of_line (isLine.taken _ behind) wellFormed, ih tail,
      List.append_assoc]

lemma Sound.eq (sound : Sound cs as) : assignmentsFrom cs = as := by
  have whole : assignmentsFrom (cs ++ []) = _ := sound.append (.inl rfl)
  rwa [List.append_nil, assignmentsFrom_nil, List.append_nil] at whole

lemma Malformed.assignmentsFrom_eq_nil (h : Malformed line after) :
    assignmentsFrom (line ++ after) = [] := by
  cases h with
  | line isLine malformed ends =>
    rw [assignmentsFrom_eq, isLine.taken _ ends]
    simp only [malformed]
  | unfinished unfinished => rw [List.append_nil, assignmentsFrom_eq, unfinished]

/-- Every file consists of lines that are not malformed, up to its end or up to a malformed line. -/
theorem exists_sound (cs : List Char) :
    (∃ as, Sound cs as) ∨ ∃ front line after as, cs = front ++ (line ++ after) ∧ Sound front as ∧
      (front = [] ∨ EndsLine front) ∧ Malformed line after := by
  induction size : cs.length using Nat.strongRecOn generalizing cs with
  | ind n ih =>
  cases taken : takeLine .complete [] cs with
  | done =>
    obtain ⟨-, rfl⟩ := eq_of_done taken
    exact .inl ⟨[], .nil⟩
  | unfinished => exact .inr ⟨[], cs, [], [], by simp, .nil, .inl rfl, .unfinished taken⟩
  | line text rest =>
    have shorter := takeLine_length taken
    obtain ⟨line, rfl, ends, isLine⟩ := exists_isLine taken
    by_cases malformed : readLine text = .malformed
    · exact .inr ⟨[], line, rest, [], rfl, .nil, .inl rfl, .line isLine malformed ends⟩
    · obtain ⟨as, more⟩ | ⟨front, bad, after, as, rfl, more, whole, h⟩ := ih _ (size ▸ shorter) rest rfl
      · exact .inl ⟨_, .cons isLine malformed ends more⟩
      · have ends : EndsLine line := ends.resolve_left fun nothing => h.ne_nil (by simp_all)
        refine .inr ⟨line ++ front, bad, after, _, (List.append_assoc _ _ _).symm,
          .cons isLine malformed (.inr ends) more, .inr ?_, h⟩
        rcases whole with rfl | whole
        · rwa [List.append_nil]
        · by_cases empty : front = []
          · rwa [empty, List.append_nil]
          · exact (endsLine_append _ empty).2 whole

/-! ## Whole files -/

/-- The lines of a file, without the byte order mark. -/
def unmarked : List Char → List Char
  | '\ufeff' :: cs => cs
  | cs => cs

lemma assignments_eq (content : String) :
    assignments content = assignmentsFrom (unmarked content.toList) := by
  rw [assignments]
  split
  · next cs text => rw [text]; rfl
  · next notMarked => rw [unmarked]; exact notMarked

lemma unmarked_of_head? (h : cs.head? ≠ some '\ufeff') : unmarked cs = cs := by
  rw [unmarked]
  rintro ds rfl
  exact h rfl

lemma unmarked_append (mark : cs = [] → rest.head? ≠ some '\ufeff') :
    unmarked (cs ++ rest) = unmarked cs ++ rest := by
  cases cs with
  | nil => exact unmarked_of_head? (mark rfl)
  | cons c cs =>
    by_cases eq : c = '\ufeff'
    · subst eq
      rfl
    · have head : (c :: cs).head? ≠ some '\ufeff' := fun h => eq (Option.some.inj h)
      rw [unmarked_of_head? head]
      exact unmarked_of_head? head

/-- A file that has a malformed line, taken apart at the first one: the file before it, the line, and what
stands behind the line. -/
structure Broken (content : String) (front line after : List Char) (as : List Assignment) : Prop where
  text : content.toList = front ++ (line ++ after)
  sound : Sound (unmarked front) as
  ends : unmarked front = [] ∨ EndsLine (unmarked front)
  malformed : Malformed line after
  /-- A byte order mark is no part of a line. -/
  mark : front = [] → line.head? ≠ some '\ufeff'

/-- The assignments of the lines before the first malformed one. -/
inductive Reads (content : String) : List Assignment → Prop
  | whole {as : List Assignment} (sound : Sound (unmarked content.toList) as) : Reads content as
  | broken {front line after : List Char} {as : List Assignment}
    (broken : Broken content front line after as) : Reads content as

variable {content : String}

lemma Broken.eq (broken : Broken content front line after as) : assignments content = as := by
  have mark : front = [] → (line ++ after).head? ≠ some '\ufeff' := by
    intro empty
    rw [List.head?_append_of_ne_nil _ broken.malformed.ne_nil]
    exact broken.mark empty
  rw [assignments_eq, broken.text, unmarked_append mark, broken.sound.append (.inr broken.ends),
    broken.malformed.assignmentsFrom_eq_nil, List.append_nil]

/-- Without its first malformed line and what stands behind it, a file says the same. -/
theorem Broken.cut (broken : Broken content front line after as) :
    assignments (String.ofList front) = assignments content := by
  rw [broken.eq, assignments_eq, String.toList_ofList, broken.sound.eq]

/-- With anything else behind its first malformed line, a file has the same first malformed line. -/
lemma Broken.behind (broken : Broken content front line after as) (follows : after ≠ []) (more : List Char) :
    Broken (String.ofList (front ++ (line ++ more))) front line more as :=
  { broken with text := String.toList_ofList, malformed := broken.malformed.behind follows more }

/-- With something else from its first malformed line on, a file says the same, if it has a malformed line
there. -/
theorem Broken.change {content' : String} {line' after' : List Char}
    (broken : Broken content front line after as) (broken' : Broken content' front line' after' as') :
    assignments content' = assignments content := by
  rw [← broken.cut, ← broken'.cut]

lemma Reads.eq (reads : Reads content as) : assignments content = as := by
  cases reads with
  | whole sound => rw [assignments_eq, sound.eq]
  | broken broken => exact broken.eq

/-- What is read of a file are the assignments of the lines before its first malformed one. -/
theorem reads_assignments (content : String) : Reads content (assignments content) := by
  suffices reads : ∃ as, Reads content as by
    obtain ⟨as, reads⟩ := reads
    rwa [reads.eq]
  obtain ⟨as, sound⟩ | ⟨front, line, after, as, text, sound, ends, malformed⟩ :=
    exists_sound (unmarked content.toList)
  · exact ⟨as, .whole sound⟩
  refine ⟨as, ?_⟩
  by_cases mark : content.toList.head? = some '\ufeff'
  · obtain ⟨cs, marked⟩ : ∃ cs, content.toList = '\ufeff' :: cs := List.head?_eq_some_iff.1 mark
    rw [marked] at text
    have broken : Broken content ('\ufeff' :: front) line after as :=
      ⟨marked.trans (congrArg _ text), sound, ends, malformed, nofun⟩
    exact .broken broken
  · rw [unmarked_of_head? mark] at text
    rw [text] at mark
    have plain : unmarked front = front := by
      apply unmarked_of_head?
      cases front with
      | nil => exact nofun
      | cons c cs => exact mark
    refine .broken ⟨text, by rwa [plain], by rwa [plain], malformed, ?_⟩
    rintro rfl
    rwa [List.nil_append, List.head?_append_of_ne_nil _ malformed.ne_nil] at mark

/-! ## Names of variables -/

lemma continuesKey_of_beginsKey {c : Char} (h : beginsKey c = true) : continuesKey c = true := by
  simp only [beginsKey, continuesKey, Char.isAlphanum, Bool.or_eq_true] at h ⊢
  tauto

lemma continues_of_readKey {key : List Char} (read : readKey cs = some (key, rest)) :
    ∀ c ∈ key, continuesKey c = true := by
  cases cs with
  | nil => cases read
  | cons c cs =>
    rw [readKey] at read
    split_ifs at read with begins
    cases read
    exact List.forall_mem_cons.2
      ⟨continuesKey_of_beginsKey begins, fun d mem => List.mem_takeWhile_imp mem⟩

lemma key_of_readAssigned {key : List Char} {a : Assignment}
    (read : readAssigned key cs = .assignment a) : a.key = String.ofList key := by
  unfold readAssigned at read
  split at read
  · split at read
    · cases read; rfl
    · cases read; rfl
    · split at read
      · cases read; rfl
      · cases read
  · cases read

/-- A line assigns to a name that it spells. -/
lemma continues_of_readLine {a : Assignment} (read : readLine text = .assignment a) :
    ∀ c ∈ a.key.toList, continuesKey c = true := by
  suffices spelled : ∃ cs key rest, readKey cs = some (key, rest) ∧ a.key = String.ofList key by
    obtain ⟨cs, key, rest, spelled, eq⟩ := spelled
    rw [eq, String.toList_ofList]
    exact continues_of_readKey spelled
  unfold readLine at read
  split at read
  · cases read
  · cases read
  · split at read
    · cases read
    · next spelled =>
      split_ifs at read
      · split at read
        · cases read
        · next spelled => exact ⟨_, _, _, spelled, key_of_readAssigned read⟩
      · exact ⟨_, _, _, spelled, key_of_readAssigned read⟩

lemma Sound.continues_of_mem (sound : Sound cs as) :
    ∀ a ∈ as, ∀ c ∈ a.key.toList, continuesKey c = true := by
  induction sound with
  | nil => exact fun _ => nofun
  | @cons line text cs as isLine wellFormed ends more ih =>
    refine List.forall_mem_append.2 ⟨fun a mem => ?_, ih⟩
    cases content : readLine text with
    | nothing | malformed => rw [content] at mem; cases mem
    | assignment b =>
      rw [content] at mem
      cases List.mem_singleton.1 mem
      exact continues_of_readLine content

/-- Files assign to names that are made of the characters of names. -/
theorem continues_of_mem_assignments {a : Assignment} (mem : a ∈ assignments content) :
    ∀ c ∈ a.key.toList, continuesKey c = true := by
  cases reads_assignments content with
  | whole sound => exact sound.continues_of_mem a mem
  | broken broken => exact broken.sound.continues_of_mem a mem

end EnvironmentFile

end TaskCrew
