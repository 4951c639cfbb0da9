/-!
# Totals

`total` adds up a number for each element of a list. The main statement, `total_set`, says how the
total changes when one element is replaced; `eq_zero_of_total_le` says that one element leaves
nothing for the others if its number is the total; `perm_of_total_eq` says that lists with the same
totals hold the same elements. `weigh` is the number of an element that may be missing. And
`exists_le_of_cost_lt` says that a number that goes down with every step soon stops to.
-/

namespace TaskCrew

variable {α β : Type}

/-- The sum of a number for each element of a list. -/
def total (f : α → Nat) : List α → Nat
  | [] => 0
  | a :: as => f a + total f as

theorem total_append (f : α → Nat) (as bs : List α) :
    total f (as ++ bs) = total f as + total f bs := by
  induction as with
  | nil => simp [total]
  | cons a as ih => simp [total, ih, Nat.add_assoc]

/-- Replacing an element takes its number away and adds that of the new one. -/
theorem total_set (f : α → Nat) {as : List α} {k : Nat} {a : α} (b : α) (h : as[k]? = some a) :
    total f (as.set k b) + f a = total f as + f b := by
  induction as generalizing k with
  | nil => simp at h
  | cons c as ih =>
    cases k with
    | zero =>
      simp only [List.getElem?_cons_zero, Option.some.injEq] at h
      simp only [List.set_cons_zero, total, h]
      omega
    | succ k =>
      have := ih (k := k) (by simpa using h)
      simp only [List.set_cons_succ, total]
      omega

theorem total_congr {f g : α → Nat} {as : List α} (h : ∀ a ∈ as, f a = g a) :
    total f as = total g as := by
  induction as with
  | nil => rfl
  | cons a as ih =>
    simp only [List.mem_cons, forall_eq_or_imp] at h
    simp only [total, h.1, ih h.2]

theorem total_add (f g : α → Nat) (as : List α) :
    total (fun a => f a + g a) as = total f as + total g as := by
  induction as with
  | nil => rfl
  | cons a as ih =>
    simp only [total, ih]
    omega

theorem total_le_total {f g : α → Nat} {as : List α} (h : ∀ a ∈ as, f a ≤ g a) :
    total f as ≤ total g as := by
  induction as with
  | nil => exact Nat.le_refl _
  | cons a as ih =>
    simp only [List.mem_cons, forall_eq_or_imp] at h
    exact Nat.add_le_add h.1 (ih h.2)

theorem total_eq_zero {f : α → Nat} {as : List α} (h : ∀ a ∈ as, f a = 0) : total f as = 0 := by
  induction as with
  | nil => rfl
  | cons a as ih =>
    simp only [List.mem_cons, forall_eq_or_imp] at h
    simp only [total, h.1, ih h.2]

theorem le_total_of_mem (f : α → Nat) {as : List α} {a : α} (h : a ∈ as) : f a ≤ total f as := by
  induction h with
  | head as => exact Nat.le_add_right _ _
  | tail b _ ih => exact Nat.le_trans ih (Nat.le_add_left _ _)

/-- A total that is not zero has an element whose number is not zero. -/
theorem exists_of_total_pos {f : α → Nat} {as : List α} (h : 0 < total f as) :
    ∃ a ∈ as, 0 < f a := by
  induction as with
  | nil => cases h
  | cons a as ih =>
    by_cases ha : 0 < f a
    · exact ⟨a, List.mem_cons_self, ha⟩
    · simp only [total] at h
      obtain ⟨b, hb, hp⟩ := ih (by omega)
      exact ⟨b, List.mem_cons_of_mem a hb, hp⟩

/-- If one element makes up the total, nothing is left for the others. -/
theorem eq_zero_of_total_le {f : α → Nat} {as : List α} {i k : Nat} {a b : α}
    (ha : as[k]? = some a) (hb : as[i]? = some b) (hne : i ≠ k) (h : total f as ≤ f a) :
    f b = 0 := by
  induction as generalizing i k with
  | nil => simp at ha
  | cons c as ih =>
    simp only [total] at h
    cases k with
    | zero =>
      simp only [List.getElem?_cons_zero, Option.some.injEq] at ha
      subst ha
      cases i with
      | zero => exact absurd rfl hne
      | succ i =>
        have := le_total_of_mem f (List.mem_of_getElem? (by simpa using hb))
        omega
    | succ k =>
      have hk : as[k]? = some a := by simpa using ha
      have := le_total_of_mem f (List.mem_of_getElem? hk)
      cases i with
      | zero =>
        simp only [List.getElem?_cons_zero, Option.some.injEq] at hb
        subst hb
        omega
      | succ i => exact ih hk (by simpa using hb) (by simpa using hne) (by omega)

/-! ## Going down -/

/-- What costs strictly less with every step does not go on for longer than it costs. -/
theorem exists_le_of_cost_lt (f : Nat → Nat) (P : Nat → Prop)
    (lt : ∀ n, P n → f (n + 1) < f n) : ∃ n, n ≤ f 0 ∧ ¬ P n := by
  have stops (cost : Nat) : ∀ n, f n ≤ cost → ∃ m, m ≤ n + cost ∧ ¬ P m := by
    induction cost with
    | zero =>
      intro n le
      refine ⟨n, Nat.le_refl n, fun goes => ?_⟩
      have := lt n goes
      omega
    | succ cost ih =>
      intro n le
      by_cases goes : P n
      · have := lt n goes
        obtain ⟨m, hm, stopped⟩ := ih (n + 1) (by omega)
        exact ⟨m, by omega, stopped⟩
      · exact ⟨n, by omega, goes⟩
  simpa using stops (f 0) 0 (Nat.le_refl _)

/-! ## Counting and finding -/

theorem total_one (as : List α) : total (fun _ => 1) as = as.length := by
  induction as with
  | nil => rfl
  | cons a as ih =>
    simp only [total, ih, List.length_cons]
    omega

theorem total_beq [BEq α] (a : α) (as : List α) :
    total (fun b => (b == a).toNat) as = as.count a := by
  induction as with
  | nil => rfl
  | cons b as ih =>
    rw [total, ih, List.count_cons]
    cases b == a
    · simp
    · simp [Nat.add_comm]

theorem total_toNat (f : α → Bool) (as : List α) :
    total (fun a => (f a).toNat) as = as.countP f := by
  induction as with
  | nil => rfl
  | cons a as ih =>
    rw [total, ih, List.countP_cons]
    cases f a
    · simp
    · simp [Nat.add_comm]

theorem total_map (f : β → Nat) (g : α → β) (as : List α) :
    total f (as.map g) = total (fun a => f (g a)) as := by
  induction as with
  | nil => rfl
  | cons a as ih => simp only [List.map_cons, total, ih]

theorem total_flatMap (f : β → Nat) (g : α → List β) (as : List α) :
    total f (as.flatMap g) = total (fun a => total f (g a)) as := by
  induction as with
  | nil => rfl
  | cons a as ih => rw [List.flatMap_cons, total_append, total, ih]

theorem total_perm (f : α → Nat) {as bs : List α} (h : as.Perm bs) : total f as = total f bs := by
  induction h with
  | nil => rfl
  | cons a _ ih => rw [total, total, ih]
  | swap a b as => simp only [total]; omega
  | trans _ _ ih ih' => exact ih.trans ih'

/-- Lists hold the same elements if whatever number is given to elements, the totals are equal. -/
theorem perm_of_total_eq [BEq α] [LawfulBEq α] {as bs : List α}
    (h : ∀ f, total f as = total f bs) : as.Perm bs := by
  refine List.perm_iff_count.2 fun a => ?_
  rw [← total_beq, ← total_beq, h]

/-! ## Elements that may be missing -/

/-- The number of something that may be there. -/
def weigh (f : α → Nat) (a : Option α) : Nat :=
  a.elim 0 f

@[simp] theorem weigh_none (f : α → Nat) : weigh f none = 0 := rfl

@[simp] theorem weigh_some (f : α → Nat) (a : α) : weigh f (some a) = f a := rfl

theorem total_toList (f : α → Nat) (a : Option α) : total f a.toList = weigh f a := by
  cases a <;> rfl

theorem total_filterMap (f : β → Nat) (g : α → Option β) (as : List α) :
    total f (as.filterMap g) = total (fun a => weigh f (g a)) as := by
  induction as with
  | nil => rfl
  | cons a as ih =>
    simp only [total, List.filterMap_cons]
    cases g a <;> simp [total, ih]

end TaskCrew
