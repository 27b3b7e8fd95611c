/-!
# Sorting by rank

A list is sorted by the ranks of its members; members of equal rank keep their order. Each member is
put in front of the first one that is not ranked below it, starting from the end of the list.

* `RankOrder.perm_sort`: sorting loses and adds nothing;
* `RankOrder.pairwise_sort`: the ranks of the sorted list do not decrease;
* `RankOrder.filter_sort`: members of one rank keep their order;
* `RankOrder.sort_eq_self`: what is sorted stays as it is.
-/

namespace Federation.RankOrder

variable {α : Type}

/-- Puts a member in front of the first one that is not ranked below it. -/
def insert (rank : α → Nat) (a : α) : List α → List α
  | [] => [a]
  | b :: rest => if rank a ≤ rank b then a :: b :: rest else b :: insert rank a rest

/-- Sorts a list by rank. -/
def sort (rank : α → Nat) (xs : List α) : List α :=
  xs.foldr (insert rank) []

@[simp]
theorem sort_nil (rank : α → Nat) : sort rank ([] : List α) = [] := rfl

@[simp]
theorem sort_cons (rank : α → Nat) (a : α) (xs : List α) :
    sort rank (a :: xs) = insert rank a (sort rank xs) := rfl

theorem perm_insert (rank : α → Nat) (a : α) (l : List α) :
    (insert rank a l).Perm (a :: l) := by
  induction l with
  | nil => exact .refl _
  | cons b rest ih =>
    unfold insert
    split
    · exact .refl _
    · exact (ih.cons b).trans (.swap a b rest)

/-- Sorting loses and adds nothing. -/
theorem perm_sort (rank : α → Nat) (xs : List α) : (sort rank xs).Perm xs := by
  induction xs with
  | nil => exact .refl _
  | cons a rest ih => exact (perm_insert rank a _).trans (ih.cons a)

theorem pairwise_insert (rank : α → Nat) (a : α) {l : List α}
    (h : l.Pairwise fun x y => rank x ≤ rank y) :
    (insert rank a l).Pairwise fun x y => rank x ≤ rank y := by
  induction l with
  | nil => simp [insert]
  | cons b rest ih =>
    rw [List.pairwise_cons] at h
    unfold insert
    split
    · next hab =>
      refine List.pairwise_cons.mpr ⟨fun x hx => ?_, List.pairwise_cons.mpr h⟩
      rcases List.mem_cons.mp hx with rfl | hx
      · exact hab
      · exact Nat.le_trans hab (h.1 x hx)
    · next hab =>
      refine List.pairwise_cons.mpr ⟨fun x hx => ?_, ih h.2⟩
      rcases List.mem_cons.mp ((perm_insert rank a rest).subset hx) with rfl | hx
      · omega
      · exact h.1 x hx

/-- The ranks of the sorted list do not decrease. -/
theorem pairwise_sort (rank : α → Nat) (xs : List α) :
    (sort rank xs).Pairwise fun x y => rank x ≤ rank y := by
  induction xs with
  | nil => simp
  | cons a rest ih => exact pairwise_insert rank a ih

theorem filter_insert (rank : α → Nat) (r : Nat) (a : α) (l : List α) :
    (insert rank a l).filter (rank · = r) = (a :: l).filter (rank · = r) := by
  induction l with
  | nil => rfl
  | cons b rest ih =>
    unfold insert
    split
    · rfl
    · next hab =>
      rw [List.filter_cons, ih]
      by_cases ha : rank a = r
      · have hb : rank b ≠ r := by omega
        simp [ha, hb]
      · simp [ha, List.filter_cons]

/-- Members of one rank keep their order. -/
theorem filter_sort (rank : α → Nat) (r : Nat) (xs : List α) :
    (sort rank xs).filter (rank · = r) = xs.filter (rank · = r) := by
  induction xs with
  | nil => rfl
  | cons a rest ih =>
    rw [sort_cons, filter_insert, List.filter_cons, List.filter_cons, ih]

/-- What is sorted stays as it is. -/
theorem sort_eq_self (rank : α → Nat) {xs : List α}
    (h : xs.Pairwise fun x y => rank x ≤ rank y) : sort rank xs = xs := by
  induction xs with
  | nil => rfl
  | cons a rest ih =>
    rw [List.pairwise_cons] at h
    rw [sort_cons, ih h.2]
    cases rest with
    | nil => rfl
    | cons b rest => simp [insert, h.1 b (by simp)]

end Federation.RankOrder
