/-!
# Sorted lists without repetitions

A finite set of ordered things, kept as the strictly increasing list of its members. A member is
inserted at its place, and inserting it again changes nothing.

* `SortedList.mem_insert`, `SortedList.mem_ofList`: what the list holds;
* `SortedList.pairwise_insert`, `SortedList.pairwise_ofList`: it is strictly increasing.

The lemmas need of the order only that it is transitive and that two things of which neither is
below the other are equal.
-/

namespace Federation.SortedList

variable {α : Type} [LT α] [DecidableLT α]

/-- Inserts a member at its place. -/
def insert (a : α) : List α → List α
  | [] => [a]
  | b :: rest =>
    if a < b then a :: b :: rest
    else if b < a then b :: insert a rest
    else b :: rest

/-- The members of a list in order, each once. -/
def ofList (xs : List α) : List α :=
  xs.foldr insert []

theorem mem_insert (tri : ∀ a b : α, ¬ a < b → ¬ b < a → a = b) {x a : α} {l : List α} :
    x ∈ insert a l ↔ x = a ∨ x ∈ l := by
  induction l with
  | nil => simp [insert]
  | cons b rest ih =>
    unfold insert
    split
    · simp
    · split
      · rw [List.mem_cons, ih, List.mem_cons]
        exact or_left_comm
      · next h1 h2 =>
        have := tri a b h1 h2
        subst this
        simp

theorem mem_ofList (tri : ∀ a b : α, ¬ a < b → ¬ b < a → a = b) {x : α} {xs : List α} :
    x ∈ ofList xs ↔ x ∈ xs := by
  induction xs with
  | nil => simp [ofList]
  | cons a rest ih =>
    rw [ofList, List.foldr_cons, mem_insert tri, List.mem_cons]
    exact or_congr_right ih

theorem pairwise_insert (tri : ∀ a b : α, ¬ a < b → ¬ b < a → a = b)
    (trans : ∀ a b c : α, a < b → b < c → a < c) {a : α} {l : List α}
    (h : l.Pairwise (· < ·)) : (insert a l).Pairwise (· < ·) := by
  induction l with
  | nil => simp [insert]
  | cons b rest ih =>
    rw [List.pairwise_cons] at h
    unfold insert
    split
    · next hab =>
      refine List.pairwise_cons.mpr ⟨fun x hx => ?_, List.pairwise_cons.mpr h⟩
      rcases List.mem_cons.mp hx with rfl | hx
      · exact hab
      · exact trans _ _ _ hab (h.1 x hx)
    · split
      · next hba =>
        refine List.pairwise_cons.mpr ⟨fun x hx => ?_, ih h.2⟩
        rcases (mem_insert tri).mp hx with rfl | hx
        · exact hba
        · exact h.1 x hx
      · exact List.pairwise_cons.mpr h

theorem pairwise_ofList (tri : ∀ a b : α, ¬ a < b → ¬ b < a → a = b)
    (trans : ∀ a b c : α, a < b → b < c → a < c) (xs : List α) :
    (ofList xs).Pairwise (· < ·) := by
  induction xs with
  | nil => simp [ofList]
  | cons a rest ih => exact pairwise_insert tri trans ih

end Federation.SortedList
