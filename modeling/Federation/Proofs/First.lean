/-!
# The first of a list

Checks are made one after the other, and what is reported is the first that fails. To say so without
the loop that makes them, the checks are a list, and the report is about its first member with a
property.

* `IsFirst.unique`, `IsFirst.exists_iff`: there is only one first, and there is one if there is any;
* `IsFirst.iff_append`: a member is the first when nothing in front of it has the property;
* `IsFirst.iff_find?`, `IsFirst.findSome?_eq_some_iff`: it is what a search finds.
-/

namespace Federation

/-- A member of a list is the first that has a property. -/
inductive IsFirst {α : Type} (P : α → Prop) : List α → α → Prop
  | head {a : α} {l : List α} (h : P a) : IsFirst P (a :: l) a
  | tail {a b : α} {l : List α} (hb : ¬ P b) (h : IsFirst P l a) : IsFirst P (b :: l) a

namespace IsFirst

variable {α : Type} {P Q : α → Prop} {l : List α} {a b : α}

theorem mem (h : IsFirst P l a) : a ∈ l := by
  induction h with
  | head _ => exact List.mem_cons_self ..
  | tail _ _ ih => exact List.mem_cons_of_mem _ ih

theorem holds (h : IsFirst P l a) : P a := by
  induction h with
  | head h => exact h
  | tail _ _ ih => exact ih

/-- There is only one first. -/
theorem unique (h : IsFirst P l a) (h' : IsFirst P l b) : a = b := by
  induction h with
  | head ha =>
    cases h' with
    | head _ => rfl
    | tail hn _ => exact absurd ha hn
  | tail hn _ ih =>
    cases h' with
    | head hb => exact absurd hb hn
    | tail _ h' => exact ih h'

/-- Only what the property says of the members matters. -/
theorem congr (h : ∀ b ∈ l, P b ↔ Q b) : IsFirst P l a ↔ IsFirst Q l a := by
  induction l with
  | nil => exact ⟨nofun, nofun⟩
  | cons b rest ih =>
    have hb := h b (List.mem_cons_self ..)
    have hrest := ih fun c hc => h c (List.mem_cons_of_mem _ hc)
    constructor
    · rintro (h | ⟨hn, h⟩)
      · exact .head (hb.mp h)
      · exact .tail (fun hq => hn (hb.mpr hq)) (hrest.mp h)
    · rintro (h | ⟨hn, h⟩)
      · exact .head (hb.mpr h)
      · exact .tail (fun hp => hn (hb.mp hp)) (hrest.mpr h)

/-- There is a first as soon as there is any. -/
theorem exists_iff : (∃ a, IsFirst P l a) ↔ ∃ a ∈ l, P a := by
  constructor
  · rintro ⟨a, h⟩
    exact ⟨a, h.mem, h.holds⟩
  · rintro ⟨a, ha, hP⟩
    induction l with
    | nil => cases ha
    | cons b rest ih =>
      by_cases hb : P b
      · exact ⟨b, .head hb⟩
      · rcases List.mem_cons.mp ha with rfl | ha
        · exact absurd hP hb
        · obtain ⟨c, hc⟩ := ih ha
          exact ⟨c, .tail hb hc⟩

/-- In front of the first there is no other. -/
theorem iff_append : IsFirst P l a ↔
    ∃ before after, l = before ++ a :: after ∧ P a ∧ ∀ b ∈ before, ¬ P b := by
  constructor
  · intro h
    induction h with
    | @head a l ha => exact ⟨[], l, rfl, ha, nofun⟩
    | @tail a b l hb _ ih =>
      obtain ⟨before, after, rfl, ha, hbefore⟩ := ih
      exact ⟨b :: before, after, rfl, ha, List.forall_mem_cons.mpr ⟨hb, hbefore⟩⟩
  · rintro ⟨before, after, rfl, ha, hbefore⟩
    induction before with
    | nil => exact .head ha
    | cons b before ih =>
      obtain ⟨hb, hbefore⟩ := List.forall_mem_cons.mp hbefore
      exact .tail hb (ih hbefore)

/-- The first is what a search finds. -/
theorem iff_find? [DecidablePred P] : IsFirst P l a ↔ l.find? (P ·) = some a := by
  simp only [iff_append, List.find?_eq_some_iff_append, decide_eq_true_eq, Bool.not_eq_true',
    decide_eq_false_iff_not]
  constructor
  · rintro ⟨before, after, rfl, ha, hbefore⟩
    exact ⟨ha, before, after, rfl, hbefore⟩
  · rintro ⟨ha, before, after, rfl, hbefore⟩
    exact ⟨before, after, rfl, ha, hbefore⟩

/-- What a search finds, it finds at the first member at which there is something to find. -/
theorem findSome?_eq_some_iff {β : Type} {f : α → Option β} {b : β} :
    l.findSome? f = some b ↔ ∃ a, IsFirst (fun a => f a ≠ none) l a ∧ f a = some b := by
  simp only [List.findSome?_eq_some_iff, iff_append]
  constructor
  · rintro ⟨before, a, after, rfl, ha, hbefore⟩
    refine ⟨a, ⟨before, after, rfl, by simp [ha], fun c hc => ?_⟩, ha⟩
    exact not_not_intro (hbefore c hc)
  · rintro ⟨a, ⟨before, after, rfl, -, hbefore⟩, ha⟩
    exact ⟨before, a, after, rfl, ha, fun c hc => Classical.not_not.mp (hbefore c hc)⟩

end IsFirst

end Federation
