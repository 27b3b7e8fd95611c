/-!
# Tables

A table gives each of finitely many keys one value. The entries keep the order in which their keys
were first inserted.

* `Table.get?_insert`: inserting a value changes what its key gives, and nothing else;
* `Table.get?_erase`: so does erasing a key.
-/

namespace Federation

/-- The entries of a table. -/
structure Table (κ ν : Type) where
  entries : List (κ × ν)

namespace Table

variable {κ ν : Type} [DecidableEq κ]

/-- The table without entries. -/
def empty : Table κ ν :=
  ⟨[]⟩

/-- What a list of entries gives for a key. -/
def find (k : κ) : List (κ × ν) → Option ν
  | [] => none
  | (k', v) :: rest => if k = k' then some v else find k rest

/-- The value of a key. -/
def get? (t : Table κ ν) (k : κ) : Option ν :=
  find k t.entries

/-- Replaces the value of a key, or adds an entry at the end. -/
def put (k : κ) (v : ν) : List (κ × ν) → List (κ × ν)
  | [] => [(k, v)]
  | (k', v') :: rest => if k = k' then (k', v) :: rest else (k', v') :: put k v rest

/-- Gives a key a value. -/
def insert (t : Table κ ν) (k : κ) (v : ν) : Table κ ν :=
  ⟨put k v t.entries⟩

/-- Takes the value of a key away. -/
def erase (t : Table κ ν) (k : κ) : Table κ ν :=
  ⟨t.entries.filter fun e => e.1 ≠ k⟩

@[simp]
theorem get?_empty (k : κ) : (empty : Table κ ν).get? k = none := rfl

theorem find_put (k k' : κ) (v : ν) (es : List (κ × ν)) :
    find k (put k' v es) = if k = k' then some v else find k es := by
  induction es with
  | nil => by_cases h : k = k' <;> simp [put, find, h]
  | cons e rest ih =>
    obtain ⟨k₂, v₂⟩ := e
    unfold put
    by_cases h2 : k' = k₂
    · subst h2
      by_cases h : k = k' <;> simp [find, h]
    · by_cases h : k = k'
      · subst h
        simp [find, h2, ih]
      · simp [find, h2, ih, h]

theorem find_filter (k k' : κ) (es : List (κ × ν)) :
    find k (es.filter fun e => e.1 ≠ k') = if k = k' then none else find k es := by
  induction es with
  | nil => by_cases h : k = k' <;> simp [find]
  | cons e rest ih =>
    obtain ⟨k₂, v₂⟩ := e
    by_cases h2 : k₂ = k'
    · subst h2
      by_cases h : k = k₂
      · simpa [h, find] using ih
      · simpa [h, find] using ih
    · by_cases h : k = k'
      · subst h
        have : k ≠ k₂ := fun hk => h2 hk.symm
        simpa [h2, find, this] using ih
      · simp [h2, find, h] at ih ⊢
        rw [ih]

/-- Inserting a value changes what its key gives, and nothing else. -/
theorem get?_insert (t : Table κ ν) (k k' : κ) (v : ν) :
    (t.insert k' v).get? k = if k = k' then some v else t.get? k :=
  find_put k k' v t.entries

/-- Erasing a key changes what the key gives, and nothing else. -/
theorem get?_erase (t : Table κ ν) (k k' : κ) :
    (t.erase k').get? k = if k = k' then none else t.get? k :=
  find_filter k k' t.entries

end Table

end Federation
