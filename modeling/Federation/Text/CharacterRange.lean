/-!
# Ranges of characters

A class of characters given by ranges of code points, both ends included.

* `CharacterRange.within_iff`: a code point is in the class exactly when some range contains it.
-/

namespace Federation.CharacterRange

/-- Whether a code point lies in one of the ranges. -/
def within (ranges : List (Nat × Nat)) (n : Nat) : Bool :=
  ranges.any fun r => r.1 ≤ n && n ≤ r.2

theorem within_iff (ranges : List (Nat × Nat)) (n : Nat) :
    within ranges n = true ↔ ∃ r ∈ ranges, r.1 ≤ n ∧ n ≤ r.2 := by
  simp [within]

end Federation.CharacterRange
