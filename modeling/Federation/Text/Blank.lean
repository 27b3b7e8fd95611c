import Federation.Text.CharacterRange

/-!
# Blanks

The characters without a shape that set others apart: spaces of all widths, tabs, and the ends of
lines and paragraphs.

* `Blank.contains_of_isWhitespace`: the four common blanks are among them.
-/

namespace Federation.Blank

/-- The ranges of the blanks, in increasing order. -/
def ranges : List (Nat × Nat) :=
  [(0x9, 0xd), (0x20, 0x20), (0x85, 0x85), (0xa0, 0xa0), (0x1680, 0x1680), (0x2000, 0x200a),
   (0x2028, 0x2029), (0x202f, 0x202f), (0x205f, 0x205f), (0x3000, 0x3000)]

/-- Whether a character is a blank. -/
def contains (c : Char) : Bool :=
  CharacterRange.within ranges c.toNat

theorem contains_of_isWhitespace {c : Char} (h : c.isWhitespace = true) : contains c = true := by
  simp only [Char.isWhitespace, Bool.or_eq_true, decide_eq_true_eq] at h
  rcases h with ((rfl | rfl) | rfl) | rfl <;> decide

end Federation.Blank
