import Federation.Text.Unprintable

/-!
# Quoted text

A text between double quotes, on one line and with every character visible: the quote and the
backslash are escaped, line breaks, tabs and the null character have short names, and any other
character without a shape is written by its code point in braces.

* `Quoted.escape_eq_self`: every other character stands for itself.
-/

namespace Federation.Quoted

/-- A character written by its code point, in hexadecimal digits between braces. -/
def codePoint (c : Char) : List Char :=
  ['\\', 'u', '\x7b'] ++ Nat.toDigits 16 c.toNat ++ ['\x7d']

/-- How one character is written between the quotes. -/
def escape (c : Char) : List Char :=
  if c = '\x00' then ['\\', '0']
  else if c = '\t' then ['\\', 't']
  else if c = '\r' then ['\\', 'r']
  else if c = '\n' then ['\\', 'n']
  else if c = '"' then ['\\', '"']
  else if c = '\\' then ['\\', '\\']
  else if Unprintable.contains c then codePoint c
  else [c]

/-- The quoted form of a text. -/
def text (s : String) : String :=
  String.ofList ('"' :: (s.toList.flatMap escape ++ ['"']))

theorem escape_eq_self {c : Char} (hq : c ≠ '"') (hb : c ≠ '\\')
    (h : Unprintable.contains c = false) : escape c = [c] := by
  have small : ∀ d : Char, d.toNat < 32 → c ≠ d := by
    intro d hd he
    subst he
    rw [Unprintable.contains_control hd] at h
    exact Bool.noConfusion h
  simp [escape, small '\x00' (by decide), small '\t' (by decide), small '\r' (by decide),
    small '\n' (by decide), hq, hb, h]

end Federation.Quoted
