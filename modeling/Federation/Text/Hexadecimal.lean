/-!
# Hexadecimal digits

Numbers written in base sixteen, in lower case and with a fixed number of digits. Keys and the
exact bits of real numbers are written this way.

* `Hex.value?_digit`: a digit reads back as its value;
* `Hex.length_digits`: a number written with `n` digits has `n` characters;
* `Hex.read?_digits`: a number below `16 ^ n` written with `n` digits reads back.
-/

namespace Federation.Hex

/-- The digit of a value below sixteen, in lower case. -/
def digit (n : Nat) : Char :=
  if n < 10 then Char.ofNat (48 + n) else Char.ofNat (87 + n)

/-- The value of a digit, in either case. -/
def value? (c : Char) : Option Nat :=
  if '0' ≤ c ∧ c ≤ '9' then some (c.toNat - 48)
  else if 'a' ≤ c ∧ c ≤ 'f' then some (c.toNat - 87)
  else if 'A' ≤ c ∧ c ≤ 'F' then some (c.toNat - 55)
  else none

/-- The last `n` digits of a number, the most significant first. -/
def digits : Nat → Nat → List Char
  | 0, _ => []
  | n + 1, v => digits n (v / 16) ++ [digit (v % 16)]

/-- The number that a list of digits writes after the digits read so far. -/
def readFrom (acc : Nat) : List Char → Option Nat
  | [] => some acc
  | c :: rest =>
    match value? c with
    | some d => readFrom (16 * acc + d) rest
    | none => none

/-- The number that a list of digits writes. -/
def read? (cs : List Char) : Option Nat :=
  readFrom 0 cs

theorem value?_digit {n : Nat} (h : n < 16) : value? (digit n) = some n := by
  have : ∀ m : Fin 16, value? (digit m.val) = some m.val := by decide
  exact this ⟨n, h⟩

@[simp]
theorem length_digits (n v : Nat) : (digits n v).length = n := by
  induction n generalizing v with
  | zero => rfl
  | succ n ih => simp [digits, ih]

theorem readFrom_append (acc : Nat) (xs ys : List Char) :
    readFrom acc (xs ++ ys) = (readFrom acc xs).bind fun a => readFrom a ys := by
  induction xs generalizing acc with
  | nil => rfl
  | cons c rest ih =>
    simp only [List.cons_append, readFrom]
    cases value? c with
    | none => rfl
    | some d => exact ih _

theorem readFrom_digits {n v : Nat} (h : v < Nat.pow 16 n) : readFrom 0 (digits n v) = some v := by
  induction n generalizing v with
  | zero =>
    have : v = 0 := by simpa using h
    subst this
    rfl
  | succ n ih =>
    have hq : v / 16 < Nat.pow 16 n := by
      have : v < Nat.pow 16 n * 16 := h
      omega
    have hd : v % 16 < 16 := Nat.mod_lt _ (by decide)
    simp only [digits, readFrom_append, ih hq, Option.bind_some, readFrom, value?_digit hd]
    congr 1
    omega

/-- What is written with enough digits reads back. -/
theorem read?_digits {n v : Nat} (h : v < Nat.pow 16 n) : read? (digits n v) = some v :=
  readFrom_digits h

end Federation.Hex
