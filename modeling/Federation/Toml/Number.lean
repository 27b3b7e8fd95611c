import Federation.Text.Nearest
import Federation.Text.Hexadecimal

/-!
# Numbers in a TOML document

The digits of a number may be grouped by single low lines between them. A whole number has 64 bits;
it is decimal, without needless zeros in front, or has another base, which two characters in front
of it tell. A real number has a fraction, an exponent or both.

* `Number.whole?`: the whole number that a word writes;
* `Number.Parts.real?`: the real number that a word and the words after it write.
-/

namespace Federation.Toml.Number

/-- The value of a digit, if it is one in the given base. -/
def digit? (base : Nat) (c : Char) : Option Nat :=
  (Hex.value? c).filter (· < base)

/-- Whether low lines stand only between digits, one at a time. -/
def isGrouped (run : List Char) : Bool :=
  !run.isEmpty && (run.splitOn '_').all fun group => !group.isEmpty

/-- The digits in front of a text, without the low lines that group them, and what follows. Zeros
in front are refused unless `zeros` is set. -/
def digits? (base : Nat) (zeros : Bool) (cs : List Char) : Option (List Nat × List Char) :=
  let isPart := fun c => c = '_' || (digit? base c).isSome
  let run := cs.takeWhile isPart
  let ds := run.filterMap (digit? base)
  if isGrouped run && (zeros || ds.length = 1 || ds.head? ≠ some 0) then
    some (ds, cs.dropWhile isPart)
  else none

/-- The number that digits write. -/
def value (base : Nat) (ds : List Nat) : Nat :=
  ds.foldl (fun acc d => base * acc + d) 0

/-- A sign in front of a text; only the minus can be part of a word. -/
def sign : List Char → Bool × List Char
  | '-' :: rest => (true, rest)
  | cs => (false, cs)

/-- A whole number of 64 bits. -/
def bounded? (negative : Bool) (n : Nat) : Option Int64 :=
  if negative then if n ≤ 0x8000000000000000 then some (Int64.ofInt (-(n : Int))) else none
  else if n < 0x8000000000000000 then some (Int64.ofNat n)
  else none

/-- The whole number that a text writes in a base, after the characters that tell the base. -/
def based? (base : Nat) (cs : List Char) : Option Int64 :=
  match digits? base true cs with
  | some (ds, []) => bounded? false (value base ds)
  | _ => none

/-- The whole number that a word writes. -/
def whole? : List Char → Option Int64
  | '0' :: 'x' :: cs => based? 16 cs
  | '0' :: 'o' :: cs => based? 8 cs
  | '0' :: 'b' :: cs => based? 2 cs
  | cs =>
    let (negative, body) := sign cs
    match digits? 10 false body with
    | some (ds, []) => bounded? negative (value 10 ds)
    | _ => none

/-- Whether a word tells another base than ten. -/
def isBased : List Char → Bool
  | '0' :: c :: _ => c = 'x' || c = 'o' || c = 'b'
  | _ => false

/-- The exponent that a text writes after its letter. -/
def exponent? (cs : List Char) : Option Int :=
  let (negative, body) := sign cs
  match digits? 10 true body with
  | some (ds, []) => some (if negative then -(value 10 ds : Int) else value 10 ds)
  | _ => none

/-- What follows the digits of a real number. -/
inductive Tail
  /-- Nothing. -/
  | done
  /-- An exponent. -/
  | scaled (exponent : Int)
  /-- The letter of an exponent, whose digits stand in the next word. -/
  | pending

/-- Reads what follows the digits of a real number. -/
def tail? : List Char → Option Tail
  | [] => some .done
  | c :: rest =>
    if c = 'e' ∨ c = 'E' then
      if rest.isEmpty then some .pending else (exponent? rest).map .scaled
    else none

/-- The parts of a real number: its sign, the digits around the point as one number, how many of
them are after the point, and what follows them. -/
structure Parts where
  negative : Bool
  digits : Nat
  places : Nat
  tail : Tail

/-- The parts of a number that is written by one word. -/
def Parts.ofWord? (word : List Char) : Option Parts :=
  let (negative, body) := sign word
  (digits? 10 false body).bind fun (ds, rest) =>
    (tail? rest).map fun tail => ⟨negative, value 10 ds, 0, tail⟩

/-- The parts of a number that is written by a word in front of the point and one after it. -/
def Parts.ofWords? (word fraction : List Char) : Option Parts :=
  let (negative, body) := sign word
  match digits? 10 false body with
  | some (ds, []) =>
    (digits? 10 true fraction).bind fun (fs, rest) =>
      (tail? rest).map fun tail => ⟨negative, value 10 (ds ++ fs), fs.length, tail⟩
  | _ => none

/-- The real number with the given parts and exponent, if it is finite. -/
def Parts.real? (p : Parts) (exponent : Int) : Option Float :=
  let x := Decimal.nearest p.digits (exponent - p.places)
  if x.isFinite then some (if p.negative then -x else x) else none

end Federation.Toml.Number
