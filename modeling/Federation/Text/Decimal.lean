/-!
# Shortest decimal text of a real number

A finite binary number `m * 2 ^ q` is written with the fewest decimal digits that lie closer to it
than to any other binary number of the same format. The reals that round to it form an interval
around it, half a step wide on each side (a quarter step below a power of two), which contains its
ends exactly when `m` is even. For one digit, two digits and so on, the two points of that decimal
grid next to the number are tested in exact arithmetic; of two points in the interval the nearer
one is taken.

The text is positional: it has no exponent, and no point when the number is whole. The two zeros
keep their signs.
-/

namespace Federation.Decimal

/-- A positive binary number `mantissa * 2 ^ exponent` with the steps to its neighbours: the step
below is half the step above when `lowerHalved`. -/
structure Binary where
  mantissa : Nat
  exponent : Int
  lowerHalved : Bool

/-- A positive decimal number `digits * 10 ^ exponent`. -/
structure Digits where
  digits : Nat
  exponent : Int
  deriving DecidableEq

/-- The power of a base with the positive part of an exponent. -/
def powPos (base : Nat) (e : Int) : Nat :=
  base.pow e.toNat

/-- Both sides of the comparison of `c * 10 ^ p` with `x * 2 ^ q`, as whole numbers. -/
def crossed (c : Nat) (p : Int) (x : Nat) (q : Int) : Nat × Nat :=
  (c * powPos 10 p * powPos 2 (-q), x * powPos 2 q * powPos 10 (-p))

/-- Whether `c * 10 ^ p` rounds to the number. In quarters of the step above, the interval reaches
from two (or one) below to two above. -/
def roundsTo (b : Binary) (c : Nat) (p : Int) : Bool :=
  let low := crossed c p (4 * b.mantissa - if b.lowerHalved then 1 else 2) (b.exponent - 2)
  let high := crossed c p (4 * b.mantissa + 2) (b.exponent - 2)
  if b.mantissa % 2 = 0 then low.2 ≤ low.1 && high.1 ≤ high.2
  else low.2 < low.1 && high.1 < high.2

/-- The number's whole part on the grid of `10 ^ p`. -/
def floorAt (b : Binary) (p : Int) : Nat :=
  let (unit, value) := crossed 1 p b.mantissa b.exponent
  value / unit

/-- Whether the number is nearer to `c * 10 ^ p` than to `(c + 1) * 10 ^ p`, or as near and `c` is
even. -/
def prefersLower (b : Binary) (c : Nat) (p : Int) : Bool :=
  let (middle, value) := crossed (2 * c + 1) p (2 * b.mantissa) b.exponent
  value < middle || (value = middle && c % 2 = 0)

/-- The point of the grid `10 ^ p` that stands for the number, if one rounds to it. -/
def onGrid? (b : Binary) (p : Int) : Option Digits :=
  let c := floorAt b p
  match roundsTo b c p, roundsTo b (c + 1) p with
  | true, true => some ⟨if prefersLower b c p then c else c + 1, p⟩
  | true, false => some ⟨c, p⟩
  | false, true => some ⟨c + 1, p⟩
  | false, false => none

/-- The first grid that has a point for the number, from coarse to fine. -/
def search (b : Binary) : Nat → Int → Digits
  | 0, p => ⟨floorAt b p, p⟩
  | fuel + 1, p =>
    match onGrid? b p with
    | some d => d
    | none => search b fuel (p - 1)

/-- Drops the zeros at the end of the digits. -/
def Digits.trim : Nat → Digits → Digits
  | 0, d => d
  | fuel + 1, d =>
    if d.digits ≠ 0 ∧ d.digits % 10 = 0 then trim fuel ⟨d.digits / 10, d.exponent + 1⟩ else d

/-- The shortest decimal that rounds to a positive double. The search starts above its largest
power of ten and ends below its smallest. -/
def shortest (b : Binary) : Digits :=
  let start : Int := if b.mantissa * powPos 2 b.exponent < powPos 2 (-b.exponent) then 0 else 310
  (search b 700 start).trim 700

/-- A whole number of units `10 ^ (-places)`, written with that many places. -/
def positional (digits : Nat) (places : Nat) : List Char :=
  let ds := Nat.toDigits 10 digits
  if places = 0 then ds
  else
    let padded := List.replicate (places + 1 - ds.length) '0' ++ ds
    padded.take (padded.length - places) ++ '.' :: padded.drop (padded.length - places)

/-- The characters of a decimal number, without exponent. -/
def Digits.chars (d : Digits) : List Char :=
  if 0 ≤ d.exponent then positional (d.digits * powPos 10 d.exponent) 0
  else positional d.digits (-d.exponent).toNat

/-- The parts of the bits of a double: sign, biased exponent and fraction. -/
def parts (bits : UInt64) : Bool × Nat × Nat :=
  (bits >>> 63 = 1, ((bits >>> 52) &&& 0x7ff).toNat, (bits &&& 0xfffffffffffff).toNat)

/-- The positive binary number of a biased exponent and a fraction. -/
def ofParts (biased fraction : Nat) : Binary :=
  if biased = 0 then ⟨fraction, -1074, false⟩
  else ⟨powPos 2 52 + fraction, (biased : Int) - 1075, fraction = 0 ∧ 1 < biased⟩

/-- The text of the double with the given bits. -/
def ofBits (bits : UInt64) : String :=
  let (negative, biased, fraction) := parts bits
  let sign := if negative then ['-'] else []
  if biased = 2047 then
    if fraction = 0 then String.ofList (sign ++ ['i', 'n', 'f']) else "NaN"
  else if biased = 0 ∧ fraction = 0 then String.ofList (sign ++ ['0'])
  else String.ofList (sign ++ (shortest (ofParts biased fraction)).chars)

/-- The text of a double. -/
def text (x : Float) : String :=
  ofBits x.toBits

end Federation.Decimal
