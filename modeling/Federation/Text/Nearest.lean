import Federation.Text.Decimal

/-!
# The double nearest to a decimal number

A decimal number is read as the double nearest to it; of two that are as near, as the one with the
even mantissa. The quotient of two whole numbers is brought to a mantissa of 53 bits, or fewer
below the smallest normal double, and rounded once in exact arithmetic.

* `Decimal.roundEven_exact`: a whole quotient is kept.
-/

namespace Federation.Decimal

/-- A quotient rounded to the nearest whole number, a half going to the even one. -/
def roundEven (num den : Nat) : Nat :=
  let low := num / den
  let rest := 2 * (num % den)
  if rest < den ∨ (rest = den ∧ low % 2 = 0) then low else low + 1

theorem roundEven_exact (n : Nat) {d : Nat} (h : 0 < d) : roundEven (n * d) d = n := by
  simp [roundEven, Nat.mul_div_cancel n h, h]

/-- The largest power of two that is not above a positive quotient. -/
def binaryOrder (num den : Nat) : Int :=
  let guess : Int := (Nat.log2 num : Int) - Nat.log2 den
  if num * powPos 2 (-guess) < den * powPos 2 guess then guess - 1 else guess

/-- The bits of the double nearest to a positive quotient; the infinite one when it is too large.
The mantissa is added to the exponent's field, which lets a mantissa that was rounded up to the
next power of two carry into the exponent. -/
def ofRatio (num den : Nat) : UInt64 :=
  let exponent := max (-1074) (binaryOrder num den - 52)
  let mantissa := roundEven (num * powPos 2 (-exponent)) (den * powPos 2 exponent)
  let bits := (exponent + 1074).toNat * powPos 2 52 + mantissa
  UInt64.ofNat (min bits (0x7ff * powPos 2 52))

/-- The bits of the double nearest to `digits * 10 ^ exponent`. Beyond 400 digits before or after
the point nothing is left to compute. -/
def nearestBits (digits : Nat) (exponent : Int) : UInt64 :=
  let order : Int := (Nat.toDigits 10 digits).length + exponent
  if digits = 0 ∨ order < -400 then 0
  else if 400 < order then 0x7ff0000000000000
  else ofRatio (digits * powPos 10 exponent) (powPos 10 (-exponent))

/-- The double nearest to `digits * 10 ^ exponent`. -/
def nearest (digits : Nat) (exponent : Int) : Float :=
  Float.ofBits (nearestBits digits exponent)

end Federation.Decimal
