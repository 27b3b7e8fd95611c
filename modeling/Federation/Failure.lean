/-!
# Failures

A computation fails in one of two ways. It may report an error of its own kind, or it may be
stopped in the middle by a crash, which nobody handles where it happens.
-/

namespace Federation

/-- What stops a computation in the middle. -/
inductive Crash
  /-- A sum of machine words does not fit in a word. -/
  | additionOverflow
  /-- A difference of machine words is below zero. -/
  | subtractionOverflow
  /-- The least number of a signed word has no opposite number. -/
  | negationOverflow
  /-- A division by zero has no remainder. -/
  | zeroDivisor
  /-- A list is longer than memory can hold. -/
  | capacityOverflow
  /-- A user's algorithm stopped in the middle of a call. -/
  | algorithm
  deriving DecidableEq, Repr

/-- What is said about a crash. -/
def Crash.message : Crash → String
  | .additionOverflow => "attempt to add with overflow"
  | .subtractionOverflow => "attempt to subtract with overflow"
  | .negationOverflow => "attempt to negate with overflow"
  | .zeroDivisor => "attempt to calculate the remainder with a divisor of zero"
  | .capacityOverflow => "capacity overflow"
  | .algorithm => "the algorithm stopped in the middle of a call"

/-- How a computation fails: with an error, or with a crash. -/
inductive Failure (ε : Type)
  | error (e : ε)
  | crash (c : Crash)
  deriving DecidableEq, Repr

end Federation
