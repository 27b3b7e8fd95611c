import Federation.Failure

/-!
# Weighted averages of updates

The trained nodes of a round each share an update of the parameters and the number of samples it
was computed from. The average weighs every update by its share of all samples.

The arithmetic is a parameter (`Scalar`): doubles when a plan runs, any field when one reasons. The
order of the operations is fixed. Every update is scaled by its weight, and the scaled updates are
added to zero in the order in which they are given.

* `average_nil`, `average_eq_emptyInput_iff`: there is no average of nothing, and nothing else is
  said to have no update;
* `sumCounts_eq`: the sum of the counts is exact, or does not fit in 64 bits.
-/

namespace Federation

/-- The arithmetic that averages are computed in. -/
class Scalar (α : Type) where
  /-- The number zero. -/
  zero : α
  /-- A count of samples as a scalar. -/
  ofCount : UInt64 → α
  /-- The sum of two scalars. -/
  add : α → α → α
  /-- The product of two scalars. -/
  mul : α → α → α
  /-- The quotient of two scalars. -/
  div : α → α → α

/-- The arithmetic of doubles; a count is rounded to the nearest double. -/
instance : Scalar Float where
  zero := 0.0
  ofCount := UInt64.toFloat
  add := (· + ·)
  mul := (· * ·)
  div := (· / ·)

/-- What a trained node shares: an update and the number of samples behind it. -/
structure SharedState (α : Type) where
  update : List α
  samples : UInt64
  deriving Inhabited

/-- The average of the updates of a round. -/
structure AveragedState (α : Type) where
  update : List α
  deriving Inhabited

/-- Why updates cannot be averaged. -/
inductive AggregationError
  /-- There is no update. -/
  | emptyInput
  /-- An update has not as many parameters as the first one. -/
  | shapeMismatch (index expected found : Nat)
  /-- No update is based on any sample. -/
  | noSamples
  deriving DecidableEq, Repr

/-- What is said about an update that cannot be averaged. -/
def AggregationError.message : AggregationError → String
  | .emptyInput => "no shared state to average"
  | .shapeMismatch index expected found =>
    "shared state " ++ toString index ++ " has " ++ toString found ++ " parameters, expected " ++
      toString expected
  | .noSamples => "the shared states hold no samples"

variable {α : Type}

/-- The first state, at `index` or after it, whose update has another length than `expected`. -/
def misshapen? (expected : Nat) : Nat → List (SharedState α) → Option AggregationError
  | _, [] => none
  | index, s :: rest =>
    if s.update.length = expected then misshapen? expected (index + 1) rest
    else some (.shapeMismatch index expected s.update.length)

/-- Adds counts of samples one by one; a sum that does not fit in 64 bits is a crash. -/
def sumCounts (acc : UInt64) : List UInt64 → Except Crash UInt64
  | [] => .ok acc
  | n :: rest =>
    if acc.toNat + n.toNat < UInt64.size then sumCounts (acc + n) rest else .error .additionOverflow

/-- Adds an update, scaled by its weight, to a partial sum. -/
def addScaled [Scalar α] (sum : List α) (weight : α) (update : List α) : List α :=
  List.zipWith (fun s u => Scalar.add s (Scalar.mul u weight)) sum update

/-- The weighted sum of updates of the given length. -/
def weightedSum [Scalar α] (length : Nat) (total : UInt64) (states : List (SharedState α)) :
    List α :=
  states.foldl
    (fun sum s => addScaled sum (Scalar.div (Scalar.ofCount s.samples) (Scalar.ofCount total))
      s.update)
    (List.replicate length Scalar.zero)

/-- The average of the updates, weighted by the numbers of samples. -/
def average [Scalar α] (states : List (SharedState α)) :
    Except (Failure AggregationError) (AveragedState α) :=
  match states with
  | [] => .error (.error .emptyInput)
  | first :: _ =>
    match misshapen? first.update.length 0 states with
    | some e => .error (.error e)
    | none =>
      match sumCounts 0 (states.map SharedState.samples) with
      | .error c => .error (.crash c)
      | .ok total =>
        if total = 0 then .error (.error .noSamples)
        else .ok ⟨weightedSum first.update.length total states⟩

/-- The function that an aggregation runs. -/
inductive AggregationFunction
  /-- The average weighted by the numbers of samples. -/
  | weightedAverage
  deriving DecidableEq, Repr

/-- The name of the function. -/
def AggregationFunction.name : AggregationFunction → String
  | .weightedAverage => "weighted_average"

/-- Runs the function. -/
def AggregationFunction.apply [Scalar α] (f : AggregationFunction)
    (states : List (SharedState α)) : Except (Failure AggregationError) (AveragedState α) :=
  match f with
  | .weightedAverage => average states

theorem average_nil [Scalar α] :
    average ([] : List (SharedState α)) = .error (.error .emptyInput) := rfl

theorem misshapen?_ne_emptyInput (expected index : Nat) (states : List (SharedState α)) :
    misshapen? expected index states ≠ some .emptyInput := by
  induction states generalizing index with
  | nil => simp [misshapen?]
  | cons s rest ih =>
    unfold misshapen?
    split
    · exact ih (index + 1)
    · simp

/-- The average only misses an update when there is none. -/
theorem average_eq_emptyInput_iff [Scalar α] (states : List (SharedState α)) :
    average states = .error (.error .emptyInput) ↔ states = [] := by
  constructor
  · intro h
    cases states with
    | nil => rfl
    | cons first rest =>
      exfalso
      unfold average at h
      dsimp only at h
      cases hm : misshapen? first.update.length 0 (first :: rest) with
      | some err =>
        simp only [hm, Except.error.injEq, Failure.error.injEq] at h
        exact misshapen?_ne_emptyInput _ _ _ (h ▸ hm)
      | none =>
        rw [hm] at h
        dsimp only at h
        split at h
        · simp at h
        · split at h <;> simp at h
  · rintro rfl
    exact average_nil

theorem le_foldl_toNat (ns : List UInt64) (start : Nat) :
    start ≤ ns.foldl (fun sum n => sum + n.toNat) start := by
  induction ns generalizing start with
  | nil => exact Nat.le_refl start
  | cons n rest ih => exact Nat.le_trans (Nat.le_add_right ..) (ih _)

/-- Adding up counts gives their exact sum, and is a crash exactly when that has no word. -/
theorem sumCounts_eq (acc : UInt64) (ns : List UInt64) :
    sumCounts acc ns =
      let sum := ns.foldl (fun sum n => sum + n.toNat) acc.toNat
      if sum < UInt64.size then .ok (UInt64.ofNat sum) else .error .additionOverflow := by
  induction ns generalizing acc with
  | nil =>
    have := acc.toNat_lt
    simp [sumCounts, this]
  | cons n rest ih =>
    unfold sumCounts
    by_cases h : acc.toNat + n.toNat < UInt64.size
    · have hadd : (acc + n).toNat = acc.toNat + n.toNat := by
        rw [UInt64.toNat_add]
        exact Nat.mod_eq_of_lt h
      rw [if_pos h, ih, hadd, List.foldl_cons]
    · have hle := le_foldl_toNat rest (acc.toNat + n.toNat)
      rw [if_neg h, List.foldl_cons, if_neg (by omega)]

end Federation
