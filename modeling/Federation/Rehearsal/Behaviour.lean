import Federation.Algorithm

/-!
# Algorithms with a known behaviour

Three algorithms that need no data but numbers, so that every score of a rehearsed plan can be
worked out by hand. All sums run in order.

* `Behaviour.constant` always shares the same update;
* `Behaviour.mean` moves half of the way to the mean of the samples;
* `Behaviour.linear` adds up weighted parts of all that it is given.
-/

namespace Federation

/-- A behaviour of an algorithm. -/
inductive Behaviour
  /-- Always the same update, for the same number of samples. -/
  | constant (update : List Float) (samples : UInt64)
  /-- Estimates the mean of vectors, of which every sample has one. -/
  | mean (data : List (SampleKey × List Float)) (dimension : Nat)
  /-- A weighted sum of a fixed vector, the local state, the shared state and the samples. The
  number of samples may be fixed. -/
  | linear (base : List Float) (localWeight sharedWeight sampleWeight : Float)
      (samples : Option UInt64)

namespace Behaviour

/-- The sum of numbers, in order. -/
def sum (xs : List Float) : Float :=
  xs.foldl (· + ·) 0.0

/-- A sample as a number: the low 64 bits of its key. -/
def sampleNumber (s : SampleKey) : Float :=
  (UInt64.ofNat s.id.value.toNat).toFloat

/-- The number of samples as a count. -/
def count (samples : List SampleKey) : UInt64 :=
  UInt64.ofNat samples.length

/-- Adds vectors position by position; positions beyond the first vector are dropped. -/
def addInto : List Float → List Float → List Float
  | [], _ => []
  | xs, [] => xs
  | x :: xs, y :: ys => (x + y) :: addInto xs ys

/-- The vector of a sample. -/
def vectorOf (data : List (SampleKey × List Float)) (s : SampleKey) :
    Except AlgorithmError (List Float) :=
  match data.reverse.lookup s with
  | some v => .ok v
  | none => .error (.missingData s)

/-- Adds up the vectors of samples. -/
def addAll (data : List (SampleKey × List Float)) (acc : List Float) :
    List SampleKey → Except AlgorithmError (List Float)
  | [] => .ok acc
  | s :: rest =>
    match vectorOf data s with
    | .error e => .error e
    | .ok v => addAll data (addInto acc v) rest

/-- What a sum over samples is divided by to get a mean: their number, or one. -/
def divisor (samples : List SampleKey) : Float :=
  if samples.isEmpty then 1.0 else (count samples).toFloat

/-- The mean of the vectors of samples; that of no samples is zero. -/
def meanOf (data : List (SampleKey × List Float)) (dimension : Nat) (samples : List SampleKey) :
    Except AlgorithmError (List Float) :=
  (addAll data (List.replicate dimension 0.0) samples).map fun total =>
    total.map (· / divisor samples)

/-- A parameter of the linear algorithm, of which the states have the given parts. -/
def linearParameter (localWeight sharedWeight shift : Float) (base : Float)
    (start shared : Option Float) : Float :=
  let p := base + shift
  let p := match start with
    | some x => p + localWeight * x
    | none => p
  match shared with
  | some x => p + sharedWeight * x
  | none => p

/-- The parameters of the linear algorithm. -/
def linearParameters (localWeight sharedWeight shift : Float) :
    List Float → List Float → List Float → List Float
  | [], _, _ => []
  | b :: base, start, shared =>
    linearParameter localWeight sharedWeight shift b start.head? shared.head? ::
      linearParameters localWeight sharedWeight shift base start.tail shared.tail

/-- Trains on samples. -/
def train (b : Behaviour) (samples : List SampleKey) (start : Option LocalState)
    (shared : Option (AveragedState Float)) :
    Except AlgorithmError (LocalState × SharedState Float) :=
  match b with
  | .constant update n => .ok (⟨update⟩, ⟨update, n⟩)
  | .mean data dimension =>
    (meanOf data dimension samples).map fun m =>
      let origin := match shared, start with
        | some s, _ => s.update
        | none, some s => s.parameters
        | none, none => List.replicate dimension 0.0
      let parameters := List.zipWith (fun x y => (x + y) / 2.0) origin m
      (⟨parameters⟩, ⟨parameters, count samples⟩)
  | .linear base localWeight sharedWeight sampleWeight n =>
    let shift := sampleWeight * sum (samples.map sampleNumber)
    let parameters := linearParameters localWeight sharedWeight shift base
      ((start.map LocalState.parameters).getD []) ((shared.map AveragedState.update).getD [])
    .ok (⟨parameters⟩, ⟨parameters, n.getD (count samples)⟩)

/-- Scores a state on samples. -/
def score (b : Behaviour) (samples : List SampleKey) (state : LocalState) :
    Except AlgorithmError Float :=
  match b with
  | .constant _ _ => .ok (sum state.parameters)
  | .mean data dimension =>
    (meanOf data dimension samples).map fun m =>
      -sum (List.zipWith (fun p t => (p - t) * (p - t)) state.parameters m)
  | .linear _ _ _ sampleWeight _ =>
    .ok ((samples.map sampleNumber).foldl (fun acc k => acc + sampleWeight * k)
      (sum state.parameters))

/-- Answers any call. -/
def answers (b : Behaviour) : Answers
  | .train _ samples start shared => (b.train samples start shared).mapError .error
  | .score _ samples state => (b.score samples state).mapError .error

end Behaviour

end Federation
