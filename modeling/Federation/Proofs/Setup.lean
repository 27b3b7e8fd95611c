import Federation.Backend.Execution
import Federation.Experiment

/-!
# Federated averaging by itself

What federated averaging computes, without any graph, plan or backend. In the first round every node
trains from nothing. In a later round what the nodes shared in the round before is averaged, and
every node trains from its own last state and the average. After a round that is evaluated, every
node that tests scores the state of the node of the same member.

* `Setup.update`, `Setup.evaluate`: a round, and its evaluation;
* `Setup.after`: what the nodes hold after a number of rounds, and the scores so far;
* `Setup.scores`: the scores after all rounds, or the first failure.
-/

namespace Federation

/-- What federated averaging works on. -/
structure Setup where
  algorithm : Algorithm
  trainNodes : List TrainNode
  testNodes : List TestNode
  /-- Whether the models of a round are tested. -/
  evaluated : Nat → Bool

/-- The setup of an experiment. -/
def Experiment.setup (e : Experiment) : Setup where
  algorithm := e.strategy.algorithm
  trainNodes := e.trainNodes
  testNodes := e.testNodes
  evaluated r := e.evaluation.selects (UInt32.ofNat r) e.numRounds

/-- What a node holds after a training: what it has learned, and what it shares. -/
abbrev Update : Type :=
  LocalState × SharedState Float

/-- A score: who tested, in which round, and the value. -/
structure Score where
  worker : ParticipantId
  round : Round
  value : Float

/-- The score that a backend reports. -/
def Performance.score (p : Performance) : Score :=
  ⟨p.worker, p.round, p.value⟩

namespace Setup

variable (s : Setup) (answers : Answers)

/-- Trains on a node, from what it learned before and from what was averaged. -/
def train (shared : Option (AveragedState Float)) (q : TrainNode × Option LocalState) :
    Except (Failure ExecutionError) Update :=
  (answers (.train s.algorithm q.1.samples q.2 shared)).mapError Store.algorithmFailure

/-- What all nodes of a round start from: nothing in the first round, and later the average of what
they shared in the round before. -/
def averaged : Nat → List Update → Except (Failure ExecutionError) (Option (AveragedState Float))
  | 0, _ => .ok none
  | _ + 1, previous =>
    ((average (previous.map Prod.snd)).mapError Store.aggregationFailure).map some

/-- What each node of a round starts from: nothing in the first round, and later what it learned in
the round before. -/
def learned : Nat → List Update → List (Option LocalState)
  | 0, _ => s.trainNodes.map fun _ => none
  | _ + 1, previous => previous.map fun u => some u.1

/-- What the nodes hold after a round, from what they held before it. -/
def update (r : Nat) (previous : List Update) : Except (Failure ExecutionError) (List Update) := do
  let shared ← averaged r previous
  (s.trainNodes.zip (s.learned r previous)).mapM (s.train answers shared)

/-- The states to test: for each node that tests, those of the training nodes of its member. -/
def toTest (updates : List Update) : List (TestNode × LocalState) :=
  s.testNodes.flatMap fun t =>
    ((s.trainNodes.zip updates).filter fun q => q.1.id = t.id).map fun q => (t, q.2.1)

/-- Scores a state on a node that tests. -/
def score (r : Nat) (q : TestNode × LocalState) : Except (Failure ExecutionError) Score :=
  ((answers (.score s.algorithm q.1.samples q.2)).mapError Store.algorithmFailure).map
    fun value => ⟨q.1.id, UInt32.ofNat r, value⟩

/-- The scores of a round, if it is one to evaluate. -/
def evaluate (r : Nat) (updates : List Update) : Except (Failure ExecutionError) (List Score) :=
  if s.evaluated r then (s.toTest updates).mapM (s.score answers r) else .ok []

/-- What the nodes hold after a number of rounds, and the scores so far. -/
def after : Nat → Except (Failure ExecutionError) (List Update × List Score)
  | 0 => .ok ([], [])
  | r + 1 => do
    let (previous, scores) ← after r
    let updates ← s.update answers r previous
    let more ← s.evaluate answers r updates
    .ok (updates, scores ++ more)

/-- The scores after all rounds. -/
def scores (rounds : Nat) : Except (Failure ExecutionError) (List Score) :=
  (s.after answers rounds).map Prod.snd

end Setup

end Federation
