import Federation.Attempt
import Federation.Registration

/-!
# Rounds of federated averaging

Federated averaging proceeds in rounds. In round zero every node trains from scratch. In every
later round the payloads of the round before are first aggregated, and then every node trains again
from its own last state and the aggregated one. A strategy only registers these operations, and
remembers for each round the references to its states.

* `FederatedAveraging.performRound` registers a round, `FederatedAveraging.predict` the tests of
  the latest states; both leave behind what they registered before an error.
* `FederatedAveraging.history_of_error`: a round that fails is not remembered.
-/

namespace Federation

/-- The name of the strategy in plans and reports. -/
def strategyName : String :=
  "federated_averaging"

/-- The name of the strategy in messages. -/
def strategyTitle : String :=
  "federated averaging"

/-- Why a strategy cannot register the operations of a round. -/
inductive StrategyError
  /-- Nobody aggregates. -/
  | missingAggregationNode
  /-- The rounds are not performed one after the other. -/
  | roundOutOfOrder (expected found : Round)
  /-- The number of nodes is not that of the round before. -/
  | trainNodesChanged (expected found : Nat)
  /-- No round was performed. -/
  | notTrained
  /-- No training node belongs to the member that tests. -/
  | noMatchingTrainNode (member : ParticipantId)
  /-- Several training nodes belong to the member that tests. -/
  | ambiguousTrainNode (member : ParticipantId)
  /-- An operation cannot be registered on its node. -/
  | node (e : NodeError)
  deriving DecidableEq

/-- What is said about a round that cannot be registered. -/
def StrategyError.message : StrategyError → String
  | .missingAggregationNode => "the " ++ strategyTitle ++ " strategy requires an aggregation node"
  | .roundOutOfOrder expected found =>
    "round " ++ toString found ++ " cannot be performed, expected round " ++ toString expected
  | .trainNodesChanged expected found =>
    toString expected ++ " train nodes were expected but " ++ toString found ++ " were given"
  | .notTrained => "cannot predict before any round has been performed"
  | .noMatchingTrainNode member => "no train node matches the test node " ++ member.text
  | .ambiguousTrainNode member => "several train nodes match the test node " ++ member.text
  | .node e => e.message

/-- The references of a round. -/
structure RoundSnapshot where
  round : Round
  /-- The local states, in the order of the nodes. -/
  states : List LocalStateRef
  /-- The payloads, in the order of the nodes. -/
  payloads : List SharedPayload
  /-- The aggregated state that the nodes started from, if any. -/
  shared : Option SharedStateRef
  deriving DecidableEq

/-- The first local state of a member in a round. -/
def RoundSnapshot.state? (s : RoundSnapshot) (node : ParticipantId) : Option LocalStateRef :=
  s.states.find? fun r => r.node = node

/-- The strategy: the algorithm it trains, and the rounds it has performed. -/
structure FederatedAveraging where
  algorithm : Algorithm
  history : Array RoundSnapshot

namespace FederatedAveraging

/-- The strategy for an algorithm, before the first round. -/
def new (algorithm : Algorithm) : FederatedAveraging :=
  ⟨algorithm, #[]⟩

/-- Forgets the rounds. -/
def reset (s : FederatedAveraging) : FederatedAveraging :=
  { s with history := #[] }

/-- The last round that was performed. -/
def current? (s : FederatedAveraging) : Option RoundSnapshot :=
  s.history.back?

/-- Whether rounds need a node that aggregates. -/
def requiresAggregation (_ : FederatedAveraging) : Bool :=
  true

/-! ## Performing a round -/

/-- The index of the next round, in the 32 bits that an index has. -/
def expectedRound (s : FederatedAveraging) : Round :=
  UInt32.ofNat s.history.size

/-- Registers a training on every node in order, each from the state given for it. -/
def trainAll (algorithm : Algorithm) (round : Round) (shared : Option SharedStateRef) :
    Draft → List (TrainNode × Option LocalStateRef) →
      Attempt (Draft × List TrainNode) NodeError (List Trained)
  | d, [] => ⟨(d, []), .ok []⟩
  | d, (n, start) :: rest =>
    match n.registerTrain d algorithm round shared start with
    | ⟨(d, n), .error e⟩ => ⟨(d, n :: rest.map Prod.fst), .error e⟩
    | ⟨(d, n), .ok trained⟩ =>
      let others := trainAll algorithm round shared d rest
      ⟨(others.state.1, n :: others.state.2), others.outcome.map (trained :: ·)⟩

/-- What a round works on: the draft, the nodes that train and the node that aggregates. -/
structure Site where
  draft : Draft
  trainNodes : List TrainNode
  aggregator : Option AggregationNode

/-- The snapshot of a round in which the nodes trained. -/
def snapshot (round : Round) (shared : Option SharedStateRef) (trained : List Trained) :
    RoundSnapshot where
  round := round
  states := trained.map Trained.state
  payloads := trained.map Trained.payload
  shared := shared

/-- Registers the trainings of a round and takes their snapshot. -/
def trainRound (s : FederatedAveraging) (site : Site) (round : Round)
    (shared : Option SharedStateRef) (nodes : List (TrainNode × Option LocalStateRef)) :
    Attempt Site StrategyError RoundSnapshot :=
  let trainings := trainAll s.algorithm round shared site.draft nodes
  ⟨{ site with draft := trainings.state.1, trainNodes := trainings.state.2 },
    (trainings.outcome.mapError .node).map (snapshot round shared)⟩

/-- Registers the operations of a round after the given one: the aggregation of its payloads, then
the trainings from its states. -/
def followRound (s : FederatedAveraging) (site : Site) (aggregator : AggregationNode)
    (round : Round) (previous : RoundSnapshot) : Attempt Site StrategyError RoundSnapshot :=
  if previous.states.length ≠ site.trainNodes.length then
    ⟨site, .error (.trainNodesChanged previous.states.length site.trainNodes.length)⟩
  else
    match aggregator.registerAggregate site.draft .weightedAverage previous.payloads round with
    | ⟨(d, a), .error e⟩ => ⟨{ site with draft := d, aggregator := some a }, .error (.node e)⟩
    | ⟨(d, a), .ok shared⟩ =>
      s.trainRound { site with draft := d, aggregator := some a } round (some shared)
        (site.trainNodes.zip (previous.states.map some))

/-- Registers the operations of a round, without remembering it. -/
def registerRound (s : FederatedAveraging) (site : Site) (aggregator : AggregationNode)
    (round : Round) : Attempt Site StrategyError RoundSnapshot :=
  match s.current? with
  | none => s.trainRound site round none (site.trainNodes.map (·, none))
  | some previous => s.followRound site aggregator round previous

/-- Registers the operations of a round and remembers it. -/
def performRound (s : FederatedAveraging) (site : Site) (round : Round) :
    Attempt (FederatedAveraging × Site) StrategyError Unit :=
  match site.aggregator with
  | none => ⟨(s, site), .error .missingAggregationNode⟩
  | some aggregator =>
    if round ≠ s.expectedRound then
      ⟨(s, site), .error (.roundOutOfOrder s.expectedRound round)⟩
    else
      let site := { site with draft := site.draft.note (.performingRound round) }
      let a := s.registerRound site aggregator round
      match a.outcome with
      | .error e => ⟨(s, a.state), .error e⟩
      | .ok snapshot => ⟨({ s with history := s.history.push snapshot }, a.state), .ok ()⟩

theorem history_of_error (s : FederatedAveraging) (site : Site) (round : Round)
    {e : StrategyError} (h : (s.performRound site round).outcome = .error e) :
    (s.performRound site round).state.1 = s := by
  unfold performRound at *
  split at h
  · rfl
  · split at h
    · next hr => simp [hr]
    · next hr =>
      simp only [if_neg hr] at *
      split at h
      · simp
      · exact absurd h (by simp)

/-! ## Testing the latest states -/

/-- The latest state of the one training node that belongs to a member. -/
def stateToTest (current : RoundSnapshot) (trainNodes : List TrainNode) (node : ParticipantId) :
    Except StrategyError LocalStateRef :=
  match (trainNodes.filter fun n => n.id = node).length with
  | 0 => .error (.noMatchingTrainNode node)
  | 1 =>
    match current.state? node with
    | some state => .ok state
    | none => .error (.noMatchingTrainNode node)
  | _ => .error (.ambiguousTrainNode node)

/-- Registers a test on every node in order, each of the latest state of its member. -/
def testAll (current : RoundSnapshot) (trainNodes : List TrainNode) (round : Round) :
    Draft → List TestNode → Attempt (Draft × List TestNode) StrategyError Unit
  | d, [] => ⟨(d, []), .ok ()⟩
  | d, n :: rest =>
    match stateToTest current trainNodes n.id with
    | .error e => ⟨(d, n :: rest), .error e⟩
    | .ok state =>
      let d := d.note (.testing state current.round n.id)
      match n.registerTest d state round with
      | ⟨(d, n), .error e⟩ => ⟨(d, n :: rest), .error (.node e)⟩
      | ⟨(d, n), .ok _⟩ =>
        let others := testAll current trainNodes round d rest
        ⟨(others.state.1, n :: others.state.2), others.outcome⟩

/-- Registers a test of the latest states on every node that tests. -/
def predict (s : FederatedAveraging) (d : Draft) (testNodes : List TestNode)
    (trainNodes : List TrainNode) (round : Round) :
    Attempt (Draft × List TestNode) StrategyError Unit :=
  match s.current? with
  | none => ⟨(d, testNodes), .error .notTrained⟩
  | some current => testAll current trainNodes round d testNodes

end FederatedAveraging

end Federation
