import Federation.Plan.Admission
import Federation.Rounds
import Federation.Settings.Sections
import Federation.Timestamp

/-!
# Experiments

An experiment is a strategy with its nodes, a number of rounds and a choice of rounds to evaluate.
Building it registers the operations of all rounds in one graph; compiling it turns the operations
queued on its nodes into a plan.

* `Experiment.build` starts from nothing each time, and leaves behind what it registered before an
  error;
* `Experiment.compile` needs a build that succeeded, and finds the operations through the nodes;
* `Experiment.not_built_of_error`: a build that got past the configuration and failed leaves the
  experiment unbuilt.
-/

namespace Federation

/-- Why an experiment cannot be built, submitted or waited for. -/
inductive ExperimentError
  /-- Nobody aggregates. -/
  | missingAggregationNode
  /-- There is no round to perform. -/
  | noRounds
  /-- A round to evaluate is none of the experiment's. -/
  | evaluationRoundOutOfRange (round numRounds : Round)
  /-- There is no graph to compile. -/
  | notBuilt
  /-- A node has an operation in its queue that the graph does not have. -/
  | staleOperation (operation : OperationId)
  /-- A round could not be registered. -/
  | strategy (e : StrategyError)
  /-- The graph is not one. -/
  | graph (e : GraphError)
  /-- The backend reported an error. -/
  | backend (e : BackendError)
  /-- The execution of the plan failed. -/
  | executionFailed (plan : PlanKey)
  /-- The plan was canceled. -/
  | canceled (plan : PlanKey)
  /-- The plan took too long. -/
  | pollTimeout (plan : PlanKey)
  /-- Somebody asked to stop waiting for the plan. -/
  | aborted (plan : PlanKey)
  deriving DecidableEq

/-- What is said about an experiment that cannot go on. -/
def ExperimentError.message : ExperimentError → String
  | .missingAggregationNode => "the " ++ strategyTitle ++ " strategy requires an aggregation node"
  | .noRounds => "an experiment needs at least one round"
  | .evaluationRoundOutOfRange round numRounds =>
    "cannot evaluate round " ++ toString round ++ " of an experiment of " ++ toString numRounds ++
      " rounds"
  | .notBuilt => "the operation graph has not been built"
  | .staleOperation operation =>
    operation.text ++ " is recorded on a node but missing from the graph"
  | .strategy e => "graph construction failed: " ++ e.message
  | .graph e => "invalid operation graph: " ++ e.message
  | .backend e => "backend error: " ++ e.message
  | .executionFailed plan => "compute plan " ++ plan.text ++ " failed"
  | .canceled plan => "compute plan " ++ plan.text ++ " was canceled"
  | .pollTimeout plan => "compute plan " ++ plan.text ++ " did not complete in time"
  | .aborted plan => "waiting for compute plan " ++ plan.text ++ " was aborted"

/-- An experiment. -/
structure Experiment where
  strategy : FederatedAveraging
  trainNodes : List TrainNode
  testNodes : List TestNode
  aggregator : Option AggregationNode
  numRounds : Round
  evaluation : Evaluation
  cleanModels : Bool
  /-- The name of the plan; the time of submission if there is none. -/
  tag : Option String
  graph : Graph
  /-- Whether the graph is complete. -/
  built : Bool

namespace Experiment

/-- An experiment that trains on nodes for a number of rounds, and only evaluates the last one. -/
def new (strategy : FederatedAveraging) (trainNodes : List TrainNode) (numRounds : Round) :
    Experiment where
  strategy := strategy
  trainNodes := trainNodes
  testNodes := []
  aggregator := none
  numRounds := numRounds
  evaluation := .final
  cleanModels := true
  tag := none
  graph := .empty
  built := false

/-- Changes the nodes that test. -/
def withTestNodes (e : Experiment) (nodes : List TestNode) : Experiment :=
  { e with testNodes := nodes }

/-- Changes the node that aggregates. -/
def withAggregationNode (e : Experiment) (node : AggregationNode) : Experiment :=
  { e with aggregator := some node }

/-- Changes the choice of rounds to evaluate. -/
def withEvaluation (e : Experiment) (evaluation : Evaluation) : Experiment :=
  { e with evaluation := evaluation }

/-- Changes the name of the plan. -/
def withTag (e : Experiment) (tag : String) : Experiment :=
  { e with tag := some tag }

/-- Applies the settings; a name that they do not give is kept. -/
def withSettings (e : Experiment) (s : ExperimentSettings) : Experiment :=
  { e with
    numRounds := s.numRounds
    cleanModels := s.cleanModels
    evaluation := s.evaluation
    tag := s.tag.or e.tag }

/-! ## Building -/

/-- What is wrong with the configuration, before any round is performed. -/
def configFault? (e : Experiment) : Option ExperimentError :=
  if e.strategy.requiresAggregation && e.aggregator.isNone then some .missingAggregationNode
  else if e.numRounds = 0 then some .noRounds
  else (e.evaluation.outOfRange e.numRounds).map (.evaluationRoundOutOfRange · e.numRounds)

/-- The experiment without any operation. -/
def reset (e : Experiment) : Experiment :=
  { e with
    strategy := e.strategy.reset
    trainNodes := e.trainNodes.map TrainNode.clear
    testNodes := e.testNodes.map TestNode.clear
    aggregator := e.aggregator.map AggregationNode.clear
    graph := .empty
    built := false }

/-- The experiment after a round, with the new strategy and nodes and the new draft. -/
def afterRound (e : Experiment) (s : FederatedAveraging × FederatedAveraging.Site) : Experiment :=
  { e with
    strategy := s.1
    trainNodes := s.2.trainNodes
    aggregator := s.2.aggregator
    graph := s.2.draft.graph }

/-- Registers the tests of a round, if it is one to evaluate. -/
def evaluateRound (e : Experiment) (r : Recorder) (round : Round) :
    Attempt (Experiment × Recorder) StrategyError Unit :=
  if e.evaluation.selects round e.numRounds then
    let draft : Draft := ⟨e.graph, r.note (.evaluating round)⟩
    let a := e.strategy.predict draft e.testNodes e.trainNodes round
    a.mapState fun s => ({ e with testNodes := s.2, graph := s.1.graph }, s.1.recorder)
  else ⟨(e, r), .ok ()⟩

/-- Registers the operations of a round and of its evaluation. -/
def buildRound (e : Experiment) (r : Recorder) (round : Round) :
    Attempt (Experiment × Recorder) StrategyError Unit :=
  let a := e.strategy.performRound ⟨⟨e.graph, r⟩, e.trainNodes, e.aggregator⟩ round
  let e := e.afterRound a.state
  let r := a.state.2.draft.recorder
  match a.outcome with
  | .error err => ⟨(e, r), .error err⟩
  | .ok () => e.evaluateRound r round

/-- Registers the operations of a number of rounds, the first of which is given. -/
def buildRounds (e : Experiment) (r : Recorder) (round : Round) :
    Nat → Attempt (Experiment × Recorder) StrategyError Unit
  | 0 => ⟨(e, r), .ok ()⟩
  | remaining + 1 =>
    let a := e.buildRound r round
    match a.outcome with
    | .error err => ⟨a.state, .error err⟩
    | .ok () => buildRounds a.state.1 a.state.2 (round + 1) remaining

/-- Checks the graph after all rounds. -/
def finish (e : Experiment) (r : Recorder) : Attempt (Experiment × Recorder) ExperimentError Unit :=
  match e.graph.invalid? with
  | some err => ⟨(e, r), .error (.graph err)⟩
  | none =>
    ⟨({ e with built := true }, r.note (.graphBuilt e.graph.size e.numRounds)), .ok ()⟩

/-- Builds the graph of the experiment from nothing: all rounds in order, each followed by its
evaluation if it is one to evaluate. -/
def build (e : Experiment) (r : Recorder) : Attempt (Experiment × Recorder) ExperimentError Unit :=
  match e.configFault? with
  | some err => ⟨(e, r), .error err⟩
  | none =>
    let a := e.reset.buildRounds r 0 e.numRounds.toNat
    match a.outcome with
    | .error err => ⟨a.state, .error (.strategy err)⟩
    | .ok () => a.state.1.finish a.state.2

theorem built_evaluateRound (e : Experiment) (r : Recorder) (round : Round) :
    (e.evaluateRound r round).state.1.built = e.built := by
  unfold evaluateRound
  split <;> rfl

theorem built_buildRound (e : Experiment) (r : Recorder) (round : Round) :
    (e.buildRound r round).state.1.built = e.built := by
  unfold buildRound
  dsimp only
  split
  · rfl
  · exact built_evaluateRound _ _ _

theorem built_buildRounds (e : Experiment) (r : Recorder) (round : Round) (n : Nat) :
    (e.buildRounds r round n).state.1.built = e.built := by
  induction n generalizing e r round with
  | zero => rfl
  | succ n ih =>
    unfold buildRounds
    dsimp only
    split
    · exact built_buildRound _ _ _
    · rw [ih]
      exact built_buildRound _ _ _

/-- A build that got past the configuration and failed leaves the experiment unbuilt. -/
theorem not_built_of_error {e : Experiment} {r : Recorder} {err : ExperimentError}
    (hc : e.configFault? = none) (h : (e.build r).outcome = .error err) :
    (e.build r).state.1.built = false := by
  have hb : (e.reset.buildRounds r 0 e.numRounds.toNat).state.1.built = false :=
    built_buildRounds e.reset r 0 e.numRounds.toNat
  unfold build finish at *
  rw [hc] at h ⊢
  dsimp only at h ⊢
  split
  · exact hb
  · next heq =>
    rw [heq] at h
    dsimp only at h
    split
    · exact hb
    · next hv =>
      rw [hv] at h
      exact absurd h (by simp)

/-! ## Compiling -/

/-- Who may see the plan: the node that aggregates and the nodes that train. -/
def permissions (e : Experiment) : Permissions :=
  .ofMembers (e.aggregator.toList.map AggregationNode.id ++ e.trainNodes.map TrainNode.id)

/-- The operations in the queues of the nodes: those that train, those that test, and the one that
aggregates. -/
def recorded (e : Experiment) : List OperationId :=
  e.trainNodes.flatMap (·.operations.toList) ++ e.testNodes.flatMap (·.operations.toList) ++
    e.aggregator.toList.flatMap (·.operations.toList)

/-- The tasks of the operations at the given positions of a graph. -/
def tasksOf (g : Graph) : List OperationId → Except ExperimentError (List Task)
  | [] => .ok []
  | id :: rest =>
    match g.get? id with
    | none => .error (.staleOperation id)
    | some op =>
      match Task.ofOperation op g with
      | .error err => .error (.graph err)
      | .ok t =>
        match tasksOf g rest with
        | .error err => .error err
        | .ok ts => .ok (t :: ts)

/-- The plan of the experiment, compiled at the given time. -/
def compile (e : Experiment) (now : Timestamp) : Except ExperimentError Plan :=
  if e.built then
    match tasksOf e.graph e.recorded with
    | .error err => .error err
    | .ok tasks => .ok (.ofTasks (e.tag.getD now.text) e.cleanModels e.permissions tasks)
  else .error .notBuilt

theorem compile_of_not_built {e : Experiment} (h : e.built = false) (now : Timestamp) :
    e.compile now = .error .notBuilt := by
  simp [compile, h]

end Experiment

end Federation
