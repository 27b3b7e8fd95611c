import Federation.Experiment

/-!
# Codes of errors

Each error has a code by which programs tell it from others. An error that comes from further inside
has the code of where it came through in front of its own, with a period between them.
-/

namespace Federation

/-- The code of an average that cannot be computed. -/
def AggregationError.code : AggregationError → String
  | .emptyInput => "EmptyInput"
  | .shapeMismatch .. => "ShapeMismatch"
  | .noSamples => "NoSamples"

/-- The code of an operation that cannot be part of a graph. -/
def GraphError.code : GraphError → String
  | .forwardReference .. => "ForwardReference"
  | .kindMismatch .. => "InputKindMismatch"

/-- The code of an operation that cannot be registered. -/
def NodeError.code : NodeError → String
  | .scopeViolation .. => "ScopeViolation"
  | .emptyAggregationInput => "EmptyAggregationInput"
  | .graph e => "Graph." ++ e.code

/-- The code of a round that cannot be registered. -/
def StrategyError.code : StrategyError → String
  | .missingAggregationNode => "MissingAggregationNode"
  | .roundOutOfOrder .. => "RoundOutOfOrder"
  | .trainNodesChanged .. => "TrainNodesChanged"
  | .notTrained => "NotTrained"
  | .noMatchingTrainNode _ => "NoMatchingTrainNode"
  | .ambiguousTrainNode _ => "AmbiguousTrainNode"
  | .node e => "Node." ++ e.code

/-- The code of an error of a backend. -/
def BackendError.code : BackendError → String
  | .rejected _ => "Rejected"
  | .unknownPlan _ => "UnknownPlan"
  | .unavailable _ => "Unavailable"

/-- The code of an experiment that cannot go on. -/
def ExperimentError.code : ExperimentError → String
  | .missingAggregationNode => "MissingAggregationNode"
  | .noRounds => "NoRounds"
  | .evaluationRoundOutOfRange .. => "EvaluationRoundOutOfRange"
  | .notBuilt => "NotBuilt"
  | .staleOperation _ => "StaleOperation"
  | .strategy e => "Strategy." ++ e.code
  | .graph e => "Graph." ++ e.code
  | .backend e => "Backend." ++ e.code
  | .executionFailed _ => "ExecutionFailed"
  | .canceled _ => "Canceled"
  | .pollTimeout _ => "PollTimeout"
  | .aborted _ => "Aborted"

end Federation
