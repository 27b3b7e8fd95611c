import Federation.Algorithm

/-!
# Operations and references to their results

An operation trains, aggregates or tests on one node in one round. It consumes results of earlier
operations, and it does so by reference: a reference names the operation that produces the result
and never holds the result itself.

* `OperationInput.producer`: the operation that an input comes from;
* `OperationInput.producerKind`: the kind of operation that it has to be.
-/

namespace Federation

/-- The position of an operation in its graph. -/
structure OperationId where
  index : Nat
  deriving DecidableEq, Inhabited

/-- How an operation is referred to in messages. -/
def OperationId.text (i : OperationId) : String :=
  "operation #" ++ toString i.index

/-- The kinds of operations. -/
inductive OperationKind
  | train
  | aggregate
  | test
  deriving DecidableEq, Repr, Inhabited

/-- The name of a kind. -/
def OperationKind.name : OperationKind → String
  | .train => "train"
  | .aggregate => "aggregate"
  | .test => "test"

/-! ## References -/

/-- What a node learned in a training; only operations on the same node may use it. -/
structure LocalStateRef where
  producer : OperationId
  node : ParticipantId
  deriving DecidableEq, Inhabited

/-- The state that an aggregation computed for all nodes. -/
structure SharedStateRef where
  producer : OperationId
  deriving DecidableEq, Inhabited

/-- What a training shares, before it has been aggregated. -/
structure SharedPayload where
  producer : OperationId
  node : ParticipantId
  deriving DecidableEq, Inhabited

/-- How a local state is referred to in messages. -/
def LocalStateRef.text (r : LocalStateRef) : String :=
  "local state of " ++ r.node.text ++ " from " ++ r.producer.text

/-- How a shared state is referred to in messages. -/
def SharedStateRef.text (r : SharedStateRef) : String :=
  "shared state from " ++ r.producer.text

/-! ## Operations -/

/-- A result that an operation consumes. -/
inductive OperationInput
  /-- What the same node learned before. -/
  | localState (state : LocalStateRef)
  /-- The state that all nodes share. -/
  | sharedState (state : SharedStateRef)
  /-- What a training shared, to be aggregated. -/
  | payload (payload : SharedPayload)
  deriving DecidableEq

namespace OperationInput

/-- The operation that produces the input. -/
def producer : OperationInput → OperationId
  | .localState s => s.producer
  | .sharedState s => s.producer
  | .payload p => p.producer

/-- The kind of operation that has to produce the input. -/
def producerKind : OperationInput → OperationKind
  | .localState _ => .train
  | .sharedState _ => .aggregate
  | .payload _ => .train

end OperationInput

/-- What an operation does. -/
inductive OperationPayload
  /-- Train an algorithm on samples of a dataset. -/
  | train (algorithm : Algorithm) (dataset : DatasetKey) (samples : List SampleKey)
  /-- Aggregate what several trainings shared. -/
  | aggregate (function : AggregationFunction)
  /-- Score what was learned on samples of a dataset. -/
  | test (dataset : DatasetKey) (samples : List SampleKey) (metrics : List MetricKey)

/-- The kind of an operation that does this. -/
def OperationPayload.kind : OperationPayload → OperationKind
  | .train .. => .train
  | .aggregate .. => .aggregate
  | .test .. => .test

/-- An operation of a graph. -/
structure Operation where
  /-- The position of the operation in its graph. -/
  id : OperationId
  /-- The key of the task that the operation becomes. -/
  key : TaskKey
  /-- The node that the operation runs on. -/
  node : ParticipantId
  /-- The round that the operation belongs to. -/
  round : Round
  /-- What the operation consumes, in order. -/
  inputs : List OperationInput
  /-- What the operation does. -/
  payload : OperationPayload

/-- The kind of an operation. -/
def Operation.kind (op : Operation) : OperationKind :=
  op.payload.kind

/-- The operations that an operation depends on, in the order of its inputs. -/
def Operation.parents (op : Operation) : List OperationId :=
  op.inputs.map OperationInput.producer

end Federation
