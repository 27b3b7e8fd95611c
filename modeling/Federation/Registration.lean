import Federation.Graph.Draft

/-!
# Registering operations on nodes

The nodes of a federation train, test or aggregate. To register an operation on a node is pure
bookkeeping: the operation is added to the draft of the graph, and then its position joins the queue
of the node. A registration leaves a draft and a node behind, whether or not it succeeds.

* `Draft.register`: what all registrations do;
* `TrainNode.registerTrain`, `TestNode.registerTest`, `AggregationNode.registerAggregate`: the three
  kinds, each with what its node objects to and the references that it gives.
-/

namespace Federation

/-- Why an operation cannot be registered on a node. -/
inductive NodeError
  /-- A local state belongs to another node. -/
  | scopeViolation (node owner : ParticipantId)
  /-- There is nothing to aggregate. -/
  | emptyAggregationInput
  /-- The operation cannot be part of the graph. -/
  | graph (e : GraphError)
  deriving DecidableEq

/-- What is said about an operation that cannot be registered. -/
def NodeError.message : NodeError → String
  | .scopeViolation node owner =>
    "node " ++ node.text ++ " cannot consume a state of node " ++ owner.text
  | .emptyAggregationInput => "cannot aggregate an empty sequence of shared states"
  | .graph e => e.message

/-- A member that trains on its data. -/
structure TrainNode where
  id : ParticipantId
  dataset : DatasetKey
  samples : List SampleKey
  /-- The operations registered on the node, in order. -/
  operations : Array OperationId

/-- A member that tests on its data. -/
structure TestNode where
  id : ParticipantId
  dataset : DatasetKey
  samples : List SampleKey
  metrics : List MetricKey
  /-- The operations registered on the node, in order. -/
  operations : Array OperationId

/-- The member that aggregates; it holds no data. -/
structure AggregationNode where
  id : ParticipantId
  /-- The operations registered on the node, in order. -/
  operations : Array OperationId

/-- A node that trains, without operations. -/
def TrainNode.new (id : ParticipantId) (dataset : DatasetKey) (samples : List SampleKey) :
    TrainNode :=
  ⟨id, dataset, samples, #[]⟩

/-- A node that tests, without operations. -/
def TestNode.new (id : ParticipantId) (dataset : DatasetKey) (samples : List SampleKey)
    (metrics : List MetricKey) : TestNode :=
  ⟨id, dataset, samples, metrics, #[]⟩

/-- A node that aggregates, without operations. -/
def AggregationNode.new (id : ParticipantId) : AggregationNode :=
  ⟨id, #[]⟩

/-- Forgets the operations. -/
def TrainNode.clear (n : TrainNode) : TrainNode :=
  { n with operations := #[] }

/-- Forgets the operations. -/
def TestNode.clear (n : TestNode) : TestNode :=
  { n with operations := #[] }

/-- Forgets the operations. -/
def AggregationNode.clear (n : AggregationNode) : AggregationNode :=
  { n with operations := #[] }

/-- What is wrong with the use of a local state on a node, if it belongs to another one. -/
def scopeFault? (node : ParticipantId) (state : LocalStateRef) : Option NodeError :=
  if node = state.node then none else some (.scopeViolation node state.node)

/-- Registers an operation on a node, unless the node objects: the operation is added to the draft,
and then its position joins the queue of the node. -/
def Draft.register {ν ρ : Type} (d : Draft) (n : ν) (objection : Option NodeError)
    (node : ParticipantId) (round : Round) (inputs : List OperationInput)
    (payload : OperationPayload) (queue : OperationId → ν) (result : OperationId → ρ) :
    Attempt (Draft × ν) NodeError ρ :=
  match objection with
  | some e => ⟨(d, n), .error e⟩
  | none =>
    match d.push node round inputs payload with
    | ⟨d, .error e⟩ => ⟨(d, n), .error (.graph e)⟩
    | ⟨d, .ok id⟩ => ⟨(d, queue id), .ok (result id)⟩

/-- What a training gives: the local state and the payload to aggregate. -/
structure Trained where
  state : LocalStateRef
  payload : SharedPayload
  deriving DecidableEq

namespace TrainNode

/-- The inputs of a training: what the node learned before, then the state that all share. -/
def trainInputs (start : Option LocalStateRef) (shared : Option SharedStateRef) :
    List OperationInput :=
  (start.map OperationInput.localState).toList ++ (shared.map OperationInput.sharedState).toList

/-- The node with one more operation in its queue. -/
def queue (n : TrainNode) (id : OperationId) : TrainNode :=
  { n with operations := n.operations.push id }

/-- What a training gives that is registered at a position. -/
def trained (n : TrainNode) (id : OperationId) : Trained :=
  ⟨⟨id, n.id⟩, ⟨id, n.id⟩⟩

/-- Registers a training of an algorithm on the node's data. -/
def registerTrain (n : TrainNode) (d : Draft) (algorithm : Algorithm) (round : Round)
    (shared : Option SharedStateRef) (start : Option LocalStateRef) :
    Attempt (Draft × TrainNode) NodeError Trained :=
  d.register n (start.bind (scopeFault? n.id)) n.id round (trainInputs start shared)
    (.train algorithm n.dataset n.samples) n.queue n.trained

end TrainNode

namespace TestNode

/-- The node with one more operation in its queue. -/
def queue (n : TestNode) (id : OperationId) : TestNode :=
  { n with operations := n.operations.push id }

/-- Registers a test of a local state on the node's data. -/
def registerTest (n : TestNode) (d : Draft) (state : LocalStateRef) (round : Round) :
    Attempt (Draft × TestNode) NodeError OperationId :=
  d.register n (scopeFault? n.id state) n.id round [.localState state]
    (.test n.dataset n.samples n.metrics) n.queue fun position => position

end TestNode

namespace AggregationNode

/-- The node with one more operation in its queue. -/
def queue (n : AggregationNode) (id : OperationId) : AggregationNode :=
  { n with operations := n.operations.push id }

/-- What is wrong with an aggregation of nothing. -/
def emptyFault? (payloads : List SharedPayload) : Option NodeError :=
  if payloads.isEmpty then some .emptyAggregationInput else none

/-- Registers an aggregation of payloads, in the given order. -/
def registerAggregate (n : AggregationNode) (d : Draft) (function : AggregationFunction)
    (payloads : List SharedPayload) (round : Round) :
    Attempt (Draft × AggregationNode) NodeError SharedStateRef :=
  d.register n (emptyFault? payloads) n.id round (payloads.map .payload) (.aggregate function)
    n.queue SharedStateRef.mk

end AggregationNode

end Federation
