import Federation.Graph.Basic

/-!
# Tasks

A task is an operation as a backend sees it: it names what it consumes by the keys of other tasks,
so that it needs no graph to be understood. Its rank is the position of the operation.

* `Task.ofOperation` describes an operation as a task;
* `Task.inputs` lists the keys that a task names, in the order in which they are consumed.
-/

namespace Federation

/-- A training. -/
structure TrainTask where
  key : TaskKey
  rank : Nat
  round : Round
  worker : ParticipantId
  algorithm : Algorithm
  dataset : DatasetKey
  samples : List SampleKey
  /-- The training whose local state this one starts from. -/
  start : Option TaskKey
  /-- The aggregation whose state this one starts from. -/
  shared : Option TaskKey

/-- An aggregation. -/
structure AggregateTask where
  key : TaskKey
  rank : Nat
  round : Round
  worker : ParticipantId
  function : AggregationFunction
  /-- The trainings whose shared states are aggregated, in order. -/
  models : List TaskKey

/-- A test. -/
structure TestTask where
  key : TaskKey
  rank : Nat
  round : Round
  worker : ParticipantId
  /-- The training whose local state is scored. -/
  model : TaskKey
  dataset : DatasetKey
  samples : List SampleKey
  metrics : List MetricKey

/-- A task of any kind. -/
inductive Task
  | train (t : TrainTask)
  | aggregate (t : AggregateTask)
  | test (t : TestTask)

namespace Task

/-- The key of a task. -/
def key : Task → TaskKey
  | .train t => t.key
  | .aggregate t => t.key
  | .test t => t.key

/-- The rank of a task. -/
def rank : Task → Nat
  | .train t => t.rank
  | .aggregate t => t.rank
  | .test t => t.rank

/-- The member that runs a task. -/
def worker : Task → ParticipantId
  | .train t => t.worker
  | .aggregate t => t.worker
  | .test t => t.worker

/-- The kind of a task. -/
def kind : Task → OperationKind
  | .train _ => .train
  | .aggregate _ => .aggregate
  | .test _ => .test

/-- The keys of the tasks whose outputs a task consumes, in order and with repetitions. -/
def inputs : Task → List TaskKey
  | .train t => t.start.toList ++ t.shared.toList
  | .aggregate t => t.models
  | .test t => [t.model]

/-! ## From operations -/

/-- The key of the task that an operation becomes, for use by the given operation. -/
def keyOf (g : Graph) (user producer : OperationId) : Except GraphError TaskKey :=
  match g.get? producer with
  | some op => .ok op.key
  | none => .error (.forwardReference user producer)

/-- The keys of all producers, in order. -/
def keysOf (g : Graph) (user : OperationId) : List OperationId → Except GraphError (List TaskKey)
  | [] => .ok []
  | id :: rest =>
    match keyOf g user id with
    | .error e => .error e
    | .ok key =>
      match keysOf g user rest with
      | .error e => .error e
      | .ok keys => .ok (key :: keys)

/-- What a training starts from: the keys of its local and of its shared state, the last of each
kind; payloads do not matter. -/
def startsOf (g : Graph) (user : OperationId) (start shared : Option TaskKey) :
    List OperationInput → Except GraphError (Option TaskKey × Option TaskKey)
  | [] => .ok (start, shared)
  | .localState s :: rest =>
    match keyOf g user s.producer with
    | .error e => .error e
    | .ok key => startsOf g user (some key) shared rest
  | .sharedState s :: rest =>
    match keyOf g user s.producer with
    | .error e => .error e
    | .ok key => startsOf g user start (some key) rest
  | .payload _ :: rest => startsOf g user start shared rest

/-- The producer of the first local state among inputs. -/
def firstLocal? : List OperationInput → Option OperationId
  | [] => none
  | .localState s :: _ => some s.producer
  | _ :: rest => firstLocal? rest

/-- Describes an operation of a graph as a task. A test needs a local state to score. -/
def ofOperation (op : Operation) (g : Graph) : Except GraphError Task :=
  match op.payload with
  | .train algorithm dataset samples =>
    match startsOf g op.id none none op.inputs with
    | .error e => .error e
    | .ok (start, shared) =>
      .ok (.train ⟨op.key, op.id.index, op.round, op.node, algorithm, dataset, samples, start,
        shared⟩)
  | .aggregate function =>
    match keysOf g op.id op.parents with
    | .error e => .error e
    | .ok models =>
      .ok (.aggregate ⟨op.key, op.id.index, op.round, op.node, function, models⟩)
  | .test dataset samples metrics =>
    match firstLocal? op.inputs with
    | none => .error (.kindMismatch op.id .train .test)
    | some producer =>
      match keyOf g op.id producer with
      | .error e => .error e
      | .ok model =>
        .ok (.test ⟨op.key, op.id.index, op.round, op.node, model, dataset, samples, metrics⟩)

theorem keyOf_eq_ok_iff (g : Graph) (user producer : OperationId) (key : TaskKey) :
    keyOf g user producer = .ok key ↔ ∃ op, g.get? producer = some op ∧ op.key = key := by
  unfold keyOf
  cases g.get? producer with
  | none => simp
  | some op => simp

end Task

end Federation
