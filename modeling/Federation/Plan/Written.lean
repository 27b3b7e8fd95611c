import Federation.Plan.Basic
import Federation.Stored

/-!
# Plans in JSON

How tasks and plans are written for a backend. A task is an object with its key, rank, round and
worker, and what its kind needs besides; a plan lists its tasks by kind.
-/

namespace Federation

/-- The description of an algorithm, written. -/
def AlgorithmDescription.written (d : AlgorithmDescription) : Json :=
  .object [("name", .text d.name), ("config", d.config)]

/-- Permissions, written. -/
def Permissions.written (p : Permissions) : Json :=
  .object
    [("public", .bool p.isPublic),
     ("authorized_ids", .list (p.authorized.map fun m => .text m.text))]

/-- Keys of samples, written. -/
def SampleKey.writtenAll (samples : List SampleKey) : Json :=
  .list (samples.map fun s => .text s.text)

/-- Keys of metrics, written. -/
def MetricKey.writtenAll (metrics : List MetricKey) : Json :=
  .list (metrics.map fun m => .text m.text)

/-- The key of a task, written. -/
def TaskKey.written (k : TaskKey) : Json :=
  .text k.text

/-- The key of a task or the null value, written. -/
def TaskKey.writtenOption : Option TaskKey → Json
  | some k => k.written
  | none => .null

/-- What the tasks of all kinds have. -/
def Task.commonMembers (key : TaskKey) (rank : Nat) (round : Round) (worker : ParticipantId) :
    List (String × Json) :=
  [("key", key.written), ("rank", .nat rank), ("round", .nat round.toNat),
   ("worker", .text worker.text)]

/-- The members of a training. -/
def TrainTask.members (t : TrainTask) : List (String × Json) :=
  Task.commonMembers t.key t.rank t.round t.worker ++
    [("algo", t.algorithm.description.written), ("dataset", .text t.dataset.text),
     ("data_samples", SampleKey.writtenAll t.samples),
     ("in_local", TaskKey.writtenOption t.start), ("in_shared", TaskKey.writtenOption t.shared)]

/-- The members of an aggregation. -/
def AggregateTask.members (t : AggregateTask) : List (String × Json) :=
  Task.commonMembers t.key t.rank t.round t.worker ++
    [("function", .text t.function.name), ("in_models", .list (t.models.map TaskKey.written))]

/-- The members of a test. -/
def TestTask.members (t : TestTask) : List (String × Json) :=
  Task.commonMembers t.key t.rank t.round t.worker ++
    [("in_model", t.model.written), ("dataset", .text t.dataset.text),
     ("data_samples", SampleKey.writtenAll t.samples),
     ("metrics", MetricKey.writtenAll t.metrics)]

/-- A task by itself, with its kind. -/
def Task.written : Task → Json
  | .train t => .object (("kind", .text OperationKind.train.name) :: t.members)
  | .aggregate t => .object (("kind", .text OperationKind.aggregate.name) :: t.members)
  | .test t => .object (("kind", .text OperationKind.test.name) :: t.members)

/-- A plan, written. -/
def Plan.written (p : Plan) : Json :=
  .object
    [("tag", .text p.tag), ("clean_models", .bool p.cleanModels),
     ("permissions", p.permissions.written),
     ("train_tasks", .list (p.trainTasks.map fun t => .object t.members)),
     ("aggregate_tasks", .list (p.aggregateTasks.map fun t => .object t.members)),
     ("test_tasks", .list (p.testTasks.map fun t => .object t.members))]

end Federation
