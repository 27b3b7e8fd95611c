import Federation.Notice
import Federation.Plan.Basic
import Federation.Table

/-!
# Execution of tasks

The tasks of a plan run one after the other. The outputs of trainings and aggregations are kept for
the tasks that consume them. It is counted beforehand how often each output will be consumed, and a
plan that cleans its models drops an output when nobody is left to consume it.

* `TaskRun`: the run of a task makes at most one call, and goes on with the reply to it;
* `Store.runTask` runs one task: it looks up what the task consumes, calls the algorithm, keeps the
  output, and counts off what was consumed;
* `Execution.run` runs all tasks against algorithms with a memory of their own.
-/

namespace Federation

/-- The outputs of a training: its algorithm, the local state, and the state to share. -/
structure TrainOutput where
  algorithm : Algorithm
  state : LocalState
  shared : SharedState Float

/-- The outputs of a plan's tasks. -/
structure Store where
  /-- Whether outputs are dropped when nobody is left to consume them. -/
  cleanModels : Bool
  /-- How often each output is still to be consumed. -/
  consumers : Table TaskKey Nat
  trained : Table TaskKey TrainOutput
  aggregated : Table TaskKey (AveragedState Float)

namespace Store

/-- Counts one more consumer of an output. -/
def countConsumer (t : Table TaskKey Nat) (key : TaskKey) : Table TaskKey Nat :=
  t.insert key ((t.get? key).getD 0 + 1)

/-- The store before the first of a plan's tasks, with all consumers counted. -/
def ofTasks (cleanModels : Bool) (tasks : List Task) : Store where
  cleanModels := cleanModels
  consumers := (tasks.flatMap Task.inputs).foldl countConsumer .empty
  trained := .empty
  aggregated := .empty

/-! ## What a task consumes -/

/-- The output of a training. -/
def training (s : Store) (key : TaskKey) : Except ExecutionError TrainOutput :=
  match s.trained.get? key with
  | some o => .ok o
  | none => .error (.missingInput key)

/-- The output of an aggregation. -/
def aggregation (s : Store) (key : TaskKey) : Except ExecutionError (AveragedState Float) :=
  match s.aggregated.get? key with
  | some a => .ok a
  | none => .error (.missingInput key)

/-- The local state that a training starts from, if it starts from one. -/
def startOf (s : Store) : Option TaskKey → Except ExecutionError (Option LocalState)
  | none => .ok none
  | some key => (s.training key).map fun o => some o.state

/-- The aggregated state that a training starts from, if it starts from one. -/
def sharedOf (s : Store) : Option TaskKey → Except ExecutionError (Option (AveragedState Float))
  | none => .ok none
  | some key => (s.aggregation key).map some

/-- The states that trainings shared, in the given order. -/
def sharedStates (s : Store) : List TaskKey → Except ExecutionError (List (SharedState Float))
  | [] => .ok []
  | key :: rest =>
    match s.training key with
    | .error e => .error e
    | .ok o => (s.sharedStates rest).map (o.shared :: ·)

/-- Both states that a training starts from. -/
def startsOf (s : Store) (t : TrainTask) :
    Except ExecutionError (Option LocalState × Option (AveragedState Float)) :=
  match s.startOf t.start with
  | .error e => .error e
  | .ok start => (s.sharedOf t.shared).map fun shared => (start, shared)

/-- Counts off one consumer of an output, and drops the output if it was the last one. -/
def consumed (s : Store) (key : TaskKey) : Store :=
  match s.consumers.get? key with
  | none => s
  | some count =>
    if count - 1 = 0 ∧ s.cleanModels then
      { s with
        consumers := s.consumers.erase key
        trained := s.trained.erase key
        aggregated := s.aggregated.erase key }
    else { s with consumers := s.consumers.insert key (count - 1) }

/-- Counts off the consumption of several outputs. -/
def consumedAll (s : Store) (keys : List TaskKey) : Store :=
  keys.foldl consumed s

/-! ## Running a task -/

/-- The failure of a call as a failure of the execution. -/
def algorithmFailure : Failure AlgorithmError → Failure ExecutionError
  | .error e => .error (.algorithm e)
  | .crash c => .crash c

/-- The failure of an aggregation as a failure of the execution. -/
def aggregationFailure : Failure AggregationError → Failure ExecutionError
  | .error e => .error (.aggregation e)
  | .crash c => .crash c

end Store

/-- The run of a task. It ends by itself, or it makes one call; a failure of the call is the end of
it, and otherwise it goes on with the answer. -/
inductive TaskRun (α : Type)
  | over (result : Except (Failure ExecutionError) α)
  | calls (c : Call) (resume : c.Answer → α)

/-- Algorithms with a memory: a reply to every call, and what they remember after it. -/
structure Execution.Responder (σ : Type) where
  reply : σ → Answers
  remember : σ → Call → σ

namespace TaskRun

variable {α β σ : Type}

/-- Changes what comes of a success. -/
def map (f : α → β) : TaskRun α → TaskRun β
  | .over result => .over (result.map f)
  | .calls c resume => .calls c fun answer => f (resume answer)

/-- The call that is made, if one is. -/
def call? : TaskRun α → Option Call
  | .over _ => none
  | .calls c _ => some c

/-- What the run comes to with the reply to its call. -/
def result (answers : Answers) : TaskRun α → Except (Failure ExecutionError) α
  | .over result => result
  | .calls c resume =>
    match answers c with
    | .error f => .error (Store.algorithmFailure f)
    | .ok answer => .ok (resume answer)

/-- What algorithms with a memory remember of the run, and what it comes to. -/
def on (a : Execution.Responder σ) (m : σ) (run : TaskRun α) :
    σ × Except (Failure ExecutionError) α :=
  (run.call?.elim m (a.remember m), run.result (a.reply m))

end TaskRun

namespace Store

/-- Runs a training. -/
def runTrain (s : Store) (t : TrainTask) : TaskRun Store :=
  match s.startsOf t with
  | .error e => .over (.error (.error e))
  | .ok (start, shared) =>
    .calls (.train t.algorithm t.samples start shared) fun (state, update) =>
      consumedAll { s with trained := s.trained.insert t.key ⟨t.algorithm, state, update⟩ }
        (t.start.toList ++ t.shared.toList)

/-- Runs an aggregation. -/
def runAggregate (s : Store) (t : AggregateTask) : Except (Failure ExecutionError) Store :=
  match s.sharedStates t.models with
  | .error e => .error (.error e)
  | .ok states =>
    match t.function.apply states with
    | .error f => .error (aggregationFailure f)
    | .ok averaged =>
      .ok (consumedAll { s with aggregated := s.aggregated.insert t.key averaged } t.models)

/-- Runs a test. -/
def runTest (s : Store) (t : TestTask) : TaskRun (Store × Performance) :=
  match s.training t.model with
  | .error e => .over (.error (.error e))
  | .ok o =>
    .calls (.score o.algorithm t.samples o.state) fun value =>
      (s.consumed t.model, ⟨t.key, t.worker, t.round, value⟩)

/-- Runs a task; a test gives a score. -/
def runTask (s : Store) : Task → TaskRun (Store × Option Performance)
  | .train t => (s.runTrain t).map (·, none)
  | .aggregate t => .over ((s.runAggregate t).map (·, none))
  | .test t => (s.runTest t).map fun r => (r.1, some r.2)

end Store

/-! ## Running a plan -/

/-- The execution of a plan between two of its tasks: the tasks that are left, the outputs that are
kept, and the scores so far. -/
structure Execution where
  remaining : List Task
  store : Store
  scores : List Performance

namespace Execution

/-- The execution of a plan before its first task. -/
def start (p : Plan) : Execution :=
  ⟨p.tasks, .ofTasks p.cleanModels p.tasks, []⟩

/-- Runs the given task, which is followed by the given ones. -/
def runNext (x : Execution) (answers : Answers) (t : Task) (rest : List Task) :
    Except (Failure ExecutionError) Execution :=
  ((x.store.runTask t).result answers).map fun r => ⟨rest, r.1, x.scores ++ r.2.toList⟩

/-- Runs tasks to the last one or to the first failure, and says what the algorithms remember. -/
def runTasks {σ : Type} (a : Responder σ) :
    List Task → σ → Store → List Performance →
      σ × Except (Failure ExecutionError) (List Performance)
  | [], m, _, scores => (m, .ok scores)
  | t :: rest, m, s, scores =>
    match (s.runTask t).on a m with
    | (m, .error f) => (m, .error f)
    | (m, .ok (s, score)) => runTasks a rest m s (scores ++ score.toList)

/-- Runs a plan without cancellation against algorithms with a memory. -/
def run {σ : Type} (a : Responder σ) (m : σ) (p : Plan) :
    σ × Except (Failure ExecutionError) (List Performance) :=
  runTasks a p.tasks m (.ofTasks p.cleanModels p.tasks) []

end Execution

/-- How the execution of a plan ends. -/
inductive PlanOutcome
  /-- All tasks are done. -/
  | done (scores : List Performance)
  /-- The plan was canceled between two tasks. -/
  | canceled
  /-- A task failed. -/
  | failed (e : ExecutionError)
  /-- A task crashed. -/
  | crashed

namespace PlanOutcome

/-- The outcome of a failure. -/
def ofFailure : Failure ExecutionError → PlanOutcome
  | .error e => .failed e
  | .crash _ => .crashed

/-- The status of a plan with this outcome. -/
def status : PlanOutcome → PlanStatus
  | .done _ => .done
  | .canceled => .canceled
  | .failed _ => .failed
  | .crashed => .failed

/-- The scores of a plan with this outcome. -/
def scores : PlanOutcome → List Performance
  | .done scores => scores
  | _ => []

/-- The notice of a plan with this outcome. -/
def notice (plan : PlanKey) : PlanOutcome → Notice
  | .done _ => .planDone plan
  | .canceled => .planCanceled plan
  | .failed e => .planFailed plan e
  | .crashed => .planCrashed plan

theorem isTerminal_status (o : PlanOutcome) : o.status.isTerminal = true := by
  cases o <;> rfl

end PlanOutcome

end Federation
