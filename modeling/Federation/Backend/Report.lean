import Federation.Algorithm

/-!
# What a backend reports

The status of a submitted plan, the scores of its test tasks, and the errors of the backend and of
the execution of a plan.

* `PlanStatus.isTerminal_iff`: a plan is at its end when it is done, failed or canceled.
-/

namespace Federation

/-- The status of a submitted plan. -/
inductive PlanStatus
  | waiting
  | running
  | done
  | failed
  | canceled
  deriving DecidableEq, Repr, Inhabited

namespace PlanStatus

/-- The name of a status. -/
def name : PlanStatus → String
  | .waiting => "waiting"
  | .running => "running"
  | .done => "done"
  | .failed => "failed"
  | .canceled => "canceled"

/-- All statuses, in the order of a plan's life. -/
def all : List PlanStatus :=
  [.waiting, .running, .done, .failed, .canceled]

/-- Whether the plan makes no more progress. -/
def isTerminal : PlanStatus → Bool
  | .done | .failed | .canceled => true
  | .waiting | .running => false

theorem isTerminal_iff (s : PlanStatus) :
    s.isTerminal = true ↔ s = .done ∨ s = .failed ∨ s = .canceled := by
  cases s <;> simp [isTerminal]

end PlanStatus

/-- The score of a test task. -/
structure Performance where
  task : TaskKey
  worker : ParticipantId
  round : Round
  value : Float
  deriving Inhabited

/-- The scores of a round among several. -/
def performancesOfRound (ps : List Performance) (round : Round) : List Performance :=
  ps.filter fun p => p.round = round

/-- The errors of a backend. -/
inductive BackendError
  /-- The plan was not accepted. -/
  | rejected (reason : String)
  /-- There is no plan with this key. -/
  | unknownPlan (plan : PlanKey)
  /-- The backend does not answer. -/
  | unavailable (reason : String)
  deriving DecidableEq

/-- What is said about an error of a backend. -/
def BackendError.message : BackendError → String
  | .rejected reason => "compute plan rejected: " ++ reason
  | .unknownPlan plan => "unknown compute plan " ++ plan.text
  | .unavailable reason => "backend unavailable: " ++ reason

/-- Why the execution of a plan ends before its last task is done. -/
inductive ExecutionError
  /-- The output of a task is not there. -/
  | missingInput (task : TaskKey)
  /-- The plan was canceled. -/
  | canceled
  /-- An algorithm failed. -/
  | algorithm (e : AlgorithmError)
  /-- An aggregation failed. -/
  | aggregation (e : AggregationError)
  deriving DecidableEq

/-- What is said about the end of an execution. -/
def ExecutionError.message : ExecutionError → String
  | .missingInput task => "the output of task " ++ task.text ++ " is not available"
  | .canceled => "the plan was canceled"
  | .algorithm e => e.message
  | .aggregation e => e.message

end Federation
