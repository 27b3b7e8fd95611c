import Federation.Backend.Report
import Federation.Graph.Operation

/-!
# Notices

What a federation reports about its own work while it goes on: a notice for each thing that
happens, with a level, a text, and the error behind it if there is one. Notices are kept in the
order in which things happen.

* `Notice.level`, `Notice.text`, `Notice.error`: how a notice reads.
-/

namespace Federation

/-- How much a notice matters. -/
inductive NoticeLevel
  | debug
  | info
  | warn
  deriving DecidableEq, Repr

/-- The name of a level. -/
def NoticeLevel.name : NoticeLevel → String
  | .debug => "DEBUG"
  | .info => "INFO"
  | .warn => "WARN"

/-- The rank of a level: a higher one matters more. -/
def NoticeLevel.rank : NoticeLevel → Nat
  | .debug => 0
  | .info => 1
  | .warn => 2

/-- Something that happened. -/
inductive Notice
  /-- A round is being registered. -/
  | performingRound (round : Round)
  /-- An operation is being registered. -/
  | registering (kind : OperationKind) (id : OperationId) (round : Round) (node : ParticipantId)
  /-- The evaluation of a round is being registered. -/
  | evaluating (round : Round)
  /-- The test of a local state, of the round it comes from, is being registered on a node. -/
  | testing (state : LocalStateRef) (round : Round) (node : ParticipantId)
  /-- All rounds of an experiment are registered. -/
  | graphBuilt (operations : Nat) (rounds : Round)
  /-- A backend accepted a plan. -/
  | planAccepted (plan : PlanKey) (tag : String) (tasks : Nat)
  /-- An experiment was submitted. -/
  | planSubmitted (plan : PlanKey) (tasks : Nat)
  /-- A plan has a status, as set or as seen. -/
  | planStatus (plan : PlanKey) (status : PlanStatus)
  /-- A task is about to run. -/
  | runningTask (kind : OperationKind) (task : TaskKey) (worker : ParticipantId)
  /-- A plan has been executed to its end, or was seen to be. -/
  | planDone (plan : PlanKey)
  /-- The execution of a plan stopped because the plan was canceled. -/
  | planCanceled (plan : PlanKey)
  /-- The execution of a plan failed. -/
  | planFailed (plan : PlanKey) (error : ExecutionError)
  /-- The execution of a plan crashed. -/
  | planCrashed (plan : PlanKey)
  /-- Somebody asked to stop waiting. -/
  | abortRequested
  /-- Waiting for a plan was given up because somebody asked for it. -/
  | stoppedWaiting (plan : PlanKey)
  /-- Waiting for a plan was given up after a time in seconds. -/
  | waitExpired (plan : PlanKey) (seconds : UInt64)

/-- A duration of whole seconds. -/
def secondsText (seconds : UInt64) : String :=
  if seconds = 0 then "0ns" else toString seconds.toNat ++ "s"

namespace Notice

/-- The level of a notice. -/
def level : Notice → NoticeLevel
  | .registering .. | .testing .. | .planStatus .. | .runningTask .. | .abortRequested => .debug
  | .performingRound _ | .evaluating _ | .graphBuilt .. | .planAccepted .. | .planSubmitted ..
  | .planDone _ | .planCanceled _ | .stoppedWaiting _ => .info
  | .planFailed .. | .planCrashed _ | .waitExpired .. => .warn

/-- The text of a notice. -/
def text : Notice → String
  | .performingRound round =>
    "performing round " ++ toString round ++ " of federated averaging"
  | .registering kind id round node =>
    "registering " ++ kind.name ++ " " ++ id.text ++ " of round " ++ toString round ++ " on " ++
      node.text
  | .evaluating round => "registering the evaluation of round " ++ toString round
  | .testing state round node =>
    "testing " ++ state.text ++ " of round " ++ toString round ++ " on " ++ node.text
  | .graphBuilt operations rounds =>
    "operation graph built with " ++ toString operations ++ " operations over " ++
      toString rounds ++ " rounds"
  | .planAccepted plan tag tasks =>
    "compute plan " ++ plan.text ++ " (" ++ tag ++ ") accepted with " ++ toString tasks ++ " tasks"
  | .planSubmitted plan tasks =>
    "compute plan " ++ plan.text ++ " submitted with " ++ toString tasks ++ " tasks"
  | .planStatus plan status => "compute plan " ++ plan.text ++ " is " ++ status.name
  | .runningTask kind task worker =>
    "running " ++ kind.name ++ " task " ++ task.text ++ " on " ++ worker.text
  | .planDone plan => "compute plan " ++ plan.text ++ " done"
  | .planCanceled plan => "compute plan " ++ plan.text ++ " canceled"
  | .planFailed plan _ => "compute plan " ++ plan.text ++ " failed"
  | .planCrashed plan => "compute plan " ++ plan.text ++ " panicked"
  | .abortRequested => "abort requested"
  | .stoppedWaiting plan => "stopped waiting for compute plan " ++ plan.text
  | .waitExpired plan seconds =>
    "compute plan " ++ plan.text ++ " did not complete in " ++ secondsText seconds

/-- The error behind a notice. -/
def error : Notice → Option String
  | .planFailed _ e => some e.message
  | _ => none

end Notice

end Federation
