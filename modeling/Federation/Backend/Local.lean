import Federation.Attempt
import Federation.Backend.Execution
import Federation.Plan.Admission

/-!
# The local backend

A local backend keeps a record of each accepted plan: its status, its scores, whether its
cancellation was asked for, and how far its execution has come. Everything that happens is a small
step: an execution advances by setting the status to running, by looking whether the plan was
canceled, by running one task, or by setting the final status; and between any two such steps plans
may be submitted, canceled and asked about.

* `LocalBackend.submit`, `LocalBackend.cancel`, `LocalBackend.advance` are the steps that change a
  record, and `LocalBackend.step` is one of them with the event that causes it;
* `Record.setStatus_of_terminal`: a terminal status is never changed;
* `LocalBackend.get?_advance_of_ne`: a step of one plan leaves every other plan alone.
-/

namespace Federation

/-- How far the execution of a plan has come. -/
inductive Stage
  /-- The plan was accepted and nothing has happened yet. -/
  | accepted (plan : Plan)
  /-- Between two tasks, before looking whether the plan was canceled. -/
  | between (x : Execution)
  /-- The plan was not canceled, and the next task is about to run. -/
  | calling (x : Execution) (t : Task) (rest : List Task)
  /-- The execution is over, and the final status is about to be set. -/
  | reporting (outcome : PlanOutcome)
  /-- The final status has been set. -/
  | finished

/-- What a backend knows about a plan. -/
structure Record where
  status : PlanStatus
  performances : List Performance
  /-- Whether the execution shall stop before its next task. -/
  canceled : Bool
  stage : Stage

namespace Record

/-- The record of a plan that was just accepted. -/
def accepted (p : Plan) : Record :=
  ⟨.waiting, [], false, .accepted p⟩

/-- Sets the status and the scores, unless the status is terminal. -/
def setStatus (r : Record) (key : PlanKey) (status : PlanStatus) (scores : List Performance) :
    Record × List Notice :=
  if r.status.isTerminal then (r, [])
  else ({ r with status := status, performances := scores }, [.planStatus key status])

theorem setStatus_of_terminal (r : Record) (key : PlanKey) (status : PlanStatus)
    (scores : List Performance) (h : r.status.isTerminal = true) :
    r.setStatus key status scores = (r, []) := by
  simp [setStatus, h]

/-- The call that the next step makes, if it is the run of a task that makes one. -/
def call? (r : Record) : Option Call :=
  match r.stage with
  | .calling x t _ => (x.store.runTask t).call?
  | _ => none

/-- Whether the execution is over and has reported. -/
def isFinished (r : Record) : Bool :=
  match r.stage with
  | .finished => true
  | _ => false

/-- The stage after looking whether the plan was canceled. -/
def afterCheck (r : Record) (x : Execution) : Stage :=
  match x.remaining with
  | [] => .reporting (.done x.scores)
  | t :: rest => if r.canceled then .reporting .canceled else .calling x t rest

/-- The stage after running a task. -/
def afterTask (x : Execution) (answers : Answers) (t : Task) (rest : List Task) : Stage :=
  match x.runNext answers t rest with
  | .ok x => .between x
  | .error f => .reporting (.ofFailure f)

/-- The next step of the execution. -/
def advance (r : Record) (key : PlanKey) (answers : Answers) : Record × List Notice :=
  match r.stage with
  | .accepted p =>
    let (r, notices) := r.setStatus key .running []
    ({ r with stage := .between (.start p) }, notices)
  | .between x => ({ r with stage := r.afterCheck x }, [])
  | .calling x t rest =>
    ({ r with stage := afterTask x answers t rest }, [.runningTask t.kind t.key t.worker])
  | .reporting outcome =>
    let (r, notices) := r.setStatus key outcome.status outcome.scores
    ({ r with stage := .finished }, outcome.notice key :: notices)
  | .finished => (r, [])

end Record

/-- A backend that runs plans itself. -/
structure LocalBackend where
  records : Table PlanKey Record

namespace LocalBackend

/-- A backend without plans. -/
def empty : LocalBackend :=
  ⟨.empty⟩

/-- What is known about a plan. -/
def get? (b : LocalBackend) (key : PlanKey) : Option Record :=
  b.records.get? key

/-- What is known about a plan, or an error. -/
def record (b : LocalBackend) (key : PlanKey) : Except BackendError Record :=
  match b.get? key with
  | some r => .ok r
  | none => .error (.unknownPlan key)

/-- Changes what is known about a plan. -/
def put (b : LocalBackend) (key : PlanKey) (r : Record) : LocalBackend :=
  ⟨b.records.insert key r⟩

/-- Accepts a plan under a key, with a notice, or rejects it. -/
def submit (b : LocalBackend) (key : PlanKey) (p : Plan) :
    Attempt LocalBackend BackendError (List Notice) :=
  match p.fault? with
  | some fault => ⟨b, .error (.rejected fault.reason)⟩
  | none => ⟨b.put key (.accepted p), .ok [.planAccepted key p.tag p.size]⟩

/-- Asks for the cancellation of a plan. Says whether the plan had not come to its end. -/
def cancel (b : LocalBackend) (key : PlanKey) : Attempt LocalBackend BackendError Bool :=
  match b.record key with
  | .error e => ⟨b, .error e⟩
  | .ok r =>
    if r.status.isTerminal then ⟨b, .ok false⟩
    else ⟨b.put key { r with canceled := true, status := .canceled }, .ok true⟩

/-- The status of a plan. -/
def status (b : LocalBackend) (key : PlanKey) : Except BackendError PlanStatus :=
  (b.record key).map Record.status

/-- The scores of a plan. -/
def performances (b : LocalBackend) (key : PlanKey) : Except BackendError (List Performance) :=
  (b.record key).map Record.performances

/-- The call that the next step of a plan makes. -/
def call? (b : LocalBackend) (key : PlanKey) : Option Call :=
  (b.get? key).bind Record.call?

/-- The next step of the execution of a plan. -/
def advance (b : LocalBackend) (key : PlanKey) (answers : Answers) : LocalBackend × List Notice :=
  match b.get? key with
  | none => (b, [])
  | some r =>
    let (r, notices) := r.advance key answers
    (b.put key r, notices)

/-- Whether the execution of a plan is over, or there is no such plan. -/
def isFinished (b : LocalBackend) (key : PlanKey) : Bool :=
  match b.get? key with
  | none => true
  | some r => r.isFinished

/-! ## Histories -/

/-- What may happen to a backend. -/
inductive Event
  /-- A plan is submitted; it gets the key if it is accepted. -/
  | submit (key : PlanKey) (plan : Plan)
  /-- The execution of a plan makes a step; a call of an algorithm is answered as given. -/
  | advance (key : PlanKey) (answers : Answers)
  /-- The cancellation of a plan is asked for. -/
  | cancel (key : PlanKey)
  /-- The status or the scores of a plan are asked for. -/
  | read (key : PlanKey)

/-- The backend after an event. -/
def step (b : LocalBackend) : Event → LocalBackend
  | .submit key p => (b.submit key p).state
  | .advance key answers => (b.advance key answers).1
  | .cancel key => (b.cancel key).state
  | .read _ => b

/-- The backend after a history of events. -/
def after (b : LocalBackend) (history : List Event) : LocalBackend :=
  history.foldl step b

theorem get?_put (b : LocalBackend) (key key' : PlanKey) (r : Record) :
    (b.put key' r).get? key = if key = key' then some r else b.get? key :=
  Table.get?_insert b.records key key' r

theorem get?_advance_of_ne (b : LocalBackend) {key key' : PlanKey} (answers : Answers)
    (h : key ≠ key') : (b.advance key' answers).1.get? key = b.get? key := by
  unfold advance
  split
  · rfl
  · simp [get?_put, h]

end LocalBackend

end Federation
