import Federation.Experiment

/-!
# Watching a plan

Whoever waits for a plan asks the backend for its status, sleeps when it is not at its end, and asks
again. When the plan is done its scores are fetched. Waiting ends early when somebody raises the
abort signal or when the time is over.

A watch is a machine that reacts to what happens around it. Each reaction may put one question to
the backend and may leave notices.

* `Watch.start` begins with a look at the signal, `Watch.react` is the reaction to an event;
* `Watch.raised_of_raised`: a raised signal stays raised;
* `Watch.watches_react`: a watch stays on its plan.
-/

namespace Federation

/-- A question to a backend about a plan. -/
inductive Question
  /-- What is the status of the plan? -/
  | status
  /-- What are its scores? -/
  | performances
  deriving DecidableEq, Repr

/-- What a watch is doing. -/
inductive WatchPhase
  /-- It has asked for the status. -/
  | asking
  /-- It sleeps until it asks again, or until the signal is raised. -/
  | sleeping
  /-- It has asked for the scores. -/
  | fetching
  /-- It is over. -/
  | over (result : Except ExperimentError (List Performance))

/-- A watch on a plan. -/
structure Watch where
  plan : PlanKey
  poll : PollSettings
  /-- Whether the abort signal is raised. -/
  raised : Bool
  phase : WatchPhase

/-- What happens around a watch. -/
inductive WatchEvent
  /-- The abort signal is raised. -/
  | raised
  /-- The backend answers the question about the status. -/
  | status (answer : Except BackendError PlanStatus)
  /-- The interval between two questions is over. -/
  | woken
  /-- The sleeper notices that the signal is raised. -/
  | noticed
  /-- The backend answers the question about the scores. -/
  | performances (answer : Except BackendError (List Performance))
  /-- The time is over. -/
  | expired

/-- What a watch does: its new state, a question, and notices. -/
structure Reaction where
  watch : Watch
  question : Option Question
  notices : List Notice

namespace Watch

/-- The watch ends with a result. -/
def stop (w : Watch) (result : Except ExperimentError (List Performance))
    (notices : List Notice) : Reaction :=
  ⟨{ w with phase := .over result }, none, notices⟩

/-- The watch looks at the signal, and asks for the status if it is not raised. -/
def ask (w : Watch) : Reaction :=
  if w.raised then w.stop (.error (.aborted w.plan)) []
  else ⟨{ w with phase := .asking }, some .status, []⟩

/-- The watch begins; the signal may have been raised before. -/
def start (plan : PlanKey) (poll : PollSettings) (raised : Bool) : Reaction :=
  ask ⟨plan, poll, raised, .asking⟩

/-- Nothing comes of an event. -/
def ignore (w : Watch) : Reaction :=
  ⟨w, none, []⟩

/-- The reaction to an answer about the status. -/
def hear (w : Watch) : Except BackendError PlanStatus → Reaction
  | .error e => w.stop (.error (.backend e)) []
  | .ok .done => ⟨{ w with phase := .fetching }, some .performances, [.planDone w.plan]⟩
  | .ok .failed => w.stop (.error (.executionFailed w.plan)) []
  | .ok .canceled => w.stop (.error (.canceled w.plan)) []
  | .ok status => ⟨{ w with phase := .sleeping }, none, [.planStatus w.plan status]⟩

/-- The reaction to an answer about the scores. -/
def receive (w : Watch) : Except BackendError (List Performance) → Reaction
  | .error e => w.stop (.error (.backend e)) []
  | .ok scores => w.stop (.ok scores) []

/-- Whether the watch is over. -/
def isOver (w : Watch) : Bool :=
  match w.phase with
  | .over _ => true
  | _ => false

/-- The reaction to the end of the time. -/
def expire (w : Watch) : Reaction :=
  match w.poll.timeout with
  | some seconds => w.stop (.error (.pollTimeout w.plan)) [.waitExpired w.plan seconds]
  | none => w.ignore

/-- The reaction to an event. An event that does not fit what the watch is doing is ignored, but the
signal can be raised at any time. -/
def react (w : Watch) (event : WatchEvent) : Reaction :=
  match w.phase, event with
  | .over _, _ => w.ignore
  | _, .raised => { w with raised := true }.ignore
  | _, .expired => w.expire
  | .asking, .status answer => w.hear answer
  | .sleeping, .woken => w.ask
  | .sleeping, .noticed =>
    if w.raised then w.stop (.error (.aborted w.plan)) [.stoppedWaiting w.plan] else w.ignore
  | .fetching, .performances answer => w.receive answer
  | _, _ => w.ignore

theorem raised_ask (w : Watch) : w.ask.watch.raised = w.raised := by
  unfold ask
  split <;> rfl

theorem raised_hear (w : Watch) (answer : Except BackendError PlanStatus) :
    (w.hear answer).watch.raised = w.raised := by
  unfold hear
  split <;> rfl

theorem raised_receive (w : Watch) (answer : Except BackendError (List Performance)) :
    (w.receive answer).watch.raised = w.raised := by
  cases answer <;> rfl

theorem raised_expire (w : Watch) : w.expire.watch.raised = w.raised := by
  unfold expire
  split <;> rfl

/-- A raised signal stays raised. -/
theorem raised_of_raised {w : Watch} (h : w.raised = true) (event : WatchEvent) :
    (w.react event).watch.raised = true := by
  unfold react
  split
  · exact h
  · rfl
  · exact (raised_expire w).trans h
  · exact (raised_hear w _).trans h
  · exact (raised_ask w).trans h
  · split <;> exact h
  · exact (raised_receive w _).trans h
  · exact h

/-- A watch stays on its plan, at its pace. -/
theorem watches_react (w : Watch) (event : WatchEvent) :
    (w.react event).watch.plan = w.plan ∧ (w.react event).watch.poll = w.poll := by
  unfold react
  split
  · exact ⟨rfl, rfl⟩
  · exact ⟨rfl, rfl⟩
  · unfold expire
    split <;> exact ⟨rfl, rfl⟩
  · unfold hear
    split <;> exact ⟨rfl, rfl⟩
  · unfold ask
    split <;> exact ⟨rfl, rfl⟩
  · split <;> exact ⟨rfl, rfl⟩
  · unfold receive
    split <;> exact ⟨rfl, rfl⟩
  · exact ⟨rfl, rfl⟩

end Watch

/-! ## Submitting and waiting -/

/-- A plan that was submitted. -/
structure PlanHandle where
  plan : PlanKey
  tag : String
  numTasks : Nat
  deriving DecidableEq

/-- The plan that an experiment submits at the given time, with the handle that it gets under a
key. -/
def Experiment.submission (e : Experiment) (now : Timestamp) :
    Except ExperimentError (Plan × (PlanKey → PlanHandle)) :=
  (e.compile now).map fun p => (p, fun key => ⟨key, p.tag, p.size⟩)

/-- What comes of submitting a plan: a handle and a notice, or an error. -/
def PlanHandle.ofSubmission (handle : PlanKey → PlanHandle) :
    Except BackendError PlanKey → Except ExperimentError (PlanHandle × Notice)
  | .error e => .error (.backend e)
  | .ok key => .ok (handle key, .planSubmitted key (handle key).numTasks)

end Federation
