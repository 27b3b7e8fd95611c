import Federation.Rehearsal.Script
import Federation.Rehearsal.World
import Federation.Waiting.AbortChannel

/-!
# Waiting and running in a rehearsal

A plan is waited for on a local backend of the rehearsed world or on a scripted one, on a clock that
moves only when the world has nothing else to do. An experiment is run as a whole: it is built,
submitted and waited for.

* `World.waitFor` waits for a plan, `World.runExperiment` runs an experiment;
* `World.submitExperiment` submits one to a local backend and leaves it there.
-/

namespace Federation

/-- When and how somebody asks to stop waiting. -/
inductive AbortPlan
  /-- Nobody can. -/
  | never
  /-- Before the waiting begins. -/
  | before
  /-- After some milliseconds. -/
  | after (time : Nat)
  /-- Nobody can any more. -/
  | dropped

namespace AbortPlan

/-- The abort channel when the waiting begins. -/
def channel : AbortPlan → AbortChannel
  | .never => .never
  | .before => AbortChannel.opened.abort
  | .after _ => .opened
  | .dropped => AbortChannel.opened.drop

/-- Whether the signal is raised when the waiting begins. -/
def raised (abort : AbortPlan) : Bool :=
  abort.channel.raised

/-- When the signal will be raised. Whoever raises it sleeps before. -/
def time : AbortPlan → Option Nat
  | .after time => some (Timers.nap time)
  | _ => none

/-- Whether somebody holds the other end of the signal. -/
def abortable (abort : AbortPlan) : Bool :=
  abort.channel.held

end AbortPlan

/-- A backend of a rehearsal. -/
inductive RehearsedBackend
  /-- A local backend of the world, by its number. -/
  | inWorld (number : Nat)
  /-- A backend that follows a script. -/
  | scripted (script : Script)

/-- What comes of a wait: its result, when it was over, and the questions that were asked. -/
structure WaitReport where
  /-- The result, if the watch came to its end. -/
  result : Option (Except ExperimentError (List Performance))
  elapsed : Nat
  questions : List AskedQuestion

/-- The report of a timeline. -/
def WaitReport.ofTimeline {σ : Type} (t : Timeline σ) : WaitReport where
  result := match t.watch.phase with
    | .over result => some result
    | _ => none
  elapsed := t.now
  questions := t.questions.toList

namespace World

/-- A local backend as a watch sees it. -/
def localParty (number : Nat) : Party World where
  timers := .rehearsed
  status w plan := (⟨(w.backend number).status plan, 0, false⟩, w)
  performances w plan := ((w.backend number).performances plan, w)
  settle := settle
  busy w := !w.pending.isEmpty
  note := note

/-- A scripted backend as a watch sees it, beside a world that goes on when the clock moves. It has
no work of its own. The number counts the questions that were asked. -/
def scriptedParty (s : Script) : Party (World × Nat) where
  timers := .rehearsed
  status w _ :=
    let a := s.item w.2
    ({ a with delay := Timers.nap a.delay }, (w.1, w.2 + 1))
  performances w _ := (s.performances, w)
  settle w := (w.1.settle, w.2)
  busy _ := false
  note w notices := (w.1.note notices, w.2)

/-- The things that can happen to a watch on a local backend: every plan is at its end before the
second question. -/
def localHorizon : Nat :=
  16

/-- Waits for a plan, with a signal that was raised or not. -/
def watch (w : World) (b : RehearsedBackend) (plan : PlanKey) (poll : PollSettings)
    (abort : AbortPlan) : WaitReport × World :=
  match b with
  | .inWorld number =>
    let p := localParty number
    let t := Timeline.run p localHorizon
      (.start p w plan poll abort.raised abort.time abort.abortable)
    (.ofTimeline t, t.close p)
  | .scripted s =>
    let p := scriptedParty s
    let t := Timeline.run p (s.horizon poll abort.time)
      (.start p (w, 0) plan poll abort.raised abort.time abort.abortable)
    (.ofTimeline t, (t.close p).1)

/-- The world after the signal has been raised, if that happens before the waiting begins. -/
def beginWait (w : World) (abort : AbortPlan) : World :=
  if abort.raised then w.note [.abortRequested] else w

/-- The world after a time at which an abort is requested, though nobody waits. -/
def endWait (w : World) (abort : AbortPlan) : World :=
  match abort.time with
  | some time => (if 0 < time then w.settle else w).note [.abortRequested]
  | none => w

/-- Waits for a plan. -/
def waitFor (w : World) (b : RehearsedBackend) (plan : PlanKey) (poll : PollSettings)
    (abort : AbortPlan) : WaitReport × World :=
  (w.beginWait abort).watch b plan poll abort

/-! ## Experiments -/

/-- Builds an experiment. -/
def build (w : World) (e : Experiment) : Except ExperimentError Unit × Experiment × World :=
  let a := e.build w.recorder
  (a.outcome, a.state.1, { w with recorder := a.state.2 })

/-- Submits a plan to a backend. -/
def submitTo (w : World) (b : RehearsedBackend) (p : Plan) : Except BackendError PlanKey × World :=
  match b with
  | .inWorld number => w.submit number p
  | .scripted s => (s.submit, w)

/-- Submits a compiled experiment to a backend. -/
def submitCompiled (w : World) (b : RehearsedBackend) (p : Plan) (handle : PlanKey → PlanHandle) :
    Except ExperimentError PlanHandle × World :=
  let (answer, w) := w.submitTo b p
  match PlanHandle.ofSubmission handle answer with
  | .error e => (.error e, w)
  | .ok (handle, notice) => (.ok handle, w.note [notice])

/-- Submits a built experiment to a local backend, where it stays. -/
def submitExperiment (w : World) (number : Nat) (e : Experiment) (now : Timestamp) :
    Except ExperimentError PlanHandle × World :=
  match e.submission now with
  | .error err => (.error err, w)
  | .ok (p, handle) =>
    let (answer, w) := w.submitCompiled (.inWorld number) p handle
    match answer with
    | .error err => (.error err, w)
    | .ok handle => (.ok handle, w.remember number handle.plan)

/-- Submits a plan to a local backend, where it stays. -/
def submitPlan (w : World) (number : Nat) (p : Plan) : Except BackendError PlanHandle × World :=
  let (answer, w) := w.submit number p
  match answer with
  | .error err => (.error err, w)
  | .ok key => (.ok ⟨key, p.tag, p.size⟩, w.remember number key)

/-- What comes of running an experiment. -/
structure RunReport where
  /-- The plan that was given to the backend, if it came to that. -/
  submitted : Option Plan
  /-- The handle, if the backend accepted the plan. -/
  handle : Option PlanHandle
  /-- The result, if the run came to its end. -/
  result : Option (Except ExperimentError (List Performance))
  elapsed : Nat
  questions : List AskedQuestion

/-- The report of a run that ended before there was anything to wait for. -/
def RunReport.early (submitted : Option Plan) (e : ExperimentError) : RunReport :=
  ⟨submitted, none, some (.error e), 0, []⟩

/-- Runs an experiment: builds and compiles it, submits the plan, and waits for it. -/
def runExperiment (w : World) (e : Experiment) (b : RehearsedBackend) (now : Timestamp)
    (poll : PollSettings) (abort : AbortPlan) : RunReport × Experiment × World :=
  let (outcome, e, w) := (w.beginWait abort).build e
  match outcome with
  | .error err => (.early none err, e, w.endWait abort)
  | .ok () =>
    match e.submission now with
    | .error err => (.early none err, e, w.endWait abort)
    | .ok (p, handle) =>
      let (answer, w) := w.submitCompiled b p handle
      match answer with
      | .error err => (.early (some p) err, e, w.endWait abort)
      | .ok handle =>
        let (r, w) := w.watch b handle.plan poll abort
        (⟨some p, some handle, r.result, r.elapsed, r.questions⟩, e, w)

end World

end Federation
