import Federation.Proofs.Polling
import Federation.Proofs.EndToEnd

/-!
# Running an experiment

To run an experiment is to build it, to submit its plan, and to wait for the plan. A backend is
anything that accepts or rejects plans and answers questions about them. What it is asked is read
off a log on its side.

* `Experiment.run`: running an experiment on any backend;
* `World.runExperiment_eq`: so experiments are run in a world;
* `Experiment.run_map`: a backend that keeps more, such as a log, is used in the same way;
* `Experiment.run_of_error`, `Experiment.run_of_rejected`, `Experiment.run_of_accepted`: what is
  asked of the backend, and what comes of it;
* `Experiment.run_submits_once`: the one submission of a run.
-/

namespace Federation

variable {σ τ : Type}

/-- A backend to which plans can be submitted. -/
structure Backend (σ : Type) extends Party σ where
  submit : Plan → σ → Except BackendError PlanKey × σ

/-- Runs an experiment: builds and compiles it, submits the plan, and waits for it, for as long as a
number of things happen. The backend begins when the experiment has been built. -/
def Experiment.run (e : Experiment) (b : Backend σ) (r : Recorder) (enter : Recorder → σ)
    (now : Timestamp) (poll : PollSettings) (raised : Bool) (abortAt : Option Nat)
    (abortable : Bool) (steps : Nat) : World.RunReport × Experiment × σ :=
  let a := e.build r
  let e := a.state.1
  let s := enter a.state.2
  match a.outcome with
  | .error err => (.early none err, e, s)
  | .ok () =>
    match e.submission now with
    | .error err => (.early none err, e, s)
    | .ok (p, handle) =>
      let (answer, s) := b.submit p s
      match PlanHandle.ofSubmission handle answer with
      | .error err => (.early (some p) err, e, s)
      | .ok (handle, notice) =>
        let t := Timeline.run b.toParty steps (.start b.toParty (b.note s [notice]) handle.plan poll
          raised abortAt abortable)
        let w := WaitReport.ofTimeline t
        (⟨some p, some handle, w.result, w.elapsed, w.questions⟩, e, t.party)

/-! ## In a world -/

namespace World

/-- A local backend of a world. -/
def localBackend (number : Nat) : Backend World where
  toParty := localParty number
  submit p w := w.submit number p

/-- A scripted backend, beside a world. -/
def scriptedBackend (s : Script) : Backend (World × Nat) where
  toParty := scriptedParty s
  submit _ w := (s.submit, w)

/-- In a world, experiments are run on its own backends and on scripted ones. -/
theorem runExperiment_eq (w : World) (e : Experiment) (b : RehearsedBackend) (now : Timestamp)
    (poll : PollSettings) (abort : AbortPlan) :
    let begun := w.beginWait abort
    let enter r : World := { begun with recorder := r }
    let (report, e', _) := w.runExperiment e b now poll abort
    (report, e') =
      match b with
      | .inWorld number =>
        let (report, e', _) := e.run (localBackend number) begun.recorder enter now poll
          abort.raised abort.time abort.abortable localHorizon
        (report, e')
      | .scripted s =>
        let (report, e', _) := e.run (scriptedBackend s) begun.recorder (fun r => (enter r, 0)) now
          poll abort.raised abort.time abort.abortable (s.horizon poll abort.time)
        (report, e') := by
  simp only [runExperiment, build, Experiment.run]
  cases (e.build (w.beginWait abort).recorder).outcome with
  | error err => cases b <;> rfl
  | ok u =>
    cases (e.build (w.beginWait abort).recorder).state.1.submission now with
    | error err => cases b <;> rfl
    | ok q =>
      cases b with
      | inWorld number =>
        simp only [submitCompiled, submitTo, localBackend]
        cases PlanHandle.ofSubmission q.2 _ <;> rfl
      | scripted s =>
        simp only [submitCompiled, submitTo, scriptedBackend]
        cases PlanHandle.ofSubmission q.2 _ <;> rfl

end World

/-! ## A log of what is asked -/

/-- What is asked of a backend in a run, with the reply. -/
inductive RunCall
  /-- A plan is submitted. -/
  | submit (plan : Plan) (reply : Except BackendError PlanKey)
  /-- A question about a plan. -/
  | ask (call : BackendCall)

/-- Whether a plan is submitted. -/
def RunCall.isSubmit : RunCall → Bool
  | .submit .. => true
  | .ask _ => false

/-- A question about the plan with the given key. -/
def RunCall.AsksAbout (key : PlanKey) : RunCall → Prop
  | .submit .. => False
  | .ask call => call.plan = key

/-- After some calls, there are only questions about the plan with the given key. -/
def OnlyAsks (key : PlanKey) (before calls : List RunCall) : Prop :=
  ∃ later, calls = before ++ later ∧ ∀ c ∈ later, c.AsksAbout key

/-- One more question about the plan. -/
theorem OnlyAsks.ask {key : PlanKey} {before calls : List RunCall} (h : OnlyAsks key before calls)
    {call : BackendCall} (hcall : call.plan = key) :
    OnlyAsks key before (calls ++ [.ask call]) := by
  obtain ⟨later, rfl, hlater⟩ := h
  refine ⟨later ++ [.ask call], List.append_assoc .., fun c hc => ?_⟩
  rcases List.mem_append.mp hc with hc | hc
  · exact hlater c hc
  · obtain rfl := List.mem_singleton.mp hc
    exact hcall

/-- No plan is submitted by questions about a plan. -/
theorem countP_isSubmit {key : PlanKey} {calls : List RunCall} (h : ∀ c ∈ calls, c.AsksAbout key) :
    calls.countP RunCall.isSubmit = 0 := by
  refine List.countP_eq_zero.mpr fun c hc hsubmit => ?_
  cases c with
  | submit plan reply => exact h _ hc
  | ask call => exact Bool.noConfusion hsubmit

/-- A backend that keeps a log of all that is asked of it. -/
def Backend.logged (b : Backend σ) : Backend (σ × List RunCall) where
  toParty := b.toParty.loggedAs RunCall.ask
  submit p s :=
    let (reply, party) := b.submit p s.1
    (reply, (party, s.2 ++ [.submit p reply]))

/-- One backend does as another one does, whose state is a part of its own. -/
structure Backend.Maps (f : τ → σ) (q : Backend τ) (b : Backend σ) : Prop
    extends Party.Maps f q.toParty b.toParty where
  submit : ∀ p s, b.submit p (f s) = ((q.submit p s).1, f (q.submit p s).2)

/-- The log is kept beside what the backend has. -/
theorem Backend.maps_logged (b : Backend σ) : b.logged.Maps Prod.fst b :=
  ⟨b.toParty.maps_loggedAs RunCall.ask, fun _ _ => rfl⟩

theorem Backend.submit_logged {b : Backend σ} {p : Plan} {s s' : σ}
    {reply : Except BackendError PlanKey} (h : b.submit p s = (reply, s')) (log : List RunCall) :
    b.logged.submit p (s, log) = (reply, (s', log ++ [.submit p reply])) := by
  simp only [logged, h]

/-- After a plan was submitted, a wait for the plan with the given key only asks about this plan. -/
theorem Backend.keeps_logged (b : Backend σ) (before : List RunCall) (key : PlanKey) :
    b.logged.toParty.Keeps key fun s => OnlyAsks key before s.2 :=
  b.toParty.keeps_loggedAs RunCall.ask key fun _ _ (hlog : OnlyAsks key before _) hcall =>
    hlog.ask hcall

namespace Experiment

variable {e : Experiment} {b : Backend σ} {r : Recorder} {enter : Recorder → σ} {now : Timestamp}
  {poll : PollSettings} {raised : Bool} {abortAt : Option Nat} {abortable : Bool} {steps : Nat}

/-- The plan has a task for each operation of the graph. -/
theorem size_of_compile (built : (e.build r).outcome = .ok ()) {plan : Plan}
    (hcompile : (e.build r).state.1.compile now = .ok plan) :
    plan.size = (e.build r).state.1.graph.size := by
  obtain ⟨a, -, -, hbuilt, hfollows⟩ := (buildable_of_build built).build r
  obtain ⟨plan', hcompile', htasks, -, -⟩ := hfollows.compile hbuilt now
  obtain rfl := Except.ok.inj (hcompile.symm.trans hcompile')
  have hranks := congrArg List.length (Blueprint.ranks_tasks hfollows.becomes)
  rw [List.length_map, List.length_range, ← htasks, plan.length_tasks] at hranks
  rw [hranks, hfollows.size, Blueprint.length_upTo]

/-! ## What happens in a run -/

/-- Nothing is asked of the backend when the experiment cannot be built. -/
theorem run_of_error {err : ExperimentError} (h : (e.build r).outcome = .error err) :
    e.run b r enter now poll raised abortAt abortable steps =
      (.early none err, (e.build r).state.1, enter (e.build r).state.2) := by
  simp only [run, h]

/-- When it was built, its plan is submitted, and waited for if it is accepted. -/
theorem run_of_built (h : (e.build r).outcome = .ok ()) {plan : Plan}
    (hcompile : (e.build r).state.1.compile now = .ok plan) :
    e.run b r enter now poll raised abortAt abortable steps =
      match b.submit plan (enter (e.build r).state.2) with
      | (.error err, s) => (.early (some plan) (.backend err), (e.build r).state.1, s)
      | (.ok key, s) =>
        let t := Timeline.run b.toParty steps (.start b.toParty
          (b.note s [.planSubmitted key plan.size]) key poll raised abortAt abortable)
        let w := WaitReport.ofTimeline t
        (⟨some plan, some ⟨key, plan.tag, plan.size⟩, w.result, w.elapsed, w.questions⟩,
          (e.build r).state.1, t.party) := by
  have hsubmission : (e.build r).state.1.submission now =
      .ok (plan, fun key => ⟨key, plan.tag, plan.size⟩) := by
    simp only [submission, hcompile, Except.map]
  obtain ⟨reply, s, hreply⟩ : ∃ reply s, b.submit plan (enter (e.build r).state.2) = (reply, s) :=
    ⟨_, _, rfl⟩
  simp only [run, h, hsubmission, hreply]
  cases reply with
  | error err => rfl
  | ok key => rfl

/-- A backend that keeps more is used in the same way. -/
theorem run_map {f : τ → σ} {q : Backend τ} (hq : q.Maps f b) (begin : Recorder → τ) :
    let kept := e.run q r begin now poll raised abortAt abortable steps
    e.run b r (fun r => f (begin r)) now poll raised abortAt abortable steps =
      (kept.1, kept.2.1, f kept.2.2) := by
  intro kept
  cases houtcome : (e.build r).outcome with
  | error err => simp only [kept, run_of_error houtcome]
  | ok u =>
    obtain ⟨_, plan, -, hcompile, -⟩ := e.exists_tasks houtcome now
    obtain ⟨reply, s, hreply⟩ : ∃ reply s, q.submit plan (begin (e.build r).state.2) = (reply, s) :=
      ⟨_, _, rfl⟩
    have hmapped := hq.submit plan (begin (e.build r).state.2)
    rw [hreply] at hmapped
    simp only [kept, run_of_built houtcome hcompile, hreply, hmapped]
    cases reply with
    | error err => rfl
    | ok key =>
      simp only [hq.note, ← Timeline.map_start hq.toMaps, ← Timeline.map_run hq.toMaps]
      rfl

/-- A backend that rejects the plan is asked nothing else. -/
theorem run_of_rejected (h : (e.build r).outcome = .ok ()) {plan : Plan}
    (hcompile : (e.build r).state.1.compile now = .ok plan) {err : BackendError} {s : σ}
    (hreply : b.submit plan (enter (e.build r).state.2) = (.error err, s)) :
    e.run b.logged r (fun r => (enter r, [])) now poll raised abortAt abortable steps =
      (.early (some plan) (.backend err), (e.build r).state.1, s, [.submit plan (.error err)]) := by
  rw [run_of_built h hcompile, Backend.submit_logged hreply]
  rfl

/-- A backend that accepts the plan is asked about this plan, and nothing else. -/
theorem run_of_accepted (h : (e.build r).outcome = .ok ()) {plan : Plan}
    (hcompile : (e.build r).state.1.compile now = .ok plan) {key : PlanKey} {s : σ}
    (hreply : b.submit plan (enter (e.build r).state.2) = (.ok key, s))
    {run : World.RunReport × Experiment × σ × List RunCall}
    (hrun : e.run b.logged r (fun r => (enter r, [])) now poll raised abortAt abortable steps =
      run) :
    run.1.handle = some ⟨key, plan.tag, plan.size⟩ ∧
      ∃ later, run.2.2.2 = .submit plan (.ok key) :: later ∧ ∀ c ∈ later, c.AsksAbout key := by
  rw [run_of_built h hcompile, Backend.submit_logged hreply] at hrun
  subst hrun
  have hkeeps := b.keeps_logged [.submit plan (.ok key)] key
  refine ⟨rfl, (Timeline.keeps_run hkeeps (Timeline.keeps_start hkeeps ?_ ..) steps).keeps⟩
  exact ⟨[], rfl, List.forall_mem_nil _⟩

/-- **One submission.** Run any experiment on any backend, for as long as a number of things happen.
A plan is submitted at most once, and it is submitted if and only if the experiment can be built. If
it cannot, nothing is asked of the backend, and the error is the result. If the backend rejects the
plan, nothing else is asked either, and its error is the result. If it accepts the plan, all else
that is asked is about this plan, and the handle has the tag of the plan and counts a task for each
operation of the graph. -/
theorem run_submits_once (e : Experiment) (b : Backend σ) (r : Recorder) (enter : Recorder → σ)
    (now : Timestamp) (poll : PollSettings) (raised : Bool) (abortAt : Option Nat)
    (abortable : Bool) (steps : Nat) :
    let built := e.build r
    let (report, e', s, calls) :=
      e.run b.logged r (fun r => (enter r, [])) now poll raised abortAt abortable steps
    e.run b r enter now poll raised abortAt abortable steps = (report, e', s) ∧
      calls.countP RunCall.isSubmit ≤ 1 ∧
      (calls.countP RunCall.isSubmit = 1 ↔ built.outcome = .ok ()) ∧
      (∀ err, built.outcome = .error err →
        calls = [] ∧ report.handle = none ∧ report.result = some (.error err)) ∧
      (built.outcome = .ok () →
        ∃ plan reply later, built.state.1.compile now = .ok plan ∧
          calls = .submit plan reply :: later ∧
          match reply with
          | .error err =>
            later = [] ∧ report.handle = none ∧ report.result = some (.error (.backend err))
          | .ok key =>
            (∀ c ∈ later, c.AsksAbout key) ∧
              report.handle = some ⟨key, plan.tag, built.state.1.graph.size⟩) := by
  intro built
  have hmap : e.run b r enter now poll raised abortAt abortable steps = _ :=
    run_map b.maps_logged fun r => (enter r, [])
  generalize hrun : e.run b.logged r (fun r => (enter r, [])) now poll raised abortAt abortable
    steps = run at hmap ⊢
  obtain ⟨report, e', s, calls⟩ := run
  refine ⟨hmap, ?_⟩
  cases houtcome : built.outcome with
  | error err =>
    obtain ⟨rfl, -, -, rfl⟩ : report = .early none err ∧ e' = _ ∧ s = _ ∧ calls = [] := by
      simpa [run_of_error houtcome, eq_comm] using hrun
    refine ⟨Nat.zero_le 1, by simp, fun err' herr => ?_, nofun⟩
    obtain rfl := Except.error.inj herr
    exact ⟨rfl, rfl, rfl⟩
  | ok u =>
    obtain ⟨_, plan, -, hcompile, -⟩ := e.exists_tasks houtcome now
    obtain ⟨reply, s', hreply⟩ : ∃ reply s, b.submit plan (enter built.state.2) = (reply, s) :=
      ⟨_, _, rfl⟩
    cases reply with
    | error err =>
      obtain ⟨rfl, -, -, rfl⟩ : report = .early (some plan) (.backend err) ∧ e' = _ ∧ s = _ ∧
          calls = [.submit plan (.error err)] := by
        simpa [run_of_rejected houtcome hcompile hreply, eq_comm] using hrun
      refine ⟨Nat.le_refl 1, by simp [RunCall.isSubmit], nofun, fun _ => ?_⟩
      exact ⟨plan, .error err, [], hcompile, rfl, rfl, rfl, rfl⟩
    | ok key =>
      obtain ⟨hhandle, later, rfl, hlater⟩ := run_of_accepted houtcome hcompile hreply hrun
      have hone : (RunCall.submit plan (.ok key) :: later).countP RunCall.isSubmit = 1 := by
        rw [List.countP_cons, countP_isSubmit hlater]
        rfl
      rw [size_of_compile houtcome hcompile] at hhandle
      refine ⟨Nat.le_of_eq hone, by simp [hone], nofun, fun _ => ?_⟩
      exact ⟨plan, .ok key, later, hcompile, rfl, hlater, hhandle⟩

end Experiment

end Federation
