import Federation.Proofs.Cancellation
import Federation.Waiting.Watch

/-!
# Waiting for a plan on a local backend

Three parties have to do with the record of a plan: its execution, whoever cancels it, and whoever
waits for it. Who waits reads the record twice, the status first and the scores later. The record is
looked up in one step, and the reply may take its time (`LocalWaitEvent.looked`,
`LocalWaitEvent.replied`); anything may happen in between.

The invariant (`LocalWait.Consistent`) says of the reply on its way, and of what the wait is doing,
that what they take for an end of the plan is its end (`WatchEvent.Stands`, `WatchPhase.Stands`).
That stays true because a plan that is at its end stays there, with its scores (`Record.Leads`).

* `LocalBackend.taskFailures_ne_nil`: a plan fails only if one of its tasks did;
* `LocalWait.Consistent.step`: every step keeps the invariant;
* `waiting_consistent`: what the result of a wait says about the plan.
-/

namespace Federation

/-! ## Failures of tasks -/

/-- The failure of the task that the execution runs next, if it makes one. -/
def Record.taskFailure? (answers : Answers) (r : Record) : Option (Failure ExecutionError) :=
  match r.stage with
  | .calling x t rest =>
    match x.runNext answers t rest with
    | .ok _ => none
    | .error f => some f
  | _ => none

/-- The plan has failed, or its execution is about to report that. -/
def Record.Fails (r : Record) : Prop :=
  r.status = .failed ∨ ∃ o, r.stage = .reporting o ∧ o.status = .failed

namespace Record

theorem not_fails_accepted (p : Plan) : ¬ (accepted p).Fails := by
  rintro (h | ⟨o, h, -⟩)
  · exact absurd h (by simp [accepted])
  · exact absurd h (by simp [accepted])

theorem Fails.of_cancel {r : Record} (h : r.cancel.Fails) : r.Fails := by
  unfold cancel at h
  split at h
  · exact h
  · obtain h | h := h
    · exact absurd h (by simp)
    · exact .inr h

/-- What is set is the status of the record, or the one that was there. -/
theorem status_setStatus (r : Record) (key : PlanKey) (status : PlanStatus)
    (scores : List Performance) :
    (r.setStatus key status scores).1.status = status ∨
      (r.setStatus key status scores).1.status = r.status := by
  unfold setStatus
  split
  · exact .inr rfl
  · exact .inl rfl

/-- Only the failure of a task makes a plan fail. -/
theorem Fails.of_advance {r : Record} {key : PlanKey} {answers : Answers}
    (h : (r.advance key answers).1.Fails) : r.Fails ∨ (r.taskFailure? answers).isSome := by
  unfold advance at h
  cases hst : r.stage with
  | accepted q =>
    simp only [hst] at h
    obtain h | ⟨o, ho, -⟩ := h
    · obtain hs | hs := r.status_setStatus key .running []
      · exact absurd (hs.symm.trans h) (by simp)
      · exact .inl (.inl (hs.symm.trans h))
    · exact absurd ho (by simp)
  | between x =>
    simp only [hst] at h
    obtain h | ⟨o, ho, hfailed⟩ := h
    · exact .inl (.inl h)
    · cases hx : x.remaining with
      | nil =>
        simp only [afterCheck, hx, Stage.reporting.injEq] at ho
        exact absurd (ho ▸ hfailed) (by simp [PlanOutcome.status])
      | cons t rest =>
        cases hc : r.canceled with
        | true =>
          simp only [afterCheck, hx, hc, if_true, Stage.reporting.injEq] at ho
          exact absurd (ho ▸ hfailed) (by simp [PlanOutcome.status])
        | false => exact absurd ho (by simp [afterCheck, hx, hc])
  | calling x t rest =>
    simp only [hst] at h
    obtain h | ⟨o, ho, -⟩ := h
    · exact .inl (.inl h)
    · unfold afterTask at ho
      cases hrun : x.runNext answers t rest with
      | ok y => simp [hrun] at ho
      | error f => exact .inr (by simp [taskFailure?, hst, hrun])
  | reporting o =>
    simp only [hst] at h
    obtain h | ⟨o', ho', -⟩ := h
    · obtain hs | hs := r.status_setStatus key o.status o.scores
      · exact .inl (.inr ⟨o, hst, hs.symm.trans h⟩)
      · exact .inl (.inl (hs.symm.trans h))
    · exact absurd ho' (by simp)
  | finished =>
    simp only [hst] at h
    exact .inl h

end Record

namespace LocalBackend

variable {b : LocalBackend} {key : PlanKey} {p : Plan} {r : Record}

/-- The failure of a task of a plan in an event. -/
def taskFailure? (key : PlanKey) (b : LocalBackend) : Event → Option (Failure ExecutionError)
  | .advance k answers => if k = key then (b.get? k).bind (Record.taskFailure? answers) else none
  | _ => none

/-- The failures of the tasks of a plan, in order. -/
def taskFailures (key : PlanKey) : LocalBackend → List Event → List (Failure ExecutionError) :=
  observed (taskFailure? key)

/-- A plan fails only if one of its tasks did. -/
theorem taskFailures_ne_nil (hr : b.get? key = some r) {history : List Event}
    (fresh : Unsubmitted key history) {r' : Record}
    (hr' : (b.after history).get? key = some r') (hfails : r'.Fails) :
    r.Fails ∨ taskFailures key b history ≠ [] := by
  induction history generalizing b r with
  | nil =>
    cases hr.symm.trans hr'
    exact .inl hfails
  | cons ev rest ih =>
    have hrest : Unsubmitted key rest := fun e he => fresh e (List.mem_cons_of_mem _ he)
    have hfailures : taskFailures key b (ev :: rest) =
        (taskFailure? key b ev).toList ++ taskFailures key (b.step ev) rest := rfl
    rw [hfailures]
    have later (h : taskFailures key (b.step ev) rest ≠ []) :
        (taskFailure? key b ev).toList ++ taskFailures key (b.step ev) rest ≠ [] :=
      List.append_ne_nil_of_right_ne_nil _ h
    obtain ⟨answers, rfl, hr₁⟩ | ⟨rfl, hr₁⟩ | ⟨-, hr₁⟩ :=
      step_cases hr (fresh ev (List.mem_cons_self ..))
    · obtain h | h := ih hr₁ hrest hr'
      · obtain h | h := h.of_advance
        · exact .inl h
        · refine .inr (List.append_ne_nil_of_left_ne_nil ?_ _)
          obtain ⟨f, hf⟩ := Option.isSome_iff_exists.mp h
          simp [taskFailure?, hr, hf]
      · exact .inr (later h)
    · exact (ih hr₁ hrest hr').imp Record.Fails.of_cancel later
    · exact (ih hr₁ hrest hr').imp id later

end LocalBackend

/-! ## A wait beside the other parties -/

/-- A wait for a plan on a local backend, with the reply that is on its way. -/
structure LocalWait where
  backend : LocalBackend
  watch : Watch
  reply : Option WatchEvent

/-- What happens to a local backend and to a wait on it. -/
inductive LocalWaitEvent
  /-- Something happens to the backend: to the plan that is waited for, or to another one. -/
  | backend (event : LocalBackend.Event)
  /-- The backend looks up what it was asked for. -/
  | looked
  /-- The reply arrives. -/
  | replied
  /-- The abort signal is raised. -/
  | raised
  /-- The sleeper notices that the signal is raised. -/
  | noticed
  /-- The sleep is over. -/
  | woken
  /-- The time of the wait is over. -/
  | expired

/-- What happens to the backend. -/
def LocalWaitEvent.backend? : LocalWaitEvent → Option LocalBackend.Event
  | .backend event => some event
  | _ => none

namespace LocalWait

/-- A wait that begins. -/
def start (b : LocalBackend) (plan : PlanKey) (poll : PollSettings) (raised : Bool) : LocalWait :=
  ⟨b, (Watch.start plan poll raised).watch, none⟩

/-- The reply to what the wait asks, as the backend's records are now. -/
def look (s : LocalWait) : Option WatchEvent :=
  match s.watch.phase with
  | .asking => some (.status (s.backend.status s.watch.plan))
  | .fetching => some (.performances (s.backend.performances s.watch.plan))
  | _ => none

/-- The watch reacts. -/
def tell (s : LocalWait) (event : WatchEvent) : LocalWait :=
  { s with watch := (s.watch.react event).watch }

/-- One thing happens. -/
def step (s : LocalWait) : LocalWaitEvent → LocalWait
  | .backend event => { s with backend := s.backend.step event }
  | .looked => { s with reply := s.reply.or s.look }
  | .replied =>
    match s.reply with
    | some event => { s with reply := none }.tell event
    | none => s
  | .raised => s.tell .raised
  | .noticed => s.tell .noticed
  | .woken => s.tell .woken
  | .expired => s.tell .expired

/-- Some things happen. -/
def after (s : LocalWait) (events : List LocalWaitEvent) : LocalWait :=
  events.foldl step s

/-- **A wait changes nothing**, however it goes on or ends: the backend is what it would be if
nobody had waited. -/
theorem backend_after (s : LocalWait) (events : List LocalWaitEvent) :
    (s.after events).backend = s.backend.after (events.filterMap LocalWaitEvent.backend?) := by
  induction events generalizing s with
  | nil => rfl
  | cons event events ih =>
    refine (ih (s.step event)).trans ?_
    cases event with
    | backend event => rfl
    | replied =>
      have hbackend : (s.step .replied).backend = s.backend := by
        unfold step
        cases s.reply <;> rfl
      rw [hbackend]
      rfl
    | looked | raised | noticed | woken | expired => rfl

end LocalWait

/-! ## What stands -/

/-- What a reply takes for an end of the plan is its end, and the scores are final. -/
def WatchEvent.Stands (r : Record) : WatchEvent → Prop
  | .status (.ok s) => s.isTerminal = true → r.status = s
  | .status (.error _) => False
  | .performances reply => r.status = .done ∧ reply = .ok r.performances
  | .raised | .woken | .noticed | .expired => True

/-- What a wait takes for an end of the plan is its end, and the scores are final. -/
def WatchPhase.Stands (key : PlanKey) (r : Record) : WatchPhase → Prop
  | .asking | .sleeping => True
  | .fetching => r.status = .done
  | .over (.ok scores) => r.status = .done ∧ r.performances = scores
  | .over (.error (.executionFailed plan)) => plan = key ∧ r.status = .failed
  | .over (.error (.canceled plan)) => plan = key ∧ r.status = .canceled
  | .over (.error (.aborted plan)) | .over (.error (.pollTimeout plan)) => plan = key
  | .over (.error _) => False

variable {key : PlanKey} {r r' : Record}

theorem WatchEvent.Stands.leads {event : WatchEvent} (h : event.Stands r) (hlead : r.Leads r') :
    event.Stands r' := by
  cases event with
  | status reply =>
    cases reply with
    | error e => exact h
    | ok status =>
      intro hterminal
      have hs := h hterminal
      exact (hlead.keeps (hs ▸ hterminal)).1.trans hs
  | performances reply =>
    obtain ⟨hs, hreply⟩ := h
    obtain ⟨hs', hscores⟩ := hlead.keeps (by rw [hs]; rfl)
    exact ⟨hs'.trans hs, hreply.trans (by rw [hscores])⟩
  | raised | woken | noticed | expired => trivial

theorem WatchPhase.Stands.leads {phase : WatchPhase} (h : phase.Stands key r)
    (hlead : r.Leads r') : phase.Stands key r' := by
  cases phase with
  | asking | sleeping => trivial
  | fetching => exact (hlead.keeps (by rw [show r.status = .done from h]; rfl)).1.trans h
  | «over» result =>
    cases result with
    | ok scores =>
      obtain ⟨hs, hscores⟩ := h
      obtain ⟨hs', hscores'⟩ := hlead.keeps (by rw [hs]; rfl)
      exact ⟨hs'.trans hs, hscores'.trans hscores⟩
    | error e =>
      cases e with
      | executionFailed plan | canceled plan =>
        obtain ⟨hplan, hs⟩ := h
        exact ⟨hplan, (hlead.keeps (by rw [hs]; rfl)).1.trans hs⟩
      | aborted plan | pollTimeout plan => exact h
      | _ => exact h.elim

/-- What a watch makes of a reply that stands, or of anything else, stands. -/
theorem WatchPhase.Stands.react {w : Watch} (hplan : w.plan = key) (h : w.phase.Stands key r)
    {event : WatchEvent} (hevent : event.Stands r) :
    (w.react event).watch.phase.Stands key r := by
  obtain ⟨plan, poll, raised, phase⟩ := w
  subst hplan
  have expire (phase : WatchPhase) (h : phase.Stands plan r) :
      (Watch.expire ⟨plan, poll, raised, phase⟩).watch.phase.Stands plan r := by
    unfold Watch.expire
    split
    · exact rfl
    · exact h
  cases phase with
  | «over» result => exact h
  | asking =>
    cases event with
    | raised | woken | noticed | performances reply => trivial
    | expired => exact expire .asking h
    | status reply =>
      cases reply with
      | error e => exact hevent.elim
      | ok s =>
        cases s with
        | waiting | running => trivial
        | done => exact hevent rfl
        | failed | canceled => exact ⟨rfl, hevent rfl⟩
  | sleeping =>
    cases event with
    | raised | status reply | performances reply => trivial
    | expired => exact expire .sleeping h
    | woken | noticed => cases raised <;> trivial
  | fetching =>
    cases event with
    | raised | woken | noticed | status reply => exact h
    | expired => exact expire .fetching h
    | performances reply =>
      obtain ⟨hs, rfl⟩ := hevent
      exact ⟨hs, rfl⟩

/-! ## The invariant -/

namespace LocalWait

open LocalBackend

/-- The wait is for the plan, and the reply on its way and what the wait is doing stand. -/
structure Consistent (key : PlanKey) (r : Record) (s : LocalWait) : Prop where
  plan : s.watch.plan = key
  reply : ∀ event, s.reply = some event → event.Stands r
  phase : s.watch.phase.Stands key r

variable {p : Plan} {s : LocalWait}

theorem Consistent.leads (h : s.Consistent key r) (hlead : r.Leads r') : s.Consistent key r' :=
  ⟨h.plan, fun event hreply => (h.reply event hreply).leads hlead, h.phase.leads hlead⟩

theorem Consistent.tell (h : s.Consistent key r) {event : WatchEvent} (hevent : event.Stands r) :
    (s.tell event).Consistent key r :=
  ⟨(s.watch.watches_react event).1.trans h.plan, h.reply, h.phase.react h.plan hevent⟩

/-- What is looked up stands. -/
theorem Consistent.look (h : s.Consistent key r) (hr : s.backend.get? key = some r)
    {event : WatchEvent} (hlook : s.look = some event) : event.Stands r := by
  have hplan := h.plan
  have hphase := h.phase
  unfold LocalWait.look at hlook
  cases hdoing : s.watch.phase with
  | asking =>
    rw [hdoing] at hlook
    cases hlook
    simp only [LocalBackend.status, LocalBackend.record, hplan, hr, Except.map]
    exact fun _ => rfl
  | fetching =>
    rw [hdoing] at hlook hphase
    cases hlook
    simp only [LocalBackend.performances, LocalBackend.record, hplan, hr, Except.map]
    exact ⟨hphase, rfl⟩
  | sleeping | «over» result => simp [hdoing] at hlook

/-- **One step keeps the invariant**, whoever makes it. -/
theorem Consistent.step (h : s.Consistent key r) (hr : s.backend.get? key = some r)
    (hlawful : r.Lawful p) {event : LocalWaitEvent}
    (fresh : ∀ ev q, event.backend? = some ev → ev ≠ .submit key q) :
    ∃ r', (s.step event).backend.get? key = some r' ∧ r'.Lawful p ∧
      (s.step event).Consistent key r' := by
  cases event with
  | backend ev =>
    obtain ⟨r', hr', hlawful', hstep⟩ := lawful_step hr hlawful fun q => fresh ev q rfl
    have h' := h.leads (hstep.leads (.refl r'))
    exact ⟨r', hr', hlawful', h'.plan, h'.reply, h'.phase⟩
  | looked =>
    refine ⟨r, hr, hlawful, h.plan, fun event hreply => ?_, h.phase⟩
    obtain hreply | ⟨-, hlook⟩ := Option.or_eq_some_iff.mp hreply
    · exact h.reply event hreply
    · exact h.look hr hlook
  | replied =>
    unfold LocalWait.step
    cases hreply : s.reply with
    | none => exact ⟨r, hr, hlawful, h⟩
    | some event =>
      have hstands := h.reply event hreply
      have hsilent : ({ s with reply := none } : LocalWait).Consistent key r :=
        ⟨h.plan, nofun, h.phase⟩
      exact ⟨r, hr, hlawful, hsilent.tell hstands⟩
  | raised | noticed | woken | expired => exact ⟨r, hr, hlawful, h.tell trivial⟩

/-- Any number of steps keep it. -/
theorem Consistent.after (h : s.Consistent key r) (hr : s.backend.get? key = some r)
    (hlawful : r.Lawful p) {events : List LocalWaitEvent}
    (fresh : Unsubmitted key (events.filterMap LocalWaitEvent.backend?)) :
    ∃ r', (s.after events).backend.get? key = some r' ∧ r'.Lawful p ∧
      (s.after events).Consistent key r' := by
  induction events generalizing s r with
  | nil => exact ⟨r, hr, hlawful, h⟩
  | cons event events ih =>
    have hfresh (ev : Event) (q : Plan) (hev : event.backend? = some ev) : ev ≠ .submit key q :=
      fresh ev (List.mem_filterMap.mpr ⟨event, List.mem_cons_self, hev⟩) q
    obtain ⟨r₁, hr₁, hlawful₁, h₁⟩ := h.step hr hlawful hfresh
    refine ih h₁ hr₁ hlawful₁ fun ev hev => fresh ev ?_
    obtain ⟨e, he, hev⟩ := List.mem_filterMap.mp hev
    exact List.mem_filterMap.mpr ⟨e, List.mem_cons_of_mem _ he, hev⟩

theorem consistent_start (b : LocalBackend) (key : PlanKey) (poll : PollSettings) (raised : Bool)
    (r : Record) : (start b key poll raised).Consistent key r := by
  cases raised with
  | true => exact ⟨rfl, nofun, rfl⟩
  | false => exact ⟨rfl, nofun, trivial⟩

end LocalWait

/-- What can be seen of a plan at its end can be seen at any time later. -/
theorem LocalBackend.final_of_terminal {b : LocalBackend} {p : Plan} (hr : b.get? key = some r)
    (h : r.Lawful p) (hterminal : r.status.isTerminal = true) {later : List LocalBackend.Event}
    (fresh : LocalBackend.Unsubmitted key later) :
    (b.after later).status key = .ok r.status ∧
      (b.after later).performances key = .ok r.performances := by
  obtain ⟨r', hr', -, hlead⟩ := lawful_after hr h fresh
  obtain ⟨hs, hscores⟩ := hlead.keeps hterminal
  rw [← hs, ← hscores]
  constructor
  · simp only [LocalBackend.status, LocalBackend.record, hr', Except.map]
  · simp only [LocalBackend.performances, LocalBackend.record, hr', Except.map]

open LocalBackend in
/-- **Waiting on a local backend is consistent.** After a plan was accepted, somebody waits for it,
while it is executed, canceled or not, and whatever else happens to the backend. The backend is at
any time as if nobody waited, so that it makes no difference to it whether the wait is aborted or
its time is over. If the wait has come to its end,

* with scores: the plan is done, and stays done with these scores, one for each of its tests;
* with a cancellation: somebody who asked for it before was told that the plan is canceled;
* with a failed execution: a task of the plan has failed, and its status stays failed;
* otherwise it was aborted or its time was over. -/
theorem waiting_consistent (b : LocalBackend) (key : PlanKey) (p : Plan) (poll : PollSettings)
    (raised : Bool) (earlier : List Event) (events : List LocalWaitEvent)
    (accepted : p.fault? = none)
    (fresh : Unsubmitted key (earlier ++ events.filterMap LocalWaitEvent.backend?)) :
    let submitted := b.step (.submit key p)
    let wait := (LocalWait.start (submitted.after earlier) key poll raised).after events
    let history := earlier ++ events.filterMap LocalWaitEvent.backend?
    wait.backend = submitted.after history ∧
    (∀ scores, wait.watch.phase = .over (.ok scores) →
      p.tests.Perm p.testTasks ∧ scores.map Performance.origin = p.tests.map TestTask.origin ∧
      ∀ later, Unsubmitted key later →
        (wait.backend.after later).status key = .ok .done ∧
        (wait.backend.after later).performances key = .ok scores) ∧
    (∀ plan, wait.watch.phase = .over (.error (.canceled plan)) →
      plan = key ∧ true ∈ cancelAnswers key submitted history) ∧
    (∀ plan, wait.watch.phase = .over (.error (.executionFailed plan)) →
      plan = key ∧ taskFailures key submitted history ≠ [] ∧
      ∀ later, Unsubmitted key later → (wait.backend.after later).status key = .ok .failed) ∧
    ∀ e, wait.watch.phase = .over (.error e) →
      e = .canceled key ∨ e = .executionFailed key ∨ e = .aborted key ∨ e = .pollTimeout key := by
  intro submitted wait history
  have hsubmit : submitted.get? key = some (.accepted p) := b.get?_step_submit key accepted
  have hbackend : wait.backend = submitted.after history := by
    rw [LocalWait.backend_after]
    exact List.foldl_append.symm
  -- the record now, with the answers to all cancellations, and the invariant
  obtain ⟨r, hr, hlawful, -, hcanceled⟩ : ∃ r, (submitted.after history).get? key = some r ∧
      r.Lawful p ∧ (cancelAnswers key submitted history).count true = r.cancellations ∧
      (true ∈ cancelAnswers key submitted history ↔ r.status = .canceled) :=
    exists_record_canceled_iff b accepted fresh
  have hstands : wait.watch.phase.Stands key r := by
    obtain ⟨r₀, hr₀, hlawful₀, -⟩ := lawful_after hsubmit (Record.lawful_accepted p)
      fun ev hev => fresh ev (List.mem_append_left _ hev)
    obtain ⟨r', hr', -, h⟩ := (LocalWait.consistent_start _ key poll raised r₀).after hr₀ hlawful₀
      fun ev hev => fresh ev (List.mem_append_right _ hev)
    cases (hbackend ▸ hr).symm.trans hr'
    exact h.phase
  rw [hbackend]
  refine ⟨rfl, fun scores hover => ?_, fun plan hover => ?_, fun plan hover => ?_,
    fun e hover => ?_⟩
  · rw [hover] at hstands
    obtain ⟨hs, rfl⟩ := hstands
    refine ⟨p.perm_tests, hlawful.complete hs, fun later hlater => ?_⟩
    have hfinal := final_of_terminal hr hlawful (by rw [hs]; rfl) hlater
    rwa [hs] at hfinal
  · rw [hover] at hstands
    exact ⟨hstands.1, hcanceled.mpr hstands.2⟩
  · rw [hover] at hstands
    obtain ⟨hplan, hs⟩ := hstands
    refine ⟨hplan, ?_, fun later hlater => ?_⟩
    · exact (taskFailures_ne_nil hsubmit fresh hr (.inl hs)).resolve_left
        (Record.not_fails_accepted p)
    · have hfinal := (final_of_terminal hr hlawful (by rw [hs]; rfl) hlater).1
      rwa [hs] at hfinal
  · rw [hover] at hstands
    cases e with
    | canceled plan => exact .inl (congrArg _ hstands.1)
    | executionFailed plan => exact .inr (.inl (congrArg _ hstands.1))
    | aborted plan => exact .inr (.inr (.inl (congrArg _ hstands)))
    | pollTimeout plan => exact .inr (.inr (.inr (congrArg _ hstands)))
    | _ => exact hstands.elim

open LocalBackend in
/-- Somebody waits for a plan whose first task crashes: the wait sees that it is running, wakes up
when it has failed, and says so. -/
theorem waiting_consistent_of_crash :
    let p := Plan.trainAndTest ⟨"node"⟩ default
    let key := PlanKey.drawn 0
    let next := LocalWaitEvent.backend (.advance key fun _ => .error (.crash .algorithm))
    let events := [next, .looked, next, .replied, next, next, .woken, .looked, .replied]
    let submitted := LocalBackend.empty.step (.submit key p)
    let wait := (LocalWait.start (submitted.after []) key .default false).after events
    p.fault? = none ∧ Unsubmitted key ([] ++ events.filterMap LocalWaitEvent.backend?) ∧
      wait.watch.phase = .over (.error (.executionFailed key)) ∧
      ∀ later, Unsubmitted key later → (wait.backend.after later).status key = .ok .failed := by
  intro p key next events submitted wait
  have accepted : p.fault? = none := by decide
  have fresh : Unsubmitted key ([] ++ events.filterMap LocalWaitEvent.backend?) := by
    simp [Unsubmitted, events, next, LocalWaitEvent.backend?]
  obtain ⟨-, -, -, hfailed, -⟩ :=
    waiting_consistent LocalBackend.empty key p .default false [] events accepted fresh
  exact ⟨accepted, fresh, by rfl, (hfailed key (by rfl)).2.2⟩

end Federation
