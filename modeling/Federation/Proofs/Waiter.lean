import Federation.Waiting.Watch

/-!
# What a wait does, with and without a signal

A wait is the watch, with the questions that it has put to the backend and the notices that it has
left. Whenever the watch acts it sees whether the abort signal is raised; everything else that
happens to it are replies, the ends of its sleeps and the end of its time, in any order.

* `Waiter.alone`: what a wait does that knows nothing of abort signals;
* `Waiter.follow_false_begin`: a wait whose signal is never raised does just that;
* `Aborted`: what a wait still does when the signal is raised;
* `Waiter.abortsBy_follow`: it does just that, whatever it was doing.
-/

namespace Federation

/-! ## What a wait does -/

/-- Who waits: the watch, the questions that it has put to the backend, and the notices that it has
left. -/
structure Waiter where
  watch : Watch
  asked : List Question
  notices : List Notice

namespace Waiter

/-- Who has just begun to wait. -/
def begin (r : Reaction) : Waiter :=
  ⟨r.watch, r.question.toList, r.notices⟩

/-- Who waits, after one more reaction of the watch. -/
def keep (w : Waiter) (r : Reaction) : Waiter :=
  ⟨r.watch, w.asked ++ r.question.toList, w.notices ++ r.notices⟩

/-- The watch reacts to an event, and sees whether the signal is raised. That it is raised is no
event by itself: the watch only sees it when it acts. -/
def react (raised : Bool) (event : WatchEvent) (w : Waiter) : Waiter :=
  match event with
  | .raised => w
  | event => w.keep ({ w.watch with raised := raised }.react event)

/-- The watch reacts to some events, while the signal is raised or not. -/
def follow (raised : Bool) (events : List WatchEvent) (w : Waiter) : Waiter :=
  events.foldl (fun w event => w.react raised event) w

end Waiter

namespace Watch

/-- A watch asks for the status, whatever a signal says. -/
def askAlone (w : Watch) : Reaction :=
  ⟨{ w with phase := .asking }, some .status, []⟩

/-- The reaction of a watch that knows nothing of abort channels. -/
def reactAlone (w : Watch) (event : WatchEvent) : Reaction :=
  match w.phase, event with
  | .over _, _ => w.ignore
  | _, .expired => w.expire
  | .asking, .status answer => w.hear answer
  | .sleeping, .woken => w.askAlone
  | .fetching, .performances answer => w.receive answer
  | _, _ => w.ignore

end Watch

/-- What a wait does that knows nothing of abort channels. -/
def Waiter.alone (plan : PlanKey) (poll : PollSettings) (events : List WatchEvent) : Waiter :=
  events.foldl (fun w event => w.keep (w.watch.reactAlone event))
    (begin (Watch.askAlone ⟨plan, poll, false, .asking⟩))

/-! ## What a wait still does when the signal is raised -/

/-- Whether something comes of an event, by what a watch is doing. -/
def WatchPhase.awaits (poll : PollSettings) : WatchPhase → WatchEvent → Bool
  | .over _, _ => false
  | _, .expired => poll.timeout.isSome
  | .asking, .status _ => true
  | .sleeping, .woken => true
  | .sleeping, .noticed => true
  | .fetching, .performances _ => true
  | _, _ => false

/-- What a wait still does after somebody has asked to stop waiting: from what it was doing then, by
way of the events around it, with the questions that it puts, to what it does in the end. -/
inductive Aborted (plan : PlanKey) (poll : PollSettings) :
    WatchPhase → List WatchEvent → List Question → WatchPhase → Prop
  /-- Nothing has happened. -/
  | nil {phase : WatchPhase} : Aborted plan poll phase [] [] phase
  /-- Nothing comes of an event. -/
  | skip {phase final : WatchPhase} {event : WatchEvent} {events : List WatchEvent}
    {asked : List Question} (h : phase.awaits poll event = false)
    (rest : Aborted plan poll phase events asked final) :
    Aborted plan poll phase (event :: events) asked final
  /-- A sleeper notices it. -/
  | noticed {events : List WatchEvent} :
    Aborted plan poll .sleeping (.noticed :: events) [] (.over (.error (.aborted plan)))
  /-- The sleep is over before that. -/
  | woken {events : List WatchEvent} :
    Aborted plan poll .sleeping (.woken :: events) [] (.over (.error (.aborted plan)))
  /-- The time is over before that. -/
  | expired {phase : WatchPhase} {events : List WatchEvent}
    (h : phase.awaits poll .expired = true) :
    Aborted plan poll phase (.expired :: events) [] (.over (.error (.pollTimeout plan)))
  /-- The plan is at work, says the reply to the last question. -/
  | working {final : WatchPhase} {status : PlanStatus} {events : List WatchEvent}
    {asked : List Question} (h : status.isTerminal = false)
    (rest : Aborted plan poll .sleeping events asked final) :
    Aborted plan poll .asking (.status (.ok status) :: events) asked final
  /-- The plan is done, says the reply to the last question, and the scores are fetched. -/
  | done {final : WatchPhase} {events : List WatchEvent} {asked : List Question}
    (rest : Aborted plan poll .fetching events asked final) :
    Aborted plan poll .asking (.status (.ok .done) :: events) (.performances :: asked) final
  | failed {events : List WatchEvent} :
    Aborted plan poll .asking (.status (.ok .failed) :: events) []
      (.over (.error (.executionFailed plan)))
  | canceled {events : List WatchEvent} :
    Aborted plan poll .asking (.status (.ok .canceled) :: events) []
      (.over (.error (.canceled plan)))
  | error {events : List WatchEvent} (e : BackendError) :
    Aborted plan poll .asking (.status (.error e) :: events) [] (.over (.error (.backend e)))
  /-- The scores that were asked for. -/
  | fetched {events : List WatchEvent} (reply : Except BackendError (List Performance)) :
    Aborted plan poll .fetching (.performances reply :: events) [] (.over (reply.mapError .backend))

/-- Who waits does what `Aborted` says, by way of some events. -/
def Waiter.AbortsBy (events : List WatchEvent) (w w' : Waiter) : Prop :=
  ∃ asked, w'.asked = w.asked ++ asked ∧
    Aborted w.watch.plan w.watch.poll w.watch.phase events asked w'.watch.phase

theorem Watch.expire_of_untimed {w : Watch} (h : w.poll.timeout.isSome = false) :
    w.expire = w.ignore := by
  have htimeout : w.poll.timeout = none := by simpa using h
  unfold expire
  rw [htimeout]

/-- The end of the time ends a wait that has one. -/
theorem Watch.react_expired_of_awaits {w : Watch} (h : w.phase.awaits w.poll .expired = true) :
    ∃ seconds, w.react .expired =
      w.stop (.error (.pollTimeout w.plan)) [.waitExpired w.plan seconds] := by
  have hexpire (htimeout : w.poll.timeout.isSome = true) : ∃ seconds, w.expire =
      w.stop (.error (.pollTimeout w.plan)) [.waitExpired w.plan seconds] := by
    obtain ⟨seconds, hseconds⟩ := Option.isSome_iff_exists.mp htimeout
    refine ⟨seconds, ?_⟩
    unfold expire
    rw [hseconds]
  unfold react
  cases hphase : w.phase with
  | «over» result =>
    rw [hphase] at h
    exact Bool.noConfusion h
  | asking | sleeping | fetching =>
    rw [hphase] at h
    exact hexpire h

/-- Nothing comes of an event that a watch does not wait for. -/
theorem Watch.react_of_not_awaits {w : Watch} {event : WatchEvent}
    (h : w.phase.awaits w.poll event = false) (hne : event ≠ .raised) :
    w.react event = w.ignore := by
  obtain ⟨plan, poll, raised, phase⟩ := w
  cases phase with
  | «over» result => rfl
  | asking =>
    cases event with
    | raised => exact absurd rfl hne
    | expired => exact expire_of_untimed h
    | status answer => exact Bool.noConfusion h
    | woken | noticed | performances answer => rfl
  | sleeping =>
    cases event with
    | raised => exact absurd rfl hne
    | expired => exact expire_of_untimed h
    | woken | noticed => exact Bool.noConfusion h
    | status answer | performances answer => rfl
  | fetching =>
    cases event with
    | raised => exact absurd rfl hne
    | expired => exact expire_of_untimed h
    | performances answer => exact Bool.noConfusion h
    | status answer | woken | noticed => rfl

namespace Waiter

theorem follow_cons (raised : Bool) (event : WatchEvent) (events : List WatchEvent)
    (w : Waiter) :
    w.follow raised (event :: events) = (w.react raised event).follow raised events := rfl

theorem react_of_ne {event : WatchEvent} (hne : event ≠ .raised) (raised : Bool) (w : Waiter) :
    w.react raised event = w.keep ({ w.watch with raised := raised }.react event) := by
  cases event with
  | raised => exact absurd rfl hne
  | status answer | woken | noticed | performances answer | expired => rfl

theorem watches_react (w : Waiter) (raised : Bool) (event : WatchEvent) :
    (w.react raised event).watch.plan = w.watch.plan ∧
      (w.react raised event).watch.poll = w.watch.poll := by
  cases event with
  | raised => exact ⟨rfl, rfl⟩
  | status answer | woken | noticed | performances answer | expired =>
    exact Watch.watches_react { w.watch with raised := raised } _

/-- What an event of which nothing comes leaves as it is. -/
theorem react_of_not_awaits {w : Waiter} {event : WatchEvent} (raised : Bool)
    (h : w.watch.phase.awaits w.watch.poll event = false) :
    (w.react raised event).asked = w.asked ∧
      ∃ raised', (w.react raised event).watch = { w.watch with raised := raised' } := by
  by_cases hne : event = .raised
  · subst hne
    exact ⟨rfl, w.watch.raised, rfl⟩
  · have hreact : { w.watch with raised := raised }.react event =
        { w.watch with raised := raised }.ignore := Watch.react_of_not_awaits h hne
    rw [react_of_ne hne, hreact]
    exact ⟨List.append_nil _, raised, rfl⟩

/-- Who has come to the end of a wait does nothing more. -/
theorem follow_of_over {w : Waiter} {result : Except ExperimentError (List Performance)}
    (h : w.watch.phase = .over result) (raised : Bool) (events : List WatchEvent) :
    (w.follow raised events).asked = w.asked ∧
      (w.follow raised events).watch.phase = .over result := by
  induction events generalizing w with
  | nil => exact ⟨rfl, h⟩
  | cons event events ih =>
    have hnot : w.watch.phase.awaits w.watch.poll event = false := by
      rw [h]
      rfl
    obtain ⟨hasked, raised', hwatch⟩ := react_of_not_awaits raised hnot
    have hover : (w.react raised event).watch.phase = .over result := by
      rw [hwatch]
      exact h
    obtain ⟨hasked', hphase⟩ := ih hover
    exact ⟨hasked'.trans hasked, hphase⟩

/-- A wait that an event ends does nothing more. -/
theorem abortsBy_of_over {w : Waiter} {event : WatchEvent}
    {result : Except ExperimentError (List Performance)}
    (hover : (w.react true event).watch.phase = .over result)
    (hasked : (w.react true event).asked = w.asked ++ []) (events : List WatchEvent)
    (hend : Aborted w.watch.plan w.watch.poll w.watch.phase (event :: events) [] (.over result)) :
    w.AbortsBy (event :: events) (w.follow true (event :: events)) := by
  obtain ⟨hrest, hphase⟩ := follow_of_over hover true events
  rw [AbortsBy, follow_cons, hphase]
  exact ⟨[], hrest.trans hasked, hend⟩

/-- The reply to the last question arrives when the signal is raised. -/
theorem abortsBy_of_reply {plan : PlanKey} {poll : PollSettings} {raised : Bool}
    {asked₀ : List Question} {notices : List Notice} {events : List WatchEvent}
    (later : ∀ w : Waiter, w.AbortsBy events (w.follow true events))
    (reply : Except BackendError PlanStatus) :
    let w : Waiter := ⟨⟨plan, poll, raised, .asking⟩, asked₀, notices⟩
    w.AbortsBy (.status reply :: events) (w.follow true (.status reply :: events)) := by
  intro w
  -- a plan at work lets the wait sleep, and the rest is as before
  have working {s : PlanStatus} (hs : s.isTerminal = false)
      (hsleeps : w.react true (.status (.ok s)) =
        ⟨⟨plan, poll, true, .sleeping⟩, asked₀ ++ [], notices ++ [.planStatus plan s]⟩) :
      w.AbortsBy (.status (.ok s) :: events) (w.follow true (.status (.ok s) :: events)) := by
    obtain ⟨asked, hasked, hend⟩ := later (w.react true (.status (.ok s)))
    rw [hsleeps] at hasked hend
    rw [follow_cons, hsleeps]
    exact ⟨asked, hasked.trans (congrArg (· ++ asked) (List.append_nil asked₀)), .working hs hend⟩
  cases reply with
  | error e => exact abortsBy_of_over rfl rfl events (.error e)
  | ok status =>
    cases status with
    | failed => exact abortsBy_of_over rfl rfl events .failed
    | canceled => exact abortsBy_of_over rfl rfl events .canceled
    | waiting => exact working rfl rfl
    | running => exact working rfl rfl
    | done =>
      obtain ⟨asked, hasked, hend⟩ := later (w.react true (.status (.ok .done)))
      refine ⟨.performances :: asked, hasked.trans ?_, .done hend⟩
      exact List.append_assoc asked₀ [.performances] asked

/-- **What a wait still does when the signal is raised.** -/
theorem abortsBy_follow (w : Waiter) (events : List WatchEvent) :
    w.AbortsBy events (w.follow true events) := by
  induction events generalizing w with
  | nil => exact ⟨[], (List.append_nil _).symm, .nil⟩
  | cons event events ih =>
    cases h : w.watch.phase.awaits w.watch.poll event with
    | false =>
      obtain ⟨hasked, raised', hwatch⟩ := react_of_not_awaits true h
      obtain ⟨asked, hrest, hend⟩ := ih (w.react true event)
      rw [hwatch] at hend
      exact ⟨asked, hrest.trans (by rw [hasked]), .skip h hend⟩
    | true =>
      obtain ⟨⟨plan, poll, raised, phase⟩, asked₀, notices⟩ := w
      cases event with
      | raised => cases phase <;> exact Bool.noConfusion h
      | expired =>
        obtain ⟨seconds, hreact⟩ := Watch.react_expired_of_awaits (w := ⟨plan, poll, true, phase⟩) h
        have hstop := congrArg (keep ⟨⟨plan, poll, raised, phase⟩, asked₀, notices⟩) hreact
        exact abortsBy_of_over (congrArg (·.watch.phase) hstop) (congrArg (·.asked) hstop) events
          (.expired h)
      | woken =>
        cases phase with
        | sleeping => exact abortsBy_of_over rfl rfl events .woken
        | asking | fetching | «over» result => exact Bool.noConfusion h
      | noticed =>
        cases phase with
        | sleeping => exact abortsBy_of_over rfl rfl events .noticed
        | asking | fetching | «over» result => exact Bool.noConfusion h
      | performances reply =>
        cases phase with
        | fetching =>
          cases reply with
          | error e => exact abortsBy_of_over rfl rfl events (.fetched (.error e))
          | ok scores => exact abortsBy_of_over rfl rfl events (.fetched (.ok scores))
        | asking | sleeping | «over» result => exact Bool.noConfusion h
      | status reply =>
        cases phase with
        | asking => exact abortsBy_of_reply ih reply
        | sleeping | fetching | «over» result => exact Bool.noConfusion h

/-- A wait whose signal is not raised does not notice that there is one. -/
theorem react_false {w : Waiter} (h : w.watch.raised = false) (event : WatchEvent) :
    w.react false event = w.keep (w.watch.reactAlone event) := by
  have hself : w.keep w.watch.ignore = w := by simp [keep, Watch.ignore]
  obtain ⟨⟨plan, poll, raised, phase⟩, asked, notices⟩ := w
  subst h
  cases event with
  | raised => cases phase <;> exact hself.symm
  | status reply | woken | noticed | performances reply | expired => cases phase <;> rfl

theorem raised_reactAlone (w : Watch) (event : WatchEvent) :
    (w.reactAlone event).watch.raised = w.raised := by
  unfold Watch.reactAlone
  split
  · rfl
  · exact w.raised_expire
  · exact w.raised_hear _
  · rfl
  · exact w.raised_receive _
  · rfl

/-- **A wait whose signal is never raised is a wait that knows nothing of abort channels.** -/
theorem follow_false_begin (plan : PlanKey) (poll : PollSettings) (events : List WatchEvent) :
    (begin (Watch.start plan poll false)).follow false events = alone plan poll events := by
  have hfollow (w : Waiter) (h : w.watch.raised = false) : w.follow false events =
      events.foldl (fun w event => w.keep (w.watch.reactAlone event)) w := by
    induction events generalizing w with
    | nil => rfl
    | cons event events ih =>
      rw [follow_cons, react_false h, List.foldl_cons]
      exact ih _ ((raised_reactAlone _ _).trans h)
  exact hfollow _ rfl

/-- A watch that knows nothing of abort channels does not say that somebody has asked. -/
theorem reactAlone_ne_aborted {w : Watch} (h : ∀ p, w.phase ≠ .over (.error (.aborted p)))
    (event : WatchEvent) (p : PlanKey) :
    (w.reactAlone event).watch.phase ≠ .over (.error (.aborted p)) := by
  unfold Watch.reactAlone
  split
  · exact h p
  · unfold Watch.expire
    split
    · simp [Watch.stop]
    · exact h p
  · unfold Watch.hear
    split <;> simp [Watch.stop]
  · simp [Watch.askAlone]
  · unfold Watch.receive
    split <;> simp [Watch.stop]
  · exact h p

theorem alone_ne_aborted (plan : PlanKey) (poll : PollSettings) (events : List WatchEvent)
    (p : PlanKey) : (alone plan poll events).watch.phase ≠ .over (.error (.aborted p)) := by
  have hfold (w : Waiter) (h : ∀ p, w.watch.phase ≠ .over (.error (.aborted p))) :
      (events.foldl (fun w event => w.keep (w.watch.reactAlone event)) w).watch.phase ≠
        .over (.error (.aborted p)) := by
    induction events generalizing w with
    | nil => exact h p
    | cons event events ih => exact ih _ (reactAlone_ne_aborted h event)
  exact hfold _ (by simp [begin, Watch.askAlone])

end Waiter

theorem Aborted.status_not_mem {plan : PlanKey} {poll : PollSettings} {phase final : WatchPhase}
    {events : List WatchEvent} {asked : List Question}
    (h : Aborted plan poll phase events asked final) : Question.status ∉ asked := by
  induction h with
  | nil | noticed | woken | expired | failed | canceled | error | fetched => exact List.not_mem_nil
  | skip _ _ ih | working _ _ ih => exact ih
  | done _ ih => simpa using ih

end Federation
