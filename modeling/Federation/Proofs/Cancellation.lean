import Federation.Proofs.Lifecycle

/-!
# Canceling a plan

Whoever asks for the cancellation of a plan is told whether the plan had not come to its end. The
execution does not hear of it at once: it looks at the flag between two tasks, and reports an end of
its own in any case, in whatever order the steps come. So a cancellation that was granted has to
stand against every later report, and the task that is under way may still be run.

What is seen in a history is the list of what is seen in each of its events, in the state in which
the event happens (`LocalBackend.observed`).

* `Record.Lawful.status_advance_eq_canceled_iff`: the execution never cancels its own plan;
* `LocalBackend.count_cancelAnswers`: a plan is canceled as often as a cancellation was granted;
* `LocalBackend.tasksRun_of_canceled`: after that only a task is run of which it had been looked
  before whether the plan was canceled;
* `cancellation_decisive`: what a cancellation decides.
-/

namespace Federation

/-! ## What is seen in a history -/

namespace LocalBackend

/-- What is seen in the events of a history, of each in the state in which it happens. -/
def observed {α : Type} (look : LocalBackend → Event → Option α) :
    LocalBackend → List Event → List α
  | _, [] => []
  | b, ev :: rest => (look b ev).toList ++ observed look (b.step ev) rest

/-- The answer to whoever asks for the cancellation of a plan. -/
def cancelAnswer? (key : PlanKey) (b : LocalBackend) : Event → Option Bool
  | .cancel k => if k = key then (b.cancel k).outcome.toOption else none
  | _ => none

/-- The answers to all who ask for the cancellation of a plan, in order. -/
def cancelAnswers (key : PlanKey) : LocalBackend → List Event → List Bool :=
  observed (cancelAnswer? key)

end LocalBackend

/-- The task that is under way: it has been looked whether the plan was canceled, and the task is
what the execution does next. -/
def Record.taskUnderWay? (r : Record) : Option Task :=
  match r.stage with
  | .calling _ t _ => some t
  | _ => none

/-- The task before which the execution looks next whether the plan was canceled. -/
def Record.taskToCheck? (r : Record) : Option Task :=
  match r.stage with
  | .between x => x.remaining.head?
  | _ => none

namespace LocalBackend

/-- The task of a plan that is under way. -/
def taskUnderWay? (b : LocalBackend) (key : PlanKey) : Option Task :=
  (b.get? key).bind Record.taskUnderWay?

/-- The task of a plan before which it is looked next whether the plan was canceled. -/
def taskToCheck? (b : LocalBackend) (key : PlanKey) : Option Task :=
  (b.get? key).bind Record.taskToCheck?

/-- The task of a plan that is run in an event. -/
def taskRun? (key : PlanKey) (b : LocalBackend) : Event → Option Task
  | .advance k _ => if k = key then b.taskUnderWay? k else none
  | _ => none

/-- The tasks of a plan that are run, in order. -/
def tasksRun (key : PlanKey) : LocalBackend → List Event → List Task :=
  observed (taskRun? key)

/-! ## One event -/

/-- Events that neither execute nor cancel a plan. -/
def Event.SparesPlan (key : PlanKey) (ev : Event) : Prop :=
  ev.key ≠ key ∨ ev = .read key

variable {b : LocalBackend} {key : PlanKey} {p : Plan} {r : Record}

/-- An event executes the plan by a step, cancels it, or spares it. -/
theorem step_cases (hr : b.get? key = some r) {ev : Event} (hev : ∀ q, ev ≠ .submit key q) :
    (∃ answers, ev = .advance key answers ∧
      (b.step ev).get? key = some (r.advance key answers).1) ∨
    (ev = .cancel key ∧ (b.step ev).get? key = some r.cancel) ∨
    (ev.SparesPlan key ∧ (b.step ev).get? key = some r) := by
  by_cases hk : ev.key = key
  · subst hk
    cases ev with
    | submit k q => exact absurd rfl (hev q)
    | advance k answers =>
      refine .inl ⟨answers, rfl, ?_⟩
      exact (get?_step_advance b k answers).trans (congrArg (Option.map _) hr)
    | cancel k =>
      refine .inr (.inl ⟨rfl, ?_⟩)
      exact (get?_step_cancel b k).trans (congrArg (Option.map _) hr)
    | read k => exact .inr (.inr ⟨.inr rfl, hr⟩)
  · exact .inr (.inr ⟨.inl hk, (get?_step_of_ne b hk).trans hr⟩)

theorem outcome_cancel (hr : b.get? key = some r) :
    (b.cancel key).outcome = .ok (!r.status.isTerminal) := by
  cases ht : r.status.isTerminal <;> simp [cancel, record, hr, ht]

theorem cancelAnswer?_cancel (hr : b.get? key = some r) :
    cancelAnswer? key b (.cancel key) = some (!r.status.isTerminal) := by
  simp [cancelAnswer?, outcome_cancel hr, Except.toOption]

theorem taskRun?_advance (hr : b.get? key = some r) (answers : Answers) :
    taskRun? key b (.advance key answers) = r.taskUnderWay? := by
  simp [taskRun?, taskUnderWay?, hr]

theorem cancelAnswer?_of_spares {ev : Event} (h : ev.SparesPlan key) :
    cancelAnswer? key b ev = none := by
  rcases h with hk | rfl
  · cases ev with
    | cancel k => exact if_neg hk
    | submit k q | advance k answers | read k => rfl
  · rfl

theorem taskRun?_of_spares {ev : Event} (h : ev.SparesPlan key) : taskRun? key b ev = none := by
  rcases h with hk | rfl
  · cases ev with
    | advance k answers => exact if_neg hk
    | submit k q | cancel k | read k => rfl
  · rfl

end LocalBackend

/-! ## Who cancels a plan -/

namespace Record

/-- How often a plan was canceled. -/
def cancellations (r : Record) : Nat :=
  if r.status = .canceled then 1 else 0

/-- A cancellation counts unless the plan was at its end before. -/
theorem cancellations_cancel (r : Record) :
    r.cancel.cancellations = [!r.status.isTerminal].count true + r.cancellations := by
  cases ht : r.status.isTerminal with
  | true => simp [cancel_of_terminal ht]
  | false =>
    have hs : r.status ≠ .canceled := fun e => by simp [e, PlanStatus.isTerminal] at ht
    simp [cancel_of_not_terminal ht, cancellations, hs]

theorem canceled_advance (r : Record) (key : PlanKey) (answers : Answers) :
    (r.advance key answers).1.canceled = r.canceled := by
  unfold advance
  cases r.stage with
  | accepted q | reporting o => dsimp only [setStatus]; split <;> rfl
  | between x | calling x t rest | finished => rfl

theorem canceled_cancel {r : Record} (h : r.canceled = true) : r.cancel.canceled = true := by
  unfold cancel
  split
  · exact h
  · rfl

theorem taskUnderWay?_cancel (r : Record) : r.cancel.taskUnderWay? = r.taskUnderWay? := by
  unfold cancel
  split <;> rfl

/-- Of a canceled plan no further task gets under way. -/
theorem taskUnderWay?_advance {r : Record} (h : r.canceled = true) (key : PlanKey)
    (answers : Answers) : (r.advance key answers).1.taskUnderWay? = none := by
  unfold advance taskUnderWay?
  cases hst : r.stage with
  | accepted q | reporting o => rfl
  | finished => simp only [hst]
  | between x => cases hx : x.remaining <;> simp [afterCheck, hx, h]
  | calling x t rest => cases hx : x.runNext answers t rest <;> simp [afterTask, hx]

variable {p : Plan} {r : Record}

/-- The execution never cancels its own plan: it reports a cancellation only when the plan has been
canceled. -/
theorem Lawful.status_advance_eq_canceled_iff (h : r.Lawful p) (key : PlanKey)
    (answers : Answers) :
    (r.advance key answers).1.status = .canceled ↔ r.status = .canceled := by
  have hstage := h.stage
  unfold Record.advance
  cases hst : r.stage with
  | accepted q =>
    rw [hst] at hstage
    obtain ⟨-, hs | hs⟩ := hstage <;> simp [setStatus, hs, PlanStatus.isTerminal]
  | between x | calling x t rest | finished => rfl
  | reporting o =>
    rw [hst] at hstage
    obtain ⟨hs | hs, hcanceled, -⟩ := hstage
    · have ho : o ≠ .canceled := fun e => by simp [hcanceled e] at hs
      cases o with
      | canceled => exact absurd rfl ho
      | done scores | failed e | crashed =>
        simp [setStatus, hs, PlanStatus.isTerminal, PlanOutcome.status]
    · simp [setStatus, hs, PlanStatus.isTerminal]

theorem Lawful.cancellations_advance (h : r.Lawful p) (key : PlanKey) (answers : Answers) :
    (r.advance key answers).1.cancellations = r.cancellations := by
  simp only [cancellations, h.status_advance_eq_canceled_iff]

end Record

/-! ## Histories -/

namespace LocalBackend

variable {b : LocalBackend} {key : PlanKey} {p : Plan} {r : Record}

/-- A plan is canceled as often as somebody who asked for it was told so. -/
theorem count_cancelAnswers (hr : b.get? key = some r) (h : r.Lawful p) {history : List Event}
    (fresh : Unsubmitted key history) :
    ∃ r', (b.after history).get? key = some r' ∧ r'.Lawful p ∧
      r'.cancellations = (cancelAnswers key b history).count true + r.cancellations := by
  induction history generalizing b r with
  | nil => exact ⟨r, hr, h, by simp [cancelAnswers, observed]⟩
  | cons ev rest ih =>
    have hrest : Unsubmitted key rest := fun e he => fresh e (List.mem_cons_of_mem _ he)
    have hanswers : cancelAnswers key b (ev :: rest) =
        (cancelAnswer? key b ev).toList ++ cancelAnswers key (b.step ev) rest := rfl
    rw [hanswers, List.count_append]
    obtain ⟨answers, rfl, hr₁⟩ | ⟨rfl, hr₁⟩ | ⟨hspares, hr₁⟩ :=
      step_cases hr (fresh ev (List.mem_cons_self ..))
    · obtain ⟨r', hr', h', hcount⟩ := ih hr₁ (h.advance key answers).1 hrest
      refine ⟨r', hr', h', ?_⟩
      rw [hcount, h.cancellations_advance]
      simp [cancelAnswer?]
    · obtain ⟨r', hr', h', hcount⟩ := ih hr₁ h.cancel.1 hrest
      refine ⟨r', hr', h', ?_⟩
      rw [hcount, Record.cancellations_cancel, cancelAnswer?_cancel hr, Option.toList_some]
      omega
    · obtain ⟨r', hr', h', hcount⟩ := ih hr₁ h hrest
      refine ⟨r', hr', h', ?_⟩
      rw [hcount, cancelAnswer?_of_spares hspares]
      simp

/-- A plan is canceled exactly when somebody who asked for it was told so. -/
theorem exists_record_canceled_iff (b : LocalBackend) (accepted : p.fault? = none)
    {history : List Event} (fresh : Unsubmitted key history) :
    ∃ r, ((b.step (.submit key p)).after history).get? key = some r ∧ r.Lawful p ∧
      (cancelAnswers key (b.step (.submit key p)) history).count true = r.cancellations ∧
      (true ∈ cancelAnswers key (b.step (.submit key p)) history ↔ r.status = .canceled) := by
  have hsubmit := b.get?_step_submit key accepted
  obtain ⟨r, hr, h, hcount⟩ := count_cancelAnswers hsubmit (Record.lawful_accepted p) fresh
  have hanswers : (cancelAnswers key (b.step (.submit key p)) history).count true =
      r.cancellations := by
    rw [hcount]
    rfl
  refine ⟨r, hr, h, hanswers, ?_⟩
  rw [← List.count_pos_iff, hanswers]
  unfold Record.cancellations
  split <;> simp_all

/-- After a cancellation no task is run but the one that was under way. -/
theorem tasksRun_of_canceled (hr : b.get? key = some r) (h : r.canceled = true)
    {history : List Event} (fresh : Unsubmitted key history) :
    tasksRun key b history <+: r.taskUnderWay?.toList := by
  induction history generalizing b r with
  | nil => exact List.nil_prefix
  | cons ev rest ih =>
    have hrest : Unsubmitted key rest := fun e he => fresh e (List.mem_cons_of_mem _ he)
    have htasks : tasksRun key b (ev :: rest) =
        (taskRun? key b ev).toList ++ tasksRun key (b.step ev) rest := rfl
    rw [htasks]
    obtain ⟨answers, rfl, hr₁⟩ | ⟨rfl, hr₁⟩ | ⟨hspares, hr₁⟩ :=
      step_cases hr (fresh ev (List.mem_cons_self ..))
    · -- The task under way is run here, so that nothing is under way for the rest.
      have hlater := ih hr₁ ((r.canceled_advance key answers).trans h) hrest
      rw [Record.taskUnderWay?_advance h, Option.toList_none, List.prefix_nil] at hlater
      have hrun : (taskRun? key b (.advance key answers)).toList ++
          tasksRun key (b.step (.advance key answers)) rest = r.taskUnderWay?.toList := by
        rw [taskRun?_advance hr, hlater, List.append_nil]
      exact hrun ▸ List.prefix_rfl
    · have hlater := ih hr₁ (Record.canceled_cancel h) hrest
      rwa [Record.taskUnderWay?_cancel] at hlater
    · rw [taskRun?_of_spares hspares]
      exact ih hr₁ h hrest

/-- A record in which it is still to be looked whether the plan was canceled has no task under
way. -/
theorem taskUnderWay?_of_toCheck {t : Task} (h : r.taskToCheck? = some t) :
    r.taskUnderWay? = none := by
  unfold Record.taskToCheck? at h
  unfold Record.taskUnderWay?
  cases hst : r.stage with
  | between x => rfl
  | accepted q | calling x t rest | reporting o | finished => simp [hst] at h

end LocalBackend

open LocalBackend in
/-- **A cancellation is decisive.** After a plan was accepted, take any history. Whoever asks now
for the cancellation of the plan is told that it comes too late exactly when the status is terminal.
At most one of all who asked was told otherwise. If one was, the plan is canceled and has no scores
now, and the plan is canceled only then. From that cancellation on, no task is run of which it is
looked afterwards whether the plan was canceled; at most the one task is run that was under way. -/
theorem cancellation_decisive (b : LocalBackend) (key : PlanKey) (p : Plan) (history : List Event)
    (accepted : p.fault? = none) (fresh : Unsubmitted key history) :
    let submitted := b.step (.submit key p)
    let now := submitted.after history
    let answers := cancelAnswers key submitted history
    (∃ s, now.status key = .ok s ∧ (now.cancel key).outcome = .ok (!s.isTerminal)) ∧
    answers.count true ≤ 1 ∧
    (true ∈ answers → now.status key = .ok .canceled ∧ now.performances key = .ok []) ∧
    (now.status key = .ok .canceled → true ∈ answers) ∧
    ∀ earlier later, history = earlier ++ .cancel key :: later →
      cancelAnswer? key (submitted.after earlier) (.cancel key) = some true →
      let canceled := (submitted.after earlier).step (.cancel key)
      tasksRun key canceled later <+: ((submitted.after earlier).taskUnderWay? key).toList ∧
      (tasksRun key canceled later).length ≤ 1 ∧
      ∀ middle last, later = middle ++ last →
        ((canceled.after middle).taskToCheck? key).isSome →
        tasksRun key (canceled.after middle) last = [] := by
  intro submitted now answers
  have hsubmit : submitted.get? key = some (.accepted p) := b.get?_step_submit key accepted
  obtain ⟨r, hnow, h, hcount, hmem⟩ : ∃ r, now.get? key = some r ∧ r.Lawful p ∧
      answers.count true = r.cancellations ∧ (true ∈ answers ↔ r.status = .canceled) :=
    exists_record_canceled_iff b accepted fresh
  have hstatus : now.status key = .ok r.status := by
    simp only [LocalBackend.status, LocalBackend.record, hnow, Except.map]
  have hscores : now.performances key = .ok r.performances := by
    simp only [LocalBackend.performances, LocalBackend.record, hnow, Except.map]
  have hle : r.cancellations ≤ 1 := by
    unfold Record.cancellations
    split <;> omega
  refine ⟨⟨r.status, hstatus, outcome_cancel hnow⟩, hcount ▸ hle, fun hgranted => ?_,
    fun hs => ?_, ?_⟩
  · have hs := hmem.mp hgranted
    rw [hstatus, hscores, hs, h.empty (by simp [hs])]
    exact ⟨rfl, rfl⟩
  · exact hmem.mpr (by simpa [hstatus] using hs)
  · intro earlier later hhistory hgranted canceled
    have hearlier : Unsubmitted key earlier := fun ev hev => fresh ev (by simp [hhistory, hev])
    have hlater : Unsubmitted key later := fun ev hev => fresh ev (by simp [hhistory, hev])
    obtain ⟨r₁, hr₁, -, -⟩ := lawful_after hsubmit (Record.lawful_accepted p) hearlier
    have ht : r₁.status.isTerminal = false := by
      rw [cancelAnswer?_cancel hr₁] at hgranted
      simpa using hgranted
    have hcanceled : canceled.get? key = some r₁.cancel :=
      (get?_step_cancel _ key).trans (congrArg (Option.map _) hr₁)
    have hflag : r₁.cancel.canceled = true := by rw [Record.cancel_of_not_terminal ht]
    have hrun := tasksRun_of_canceled hcanceled hflag hlater
    rw [Record.taskUnderWay?_cancel] at hrun
    have hunderWay : (submitted.after earlier).taskUnderWay? key = r₁.taskUnderWay? := by
      simp [LocalBackend.taskUnderWay?, hr₁]
    refine ⟨hunderWay ▸ hrun, ?_, fun middle last hsplit hcheck => ?_⟩
    · exact Nat.le_trans hrun.length_le Option.length_toList_le
    · have hmiddle : Unsubmitted key middle := fun ev hev => hlater ev (by simp [hsplit, hev])
      have hlast : Unsubmitted key last := fun ev hev => hlater ev (by simp [hsplit, hev])
      obtain ⟨r₂, hr₂, hflag₂⟩ := exists_record_after (I := fun r => r.canceled = true) hcanceled
        hflag (fun r answers h => (r.canceled_advance key answers).trans h)
        (fun r h => Record.canceled_cancel h) hmiddle
      obtain ⟨t, ht₂⟩ := Option.isSome_iff_exists.mp hcheck
      have hnone : r₂.taskUnderWay? = none :=
        taskUnderWay?_of_toCheck (by simpa [LocalBackend.taskToCheck?, hr₂] using ht₂)
      have hrun₂ := tasksRun_of_canceled hr₂ hflag₂ hlast
      rwa [hnone, Option.toList_none, List.prefix_nil] at hrun₂

open LocalBackend in
/-- The first task of a plan is under way when the plan is canceled. It is run, but nothing is after
it, and whoever asks later is told that it is too late. -/
theorem cancellation_of_running_plan :
    let p := Plan.trainAndTest ⟨"node"⟩ default
    let key := PlanKey.drawn 0
    let next := Event.advance key fun _ => .error (.crash .algorithm)
    let history := [next, next] ++ .cancel key :: [next, .cancel key, next, next]
    let submitted := LocalBackend.empty.step (.submit key p)
    p.fault? = none ∧ Unsubmitted key history ∧
      cancelAnswers key submitted history = [true, false] ∧
      (submitted.after history).status key = .ok .canceled ∧
      (submitted.after history).performances key = .ok [] := by
  intro p key next history submitted
  have accepted : p.fault? = none := by decide
  have fresh : Unsubmitted key history := by simp [Unsubmitted, history, next]
  have granted : cancelAnswers key submitted history = [true, false] := by decide
  obtain ⟨-, -, hcanceled, -, -⟩ :=
    cancellation_decisive LocalBackend.empty key p history accepted fresh
  exact ⟨accepted, fresh, granted, hcanceled (by
    show true ∈ cancelAnswers key submitted history
    rw [granted]
    exact List.mem_cons_self ..)⟩

end Federation
