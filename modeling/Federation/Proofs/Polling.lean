import Federation.Rehearsal.Run
import Federation.Proofs.Parties

/-!
# Waiting follows the backend

A backend is anything that answers questions about plans: it may keep a state, take its time, fail,
and answer whatever it likes. Whoever waits for a plan on it asks for the status again and again, as
long as the answers say that the plan is waiting or running. The first other answer decides: if the
plan is done its scores are fetched, and in any other case the wait is over.

The calls are those that a log on the backend's side holds (`Party.logged`); keeping the log changes
nothing else (`Timeline.watch_logged`).

* `Timeline.Conforms`: what the log of a wait that goes on, or is over, looks like;
* `Timeline.Conforms.step`: each step keeps this, and a step out of two makes one more call;
* `Timeline.wait_follows_backend`: what a wait without end asks, and how it ends.
-/

namespace Federation

variable {σ : Type}

/-- A backend that keeps a log of the calls on it. -/
def Party.logged (p : Party σ) : Party (σ × List BackendCall) :=
  p.loggedAs fun call => call

/-! ## What a wait asks -/

/-- How a wait ends: with the last reply about the status, the calls after it, and the result. -/
inductive WaitEnd (plan : PlanKey) : Except BackendError PlanStatus → List BackendCall →
    Except ExperimentError (List Performance) → Prop
  /-- The plan is done, and its scores are fetched; the reply is the result. -/
  | done (reply : Except BackendError (List Performance)) :
    WaitEnd plan (.ok .done) [.performances plan reply] (reply.mapError .backend)
  | failed : WaitEnd plan (.ok .failed) [] (.error (.executionFailed plan))
  | canceled : WaitEnd plan (.ok .canceled) [] (.error (.canceled plan))
  | error (e : BackendError) : WaitEnd plan (.error e) [] (.error (.backend e))

/-- The calls about the status of a plan to which the given statuses were the replies. -/
def BackendCall.statuses (plan : PlanKey) (replies : List PlanStatus) : List BackendCall :=
  replies.map fun s => .status plan (.ok s)

/-- The calls that a wait for a plan has made, by what it is doing: about the status, as long as the
replies say that the plan is at work, and then those with which the wait ends. -/
inductive WaitCalls (plan : PlanKey) : WatchPhase → List BackendCall → Prop
  /-- The last reply is on its way. -/
  | asking {pending : List PlanStatus} (atWork : ∀ s ∈ pending, s.isTerminal = false)
    (reply : Except BackendError PlanStatus) :
    WaitCalls plan .asking (BackendCall.statuses plan pending ++ [.status plan reply])
  | sleeping {pending : List PlanStatus} (atWork : ∀ s ∈ pending, s.isTerminal = false) :
    WaitCalls plan .sleeping (BackendCall.statuses plan pending)
  | over {pending : List PlanStatus} (atWork : ∀ s ∈ pending, s.isTerminal = false)
    {last : Except BackendError PlanStatus} {fetched : List BackendCall}
    {result : Except ExperimentError (List Performance)} (ends : WaitEnd plan last fetched result) :
    WaitCalls plan (.over result)
      (BackendCall.statuses plan pending ++ .status plan last :: fetched)

namespace Timeline

/-- What a wait has asked after a number of steps, and what it waits for: after replies that the
plan is at work, for one more reply or for the end of a sleep. Or it is over. -/
def Asked (plan : PlanKey) (steps : Nat) (pending : List PlanStatus)
    (t : Timeline (σ × List BackendCall)) : WatchPhase → Prop
  | .asking => t.wake = none ∧ steps ≤ 2 * pending.length ∧ ∃ time a, t.answer = some (time, a) ∧
      t.party.2 = BackendCall.statuses plan pending ++ [.status plan a.answer]
  | .sleeping => t.answer = none ∧ steps + 1 ≤ 2 * pending.length ∧ (∃ time, t.wake = some time) ∧
      t.party.2 = BackendCall.statuses plan pending
  | .fetching => False
  | .over result => ∃ last fetched,
      t.party.2 = BackendCall.statuses plan pending ++ .status plan last :: fetched ∧
        WaitEnd plan last fetched result

/-- A wait for a plan, without an end of its own, that has asked what it should. -/
structure Conforms (plan : PlanKey) (steps : Nat) (pending : List PlanStatus)
    (t : Timeline (σ × List BackendCall)) : Prop where
  watches : t.watch.plan = plan
  untimed : t.watch.poll.timeout = none
  endless : t.deadline = none
  atWork : ∀ s ∈ pending, s.isTerminal = false
  asked : t.Asked plan steps pending t.watch.phase

/-! ### What a step keeps -/

theorem raised_apply (p : Party σ) (t : Timeline σ) {r : Reaction} (h : r.watch.raised = true) :
    (t.apply p r).watch.raised = true := by
  unfold apply
  cases r.question with
  | none => dsimp only; split <;> exact h
  | some q =>
    cases q with
    | status => exact h
    | performances => exact Watch.raised_of_raised h _

theorem raised_notice {t : Timeline σ} (p : Party σ) (h : t.watch.raised = true) :
    (t.notice p).watch.raised = true := by
  unfold notice
  split
  · rw [if_pos h]
    exact raised_apply p t (Watch.raised_of_raised h .noticed)
  · exact h

theorem raised_raise {t : Timeline σ} (p : Party σ) (h : t.watch.isOver = false) :
    (t.raise p).watch.raised = true := by
  unfold Watch.isOver at h
  change (t.watch.react .raised).watch.raised = true
  unfold Watch.react
  cases hphase : t.watch.phase with
  | «over» result => simp [hphase] at h
  | asking | sleeping | fetching => rfl

/-- If the signal is not raised after an answer has arrived, nobody has raised it just before. -/
theorem fire_answer_of_quiet {t : Timeline σ} (p : Party σ) (a : StatusAnswer)
    (ho : t.watch.isOver = false) (h : (t.fire p (.answer a)).watch.raised = false) :
    t.fire p (.answer a) =
      ({ t with answer := none }.apply p (t.watch.react (.status a.answer))).notice p := by
  cases hraises : a.raises && t.abortable with
  | false => simp only [fire, hraises, Bool.false_eq_true, if_false]
  | true =>
    simp only [fire, hraises, if_true] at h
    have hraised : ({ t with answer := none }.raise p).watch.raised = true := raised_raise p ho
    rw [raised_notice p (raised_apply p _ (Watch.raised_of_raised hraised _))] at h
    exact absurd h (by simp)

variable {p : Party σ} {t : Timeline (σ × List BackendCall)} {plan : PlanKey} {steps : Nat}
  {pending : List PlanStatus}

/-- A watch that may ask does so. -/
theorem conforms_ask (hplan : t.watch.plan = plan) (huntimed : t.watch.poll.timeout = none)
    (hendless : t.deadline = none) (hwork : ∀ s ∈ pending, s.isTerminal = false)
    (hraised : t.watch.raised = false) (hsteps : steps ≤ 2 * pending.length)
    (hlog : t.party.2 = BackendCall.statuses plan pending) :
    (t.apply p.logged t.watch.ask).Conforms plan steps pending := by
  have hask : t.watch.ask = ⟨{ t.watch with phase := .asking }, some .status, []⟩ := by
    simp [Watch.ask, hraised]
  rw [hask]
  refine ⟨hplan, huntimed, hendless, hwork, rfl, hsteps, _, _, rfl, ?_⟩
  change t.party.2 ++ [BackendCall.status t.watch.plan _] = _
  rw [hlog, hplan]

/-- A watch that hears that the plan is done fetches the scores, and is over. -/
theorem apply_done (p : Party σ) (t : Timeline (σ × List BackendCall)) :
    ∃ reply, let t' := t.apply p.logged (t.watch.hear (.ok .done))
      t'.watch = { t.watch with phase := .over (reply.mapError .backend) } ∧
        t'.deadline = t.deadline ∧
        t'.party.2 = t.party.2 ++ [.performances t.watch.plan reply] := by
  refine ⟨(p.performances (p.note t.party.1 [.planDone t.watch.plan]) t.watch.plan).1, ?_, rfl, rfl⟩
  change (Watch.react _ (.performances
    (p.performances (p.note t.party.1 [.planDone t.watch.plan]) t.watch.plan).1)).watch = _
  cases (p.performances (p.note t.party.1 [.planDone t.watch.plan]) t.watch.plan).1 <;> rfl

/-- A watch hears the reply to what it asked. -/
theorem conforms_hear (hplan : t.watch.plan = plan) (huntimed : t.watch.poll.timeout = none)
    (hendless : t.deadline = none) (hwork : ∀ s ∈ pending, s.isTerminal = false)
    (hanswer : t.answer = none) (hsteps : steps ≤ 2 * pending.length)
    (reply : Except BackendError PlanStatus)
    (hlog : t.party.2 = BackendCall.statuses plan pending ++ [.status plan reply]) :
    ∃ pending', (t.apply p.logged (t.watch.hear reply)).Conforms plan (steps + 1) pending' := by
  subst hplan
  have working {s : PlanStatus} (hs : s.isTerminal = false) :
      ∀ s' ∈ pending ++ [s], s'.isTerminal = false := by
    simpa [or_imp, forall_and, hs] using hwork
  have counted {s : PlanStatus} : steps + 1 + 1 ≤ 2 * (pending ++ [s]).length := by
    rw [List.length_append, List.length_singleton]
    omega
  have appended {s : PlanStatus} : BackendCall.statuses t.watch.plan pending ++
      [.status t.watch.plan (.ok s)] = BackendCall.statuses t.watch.plan (pending ++ [s]) := by
    simp [BackendCall.statuses]
  cases reply with
  | error e => exact ⟨pending, rfl, huntimed, hendless, hwork, _, _, hlog, .error e⟩
  | ok s =>
    cases s with
    | done =>
      obtain ⟨reply, hwatch, hdeadline, hcalls⟩ := apply_done p t
      rw [hlog, List.append_assoc, List.singleton_append] at hcalls
      refine ⟨pending, ?_, ?_, hdeadline.trans hendless, hwork, ?_⟩
      · rw [hwatch]
      · rw [hwatch]
        exact huntimed
      · rw [hwatch]
        exact ⟨_, _, hcalls, .done reply⟩
    | failed => exact ⟨pending, rfl, huntimed, hendless, hwork, _, _, hlog, .failed⟩
    | canceled => exact ⟨pending, rfl, huntimed, hendless, hwork, _, _, hlog, .canceled⟩
    | waiting =>
      exact ⟨pending ++ [.waiting], rfl, huntimed, hendless, working rfl, hanswer, counted,
        ⟨_, rfl⟩, hlog.trans appended⟩
    | running =>
      exact ⟨pending ++ [.running], rfl, huntimed, hendless, working rfl, hanswer, counted,
        ⟨_, rfl⟩, hlog.trans appended⟩

/-- Nobody who is not raised notices that. -/
theorem notice_of_quiet {t : Timeline σ} (p : Party σ) (h : (t.notice p).watch.raised = false) :
    t.notice p = t := by
  cases hraised : t.watch.raised with
  | true =>
    rw [raised_notice p hraised] at h
    exact absurd h (by simp)
  | false =>
    unfold notice
    split
    · rw [if_neg (by simp [hraised])]
    · rfl

theorem mem_of_earliest {l : List (Nat × Timer)} {x : Nat × Timer} (h : earliest l = some x) :
    x ∈ l := by
  induction l with
  | nil => cases h
  | cons y rest ih =>
    unfold earliest at h
    cases hrest : earliest rest with
    | none =>
      rw [hrest] at h
      cases h
      exact List.mem_cons_self
    | some z =>
      rw [hrest] at h
      dsimp only at h
      split at h
      · cases h
        exact List.mem_cons_self
      · exact List.mem_cons_of_mem _ (ih (hrest.trans h))

theorem earliest_ne_none {l : List (Nat × Timer)} (h : l ≠ []) : earliest l ≠ none := by
  cases l with
  | nil => exact absurd rfl h
  | cons x rest =>
    unfold earliest
    split
    · simp
    · split <;> simp

theorem watch_moveTo (p : Party σ) (t : Timeline σ) (time : Nat) :
    (t.moveTo p time).watch = t.watch := by
  unfold moveTo
  split <;> rfl

theorem answer_moveTo (p : Party σ) (t : Timeline σ) (time : Nat) :
    (t.moveTo p time).answer = t.answer := by
  unfold moveTo
  split <;> rfl

namespace Conforms

theorem asked_of_phase (h : t.Conforms plan steps pending) {phase : WatchPhase}
    (hphase : t.watch.phase = phase) : t.Asked plan steps pending phase :=
  hphase ▸ h.asked

/-- What a wait has asked depends on its timers, its watch and the log. -/
theorem of_eq (h : t.Conforms plan steps pending) {t' : Timeline (σ × List BackendCall)}
    (hwatch : t'.watch = t.watch) (hdeadline : t'.deadline = t.deadline)
    (hanswer : t'.answer = t.answer) (hwake : t'.wake = t.wake) (hlog : t'.party.2 = t.party.2) :
    t'.Conforms plan steps pending := by
  obtain ⟨hplan, huntimed, hendless, hwork, hasked⟩ := h
  rw [← hwatch] at hplan huntimed hasked
  refine ⟨hplan, huntimed, hdeadline.trans hendless, hwork, ?_⟩
  generalize t'.watch.phase = phase at hasked ⊢
  cases phase with
  | asking | sleeping | «over» result => simpa only [Asked, hanswer, hwake, hlog] using hasked
  | fetching => exact hasked

theorem moveTo (h : t.Conforms plan steps pending) (p : Party σ) (time : Nat) :
    (t.moveTo p.logged time).Conforms plan steps pending := by
  unfold Timeline.moveTo
  split
  · exact h.of_eq rfl rfl rfl rfl rfl
  · exact h

/-- The answer about the status arrives. -/
theorem fire_answer (h : t.Conforms plan steps pending) (p : Party σ) {time : Nat}
    {a : StatusAnswer} (hphase : t.watch.phase = .asking) (hanswer : t.answer = some (time, a))
    (quiet : (t.fire p.logged (.answer a)).watch.raised = false) :
    ∃ pending', (t.fire p.logged (.answer a)).Conforms plan (steps + 1) pending' := by
  obtain ⟨-, hsteps, time', a', hanswer', hlog⟩ := h.asked_of_phase hphase
  obtain ⟨rfl, rfl⟩ : time = time' ∧ a = a' := by simpa [hanswer] using hanswer'
  have hfire := fire_answer_of_quiet p.logged a (by simp [Watch.isOver, hphase]) quiet
  rw [hfire] at quiet ⊢
  rw [notice_of_quiet p.logged quiet]
  have hreact : t.watch.react (.status a.answer) = t.watch.hear a.answer := by
    simp [Watch.react, hphase]
  rw [hreact]
  exact conforms_hear (t := { t with answer := none }) h.watches h.untimed h.endless h.atWork rfl
    hsteps a.answer hlog

/-- The sleep is over. -/
theorem fire_wake (h : t.Conforms plan steps pending) (p : Party σ)
    (hphase : t.watch.phase = .sleeping)
    (quiet : (t.fire p.logged .wake).watch.raised = false) :
    (t.fire p.logged .wake).Conforms plan (steps + 1) pending := by
  obtain ⟨-, hsteps, -, hlog⟩ := h.asked_of_phase hphase
  have hraised : t.watch.raised = false := by
    cases hraised : t.watch.raised with
    | true =>
      have hwoken := raised_apply p.logged t (Watch.raised_of_raised hraised .woken)
      exact absurd hwoken (by simpa [fire] using quiet)
    | false => rfl
  have hreact : t.watch.react .woken = t.watch.ask := by simp [Watch.react, hphase]
  rw [fire, hreact]
  exact conforms_ask h.watches h.untimed h.endless h.atWork hraised hsteps hlog

/-- The only timers of a wait without end that asks: the answer arrives, or the signal is raised. -/
theorem timer_of_asking (h : t.Conforms plan steps pending) (hphase : t.watch.phase = .asking)
    {next : Nat × Timer} (hnext : next ∈ t.timers) :
    next.2 = .abort ∨ ∃ a, t.answer = some (next.1, a) ∧ next.2 = .answer a := by
  obtain ⟨hwake, -, time, a, hanswer, -⟩ := h.asked_of_phase hphase
  simp only [timers, hwake, hanswer, h.endless, Option.map_none, Option.map_some,
    Option.toList_none, Option.toList_some, List.append_nil, List.mem_append, Option.mem_toList,
    Option.map_eq_some_iff, List.mem_singleton] at hnext
  obtain ⟨_, -, rfl⟩ | rfl := hnext
  · exact .inl rfl
  · exact .inr ⟨a, hanswer, rfl⟩

/-- The only timers of a wait without end that sleeps: the sleep ends, or the signal is raised. -/
theorem timer_of_sleeping (h : t.Conforms plan steps pending) (hphase : t.watch.phase = .sleeping)
    {next : Nat × Timer} (hnext : next ∈ t.timers) :
    next.2 = .abort ∨ next.2 = .wake := by
  obtain ⟨hanswer, -, ⟨time, hwake⟩, -⟩ := h.asked_of_phase hphase
  simp only [timers, hwake, hanswer, h.endless, Option.map_none, Option.map_some,
    Option.toList_none, Option.toList_some, List.append_nil, List.mem_append, Option.mem_toList,
    Option.map_eq_some_iff, List.mem_singleton] at hnext
  obtain ⟨_, -, rfl⟩ | rfl := hnext
  · exact .inl rfl
  · exact .inr rfl

/-- A wait that is not over has a timer. -/
theorem exists_earliest (h : t.Conforms plan steps pending) (ho : t.watch.isOver = false) :
    ∃ next, earliest t.timers = some next := by
  refine Option.ne_none_iff_exists'.mp (earliest_ne_none ?_)
  cases hphase : t.watch.phase with
  | asking =>
    obtain ⟨-, -, time, a, hanswer, -⟩ := h.asked_of_phase hphase
    simp [timers, hanswer]
  | sleeping =>
    obtain ⟨-, -, ⟨time, hwake⟩, -⟩ := h.asked_of_phase hphase
    simp [timers, hwake]
  | fetching => exact (h.asked_of_phase hphase).elim
  | «over» result => simp [Watch.isOver, hphase] at ho

/-- A wait without end that gives way wakes up afterwards. -/
theorem giveWay (h : t.Conforms plan steps pending) (p : Party σ)
    (hphase : t.watch.phase = .sleeping) (quiet : (t.giveWay p.logged).watch.raised = false) :
    (t.giveWay p.logged).Conforms plan (steps + 1) pending := by
  unfold Timeline.giveWay at quiet ⊢
  rw [if_neg (by simp [h.endless])] at quiet ⊢
  have hsettled : ({ t with party := p.logged.settle t.party } : Timeline _).Conforms plan steps
      pending := h.of_eq rfl rfl rfl rfl rfl
  exact hsettled.fire_wake p hphase quiet

/-- **One step of a wait keeps what it asks**, unless the signal is raised. -/
theorem step (h : t.Conforms plan steps pending) (p : Party σ)
    (quiet : (t.step p.logged).watch.raised = false) :
    ∃ pending', (t.step p.logged).Conforms plan (steps + 1) pending' := by
  cases ho : t.watch.isOver with
  | true =>
    rw [step_of_over p.logged ho]
    refine ⟨pending, h.watches, h.untimed, h.endless, h.atWork, ?_⟩
    cases hphase : t.watch.phase with
    | «over» result => exact h.asked_of_phase hphase
    | asking | sleeping | fetching => simp [Watch.isOver, hphase] at ho
  | false =>
    obtain ⟨⟨time, timer⟩, hnext⟩ := h.exists_earliest ho
    have hmem := mem_of_earliest hnext
    have hmoved := h.moveTo p time
    have howatch : (t.moveTo p.logged time).watch.isOver = false := by rw [watch_moveTo, ho]
    simp only [Timeline.step, ho, Bool.false_eq_true, if_false, hnext] at quiet ⊢
    -- nobody raises the signal in this step
    have hnoAbort : timer ≠ .abort := by
      rintro rfl
      have hraised := raised_notice p.logged (raised_raise p.logged
        (t := { t.moveTo p.logged time with abortAt := none }) howatch)
      exact absurd hraised (by simpa [fire] using quiet)
    cases hphase : t.watch.phase with
    | asking =>
      obtain rfl | ⟨a, hanswer, rfl⟩ := h.timer_of_asking hphase hmem
      · exact absurd rfl hnoAbort
      · have hmovedAnswer : (t.moveTo p.logged time).answer = some (time, a) := by
          rw [answer_moveTo, hanswer]
        exact hmoved.fire_answer p (watch_moveTo p.logged t time ▸ hphase) hmovedAnswer quiet
    | sleeping =>
      obtain rfl | rfl := h.timer_of_sleeping hphase hmem
      · exact absurd rfl hnoAbort
      · refine ⟨pending, ?_⟩
        dsimp only at quiet ⊢
        by_cases hway : (decide (time = t.now) && p.logged.busy t.party) = true
        · rw [if_pos hway] at quiet ⊢
          exact h.giveWay p hphase quiet
        · rw [if_neg hway] at quiet ⊢
          exact hmoved.fire_wake p (watch_moveTo p.logged t time ▸ hphase) quiet
    | fetching => exact (h.asked_of_phase hphase).elim
    | «over» result => simp [Watch.isOver, hphase] at ho

/-- The log of a wait. -/
theorem waitCalls (h : t.Conforms plan steps pending) :
    WaitCalls plan t.watch.phase t.party.2 := by
  cases hphase : t.watch.phase with
  | asking =>
    obtain ⟨-, -, time, a, -, hlog⟩ := h.asked_of_phase hphase
    exact hlog ▸ .asking h.atWork a.answer
  | sleeping =>
    obtain ⟨-, -, -, hlog⟩ := h.asked_of_phase hphase
    exact hlog ▸ .sleeping h.atWork
  | fetching => exact (h.asked_of_phase hphase).elim
  | «over» result =>
    obtain ⟨last, fetched, hlog, hend⟩ := h.asked_of_phase hphase
    exact hlog ▸ .over h.atWork hend

/-- A wait that goes on makes a call in at least one of two steps. -/
theorem lt_length (h : t.Conforms plan (2 * steps) pending) (ho : t.watch.isOver = false) :
    steps < t.party.2.length := by
  cases hphase : t.watch.phase with
  | asking =>
    obtain ⟨-, hsteps, time, a, -, hlog⟩ := h.asked_of_phase hphase
    simp only [hlog, BackendCall.statuses, List.length_append, List.length_map,
      List.length_singleton]
    omega
  | sleeping =>
    obtain ⟨-, hsteps, -, hlog⟩ := h.asked_of_phase hphase
    simp only [hlog, BackendCall.statuses, List.length_map]
    omega
  | fetching => exact (h.asked_of_phase hphase).elim
  | «over» result => simp [Watch.isOver, hphase] at ho

end Conforms

/-! ## Runs -/

/-- What happens in two runs, one after the other. -/
theorem run_add (p : Party σ) (m n : Nat) (t : Timeline σ) :
    run p (m + n) t = run p n (run p m t) := by
  induction m generalizing t with
  | zero => rw [Nat.zero_add, run]
  | succ m ih =>
    rw [Nat.succ_add, run, run]
    cases ho : t.watch.isOver with
    | true => rw [if_pos rfl, if_pos rfl, run_of_over p n ho]
    | false => simp only [Bool.false_eq_true, if_false, ih]

theorem run_succ (p : Party σ) (n : Nat) (t : Timeline σ) :
    run p (n + 1) t = (run p n t).step p := by
  rw [run_add, run]
  cases ho : (run p n t).watch.isOver with
  | true => rw [if_pos rfl, step_of_over p ho]
  | false => rfl

/-- A wait without end that nobody aborts has asked what it should, after any number of steps. -/
theorem conforms_run {t : Timeline (σ × List BackendCall)} (p : Party σ)
    (quiet : ∀ n, (run p.logged n t).watch.raised = false) (h : t.Conforms plan 0 pending)
    (n : Nat) : ∃ pending', (run p.logged n t).Conforms plan n pending' := by
  induction n with
  | zero => exact ⟨pending, h⟩
  | succ n ih =>
    obtain ⟨pending', hn⟩ := ih
    have hquiet := quiet (n + 1)
    rw [run_succ] at hquiet ⊢
    exact hn.step p hquiet

/-- The log changes nothing that a watch notices. -/
theorem watch_logged (p : Party σ) (party : σ) (plan : PlanKey) (poll : PollSettings)
    (raised : Bool) (abortAt : Option Nat) (abortable : Bool) (n : Nat) :
    (run p.logged n (start p.logged (party, []) plan poll raised abortAt abortable)).watch =
      (run p n (start p party plan poll raised abortAt abortable)).watch := by
  have hmaps : p.logged.Maps Prod.fst p := p.maps_loggedAs _
  rw [← map_start hmaps (party, []), ← map_run hmaps]
  rfl

theorem raised_of_start {p : Party σ} {party : σ} {poll : PollSettings} {raised : Bool}
    {abortAt : Option Nat} {abortable : Bool}
    (h : (start p party plan poll raised abortAt abortable).watch.raised = false) :
    raised = false := by
  cases raised with
  | true =>
    have hraised : (start p party plan poll true abortAt abortable).watch.raised = true :=
      raised_apply p _ rfl
    rw [hraised] at h
    exact Bool.noConfusion h
  | false => rfl

/-- A wait without end begins with a question. -/
theorem conforms_start (p : Party σ) (party : σ) {poll : PollSettings} {raised : Bool}
    (untimed : poll.timeout = none) (hraised : raised = false) (abortAt : Option Nat)
    (abortable : Bool) :
    (start p.logged (party, []) plan poll raised abortAt abortable).Conforms plan 0 [] := by
  subst hraised
  let deadline := poll.timeout.map fun limit => p.timers.limit (milliseconds limit)
  have hendless : deadline = none := by simp only [deadline, untimed, Option.map_none]
  let before : Timeline (σ × List BackendCall) :=
    ⟨0, ⟨plan, poll, false, .asking⟩, (party, []), none, none, deadline, abortAt, abortable, #[]⟩
  have hask : (before.apply p.logged before.watch.ask).Conforms plan 0 [] :=
    conforms_ask rfl untimed hendless (by simp) rfl (Nat.zero_le _) rfl
  exact hask

/-- **Waiting follows the backend.** However a backend answers, a wait without end on which nobody
raises the signal asks for the status of its plan until the first reply that is not that the plan is
waiting or running, and never after it. If the plan is done the scores are fetched once, and the
reply is the result; otherwise the result is the error of that reply. Nothing else is asked. The
wait goes on as long as it is not over: in two steps it makes at least one more call. -/
theorem wait_follows_backend (p : Party σ) (party : σ) (plan : PlanKey) (poll : PollSettings)
    (raised : Bool) (abortAt : Option Nat) (abortable : Bool) (untimed : poll.timeout = none)
    (quiet : ∀ n,
      (run p n (start p party plan poll raised abortAt abortable)).watch.raised = false) :
    let wait n := run p n (start p party plan poll raised abortAt abortable)
    let calls n := (run p.logged n
      (start p.logged (party, []) plan poll raised abortAt abortable)).party.2
    (∀ n, WaitCalls plan (wait n).watch.phase (calls n)) ∧
      ∀ k, (wait (2 * k)).watch.isOver = true ∨ k < (calls (2 * k)).length := by
  intro wait calls
  let t := start p.logged (party, []) plan poll raised abortAt abortable
  have hwatch (n : Nat) : (run p.logged n t).watch = (wait n).watch :=
    watch_logged p party plan poll raised abortAt abortable n
  have hquiet (n : Nat) : (run p.logged n t).watch.raised = false := by
    rw [hwatch]
    exact quiet n
  have hrun := conforms_run p hquiet
    (conforms_start p party untimed (raised_of_start (quiet 0)) abortAt abortable)
  refine ⟨fun n => ?_, fun k => ?_⟩
  · obtain ⟨pending, h⟩ := hrun n
    exact hwatch n ▸ h.waitCalls
  · obtain ⟨pending, h⟩ := hrun (2 * k)
    cases ho : (wait (2 * k)).watch.isOver with
    | true => exact .inl rfl
    | false => exact .inr (h.lt_length (by rw [hwatch, ho]))

/-- A backend that says that a plan is waiting, running, and done, and then has no scores. -/
def threeReplies : Script where
  statuses := [⟨.ok .waiting, 40, false⟩, ⟨.ok .running, 0, false⟩, ⟨.ok .done, 7, false⟩]
  repeatLast := false
  performances := .error (.unavailable "no scores")
  submit := .ok (.drawn 0)

/-- A wait on this backend, after a number of steps. -/
def waitOnThreeReplies (n : Nat) : Timeline (World × Nat) :=
  run (World.scriptedParty threeReplies) n
    (start (World.scriptedParty threeReplies) (.empty, 0) (.drawn 0) .default false none true)

theorem quiet_waitOnThreeReplies (n : Nat) : (waitOnThreeReplies n).watch.raised = false := by
  obtain h | h := Nat.lt_or_ge n 5
  · obtain rfl | rfl | rfl | rfl | rfl : n = 0 ∨ n = 1 ∨ n = 2 ∨ n = 3 ∨ n = 4 := by omega
    all_goals rfl
  · obtain ⟨m, rfl⟩ := Nat.exists_eq_add_of_le h
    have hover : (waitOnThreeReplies 5).watch.isOver = true := by rfl
    have hrest : waitOnThreeReplies (5 + m) = waitOnThreeReplies 5 :=
      (run_add _ 5 m _).trans (run_of_over _ m hover)
    rw [hrest]
    rfl

/-- The calls of a wait on this backend after five steps: it is over, with the error of the reply to
the question about the scores. -/
theorem waitCalls_of_threeReplies :
    (∀ n, (waitOnThreeReplies n).watch.raised = false) ∧
      ∃ calls, WaitCalls (.drawn 0) (.over (.error (.backend (.unavailable "no scores")))) calls ∧
        calls.length = 4 := by
  have h := (wait_follows_backend (World.scriptedParty threeReplies) (.empty, 0) (.drawn 0) .default
    false none true rfl quiet_waitOnThreeReplies).1 5
  exact ⟨quiet_waitOnThreeReplies, _, h, by rfl⟩

end Timeline

end Federation
