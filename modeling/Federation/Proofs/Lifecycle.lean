import Mathlib.Logic.Relation
import Federation.Proofs.Demand
import Federation.Proofs.RecordSteps

/-!
# The life of a submitted plan

A plan that was accepted waits, runs, and comes to an end: it is done, it failed, or it was
canceled. Two parties write its record. The execution sets the status at its beginning and at its
end, and looks at the cancellation flag between two tasks; whoever cancels sets the flag and the
status at once. Their steps come in any order, among the events of other plans.

The invariant (`Record.Lawful`) says for each stage of the execution which statuses the record can
have, and that the scores so far and the tests that are left make up the tests of the plan.

* `Record.Lawful.advance`, `Record.Lawful.cancel`: each step keeps the invariant, and moves the
  status by one admissible move or not at all (`Record.Follows`);
* `Record.upholds_advance`: what every task keeps is kept by every step;
* `LocalBackend.lawful_after`, `LocalBackend.upholds_after`: so it is after any history;
* `plan_lifecycle`: what can be seen of a plan.
-/

namespace Federation

/-! ## Admissible moves of the status -/

/-- The moves of the status of a plan. -/
inductive PlanStatus.Move : PlanStatus → PlanStatus → Prop
  | started : Move .waiting .running
  | succeeded : Move .running .done
  | failed : Move .running .failed
  | canceledWaiting : Move .waiting .canceled
  | canceledRunning : Move .running .canceled

theorem PlanStatus.Move.not_terminal {s s' : PlanStatus} (h : Move s s') :
    s.isTerminal = false := by
  cases h <;> rfl

/-! ## The tests of a plan -/

/-- The tests of a plan in order of rank. -/
def Plan.tests (p : Plan) : List TestTask :=
  p.tasks.filterMap Task.test?

/-- The tests in order are the tests of the plan. -/
theorem Plan.perm_tests (p : Plan) : p.tests.Perm p.testTasks := by
  have htrain : (p.trainTasks.map Task.train).filterMap Task.test? = [] :=
    List.filterMap_eq_nil_iff.mpr (by simp [Task.test?])
  have haggregate : (p.aggregateTasks.map Task.aggregate).filterMap Task.test? = [] :=
    List.filterMap_eq_nil_iff.mpr (by simp [Task.test?])
  have htest : (p.testTasks.map Task.test).filterMap Task.test? = p.testTasks := by
    simp [List.filterMap_map, Function.comp_def, Task.test?]
  have hkind : p.byKind.filterMap Task.test? = p.testTasks := by
    rw [byKind, List.filterMap_append, List.filterMap_append, htrain, haggregate, htest]
    rfl
  have h := p.perm_tasks.filterMap Task.test?
  rwa [hkind] at h

/-- Their ranks do not decrease. -/
theorem Plan.pairwise_tests (p : Plan) : p.tests.Pairwise fun s t => s.rank ≤ t.rank := by
  refine List.Pairwise.filterMap _ (fun t t' h s hs s' hs' => ?_)
    (RankOrder.pairwise_sort Task.rank p.byKind)
  cases t <;> cases hs
  cases t' <;> cases hs'
  exact h

/-- What a test says about its score beforehand: its key, its worker and its round. -/
def TestTask.origin (t : TestTask) : TaskKey × ParticipantId × Round :=
  (t.key, t.worker, t.round)

/-- What a score says about the test that it comes from. -/
def Performance.origin (s : Performance) : TaskKey × ParticipantId × Round :=
  (s.task, s.worker, s.round)

/-- The scores so far and the tests that are left are those of the plan, in order. -/
def Execution.Accounts (p : Plan) (x : Execution) : Prop :=
  x.scores.map Performance.origin ++ (x.remaining.filterMap Task.test?).map TestTask.origin =
    p.tests.map TestTask.origin

theorem Execution.accounts_start (p : Plan) : (start p).Accounts p := rfl

/-- A task that gives a score is a test, and the score is that of the test. -/
theorem Store.origin_of_runTask {s s' : Store} {answers : Answers} {t : Task}
    {score : Option Performance} (h : (s.runTask t).result answers = .ok (s', score)) :
    score.toList.map Performance.origin = (Task.test? t).toList.map TestTask.origin := by
  rw [runTask_eq] at h
  obtain ⟨y, hy, hran⟩ := exists_of_map_eq_ok h
  obtain ⟨-, rfl⟩ := Prod.mk.inj hran
  have hkind := Task.kind_of_gives hy
  cases t with
  | train t => rfl
  | aggregate t => rfl
  | test t =>
    cases y with
    | model o => cases hkind
    | average a => cases hkind
    | score value => rfl

theorem Execution.Accounts.runNext {p : Plan} {x y : Execution} (hx : x.Accounts p)
    {answers : Answers} {t : Task} {rest : List Task} (hr : x.remaining = t :: rest)
    (h : x.runNext answers t rest = .ok y) : y.Accounts p := by
  obtain ⟨⟨s', score⟩, hs, rfl⟩ := exists_of_map_eq_ok h
  have horigin := Store.origin_of_runTask hs
  have hcons : ((t :: rest).filterMap Task.test?).map TestTask.origin =
      (Task.test? t).toList.map TestTask.origin ++
        (rest.filterMap Task.test?).map TestTask.origin := by
    cases ht : Task.test? t <;> simp [ht]
  unfold Execution.Accounts at hx ⊢
  rw [hr, hcons, ← horigin] at hx
  simpa [List.append_assoc] using hx

/-! ## The invariant of a record -/

/-- What the stage of a plan's execution says about the status and the scores. -/
def Stage.Lawful (p : Plan) (status : PlanStatus) : Stage → Prop
  | .accepted q => q = p ∧ (status = .waiting ∨ status = .canceled)
  | .between x => (status = .running ∨ status = .canceled) ∧ x.Accounts p
  | .calling x t rest =>
    (status = .running ∨ status = .canceled) ∧ x.Accounts p ∧ x.remaining = t :: rest
  | .reporting o =>
    (status = .running ∨ status = .canceled) ∧ (o = .canceled → status = .canceled) ∧
      ∀ scores, o = .done scores →
        scores.map Performance.origin = p.tests.map TestTask.origin
  | .finished => status.isTerminal = true

/-- The invariant of the record of a plan. -/
structure Record.Lawful (p : Plan) (r : Record) : Prop where
  flag : r.canceled = true → r.status = .canceled
  empty : r.status ≠ .done → r.performances = []
  complete : r.status = .done →
    r.performances.map Performance.origin = p.tests.map TestTask.origin
  stage : r.stage.Lawful p r.status

/-- What one step does to what can be seen of a record. -/
structure Record.Follows (r r' : Record) : Prop where
  move : r'.status = r.status ∨ r.status.Move r'.status
  keeps : r.status.isTerminal = true → r'.performances = r.performances

namespace Record

/-- A step that leaves the status and the scores alone. -/
theorem follows_of_eq {r r' : Record} (hs : r'.status = r.status)
    (hp : r'.performances = r.performances) : r.Follows r' :=
  ⟨.inl hs, fun _ => hp⟩

/-- A step that moves the status. -/
theorem follows_of_move {r r' : Record} (h : r.status.Move r'.status) : r.Follows r' :=
  ⟨.inr h, fun ht => by rw [h.not_terminal] at ht; exact absurd ht (by simp)⟩

theorem lawful_accepted (p : Plan) : (accepted p).Lawful p where
  flag h := absurd h (by simp [accepted])
  empty _ := rfl
  complete h := absurd h (by simp [accepted])
  stage := ⟨rfl, .inl rfl⟩

namespace Lawful

variable {p : Plan} {r : Record}

/-- A record with another stage, of which the status is right. -/
theorem withStage (h : r.Lawful p) {stage : Stage} (hs : stage.Lawful p r.status) :
    ({ r with stage := stage } : Record).Lawful p :=
  ⟨h.flag, h.empty, h.complete, hs⟩

/-- A plan that runs was not canceled. -/
theorem not_canceled (h : r.Lawful p) (hs : r.status ≠ .canceled) : r.canceled = false := by
  cases hc : r.canceled with
  | false => rfl
  | true => exact absurd (h.flag hc) hs

theorem cancel (h : r.Lawful p) : r.cancel.Lawful p ∧ r.Follows r.cancel := by
  cases ht : r.status.isTerminal with
  | true =>
    rw [Record.cancel_of_terminal ht]
    exact ⟨h, follows_of_eq rfl rfl⟩
  | false =>
    rw [Record.cancel_of_not_terminal ht]
    have hperf : r.performances = [] := h.empty fun e => by simp [e, PlanStatus.isTerminal] at ht
    refine ⟨⟨fun _ => rfl, fun _ => hperf, fun e => absurd e (by simp), ?_⟩, follows_of_move ?_⟩
    · have hstage := h.stage
      dsimp only
      cases hst : r.stage with
      | accepted q =>
        rw [hst] at hstage
        exact ⟨hstage.1, .inr rfl⟩
      | between x =>
        rw [hst] at hstage
        exact ⟨.inr rfl, hstage.2⟩
      | calling x t rest =>
        rw [hst] at hstage
        exact ⟨.inr rfl, hstage.2⟩
      | reporting o =>
        rw [hst] at hstage
        exact ⟨.inr rfl, fun _ => rfl, hstage.2.2⟩
      | finished => rfl
    · dsimp only
      cases hs : r.status with
      | waiting => exact .canceledWaiting
      | running => exact .canceledRunning
      | done | failed | canceled => simp [hs, PlanStatus.isTerminal] at ht

/-- The first step: the status is set to running, unless the plan was canceled before. -/
theorem begin (h : r.Lawful p) (key : PlanKey) (hs : r.status = .waiting ∨ r.status = .canceled) :
    let r' : Record :=
      { (r.setStatus key .running []).1 with stage := .between (.start p) }
    r'.Lawful p ∧ r.Follows r' := by
  intro r'
  rcases hs with hs | hs
  · have hr' : r' =
        { r with status := .running, performances := [], stage := .between (.start p) } := by
      simp [r', setStatus, hs, PlanStatus.isTerminal]
    have hflag := h.not_canceled (by simp [hs])
    rw [hr']
    refine ⟨⟨fun e => ?_, fun _ => rfl, fun e => absurd e (by simp), ?_⟩, follows_of_move ?_⟩
    · simp [hflag] at e
    · exact ⟨.inl rfl, Execution.accounts_start p⟩
    · rw [hs]
      exact .started
  · have hr' : r' = { r with stage := .between (.start p) } := by
      simp [r', setStatus, hs, PlanStatus.isTerminal]
    rw [hr']
    exact ⟨h.withStage ⟨.inr hs, Execution.accounts_start p⟩, follows_of_eq rfl rfl⟩

/-- The last step: the outcome is reported, unless the plan was canceled before. -/
theorem report (h : r.Lawful p) (key : PlanKey) {o : PlanOutcome}
    (ho : (Stage.reporting o).Lawful p r.status) :
    let r' : Record := { (r.setStatus key o.status o.scores).1 with stage := .finished }
    r'.Lawful p ∧ r.Follows r' := by
  intro r'
  obtain ⟨hs | hs, hcanceled, hdone⟩ := ho
  · have hr' : r' =
        { r with status := o.status, performances := o.scores, stage := .finished } := by
      simp [r', setStatus, hs, PlanStatus.isTerminal]
    have hflag := h.not_canceled (by simp [hs])
    rw [hr']
    refine ⟨⟨fun e => ?_, fun e => ?_, fun e => ?_, o.isTerminal_status⟩, follows_of_move ?_⟩
    · simp [hflag] at e
    · cases o with
      | done scores => exact absurd rfl e
      | canceled | failed _ | crashed => rfl
    · cases o with
      | done scores => exact hdone scores rfl
      | canceled | failed _ | crashed => exact absurd e (by simp [PlanOutcome.status])
    · rw [hs]
      cases o with
      | done scores => exact .succeeded
      | canceled => exact absurd (hs.symm.trans (hcanceled rfl)) (by simp)
      | failed e => exact .failed
      | crashed => exact .failed
  · have hr' : r' = { r with stage := .finished } := by
      simp [r', setStatus, hs, PlanStatus.isTerminal]
    rw [hr']
    exact ⟨h.withStage (by simp [Stage.Lawful, hs, PlanStatus.isTerminal]), follows_of_eq rfl rfl⟩

theorem advance (h : r.Lawful p) (key : PlanKey) (answers : Answers) :
    (r.advance key answers).1.Lawful p ∧ r.Follows (r.advance key answers).1 := by
  have hstage := h.stage
  unfold Record.advance
  cases hst : r.stage with
  | accepted q =>
    rw [hst] at hstage
    obtain ⟨rfl, hs⟩ := hstage
    exact h.begin key hs
  | between x =>
    rw [hst] at hstage
    obtain ⟨hs, hx⟩ := hstage
    refine ⟨h.withStage ?_, follows_of_eq rfl rfl⟩
    unfold Record.afterCheck
    cases hr : x.remaining with
    | nil =>
      refine ⟨hs, nofun, fun scores e => ?_⟩
      cases e
      simpa [Execution.Accounts, hr] using hx
    | cons t rest =>
      cases hc : r.canceled with
      | true => exact ⟨hs, fun _ => h.flag hc, nofun⟩
      | false => exact ⟨hs, hx, hr⟩
  | calling x t rest =>
    rw [hst] at hstage
    obtain ⟨hs, hx, hr⟩ := hstage
    refine ⟨h.withStage ?_, follows_of_eq rfl rfl⟩
    unfold afterTask
    cases hy : x.runNext answers t rest with
    | ok y => exact ⟨hs, hx.runNext hr hy⟩
    | error f =>
      cases f with
      | error e => exact ⟨hs, nofun, nofun⟩
      | crash c => exact ⟨hs, nofun, nofun⟩
  | reporting o =>
    rw [hst] at hstage
    exact h.report key hstage
  | finished => exact ⟨h, follows_of_eq rfl rfl⟩

end Lawful

end Record

/-! ## Invariants of an execution -/

/-- What the stage of a plan's execution says, when the executions have some property and the errors
that they end with have another. -/
def Stage.Upholds (p : Plan) (I : Execution → Prop) (E : ExecutionError → Prop) : Stage → Prop
  | .accepted q => q = p
  | .between x => I x
  | .calling x t rest => I x ∧ x.remaining = t :: rest
  | .reporting o => ∀ err, o = .failed err → E err
  | .finished => True

namespace Record

variable {p : Plan} {I : Execution → Prop} {E : ExecutionError → Prop} {r : Record}

theorem upholds_cancel (h : r.stage.Upholds p I E) : r.cancel.stage.Upholds p I E := by
  unfold cancel
  split
  · exact h
  · exact h

/-- What is so before the first task, and is kept by every task, is kept by every step. -/
theorem upholds_advance (start : I (.start p))
    (next : ∀ {x y t rest answers}, I x → x.remaining = t :: rest →
      x.runNext answers t rest = .ok y → I y)
    (fails : ∀ {x t rest answers err}, I x → x.remaining = t :: rest →
      x.runNext answers t rest = .error (.error err) → E err)
    (h : r.stage.Upholds p I E) (key : PlanKey) (answers : Answers) :
    (r.advance key answers).1.stage.Upholds p I E := by
  unfold advance
  cases hst : r.stage with
  | accepted q =>
    rw [hst] at h
    obtain rfl : q = p := h
    exact start
  | between x =>
    rw [hst] at h
    show (r.afterCheck x).Upholds p I E
    unfold afterCheck
    cases hr : x.remaining with
    | nil => exact nofun
    | cons t rest =>
      cases r.canceled with
      | true => exact nofun
      | false => exact ⟨h, hr⟩
  | calling x t rest =>
    rw [hst] at h
    obtain ⟨hx, hr⟩ := h
    show (afterTask x answers t rest).Upholds p I E
    unfold afterTask
    cases hy : x.runNext answers t rest with
    | ok y => exact next hx hr hy
    | error f =>
      intro err herr
      cases f with
      | error e =>
        obtain rfl : e = err := PlanOutcome.failed.inj herr
        exact fails hx hr hy
      | crash c => cases herr
  | reporting o => trivial
  | finished =>
    show r.stage.Upholds p I E
    rw [hst]
    trivial

end Record

/-! ## Histories -/

/-- What any number of steps does to what can be seen of a record. -/
structure Record.Leads (r r' : Record) : Prop where
  reaches : Relation.ReflTransGen PlanStatus.Move r.status r'.status
  keeps : r.status.isTerminal = true → r'.status = r.status ∧ r'.performances = r.performances

theorem Record.Leads.refl (r : Record) : r.Leads r :=
  ⟨.refl, fun _ => ⟨rfl, rfl⟩⟩

/-- One more step, in front. -/
theorem Record.Follows.leads {r r' r'' : Record} (h : r.Follows r') (h' : r'.Leads r'') :
    r.Leads r'' := by
  refine ⟨?_, fun ht => ?_⟩
  · rcases h.move with hs | hm
    · rw [← hs]
      exact h'.reaches
    · exact .head hm h'.reaches
  · have hs : r'.status = r.status := h.move.resolve_right fun hm => by
      rw [hm.not_terminal] at ht
      exact absurd ht (by simp)
    obtain ⟨hs', hp'⟩ := h'.keeps (by rw [hs]; exact ht)
    exact ⟨hs'.trans hs, hp'.trans (h.keeps ht)⟩

namespace LocalBackend

/-- Nothing is submitted under a key. Keys are drawn so that no two submissions get the same. -/
def Unsubmitted (key : PlanKey) (history : List Event) : Prop :=
  ∀ ev ∈ history, ∀ p, ev ≠ .submit key p

variable {b : LocalBackend} {key : PlanKey} {p : Plan} {r : Record}

/-- What one event makes of the record of a plan: a step of its execution, a cancellation, or
nothing. -/
theorem record_step (hr : b.get? key = some r) {ev : Event} (hev : ∀ q, ev ≠ .submit key q) :
    ∃ r', (b.step ev).get? key = some r' ∧
      (r' = r ∨ r' = r.cancel ∨ ∃ answers, r' = (r.advance key answers).1) := by
  by_cases hk : ev.key = key
  · subst hk
    cases ev with
    | submit k q => exact absurd rfl (hev q)
    | advance k answers =>
      refine ⟨(r.advance k answers).1, ?_, .inr (.inr ⟨answers, rfl⟩)⟩
      exact (get?_step_advance b k answers).trans (congrArg (Option.map _) hr)
    | cancel k =>
      exact ⟨r.cancel, (get?_step_cancel b k).trans (congrArg (Option.map _) hr), .inr (.inl rfl)⟩
    | read k => exact ⟨r, hr, .inl rfl⟩
  · rw [get?_step_of_ne b hk]
    exact ⟨r, hr, .inl rfl⟩

/-- What steps of the execution and cancellations keep is kept by any history. -/
theorem exists_record_after {I : Record → Prop} (hr : b.get? key = some r) (h : I r)
    (advance : ∀ r answers, I r → I (r.advance key answers).1) (cancel : ∀ r, I r → I r.cancel)
    {history : List Event} (fresh : Unsubmitted key history) :
    ∃ r', (b.after history).get? key = some r' ∧ I r' := by
  induction history generalizing b r with
  | nil => exact ⟨r, hr, h⟩
  | cons ev rest ih =>
    have hrest : Unsubmitted key rest := fun e he => fresh e (List.mem_cons_of_mem _ he)
    obtain ⟨r', hr', rfl | rfl | ⟨answers, rfl⟩⟩ :=
      record_step hr (fresh ev (List.mem_cons_self ..))
    · exact ih hr' h hrest
    · exact ih hr' (cancel r h) hrest
    · exact ih hr' (advance r answers h) hrest

/-- An invariant of the executions of an accepted plan holds whatever happens to the backend. -/
theorem upholds_after (b : LocalBackend) (accepted : p.fault? = none) {I : Execution → Prop}
    {E : ExecutionError → Prop} (start : I (.start p))
    (next : ∀ {x y t rest answers}, I x → x.remaining = t :: rest →
      x.runNext answers t rest = .ok y → I y)
    (fails : ∀ {x t rest answers err}, I x → x.remaining = t :: rest →
      x.runNext answers t rest = .error (.error err) → E err)
    {history : List Event} (fresh : Unsubmitted key history) :
    ∃ r, ((b.step (.submit key p)).after history).get? key = some r ∧ r.stage.Upholds p I E :=
  exists_record_after (I := fun r => r.stage.Upholds p I E) (b.get?_step_submit key accepted) rfl
    (fun _ answers h => Record.upholds_advance start next fails h key answers)
    (fun _ => Record.upholds_cancel) fresh

/-- **One event keeps the invariant of a record**, whichever plan it is about. -/
theorem lawful_step (hr : b.get? key = some r) (h : r.Lawful p) {ev : Event}
    (hev : ∀ q, ev ≠ .submit key q) :
    ∃ r', (b.step ev).get? key = some r' ∧ r'.Lawful p ∧ r.Follows r' := by
  obtain ⟨r', hr', rfl | rfl | ⟨answers, rfl⟩⟩ := record_step hr hev
  · exact ⟨r', hr', h, Record.follows_of_eq rfl rfl⟩
  · exact ⟨_, hr', h.cancel⟩
  · exact ⟨_, hr', h.advance key answers⟩

/-- Any history keeps it. -/
theorem lawful_after (hr : b.get? key = some r) (h : r.Lawful p) {history : List Event}
    (fresh : Unsubmitted key history) :
    ∃ r', (b.after history).get? key = some r' ∧ r'.Lawful p ∧ r.Leads r' := by
  induction history generalizing b r with
  | nil => exact ⟨r, hr, h, .refl r⟩
  | cons ev rest ih =>
    obtain ⟨r₁, hr₁, h₁, hstep⟩ := lawful_step hr h (fresh ev (List.mem_cons_self ..))
    obtain ⟨r₂, hr₂, h₂, hrest⟩ := ih hr₁ h₁ fun e he => fresh e (List.mem_cons_of_mem _ he)
    exact ⟨r₂, hr₂, h₂, hstep.leads hrest⟩

/-- A history of at most one event makes at most one move. -/
theorem move_after (hr : b.get? key = some r) (h : r.Lawful p) {history : List Event}
    (fresh : Unsubmitted key history) (short : history.length ≤ 1) {r' : Record}
    (hr' : (b.after history).get? key = some r') :
    r'.status = r.status ∨ r.status.Move r'.status := by
  match history, short with
  | [], _ =>
    have heq : some r = some r' := hr.symm.trans hr'
    cases heq
    exact .inl rfl
  | [ev], _ =>
    obtain ⟨r₁, hr₁, -, hstep⟩ := lawful_step hr h (fresh ev (List.mem_singleton_self _))
    have heq : some r₁ = some r' := hr₁.symm.trans hr'
    cases heq
    exact hstep.move

end LocalBackend

open LocalBackend in
/-- **The life of a plan.** After a plan was accepted, look at it at two moments of any history. The
status only moves along waiting, running, done or failed, or from waiting or running to canceled,
and a single event makes at most one of these moves. Once it is terminal, neither the status nor the
scores change. There are no scores unless the plan is done, and then there is one for each of its
tests, in order of rank. When the execution has finished, the status is terminal. -/
theorem plan_lifecycle (b : LocalBackend) (key : PlanKey) (p : Plan) (earlier later : List Event)
    (accepted : p.fault? = none) (fresh : Unsubmitted key (earlier ++ later)) :
    let before := (b.step (.submit key p)).after earlier
    let now := before.after later
    ∃ s s' scores scores', before.status key = .ok s ∧ now.status key = .ok s' ∧
      before.performances key = .ok scores ∧ now.performances key = .ok scores' ∧
      Relation.ReflTransGen PlanStatus.Move .waiting s ∧
      Relation.ReflTransGen PlanStatus.Move s s' ∧
      (later.length ≤ 1 → s' = s ∨ s.Move s') ∧
      (s.isTerminal = true → s' = s ∧ scores' = scores) ∧
      (s ≠ .done → scores = []) ∧
      (s = .done → p.tests.Perm p.testTasks ∧ (p.tests.Pairwise fun t t' => t.rank ≤ t'.rank) ∧
        scores.map Performance.origin = p.tests.map TestTask.origin) ∧
      (before.isFinished key = true → s.isTerminal = true) := by
  intro before now
  have hsubmit : (b.step (.submit key p)).get? key = some (.accepted p) :=
    b.get?_step_submit key accepted
  obtain ⟨r, hr, h, hlead⟩ := lawful_after hsubmit (Record.lawful_accepted p)
    fun ev hev => fresh ev (List.mem_append_left _ hev)
  have fresh' : Unsubmitted key later := fun ev hev => fresh ev (List.mem_append_right _ hev)
  obtain ⟨r', hr', -, hlead'⟩ := lawful_after hr h fresh'
  have hbefore : before.get? key = some r := hr
  have hnow : now.get? key = some r' := hr'
  refine ⟨r.status, r'.status, r.performances, r'.performances, ?_, ?_, ?_, ?_, hlead.reaches,
    hlead'.reaches, fun short => move_after hr h fresh' short hr', hlead'.keeps, h.empty,
    fun hs => ⟨p.perm_tests, p.pairwise_tests, h.complete hs⟩, fun hf => ?_⟩
  · simp only [LocalBackend.status, LocalBackend.record, hbefore, Except.map]
  · simp only [LocalBackend.status, LocalBackend.record, hnow, Except.map]
  · simp only [LocalBackend.performances, LocalBackend.record, hbefore, Except.map]
  · simp only [LocalBackend.performances, LocalBackend.record, hnow, Except.map]
  · simp only [LocalBackend.isFinished, hbefore, Record.isFinished] at hf
    have hstage := h.stage
    cases hst : r.stage with
    | finished =>
      rw [hst] at hstage
      exact hstage
    | accepted q | between x | calling x t rest | reporting o => simp [hst] at hf

/-- A plan of a training and a test of what it gives, on one member. -/
def Plan.trainAndTest (member : ParticipantId) (algorithm : Algorithm) : Plan where
  tag := "train and test"
  cleanModels := true
  permissions := .ofMembers [member]
  trainTasks := [⟨.drawn 0, 0, 0, member, algorithm, default, [], none, none⟩]
  aggregateTasks := []
  testTasks := [⟨.drawn 1, 1, 0, member, .drawn 0, default, [], []⟩]

open LocalBackend in
/-- The plan begins to run, is canceled, and its execution goes on: the status moves as it may. -/
theorem plan_lifecycle_canceled :
    let p := Plan.trainAndTest ⟨"node"⟩ default
    let key := PlanKey.drawn 0
    let next := Event.advance key fun _ => .error (.crash .algorithm)
    let before := (LocalBackend.empty.step (.submit key p)).after [next]
    p.fault? = none ∧ Unsubmitted key ([next] ++ [.cancel key, next]) ∧
      ∃ s s', before.status key = .ok s ∧
        (before.after [.cancel key, next]).status key = .ok s' ∧
        Relation.ReflTransGen PlanStatus.Move s s' := by
  intro p key next before
  have accepted : p.fault? = none := by decide
  have fresh : Unsubmitted key ([next] ++ [.cancel key, next]) := by
    simp [Unsubmitted, next]
  obtain ⟨s, s', -, -, hs, hs', -, -, -, hreach, -⟩ :=
    plan_lifecycle LocalBackend.empty key p [next] [.cancel key, next] accepted fresh
  exact ⟨accepted, fresh, s, s', hs, hs', hreach⟩

end Federation
