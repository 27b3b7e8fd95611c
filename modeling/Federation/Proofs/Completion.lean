import Mathlib.Algebra.GroupWithZero.Nat
import Mathlib.Logic.Function.Iterate
import Federation.Proofs.Cleaning

/-!
# Plans that run to their end

A backend executes a plan in small steps, between which anything may happen to the other plans. When
the algorithms are functions of their arguments and nobody cancels the plan, the small steps come to
what running the tasks one after the other comes to.

* `Record.iterate_act`: enough steps of a plan lead to its result, and further ones stay there,
  whatever the algorithms remember;
* `Record.iterate_turn`: so it is with algorithms that are functions of their arguments;
* `Conduct.submitted_of_advances`: a backend that makes these steps has the result;
* `LocalBackend.get?_after`: a history in which the plan is not interrupted makes these steps;
* `LocalBackend.result_of_finished`: so a plan that is finished has its result as its end;
* `LocalBackend.result_of_done`: and a plan that is done has come to its end, even if somebody asked
  for its cancellation.
-/

namespace Federation

/-- Algorithms that are functions of their arguments. -/
def Execution.Responder.pure (answers : Answers) : Execution.Responder Unit where
  reply _ := answers
  remember m _ := m

/-- The end of a plan with this result. -/
def PlanOutcome.ofResult : Except (Failure ExecutionError) (List Performance) → PlanOutcome
  | .ok scores => .done scores
  | .error f => .ofFailure f

/-- The end of a plan that nobody cancels. -/
def Plan.outcome (p : Plan) (answers : Answers) : PlanOutcome :=
  .ofResult (Execution.run (.pure answers) () p).2

namespace Execution

theorem runTasks_cons {σ : Type} (a : Responder σ) (t : Task) (rest : List Task) (m : σ) (s : Store)
    (scores : List Performance) :
    runTasks a (t :: rest) m s scores =
      let m' := (s.runTask t).call?.elim m (a.remember m)
      match (s.runTask t).result (a.reply m) with
      | .error f => (m', .error f)
      | .ok ran => runTasks a rest m' ran.1 (scores ++ ran.2.toList) := by
  cases hrun : (s.runTask t).result (a.reply m) <;> simp [runTasks, TaskRun.on, hrun]

end Execution

/-! ## The steps of a plan -/

namespace Record

open Execution (Responder runTasks runTasks_cons)

/-- The record after a step of the execution. -/
def turn (key : PlanKey) (answers : Answers) (r : Record) : Record :=
  (r.advance key answers).1

/-- The record of a plan that is running and was not canceled. -/
def running (stage : Stage) : Record :=
  ⟨.running, [], false, stage⟩

/-- The record of a plan that was not canceled and has come to its end. -/
def ended (o : PlanOutcome) : Record :=
  ⟨o.status, o.scores, false, .finished⟩

variable {σ : Type} (key : PlanKey) (a : Responder σ) (answers : Answers)

/-- A step of the execution, and what the algorithms remember after it. -/
def act (c : σ × Record) : σ × Record :=
  (c.2.call?.elim c.1 (a.remember c.1), c.2.turn key (a.reply c.1))

theorem act_accepted (m : σ) (p : Plan) :
    act key a (m, accepted p) = (m, running (.between (.start p))) := rfl

theorem act_reporting (m : σ) (o : PlanOutcome) :
    act key a (m, running (.reporting o)) = (m, ended o) := rfl

theorem act_of_nil {x : Execution} (m : σ) (h : x.remaining = []) :
    act key a (m, running (.between x)) = (m, running (.reporting (.done x.scores))) :=
  Prod.ext rfl (by simp only [act, turn, advance, running, afterCheck, h])

/-- Two steps: it is looked whether the plan was canceled, and a task runs. -/
theorem act_act_of_cons {x : Execution} {t : Task} {rest : List Task} (m : σ)
    (h : x.remaining = t :: rest) :
    act key a (act key a (m, running (.between x))) =
      ((x.store.runTask t).call?.elim m (a.remember m),
        running (afterTask x (a.reply m) t rest)) := by
  simp [act, turn, advance, running, afterCheck, h, call?]

theorem iterate_act_ended (n : Nat) (m : σ) (o : PlanOutcome) :
    (act key a)^[n] (m, ended o) = (m, ended o) :=
  Function.iterate_fixed rfl n

/-- A running plan ends with the result of the tasks that are left, two steps for each of them. -/
theorem iterate_act_between (m : σ) (x : Execution) {n : Nat}
    (hn : 2 * x.remaining.length + 2 ≤ n) :
    (act key a)^[n] (m, running (.between x)) =
      let ran := runTasks a x.remaining m x.store x.scores
      (ran.1, ended (.ofResult ran.2)) := by
  induction hx : x.remaining generalizing m x n with
  | nil =>
    obtain ⟨k, rfl⟩ : ∃ k, n = k + 2 := ⟨n - 2, by omega⟩
    rw [Function.iterate_add_apply]
    show (act key a)^[k] (act key a (act key a _)) = _
    rw [act_of_nil key a m hx, act_reporting, iterate_act_ended]
    rfl
  | cons t rest ih =>
    rw [hx, List.length_cons] at hn
    obtain ⟨k, rfl⟩ : ∃ k, n = k + 2 := ⟨n - 2, by omega⟩
    rw [Function.iterate_add_apply]
    show (act key a)^[k] (act key a (act key a _)) = _
    rw [act_act_of_cons key a m hx, afterTask, Execution.runNext, runTasks_cons]
    cases (x.store.runTask t).result (a.reply m) with
    | error f =>
      obtain ⟨k, rfl⟩ : ∃ l, k = l + 1 := ⟨k - 1, by omega⟩
      exact iterate_act_ended key a k _ _
    | ok ran =>
      have hk : 2 * rest.length + 2 ≤ k := by omega
      exact ih _ ⟨rest, ran.1, x.scores ++ ran.2.toList⟩ hk rfl

/-- An accepted plan ends with its result, after enough steps. -/
theorem iterate_act (m : σ) (p : Plan) {n : Nat} (hn : 2 * p.size + 3 ≤ n) :
    (act key a)^[n] (m, accepted p) =
      ((Execution.run a m p).1, ended (.ofResult (Execution.run a m p).2)) := by
  obtain ⟨k, rfl⟩ : ∃ k, n = k + 1 := ⟨n - 1, by omega⟩
  have hlength : (Execution.start p).remaining.length = p.size := p.length_tasks
  rw [Function.iterate_succ_apply, act_accepted]
  exact iterate_act_between key a m (.start p) (by omega)

/-- So does one whose algorithms remember nothing. -/
theorem iterate_turn (p : Plan) {n : Nat} (hn : 2 * p.size + 3 ≤ n) :
    (turn key answers)^[n] (accepted p) = ended (p.outcome answers) := by
  have hturn : Function.Semiconj Prod.snd (act key (.pure answers)) (turn key answers) :=
    fun _ => rfl
  rw [← hturn.iterate_right n ((), accepted p), iterate_act key _ () p hn]
  rfl

theorem turn_of_isFinished {r : Record} (h : r.isFinished = true) : turn key answers r = r := by
  unfold turn advance
  cases hs : r.stage with
  | finished => rfl
  | accepted q | between x | calling x t rest | reporting o => simp [isFinished, hs] at h

/-- A plan that is finished has ended with its result, however many steps it took. -/
theorem ended_of_isFinished (p : Plan) {n : Nat}
    (h : ((turn key answers)^[n] (accepted p)).isFinished = true) :
    (turn key answers)^[n] (accepted p) = ended (p.outcome answers) := by
  have hfixed := Function.iterate_fixed (turn_of_isFinished key answers h) (2 * p.size + 3)
  rw [← Function.iterate_add_apply, iterate_turn key answers p (by omega)] at hfixed
  exact hfixed.symm

/-- A terminal status stays, and the scores with it. -/
theorem turn_of_terminal {r : Record} (h : r.status.isTerminal = true) :
    (turn key answers r).status = r.status ∧
      (turn key answers r).performances = r.performances := by
  unfold turn advance
  cases r.stage with
  | accepted q | reporting o => simp only [setStatus_of_terminal _ _ _ _ h, and_self]
  | between x | calling x t rest | finished => exact ⟨rfl, rfl⟩

theorem iterate_of_terminal {r : Record} (h : r.status.isTerminal = true) (n : Nat) :
    ((turn key answers)^[n] r).status = r.status ∧
      ((turn key answers)^[n] r).performances = r.performances := by
  induction n generalizing r with
  | zero => exact ⟨rfl, rfl⟩
  | succ n ih =>
    obtain ⟨hstatus, hperformances⟩ := turn_of_terminal key answers h
    obtain ⟨hstatus', hperformances'⟩ := ih (hstatus ▸ h)
    rw [Function.iterate_succ_apply]
    exact ⟨hstatus'.trans hstatus, hperformances'.trans hperformances⟩

/-- A plan that is done has the scores of its result, however many steps it took. -/
theorem result_of_done (p : Plan) {n : Nat}
    (h : ((turn key answers)^[n] (accepted p)).status = .done) :
    (Execution.run (.pure answers) () p).2 =
      .ok ((turn key answers)^[n] (accepted p)).performances := by
  obtain ⟨hstatus, hperformances⟩ :=
    iterate_of_terminal key answers (by rw [h]; rfl) (2 * p.size + 3)
  rw [← Function.iterate_add_apply, iterate_turn key answers p (by omega)] at hstatus hperformances
  rw [h] at hstatus
  rw [← hperformances]
  generalize hresult : (Execution.run (.pure answers) () p).2 = result at hstatus ⊢
  simp only [ended, Plan.outcome, hresult] at hstatus ⊢
  cases result with
  | ok scores => rfl
  | error f => cases f <;> simp [PlanOutcome.ofResult, PlanOutcome.ofFailure,
      PlanOutcome.status] at hstatus

end Record

namespace Conduct

variable {σ : Type} {key : PlanKey} (a : Execution.Responder σ)

/-- Nothing but steps of the execution happens to a plan. -/
theorem foldl_move_advances {c : Conduct σ} {m : σ} {r : Record} (hm : c.memory = m)
    (hr : c.backend.get? key = some r) (n : Nat) :
    let c' := (List.replicate n Move.advance).foldl (move a key) c
    c'.memory = ((Record.act key a)^[n] (m, r)).1 ∧
      c'.backend.get? key = some ((Record.act key a)^[n] (m, r)).2 := by
  induction n generalizing c m r with
  | zero => exact ⟨hm, hr⟩
  | succ n ih =>
    subst hm
    rw [List.replicate_succ, List.foldl_cons, Function.iterate_succ_apply]
    refine ih ?_ ?_
    · simp only [move, LocalBackend.call?, hr, Option.bind_some]
    · simp only [move, LocalBackend.get?_step_advance, hr, Option.map_some]
      rfl

/-- After enough steps a plan has come to its result, and the algorithms remember its calls. -/
theorem submitted_of_advances (m : σ) (b : LocalBackend) {p : Plan} (accepted : p.fault? = none)
    {n : Nat} (hn : 2 * p.size + 3 ≤ n) :
    let c := submitted a m b key p (List.replicate n .advance)
    c.memory = (Execution.run a m p).1 ∧
      c.backend.get? key = some (.ended (.ofResult (Execution.run a m p).2)) := by
  have hsteps := foldl_move_advances a (c := ⟨m, b.step (.submit key p), []⟩) rfl
    (b.get?_step_submit key accepted) n
  rwa [Record.iterate_act key a m p hn] at hsteps

end Conduct

/-! ## Histories without an interruption -/

namespace LocalBackend

/-- Nothing happens to a plan but steps of its execution and questions about it. Anything may happen
to the other plans. -/
def Uninterrupted (key : PlanKey) (answers : Answers) (history : List Event) : Prop :=
  ∀ ev ∈ history, ev.key = key → ev = .advance key answers ∨ ev = .read key

/-- The number of steps that an event makes in the execution of a plan. -/
def Event.turns (key : PlanKey) : Event → Nat
  | .advance k _ => if k = key then 1 else 0
  | _ => 0

/-- The number of steps of the execution of a plan. -/
def turns (key : PlanKey) (history : List Event) : Nat :=
  (history.map (Event.turns key)).sum

variable {b : LocalBackend} {key : PlanKey} {answers : Answers}

theorem Event.turns_of_ne {ev : Event} (h : ev.key ≠ key) : ev.turns key = 0 := by
  cases ev with
  | advance k a => exact if_neg h
  | submit k p | cancel k | read k => rfl

/-- The record of a plan that is not interrupted has made its steps. -/
theorem get?_after {r : Record} (hr : b.get? key = some r) {history : List Event}
    (h : Uninterrupted key answers history) :
    (b.after history).get? key = some ((Record.turn key answers)^[turns key history] r) := by
  induction history generalizing b r with
  | nil => exact hr
  | cons ev rest ih =>
    have hrest : Uninterrupted key answers rest := fun e he => h e (List.mem_cons_of_mem _ he)
    show ((b.step ev).after rest).get? key = _
    simp only [turns, List.map_cons, List.sum_cons]
    by_cases hkey : ev.key = key
    · rcases h ev (List.mem_cons_self ..) hkey with rfl | rfl
      · have hstep : (b.step (.advance key answers)).get? key = some (r.turn key answers) := by
          rw [get?_step_advance, hr]
          rfl
        rw [ih hstep hrest, Event.turns, if_pos rfl, Nat.add_comm, Function.iterate_succ_apply]
        rfl
      · have hread : (Event.read key).turns key = 0 := rfl
        rw [hread, Nat.zero_add]
        exact ih hr hrest
    · rw [Event.turns_of_ne hkey, Nat.zero_add]
      exact ih ((b.get?_step_of_ne hkey).trans hr) hrest

variable (b)

/-- A plan that is not interrupted is finished after enough steps. -/
theorem isFinished_of_turns {p : Plan} (accepted : p.fault? = none) {history : List Event}
    (h : Uninterrupted key answers history) (hn : 2 * p.size + 3 ≤ turns key history) :
    ((b.step (.submit key p)).after history).isFinished key = true := by
  have hget := get?_after (b.get?_step_submit key accepted) h
  rw [Record.iterate_turn key answers p hn] at hget
  simp only [isFinished, hget, Record.isFinished, Record.ended]

/-- When it is finished, its status and its scores are those of its result. -/
theorem result_of_finished {p : Plan} (accepted : p.fault? = none) {history : List Event}
    (h : Uninterrupted key answers history)
    (hf : ((b.step (.submit key p)).after history).isFinished key = true) :
    let b' := (b.step (.submit key p)).after history
    b'.status key = .ok (p.outcome answers).status ∧
      b'.performances key = .ok (p.outcome answers).scores := by
  intro b'
  have hget := get?_after (b.get?_step_submit key accepted) h
  have hended := hget
  rw [isFinished, hget] at hf
  rw [Record.ended_of_isFinished key answers p hf] at hended
  have hb : b'.get? key = _ := hended
  constructor
  · simp only [status, record, hb, Except.map, Record.ended]
  · simp only [performances, record, hb, Except.map, Record.ended]

/-! ## Plans that are done -/

/-- The calls of a plan are answered in one way. The plan may be canceled, and anything may happen
to the other plans. -/
def Answered (key : PlanKey) (answers : Answers) (history : List Event) : Prop :=
  ∀ ev ∈ history, ev.key = key → ev = .advance key answers ∨ ev = .cancel key ∨ ev = .read key

variable {b}

/-- The steps of a plan are those of a plan that nobody cancels, as long as it is not canceled. -/
theorem exists_turns {r : Record} (hr : b.get? key = some r) {start : Record}
    (h : r.status = .canceled ∨ ∃ n, r = (Record.turn key answers)^[n] start)
    {history : List Event} (hh : Answered key answers history) :
    ∃ r', (b.after history).get? key = some r' ∧
      (r'.status = .canceled ∨ ∃ n, r' = (Record.turn key answers)^[n] start) := by
  induction history generalizing b r with
  | nil => exact ⟨r, hr, h⟩
  | cons ev rest ih =>
    have hrest : Answered key answers rest := fun e he => hh e (List.mem_cons_of_mem _ he)
    by_cases hkey : ev.key = key
    · rcases hh ev (List.mem_cons_self ..) hkey with rfl | rfl | rfl
      · have hstep : (b.step (.advance key answers)).get? key = some (r.turn key answers) := by
          rw [get?_step_advance, hr]
          rfl
        refine ih hstep ?_ hrest
        rcases h with hs | ⟨n, rfl⟩
        · exact .inl ((Record.turn_of_terminal key answers (by rw [hs]; rfl)).1.trans hs)
        · exact .inr ⟨n + 1, (Function.iterate_succ_apply' _ n start).symm⟩
      · have hstep : (b.step (.cancel key)).get? key = some r.cancel := by
          rw [get?_step_cancel, hr]
          rfl
        refine ih hstep ?_ hrest
        cases ht : r.status.isTerminal with
        | true => rwa [Record.cancel_of_terminal ht]
        | false => exact .inl (by rw [Record.cancel_of_not_terminal ht])
      · exact ih hr h hrest
    · exact ih ((b.get?_step_of_ne hkey).trans hr) h hrest

variable (b)

/-- When a plan is done, its tasks came to their end, and its scores are theirs. -/
theorem result_of_done {p : Plan} (accepted : p.fault? = none) {history : List Event}
    (h : Answered key answers history)
    (done : ((b.step (.submit key p)).after history).status key = .ok .done) :
    ∃ scores, ((b.step (.submit key p)).after history).performances key = .ok scores ∧
      (Execution.run (.pure answers) () p).2 = .ok scores := by
  obtain ⟨r, hr, hturns⟩ := exists_turns (b.get?_step_submit key accepted) (.inr ⟨0, rfl⟩) h
  have hdone : r.status = .done := by simpa [status, record, hr, Except.map] using done
  refine ⟨r.performances, by simp only [performances, record, hr, Except.map], ?_⟩
  rcases hturns with hcanceled | ⟨n, rfl⟩
  · rw [hdone] at hcanceled
    exact PlanStatus.noConfusion hcanceled
  · exact Record.result_of_done key answers p hdone

end LocalBackend

end Federation
