import Federation.Proofs.Demand
import Federation.Proofs.RecordSteps

/-!
# Cleaning models is unobservable

A plan that cleans its models drops an output as soon as its counted consumers are gone. Against
the same plan that keeps everything, nothing shows: not in the calls of the algorithms, not in what
they are given, and not in how the plan ends.

The two executions go in step. The invariant (`Store.Agrees`) speaks of the keys that the remaining
tasks still name, with repetitions: the count of each key is the number of times that it is still
named, and the two stores hold the same under every key that is still named. What the cleaning store
has dropped is named by nobody.

* `Store.Agrees.consumed`: counting off one use keeps the invariant for the uses that are left;
* `Store.Agrees.runTask`: a task makes the same call in both stores and comes to the same end;
* `Record.Agrees.advance`: so does each step of a plan's execution;
* `cleaning_unobservable`: the calls, the scores, the errors and the statuses are the same.
-/

namespace Federation

namespace Store

/-! ## Counting consumers -/

theorem get?_countConsumers (uses : List TaskKey) (t : Table TaskKey Nat) (k : TaskKey) :
    (uses.foldl countConsumer t).get? k =
      if k ∈ uses then some ((t.get? k).getD 0 + uses.count k) else t.get? k := by
  induction uses generalizing t with
  | nil => simp
  | cons u rest ih =>
    rw [List.foldl_cons, ih, countConsumer, Table.get?_insert]
    by_cases hu : k = u
    · subst hu
      by_cases hr : k ∈ rest
      · simp [hr]
        omega
      · simp [hr, List.count_eq_zero_of_not_mem hr]
    · have hu' : ¬ u = k := fun h => hu h.symm
      simp [hu, hu']

/-! ## Stores that agree -/

/-- A store that drops outputs and one that keeps them hold the same under every key that is still
to be used, and the dropping one counts these uses. -/
structure Agrees (s plain : Store) (uses : List TaskKey) : Prop where
  cleans : s.cleanModels = true
  keeps : plain.cleanModels = false
  count : ∀ k, s.consumers.get? k = if k ∈ uses then some (uses.count k) else none
  trained : ∀ k ∈ uses, s.trained.get? k = plain.trained.get? k
  aggregated : ∀ k ∈ uses, s.aggregated.get? k = plain.aggregated.get? k

theorem agrees_ofTasks (tasks : List Task) :
    Agrees (ofTasks true tasks) (ofTasks false tasks) (tasks.flatMap Task.inputs) where
  cleans := rfl
  keeps := rfl
  count k := by
    rw [ofTasks, get?_countConsumers]
    simp
  trained _ _ := rfl
  aggregated _ _ := rfl

namespace Agrees

variable {s plain : Store} {uses : List TaskKey} {key : TaskKey}

/-- Counting off a use that is not the last one of its key drops nothing. -/
theorem consumed_of_mem (h : Agrees s plain (key :: uses)) (hk : key ∈ uses) :
    s.consumed key = { s with consumers := s.consumers.insert key (uses.count key) } := by
  have hc : s.consumers.get? key = some (uses.count key + 1) := by
    rw [h.count]
    simp
  have hpos : 0 < uses.count key := List.count_pos_iff.mpr hk
  have hne : ¬ uses.count key = 0 := by omega
  simp only [Store.consumed, hc, Nat.add_sub_cancel, hne, false_and, if_false]

/-- Counting off the last use of a key drops what is stored under it. -/
theorem consumed_of_not_mem (h : Agrees s plain (key :: uses)) (hk : key ∉ uses) :
    s.consumed key =
      { s with
        consumers := s.consumers.erase key
        trained := s.trained.erase key
        aggregated := s.aggregated.erase key } := by
  have hc : s.consumers.get? key = some 1 := by
    rw [h.count]
    simp [List.count_eq_zero_of_not_mem hk]
  simp [Store.consumed, hc, h.cleans]

theorem consumed (h : Agrees s plain (key :: uses)) :
    Agrees (s.consumed key) (plain.consumed key) uses := by
  obtain ⟨hkeeps, htrained, haggregated⟩ := consumed_of_keeps h.keeps key
  have hcount : ∀ k, k ≠ key → s.consumers.get? k =
      if k ∈ uses then some (uses.count k) else none := by
    intro k hne
    have hne' : ¬ key = k := fun e => hne e.symm
    rw [h.count]
    simp [hne, hne']
  by_cases hk : key ∈ uses
  · rw [h.consumed_of_mem hk]
    refine ⟨h.cleans, hkeeps, fun k => ?_, fun k hu => ?_, fun k hu => ?_⟩
    · rw [Table.get?_insert]
      by_cases hkk : k = key
      · simp [hkk, hk]
      · rw [if_neg hkk, hcount k hkk]
    · rw [htrained]
      exact h.trained k (List.mem_cons_of_mem _ hu)
    · rw [haggregated]
      exact h.aggregated k (List.mem_cons_of_mem _ hu)
  · rw [h.consumed_of_not_mem hk]
    -- nobody uses the dropped key any more
    have hne : ∀ k ∈ uses, k ≠ key := fun k hu e => hk (e ▸ hu)
    refine ⟨h.cleans, hkeeps, fun k => ?_, fun k hu => ?_, fun k hu => ?_⟩
    · rw [Table.get?_erase]
      by_cases hkk : k = key
      · simp [hkk, hk]
      · rw [if_neg hkk, hcount k hkk]
    · rw [htrained, Table.get?_erase, if_neg (hne k hu)]
      exact h.trained k (List.mem_cons_of_mem _ hu)
    · rw [haggregated, Table.get?_erase, if_neg (hne k hu)]
      exact h.aggregated k (List.mem_cons_of_mem _ hu)

theorem consumedAll {keys : List TaskKey} (h : Agrees s plain (keys ++ uses)) :
    Agrees (s.consumedAll keys) (plain.consumedAll keys) uses := by
  induction keys generalizing s plain with
  | nil => exact h
  | cons k rest ih => exact ih h.consumed

/-- Both stores may keep one more output of a training. -/
theorem insertTrained (h : Agrees s plain uses) (key : TaskKey) (o : TrainOutput) :
    Agrees { s with trained := s.trained.insert key o }
      { plain with trained := plain.trained.insert key o } uses where
  cleans := h.cleans
  keeps := h.keeps
  count := h.count
  trained k hk := by
    simp only [Table.get?_insert]
    rw [h.trained k hk]
  aggregated := h.aggregated

/-- Both stores may keep one more output of an aggregation. -/
theorem insertAggregated (h : Agrees s plain uses) (key : TaskKey) (a : AveragedState Float) :
    Agrees { s with aggregated := s.aggregated.insert key a }
      { plain with aggregated := plain.aggregated.insert key a } uses where
  cleans := h.cleans
  keeps := h.keeps
  count := h.count
  trained := h.trained
  aggregated k hk := by
    simp only [Table.get?_insert]
    rw [h.aggregated k hk]

/-- Both stores may keep what a task gives, and drop what is not used after it. -/
theorem keep {t : Task} (h : Agrees s plain (t.inputs ++ uses)) (y : Product) :
    Agrees (s.keep t y) (plain.keep t y) uses := by
  cases y with
  | model o => exact (h.insertTrained t.key o).consumedAll
  | average a => exact (h.insertAggregated t.key a).consumedAll
  | score value => exact h.consumedAll

/-! ## Running a task -/

/-- Both stores have the same under a key that is to be used. -/
theorem same (h : Agrees s plain uses) {n : OperationKind × TaskKey} (hn : n.2 ∈ uses) :
    s.sources.Same plain.sources n := by
  obtain ⟨kind, k⟩ := n
  cases kind with
  | train => simp only [Sources.Same, sources, training, h.trained k hn]
  | aggregate => simp only [Sources.Same, sources, aggregation, h.aggregated k hn]
  | test => trivial

/-- A task asks for the same in both stores. -/
theorem demand (h : Agrees s plain uses) {t : Task} (ht : t.inputs ⊆ uses) :
    t.demand s.sources = t.demand plain.sources :=
  Task.demand_congr fun _ hn => h.same (ht (t.key_mem_inputs hn))

/-- A task makes the same call in both stores. -/
theorem call? (h : Agrees s plain uses) {t : Task} (ht : t.inputs ⊆ uses) :
    (s.runTask t).call? = (plain.runTask t).call? := by
  rw [s.call?_runTask, plain.call?_runTask, h.demand ht]

/-- A task comes to the same end in both stores, and what is left to be used is what the tasks
after it use. -/
theorem runTask {t : Task} (h : Agrees s plain (t.inputs ++ uses)) (answers : Answers) :
    Refines (fun x y => x.1.Agrees y.1 uses ∧ x.2 = y.2) ((s.runTask t).result answers)
      ((plain.runTask t).result answers) := by
  rw [s.runTask_eq, plain.runTask_eq, h.demand (List.subset_append_left _ _)]
  cases t.demand plain.sources >>= Demand.perform answers with
  | error f => exact .error f
  | ok y => exact .ok ⟨h.keep y, rfl⟩

end Agrees

end Store

/-! ## Running a plan -/

namespace Execution

/-- Running the tasks that are left gives the same in both stores, whatever the algorithms
remember. -/
theorem runTasks_agrees {σ : Type} (a : Responder σ) (tasks : List Task) (m : σ) {s plain : Store}
    (h : s.Agrees plain (tasks.flatMap Task.inputs)) (scores : List Performance) :
    runTasks a tasks m s scores = runTasks a tasks m plain scores := by
  induction tasks generalizing m s plain scores with
  | nil => rfl
  | cons t rest ih =>
    rw [List.flatMap_cons] at h
    have hcall := h.call? (List.subset_append_left t.inputs _)
    have hrun := h.runTask (a.reply m)
    unfold runTasks TaskRun.on
    rw [hcall]
    generalize (s.runTask t).result (a.reply m) = r at hrun ⊢
    generalize (plain.runTask t).result (a.reply m) = r' at hrun ⊢
    cases hrun with
    | error f => rfl
    | @ok ran ran' hran =>
      obtain ⟨s, score⟩ := ran
      obtain ⟨plain, score'⟩ := ran'
      obtain ⟨hrest, hscore⟩ := hran
      obtain rfl : score = score' := hscore
      exact ih _ hrest _

/-- Two executions are as far as each other, with stores that agree. -/
structure Agrees (x plain : Execution) : Prop where
  remaining : x.remaining = plain.remaining
  scores : x.scores = plain.scores
  store : x.store.Agrees plain.store (x.remaining.flatMap Task.inputs)

/-- The next task is run to the same end. -/
theorem Agrees.runNext {x plain : Execution} (h : x.Agrees plain) (answers : Answers) {t : Task}
    {rest : List Task} (hr : x.remaining = t :: rest) :
    Refines Agrees (x.runNext answers t rest) (plain.runNext answers t rest) := by
  have hstore := h.store
  rw [hr, List.flatMap_cons] at hstore
  refine (hstore.runTask answers).map ?_
  rintro ⟨s, score⟩ ⟨s', score'⟩ ⟨hrest, hscore⟩
  refine ⟨rfl, ?_, hrest⟩
  show x.scores ++ score.toList = plain.scores ++ score'.toList
  rw [h.scores, show score = score' from hscore]

end Execution

/-- The plan with another choice whether to clean its models. -/
def Plan.cleaning (p : Plan) (clean : Bool) : Plan :=
  { p with cleanModels := clean }

theorem Execution.agrees_start (p : Plan) :
    (start (p.cleaning true)).Agrees (start (p.cleaning false)) :=
  ⟨rfl, rfl, Store.agrees_ofTasks p.tasks⟩

/-! ## Records of a plan -/

/-- Two stages of a plan's execution that differ in what is kept, and in nothing else. -/
inductive Stage.Agrees : Stage → Stage → Prop
  | accepted (p : Plan) : Agrees (.accepted (p.cleaning true)) (.accepted (p.cleaning false))
  | between {x y : Execution} (h : x.Agrees y) : Agrees (.between x) (.between y)
  | calling {x y : Execution} {t : Task} {rest : List Task} (h : x.Agrees y)
    (hr : x.remaining = t :: rest) : Agrees (.calling x t rest) (.calling y t rest)
  | reporting (o : PlanOutcome) : Agrees (.reporting o) (.reporting o)
  | finished : Agrees .finished .finished

namespace Record

/-- Two records of a plan that differ in what is kept, and in nothing else. -/
structure Agrees (r plain : Record) : Prop where
  status : r.status = plain.status
  performances : r.performances = plain.performances
  canceled : r.canceled = plain.canceled
  stage : r.stage.Agrees plain.stage

theorem agrees_accepted (p : Plan) :
    (accepted (p.cleaning true)).Agrees (accepted (p.cleaning false)) :=
  ⟨rfl, rfl, rfl, .accepted p⟩

namespace Agrees

variable {r plain : Record}

theorem isFinished (h : r.Agrees plain) : r.isFinished = plain.isFinished := by
  obtain ⟨status, performances, canceled, stage⟩ := r
  obtain ⟨status', performances', canceled', stage'⟩ := plain
  cases h.stage <;> rfl

/-- The next step makes the same call. -/
theorem call? (h : r.Agrees plain) : r.call? = plain.call? := by
  obtain ⟨status, performances, canceled, stage⟩ := r
  obtain ⟨status', performances', canceled', stage'⟩ := plain
  cases h.stage with
  | accepted p => rfl
  | between hx => rfl
  | calling hx hr =>
    have hstore := hx.store
    rw [hr, List.flatMap_cons] at hstore
    exact hstore.call? (List.subset_append_left _ _)
  | reporting o => rfl
  | finished => rfl

theorem cancel (h : r.Agrees plain) : r.cancel.Agrees plain.cancel := by
  unfold Record.cancel
  rw [h.status]
  cases plain.status.isTerminal with
  | true => exact h
  | false => exact ⟨rfl, h.performances, rfl, h.stage⟩

/-- Setting a status is the same for both, whatever stage comes after it. -/
theorem setStatus (h : r.Agrees plain) (key : PlanKey) (s : PlanStatus) (ps : List Performance)
    {stage stage' : Stage} (hs : stage.Agrees stage') :
    ({ (r.setStatus key s ps).1 with stage := stage } : Record).Agrees
        { (plain.setStatus key s ps).1 with stage := stage' } ∧
      (r.setStatus key s ps).2 = (plain.setStatus key s ps).2 := by
  unfold Record.setStatus
  rw [h.status]
  cases plain.status.isTerminal with
  | true => exact ⟨⟨h.status, h.performances, h.canceled, hs⟩, rfl⟩
  | false => exact ⟨⟨rfl, rfl, h.canceled, hs⟩, rfl⟩

theorem afterCheck (h : r.Agrees plain) {x y : Execution} (hx : x.Agrees y) :
    (r.afterCheck x).Agrees (plain.afterCheck y) := by
  unfold Record.afterCheck
  rw [← hx.remaining, ← hx.scores, ← h.canceled]
  cases hr : x.remaining with
  | nil => exact .reporting _
  | cons t rest =>
    cases r.canceled with
    | true => exact .reporting _
    | false => exact .calling hx hr

/-- The next step comes to the same, with the same notices. -/
theorem advance (h : r.Agrees plain) (key : PlanKey) (answers : Answers) :
    (r.advance key answers).1.Agrees (plain.advance key answers).1 ∧
      (r.advance key answers).2 = (plain.advance key answers).2 := by
  have hstage := h.stage
  unfold Record.advance
  generalize r.stage = stage at hstage ⊢
  generalize plain.stage = stage' at hstage ⊢
  cases hstage with
  | accepted p => exact h.setStatus key _ _ (.between (Execution.agrees_start p))
  | between hx => exact ⟨⟨h.status, h.performances, h.canceled, h.afterCheck hx⟩, rfl⟩
  | @calling x y t rest hx hr =>
    refine ⟨⟨h.status, h.performances, h.canceled, ?_⟩, rfl⟩
    have hnext := hx.runNext answers hr
    dsimp only [afterTask]
    generalize x.runNext answers t rest = z at hnext ⊢
    generalize y.runNext answers t rest = z' at hnext ⊢
    cases hnext with
    | error f => exact .reporting _
    | ok hzz => exact .between hzz
  | reporting o =>
    obtain ⟨hr, hn⟩ := h.setStatus key o.status o.scores .finished
    exact ⟨hr, congrArg (o.notice key :: ·) hn⟩
  | finished => exact ⟨⟨h.status, h.performances, h.canceled, h.stage⟩, rfl⟩

end Agrees

end Record

/-! ## A plan and the algorithms it calls -/

/-- Algorithms whose replies depend on the calls that were made so far, and on nothing else. -/
def Execution.Responder.ofHistory (behaviour : List Call → Answers) :
    Execution.Responder (List Call) where
  reply := behaviour
  remember calls c := calls ++ [c]

/-- What may happen to a submitted plan: a step of its execution, or a request to cancel it. -/
inductive Move
  | advance
  | cancel

/-- A backend that runs a plan, what the algorithms remember, and the notices so far. -/
structure Conduct (σ : Type) where
  memory : σ
  backend : LocalBackend
  notices : List Notice

namespace Conduct

open Execution (Responder)

variable {σ : Type}

/-- A step of the execution calls the algorithms as they are at that time. -/
def move (a : Responder σ) (key : PlanKey) (c : Conduct σ) : Move → Conduct σ
  | .advance =>
    let answers := a.reply c.memory
    { memory := (c.backend.call? key).elim c.memory (a.remember c.memory)
      backend := c.backend.step (.advance key answers)
      notices := c.notices ++ (c.backend.advance key answers).2 }
  | .cancel => { c with backend := c.backend.step (.cancel key) }

/-- A plan is submitted, and then the moves happen. -/
def submitted (a : Responder σ) (m : σ) (b : LocalBackend) (key : PlanKey) (p : Plan)
    (moves : List Move) : Conduct σ :=
  moves.foldl (move a key) ⟨m, b.step (.submit key p), []⟩

/-- Two conducts of a plan differ in what is kept, and in nothing else. -/
structure Agrees (key : PlanKey) (c plain : Conduct σ) : Prop where
  memory : c.memory = plain.memory
  notices : c.notices = plain.notices
  record : ∃ r r', c.backend.get? key = some r ∧ plain.backend.get? key = some r' ∧ r.Agrees r'

theorem Agrees.move {key : PlanKey} {c plain : Conduct σ} (h : c.Agrees key plain)
    (a : Responder σ) (m : Move) : (c.move a key m).Agrees key (plain.move a key m) := by
  obtain ⟨r, r', hr, hr', hrr⟩ := h.record
  cases m with
  | advance =>
    have hcall : c.backend.call? key = plain.backend.call? key := by
      simp only [LocalBackend.call?, hr, hr', Option.bind_some, hrr.call?]
    obtain ⟨hnext, hnotices⟩ := hrr.advance key (a.reply plain.memory)
    refine ⟨?_, ?_, ?_⟩
    · simp only [Conduct.move, hcall, h.memory]
    · simp only [Conduct.move, LocalBackend.advance, hr, hr', h.memory, h.notices, hnotices]
    · refine ⟨_, _, ?_, ?_, hnext⟩
      · simp only [Conduct.move, LocalBackend.get?_step_advance, hr, h.memory, Option.map_some]
      · simp only [Conduct.move, LocalBackend.get?_step_advance, hr', Option.map_some]
  | cancel =>
    refine ⟨h.memory, h.notices, _, _, ?_, ?_, hrr.cancel⟩
    · simp only [Conduct.move, LocalBackend.get?_step_cancel, hr, Option.map_some]
    · simp only [Conduct.move, LocalBackend.get?_step_cancel, hr', Option.map_some]

theorem Agrees.moves {key : PlanKey} {c plain : Conduct σ} (h : c.Agrees key plain)
    (a : Responder σ) (moves : List Move) :
    (moves.foldl (Conduct.move a key) c).Agrees key (moves.foldl (Conduct.move a key) plain) := by
  induction moves generalizing c plain with
  | nil => exact h
  | cons m rest ih => exact ih (h.move a m)

/-- An accepted plan is conducted in the same way with and without cleaning. -/
theorem agrees_submitted (a : Responder σ) (m : σ) (b : LocalBackend) (key : PlanKey) {p : Plan}
    (h : p.fault? = none) (moves : List Move) :
    (submitted a m b key (p.cleaning true) moves).Agrees key
      (submitted a m b key (p.cleaning false) moves) := by
  have hput : ∀ clean, (b.step (.submit key (p.cleaning clean))).get? key =
      some (.accepted (p.cleaning clean)) := fun clean => b.get?_step_submit key h
  have hstart : (⟨m, b.step (.submit key (p.cleaning true)), []⟩ : Conduct σ).Agrees key
      ⟨m, b.step (.submit key (p.cleaning false)), []⟩ :=
    ⟨rfl, rfl, _, _, hput true, hput false, Record.agrees_accepted p⟩
  exact hstart.moves a moves

/-- A plan that is not accepted is not conducted at all. -/
theorem submitted_of_fault (a : Responder σ) (m : σ) (b : LocalBackend) (key : PlanKey) {p : Plan}
    {fault : PlanFault} (h : p.fault? = some fault) (moves : List Move) :
    submitted a m b key (p.cleaning true) moves = submitted a m b key (p.cleaning false) moves := by
  have hstep : ∀ clean, b.step (.submit key (p.cleaning clean)) = b := fun clean =>
    b.step_submit_of_fault key h
  unfold submitted
  rw [hstep, hstep]

end Conduct

/-- **Cleaning models is unobservable.** Whatever the algorithms do, as long as it depends on the
calls made so far, a plan makes the same calls with and without cleaning and ends with the same
scores or the same error. In a backend it has the same status and the same scores at every moment,
also when it is canceled on the way, and the notices are the same. -/
theorem cleaning_unobservable (p : Plan) (behaviour : List Call → Answers) (b : LocalBackend)
    (key : PlanKey) (moves : List Move) :
    let algorithms := Execution.Responder.ofHistory behaviour
    let clean := Conduct.submitted algorithms [] b key (p.cleaning true) moves
    let plain := Conduct.submitted algorithms [] b key (p.cleaning false) moves
    Execution.run algorithms [] (p.cleaning true) = Execution.run algorithms [] (p.cleaning false) ∧
      clean.memory = plain.memory ∧ clean.notices = plain.notices ∧
      clean.backend.status key = plain.backend.status key ∧
      clean.backend.performances key = plain.backend.performances key ∧
      clean.backend.isFinished key = plain.backend.isFinished key := by
  intro algorithms clean plain
  refine ⟨Execution.runTasks_agrees algorithms p.tasks [] (Store.agrees_ofTasks p.tasks) [], ?_⟩
  cases hp : p.fault? with
  | some fault =>
    have h : clean = plain := Conduct.submitted_of_fault algorithms [] b key hp moves
    rw [h]
    exact ⟨rfl, rfl, rfl, rfl, rfl⟩
  | none =>
    have h : clean.Agrees key plain := Conduct.agrees_submitted algorithms [] b key hp moves
    obtain ⟨r, r', hr, hr', hrr⟩ := h.record
    refine ⟨h.memory, h.notices, ?_, ?_, ?_⟩
    · simp only [LocalBackend.status, LocalBackend.record, hr, hr', Except.map, hrr.status]
    · simp only [LocalBackend.performances, LocalBackend.record, hr, hr', Except.map,
        hrr.performances]
    · simp only [LocalBackend.isFinished, hr, hr', hrr.isFinished]

end Federation
