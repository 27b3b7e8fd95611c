import Mathlib.Logic.Function.Basic
import Federation.Backend.Execution
import Federation.Proofs.Refines

/-!
# What a task asks for

A task looks up what it needs, makes one call or one aggregation with it, and gives what comes back.
What it asks for (`Task.demand`) depends on nothing but the outputs of the tasks that it names, and
what it gives (`Demand.perform`) on nothing but what it asks for. So the outputs can come from
anywhere (`Sources`): from a store, or from a definition of what each task shall give.

* `Task.needs`: the outputs that a task looks up, in order;
* `Task.look_demand`: a task fails to ask at the first need that is not met;
* `Task.demand_congr`: the sources matter at what the task needs only;
* `Store.runTask_eq`, `Store.call?_runTask`: a task that runs on a store does what it asks for;
* `Store.sources_keep`: what it gives is there afterwards, if the store keeps everything.
-/

namespace Federation

/-! ## What a task needs -/

namespace Task

/-- The outputs that a task consumes, in order: the kinds of the tasks that give them, and the keys
of these tasks. -/
def needs : Task → List (OperationKind × TaskKey)
  | .train t => t.start.toList.map (.train, ·) ++ t.shared.toList.map (.aggregate, ·)
  | .aggregate t => t.models.map (.train, ·)
  | .test t => [(.train, t.model)]

theorem keys_needs (t : Task) : t.needs.map Prod.snd = t.inputs := by
  cases t with
  | train t => simp [needs, inputs, Function.comp_def]
  | aggregate t => simp [needs, inputs, Function.comp_def]
  | test t => rfl

theorem key_mem_inputs (t : Task) {n : OperationKind × TaskKey} (hn : n ∈ t.needs) :
    n.2 ∈ t.inputs :=
  t.keys_needs ▸ List.mem_map_of_mem hn

/-- Nobody needs what a test gives. -/
theorem kind_ne_test_of_mem_needs (t : Task) {n : OperationKind × TaskKey} (hn : n ∈ t.needs) :
    n.1 ≠ .test := by
  cases t with
  | train t =>
    rcases List.mem_append.mp hn with hn | hn <;> obtain ⟨k, -, rfl⟩ := List.mem_map.mp hn <;> simp
  | aggregate t =>
    obtain ⟨k, -, rfl⟩ := List.mem_map.mp hn
    simp
  | test t =>
    obtain rfl := List.mem_singleton.mp hn
    simp

end Task

/-! ## Asking -/

/-- Where the outputs of tasks come from. -/
structure Sources where
  /-- The output of a training. -/
  model : TaskKey → Except (Failure ExecutionError) TrainOutput
  /-- The output of an aggregation. -/
  average : TaskKey → Except (Failure ExecutionError) (AveragedState Float)

/-- What a task asks for. -/
inductive Demand
  /-- A call of an algorithm. -/
  | call (c : Call)
  /-- An aggregation of what trainings shared. -/
  | aggregate (function : AggregationFunction) (states : List (SharedState Float))

/-- What a task gives. -/
inductive Product
  | model (o : TrainOutput)
  | average (a : AveragedState Float)
  | score (value : Float)

/-- The kind of the tasks that give it. -/
def Product.kind : Product → OperationKind
  | .model _ => .train
  | .average _ => .aggregate
  | .score _ => .test

namespace Demand

/-- The call that is asked for. -/
def call? : Demand → Option Call
  | .call c => some c
  | .aggregate _ _ => none

/-- The kind of the tasks that ask for it. -/
def kind : Demand → OperationKind
  | .call (.train ..) => .train
  | .call (.score ..) => .test
  | .aggregate .. => .aggregate

/-- What comes back. -/
def perform (answers : Answers) : Demand → Except (Failure ExecutionError) Product
  | .call (.train algorithm samples start shared) =>
    ((answers (.train algorithm samples start shared)).map fun u =>
      .model ⟨algorithm, u.1, u.2⟩).mapError Store.algorithmFailure
  | .call (.score algorithm samples state) =>
    ((answers (.score algorithm samples state)).map .score).mapError Store.algorithmFailure
  | .aggregate function states =>
    ((function.apply states).map .average).mapError Store.aggregationFailure

end Demand

/-- What a task asks for. It looks up its needs in order. -/
def Task.demand (src : Sources) : Task → Except (Failure ExecutionError) Demand
  | .train t => do
    let start ← t.start.mapM fun k => TrainOutput.state <$> src.model k
    let shared ← t.shared.mapM src.average
    return .call (.train t.algorithm t.samples start shared)
  | .aggregate t => do
    let states ← t.models.mapM fun k => TrainOutput.shared <$> src.model k
    return .aggregate t.function states
  | .test t => do
    let o ← src.model t.model
    return .call (.score o.algorithm t.samples o.state)

/-- The score that a task reports. -/
def Task.score? : Task → Product → Option Performance
  | .test t, .score value => some ⟨t.key, t.worker, t.round, value⟩
  | _, _ => none

namespace Sources

/-- Looks up an output, for its failure only. Tests give none. -/
def look (src : Sources) : OperationKind × TaskKey → Except (Failure ExecutionError) Unit
  | (.train, k) => (fun _ => ()) <$> src.model k
  | (.aggregate, k) => (fun _ => ()) <$> src.average k
  | (.test, _) => .ok ()

/-- Two sources have the same output. -/
def Same (src src' : Sources) : OperationKind × TaskKey → Prop
  | (.train, k) => src.model k = src'.model k
  | (.aggregate, k) => src.average k = src'.average k
  | (.test, _) => True

theorem Same.trans {src src' src'' : Sources} {n : OperationKind × TaskKey} (h : src.Same src' n)
    (h' : src'.Same src'' n) : src.Same src'' n := by
  obtain ⟨kind, k⟩ := n
  cases kind with
  | train => exact Eq.trans h h'
  | aggregate => exact Eq.trans h h'
  | test => trivial

/-- The sources with one more output. -/
def put (src : Sources) (key : TaskKey) : Product → Sources
  | .model o => { src with model := Function.update src.model key (.ok o) }
  | .average a => { src with average := Function.update src.average key (.ok a) }
  | .score _ => src

end Sources

namespace Task

variable {src src' : Sources} {t : Task} {d : Demand}

/-- Only the outputs that a task needs matter. -/
theorem demand_congr (h : ∀ n ∈ t.needs, src.Same src' n) : t.demand src = t.demand src' := by
  cases t with
  | train t =>
    have hstart : t.start.mapM (TrainOutput.state <$> src.model ·) =
        t.start.mapM (TrainOutput.state <$> src'.model ·) := by
      cases hk : t.start with
      | none => rfl
      | some k =>
        have hmodel : src.model k = src'.model k := h (.train, k) (by simp [needs, hk])
        simp only [Option.mapM_some, hmodel]
    have hshared : t.shared.mapM src.average = t.shared.mapM src'.average := by
      cases hk : t.shared with
      | none => rfl
      | some k =>
        have haverage : src.average k = src'.average k := h (.aggregate, k) (by simp [needs, hk])
        simp only [Option.mapM_some, haverage]
    simp only [demand, hstart, hshared]
  | aggregate t =>
    have hmodels : t.models.map (TrainOutput.shared <$> src.model ·) =
        t.models.map (TrainOutput.shared <$> src'.model ·) :=
      List.map_congr_left fun k hk => congrArg _ (h (.train, k) (List.mem_map_of_mem hk))
    have hstates := congrArg (List.mapM id) hmodels
    simp only [List.mapM_map, Function.id_comp] at hstates
    simp only [demand, hstates]
  | test t =>
    have hmodel : src.model t.model = src'.model t.model :=
      h (.train, t.model) (List.mem_singleton_self _)
    simp only [demand, hmodel]

/-- A task looks up its needs in order, and fails to ask at the first that is not met. -/
theorem look_demand (src : Sources) (t : Task) :
    (fun _ => ()) <$> t.demand src = forM t.needs src.look := by
  cases t with
  | train t =>
    have hstart : (fun _ => ()) <$> t.start.mapM (TrainOutput.state <$> src.model ·) =
        forM (t.start.toList.map (.train, ·)) src.look := by
      cases t.start <;> simp [Sources.look]
    have hshared : (fun _ => ()) <$> t.shared.mapM src.average =
        forM (t.shared.toList.map (.aggregate, ·)) src.look := by
      cases t.shared <;> simp [Sources.look]
    rw [needs, List.forM_append, ← hstart, ← hshared]
    simp [demand]
  | aggregate t =>
    have hstates : (fun _ => ()) <$> t.models.mapM (TrainOutput.shared <$> src.model ·) =
        forM (t.models.map (.train, ·)) src.look := by
      induction t.models with
      | nil => rfl
      | cons k rest ih =>
        rw [List.map_cons, List.forM_cons, ← ih]
        simp [Sources.look]
    rw [needs, ← hstates]
    simp [demand]
  | test t => simp [demand, needs, Sources.look]

end Task

/-! ## What comes back -/

/-- A task asks for something of its kind. -/
theorem Task.kind_of_demand {src : Sources} {t : Task} {d : Demand} (h : t.demand src = .ok d) :
    d.kind = t.kind := by
  cases t with
  | train t =>
    obtain ⟨start, -, h⟩ := exists_of_bind_eq_ok h
    obtain ⟨shared, -, h⟩ := exists_of_bind_eq_ok h
    obtain rfl := Except.ok.inj h
    rfl
  | aggregate t =>
    obtain ⟨states, -, h⟩ := exists_of_bind_eq_ok h
    obtain rfl := Except.ok.inj h
    rfl
  | test t =>
    obtain ⟨o, -, h⟩ := exists_of_bind_eq_ok h
    obtain rfl := Except.ok.inj h
    rfl

namespace Demand

variable {answers : Answers} {d : Demand}

/-- What comes back is of the kind that was asked for. -/
theorem kind_of_perform {y : Product} (h : d.perform answers = .ok y) : y.kind = d.kind := by
  cases d with
  | call c =>
    cases c with
    | train algorithm samples start shared =>
      obtain ⟨u, -, rfl⟩ := exists_of_map_eq_ok (mapError_eq_ok_iff.mp h)
      rfl
    | score algorithm samples state =>
      obtain ⟨value, -, rfl⟩ := exists_of_map_eq_ok (mapError_eq_ok_iff.mp h)
      rfl
  | aggregate function states =>
    obtain ⟨averaged, -, rfl⟩ := exists_of_map_eq_ok (mapError_eq_ok_iff.mp h)
    rfl

/-- Errors come from the algorithm that was called, or from the aggregation. -/
theorem of_perform_eq_error {err : ExecutionError} (h : d.perform answers = .error (.error err)) :
    (∃ e, err = .algorithm e) ∨
      ∃ function states e, d = .aggregate function states ∧
        function.apply states = .error (.error e) ∧ err = .aggregation e := by
  have halgorithm : ∀ {f : Failure AlgorithmError}, Store.algorithmFailure f = .error err →
      ∃ e, err = .algorithm e := by
    rintro (e | c) hf
    · exact ⟨e, by cases hf; rfl⟩
    · cases hf
  cases d with
  | call c =>
    cases c with
    | train algorithm samples start shared =>
      obtain ⟨f, -, hf⟩ := exists_of_mapError_eq_error h
      exact .inl (halgorithm hf)
    | score algorithm samples state =>
      obtain ⟨f, -, hf⟩ := exists_of_mapError_eq_error h
      exact .inl (halgorithm hf)
  | aggregate function states =>
    obtain ⟨f, hmapped, hf⟩ := exists_of_mapError_eq_error h
    have happly := ((Refines.of_map Product.average (function.apply states)).error_iff f).mp hmapped
    cases f with
    | error e => exact .inr ⟨function, states, e, rfl, happly, by cases hf; rfl⟩
    | crash c => cases hf

/-- Neither an algorithm nor an aggregation says that an input is missing. -/
theorem perform_ne_missingInput (k : TaskKey) :
    d.perform answers ≠ .error (.error (.missingInput k)) := by
  intro h
  rcases of_perform_eq_error h with ⟨e, he⟩ | ⟨function, states, e, -, -, he⟩ <;> cases he

end Demand

/-- What a task gives is of its kind. -/
theorem Task.kind_of_gives {src : Sources} {t : Task} {answers : Answers} {y : Product}
    (h : t.demand src >>= Demand.perform answers = .ok y) : y.kind = t.kind := by
  obtain ⟨d, hd, hy⟩ := exists_of_bind_eq_ok h
  exact (Demand.kind_of_perform hy).trans (kind_of_demand hd)

/-! ## Asking a store -/

namespace Store

/-- The outputs that a store has. -/
def sources (s : Store) : Sources where
  model k := (s.training k).mapError .error
  average k := (s.aggregation k).mapError .error

/-- The store after a task that gave a product. -/
def keep (s : Store) (t : Task) (y : Product) : Store :=
  let kept := match y with
    | .model o => { s with trained := s.trained.insert t.key o }
    | .average a => { s with aggregated := s.aggregated.insert t.key a }
    | .score _ => s
  kept.consumedAll t.inputs

variable (s : Store) (answers : Answers)

theorem demand_train (t : TrainTask) :
    (Task.train t).demand s.sources = ((s.startsOf t).map fun starts =>
      Demand.call (.train t.algorithm t.samples starts.1 starts.2)).mapError .error := by
  have hstart : t.start.mapM (TrainOutput.state <$> s.sources.model ·) =
      (s.startOf t.start).mapError .error := by
    cases t.start with
    | none => rfl
    | some k =>
      simp only [Option.mapM_some, sources, startOf]
      cases s.training k <;> rfl
  have hshared : t.shared.mapM s.sources.average = (s.sharedOf t.shared).mapError .error := by
    cases t.shared with
    | none => rfl
    | some k =>
      simp only [Option.mapM_some, sources, sharedOf]
      cases s.aggregation k <;> rfl
  simp only [Task.demand, hstart, hshared, startsOf]
  cases s.startOf t.start with
  | error err => rfl
  | ok start => cases s.sharedOf t.shared <;> rfl

theorem demand_aggregate (t : AggregateTask) :
    (Task.aggregate t).demand s.sources =
      ((s.sharedStates t.models).map (Demand.aggregate t.function)).mapError .error := by
  have hstates : ∀ keys, keys.mapM (TrainOutput.shared <$> s.sources.model ·) =
      (s.sharedStates keys).mapError Failure.error := by
    intro keys
    induction keys with
    | nil => rfl
    | cons k rest ih =>
      rw [List.mapM_cons, ih, sharedStates]
      simp only [sources]
      cases s.training k with
      | error err => rfl
      | ok o => cases s.sharedStates rest <;> rfl
  simp only [Task.demand, hstates]
  cases s.sharedStates t.models <;> rfl

theorem demand_test (t : TestTask) :
    (Task.test t).demand s.sources = ((s.training t.model).map fun o =>
      Demand.call (.score o.algorithm t.samples o.state)).mapError .error := by
  simp only [Task.demand, sources]
  cases s.training t.model <;> rfl

/-- The call that a task makes is the one that it asks for. -/
theorem call?_runTask (t : Task) :
    (s.runTask t).call? = (t.demand s.sources).toOption.bind Demand.call? := by
  cases t with
  | train t =>
    rw [demand_train, runTask, runTrain]
    cases s.startsOf t <;> rfl
  | aggregate t =>
    rw [demand_aggregate, runTask]
    cases s.sharedStates t.models <;> rfl
  | test t =>
    rw [demand_test, runTask, runTest]
    cases s.training t.model <;> rfl

/-- A task that runs on a store does what it asks for, and what it gives is kept. -/
theorem runTask_eq (t : Task) :
    (s.runTask t).result answers = (t.demand s.sources >>= Demand.perform answers).map fun y =>
      (s.keep t y, t.score? y) := by
  cases t with
  | train t =>
    rw [demand_train, runTask, runTrain]
    cases s.startsOf t with
    | error err => rfl
    | ok starts =>
      obtain ⟨start, shared⟩ := starts
      show _ = (Demand.perform answers
        (.call (.train t.algorithm t.samples start shared))).map _
      dsimp only [Demand.perform, TaskRun.map, TaskRun.result]
      cases answers (.train t.algorithm t.samples start shared) <;> rfl
  | aggregate t =>
    rw [demand_aggregate, runTask, runAggregate]
    cases s.sharedStates t.models with
    | error err => rfl
    | ok states =>
      show _ = (Demand.perform answers (.aggregate t.function states)).map _
      dsimp only [Demand.perform]
      cases t.function.apply states <;> rfl
  | test t =>
    rw [demand_test, runTask, runTest]
    cases s.training t.model with
    | error err => rfl
    | ok o =>
      show _ = (Demand.perform answers (.call (.score o.algorithm t.samples o.state))).map _
      dsimp only [Demand.perform, TaskRun.map, TaskRun.result]
      cases answers (.score o.algorithm t.samples o.state) <;> rfl

/-- A task that runs on a store misses what it asks for in vain, and nothing else. -/
theorem runTask_eq_missing_iff (t : Task) (k : TaskKey) :
    (s.runTask t).result answers = .error (.error (.missingInput k)) ↔
      t.demand s.sources = .error (.error (.missingInput k)) := by
  have hrefines := Refines.of_map (fun y => (s.keep t y, t.score? y))
    (t.demand s.sources >>= Demand.perform answers)
  rw [← s.runTask_eq answers t] at hrefines
  rw [hrefines.error_iff]
  cases t.demand s.sources with
  | error f => simp [bind, Except.bind]
  | ok d => exact ⟨fun h => absurd h (Demand.perform_ne_missingInput k), nofun⟩

/-! ## Keeping what a task gives -/

/-- A store that keeps outputs only counts. -/
theorem consumed_of_keeps {s : Store} (h : s.cleanModels = false) (key : TaskKey) :
    (s.consumed key).cleanModels = false ∧ (s.consumed key).trained = s.trained ∧
      (s.consumed key).aggregated = s.aggregated := by
  unfold consumed
  split
  · exact ⟨h, rfl, rfl⟩
  · simp [h]

theorem consumedAll_of_keeps {s : Store} (h : s.cleanModels = false) (keys : List TaskKey) :
    (s.consumedAll keys).cleanModels = false ∧ (s.consumedAll keys).trained = s.trained ∧
      (s.consumedAll keys).aggregated = s.aggregated := by
  induction keys generalizing s with
  | nil => exact ⟨h, rfl, rfl⟩
  | cons k rest ih =>
    obtain ⟨hkeeps, htrained, haggregated⟩ := consumed_of_keeps h k
    obtain ⟨hkeeps', htrained', haggregated'⟩ := ih hkeeps
    exact ⟨hkeeps', htrained'.trans htrained, haggregated'.trans haggregated⟩

theorem sources_of_tables {s s' : Store} (ht : s'.trained = s.trained)
    (ha : s'.aggregated = s.aggregated) : s'.sources = s.sources := by
  simp only [sources, training, aggregation, ht, ha]

theorem sources_insertTrained (key : TaskKey) (o : TrainOutput) :
    sources { s with trained := s.trained.insert key o } = s.sources.put key (.model o) := by
  refine congrArg (Sources.mk · s.sources.average) (funext fun k => ?_)
  rw [Function.update_apply]
  by_cases hk : k = key
  · simp only [sources, training, Table.get?_insert, if_pos hk]
    rfl
  · simp only [sources, training, Table.get?_insert, if_neg hk]

theorem sources_insertAggregated (key : TaskKey) (a : AveragedState Float) :
    sources { s with aggregated := s.aggregated.insert key a } =
      s.sources.put key (.average a) := by
  refine congrArg (Sources.mk s.sources.model) (funext fun k => ?_)
  rw [Function.update_apply]
  by_cases hk : k = key
  · simp only [sources, aggregation, Table.get?_insert, if_pos hk]
    rfl
  · simp only [sources, aggregation, Table.get?_insert, if_neg hk]

/-- A store that keeps everything has one more output after a task. -/
theorem sources_keep {s : Store} (h : s.cleanModels = false) (t : Task) (y : Product) :
    (s.keep t y).cleanModels = false ∧ (s.keep t y).sources = s.sources.put t.key y := by
  cases y with
  | model o =>
    obtain ⟨hkeeps, htrained, haggregated⟩ :=
      consumedAll_of_keeps (s := { s with trained := s.trained.insert t.key o }) h t.inputs
    exact ⟨hkeeps, (sources_of_tables htrained haggregated).trans (s.sources_insertTrained _ o)⟩
  | average a =>
    obtain ⟨hkeeps, htrained, haggregated⟩ :=
      consumedAll_of_keeps (s := { s with aggregated := s.aggregated.insert t.key a }) h t.inputs
    exact ⟨hkeeps, (sources_of_tables htrained haggregated).trans (s.sources_insertAggregated _ a)⟩
  | score value =>
    obtain ⟨hkeeps, htrained, haggregated⟩ := consumedAll_of_keeps h t.inputs
    exact ⟨hkeeps, sources_of_tables htrained haggregated⟩

end Store

end Federation
