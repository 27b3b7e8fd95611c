import Federation.Proofs.Cleaning
import Federation.Proofs.Compiling
import Federation.Proofs.Completion

/-!
# Running the plan of an experiment

The tasks of an experiment's plan look up what they consume under the keys of other tasks, in the
two tables of a store. Run one after the other, they compute what federated averaging computes by
itself (`Setup.after`), and they fail exactly where it fails.

The simulation goes round by round, on a store that keeps everything. Its invariant (`Store.Holds`)
says that under the key of each training of the last round the store has what the node of that
training holds; earlier rounds do not matter any more.

* `Store.refines_train`, `Store.refines_aggregate`, `Store.refines_test`: one task;
* `Blueprint.refines_aggregation`, `Blueprint.refines_trainings`, `Blueprint.refines_tests`: the
  parts of a round;
* `Blueprint.refines_tasks`: all rounds;
* `Blueprint.refines_run`: the result of the plan, whether or not it cleans its models.
-/

namespace Federation

/-! ## Running one task -/

namespace Store

variable {s : Store} {answers : Answers}

/-- What several trainings shared is looked up in their order. -/
theorem sharedStates_of_get? (algorithm : Algorithm) (updates : List Update) (key : Nat → TaskKey)
    (h : ∀ j (hj : j < updates.length),
      s.trained.get? (key j) = some ⟨algorithm, updates[j].1, updates[j].2⟩) :
    s.sharedStates (updates.mapIdx fun j _ => key j) = .ok (updates.map Prod.snd) := by
  induction updates generalizing key with
  | nil => rfl
  | cons u rest ih =>
    have hfirst := h 0 (Nat.zero_lt_succ _)
    have hrest := ih (fun j => key (j + 1)) fun j hj => h (j + 1) (Nat.succ_lt_succ hj)
    rw [List.mapIdx_cons, sharedStates]
    simp only [training, hfirst, hrest, Except.map, List.map_cons, List.getElem_cons_zero]

/-- A training asks its algorithm, and stores the answer under its key. -/
theorem refines_train (h : s.cleanModels = false) {t : TrainTask} {start : Option LocalState}
    {shared : Option (AveragedState Float)} (hstarts : s.startsOf t = .ok (start, shared)) :
    Refines (fun x (u : Update) => x.2 = none ∧ x.1.cleanModels = false ∧
        x.1.aggregated = s.aggregated ∧
        x.1.trained = s.trained.insert t.key ⟨t.algorithm, u.1, u.2⟩)
      ((s.runTask (.train t)).result answers)
      ((answers (.train t.algorithm t.samples start shared)).mapError algorithmFailure) := by
  simp only [runTask, runTrain, hstarts, TaskRun.map, TaskRun.result]
  cases answers (.train t.algorithm t.samples start shared) with
  | error f => exact .error _
  | ok u =>
    obtain ⟨hkeeps, htrained, haggregated⟩ := consumedAll_of_keeps
      (s := { s with trained := s.trained.insert t.key ⟨t.algorithm, u.1, u.2⟩ }) h
      (t.start.toList ++ t.shared.toList)
    exact .ok ⟨rfl, hkeeps, haggregated, htrained⟩

/-- An aggregation stores the average under its key. -/
theorem refines_aggregate (h : s.cleanModels = false) {t : AggregateTask}
    {states : List (SharedState Float)} (hstates : s.sharedStates t.models = .ok states) :
    Refines (fun x averaged => x.2 = none ∧ x.1.cleanModels = false ∧ x.1.trained = s.trained ∧
        x.1.aggregated = s.aggregated.insert t.key averaged)
      ((s.runTask (.aggregate t)).result answers)
      ((t.function.apply states).mapError aggregationFailure) := by
  simp only [runTask, runAggregate, hstates, TaskRun.result]
  cases t.function.apply states with
  | error f => exact .error _
  | ok averaged =>
    obtain ⟨hkeeps, htrained, haggregated⟩ := consumedAll_of_keeps
      (s := { s with aggregated := s.aggregated.insert t.key averaged }) h t.models
    exact .ok ⟨rfl, hkeeps, htrained, haggregated⟩

/-- A test asks the algorithm of the training for a score, and stores nothing. -/
theorem refines_test (h : s.cleanModels = false) {t : TestTask} {o : TrainOutput}
    (ho : s.trained.get? t.model = some o) :
    Refines (fun x value => x.2 = some ⟨t.key, t.worker, t.round, value⟩ ∧
        x.1.cleanModels = false ∧ x.1.trained = s.trained ∧ x.1.aggregated = s.aggregated)
      ((s.runTask (.test t)).result answers)
      ((answers (.score o.algorithm t.samples o.state)).mapError algorithmFailure) := by
  simp only [runTask, runTest, training, ho, TaskRun.map, TaskRun.result]
  cases answers (.score o.algorithm t.samples o.state) with
  | error f => exact .error _
  | ok value =>
    obtain ⟨hkeeps, htrained, haggregated⟩ := consumed_of_keeps h t.model
    exact .ok ⟨rfl, hkeeps, htrained, haggregated⟩

theorem sharedOf_congr {s' : Store} (h : s'.aggregated = s.aggregated) (key : Option TaskKey) :
    s'.sharedOf key = s.sharedOf key := by
  cases key with
  | none => rfl
  | some k => simp only [sharedOf, aggregation, h]

/-! ## Running several tasks -/

/-- Runs tasks one after the other; gives the store after them and their scores. -/
def runAll (answers : Answers) : Store → List Task →
    Except (Failure ExecutionError) (Store × List Performance)
  | s, [] => .ok (s, [])
  | s, t :: rest => do
    let ran ← (s.runTask t).result answers
    let others ← runAll answers ran.1 rest
    .ok (others.1, ran.2.toList ++ others.2)

theorem runAll_singleton (s : Store) (t : Task) :
    s.runAll answers [t] = ((s.runTask t).result answers).map fun x => (x.1, x.2.toList) := by
  simp only [runAll, bind, Except.bind]
  cases (s.runTask t).result answers with
  | error f => rfl
  | ok x => simp [Except.map]

theorem runAll_append (s : Store) (ts ts' : List Task) :
    s.runAll answers (ts ++ ts') = (do
      let first ← s.runAll answers ts
      let second ← first.1.runAll answers ts'
      .ok (second.1, first.2 ++ second.2)) := by
  induction ts generalizing s with
  | nil =>
    show s.runAll answers ts' = (s.runAll answers ts' >>= fun x => .ok (x.1, [] ++ x.2))
    cases s.runAll answers ts' with
    | error f => rfl
    | ok x => rfl
  | cons t rest ih =>
    simp only [List.cons_append, runAll, bind, Except.bind]
    cases (s.runTask t).result answers with
    | error f => rfl
    | ok x =>
      simp only [ih, bind, Except.bind]
      cases x.1.runAll answers rest with
      | error f => rfl
      | ok y =>
        dsimp only
        cases y.1.runAll answers ts' with
        | error f => rfl
        | ok z => simp [List.append_assoc]

end Store

/-- Running the tasks of a plan, with the scores of the tasks before. -/
theorem Execution.runTasks_pure (answers : Answers) (ts : List Task) (s : Store)
    (scores : List Performance) :
    (runTasks (.pure answers) ts () s scores).2 =
      (s.runAll answers ts).map fun x => scores ++ x.2 := by
  induction ts generalizing s scores with
  | nil => simp [runTasks, Store.runAll, Except.map]
  | cons t rest ih =>
    simp only [runTasks_cons, Store.runAll, Responder.pure, bind, Except.bind]
    cases (s.runTask t).result answers with
    | error f => rfl
    | ok x =>
      dsimp only
      refine (ih x.1 (scores ++ x.2.toList)).trans ?_
      cases x.1.runAll answers rest with
      | error f => rfl
      | ok y => simp [Except.map, List.append_assoc]

/-! ## The invariant -/

/-- A store that keeps everything, in which the trainings of a round have left the given updates. -/
structure Store.Holds (p : Blueprint) (r : Nat) (updates : List Update) (s : Store) : Prop where
  keeps : s.cleanModels = false
  length : updates.length = p.trainNodes.length
  trained : ∀ j (h : j < updates.length),
    s.trained.get? (p.key (p.trainAt r j)) = some ⟨p.algorithm, updates[j].1, updates[j].2⟩

/-- A store before a round: it holds the updates of the round before, if there is one. -/
def Store.Ready (p : Blueprint) : Nat → List Update → Store → Prop
  | 0, _, s => s.cleanModels = false
  | r + 1, previous, s => s.Holds p r previous

theorem Store.Ready.keeps {p : Blueprint} {r : Nat} {previous : List Update} {s : Store}
    (h : s.Ready p r previous) : s.cleanModels = false := by
  cases r with
  | zero => exact h
  | succ r => exact Holds.keeps h

namespace Blueprint

variable (p : Blueprint) {answers : Answers} {s : Store}

theorem key_ne {id id' : OperationId} (h : id.index ≠ id'.index) : p.key id ≠ p.key id' := by
  intro heq
  have hdrawn := TaskKey.drawn_injective heq
  omega

/-- A training comes after all trainings of the round before. -/
theorem key_trainAt_ne_before {r j k : Nat} (hj : j < p.trainNodes.length) :
    p.key (p.trainAt r j) ≠ p.key (p.trainAt (r + 1) k) := by
  refine p.key_ne ?_
  simp only [trainAt, start]
  omega

theorem key_trainAt_ne {r j k : Nat} (h : j ≠ k) :
    p.key (p.trainAt r j) ≠ p.key (p.trainAt r k) := by
  refine p.key_ne ?_
  simp only [trainAt]
  omega

/-! ## The aggregation of a round -/

/-- What the nodes shared in a round is looked up in the order of the nodes. -/
theorem sharedStates_aggregateTask {r : Nat} {updates : List Update} (h : s.Holds p r updates) :
    s.sharedStates (p.aggregateTask r).models = .ok (updates.map Prod.snd) := by
  have hmodels : (p.aggregateTask r).models =
      updates.mapIdx fun j _ => p.key (p.trainAt r j) := by
    refine List.ext_getElem ?_ fun i _ _ => ?_
    · simp [aggregateTask, h.length]
    · simp [aggregateTask]
  rw [hmodels]
  exact Store.sharedStates_of_get? p.algorithm updates _ h.trained

/-- After its aggregation, a round can start from the average. -/
theorem refines_aggregation {r : Nat} {previous : List Update} (h : s.Ready p r previous) :
    Refines (fun x shared => x.2 = [] ∧ x.1.Ready p r previous ∧
        x.1.sharedOf (p.sharedKey? r) = .ok shared)
      (s.runAll answers (p.aggregateTasks r)) (Setup.averaged r previous) := by
  cases r with
  | zero => exact .ok ⟨rfl, h, rfl⟩
  | succ r =>
    rw [aggregateTasks, Store.runAll_singleton, Setup.averaged]
    refine (Store.refines_aggregate h.keeps (p.sharedStates_aggregateTask h)).map ?_
    rintro x averaged ⟨hscore, hkeeps, htrained, haggregated⟩
    refine ⟨by simp [hscore], ⟨hkeeps, h.length, fun j hj => ?_⟩, ?_⟩
    · rw [htrained]
      exact h.trained j hj
    · have hget : x.1.aggregated.get? (p.key (p.aggregateAt (r + 1))) = some averaged := by
        rw [haggregated, Table.get?_insert]
        exact if_pos rfl
      simp only [sharedKey?, Store.sharedOf, Store.aggregation, hget, Except.map]

/-! ## The trainings of a round -/

theorem startsOf_trainTask {r j : Nat} {n : TrainNode} {start : Option LocalState}
    {shared : Option (AveragedState Float)} (hstart : s.startOf (p.startKey? j r) = .ok start)
    (hshared : s.sharedOf (p.sharedKey? r) = .ok shared) :
    s.startsOf (p.trainTask r j n) = .ok (start, shared) := by
  have hstart' : s.startOf (p.trainTask r j n).start = .ok start := hstart
  have hshared' : s.sharedOf (p.trainTask r j n).shared = .ok shared := hshared
  simp only [Store.startsOf, hstart', hshared', Except.map]

/-- Where a training starts from does not depend on the other trainings of its round. -/
theorem startOf_insert {s' : Store} {r j k : Nat} {o : TrainOutput} (hj : j < p.trainNodes.length)
    (hs : s'.trained = s.trained.insert (p.key (p.trainAt r k)) o) :
    s'.startOf (p.startKey? j r) = s.startOf (p.startKey? j r) := by
  cases r with
  | zero => rfl
  | succ r =>
    simp only [startKey?, Store.startOf, Store.training, hs, Table.get?_insert,
      if_neg (p.key_trainAt_ne_before hj)]

/-- The trainings from the given number on. The ones before it keep what they have stored. -/
theorem refines_trainings_from {r : Nat} {shared : Option (AveragedState Float)}
    (q : List (TrainNode × Option LocalState)) (j : Nat) {s : Store}
    (hkeeps : s.cleanModels = false) (hlength : j + q.length ≤ p.trainNodes.length)
    (hshared : s.sharedOf (p.sharedKey? r) = .ok shared)
    (hstart : ∀ i (hi : i < q.length), s.startOf (p.startKey? (j + i) r) = .ok q[i].2) :
    Refines (fun x updates => x.2 = [] ∧ x.1.cleanModels = false ∧ updates.length = q.length ∧
        (∀ i (hi : i < updates.length), x.1.trained.get? (p.key (p.trainAt r (j + i))) =
          some ⟨p.algorithm, updates[i].1, updates[i].2⟩) ∧
        ∀ i < j, x.1.trained.get? (p.key (p.trainAt r i)) =
          s.trained.get? (p.key (p.trainAt r i)))
      (s.runAll answers (q.mapIdx fun i x => .train (p.trainTask r (j + i) x.1)))
      (q.mapM (p.train answers shared)) := by
  induction q generalizing j s with
  | nil => exact .ok ⟨rfl, hkeeps, rfl, fun i hi => absurd hi (Nat.not_lt_zero i), fun _ _ => rfl⟩
  | cons first rest ih =>
    obtain ⟨n, start⟩ := first
    rw [List.length_cons] at hlength
    have hstarts : s.startsOf (p.trainTask r j n) = .ok (start, shared) :=
      p.startsOf_trainTask (hstart 0 (Nat.zero_lt_succ _)) hshared
    rw [mapIdx_cons_from fun i (x : TrainNode × Option LocalState) =>
      Task.train (p.trainTask r i x.1), List.mapM_cons, Store.runAll]
    refine (Store.refines_train hkeeps hstarts).bind ?_
    rintro x u ⟨hscore, hkeeps', haggregated, htrained⟩
    refine (ih (j + 1) hkeeps' (by omega) ?_ fun i hi => ?_).bind ?_
    · rw [Store.sharedOf_congr haggregated, hshared]
    · have hi' := hstart (i + 1) (Nat.succ_lt_succ hi)
      rw [p.startOf_insert (by omega) htrained, show j + 1 + i = j + (i + 1) by omega]
      exact hi'
    · rintro y us ⟨hscore', hkeeps'', hus, hnew, hbefore⟩
      refine .ok ⟨by simp [hscore, hscore'], hkeeps'', by simp [hus], fun i hi => ?_,
        fun i hi => ?_⟩
      · cases i with
        | zero =>
          rw [Nat.add_zero, hbefore j (Nat.lt_succ_self j), htrained, Table.get?_insert]
          exact if_pos rfl
        | succ i =>
          rw [show j + (i + 1) = j + 1 + i by omega]
          exact hnew i (Nat.lt_of_succ_lt_succ hi)
      · rw [hbefore i (by omega), htrained, Table.get?_insert]
        exact if_neg (p.key_trainAt_ne (by omega))

/-- After its trainings, a store holds the updates of a round. -/
theorem refines_trainings {r : Nat} {previous : List Update}
    {shared : Option (AveragedState Float)} (h : s.Ready p r previous)
    (hshared : s.sharedOf (p.sharedKey? r) = .ok shared) :
    Refines (fun x updates => x.2 = [] ∧ x.1.Holds p r updates)
      (s.runAll answers (p.trainTasks r))
      ((p.trainNodes.zip (p.learned r previous)).mapM (p.train answers shared)) := by
  have hlength : (p.learned r previous).length = p.trainNodes.length := by
    cases r with
    | zero => simp [Setup.learned]
    | succ r => simpa [Setup.learned] using Store.Holds.length h
  have hzip : (p.trainNodes.zip (p.learned r previous)).length = p.trainNodes.length := by
    rw [List.length_zip, hlength, Nat.min_self]
  have htasks : p.trainTasks r = (p.trainNodes.zip (p.learned r previous)).mapIdx
      fun i x => .train (p.trainTask r (0 + i) x.1) := by
    refine List.ext_getElem ?_ fun i _ _ => ?_
    · simp [trainTasks, hlength]
    · simp [trainTasks]
  rw [htasks]
  refine (p.refines_trainings_from _ 0 h.keeps (by omega) hshared fun i hi => ?_).mono ?_
  · rw [Nat.zero_add]
    cases r with
    | zero => simp [startKey?, Store.startOf, Setup.learned]
    | succ r =>
      have hi' : i < previous.length := by
        have hprevious : previous.length = p.trainNodes.length := Store.Holds.length h
        omega
      simp [startKey?, Store.startOf, Store.training, Store.Holds.trained h i hi', Except.map,
        Setup.learned]
  · rintro x updates ⟨hscores, hkeeps, hupdates, htrained, -⟩
    refine ⟨hscores, hkeeps, hupdates.trans hzip, fun i hi => ?_⟩
    rw [← htrained i hi, Nat.zero_add]

/-! ## The tests of a round -/

/-- The state to test is the one of the member's training node. -/
theorem filter_zip {updates : List Update} (hlength : updates.length = p.trainNodes.length)
    {member : ParticipantId} (h : (p.trainNodes.filter fun m => m.id = member).length = 1) :
    ∃ n u, updates[p.numberOf member]? = some u ∧
      ((p.trainNodes.zip updates).filter fun q => q.1.id = member) = [(n, u)] := by
  have hlt := p.numberOf_lt (p.exists_of_filter h)
  have hlt' : p.numberOf member < updates.length := by omega
  have hfst : (p.trainNodes.zip updates).map Prod.fst = p.trainNodes :=
    List.map_fst_zip (by omega)
  have hone : ((p.trainNodes.zip updates).filter fun q => q.1.id = member).length = 1 := by
    rw [← h, ← hfst, List.filter_map, List.length_map, hfst]
    rfl
  have hmem : (p.trainNodes[p.numberOf member], updates[p.numberOf member]) ∈
      (p.trainNodes.zip updates).filter fun q => q.1.id = member := by
    refine List.mem_filter.mpr ⟨?_, decide_eq_true (p.id_numberOf hlt)⟩
    refine List.mem_iff_getElem.mpr ⟨p.numberOf member, by rw [List.length_zip]; omega, ?_⟩
    simp
  obtain ⟨z, hz⟩ := List.length_eq_one_iff.mp hone
  rw [hz, List.mem_singleton] at hmem
  exact ⟨_, _, List.getElem?_eq_getElem hlt', by rw [hz, ← hmem]⟩

/-- Each node that tests has one state to test, that of its member. -/
theorem toTest_spec {updates : List Update} (hm : p.Matched)
    (hlength : updates.length = p.trainNodes.length) :
    (p.toTest updates).map Prod.fst = p.testNodes ∧
      ∀ q ∈ p.toTest updates, ∃ u, updates[p.numberOf q.1.id]? = some u ∧ q.2 = u.1 := by
  have hstates : ∀ t ∈ p.testNodes, ∃ u, updates[p.numberOf t.id]? = some u ∧
      (((p.trainNodes.zip updates).filter fun q => q.1.id = t.id).map fun q => (t, q.2.1)) =
        [(t, u.1)] := by
    intro t ht
    obtain ⟨n, u, hu, hz⟩ := p.filter_zip hlength (hm t ht)
    exact ⟨u, hu, by rw [hz]; rfl⟩
  constructor
  · have hsingle : ∀ ts : List TestNode, (∀ t ∈ ts, t ∈ p.testNodes) →
        (ts.flatMap fun t => ((p.trainNodes.zip updates).filter fun q => q.1.id = t.id).map
          fun q => (t, q.2.1)).map Prod.fst = ts := by
      intro ts hts
      induction ts with
      | nil => rfl
      | cons t rest ih =>
        obtain ⟨u, -, hz⟩ := hstates t (hts t (List.mem_cons_self ..))
        rw [List.flatMap_cons, hz, List.map_append,
          ih fun t' ht' => hts t' (List.mem_cons_of_mem _ ht')]
        rfl
    exact hsingle p.testNodes fun _ => id
  · intro q hq
    obtain ⟨t, ht, hmem⟩ := List.mem_flatMap.mp hq
    obtain ⟨u, hu, hz⟩ := hstates t ht
    rw [hz, List.mem_singleton] at hmem
    rw [hmem]
    exact ⟨u, hu, rfl⟩

/-- The tests from the given number on. -/
theorem refines_tests_from {r : Nat} (q : List (TestNode × LocalState)) (k : Nat) {s : Store}
    (hkeeps : s.cleanModels = false)
    (hstates : ∀ x ∈ q, ∃ shared, s.trained.get? (p.key (p.trainAt r (p.numberOf x.1.id))) =
      some ⟨p.algorithm, x.2, shared⟩) :
    Refines (fun x scores => x.2.map Performance.score = scores ∧ x.1.cleanModels = false ∧
        x.1.trained = s.trained)
      (s.runAll answers (q.mapIdx fun i x => .test (p.testTask r (k + i) x.1)))
      (q.mapM (p.score answers r)) := by
  induction q generalizing k s with
  | nil => exact .ok ⟨rfl, hkeeps, rfl⟩
  | cons first rest ih =>
    obtain ⟨shared, hstate⟩ := hstates first (List.mem_cons_self ..)
    rw [mapIdx_cons_from fun i (x : TestNode × LocalState) => Task.test (p.testTask r i x.1),
      List.mapM_cons, Store.runAll]
    have hfirst : Refines (fun x score => x.2.toList.map Performance.score = [score] ∧
          x.1.cleanModels = false ∧ x.1.trained = s.trained)
        ((s.runTask (.test (p.testTask r k first.1))).result answers)
        (p.score answers r first) := by
      have hmodel : s.trained.get? (p.testTask r k first.1).model = _ := hstate
      refine (Store.refines_test hkeeps hmodel).map_right ?_
      rintro x value ⟨hscore, hkeeps', htrained, -⟩
      refine ⟨?_, hkeeps', htrained⟩
      rw [hscore]
      rfl
    refine hfirst.bind ?_
    rintro x score ⟨hscore, hkeeps', htrained⟩
    refine (ih (k + 1) hkeeps' fun y hy => ?_).bind ?_
    · rw [htrained]
      exact hstates y (List.mem_cons_of_mem _ hy)
    · rintro y scores ⟨hscores, hkeeps'', htrained'⟩
      refine .ok ⟨?_, hkeeps'', htrained'.trans htrained⟩
      rw [List.map_append, hscore, hscores]
      rfl

/-- The tests of a round give its scores, and change nothing. -/
theorem refines_tests {r : Nat} {updates : List Update} (hm : p.Matched)
    (h : s.Holds p r updates) :
    Refines (fun x scores => x.2.map Performance.score = scores ∧ x.1.Holds p r updates)
      (s.runAll answers (p.testTasks r)) (p.evaluate answers r updates) := by
  unfold testTasks Setup.evaluate
  split
  · obtain ⟨hfst, hstates⟩ := p.toTest_spec hm h.length
    have htasks : (p.testNodes.mapIdx fun k n => Task.test (p.testTask r k n)) =
        (p.toTest updates).mapIdx fun i x => .test (p.testTask r (0 + i) x.1) := by
      rw [← hfst]
      refine List.ext_getElem (by simp) fun i _ _ => ?_
      simp
    rw [htasks]
    refine (p.refines_tests_from (p.toTest updates) 0 h.keeps fun x hx => ?_).mono ?_
    · obtain ⟨u, hu, hstate⟩ := hstates x hx
      obtain ⟨hlt, hget⟩ := List.getElem?_eq_some_iff.mp hu
      have htrained := h.trained _ hlt
      rw [hget, ← hstate] at htrained
      exact ⟨u.2, htrained⟩
    · rintro x scores ⟨hscores, hkeeps, htrained⟩
      refine ⟨hscores, hkeeps, h.length, fun j hj => ?_⟩
      rw [htrained]
      exact h.trained j hj
  · exact .ok ⟨rfl, h⟩

/-! ## All rounds -/

/-- A round computes what it should, from what the round before has left. -/
theorem refines_round {r : Nat} {previous : List Update} (hm : p.Matched)
    (h : s.Ready p r previous) :
    Refines (fun x (y : List Update × List Score) => x.2.map Performance.score = y.2 ∧
        x.1.Holds p r y.1)
      (s.runAll answers (p.aggregateTasks r ++ p.trainTasks r ++ p.testTasks r)) (do
        let updates ← p.update answers r previous
        let scores ← p.evaluate answers r updates
        .ok (updates, scores)) := by
  rw [Store.runAll_append, Store.runAll_append]
  refine Refines.bind (R := fun x updates => x.2 = [] ∧ x.1.Holds p r updates) ?_ ?_
  · refine (p.refines_aggregation h).bind ?_
    rintro x shared ⟨hnone, hready, hshared⟩
    refine (p.refines_trainings hready hshared).bind_left ?_
    rintro y updates ⟨hnone', hholds⟩
    exact ⟨by simp [hnone, hnone'], hholds⟩
  · rintro x updates ⟨hnone, hholds⟩
    refine (p.refines_tests hm hholds).bind ?_
    rintro y scores ⟨hscores, hholds'⟩
    exact .ok ⟨by simpa [hnone] using hscores, hholds'⟩

/-- All rounds compute what they should. -/
theorem refines_tasks (hm : p.Matched) (hkeeps : s.cleanModels = false) (rounds : Nat) :
    Refines (fun x (y : List Update × List Score) => x.2.map Performance.score = y.2 ∧
        x.1.Ready p rounds y.1)
      (s.runAll answers (p.tasks rounds)) (p.after answers rounds) := by
  induction rounds with
  | zero => exact .ok ⟨rfl, hkeeps⟩
  | succ r ih =>
    rw [tasks, List.append_assoc, Store.runAll_append, Setup.after]
    refine ih.bind ?_
    rintro x ⟨previous, scores⟩ ⟨hscores, hready⟩
    dsimp only at hscores hready ⊢
    have hsplit : (do
          let updates ← p.update answers r previous
          let more ← p.evaluate answers r updates
          .ok (updates, scores ++ more)) = (do
          let updates ← p.update answers r previous
          let more ← p.evaluate answers r updates
          .ok (updates, more)) >>= fun y => .ok (y.1, scores ++ y.2) := by
      simp only [bind_assoc]
      rfl
    rw [hsplit]
    refine (p.refines_round hm hready).bind ?_
    rintro y ⟨updates, more⟩ ⟨hmore, hholds⟩
    exact .ok ⟨by rw [List.map_append, hscores, hmore], hholds⟩

/-- Running a plan of the blueprint's tasks gives the scores of the averaging, or its failure,
whether or not the plan cleans its models. -/
theorem refines_run (hm : p.Matched) {plan : Plan} {rounds : Nat}
    (htasks : plan.tasks = p.tasks rounds) :
    Refines (fun scores averaged => scores.map Performance.score = averaged)
      (Execution.run (.pure answers) () plan).2 (p.scores answers rounds) := by
  have hplain : Execution.run (.pure answers) () plan =
      Execution.runTasks (.pure answers) plan.tasks () (.ofTasks false plan.tasks) [] := by
    unfold Execution.run
    cases plan.cleanModels with
    | true => exact Execution.runTasks_agrees _ _ _ (Store.agrees_ofTasks plan.tasks) _
    | false => rfl
  rw [hplain, Execution.runTasks_pure, htasks, Setup.scores]
  refine (p.refines_tasks hm rfl rounds).map ?_
  rintro x y ⟨hscores, -⟩
  exact hscores

end Blueprint

end Federation
