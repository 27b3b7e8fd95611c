import Federation.Proofs.Acceptance
import Federation.Proofs.EndToEnd
import Federation.Proofs.Learning
import Federation.Proofs.Lifecycle

/-!
# Where the scores come from

Each score that a backend reports is that of one test of the plan. It is the score, on the samples
of the test, of what the training node of the same member holds after the round of the test. So a
score depends on the trainings and on one call of the algorithm, and on no other test.

* `Blueprint.Scored`: what the score of a test is;
* `Blueprint.scores_evaluate`, `Blueprint.scores_after`: the scores of a round, and of all rounds;
* `Plan.nodup_keys`: the tasks of an accepted plan have different keys;
* `Experiment.exists_scored_plan`: the scores of a plan that is done.
-/

namespace Federation

/-! ## The scores of the averaging -/

namespace Blueprint

variable (p : Blueprint) {answers : Answers}

/-- The score of a test: what the training node of its worker holds after its round is scored on its
samples. -/
def Scored (p : Blueprint) (answers : Answers) (t : TestTask) (value : Float) : Prop :=
  ∃ updates u, p.trained answers (t.round.toNat + 1) = .ok updates ∧
    updates[p.numberOf t.worker]? = some u ∧
    answers (.score p.algorithm t.samples u.1) = .ok value

/-- A score of the averaging that is the one of a test. -/
structure ScoreOf (p : Blueprint) (answers : Answers) (t : TestTask) (q : Score) : Prop where
  worker : q.worker = t.worker
  round : q.round = t.round
  value : p.Scored answers t q.value

/-- The tests among the tasks of a round. -/
theorem tests_testTasks (r : Nat) : (p.testTasks r).filterMap Task.test? =
    if p.evaluated r then p.testNodes.mapIdx (p.testTask r) else [] := by
  unfold testTasks
  split
  · simp [List.mapIdx_eq_zipIdx_map, List.filterMap_map, Function.comp_def, Task.test?]
  · rfl

/-- Neither aggregations nor trainings are tests. -/
theorem tests_updateTasks (r : Nat) :
    (p.aggregateTasks r ++ p.trainTasks r).filterMap Task.test? = [] := by
  refine List.filterMap_eq_nil_iff.mpr fun t ht => ?_
  rcases List.mem_append.mp ht with ht | ht
  · cases r with
    | zero => simp [aggregateTasks] at ht
    | succ r =>
      obtain rfl := List.mem_singleton.mp ht
      rfl
  · obtain ⟨j, hj, rfl⟩ := List.mem_mapIdx.mp ht
    rfl

/-- The tests of all rounds. -/
theorem mem_tests_iff {rounds : Nat} {t : TestTask} :
    t ∈ (p.tasks rounds).filterMap Task.test? ↔ ∃ r < rounds, p.evaluated r = true ∧
      ∃ (k : Nat) (hk : k < p.testNodes.length), t = p.testTask r k p.testNodes[k] := by
  induction rounds with
  | zero => simp [tasks]
  | succ r ih =>
    have hround : t ∈ (p.testTasks r).filterMap Task.test? ↔ p.evaluated r = true ∧
        ∃ (k : Nat) (hk : k < p.testNodes.length), t = p.testTask r k p.testNodes[k] := by
      rw [p.tests_testTasks]
      cases p.evaluated r with
      | true => simp [List.mem_mapIdx, eq_comm]
      | false => simp
    rw [tasks, List.filterMap_append, List.filterMap_append, tests_updateTasks, List.append_nil,
      List.mem_append, ih, hround]
    constructor
    · rintro (⟨q, hq, h⟩ | h)
      · exact ⟨q, Nat.lt_succ_of_lt hq, h⟩
      · exact ⟨r, Nat.lt_succ_self r, h⟩
    · rintro ⟨q, hq, h⟩
      rcases Nat.lt_succ_iff_lt_or_eq.mp hq with hlt | rfl
      · exact .inl ⟨q, hlt, h⟩
      · exact .inr h

/-- A call for a score that succeeds gives the value of the score. -/
theorem score_eq_ok {r : Nat} {x : TestNode × LocalState} {q : Score}
    (h : p.score answers r x = .ok q) : q.worker = x.1.id ∧ q.round = UInt32.ofNat r ∧
      answers (.score p.algorithm x.1.samples x.2) = .ok q.value := by
  obtain ⟨value, hvalue, rfl⟩ := exists_of_map_eq_ok h
  exact ⟨rfl, rfl, mapError_eq_ok_iff.mp hvalue⟩

/-- The scores of a round are those of its tests, in order. -/
theorem scores_evaluate {r : Nat} (hr : r < UInt32.size) (hm : p.Matched)
    {updates : List Update} (htrained : p.trained answers (r + 1) = .ok updates)
    {scores : List Score} (h : p.evaluate answers r updates = .ok scores) :
    List.Forall₂ (p.ScoreOf answers) ((p.testTasks r).filterMap Task.test?) scores := by
  rw [p.tests_testTasks]
  unfold Setup.evaluate at h
  split at h
  · next hsel =>
    rw [if_pos hsel]
    obtain ⟨hnodes, hstates⟩ := p.toTest_spec hm (Setup.length_trained htrained)
    have hall := forall₂_of_mapM_eq_ok h
    have hlength : (p.toTest updates).length = p.testNodes.length := by
      rw [← hnodes, List.length_map]
    refine List.forall₂_iff_get.mpr ⟨by simp [← hall.length_eq, hlength], fun k hk hk' => ?_⟩
    have hk₀ : k < (p.toTest updates).length := hall.length_eq ▸ hk'
    obtain ⟨hworker, hround, hvalue⟩ := p.score_eq_ok (hall.get hk₀ hk')
    have hnode : (p.toTest updates)[k].1 = p.testNodes[k] := by
      simp [← hnodes]
    obtain ⟨u, hu, hstate⟩ := hstates _ (List.getElem_mem hk₀)
    simp only [List.get_eq_getElem, List.getElem_mapIdx] at hworker hround hvalue ⊢
    rw [hnode] at hworker hvalue hu
    rw [hstate] at hvalue
    refine ⟨hworker, hround, updates, u, ?_, hu, hvalue⟩
    rw [← htrained]
    show p.trained answers ((UInt32.ofNat r).toNat + 1) = _
    rw [UInt32.toNat_ofNat_of_lt' hr]
  · next hsel =>
    obtain rfl := Except.ok.inj h
    rw [if_neg hsel]
    exact .nil

/-- All scores are those of the tests, in order. -/
theorem scores_after {rounds : Nat} (hrounds : rounds ≤ UInt32.size) (hm : p.Matched)
    {updates : List Update} {scores : List Score}
    (h : p.after answers rounds = .ok (updates, scores)) :
    List.Forall₂ (p.ScoreOf answers) ((p.tasks rounds).filterMap Task.test?) scores := by
  induction rounds generalizing updates scores with
  | zero =>
    obtain ⟨-, rfl⟩ := Prod.mk.inj (Except.ok.inj h)
    exact .nil
  | succ r ih =>
    have htrained := Setup.trained_of_after h
    obtain ⟨⟨previous, before⟩, hprevious, h⟩ := exists_of_bind_eq_ok h
    obtain ⟨now, hnow, h⟩ := exists_of_bind_eq_ok h
    obtain ⟨more, hmore, h⟩ := exists_of_bind_eq_ok h
    obtain ⟨rfl, rfl⟩ := Prod.mk.inj (Except.ok.inj h)
    rw [tasks, List.filterMap_append, List.filterMap_append, tests_updateTasks, List.append_nil]
    exact List.rel_append (ih (by omega) hprevious)
      (p.scores_evaluate (by omega) hm htrained hmore)

end Blueprint

/-! ## The scores of a plan -/

/-- A score is known by its test and its value. -/
theorem Performance.eq_of_origin {q q' : Performance} (h : q.origin = q'.origin)
    (hvalue : q.value = q'.value) : q = q' := by
  obtain ⟨htask, hrest⟩ := Prod.mk.inj h
  obtain ⟨hworker, hround⟩ := Prod.mk.inj hrest
  cases q
  cases q'
  congr

namespace Plan

/-- The tasks of an accepted plan have different keys. -/
theorem nodup_keys {p : Plan} (h : p.fault? = none) : (p.tasks.map Task.key).Nodup :=
  (wellFormed_iff.mpr h).keys

/-- A test of an accepted plan is known by its key. -/
theorem test_eq_of_key {p : Plan} (h : p.fault? = none) {t t' : TestTask} (ht : t ∈ p.tests)
    (ht' : t' ∈ p.tests) (hkey : t.key = t'.key) : t = t' := by
  have hmem : ∀ {t : TestTask}, t ∈ p.tests → Task.test t ∈ p.tasks := fun {t} ht => by
    obtain ⟨task, htask, heq⟩ := List.mem_filterMap.mp ht
    cases task with
    | train _ | aggregate _ => simp [Task.test?] at heq
    | test t₀ =>
      obtain rfl := Option.some.inj heq
      exact htask
  exact Task.test.inj (List.inj_on_of_nodup_map (nodup_keys h) (hmem ht) (hmem ht') hkey)

end Plan

namespace LocalBackend

/-- When a plan is done, it has one score for each of its tests, in order. -/
theorem origins_of_done (b : LocalBackend) {key : PlanKey} {p : Plan} (accepted : p.fault? = none)
    {answers : Answers} {history : List Event} (h : Answered key answers history)
    (done : ((b.step (.submit key p)).after history).status key = .ok .done)
    {scores : List Performance}
    (hscores : ((b.step (.submit key p)).after history).performances key = .ok scores) :
    scores.map Performance.origin = p.tests.map TestTask.origin := by
  have fresh : Unsubmitted key history := fun ev hev q heq => by
    subst heq
    rcases h _ hev rfl with h | h | h <;> cases h
  obtain ⟨r, hr, hlawful, -⟩ :=
    lawful_after (b.get?_step_submit key accepted) (Record.lawful_accepted p) fresh
  have hdone : r.status = .done := by simpa [status, record, hr, Except.map] using done
  obtain rfl : r.performances = scores := by
    simpa [performances, record, hr, Except.map] using hscores
  exact hlawful.complete hdone

end LocalBackend

namespace Experiment

open LocalBackend (Answered Uninterrupted)

/-- **Where the scores come from.** The plan of an experiment that was built is accepted, and when
it is done, there is one score for each of its tests, in order, and it is the score of what the
training node of the same member holds after the round of the test. -/
theorem exists_scored_plan (e : Experiment) {r : Recorder} (built : (e.build r).outcome = .ok ())
    (now : Timestamp) :
    ∃ a plan, e.aggregator = some a ∧ (e.build r).state.1.compile now = .ok plan ∧
      plan.cleanModels = e.cleanModels ∧ plan.fault? = none ∧
      plan.tests =
        ((e.blueprint a.id r.drawn).tasks e.numRounds.toNat).filterMap Task.test? ∧
      ∀ (answers : Answers) (b : LocalBackend) (key : PlanKey) (history : List LocalBackend.Event),
        Answered key answers history →
        ((b.step (.submit key plan)).after history).status key = .ok .done →
        ∃ scores, ((b.step (.submit key plan)).after history).performances key = .ok scores ∧
          List.Forall₂ (fun t q => q.origin = t.origin ∧
            (e.blueprint a.id r.drawn).Scored answers t q.value) plan.tests scores := by
  obtain ⟨a, plan, ha, hcompile, hclean, haccepted, hm, htasks⟩ := e.exists_tasks built now
  have htests : plan.tests =
      ((e.blueprint a.id r.drawn).tasks e.numRounds.toNat).filterMap Task.test? := by
    rw [Plan.tests, htasks]
  refine ⟨a, plan, ha, hcompile, hclean, haccepted, htests, fun answers b key history h hdone => ?_⟩
  obtain ⟨scores, hscores, hrun⟩ := b.result_of_done haccepted h hdone
  refine ⟨scores, hscores, ?_⟩
  have hrefines : Refines (fun scores averaged => scores.map Performance.score = averaged)
      (Execution.run (.pure answers) () plan).2
      ((e.blueprint a.id r.drawn).scores answers e.numRounds.toNat) :=
    Blueprint.refines_run _ hm htasks
  rw [hrun] at hrefines
  generalize haveraged : Setup.scores _ answers e.numRounds.toNat = averaged at hrefines
  cases hrefines with
  | ok hmap =>
    subst hmap
    obtain ⟨⟨updates, _⟩, hafter, rfl⟩ := exists_of_map_eq_ok haveraged
    have hrounds : e.numRounds.toNat ≤ UInt32.size := Nat.le_of_lt e.numRounds.toNat_lt
    have hscored := Blueprint.scores_after _ hrounds hm hafter
    rw [← htests] at hscored
    have horigins := b.origins_of_done haccepted h hdone hscores
    refine List.forall₂_iff_get.mpr ⟨by simpa using hscored.length_eq, fun i hi hi' => ?_⟩
    have hi'' : i < (scores.map Performance.score).length := by simpa using hi'
    have hq := hscored.get hi hi''
    have horigin := List.getElem_of_eq horigins (i := i) (by simpa using hi')
    rw [List.getElem_map, List.getElem_map] at horigin
    rw [List.get_eq_getElem, List.get_eq_getElem, List.getElem_map] at hq
    exact ⟨horigin, hq.value⟩

/-- A plan is done after enough steps, when the averaging has scores. -/
theorem done_of_scores (e : Experiment) {r : Recorder} (built : (e.build r).outcome = .ok ())
    {now : Timestamp} {plan : Plan} (hcompile : (e.build r).state.1.compile now = .ok plan)
    {answers : Answers} {averaged : List Score}
    (h : e.setup.scores answers e.numRounds.toNat = .ok averaged) (b : LocalBackend)
    (key : PlanKey) :
    let history := List.replicate (2 * plan.size + 3) (LocalBackend.Event.advance key answers)
    Answered key answers history ∧
      ((b.step (.submit key plan)).after history).status key = .ok .done := by
  intro history
  obtain ⟨_, hcompile', -, haccepted, hresult⟩ := e.exists_plan built now
  obtain rfl := Except.ok.inj (hcompile.symm.trans hcompile')
  have heach : ∀ ev ∈ history, ev = .advance key answers := fun _ => List.eq_of_mem_replicate
  have huninterrupted : Uninterrupted key answers history := fun ev hev _ => .inl (heach ev hev)
  have hturns : LocalBackend.turns key history = 2 * plan.size + 3 := by
    simp [LocalBackend.turns, history, LocalBackend.Event.turns]
  have hfinished := b.isFinished_of_turns haccepted huninterrupted (Nat.le_of_eq hturns.symm)
  refine ⟨fun ev hev _ => .inl (heach ev hev), ?_⟩
  rw [(b.result_of_finished haccepted huninterrupted hfinished).1, Plan.outcome]
  have hrefines := hresult answers
  rw [h] at hrefines
  generalize (Execution.run (.pure answers) () plan).2 = result at hrefines
  cases hrefines with
  | ok _ => rfl

end Experiment

end Federation
