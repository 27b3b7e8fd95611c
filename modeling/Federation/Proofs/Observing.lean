import Federation.Proofs.ModelSteps
import Federation.Proofs.Scoring

/-!
# Evaluation only observes

Two experiments train alike when they have the same algorithm, the same nodes that train and the
same node that aggregates, for as many rounds. They may test on other nodes and after other rounds,
and one may drop models that the other keeps. None of this is felt by the trainings: the graphs do
the same but for their tests, and what both evaluate has the same score in both.

* `Experiment.SameTraining`: two experiments that train alike;
* `Experiment.SameTraining.trainAlike`: their nodes learn the same;
* `Plan.Reports`: the score of a node that tests, in a round;
* `Experiment.evaluation_only_observes`: the comparison of the two.
-/

namespace Federation

/-! ## The score of a node in a round -/

/-- Among the scores of a plan, there is one with the given value for a test on the samples of a
node, in the given round. -/
def Plan.Reports (plan : Plan) (scores : List Performance) (m : TestNode) (round : Round)
    (value : Float) : Prop :=
  ∃ t ∈ plan.testTasks, t.worker = m.id ∧ t.samples = m.samples ∧ t.round = round ∧
    ∃ q ∈ scores, q.task = t.key ∧ q.value = value

namespace Plan

variable {plan : Plan} {p : Blueprint} {answers : Answers} {scores : List Performance}
  {m : TestNode} {round : Round} {value : Float}

theorem mem_tests_iff {t : TestTask} : t ∈ plan.tests ↔ t ∈ plan.testTasks :=
  plan.perm_tests.mem_iff

/-- Whatever is reported for a node in a round is the score of a test. -/
theorem Reports.exists_scored (h : plan.Reports scores m round value)
    (accepted : plan.fault? = none)
    (hall : List.Forall₂ (fun t q => q.origin = t.origin ∧ p.Scored answers t q.value)
      plan.tests scores) :
    ∃ t : TestTask, t.worker = m.id ∧ t.samples = m.samples ∧ t.round = round ∧
      p.Scored answers t value := by
  obtain ⟨t, ht, hworker, hsamples, hround, q, hq, hkey, rfl⟩ := h
  obtain ⟨t', ht', horigin, hscored⟩ := exists_mem_of_forall₂ hall hq
  have hkey' : q.task = t'.key := congrArg Prod.fst horigin
  obtain rfl := test_eq_of_key accepted (mem_tests_iff.mpr ht) ht' (hkey.symm.trans hkey')
  exact ⟨t, hworker, hsamples, hround, hscored⟩

/-- For every test something is reported. -/
theorem exists_reports {t : TestTask} (ht : t ∈ plan.tests) (hworker : t.worker = m.id)
    (hsamples : t.samples = m.samples) (hround : t.round = round)
    (hall : List.Forall₂ (fun t q => q.origin = t.origin ∧ p.Scored answers t q.value)
      plan.tests scores) :
    ∃ value, plan.Reports scores m round value ∧ p.Scored answers t value := by
  obtain ⟨q, hq, horigin, hscored⟩ := exists_mem_of_forall₂ hall.flip ht
  exact ⟨q.value, ⟨t, mem_tests_iff.mp ht, hworker, hsamples, hround, q, hq,
    congrArg Prod.fst horigin, rfl⟩, hscored⟩

end Plan

/-! ## Experiments that train alike -/

namespace Experiment

/-- Two experiments with the same algorithm, the same nodes that train and the same node that
aggregates, and as many rounds. What was registered on the nodes before does not matter. -/
structure SameTraining (e e' : Experiment) : Prop where
  algorithm : e.strategy.algorithm = e'.strategy.algorithm
  trainNodes : e.trainNodes.map TrainNode.clear = e'.trainNodes.map TrainNode.clear
  aggregator : e.aggregator.map AggregationNode.clear = e'.aggregator.map AggregationNode.clear
  numRounds : e.numRounds = e'.numRounds

namespace SameTraining

variable {e e' : Experiment} {answers : Answers}

theorem refl (e : Experiment) : e.SameTraining e :=
  ⟨rfl, rfl, rfl, rfl⟩

/-- The nodes learn the same. -/
theorem trainAlike (h : e.SameTraining e') (answers : Answers) :
    Setup.TrainAlike e.setup e'.setup answers answers fun _ => Eq where
  length := by
    show e.trainNodes.length = e'.trainNodes.length
    simpa using congrArg List.length h.trainNodes
  shares _ _ _ hu := congrArg Prod.snd hu
  trains j n n' hn hn' shared start start' u u' hstarts hu hu' := by
    have hj := congrArg (·[j]?) h.trainNodes
    simp only [List.getElem?_map] at hj
    have hnode : n.clear = n'.clear := by
      have hn₀ : e.trainNodes[j]? = some n := hn
      have hn₀' : e'.trainNodes[j]? = some n' := hn'
      simpa [hn₀, hn₀'] using hj
    have hsamples : n.samples = n'.samples := (congrArg TrainNode.samples hnode :)
    have hstart : start = start' := by
      cases hstarts with
      | none => rfl
      | some hv => exact congrArg (fun u => some u.1) hv
    have halgorithm : e.setup.algorithm = e'.setup.algorithm := h.algorithm
    rw [Setup.train_eq_ok_iff, hsamples, hstart, halgorithm] at hu
    rw [Setup.train_eq_ok_iff] at hu'
    exact Except.ok.inj (hu.symm.trans hu')

/-- A member has the same number among the nodes that train. -/
theorem numberOf (h : e.SameTraining e') (a a' : ParticipantId) (serial serial' : Nat)
    (member : ParticipantId) :
    (e.blueprint a serial).numberOf member = (e'.blueprint a' serial').numberOf member := by
  have hids : ∀ ns : List TrainNode, (ns.findIdx fun n => n.id = member) =
      (ns.map TrainNode.clear).findIdx fun n => n.id = member := fun ns => by
    rw [List.findIdx_map]
    rfl
  have hnodes := congrArg (List.findIdx fun n => n.id = member) h.trainNodes
  exact (hids _).trans (hnodes.trans (hids _).symm)

/-- Tests of the same member on the same samples have the same score in the same round. -/
theorem value_eq (h : e.SameTraining e') {a a' : ParticipantId} {serial serial' : Nat}
    {t t' : TestTask} (hworker : t.worker = t'.worker) (hsamples : t.samples = t'.samples)
    (hround : t.round = t'.round) {value value' : Float}
    (hscored : (e.blueprint a serial).Scored answers t value)
    (hscored' : (e'.blueprint a' serial').Scored answers t' value') : value = value' := by
  obtain ⟨updates, u, hupdates, hu, hvalue⟩ := hscored
  obtain ⟨updates', u', hupdates', hu', hvalue'⟩ := hscored'
  rw [hround] at hupdates
  obtain ⟨-, hlearned⟩ := (h.trainAlike answers).trained hupdates hupdates'
  rw [hworker, h.numberOf a a' serial serial'] at hu
  obtain rfl := hlearned _ u u' hu hu'
  have halgorithm : (e.blueprint a serial).algorithm = (e'.blueprint a' serial').algorithm :=
    h.algorithm
  rw [hsamples, halgorithm] at hvalue
  exact Except.ok.inj (hvalue.symm.trans hvalue')

/-- The graphs do the same but for their tests, and what they do does not need the tests. -/
theorem modelSteps_eq (h : e.SameTraining e') {r r' : Recorder}
    (built : (e.build r).outcome = .ok ()) (built' : (e'.build r').outcome = .ok ()) :
    (e.build r).state.1.graph.modelSteps = (e'.build r').state.1.graph.modelSteps := by
  obtain ⟨a, ha, -, -, hfollows⟩ := (buildable_of_build built).build r
  obtain ⟨a', ha', -, -, hfollows'⟩ := (buildable_of_build built').build r'
  have hclear : a.clear = a'.clear := by simpa [ha, ha'] using h.aggregator
  have hsteps : (e.blueprint a.id r.drawn).steps = (e'.blueprint a'.id r'.drawn).steps :=
    Blueprint.steps_congr h.algorithm h.trainNodes (congrArg AggregationNode.id hclear :)
  rw [Blueprint.modelSteps_eq hfollows.graph, Blueprint.modelSteps_eq hfollows'.graph, hsteps,
    h.numRounds]

end SameTraining

variable {e : Experiment}

/-- What is consumed by the operations that change the models was produced by one of them. -/
theorem producer_mem_updates_of_build {r : Recorder} (built : (e.build r).outcome = .ok ()) :
    let g := (e.build r).state.1.graph
    ∀ op ∈ g.updates, ∀ input ∈ op.inputs, ∃ u ∈ g.updates, u.id = input.producer := by
  intro g op hop input hi
  obtain ⟨a, -, -, -, hfollows⟩ := (buildable_of_build built).build r
  exact Graph.producer_mem_updates hfollows.valid (List.mem_filter.mp hop).1 hi
    (Blueprint.numbered hfollows.graph)

/-- A node that tests has a test in every round that is evaluated. -/
theorem exists_test (a : ParticipantId) (serial : Nat) {m : TestNode} (hm : m ∈ e.testNodes)
    {round : Round} (hround : round < e.numRounds)
    (hselects : e.evaluation.selects round e.numRounds = true) :
    ∃ t ∈ ((e.blueprint a serial).tasks e.numRounds.toNat).filterMap Task.test?,
      t.worker = m.id ∧ t.samples = m.samples ∧ t.round = round := by
  obtain ⟨k, hk, rfl⟩ := List.mem_iff_getElem.mp hm
  have hofNat : UInt32.ofNat round.toNat = round := UInt32.ofNat_toNat
  have hevaluated : (e.blueprint a serial).evaluated round.toNat = true := by
    show e.evaluation.selects (UInt32.ofNat round.toNat) e.numRounds = true
    rw [hofNat, hselects]
  exact ⟨_, (Blueprint.mem_tests_iff _).mpr ⟨round.toNat, hround, hevaluated, k, hk, rfl⟩, rfl, rfl,
    hofNat⟩

/-- In every round that is evaluated, one score is reported for a node that tests. -/
theorem exists_report {plan : Plan} (accepted : plan.fault? = none) {a : ParticipantId}
    {serial : Nat}
    (htests : plan.tests = ((e.blueprint a serial).tasks e.numRounds.toNat).filterMap Task.test?)
    {answers : Answers} {scores : List Performance}
    (hall : List.Forall₂ (fun t q => q.origin = t.origin ∧
      (e.blueprint a serial).Scored answers t q.value) plan.tests scores)
    {m : TestNode} (hm : m ∈ e.testNodes) {round : Round} (hround : round < e.numRounds)
    (hselects : e.evaluation.selects round e.numRounds = true) :
    ∃ value, (∀ v, plan.Reports scores m round v ↔ v = value) ∧
      ∃ t : TestTask, t.worker = m.id ∧ t.samples = m.samples ∧ t.round = round ∧
        (e.blueprint a serial).Scored answers t value := by
  obtain ⟨t, ht, hworker, hsamples, htround⟩ := exists_test a serial hm hround hselects
  obtain ⟨value, hreports, hscored⟩ :=
    Plan.exists_reports (htests ▸ ht) hworker hsamples htround hall
  refine ⟨value, fun v => ⟨fun hv => ?_, fun hv => hv ▸ hreports⟩, t, hworker, hsamples, htround,
    hscored⟩
  obtain ⟨t', hworker', hsamples', htround', hscored'⟩ := hv.exists_scored accepted hall
  exact (SameTraining.refl e).value_eq (hworker'.trans hworker.symm)
    (hsamples'.trans hsamples.symm) (htround'.trans htround.symm) hscored' hscored

open LocalBackend (Answered)

/-- **Evaluation only observes.** Take two experiments that train alike and were both built, however
they are evaluated and whether or not they clean their models. Without their tests, the two graphs
do the same, operation by operation. Execute both plans against the same algorithm, on any backends
and with anything else going on. If both are done, then whatever both evaluate, a node of the same
member on the same samples in the same round, has one score, and it is the same in both. -/
theorem evaluation_only_observes (e e' : Experiment) (r r' : Recorder) (now now' : Timestamp)
    (answers : Answers) (h : e.SameTraining e') (built : (e.build r).outcome = .ok ())
    (built' : (e'.build r').outcome = .ok ()) :
    let g := (e.build r).state.1.graph
    let g' := (e'.build r').state.1.graph
    (∀ op ∈ g.updates, ∀ input ∈ op.inputs, ∃ u ∈ g.updates, u.id = input.producer) ∧
    (∀ op ∈ g'.updates, ∀ input ∈ op.inputs, ∃ u ∈ g'.updates, u.id = input.producer) ∧
    g.modelSteps = g'.modelSteps ∧
    ∃ plan plan', (e.build r).state.1.compile now = .ok plan ∧
      (e'.build r').state.1.compile now' = .ok plan' ∧
      plan.cleanModels = e.cleanModels ∧ plan'.cleanModels = e'.cleanModels ∧
      plan.fault? = none ∧ plan'.fault? = none ∧
      ∀ (b b' : LocalBackend) (key key' : PlanKey) (history history' : List LocalBackend.Event),
        Answered key answers history → Answered key' answers history' →
        let first := (b.step (.submit key plan)).after history
        let second := (b'.step (.submit key' plan')).after history'
        first.status key = .ok .done → second.status key' = .ok .done →
        ∃ scores scores', first.performances key = .ok scores ∧
          second.performances key' = .ok scores' ∧
          ∀ m ∈ e.testNodes, ∀ m' ∈ e'.testNodes, m.id = m'.id → m.samples = m'.samples →
          ∀ round < e.numRounds, e.evaluation.selects round e.numRounds = true →
            e'.evaluation.selects round e'.numRounds = true →
            ∃ value, (∀ v, plan.Reports scores m round v ↔ v = value) ∧
              ∀ v, plan'.Reports scores' m' round v ↔ v = value := by
  obtain ⟨a, plan, -, hcompile, hclean, haccepted, htests, hscored⟩ :=
    e.exists_scored_plan built now
  obtain ⟨a', plan', -, hcompile', hclean', haccepted', htests', hscored'⟩ :=
    e'.exists_scored_plan built' now'
  refine ⟨producer_mem_updates_of_build built, producer_mem_updates_of_build built',
    h.modelSteps_eq built built', plan, plan', hcompile, hcompile', hclean, hclean', haccepted,
    haccepted', ?_⟩
  intro b b' key key' history history' hh hh' first second hdone hdone'
  obtain ⟨scores, hscores, hall⟩ := hscored answers b key history hh hdone
  obtain ⟨scores', hscores', hall'⟩ := hscored' answers b' key' history' hh' hdone'
  refine ⟨scores, scores', hscores, hscores', ?_⟩
  intro m hm m' hm' hid hsamples round hround hselects hselects'
  have hround' : round < e'.numRounds := h.numRounds ▸ hround
  obtain ⟨value, hreports, t, htworker, htsamples, htround, ht⟩ :=
    exists_report haccepted htests hall hm hround hselects
  obtain ⟨value', hreports', t', htworker', htsamples', htround', ht'⟩ :=
    exists_report haccepted' htests' hall' hm' hround' hselects'
  obtain rfl : value = value' := h.value_eq (htworker.trans (hid.trans htworker'.symm))
    (htsamples.trans (hsamples.trans htsamples'.symm)) (htround.trans htround'.symm) ht ht'
  exact ⟨value, hreports, hreports'⟩

/-- The experiment of two rounds, with both members testing after every round, and without cleaning
its models. -/
def twoRoundsObserved : Experiment :=
  { twoRounds with
    testNodes := [.new ⟨"first"⟩ default [] [], .new ⟨"second"⟩ default [] []]
    evaluation := .every 1
    cleanModels := false }

theorem buildable_twoRoundsObserved : twoRoundsObserved.Buildable where
  aggregates := rfl
  rounds := by decide
  requested := by
    intro asked h
    cases h
  trains := .inl (List.cons_ne_nil _ _)
  matched := by decide

/-- The member that tests in both has the same score after the last round. -/
theorem evaluation_of_twoRounds :
    let e := twoRounds
    let e' := twoRoundsObserved
    let m : TestNode := .new ⟨"first"⟩ default [] []
    let answers := constantAnswers 0.5
    let key := PlanKey.drawn 0
    let now : Timestamp := ⟨2024, 1, 1, 0, 0, 0⟩
    e.SameTraining e' ∧ (e.build .new).outcome = .ok () ∧ (e'.build .new).outcome = .ok () ∧
      ∃ plan plan', (e.build .new).state.1.compile now = .ok plan ∧
        (e'.build .new).state.1.compile now = .ok plan' ∧ ∃ history history',
        Answered key answers history ∧ Answered key answers history' ∧
        let first := (LocalBackend.empty.step (.submit key plan)).after history
        let second := (LocalBackend.empty.step (.submit key plan')).after history'
        first.status key = .ok .done ∧ second.status key = .ok .done ∧
          ∃ scores scores', first.performances key = .ok scores ∧
            second.performances key = .ok scores' ∧
            ∃ value, (∀ v, plan.Reports scores m 1 v ↔ v = value) ∧
              ∀ v, plan'.Reports scores' m 1 v ↔ v = value := by
  intro e e' m answers key now
  have hsame : e.SameTraining e' := ⟨rfl, rfl, rfl, rfl⟩
  obtain ⟨_, -, built, -⟩ := buildable_twoRounds.build .new
  obtain ⟨_, -, built', -⟩ := buildable_twoRoundsObserved.build .new
  obtain ⟨-, -, -, plan, plan', hcompile, hcompile', -, -, -, -, hagree⟩ :=
    evaluation_only_observes e e' .new .new now now answers hsame built built'
  have hscores : ∃ averaged, e.setup.scores answers e.numRounds.toNat = .ok averaged := ⟨_, rfl⟩
  have hscores' : ∃ averaged, e'.setup.scores answers e'.numRounds.toNat = .ok averaged :=
    ⟨_, rfl⟩
  obtain ⟨_, haveraged⟩ := hscores
  obtain ⟨_, haveraged'⟩ := hscores'
  obtain ⟨hh, hdone⟩ := e.done_of_scores built hcompile haveraged .empty key
  obtain ⟨hh', hdone'⟩ := e'.done_of_scores built' hcompile' haveraged' .empty key
  obtain ⟨scores, scores', hperformances, hperformances', hvalue⟩ :=
    hagree .empty .empty key key _ _ hh hh' hdone hdone'
  have hm : m ∈ e.testNodes := List.mem_singleton_self m
  have hm' : m ∈ e'.testNodes := List.mem_cons_self ..
  exact ⟨hsame, built, built', plan, plan', hcompile, hcompile', _, _, hh, hh', hdone, hdone',
    scores, scores', hperformances, hperformances',
    hvalue m hm m hm' rfl rfl 1 (by decide) (by decide) (by decide)⟩

end Experiment

end Federation
