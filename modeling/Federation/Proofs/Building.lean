import Federation.Proofs.Blueprint

/-!
# The exact graph of an experiment

Building an experiment registers what its blueprint says, round by round, and nothing else. It
starts from nothing, so the state that the experiment was in before does not matter.

The invariant of the loop over the rounds (`Experiment.Follows`) ties together what is mutated on
the way: the graph holds the operations of the blueprint up to some point, the history of the
strategy ends with the snapshot of the last round, and the queues of the nodes hold all positions of
the graph.

* `Experiment.Follows.performRound`, `Experiment.Follows.evaluateRound`: the two halves of a round
  keep the invariant, if they succeed;
* `Experiment.Follows.buildRounds_eq_ok_iff`, `Experiment.Follows.buildRounds`: so do all rounds;
* `Experiment.build_exact`: when a build succeeds, and what it builds.
-/

namespace Federation

/-! ## Lists of nodes -/

/-- Two lists of nodes that only differ in their queues give the same, if queues do not matter. -/
theorem mapIdx_of_map_eq {ν β : Type} {clear : ν → ν} {xs ys : List ν}
    (h : xs.map clear = ys.map clear) {f : Nat → ν → β} (hf : ∀ i n, f i (clear n) = f i n) :
    xs.mapIdx f = ys.mapIdx f := by
  refine List.ext_getElem? fun i => ?_
  have hi : (xs.map clear)[i]? = (ys.map clear)[i]? := by rw [h]
  simp only [List.getElem?_map] at hi
  simp only [List.getElem?_mapIdx]
  have hclear : ∀ o : Option ν, o.map (f i) = (o.map clear).map (f i) := fun o => by
    cases o with
    | none => rfl
    | some n => exact congrArg some (hf i n).symm
  rw [hclear, hi, ← hclear]

/-- A node has a counterpart in every list that only differs in the queues. -/
theorem exists_mem_of_map_eq {ν κ : Type} {clear : ν → ν} {xs ys : List ν}
    (h : xs.map clear = ys.map clear) {n : ν} (hn : n ∈ xs) (key : ν → κ)
    (hkey : ∀ n, key (clear n) = key n) : ∃ m ∈ ys, key m = key n := by
  have hclear : clear n ∈ ys.map clear := h ▸ List.mem_map_of_mem hn
  obtain ⟨m, hm, heq⟩ := List.mem_map.mp hclear
  exact ⟨m, hm, by rw [← hkey m, heq, hkey]⟩

/-- Numbering a list from some number on begins with its head. -/
theorem mapIdx_cons_from {α β : Type} (f : Nat → α → β) (k : Nat) (a : α) (l : List α) :
    ((a :: l).mapIdx fun i x => f (k + i) x) = f k a :: l.mapIdx fun i x => f (k + 1 + i) x := by
  rw [List.mapIdx_cons]
  congr 2
  funext i x
  rw [show k + (i + 1) = k + 1 + i by omega]

/-- Two lists of nodes that only differ in their queues have as many nodes of a member. -/
theorem filter_id_of_map_eq {xs ys : List TrainNode}
    (h : xs.map TrainNode.clear = ys.map TrainNode.clear) (member : ParticipantId) :
    (xs.filter fun m => m.id = member).length = (ys.filter fun m => m.id = member).length := by
  have hcount : ∀ ns : List TrainNode, (ns.filter fun m => m.id = member).length =
      (ns.map TrainNode.clear).countP fun m => m.id = member := fun ns => by
    rw [List.countP_map, ← List.countP_eq_length_filter]
    rfl
  rw [hcount, hcount, h]

/-- Giving each of several nodes one operation gives the queues these operations. -/
theorem perm_queues {ν : Type} (queued : ν → List OperationId) (queue : ν → OperationId → ν)
    (h : ∀ n id, queued (queue n id) = queued n ++ [id]) (s : Nat) (nodes : List ν) :
    ((nodes.mapIdx fun i n => queue n ⟨s + i⟩).flatMap queued).Perm
      (nodes.flatMap queued ++ (List.range' s nodes.length).map OperationId.mk) := by
  induction nodes generalizing s with
  | nil => exact .refl _
  | cons n rest ih =>
    rw [mapIdx_cons_from (fun i m => queue m ⟨i⟩), List.flatMap_cons, List.flatMap_cons, h,
      List.length_cons, List.range'_succ, List.map_cons, List.append_assoc, List.append_assoc]
    exact (((ih (s + 1)).cons _).trans List.perm_middle.symm).append_left _

/-! ## The invariant -/

/-- An experiment in which the given operations were registered, and whose strategy has performed a
number of rounds. -/
structure Experiment.Follows (p : Blueprint) (rounds : Nat) (ops : List Operation)
    (e : Experiment) (r : Recorder) : Prop where
  algorithm : e.strategy.algorithm = p.algorithm
  performed : e.strategy.history.size = rounds
  latest : e.strategy.current? = p.latest? rounds
  trainNodes : e.trainNodes.map TrainNode.clear = p.trainNodes.map TrainNode.clear
  testNodes : e.testNodes.map TestNode.clear = p.testNodes.map TestNode.clear
  aggregator : e.aggregator.map AggregationNode.id = some p.aggregator
  evaluated : ∀ n, e.evaluation.selects (UInt32.ofNat n) e.numRounds = p.evaluated n
  graph : e.graph.toList = ops
  valid : e.graph.invalid? = none
  drawn : r.drawn = p.serial + e.graph.size
  queued : e.recorded.Perm ((List.range e.graph.size).map OperationId.mk)

/-- An experiment without any operation follows its blueprint. -/
theorem Experiment.follows_reset (e : Experiment) (r : Recorder) {a : AggregationNode}
    (ha : e.aggregator = some a) :
    e.reset.Follows (e.blueprint a.id r.drawn) 0 [] r where
  algorithm := rfl
  performed := rfl
  latest := rfl
  trainNodes := by simp [reset, blueprint, setup, TrainNode.clear]
  testNodes := by simp [reset, blueprint, setup, TestNode.clear]
  aggregator := by simp [reset, blueprint, ha, AggregationNode.clear]
  evaluated _ := rfl
  graph := rfl
  valid := rfl
  drawn := rfl
  queued := by
    have hempty : e.reset.recorded = [] := by
      simp [recorded, reset, ha, List.flatMap_map, TrainNode.clear, TestNode.clear,
        AggregationNode.clear]
    rw [hempty]
    exact .refl _

/-! ## Performing a round -/

/-- Every node that tests belongs to exactly one of the nodes that train. -/
def Blueprint.Matched (p : Blueprint) : Prop :=
  ∀ t ∈ p.testNodes, (p.trainNodes.filter fun m => m.id = t.id).length = 1

/-- What has to hold for a round to be registered: what it aggregates is not empty, and the nodes
that test can be matched, if it is evaluated. -/
def Blueprint.Performable (p : Blueprint) (n : Nat) : Prop :=
  (n = 0 ∨ p.trainNodes ≠ []) ∧ (p.evaluated n = true → p.Matched)

namespace Blueprint

variable (p : Blueprint)

/-- The operation that would be added next is the one of the blueprint. -/
theorem nextAt_eq_operation {d : Draft} (hd : d.recorder.drawn = p.serial + d.graph.size)
    (i n : Nat) (node : ParticipantId) (inputs : List OperationInput)
    (payload : OperationPayload) :
    d.nextAt i node (UInt32.ofNat n) inputs payload =
      p.operation ⟨d.graph.size + i⟩ node n inputs payload := by
  simp only [Draft.nextAt, operation, hd, Nat.add_assoc]

/-- The trainings of a round, after its aggregation. -/
theorem trainRound_eq_ok (n : Nat) {s : FederatedAveraging} (site : FederatedAveraging.Site)
    (halgorithm : s.algorithm = p.algorithm)
    (hnodes : site.trainNodes.map TrainNode.clear = p.trainNodes.map TrainNode.clear)
    (hgraph : site.draft.graph.toList = p.upTo n ++ p.aggregations n)
    (hdrawn : site.draft.recorder.drawn = p.serial + site.draft.graph.size) :
    let a := s.trainRound site (UInt32.ofNat n) (p.shared? n)
      (site.trainNodes.mapIdx fun j m => (m, p.startState? j m n))
    a.outcome = .ok (p.snapshot n) ∧ a.state.aggregator = site.aggregator ∧
      a.state.trainNodes = site.trainNodes.mapIdx (fun j m => m.queue (p.trainAt n j)) ∧
      site.draft.Extends (p.trainings n) a.state.draft := by
  have hlength : site.trainNodes.length = p.trainNodes.length := by
    simpa using congrArg List.length hnodes
  have hsize : site.draft.graph.size = p.start n + lead n := by
    rw [← Graph.length_toList, hgraph, List.length_append, length_upTo, length_aggregations]
  have hshare : site.draft.graph.toList = p.upTo n ++ p.aggregations n ++ [] := by
    rw [hgraph, List.append_nil]
  obtain ⟨hout, hqueues, hext⟩ := FederatedAveraging.trainAll_eq_ok s.algorithm (UInt32.ofNat n)
    site.draft (site.trainNodes.mapIdx fun j m => (m, p.startState? j m n))
    (fun q hq => by
      obtain ⟨j, hj, rfl⟩ := List.mem_mapIdx.mp hq
      exact p.mayStart _ hgraph (hlength ▸ hj))
    (p.mayShare hshare)
  have hat : ∀ j, (⟨site.draft.graph.size + j⟩ : OperationId) = p.trainAt n j := fun j => by
    rw [hsize]
    rfl
  simp only [List.mapIdx_mapIdx, Function.comp_def, p.nextAt_eq_operation hdrawn, halgorithm,
    p.trainInputs_startState?, hat] at hout hqueues hext
  have htrained := mapIdx_of_map_eq hnodes (f := fun j m => m.trained (p.trainAt n j))
    fun _ _ => rfl
  have htrainings := mapIdx_of_map_eq hnodes (f := p.training n) fun _ _ => rfl
  refine ⟨?_, rfl, ?_, ?_⟩
  · simp only [FederatedAveraging.trainRound, halgorithm, hout, htrained]
    rfl
  · simp only [FederatedAveraging.trainRound, halgorithm]
    exact hqueues
  · simp only [FederatedAveraging.trainRound, halgorithm, trainings, ← htrainings]
    exact hext

/-- The aggregation of a round. -/
theorem registerAggregate_eq_ok (n : Nat) {d : Draft} {a : AggregationNode}
    (ha : a.id = p.aggregator) (hne : p.trainNodes ≠ []) (hgraph : d.graph.toList = p.upTo (n + 1))
    (hdrawn : d.recorder.drawn = p.serial + d.graph.size) :
    ∃ d', a.registerAggregate d .weightedAverage (p.snapshot n).payloads (UInt32.ofNat (n + 1)) =
        ⟨(d', a.queue (p.aggregateAt (n + 1))), .ok (p.shared (n + 1))⟩ ∧
      d.Extends (p.aggregations (n + 1)) d' := by
  have hat : (⟨d.graph.size⟩ : OperationId) = p.aggregateAt (n + 1) := by
    rw [← Graph.length_toList, hgraph, length_upTo]
    rfl
  have hpayloads : (p.snapshot n).payloads ≠ [] := by
    rw [payloads_snapshot]
    simpa using hne
  have hproduces := hgraph
  rw [upTo_succ] at hproduces
  obtain ⟨d', hreg, hext⟩ := a.registerAggregate_eq_ok d .weightedAverage (UInt32.ofNat (n + 1))
    hpayloads (p.produces_payloads hproduces)
  refine ⟨d', ?_, ?_⟩
  · rw [hreg, hat]
    rfl
  · have hinputs : (p.snapshot n).payloads.map OperationInput.payload =
        p.trainNodes.mapIdx fun j m => .payload (p.payload n j m) := by
      rw [payloads_snapshot]
      refine List.ext_getElem (by simp) fun i _ _ => ?_
      simp
    have hop : d.next a.id (UInt32.ofNat (n + 1)) ((p.snapshot n).payloads.map .payload)
        (.aggregate .weightedAverage) = p.aggregation n := by
      rw [aggregation, ← hat, ← ha, ← hinputs]
      exact p.nextAt_eq_operation hdrawn 0 (n + 1) a.id _ _
    rw [aggregations, ← hop]
    exact hext

/-- The round after the given number of rounds, when the last snapshot is that of the blueprint. -/
theorem followRound_eq_ok (n : Nat) {s : FederatedAveraging} (site : FederatedAveraging.Site)
    {a : AggregationNode} (halgorithm : s.algorithm = p.algorithm)
    (ha : a.id = p.aggregator) (hne : p.trainNodes ≠ [])
    (hnodes : site.trainNodes.map TrainNode.clear = p.trainNodes.map TrainNode.clear)
    (hgraph : site.draft.graph.toList = p.upTo (n + 1))
    (hdrawn : site.draft.recorder.drawn = p.serial + site.draft.graph.size) :
    let b := s.followRound site a (UInt32.ofNat (n + 1)) (p.snapshot n)
    b.outcome = .ok (p.snapshot (n + 1)) ∧
      b.state.aggregator = some (a.queue (p.aggregateAt (n + 1))) ∧
      b.state.trainNodes = site.trainNodes.mapIdx (fun j m => m.queue (p.trainAt (n + 1) j)) ∧
      site.draft.Extends (p.updates (n + 1)) b.state.draft := by
  intro b
  obtain ⟨d, hreg, hext⟩ := p.registerAggregate_eq_ok n ha hne hgraph hdrawn
  have hstates : (p.snapshot n).states = site.trainNodes.mapIdx (p.state n) := by
    rw [states_snapshot, mapIdx_of_map_eq hnodes fun _ _ => rfl]
  have hlength : ¬ (p.snapshot n).states.length ≠ site.trainNodes.length := by
    rw [hstates, List.length_mapIdx]
    exact fun h => h rfl
  have hzip : site.trainNodes.zip ((p.snapshot n).states.map some) =
      site.trainNodes.mapIdx fun j m => (m, p.startState? j m (n + 1)) := by
    rw [hstates]
    refine List.ext_getElem (by simp) fun i _ _ => ?_
    simp [startState?]
  have hb : b = s.trainRound ⟨d, site.trainNodes, some (a.queue (p.aggregateAt (n + 1)))⟩
      (UInt32.ofNat (n + 1)) (p.shared? (n + 1))
      (site.trainNodes.mapIdx fun j m => (m, p.startState? j m (n + 1))) := by
    show s.followRound site a (UInt32.ofNat (n + 1)) (p.snapshot n) = _
    simp only [FederatedAveraging.followRound, if_neg hlength, hreg, hzip]
    rfl
  obtain ⟨hout, hagg, hqueues, htrainings⟩ := p.trainRound_eq_ok (n + 1)
    ⟨d, site.trainNodes, some (a.queue (p.aggregateAt (n + 1)))⟩ halgorithm hnodes
    (by rw [hext.graph, hgraph]) (by rw [hext.drawn, hext.size, hdrawn, Nat.add_assoc])
  rw [hb]
  exact ⟨hout, hagg, hqueues, hext.trans htrainings⟩

end Blueprint

namespace Experiment.Follows

open FederatedAveraging (Site)

variable {p : Blueprint} {n : Nat} {e : Experiment} {r : Recorder}

theorem size {ops : List Operation} (h : e.Follows p n ops r) : e.graph.size = ops.length := by
  rw [← h.graph, Graph.length_toList]

theorem length_trainNodes {ops : List Operation} (h : e.Follows p n ops r) :
    e.trainNodes.length = p.trainNodes.length := by
  simpa using congrArg List.length h.trainNodes

/-- A round is registered as in the blueprint, and every operation joins the queue of its node. -/
theorem registerRound (h : e.Follows p n (p.upTo n) r) (hn : n = 0 ∨ p.trainNodes ≠ [])
    {a : AggregationNode} (ha : e.aggregator = some a) (notice : Notice) :
    let site : Site := ⟨.note ⟨e.graph, r⟩ notice, e.trainNodes, e.aggregator⟩
    let b := e.strategy.registerRound site a (UInt32.ofNat n)
    b.outcome = .ok (p.snapshot n) ∧
      b.state.trainNodes = e.trainNodes.mapIdx (fun j m => m.queue (p.trainAt n j)) ∧
      (∃ a', b.state.aggregator = some a' ∧ a'.id = a.id ∧ a'.operations.toList =
        a.operations.toList ++ (List.range' (p.start n) (Blueprint.lead n)).map OperationId.mk) ∧
      site.draft.Extends (p.updates n) b.state.draft := by
  intro site b
  cases n with
  | zero =>
    have hlist : e.trainNodes.map (·, none) =
        e.trainNodes.mapIdx fun j m => (m, p.startState? j m 0) := by
      refine List.ext_getElem (by simp) fun i _ _ => ?_
      simp [Blueprint.startState?]
    have hb : b = e.strategy.trainRound site (UInt32.ofNat 0) (p.shared? 0)
        (e.trainNodes.mapIdx fun j m => (m, p.startState? j m 0)) := by
      show e.strategy.registerRound site a (UInt32.ofNat 0) = _
      simp only [FederatedAveraging.registerRound, h.latest, Blueprint.latest?]
      rw [← hlist]
      rfl
    obtain ⟨hout, hagg, hqueues, hext⟩ := p.trainRound_eq_ok 0 site h.algorithm h.trainNodes
      h.graph h.drawn
    rw [hb]
    exact ⟨hout, hqueues, ⟨a, hagg.trans ha, rfl, by simp [Blueprint.lead]⟩, hext⟩
  | succ n =>
    have hid : a.id = p.aggregator := by simpa [ha] using h.aggregator
    have hb : b = e.strategy.followRound site a (UInt32.ofNat (n + 1)) (p.snapshot n) := by
      show e.strategy.registerRound site a (UInt32.ofNat (n + 1)) = _
      simp only [FederatedAveraging.registerRound, h.latest, Blueprint.latest?]
    obtain ⟨hout, hagg, hqueues, hext⟩ := p.followRound_eq_ok n site h.algorithm hid
      (hn.resolve_left (Nat.succ_ne_zero n)) h.trainNodes h.graph h.drawn
    rw [hb]
    refine ⟨hout, hqueues, ⟨_, hagg, rfl, ?_⟩, hext⟩
    simp [AggregationNode.queue, Blueprint.aggregateAt, Blueprint.lead]

/-- The positions of a round join the queues of its nodes. -/
theorem queued_afterRound (h : e.Follows p n (p.upTo n) r) {g g' : AggregationNode}
    (hg : e.aggregator = some g) (hops : g'.operations.toList =
      g.operations.toList ++ (List.range' (p.start n) (Blueprint.lead n)).map OperationId.mk) :
    let e' : Experiment := { e with
      trainNodes := e.trainNodes.mapIdx fun j m => m.queue (p.trainAt n j)
      aggregator := some g' }
    e'.recorded.Perm ((List.range (e.graph.size + (p.updates n).length)).map OperationId.mk) := by
  intro e'
  have hsize : e.graph.size = p.start n := by rw [h.size, p.length_upTo]
  have hqueues := perm_queues (fun m : TrainNode => m.operations.toList) TrainNode.queue
    (by simp [TrainNode.queue]) (p.start n + Blueprint.lead n) e.trainNodes
  have hold := h.queued
  rw [List.perm_iff_count] at hqueues hold ⊢
  intro id
  have hnew := hqueues id
  have hrest := hold id
  simp only [e', recorded, hg, hsize, Option.toList_some, List.flatMap_cons, List.flatMap_nil,
    List.append_nil, hops, Blueprint.updates, List.length_append, Blueprint.length_aggregations,
    Blueprint.length_trainings, ← Nat.add_assoc, ← Blueprint.range_append_range', List.map_append,
    List.count_append, Blueprint.trainAt, h.length_trainNodes] at hnew hrest ⊢
  omega

/-- The first half of a round. -/
theorem performRound (h : e.Follows p n (p.upTo n) r) (hn : n = 0 ∨ p.trainNodes ≠ []) :
    let a := e.strategy.performRound ⟨⟨e.graph, r⟩, e.trainNodes, e.aggregator⟩ (UInt32.ofNat n)
    a.outcome = .ok () ∧
      (e.afterRound a.state).Follows p (n + 1) (p.upTo n ++ p.updates n)
        a.state.2.draft.recorder := by
  intro a
  obtain ⟨g, hg, hid⟩ := Option.map_eq_some_iff.mp h.aggregator
  obtain ⟨hout, hqueues, ⟨g', hagg, hid', hops⟩, hext⟩ :=
    h.registerRound hn hg (.performingRound (UInt32.ofNat n))
  generalize hb : e.strategy.registerRound _ g (UInt32.ofNat n) = b at hout hqueues hagg hext
  have ha : a = ⟨({ e.strategy with history := e.strategy.history.push (p.snapshot n) }, b.state),
      .ok ()⟩ := by
    have hround : ¬ UInt32.ofNat n ≠ e.strategy.expectedRound := by
      simp [FederatedAveraging.expectedRound, h.performed]
    show e.strategy.performRound _ _ = _
    unfold FederatedAveraging.performRound
    rw [hg] at hb ⊢
    simp only [if_neg hround, hb, hout]
  rw [ha]
  refine ⟨rfl, ?_⟩
  have hsize : b.state.draft.graph.size = e.graph.size + (p.updates n).length := hext.size
  exact
    { algorithm := h.algorithm
      performed := by simp [afterRound, h.performed]
      latest := by simp [afterRound, FederatedAveraging.current?, Blueprint.latest?]
      trainNodes := by
        refine Eq.trans ?_ h.trainNodes
        simp only [afterRound, hqueues]
        refine List.ext_getElem (by simp) fun i _ _ => ?_
        simp
      testNodes := h.testNodes
      aggregator := by simp [afterRound, hagg, hid', hid]
      evaluated := h.evaluated
      graph := hext.graph.trans (congrArg (· ++ _) h.graph)
      valid := hext.valid h.valid
      drawn := by
        have hdrawn : b.state.draft.recorder.drawn = r.drawn + (p.updates n).length := hext.drawn
        simp only [afterRound, hdrawn, hsize, h.drawn, Nat.add_assoc]
      queued := by
        have hqueued := h.queued_afterRound hg hops
        simp only [recorded, afterRound, hqueues, hagg, hsize] at hqueued ⊢
        exact hqueued }

/-- A later round cannot be registered when nobody trains. -/
theorem performable_of_performRound (h : e.Follows p n (p.upTo n) r)
    (hok : (e.strategy.performRound ⟨⟨e.graph, r⟩, e.trainNodes, e.aggregator⟩
      (UInt32.ofNat n)).outcome = .ok ()) : n = 0 ∨ p.trainNodes ≠ [] := by
  cases n with
  | zero => exact .inl rfl
  | succ n =>
    refine .inr fun hnil => ?_
    obtain ⟨g, hg, hid⟩ := Option.map_eq_some_iff.mp h.aggregator
    have hround : UInt32.ofNat (n + 1) = e.strategy.expectedRound := by
      simp [FederatedAveraging.expectedRound, h.performed]
    have hnone : e.trainNodes = [] := by
      refine List.length_eq_zero_iff.mp ?_
      rw [h.length_trainNodes, hnil]
      rfl
    have hstates : (p.snapshot n).states = [] := by
      rw [p.states_snapshot, hnil]
      rfl
    have hpayloads : (p.snapshot n).payloads = [] := by
      rw [p.payloads_snapshot, hnil]
      rfl
    rw [hround] at hok
    simp [FederatedAveraging.performRound, hg, FederatedAveraging.registerRound, h.latest,
      Blueprint.latest?, FederatedAveraging.followRound, hstates, hpayloads, hnone,
      AggregationNode.registerAggregate_nil] at hok

/-! ## Evaluating a round -/

/-- The state of the member that tests can be found when it has one training node. -/
theorem stateToTest {ops : List Operation} (h : e.Follows p (n + 1) ops r) {t : TestNode}
    (ht : (p.trainNodes.filter fun m => m.id = t.id).length = 1) :
    FederatedAveraging.stateToTest (p.snapshot n) e.trainNodes t.id =
      .ok ⟨p.trainAt n (p.numberOf t.id), t.id⟩ := by
  unfold FederatedAveraging.stateToTest
  rw [filter_id_of_map_eq h.trainNodes, ht, p.state?_snapshot n (p.exists_of_filter ht)]
  rfl

/-- The tests of a round are registered as in the blueprint. -/
theorem predict (h : e.Follows p (n + 1) (p.upTo n ++ p.updates n) r) (hm : p.Matched)
    (notice : Notice) :
    let d : Draft := ⟨e.graph, r.note notice⟩
    let b := e.strategy.predict d e.testNodes e.trainNodes (UInt32.ofNat n)
    b.outcome = .ok () ∧
      b.state.2 = e.testNodes.mapIdx (fun k m => m.queue ⟨e.graph.size + k⟩) ∧
      d.Extends (p.testNodes.mapIdx (p.test n)) b.state.1 := by
  intro d b
  have hgraph : d.graph.toList = p.upTo n ++ p.updates n ++ [] := by
    rw [List.append_nil]
    exact h.graph
  have hmatched : ∀ t ∈ e.testNodes, (p.trainNodes.filter fun m => m.id = t.id).length = 1 := by
    intro t ht
    obtain ⟨t', ht', hid⟩ := exists_mem_of_map_eq h.testNodes ht TestNode.id fun _ => rfl
    rw [← hid]
    exact hm t' ht'
  have hproduces : ∀ t ∈ e.testNodes,
      d.graph.Produces .train (p.trainAt n (p.numberOf t.id)) := by
    intro t ht
    exact p.produces_training hgraph (p.numberOf_lt (p.exists_of_filter (hmatched t ht)))
  obtain ⟨hout, hqueues, hext⟩ := FederatedAveraging.testAll_eq_ok (p.snapshot n) e.trainNodes
    (UInt32.ofNat n) d e.testNodes (fun member => ⟨p.trainAt n (p.numberOf member), member⟩)
    fun t ht => ⟨h.stateToTest (hmatched t ht), rfl, hproduces t ht⟩
  have hb : b = FederatedAveraging.testAll (p.snapshot n) e.trainNodes (UInt32.ofNat n) d
      e.testNodes := by
    show e.strategy.predict d e.testNodes e.trainNodes (UInt32.ofNat n) = _
    simp only [FederatedAveraging.predict, h.latest, Blueprint.latest?]
  have hat : ∀ k, (⟨e.graph.size + k⟩ : OperationId) = p.testAt n k := fun k => by
    rw [h.size]
    simp [Blueprint.testAt, Blueprint.updates, p.length_upTo, Nat.add_assoc]
  have hdrawn : d.recorder.drawn = p.serial + d.graph.size := h.drawn
  have htests := mapIdx_of_map_eq h.testNodes (f := p.test n) fun _ _ => rfl
  simp only [p.nextAt_eq_operation hdrawn] at hext
  have hops : p.test n = fun k m => p.operation ⟨d.graph.size + k⟩ m.id n
      [.localState ⟨p.trainAt n (p.numberOf m.id), m.id⟩]
      (.test m.dataset m.samples m.metrics) := by
    funext k m
    rw [Blueprint.test, ← hat]
  rw [hb]
  refine ⟨hout, hqueues, ?_⟩
  rw [← htests, hops]
  exact hext

/-- Tests that are registered join the queues of their nodes. -/
theorem queued_afterTests {ops : List Operation} (h : e.Follows p n ops r) :
    let e' : Experiment := { e with
      testNodes := e.testNodes.mapIdx fun k m => m.queue ⟨e.graph.size + k⟩ }
    e'.recorded.Perm ((List.range (e.graph.size + e.testNodes.length)).map OperationId.mk) := by
  intro e'
  have hqueues := perm_queues (fun m : TestNode => m.operations.toList) TestNode.queue
    (by simp [TestNode.queue]) e.graph.size e.testNodes
  have hold := h.queued
  rw [List.perm_iff_count] at hqueues hold ⊢
  intro id
  have hnew := hqueues id
  have hrest := hold id
  simp only [e', recorded, ← Blueprint.range_append_range', List.map_append,
    List.count_append] at hnew hrest ⊢
  omega

/-- The second half of a round. -/
theorem evaluateRound (h : e.Follows p (n + 1) (p.upTo n ++ p.updates n) r)
    (ht : p.evaluated n = true → p.Matched) :
    let a := e.evaluateRound r (UInt32.ofNat n)
    a.outcome = .ok () ∧ a.state.1.Follows p (n + 1) (p.upTo (n + 1)) a.state.2 := by
  intro a
  rw [p.upTo_succ]
  cases hsel : p.evaluated n with
  | false =>
    have ha : a = ⟨(e, r), .ok ()⟩ := by
      show e.evaluateRound r (UInt32.ofNat n) = _
      simp [Experiment.evaluateRound, h.evaluated, hsel]
    have htests : p.tests n = [] := by simp [Blueprint.tests, hsel]
    rw [ha, htests, List.append_nil]
    exact ⟨rfl, h⟩
  | true =>
    obtain ⟨hout, hqueues, hext⟩ := h.predict (ht hsel) (.evaluating (UInt32.ofNat n))
    generalize hb : e.strategy.predict _ e.testNodes e.trainNodes (UInt32.ofNat n) = b
      at hout hqueues hext
    have ha : a = ⟨({ e with testNodes := b.state.2, graph := b.state.1.graph },
        b.state.1.recorder), .ok ()⟩ := by
      show e.evaluateRound r (UInt32.ofNat n) = _
      simp only [Experiment.evaluateRound, h.evaluated, hsel, if_true, hb, Attempt.mapState, hout]
    have htests : p.tests n = p.testNodes.mapIdx (p.test n) := by simp [Blueprint.tests, hsel]
    have hlength : (p.testNodes.mapIdx (p.test n)).length = e.testNodes.length := by
      rw [List.length_mapIdx]
      simpa using congrArg List.length h.testNodes.symm
    have hsize : b.state.1.graph.size = e.graph.size + e.testNodes.length := by
      rw [hext.size, hlength]
    rw [ha, htests]
    refine ⟨rfl, ?_⟩
    exact
      { h with
        testNodes := by
          refine Eq.trans ?_ h.testNodes
          simp only [hqueues]
          refine List.ext_getElem (by simp) fun i _ _ => ?_
          simp
        graph := hext.graph.trans (congrArg (· ++ _) h.graph)
        valid := hext.valid h.valid
        drawn := by
          have hdrawn : b.state.1.recorder.drawn = r.drawn + e.testNodes.length :=
            hext.drawn.trans (congrArg _ hlength)
          simp only [hdrawn, hsize, h.drawn, Nat.add_assoc]
        queued := by
          have hqueued := h.queued_afterTests
          simp only [recorded, hqueues, hsize] at hqueued ⊢
          exact hqueued }

/-- A round cannot be evaluated when a node that tests is not matched. -/
theorem matched_of_evaluateRound (h : e.Follows p (n + 1) (p.upTo n ++ p.updates n) r)
    (hok : (e.evaluateRound r (UInt32.ofNat n)).outcome = .ok ()) (hsel : p.evaluated n = true) :
    p.Matched := by
  have htests : (FederatedAveraging.testAll (p.snapshot n) e.trainNodes (UInt32.ofNat n)
      ⟨e.graph, r.note (.evaluating (UInt32.ofNat n))⟩ e.testNodes).outcome = .ok () := by
    simpa [Experiment.evaluateRound, h.evaluated, hsel, FederatedAveraging.predict, h.latest,
      Blueprint.latest?] using hok
  intro t ht
  obtain ⟨t', ht', hid⟩ :=
    exists_mem_of_map_eq h.testNodes.symm ht TestNode.id fun _ => rfl
  rw [← hid, ← filter_id_of_map_eq h.trainNodes]
  exact FederatedAveraging.filter_length_of_testAll htests t' ht'

/-! ## All rounds -/

/-- A round that can be performed and evaluated is registered as in the blueprint. -/
theorem buildRound (h : e.Follows p n (p.upTo n) r) (hn : p.Performable n) :
    let a := e.buildRound r (UInt32.ofNat n)
    a.outcome = .ok () ∧ a.state.1.Follows p (n + 1) (p.upTo (n + 1)) a.state.2 := by
  obtain ⟨hout, hnext⟩ := h.performRound hn.1
  simp only [Experiment.buildRound, hout]
  exact hnext.evaluateRound hn.2

/-- Only such a round is registered without an error. -/
theorem performable_of_buildRound (h : e.Follows p n (p.upTo n) r)
    (hok : (e.buildRound r (UInt32.ofNat n)).outcome = .ok ()) : p.Performable n := by
  unfold Experiment.buildRound at hok
  cases hout : (e.strategy.performRound ⟨⟨e.graph, r⟩, e.trainNodes, e.aggregator⟩
      (UInt32.ofNat n)).outcome with
  | error err => simp [hout] at hok
  | ok u =>
    have hn := h.performable_of_performRound hout
    simp only [hout] at hok
    exact ⟨hn, (h.performRound hn).2.matched_of_evaluateRound hok⟩

/-- All rounds that are left are registered as in the blueprint. -/
theorem buildRounds (h : e.Follows p n (p.upTo n) r) (count : Nat)
    (hn : ∀ i, n ≤ i → i < n + count → p.Performable i) :
    let a := e.buildRounds r (UInt32.ofNat n) count
    a.outcome = .ok () ∧ a.state.1.Follows p (n + count) (p.upTo (n + count)) a.state.2 := by
  induction count generalizing n e r with
  | zero => exact ⟨rfl, h⟩
  | succ count ih =>
    obtain ⟨hout, hnext⟩ := h.buildRound (hn n (Nat.le_refl n) (by omega))
    have hround : UInt32.ofNat n + 1 = UInt32.ofNat (n + 1) := by simp
    have hcount : n + (count + 1) = n + 1 + count := by omega
    simp only [Experiment.buildRounds, hout, hround, hcount]
    exact ih hnext fun i hi hlt => hn i (by omega) (by omega)

/-- Only rounds that can be performed and evaluated are registered without an error. -/
theorem performable_of_buildRounds (h : e.Follows p n (p.upTo n) r) (count : Nat)
    (hok : (e.buildRounds r (UInt32.ofNat n) count).outcome = .ok ()) :
    ∀ i, n ≤ i → i < n + count → p.Performable i := by
  induction count generalizing n e r with
  | zero =>
    intro i hi hlt
    omega
  | succ count ih =>
    unfold Experiment.buildRounds at hok
    cases hout : (e.buildRound r (UInt32.ofNat n)).outcome with
    | error err => simp [hout] at hok
    | ok u =>
      have hn := h.performable_of_buildRound hout
      have hround : UInt32.ofNat n + 1 = UInt32.ofNat (n + 1) := by simp
      simp only [hout, hround] at hok
      intro i hi hlt
      rcases Nat.eq_or_lt_of_le hi with rfl | hgt
      · exact hn
      · exact ih (h.buildRound hn).2 hok i hgt (by omega)

end Experiment.Follows

/-! ## What a build leaves alone -/

namespace Experiment

/-- What is chosen for an experiment, apart from its nodes. -/
def choices (e : Experiment) : Round × Evaluation × Bool × Option String :=
  (e.numRounds, e.evaluation, e.cleanModels, e.tag)

theorem choices_evaluateRound (e : Experiment) (r : Recorder) (round : Round) :
    (e.evaluateRound r round).state.1.choices = e.choices := by
  unfold evaluateRound
  split <;> rfl

theorem choices_buildRound (e : Experiment) (r : Recorder) (round : Round) :
    (e.buildRound r round).state.1.choices = e.choices := by
  unfold buildRound
  dsimp only
  split
  · rfl
  · exact choices_evaluateRound _ _ _

theorem choices_buildRounds (e : Experiment) (r : Recorder) (round : Round) (n : Nat) :
    (e.buildRounds r round n).state.1.choices = e.choices := by
  induction n generalizing e r round with
  | zero => rfl
  | succ n ih =>
    unfold buildRounds
    dsimp only
    split
    · exact choices_buildRound _ _ _
    · rw [ih]
      exact choices_buildRound _ _ _

/-- A build changes no choice, whether or not it succeeds. -/
theorem choices_build (e : Experiment) (r : Recorder) :
    (e.build r).state.1.choices = e.choices := by
  unfold build finish
  split
  · rfl
  · dsimp only
    split
    · exact choices_buildRounds e.reset r 0 _
    · split
      · exact choices_buildRounds e.reset r 0 _
      · exact choices_buildRounds e.reset r 0 _

end Experiment

/-! ## When a build succeeds -/

/-- What an experiment has to satisfy for its graph to be built. -/
structure Experiment.Buildable (e : Experiment) : Prop where
  /-- Somebody aggregates. -/
  aggregates : e.aggregator.isSome = true
  /-- There is a round. -/
  rounds : 1 ≤ e.numRounds.toNat
  /-- The rounds that are asked for are rounds of the experiment. -/
  requested : ∀ asked, e.evaluation = .atRounds asked → ∀ q ∈ asked, q < e.numRounds
  /-- Somebody trains, unless there is nothing to aggregate. -/
  trains : e.trainNodes ≠ [] ∨ e.numRounds.toNat = 1
  /-- Every node that tests belongs to exactly one of the nodes that train. -/
  matched : ∀ t ∈ e.testNodes, (e.trainNodes.filter fun n => n.id = t.id).length = 1

namespace Experiment

variable {e : Experiment} {r : Recorder}

theorem outOfRange_eq_none_iff :
    e.evaluation.outOfRange e.numRounds = none ↔
      ∀ asked, e.evaluation = .atRounds asked → ∀ q ∈ asked, q < e.numRounds := by
  rw [Evaluation.outOfRange_eq_none_iff]
  cases e.evaluation with
  | final => simp [Evaluation.requested]
  | every frequency => simp [Evaluation.requested]
  | atRounds asked => simp [Evaluation.mem_requested]

theorem configFault?_eq_none_iff :
    e.configFault? = none ↔ e.aggregator.isSome = true ∧ 1 ≤ e.numRounds.toNat ∧
      ∀ asked, e.evaluation = .atRounds asked → ∀ q ∈ asked, q < e.numRounds := by
  have hrounds : e.numRounds = 0 ↔ ¬ 1 ≤ e.numRounds.toNat := by
    rw [← UInt32.toNat_inj, UInt32.toNat_zero]
    omega
  rw [← outOfRange_eq_none_iff]
  unfold configFault? FederatedAveraging.requiresAggregation
  cases ha : e.aggregator with
  | none => simp
  | some a =>
    by_cases h : e.numRounds = 0
    · simp [h]
    · simp [h, Classical.not_not.mp (mt hrounds.mpr h)]

/-- All rounds can be performed and evaluated when somebody trains, or there is only one round, and
the nodes that test are matched: the last round is always evaluated. -/
theorem performable_blueprint_iff {a : ParticipantId} {serial : Nat}
    (hrounds : 1 ≤ e.numRounds.toNat) :
    (∀ i, 0 ≤ i → i < 0 + e.numRounds.toNat → (e.blueprint a serial).Performable i) ↔
      (e.trainNodes ≠ [] ∨ e.numRounds.toNat = 1) ∧ (e.blueprint a serial).Matched := by
  have hlast : (e.blueprint a serial).evaluated (e.numRounds.toNat - 1) = true := by
    refine Evaluation.selects_last _ ?_
    have hlt : e.numRounds.toNat - 1 < UInt32.size := by
      have hbound := e.numRounds.toNat_lt
      rw [UInt32.size]
      omega
    rw [UInt32.toNat_ofNat_of_lt' hlt]
    omega
  constructor
  · intro h
    obtain ⟨htrains, hmatched⟩ := h (e.numRounds.toNat - 1) (Nat.zero_le _) (by omega)
    refine ⟨?_, hmatched hlast⟩
    rcases htrains with h | h
    · exact .inr (by omega)
    · exact .inl h
  · rintro ⟨htrains, hmatched⟩ i - hi
    refine ⟨?_, fun _ => hmatched⟩
    rcases htrains with h | h
    · exact .inr h
    · exact .inl (by omega)

/-- A build of a buildable experiment succeeds and ends as in the blueprint. -/
theorem Buildable.build (h : e.Buildable) (r : Recorder) :
    ∃ a, e.aggregator = some a ∧ (e.build r).outcome = .ok () ∧
      (e.build r).state.1.built = true ∧
      (e.build r).state.1.Follows (e.blueprint a.id r.drawn) e.numRounds.toNat
        ((e.blueprint a.id r.drawn).upTo e.numRounds.toNat) (e.build r).state.2 := by
  obtain ⟨a, ha⟩ := Option.isSome_iff_exists.mp h.aggregates
  have hconfig := configFault?_eq_none_iff.mpr ⟨h.aggregates, h.rounds, h.requested⟩
  obtain ⟨hout, hfollows⟩ := (e.follows_reset r ha).buildRounds e.numRounds.toNat
    ((performable_blueprint_iff h.rounds).mpr ⟨h.trains, h.matched⟩)
  rw [Nat.zero_add] at hfollows
  have hround : (0 : Round) = UInt32.ofNat 0 := rfl
  refine ⟨a, ha, ?_⟩
  simp only [Experiment.build, hconfig, hround, hout, finish, hfollows.valid]
  exact ⟨trivial, trivial, { hfollows with }⟩

/-- Only a buildable experiment is built without an error. -/
theorem buildable_of_build (hok : (e.build r).outcome = .ok ()) : e.Buildable := by
  unfold Experiment.build at hok
  cases hconfig : e.configFault? with
  | some err => simp [hconfig] at hok
  | none =>
    obtain ⟨haggregates, hrounds, hrequested⟩ := configFault?_eq_none_iff.mp hconfig
    obtain ⟨a, ha⟩ := Option.isSome_iff_exists.mp haggregates
    simp only [hconfig] at hok
    cases hout : (e.reset.buildRounds r 0 e.numRounds.toNat).outcome with
    | error err => simp [hout] at hok
    | ok u =>
      obtain ⟨htrains, hmatched⟩ := (performable_blueprint_iff hrounds).mp
        ((e.follows_reset r ha).performable_of_buildRounds e.numRounds.toNat hout)
      exact ⟨haggregates, hrounds, hrequested, htrains, hmatched⟩

/-- **The exact graph of an experiment.** Whatever the experiment went through before, its graph is
built exactly when somebody aggregates, there is a round, no round beyond the last one is asked for,
somebody trains or there is only one round, and every node that tests belongs to exactly one of the
nodes that train. The graph then holds the operations of the blueprint, and nothing else. -/
theorem build_exact (e : Experiment) (r : Recorder) :
    ((e.build r).outcome = .ok () ↔ e.Buildable) ∧
      ((e.build r).outcome = .ok () → ∃ a, e.aggregator = some a ∧
        (e.build r).state.1.built = true ∧
        (e.build r).state.1.graph.toList =
          (e.blueprint a.id r.drawn).upTo e.numRounds.toNat) := by
  have hbuild : e.Buildable → (e.build r).outcome = .ok () := fun h =>
    let ⟨_, _, hout, _⟩ := h.build r
    hout
  refine ⟨⟨buildable_of_build, hbuild⟩, fun hok => ?_⟩
  obtain ⟨a, ha, -, hbuilt, hfollows⟩ := (buildable_of_build hok).build r
  exact ⟨a, ha, hbuilt, hfollows.graph⟩

/-- An experiment of two rounds on two members, one of which also tests and aggregates. -/
def twoRounds : Experiment :=
  let first : ParticipantId := ⟨"first"⟩
  { (new (.new default) [.new first default [], .new ⟨"second"⟩ default []] 2) with
    testNodes := [.new first default [] []]
    aggregator := some (.new first) }

theorem buildable_twoRounds : twoRounds.Buildable where
  aggregates := rfl
  rounds := by decide
  requested := by
    intro asked h
    cases h
  trains := .inl (List.cons_ne_nil _ _)
  matched := by decide

-- two trainings, then an aggregation of both, two trainings from it, and a test of the first
example : ((twoRounds.blueprint ⟨"first"⟩ 0).upTo 2).map
      (fun op => (op.kind, op.parents.map OperationId.index)) =
    [(.train, []), (.train, []), (.aggregate, [0, 1]), (.train, [0, 2]), (.train, [1, 2]),
      (.test, [3])] := rfl

end Experiment

end Federation
