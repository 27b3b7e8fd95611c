import Federation.Proofs.First
import Federation.Proofs.History

/-!
# Rounds that are interrupted

A round is checked in part before anything is registered, and in part on the way: that a node is the
member whose local state it continues is only noticed when it is the node's turn. So a round that
fails may leave operations behind, an aggregation and the trainings of some nodes. They do no harm.
The history does not mention them, and the round can be performed later with the right nodes.

The rounds before must have been registered on the same graph (`FederatedAveraging.TrainedOn`);
then nothing else can go wrong.

* `FederatedAveraging.MayPerform`: when a round can be performed;
* `FederatedAveraging.Obstructed`: why it cannot be, by the first reason that applies;
* `SplitsAt`: the node at which the trainings of a round stop;
* `FederatedAveraging.performRound_of_mayPerform`, `FederatedAveraging.performRound_of_obstructed`:
  what becomes of a round in the two cases;
* `FederatedAveraging.round_exact`: there is no third case.
-/

namespace Federation

/-- Nodes, each with the local state that it would continue, are split in front of the first one
that is not the member of its state. -/
structure SplitsAt (pairs before : List (TrainNode × LocalStateRef)) (n : TrainNode)
    (r : LocalStateRef) (after : List (TrainNode × LocalStateRef)) : Prop where
  eq : pairs = before ++ (n, r) :: after
  own : ∀ p ∈ before, p.1.id = p.2.node
  foreign : n.id ≠ r.node

theorem exists_splitsAt {pairs : List (TrainNode × LocalStateRef)}
    (h : ¬ ∀ p ∈ pairs, p.1.id = p.2.node) :
    ∃ before n r after, SplitsAt pairs before n r after := by
  have hsome : ∃ p ∈ pairs, ¬ p.1.id = p.2.node := by simpa using h
  obtain ⟨⟨n, r⟩, hfirst⟩ := IsFirst.exists_iff.mpr hsome
  obtain ⟨before, after, heq, hforeign, hown⟩ := IsFirst.iff_append.mp hfirst
  exact ⟨before, n, r, after, heq, fun q hq => Classical.not_not.mp (hown q hq), hforeign⟩

namespace FederatedAveraging

variable {s : FederatedAveraging} {site : Site} {round : Round}

/-! ## Trainings, one after the other -/

/-- Trainings that all succeed are followed by those of the other nodes. -/
theorem trainAll_append {algorithm : Algorithm} {shared : Option SharedStateRef} {d : Draft}
    {xs : List (TrainNode × Option LocalStateRef)} {ts : List Trained}
    (h : (trainAll algorithm round shared d xs).outcome = .ok ts)
    (ys : List (TrainNode × Option LocalStateRef)) :
    let a := trainAll algorithm round shared d xs
    let b := trainAll algorithm round shared a.state.1 ys
    trainAll algorithm round shared d (xs ++ ys) =
      ⟨(b.state.1, a.state.2 ++ b.state.2), b.outcome.map (ts ++ ·)⟩ := by
  induction xs generalizing d ts with
  | nil =>
    obtain rfl := Except.ok.inj h
    simp only [trainAll, List.nil_append]
    exact congrArg (Attempt.mk _) (congrFun Except.map_id _).symm
  | cons p rest ih =>
    obtain ⟨n, start⟩ := p
    unfold trainAll at h
    rcases n.registerTrain_cases d algorithm round shared start with ⟨e, hreg⟩ | ⟨-, -, hreg⟩
    · simp [hreg] at h
    · simp only [hreg] at h
      obtain ⟨ts, hts, rfl⟩ := exists_of_map_eq_ok h
      simp only [List.cons_append, trainAll, hreg, ih hts]
      generalize d.append _ = d'
      cases (trainAll algorithm round shared
        (trainAll algorithm round shared d' rest).state.1 ys).outcome <;> rfl

/-- The trainings of nodes stop at once when the first of them continues the state of another
member. -/
theorem trainAll_foreign (algorithm : Algorithm) (round : Round) (shared : Option SharedStateRef)
    (d : Draft) {n : TrainNode} {r : LocalStateRef} (h : n.id ≠ r.node)
    (rest : List (TrainNode × Option LocalStateRef)) :
    trainAll algorithm round shared d ((n, some r) :: rest) =
      ⟨(d, n :: rest.map Prod.fst), .error (.scopeViolation n.id r.node)⟩ := by
  have hscope : scopeFault? n.id r = some (.scopeViolation n.id r.node) := if_neg h
  simp [trainAll, TrainNode.registerTrain, Draft.register, hscope]

/-! ## What a round registers -/

/-- The operations of a round after another one: the aggregation of its payloads, then a training
for each node, from the local state beside it and the aggregated state. -/
def updates (s : FederatedAveraging) (d : Draft) (aggregator : AggregationNode) (round : Round)
    (payloads : List SharedPayload) (pairs : List (TrainNode × LocalStateRef)) : List Operation :=
  d.nextAt 0 aggregator.id round (payloads.map .payload) (.aggregate .weightedAverage) ::
    pairs.mapIdx fun i p => d.nextAt (1 + i) p.1.id round
      [.localState p.2, .sharedState ⟨⟨d.graph.size⟩⟩]
      (.train s.algorithm p.1.dataset p.1.samples)

/-- What is left of a round that stops at a node: the aggregation and the trainings of the nodes in
front of it were registered, and joined the queues of their nodes. -/
structure StopsAt (s : FederatedAveraging) (site : Site) (round : Round)
    (aggregator : AggregationNode) (payloads : List SharedPayload)
    (before : List (TrainNode × LocalStateRef)) (rest : List TrainNode) (left : Site) : Prop where
  draft : site.draft.Extends (s.updates site.draft aggregator round payloads before) left.draft
  trainNodes : left.trainNodes =
    before.mapIdx (fun i p => p.1.queue ⟨site.draft.graph.size + (1 + i)⟩) ++ rest
  aggregator : left.aggregator = some (aggregator.queue ⟨site.draft.graph.size⟩)

/-- Nodes that continue their own local states all train. -/
theorem trainAll_own (algorithm : Algorithm) (round : Round) {shared : SharedStateRef} (d : Draft)
    {pairs : List (TrainNode × LocalStateRef)} (hown : ∀ p ∈ pairs, p.1.id = p.2.node)
    (hproduced : ∀ p ∈ pairs, d.graph.Produces .train p.2.producer)
    (hshared : d.graph.Produces .aggregate shared.producer) :
    let a := trainAll algorithm round (some shared) d (pairs.map fun p => (p.1, some p.2))
    (∃ ts, a.outcome = .ok ts) ∧
      a.state.2 = pairs.mapIdx (fun i p => p.1.queue ⟨d.graph.size + i⟩) ∧
      d.Extends (pairs.mapIdx fun i p => d.nextAt i p.1.id round
        [.localState p.2, .sharedState shared] (.train algorithm p.1.dataset p.1.samples))
        a.state.1 := by
  have hstart : ∀ q ∈ pairs.map (fun p => (p.1, some p.2)), q.1.MayStart d.graph q.2 := by
    intro q hq
    obtain ⟨p, hp, rfl⟩ := List.mem_map.mp hq
    rintro _ ⟨⟩
    exact ⟨(hown p hp).symm, hproduced p hp⟩
  have hshare : d.graph.MayShare (some shared) := by
    rintro _ ⟨⟩
    exact hshared
  obtain ⟨hout, hnodes, hext⟩ := trainAll_eq_ok algorithm round d _ hstart hshare
  rw [mapIdx_map] at hout hnodes hext
  exact ⟨⟨_, hout⟩, hnodes, hext⟩

/-- Nodes that continue the local states beside them train up to the first for which the state is
that of another member. -/
theorem trainAll_splitsAt (algorithm : Algorithm) (round : Round) {shared : SharedStateRef}
    (d : Draft) {pairs before after : List (TrainNode × LocalStateRef)} {n : TrainNode}
    {r : LocalStateRef} (h : SplitsAt pairs before n r after)
    (hproduced : ∀ p ∈ pairs, d.graph.Produces .train p.2.producer)
    (hshared : d.graph.Produces .aggregate shared.producer) :
    let a := trainAll algorithm round (some shared) d (pairs.map fun p => (p.1, some p.2))
    a.outcome = .error (.scopeViolation n.id r.node) ∧
      a.state.2 = before.mapIdx (fun i p => p.1.queue ⟨d.graph.size + i⟩) ++
        n :: after.map Prod.fst ∧
      d.Extends (before.mapIdx fun i p => d.nextAt i p.1.id round
        [.localState p.2, .sharedState shared] (.train algorithm p.1.dataset p.1.samples))
        a.state.1 := by
  -- the nodes in front train as they would without the others, and the next one stops at once
  obtain ⟨⟨ts, hts⟩, hnodes, hext⟩ := trainAll_own algorithm round d h.own
    (fun p hp => hproduced p (h.eq ▸ List.mem_append_left _ hp)) hshared
  have happend := trainAll_append hts ((n, some r) :: after.map fun p => (p.1, some p.2))
  have hlist : pairs.map (fun p => (p.1, some p.2)) =
      before.map (fun p => (p.1, some p.2)) ++
        (n, some r) :: after.map fun p => (p.1, some p.2) := by
    rw [h.eq, List.map_append, List.map_cons]
  simp only [hlist, happend, trainAll_foreign _ _ _ _ h.foreign, List.map_map]
  refine ⟨rfl, ?_, hext⟩
  rw [hnodes]
  rfl

/-! ## Whether a round can be performed -/

/-- A round can be performed when somebody aggregates, it is the next one, and, unless it is the
first, somebody trains and the nodes are the members of the last round, position by position. -/
structure MayPerform (s : FederatedAveraging) (site : Site) (round : Round) : Prop where
  aggregates : site.aggregator.isSome = true
  next : round.toNat = s.history.size
  continues : ∀ previous, s.current? = some previous → site.trainNodes ≠ [] ∧
    List.Forall₂ (fun n r => n.id = r.node) site.trainNodes previous.states

/-- Why a round cannot be performed. Each reason counts only when none of those before applies. -/
inductive Obstructed (s : FederatedAveraging) (site : Site) (round : Round) : StrategyError → Prop
  /-- Nobody aggregates. -/
  | unaggregated (h : site.aggregator = none) : Obstructed s site round .missingAggregationNode
  /-- It is not the next round. -/
  | order (ha : site.aggregator.isSome = true) (h : round.toNat ≠ s.history.size) :
    Obstructed s site round (.roundOutOfOrder (.ofNat s.history.size) round)
  /-- The number of the nodes is not that of the last round. -/
  | number {previous : RoundSnapshot} (ha : site.aggregator.isSome = true)
    (hr : round.toNat = s.history.size) (hp : s.current? = some previous)
    (h : site.trainNodes.length ≠ previous.states.length) :
    Obstructed s site round (.trainNodesChanged previous.states.length site.trainNodes.length)
  /-- There was nobody who trained, and so there is nothing to aggregate. -/
  | nobody {previous : RoundSnapshot} (ha : site.aggregator.isSome = true)
    (hr : round.toNat = s.history.size) (hp : s.current? = some previous)
    (hl : site.trainNodes.length = previous.states.length) (h : site.trainNodes = []) :
    Obstructed s site round (.node .emptyAggregationInput)
  /-- A node is the first that is not the member of the last round at its position. -/
  | stranger {previous : RoundSnapshot} {before after : List (TrainNode × LocalStateRef)}
    {n : TrainNode} {r : LocalStateRef} (ha : site.aggregator.isSome = true)
    (hr : round.toNat = s.history.size) (hp : s.current? = some previous)
    (hl : site.trainNodes.length = previous.states.length)
    (h : SplitsAt (site.trainNodes.zip previous.states) before n r after) :
    Obstructed s site round (.node (.scopeViolation n.id r.node))

/-- A round can be performed, or there is a reason why not. -/
theorem mayPerform_or_obstructed (s : FederatedAveraging) (site : Site) (round : Round) :
    s.MayPerform site round ∨ ∃ e, s.Obstructed site round e := by
  by_cases ha : site.aggregator.isSome = true
  case neg => exact .inr ⟨_, .unaggregated (by simpa using ha)⟩
  by_cases hr : round.toNat = s.history.size
  case neg => exact .inr ⟨_, .order ha hr⟩
  cases hp : s.current? with
  | none => exact .inl ⟨ha, hr, fun previous h => by cases hp.symm.trans h⟩
  | some previous =>
    by_cases hl : site.trainNodes.length = previous.states.length
    case neg => exact .inr ⟨_, .number ha hr hp hl⟩
    by_cases hne : site.trainNodes = []
    case pos => exact .inr ⟨_, .nobody ha hr hp hl hne⟩
    by_cases hown : ∀ p ∈ site.trainNodes.zip previous.states, p.1.id = p.2.node
    case neg =>
      obtain ⟨before, n, r, after, hsplit⟩ := exists_splitsAt hown
      exact .inr ⟨_, .stranger ha hr hp hl hsplit⟩
    refine .inl ⟨ha, hr, fun last hlast => ?_⟩
    obtain rfl := Option.some.inj (hp.symm.trans hlast)
    exact ⟨hne, List.forall₂_iff_zip.mpr ⟨hl, fun hmem => hown _ hmem⟩⟩

theorem eq_expectedRound_iff (few : s.history.size < UInt32.size) (round : Round) :
    round = s.expectedRound ↔ round.toNat = s.history.size := by
  rw [← UInt32.toNat_inj, expectedRound, UInt32.toNat_ofNat_of_lt' few]

/-! ## What becomes of a round -/

variable {previous : RoundSnapshot} {aggregator : AggregationNode}

/-- The site with one more notice. -/
def Site.note (site : Site) (n : Notice) : Site :=
  { site with draft := site.draft.note n }

/-- The next round is registered as soon as somebody aggregates. -/
theorem performRound_next (hagg : site.aggregator = some aggregator)
    (hround : round = s.expectedRound) :
    let r := s.registerRound (site.note (.performingRound round)) aggregator round
    (s.performRound site round).outcome = r.outcome.map (fun _ => ()) ∧
      (s.performRound site round).state.2 = r.state := by
  unfold performRound Site.note
  simp only [hagg, ne_eq, hround, not_true_eq_false, if_false]
  generalize s.registerRound _ aggregator s.expectedRound = r
  obtain ⟨state, outcome⟩ := r
  cases outcome with
  | error e => exact ⟨rfl, rfl⟩
  | ok x => exact ⟨rfl, rfl⟩

/-- A graph to which an aggregation was added produces the aggregated state. -/
theorem produces_aggregate {d d' : Draft} {node : ParticipantId} {inputs : List OperationInput}
    {function : AggregationFunction}
    (h : d.Extends [d.nextAt 0 node round inputs (.aggregate function)] d') :
    d'.graph.Produces .aggregate ⟨d.graph.size⟩ := by
  refine ⟨d.nextAt 0 node round inputs (.aggregate function), ?_, rfl⟩
  rw [Graph.get?_eq_getElem?, h.graph, ← Graph.length_toList]
  exact List.getElem?_concat_length

section Following

variable (s site aggregator round)

theorem registerRound_of_none (hp : s.current? = none) :
    s.registerRound site aggregator round =
      s.trainRound site round none (site.trainNodes.map (·, none)) := by
  unfold registerRound
  rw [hp]

theorem registerRound_of_some (hp : s.current? = some previous) :
    s.registerRound site aggregator round = s.followRound site aggregator round previous := by
  unfold registerRound
  rw [hp]

/-- Nothing is registered when there are more nodes than before, or fewer. -/
theorem followRound_number (h : site.trainNodes.length ≠ previous.states.length) :
    s.followRound site aggregator round previous =
      ⟨site, .error (.trainNodesChanged previous.states.length site.trainNodes.length)⟩ :=
  if_pos (Ne.symm h)

/-- Nothing is registered either when nobody trained, and nobody is going to. -/
theorem followRound_nobody (hagg : site.aggregator = some aggregator) (hpaired : previous.Paired)
    (hlength : site.trainNodes.length = previous.states.length) (h : site.trainNodes = []) :
    s.followRound site aggregator round previous =
      ⟨site, .error (.node .emptyAggregationInput)⟩ := by
  have hpayloads : previous.payloads = [] := by
    rw [← List.length_eq_zero_iff, ← hpaired.length_eq, ← hlength, h]
    rfl
  unfold followRound
  rw [if_neg (not_not_intro hlength.symm), hpayloads, aggregator.registerAggregate_nil]
  dsimp only
  rw [← hagg]

/-- Nodes that continue nothing all train. -/
theorem exists_trainRound_scratch :
    ∃ x, (s.trainRound site round none (site.trainNodes.map (·, none))).outcome = .ok x := by
  have hstart : ∀ p ∈ site.trainNodes.map (·, (none : Option LocalStateRef)),
      p.1.MayStart site.draft.graph p.2 := by
    intro p hp
    obtain ⟨n, -, rfl⟩ := List.mem_map.mp hp
    nofun
  have hshare : site.draft.graph.MayShare none := nofun
  obtain ⟨hts, -⟩ := trainAll_eq_ok s.algorithm round site.draft _ hstart hshare
  simp only [trainRound, hts]
  exact ⟨_, rfl⟩

variable (hpaired : previous.Paired) (hproduced : previous.ProducedBy site.draft.graph)
  (hlength : site.trainNodes.length = previous.states.length)
include hpaired hproduced hlength

/-- As many nodes as before, and at least one: then the payloads of the last round are aggregated,
it is the turn of the nodes, and the graph has all that they start from. -/
theorem followRound_eq (hne : site.trainNodes ≠ []) :
    ∃ d, site.draft.Extends [site.draft.nextAt 0 aggregator.id round
        (previous.payloads.map .payload) (.aggregate .weightedAverage)] d ∧
      (∀ p ∈ site.trainNodes.zip previous.states, d.graph.Produces .train p.2.producer) ∧
      d.graph.Produces .aggregate ⟨site.draft.graph.size⟩ ∧
      s.followRound site aggregator round previous =
        s.trainRound
          { site with draft := d, aggregator := some (aggregator.queue ⟨site.draft.graph.size⟩) }
          round (some ⟨⟨site.draft.graph.size⟩⟩)
          ((site.trainNodes.zip previous.states).map fun p => (p.1, some p.2)) := by
  have hpayloads : previous.payloads ≠ [] := by
    rw [← List.length_pos_iff_ne_nil, ← hpaired.length_eq, ← hlength]
    exact List.length_pos_iff_ne_nil.mpr hne
  obtain ⟨d, hreg, hext⟩ := aggregator.registerAggregate_eq_ok site.draft .weightedAverage round
    hpayloads (hproduced.payloads hpaired)
  refine ⟨d, hext, fun p hp => hext.produces (hproduced p.2 (List.of_mem_zip hp).2),
    produces_aggregate hext, ?_⟩
  simp only [followRound, hlength, ne_eq, not_true_eq_false, if_false, hreg, List.zip_map_right]
  rfl

/-- Nodes that are the members of the last round, position by position, train once more. -/
theorem followRound_own (hne : site.trainNodes ≠ [])
    (hown : ∀ p ∈ site.trainNodes.zip previous.states, p.1.id = p.2.node) :
    ∃ x, (s.followRound site aggregator round previous).outcome = .ok x := by
  obtain ⟨d, -, hstates, hshared, heq⟩ :=
    s.followRound_eq site round aggregator hpaired hproduced hlength hne
  obtain ⟨⟨ts, hts⟩, -⟩ := trainAll_own s.algorithm round d hown hstates hshared
  refine ⟨snapshot round (some ⟨⟨site.draft.graph.size⟩⟩) ts, ?_⟩
  simp only [heq, trainRound, hts]
  rfl

/-- Otherwise the round stops at the first node that is not. -/
theorem followRound_splitsAt {before after : List (TrainNode × LocalStateRef)} {n : TrainNode}
    {r : LocalStateRef} (hsplit : SplitsAt (site.trainNodes.zip previous.states) before n r after) :
    let a := s.followRound site aggregator round previous
    a.outcome = .error (.node (.scopeViolation n.id r.node)) ∧
      s.StopsAt site round aggregator previous.payloads before (n :: after.map Prod.fst)
        a.state := by
  have hne : site.trainNodes ≠ [] := by
    intro hnil
    have heq := hsplit.eq
    simp [hnil] at heq
  obtain ⟨d, hext, hstates, hshared, heq⟩ :=
    s.followRound_eq site round aggregator hpaired hproduced hlength hne
  obtain ⟨hout, hnodes, htrained⟩ := trainAll_splitsAt s.algorithm round d hsplit hstates hshared
  have hsize : d.graph.size = site.draft.graph.size + 1 := hext.size
  simp only [heq, trainRound, hout]
  refine ⟨rfl, ?_, ?_, rfl⟩
  · have hall := hext.trans htrained
    simp only [hext.nextAt, List.length_singleton] at hall
    exact hall
  · rw [hnodes]
    simp only [hsize, Nat.add_assoc]

end Following

/-- The next round after another one follows it as soon as somebody aggregates. -/
theorem performRound_after (few : s.history.size < UInt32.size) (ha : site.aggregator.isSome = true)
    (hr : round.toNat = s.history.size) (hp : s.current? = some previous) :
    ∃ aggregator, site.aggregator = some aggregator ∧
      let r := s.followRound (site.note (.performingRound round)) aggregator round previous
      (s.performRound site round).outcome = r.outcome.map (fun _ => ()) ∧
        (s.performRound site round).state.2 = r.state := by
  obtain ⟨aggregator, hagg⟩ := Option.isSome_iff_exists.mp ha
  obtain ⟨hout, hstate⟩ := performRound_next hagg ((eq_expectedRound_iff few round).mpr hr)
  rw [s.registerRound_of_some _ _ _ hp] at hout hstate
  exact ⟨aggregator, hagg, hout, hstate⟩

theorem StopsAt.of_note {payloads : List SharedPayload} {before : List (TrainNode × LocalStateRef)}
    {rest : List TrainNode} {left : Site} {notice : Notice}
    (h : s.StopsAt (site.note notice) round aggregator payloads before rest left) :
    s.StopsAt site round aggregator payloads before rest left :=
  ⟨(Draft.Extends.note site.draft notice).trans h.draft, h.trainNodes, h.aggregator⟩

/-- What a round that fails with an error leaves of its site. Either nothing happened to the graph
and the nodes, or the round stopped at a node. -/
inductive Leaves (s : FederatedAveraging) (site : Site) (round : Round) :
    StrategyError → Site → Prop
  | unchanged {e : StrategyError} {left : Site}
    (h : ∀ node owner, e ≠ .node (.scopeViolation node owner))
    (graph : left.draft.graph = site.draft.graph) (trainNodes : left.trainNodes = site.trainNodes)
    (aggregator : left.aggregator = site.aggregator) : Leaves s site round e left
  | stopped {aggregator : AggregationNode} {previous : RoundSnapshot}
    {before after : List (TrainNode × LocalStateRef)} {n : TrainNode} {r : LocalStateRef}
    {left : Site} (aggregates : site.aggregator = some aggregator)
    (last : s.current? = some previous)
    (split : SplitsAt (site.trainNodes.zip previous.states) before n r after)
    (stops : s.StopsAt site round aggregator previous.payloads before (n :: after.map Prod.fst)
      left) : Leaves s site round (.node (.scopeViolation n.id r.node)) left

section Trained

variable (trained : s.TrainedOn site.draft.graph) (few : s.history.size < UInt32.size)
include trained few

/-- A round that can be performed is performed. -/
theorem performRound_of_mayPerform (h : s.MayPerform site round) :
    (s.performRound site round).outcome = .ok () := by
  cases hp : s.current? with
  | none =>
    obtain ⟨aggregator, hagg⟩ := Option.isSome_iff_exists.mp h.aggregates
    obtain ⟨hout, -⟩ := performRound_next hagg ((eq_expectedRound_iff few round).mpr h.next)
    obtain ⟨x, hx⟩ := s.exists_trainRound_scratch (site.note (.performingRound round)) round
    rw [hout, s.registerRound_of_none _ _ _ hp, hx]
    rfl
  | some previous =>
    obtain ⟨aggregator, -, hout, -⟩ := performRound_after few h.aggregates h.next hp
    obtain ⟨hpaired, hproduced⟩ := trained.current hp
    obtain ⟨hne, hall⟩ := h.continues previous hp
    obtain ⟨hlength, hown⟩ := List.forall₂_iff_zip.mp hall
    obtain ⟨x, hx⟩ := s.followRound_own (site.note (.performingRound round)) round aggregator
      hpaired hproduced hlength hne fun p hp => hown hp
    rw [hout, hx]
    rfl

/-- A round that cannot be performed fails for the reason that there is, and stops where it does. -/
theorem performRound_of_obstructed {e : StrategyError} (h : s.Obstructed site round e) :
    (s.performRound site round).outcome = .error e ∧
      s.Leaves site round e (s.performRound site round).state.2 := by
  cases h with
  | unaggregated h =>
    unfold performRound
    rw [h]
    exact ⟨rfl, .unchanged nofun rfl rfl rfl⟩
  | order ha h =>
    obtain ⟨aggregator, hagg⟩ := Option.isSome_iff_exists.mp ha
    have hround : round ≠ s.expectedRound := mt (eq_expectedRound_iff few round).mp h
    unfold performRound
    simp only [hagg, if_pos hround]
    exact ⟨rfl, .unchanged nofun rfl rfl rfl⟩
  | @number previous ha hr hp h =>
    obtain ⟨aggregator, -, hout, hstate⟩ := performRound_after few ha hr hp
    rw [s.followRound_number (site.note (.performingRound round)) _ _ h] at hout hstate
    rw [hstate]
    exact ⟨hout, .unchanged nofun rfl rfl rfl⟩
  | @nobody previous ha hr hp hl h =>
    obtain ⟨aggregator, hagg, hout, hstate⟩ := performRound_after few ha hr hp
    rw [s.followRound_nobody (site.note (.performingRound round)) round aggregator hagg
      (trained.current hp).1 hl h] at hout hstate
    rw [hstate]
    exact ⟨hout, .unchanged nofun rfl rfl rfl⟩
  | @stranger previous before after n r ha hr hp hl h =>
    obtain ⟨aggregator, hagg, hout, hstate⟩ := performRound_after few ha hr hp
    obtain ⟨hpaired, hproduced⟩ := trained.current hp
    obtain ⟨herr, hstops⟩ := s.followRound_splitsAt (site.note (.performingRound round)) round
      aggregator hpaired hproduced hl h
    rw [hout, hstate, herr]
    exact ⟨rfl, .stopped hagg hp h hstops.of_note⟩

end Trained

/-- **When a round can be performed, and what is left of it otherwise.** Let the rounds so far have
been registered on one graph, and let this one be registered there too. It is performed if and only
if somebody aggregates, it is the next one, and, unless it is the first, somebody trains and the
nodes are the members of the last round, position by position. Otherwise it fails for the first
reason that applies, the history stays as it is, and so do the graph and the nodes, unless the round
stops at a node that is not the member at its position. Then the aggregation and the trainings of
the nodes in front of it are left behind. Whatever is left behind, the right nodes can perform the
round later, even when the graph has grown in the meantime. -/
theorem round_exact (trained : s.TrainedOn site.draft.graph) (few : s.history.size < UInt32.size)
    (round : Round) :
    let a := s.performRound site round
    (a.outcome = .ok () ↔ s.MayPerform site round) ∧
    ∀ e, (a.outcome = .error e ↔ s.Obstructed site round e) ∧
      (a.outcome = .error e →
        a.state.1 = s ∧ s.Leaves site round e a.state.2 ∧
        ∀ (later : Site) (next : Round), a.state.2.draft.graph.Grows later.draft.graph →
          a.state.1.MayPerform later next →
            (a.state.1.performRound later next).outcome = .ok ()) := by
  intro a
  have herror : ∀ {e}, s.Obstructed site round e →
      a.outcome = .error e ∧ s.Leaves site round e a.state.2 :=
    fun h => performRound_of_obstructed trained few h
  have hobstructed : ∀ {e}, a.outcome = .error e → s.Obstructed site round e := by
    intro e he
    rcases s.mayPerform_or_obstructed site round with h | ⟨e', h⟩
    · cases he.symm.trans (performRound_of_mayPerform trained few h)
    · obtain rfl := Except.error.inj (he.symm.trans (herror h).1)
      exact h
  refine ⟨⟨fun hok => ?_, performRound_of_mayPerform trained few⟩, fun e =>
    ⟨⟨hobstructed, fun h => (herror h).1⟩, fun he => ?_⟩⟩
  · rcases s.mayPerform_or_obstructed site round with h | ⟨e, h⟩
    · exact h
    · cases hok.symm.trans (herror h).1
  · have hsame : a.state.1 = s := s.history_of_error site round he
    have hgrown : s.TrainedOn a.state.2.draft.graph :=
      trained.grow (s.grows_performRound site round)
    rw [hsame]
    exact ⟨rfl, (herror (hobstructed he)).2, fun later next hgrows hmay =>
      performRound_of_mayPerform (hgrown.grow hgrows) few hmay⟩

/-- Two members train. In the next round another node stands where the second one was, and the round
stops there; with the second one it would have been performed. -/
theorem round_stops_at_stranger :
    let train : String → TrainNode := fun name => .new ⟨name⟩ default []
    let a := (new default).performRound
      ⟨⟨.empty, .new⟩, [train "first", train "second"], some (.new ⟨"server"⟩)⟩ 0
    let strangers : Site := { a.state.2 with trainNodes := [train "first", train "third"] }
    a.state.1.TrainedOn a.state.2.draft.graph ∧ a.state.1.history.size < UInt32.size ∧
      a.state.1.Obstructed strangers 1 (.node (.scopeViolation ⟨"third"⟩ ⟨"second"⟩)) ∧
      a.state.1.MayPerform a.state.2 1 := by
  intro train a strangers
  have trained : a.state.1.TrainedOn a.state.2.draft.graph := .round (.new _ _) 0
  have trained' : a.state.1.TrainedOn strangers.draft.graph := trained
  have few : a.state.1.history.size < UInt32.size := by decide
  exact ⟨trained, few, ((round_exact trained' few 1).2 _).1.mp rfl,
    (round_exact trained few 1).1.mp rfl⟩

end FederatedAveraging

end Federation
