import Federation.Rounds

/-!
# What a registration adds

A registration on a node adds one operation at the end of the graph and its position at the end of
the node's queue. It succeeds when the operation consumes what earlier operations of the right kinds
produce, and no local state of another node.

* `Graph.Numbered`: operations are numbered by their positions;
* `Graph.firstFault?_size_eq_none_iff`: when an operation may be added;
* `Draft.Extends`: a draft with some operations added, and a key drawn for each;
* `Draft.register_eq_ok`, `Draft.register_cases`: when one registration succeeds, and what it leaves
  behind whether or not it does;
* `TrainNode.registerTrain_cases`, `TestNode.registerTest_cases`,
  `AggregationNode.registerAggregate_cases`: the same of the three kinds;
* `FederatedAveraging.trainAll_eq_ok`, `FederatedAveraging.testAll_eq_ok`: the registrations of a
  list of nodes.
-/

namespace Federation

/-! ## What a graph produces -/

namespace Graph

/-- At a position of the graph there is an operation of a kind. -/
def Produces (g : Graph) (k : OperationKind) (id : OperationId) : Prop :=
  ∃ op, g.get? id = some op ∧ op.kind = k

theorem get?_eq_getElem? (g : Graph) (id : OperationId) : g.get? id = g.toList[id.index]? := by
  simp [get?, toList]

theorem length_toList (g : Graph) : g.toList.length = g.size := by
  simp [toList, size]

theorem index_lt_of_get? {g : Graph} {id : OperationId} {op : Operation}
    (h : g.get? id = some op) : id.index < g.size := by
  rw [get?_eq_getElem?] at h
  obtain ⟨hlt, -⟩ := List.getElem?_eq_some_iff.mp h
  rwa [length_toList] at hlt

/-- The positions of a graph, in order. -/
def positions (g : Graph) : List OperationId :=
  (List.range g.size).map OperationId.mk

/-- The operations are numbered by their positions. -/
def Numbered (g : Graph) : Prop :=
  g.toList.map Operation.id = g.positions

theorem Numbered.id_of_get? {g : Graph} (h : g.Numbered) {id : OperationId} {op : Operation}
    (hop : g.get? id = some op) : op.id = id := by
  rw [get?_eq_getElem?] at hop
  have hids := congrArg (·[id.index]?) h
  simp only [positions, List.getElem?_map, hop, Option.map_some] at hids
  obtain ⟨i, hi, heq⟩ := Option.map_eq_some_iff.mp hids.symm
  obtain ⟨hlt, hget⟩ := List.getElem?_eq_some_iff.mp hi
  rw [List.getElem_range] at hget
  rw [← heq, ← hget]

theorem Numbered.get?_of_mem {g : Graph} (h : g.Numbered) {op : Operation} (hop : op ∈ g.toList) :
    g.get? op.id = some op := by
  obtain ⟨i, hi⟩ := List.mem_iff_getElem?.mp hop
  have hget : g.get? ⟨i⟩ = some op := by rw [get?_eq_getElem?, hi]
  rw [h.id_of_get? hget, hget]

/-- An operation may be added when the graph produces each of its inputs. -/
theorem firstFault?_size_eq_none_iff (g : Graph) (inputs : List OperationInput) :
    g.firstFault? ⟨g.size⟩ inputs = none ↔
      ∀ input ∈ inputs, g.Produces input.producerKind input.producer := by
  unfold firstFault?
  rw [List.findSome?_eq_none_iff]
  refine forall₂_congr fun input _ => ?_
  rw [fault?_eq_none_iff]
  constructor
  · rintro ⟨-, h⟩
    exact h
  · rintro ⟨op, hop, hk⟩
    exact ⟨index_lt_of_get? hop, op, hop, hk⟩

/-- A graph with more operations at its end still produces what it did. -/
theorem Produces.mono {g g' : Graph} {k : OperationKind} {id : OperationId}
    (h : g.Produces k id) {ops : List Operation} (hg : g'.toList = g.toList ++ ops) :
    g'.Produces k id := by
  obtain ⟨op, hop, hk⟩ := h
  refine ⟨op, ?_, hk⟩
  rw [get?_eq_getElem?] at hop ⊢
  obtain ⟨hlt, -⟩ := List.getElem?_eq_some_iff.mp hop
  rw [hg, List.getElem?_append_left hlt, hop]

theorem invalid?_eq_none_iff (g : Graph) :
    g.invalid? = none ↔ ∀ op ∈ g.toList, ∀ input ∈ op.inputs, g.fault? op.id input = none := by
  simp only [invalid?, firstFault?, List.findSome?_eq_none_iff]

/-- The inputs of a valid graph are produced in front of the operations that consume them. -/
theorem producer_of_valid {g : Graph} (h : g.invalid? = none) {op : Operation}
    (hop : op ∈ g.toList) {input : OperationInput} (hi : input ∈ op.inputs) :
    input.producer.index < op.id.index ∧ g.Produces input.producerKind input.producer :=
  (g.fault?_eq_none_iff _ _).mp (g.invalid?_eq_none_iff.mp h op hop input hi)

/-- A graph stays valid when an operation is added whose inputs have no fault. -/
theorem invalid?_append (g : Graph) {op : Operation} (hid : op.id = ⟨g.size⟩)
    (h : g.invalid? = none) (hop : g.firstFault? ⟨g.size⟩ op.inputs = none) :
    (g.append op).invalid? = none := by
  have keep : ∀ id input, g.fault? id input = none → (g.append op).fault? id input = none := by
    intro id input hf
    obtain ⟨hlt, hp⟩ := (g.fault?_eq_none_iff id input).mp hf
    have hp : g.Produces input.producerKind input.producer := hp
    exact (fault?_eq_none_iff _ _ _).mpr ⟨hlt, hp.mono (g.toList_append op)⟩
  rw [invalid?_eq_none_iff] at h ⊢
  intro o ho input hi
  rw [toList_append] at ho
  rcases List.mem_append.mp ho with ho | ho
  · exact keep _ _ (h o ho input hi)
  · rw [List.mem_singleton.mp ho] at hi ⊢
    rw [hid]
    exact keep _ _ (List.findSome?_eq_none_iff.mp hop input hi)

end Graph

/-! ## Drafts with more operations -/

namespace Draft

/-- A draft with the given operations added, and a key drawn for each. -/
structure Extends (d : Draft) (ops : List Operation) (d' : Draft) : Prop where
  graph : d'.graph.toList = d.graph.toList ++ ops
  drawn : d'.recorder.drawn = d.recorder.drawn + ops.length
  valid : d.graph.invalid? = none → d'.graph.invalid? = none

namespace Extends

variable {d d' d'' : Draft} {ops ops' : List Operation}

theorem refl (d : Draft) : d.Extends [] d :=
  ⟨(List.append_nil _).symm, rfl, id⟩

theorem note (d : Draft) (n : Notice) : d.Extends [] (d.note n) :=
  ⟨(List.append_nil _).symm, rfl, id⟩

theorem trans (h : d.Extends ops d') (h' : d'.Extends ops' d'') : d.Extends (ops ++ ops') d'' where
  graph := by rw [h'.graph, h.graph, List.append_assoc]
  drawn := by rw [h'.drawn, h.drawn, List.length_append, Nat.add_assoc]
  valid hv := h'.valid (h.valid hv)

theorem size (h : d.Extends ops d') : d'.graph.size = d.graph.size + ops.length := by
  rw [← Graph.length_toList, h.graph, List.length_append, Graph.length_toList]

theorem produces (h : d.Extends ops d') {k : OperationKind} {id : OperationId}
    (hp : d.graph.Produces k id) : d'.graph.Produces k id :=
  hp.mono h.graph

end Extends

/-- An operation whose inputs are produced extends the draft that it is added to. -/
theorem extends_append (d : Draft) (node : ParticipantId) (round : Round)
    (inputs : List OperationInput) (payload : OperationPayload)
    (h : ∀ input ∈ inputs, d.graph.Produces input.producerKind input.producer) :
    d.Extends [d.next node round inputs payload] (d.append (d.next node round inputs payload)) where
  graph := d.graph.toList_append _
  drawn := rfl
  valid hv := d.graph.invalid?_append rfl hv ((d.graph.firstFault?_size_eq_none_iff inputs).mpr h)

end Draft

/-! ## One registration -/

theorem scopeFault?_eq_none_iff (node : ParticipantId) (state : LocalStateRef) :
    scopeFault? node state = none ↔ node = state.node := by
  unfold scopeFault?
  split
  · simp [*]
  · simp [*]

@[simp]
theorem TrainNode.clear_queue (n : TrainNode) (id : OperationId) : (n.queue id).clear = n.clear :=
  rfl

@[simp]
theorem TestNode.clear_queue (n : TestNode) (id : OperationId) : (n.queue id).clear = n.clear :=
  rfl

@[simp]
theorem AggregationNode.clear_queue (n : AggregationNode) (id : OperationId) :
    (n.queue id).clear = n.clear :=
  rfl

namespace Draft

section Register

variable {ν ρ : Type} (d : Draft) (n : ν) (objection : Option NodeError) (node : ParticipantId)
  (round : Round) (inputs : List OperationInput) (payload : OperationPayload)
  (queue : OperationId → ν) (result : OperationId → ρ)

/-- If the node does not object, an operation is registered whose inputs the graph produces. -/
theorem register_eq_ok (hobjection : objection = none)
    (h : ∀ input ∈ inputs, d.graph.Produces input.producerKind input.producer) :
    d.register n objection node round inputs payload queue result =
      ⟨(d.append (d.next node round inputs payload), queue ⟨d.graph.size⟩),
        .ok (result ⟨d.graph.size⟩)⟩ := by
  have hsound := (d.graph.firstFault?_size_eq_none_iff inputs).mpr h
  simp only [register, hobjection, push_of_sound hsound]

/-- What a registration leaves behind: the draft and the node as they were, if it fails; and
otherwise the draft with one more operation, whose inputs are produced, and the node with this
operation in its queue. -/
theorem register_cases :
    (∃ e, d.register n objection node round inputs payload queue result = ⟨(d, n), .error e⟩) ∨
      objection = none ∧
        (∀ input ∈ inputs, d.graph.Produces input.producerKind input.producer) ∧
        d.register n objection node round inputs payload queue result =
          ⟨(d.append (d.next node round inputs payload), queue ⟨d.graph.size⟩),
            .ok (result ⟨d.graph.size⟩)⟩ := by
  cases objection with
  | some e => exact .inl ⟨e, rfl⟩
  | none =>
    cases hfault : d.graph.firstFault? ⟨d.graph.size⟩ inputs with
    | some e => exact .inl ⟨.graph e, by simp only [register, push_of_fault hfault]⟩
    | none =>
      have hproduced := (d.graph.firstFault?_size_eq_none_iff inputs).mp hfault
      exact .inr ⟨rfl, hproduced, register_eq_ok _ _ _ _ _ _ _ _ _ rfl hproduced⟩

end Register

end Draft

/-! ## The three kinds of registrations -/

/-- A local state that a node may start from: its own, and one that the graph produces. -/
def TrainNode.MayStart (n : TrainNode) (g : Graph) (start : Option LocalStateRef) : Prop :=
  ∀ s ∈ start, s.node = n.id ∧ g.Produces .train s.producer

/-- A shared state that a node may start from: one that the graph produces. -/
def Graph.MayShare (g : Graph) (shared : Option SharedStateRef) : Prop :=
  ∀ s ∈ shared, g.Produces .aggregate s.producer

theorem emptyFault?_eq_none_iff (payloads : List SharedPayload) :
    AggregationNode.emptyFault? payloads = none ↔ payloads ≠ [] := by
  cases payloads <;> simp [AggregationNode.emptyFault?]

theorem TrainNode.scope_eq_none_iff (n : TrainNode) (start : Option LocalStateRef) :
    start.bind (scopeFault? n.id) = none ↔ ∀ s ∈ start, n.id = s.node := by
  cases start with
  | none => simp
  | some s => simpa using scopeFault?_eq_none_iff n.id s

theorem TrainNode.registerTrain_eq_ok (n : TrainNode) (d : Draft) (algorithm : Algorithm)
    (round : Round) {shared : Option SharedStateRef} {start : Option LocalStateRef}
    (hstart : n.MayStart d.graph start) (hshared : d.graph.MayShare shared) :
    ∃ d', n.registerTrain d algorithm round shared start =
        ⟨(d', n.queue ⟨d.graph.size⟩), .ok (n.trained ⟨d.graph.size⟩)⟩ ∧
      d.Extends [d.next n.id round (trainInputs start shared)
        (.train algorithm n.dataset n.samples)] d' := by
  have hscope := (n.scope_eq_none_iff start).mpr fun s hs => (hstart s hs).1.symm
  have hinputs : ∀ input ∈ trainInputs start shared,
      d.graph.Produces input.producerKind input.producer := by
    intro input hi
    rcases List.mem_append.mp hi with hi | hi
    · cases start with
      | none => simp at hi
      | some s =>
        rw [List.mem_singleton.mp hi]
        exact (hstart s rfl).2
    · cases shared with
      | none => simp at hi
      | some s =>
        rw [List.mem_singleton.mp hi]
        exact hshared s rfl
  exact ⟨_, d.register_eq_ok _ _ _ _ _ _ _ _ hscope hinputs, d.extends_append _ _ _ _ hinputs⟩

theorem TestNode.registerTest_eq_ok (n : TestNode) (d : Draft) {state : LocalStateRef}
    (round : Round) (hnode : state.node = n.id) (hstate : d.graph.Produces .train state.producer) :
    ∃ d', n.registerTest d state round =
        ⟨(d', n.queue ⟨d.graph.size⟩), .ok ⟨d.graph.size⟩⟩ ∧
      d.Extends [d.next n.id round [.localState state] (.test n.dataset n.samples n.metrics)]
        d' := by
  have hscope : scopeFault? n.id state = none :=
    (scopeFault?_eq_none_iff n.id state).mpr hnode.symm
  have hinputs : ∀ input ∈ [OperationInput.localState state],
      d.graph.Produces input.producerKind input.producer := by
    intro input hi
    rw [List.mem_singleton.mp hi]
    exact hstate
  exact ⟨_, d.register_eq_ok _ _ _ _ _ _ _ _ hscope hinputs, d.extends_append _ _ _ _ hinputs⟩

theorem AggregationNode.registerAggregate_eq_ok (n : AggregationNode) (d : Draft)
    (function : AggregationFunction) {payloads : List SharedPayload} (round : Round)
    (hne : payloads ≠ []) (hp : ∀ p ∈ payloads, d.graph.Produces .train p.producer) :
    ∃ d', n.registerAggregate d function payloads round =
        ⟨(d', n.queue ⟨d.graph.size⟩), .ok ⟨⟨d.graph.size⟩⟩⟩ ∧
      d.Extends [d.next n.id round (payloads.map .payload) (.aggregate function)] d' := by
  have hsome := (emptyFault?_eq_none_iff payloads).mpr hne
  have hinputs : ∀ input ∈ payloads.map OperationInput.payload,
      d.graph.Produces input.producerKind input.producer := by
    intro input hi
    obtain ⟨p, hmem, rfl⟩ := List.mem_map.mp hi
    exact hp p hmem
  exact ⟨_, d.register_eq_ok _ _ _ _ _ _ _ _ hsome hinputs, d.extends_append _ _ _ _ hinputs⟩

/-- A training that is registered starts from a state of its node. -/
theorem TrainNode.registerTrain_cases (n : TrainNode) (d : Draft) (algorithm : Algorithm)
    (round : Round) (shared : Option SharedStateRef) (start : Option LocalStateRef) :
    (∃ e, n.registerTrain d algorithm round shared start = ⟨(d, n), .error e⟩) ∨
      (∀ s ∈ start, n.id = s.node) ∧
        (∀ input ∈ trainInputs start shared,
          d.graph.Produces input.producerKind input.producer) ∧
        n.registerTrain d algorithm round shared start =
          ⟨(d.append (d.next n.id round (trainInputs start shared)
              (.train algorithm n.dataset n.samples)), n.queue ⟨d.graph.size⟩),
            .ok (n.trained ⟨d.graph.size⟩)⟩ := by
  rw [← n.scope_eq_none_iff start]
  exact d.register_cases n _ n.id round (trainInputs start shared)
    (.train algorithm n.dataset n.samples) n.queue n.trained

/-- A test that is registered scores a state of its node. -/
theorem TestNode.registerTest_cases (n : TestNode) (d : Draft) (state : LocalStateRef)
    (round : Round) :
    (∃ e, n.registerTest d state round = ⟨(d, n), .error e⟩) ∨
      n.id = state.node ∧
        (∀ input ∈ [OperationInput.localState state],
          d.graph.Produces input.producerKind input.producer) ∧
        n.registerTest d state round =
          ⟨(d.append (d.next n.id round [.localState state]
              (.test n.dataset n.samples n.metrics)), n.queue ⟨d.graph.size⟩),
            .ok ⟨d.graph.size⟩⟩ := by
  rw [← scopeFault?_eq_none_iff]
  exact d.register_cases n _ n.id round [.localState state] (.test n.dataset n.samples n.metrics)
    n.queue fun position => position

/-- An aggregation that is registered is one of something. -/
theorem AggregationNode.registerAggregate_cases (n : AggregationNode) (d : Draft)
    (function : AggregationFunction) (payloads : List SharedPayload) (round : Round) :
    (∃ e, n.registerAggregate d function payloads round = ⟨(d, n), .error e⟩) ∨
      payloads ≠ [] ∧
        (∀ input ∈ payloads.map OperationInput.payload,
          d.graph.Produces input.producerKind input.producer) ∧
        n.registerAggregate d function payloads round =
          ⟨(d.append (d.next n.id round (payloads.map .payload) (.aggregate function)),
              n.queue ⟨d.graph.size⟩),
            .ok ⟨⟨d.graph.size⟩⟩⟩ := by
  rw [← emptyFault?_eq_none_iff]
  exact d.register_cases n _ n.id round (payloads.map .payload) (.aggregate function) n.queue
    SharedStateRef.mk

theorem AggregationNode.registerAggregate_nil (n : AggregationNode) (d : Draft)
    (function : AggregationFunction) (round : Round) :
    n.registerAggregate d function [] round = ⟨(d, n), .error .emptyAggregationInput⟩ := rfl

/-! ## Registrations on several nodes -/

/-- The operation that would be added, with the given contents, after some other operations. -/
def Draft.nextAt (d : Draft) (offset : Nat) (node : ParticipantId) (round : Round)
    (inputs : List OperationInput) (payload : OperationPayload) : Operation where
  id := ⟨d.graph.size + offset⟩
  key := .drawn (d.recorder.drawn + offset)
  node := node
  round := round
  inputs := inputs
  payload := payload

theorem Draft.Extends.nextAt {d d' : Draft} {ops : List Operation} (h : d.Extends ops d')
    (offset : Nat) (node : ParticipantId) (round : Round) (inputs : List OperationInput)
    (payload : OperationPayload) :
    d'.nextAt offset node round inputs payload =
      d.nextAt (ops.length + offset) node round inputs payload := by
  simp only [Draft.nextAt, h.size, h.drawn, Nat.add_assoc]

theorem mapIdx_map {α β γ : Type} (f : Nat → β → γ) (g : α → β) (l : List α) :
    (l.map g).mapIdx f = l.mapIdx fun i x => f i (g x) := by
  refine List.ext_getElem (by simp) fun i _ _ => ?_
  simp

namespace FederatedAveraging

theorem trainAll_eq_ok (algorithm : Algorithm) (round : Round) {shared : Option SharedStateRef}
    (d : Draft) (nodes : List (TrainNode × Option LocalStateRef))
    (hstart : ∀ p ∈ nodes, p.1.MayStart d.graph p.2) (hshared : d.graph.MayShare shared) :
    let a := trainAll algorithm round shared d nodes
    a.outcome = .ok (nodes.mapIdx fun i p => p.1.trained ⟨d.graph.size + i⟩) ∧
      a.state.2 = nodes.mapIdx (fun i p => p.1.queue ⟨d.graph.size + i⟩) ∧
      d.Extends (nodes.mapIdx fun i p => d.nextAt i p.1.id round (TrainNode.trainInputs p.2 shared)
        (.train algorithm p.1.dataset p.1.samples)) a.state.1 := by
  induction nodes generalizing d with
  | nil => exact ⟨rfl, rfl, .refl d⟩
  | cons p rest ih =>
    obtain ⟨n, start⟩ := p
    obtain ⟨d', hreg, hext⟩ := n.registerTrain_eq_ok d algorithm round
      (hstart (n, start) (List.mem_cons_self ..)) hshared
    have hsize : d'.graph.size = d.graph.size + 1 := hext.size
    obtain ⟨hout, hnodes, hrest⟩ := ih d'
      (fun q hq s hs => ⟨(hstart q (List.mem_cons_of_mem _ hq) s hs).1,
        hext.produces (hstart q (List.mem_cons_of_mem _ hq) s hs).2⟩)
      (fun s hs => hext.produces (hshared s hs))
    have hshift : ∀ i, d.graph.size + 1 + i = d.graph.size + (i + 1) := fun i => by omega
    simp only [trainAll, hreg]
    refine ⟨?_, ?_, ?_⟩
    · rw [hout]
      simp [Except.map, List.mapIdx_cons, hsize, hshift]
    · rw [hnodes]
      simp [List.mapIdx_cons, hsize, hshift]
    · have hall := hext.trans hrest
      simp only [hext.nextAt, List.length_singleton, Nat.add_comm 1] at hall
      rw [List.mapIdx_cons]
      exact hall

theorem testAll_eq_ok (current : RoundSnapshot) (trainNodes : List TrainNode) (round : Round)
    (d : Draft) (nodes : List TestNode) (ref : ParticipantId → LocalStateRef)
    (href : ∀ n ∈ nodes, stateToTest current trainNodes n.id = .ok (ref n.id) ∧
      (ref n.id).node = n.id ∧ d.graph.Produces .train (ref n.id).producer) :
    let a := testAll current trainNodes round d nodes
    a.outcome = .ok () ∧
      a.state.2 = nodes.mapIdx (fun i n => n.queue ⟨d.graph.size + i⟩) ∧
      d.Extends (nodes.mapIdx fun i n => d.nextAt i n.id round [.localState (ref n.id)]
        (.test n.dataset n.samples n.metrics)) a.state.1 := by
  induction nodes generalizing d with
  | nil => exact ⟨rfl, rfl, .refl d⟩
  | cons n rest ih =>
    obtain ⟨hstate, hnode, hproduces⟩ := href n (List.mem_cons_self ..)
    have hnote := Draft.Extends.note d (.testing (ref n.id) current.round n.id)
    obtain ⟨d', hreg, hext⟩ := n.registerTest_eq_ok
      (d.note (.testing (ref n.id) current.round n.id)) round hnode (hnote.produces hproduces)
    have hext : d.Extends [d.nextAt 0 n.id round [.localState (ref n.id)]
        (.test n.dataset n.samples n.metrics)] d' := hnote.trans hext
    have hsize : d'.graph.size = d.graph.size + 1 := hext.size
    obtain ⟨hout, hnodes, hrest⟩ := ih d' fun m hm =>
      have h := href m (List.mem_cons_of_mem _ hm)
      ⟨h.1, h.2.1, hext.produces h.2.2⟩
    have hshift : ∀ i, d.graph.size + 1 + i = d.graph.size + (i + 1) := fun i => by omega
    simp only [testAll, hstate, hreg]
    refine ⟨hout, ?_, ?_⟩
    · rw [hnodes]
      simp only [List.mapIdx_cons, hsize, hshift]
      rfl
    · have hall := hext.trans hrest
      simp only [hext.nextAt, List.length_singleton, Nat.add_comm 1] at hall
      rw [List.mapIdx_cons]
      exact hall

/-- A node that is tested belongs to exactly one of the nodes that train. -/
theorem filter_length_of_stateToTest {current : RoundSnapshot} {trainNodes : List TrainNode}
    {node : ParticipantId} {state : LocalStateRef}
    (h : stateToTest current trainNodes node = .ok state) :
    (trainNodes.filter fun n => n.id = node).length = 1 := by
  unfold stateToTest at h
  split at h
  · exact absurd h (by simp)
  · assumption
  · exact absurd h (by simp)

/-- When all nodes are tested, each of them belongs to exactly one of the nodes that train. -/
theorem filter_length_of_testAll {current : RoundSnapshot} {trainNodes : List TrainNode}
    {round : Round} {d : Draft} {nodes : List TestNode}
    (h : (testAll current trainNodes round d nodes).outcome = .ok ()) :
    ∀ n ∈ nodes, (trainNodes.filter fun m => m.id = n.id).length = 1 := by
  induction nodes generalizing d with
  | nil => simp
  | cons n rest ih =>
    unfold testAll at h
    cases hs : stateToTest current trainNodes n.id with
    | error e => simp [hs] at h
    | ok state =>
      simp only [hs] at h
      rcases n.registerTest_cases (d.note (.testing state current.round n.id)) state round with
        ⟨e, hreg⟩ | ⟨-, -, hreg⟩
      · simp [hreg] at h
      · simp only [hreg] at h
        intro m hm
        rcases List.mem_cons.mp hm with rfl | hm
        · exact filter_length_of_stateToTest hs
        · exact ih h m hm

end FederatedAveraging

end Federation
