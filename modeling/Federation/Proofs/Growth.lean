import Mathlib.Logic.Relation
import Federation.Proofs.Rendering

/-!
# How a graph grows

Operations are registered on nodes one by one, or a strategy registers those of a round or of an
evaluation. Whatever is called, with whatever nodes, strategies and references, a graph only grows
at its end, and only by operations that consume what it already produces.

* `Graph.Adds`: one operation is added; `Graph.Grows`: any number of them, one after the other;
* `TrainNode.grows_registerTrain` and its siblings, `FederatedAveraging.grows_performRound`,
  `FederatedAveraging.grows_predict`: a call makes the graph grow, also when it fails on the way;
* `Graph.WellFormed.adds`: what one operation keeps, and `Graph.WellFormed.grows`, what all keep;
* `Graph.constructed_in_order`: what holds of every graph.
-/

namespace Federation

namespace Graph

/-! ## Adding operations -/

/-- An operation is added at the end of a graph. It is fit for its kind, and it consumes what the
graph produces. -/
structure Adds (g : Graph) (op : Operation) (g' : Graph) : Prop where
  graph : g' = g.append op
  id : op.id = ⟨g.size⟩
  shaped : op.Shaped
  produced : ∀ input ∈ op.inputs, g.Produces input.producerKind input.producer

/-- Operations are added one after the other. -/
def Grows : Graph → Graph → Prop :=
  Relation.ReflTransGen fun g g' => ∃ op, g.Adds op g'

theorem Grows.refl (g : Graph) : g.Grows g :=
  Relation.ReflTransGen.refl

theorem Grows.trans {g g' g'' : Graph} (h : g.Grows g') (h' : g'.Grows g'') : g.Grows g'' :=
  Relation.ReflTransGen.trans h h'

/-- Whatever is added comes after what was there. -/
theorem Grows.exists_append {g g' : Graph} (h : g.Grows g') :
    ∃ ops, g'.toList = g.toList ++ ops := by
  induction h with
  | refl => exact ⟨[], (List.append_nil _).symm⟩
  | tail _ hadds ih =>
    obtain ⟨ops, hops⟩ := ih
    obtain ⟨op, hop⟩ := hadds
    exact ⟨ops ++ [op], by rw [hop.graph, toList_append, hops, List.append_assoc]⟩

/-- Everything is in order with a graph, except perhaps its keys: the operations are numbered by
their positions, are fit for their kinds, and consume what earlier ones of the right kinds
produce. -/
structure WellFormed (g : Graph) : Prop where
  numbered : g.Numbered
  valid : g.invalid? = none
  shaped : ∀ op ∈ g.toList, op.Shaped

theorem wellFormed_empty : empty.WellFormed where
  numbered := rfl
  valid := rfl
  shaped op hop := by simp [empty, toList] at hop

variable {g g' : Graph} {op : Operation}

/-- **One operation that is added keeps the graph in order.** -/
theorem WellFormed.adds (h : g.WellFormed) (ha : g.Adds op g') : g'.WellFormed := by
  rw [ha.graph]
  refine ⟨?_, ?_, fun o ho => ?_⟩
  · have hnumbered := h.numbered
    unfold Numbered positions at hnumbered ⊢
    rw [toList_append, List.map_append, hnumbered, size_append, List.range_succ, List.map_append,
      List.map_singleton, List.map_singleton, ha.id]
  · exact g.invalid?_append ha.id h.valid ((g.firstFault?_size_eq_none_iff _).mpr ha.produced)
  · rw [toList_append] at ho
    rcases List.mem_append.mp ho with ho | ho
    · exact h.shaped o ho
    · rw [List.mem_singleton.mp ho]
      exact ha.shaped

theorem WellFormed.grows (h : g.WellFormed) (hg : g.Grows g') : g'.WellFormed := by
  induction hg with
  | refl => exact h
  | tail _ hadds ih =>
    obtain ⟨op, hop⟩ := hadds
    exact ih.adds hop

end Graph

/-! ## Registrations -/

/-- An operation that is added makes the graph grow, if it is fit for its kind and consumes what the
graph produces. -/
theorem Draft.grows_append (d : Draft) {node : ParticipantId} {round : Round}
    {inputs : List OperationInput} {payload : OperationPayload}
    (shaped : (d.next node round inputs payload).Shaped)
    (produced : ∀ input ∈ inputs, d.graph.Produces input.producerKind input.producer) :
    d.graph.Grows (d.append (d.next node round inputs payload)).graph :=
  .single ⟨_, rfl, rfl, shaped, produced⟩

theorem TrainNode.grows_registerTrain (n : TrainNode) (d : Draft) (algorithm : Algorithm)
    (round : Round) (shared : Option SharedStateRef) (start : Option LocalStateRef) :
    d.graph.Grows (n.registerTrain d algorithm round shared start).state.1.graph := by
  rcases n.registerTrain_cases d algorithm round shared start with
    ⟨e, hreg⟩ | ⟨-, produced, hreg⟩
  · rw [hreg]
    exact .refl _
  · rw [hreg]
    exact d.grows_append ⟨start, shared, rfl⟩ produced

theorem TestNode.grows_registerTest (n : TestNode) (d : Draft) (state : LocalStateRef)
    (round : Round) : d.graph.Grows (n.registerTest d state round).state.1.graph := by
  rcases n.registerTest_cases d state round with ⟨e, hreg⟩ | ⟨-, produced, hreg⟩
  · rw [hreg]
    exact .refl _
  · rw [hreg]
    exact d.grows_append ⟨state, rfl⟩ produced

theorem AggregationNode.grows_registerAggregate (n : AggregationNode) (d : Draft)
    (function : AggregationFunction) (payloads : List SharedPayload) (round : Round) :
    d.graph.Grows (n.registerAggregate d function payloads round).state.1.graph := by
  rcases n.registerAggregate_cases d function payloads round with
    ⟨e, hreg⟩ | ⟨hne, produced, hreg⟩
  · rw [hreg]
    exact .refl _
  · rw [hreg]
    exact d.grows_append ⟨payloads, hne, rfl⟩ produced

/-! ## Rounds and evaluations -/

namespace FederatedAveraging

/-- The trainings up to the first that fails. -/
theorem grows_trainAll (algorithm : Algorithm) (round : Round) (shared : Option SharedStateRef)
    (d : Draft) (nodes : List (TrainNode × Option LocalStateRef)) :
    d.graph.Grows (trainAll algorithm round shared d nodes).state.1.graph := by
  induction nodes generalizing d with
  | nil => exact .refl _
  | cons p rest ih =>
    obtain ⟨n, start⟩ := p
    have hgrows := n.grows_registerTrain d algorithm round shared start
    unfold trainAll
    split
    · next hreg =>
      rw [hreg] at hgrows
      exact hgrows
    · next hreg =>
      rw [hreg] at hgrows
      exact hgrows.trans (ih _)

theorem grows_trainRound (s : FederatedAveraging) (site : Site) (round : Round)
    (shared : Option SharedStateRef) (nodes : List (TrainNode × Option LocalStateRef)) :
    site.draft.graph.Grows (s.trainRound site round shared nodes).state.draft.graph :=
  grows_trainAll s.algorithm round shared site.draft nodes

theorem grows_followRound (s : FederatedAveraging) (site : Site) (aggregator : AggregationNode)
    (round : Round) (previous : RoundSnapshot) :
    site.draft.graph.Grows (s.followRound site aggregator round previous).state.draft.graph := by
  unfold followRound
  split
  · exact .refl _
  · have hgrows := aggregator.grows_registerAggregate site.draft .weightedAverage
      previous.payloads round
    split
    · next hreg =>
      rw [hreg] at hgrows
      exact hgrows
    · next d a shared hreg =>
      rw [hreg] at hgrows
      exact hgrows.trans
        (s.grows_trainRound { site with draft := d, aggregator := some a } round _ _)

/-- A round makes the graph grow, however far it comes. -/
theorem grows_performRound (s : FederatedAveraging) (site : Site) (round : Round) :
    site.draft.graph.Grows (s.performRound site round).state.2.draft.graph := by
  have hregister : ∀ (site : Site) aggregator,
      site.draft.graph.Grows (s.registerRound site aggregator round).state.draft.graph := by
    intro site aggregator
    unfold registerRound
    cases s.current? with
    | none => exact s.grows_trainRound site round none _
    | some previous => exact s.grows_followRound site aggregator round previous
  unfold performRound
  split
  · exact .refl _
  · split
    · exact .refl _
    · have hround := hregister { site with draft := site.draft.note (.performingRound round) }
      dsimp only
      split
      · exact hround _
      · exact hround _

/-- The tests up to the first that fails. -/
theorem grows_testAll (current : RoundSnapshot) (trainNodes : List TrainNode) (round : Round)
    (d : Draft) (nodes : List TestNode) :
    d.graph.Grows (testAll current trainNodes round d nodes).state.1.graph := by
  induction nodes generalizing d with
  | nil => exact .refl _
  | cons n rest ih =>
    unfold testAll
    cases stateToTest current trainNodes n.id with
    | error e => exact .refl _
    | ok state =>
      have hgrows := n.grows_registerTest (d.note (.testing state current.round n.id)) state round
      dsimp only
      split
      · next hreg =>
        rw [hreg] at hgrows
        exact hgrows
      · next hreg =>
        rw [hreg] at hgrows
        exact hgrows.trans (ih _)

/-- An evaluation makes the graph grow, however far it comes. -/
theorem grows_predict (s : FederatedAveraging) (d : Draft) (testNodes : List TestNode)
    (trainNodes : List TrainNode) (round : Round) :
    d.graph.Grows (s.predict d testNodes trainNodes round).state.1.graph := by
  unfold predict
  cases s.current? with
  | none => exact .refl _
  | some current => exact grows_testAll current trainNodes round d testNodes

end FederatedAveraging

/-! ## From operations to tasks -/

namespace Graph

variable {g : Graph}

/-- An input of an operation comes from an operation of its kind in front of it. -/
theorem WellFormed.producer (h : g.WellFormed) {id : OperationId} {op : Operation}
    (hop : g.get? id = some op) {input : OperationInput} (hi : input ∈ op.inputs) :
    input.producer.index < id.index ∧ g.Produces input.producerKind input.producer := by
  have hmem : op ∈ g.toList := List.mem_of_getElem? (g.get?_eq_getElem? id ▸ hop)
  exact h.numbered.id_of_get? hop ▸ producer_of_valid h.valid hmem hi

end Graph

namespace Task

variable {g : Graph}

theorem exists_keyOf (user : OperationId) {k : OperationKind} {id : OperationId}
    (h : g.Produces k id) : ∃ key, keyOf g user id = .ok key := by
  obtain ⟨op, hop, -⟩ := h
  exact ⟨op.key, (keyOf_eq_ok_iff g user id op.key).mpr ⟨op, hop, rfl⟩⟩

theorem exists_keysOf (user : OperationId) {ids : List OperationId}
    (h : ∀ id ∈ ids, ∃ k, g.Produces k id) : ∃ keys, keysOf g user ids = .ok keys := by
  induction ids with
  | nil => exact ⟨[], rfl⟩
  | cons id rest ih =>
    obtain ⟨k, hk⟩ := h id (List.mem_cons_self ..)
    obtain ⟨key, hkey⟩ := exists_keyOf user hk
    obtain ⟨keys, hkeys⟩ := ih fun id' hid => h id' (List.mem_cons_of_mem _ hid)
    exact ⟨key :: keys, by simp only [keysOf, hkey, hkeys]⟩

theorem exists_startsOf (user : OperationId) {inputs : List OperationInput}
    (start shared : Option TaskKey)
    (h : ∀ input ∈ inputs, g.Produces input.producerKind input.producer) :
    ∃ starts, startsOf g user start shared inputs = .ok starts := by
  induction inputs generalizing start shared with
  | nil => exact ⟨_, rfl⟩
  | cons input rest ih =>
    have hrest : ∀ input ∈ rest, g.Produces input.producerKind input.producer :=
      fun i hi => h i (List.mem_cons_of_mem _ hi)
    obtain ⟨key, hkey⟩ := exists_keyOf user (h input (List.mem_cons_self ..))
    cases input with
    | localState s =>
      obtain ⟨starts, hstarts⟩ := ih (some key) shared hrest
      exact ⟨starts, by simpa only [startsOf, show keyOf g user s.producer = .ok key from hkey]⟩
    | sharedState s =>
      obtain ⟨starts, hstarts⟩ := ih start (some key) hrest
      exact ⟨starts, by simpa only [startsOf, show keyOf g user s.producer = .ok key from hkey]⟩
    | payload p => exact ih start shared hrest

/-- An operation that is fit for its kind has a task, if the graph produces what it consumes. -/
theorem exists_ofOperation {op : Operation} (hs : op.Shaped)
    (h : ∀ input ∈ op.inputs, g.Produces input.producerKind input.producer) :
    ∃ t, ofOperation op g = .ok t := by
  unfold Operation.Shaped at hs
  unfold ofOperation
  cases hp : op.payload with
  | train algorithm dataset samples =>
    obtain ⟨starts, hstarts⟩ := exists_startsOf op.id none none h
    exact ⟨_, by rw [hstarts]⟩
  | aggregate function =>
    have hparents : ∀ id ∈ op.parents, ∃ k, g.Produces k id := fun id hid => by
      obtain ⟨input, hi, rfl⟩ := List.mem_map.mp hid
      exact ⟨_, h input hi⟩
    obtain ⟨keys, hkeys⟩ := exists_keysOf op.id hparents
    exact ⟨_, by rw [hkeys]⟩
  | test dataset samples metrics =>
    simp only [hp] at hs
    obtain ⟨state, hinputs⟩ := hs
    obtain ⟨key, hkey⟩ := exists_keyOf op.id
      (h (.localState state) (hinputs ▸ List.mem_singleton_self _))
    have hkey : keyOf g op.id state.producer = .ok key := hkey
    simp only [hinputs, firstLocal?, hkey]
    exact ⟨_, rfl⟩

end Task

/-! ## All graphs -/

/-- A call that registers operations. Its nodes, its strategy and its references are arbitrary: the
references may be stale, repeated or of another graph, and the strategy may remember any rounds. -/
inductive Construction
  | train (node : TrainNode) (algorithm : Algorithm) (round : Round)
    (shared : Option SharedStateRef) (start : Option LocalStateRef)
  | test (node : TestNode) (state : LocalStateRef) (round : Round)
  | aggregate (node : AggregationNode) (function : AggregationFunction)
    (payloads : List SharedPayload) (round : Round)
  | performRound (strategy : FederatedAveraging) (trainNodes : List TrainNode)
    (aggregator : Option AggregationNode) (round : Round)
  | predict (strategy : FederatedAveraging) (testNodes : List TestNode)
    (trainNodes : List TrainNode) (round : Round)

namespace Construction

/-- The draft that a call leaves behind, whether or not it succeeds. -/
def run (d : Draft) : Construction → Draft
  | .train node algorithm round shared start =>
    (node.registerTrain d algorithm round shared start).state.1
  | .test node state round => (node.registerTest d state round).state.1
  | .aggregate node function payloads round =>
    (node.registerAggregate d function payloads round).state.1
  | .performRound strategy trainNodes aggregator round =>
    (strategy.performRound ⟨d, trainNodes, aggregator⟩ round).state.2.draft
  | .predict strategy testNodes trainNodes round =>
    (strategy.predict d testNodes trainNodes round).state.1

theorem grows_run (c : Construction) (d : Draft) : d.graph.Grows (c.run d).graph := by
  cases c with
  | train node algorithm round shared start =>
    exact node.grows_registerTrain d algorithm round shared start
  | test node state round => exact node.grows_registerTest d state round
  | aggregate node function payloads round =>
    exact node.grows_registerAggregate d function payloads round
  | performRound strategy trainNodes aggregator round =>
    exact strategy.grows_performRound ⟨d, trainNodes, aggregator⟩ round
  | predict strategy testNodes trainNodes round =>
    exact strategy.grows_predict d testNodes trainNodes round

end Construction

namespace Graph

/-- The graph after a call, for which the recorder draws the keys. -/
def call (g : Graph) (r : Recorder) (c : Construction) : Graph :=
  (c.run ⟨g, r⟩).graph

/-- The graph after any number of calls. In between the recorders may serve other graphs. -/
def after (g : Graph) (history : List (Recorder × Construction)) : Graph :=
  history.foldl (fun g c => g.call c.1 c.2) g

theorem grows_after (g : Graph) (history : List (Recorder × Construction)) :
    g.Grows (g.after history) := by
  induction history generalizing g with
  | nil => exact .refl _
  | cons c rest ih => exact (c.2.grows_run ⟨g, c.1⟩).trans (ih (g.call c.1 c.2))

/-- **Every graph is in order, and only ever grows.** Call whatever registers operations, any number
of times and with anything, and let it succeed or fail. Then the operations are numbered by their
positions and are fit for their kinds, and each consumes what operations in front of it produce, of
the kinds that produce such results; so nothing is wrong with the graph, and each operation has a
task. Further calls add operations at the end, and leave everything else where and as it is. -/
theorem constructed_in_order (history : List (Recorder × Construction)) :
    let g := empty.after history
    (∀ id op, g.get? id = some op →
      op.id = id ∧ op.Shaped ∧
      (∀ input ∈ op.inputs,
        input.producer.index < id.index ∧ g.Produces input.producerKind input.producer) ∧
      ∃ t, Task.ofOperation op g = .ok t) ∧
    g.invalid? = none ∧
    ∀ more, ∃ ops, (g.after more).toList = g.toList ++ ops := by
  intro g
  have hg : g.WellFormed := wellFormed_empty.grows (empty.grows_after history)
  refine ⟨fun id op hop => ?_, hg.valid, fun more => (g.grows_after more).exists_append⟩
  have hmem : op ∈ g.toList := List.mem_of_getElem? (g.get?_eq_getElem? id ▸ hop)
  have hshaped := hg.shaped op hmem
  have hproducer : ∀ input ∈ op.inputs,
      input.producer.index < id.index ∧ g.Produces input.producerKind input.producer :=
    fun input hi => hg.producer hop hi
  exact ⟨hg.numbered.id_of_get? hop, hshaped, hproducer,
    Task.exists_ofOperation hshaped fun input hi => (hproducer input hi).2⟩

end Graph

end Federation
