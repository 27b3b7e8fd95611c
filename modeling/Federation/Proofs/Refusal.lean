import Federation.Proofs.First
import Federation.Proofs.Registration

/-!
# Registrations that are refused

The three kinds of registrations look at the same things in the same order. First the node may
object: to a local state of another node, or to an aggregation of nothing. Then the graph has to
produce the inputs. If there is nothing to refuse, one operation joins the graph and the queue of
the node; otherwise nothing happens at all.

* `Graph.Lacks`: what is said of an input that a graph does not produce;
* `Graph.firstFault?_size_eq_some_iff`: a fault is found at the first such input;
* `AllOrNothing`: the two ways a registration ends, and what it leaves behind;
* `Draft.allOrNothing_register`: what the three kinds have in common;
* `registration_all_or_nothing`: every registration ends in one of them.
-/

namespace Federation

/-! ## Inputs that are not produced -/

namespace Graph

/-- What is said of an input that a graph does not produce. Either there is no operation at all
where the input should come from, or the operation is of another kind. -/
inductive Lacks (g : Graph) (input : OperationInput) : GraphError → Prop
  | unknown (h : g.get? input.producer = none) :
    g.Lacks input (.forwardReference ⟨g.size⟩ input.producer)
  | otherKind {op : Operation} (h : g.get? input.producer = some op)
    (hk : op.kind ≠ input.producerKind) :
    g.Lacks input (.kindMismatch input.producer input.producerKind op.kind)

theorem get?_eq_none_of_le {g : Graph} {id : OperationId} (h : g.size ≤ id.index) :
    g.get? id = none := by
  rw [get?_eq_getElem?, List.getElem?_eq_none_iff, length_toList]
  exact h

/-- Of an operation that comes next, an input has a fault when the graph does not produce it. -/
theorem fault?_size_eq_some_iff (g : Graph) (input : OperationInput) (e : GraphError) :
    g.fault? ⟨g.size⟩ input = some e ↔ g.Lacks input e := by
  unfold fault?
  constructor
  · intro h
    dsimp only at h
    split at h
    · next hle =>
      obtain rfl := Option.some.inj h
      exact .unknown (get?_eq_none_of_le hle)
    · split at h
      · next hnone =>
        obtain rfl := Option.some.inj h
        exact .unknown hnone
      · next op hop =>
        split at h
        · cases h
        · next hk =>
          obtain rfl := Option.some.inj h
          exact .otherKind hop hk
  · rintro (hnone | ⟨hop, hk⟩)
    · simp [hnone]
    · have hlt := index_lt_of_get? hop
      simp [hop, hk, Nat.not_le.mpr hlt]

theorem fault?_size_ne_none_iff (g : Graph) (input : OperationInput) :
    g.fault? ⟨g.size⟩ input ≠ none ↔ ¬ g.Produces input.producerKind input.producer := by
  have h := g.firstFault?_size_eq_none_iff [input]
  simp only [firstFault?, List.findSome?_singleton, List.mem_singleton, forall_eq] at h
  exact not_congr h

/-- Of several inputs, the fault that is found is that of the first one that the graph does not
produce. -/
theorem firstFault?_size_eq_some_iff (g : Graph) (inputs : List OperationInput) (e : GraphError) :
    g.firstFault? ⟨g.size⟩ inputs = some e ↔
      ∃ input, IsFirst (fun i => ¬ g.Produces i.producerKind i.producer) inputs input ∧
        g.Lacks input e := by
  unfold firstFault?
  simp only [IsFirst.findSome?_eq_some_iff, fault?_size_ne_none_iff, fault?_size_eq_some_iff]

end Graph

/-! ## All or nothing -/

/-- Why an operation is refused: the node objects; or it does not, but there is an input that the
graph does not produce, and this one is the first. -/
inductive Refused (g : Graph) (objects : NodeError → Prop) (inputs : List OperationInput) :
    NodeError → Prop
  | node {e : NodeError} (h : objects e) : Refused g objects inputs e
  | graph {input : OperationInput} {e : GraphError} (h : ∀ e, ¬ objects e)
    (first : IsFirst (fun i => ¬ g.Produces i.producerKind i.producer) inputs input)
    (lacks : g.Lacks input e) : Refused g objects inputs (.graph e)

theorem refused_iff {g : Graph} {objects : NodeError → Prop} {inputs : List OperationInput}
    {e : NodeError} :
    Refused g objects inputs e ↔ objects e ∨ (∀ e, ¬ objects e) ∧ ∃ err,
      (∃ input, IsFirst (fun i => ¬ g.Produces i.producerKind i.producer) inputs input ∧
        g.Lacks input err) ∧ e = .graph err := by
  constructor
  · rintro (h | ⟨hnone, hfirst, hlacks⟩)
    · exact .inl h
    · exact .inr ⟨hnone, _, ⟨_, hfirst, hlacks⟩, rfl⟩
  · rintro (h | ⟨hnone, err, ⟨input, hfirst, hlacks⟩, rfl⟩)
    · exact .node h
    · exact .graph hnone hfirst hlacks

/-- An attempt to register an operation on a node is all or nothing. It fails exactly when it is
refused, and then the draft and the node are what they were. Otherwise the operation is added at the
end of the graph, and the node and the result are as given. -/
structure AllOrNothing {ν ρ : Type} (d : Draft) (n : ν) (objects : NodeError → Prop)
    (op : Operation) (queued : ν) (result : ρ) (a : Attempt (Draft × ν) NodeError ρ) : Prop where
  error_iff : ∀ e, a.outcome = .error e ↔ Refused d.graph objects op.inputs e
  unchanged : ∀ e, a.outcome = .error e → a.state = (d, n)
  added : ∀ r, a.outcome = .ok r → a.state = (d.append op, queued) ∧ r = result

section Register

variable {ν ρ : Type} (d : Draft) (n : ν) (objection : Option NodeError) (node : ParticipantId)
  (round : Round) (inputs : List OperationInput) (payload : OperationPayload)
  (queue : OperationId → ν) (result : OperationId → ρ)

/-- A registration fails with what the node objects to, and else with the fault of the inputs. -/
theorem Draft.register_eq_error_iff (e : NodeError) :
    (d.register n objection node round inputs payload queue result).outcome = .error e ↔
      objection = some e ∨
        objection = none ∧ ∃ err, d.graph.firstFault? ⟨d.graph.size⟩ inputs = some err ∧
          e = .graph err := by
  cases objection with
  | some err => simp [register]
  | none =>
    cases hfault : d.graph.firstFault? ⟨d.graph.size⟩ inputs with
    | some err => simp [register, push_of_fault hfault, eq_comm]
    | none => simp [register, push_of_sound hfault]

variable {objection} {objects : NodeError → Prop} (hobjects : ∀ e, objection = some e ↔ objects e)
include hobjects

/-- A registration fails exactly when it is refused. -/
theorem Draft.register_eq_error_iff_refused (e : NodeError) :
    (d.register n objection node round inputs payload queue result).outcome = .error e ↔
      Refused d.graph objects inputs e := by
  have hnone : objection = none ↔ ∀ e, ¬ objects e := by
    simp only [Option.eq_none_iff_forall_ne_some, Ne, hobjects]
  rw [register_eq_error_iff, refused_iff, hobjects, hnone]
  simp only [Graph.firstFault?_size_eq_some_iff]

theorem Draft.allOrNothing_register :
    AllOrNothing d n objects (d.next node round inputs payload) (queue ⟨d.graph.size⟩)
      (result ⟨d.graph.size⟩)
      (d.register n objection node round inputs payload queue result) := by
  refine ⟨d.register_eq_error_iff_refused n node round inputs payload queue result hobjects,
    fun e he => ?_, fun r hr => ?_⟩
  all_goals
    rcases d.register_cases n objection node round inputs payload queue result with
      ⟨e', h⟩ | ⟨-, -, h⟩
  · rw [h]
  · rw [h] at he
    cases he
  · rw [h] at hr
    cases hr
  · rw [h] at hr ⊢
    exact ⟨rfl, (Except.ok.inj hr).symm⟩

end Register

/-! ## The three kinds of registrations -/

/-- A node that trains objects to starting from the local state of another node. -/
def TrainNode.Objects (n : TrainNode) (start : Option LocalStateRef) (e : NodeError) : Prop :=
  ∃ state, start = some state ∧ n.id ≠ state.node ∧ e = .scopeViolation n.id state.node

/-- A node that tests objects to the local state of another node. -/
def TestNode.Objects (n : TestNode) (state : LocalStateRef) (e : NodeError) : Prop :=
  n.id ≠ state.node ∧ e = .scopeViolation n.id state.node

/-- A node that aggregates objects when there is nothing to aggregate. -/
def AggregationNode.Objects (payloads : List SharedPayload) (e : NodeError) : Prop :=
  payloads = [] ∧ e = .emptyAggregationInput

theorem scopeFault?_eq_some_iff (node : ParticipantId) (state : LocalStateRef) (e : NodeError) :
    scopeFault? node state = some e ↔ node ≠ state.node ∧ e = .scopeViolation node state.node := by
  unfold scopeFault?
  split
  · simp [*]
  · simp [*, eq_comm]

theorem TrainNode.allOrNothing_registerTrain (n : TrainNode) (d : Draft) (algorithm : Algorithm)
    (round : Round) (shared : Option SharedStateRef) (start : Option LocalStateRef) :
    AllOrNothing d n (n.Objects start)
      (d.next n.id round (trainInputs start shared) (.train algorithm n.dataset n.samples))
      (n.queue ⟨d.graph.size⟩) (n.trained ⟨d.graph.size⟩)
      (n.registerTrain d algorithm round shared start) := by
  have hobjects : ∀ e, start.bind (scopeFault? n.id) = some e ↔ n.Objects start e := fun e => by
    rw [Option.bind_eq_some_iff]
    exact exists_congr fun state => and_congr_right fun _ => scopeFault?_eq_some_iff n.id state e
  exact d.allOrNothing_register n n.id round (trainInputs start shared)
    (.train algorithm n.dataset n.samples) n.queue n.trained hobjects

theorem TestNode.allOrNothing_registerTest (n : TestNode) (d : Draft) (state : LocalStateRef)
    (round : Round) :
    AllOrNothing d n (n.Objects state)
      (d.next n.id round [.localState state] (.test n.dataset n.samples n.metrics))
      (n.queue ⟨d.graph.size⟩) (⟨d.graph.size⟩ : OperationId)
      (n.registerTest d state round) :=
  d.allOrNothing_register n n.id round [.localState state]
    (.test n.dataset n.samples n.metrics) n.queue (fun i => i) (scopeFault?_eq_some_iff n.id state)

theorem AggregationNode.allOrNothing_registerAggregate (n : AggregationNode) (d : Draft)
    (function : AggregationFunction) (payloads : List SharedPayload) (round : Round) :
    AllOrNothing d n (Objects payloads)
      (d.next n.id round (payloads.map .payload) (.aggregate function))
      (n.queue ⟨d.graph.size⟩) (⟨⟨d.graph.size⟩⟩ : SharedStateRef)
      (n.registerAggregate d function payloads round) := by
  have hobjects : ∀ e, emptyFault? payloads = some e ↔ Objects payloads e := fun e => by
    cases payloads <;> simp [emptyFault?, Objects, eq_comm]
  exact d.allOrNothing_register n n.id round (payloads.map .payload)
    (.aggregate function) n.queue SharedStateRef.mk hobjects

/-- **Registrations are all or nothing.** Whatever the graph, the node and the references, a
registration either is refused and changes neither the draft nor the node, or it adds one operation
at the end of the graph and its position at the end of the node's queue. The operation runs on the
node in the given round and consumes what was given, in order; what is given back names it and its
node. A training or a test is refused when its local state belongs to another node, an aggregation
when it has no payloads; and else it is refused for the first input that no operation of the right
kind in the graph produces. -/
theorem registration_all_or_nothing (d : Draft) (round : Round) :
    (∀ (n : TrainNode) (algorithm : Algorithm) (shared : Option SharedStateRef)
      (start : Option LocalStateRef),
      AllOrNothing d n (n.Objects start)
        (d.next n.id round (TrainNode.trainInputs start shared)
          (.train algorithm n.dataset n.samples))
        (n.queue ⟨d.graph.size⟩)
        ⟨⟨⟨d.graph.size⟩, n.id⟩, ⟨⟨d.graph.size⟩, n.id⟩⟩
        (n.registerTrain d algorithm round shared start)) ∧
    (∀ (n : TestNode) (state : LocalStateRef),
      AllOrNothing d n (n.Objects state)
        (d.next n.id round [.localState state] (.test n.dataset n.samples n.metrics))
        (n.queue ⟨d.graph.size⟩)
        ⟨d.graph.size⟩
        (n.registerTest d state round)) ∧
    ∀ (n : AggregationNode) (function : AggregationFunction) (payloads : List SharedPayload),
      AllOrNothing d n (AggregationNode.Objects payloads)
        (d.next n.id round (payloads.map .payload) (.aggregate function))
        (n.queue ⟨d.graph.size⟩)
        ⟨⟨d.graph.size⟩⟩
        (n.registerAggregate d function payloads round) :=
  ⟨fun n algorithm shared start => n.allOrNothing_registerTrain d algorithm round shared start,
    fun n state => n.allOrNothing_registerTest d state round,
    fun n function payloads => n.allOrNothing_registerAggregate d function payloads round⟩

/-- A node does not notice that an operation is missing as long as the local state is not its own.
-/
example : ((TrainNode.new ⟨"first"⟩ default []).registerTrain ⟨.empty, .new⟩ default 1 none
    (some ⟨⟨3⟩, ⟨"second"⟩⟩)).outcome = .error (.scopeViolation ⟨"first"⟩ ⟨"second"⟩) := rfl

end Federation
