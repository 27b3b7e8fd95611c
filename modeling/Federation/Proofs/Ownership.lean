import Mathlib.Logic.Function.Basic
import Federation.Proofs.Registration

/-!
# Whose local states are consumed

A local state may only be consumed on the node that learned it. A reference to a local state names
its node and the position of a training, and a registration compares the node only; the graph in
which the position is meant is not part of a reference. So the rule holds for the references that
belong to the graph they are used in, and for no others.

Several graphs are kept side by side, and any operations are registered on them in any order, with
any references. The invariant (`Registry.Owned`) says that the references that were given out for a
graph are exactly those to its trainings, and that operations are where their references say.

* `Registry.step_cases`: a registration adds one operation to one graph, or has no effect;
* `Registry.Owned.adds`, `Registry.owned_after`: what one registration keeps, and what all keep;
* `Registry.consumes_own_state_iff`: an operation consumes the state of its own node exactly when
  the reference was given out for its graph.
-/

namespace Federation

/-- Graphs side by side, with the references to local states that were given out for each. -/
structure Registry where
  graphs : Nat → Graph
  recorder : Recorder
  /-- The references so far, each with the number of its graph. -/
  issued : List (Nat × LocalStateRef)

namespace Registry

/-- Empty graphs, and no references. -/
def empty : Registry :=
  ⟨fun _ => .empty, .new, []⟩

/-- An operation to register on a node, in the graph with the given number. -/
inductive Call
  | train (graph : Nat) (node : TrainNode) (algorithm : Algorithm) (round : Round)
    (shared : Option SharedStateRef) (start : Option LocalStateRef)
  | test (graph : Nat) (node : TestNode) (state : LocalStateRef) (round : Round)
  | aggregate (graph : Nat) (node : AggregationNode) (function : AggregationFunction)
    (payloads : List SharedPayload) (round : Round)

/-- A graph as a draft. -/
def draft (s : Registry) (graph : Nat) : Draft :=
  ⟨s.graphs graph, s.recorder⟩

/-- Puts the draft that a registration leaves behind in the place of a graph, and gives out the
references to local states that come of it. -/
def put {ν ρ : Type} (s : Registry) (graph : Nat) (states : ρ → List LocalStateRef)
    (a : Attempt (Draft × ν) NodeError ρ) : Registry where
  graphs := Function.update s.graphs graph a.state.1.graph
  recorder := a.state.1.recorder
  issued := s.issued ++ ((a.outcome.toOption.map states).getD []).map (graph, ·)

/-- The registry after one registration. -/
def step (s : Registry) : Call → Registry
  | .train graph node algorithm round shared start =>
    s.put graph (fun t => [t.state])
      (node.registerTrain (s.draft graph) algorithm round shared start)
  | .test graph node state round =>
    s.put graph (fun _ => []) (node.registerTest (s.draft graph) state round)
  | .aggregate graph node function payloads round =>
    s.put graph (fun _ => []) (node.registerAggregate (s.draft graph) function payloads round)

/-- The registry after any number of registrations. -/
def after (s : Registry) (history : List Call) : Registry :=
  history.foldl step s

/-! ## One registration -/

/-- The references that are given out when an operation is added at a position. -/
def states (id : OperationId) (op : Operation) : List LocalStateRef :=
  if op.kind = .train then [⟨id, op.node⟩] else []

/-- An operation was added to a graph. It consumes what the graph produces, and local states that
name its node; if it is a training, a reference was given out. -/
structure Adds (s : Registry) (graph : Nat) (op : Operation) (s' : Registry) : Prop where
  graph_eq : s'.graphs graph = (s.graphs graph).append op
  frame : ∀ g, g ≠ graph → s'.graphs g = s.graphs g
  issued : s'.issued = s.issued ++ (states ⟨(s.graphs graph).size⟩ op).map (graph, ·)
  produced : ∀ input ∈ op.inputs, (s.graphs graph).Produces input.producerKind input.producer
  own : ∀ r, .localState r ∈ op.inputs → op.node = r.node

variable {s s' : Registry} {graph : Nat} {op : Operation}

/-- A registration that leaves its draft as it was has no effect. -/
theorem put_error {ν ρ : Type} (s : Registry) (graph : Nat) (states : ρ → List LocalStateRef)
    (n : ν) (e : NodeError) : s.put graph states ⟨(s.draft graph, n), .error e⟩ = s := by
  simp [put, draft, Except.toOption]

theorem adds_put {ν ρ : Type} {node : ParticipantId} {round : Round}
    {inputs : List OperationInput} {payload : OperationPayload} (n : ν) {result : ρ}
    {references : ρ → List LocalStateRef}
    (produced : ∀ input ∈ inputs,
      (s.graphs graph).Produces input.producerKind input.producer)
    (own : ∀ r, .localState r ∈ inputs → node = r.node)
    (issued : references result =
      states ⟨(s.graphs graph).size⟩ ((s.draft graph).next node round inputs payload)) :
    let op := (s.draft graph).next node round inputs payload
    s.Adds graph op (s.put graph references ⟨((s.draft graph).append op, n), .ok result⟩) where
  graph_eq := Function.update_self ..
  frame g hg := Function.update_of_ne hg ..
  issued := by simp [put, Except.toOption, issued]
  produced := produced
  own := own

/-- A registration adds one operation to one graph, or has no effect. -/
theorem step_cases (s : Registry) (c : Call) :
    s.step c = s ∨ ∃ graph op, s.Adds graph op (s.step c) := by
  cases c with
  | train graph node algorithm round shared start =>
    rw [step]
    rcases node.registerTrain_cases (s.draft graph) algorithm round shared start with
      ⟨e, hreg⟩ | ⟨hscope, hproduced, hreg⟩
    · rw [hreg]
      exact .inl (s.put_error ..)
    · rw [hreg]
      refine .inr ⟨graph, _, adds_put _ hproduced (fun r hr => ?_) rfl⟩
      rcases List.mem_append.mp hr with hr | hr
      · obtain ⟨r', hr', heq⟩ := List.mem_map.mp (Option.toList_map .. ▸ hr)
        obtain rfl := OperationInput.localState.inj heq
        exact hscope r' (Option.mem_toList.mp hr')
      · simp at hr
  | test graph node state round =>
    rw [step]
    rcases node.registerTest_cases (s.draft graph) state round with
      ⟨e, hreg⟩ | ⟨hscope, hproduced, hreg⟩
    · rw [hreg]
      exact .inl (s.put_error ..)
    · rw [hreg]
      refine .inr ⟨graph, _, adds_put _ hproduced (fun r hr => ?_) rfl⟩
      obtain rfl := OperationInput.localState.inj (List.mem_singleton.mp hr)
      exact hscope
  | aggregate graph node function payloads round =>
    rw [step]
    rcases node.registerAggregate_cases (s.draft graph) function payloads round with
      ⟨e, hreg⟩ | ⟨-, hproduced, hreg⟩
    · rw [hreg]
      exact .inl (s.put_error ..)
    · rw [hreg]
      exact .inr ⟨graph, _, adds_put _ hproduced (fun r hr => by simp at hr) rfl⟩

/-! ## The invariant -/

/-- The references that were given out for a graph are those to its trainings, and an operation runs
on the node that its references name. -/
structure Owned (s : Registry) : Prop where
  issued : ∀ g r, (g, r) ∈ s.issued ↔
    ∃ op, (s.graphs g).get? r.producer = some op ∧ op.kind = .train ∧ op.node = r.node
  own : ∀ g, ∀ op ∈ (s.graphs g).toList, ∀ r, .localState r ∈ op.inputs → op.node = r.node
  produced : ∀ g, ∀ op ∈ (s.graphs g).toList, ∀ r, .localState r ∈ op.inputs →
    (s.graphs g).Produces .train r.producer

theorem owned_empty : empty.Owned where
  issued g r := by simp [empty, Graph.get?, Graph.empty]
  own g op hop := by simp [empty, Graph.toList, Graph.empty] at hop
  produced g op hop := by simp [empty, Graph.toList, Graph.empty] at hop

/-- What is found in a graph after an operation was added. -/
theorem get?_append_eq_some_iff (g : Graph) (op : Operation) (id : OperationId) (o : Operation) :
    (g.append op).get? id = some o ↔ g.get? id = some o ∨ id = ⟨g.size⟩ ∧ o = op := by
  obtain ⟨i⟩ := id
  constructor
  · intro h
    rcases Nat.lt_trichotomy i g.size with hi | rfl | hi
    · exact .inl ((g.get?_append_of_lt op hi).symm.trans h)
    · rw [g.get?_append_size] at h
      exact .inr ⟨rfl, (Option.some.inj h).symm⟩
    · have hlt : i < (g.append op).size := Graph.index_lt_of_get? h
      rw [g.size_append] at hlt
      omega
  · rintro (h | ⟨hid, rfl⟩)
    · exact (g.get?_append_of_lt op (Graph.index_lt_of_get? h)).trans h
    · rw [hid]
      exact g.get?_append_size o

namespace Adds

theorem get?_eq_some_iff (ha : s.Adds graph op s') {g : Nat} {id : OperationId} {o : Operation} :
    (s'.graphs g).get? id = some o ↔ (s.graphs g).get? id = some o ∨
      g = graph ∧ id = ⟨(s.graphs graph).size⟩ ∧ o = op := by
  by_cases hg : g = graph
  · subst hg
    simp [ha.graph_eq, get?_append_eq_some_iff]
  · simp [ha.frame g hg, hg]

theorem mem_iff (ha : s.Adds graph op s') {g : Nat} {o : Operation} :
    o ∈ (s'.graphs g).toList ↔ o ∈ (s.graphs g).toList ∨ g = graph ∧ o = op := by
  by_cases hg : g = graph
  · subst hg
    simp [ha.graph_eq, Graph.toList_append]
  · simp [ha.frame g hg, hg]

theorem mem_issued_iff (ha : s.Adds graph op s') {g : Nat} {r : LocalStateRef} :
    (g, r) ∈ s'.issued ↔ (g, r) ∈ s.issued ∨
      g = graph ∧ op.kind = .train ∧ r = ⟨⟨(s.graphs graph).size⟩, op.node⟩ := by
  rw [ha.issued, List.mem_append]
  refine or_congr_right ?_
  unfold states
  split
  · simp [*]
  · simp [*]

/-- What a graph produces, it still produces after an operation was added to some graph. -/
theorem produces (ha : s.Adds graph op s') {g : Nat} {k : OperationKind} {id : OperationId}
    (h : (s.graphs g).Produces k id) : (s'.graphs g).Produces k id := by
  obtain ⟨o, ho, hk⟩ := h
  exact ⟨o, ha.get?_eq_some_iff.mpr (.inl ho), hk⟩

end Adds

/-- An operation that is added keeps the invariant. -/
theorem Owned.adds (h : s.Owned) (ha : s.Adds graph op s') : s'.Owned where
  issued g r := by
    rw [ha.mem_issued_iff, h.issued]
    simp only [ha.get?_eq_some_iff]
    constructor
    · rintro (⟨o, ho, hkind, hnode⟩ | ⟨rfl, hkind, rfl⟩)
      · exact ⟨o, .inl ho, hkind, hnode⟩
      · exact ⟨op, .inr ⟨rfl, rfl, rfl⟩, hkind, rfl⟩
    · rintro ⟨o, ho | ⟨rfl, hid, rfl⟩, hkind, hnode⟩
      · exact .inl ⟨o, ho, hkind, hnode⟩
      · exact .inr ⟨rfl, hkind, by rw [hnode, ← hid]⟩
  own g o ho r hr := by
    rcases ha.mem_iff.mp ho with ho | ⟨-, rfl⟩
    · exact h.own g o ho r hr
    · exact ha.own r hr
  produced g o ho r hr := by
    rcases ha.mem_iff.mp ho with ho | ⟨rfl, rfl⟩
    · exact ha.produces (h.produced g o ho r hr)
    · exact ha.produces (ha.produced _ hr)

theorem Owned.step (h : s.Owned) (c : Call) : (s.step c).Owned := by
  rcases s.step_cases c with hsame | ⟨graph, op, ha⟩
  · rw [hsame]
    exact h
  · exact h.adds ha

theorem owned_after (h : s.Owned) (history : List Call) : (s.after history).Owned := by
  induction history generalizing s with
  | nil => exact h
  | cons c rest ih => exact ih (h.step c)

/-! ## Whose states are consumed -/

/-- **When an operation consumes the state of its own node.** However operations were registered in
whatever graphs, an operation that consumes a local state runs on the node that the reference names,
and what it consumes is the state of a training of its graph. That training runs on the same node
exactly when the reference was given out for this graph. -/
theorem consumes_own_state_iff (history : List Call) (g : Nat) {op : Operation}
    (hop : op ∈ ((empty.after history).graphs g).toList) {r : LocalStateRef}
    (hr : .localState r ∈ op.inputs) :
    let s := empty.after history
    op.node = r.node ∧ ∃ producer, (s.graphs g).get? r.producer = some producer ∧
      producer.kind = .train ∧ (producer.node = op.node ↔ (g, r) ∈ s.issued) := by
  intro s
  have h : s.Owned := owned_after owned_empty history
  have hnode := h.own g op hop r hr
  obtain ⟨producer, hproducer, hkind⟩ := h.produced g op hop r hr
  refine ⟨hnode, producer, hproducer, hkind, ?_⟩
  rw [h.issued, hnode]
  constructor
  · exact fun hsame => ⟨producer, hproducer, hkind, hsame⟩
  · rintro ⟨producer', hproducer', -, hsame⟩
    obtain rfl : producer = producer' := Option.some.inj (hproducer.symm.trans hproducer')
    exact hsame

/-- A node that trains twice in one graph starts from what it learned itself. -/
theorem consumes_own_state_of_one_graph :
    let node : TrainNode := .new ⟨"first"⟩ default []
    let r : LocalStateRef := ⟨⟨0⟩, ⟨"first"⟩⟩
    let history := [.train 0 node default 0 none none, .train 0 node default 1 none (some r)]
    let s := empty.after history
    (0, r) ∈ s.issued ∧ ∃ op, (s.graphs 0).get? ⟨1⟩ = some op ∧ .localState r ∈ op.inputs ∧
      ∃ producer, (s.graphs 0).get? r.producer = some producer ∧ producer.node = op.node := by
  intro node r history s
  have hissued : (0, r) ∈ s.issued := by decide
  have hop : (s.graphs 0).get? ⟨1⟩ = some _ := rfl
  have hmem := List.mem_of_getElem? ((Graph.get?_eq_getElem? _ _).symm.trans hop)
  have hr := List.mem_singleton_self (OperationInput.localState r)
  obtain ⟨-, producer, hproducer, -, hiff⟩ := consumes_own_state_iff history 0 hmem hr
  exact ⟨hissued, _, hop, hr, producer, hproducer, hiff.mpr hissued⟩

/-- A node starts from what it learned in another graph: at that position of this graph, another
node has trained. -/
theorem consumes_foreign_state :
    let first : TrainNode := .new ⟨"first"⟩ default []
    let second : TrainNode := .new ⟨"second"⟩ default []
    let before := empty.after [.train 0 first default 0 none none,
      .train 1 second default 0 none none]
    let r : LocalStateRef := ⟨⟨0⟩, ⟨"first"⟩⟩
    let s := before.step (.train 1 first default 1 none (some r))
    (0, r) ∈ before.issued ∧ ∃ op, (s.graphs 1).get? ⟨1⟩ = some op ∧ .localState r ∈ op.inputs ∧
      ∃ producer, (s.graphs 1).get? r.producer = some producer ∧ producer.node ≠ op.node :=
  ⟨by decide, _, rfl, List.mem_singleton_self _, _, rfl, by decide⟩

end Registry

end Federation
