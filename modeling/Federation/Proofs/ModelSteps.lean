import Federation.Proofs.Compiling

/-!
# The steps that change the models

Among the operations of a graph, those that train and those that aggregate change the models, and
those that test do not. Tests stand between the others, so that they move their positions, but they
do not change what the others do: with their inputs numbered among themselves, the operations that
change the models are determined by the algorithm, the nodes that train, the node that aggregates
and the number of rounds.

* `Graph.modelSteps`: what the operations that change the models do, without the tests;
* `Graph.producer_mem_updates`: they only consume results of each other;
* `Blueprint.updateNumber_trainAt`, `Blueprint.updateNumber_aggregateAt`: their numbers, which do
  not depend on the tests;
* `Blueprint.modelSteps_eq`: what they do, in a graph that was built from a blueprint;
* `Blueprint.steps_congr`: the same for two blueprints that differ in their tests.
-/

namespace Federation

/-! ## Graphs without their tests -/

/-- The input with another number for its producer. -/
def OperationInput.renumber (number : OperationId → Nat) : OperationInput → OperationInput
  | .localState s => .localState { s with producer := ⟨number s.producer⟩ }
  | .sharedState s => .sharedState { s with producer := ⟨number s.producer⟩ }
  | .payload p => .payload { p with producer := ⟨number p.producer⟩ }

/-- What an operation does that changes the models. Inputs are numbered among such operations. -/
structure ModelStep where
  node : ParticipantId
  round : Round
  inputs : List OperationInput
  payload : OperationPayload

namespace Graph

/-- The operations that change the models, in order. -/
def updates (g : Graph) : List Operation :=
  g.toList.filter fun op => op.kind ≠ .test

/-- The number of an operation among those that change the models. -/
def updateNumber (g : Graph) (id : OperationId) : Nat :=
  g.updates.findIdx fun op => op.id = id

/-- What an operation of the graph does. -/
def modelStep (g : Graph) (op : Operation) : ModelStep :=
  ⟨op.node, op.round, op.inputs.map (·.renumber g.updateNumber), op.payload⟩

/-- What the operations that change the models do, in order. -/
def modelSteps (g : Graph) : List ModelStep :=
  g.updates.map g.modelStep

variable {g : Graph}

/-- In a valid graph, whatever is consumed was produced by an operation that changes the models. -/
theorem producer_mem_updates (hv : g.invalid? = none) {op : Operation} (hop : op ∈ g.toList)
    {input : OperationInput} (hi : input ∈ op.inputs) (hn : g.Numbered) :
    ∃ u ∈ g.updates, u.id = input.producer := by
  obtain ⟨-, u, hget, hkind⟩ :=
    (g.fault?_eq_none_iff _ _).mp (g.invalid?_eq_none_iff.mp hv op hop input hi)
  refine ⟨u, List.mem_filter.mpr ⟨?_, ?_⟩, hn.id_of_get? hget⟩
  · rw [get?_eq_getElem?] at hget
    exact List.mem_of_getElem? hget
  · rw [hkind]
    cases input <;> rfl

/-- Operations that are numbered by their positions have different positions. -/
theorem Numbered.nodup_updates (h : g.Numbered) : (g.updates.map Operation.id).Nodup := by
  have hnodup : (g.toList.map Operation.id).Nodup := by
    rw [h, positions]
    exact List.nodup_range.map fun i j hij => congrArg OperationId.index hij
  exact hnodup.sublist (List.filter_sublist.map _)

/-- The number of an operation is its place among those that change the models. -/
theorem Numbered.updateNumber_eq (h : g.Numbered) {i : Nat} {op : Operation}
    (hop : g.updates[i]? = some op) : g.updateNumber op.id = i := by
  obtain ⟨hi, rfl⟩ := List.getElem?_eq_some_iff.mp hop
  refine (List.findIdx_eq hi).mpr ⟨by simp, fun j hj => ?_⟩
  refine decide_eq_false fun heq => ?_
  have hi' : i < (g.updates.map Operation.id).length := by rwa [List.length_map]
  have hj' : j < (g.updates.map Operation.id).length := Nat.lt_trans hj hi'
  have hsame : (g.updates.map Operation.id)[j] = (g.updates.map Operation.id)[i] := by
    simpa using heq
  have hji := h.nodup_updates.getElem_inj_iff.mp hsame
  omega

end Graph

namespace Blueprint

variable (p : Blueprint)

/-! ## The places of the steps -/

/-- The operations of a number of rounds that change the models. -/
def updatesUpTo (rounds : Nat) : List Operation :=
  (List.range rounds).flatMap p.updates

theorem updatesUpTo_succ (r : Nat) : p.updatesUpTo (r + 1) = p.updatesUpTo r ++ p.updates r := by
  simp [updatesUpTo, List.range_succ]

/-- The other operations of a number of rounds are tests. -/
theorem filter_upTo (r : Nat) :
    (p.upTo r).filter (fun op => op.kind ≠ .test) = p.updatesUpTo r := by
  induction r with
  | zero => rfl
  | succ r ih =>
    have hupdates : (p.updates r).filter (fun op => op.kind ≠ .test) = p.updates r :=
      List.filter_eq_self.mpr fun op hop => decide_eq_true (p.kind_of_mem_updates hop)
    have htests : (p.tests r).filter (fun op => op.kind ≠ .test) = [] :=
      List.filter_eq_nil_iff.mpr fun op hop => by simp [p.kind_of_mem_tests hop]
    rw [upTo_succ, List.filter_append, List.filter_append, ih, hupdates, htests, List.append_nil,
      updatesUpTo_succ]

/-- How many operations change the models before a round, with so many nodes that train. -/
def updatesBefore (nodes : Nat) : Nat → Nat
  | 0 => 0
  | r + 1 => updatesBefore nodes r + lead r + nodes

theorem length_updatesUpTo (r : Nat) :
    (p.updatesUpTo r).length = updatesBefore p.trainNodes.length r := by
  induction r with
  | zero => rfl
  | succ r ih =>
    rw [updatesUpTo_succ, List.length_append, ih, updates, List.length_append,
      length_aggregations, length_trainings, updatesBefore, Nat.add_assoc]

/-- The operations of a round stand together. -/
theorem getElem?_updatesUpTo {r rounds : Nat} (hr : r < rounds) {i : Nat}
    (hi : i < (p.updates r).length) :
    (p.updatesUpTo rounds)[updatesBefore p.trainNodes.length r + i]? = (p.updates r)[i]? := by
  induction rounds with
  | zero => omega
  | succ rounds ih =>
    rw [updatesUpTo_succ]
    rcases Nat.lt_succ_iff_lt_or_eq.mp hr with hlt | rfl
    · have hget := ih hlt
      rw [List.getElem?_eq_getElem hi] at hget ⊢
      rw [List.getElem?_append_left (List.getElem?_eq_some_iff.mp hget).1, hget]
    · rw [← p.length_updatesUpTo, List.getElem?_append_right (Nat.le_add_right _ _),
        Nat.add_sub_cancel_left]

variable {p} {g : Graph} {rounds : Nat}

theorem updates_eq (hg : g.toList = p.upTo rounds) : g.updates = p.updatesUpTo rounds := by
  rw [Graph.updates, hg, filter_upTo]

/-- The number of a training does not depend on the tests. -/
theorem updateNumber_trainAt (hg : g.toList = p.upTo rounds) {r j : Nat} (hr : r < rounds)
    (hj : j < p.trainNodes.length) :
    g.updateNumber (p.trainAt r j) = updatesBefore p.trainNodes.length r + (lead r + j) := by
  have hlt : lead r + j < (p.updates r).length := by
    rw [updates, List.length_append, length_aggregations, length_trainings]
    omega
  have hget : (p.updates r)[lead r + j]? = some (p.training r j p.trainNodes[j]) := by
    rw [updates, ← p.length_aggregations, List.getElem?_append_right (Nat.le_add_right _ _),
      Nat.add_sub_cancel_left]
    simp [trainings, hj]
  rw [← p.getElem?_updatesUpTo hr hlt, ← updates_eq hg] at hget
  exact (numbered hg).updateNumber_eq hget

/-- Neither does that of an aggregation. -/
theorem updateNumber_aggregateAt (hg : g.toList = p.upTo rounds) {r : Nat} (hr : r + 1 < rounds) :
    g.updateNumber (p.aggregateAt (r + 1)) = updatesBefore p.trainNodes.length (r + 1) := by
  have hget : (p.updates (r + 1))[0]? = some (p.aggregation r) := rfl
  rw [← p.getElem?_updatesUpTo hr (List.getElem?_eq_some_iff.mp hget).1, ← updates_eq hg] at hget
  exact (numbered hg).updateNumber_eq hget

/-! ## The steps of a blueprint -/

variable (p)

/-- The aggregation of all that was shared in a round. -/
def aggregationStep (r : Nat) : ModelStep where
  node := p.aggregator
  round := UInt32.ofNat (r + 1)
  inputs := p.trainNodes.mapIdx fun j n =>
    .payload ⟨⟨updatesBefore p.trainNodes.length r + (lead r + j)⟩, n.id⟩
  payload := .aggregate .weightedAverage

/-- What the training of a round starts from on the node of the given number. -/
def startSteps (j : Nat) (n : TrainNode) : Nat → List OperationInput
  | 0 => []
  | r + 1 =>
    [.localState ⟨⟨updatesBefore p.trainNodes.length r + (lead r + j)⟩, n.id⟩,
      .sharedState ⟨⟨updatesBefore p.trainNodes.length (r + 1)⟩⟩]

/-- The training of a round on the node of the given number. -/
def trainingStep (r j : Nat) (n : TrainNode) : ModelStep where
  node := n.id
  round := UInt32.ofNat r
  inputs := p.startSteps j n r
  payload := .train p.algorithm n.dataset n.samples

/-- The aggregation of a round, if it has one, and its trainings. -/
def steps : Nat → List ModelStep
  | 0 => p.trainNodes.mapIdx (p.trainingStep 0)
  | r + 1 => p.aggregationStep r :: p.trainNodes.mapIdx (p.trainingStep (r + 1))

variable {p}

theorem modelStep_aggregation (hg : g.toList = p.upTo rounds) {r : Nat} (hr : r < rounds) :
    g.modelStep (p.aggregation r) = p.aggregationStep r := by
  have hinputs : (p.trainNodes.mapIdx fun j n => OperationInput.payload (p.payload r j n)).map
        (·.renumber g.updateNumber) = (p.aggregationStep r).inputs := by
    refine List.ext_getElem (by simp [aggregationStep]) fun j hj _ => ?_
    have hj' : j < p.trainNodes.length := by simpa using hj
    simp [aggregationStep, OperationInput.renumber, payload, updateNumber_trainAt hg hr hj']
  simp only [Graph.modelStep, aggregation, operation, hinputs]
  rfl

theorem modelStep_training (hg : g.toList = p.upTo rounds) {r j : Nat} (hr : r < rounds)
    (hj : j < p.trainNodes.length) (n : TrainNode) :
    g.modelStep (p.training r j n) = p.trainingStep r j n := by
  have hinputs : (p.starts j n r).map (·.renumber g.updateNumber) = p.startSteps j n r := by
    cases r with
    | zero => rfl
    | succ r =>
      simp [starts, startSteps, OperationInput.renumber, state, shared,
        updateNumber_trainAt hg (Nat.lt_of_succ_lt hr) hj, updateNumber_aggregateAt hg hr]
  simp only [Graph.modelStep, training, operation, hinputs]
  rfl

/-- The operations of a round do what its steps say. -/
theorem map_modelStep_updates (hg : g.toList = p.upTo rounds) {r : Nat} (hr : r < rounds) :
    (p.updates r).map g.modelStep = p.steps r := by
  have htrainings : (p.trainings r).map g.modelStep = p.trainNodes.mapIdx (p.trainingStep r) := by
    refine List.ext_getElem (by simp) fun j hj _ => ?_
    have hj' : j < p.trainNodes.length := by simpa using hj
    simp [trainings, modelStep_training hg hr hj']
  cases r with
  | zero => exact htrainings
  | succ r =>
    rw [updates, List.map_append, htrainings, aggregations, List.map_singleton,
      modelStep_aggregation hg (Nat.lt_of_succ_lt hr)]
    rfl

/-- The operations of all rounds do what their steps say. -/
theorem modelSteps_eq (hg : g.toList = p.upTo rounds) :
    g.modelSteps = (List.range rounds).flatMap p.steps := by
  rw [Graph.modelSteps, updates_eq hg, updatesUpTo, List.map_flatMap]
  exact List.flatMap_congr fun r hr => map_modelStep_updates hg (List.mem_range.mp hr)

/-- Tests do not change what the other operations do. -/
theorem steps_congr {p' : Blueprint} (halgorithm : p.algorithm = p'.algorithm)
    (hnodes : p.trainNodes.map TrainNode.clear = p'.trainNodes.map TrainNode.clear)
    (haggregator : p.aggregator = p'.aggregator) : p.steps = p'.steps := by
  have hlength : p.trainNodes.length = p'.trainNodes.length := by
    simpa using congrArg List.length hnodes
  have hstarts : p.startSteps = p'.startSteps := by
    funext j n r
    cases r <;> simp [startSteps, hlength]
  have htraining : p.trainingStep = p'.trainingStep := by
    funext r j n
    simp [trainingStep, hstarts, halgorithm]
  have hclear : ∀ r j n, p'.trainingStep r j (TrainNode.clear n) = p'.trainingStep r j n := by
    intro r j n
    cases r <;> rfl
  have haggregation : p.aggregationStep = p'.aggregationStep := by
    funext r
    simp only [aggregationStep, haggregator, hlength]
    congr 1
    exact mapIdx_of_map_eq hnodes fun _ _ => rfl
  funext r
  cases r with
  | zero => simp only [steps, htraining, mapIdx_of_map_eq hnodes (hclear 0)]
  | succ r =>
    simp only [steps, htraining, haggregation, mapIdx_of_map_eq hnodes (hclear (r + 1))]

end Blueprint

end Federation
