import Federation.Proofs.Registration
import Federation.Proofs.Setup

/-!
# The blueprint of an experiment

What an experiment registers, written down without building anything: for each round the operations
of the round, with their positions in the graph computed from the numbers of nodes and from the
rounds that are evaluated.

* `Blueprint.round`: the operations of a round, which are `Blueprint.aggregations`,
  `Blueprint.trainings` and `Blueprint.tests`;
* `Blueprint.upTo`: the operations of a number of rounds;
* `Blueprint.ids_upTo`: they are numbered by their positions;
* `Blueprint.produces_training`, `Blueprint.produces_aggregation`: what a graph that begins as in
  the blueprint produces;
* `Blueprint.snapshot`: what the strategy remembers of a round.
-/

namespace Federation

/-- What the operations of an experiment depend on. -/
structure Blueprint extends Setup where
  /-- The member that aggregates. -/
  aggregator : ParticipantId
  /-- The number of keys that were drawn before. -/
  serial : Nat

/-- The blueprint of an experiment with the given member as its aggregator. -/
def Experiment.blueprint (e : Experiment) (aggregator : ParticipantId) (serial : Nat) :
    Blueprint where
  toSetup := e.setup
  aggregator := aggregator
  serial := serial

namespace Blueprint

variable (p : Blueprint)

/-! ## Positions -/

/-- The number of aggregations of a round: the first round has none. -/
def lead : Nat → Nat
  | 0 => 0
  | _ + 1 => 1

/-- The number of tests of a round. -/
def tested (r : Nat) : Nat :=
  if p.evaluated r then p.testNodes.length else 0

/-- The position at which a round starts. -/
def start : Nat → Nat
  | 0 => 0
  | r + 1 => start r + lead r + p.trainNodes.length + p.tested r

/-- The position of the aggregation of a round. -/
def aggregateAt (r : Nat) : OperationId :=
  ⟨p.start r⟩

/-- The position of the training of a round on the node of the given number. -/
def trainAt (r j : Nat) : OperationId :=
  ⟨p.start r + lead r + j⟩

/-- The position of the test of a round on the node of the given number. -/
def testAt (r k : Nat) : OperationId :=
  ⟨p.start r + lead r + p.trainNodes.length + k⟩

/-! ## Operations -/

/-- The operation at a position. Its key is the next one that is drawn. -/
def operation (id : OperationId) (node : ParticipantId) (r : Nat) (inputs : List OperationInput)
    (payload : OperationPayload) : Operation where
  id := id
  key := .drawn (p.serial + id.index)
  node := node
  round := UInt32.ofNat r
  inputs := inputs
  payload := payload

/-- The local state of a round of the node of the given number. -/
def state (r j : Nat) (n : TrainNode) : LocalStateRef :=
  ⟨p.trainAt r j, n.id⟩

/-- What the node of the given number shares in a round. -/
def payload (r j : Nat) (n : TrainNode) : SharedPayload :=
  ⟨p.trainAt r j, n.id⟩

/-- The state that all nodes of a round start from. -/
def shared (r : Nat) : SharedStateRef :=
  ⟨p.aggregateAt r⟩

/-- The aggregation of all that was shared in a round, which belongs to the next round. -/
def aggregation (r : Nat) : Operation :=
  p.operation (p.aggregateAt (r + 1)) p.aggregator (r + 1)
    (p.trainNodes.mapIdx fun j n => .payload (p.payload r j n)) (.aggregate .weightedAverage)

/-- The aggregations of a round. -/
def aggregations : Nat → List Operation
  | 0 => []
  | r + 1 => [p.aggregation r]

/-- What a training consumes: nothing in the first round, and later the local state of the same node
from the round before and the state aggregated in this round. -/
def starts (j : Nat) (n : TrainNode) : Nat → List OperationInput
  | 0 => []
  | r + 1 => [.localState (p.state r j n), .sharedState (p.shared (r + 1))]

/-- The training of a round on the node of the given number. -/
def training (r j : Nat) (n : TrainNode) : Operation :=
  p.operation (p.trainAt r j) n.id r (p.starts j n r) (.train p.algorithm n.dataset n.samples)

/-- The trainings of a round. -/
def trainings (r : Nat) : List Operation :=
  p.trainNodes.mapIdx (p.training r)

/-- The number of the first training node of a member. -/
def numberOf (member : ParticipantId) : Nat :=
  p.trainNodes.findIdx fun n => n.id = member

theorem exists_of_filter {member : ParticipantId}
    (h : (p.trainNodes.filter fun n => n.id = member).length = 1) :
    ∃ n ∈ p.trainNodes, n.id = member := by
  obtain ⟨n, hn⟩ := List.exists_mem_of_length_pos (h ▸ Nat.one_pos)
  exact ⟨n, by simpa using hn⟩

theorem numberOf_lt {member : ParticipantId} (h : ∃ n ∈ p.trainNodes, n.id = member) :
    p.numberOf member < p.trainNodes.length := by
  refine List.findIdx_lt_length_of_exists ?_
  simpa using h

theorem id_numberOf {member : ParticipantId} (h : p.numberOf member < p.trainNodes.length) :
    p.trainNodes[p.numberOf member].id = member :=
  of_decide_eq_true (List.findIdx_getElem (w := h))

/-- The test of a round on the node of the given number. -/
def test (r k : Nat) (n : TestNode) : Operation :=
  p.operation (p.testAt r k) n.id r [.localState ⟨p.trainAt r (p.numberOf n.id), n.id⟩]
    (.test n.dataset n.samples n.metrics)

/-- The tests of a round. -/
def tests (r : Nat) : List Operation :=
  if p.evaluated r then p.testNodes.mapIdx (p.test r) else []

/-- The operations of a round that change the models. -/
def updates (r : Nat) : List Operation :=
  p.aggregations r ++ p.trainings r

/-- The operations of a round. -/
def round (r : Nat) : List Operation :=
  p.aggregations r ++ p.trainings r ++ p.tests r

/-- The operations of a number of rounds. -/
def upTo (rounds : Nat) : List Operation :=
  (List.range rounds).flatMap p.round

theorem upTo_succ (r : Nat) : p.upTo (r + 1) = p.upTo r ++ p.updates r ++ p.tests r := by
  simp [upTo, List.range_succ, round, updates]

/-! ## Numbers -/

@[simp]
theorem length_aggregations (r : Nat) : (p.aggregations r).length = lead r := by
  cases r <;> rfl

@[simp]
theorem length_trainings (r : Nat) : (p.trainings r).length = p.trainNodes.length :=
  List.length_mapIdx

@[simp]
theorem length_tests (r : Nat) : (p.tests r).length = p.tested r := by
  unfold tests tested
  split
  · exact List.length_mapIdx
  · rfl

theorem length_upTo (r : Nat) : (p.upTo r).length = p.start r := by
  induction r with
  | zero => rfl
  | succ r ih =>
    rw [upTo_succ, List.length_append, List.length_append, ih, updates, List.length_append,
      length_aggregations, length_trainings, length_tests, start]
    omega

theorem ids_aggregations (r : Nat) :
    (p.aggregations r).map (·.id.index) = List.range' (p.start r) (lead r) := by
  cases r <;> rfl

theorem ids_trainings (r : Nat) :
    (p.trainings r).map (·.id.index) =
      List.range' (p.start r + lead r) p.trainNodes.length := by
  refine List.ext_getElem (by simp) fun i _ _ => ?_
  simp [trainings, training, operation, trainAt]

theorem ids_tests (r : Nat) :
    (p.tests r).map (·.id.index) =
      List.range' (p.start r + lead r + p.trainNodes.length) (p.tested r) := by
  unfold tests tested
  split
  · refine List.ext_getElem (by simp) fun i _ _ => ?_
    simp [test, operation, testAt]
  · rfl

theorem range_append_range' (m n : Nat) :
    List.range m ++ List.range' m n = List.range (m + n) := by
  rw [List.range_eq_range', List.range_eq_range', ← List.range'_append_1, Nat.zero_add]

/-- The operations are numbered by their positions. -/
theorem ids_upTo (r : Nat) : (p.upTo r).map (·.id.index) = List.range (p.start r) := by
  induction r with
  | zero => rfl
  | succ r ih =>
    rw [upTo_succ, updates, ← List.append_assoc, List.map_append, List.map_append, List.map_append,
      ih, ids_aggregations, ids_trainings, ids_tests, range_append_range', range_append_range',
      range_append_range', start]

/-- An operation is the aggregation, a training or a test of one of the rounds. -/
theorem mem_upTo {rounds : Nat} {op : Operation} (h : op ∈ p.upTo rounds) : ∃ r < rounds,
    (∃ q, r = q + 1 ∧ op = p.aggregation q) ∨
      (∃ (j : Nat) (hj : j < p.trainNodes.length), op = p.training r j p.trainNodes[j]) ∨
      ∃ (k : Nat) (hk : k < p.testNodes.length), op = p.test r k p.testNodes[k] := by
  obtain ⟨r, hr, hop⟩ := List.mem_flatMap.mp h
  refine ⟨r, List.mem_range.mp hr, ?_⟩
  rcases List.mem_append.mp hop with hop | hop
  · rcases List.mem_append.mp hop with hop | hop
    · cases r with
      | zero => simp [aggregations] at hop
      | succ q => exact .inl ⟨q, rfl, List.mem_singleton.mp hop⟩
    · obtain ⟨j, hj, rfl⟩ := List.mem_mapIdx.mp hop
      exact .inr (.inl ⟨j, hj, rfl⟩)
  · unfold tests at hop
    split at hop
    · obtain ⟨k, hk, rfl⟩ := List.mem_mapIdx.mp hop
      exact .inr (.inr ⟨k, hk, rfl⟩)
    · simp at hop

theorem kind_of_mem_updates {r : Nat} {op : Operation} (h : op ∈ p.updates r) :
    op.kind ≠ .test := by
  rcases List.mem_append.mp h with h | h
  · cases r with
    | zero => simp [aggregations] at h
    | succ r =>
      obtain rfl := List.mem_singleton.mp h
      exact OperationKind.noConfusion
  · obtain ⟨j, hj, rfl⟩ := List.mem_mapIdx.mp h
    exact OperationKind.noConfusion

theorem kind_of_mem_tests {r : Nat} {op : Operation} (h : op ∈ p.tests r) : op.kind = .test := by
  unfold tests at h
  split at h
  · obtain ⟨k, hk, rfl⟩ := List.mem_mapIdx.mp h
    rfl
  · simp at h

/-- The key of an operation tells its position. -/
theorem key_of_mem_upTo {r : Nat} {op : Operation} (h : op ∈ p.upTo r) :
    op.key = .drawn (p.serial + op.id.index) := by
  obtain ⟨_, -, ⟨q, rfl, rfl⟩ | ⟨j, hj, rfl⟩ | ⟨k, hk, rfl⟩⟩ := p.mem_upTo h <;> rfl

/-! ## What is produced -/

theorem produces_aggregation {g : Graph} {r : Nat} {rest : List Operation}
    (hg : g.toList = p.upTo (r + 1) ++ p.aggregations (r + 1) ++ rest) :
    g.Produces .aggregate (p.aggregateAt (r + 1)) := by
  have hlen : (p.upTo (r + 1)).length ≤ p.start (r + 1) := Nat.le_of_eq (p.length_upTo (r + 1))
  refine ⟨p.aggregation r, ?_, rfl⟩
  rw [Graph.get?_eq_getElem?, hg, aggregateAt, List.append_assoc, List.getElem?_append_right hlen,
    length_upTo, Nat.sub_self]
  rfl

theorem produces_training {g : Graph} {r j : Nat} {rest : List Operation}
    (hg : g.toList = p.upTo r ++ p.updates r ++ rest) (hj : j < p.trainNodes.length) :
    g.Produces .train (p.trainAt r j) := by
  refine ⟨p.training r j p.trainNodes[j], ?_, rfl⟩
  have hpos : (p.trainAt r j).index = (p.upTo r ++ p.aggregations r).length + j := by
    simp [trainAt, length_upTo]
  have hlen : j < (p.trainings r).length := by simpa using hj
  rw [Graph.get?_eq_getElem?, hg, updates, ← List.append_assoc, List.append_assoc, hpos,
    List.getElem?_append_right (Nat.le_add_right _ _), Nat.add_sub_cancel_left,
    List.getElem?_append_left hlen]
  simp [trainings, hj]

/-! ## What a round remembers -/

/-- The local state from which a training of a round starts. -/
def startState? (j : Nat) (n : TrainNode) : Nat → Option LocalStateRef
  | 0 => none
  | r + 1 => some (p.state r j n)

/-- The state that all trainings of a round start from. -/
def shared? : Nat → Option SharedStateRef
  | 0 => none
  | r + 1 => some (p.shared (r + 1))

/-- The references of a round. -/
def snapshot (r : Nat) : RoundSnapshot :=
  FederatedAveraging.snapshot (UInt32.ofNat r) (p.shared? r)
    (p.trainNodes.mapIdx fun j n => n.trained (p.trainAt r j))

/-- What is remembered last after a number of rounds. -/
def latest? : Nat → Option RoundSnapshot
  | 0 => none
  | r + 1 => some (p.snapshot r)

theorem trainInputs_startState? (r j : Nat) (n : TrainNode) :
    TrainNode.trainInputs (p.startState? j n r) (p.shared? r) = p.starts j n r := by
  cases r <;> rfl

theorem states_snapshot (r : Nat) : (p.snapshot r).states = p.trainNodes.mapIdx (p.state r) := by
  refine List.ext_getElem (by simp [snapshot, FederatedAveraging.snapshot]) fun i _ _ => ?_
  simp [snapshot, FederatedAveraging.snapshot, TrainNode.trained, state]

theorem payloads_snapshot (r : Nat) :
    (p.snapshot r).payloads = p.trainNodes.mapIdx (p.payload r) := by
  refine List.ext_getElem (by simp [snapshot, FederatedAveraging.snapshot]) fun i _ _ => ?_
  simp [snapshot, FederatedAveraging.snapshot, TrainNode.trained, payload]

/-- A training may start from the state of the same node in the round before. -/
theorem mayStart {g : Graph} {r j : Nat} {rest : List Operation} (n : TrainNode)
    (hg : g.toList = p.upTo r ++ rest) (hj : j < p.trainNodes.length) :
    n.MayStart g (p.startState? j n r) := by
  intro s hs
  cases r with
  | zero => simp [startState?] at hs
  | succ r =>
    obtain rfl := Option.some.inj hs
    rw [upTo_succ, List.append_assoc] at hg
    exact ⟨rfl, p.produces_training hg hj⟩

/-- A training may start from what was aggregated in its round. -/
theorem mayShare {g : Graph} {r : Nat} {rest : List Operation}
    (hg : g.toList = p.upTo r ++ p.aggregations r ++ rest) : g.MayShare (p.shared? r) := by
  intro s hs
  cases r with
  | zero => simp [shared?] at hs
  | succ r =>
    obtain rfl := Option.some.inj hs
    exact p.produces_aggregation hg

/-- The payloads of a round may be aggregated after it. -/
theorem produces_payloads {g : Graph} {r : Nat} {rest : List Operation}
    (hg : g.toList = p.upTo r ++ p.updates r ++ rest) :
    ∀ q ∈ (p.snapshot r).payloads, g.Produces .train q.producer := by
  intro q hq
  rw [payloads_snapshot] at hq
  obtain ⟨j, hj, rfl⟩ := List.mem_mapIdx.mp hq
  exact p.produces_training hg hj

/-- The state of a member in a round is that of its first training node. -/
theorem state?_snapshot (r : Nat) {member : ParticipantId}
    (h : ∃ n ∈ p.trainNodes, n.id = member) :
    (p.snapshot r).state? member = some ⟨p.trainAt r (p.numberOf member), member⟩ := by
  have hlt := p.numberOf_lt h
  rw [RoundSnapshot.state?, states_snapshot, List.find?_eq_some_iff_getElem]
  refine ⟨by simp, p.numberOf member, by simpa using hlt, ?_, fun i hi => ?_⟩
  · simp [state, p.id_numberOf hlt]
  · have hne := List.not_of_lt_findIdx hi
    simpa [state] using hne

end Blueprint

end Federation
