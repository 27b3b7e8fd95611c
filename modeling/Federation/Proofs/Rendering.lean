import Federation.Proofs.Compiling
import Federation.Proofs.Demand

/-!
# Plans that list a graph

A plan lists a graph when its tasks are the operations of the graph, in the order of the graph and
each once: a task says what its operation says, and it names what it consumes by the keys of the
tasks that stand for the parents of the operation.

Compiling an experiment gives such a plan exactly when the queues of the nodes hold every position
of the graph once, as long as the graph is sound.

* `Graph.Sound`: what builds leave behind, `Blueprint.sound`;
* `Task.renders_of_ofOperation`: what a task has from an operation of the inputs of its kind;
* `Experiment.lists_iff_of_compile`: when a compiled plan lists the graph;
* `Plan.Lists.closed`: all keys that the tasks name are keys of tasks of the plan.
-/

namespace Federation

/-! ## Sound graphs -/

/-- An operation consumes what is fit for its kind: a training at most one local and one shared
state, an aggregation one or more payloads, and a test a local state. -/
def Operation.Shaped (op : Operation) : Prop :=
  match op.payload with
  | .train .. => ∃ start shared, op.inputs = TrainNode.trainInputs start shared
  | .aggregate _ => ∃ payloads, payloads ≠ [] ∧ op.inputs = payloads.map .payload
  | .test .. => ∃ state, op.inputs = [.localState state]

namespace Graph

/-- A graph in which nothing is wrong. -/
structure Sound (g : Graph) : Prop where
  numbered : g.Numbered
  /-- The operations consume what earlier operations of the right kinds produce. -/
  valid : g.invalid? = none
  shaped : ∀ op ∈ g.toList, op.Shaped
  /-- They have different keys. -/
  distinct : (g.toList.map Operation.key).Nodup

/-- The key of the operation at a position. -/
def keyAt? (g : Graph) (id : OperationId) : Option TaskKey :=
  (g.get? id).map Operation.key

variable {g : Graph}

/-- An input of an operation comes from an operation of its kind in front of it. -/
theorem Sound.producer (h : g.Sound) {op : Operation} (hop : op ∈ g.toList) {input : OperationInput}
    (hi : input ∈ op.inputs) : input.producer.index < op.id.index ∧
      g.Produces input.producerKind input.producer :=
  producer_of_valid h.valid hop hi

end Graph

/-! ## What a task says -/

namespace Task

/-- The round of a task. -/
def round : Task → Round
  | .train t => t.round
  | .aggregate t => t.round
  | .test t => t.round

/-- What a task does. -/
def payload : Task → OperationPayload
  | .train t => .train t.algorithm t.dataset t.samples
  | .aggregate t => .aggregate t.function
  | .test t => .test t.dataset t.samples t.metrics

theorem map_needs_train (t : TrainTask) : (needs (.train t)).map (Prod.map id some) =
    (t.start.map some).toList.map (.train, ·) ++
      (t.shared.map some).toList.map (.aggregate, ·) := by
  cases hstart : t.start <;> cases hshared : t.shared <;> simp [needs, hstart, hshared]

/-- A task says what an operation says, when the operations at the positions have the given keys.
Its needs are the inputs of the operation, in order. -/
structure Renders (keyAt? : OperationId → Option TaskKey) (op : Operation) (t : Task) : Prop where
  key : t.key = op.key
  rank : t.rank = op.id.index
  round : t.round = op.round
  worker : t.worker = op.node
  payload : t.payload = op.payload
  needs : t.needs.map (Prod.map id some) =
    op.inputs.map fun input => (input.producerKind, keyAt? input.producer)

theorem Renders.kind {keyAt? : OperationId → Option TaskKey} {op : Operation} {t : Task}
    (h : t.Renders keyAt? op) : t.kind = op.kind := by
  have hkind : t.payload.kind = t.kind := by cases t <;> rfl
  rw [← hkind, h.payload, Operation.kind]

theorem keyAt?_of_keyOf {g : Graph} {user producer : OperationId} {key : TaskKey}
    (h : keyOf g user producer = .ok key) : g.keyAt? producer = some key := by
  obtain ⟨op, hop, hkey⟩ := (keyOf_eq_ok_iff g user producer key).mp h
  rw [Graph.keyAt?, hop, Option.map_some, hkey]

theorem keyAt?_of_keysOf {g : Graph} {user : OperationId} {ids : List OperationId}
    {keys : List TaskKey} (h : keysOf g user ids = .ok keys) :
    keys.map some = ids.map g.keyAt? := by
  have hall := forall₂_of_keysOf h
  clear h
  induction hall with
  | nil => rfl
  | cons hid _ ih => rw [List.map_cons, List.map_cons, ih, keyAt?_of_keyOf hid]

theorem startsOf_shared {g : Graph} {user : OperationId} {start startKey sharedKey : Option TaskKey}
    (shared : Option SharedStateRef)
    (h : startsOf g user start none (shared.map OperationInput.sharedState).toList =
      .ok (startKey, sharedKey)) :
    startKey = start ∧ sharedKey.map some = shared.map fun s => g.keyAt? s.producer := by
  cases shared with
  | none =>
    simp only [Option.map_none, Option.toList_none, startsOf, Except.ok.injEq, Prod.mk.injEq] at h
    exact ⟨h.1.symm, by rw [← h.2]; rfl⟩
  | some s =>
    simp only [Option.map_some, Option.toList_some, startsOf] at h
    cases hs : keyOf g user s.producer with
    | error err => simp [hs] at h
    | ok key =>
      simp only [hs, Except.ok.injEq, Prod.mk.injEq] at h
      rw [← h.2, Option.map_some, Option.map_some, keyAt?_of_keyOf hs]
      exact ⟨h.1.symm, rfl⟩

/-- The states from which a training starts are named by the keys of what gives them. -/
theorem startsOf_trainInputs {g : Graph} {user : OperationId} {startKey sharedKey : Option TaskKey}
    (start : Option LocalStateRef) (shared : Option SharedStateRef)
    (h : startsOf g user none none (TrainNode.trainInputs start shared) =
      .ok (startKey, sharedKey)) :
    startKey.map some = start.map (fun s => g.keyAt? s.producer) ∧
      sharedKey.map some = shared.map fun s => g.keyAt? s.producer := by
  cases start with
  | none =>
    obtain ⟨hstart, hshared⟩ := startsOf_shared shared h
    exact ⟨by rw [hstart]; rfl, hshared⟩
  | some l =>
    simp only [TrainNode.trainInputs, Option.map_some, Option.toList_some, List.singleton_append,
      startsOf] at h
    cases hl : keyOf g user l.producer with
    | error err => simp [hl] at h
    | ok key =>
      simp only [hl] at h
      obtain ⟨hstart, hshared⟩ := startsOf_shared shared h
      exact ⟨by rw [hstart, Option.map_some, Option.map_some, keyAt?_of_keyOf hl], hshared⟩

/-- The task of an operation says what the operation says, if it consumes what is fit for it. -/
theorem renders_of_ofOperation {g : Graph} {op : Operation} {t : Task} (hs : op.Shaped)
    (h : ofOperation op g = .ok t) : t.Renders g.keyAt? op := by
  obtain ⟨hkey, hrank, hworker, -⟩ := ofOperation_spec h
  unfold Operation.Shaped at hs
  unfold ofOperation at h
  cases hp : op.payload with
  | train algorithm dataset samples =>
    simp only [hp] at hs h
    obtain ⟨start, shared, hinputs⟩ := hs
    cases hst : startsOf g op.id none none op.inputs with
    | error err => simp [hst] at h
    | ok starts =>
      simp only [hst, Except.ok.injEq] at h
      subst h
      refine ⟨hkey, hrank, rfl, hworker, hp.symm, ?_⟩
      rw [hinputs] at hst ⊢
      obtain ⟨hstart, hshared⟩ := startsOf_trainInputs start shared hst
      rw [map_needs_train, hstart, hshared]
      cases start <;> cases shared <;> rfl
  | aggregate function =>
    simp only [hp] at hs h
    obtain ⟨payloads, -, hinputs⟩ := hs
    cases hm : keysOf g op.id op.parents with
    | error err => simp [hm] at h
    | ok models =>
      simp only [hm, Except.ok.injEq] at h
      subst h
      refine ⟨hkey, hrank, rfl, hworker, hp.symm, ?_⟩
      have hkeys := keyAt?_of_keysOf hm
      rw [Operation.parents, hinputs, List.map_map, List.map_map] at hkeys
      have hpairs := congrArg (List.map (Prod.mk OperationKind.train)) hkeys
      simp only [List.map_map] at hpairs
      rw [hinputs, needs, List.map_map, List.map_map]
      exact hpairs
  | test dataset samples metrics =>
    simp only [hp] at hs h
    obtain ⟨state, hinputs⟩ := hs
    cases hk : keyOf g op.id state.producer with
    | error err => simp [hinputs, firstLocal?, hk] at h
    | ok model =>
      simp only [hinputs, firstLocal?, hk, Except.ok.injEq] at h
      subst h
      refine ⟨hkey, hrank, rfl, hworker, hp.symm, ?_⟩
      rw [hinputs]
      simp [needs, OperationInput.producerKind, OperationInput.producer, keyAt?_of_keyOf hk]

/-- What a task needs is what its operation consumes. -/
theorem Renders.mem_needs {keyAt? : OperationId → Option TaskKey} {op : Operation} {t : Task}
    (h : t.Renders keyAt? op) {n : OperationKind × TaskKey} (hn : n ∈ t.needs) :
    ∃ input ∈ op.inputs, input.producerKind = n.1 ∧ keyAt? input.producer = some n.2 := by
  have hmem : (n.1, some n.2) ∈ t.needs.map (Prod.map id some) := List.mem_map_of_mem hn
  rw [h.needs] at hmem
  obtain ⟨input, hi, heq⟩ := List.mem_map.mp hmem
  exact ⟨input, hi, congrArg Prod.fst heq, congrArg Prod.snd heq⟩

theorem keys_of_renders {keyAt? : OperationId → Option TaskKey} {ops : List Operation}
    {ts : List Task} (h : List.Forall₂ (fun op t => Renders keyAt? op t) ops ts) :
    ts.map key = ops.map Operation.key := by
  induction h with
  | nil => rfl
  | cons ht _ ih => rw [List.map_cons, List.map_cons, ht.key, ih]

end Task

/-! ## Listing a graph -/

/-- The key of the task at a position. -/
def Plan.keyAt? (plan : Plan) (id : OperationId) : Option TaskKey :=
  (plan.tasks[id.index]?).map Task.key

/-- The tasks of a plan are the operations of a graph, one task for each operation and in the same
order: each says what its operation says, and names its inputs by the keys of the tasks that stand
where the operations do that produce them. -/
structure Plan.Lists (plan : Plan) (g : Graph) : Prop where
  tasks : List.Forall₂ (fun op t => Task.Renders plan.keyAt? op t) g.toList plan.tasks
  /-- The rank of a task is its position. -/
  ranks : plan.tasks.map Task.rank = List.range g.size
  /-- No two tasks have the same key. -/
  keys : (plan.tasks.map Task.key).Nodup

/-- A task only names tasks of the plan. -/
theorem Plan.Lists.closed {plan : Plan} {g : Graph} (h : plan.Lists g) {t : Task}
    (ht : t ∈ plan.tasks) {k : TaskKey} (hk : k ∈ t.inputs) : ∃ u ∈ plan.tasks, u.key = k := by
  obtain ⟨op, -, hop⟩ := exists_mem_of_forall₂ h.tasks ht
  rw [← t.keys_needs] at hk
  obtain ⟨n, hn, rfl⟩ := List.mem_map.mp hk
  obtain ⟨input, -, -, hkey⟩ := hop.mem_needs hn
  obtain ⟨u, hu, hukey⟩ := Option.map_eq_some_iff.mp hkey
  exact ⟨u, List.mem_of_getElem? hu, hukey⟩

namespace Experiment

theorem forall₂_of_tasksOf {g : Graph} {ops : List Operation} {ts : List Task}
    (hget : ∀ op ∈ ops, g.get? op.id = some op)
    (h : tasksOf g (ops.map Operation.id) = .ok ts) : List.Forall₂ g.Becomes ops ts := by
  induction ops generalizing ts with
  | nil =>
    obtain rfl := Except.ok.inj h
    exact .nil
  | cons op rest ih =>
    obtain ⟨op', t, ts', hop', ht, hrest, rfl⟩ := tasksOf_cons_eq_ok_iff.mp h
    rw [hget op (List.mem_cons_self ..)] at hop'
    obtain rfl := Option.some.inj hop'
    exact .cons ht (ih (fun o ho => hget o (List.mem_cons_of_mem _ ho)) hrest)

/-- The tasks of operations are ranked by the positions at which the operations were found. -/
theorem ranks_of_tasksOf {g : Graph} (hs : g.Sound) {ids : List OperationId} {ts : List Task}
    (h : tasksOf g ids = .ok ts) : ts.map Task.rank = ids.map OperationId.index := by
  induction ids generalizing ts with
  | nil =>
    obtain rfl := Except.ok.inj h
    rfl
  | cons id rest ih =>
    obtain ⟨op, t, ts', hop, ht, hrest, rfl⟩ := tasksOf_cons_eq_ok_iff.mp h
    rw [List.map_cons, List.map_cons, ih hrest, (Task.ofOperation_spec ht).rank,
      hs.numbered.id_of_get? hop]

variable {e : Experiment} {now : Timestamp} {plan : Plan}

/-- What a plan is compiled from. -/
theorem compile_eq_ok_iff : e.compile now = .ok plan ↔ e.built = true ∧
    ∃ ts, tasksOf e.graph e.recorded = .ok ts ∧
      plan = .ofTasks (e.tag.getD now.text) e.cleanModels e.permissions ts := by
  unfold compile
  cases e.built with
  | false => simp
  | true =>
    cases tasksOf e.graph e.recorded with
    | error err => simp
    | ok ts => simp [eq_comm]

/-- **When a compiled plan lists the graph.** It does exactly when every position of the graph is in
one of the queues of the nodes, and only once. -/
theorem lists_iff_of_compile (hs : e.graph.Sound) (h : e.compile now = .ok plan) :
    plan.Lists e.graph ↔ e.recorded.Perm e.graph.positions := by
  obtain ⟨-, ts, hts, rfl⟩ := compile_eq_ok_iff.mp h
  have hindices : e.graph.positions.map OperationId.index = List.range e.graph.size := by
    simp [Graph.positions, Function.comp_def]
  constructor
  · intro hlists
    have hperm := (Plan.perm_tasks _).trans
      (Plan.perm_byKind_ofTasks (e.tag.getD now.text) e.cleanModels e.permissions ts)
    have hranks := hperm.map Task.rank
    rw [hlists.ranks, ranks_of_tasksOf hs hts] at hranks
    have hids := (hranks.map OperationId.mk).symm
    rw [List.map_map] at hids
    simpa [Function.comp_def, Graph.positions] using hids
  · intro hqueued
    obtain ⟨sorted, hsorted, hperm⟩ := tasksOf_of_perm hqueued hts
    have hranks := ranks_of_tasksOf hs hsorted
    rw [hindices] at hranks
    have htasks := Plan.tasks_ofTasks_of_ranks (e.tag.getD now.text) e.cleanModels e.permissions
      hperm hranks
    rw [← show e.graph.toList.map Operation.id = e.graph.positions from hs.numbered] at hsorted
    have hbecomes := forall₂_of_tasksOf (fun _ => hs.numbered.get?_of_mem) hsorted
    have hrenders : List.Forall₂ (fun op t => Task.Renders e.graph.keyAt? op t) e.graph.toList
        sorted :=
      ((List.forall₂_and_left _ _).mpr ⟨hs.shaped, hbecomes⟩).imp
        fun _ _ hop => Task.renders_of_ofOperation hop.1 hop.2
    have hkeys := Task.keys_of_renders hrenders
    have hat : Plan.keyAt? (.ofTasks (e.tag.getD now.text) e.cleanModels e.permissions ts) =
        e.graph.keyAt? := funext fun id => by
      have hid := congrArg (·[id.index]?) hkeys
      simpa [Plan.keyAt?, Graph.keyAt?, Graph.get?_eq_getElem?, htasks] using hid
    refine ⟨?_, ?_, ?_⟩
    · rw [hat, htasks]
      exact hrenders
    · rw [htasks, hranks]
    · rw [htasks, hkeys]
      exact hs.distinct

end Experiment

/-! ## What builds leave behind -/

namespace Blueprint

variable {p : Blueprint}

/-- The operations of the blueprint consume what is fit for them, as long as somebody trains or
there is nothing to aggregate. -/
theorem shaped {n : Nat} (hp : p.trainNodes ≠ [] ∨ n ≤ 1) {op : Operation} (h : op ∈ p.upTo n) :
    op.Shaped := by
  obtain ⟨r, hr, ⟨q, rfl, rfl⟩ | ⟨j, hj, rfl⟩ | ⟨k, hk, rfl⟩⟩ := p.mem_upTo h
  · refine ⟨p.trainNodes.mapIdx (p.payload q), ?_, ?_⟩
    · have htrains := hp.resolve_right (by omega)
      simpa using htrains
    · refine List.ext_getElem (by simp [aggregation, operation]) fun i _ _ => ?_
      simp [aggregation, operation]
  · exact ⟨p.startState? j p.trainNodes[j] r, p.shared? r,
      (p.trainInputs_startState? r j p.trainNodes[j]).symm⟩
  · exact ⟨_, rfl⟩

/-- A valid graph of the blueprint's operations is sound. -/
theorem sound {g : Graph} {n : Nat} (hg : g.toList = p.upTo n) (hv : g.invalid? = none)
    (hp : p.trainNodes ≠ [] ∨ n ≤ 1) : g.Sound where
  numbered := numbered hg
  valid := hv
  shaped op hop := shaped hp (hg ▸ hop)
  distinct := by
    have hkeys : (p.upTo n).map Operation.key =
        (List.range (p.start n)).map fun i => TaskKey.drawn (p.serial + i) := by
      rw [← ids_upTo, List.map_map]
      exact List.map_congr_left fun op hop => p.key_of_mem_upTo hop
    rw [hg, hkeys]
    refine List.nodup_range.map fun i j hij => ?_
    have hdrawn := TaskKey.drawn_injective hij
    omega

end Blueprint

end Federation
