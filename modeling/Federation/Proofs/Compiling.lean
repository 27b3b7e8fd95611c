import Mathlib.Data.List.Forall2
import Mathlib.Data.List.Nodup
import Federation.Proofs.Building

/-!
# The plan of an experiment

An experiment finds its operations through the queues of its nodes, node by node. A plan sorts the
tasks that they become kind by kind, and merges the kinds by rank. None of this changes anything:
the tasks of the plan are those of the operations, in the order of the graph.

* `RankOrder.sort_eq_of_perm`, `Plan.tasks_ofTasks`: a plan lists its tasks by their ranks, in
  whatever order it was given them;
* `Task.ofOperation_spec`: what a task has from its operation;
* `Blueprint.tasks`: the tasks of the blueprint's operations;
* `Experiment.Follows.compile`: the plan has these tasks in order;
* `Experiment.Follows.accepted`: a backend accepts it.
-/

namespace Federation

/-! ## Sorting by rank -/

/-- Members of distinct ranks have one order by rank. -/
theorem RankOrder.sort_eq_of_perm {α : Type} (rank : α → Nat) {xs ys : List α} (h : xs.Perm ys)
    (hs : ys.Pairwise fun x y => rank x < rank y) : sort rank xs = ys := by
  have hle : ys.Pairwise fun x y => rank x ≤ rank y := hs.imp fun hxy => Nat.le_of_lt hxy
  have hperm : (sort rank xs).Perm ys := (perm_sort rank xs).trans h
  refine List.Perm.eq_of_pairwise (fun a b ha hb hab hba => ?_) (pairwise_sort rank xs) hle hperm
  have heq : rank a = rank b := Nat.le_antisymm hab hba
  have hnodup : (ys.map rank).Nodup := by
    rw [List.Nodup, List.pairwise_map]
    exact hs.imp fun hxy => Nat.ne_of_lt hxy
  exact List.inj_on_of_nodup_map hnodup (hperm.subset ha) hb heq

namespace Plan

/-- A plan has the tasks it was given. -/
theorem perm_byKind_ofTasks (tag : String) (clean : Bool) (permissions : Permissions)
    (ts : List Task) : (ofTasks tag clean permissions ts).byKind.Perm ts := by
  have kinds : ((ts.filterMap Task.train?).map Task.train ++
      (ts.filterMap Task.aggregate?).map Task.aggregate ++
      (ts.filterMap Task.test?).map Task.test).Perm ts := by
    induction ts with
    | nil => exact .refl _
    | cons t rest ih =>
      cases t with
      | train t => exact ih.cons _
      | aggregate t =>
        refine .trans ?_ (ih.cons _)
        simp only [List.append_assoc]
        exact List.perm_middle
      | test t => exact List.perm_middle.trans (ih.cons _)
  refine .trans ?_ kinds
  exact (((RankOrder.perm_sort _ _).map _).append ((RankOrder.perm_sort _ _).map _)).append
    ((RankOrder.perm_sort _ _).map _)

/-- A plan lists its tasks by their ranks, whatever the order it was given them in. -/
theorem tasks_ofTasks (tag : String) (clean : Bool) (permissions : Permissions)
    {ts sorted : List Task} (h : ts.Perm sorted)
    (hs : sorted.Pairwise fun t t' => t.rank < t'.rank) :
    (ofTasks tag clean permissions ts).tasks = sorted :=
  RankOrder.sort_eq_of_perm Task.rank ((perm_byKind_ofTasks tag clean permissions ts).trans h) hs

theorem tasks_ofTasks_of_ranks (tag : String) (clean : Bool) (permissions : Permissions)
    {ts sorted : List Task} (h : ts.Perm sorted) {n : Nat}
    (hranks : sorted.map Task.rank = List.range n) :
    (ofTasks tag clean permissions ts).tasks = sorted := by
  have hrange := List.pairwise_lt_range (n := n)
  rw [← hranks, List.pairwise_map] at hrange
  exact tasks_ofTasks tag clean permissions h hrange

end Plan

/-! ## Tasks of operations -/

/-- A member of the second of two lists that are related has a counterpart in the first. -/
theorem exists_mem_of_forall₂ {α β : Type} {R : α → β → Prop} {xs : List α} {ys : List β}
    (h : List.Forall₂ R xs ys) {y : β} (hy : y ∈ ys) : ∃ x ∈ xs, R x y := by
  induction h with
  | nil => simp at hy
  | @cons x _ _ _ hxy _ ih =>
    rcases List.mem_cons.mp hy with rfl | hy
    · exact ⟨x, List.mem_cons_self .., hxy⟩
    · obtain ⟨x', hx', hxy'⟩ := ih hy
      exact ⟨x', List.mem_cons_of_mem _ hx', hxy'⟩

namespace Task

/-- The keys from which a training starts are those of inputs. -/
theorem mem_of_startsOf {g : Graph} {user : OperationId} {inputs : List OperationInput}
    {start shared start' shared' : Option TaskKey}
    (h : startsOf g user start shared inputs = .ok (start', shared')) {k : TaskKey}
    (hk : k ∈ start'.toList ++ shared'.toList) :
    k ∈ start.toList ++ shared.toList ∨
      ∃ input ∈ inputs, keyOf g user input.producer = .ok k := by
  induction inputs generalizing start shared with
  | nil =>
    simp only [startsOf, Except.ok.injEq, Prod.mk.injEq] at h
    rw [h.1, h.2]
    exact .inl hk
  | cons input rest ih =>
    have later : (∃ i ∈ rest, keyOf g user i.producer = .ok k) →
        ∃ i ∈ input :: rest, keyOf g user i.producer = .ok k := fun ⟨i, hi, hik⟩ =>
      ⟨i, List.mem_cons_of_mem _ hi, hik⟩
    cases input with
    | localState s =>
      unfold startsOf at h
      cases hkey : keyOf g user s.producer with
      | error err => simp [hkey] at h
      | ok key =>
        simp only [hkey] at h
        rcases ih h with hk | hk
        · rcases List.mem_append.mp hk with hk | hk
          · obtain rfl : k = key := by simpa using hk
            exact .inr ⟨_, List.mem_cons_self .., hkey⟩
          · exact .inl (List.mem_append_right _ hk)
        · exact .inr (later hk)
    | sharedState s =>
      unfold startsOf at h
      cases hkey : keyOf g user s.producer with
      | error err => simp [hkey] at h
      | ok key =>
        simp only [hkey] at h
        rcases ih h with hk | hk
        · rcases List.mem_append.mp hk with hk | hk
          · exact .inl (List.mem_append_left _ hk)
          · obtain rfl : k = key := by simpa using hk
            exact .inr ⟨_, List.mem_cons_self .., hkey⟩
        · exact .inr (later hk)
    | payload q => exact (ih h).imp_right later

/-- The keys of producers are found one by one. -/
theorem forall₂_of_keysOf {g : Graph} {user : OperationId} {ids : List OperationId}
    {keys : List TaskKey} (h : keysOf g user ids = .ok keys) :
    List.Forall₂ (fun id key => keyOf g user id = .ok key) ids keys := by
  induction ids generalizing keys with
  | nil =>
    obtain rfl := Except.ok.inj h
    exact .nil
  | cons id rest ih =>
    unfold keysOf at h
    cases hid : keyOf g user id with
    | error err => simp [hid] at h
    | ok key =>
      cases hrest : keysOf g user rest with
      | error err => simp [hid, hrest] at h
      | ok more =>
        simp only [hid, hrest, Except.ok.injEq] at h
        subst h
        exact .cons hid (ih hrest)

theorem mem_of_firstLocal? {inputs : List OperationInput} {producer : OperationId}
    (h : firstLocal? inputs = some producer) : ∃ input ∈ inputs, input.producer = producer := by
  induction inputs with
  | nil => simp [firstLocal?] at h
  | cons input rest ih =>
    cases input with
    | localState s =>
      simp only [firstLocal?, Option.some.injEq] at h
      exact ⟨_, List.mem_cons_self .., h⟩
    | sharedState s | payload q =>
      obtain ⟨i, hi, hip⟩ := ih h
      exact ⟨i, List.mem_cons_of_mem _ hi, hip⟩

/-- What a task has from its operation: its key, its rank and its worker, and inputs that are the
keys of the operations that the operation consumes. -/
structure Describes (g : Graph) (op : Operation) (t : Task) : Prop where
  key : t.key = op.key
  rank : t.rank = op.id.index
  worker : t.worker = op.node
  inputs : ∀ k ∈ t.inputs, ∃ input ∈ op.inputs, keyOf g op.id input.producer = .ok k

theorem ofOperation_spec {g : Graph} {op : Operation} {t : Task} (h : ofOperation op g = .ok t) :
    Describes g op t := by
  unfold ofOperation at h
  cases hp : op.payload with
  | train algorithm dataset samples =>
    simp only [hp] at h
    cases hs : startsOf g op.id none none op.inputs with
    | error err => simp [hs] at h
    | ok starts =>
      simp only [hs, Except.ok.injEq] at h
      subst h
      refine ⟨rfl, rfl, rfl, fun k hk => ?_⟩
      exact (mem_of_startsOf hs hk).resolve_left (by simp)
  | aggregate function =>
    simp only [hp] at h
    cases hm : keysOf g op.id op.parents with
    | error err => simp [hm] at h
    | ok models =>
      simp only [hm, Except.ok.injEq] at h
      subst h
      refine ⟨rfl, rfl, rfl, fun k hk => ?_⟩
      obtain ⟨id, hid, hkey⟩ := exists_mem_of_forall₂ (forall₂_of_keysOf hm) hk
      obtain ⟨input, hi, rfl⟩ := List.mem_map.mp hid
      exact ⟨input, hi, hkey⟩
  | test dataset samples metrics =>
    simp only [hp] at h
    cases hf : firstLocal? op.inputs with
    | none => simp [hf] at h
    | some producer =>
      cases hk : keyOf g op.id producer with
      | error err => simp [hf, hk] at h
      | ok model =>
        simp only [hf, hk, Except.ok.injEq] at h
        subst h
        refine ⟨rfl, rfl, rfl, fun k hmem => ?_⟩
        obtain ⟨input, hi, rfl⟩ := mem_of_firstLocal? hf
        obtain rfl := List.mem_singleton.mp hmem
        exact ⟨input, hi, hk⟩

end Task

namespace Experiment

theorem tasksOf_cons_eq_ok_iff {g : Graph} {id : OperationId} {rest : List OperationId}
    {ts : List Task} :
    tasksOf g (id :: rest) = .ok ts ↔ ∃ op t ts', g.get? id = some op ∧
      Task.ofOperation op g = .ok t ∧ tasksOf g rest = .ok ts' ∧ ts = t :: ts' := by
  constructor
  · intro h
    unfold tasksOf at h
    cases hop : g.get? id with
    | none => simp [hop] at h
    | some op =>
      cases ht : Task.ofOperation op g with
      | error err => simp [hop, ht] at h
      | ok t =>
        cases hrest : tasksOf g rest with
        | error err => simp [hop, ht, hrest] at h
        | ok ts' =>
          simp only [hop, ht, hrest, Except.ok.injEq] at h
          exact ⟨op, t, ts', rfl, ht, rfl, h.symm⟩
  · rintro ⟨op, t, ts', hop, ht, hrest, rfl⟩
    simp only [tasksOf, hop, ht, hrest]

/-- Operations found in another order become the same tasks in that order. -/
theorem tasksOf_of_perm {g : Graph} {ids ids' : List OperationId} (hperm : ids.Perm ids')
    {ts : List Task} (h : tasksOf g ids = .ok ts) :
    ∃ ts', tasksOf g ids' = .ok ts' ∧ ts.Perm ts' := by
  induction hperm generalizing ts with
  | nil => exact ⟨ts, h, .refl _⟩
  | cons id _ ih =>
    obtain ⟨op, t, rest, hop, ht, hrest, rfl⟩ := tasksOf_cons_eq_ok_iff.mp h
    obtain ⟨rest', hrest', hp⟩ := ih hrest
    exact ⟨t :: rest', tasksOf_cons_eq_ok_iff.mpr ⟨op, t, rest', hop, ht, hrest', rfl⟩, hp.cons t⟩
  | swap id id' l =>
    obtain ⟨op, t, _, hop, ht, hmore, rfl⟩ := tasksOf_cons_eq_ok_iff.mp h
    obtain ⟨op', t', rest, hop', ht', hrest, rfl⟩ := tasksOf_cons_eq_ok_iff.mp hmore
    have hfirst : tasksOf g (id' :: l) = .ok (t :: rest) :=
      tasksOf_cons_eq_ok_iff.mpr ⟨op, t, rest, hop, ht, hrest, rfl⟩
    exact ⟨t' :: t :: rest,
      tasksOf_cons_eq_ok_iff.mpr ⟨op', t', t :: rest, hop', ht', hfirst, rfl⟩, .swap t' t rest⟩
  | trans _ _ ih ih' =>
    obtain ⟨ts₁, h₁, hp₁⟩ := ih h
    obtain ⟨ts₂, h₂, hp₂⟩ := ih' h₁
    exact ⟨ts₂, h₂, hp₁.trans hp₂⟩

end Experiment

/-! ## The tasks of the blueprint -/

namespace Blueprint

variable (p : Blueprint)

/-- The key of the task at a position. -/
def key (id : OperationId) : TaskKey :=
  .drawn (p.serial + id.index)

/-- The key of the local state from which a training of a round starts. -/
def startKey? (j : Nat) : Nat → Option TaskKey
  | 0 => none
  | r + 1 => some (p.key (p.trainAt r j))

/-- The key of the aggregated state from which the trainings of a round start. -/
def sharedKey? : Nat → Option TaskKey
  | 0 => none
  | r + 1 => some (p.key (p.aggregateAt (r + 1)))

/-- The training of a round on the node of the given number. -/
def trainTask (r j : Nat) (n : TrainNode) : TrainTask where
  key := p.key (p.trainAt r j)
  rank := (p.trainAt r j).index
  round := UInt32.ofNat r
  worker := n.id
  algorithm := p.algorithm
  dataset := n.dataset
  samples := n.samples
  start := p.startKey? j r
  shared := p.sharedKey? r

/-- The aggregation of all that was shared in a round. -/
def aggregateTask (r : Nat) : AggregateTask where
  key := p.key (p.aggregateAt (r + 1))
  rank := (p.aggregateAt (r + 1)).index
  round := UInt32.ofNat (r + 1)
  worker := p.aggregator
  function := .weightedAverage
  models := p.trainNodes.mapIdx fun j _ => p.key (p.trainAt r j)

/-- The test of a round on the node of the given number. -/
def testTask (r k : Nat) (n : TestNode) : TestTask where
  key := p.key (p.testAt r k)
  rank := (p.testAt r k).index
  round := UInt32.ofNat r
  worker := n.id
  model := p.key (p.trainAt r (p.numberOf n.id))
  dataset := n.dataset
  samples := n.samples
  metrics := n.metrics

/-- The aggregations of a round. -/
def aggregateTasks : Nat → List Task
  | 0 => []
  | r + 1 => [.aggregate (p.aggregateTask r)]

/-- The trainings of a round. -/
def trainTasks (r : Nat) : List Task :=
  p.trainNodes.mapIdx fun j n => .train (p.trainTask r j n)

/-- The tests of a round. -/
def testTasks (r : Nat) : List Task :=
  if p.evaluated r then p.testNodes.mapIdx fun k n => .test (p.testTask r k n) else []

/-- The tasks of a number of rounds. -/
def tasks : Nat → List Task
  | 0 => []
  | r + 1 => tasks r ++ (p.aggregateTasks r ++ p.trainTasks r) ++ p.testTasks r

end Blueprint

/-- In a graph, an operation becomes a task. -/
def Graph.Becomes (g : Graph) (op : Operation) (t : Task) : Prop :=
  Task.ofOperation op g = .ok t

theorem Experiment.tasksOf_of_forall₂ {g : Graph} {ops : List Operation} {ts : List Task}
    (h : List.Forall₂ g.Becomes ops ts) (hget : ∀ op ∈ ops, g.get? op.id = some op) :
    tasksOf g (ops.map Operation.id) = .ok ts := by
  induction h with
  | nil => rfl
  | @cons op t rest ts' ht _ ih =>
    exact tasksOf_cons_eq_ok_iff.mpr ⟨op, t, ts', hget op (List.mem_cons_self ..), ht,
      ih fun o ho => hget o (List.mem_cons_of_mem _ ho), rfl⟩

namespace Blueprint

variable {p : Blueprint} {g : Graph}

/-- The operations of a graph name their inputs by the keys of the blueprint. -/
def Keyed (p : Blueprint) (g : Graph) : Prop :=
  ∀ op ∈ g.toList, ∀ input ∈ op.inputs,
    Task.keyOf g op.id input.producer = .ok (p.key input.producer)

theorem keysOf_eq_ok {user : OperationId} {ids : List OperationId}
    (h : ∀ id ∈ ids, Task.keyOf g user id = .ok (p.key id)) :
    Task.keysOf g user ids = .ok (ids.map p.key) := by
  induction ids with
  | nil => rfl
  | cons id rest ih =>
    have hrest := ih fun i hi => h i (List.mem_cons_of_mem _ hi)
    simp only [Task.keysOf, h id (List.mem_cons_self ..), hrest, List.map_cons]

theorem becomes_aggregation (h : p.Keyed g) {r : Nat} (hm : p.aggregation r ∈ g.toList) :
    g.Becomes (p.aggregation r) (.aggregate (p.aggregateTask r)) := by
  have hkeys : Task.keysOf g (p.aggregation r).id (p.aggregation r).parents =
      .ok ((p.aggregation r).parents.map p.key) := by
    refine keysOf_eq_ok fun id hid => ?_
    obtain ⟨input, hi, rfl⟩ := List.mem_map.mp hid
    exact h _ hm input hi
  have hmodels : (p.aggregation r).parents.map p.key = (p.aggregateTask r).models := by
    refine List.ext_getElem ?_ fun i _ _ => ?_
    · simp [Operation.parents, aggregation, operation, aggregateTask]
    · simp [Operation.parents, aggregation, operation, aggregateTask, OperationInput.producer,
        payload]
  rw [hmodels] at hkeys
  unfold Graph.Becomes Task.ofOperation
  simp only [hkeys]
  rfl

theorem becomes_training (h : p.Keyed g) {r j : Nat} {n : TrainNode}
    (hm : p.training r j n ∈ g.toList) :
    g.Becomes (p.training r j n) (.train (p.trainTask r j n)) := by
  cases r with
  | zero => rfl
  | succ r =>
    have hlocal : Task.keyOf g (p.trainAt (r + 1) j) (p.trainAt r j) =
        .ok (p.key (p.trainAt r j)) :=
      h _ hm (.localState (p.state r j n)) (List.mem_cons_self ..)
    have hshared : Task.keyOf g (p.trainAt (r + 1) j) (p.aggregateAt (r + 1)) =
        .ok (p.key (p.aggregateAt (r + 1))) :=
      h _ hm (.sharedState (p.shared (r + 1))) (List.mem_cons_of_mem _ (List.mem_cons_self ..))
    simp only [Graph.Becomes, Task.ofOperation, training, operation, starts, state, shared,
      Task.startsOf, hlocal, hshared]
    rfl

theorem becomes_test (h : p.Keyed g) {r k : Nat} {n : TestNode} (hm : p.test r k n ∈ g.toList) :
    g.Becomes (p.test r k n) (.test (p.testTask r k n)) := by
  have hlocal : Task.keyOf g (p.testAt r k) (p.trainAt r (p.numberOf n.id)) =
      .ok (p.key (p.trainAt r (p.numberOf n.id))) :=
    h _ hm (.localState ⟨p.trainAt r (p.numberOf n.id), n.id⟩) (List.mem_cons_self ..)
  simp only [Graph.Becomes, Task.ofOperation, test, operation, Task.firstLocal?, hlocal]
  rfl

/-- The operations of the blueprint become the tasks of the blueprint. -/
theorem becomes_upTo (h : p.Keyed g) {r : Nat} (hm : p.upTo r ⊆ g.toList) :
    List.Forall₂ g.Becomes (p.upTo r) (p.tasks r) := by
  induction r with
  | zero => exact .nil
  | succ r ih =>
    rw [upTo_succ] at hm ⊢
    have hprev := fun o (ho : o ∈ p.upTo r) =>
      hm (List.mem_append_left _ (List.mem_append_left _ ho))
    have hupdates := fun o (ho : o ∈ p.updates r) =>
      hm (List.mem_append_left _ (List.mem_append_right _ ho))
    have htests := fun o (ho : o ∈ p.tests r) => hm (List.mem_append_right _ ho)
    refine List.rel_append (List.rel_append (ih hprev) (List.rel_append ?_ ?_)) ?_
    · cases r with
      | zero => exact .nil
      | succ r =>
        refine .cons (becomes_aggregation h ?_) .nil
        exact hupdates _ (List.mem_append_left _ (List.mem_singleton_self _))
    · refine List.forall₂_iff_get.mpr ⟨by simp [trainings, trainTasks], fun i hi _ => ?_⟩
      have hmem := hupdates _ (List.mem_append_right _ (List.get_mem (p.trainings r) ⟨i, hi⟩))
      simp only [trainings, trainTasks, List.get_eq_getElem, List.getElem_mapIdx] at hmem ⊢
      exact becomes_training h hmem
    · unfold tests testTasks at *
      split
      · next hsel =>
        rw [if_pos hsel] at htests
        refine List.forall₂_iff_get.mpr ⟨by simp, fun i hi _ => ?_⟩
        have hmem := htests _ (List.get_mem _ ⟨i, hi⟩)
        simp only [List.get_eq_getElem, List.getElem_mapIdx] at hmem ⊢
        exact becomes_test h hmem
      · exact .nil

/-! ## The blueprint's graph -/

theorem numbered {r : Nat} (hg : g.toList = p.upTo r) : g.Numbered := by
  rw [Graph.Numbered, Graph.positions, ← g.length_toList, hg, length_upTo, ← ids_upTo, List.map_map]
  rfl

/-- A valid graph of the blueprint's operations names its inputs by the keys of the blueprint. -/
theorem keyed_of_valid {r : Nat} (hg : g.toList = p.upTo r) (hv : g.invalid? = none) :
    p.Keyed g := by
  intro op hop input hi
  obtain ⟨-, producer, hget, -⟩ := (g.fault?_eq_none_iff _ _).mp
    (g.invalid?_eq_none_iff.mp hv op hop input hi)
  have hmem : producer ∈ p.upTo r := by
    rw [Graph.get?_eq_getElem?, hg] at hget
    exact List.mem_of_getElem? hget
  refine (Task.keyOf_eq_ok_iff _ _ _ _).mpr ⟨producer, hget, ?_⟩
  rw [p.key_of_mem_upTo hmem, (numbered hg).id_of_get? hget]
  rfl

/-- The tasks of the blueprint are ranked by their positions. -/
theorem ranks_tasks {r : Nat} (h : List.Forall₂ g.Becomes (p.upTo r) (p.tasks r)) :
    (p.tasks r).map Task.rank = List.range (p.start r) := by
  have hranks : ∀ {ops : List Operation} {ts : List Task}, List.Forall₂ g.Becomes ops ts →
      ts.map Task.rank = ops.map (·.id.index) := fun hts => by
    induction hts with
    | nil => rfl
    | cons ht _ ih => rw [List.map_cons, List.map_cons, ih, (Task.ofOperation_spec ht).rank]
  rw [hranks h, p.ids_upTo]

end Blueprint

/-! ## The plan -/

namespace Experiment.Follows

variable {p : Blueprint} {n : Nat} {e : Experiment} {r : Recorder}

theorem becomes (h : e.Follows p n (p.upTo n) r) :
    List.Forall₂ e.graph.Becomes (p.upTo n) (p.tasks n) :=
  Blueprint.becomes_upTo (Blueprint.keyed_of_valid h.graph h.valid)
    (by rw [h.graph]; exact fun _ => id)

/-- The plan has the tasks of the blueprint, in the order of the graph. -/
theorem compile (h : e.Follows p n (p.upTo n) r) (hbuilt : e.built = true) (now : Timestamp) :
    ∃ plan, e.compile now = .ok plan ∧ plan.tasks = p.tasks n ∧
      plan.cleanModels = e.cleanModels ∧ plan.permissions = e.permissions := by
  have hnumbered := Blueprint.numbered h.graph
  have htasks := tasksOf_of_forall₂ h.becomes fun op hop =>
    hnumbered.get?_of_mem (h.graph ▸ hop)
  rw [← h.graph, show e.graph.toList.map Operation.id = e.graph.positions from hnumbered] at htasks
  obtain ⟨ts, hts, hperm⟩ := tasksOf_of_perm h.queued.symm htasks
  refine ⟨.ofTasks (e.tag.getD now.text) e.cleanModels e.permissions ts, ?_,
    Plan.tasks_ofTasks_of_ranks _ _ _ hperm.symm (Blueprint.ranks_tasks h.becomes), rfl, rfl⟩
  simp only [Experiment.compile, hbuilt, if_true, hts]

end Experiment.Follows

/-! ## Who may see the plan -/

theorem ParticipantId.bytes_injective {q q' : ParticipantId} (h : q.bytes = q'.bytes) : q = q' := by
  -- the bytes of a text are read one after the other
  have hloop : ∀ (b : ByteArray) (i : Nat) (acc : List UInt8),
      ByteArray.toList.loop b i acc = acc.reverse ++ b.data.toList.drop i := by
    intro b i acc
    induction hn : b.size - i generalizing i acc with
    | zero =>
      have hge : ¬ i < b.size := by omega
      have hdrop : b.data.toList.drop i = [] := by
        refine List.drop_eq_nil_of_le ?_
        rw [Array.length_toList]
        exact Nat.le_of_not_lt hge
      rw [ByteArray.toList.loop, if_neg hge, hdrop, List.append_nil]
    | succ n ih =>
      have hlt : i < b.size := by omega
      have hlen : i < b.data.toList.length := by
        rw [Array.length_toList]
        exact hlt
      have hget : b.get! i = b.data.toList[i] := by
        rw [Array.getElem_toList]
        exact getElem!_pos b.data i hlt
      rw [ByteArray.toList.loop, if_pos hlt, ih (i + 1) _ (by omega), List.reverse_cons,
        List.append_assoc, List.singleton_append, hget, List.getElem_cons_drop]
  have hlist : ∀ b : ByteArray, b.toList = b.data.toList := fun b => by
    rw [ByteArray.toList, hloop b 0 []]
    rfl
  have hdata : q.text.toByteArray.data.toList = q'.text.toByteArray.data.toList := by
    rw [← hlist, ← hlist]
    exact h
  have htext := String.toByteArray_inj.mp (ByteArray.ext (Array.toList_inj.mp hdata))
  obtain ⟨text⟩ := q
  exact congrArg ParticipantId.mk htext

theorem ParticipantId.eq_of_not_lt {q q' : ParticipantId} (h : ¬ q < q') (h' : ¬ q' < q) :
    q = q' :=
  bytes_injective (List.le_antisymm h' h)

namespace Permissions

variable {members members' : List ParticipantId} {member : ParticipantId}

theorem mem_ofMembers : member ∈ (ofMembers members).authorized ↔ member ∈ members :=
  SortedList.mem_ofList fun _ _ => ParticipantId.eq_of_not_lt

theorem pairwise_ofMembers (members : List ParticipantId) :
    (ofMembers members).authorized.Pairwise (· < ·) :=
  SortedList.pairwise_ofList (fun _ _ => ParticipantId.eq_of_not_lt) (fun _ _ _ => List.lt_trans)
    members

theorem allows_ofMembers (h : member ∈ members) : (ofMembers members).allows member = true :=
  (allows_iff _ _).mpr (.inr (mem_ofMembers.mpr h))

/-- Who may see a plan depends neither on the order in which the members are named nor on how often
each of them is. -/
theorem ofMembers_eq_of_mem_iff (h : ∀ q, q ∈ members' ↔ q ∈ members) :
    ofMembers members' = ofMembers members := by
  have hnodup (ms : List ParticipantId) : (ofMembers ms).authorized.Nodup := by
    refine (pairwise_ofMembers ms).imp fun {q q'} hlt heq => ?_
    exact q'.not_lt_self (heq ▸ hlt)
  have hperm : (ofMembers members').authorized.Perm (ofMembers members).authorized := by
    refine (List.perm_ext_iff_of_nodup (hnodup members') (hnodup members)).mpr fun q => ?_
    rw [mem_ofMembers, mem_ofMembers, h]
  have heq := hperm.eq_of_pairwise
    (fun q q' _ _ hlt hgt => absurd (List.lt_trans hlt hgt) q.not_lt_self)
    (pairwise_ofMembers members') (pairwise_ofMembers members)
  exact congrArg (Permissions.mk false) heq

end Permissions

/-- An operation of the blueprint runs on the node that aggregates, on one that trains or on one
that tests. -/
theorem Blueprint.node_of_mem_upTo {p : Blueprint} {r : Nat} {op : Operation}
    (h : op ∈ p.upTo r) : op.node = p.aggregator ∨ (∃ n ∈ p.trainNodes, op.node = n.id) ∨
      ∃ n ∈ p.testNodes, op.node = n.id := by
  obtain ⟨_, -, ⟨q, rfl, rfl⟩ | ⟨j, hj, rfl⟩ | ⟨k, hk, rfl⟩⟩ := p.mem_upTo h
  · exact .inl rfl
  · exact .inr (.inl ⟨_, List.getElem_mem hj, rfl⟩)
  · exact .inr (.inr ⟨_, List.getElem_mem hk, rfl⟩)

/-! ## Acceptance -/

/-- Tasks are accepted when they are numbered one after the other by their ranks and their keys, and
each consumes tasks of lower numbers only. -/
theorem Plan.tasksFault?_eq_none {permissions : Permissions} (serial s : Nat) {ts : List Task}
    {seen : List TaskKey} (hseen : ∀ k, k ∈ seen ↔ ∃ i < s, k = .drawn (serial + i))
    (hranks : ts.map Task.rank = List.range' s ts.length)
    (hts : ∀ t ∈ ts, permissions.allows t.worker = true ∧ t.key = .drawn (serial + t.rank) ∧
      ∀ k ∈ t.inputs, ∃ i < t.rank, k = .drawn (serial + i)) :
    tasksFault? permissions seen ts = none := by
  induction ts generalizing s seen with
  | nil => rfl
  | cons t rest ih =>
    rw [List.map_cons, List.length_cons, List.range'_succ, List.cons.injEq] at hranks
    obtain ⟨hrank, hranks⟩ := hranks
    obtain ⟨hworker, hkey, hinputs⟩ := hts t (List.mem_cons_self ..)
    rw [hrank] at hkey hinputs
    have hfault : taskFault? permissions seen t = none := by
      refine (taskFault?_eq_none_iff _ _ _).mpr ⟨hworker, fun k hk => ?_, fun hmem => ?_⟩
      · exact (hseen k).mpr (hinputs k hk)
      · obtain ⟨i, hi, heq⟩ := (hseen t.key).mp hmem
        have hdrawn := TaskKey.drawn_injective (hkey.symm.trans heq)
        omega
    unfold tasksFault?
    rw [hfault]
    refine ih (s + 1) (fun k => ?_) hranks fun t' ht' => hts t' (List.mem_cons_of_mem _ ht')
    rw [List.mem_cons, hseen, hkey]
    constructor
    · rintro (rfl | ⟨i, hi, rfl⟩)
      · exact ⟨s, Nat.lt_succ_self s, rfl⟩
      · exact ⟨i, by omega, rfl⟩
    · rintro ⟨i, hi, rfl⟩
      rcases Nat.lt_succ_iff_lt_or_eq.mp hi with hlt | rfl
      · exact .inr ⟨i, hlt, rfl⟩
      · exact .inl rfl

namespace Experiment.Follows

variable {p : Blueprint} {n : Nat} {e : Experiment} {r : Recorder}

/-- Whoever runs an operation may see the plan. -/
theorem allows (h : e.Follows p n (p.upTo n) r) (hm : p.Matched) {op : Operation}
    (hop : op ∈ p.upTo n) : e.permissions.allows op.node = true := by
  refine Permissions.allows_ofMembers ?_
  have htrain : ∀ m ∈ p.trainNodes, m.id ∈ e.trainNodes.map TrainNode.id := by
    intro m hmem
    exact List.mem_map.mpr
      (exists_mem_of_map_eq h.trainNodes.symm hmem TrainNode.id fun _ => rfl)
  rcases Blueprint.node_of_mem_upTo hop with hnode | ⟨m, hmem, hnode⟩ | ⟨t, ht, hnode⟩
  · obtain ⟨a, ha, hid⟩ := Option.map_eq_some_iff.mp h.aggregator
    rw [hnode, ← hid, ha]
    exact List.mem_append_left _ (List.mem_singleton_self _)
  · rw [hnode]
    exact List.mem_append_right _ (htrain m hmem)
  · obtain ⟨m, hmem, hid⟩ := p.exists_of_filter (hm t ht)
    rw [hnode, ← hid]
    exact List.mem_append_right _ (htrain m hmem)

/-- A backend accepts the plan. -/
theorem accepted (h : e.Follows p n (p.upTo n) r) (hm : p.Matched) {plan : Plan}
    (htasks : plan.tasks = p.tasks n) (hpermissions : plan.permissions = e.permissions) :
    plan.fault? = none := by
  unfold Plan.fault?
  rw [htasks, hpermissions]
  have hranks := Blueprint.ranks_tasks h.becomes
  have hlength : p.start n = (p.tasks n).length := by
    simpa using (congrArg List.length hranks).symm
  refine Plan.tasksFault?_eq_none p.serial 0 (by simp) ?_ fun t ht => ?_
  · rw [hranks, List.range_eq_range', hlength]
  · obtain ⟨op, hop, hbecomes⟩ := exists_mem_of_forall₂ h.becomes ht
    obtain ⟨hkey, hrank, hworker, hinputs⟩ := Task.ofOperation_spec hbecomes
    have hmem : op ∈ e.graph.toList := by
      rw [h.graph]
      exact hop
    refine ⟨?_, ?_, fun k hk => ?_⟩
    · rw [hworker]
      exact h.allows hm hop
    · rw [hkey, hrank, p.key_of_mem_upTo hop]
    · obtain ⟨input, hi, hok⟩ := hinputs k hk
      have hkeyed := Blueprint.keyed_of_valid h.graph h.valid op hmem input hi
      have heq := Except.ok.inj (hkeyed.symm.trans hok)
      obtain ⟨hlt, -⟩ := (e.graph.fault?_eq_none_iff _ _).mp
        (e.graph.invalid?_eq_none_iff.mp h.valid op hmem input hi)
      rw [hrank]
      exact ⟨input.producer.index, hlt, heq.symm⟩

end Experiment.Follows

end Federation
