import Federation.Proofs.Values

/-!
# What a store keeps

Before the first task of a plan it is counted how often each output will be consumed, and every task
counts off what it has consumed. So after any number of tasks the count of an output is the number
of times that the tasks that are left still name it. A plan that cleans its models keeps exactly the
outputs that are still to be consumed, and those that nobody ever consumes.

* `Store.Counts.consumed`, `Store.Counts.consumedAll`: what counting off uses does to a store;
* `Store.Balanced.keep`: one task keeps the invariant;
* `Execution.Reached`: the executions of a plan between its tasks, with what the tasks gave;
* `Execution.Reached.balanced`: the invariant holds in all of them;
* `reference_counts_exact`: the counts and the outputs after any number of tasks.
-/

namespace Federation

namespace Store

/-! ## Counting off uses -/

/-- The number of uses of an output that are counted; an output without an entry has none. -/
def pending (s : Store) (key : TaskKey) : Nat :=
  (s.consumers.get? key).getD 0

/-- The uses that are counted are the given ones, with repetitions. -/
def Counts (s : Store) (uses : List TaskKey) : Prop :=
  ∀ key, s.pending key = uses.count key

theorem counts_ofTasks (clean : Bool) (tasks : List Task) :
    (ofTasks clean tasks).Counts (tasks.flatMap Task.inputs) := by
  intro key
  rw [pending, ofTasks, get?_countConsumers]
  by_cases hk : key ∈ tasks.flatMap Task.inputs
  · simp [hk]
  · simp [hk, List.count_eq_zero_of_not_mem hk]

/-- What is stored of a task of the given kind and key. -/
def output? (s : Store) : OperationKind × TaskKey → Option Product
  | (.train, key) => (s.trained.get? key).map .model
  | (.aggregate, key) => (s.aggregated.get? key).map .average
  | (.test, _) => none

/-- What becomes of a store when some uses are counted off and the given ones are left. An output
that nobody uses any more is dropped if the store cleans its models, and nothing else is. -/
structure Releases (s : Store) (used left : List TaskKey) (s' : Store) : Prop where
  cleanModels : s'.cleanModels = s.cleanModels
  counts : s'.Counts left
  output? : ∀ n y, s'.output? n = some y ↔
    s.output? n = some y ∧ (s.cleanModels = true → n.2 ∈ used → n.2 ∈ left)

namespace Counts

variable {s : Store} {key : TaskKey} {used left : List TaskKey}

/-- A use that is still to come has an entry that counts it. -/
theorem entry (h : s.Counts (key :: left)) :
    s.consumers.get? key = some (left.count key + 1) := by
  have hk := h key
  rw [pending, List.count_cons_self] at hk
  cases hc : s.consumers.get? key with
  | none => simp [hc] at hk
  | some count =>
    rw [hc, Option.getD_some] at hk
    rw [hk]

theorem pending_of_ne (h : s.Counts (key :: left)) {k : TaskKey} (hne : k ≠ key) :
    s.pending k = left.count k := by
  rw [h k, List.count_cons_of_ne (Ne.symm hne)]

/-- One use is counted off. -/
theorem consumed (h : s.Counts (key :: left)) : s.Releases [key] left (s.consumed key) := by
  unfold Store.consumed
  rw [h.entry]
  dsimp only
  rw [Nat.add_sub_cancel]
  by_cases hdrop : left.count key = 0 ∧ s.cleanModels = true
  · rw [if_pos hdrop]
    have hleft : key ∉ left := List.count_eq_zero.mp hdrop.1
    refine ⟨rfl, fun k => ?_, fun n y => ?_⟩
    · by_cases hk : k = key
      · subst hk
        simp [pending, Table.get?_erase, hdrop.1]
      · rw [← h.pending_of_ne hk]
        simp [pending, Table.get?_erase, hk]
    · obtain ⟨kind, k⟩ := n
      by_cases hk : k = key
      · subst hk
        cases kind <;> simp [Store.output?, Table.get?_erase, hdrop.2, hleft]
      · cases kind <;> simp [Store.output?, Table.get?_erase, hk]
  · rw [if_neg hdrop]
    refine ⟨rfl, fun k => ?_, fun n y => ?_⟩
    · by_cases hk : k = key
      · subst hk
        simp [pending, Table.get?_insert]
      · rw [← h.pending_of_ne hk]
        simp [pending, Table.get?_insert, hk]
    · -- the key is still used, or the store drops nothing
      have hkept : s.cleanModels = true → n.2 ∈ [key] → n.2 ∈ left := fun hclean hkey => by
        rw [List.mem_singleton.mp hkey]
        exact List.count_pos_iff.mp (Nat.pos_of_ne_zero fun hzero => hdrop ⟨hzero, hclean⟩)
      exact (and_iff_left hkept).symm

/-- Several uses are counted off. -/
theorem consumedAll (h : s.Counts (used ++ left)) :
    s.Releases used left (s.consumedAll used) := by
  induction used generalizing s with
  | nil => exact ⟨rfl, h, fun n y => (and_iff_left nofun).symm⟩
  | cons key rest ih =>
    have hfirst := Counts.consumed h
    have hrest := ih hfirst.counts
    refine ⟨hrest.cleanModels.trans hfirst.cleanModels, hrest.counts, fun n y => ?_⟩
    have hn := hrest.output? n y
    rw [hfirst.output? n y, hfirst.cleanModels, and_assoc, List.append_eq, List.mem_append,
      List.mem_singleton] at hn
    refine hn.trans (and_congr_right' ?_)
    rw [List.mem_cons]
    tauto

end Counts

/-! ## Keeping what a task gives -/

/-- The store with what a task gave. -/
def put (s : Store) (key : TaskKey) : Product → Store
  | .model o => { s with trained := s.trained.insert key o }
  | .average a => { s with aggregated := s.aggregated.insert key a }
  | .score _ => s

variable {s : Store} {used : List TaskKey}

theorem keep_eq (s : Store) (t : Task) (y : Product) :
    s.keep t y = (s.put t.key y).consumedAll t.inputs := by
  cases y <;> rfl

theorem cleanModels_put (s : Store) (key : TaskKey) (y : Product) :
    (s.put key y).cleanModels = s.cleanModels := by
  cases y <;> rfl

theorem pending_put (s : Store) (key : TaskKey) (y : Product) (k : TaskKey) :
    (s.put key y).pending k = s.pending k := by
  cases y <;> rfl

/-- What a task gave is stored, unless it is a score, and nothing else changes. -/
theorem output?_put (s : Store) {t : Task} {y : Product} (hkind : y.kind = t.kind)
    (n : OperationKind × TaskKey) :
    (s.put t.key y).output? n = if n = t.output ∧ t.kind ≠ .test then some y else s.output? n := by
  obtain ⟨kind, k⟩ := n
  rw [Task.output, ← hkind]
  cases y with
  | model o => cases kind <;> by_cases hk : k = t.key <;>
      simp [Store.output?, put, Product.kind, Table.get?_insert, hk]
  | average a => cases kind <;> by_cases hk : k = t.key <;>
      simp [Store.output?, put, Product.kind, Table.get?_insert, hk]
  | score value => simp [put, Product.kind]

/-- The uses of a task are counted off after what it gave is stored. -/
theorem counts_put (h : s.Counts used) (key : TaskKey) (y : Product) : (s.put key y).Counts used :=
  fun k => (s.pending_put key y k).trans (h k)

end Store

/-! ## What is kept -/

namespace Plan

/-- When the given tasks are left, an output is kept if it is still to be consumed, or if no task of
the plan consumes it. A plan that does not clean its models keeps every output. -/
def Retains (p : Plan) (rest : List Task) (key : TaskKey) : Prop :=
  p.cleanModels = true → key ∈ rest.flatMap Task.inputs ∨ key ∉ p.tasks.flatMap Task.inputs

variable {p : Plan} {before rest : List Task} {t : Task}

theorem retains_tail_iff (ht : t ∈ p.tasks) (key : TaskKey) :
    p.Retains rest key ↔ p.Retains (t :: rest) key ∧
      (p.cleanModels = true → key ∈ t.inputs → key ∈ rest.flatMap Task.inputs) := by
  have hinputs : key ∈ t.inputs → key ∈ p.tasks.flatMap Task.inputs := fun hk =>
    List.mem_flatMap.mpr ⟨t, ht, hk⟩
  unfold Retains
  rw [List.flatMap_cons, List.mem_append]
  tauto

/-- No task up to the one with a key names this key. -/
theorem WellFormed.key_not_mem_inputs (h : p.WellFormed) (htasks : p.tasks = before ++ t :: rest)
    {u : Task} (hu : u ∈ before ++ [t]) : t.key ∉ u.inputs := by
  intro hk
  have hfresh : t.key ∉ before.map Task.key := nodup_keys_iff.mp h.keys before t rest htasks
  rcases List.mem_append.mp hu with hu | hu
  · obtain ⟨front, back, rfl⟩ := List.append_of_mem hu
    have hfront := h.inputs front u (back ++ t :: rest) (by simp [htasks]) t.key hk
    exact hfresh (by simp only [List.map_append]; exact List.mem_append_left _ hfront)
  · rw [List.mem_singleton] at hu
    subst hu
    exact hfresh (h.inputs before u rest htasks u.key hk)

/-- What a task gives is kept after it. -/
theorem WellFormed.retains_key (h : p.WellFormed) (htasks : p.tasks = before ++ t :: rest) :
    p.Retains rest t.key := by
  intro _
  by_cases hk : t.key ∈ p.tasks.flatMap Task.inputs
  · obtain ⟨u, hu, hku⟩ := List.mem_flatMap.mp hk
    rw [htasks, ← List.singleton_append, ← List.append_assoc] at hu
    rcases List.mem_append.mp hu with hu | hu
    · exact absurd hku (h.key_not_mem_inputs htasks hu)
    · exact .inl (List.mem_flatMap.mpr ⟨u, hu, hku⟩)
  · exact .inr hk

end Plan

/-- Among tasks that have run, the one of the given kind and key has given a product. Tests give
nothing that is stored. -/
def Gave (given : List (Task × Product)) (n : OperationKind × TaskKey) (y : Product) : Prop :=
  n.1 ≠ .test ∧ ∃ t, (t, y) ∈ given ∧ t.output = n

theorem gave_concat_iff {given : List (Task × Product)} {t : Task} {y z : Product}
    {n : OperationKind × TaskKey} :
    Gave (given ++ [(t, y)]) n z ↔ Gave given n z ∨ (n = t.output ∧ t.kind ≠ .test) ∧ y = z := by
  simp only [Gave, List.mem_append, List.mem_singleton, Prod.mk.injEq]
  constructor
  · rintro ⟨hn, u, hu | ⟨rfl, rfl⟩, rfl⟩
    · exact .inl ⟨hn, u, hu, rfl⟩
    · exact .inr ⟨⟨rfl, hn⟩, rfl⟩
  · rintro (⟨hn, u, hu, rfl⟩ | ⟨⟨rfl, hn⟩, rfl⟩)
    · exact ⟨hn, u, .inl hu, rfl⟩
    · exact ⟨hn, t, .inr ⟨rfl, rfl⟩, rfl⟩

theorem gave_train_iff {given : List (Task × Product)} {key : TaskKey} {y : Product} :
    Gave given (.train, key) y ↔ ∃ t, (.train t, y) ∈ given ∧ t.key = key := by
  constructor
  · rintro ⟨-, t, ht, hn⟩
    obtain ⟨hkind, hkey⟩ := Prod.mk.inj hn
    cases t with
    | train t => exact ⟨t, ht, hkey⟩
    | aggregate t => cases hkind
    | test t => cases hkind
  · rintro ⟨t, ht, rfl⟩
    exact ⟨nofun, _, ht, rfl⟩

theorem gave_aggregate_iff {given : List (Task × Product)} {key : TaskKey} {y : Product} :
    Gave given (.aggregate, key) y ↔ ∃ t, (.aggregate t, y) ∈ given ∧ t.key = key := by
  constructor
  · rintro ⟨-, t, ht, hn⟩
    obtain ⟨hkind, hkey⟩ := Prod.mk.inj hn
    cases t with
    | train t => cases hkind
    | aggregate t => exact ⟨t, ht, hkey⟩
    | test t => cases hkind
  · rintro ⟨t, ht, rfl⟩
    exact ⟨nofun, _, ht, rfl⟩

namespace Store

/-- A store between two tasks of a plan. It counts the uses by the tasks that are left, and it holds
what the tasks in front have given, as far as the plan keeps it. -/
structure Balanced (p : Plan) (given : List (Task × Product)) (rest : List Task) (s : Store) :
    Prop where
  tasks : p.tasks = given.map Prod.fst ++ rest
  cleanModels : s.cleanModels = p.cleanModels
  counts : s.Counts (rest.flatMap Task.inputs)
  output? : ∀ n y, s.output? n = some y ↔ Gave given n y ∧ p.Retains rest n.2

theorem balanced_ofTasks (p : Plan) :
    (ofTasks p.cleanModels p.tasks).Balanced p [] p.tasks where
  tasks := rfl
  cleanModels := rfl
  counts := counts_ofTasks p.cleanModels p.tasks
  output? n y := by
    obtain ⟨kind, k⟩ := n
    cases kind <;> simp [Store.output?, ofTasks, Gave]

namespace Balanced

variable {p : Plan} {given : List (Task × Product)} {rest : List Task} {s : Store} {t : Task}
  {y : Product}

theorem counts_task (h : s.Balanced p given (t :: rest)) :
    s.Counts (t.inputs ++ rest.flatMap Task.inputs) := by
  have hcounts := h.counts
  rwa [List.flatMap_cons] at hcounts

/-- No task in front of the next one has its key. -/
theorem not_gave_key (h : s.Balanced p given (t :: rest)) (accepted : p.WellFormed)
    {kind : OperationKind} : ¬ Gave given (kind, t.key) y := by
  rintro ⟨-, u, hu, hn⟩
  have hfresh := Plan.nodup_keys_iff.mp accepted.keys _ t rest h.tasks
  exact hfresh (List.mem_map.mpr ⟨u, List.mem_map_of_mem hu, congrArg Prod.snd hn⟩)

/-- A task keeps the balance: what it gives is stored, and its uses are counted off. -/
theorem keep (h : s.Balanced p given (t :: rest)) (accepted : p.WellFormed)
    (hkind : y.kind = t.kind) : (s.keep t y).Balanced p (given ++ [(t, y)]) rest := by
  have hreleases := (counts_put h.counts_task t.key y).consumedAll
  rw [← s.keep_eq t y] at hreleases
  refine ⟨?_, ?_, hreleases.counts, fun n z => ?_⟩
  · rw [h.tasks, List.map_append, List.append_assoc]
    rfl
  · rw [hreleases.cleanModels, cleanModels_put, h.cleanModels]
  · rw [hreleases.output? n z, s.output?_put hkind, cleanModels_put, h.cleanModels, gave_concat_iff]
    by_cases hnew : n = t.output ∧ t.kind ≠ .test
    · -- what the task gives is stored, and nobody has used it yet
      have hself : t.key ∉ t.inputs := accepted.key_not_mem_inputs h.tasks (by simp)
      have hretains : p.Retains rest t.key := accepted.retains_key h.tasks
      rw [if_pos hnew, hnew.1]
      simp [Task.output, h.not_gave_key accepted, hself, hretains, hnew.2]
    · -- what tasks in front have given stays, unless this task was the last to use it
      have ht : t ∈ p.tasks := h.tasks ▸ List.mem_append_right _ (List.mem_cons_self ..)
      rw [if_neg hnew, h.output? n z, and_assoc, ← Plan.retains_tail_iff ht]
      simp [hnew]

/-- When the next task counts off a use, there is an entry that counts at least this one. -/
theorem entry (h : s.Balanced p given (t :: rest)) {front back : List TaskKey} {key : TaskKey}
    (hinputs : t.inputs = front ++ key :: back) (y : Product) :
    ((s.put t.key y).consumedAll front).consumers.get? key =
      some ((back ++ rest.flatMap Task.inputs).count key + 1) := by
  have hcounts := counts_put h.counts_task t.key y
  rw [hinputs, List.append_assoc, List.cons_append] at hcounts
  exact hcounts.consumedAll.counts.entry

end Balanced

end Store

/-! ## Between the tasks of a plan -/

namespace Execution

/-- The executions of a plan between its tasks, with the tasks that have run and what they gave.
None of them has failed; their calls may have been answered in any way. -/
inductive Reached (p : Plan) : List (Task × Product) → Execution → Prop
  | start : Reached p [] (.start p)
  | next {given : List (Task × Product)} {x z : Execution} {t : Task} {rest : List Task}
    {answers : Answers} {y : Product} (h : Reached p given x) (hr : x.remaining = t :: rest)
    (hy : t.demand x.store.sources >>= Demand.perform answers = .ok y)
    (hz : x.runNext answers t rest = .ok z) : Reached p (given ++ [(t, y)]) z

/-- A task that runs gives a product, which the store keeps. -/
theorem runNext_eq_ok_iff {x z : Execution} {t : Task} {rest : List Task} {answers : Answers} :
    x.runNext answers t rest = .ok z ↔
      ∃ y, t.demand x.store.sources >>= Demand.perform answers = .ok y ∧
        z = ⟨rest, x.store.keep t y, x.scores ++ (t.score? y).toList⟩ := by
  unfold runNext
  rw [x.store.runTask_eq answers t]
  cases t.demand x.store.sources >>= Demand.perform answers with
  | error f => exact ⟨nofun, fun ⟨_, hy, _⟩ => nomatch hy⟩
  | ok y =>
    constructor
    · intro hz
      exact ⟨y, rfl, (Except.ok.inj hz).symm⟩
    · rintro ⟨_, hy, rfl⟩
      obtain rfl := Except.ok.inj hy
      rfl

variable {p : Plan} {given : List (Task × Product)} {x : Execution}

/-- However far an execution has come, its store is balanced. -/
theorem Reached.balanced (h : Reached p given x) (accepted : p.WellFormed) :
    x.store.Balanced p given x.remaining := by
  induction h with
  | start => exact Store.balanced_ofTasks p
  | @next given x z t rest answers y _ hr hy hz ih =>
    obtain ⟨y', hy', rfl⟩ := runNext_eq_ok_iff.mp hz
    obtain rfl : y = y' := Except.ok.inj (hy.symm.trans hy')
    rw [hr] at ih
    exact ih.keep accepted (Task.kind_of_gives hy)

end Execution

/-- The execution that a stage is in the middle of. -/
def Stage.execution? : Stage → Option Execution
  | .between x | .calling x _ _ => some x
  | _ => none

/-- A backend goes through executions that are reached, whatever happens to it. -/
theorem LocalBackend.exists_reached (b : LocalBackend) {key : PlanKey} {p : Plan}
    (accepted : p.fault? = none) {history : List Event} (fresh : Unsubmitted key history) :
    ∃ r, ((b.step (.submit key p)).after history).get? key = some r ∧
      ∀ x, r.stage.execution? = some x → ∃ given, Execution.Reached p given x := by
  obtain ⟨r, hr, hstage⟩ := b.upholds_after accepted
    (I := fun x => ∃ given, Execution.Reached p given x) (E := fun _ => True) ⟨[], .start⟩
    (fun {x y t rest answers} ⟨given, hx⟩ hrest hy => by
      obtain ⟨product, hproduct, -⟩ := Execution.runNext_eq_ok_iff.mp hy
      exact ⟨given ++ [(t, product)], hx.next hrest hproduct hy⟩)
    (fun _ _ _ => trivial) fresh
  refine ⟨r, hr, fun x hx => ?_⟩
  cases hst : r.stage with
  | between x' =>
    rw [hst] at hstage hx
    obtain rfl := Option.some.inj hx
    exact hstage
  | calling x' t rest =>
    rw [hst] at hstage hx
    obtain rfl := Option.some.inj hx
    exact hstage.1
  | accepted _ => simp [hst, Stage.execution?] at hx
  | reporting _ => simp [hst, Stage.execution?] at hx
  | finished => simp [hst, Stage.execution?] at hx

open LocalBackend in
/-- **Reference counts are exact.** Take a plan that a backend accepts, and let any number of its
tasks have run without failing, with any answers to their calls. Each output is counted as often as
the tasks that are left name it. When the next task counts off one of its inputs, an entry counts at
least this use, so that no count is ever taken below zero. The outputs that are held are those of
the trainings and aggregations that have run, as they gave them: all of them if the plan keeps its
models, and otherwise those that are still to be consumed and those that no task of the plan
consumes. These are the states that a backend goes through, whatever happens to it. -/
theorem reference_counts_exact (p : Plan) (accepted : p.fault? = none) :
    (∀ given x, Execution.Reached p given x →
      p.tasks = given.map Prod.fst ++ x.remaining ∧
      (∀ k, x.store.pending k = (x.remaining.flatMap Task.inputs).count k) ∧
      (∀ t rest y, x.remaining = t :: rest → ∀ front k back, t.inputs = front ++ k :: back →
        ((x.store.put t.key y).consumedAll front).consumers.get? k =
          some ((back ++ rest.flatMap Task.inputs).count k + 1)) ∧
      (∀ k o, x.store.trained.get? k = some o ↔
        (∃ t, (.train t, .model o) ∈ given ∧ t.key = k) ∧ p.Retains x.remaining k) ∧
      (∀ k a, x.store.aggregated.get? k = some a ↔
        (∃ t, (.aggregate t, .average a) ∈ given ∧ t.key = k) ∧ p.Retains x.remaining k)) ∧
    ∀ (b : LocalBackend) (key : PlanKey) (history : List Event), Unsubmitted key history →
      ∃ r, ((b.step (.submit key p)).after history).get? key = some r ∧
        ∀ x, r.stage.execution? = some x → ∃ given, Execution.Reached p given x := by
  have hp : p.WellFormed := Plan.wellFormed_iff.mpr accepted
  refine ⟨fun given x hx => ?_, fun b key history fresh => b.exists_reached accepted fresh⟩
  have hbalanced := hx.balanced hp
  refine ⟨hbalanced.tasks, hbalanced.counts, ?_, fun k o => ?_, fun k a => ?_⟩
  · intro t rest y hr front k back hinputs
    rw [hr] at hbalanced
    exact hbalanced.entry hinputs y
  · rw [← gave_train_iff, ← hbalanced.output? (.train, k), Store.output?]
    cases x.store.trained.get? k <;> simp
  · rw [← gave_aggregate_iff, ← hbalanced.output? (.aggregate, k), Store.output?]
    cases x.store.aggregated.get? k <;> simp

open LocalBackend in
/-- Four of the five tasks of the fan-out have run. The second training has been tested and is
dropped; the first one is still to be tested, and the aggregation is of no use to anybody. -/
theorem reference_counts_of_fanOut :
    let key := PlanKey.drawn 0
    let next := Event.advance key (Experiment.constantAnswers 0.5)
    let history := List.replicate 9 next
    Plan.fanOut.fault? = none ∧ Unsubmitted key history ∧
      ∃ r x given, ((LocalBackend.empty.step (.submit key Plan.fanOut)).after history).get? key =
          some r ∧ r.stage.execution? = some x ∧ Execution.Reached Plan.fanOut given x ∧
        given.length = 4 ∧ x.store.pending (.drawn 0) = 1 ∧
        x.store.trained.get? (.drawn 1) = none ∧ (x.store.aggregated.get? (.drawn 2)).isSome := by
  intro key next history
  have accepted : Plan.fanOut.fault? = none := by decide
  have fresh : Unsubmitted key history := by simp [Unsubmitted, history, next]
  obtain ⟨exact, hbackend⟩ := reference_counts_exact Plan.fanOut accepted
  obtain ⟨r, hr, hreached⟩ := hbackend .empty key history fresh
  have hrun : (((LocalBackend.empty.step (.submit key Plan.fanOut)).after history).get? key).bind
      (fun r => r.stage.execution?.map fun x =>
        (x.remaining.length, (x.store.aggregated.get? (.drawn 2)).isSome)) = some (1, true) := by
    decide +kernel
  rw [hr, Option.bind_some, Option.map_eq_some_iff] at hrun
  obtain ⟨x, hx, heq⟩ := hrun
  obtain ⟨hleft, haggregated⟩ := Prod.mk.inj heq
  obtain ⟨given, hgiven⟩ := hreached x hx
  obtain ⟨htasks, hcounts, -, htrained, -⟩ := exact given x hgiven
  have hlength : given.length = 4 := by
    have hall := congrArg List.length htasks
    rw [List.length_append, List.length_map, hleft] at hall
    exact (Nat.succ.inj hall).symm
  have hfront : (given.map Prod.fst).length = 4 := (List.length_map _).trans hlength
  have hremaining : x.remaining = Plan.fanOut.tasks.drop 4 := by
    rw [htasks, ← hfront, List.drop_left]
  rw [hremaining] at hcounts htrained
  refine ⟨accepted, fresh, r, x, given, hr, hx, hgiven, hlength, hcounts (.drawn 0), ?_,
    haggregated⟩
  rw [Option.eq_none_iff_forall_ne_some]
  intro o ho
  exact absurd (((htrained (.drawn 1) o).mp ho).2 rfl) (by decide)

end Federation
