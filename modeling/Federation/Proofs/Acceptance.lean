import Mathlib.Data.List.Induction
import Federation.Proofs.First
import Federation.Proofs.RecordSteps

/-!
# Which plans are accepted

A backend looks at the tasks of a plan one by one, and keeps the keys that it has seen. It accepts
exactly the plans that are well-formed as a whole: everybody who works on the plan may see it, a
task names earlier tasks only, and no two tasks have the same key. A plan that is not accepted is
rejected for the first thing that is wrong.

All that could be wrong with a plan is listed in the order in which it is looked at (`Plan.checks`);
both the condition and the reason of a rejection are about this list.

* `Plan.ordered_tasks`: the order of the tasks;
* `Plan.fault?_eq_some_iff`: a fault is found exactly when it is the first in the list;
* `Plan.wellFormed_iff`: nothing in the list is wrong exactly when the plan is well-formed;
* `LocalBackend.submission_exact`: what becomes of a plan that is submitted.
-/

namespace Federation

/-! ## The order of the tasks -/

/-- Tasks are in the order of a plan: they are sorted by rank, and the tasks of one rank are the
trainings of the plan, then its aggregations, then its tests, each in the order in which the plan
has them. -/
structure Plan.Ordered (p : Plan) (ts : List Task) : Prop where
  ranks : ts.Pairwise fun t u => t.rank ≤ u.rank
  ties : ∀ rank, ts.filter (·.rank = rank) =
    (p.trainTasks.map Task.train ++ p.aggregateTasks.map Task.aggregate ++
      p.testTasks.map Task.test).filter (·.rank = rank)

theorem Plan.ordered_tasks (p : Plan) : p.Ordered p.tasks where
  ranks := RankOrder.pairwise_sort Task.rank p.byKind
  ties rank := RankOrder.filter_sort Task.rank rank p.byKind

/-! ## What is looked at -/

/-- Something that could be wrong with a task, which comes after the given tasks. -/
structure Check where
  before : List Task
  fault : PlanFault

/-- It is wrong: the worker may not see the plan, the input is not the key of a task before, or the
key is that of a task before. -/
def Check.Fails (permissions : Permissions) (c : Check) : Prop :=
  match c.fault with
  | .unauthorized worker => permissions.allows worker = false
  | .notEarlier input => input ∉ c.before.map Task.key
  | .duplicate key => key ∈ c.before.map Task.key

instance (permissions : Permissions) : DecidablePred (Check.Fails permissions) := fun c =>
  match c with
  | ⟨_, .unauthorized _⟩ => inferInstanceAs (Decidable (_ = _))
  | ⟨_, .notEarlier _⟩ => inferInstanceAs (Decidable (¬ _))
  | ⟨_, .duplicate _⟩ => inferInstanceAs (Decidable (_ ∈ _))

namespace Check

variable {permissions : Permissions} {before : List Task}

@[simp]
theorem fails_unauthorized {worker : ParticipantId} :
    Fails permissions ⟨before, .unauthorized worker⟩ ↔ permissions.allows worker = false := .rfl

@[simp]
theorem fails_notEarlier {input : TaskKey} :
    Fails permissions ⟨before, .notEarlier input⟩ ↔ input ∉ before.map Task.key := .rfl

@[simp]
theorem fails_duplicate {key : TaskKey} :
    Fails permissions ⟨before, .duplicate key⟩ ↔ key ∈ before.map Task.key := .rfl

end Check

/-- All that could be wrong with a task: its worker, then its inputs in order, then its key. -/
def Task.faults (t : Task) : List PlanFault :=
  .unauthorized t.worker :: (t.inputs.map .notEarlier ++ [.duplicate t.key])

namespace Plan

/-- All that could be wrong with tasks that come after the given ones. -/
def checksOf (before : List Task) : List Task → List Check
  | [] => []
  | t :: rest => t.faults.map (⟨before, ·⟩) ++ checksOf (before ++ [t]) rest

/-- All that could be wrong with a plan, task by task in the order of the plan. -/
def checks (p : Plan) : List Check :=
  checksOf [] p.tasks

theorem mem_checksOf {before ts : List Task} {c : Check} :
    c ∈ checksOf before ts ↔ ∃ front t back,
      ts = front ++ t :: back ∧ c.before = before ++ front ∧ c.fault ∈ t.faults := by
  induction ts generalizing before with
  | nil => simp [checksOf]
  | cons t rest ih =>
    rw [checksOf, List.mem_append, ih]
    constructor
    · rintro (hc | ⟨front, u, back, rfl, hbefore, hfault⟩)
      · obtain ⟨fault, hfault, rfl⟩ := List.mem_map.mp hc
        exact ⟨[], t, rest, rfl, (List.append_nil _).symm, hfault⟩
      · refine ⟨t :: front, u, back, rfl, ?_, hfault⟩
        rw [hbefore, List.append_assoc, List.singleton_append]
    · rintro ⟨front, u, back, heq, hbefore, hfault⟩
      cases front with
      | nil =>
        obtain ⟨rfl, rfl⟩ := List.cons.inj heq
        exact .inl (List.mem_map.mpr ⟨c.fault, hfault, by rw [← hbefore.trans (List.append_nil _)]⟩)
      | cons t' front =>
        obtain ⟨rfl, rfl⟩ := List.cons.inj heq
        refine .inr ⟨front, u, back, rfl, ?_, hfault⟩
        rw [hbefore, List.append_assoc, List.singleton_append]

/-! ## What is found -/

variable {permissions : Permissions} {seen : List TaskKey} {before : List Task}

/-- The fault of a task is the first of what could be wrong with it. -/
theorem taskFault?_eq_find? (hseen : ∀ k, k ∈ seen ↔ k ∈ before.map Task.key) (t : Task) :
    taskFault? permissions seen t =
      ((t.faults.map fun f => Check.mk before f).find? (Check.Fails permissions ·)).map
        Check.fault := by
  have hinputs : (t.inputs.map fun k => Check.mk before (.notEarlier k)).find?
      (Check.Fails permissions ·) =
        (t.inputs.find? fun k => k ∉ seen).map fun k => ⟨before, .notEarlier k⟩ := by
    rw [List.find?_map]
    congr 2
    funext k
    simp only [Function.comp_apply, Check.fails_notEarlier, hseen]
  unfold taskFault? Task.faults
  rw [List.map_cons, List.find?_cons, List.map_append, List.map_map]
  cases hworker : permissions.allows t.worker with
  | false => simp [hworker]
  | true =>
    simp only [Check.fails_unauthorized, hworker, Bool.true_eq_false, decide_false, if_true]
    rw [List.find?_append, Function.comp_def, hinputs]
    cases t.inputs.find? fun k => k ∉ seen with
    | some input => rfl
    | none => by_cases hk : t.key ∈ seen <;> simp [hk, ← hseen]

/-- The fault of several tasks is the first of what could be wrong with them. -/
theorem tasksFault?_eq_find? (hseen : ∀ k, k ∈ seen ↔ k ∈ before.map Task.key) (ts : List Task) :
    tasksFault? permissions seen ts =
      ((checksOf before ts).find? (Check.Fails permissions ·)).map Check.fault := by
  induction ts generalizing seen before with
  | nil => rfl
  | cons t rest ih =>
    have hmore : ∀ k, k ∈ t.key :: seen ↔ k ∈ (before ++ [t]).map Task.key := fun k => by
      simp [hseen, or_comm]
    rw [tasksFault?, taskFault?_eq_find? hseen, ih hmore, checksOf, List.find?_append]
    cases (t.faults.map fun f => Check.mk before f).find? (Check.Fails permissions ·) with
    | some c => rfl
    | none => rfl

variable {p : Plan}

theorem fault?_eq_find? (p : Plan) :
    p.fault? = (p.checks.find? (Check.Fails p.permissions ·)).map Check.fault :=
  tasksFault?_eq_find? (by simp) p.tasks

/-- The fault that is found is the first one. -/
theorem fault?_eq_some_iff {fault : PlanFault} :
    p.fault? = some fault ↔
      ∃ before, IsFirst (Check.Fails p.permissions) p.checks ⟨before, fault⟩ := by
  rw [fault?_eq_find?, Option.map_eq_some_iff]
  constructor
  · rintro ⟨⟨before, _⟩, hc, rfl⟩
    exact ⟨before, IsFirst.iff_find?.mpr hc⟩
  · rintro ⟨before, hc⟩
    exact ⟨_, IsFirst.iff_find?.mp hc, rfl⟩

/-! ## Well-formed plans -/

/-- Everybody who works on the plan may see it, each task names earlier tasks only, and no two tasks
have the same key. -/
structure WellFormed (p : Plan) : Prop where
  workers : ∀ t ∈ p.tasks, p.permissions.allows t.worker = true
  inputs : ∀ before t after, p.tasks = before ++ t :: after →
    ∀ k ∈ t.inputs, k ∈ before.map Task.key
  keys : (p.tasks.map Task.key).Nodup

/-- No key is that of two tasks when no task has the key of one in front of it. -/
theorem nodup_keys_iff {ts : List Task} :
    (ts.map Task.key).Nodup ↔
      ∀ before t after, ts = before ++ t :: after → t.key ∉ before.map Task.key := by
  constructor
  · rintro h before t after rfl
    rw [List.map_append, List.map_cons, List.nodup_append] at h
    exact fun hmem => h.2.2 t.key hmem t.key (List.mem_cons_self ..) rfl
  · intro h
    induction ts using List.reverseRecOn with
    | nil => exact .nil
    | append_singleton front t ih =>
      have hfront := ih fun before u after heq => h before u (after ++ [t]) (by simp [heq])
      rw [List.map_append, List.map_singleton, List.nodup_append]
      refine ⟨hfront, List.pairwise_singleton .., fun k hk k' hk' heq => ?_⟩
      rw [heq, List.mem_singleton.mp hk'] at hk
      exact h front t [] rfl hk

/-- A plan is well-formed when nothing of what could be wrong with it is wrong. -/
theorem wellFormed_iff : p.WellFormed ↔ p.fault? = none := by
  have hnone : p.fault? = none ↔ ∀ c ∈ p.checks, ¬ c.Fails p.permissions := by
    rw [fault?_eq_find?, Option.map_eq_none_iff, List.find?_eq_none]
    simp
  rw [hnone]
  constructor
  · intro h c hc
    obtain ⟨front, t, back, htasks, hbefore, hfault⟩ := mem_checksOf.mp hc
    rw [List.nil_append] at hbefore
    obtain ⟨before, fault⟩ := c
    obtain rfl : before = front := hbefore
    have hfault : fault ∈ t.faults := hfault
    simp only [Task.faults, List.mem_cons, List.mem_append, List.mem_map, List.not_mem_nil,
      or_false] at hfault
    obtain rfl | ⟨k, hk, rfl⟩ | rfl := hfault
    · simpa using h.workers t (by simp [htasks])
    · exact not_not_intro (h.inputs before t back htasks k hk)
    · exact nodup_keys_iff.mp h.keys before t back htasks
  · intro h
    have hchecks : ∀ before t after, p.tasks = before ++ t :: after → ∀ fault ∈ t.faults,
        ¬ Check.Fails p.permissions ⟨before, fault⟩ := fun before t after htasks fault hfault =>
      h _ (mem_checksOf.mpr ⟨before, t, after, htasks, rfl, hfault⟩)
    refine ⟨fun t ht => ?_, fun before t after htasks k hk => ?_, ?_⟩
    · obtain ⟨before, after, htasks⟩ := List.append_of_mem ht
      have hworker := hchecks before t after htasks (.unauthorized t.worker) (by simp [Task.faults])
      simpa using hworker
    · have hinput := hchecks before t after htasks (.notEarlier k) (by simp [Task.faults, hk])
      exact Decidable.not_not.mp hinput
    · exact nodup_keys_iff.mpr fun before t after htasks =>
        hchecks before t after htasks (.duplicate t.key) (by simp [Task.faults])

end Plan

/-! ## Submissions -/

namespace LocalBackend

/-- **Exactly the well-formed plans are accepted.** The tasks of a plan are in the order of their
ranks, and at equal rank trainings come before aggregations before tests, as they stand in the plan.
A backend accepts the plan if and only if in this order everybody who works on a task may see the
plan, every input is the key of an earlier task, and all keys are different; then it has a record of
the plan. Otherwise it says what is wrong first, looking in each task at the worker, then at the
inputs in order, then at the key, and nothing changes. -/
theorem submission_exact (b : LocalBackend) (key : PlanKey) (p : Plan) :
    p.Ordered p.tasks ∧
    ((∃ notices, (b.submit key p).outcome = .ok notices) ↔ p.WellFormed) ∧
    (∀ err, (b.submit key p).outcome = .error err ↔
      ∃ before fault, IsFirst (Check.Fails p.permissions) p.checks ⟨before, fault⟩ ∧
        err = .rejected fault.reason) ∧
    (p.WellFormed → b.step (.submit key p) = b.put key (.accepted p)) ∧
    (¬ p.WellFormed → b.step (.submit key p) = b) := by
  refine ⟨p.ordered_tasks, ?_, fun err => ?_, fun hp => ?_, fun hp => ?_⟩
  · rw [Plan.wellFormed_iff, submit]
    cases p.fault? with
    | none => simp
    | some fault => simp
  · rw [exists_comm]
    simp only [exists_and_right, ← Plan.fault?_eq_some_iff, submit]
    cases p.fault? with
    | none => simp
    | some fault => simp [eq_comm]
  · exact b.step_submit_of_sound key (Plan.wellFormed_iff.mp hp)
  · obtain ⟨fault, hfault⟩ := Option.ne_none_iff_exists'.mp (mt Plan.wellFormed_iff.mpr hp)
    exact b.step_submit_of_fault key hfault

end LocalBackend

/-- A training cannot use an aggregation of its own rank, which comes after it. -/
example : Plan.fault?
    { tag := "tie"
      cleanModels := false
      permissions := ⟨true, []⟩
      trainTasks := [⟨.drawn 1, 0, 0, ⟨"first"⟩, default, default, [], none, some (.drawn 0)⟩]
      aggregateTasks := [⟨.drawn 0, 0, 0, ⟨"first"⟩, .weightedAverage, []⟩]
      testTasks := [] } = some (.notEarlier (.drawn 0)) := by decide

end Federation
