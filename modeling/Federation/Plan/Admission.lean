import Federation.Backend.Report
import Federation.Plan.Basic

/-!
# Admission of plans

A backend accepts a plan when, task by task in the order of the plan, the worker may see the plan,
every input is the key of an earlier task, and the task's own key is new. It names the first thing
that is wrong, looking at the worker first, then at the inputs in order, then at the key.

* `Plan.taskFault?_eq_none_iff`: what one task has to satisfy.
-/

namespace Federation

/-- What is wrong with a plan. -/
inductive PlanFault
  /-- A worker may not see the plan. -/
  | unauthorized (worker : ParticipantId)
  /-- An input is not the key of an earlier task. -/
  | notEarlier (input : TaskKey)
  /-- Two tasks have the same key. -/
  | duplicate (key : TaskKey)
  deriving DecidableEq

/-- What is said about a plan that is not accepted. -/
def PlanFault.reason : PlanFault → String
  | .unauthorized worker => "worker " ++ worker.text ++ " is not authorized"
  | .notEarlier input => "task " ++ input.text ++ " is not an earlier task of the plan"
  | .duplicate key => "duplicate task " ++ key.text

namespace Plan

/-- What is wrong with a task, after tasks with the given keys. -/
def taskFault? (permissions : Permissions) (seen : List TaskKey) (t : Task) : Option PlanFault :=
  if permissions.allows t.worker then
    match t.inputs.find? fun k => k ∉ seen with
    | some input => some (.notEarlier input)
    | none => if t.key ∈ seen then some (.duplicate t.key) else none
  else some (.unauthorized t.worker)

/-- The first thing that is wrong with tasks, after tasks with the given keys. -/
def tasksFault? (permissions : Permissions) (seen : List TaskKey) : List Task → Option PlanFault
  | [] => none
  | t :: rest =>
    match taskFault? permissions seen t with
    | some fault => some fault
    | none => tasksFault? permissions (t.key :: seen) rest

/-- The first thing that is wrong with a plan. -/
def fault? (p : Plan) : Option PlanFault :=
  tasksFault? p.permissions [] p.tasks

theorem taskFault?_eq_none_iff (permissions : Permissions) (seen : List TaskKey) (t : Task) :
    taskFault? permissions seen t = none ↔
      permissions.allows t.worker = true ∧ (∀ k ∈ t.inputs, k ∈ seen) ∧ t.key ∉ seen := by
  unfold taskFault?
  by_cases ha : permissions.allows t.worker = true
  · simp only [ha, if_true, true_and]
    cases hf : t.inputs.find? fun k => k ∉ seen with
    | some input =>
      have hm := List.mem_of_find?_eq_some hf
      have hn : input ∉ seen := by simpa using List.find?_some hf
      simp only [reduceCtorEq, false_iff, not_and]
      exact fun h => absurd (h input hm) hn
    | none =>
      have hall : ∀ k ∈ t.inputs, k ∈ seen := by simpa using hf
      by_cases hk : t.key ∈ seen
      · simp [hk]
      · simpa [hk] using hall
  · simp [ha]

end Plan

end Federation
