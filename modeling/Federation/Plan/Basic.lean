import Federation.Plan.Task
import Federation.RankOrder
import Federation.SortedList

/-!
# Compute plans

A plan is everything a backend needs to run an experiment: its tasks by kind, who may see them, and
whether intermediate results may be dropped. The tasks of a plan have one order: by rank, and at
equal rank trainings before aggregations before tests.

* `Plan.ofTasks` sorts tasks into a plan, `Plan.tasks` lists them in order;
* `Plan.size_ofTasks`: no task is lost.
-/

namespace Federation

/-- Who may see the tasks of a plan. -/
structure Permissions where
  /-- Whether everybody may. -/
  isPublic : Bool
  /-- The members who may in any case. -/
  authorized : List ParticipantId
  deriving DecidableEq

namespace Permissions

/-- Only the given members, in order and each once. -/
def ofMembers (members : List ParticipantId) : Permissions :=
  ⟨false, SortedList.ofList members⟩

/-- Whether a member may see the tasks. -/
def allows (p : Permissions) (member : ParticipantId) : Bool :=
  p.isPublic || p.authorized.contains member

theorem allows_iff (p : Permissions) (member : ParticipantId) :
    p.allows member = true ↔ p.isPublic = true ∨ member ∈ p.authorized := by
  simp [allows]

end Permissions

/-- A compute plan. -/
structure Plan where
  /-- The name that its author gave it. -/
  tag : String
  /-- Whether intermediate results may be dropped once they are consumed. -/
  cleanModels : Bool
  permissions : Permissions
  trainTasks : List TrainTask
  aggregateTasks : List AggregateTask
  testTasks : List TestTask

/-- The trainings among tasks. -/
def Task.train? : Task → Option TrainTask
  | .train t => some t
  | _ => none

/-- The aggregations among tasks. -/
def Task.aggregate? : Task → Option AggregateTask
  | .aggregate t => some t
  | _ => none

/-- The tests among tasks. -/
def Task.test? : Task → Option TestTask
  | .test t => some t
  | _ => none

namespace Plan

/-- The plan of the given tasks: each kind by itself, sorted by rank. -/
def ofTasks (tag : String) (cleanModels : Bool) (permissions : Permissions) (tasks : List Task) :
    Plan where
  tag := tag
  cleanModels := cleanModels
  permissions := permissions
  trainTasks := RankOrder.sort TrainTask.rank (tasks.filterMap Task.train?)
  aggregateTasks := RankOrder.sort AggregateTask.rank (tasks.filterMap Task.aggregate?)
  testTasks := RankOrder.sort TestTask.rank (tasks.filterMap Task.test?)

/-- The number of tasks. -/
def size (p : Plan) : Nat :=
  p.trainTasks.length + p.aggregateTasks.length + p.testTasks.length

/-- All tasks, kind by kind. -/
def byKind (p : Plan) : List Task :=
  p.trainTasks.map .train ++ p.aggregateTasks.map .aggregate ++ p.testTasks.map .test

/-- All tasks in order. -/
def tasks (p : Plan) : List Task :=
  RankOrder.sort Task.rank p.byKind

theorem perm_tasks (p : Plan) : p.tasks.Perm p.byKind :=
  RankOrder.perm_sort Task.rank _

theorem length_tasks (p : Plan) : p.tasks.length = p.size := by
  rw [p.perm_tasks.length_eq]
  simp [byKind, size, Nat.add_assoc]

/-- No task is lost. -/
theorem size_ofTasks (tag : String) (cleanModels : Bool) (permissions : Permissions)
    (tasks : List Task) : (ofTasks tag cleanModels permissions tasks).size = tasks.length := by
  have kinds : ∀ ts : List Task, (ts.filterMap Task.train?).length +
      (ts.filterMap Task.aggregate?).length + (ts.filterMap Task.test?).length = ts.length := by
    intro ts
    induction ts with
    | nil => rfl
    | cons t rest ih =>
      cases t <;>
        simp [List.filterMap_cons, Task.train?, Task.aggregate?, Task.test?, ← ih] <;> omega
  simp only [size, ofTasks, (RankOrder.perm_sort _ _).length_eq]
  exact kinds tasks

end Plan

end Federation
