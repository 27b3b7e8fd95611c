import Federation.Backend.Report
import Federation.Json.Typed

/-!
# Stored values

How keys, states, descriptions and scores are read from JSON. A key is a text, a state or a score a
record of its parts.

* `Stored.status_name`: the name of a status stands for the status.
-/

namespace Federation

/-- An algorithm as others see it. -/
structure AlgorithmDescription where
  name : String
  config : Json
  deriving Inhabited

/-- The description of an algorithm. -/
def Algorithm.description (a : Algorithm) : AlgorithmDescription :=
  ⟨a.name, a.config⟩

namespace Stored

open Json.Typed

/-! ## Keys and names -/

/-- The key of a dataset. -/
def datasetKey : Json.Typed DatasetKey :=
  fun v => (uuid v).map DatasetKey.mk

/-- The key of a data sample. -/
def sampleKey : Json.Typed SampleKey :=
  fun v => (uuid v).map SampleKey.mk

/-- The key of a metric. -/
def metricKey : Json.Typed MetricKey :=
  fun v => (uuid v).map MetricKey.mk

/-- The key of a task. -/
def taskKey : Json.Typed TaskKey :=
  fun v => (uuid v).map TaskKey.given

/-- The key of a plan. -/
def planKey : Json.Typed PlanKey :=
  fun v => (uuid v).map PlanKey.given

/-- The identity of a member. -/
def participant : Json.Typed ParticipantId :=
  fun v => (text v).map ParticipantId.mk

/-- The status of a plan. -/
def status : Json.Typed PlanStatus :=
  named (PlanStatus.all.map fun s => (s.name, s))

theorem status_name (s : PlanStatus) : status (.text s.name) = .ok s := by
  cases s <;> simp [status, named, named.find, PlanStatus.all, PlanStatus.name, List.lookup_cons]

/-! ## Records -/

/-- What a node has learned. -/
def localState : Json.Typed LocalState :=
  record
    { name := "LocalState"
      fields := ["parameters"]
      optionalFields := []
      defaults := ⟨[]⟩
      set := fun _ _ v => (list real v).map LocalState.mk }

/-- What a trained node shares. -/
def sharedState : Json.Typed (SharedState Float) :=
  record
    { name := "FedAvgSharedState"
      fields := ["parameters_update", "n_samples"]
      optionalFields := []
      defaults := ⟨[], 0⟩
      set := fun acc f v =>
        match f with
        | "parameters_update" => (list real v).map fun xs => { acc with update := xs }
        | _ => (word64 v).map fun n => { acc with samples := n } }

/-- The average of a round. -/
def averagedState : Json.Typed (AveragedState Float) :=
  record
    { name := "FedAvgAveragedState"
      fields := ["avg_parameters_update"]
      optionalFields := []
      defaults := ⟨[]⟩
      set := fun _ _ v => (list real v).map AveragedState.mk }

/-- The description of an algorithm. -/
def description : Json.Typed AlgorithmDescription :=
  record
    { name := "AlgoDescription"
      fields := ["name", "config"]
      optionalFields := []
      defaults := ⟨"", .null⟩
      set := fun acc f v =>
        match f with
        | "name" => (text v).map fun s => { acc with name := s }
        | _ => .ok { acc with config := v } }

/-- The score of a test task. -/
def performance : Json.Typed Performance :=
  record
    { name := "Performance"
      fields := ["test_task", "worker", "round", "value"]
      optionalFields := []
      defaults := ⟨.drawn 0, ⟨""⟩, 0, 0⟩
      set := fun acc f v =>
        match f with
        | "test_task" => (taskKey v).map fun k => { acc with task := k }
        | "worker" => (participant v).map fun p => { acc with worker := p }
        | "round" => (word32 v).map fun r => { acc with round := r }
        | _ => (real v).map fun x => { acc with value := x } }

/-- The scores of a plan. -/
def performances : Json.Typed (List Performance) :=
  list performance

end Stored

end Federation
