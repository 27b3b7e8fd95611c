import Federation.Evaluation
import Federation.Schema
import Federation.Settings.LogFilter

/-!
# Sections of the settings

What can be set for an experiment, for waiting on its plan, and for its log, and how each section is
read in any notation that has readers for numbers, truth values, texts and lists.

A section that was read may still be invalid: an experiment needs a round, and the rounds to
evaluate have to be rounds of the experiment; the time between two questions is at least a second.

* `ExperimentSettings.violations_eq_nil_iff`, `PollSettings.violations_eq_nil_iff`: when a section
  is valid.
-/

namespace Federation

/-- What can be set for an experiment. -/
structure ExperimentSettings where
  /-- The number of rounds. -/
  numRounds : Round
  /-- Whether intermediate results may be dropped. -/
  cleanModels : Bool
  /-- The rounds to evaluate, beside the last one. -/
  evalRounds : List Round
  /-- The name of the plan; the time of submission if there is none. -/
  tag : Option String
  deriving DecidableEq

/-- One round, with the defaults for everything else. -/
def ExperimentSettings.default : ExperimentSettings :=
  ⟨1, true, [], none⟩

/-- The choice of rounds that the section makes. -/
def ExperimentSettings.evaluation (s : ExperimentSettings) : Evaluation :=
  .atRounds s.evalRounds

/-- How a plan is waited for. -/
structure PollSettings where
  /-- The seconds between two questions about the status. -/
  interval : UInt64
  /-- The seconds after which waiting is given up; it never is if there are none. -/
  timeout : Option UInt64
  deriving DecidableEq

/-- A question every five seconds, without end. -/
def PollSettings.default : PollSettings :=
  ⟨5, none⟩

/-- What is logged. -/
structure LoggingSettings where
  filter : String
  deriving DecidableEq

/-- The settings of a program. -/
structure Settings where
  experiment : ExperimentSettings
  poll : PollSettings
  log : LoggingSettings
  deriving DecidableEq

/-! ## Validity -/

/-- Why a section is invalid. -/
inductive ViolationCode
  /-- A number is too small. -/
  | range
  /-- A round to evaluate is no round of the experiment. -/
  | evaluationRound
  deriving DecidableEq

/-- The text of a code. -/
def ViolationCode.text : ViolationCode → String
  | .range => "range"
  | .evaluationRound => "evaluation round out of range"

/-- Something invalid, with the way to where it is. -/
structure Violation where
  path : String
  code : ViolationCode
  deriving DecidableEq

/-- The text of a violation. -/
def Violation.text (v : Violation) : String :=
  v.path ++ ": " ++ v.code.text

/-- The violation seen from outside the section. -/
def Violation.within (section_ : String) (v : Violation) : Violation :=
  { v with path := section_ ++ "." ++ v.path }

/-- The text of several violations. -/
def Violation.message (vs : List Violation) : String :=
  "; ".intercalate (vs.map Violation.text)

/-- What is invalid in the section. The rounds to evaluate are looked at only if the number of
rounds is valid. -/
def ExperimentSettings.violations (s : ExperimentSettings) : List Violation :=
  if s.numRounds < 1 then [⟨"num_rounds", .range⟩]
  else if (s.evaluation.outOfRange s.numRounds).isSome then [⟨"__all__", .evaluationRound⟩]
  else []

theorem ExperimentSettings.violations_eq_nil_iff (s : ExperimentSettings) :
    s.violations = [] ↔ 1 ≤ s.numRounds ∧ s.evaluation.outOfRange s.numRounds = none := by
  unfold violations
  by_cases h : s.numRounds < 1
  · simp [h, UInt32.not_le.mpr h]
  · cases ho : s.evaluation.outOfRange s.numRounds <;> simp [h, UInt32.not_lt.mp h]

/-- What is invalid in the section. -/
def PollSettings.violations (s : PollSettings) : List Violation :=
  if s.interval < 1 then [⟨"interval", .range⟩] else []

theorem PollSettings.violations_eq_nil_iff (s : PollSettings) :
    s.violations = [] ↔ 1 ≤ s.interval := by
  unfold violations
  by_cases h : s.interval < 1
  · simp [h, UInt64.not_le.mpr h]
  · simp [h, UInt64.not_lt.mp h]

/-- What is invalid in the settings, in the order of the paths. -/
def Settings.violations (s : Settings) : List Violation :=
  s.experiment.violations.map (·.within "experiment") ++ s.poll.violations.map (·.within "poll")

theorem Settings.violations_eq_nil_iff (s : Settings) :
    s.violations = [] ↔ s.experiment.violations = [] ∧ s.poll.violations = [] := by
  simp [violations]

/-! ## Reading -/

/-- How the values of a notation are read: `ν` are its values, `ε` its errors. -/
structure Readers (ν ε : Type) where
  word32 : ν → Except ε UInt32
  word64 : ν → Except ε UInt64
  flag : ν → Except ε Bool
  text : ν → Except ε String
  option {α : Type} : (ν → Except ε α) → ν → Except ε (Option α)
  list {α : Type} : (ν → Except ε α) → ν → Except ε (List α)
  record {α : Type} : Schema ν ε α → ν → Except ε α
  mismatch : Mismatch → ε

variable {ν ε : Type}

/-- The section of an experiment. -/
def Readers.experiment (r : Readers ν ε) : Schema ν ε ExperimentSettings where
  name := "ExperimentSettings"
  fields := ["num_rounds", "clean_models", "eval_rounds", "tag"]
  optionalFields := ["clean_models", "eval_rounds", "tag"]
  defaults := .default
  set acc f v :=
    match f with
    | "num_rounds" => (r.word32 v).map fun n => { acc with numRounds := n }
    | "clean_models" => (r.flag v).map fun b => { acc with cleanModels := b }
    | "eval_rounds" => (r.list r.word32 v).map fun ns => { acc with evalRounds := ns }
    | "tag" => (r.option r.text v).map fun t => { acc with tag := t }
    | _ => .ok acc

/-- The section of the waiting. -/
def Readers.poll (r : Readers ν ε) : Schema ν ε PollSettings where
  name := "PollSettings"
  fields := ["interval", "timeout"]
  optionalFields := ["timeout"]
  defaults := .default
  set acc f v :=
    match f with
    | "interval" => (r.word64 v).map fun n => { acc with interval := n }
    | "timeout" => (r.option r.word64 v).map fun n => { acc with timeout := n }
    | _ => .ok acc

/-- A log filter. -/
def Readers.filter (r : Readers ν ε) (v : ν) : Except ε String :=
  match r.text v with
  | .error e => .error e
  | .ok s => if LogFilter.isValid s then .ok s else .error (r.mismatch .value)

/-- The section of the log. -/
def Readers.log (r : Readers ν ε) : Schema ν ε LoggingSettings where
  name := "LoggingSettings"
  fields := ["filter"]
  optionalFields := []
  defaults := ⟨""⟩
  set acc f v :=
    match f with
    | "filter" => (r.filter v).map fun s => { acc with filter := s }
    | _ => .ok acc

/-- The settings of a program. -/
def Readers.settings (r : Readers ν ε) : Schema ν ε Settings where
  name := "Settings"
  fields := ["experiment", "poll", "log"]
  optionalFields := []
  defaults := ⟨.default, .default, ⟨""⟩⟩
  set acc f v :=
    match f with
    | "experiment" => (r.record r.experiment v).map fun s => { acc with experiment := s }
    | "poll" => (r.record r.poll v).map fun s => { acc with poll := s }
    | "log" => (r.record r.log v).map fun s => { acc with log := s }
    | _ => .ok acc

end Federation
