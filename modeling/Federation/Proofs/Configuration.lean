import Federation.Proofs.Reconfiguring
import Federation.Proofs.Selection
import Federation.Settings.Loading

/-!
# Settings and the experiments that they configure

What is wrong with the settings of an experiment is said twice: settings are looked at when they
are loaded, and the configuration of an experiment when its graph is built. Between the two, the
list of rounds to evaluate becomes a choice of rounds.

Both say the same. Each error of the configuration that is no fault of the nodes stands for one
violation of the settings (`ExperimentError.violation?`), and the violations of settings are those
that a build with these settings stops at.

* `Experiment.violation?_eq`: a build stops at what is wrong with the configuration, and later
  errors say nothing about the settings;
* `ExperimentSettings.violations_eq`: the violations of settings, from any build with them;
* `ExperimentSettings.buildable`: valid settings make an experiment with suitable nodes buildable;
* `validation_agrees_with_build`: both directions, and what follows for settings that were loaded.
-/

namespace Federation

/-! ## What a build says about the settings -/

/-- The violation of the settings that an error of an experiment stands for. -/
def ExperimentError.violation? : ExperimentError → Option Violation
  | .noRounds => some ⟨"num_rounds", .range⟩
  | .evaluationRoundOutOfRange _ _ => some ⟨"__all__", .evaluationRound⟩
  | _ => none

/-- Only errors of the configuration stand for violations. -/
theorem ExperimentError.violation?_of_not_isConfiguration {err : ExperimentError}
    (h : ¬ err.IsConfiguration) : err.violation? = none := by
  cases err with
  | noRounds => exact absurd trivial h
  | evaluationRoundOutOfRange q n => exact absurd trivial h
  | _ => rfl

namespace Experiment

/-- The violation of the settings that a build stops at. -/
def violation? (e : Experiment) (r : Recorder) : Option Violation :=
  match (e.build r).outcome with
  | .error err => err.violation?
  | .ok () => none

variable {e : Experiment} {r : Recorder}

/-- A build stops at a violation before any round is registered. -/
theorem violation?_eq : e.violation? r = e.configFault?.bind ExperimentError.violation? := by
  cases hconfig : e.configFault? with
  | some err =>
    simp only [violation?, build, hconfig]
    rfl
  | none =>
    cases hout : (e.build r).outcome with
    | ok u =>
      simp only [violation?, hout]
      rfl
    | error err =>
      simp only [violation?, hout]
      exact ExperimentError.violation?_of_not_isConfiguration
        (not_isConfiguration_of_build hconfig hout)

theorem violation?_eq_none_iff : e.violation? r = none ↔
    (e.build r).outcome ≠ .error .noRounds ∧
      ∀ q n, (e.build r).outcome ≠ .error (.evaluationRoundOutOfRange q n) := by
  unfold violation?
  cases (e.build r).outcome with
  | ok u => simp
  | error err => cases err <;> simp [ExperimentError.violation?]

theorem violation?_eq_range_iff : e.violation? r = some ⟨"num_rounds", .range⟩ ↔
    (e.build r).outcome = .error .noRounds := by
  unfold violation?
  cases (e.build r).outcome with
  | ok u => simp
  | error err => cases err <;> simp [ExperimentError.violation?]

end Experiment

/-! ## What the settings say themselves -/

namespace ExperimentSettings

variable {s : ExperimentSettings} {e : Experiment} {r : Recorder}

/-- What is wrong with an experiment that somebody aggregates, if it has just got its settings. -/
theorem configFault?_withSettings (h : e.aggregator.isSome = true) :
    (e.withSettings s).configFault? =
      if s.numRounds < 1 then some .noRounds
      else
        (s.evaluation.outOfRange s.numRounds).map (.evaluationRoundOutOfRange · s.numRounds) := by
  have hnone : e.aggregator.isNone = false := by simpa using h
  have hzero : s.numRounds = 0 ↔ s.numRounds < 1 := by
    rw [← UInt32.toNat_inj, UInt32.lt_iff_toNat_lt]
    exact Nat.lt_one_iff.symm
  simp only [Experiment.configFault?, Experiment.withSettings, hnone, Bool.and_false,
    Bool.false_eq_true, if_false, hzero]

/-- **The violations of settings are those that a build with them stops at.** -/
theorem violations_eq (h : e.aggregator.isSome = true) :
    s.violations = ((e.withSettings s).violation? r).toList := by
  rw [Experiment.violation?_eq, configFault?_withSettings h, violations]
  by_cases hrounds : s.numRounds < 1
  · simp [hrounds, ExperimentError.violation?]
  · cases s.evaluation.outOfRange s.numRounds <;> simp [hrounds, ExperimentError.violation?]

/-- Valid settings leave it to the nodes whether an experiment can be built. -/
theorem buildable (valid : s.violations = []) (aggregates : e.aggregator.isSome = true)
    (trains : e.trainNodes ≠ [])
    (matched : ∀ t ∈ e.testNodes, (e.trainNodes.filter fun n => n.id = t.id).length = 1) :
    (e.withSettings s).Buildable := by
  obtain ⟨hrounds, hrange⟩ := s.violations_eq_nil_iff.mp valid
  exact ⟨aggregates, hrounds, Experiment.outOfRange_eq_none_iff.mp hrange, .inl trains, matched⟩

/-- Valid settings select all rounds that they ask for. -/
theorem mem_rounds (valid : s.violations = []) {q : Round} (hq : q ∈ s.evalRounds) :
    q ∈ s.evaluation.rounds s.numRounds :=
  Evaluation.outOfRange_eq_none_iff_subset.mp (s.violations_eq_nil_iff.mp valid).2 q
    (Evaluation.mem_requested.mpr hq)

end ExperimentSettings

/-- **Validation and builds agree.** For all settings of an experiment and all experiments that
somebody aggregates: the settings are valid if and only if a build with them is not refused for
having no round or a round to evaluate that is out of range, and they are blamed for the number of
rounds if and only if a build is refused for having no round. So settings that were loaded, from
whatever files and under whatever environment, have an interval of at least a second, and an
experiment with nodes that train, a node that aggregates and nodes that test, each of a member with
exactly one node that trains, is built with them; every round that they list is evaluated, with one
test on each node that tests. -/
theorem validation_agrees_with_build :
    (∀ (s : ExperimentSettings) (e : Experiment) (r : Recorder), e.aggregator.isSome = true →
      let outcome := ((e.withSettings s).build r).outcome
      (s.violations = [] ↔ outcome ≠ .error .noRounds ∧
        ∀ q n, outcome ≠ .error (.evaluationRoundOutOfRange q n)) ∧
      (⟨"num_rounds", .range⟩ ∈ s.violations ↔ outcome = .error .noRounds)) ∧
    ∀ (files : Files) (path : String) (environment : List (String × String)) (settings : Settings),
      Settings.load files path environment = .ok settings →
        1 ≤ settings.poll.interval ∧
        ∀ (e : Experiment) (r : Recorder), e.aggregator.isSome = true → e.trainNodes ≠ [] →
          (∀ t ∈ e.testNodes, (e.trainNodes.filter fun n => n.id = t.id).length = 1) →
          let s := settings.experiment
          let b := (e.withSettings s).build r
          b.outcome = .ok () ∧ ∀ q ∈ s.evalRounds, q ∈ s.evaluation.rounds s.numRounds ∧
            b.state.1.graph.tests.filter (fun t => t.1 = q) =
              e.testNodes.map fun t => (q, t.id) := by
  constructor
  · intro s e r aggregates outcome
    rw [ExperimentSettings.violations_eq aggregates (r := r)]
    refine ⟨?_, ?_⟩
    · rw [Option.toList_eq_nil_iff]
      exact Experiment.violation?_eq_none_iff
    · rw [Option.mem_toList]
      exact Experiment.violation?_eq_range_iff
  · intro files path environment settings hload
    obtain ⟨hexperiment, hpoll⟩ := settings.violations_eq_nil_iff.mp (Settings.load_valid hload)
    refine ⟨settings.poll.violations_eq_nil_iff.mp hpoll, ?_⟩
    intro e r aggregates trains matched s b
    have hbuildable : (e.withSettings s).Buildable :=
      ExperimentSettings.buildable hexperiment aggregates trains matched
    obtain ⟨-, -, built, -⟩ := hbuildable.build r
    refine ⟨built, fun q hq => ?_⟩
    have hselected := ExperimentSettings.mem_rounds hexperiment hq
    exact ⟨hselected, Experiment.tests_of_round built hselected⟩

/-! ## Settings from an environment -/

namespace Settings

/-- An environment that gives all settings that are needed, and asks for one round. -/
def threeRoundsEnvironment : List (String × String) :=
  [("FEDPLAN_EXPERIMENT__NUM_ROUNDS", "3"), ("FEDPLAN_EXPERIMENT__EVAL_ROUNDS[0]", "1"),
    ("FEDPLAN_POLL__INTERVAL", "2"), ("FEDPLAN_LOG__FILTER", "info")]

/-- The texts of this environment, as a table. -/
def threeRoundsTable : Setting :=
  .table
    [("experiment", .table [("num_rounds", .text "3"), ("eval_rounds", .list [.text "1"])]),
      ("poll", .table [("interval", .text "2")]), ("log", .table [("filter", .text "info")])]

/-- What this environment gives. -/
def threeRounds : Settings where
  experiment := ⟨3, true, [1], none⟩
  poll := ⟨2, none⟩
  log := ⟨"info"⟩

theorem overlay_threeRounds : overlay [] threeRoundsEnvironment = .ok threeRoundsTable := by
  have hrounds : variablePath? "FEDPLAN_EXPERIMENT__NUM_ROUNDS" =
      some (.child (.name "experiment") "num_rounds") := by decide +kernel
  have hasked : variablePath? "FEDPLAN_EXPERIMENT__EVAL_ROUNDS[0]" =
      some (.item (.child (.name "experiment") "eval_rounds") 0) := by decide +kernel
  have hinterval : variablePath? "FEDPLAN_POLL__INTERVAL" =
      some (.child (.name "poll") "interval") := by decide +kernel
  have hfilter : variablePath? "FEDPLAN_LOG__FILTER" =
      some (.child (.name "log") "filter") := by decide +kernel
  simp only [overlay, threeRoundsEnvironment, List.filterMap_cons, List.filterMap_nil, hrounds,
    hasked, hinterval, hfilter, Option.map_some]
  rfl

/-- The environment makes up for an empty file. -/
theorem load_threeRounds :
    load [("plan.toml", "")] "plan" threeRoundsEnvironment = .ok threeRounds := by
  have hfile : Files.settings? [("plan.toml", "")] "plan" = some "" := rfl
  have hread : (Setting.readTable readers.settings threeRoundsTable).toOption =
      some threeRounds := by decide +kernel
  have htable : Setting.readTable readers.settings threeRoundsTable = .ok threeRounds := by
    generalize Setting.readTable readers.settings threeRoundsTable = result at hread
    cases result with
    | error err => cases hread
    | ok settings => exact congrArg Except.ok (Option.some.inj hread)
  have hvalid : threeRounds.violations = [] := by decide
  simp only [load, read, hfile, Toml.Document.ofText?_empty, overlay_threeRounds, htable, hvalid,
    if_true]

end Settings

open Experiment in
/-- Settings without a round are blamed for it, and a build with them is refused for it. With the
settings that are loaded from the environment, the experiment of two members is built, and the
second of its three rounds is evaluated by its one test. -/
theorem validation_of_threeRounds :
    let noRounds : ExperimentSettings := ⟨0, true, [], none⟩
    ⟨"num_rounds", .range⟩ ∈ noRounds.violations ∧
      ((twoRounds.withSettings noRounds).build .new).outcome = .error .noRounds ∧
      Settings.load [("plan.toml", "")] "plan" Settings.threeRoundsEnvironment =
        .ok Settings.threeRounds ∧
      1 ≤ Settings.threeRounds.poll.interval ∧
      ((twoRounds.withSettings Settings.threeRounds.experiment).build .new).outcome = .ok () ∧
      ((twoRounds.withSettings
        Settings.threeRounds.experiment).build .new).state.1.graph.tests.filter
          (fun t => t.1 = 1) = [(1, ⟨"first"⟩)] := by
  intro noRounds
  obtain ⟨hsettings, hload⟩ := validation_agrees_with_build
  have aggregates : twoRounds.aggregator.isSome = true := rfl
  have hviolation : ⟨"num_rounds", .range⟩ ∈ noRounds.violations := by decide
  have hrefused := (hsettings noRounds twoRounds .new aggregates).2.mp hviolation
  obtain ⟨hinterval, hbuilds⟩ := hload _ _ _ _ Settings.load_threeRounds
  obtain ⟨built, htests⟩ := hbuilds twoRounds .new aggregates (List.cons_ne_nil _ _)
    buildable_twoRounds.matched
  obtain ⟨-, hround⟩ := htests 1 (List.mem_singleton_self _)
  exact ⟨hviolation, hrefused, Settings.load_threeRounds, hinterval, built, hround⟩

end Federation
