import Mathlib.Data.List.Induction
import Federation.Proofs.Rendering

/-!
# Experiments that are reconfigured

An experiment can be reconfigured at any time, also after its graph was built, and it can be built
any number of times. Whether it counts as built, its graph, and the queues of its nodes are three
things that have to fit together: a plan is compiled from the queues, while its tasks are described
by the graph.

A build that succeeds makes them fit. Choosing other rounds to evaluate, another name or other
settings keeps them so. Giving the experiment other nodes does not: their queues hold none of the
operations of the graph, and the experiment still counts as built.

* `Experiment.build_cases`: the three ways a build can end;
* `Experiment.change_cases`: why an experiment counts as built after a change;
* `Experiment.Whole.change`: what keeps graph and queues together;
* `Experiment.exists_build_of_built`: an experiment that counts as built was built;
* `Experiment.compiled_plan_whole`: a compiled plan lists the graph as long as no nodes were
  replaced since the last build.
-/

namespace Federation

/-- The configuration of an experiment is wrong, as opposed to what was registered. -/
def ExperimentError.IsConfiguration : ExperimentError → Prop
  | .missingAggregationNode | .noRounds | .evaluationRoundOutOfRange _ _ => True
  | _ => False

namespace Experiment

/-! ## Histories -/

/-- What may be done to an experiment. -/
inductive Change
  /-- Other nodes test. -/
  | testNodes (nodes : List TestNode)
  /-- Another node aggregates. -/
  | aggregationNode (node : AggregationNode)
  /-- Other rounds are evaluated. -/
  | evaluation (evaluation : Evaluation)
  /-- The plan gets another name. -/
  | tag (tag : String)
  /-- Settings are applied. -/
  | settings (s : ExperimentSettings)
  /-- The graph is built, with keys drawn by the given recorder. -/
  | build (r : Recorder)

namespace Change

/-- Whether nodes are replaced. -/
def replacesNodes : Change → Bool
  | .testNodes _ | .aggregationNode _ => true
  | .evaluation _ | .tag _ | .settings _ | .build _ => false

/-- Whether the graph is built. -/
def builds : Change → Bool
  | .build _ => true
  | .testNodes _ | .aggregationNode _ | .evaluation _ | .tag _ | .settings _ => false

end Change

/-- The experiment after one change. -/
def change (e : Experiment) : Change → Experiment
  | .testNodes nodes => e.withTestNodes nodes
  | .aggregationNode node => e.withAggregationNode node
  | .evaluation evaluation => e.withEvaluation evaluation
  | .tag tag => e.withTag tag
  | .settings s => e.withSettings s
  | .build r => (e.build r).state.1

/-- The experiment after a history of changes. -/
def after (e : Experiment) (history : List Change) : Experiment :=
  history.foldl change e

theorem after_append (e : Experiment) (history history' : List Change) :
    e.after (history ++ history') = (e.after history).after history' :=
  List.foldl_append

theorem after_cons (e : Experiment) (c : Change) (history : List Change) :
    e.after (c :: history) = (e.change c).after history := rfl

/-- What all changes of a history keep is kept by the history. -/
theorem after_of_change {I : Experiment → Prop} {e : Experiment} {history : List Change} (h : I e)
    (hc : ∀ c ∈ history, ∀ e, I e → I (e.change c)) : I (e.after history) :=
  List.foldlRecOn history change h fun e he c hmem => hc c hmem e he

variable {e : Experiment} {c : Change}

/-! ## How a build ends -/

/-- The graph is sound and in the queues of the nodes, provided that it counts as built. -/
def Whole (e : Experiment) : Prop :=
  e.built = true → e.graph.Sound ∧ e.recorded.Perm e.graph.positions

/-- The ways in which a build ends. It is refused for the configuration, and nothing changes; it
fails on the way, and the experiment does not count as built any more; or it succeeds. -/
inductive BuildEnds (e : Experiment) (r : Recorder) : Prop
  | refused (err : ExperimentError) (config : err.IsConfiguration)
    (eq : e.build r = ⟨(e, r), .error err⟩)
  | failed (err : ExperimentError) (construction : ¬ err.IsConfiguration)
    (outcome : (e.build r).outcome = .error err) (built : (e.build r).state.1.built = false)
  | succeeded (outcome : (e.build r).outcome = .ok ()) (built : (e.build r).state.1.built = true)
    (sound : (e.build r).state.1.graph.Sound)
    (queued : (e.build r).state.1.recorded.Perm (e.build r).state.1.graph.positions)

theorem isConfiguration_of_configFault? {err : ExperimentError} (h : e.configFault? = some err) :
    err.IsConfiguration := by
  unfold configFault? at h
  split at h
  · obtain rfl := Option.some.inj h
    trivial
  · split at h
    · obtain rfl := Option.some.inj h
      trivial
    · obtain ⟨round, -, rfl⟩ := Option.map_eq_some_iff.mp h
      trivial

theorem not_isConfiguration_of_build {r : Recorder} {err : ExperimentError}
    (hconfig : e.configFault? = none) (hout : (e.build r).outcome = .error err) :
    ¬ err.IsConfiguration := by
  simp only [Experiment.build, hconfig] at hout
  split at hout
  · obtain rfl := Except.error.inj hout
    exact id
  · unfold finish at hout
    split at hout
    · obtain rfl := Except.error.inj hout
      exact id
    · cases hout

theorem build_cases (e : Experiment) (r : Recorder) : e.BuildEnds r := by
  cases hconfig : e.configFault? with
  | some err =>
    refine .refused err (isConfiguration_of_configFault? hconfig) ?_
    simp only [Experiment.build, hconfig]
  | none =>
    cases hout : (e.build r).outcome with
    | error err =>
      exact .failed err (not_isConfiguration_of_build hconfig hout) hout
        (not_built_of_error hconfig hout)
    | ok u =>
      have hbuildable := buildable_of_build hout
      obtain ⟨a, -, -, hbuilt, hfollows⟩ := hbuildable.build r
      have hsound := Blueprint.sound hfollows.graph hfollows.valid
        (hbuildable.trains.imp_right Nat.le_of_eq)
      exact .succeeded hout hbuilt hsound hfollows.queued

/-- A build that failed was refused, or the experiment does not count as built any more. -/
theorem failed_build_cases (e : Experiment) {r : Recorder} {err : ExperimentError}
    (h : (e.build r).outcome = .error err) :
    (err.IsConfiguration ∧ (e.build r).state.1 = e) ∨
      (¬ err.IsConfiguration ∧ (e.build r).state.1.built = false) := by
  cases e.build_cases r with
  | refused err' config eq =>
    rw [eq] at h
    obtain rfl := Except.error.inj h
    exact .inl ⟨config, by rw [eq]⟩
  | failed err' construction outcome built =>
    obtain rfl := Except.error.inj (outcome.symm.trans h)
    exact .inr ⟨construction, built⟩
  | succeeded outcome built sound queued => exact absurd (outcome.symm.trans h) (by simp)

theorem whole_of_build {r : Recorder} (hout : (e.build r).outcome = .ok ()) :
    (e.build r).state.1.Whole := by
  cases e.build_cases r with
  | refused err config eq =>
    rw [eq] at hout
    cases hout
  | failed err construction outcome built => exact absurd (outcome.symm.trans hout) (by simp)
  | succeeded outcome built sound queued => exact fun _ => ⟨sound, queued⟩

/-- An experiment that counts as built after a change was built by it, or it counted as built before
and has the same graph; then its queues are the same too, unless nodes were replaced. -/
theorem change_cases (hb : (e.change c).built = true) :
    (∃ r, c = .build r ∧ (e.build r).outcome = .ok ()) ∨
      (e.built = true ∧ (e.change c).graph = e.graph ∧
        (c.replacesNodes = false → (e.change c).recorded = e.recorded)) := by
  cases c with
  | build r =>
    have hbuilt : (e.build r).state.1.built = true := hb
    cases e.build_cases r with
    | refused err config eq =>
      have hsame : e.change (.build r) = e := by
        show (e.build r).state.1 = e
        rw [eq]
      rw [hsame] at hb ⊢
      exact .inr ⟨hb, rfl, fun _ => rfl⟩
    | failed err construction outcome built => exact absurd (built.symm.trans hbuilt) (by simp)
    | succeeded outcome built sound queued => exact .inl ⟨r, rfl, outcome⟩
  | testNodes _ | aggregationNode _ =>
    exact .inr ⟨hb, rfl, fun hk => by simp [Change.replacesNodes] at hk⟩
  | evaluation _ | tag _ | settings _ => exact .inr ⟨hb, rfl, fun _ => rfl⟩

/-- A change that replaces no nodes keeps the graph in the queues. -/
theorem Whole.change (h : e.Whole) (hk : c.replacesNodes = false) : (e.change c).Whole := by
  intro hb
  obtain ⟨r, rfl, hout⟩ | ⟨hbuilt, hgraph, hrecorded⟩ := change_cases hb
  · exact whole_of_build hout hb
  · rw [hgraph, hrecorded hk]
    exact h hbuilt

/-- The graph of an experiment that counts as built stays sound, whatever happens to its nodes. -/
theorem sound_change (h : e.built = true → e.graph.Sound) :
    (e.change c).built = true → (e.change c).graph.Sound := by
  intro hb
  obtain ⟨r, rfl, hout⟩ | ⟨hbuilt, hgraph, -⟩ := change_cases hb
  · exact (whole_of_build hout hb).1
  · rw [hgraph]
    exact h hbuilt

/-- An experiment that counts as built was built. -/
theorem exists_build_of_built (hstart : e.built = false) {history : List Change}
    (h : (e.after history).built = true) :
    ∃ before r later, history = before ++ .build r :: later ∧
      ((e.after before).build r).outcome = .ok () := by
  -- from the last change back: a change that is no such build leaves an earlier one in force
  induction history using List.reverseRecOn with
  | nil => exact absurd (hstart.symm.trans h) (by simp)
  | append_singleton history c ih =>
    rw [after_append] at h
    obtain ⟨r, rfl, hout⟩ | ⟨hbuilt, -, -⟩ := change_cases h
    · exact ⟨history, r, [], rfl, hout⟩
    · obtain ⟨before, r, later, rfl, hout⟩ := ih hbuilt
      exact ⟨before, r, later ++ [c], by simp, hout⟩

/-! ## Compiled plans -/

/-- **When a compiled plan is the whole graph.** Whatever was done to an experiment, if it can be
compiled then it was built, and its plan lists its graph exactly when every operation of the graph
is in one of the queues of the nodes, once. This is so as long as no nodes were replaced since it
was built, and then all keys that the tasks name are keys of tasks of the plan. -/
theorem compiled_plan_whole (strategy : FederatedAveraging) (trainNodes : List TrainNode)
    (numRounds : Round) (history : List Change) (now : Timestamp) {plan : Plan}
    (compiled : ((new strategy trainNodes numRounds).after history).compile now = .ok plan) :
    let start := new strategy trainNodes numRounds
    let e := start.after history
    (plan.Lists e.graph ↔ e.recorded.Perm e.graph.positions) ∧
      (∃ before r later, history = before ++ .build r :: later ∧
        ((start.after before).build r).outcome = .ok ()) ∧
      ∀ before r later, history = before ++ .build r :: later →
        ((start.after before).build r).outcome = .ok () →
        (∀ c ∈ later, c.replacesNodes = false) →
          plan.Lists e.graph ∧ ∀ t ∈ plan.tasks, ∀ k ∈ t.inputs, ∃ u ∈ plan.tasks, u.key = k := by
  intro start e
  have hbuilt : e.built = true := (compile_eq_ok_iff.mp compiled).1
  have hsound : e.graph.Sound := by
    have hkept : e.built = true → e.graph.Sound :=
      after_of_change (I := fun e => e.built = true → e.graph.Sound)
        (fun h => absurd h (by simp [start, new])) fun c _ e => sound_change
    exact hkept hbuilt
  have hlists := lists_iff_of_compile hsound compiled
  refine ⟨hlists, exists_build_of_built rfl hbuilt, fun before r later hsplit hout hkept => ?_⟩
  have hwhole : e.Whole := by
    have hnow : e = ((start.after before).build r).state.1.after later := by
      simp only [e, hsplit, after_append, after_cons]
      rfl
    rw [hnow]
    exact after_of_change (whole_of_build hout) fun c hc e he => he.change (hkept c hc)
  have hall := hlists.mpr (hwhole hbuilt).2
  exact ⟨hall, fun t ht k hk => hall.closed ht hk⟩

/-- Two members that train for two rounds. -/
def pair : Experiment :=
  new (.new default) [.new ⟨"first"⟩ default [], .new ⟨"second"⟩ default []] 2

/-- The first of the two members tests and aggregates. -/
def pairChosen : List Change :=
  [.testNodes [.new ⟨"first"⟩ default [] []], .aggregationNode (.new ⟨"first"⟩)]

theorem build_pairChosen (r : Recorder) : ((pair.after pairChosen).build r).outcome = .ok () := by
  obtain ⟨_, -, hout, -⟩ := buildable_twoRounds.build r
  exact hout

/-- The graph is built, and then the plan gets a name. -/
theorem compiled_plan_whole_of_pair :
    let history := pairChosen ++ [.build .new, .tag "pair"]
    ∃ plan, (pair.after history).compile ⟨2024, 1, 1, 0, 0, 0⟩ = .ok plan ∧
      plan.Lists (pair.after history).graph ∧
      ∀ t ∈ plan.tasks, ∀ k ∈ t.inputs, ∃ u ∈ plan.tasks, u.key = k := by
  intro history
  have hok : ((pair.after history).compile ⟨2024, 1, 1, 0, 0, 0⟩).toOption.isSome = true := rfl
  obtain ⟨plan, hplan⟩ := Option.isSome_iff_exists.mp hok
  have hcompiled : (pair.after history).compile ⟨2024, 1, 1, 0, 0, 0⟩ = .ok plan := by
    generalize (pair.after history).compile ⟨2024, 1, 1, 0, 0, 0⟩ = x at hplan ⊢
    cases x with
    | error err => simp [Except.toOption] at hplan
    | ok q => exact congrArg Except.ok (Option.some.inj hplan)
  unfold pair at hcompiled ⊢
  obtain ⟨-, -, hwhole⟩ := compiled_plan_whole _ _ _ history _ hcompiled
  have hsplit : history = pairChosen ++ .build .new :: [.tag "pair"] := rfl
  have hkept : ∀ c ∈ [Change.tag "pair"], c.replacesNodes = false := by
    simp [Change.replacesNodes]
  have hall := hwhole _ _ _ hsplit (build_pairChosen .new) hkept
  exact ⟨plan, hcompiled, hall⟩

/-- Another member aggregates after the graph was built: the plan has no task for the aggregation,
while its trainings still name it. -/
theorem plan_without_aggregation :
    let e := pair.after (pairChosen ++ [.build .new, .aggregationNode (.new ⟨"second"⟩)])
    ∃ plan, e.compile ⟨2024, 1, 1, 0, 0, 0⟩ = .ok plan ∧ ¬ plan.Lists e.graph ∧
      ∃ t ∈ plan.tasks, ∃ k ∈ t.inputs, ∀ u ∈ plan.tasks, u.key ≠ k := by
  intro e
  have hdangling : ((e.compile ⟨2024, 1, 1, 0, 0, 0⟩).toOption.any fun plan =>
      plan.tasks.any fun t => t.inputs.any fun k => plan.tasks.all fun u => u.key ≠ k) = true := by
    decide +kernel
  cases hplan : e.compile ⟨2024, 1, 1, 0, 0, 0⟩ with
  | error err => simp [hplan, Except.toOption] at hdangling
  | ok plan =>
    obtain ⟨t, ht, k, hk, hnone⟩ : ∃ t ∈ plan.tasks, ∃ k ∈ t.inputs, ∀ u ∈ plan.tasks,
        u.key ≠ k := by
      simpa [hplan, Except.toOption] using hdangling
    have hnot : ¬ plan.Lists e.graph := fun hlists => by
      obtain ⟨u, hu, huk⟩ := hlists.closed ht hk
      exact hnone u hu huk
    exact ⟨plan, rfl, hnot, t, ht, k, hk, hnone⟩

end Experiment

end Federation
