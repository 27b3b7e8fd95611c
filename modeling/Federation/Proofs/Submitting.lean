import Federation.Proofs.Reconfiguring
import Federation.Rehearsal.Run

/-!
# Submitting after a failed build

An experiment is submitted as the plan that it is compiled into; if it cannot be compiled, no
backend is asked. A build that fails while operations are registered leaves nothing to compile. But
a build that is refused for the configuration changes nothing at all, so the graph of an earlier
build stays in force, and it can still be submitted.

* `Experiment.submit`, `Experiment.submitExperiment_eq`: submitting to any backend;
* `Experiment.compile_eq_notBuilt_iff`: when there is nothing to compile;
* `Experiment.notBuilt_iff_of_failed_build`: when there is nothing to compile after a failed build.
-/

namespace Federation

namespace Experiment

variable {e : Experiment}

/-! ## Submitting -/

/-- Submits an experiment to a backend, which is given by what it does with a plan. -/
def submit {σ : Type} (e : Experiment) (accept : Plan → σ → Except BackendError PlanKey × σ)
    (now : Timestamp) (s : σ) : Except ExperimentError (PlanHandle × Notice) × σ :=
  match e.submission now with
  | .error err => (.error err, s)
  | .ok (p, handle) =>
    let (answer, s) := accept p s
    (PlanHandle.ofSubmission handle answer, s)

/-- In a world, an experiment is submitted in this way; then the world keeps the notice, and
remembers the plan. -/
theorem submitExperiment_eq (w : World) (number : Nat) (e : Experiment) (now : Timestamp) :
    w.submitExperiment number e now =
      match e.submit (fun p w => w.submit number p) now w with
      | (.error err, w) => (.error err, w)
      | (.ok (handle, notice), w) =>
        (.ok handle, (w.note [notice]).remember number handle.plan) := by
  unfold World.submitExperiment Experiment.submit
  cases e.submission now with
  | error err => rfl
  | ok s =>
    obtain ⟨p, handle⟩ := s
    simp only [World.submitCompiled, World.submitTo]
    generalize w.submit number p = a
    obtain ⟨answer, w'⟩ := a
    cases answer <;> rfl

/-! ## When there is nothing to compile -/

theorem tasksOf_ne_notBuilt (g : Graph) (ids : List OperationId) :
    tasksOf g ids ≠ .error .notBuilt := by
  induction ids with
  | nil => simp [tasksOf]
  | cons id rest ih =>
    unfold tasksOf
    cases g.get? id with
    | none => simp
    | some op =>
      dsimp only
      cases Task.ofOperation op g with
      | error err => simp
      | ok t =>
        generalize tasksOf g rest = others at ih ⊢
        cases others with
        | error err => simpa using ih
        | ok ts => simp

/-- There is nothing to compile exactly when the experiment does not count as built. -/
theorem compile_eq_notBuilt_iff (e : Experiment) (now : Timestamp) :
    e.compile now = .error .notBuilt ↔ e.built = false := by
  constructor
  · intro h
    cases hbuilt : e.built with
    | false => rfl
    | true =>
      have hne := tasksOf_ne_notBuilt e.graph e.recorded
      simp only [compile, hbuilt, if_true] at h
      generalize tasksOf e.graph e.recorded = tasks at h hne
      cases tasks with
      | error err => exact absurd (congrArg Except.error (Except.error.inj h)) hne
      | ok ts => simp at h
  · exact fun h => compile_of_not_built h now

theorem submit_of_notBuilt {σ : Type} {now : Timestamp} (h : e.compile now = .error .notBuilt)
    (accept : Plan → σ → Except BackendError PlanKey × σ) (s : σ) :
    e.submit accept now s = (.error .notBuilt, s) := by
  simp only [submit, submission, h, Except.map]

/-! ## After a failed build -/

/-- Without builds, an experiment counts as built if it did before, and its graph stays. -/
theorem built_after {history : List Change} (h : ∀ c ∈ history, c.builds = false) :
    (e.after history).built = e.built ∧ (e.after history).graph = e.graph := by
  refine after_of_change (I := fun e' => e'.built = e.built ∧ e'.graph = e.graph) ⟨rfl, rfl⟩ ?_
  intro c hc e' he'
  have hbuilds := h c hc
  cases c with
  | build r => simp [Change.builds] at hbuilds
  | testNodes _ | aggregationNode _ | evaluation _ | tag _ | settings _ => exact he'

/-- **When there is no plan after a failed build.** Whatever was done to an experiment before, and
however it is reconfigured afterwards, as long as it is not built again: after a build that failed
there is nothing to compile exactly when the build got past the configuration, or there was nothing
to compile before it either. Nothing is submitted to any backend then. A build that was refused for
the configuration leaves the graph of an earlier build in force. -/
theorem notBuilt_iff_of_failed_build (strategy : FederatedAveraging) (trainNodes : List TrainNode)
    (numRounds : Round) (before later : List Change) (r : Recorder) (now : Timestamp)
    {err : ExperimentError}
    (failed : (((new strategy trainNodes numRounds).after before).build r).outcome = .error err)
    (unbuilt : ∀ c ∈ later, c.builds = false) :
    let start := new strategy trainNodes numRounds
    let previous := start.after before
    let e := start.after (before ++ .build r :: later)
    (e.compile now = .error .notBuilt ↔
      ¬ err.IsConfiguration ∨ previous.compile now = .error .notBuilt) ∧
    (e.compile now = .error .notBuilt → ∀ (σ : Type)
      (accept : Plan → σ → Except BackendError PlanKey × σ) (s : σ),
        e.submit accept now s = (.error .notBuilt, s)) ∧
    (err.IsConfiguration → e.graph = previous.graph) := by
  intro start previous e
  have hnow : e = (previous.build r).state.1.after later := by
    simp only [e, after_append, after_cons]
    rfl
  obtain ⟨hbuilt, hgraph⟩ := built_after (e := (previous.build r).state.1) unbuilt
  rw [← hnow] at hbuilt hgraph
  rw [compile_eq_notBuilt_iff, compile_eq_notBuilt_iff, hbuilt, hgraph]
  refine ⟨?_, fun hnone σ accept s => ?_, fun hconfig => ?_⟩
  · rcases previous.failed_build_cases failed with ⟨hconfig, hsame⟩ | ⟨hconfig, hnone⟩
    · simp [hsame, hconfig]
    · simp [hnone, hconfig]
  · exact submit_of_notBuilt ((compile_eq_notBuilt_iff e now).mpr (hbuilt.trans hnone)) accept s
  · rcases previous.failed_build_cases failed with ⟨-, hsame⟩ | ⟨hconstruction, -⟩
    · rw [hsame]
    · exact absurd hconfig hconstruction

/-- A member that does not train shall test, after the graph was built: the next build fails on the
way, and there is nothing to compile or to submit, whatever name the plan gets. -/
theorem notBuilt_of_unmatched_test :
    let before := pairChosen ++ [.build .new, .testNodes [.new ⟨"third"⟩ default [] []]]
    let e := pair.after (before ++ [.build .new, .tag "pair"])
    ((pair.after before).build .new).outcome =
        .error (.strategy (.noMatchingTrainNode ⟨"third"⟩)) ∧
      e.compile ⟨2024, 1, 1, 0, 0, 0⟩ = .error .notBuilt := by
  intro before e
  have failed : ((pair.after before).build .new).outcome =
      .error (.strategy (.noMatchingTrainNode ⟨"third"⟩)) := by decide +kernel
  have unbuilt : ∀ c ∈ [Change.tag "pair"], c.builds = false := by simp [Change.builds]
  unfold pair at failed
  obtain ⟨hiff, -, -⟩ := notBuilt_iff_of_failed_build _ _ _ before [.tag "pair"] .new
    ⟨2024, 1, 1, 0, 0, 0⟩ failed unbuilt
  exact ⟨failed, hiff.mpr (.inl id)⟩

/-- Rounds that the experiment does not have shall be evaluated, after the graph was built: the next
build is refused, and yet the experiment is compiled, and a backend is given the plan. -/
theorem submitted_after_refused_build :
    let previous := pair.after (pairChosen ++ [.build .new, .evaluation (.atRounds [5])])
    let e := previous.change (.build .new)
    let calls := (e.submit (fun p calls => (.ok (.drawn 0), calls ++ [p]))
      ⟨2024, 1, 1, 0, 0, 0⟩ []).2
    (previous.build .new).outcome = .error (.evaluationRoundOutOfRange 5 2) ∧
      ∃ plan, e.compile ⟨2024, 1, 1, 0, 0, 0⟩ = .ok plan ∧ calls = [plan] := by
  intro previous e calls
  have hok : (e.compile ⟨2024, 1, 1, 0, 0, 0⟩).toOption.isSome = true := rfl
  refine ⟨rfl, ?_⟩
  cases hplan : e.compile ⟨2024, 1, 1, 0, 0, 0⟩ with
  | error err => simp [hplan, Except.toOption] at hok
  | ok plan => exact ⟨plan, rfl, by simp [calls, submit, submission, hplan, Except.map]⟩

end Experiment

end Federation
