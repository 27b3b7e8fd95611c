import Federation.Proofs.Simulation

/-!
# What an experiment means

An experiment is built into a graph, compiled into a plan, and executed by a backend. Between the
nodes that train and the scores that come out there are references to operations, keys of tasks,
three sorted lists and a store that drops what nobody needs. All in all, the backend reports what
federated averaging computes by itself.

* `Experiment.execution_computes_averaging`: the end-to-end theorem;
* `Experiment.execution_of_twoRounds`: an experiment of two members and two rounds.
-/

namespace Federation

open LocalBackend (Event Uninterrupted turns)

namespace Experiment

/-- The plan of an experiment that was built: it keeps the choice whether to clean models, a backend
accepts it, and its tasks are those of the blueprint, in the order of the graph. -/
theorem exists_tasks (e : Experiment) {r : Recorder} (built : (e.build r).outcome = .ok ())
    (now : Timestamp) :
    ∃ a plan, e.aggregator = some a ∧ (e.build r).state.1.compile now = .ok plan ∧
      plan.cleanModels = e.cleanModels ∧ plan.fault? = none ∧
      (e.blueprint a.id r.drawn).Matched ∧
      plan.tasks = (e.blueprint a.id r.drawn).tasks e.numRounds.toNat := by
  have hbuildable := buildable_of_build built
  obtain ⟨a, ha, -, hbuilt, hfollows⟩ := hbuildable.build r
  have hm : (e.blueprint a.id r.drawn).Matched := hbuildable.matched
  obtain ⟨plan, hcompile, htasks, hclean, hpermissions⟩ := hfollows.compile hbuilt now
  have hchoice : (e.build r).state.1.cleanModels = e.cleanModels :=
    congrArg (fun c => c.2.2.1) (e.choices_build r)
  exact ⟨a, plan, ha, hcompile, hclean.trans hchoice, hfollows.accepted hm htasks hpermissions, hm,
    htasks⟩

/-- The result of this plan is that of the averaging. -/
theorem exists_plan (e : Experiment) {r : Recorder} (built : (e.build r).outcome = .ok ())
    (now : Timestamp) :
    ∃ plan, (e.build r).state.1.compile now = .ok plan ∧ plan.cleanModels = e.cleanModels ∧
      plan.fault? = none ∧ ∀ answers,
        Refines (fun scores averaged => scores.map Performance.score = averaged)
          (Execution.run (.pure answers) () plan).2 (e.setup.scores answers e.numRounds.toNat) := by
  obtain ⟨a, plan, -, hcompile, hclean, haccepted, hm, htasks⟩ := e.exists_tasks built now
  exact ⟨plan, hcompile, hclean, haccepted, fun answers => Blueprint.refines_run _ hm htasks⟩

/-- **What an experiment means.** Take any experiment that can be built, compile it, and let a
backend execute the plan against algorithms that are functions of their arguments, with anything
else going on but a cancellation of the plan. The backend accepts the plan, finishes it after enough
steps, and when it is finished the plan is done, with the scores of federated averaging in order, or
it failed without scores because a step of the averaging fails. -/
theorem execution_computes_averaging (e : Experiment) (r : Recorder)
    (built : (e.build r).outcome = .ok ()) (now : Timestamp) (answers : Answers) (b : LocalBackend)
    (key : PlanKey) :
    ∃ plan, (e.build r).state.1.compile now = .ok plan ∧ plan.cleanModels = e.cleanModels ∧
      plan.fault? = none ∧ ∀ history, Uninterrupted key answers history →
        let b' := (b.step (.submit key plan)).after history
        (2 * plan.size + 3 ≤ turns key history → b'.isFinished key = true) ∧
        (b'.isFinished key = true →
          match e.setup.scores answers e.numRounds.toNat with
          | .ok scores => b'.status key = .ok .done ∧
              ∃ performances, b'.performances key = .ok performances ∧
                performances.map Performance.score = scores
          | .error _ => b'.status key = .ok .failed ∧ b'.performances key = .ok []) := by
  obtain ⟨plan, hcompile, hclean, haccepted, hresult⟩ := e.exists_plan built now
  refine ⟨plan, hcompile, hclean, haccepted, fun history hh => ⟨fun hn => ?_, fun hf => ?_⟩⟩
  · exact b.isFinished_of_turns haccepted hh hn
  · obtain ⟨hstatus, hperformances⟩ := b.result_of_finished haccepted hh hf
    have hrefines := hresult answers
    rw [hstatus, hperformances, Plan.outcome]
    generalize (Execution.run (.pure answers) () plan).2 = result at hrefines ⊢
    generalize e.setup.scores answers e.numRounds.toNat = averaged at hrefines ⊢
    cases hrefines with
    | error f => cases f <;> exact ⟨rfl, rfl⟩
    | ok hscores => exact ⟨rfl, _, rfl, hscores⟩

/-- An algorithm that learns nothing and always scores the same. -/
def constantAnswers (value : Float) : Answers
  | .train .. => .ok (⟨[]⟩, ⟨[], 1⟩)
  | .score .. => .ok value

/-- The plan of the two rounds, executed to its end, reports the one score of the last round. -/
theorem execution_of_twoRounds :
    let key := PlanKey.drawn 0
    let answers := constantAnswers 0.5
    let now : Timestamp := ⟨2024, 1, 1, 0, 0, 0⟩
    (twoRounds.build .new).outcome = .ok () ∧
      ∃ plan, (twoRounds.build .new).state.1.compile now = .ok plan ∧
        ∃ history, Uninterrupted key answers history ∧
          let b' := (LocalBackend.empty.step (.submit key plan)).after history
          b'.status key = .ok .done ∧ ∃ performances, b'.performances key = .ok performances ∧
            performances.map Performance.score = [⟨⟨"first"⟩, 1, 0.5⟩] := by
  intro key answers now
  obtain ⟨_, -, built, -⟩ := buildable_twoRounds.build .new
  obtain ⟨plan, hcompile, -, -, hruns⟩ :=
    execution_computes_averaging twoRounds .new built now answers .empty key
  let history := List.replicate (2 * plan.size + 3) (Event.advance key answers)
  have huninterrupted : Uninterrupted key answers history := fun ev hev _ =>
    .inl (List.eq_of_mem_replicate hev)
  have hturns : turns key history = 2 * plan.size + 3 := by
    simp [turns, history, Event.turns]
  obtain ⟨hfinishes, hends⟩ := hruns history huninterrupted
  have hfinished := hfinishes (Nat.le_of_eq hturns.symm)
  exact ⟨built, plan, hcompile, history, huninterrupted, hends hfinished⟩

end Experiment

end Federation
