import Federation.Proofs.Learning
import Federation.Proofs.Lifecycle
import Federation.Proofs.Provision
import Federation.Proofs.Rendering

/-!
# Plans that can be run

A task of a plan consumes outputs of other tasks. When every output that it consumes is that of a
task in front of it, of the right kind, and it has something to aggregate if it aggregates, then
nothing is missing while the plan runs. It may still fail, but only by what an algorithm does or by
what was shared.

* `Plan.Lists.supplied`: a plan that lists a sound graph is supplied;
* `Execution.Prepared.not_starvation`: a task of such a plan finds all that it needs;
* `LocalBackend.fed_after`: and so does every task, whatever happens to the backend;
* `Experiment.built_plan_runs`: an experiment that was built has a plan that a backend accepts and
  can run.
-/

namespace Federation

/-! ## Supplied plans -/

/-- The execution did not find what a task consumes, or there was nothing to aggregate. -/
def ExecutionError.IsStarvation : ExecutionError → Prop
  | .missingInput _ => True
  | .aggregation .emptyInput => True
  | _ => False

/-- After the given tasks, a task finds all that it consumes. -/
structure Task.Supplied (t : Task) (before : List Task) : Prop where
  needs : ∀ n ∈ t.needs, n ∈ before.map Task.output
  aggregates : t.kind = .aggregate → t.needs ≠ []

/-- Each task is supplied by the tasks in front of it. -/
def Plan.Supplied (p : Plan) : Prop :=
  ∀ before t after, p.tasks = before ++ t :: after → t.Supplied before

/-- The task at a position says what the operation at this position says. -/
theorem Plan.Lists.operation_at {p : Plan} {g : Graph} (h : p.Lists g) {i : Nat} {t : Task}
    (ht : p.tasks[i]? = some t) :
    ∃ op, g.get? ⟨i⟩ = some op ∧ Task.Renders p.keyAt? op t := by
  obtain ⟨hlt, hget⟩ := List.getElem?_eq_some_iff.mp ht
  have hlt' : i < g.toList.length := h.tasks.length_eq ▸ hlt
  refine ⟨g.toList[i], ?_, ?_⟩
  · rw [Graph.get?_eq_getElem?, List.getElem?_eq_getElem hlt']
  · rw [← hget]
    exact h.tasks.get hlt' hlt

/-- A plan that lists a sound graph is supplied: an operation consumes what earlier operations
produce, and its task consumes what their tasks give. -/
theorem Plan.Lists.supplied {p : Plan} {g : Graph} (h : p.Lists g) (hg : g.Sound) : p.Supplied := by
  intro before t after hsplit
  have ht : p.tasks[before.length]? = some t := by simp [hsplit]
  obtain ⟨op, hop, hrenders⟩ := h.operation_at ht
  have hmem : op ∈ g.toList := by
    rw [Graph.get?_eq_getElem?] at hop
    exact List.mem_of_getElem? hop
  constructor
  · intro n hn
    obtain ⟨input, hi, hkind, hkey⟩ := hrenders.mem_needs hn
    obtain ⟨hlt, producer, hproducer, hpkind⟩ := hg.producer hmem hi
    rw [hg.numbered.id_of_get? hop] at hlt
    obtain ⟨u, hu, hukey⟩ := Option.map_eq_some_iff.mp hkey
    obtain ⟨op', hop', hrenders'⟩ := h.operation_at hu
    obtain rfl : producer = op' := Option.some.inj (hproducer.symm.trans hop')
    have hbefore : u ∈ before := by
      rw [hsplit, List.getElem?_append_left hlt] at hu
      exact List.mem_of_getElem? hu
    refine List.mem_map.mpr ⟨u, hbefore, ?_⟩
    rw [Task.output, hrenders'.kind, hpkind, hkind, hukey]
  · intro hkind hnone
    have hshaped := hg.shaped op hmem
    have hneeds := hrenders.needs
    rw [hnone] at hneeds
    rw [hrenders.kind] at hkind
    cases hp : op.payload with
    | train algorithm dataset samples => simp [Operation.kind, hp, OperationPayload.kind] at hkind
    | test dataset samples metrics => simp [Operation.kind, hp, OperationPayload.kind] at hkind
    | aggregate function =>
      simp only [Operation.Shaped, hp] at hshaped
      obtain ⟨payloads, hne, hinputs⟩ := hshaped
      rw [hinputs] at hneeds
      exact hne (by simpa using hneeds.symm)

/-! ## Running a supplied plan -/

/-- An aggregation asks for as many states as it needs. -/
theorem Task.length_of_demand {src : Sources} {t : Task} {function : AggregationFunction}
    {states : List (SharedState Float)} (h : t.demand src = .ok (.aggregate function states)) :
    t.kind = .aggregate ∧ states.length = t.needs.length := by
  refine ⟨(kind_of_demand h).symm, ?_⟩
  cases t with
  | train t =>
    obtain ⟨start, -, h⟩ := exists_of_bind_eq_ok h
    obtain ⟨shared, -, h⟩ := exists_of_bind_eq_ok h
    cases h
  | aggregate t =>
    obtain ⟨states', hstates, h⟩ := exists_of_bind_eq_ok h
    cases h
    simpa [needs] using (forall₂_of_mapM_eq_ok hstates).length_eq.symm
  | test t =>
    obtain ⟨o, -, h⟩ := exists_of_bind_eq_ok h
    cases h

/-- What comes back is not that there was nothing to aggregate, if there was something. -/
theorem Demand.not_starvation_of_perform {answers : Answers} {d : Demand}
    (hne : ∀ function, d ≠ .aggregate function []) {err : ExecutionError}
    (h : d.perform answers = .error (.error err)) : ¬ err.IsStarvation := by
  rcases of_perform_eq_error h with ⟨e, rfl⟩ | ⟨function, states, e, rfl, happly, rfl⟩
  · exact id
  · cases e with
    | emptyInput =>
      cases function
      obtain rfl := (average_eq_emptyInput_iff states).mp happly
      exact absurd rfl (hne .weightedAverage)
    | shapeMismatch index expected found => exact id
    | noSamples => exact id

namespace Execution

variable {p : Plan} {x : Execution} {t : Task} {rest : List Task} {answers : Answers}

/-- The next task of a plan that is supplied does not fail for want of something. -/
theorem Prepared.not_starvation (hp : p.Supplied) (h : x.Prepared p) (hr : x.remaining = t :: rest)
    {err : ExecutionError} (herr : x.runNext answers t rest = .error (.error err)) :
    ¬ err.IsStarvation := by
  obtain ⟨before, src, hs⟩ := h
  rw [hr] at hs
  obtain ⟨hneeds, haggregates⟩ := hp before t rest hs.tasks
  rcases hs.hold.demand t with ⟨-, d, hd⟩ | ⟨n, hfirst, -⟩
  · have hrun := ((Refines.of_map _ _).error_iff _).mp herr
    rw [(hs.refines_runTask answers).error_iff, hd] at hrun
    refine Demand.not_starvation_of_perform (fun function hnil => ?_) hrun
    rw [hnil] at hd
    obtain ⟨hkind, hlength⟩ := Task.length_of_demand hd
    exact haggregates hkind (List.length_eq_zero_iff.mp hlength.symm)
  · exact absurd (hneeds n hfirst.mem) hfirst.holds

end Execution

/-! ## Records of a plan -/

/-- What the stage of a plan's execution says about what was found so far. -/
def Stage.Fed (p : Plan) : Stage → Prop :=
  Stage.Upholds p (Execution.Prepared p) fun err => ¬ err.IsStarvation

/-- The execution of a plan has found all that it needed so far. -/
def Record.Fed (p : Plan) (r : Record) : Prop :=
  r.stage.Fed p

/-- A plan that is supplied finds all that it needs, whatever happens to the backend. -/
theorem LocalBackend.fed_after (b : LocalBackend) {key : PlanKey} {p : Plan}
    (accepted : p.fault? = none) (hp : p.Supplied) {history : List Event}
    (fresh : Unsubmitted key history) :
    ∃ r, ((b.step (.submit key p)).after history).get? key = some r ∧ r.Fed p :=
  b.upholds_after accepted (Execution.prepared_start p) Execution.Prepared.runNext
    (fun h hr herr => h.not_starvation hp hr herr) fresh

/-! ## The plan of an experiment -/

open LocalBackend in
/-- **An experiment that was built has a plan that can be run.** It can be compiled. Its plan lists
its graph: the tasks are the operations of the graph in their order, ranked by their positions, and
each names what it consumes by the keys of the tasks of the operations that it consumes. Everybody
who works on the plan may see it, and a backend accepts it. Whatever then happens to the backend,
the execution of the plan never misses an input, and never has nothing to aggregate. -/
theorem Experiment.built_plan_runs (e : Experiment) (r : Recorder)
    (built : (e.build r).outcome = .ok ()) (now : Timestamp) :
    let e' := (e.build r).state.1
    ∃ plan, e'.compile now = .ok plan ∧ plan.Lists e'.graph ∧
      (∀ t ∈ plan.tasks, plan.permissions.allows t.worker = true) ∧ plan.fault? = none ∧
      ∀ (b : LocalBackend) (key : PlanKey) (history : List Event), Unsubmitted key history →
        ∃ record, ((b.step (.submit key plan)).after history).get? key = some record ∧
          ∀ err, record.stage = .reporting (.failed err) → ¬ err.IsStarvation := by
  intro e'
  have hbuildable := buildable_of_build built
  obtain ⟨a, -, -, hbuilt, hfollows⟩ := hbuildable.build r
  have hm : (e.blueprint a.id r.drawn).Matched := hbuildable.matched
  have hsound : e'.graph.Sound := Blueprint.sound hfollows.graph hfollows.valid
    (hbuildable.trains.imp_right Nat.le_of_eq)
  obtain ⟨plan, hcompile, htasks, -, hpermissions⟩ := hfollows.compile hbuilt now
  have hlists := (lists_iff_of_compile hsound hcompile).mpr hfollows.queued
  have haccepted := hfollows.accepted hm htasks hpermissions
  refine ⟨plan, hcompile, hlists, fun t ht => ?_, haccepted, fun b key history fresh => ?_⟩
  · obtain ⟨op, hop, hrenders⟩ := exists_mem_of_forall₂ hlists.tasks ht
    rw [hpermissions, hrenders.worker]
    exact hfollows.allows hm (hfollows.graph ▸ hop)
  · obtain ⟨record, hrecord, hfed⟩ := b.fed_after haccepted (hlists.supplied hsound) fresh
    refine ⟨record, hrecord, fun err herr => ?_⟩
    have hstage : record.stage.Fed plan := hfed
    rw [herr] at hstage
    exact hstage err rfl

open LocalBackend in
/-- The plan of the two rounds begins to run, is canceled, and its execution goes on. -/
theorem Experiment.twoRounds_plan_runs :
    let e' := (twoRounds.build .new).state.1
    let key := PlanKey.drawn 0
    let next := Event.advance key fun _ => .error (.crash .algorithm)
    let history := [next, .cancel key, next, next]
    (twoRounds.build .new).outcome = .ok () ∧ Unsubmitted key history ∧
      ∃ plan, e'.compile ⟨2024, 1, 1, 0, 0, 0⟩ = .ok plan ∧ plan.Lists e'.graph ∧
        plan.fault? = none ∧
        ∃ record, ((LocalBackend.empty.step (.submit key plan)).after history).get? key =
            some record ∧
          ∀ err, record.stage = .reporting (.failed err) → ¬ err.IsStarvation := by
  intro e' key next history
  obtain ⟨_, -, built, -⟩ := buildable_twoRounds.build .new
  have fresh : Unsubmitted key history := by simp [Unsubmitted, history, next]
  obtain ⟨plan, hcompile, hlists, -, haccepted, hruns⟩ :=
    built_plan_runs twoRounds .new built ⟨2024, 1, 1, 0, 0, 0⟩
  exact ⟨built, fresh, plan, hcompile, hlists, haccepted, hruns .empty key history fresh⟩

end Federation
