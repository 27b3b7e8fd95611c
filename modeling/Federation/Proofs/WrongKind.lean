import Federation.Proofs.EndToEnd
import Federation.Proofs.Lifecycle
import Federation.Proofs.Provision

/-!
# When an input is missing

A backend looks at the order of a plan's tasks and not at their kinds. A task of an accepted plan
may name a test where it needs what a training gives. When its turn comes, what it needs is not
there, because the task that it names has given something else, or nothing. This is the only way in
which something can be missing: what a task of the right kind has given is there until the last task
that names it has run, whether or not the plan cleans its models.

* `Plan.WellFormed.wrongKind_iff`: a need is of the wrong kind when no task in front gives it;
* `Store.Prepared.missing_iff`: what is missing for the next task;
* `LocalBackend.missing_iff_wrongKind`: and so for every task of a plan whose turn comes.
-/

namespace Federation

/-! ## Needs of the wrong kind -/

namespace Plan

variable {p : Plan}

/-- A need is of the wrong kind when it names a task of another kind. -/
def WrongKind (p : Plan) (n : OperationKind × TaskKey) : Prop :=
  ∃ t ∈ p.tasks, t.key = n.2 ∧ t.kind ≠ n.1

instance (p : Plan) : DecidablePred p.WrongKind := fun n =>
  inferInstanceAs (Decidable (∃ t ∈ p.tasks, t.key = n.2 ∧ t.kind ≠ n.1))

theorem WellFormed.eq_of_key (h : p.WellFormed) {t u : Task} (ht : t ∈ p.tasks) (hu : u ∈ p.tasks)
    (hkey : t.key = u.key) : t = u :=
  List.inj_on_of_nodup_map h.keys ht hu hkey

/-- A need of a task is of the wrong kind when it is not what a task in front of it gives. -/
theorem WellFormed.wrongKind_iff (h : p.WellFormed) {before after : List Task} {t : Task}
    (htasks : p.tasks = before ++ t :: after) {n : OperationKind × TaskKey} (hn : n ∈ t.needs) :
    p.WrongKind n ↔ n ∉ before.map Task.output := by
  obtain ⟨u, hu, hkey⟩ := List.mem_map.mp (h.inputs before t after htasks n.2 (t.key_mem_inputs hn))
  have hmem : ∀ v ∈ before, v ∈ p.tasks := fun v hv => htasks ▸ List.mem_append_left _ hv
  constructor
  · rintro ⟨v, hv, hvkey, hkind⟩ hgiven
    obtain ⟨w, hw, rfl⟩ := List.mem_map.mp hgiven
    exact hkind (congrArg Task.kind (h.eq_of_key hv (hmem w hw) hvkey))
  · intro hgiven
    refine ⟨u, hmem u hu, hkey, fun hkind => hgiven ?_⟩
    exact List.mem_map.mpr ⟨u, hu, Prod.ext hkind hkey⟩

end Plan

/-! ## The next task -/

namespace Store.Prepared

variable {p : Plan} {before rest : List Task} {t : Task} {src : Sources} {s : Store}

/-- What the next task needs is there if it is of the right kind. Otherwise the task asks for the
first need of the wrong kind in vain. -/
theorem demand (h : s.Prepared p before (t :: rest) src) (accepted : p.WellFormed) :
    ((∀ n ∈ t.needs, n ∈ before.map Task.output ∧ ¬ p.WrongKind n) ∧
        ∃ d, t.demand s.sources = .ok d) ∨
      ∃ n, IsFirst p.WrongKind t.needs n ∧
        t.demand s.sources = .error (.error (.missingInput n.2)) := by
  have hwrong : ∀ n ∈ t.needs, p.WrongKind n ↔ n ∉ before.map Task.output :=
    fun n hn => accepted.wrongKind_iff h.tasks hn
  rw [h.demand_eq]
  rcases h.hold.demand t with ⟨hall, hd⟩ | ⟨n, hfirst, herr⟩
  · exact .inl ⟨fun n hn => ⟨hall n hn, (not_congr (hwrong n hn)).mpr (not_not_intro (hall n hn))⟩,
      hd⟩
  · exact .inr ⟨n, (IsFirst.congr hwrong).mpr hfirst, herr⟩

/-- The next task asks in vain for the first need of the wrong kind, and for nothing else. -/
theorem missing_iff (h : s.Prepared p before (t :: rest) src) (accepted : p.WellFormed)
    (k : TaskKey) : t.demand s.sources = .error (.error (.missingInput k)) ↔
      ∃ kind, IsFirst p.WrongKind t.needs (kind, k) := by
  rcases h.demand accepted with ⟨hall, d, hd⟩ | ⟨n, hfirst, herr⟩
  · rw [hd]
    exact ⟨nofun, fun ⟨kind, hfirst⟩ => absurd hfirst.holds (hall _ hfirst.mem).2⟩
  · rw [herr]
    constructor
    · intro heq
      obtain rfl : n.2 = k := by simpa using heq
      exact ⟨n.1, hfirst⟩
    · rintro ⟨kind, hfirst'⟩
      rw [hfirst.unique hfirst']

end Store.Prepared

/-! ## Records of a plan -/

/-- A task that runs ends the execution with an error when it fails with this error. -/
theorem Record.afterTask_eq_failed_iff {x : Execution} {answers : Answers} {t : Task}
    {rest : List Task} {err : ExecutionError} :
    afterTask x answers t rest = .reporting (.failed err) ↔
      (x.store.runTask t).result answers = .error (.error err) := by
  unfold afterTask Execution.runNext
  cases (x.store.runTask t).result answers with
  | ok ran => exact ⟨nofun, nofun⟩
  | error f =>
    cases f with
    | error e => simp [Except.map, PlanOutcome.ofFailure]
    | crash c => simp [Except.map, PlanOutcome.ofFailure]

namespace LocalBackend

/-- **An input is missing only if it is of the wrong kind.** Whatever happens to the backend after a
plan was accepted, look at the moment when the turn of a task comes, all tasks in front of it having
succeeded. The task fails for want of an input exactly when the input is the first of its needs that
names a task of another kind. Then nothing is called: neither an algorithm, which would see a call,
nor an aggregation, because the task does not come to ask for anything. -/
theorem missing_iff_wrongKind (b : LocalBackend) {key : PlanKey} {p : Plan}
    (accepted : p.fault? = none) {history : List Event} (fresh : Unsubmitted key history) :
    ∃ r, ((b.step (.submit key p)).after history).get? key = some r ∧
      ∀ x t rest, r.stage = .calling x t rest →
        (∃ before, p.tasks = before ++ t :: rest) ∧
        (∀ answers k, (r.advance key answers).1.stage = .reporting (.failed (.missingInput k)) ↔
          ∃ kind, IsFirst p.WrongKind t.needs (kind, k)) ∧
        ∀ n, IsFirst p.WrongKind t.needs n →
          r.call? = none ∧ t.demand x.store.sources = .error (.error (.missingInput n.2)) := by
  have hp : p.WellFormed := Plan.wellFormed_iff.mpr accepted
  obtain ⟨r, hr, hstage⟩ := b.upholds_after accepted (E := fun _ => True)
    (Execution.prepared_start p) Execution.Prepared.runNext (fun _ _ _ => trivial) fresh
  refine ⟨r, hr, fun x t rest hcalling => ?_⟩
  rw [hcalling] at hstage
  obtain ⟨⟨before, src, hx⟩, hr⟩ := hstage
  rw [hr] at hx
  refine ⟨⟨before, hx.tasks⟩, fun answers k => ?_, fun n hfirst => ?_⟩
  · have hadvance : (r.advance key answers).1.stage = Record.afterTask x answers t rest := by
      simp only [Record.advance, hcalling]
    rw [hadvance, Record.afterTask_eq_failed_iff, Store.runTask_eq_missing_iff,
      hx.missing_iff hp]
  · have herr := (hx.missing_iff hp n.2).mpr ⟨n.1, hfirst⟩
    refine ⟨?_, herr⟩
    simp only [Record.call?, hcalling, Store.call?_runTask, herr]
    rfl

end LocalBackend

/-- A plan whose second training takes what the first one gave for both of its inputs. -/
def Plan.withoutAggregation : Plan where
  tag := "two trainings"
  cleanModels := true
  permissions := ⟨true, []⟩
  trainTasks :=
    [⟨.drawn 0, 0, 1, ⟨"first"⟩, default, default, [], none, none⟩,
      ⟨.drawn 1, 1, 1, ⟨"first"⟩, default, default, [], some (.drawn 0), some (.drawn 0)⟩]
  aggregateTasks := []
  testTasks := []

open LocalBackend in
/-- The plan is accepted, its first training succeeds, and the second one misses the output of the
first one as an aggregate, although it is there. -/
theorem Plan.missing_withoutAggregation :
    let key := PlanKey.drawn 0
    let next := Event.advance key (Experiment.constantAnswers 0.5)
    let history := [next, next, next, next]
    withoutAggregation.fault? = none ∧ Unsubmitted key history ∧
      ∃ r, ((LocalBackend.empty.step (.submit key withoutAggregation)).after history).get? key =
          some r ∧ r.call? = none ∧
        ∀ answers, (r.advance key answers).1.stage =
          .reporting (.failed (.missingInput (.drawn 0))) := by
  intro key next history
  have accepted : withoutAggregation.fault? = none := by decide
  have fresh : Unsubmitted key history := by simp [Unsubmitted, history, next]
  obtain ⟨r, hr, hcalling⟩ := missing_iff_wrongKind .empty accepted fresh
  have hfirst : IsFirst withoutAggregation.WrongKind [(.train, .drawn 0), (.aggregate, .drawn 0)]
      (.aggregate, .drawn 0) := IsFirst.iff_find?.mpr (by decide)
  obtain ⟨-, hmissing, hcall⟩ := hcalling _ _ _ (by cases hr; rfl)
  refine ⟨accepted, fresh, r, hr, (hcall _ hfirst).1, fun answers => ?_⟩
  exact (hmissing answers _).mpr ⟨_, hfirst⟩

end Federation
