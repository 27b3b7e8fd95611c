import Mathlib.Data.List.Forall2
import Mathlib.Data.List.ReduceOption
import Federation.Proofs.WrongKind

/-!
# What a plan computes

The tasks of a plan name each other, and so every task has a value: evaluate the tasks that it
names, and perform what it asks for with their values. An execution does not evaluate anything twice
and does not look ahead. It goes through the tasks in order, keeps what they give in two tables, and
drops from them what nobody needs any more. If the plan is accepted and its inputs are of the right
kinds, both come to the same.

* `Plan.value`: the value of a task, and `Plan.WellFormed.value_eq`: by the values of the tasks that
  it names;
* `Sources.Reflect`: what is there are values;
* `Execution.Prepared.asks`: so the next task asks for what its value is made of;
* `Execution.runTasks_computes`: and so do all tasks that are left, up to the first that fails;
* `Plan.run_computes_values`: the whole plan.
-/

namespace Federation

open Execution (Responder)

/-! ## The values of the tasks -/

/-- What each task gives, or how it fails. -/
abbrev Values : Type :=
  TaskKey → Except (Failure ExecutionError) Product

/-- Values, as the outputs of their tasks. -/
def Sources.ofValues (value : Values) : Sources where
  model k :=
    match value k with
    | .ok (.model o) => .ok o
    | .ok _ => .error (.error (.missingInput k))
    | .error f => .error f
  average k :=
    match value k with
    | .ok (.average a) => .ok a
    | .ok _ => .error (.error (.missingInput k))
    | .error f => .error f

namespace Sources

variable {value value' : Values}

/-- Only the value of the task that is named matters. -/
theorem same_ofValues {n : OperationKind × TaskKey} (h : value n.2 = value' n.2) :
    (ofValues value).Same (ofValues value') n := by
  obtain ⟨kind, k⟩ := n
  have h : value k = value' k := h
  cases kind with
  | train => simp only [Same, ofValues, h]
  | aggregate => simp only [Same, ofValues, h]
  | test => trivial

/-- An output that is put in place changes nothing under the other keys. -/
theorem same_put_of_ne (src : Sources) {key : TaskKey} (y : Product) {n : OperationKind × TaskKey}
    (h : n.2 ≠ key) : (src.put key y).Same src n := by
  obtain ⟨kind, k⟩ := n
  cases kind with
  | train => cases y <;> simp [Same, put, Function.update_of_ne h]
  | aggregate => cases y <;> simp [Same, put, Function.update_of_ne h]
  | test => trivial

/-- If it is a value, a value is found there. -/
theorem same_put_ofValues (src : Sources) {key : TaskKey} {y : Product} (h : value key = .ok y) :
    (src.put key y).Same (ofValues value) (y.kind, key) := by
  cases y with
  | model o => simp [Same, put, ofValues, Product.kind, h]
  | average a => simp [Same, put, ofValues, Product.kind, h]
  | score value => trivial

end Sources

namespace Plan

/-- The value of a task, among the given ones. They come last to first, so that a task names tasks
after it in the list. -/
def valueAmong (answers : Answers) : List Task → Values
  | [], k => .error (.error (.missingInput k))
  | t :: before, k =>
    if k = t.key then
      t.demand (.ofValues (valueAmong answers before)) >>= Demand.perform answers
    else valueAmong answers before k

/-- The value of a task of a plan. -/
def value (p : Plan) (answers : Answers) : Values :=
  valueAmong answers p.tasks.reverse

variable {p : Plan} {answers : Answers}

theorem valueAmong_append {front before : List Task} {k : TaskKey} (h : k ∉ front.map Task.key) :
    valueAmong answers (front ++ before) k = valueAmong answers before k := by
  induction front with
  | nil => rfl
  | cons t rest ih =>
    rw [List.map_cons, List.mem_cons, not_or] at h
    rw [List.cons_append, valueAmong, if_neg h.1, ih h.2]

/-- The value of a task is what it asks for with the values of the tasks that it names, and nothing
else. -/
theorem WellFormed.value_eq (h : p.WellFormed) {t : Task} (ht : t ∈ p.tasks) :
    p.value answers t.key =
      t.demand (.ofValues (p.value answers)) >>= Demand.perform answers := by
  obtain ⟨before, after, htasks⟩ := List.append_of_mem ht
  have hkeys := h.keys
  rw [htasks, List.map_append, List.map_cons, List.nodup_append, List.nodup_cons] at hkeys
  obtain ⟨-, ⟨hafter, -⟩, hdisjoint⟩ := hkeys
  have hreverse : p.tasks.reverse = after.reverse ++ t :: before.reverse := by
    rw [htasks, List.reverse_append, List.reverse_cons, List.append_assoc]
    rfl
  -- the tasks behind have other keys, and so they do not matter
  have hvalue : ∀ k, k ∉ after.map Task.key →
      p.value answers k = valueAmong answers (t :: before.reverse) k := fun k hk => by
    rw [value, hreverse, valueAmong_append (by simpa using hk)]
  rw [hvalue t.key hafter, valueAmong, if_pos rfl]
  congr 1
  refine Task.demand_congr fun n hn => Sources.same_ofValues ?_
  have hbefore : n.2 ∈ before.map Task.key :=
    h.inputs before t after htasks n.2 (t.key_mem_inputs hn)
  have hne : n.2 ≠ t.key := hdisjoint n.2 hbefore t.key (List.mem_cons_self ..)
  have hnot : n.2 ∉ after.map Task.key := fun hk =>
    hdisjoint n.2 hbefore n.2 (List.mem_cons_of_mem _ hk) rfl
  rw [hvalue n.2 hnot, valueAmong, if_neg hne]

/-- The inputs of the tasks are of the right kinds. -/
def WellKinded (p : Plan) : Prop :=
  ∀ t ∈ p.tasks, ∀ n ∈ t.needs, ¬ p.WrongKind n

instance (p : Plan) : Decidable p.WellKinded :=
  inferInstanceAs (Decidable (∀ t ∈ p.tasks, ∀ n ∈ t.needs, ¬ p.WrongKind n))

end Plan

/-! ## The next task -/

/-- What the given tasks have left behind are their values. -/
def Sources.Reflect (value : Values) (ts : List Task) (src : Sources) : Prop :=
  ∀ n ∈ ts.map Task.output, src.Same (.ofValues value) n

/-- So it is after one more task, if it has given its value. -/
theorem Sources.Reflect.put {value : Values} {before : List Task} {src : Sources}
    (h : src.Reflect value before) {t : Task} {y : Product} (fresh : t.key ∉ before.map Task.key)
    (hkind : y.kind = t.kind) (hy : value t.key = .ok y) :
    (src.put t.key y).Reflect value (before ++ [t]) := by
  intro n hn
  rw [List.map_append, List.map_singleton, List.mem_append, List.mem_singleton] at hn
  rcases hn with hn | rfl
  · have hne : n.2 ≠ t.key := by
      obtain ⟨u, hu, rfl⟩ := List.mem_map.mp hn
      exact fun hkey => fresh (hkey ▸ List.mem_map_of_mem hu)
    exact .trans (same_put_of_ne src y hne) (h n hn)
  · rw [Task.output, ← hkind]
    exact same_put_ofValues src hy

namespace Store

variable {p : Plan} {answers : Answers} {before rest : List Task} {t : Task} {src : Sources}
  {s : Store}

/-- The next task asks for what its value is made of. -/
theorem Prepared.asks (h : s.Prepared p before (t :: rest) src) (accepted : p.WellFormed)
    (kinds : p.WellKinded) (hreflect : src.Reflect (p.value answers) before) :
    ∃ d, t.demand s.sources = .ok d ∧ t.demand (.ofValues (p.value answers)) = .ok d := by
  rcases h.demand accepted with ⟨hgiven, d, hd⟩ | ⟨n, hfirst, -⟩
  · refine ⟨d, hd, ?_⟩
    rw [← hd, h.demand_eq]
    exact (Task.demand_congr fun n hn => hreflect n (hgiven n hn).1).symm
  · exact absurd hfirst.holds (kinds t h.mem_tasks n hfirst.mem)

/-- The next task comes to its value, and leaves it behind. -/
theorem Prepared.refines_value (h : s.Prepared p before (t :: rest) src) (accepted : p.WellFormed)
    (kinds : p.WellKinded) (hreflect : src.Reflect (p.value answers) before) :
    Refines (fun ran y => ran.2 = t.score? y ∧ ∃ src',
        ran.1.Prepared p (before ++ [t]) rest src' ∧
          src'.Reflect (p.value answers) (before ++ [t]))
      ((s.runTask t).result answers) (p.value answers t.key) := by
  obtain ⟨d, hd, hvalues⟩ := h.asks accepted kinds hreflect
  have hvalue : p.value answers t.key = t.demand src >>= Demand.perform answers := by
    rw [accepted.value_eq h.mem_tasks, hvalues, ← h.demand_eq, hd]
  have hfresh : t.key ∉ before.map Task.key :=
    Plan.nodup_keys_iff.mp accepted.keys before t rest h.tasks
  rw [hvalue]
  refine (h.refines_runTask answers).mono_of_eq fun ran y hy ⟨hprepared, hkind, hscore⟩ => ?_
  exact ⟨hscore, _, hprepared, hreflect.put hfresh hkind (hvalue.trans hy)⟩

end Store

/-! ## All tasks -/

/-- The tasks up to the first whose value is a failure. -/
def Task.upToFailure (value : Values) : List Task → List Task
  | [] => []
  | t :: rest =>
    match value t.key with
    | .ok _ => t :: upToFailure value rest
    | .error _ => [t]

namespace Execution

/-- What tasks ask for when they run one after the other, up to the first that fails. A task that
runs does what it asks for, and nothing else (`Store.runTask_eq`). -/
def demandsOf (answers : Answers) : List Task → Store → List Demand
  | [], _ => []
  | t :: rest, s =>
    match t.demand s.sources, (s.runTask t).result answers with
    | .ok d, .ok ran => d :: demandsOf answers rest ran.1
    | .ok d, .error _ => [d]
    | .error _, _ => []

variable {p : Plan} {answers : Answers} {before rest : List Task} {src : Sources} {s : Store}

/-- The tasks that are left ask for what their values are made of, up to the first whose value is a
failure. They make the calls that they ask for, and come to the scores among their values. -/
theorem runTasks_computes (accepted : p.WellFormed) (kinds : p.WellKinded)
    (h : s.Prepared p before rest src) (hreflect : src.Reflect (p.value answers) before)
    (calls : List Call) (scores : List Performance) :
    let run := runTasks (.ofHistory fun _ => answers) rest calls s scores
    List.Forall₂ (fun t d => t.demand (.ofValues (p.value answers)) = .ok d)
        (Task.upToFailure (p.value answers) rest) (demandsOf answers rest s) ∧
      run.1 = calls ++ (demandsOf answers rest s).filterMap Demand.call? ∧
      run.2 = (rest.mapM fun t => (p.value answers t.key).map t.score?).map fun values =>
        scores ++ values.reduceOption := by
  induction rest generalizing before src s calls scores with
  | nil => simp [runTasks, Task.upToFailure, demandsOf, pure, Except.pure, Except.map]
  | cons t rest ih =>
    -- the store is prepared for the tasks that are left, and what is there are the values of those
    -- in front of them
    obtain ⟨d, hd, hvalues⟩ := h.asks accepted kinds hreflect
    have hrefines := h.refines_value accepted kinds hreflect
    have hcall : (s.runTask t).call?.elim calls (fun c => calls ++ [c]) =
        calls ++ d.call?.toList := by
      rw [s.call?_runTask, hd]
      cases d with
      | call c => rfl
      | aggregate function states => exact (List.append_nil calls).symm
    have hasked : ∀ ds : List Demand, (d :: ds).filterMap Demand.call? =
        d.call?.toList ++ ds.filterMap Demand.call? := fun ds => by
      simp only [List.filterMap_eq_flatMap_toList, List.flatMap_cons]
    rw [runTasks_cons, Responder.ofHistory, hcall, demandsOf, Task.upToFailure, List.mapM_cons, hd]
    cases hy : p.value answers t.key with
    | error f =>
      rw [hy] at hrefines
      rw [(hrefines.error_iff f).mpr rfl]
      refine ⟨.cons hvalues .nil, ?_, rfl⟩
      exact congrArg (calls ++ ·) ((hasked []).trans (List.append_nil _)).symm
    | ok y =>
      rw [hy] at hrefines
      generalize (s.runTask t).result answers = r at hrefines ⊢
      cases hrefines with
      | @ok ran _ hran =>
        obtain ⟨hscore, src', hprepared, hreflect'⟩ := hran
        obtain ⟨hdemands, hcalls, hscores⟩ :=
          ih hprepared hreflect' (calls ++ d.call?.toList) (scores ++ ran.2.toList)
        refine ⟨.cons hvalues hdemands, hcalls.trans ?_, hscores.trans ?_⟩
        · rw [List.append_assoc, ← hasked]
        · rw [hscore]
          cases rest.mapM fun t => (p.value answers t.key).map t.score? with
          | error f => rfl
          | ok values => exact congrArg Except.ok (by cases t.score? y <;> simp [List.reduceOption])

end Execution

/-! ## The whole plan -/

/-- The tasks that ask for a call make it. -/
theorem Task.forall₂_calls {src : Sources} {ts : List Task} {ds : List Demand}
    (h : List.Forall₂ (fun t d => t.demand src = .ok d) ts ds) :
    List.Forall₂ (fun t c => t.demand src = .ok (.call c))
      (ts.filter fun t => t.kind ≠ .aggregate) (ds.filterMap Demand.call?) := by
  induction h with
  | nil => exact .nil
  | @cons t d ts ds hd _ ih =>
    have hkind := Task.kind_of_demand hd
    cases d with
    | call c =>
      have hcall : t.kind ≠ .aggregate := by
        rw [← hkind]
        cases c <;> nofun
      rw [List.filter_cons_of_pos (by simpa using hcall)]
      exact .cons hd ih
    | aggregate function states =>
      rw [List.filter_cons_of_neg (by simp [← hkind, Demand.kind])]
      exact ih

/-- What the tasks of a plan ask for when they run, up to the first that fails. -/
def Plan.demands (p : Plan) (answers : Answers) : List Demand :=
  Execution.demandsOf answers p.tasks (.ofTasks p.cleanModels p.tasks)

/-- **A plan computes the values of its tasks.** Take an accepted plan whose inputs are of the right
kinds, and algorithms that are functions of their arguments. The value of a task is what comes back
when it asks for something with the values of the tasks that it names. When the plan runs, its tasks
ask for exactly this, one after the other in the order of the plan, and no task does after the first
whose value is a failure. Each training and each test makes one call, and there are no other calls.
In the end there are the scores among the values, in order, or the first failure. A backend that
executes the plan step by step makes the same calls, and reports the same end. -/
theorem Plan.run_computes_values (p : Plan) (answers : Answers) (accepted : p.fault? = none)
    (kinds : p.WellKinded) :
    let value := p.value answers
    let ran := Task.upToFailure value p.tasks
    let algorithms := Responder.ofHistory fun _ => answers
    let run := Execution.run algorithms [] p
    (∀ t ∈ p.tasks, value t.key = t.demand (.ofValues value) >>= Demand.perform answers) ∧
    List.Forall₂ (fun t d => t.demand (.ofValues value) = .ok d) ran (p.demands answers) ∧
    List.Forall₂ (fun t c => t.demand (.ofValues value) = .ok (.call c))
      (ran.filter fun t => t.kind ≠ .aggregate) run.1 ∧
    run.2 = (p.tasks.mapM fun t => (value t.key).map t.score?).map List.reduceOption ∧
    ∀ (b : LocalBackend) (key : PlanKey) (n : Nat), 2 * p.size + 3 ≤ n →
      let c := Conduct.submitted algorithms [] b key p (List.replicate n .advance)
      c.memory = run.1 ∧ c.backend.status key = .ok (PlanOutcome.ofResult run.2).status ∧
        c.backend.performances key = .ok (PlanOutcome.ofResult run.2).scores := by
  intro value ran algorithms run
  have hp : p.WellFormed := wellFormed_iff.mpr accepted
  obtain ⟨hdemands, hcalls, hscores⟩ := Execution.runTasks_computes hp kinds
    (Store.prepared_ofTasks p) (show Sources.Reflect value [] _ from nofun) [] []
  refine ⟨fun t ht => hp.value_eq ht, hdemands, ?_, hscores, fun b key n hn => ?_⟩
  · have hrun : run.1 = (p.demands answers).filterMap Demand.call? := hcalls
    rw [hrun]
    exact Task.forall₂_calls hdemands
  · intro c
    obtain ⟨hmemory, hr⟩ := Conduct.submitted_of_advances algorithms [] b accepted hn
    have hr : c.backend.get? key = some (.ended (.ofResult run.2)) := hr
    refine ⟨hmemory, ?_, ?_⟩
    · simp only [LocalBackend.status, LocalBackend.record, hr, Except.map, Record.ended]
    · simp only [LocalBackend.performances, LocalBackend.record, hr, Except.map, Record.ended]

/-- A plan of five tasks of one rank: two trainings, an aggregation that takes one of them twice,
and a test of each training. -/
def Plan.fanOut : Plan where
  tag := "fan-out"
  cleanModels := true
  permissions := ⟨true, []⟩
  trainTasks :=
    [⟨.drawn 0, 0, 1, ⟨"first"⟩, default, default, [], none, none⟩,
      ⟨.drawn 1, 0, 1, ⟨"second"⟩, ⟨1, "other", default⟩, default, [], some (.drawn 0), none⟩]
  aggregateTasks :=
    [⟨.drawn 2, 0, 1, ⟨"first"⟩, .weightedAverage, [.drawn 0, .drawn 1, .drawn 0]⟩]
  testTasks :=
    [⟨.drawn 3, 0, 1, ⟨"second"⟩, .drawn 1, default, [], []⟩,
      ⟨.drawn 4, 0, 1, ⟨"first"⟩, .drawn 0, default, [], []⟩]

/-- Its trainings and its tests make one call each, and the tests report their scores. So they do
on a backend that executes the plan in thirteen steps. -/
theorem Plan.fanOut_computes :
    let answers := Experiment.constantAnswers 0.5
    let algorithms := Responder.ofHistory fun _ => answers
    let run := Execution.run algorithms [] fanOut
    let key := PlanKey.drawn 0
    let c := Conduct.submitted algorithms [] .empty key fanOut (List.replicate 13 .advance)
    fanOut.fault? = none ∧ fanOut.WellKinded ∧ run.1.length = 4 ∧
      (∃ scores, run.2 = .ok scores ∧ scores.map Performance.task = [.drawn 3, .drawn 4]) ∧
      c.memory.length = 4 ∧ c.backend.status key = .ok .done := by
  intro answers algorithms run key c
  have accepted : fanOut.fault? = none := by decide
  have kinds : fanOut.WellKinded := by decide
  obtain ⟨-, -, hcalls, hscores, hbackend⟩ := run_computes_values fanOut answers accepted kinds
  obtain ⟨hmemory, hstatus, -⟩ := hbackend .empty key 13 (by decide)
  have hlength : run.1.length = 4 := by
    rw [← hcalls.length_eq]
    rfl
  have hdone : run.2 = .ok _ := hscores.trans rfl
  refine ⟨accepted, kinds, hlength, ⟨_, hdone, rfl⟩, ?_, ?_⟩
  · exact (congrArg List.length hmemory).trans hlength
  · rw [hstatus, hdone]
    rfl

end Federation
