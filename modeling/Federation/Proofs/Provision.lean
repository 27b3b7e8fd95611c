import Federation.Proofs.Acceptance
import Federation.Proofs.Cleaning

/-!
# What is there when a task runs

The tasks of a plan leave behind what they give. When the turn of a task comes, all that the tasks
in front of it have given is there, and nothing else, as far as it is still used: a plan that cleans
its models drops an output only when nobody is left to use it.

The invariant of an execution (`Store.Prepared`) speaks of sources that hold exactly what the tasks
in front have given (`Sources.Hold`); the store offers what the tasks that are left use of them
(`Store.Offers`).

* `Sources.Hold.demand`: a task asks for something, or misses the first need that is not there;
* `Store.Offers.refines_runTask`: a task that runs on such a store does what it asks for;
* `Store.Prepared.refines_runTask`: every task keeps the invariant.
-/

namespace Federation

/-! ## What is there -/

/-- What a task gives to other tasks, by its kind and its key. -/
def Task.output (t : Task) : OperationKind × TaskKey :=
  (t.kind, t.key)

namespace Sources

/-- What the given tasks give is there, and nothing else. -/
def Hold (src : Sources) (ts : List Task) : Prop :=
  ∀ n : OperationKind × TaskKey, n.1 ≠ .test →
    src.look n = if n ∈ ts.map Task.output then .ok () else .error (.error (.missingInput n.2))

variable {src : Sources}

theorem look_put (key : TaskKey) (y : Product) {n : OperationKind × TaskKey} (hn : n.1 ≠ .test) :
    (src.put key y).look n = if n = (y.kind, key) then .ok () else src.look n := by
  obtain ⟨kind, k⟩ := n
  cases kind with
  | test => exact absurd rfl hn
  | train =>
    cases y with
    | model o =>
      by_cases hk : k = key <;> simp [look, put, Product.kind, hk]
    | average a => simp [look, put, Product.kind]
    | score value => simp [look, put, Product.kind]
  | aggregate =>
    cases y with
    | model o => simp [look, put, Product.kind]
    | average a => by_cases hk : k = key <;> simp [look, put, Product.kind, hk]
    | score value => simp [look, put, Product.kind]

/-- After a task, what it gives is there too. -/
theorem Hold.put {before : List Task} (h : src.Hold before) {t : Task} {y : Product}
    (hy : y.kind = t.kind) : (src.put t.key y).Hold (before ++ [t]) := by
  intro n hn
  rw [look_put t.key y hn, hy, h n hn]
  show (if n = t.output then _ else _) = _
  by_cases hnew : n = t.output <;> simp [hnew]

/-- Several outputs are looked up in order, up to the first that is not there. -/
theorem Hold.look_all {before : List Task} (h : src.Hold before)
    {ns : List (OperationKind × TaskKey)} (hns : ∀ n ∈ ns, n.1 ≠ .test) :
    ((∀ n ∈ ns, n ∈ before.map Task.output) ∧ forM ns src.look = .ok ()) ∨
      ∃ n, IsFirst (· ∉ before.map Task.output) ns n ∧
        forM ns src.look = .error (.error (.missingInput n.2)) := by
  induction ns with
  | nil => exact .inl ⟨nofun, rfl⟩
  | cons n rest ih =>
    have hn := h n (hns n (List.mem_cons_self ..))
    rw [List.forM_cons, hn]
    by_cases hmem : n ∈ before.map Task.output
    · rw [if_pos hmem]
      rcases ih fun n hn => hns n (List.mem_cons_of_mem _ hn) with ⟨hall, hok⟩ | ⟨m, hfirst, herr⟩
      · exact .inl ⟨List.forall_mem_cons.mpr ⟨hmem, hall⟩, hok⟩
      · exact .inr ⟨m, .tail (not_not_intro hmem) hfirst, herr⟩
    · rw [if_neg hmem]
      exact .inr ⟨n, .head hmem, rfl⟩

/-- A task asks for something when all that it needs is there; otherwise the first need that is not
there is missing. -/
theorem Hold.demand {before : List Task} (h : src.Hold before) (t : Task) :
    ((∀ n ∈ t.needs, n ∈ before.map Task.output) ∧ ∃ d, t.demand src = .ok d) ∨
      ∃ n, IsFirst (· ∉ before.map Task.output) t.needs n ∧
        t.demand src = .error (.error (.missingInput n.2)) := by
  have hlook := t.look_demand src
  rcases h.look_all fun n => t.kind_ne_test_of_mem_needs with ⟨hall, hok⟩ | ⟨n, hfirst, herr⟩
  · rw [hok] at hlook
    obtain ⟨d, hd, -⟩ := exists_of_map_eq_ok hlook
    exact .inl ⟨hall, d, hd⟩
  · rw [herr] at hlook
    refine .inr ⟨n, hfirst, ?_⟩
    cases hd : t.demand src with
    | ok d => rw [hd] at hlook; cases hlook
    | error f => rw [hd] at hlook; cases hlook; rfl

end Sources

/-! ## Stores that clean up -/

namespace Store

/-- The outputs are there as far as they are still to be used. The store keeps everything and has
what the sources have, or it agrees with a store that does. -/
def Offers (s : Store) (src : Sources) (uses : List TaskKey) : Prop :=
  ∃ plain, plain.cleanModels = false ∧ plain.sources = src ∧ (s = plain ∨ s.Agrees plain uses)

theorem offers_ofTasks (clean : Bool) (tasks : List Task) :
    (ofTasks clean tasks).Offers (ofTasks false tasks).sources (tasks.flatMap Task.inputs) := by
  refine ⟨ofTasks false tasks, rfl, rfl, ?_⟩
  cases clean with
  | true => exact .inr (agrees_ofTasks tasks)
  | false => exact .inl rfl

namespace Offers

variable {s : Store} {src : Sources} {uses : List TaskKey} {t : Task}

/-- A task asks for the same. -/
theorem demand (h : s.Offers src (t.inputs ++ uses)) : t.demand s.sources = t.demand src := by
  obtain ⟨plain, -, rfl, rfl | hagrees⟩ := h
  · rfl
  · exact hagrees.demand (List.subset_append_left _ _)

/-- A task comes to the same end, and the store offers what it gave to the tasks that are left. -/
theorem refines_runTask (h : s.Offers src (t.inputs ++ uses)) (answers : Answers) :
    Refines (fun x y => x.1.Offers (src.put t.key y) uses ∧ x.2 = t.score? y)
      ((s.runTask t).result answers) (t.demand src >>= Demand.perform answers) := by
  obtain ⟨plain, hkeeps, rfl, hs⟩ := h
  have hplain := Refines.of_map (fun y => (plain.keep t y, t.score? y))
    (t.demand plain.sources >>= Demand.perform answers)
  rw [← plain.runTask_eq answers t] at hplain
  rcases hs with rfl | hagrees
  · refine hplain.mono ?_
    rintro _ y rfl
    obtain ⟨hkeeps', hsources⟩ := sources_keep hkeeps t y
    exact ⟨⟨_, hkeeps', hsources, .inl rfl⟩, rfl⟩
  · refine (hagrees.runTask answers).trans hplain ?_
    rintro x _ y ⟨hagrees', hscore⟩ rfl
    obtain ⟨hkeeps', hsources⟩ := sources_keep hkeeps t y
    exact ⟨⟨_, hkeeps', hsources, .inr hagrees'⟩, hscore⟩

end Offers

end Store

/-! ## The invariant of an execution -/

namespace Store

theorem hold_ofTasks (clean : Bool) (tasks : List Task) :
    (ofTasks clean tasks).sources.Hold [] := by
  rintro ⟨kind, k⟩ hn
  cases kind with
  | train => rfl
  | aggregate => rfl
  | test => exact absurd rfl hn

/-- What the tasks in front of those that are left have given is there, and nothing else, as far as
the tasks that are left use it. -/
structure Prepared (p : Plan) (before rest : List Task) (src : Sources) (s : Store) : Prop where
  tasks : p.tasks = before ++ rest
  hold : src.Hold before
  offers : s.Offers src (rest.flatMap Task.inputs)

theorem prepared_ofTasks (p : Plan) :
    (ofTasks p.cleanModels p.tasks).Prepared p [] p.tasks (ofTasks false p.tasks).sources where
  tasks := rfl
  hold := hold_ofTasks false p.tasks
  offers := offers_ofTasks p.cleanModels p.tasks

namespace Prepared

variable {p : Plan} {before rest : List Task} {t : Task} {src : Sources} {s : Store}

theorem mem_tasks (h : s.Prepared p before (t :: rest) src) : t ∈ p.tasks :=
  h.tasks ▸ List.mem_append_right _ (List.mem_cons_self ..)

theorem demand_eq (h : s.Prepared p before (t :: rest) src) :
    t.demand s.sources = t.demand src := by
  have hoffers := h.offers
  rw [List.flatMap_cons] at hoffers
  exact hoffers.demand

/-- A task leaves what it gives behind. -/
theorem refines_runTask (h : s.Prepared p before (t :: rest) src) (answers : Answers) :
    Refines (fun ran y => ran.1.Prepared p (before ++ [t]) rest (src.put t.key y) ∧
        y.kind = t.kind ∧ ran.2 = t.score? y)
      ((s.runTask t).result answers) (t.demand src >>= Demand.perform answers) := by
  have hoffers := h.offers
  rw [List.flatMap_cons] at hoffers
  refine (hoffers.refines_runTask answers).mono_of_eq fun ran y hy ⟨hoffers', hscore⟩ => ?_
  have hkind := Task.kind_of_gives hy
  refine ⟨⟨?_, h.hold.put hkind, hoffers'⟩, hkind, hscore⟩
  rw [h.tasks, List.append_assoc]
  rfl

end Prepared

end Store

/-- The store of an execution is prepared for the tasks that are left. -/
def Execution.Prepared (p : Plan) (x : Execution) : Prop :=
  ∃ before src, x.store.Prepared p before x.remaining src

namespace Execution

variable {p : Plan} {x y : Execution} {t : Task} {rest : List Task} {answers : Answers}

theorem prepared_start (p : Plan) : (start p).Prepared p :=
  ⟨_, _, Store.prepared_ofTasks p⟩

theorem Prepared.runNext (h : x.Prepared p) (hr : x.remaining = t :: rest)
    (hy : x.runNext answers t rest = .ok y) : y.Prepared p := by
  obtain ⟨before, src, hs⟩ := h
  rw [hr] at hs
  obtain ⟨ran, hran, rfl⟩ := exists_of_map_eq_ok hy
  have hrefines := hs.refines_runTask answers
  rw [hran] at hrefines
  obtain ⟨given, -, hprepared, -⟩ := hrefines.exists_of_ok
  exact ⟨_, _, hprepared⟩

end Execution

end Federation
