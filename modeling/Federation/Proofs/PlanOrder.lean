import Federation.Proofs.Rendering

/-!
# The one order of a plan

A plan keeps its tasks kind by kind and lists them by rank. What it was given is sorted three times:
by rank within each kind, by kind when the kinds are put one after the other, and by rank again.
Sorting by rank does not change the order of what has one rank. So a plan lists its tasks by rank,
at one rank by kind, and those of one kind in the order in which it was given them; no task is lost
and none is added.

To speak of the order in which tasks were given, each of them carries its position
(`List.zipIdx`). Two tasks that are alike in everything else are still told apart.

* `RankOrder.sort_map`, `RankOrder.filterMap_sort`: sorting the values of a function, or some of
  them, is sorting the arguments;
* `RankOrder.pairwise_sort_lex`: what has one rank stays in order;
* `Plan.tasks_ofTasks_eq`: the order of a plan as three sorts;
* `Plan.ofTasks_tasks`, `Plan.ofTasks_eq_of_perm`: a plan is the plan of its own tasks, and tasks of
  distinct ranks make one plan;
* `Experiment.compile_of_visits`, `Experiment.compile_onNodes`: operations and nodes may be visited
  in any order;
* `plan_normal_form`: the order of a plan, the plan of its own tasks, and the plan of tasks in
  another order.
-/

namespace Federation

/-! ## Stable sorting -/

namespace RankOrder

variable {α β : Type}

theorem insert_map (rank : α → Nat) (f : β → α) (b : β) (l : List β) :
    insert rank (f b) (l.map f) = (insert (rank ∘ f) b l).map f := by
  induction l with
  | nil => rfl
  | cons c rest ih =>
    rw [List.map_cons, insert, insert, ih]
    by_cases h : rank (f b) ≤ rank (f c)
    · rw [if_pos h, if_pos (show (rank ∘ f) b ≤ (rank ∘ f) c from h)]
      rfl
    · rw [if_neg h, if_neg (show ¬ (rank ∘ f) b ≤ (rank ∘ f) c from h)]
      rfl

theorem sort_map (rank : α → Nat) (f : β → α) (xs : List β) :
    sort rank (xs.map f) = (sort (rank ∘ f) xs).map f := by
  induction xs with
  | nil => rfl
  | cons b rest ih => rw [List.map_cons, sort_cons, sort_cons, ih, insert_map]

/-- By rank, and at one rank in another order. -/
def Lex (rank : α → Nat) (R : α → α → Prop) (a b : α) : Prop :=
  rank a < rank b ∨ rank a = rank b ∧ R a b

theorem Lex.le {rank : α → Nat} {R : α → α → Prop} {a b : α} (h : Lex rank R a b) :
    rank a ≤ rank b :=
  h.elim Nat.le_of_lt fun h => Nat.le_of_eq h.1

theorem pairwise_insert_lex (rank : α → Nat) {R : α → α → Prop} {a : α} {l : List α}
    (ha : ∀ b ∈ l, R a b) (h : l.Pairwise (Lex rank R)) :
    (insert rank a l).Pairwise (Lex rank R) := by
  induction l with
  | nil => exact List.pairwise_singleton _ _
  | cons b rest ih =>
    obtain ⟨hb, hrest⟩ := List.pairwise_cons.mp h
    unfold insert
    split
    · next hab =>
      refine List.pairwise_cons.mpr ⟨fun x hx => ?_, h⟩
      have hbx : rank b ≤ rank x := by
        rcases List.mem_cons.mp hx with rfl | hx
        · exact Nat.le_refl _
        · exact (hb x hx).le
      rcases Nat.lt_or_eq_of_le (Nat.le_trans hab hbx) with hlt | heq
      · exact .inl hlt
      · exact .inr ⟨heq, ha x hx⟩
    · next hab =>
      refine List.pairwise_cons.mpr ⟨fun x hx => ?_, ih (fun x hx => ha x (.tail _ hx)) hrest⟩
      rcases List.mem_cons.mp ((perm_insert rank a rest).subset hx) with rfl | hx
      · exact .inl (Nat.lt_of_not_le hab)
      · exact hb x hx

/-- Members of one rank stay in the order in which they are given. -/
theorem pairwise_sort_lex (rank : α → Nat) {R : α → α → Prop} {xs : List α} (h : xs.Pairwise R) :
    (sort rank xs).Pairwise (Lex rank R) := by
  induction xs with
  | nil => exact .nil
  | cons a rest ih =>
    obtain ⟨ha, hrest⟩ := List.pairwise_cons.mp h
    exact pairwise_insert_lex rank (fun b hb => ha b ((perm_sort rank rest).subset hb)) (ih hrest)

/-- Members of distinct ranks are sorted in one way, in whatever order they are given. -/
theorem sort_eq_sort_of_perm (rank : α → Nat) {xs ys : List α} (h : xs.Perm ys)
    (hn : (ys.map rank).Nodup) : sort rank xs = sort rank ys := by
  refine sort_eq_of_perm rank (h.trans (perm_sort rank ys).symm) ?_
  have hne : ys.Pairwise fun a b => rank a ≠ rank b := List.pairwise_map.mp hn
  exact (pairwise_sort_lex rank hne).imp fun hab => hab.resolve_right fun h => h.2 h.1

theorem sort_sort (rank : α → Nat) (xs : List α) : sort rank (sort rank xs) = sort rank xs :=
  sort_eq_self rank (pairwise_sort rank xs)

/-- A member that is not ranked above the first one goes to the front. -/
theorem insert_eq_cons (rank : α → Nat) {a : α} {l : List α} (h : ∀ b ∈ l, rank a ≤ rank b) :
    insert rank a l = a :: l := by
  cases l with
  | nil => rfl
  | cons b rest => rw [insert, if_pos (h b (List.mem_cons_self ..))]

/-- A member goes behind all that are ranked below it. -/
theorem insert_append (rank : α → Nat) {a : α} {l : List α} (h : ∀ b ∈ l, rank b < rank a)
    (l' : List α) : insert rank a (l ++ l') = l ++ insert rank a l' := by
  induction l with
  | nil => rfl
  | cons b rest ih =>
    obtain ⟨hb, hrest⟩ := List.forall_mem_cons.mp h
    rw [List.cons_append, insert, if_neg (Nat.not_le.mpr hb), ih hrest, List.cons_append]

variable {rank : α → Nat} {rank' : β → Nat} {f : α → Option β}

/-- Of a sorted list some members are kept; one that is inserted before is inserted among them. -/
theorem filterMap_insert (hf : ∀ a b, f a = some b → rank' b = rank a) {a : α} {b : β}
    (hab : f a = some b) {l : List α} (h : l.Pairwise fun x y => rank x ≤ rank y) :
    (insert rank a l).filterMap f = insert rank' b (l.filterMap f) := by
  induction l with
  | nil => simp [insert, hab]
  | cons c rest ih =>
    obtain ⟨hc, hrest⟩ := List.pairwise_cons.mp h
    have hb := hf a b hab
    by_cases hac : rank a ≤ rank c
    · have hfront : ∀ d ∈ (c :: rest).filterMap f, rank' b ≤ rank' d := by
        intro d hd
        obtain ⟨x, hx, hxd⟩ := List.mem_filterMap.mp hd
        rw [hb, hf x d hxd]
        rcases List.mem_cons.mp hx with rfl | hx
        · exact hac
        · exact Nat.le_trans hac (hc x hx)
      rw [insert, if_pos hac, List.filterMap_cons_some hab, insert_eq_cons rank' hfront]
    · rw [insert, if_neg hac]
      cases hfc : f c with
      | none => rw [List.filterMap_cons_none hfc, List.filterMap_cons_none hfc, ih hrest]
      | some d =>
        have hdb : ¬ rank' b ≤ rank' d := by rwa [hb, hf c d hfc]
        rw [List.filterMap_cons_some hfc, List.filterMap_cons_some hfc, ih hrest,
          insert.eq_def rank' b (d :: _)]
        exact (if_neg hdb).symm

theorem filterMap_insert_none {a : α} (ha : f a = none) (l : List α) :
    (insert rank a l).filterMap f = l.filterMap f := by
  induction l with
  | nil => simp [insert, ha]
  | cons c rest ih =>
    unfold insert
    split
    · rw [List.filterMap_cons_none ha]
    · rw [List.filterMap_cons, List.filterMap_cons, ih]

/-- To keep some members of a sorted list is to sort those that are kept. -/
theorem filterMap_sort (hf : ∀ a b, f a = some b → rank' b = rank a) (xs : List α) :
    (sort rank xs).filterMap f = sort rank' (xs.filterMap f) := by
  induction xs with
  | nil => rfl
  | cons a rest ih =>
    rw [sort_cons]
    cases hfa : f a with
    | none => rw [filterMap_insert_none hfa, List.filterMap_cons_none hfa, ih]
    | some b =>
      rw [filterMap_insert hf hfa (pairwise_sort rank rest), List.filterMap_cons_some hfa, ih,
        sort_cons]

end RankOrder

/-! ## The order of tasks -/

/-- The place of a kind among the tasks of one rank: trainings, aggregations, tests. -/
def OperationKind.place : OperationKind → Nat
  | .train => 0
  | .aggregate => 1
  | .test => 2

theorem OperationKind.place_injective {k k' : OperationKind} (h : k.place = k'.place) : k = k' := by
  cases k <;> cases k' <;> first | rfl | cases h

namespace Task

/-- The place of a task among the tasks of its rank. -/
def place (t : Task) : Nat :=
  t.kind.place

/-- Of two tasks that were given at positions, one comes before the other: by rank, at one rank by
kind, and at one rank and of one kind by position. -/
def Before (a b : Task × Nat) : Prop :=
  a.1.rank < b.1.rank ∨ a.1.rank = b.1.rank ∧
    (a.1.kind.place < b.1.kind.place ∨ a.1.kind = b.1.kind ∧ a.2 < b.2)

/-- Sorting by kind puts the kinds one after the other. -/
theorem sort_place (ts : List Task) :
    RankOrder.sort place ts = (ts.filterMap train?).map .train ++
      ((ts.filterMap aggregate?).map .aggregate ++ (ts.filterMap test?).map .test) := by
  have hplaces {α : Type} {f : α → Task} {n : Nat} (hf : ∀ a, (f a).place = n) {l : List α} :
      ∀ t ∈ l.map f, t.place = n := by
    simpa using fun a _ => hf a
  induction ts with
  | nil => rfl
  | cons t rest ih =>
    have htrain := hplaces (f := Task.train) (fun _ => rfl) (l := rest.filterMap train?)
    have haggregate := hplaces (f := Task.aggregate) (fun _ => rfl) (l := rest.filterMap aggregate?)
    have htest := hplaces (f := Task.test) (fun _ => rfl) (l := rest.filterMap test?)
    rw [RankOrder.sort_cons, ih]
    cases t with
    | train t => exact RankOrder.insert_eq_cons place fun b _ => Nat.zero_le _
    | aggregate t =>
      rw [RankOrder.insert_append place fun b hb => htrain b hb ▸ Nat.zero_lt_one,
        RankOrder.insert_eq_cons place fun b hb => ?_]
      · rfl
      · rcases List.mem_append.mp hb with hb | hb
        · exact haggregate b hb ▸ Nat.le_refl _
        · exact htest b hb ▸ Nat.le_succ _
    | test t =>
      rw [RankOrder.insert_append place fun b hb => htrain b hb ▸ Nat.zero_lt_two,
        RankOrder.insert_append place fun b hb => haggregate b hb ▸ Nat.one_lt_two,
        RankOrder.insert_eq_cons place fun b hb => htest b hb ▸ Nat.le_refl _]
      rfl

theorem rank_of_train? (t : Task) (t' : TrainTask) (h : t.train? = some t') : t'.rank = t.rank := by
  cases t <;> cases h
  rfl

theorem rank_of_aggregate? (t : Task) (t' : AggregateTask) (h : t.aggregate? = some t') :
    t'.rank = t.rank := by
  cases t <;> cases h
  rfl

theorem rank_of_test? (t : Task) (t' : TestTask) (h : t.test? = some t') : t'.rank = t.rank := by
  cases t <;> cases h
  rfl

end Task

namespace Plan

variable (tag : String) (clean : Bool) (permissions : Permissions)

/-- A plan has its tasks in an order that comes of sorting them three times. -/
theorem tasks_ofTasks_eq (ts : List Task) : (ofTasks tag clean permissions ts).tasks =
    RankOrder.sort Task.rank (RankOrder.sort Task.place (RankOrder.sort Task.rank ts)) := by
  rw [tasks, Task.sort_place, RankOrder.filterMap_sort Task.rank_of_train?,
    RankOrder.filterMap_sort Task.rank_of_aggregate?, RankOrder.filterMap_sort Task.rank_of_test?,
    byKind, List.append_assoc]
  rfl

/-- Tasks are sorted with the positions at which they were given. -/
theorem exists_order (ts : List Task) : ∃ order : List (Task × Nat), order.Perm ts.zipIdx ∧
    order.Pairwise Task.Before ∧ (ofTasks tag clean permissions ts).tasks = order.map Prod.fst := by
  have hpositions : ts.zipIdx.Pairwise fun a b => a.2 < b.2 := by
    rw [← List.pairwise_map, List.zipIdx_map_snd]
    exact List.pairwise_lt_range'
  refine ⟨RankOrder.sort (Task.rank ∘ Prod.fst) (RankOrder.sort (Task.place ∘ Prod.fst)
    (RankOrder.sort (Task.rank ∘ Prod.fst) ts.zipIdx)), ?_, ?_, ?_⟩
  · have hplaced := (RankOrder.perm_sort (Task.place ∘ Prod.fst) _).trans
      (RankOrder.perm_sort (Task.rank ∘ Prod.fst) ts.zipIdx)
    exact (RankOrder.perm_sort (Task.rank ∘ Prod.fst) _).trans hplaced
  · have hsorted := RankOrder.pairwise_sort_lex (Task.rank ∘ Prod.fst)
      (RankOrder.pairwise_sort_lex (Task.place ∘ Prod.fst)
        (RankOrder.pairwise_sort_lex (Task.rank ∘ Prod.fst) hpositions))
    -- at one rank and of one kind, the first sort has left the positions in order
    refine hsorted.imp fun {a b} hab => ?_
    obtain hrank | ⟨hrank, hplace | ⟨hplace, hfirst⟩⟩ := hab
    · exact .inl hrank
    · exact .inr ⟨hrank, .inl hplace⟩
    · obtain hlt | ⟨-, hposition⟩ := hfirst
      · exact absurd hrank (Nat.ne_of_lt hlt)
      · exact .inr ⟨hrank, .inr ⟨OperationKind.place_injective hplace, hposition⟩⟩
  · rw [tasks_ofTasks_eq, ← RankOrder.sort_map, ← RankOrder.sort_map, ← RankOrder.sort_map,
      List.zipIdx_map_fst]

/-! ## Plans of the same tasks -/

/-- Of all tasks kind by kind, those of one kind are that part of the plan. -/
theorem filterMap_byKind (p : Plan) : p.byKind.filterMap Task.train? = p.trainTasks ∧
    p.byKind.filterMap Task.aggregate? = p.aggregateTasks ∧
    p.byKind.filterMap Task.test? = p.testTasks := by
  simp [byKind, List.filterMap_map, Function.comp_def, Task.train?, Task.aggregate?, Task.test?]

/-- A plan is the plan of its own tasks. -/
theorem ofTasks_tasks (ts : List Task) :
    ofTasks tag clean permissions (ofTasks tag clean permissions ts).tasks =
      ofTasks tag clean permissions ts := by
  obtain ⟨htrain, haggregate, htest⟩ := (ofTasks tag clean permissions ts).filterMap_byKind
  rw [ofTasks, tasks, RankOrder.filterMap_sort Task.rank_of_train?,
    RankOrder.filterMap_sort Task.rank_of_aggregate?, RankOrder.filterMap_sort Task.rank_of_test?,
    htrain, haggregate, htest]
  simp only [ofTasks, RankOrder.sort_sort]

/-- The tasks of one kind, among tasks of distinct ranks, have distinct ranks. -/
theorem nodup_ranks_filterMap {α : Type} {rank : α → Nat} {f : Task → Option α}
    (hf : ∀ t a, f t = some a → rank a = t.rank) {ts : List Task} (h : (ts.map Task.rank).Nodup) :
    ((ts.filterMap f).map rank).Nodup := by
  rw [List.Nodup, List.pairwise_map] at h ⊢
  refine h.filterMap f fun t t' hne a ha b hb => ?_
  rwa [hf t a ha, hf t' b hb]

/-- Tasks of distinct ranks make one plan, in whatever order they are given. -/
theorem ofTasks_eq_of_perm {ts ts' : List Task} (hperm : ts'.Perm ts)
    (h : (ts.map Task.rank).Nodup) :
    ofTasks tag clean permissions ts' = ofTasks tag clean permissions ts := by
  have hsort {α : Type} {rank : α → Nat} {f : Task → Option α}
      (hf : ∀ t a, f t = some a → rank a = t.rank) :
      RankOrder.sort rank (ts'.filterMap f) = RankOrder.sort rank (ts.filterMap f) :=
    RankOrder.sort_eq_sort_of_perm rank (hperm.filterMap f) (nodup_ranks_filterMap hf h)
  rw [ofTasks, ofTasks, hsort Task.rank_of_train?, hsort Task.rank_of_aggregate?,
    hsort Task.rank_of_test?]

end Plan

/-! ## The order of nodes -/

namespace Experiment

variable {e : Experiment} {now : Timestamp} {plan : Plan}

/-- Operations that are visited in another order make the same plan, if its ranks are distinct. -/
theorem compile_of_visits (h : e.compile now = .ok plan) (hranks : (plan.tasks.map Task.rank).Nodup)
    {ids : List OperationId} (hids : ids.Perm e.recorded) : ∃ ts, tasksOf e.graph ids = .ok ts ∧
      plan = .ofTasks (e.tag.getD now.text) e.cleanModels e.permissions ts := by
  obtain ⟨-, ts, hts, rfl⟩ := compile_eq_ok_iff.mp h
  obtain ⟨ts', hts', hperm⟩ := tasksOf_of_perm hids.symm hts
  have htasks := (Plan.perm_tasks _).trans
    (Plan.perm_byKind_ofTasks (e.tag.getD now.text) e.cleanModels e.permissions ts)
  have hdistinct : (ts.map Task.rank).Nodup := (htasks.map Task.rank).nodup_iff.mp hranks
  exact ⟨ts', hts', (Plan.ofTasks_eq_of_perm _ _ _ hperm.symm hdistinct).symm⟩

/-- The experiment with other nodes. -/
def onNodes (e : Experiment) (trainNodes : List TrainNode) (testNodes : List TestNode) :
    Experiment :=
  { e with
    trainNodes := trainNodes
    testNodes := testNodes }

/-- The nodes in another order make the same plan, if its ranks are distinct. -/
theorem compile_onNodes (h : e.compile now = .ok plan)
    (hranks : (plan.tasks.map Task.rank).Nodup) {trainNodes : List TrainNode}
    {testNodes : List TestNode} (htrain : trainNodes.Perm e.trainNodes)
    (htest : testNodes.Perm e.testNodes) :
    (e.onNodes trainNodes testNodes).compile now = .ok plan := by
  have hrecorded : (e.onNodes trainNodes testNodes).recorded.Perm e.recorded :=
    ((htrain.flatMap_right _).append (htest.flatMap_right _)).append_right _
  have hpermissions : (e.onNodes trainNodes testNodes).permissions = e.permissions :=
    Permissions.ofMembers_eq_of_mem_iff fun _ => ((htrain.map _).append_left _).mem_iff
  obtain ⟨ts, hts, hplan⟩ := compile_of_visits h hranks hrecorded
  refine compile_eq_ok_iff.mpr ⟨(compile_eq_ok_iff.mp h).1, ts, hts, ?_⟩
  rw [hpermissions]
  exact hplan

/-- The tasks of an experiment that was built have distinct ranks. -/
theorem nodup_ranks_of_build {r : Recorder} (h : (e.build r).outcome = .ok ())
    (hplan : (e.build r).state.1.compile now = .ok plan) : (plan.tasks.map Task.rank).Nodup := by
  obtain ⟨a, -, -, hbuilt, hfollows⟩ := (buildable_of_build h).build r
  obtain ⟨plan', hplan', htasks, -, -⟩ := hfollows.compile hbuilt now
  obtain rfl : plan = plan' := Except.ok.inj (hplan.symm.trans hplan')
  rw [htasks, Blueprint.ranks_tasks hfollows.becomes]
  exact List.nodup_range

end Experiment

/-- **The normal form of a plan.** A plan lists the tasks that it is made of, each at the position
at which it was given, by rank, at one rank by kind, and at one rank and of one kind by position. It
is the plan of the tasks that it lists, and if their ranks are distinct also of these tasks in any
other order. So it does not matter in which order an experiment visits its operations and its nodes,
as long as the ranks of its tasks are distinct; once it is built, they are. -/
theorem plan_normal_form :
    (∀ (tag : String) (clean : Bool) (permissions : Permissions) (ts : List Task),
      (∃ order : List (Task × Nat), order.Perm ts.zipIdx ∧ order.Pairwise Task.Before ∧
        (Plan.ofTasks tag clean permissions ts).tasks = order.map Prod.fst) ∧
      Plan.ofTasks tag clean permissions (Plan.ofTasks tag clean permissions ts).tasks =
        Plan.ofTasks tag clean permissions ts ∧
      ((ts.map Task.rank).Nodup → ∀ ts' : List Task, ts'.Perm ts →
        Plan.ofTasks tag clean permissions ts' = Plan.ofTasks tag clean permissions ts)) ∧
    (∀ (e : Experiment) (now : Timestamp) (plan : Plan), e.compile now = .ok plan →
      (plan.tasks.map Task.rank).Nodup →
      (∀ ids : List OperationId, ids.Perm e.recorded →
        ∃ ts, Experiment.tasksOf e.graph ids = .ok ts ∧
          plan = .ofTasks (e.tag.getD now.text) e.cleanModels e.permissions ts) ∧
      ∀ (trainNodes : List TrainNode) (testNodes : List TestNode),
        trainNodes.Perm e.trainNodes → testNodes.Perm e.testNodes →
          (e.onNodes trainNodes testNodes).compile now = .ok plan) ∧
    ∀ (e : Experiment) (r : Recorder) (now : Timestamp) (plan : Plan),
      (e.build r).outcome = .ok () → (e.build r).state.1.compile now = .ok plan →
        (plan.tasks.map Task.rank).Nodup := by
  refine ⟨fun tag clean permissions ts => ⟨?_, ?_, ?_⟩, fun e now plan h hranks => ⟨?_, ?_⟩, ?_⟩
  · exact Plan.exists_order tag clean permissions ts
  · exact Plan.ofTasks_tasks tag clean permissions ts
  · exact fun hranks ts' hperm => Plan.ofTasks_eq_of_perm tag clean permissions hperm hranks
  · exact fun ids hids => Experiment.compile_of_visits h hranks hids
  · exact fun trainNodes testNodes htrain htest =>
      Experiment.compile_onNodes h hranks htrain htest
  · exact fun e r now plan h hplan => Experiment.nodup_ranks_of_build h hplan

/-- A training and the test of what it trains, the test given first, are the plan in which the
training comes first; and the two rounds compile to one plan from the nodes in either order. -/
theorem plan_normal_form_of_pair :
    let training : Task := .train ⟨.drawn 0, 0, 0, ⟨"first"⟩, default, default, [], none, none⟩
    let test : Task := .test ⟨.drawn 1, 1, 0, ⟨"first"⟩, .drawn 0, default, [], []⟩
    let permissions := Permissions.ofMembers [⟨"first"⟩]
    let built := (Experiment.twoRounds.build .new).state.1
    let now : Timestamp := ⟨2024, 1, 1, 0, 0, 0⟩
    (Plan.ofTasks "pair" true permissions [test, training]).tasks = [training, test] ∧
      Plan.ofTasks "pair" true permissions [training, test] =
        Plan.ofTasks "pair" true permissions [test, training] ∧
      ∃ plan, built.compile now = .ok plan ∧
        (built.onNodes built.trainNodes.reverse built.testNodes).compile now = .ok plan := by
  intro training test permissions built now
  obtain ⟨sorted, visited, distinct⟩ := plan_normal_form
  have hranks : ([test, training].map Task.rank).Nodup := by decide
  obtain ⟨a, -, hok, hbuilt, hfollows⟩ := Experiment.buildable_twoRounds.build .new
  obtain ⟨plan, hplan, -⟩ := hfollows.compile hbuilt now
  refine ⟨rfl, (sorted "pair" true permissions [test, training]).2.2 hranks _ (.swap ..), plan,
    hplan, ?_⟩
  exact (visited built now plan hplan (distinct _ _ now plan hok hplan)).2 _ _
    (List.reverse_perm _) (.refl _)

end Federation
