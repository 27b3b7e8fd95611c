import Federation.Proofs.Rendering

/-!
# Who may see the plan of an experiment

The permissions of an experiment are a set of members with one way to write it down: nobody else may
see the plan, and the members are listed in the order of the bytes of their identities, each once.
The set is who takes part in the learning, by training or by aggregating. It does not matter in
which order and how often they do, nor who tests.

A build changes no member of the experiment. Who works on its plan trains, aggregates, or tests what
a node of the same member has trained, and so may see the plan.

* `Experiment.Learns`: who takes part in the learning;
* `Experiment.mem_permissions_iff`, `Experiment.permissions_eq_of_learns_iff`: the permissions are
  this set, and nothing else matters for them;
* `Experiment.permissions_build`, `Experiment.exists_allowing_plan`: what holds after a build;
* `Experiment.permissions_exact`: all of this, for the plans of all experiments.
-/

namespace Federation

namespace Experiment

variable {e e' : Experiment} {id : ParticipantId}

/-! ## The set of members -/

/-- A member takes part in the learning: it trains, or it aggregates. -/
def Learns (e : Experiment) (id : ParticipantId) : Prop :=
  (∃ n ∈ e.trainNodes, n.id = id) ∨ ∃ a, e.aggregator = some a ∧ a.id = id

theorem mem_members_iff : id ∈ e.aggregator.toList.map AggregationNode.id ++
    e.trainNodes.map TrainNode.id ↔ e.Learns id := by
  rw [List.mem_append, List.mem_map, List.mem_map, or_comm]
  simp only [Option.mem_toList]
  rfl

theorem mem_permissions_iff : id ∈ e.permissions.authorized ↔ e.Learns id :=
  Permissions.mem_ofMembers.trans mem_members_iff

theorem allows_permissions_iff : e.permissions.allows id = true ↔ e.Learns id := by
  rw [Permissions.allows_iff, mem_permissions_iff]
  exact or_iff_right Bool.false_ne_true

/-- Two experiments with the same members that learn have the same permissions, in whatever order
and however often their nodes name these members. -/
theorem permissions_eq_of_learns_iff (h : ∀ id, e'.Learns id ↔ e.Learns id) :
    e'.permissions = e.permissions := by
  refine Permissions.ofMembers_eq_of_mem_iff fun id => ?_
  rw [mem_members_iff, mem_members_iff, h]

/-! ## After a build -/

theorem permissions_of_compile {now : Timestamp} {plan : Plan} (h : e.compile now = .ok plan) :
    plan.permissions = e.permissions := by
  obtain ⟨-, _, -, rfl⟩ := compile_eq_ok_iff.mp h
  rfl

/-- An experiment that follows the blueprint of another one has its permissions. -/
theorem Follows.permissions {a : AggregationNode} (ha : e.aggregator = some a) {serial n : Nat}
    {ops : List Operation} {r : Recorder} (h : e'.Follows (e.blueprint a.id serial) n ops r) :
    e'.permissions = e.permissions := by
  -- nodes that only differ in their queues belong to the same members
  have hids (nodes : List TrainNode) :
      nodes.map TrainNode.id = (nodes.map TrainNode.clear).map TrainNode.id := by
    rw [List.map_map]
    rfl
  have htrain : e'.trainNodes.map TrainNode.id = e.trainNodes.map TrainNode.id := by
    rw [hids, h.trainNodes, hids e.trainNodes]
    rfl
  obtain ⟨a', ha', hid⟩ := Option.map_eq_some_iff.mp h.aggregator
  have hid : a'.id = a.id := hid
  simp only [Experiment.permissions, ha, ha', htrain, Option.toList_some, List.map_singleton, hid]

/-- A build that succeeds keeps the permissions. -/
theorem permissions_build {r : Recorder} (built : (e.build r).outcome = .ok ()) :
    (e.build r).state.1.permissions = e.permissions := by
  obtain ⟨a, ha, -, -, hfollows⟩ := (buildable_of_build built).build r
  exact hfollows.permissions ha

/-- An experiment that was built has a plan, and everybody who works on it may see it. -/
theorem exists_allowing_plan {r : Recorder} (built : (e.build r).outcome = .ok ())
    (now : Timestamp) : ∃ plan, (e.build r).state.1.compile now = .ok plan ∧
      ∀ t ∈ plan.tasks, plan.permissions.allows t.worker = true := by
  have hbuildable := buildable_of_build built
  obtain ⟨a, -, -, hbuilt, hfollows⟩ := hbuildable.build r
  have hm : (e.blueprint a.id r.drawn).Matched := hbuildable.matched
  obtain ⟨plan, hcompile, htasks, -, hpermissions⟩ := hfollows.compile hbuilt now
  refine ⟨plan, hcompile, fun t ht => ?_⟩
  obtain ⟨op, hop, hbecomes⟩ := exists_mem_of_forall₂ hfollows.becomes (htasks ▸ ht)
  rw [hpermissions, (Task.ofOperation_spec hbecomes).worker]
  exact hfollows.allows hm hop

/-! ## All plans -/

/-- **The permissions of an experiment.** They are private. Their list is strictly increasing in the
order of the bytes, and has exactly the members that train or aggregate, so that a member that only
tests is not in it. A member may see the plan if and only if it is in it. Experiments with the same
such members have the same permissions, in whatever order and however often they name them. The
permissions of a plan are those of the experiment that it is compiled from; and a successful build
keeps them, its experiment can be compiled, and all who work on the plan may see it. -/
theorem permissions_exact (e : Experiment) :
    e.permissions.isPublic = false ∧
      e.permissions.authorized.Pairwise (fun p q => p.bytes < q.bytes) ∧
      (∀ id, id ∈ e.permissions.authorized ↔ e.Learns id) ∧
      (∀ t ∈ e.testNodes, ¬ e.Learns t.id → t.id ∉ e.permissions.authorized) ∧
      (∀ id, e.permissions.allows id = true ↔ e.Learns id) ∧
      (∀ e' : Experiment, (∀ id, e'.Learns id ↔ e.Learns id) → e'.permissions = e.permissions) ∧
      (∀ now plan, e.compile now = .ok plan → plan.permissions = e.permissions) ∧
      ∀ r : Recorder, (e.build r).outcome = .ok () →
        (e.build r).state.1.permissions = e.permissions ∧
          ∀ now, ∃ plan, (e.build r).state.1.compile now = .ok plan ∧
            ∀ t ∈ plan.tasks, plan.permissions.allows t.worker = true := by
  refine ⟨rfl, Permissions.pairwise_ofMembers _, fun id => mem_permissions_iff,
    fun t _ h => mt mem_permissions_iff.mp h, fun id => allows_permissions_iff,
    fun e' h => permissions_eq_of_learns_iff h, fun now plan h => permissions_of_compile h,
    fun r built => ⟨permissions_build built, exists_allowing_plan built⟩⟩

/-- Two members learn. A third one that only tests may not see the plan, and it does not matter that
the two train in another order and more than once. The two rounds of the two are compiled into a
plan that all who work on it may see. -/
theorem permissions_of_twoRounds :
    let now : Timestamp := ⟨2024, 1, 1, 0, 0, 0⟩
    let third := TestNode.new ⟨"third"⟩ default [] []
    let tested := twoRounds.withTestNodes [third]
    let nodes := twoRounds.trainNodes
    let repeated := { twoRounds with trainNodes := nodes.reverse ++ nodes }
    twoRounds.permissions.authorized = [⟨"first"⟩, ⟨"second"⟩] ∧
      ¬ tested.Learns third.id ∧ third.id ∉ tested.permissions.authorized ∧
      repeated.permissions = twoRounds.permissions ∧
      (twoRounds.build .new).outcome = .ok () ∧
      ∃ plan, (twoRounds.build .new).state.1.compile now = .ok plan ∧
        plan.permissions = twoRounds.permissions ∧
        ∀ t ∈ plan.tasks, plan.permissions.allows t.worker = true := by
  intro now third tested nodes repeated
  have hstranger : ¬ tested.Learns third.id := by
    simp [Learns, tested, third, withTestNodes, twoRounds, TrainNode.new, AggregationNode.new, new,
      TestNode.new]
  have hrepeated : ∀ id, repeated.Learns id ↔ twoRounds.Learns id := by
    simp [Learns, repeated, nodes]
  obtain ⟨-, -, -, htests, -⟩ := permissions_exact tested
  obtain ⟨-, -, -, -, -, hsame, -, hbuild⟩ := permissions_exact twoRounds
  obtain ⟨-, -, built, -⟩ := buildable_twoRounds.build .new
  obtain ⟨hkept, hplan⟩ := hbuild .new built
  obtain ⟨plan, hcompile, hallowed⟩ := hplan now
  obtain ⟨-, -, -, -, -, -, hcompiled, -⟩ := permissions_exact (twoRounds.build .new).state.1
  exact ⟨by decide +kernel, hstranger, htests third (List.mem_singleton_self _) hstranger,
    hsame repeated hrepeated, built, plan, hcompile, (hcompiled now plan hcompile).trans hkept,
    hallowed⟩

end Experiment

end Federation
