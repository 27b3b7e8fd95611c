import Federation.Proofs.First
import Federation.Proofs.History

/-!
# Evaluations follow members

An evaluation tests what members learned in the last round. The nodes that test, the nodes that
train and the local states of the round are three lists, each in an order of its own, and in each of
them a member may be missing or occur several times. So a node that tests is matched by its member,
never by its position: exactly one of the nodes that train has to belong to it, and it is given the
first local state of the member in the last round. An evaluation stops at the first node that has no
match.

* `FederatedAveraging.MatchedWith`, `FederatedAveraging.Unmatched`: the state that a member is
  tested on, and why there is none;
* `FederatedAveraging.stateToTest_eq_ok_iff`, `FederatedAveraging.stateToTest_eq_error_iff`: one of
  the two is found;
* `FederatedAveraging.Tested`: what an evaluation has done when it stops;
* `FederatedAveraging.testAll_matched`, `FederatedAveraging.testAll_unmatched`: nodes that are
  matched are tested, up to the first that is not;
* `FederatedAveraging.predict_exact`: evaluations of a strategy whose rounds were registered on the
  graph.
-/

namespace Federation

namespace FederatedAveraging

variable {current : RoundSnapshot} {trainNodes : List TrainNode} {round : Round}

/-! ## Matches -/

/-- A member is matched with a local state of a round. Exactly one of the nodes that train belongs
to the member, and the state is its first one in the round. -/
structure MatchedWith (current : RoundSnapshot) (trainNodes : List TrainNode)
    (member : ParticipantId) (state : LocalStateRef) : Prop where
  once : (trainNodes.filter fun n => n.id = member).length = 1
  first : IsFirst (fun r => r.node = member) current.states state

/-- Why a member has no match. -/
inductive Unmatched (current : RoundSnapshot) (trainNodes : List TrainNode)
    (member : ParticipantId) : StrategyError → Prop
  /-- None of the nodes that train belongs to the member. -/
  | nobody (h : ∀ n ∈ trainNodes, n.id ≠ member) :
    Unmatched current trainNodes member (.noMatchingTrainNode member)
  /-- The member did not train in the round. -/
  | stateless (once : (trainNodes.filter fun n => n.id = member).length = 1)
    (h : ∀ r ∈ current.states, r.node ≠ member) :
    Unmatched current trainNodes member (.noMatchingTrainNode member)
  /-- Several of the nodes that train belong to the member. -/
  | several (h : 1 < (trainNodes.filter fun n => n.id = member).length) :
    Unmatched current trainNodes member (.ambiguousTrainNode member)

variable {member : ParticipantId}

theorem state?_eq_some_iff {state : LocalStateRef} :
    current.state? member = some state ↔
      IsFirst (fun r => r.node = member) current.states state :=
  IsFirst.iff_find?.symm

theorem state?_eq_none_iff :
    current.state? member = none ↔ ∀ r ∈ current.states, r.node ≠ member := by
  simp [RoundSnapshot.state?]

theorem stateToTest_eq_ok_iff {state : LocalStateRef} :
    stateToTest current trainNodes member = .ok state ↔
      MatchedWith current trainNodes member state := by
  unfold stateToTest
  constructor
  · intro h
    split at h
    · cases h
    · next once =>
      split at h
      · next hstate =>
        obtain rfl := Except.ok.inj h
        exact ⟨once, state?_eq_some_iff.mp hstate⟩
      · cases h
    · cases h
  · rintro ⟨once, first⟩
    simp only [once, state?_eq_some_iff.mpr first]

theorem stateToTest_eq_error_iff {e : StrategyError} :
    stateToTest current trainNodes member = .error e ↔ Unmatched current trainNodes member e := by
  unfold stateToTest
  constructor
  · intro h
    split at h
    · next hnone =>
      obtain rfl := Except.error.inj h
      rw [List.length_eq_zero_iff, List.filter_eq_nil_iff] at hnone
      exact .nobody fun n hn => by simpa using hnone n hn
    · next once =>
      split at h
      · cases h
      · next hstate =>
        obtain rfl := Except.error.inj h
        exact .stateless once (state?_eq_none_iff.mp hstate)
    · next hzero hone =>
      obtain rfl := Except.error.inj h
      exact .several (Nat.lt_of_le_of_ne (Nat.pos_of_ne_zero hzero) (Ne.symm hone))
  · rintro (hnone | ⟨once, hstates⟩ | hseveral)
    · have hzero : (trainNodes.filter fun n => n.id = member).length = 0 := by
        rw [List.length_eq_zero_iff, List.filter_eq_nil_iff]
        exact fun n hn => by simpa using hnone n hn
      simp only [hzero]
    · simp only [once, state?_eq_none_iff.mpr hstates]
    · split
      · next hzero => omega
      · next hone => omega
      · rfl

theorem matchedWith_or_unmatched (current : RoundSnapshot) (trainNodes : List TrainNode)
    (member : ParticipantId) : (∃ state, MatchedWith current trainNodes member state) ∨
      ∃ e, Unmatched current trainNodes member e := by
  simp only [← stateToTest_eq_ok_iff, ← stateToTest_eq_error_iff]
  cases stateToTest current trainNodes member with
  | ok state => exact .inl ⟨state, rfl⟩
  | error e => exact .inr ⟨e, rfl⟩

/-- Either all nodes have matches, or the first that has none comes after nodes that do. -/
theorem matched_or_stops (current : RoundSnapshot) (trainNodes : List TrainNode)
    (testNodes : List TestNode) :
    (∃ pairs : List (TestNode × LocalStateRef), testNodes = pairs.map Prod.fst ∧
      ∀ p ∈ pairs, MatchedWith current trainNodes p.1.id p.2) ∨
    ∃ (pairs : List (TestNode × LocalStateRef)) (t : TestNode) (rest : List TestNode)
      (e : StrategyError), testNodes = pairs.map Prod.fst ++ t :: rest ∧
      (∀ p ∈ pairs, MatchedWith current trainNodes p.1.id p.2) ∧
      Unmatched current trainNodes t.id e := by
  induction testNodes with
  | nil => exact .inl ⟨[], rfl, nofun⟩
  | cons t testNodes ih =>
    rcases matchedWith_or_unmatched current trainNodes t.id with ⟨state, ht⟩ | ⟨e, he⟩
    · rcases ih with ⟨pairs, rfl, hpairs⟩ | ⟨pairs, u, rest, e, rfl, hpairs, he⟩
      · exact .inl ⟨(t, state) :: pairs, rfl, List.forall_mem_cons.mpr ⟨ht, hpairs⟩⟩
      · exact .inr ⟨(t, state) :: pairs, u, rest, e, rfl, List.forall_mem_cons.mpr ⟨ht, hpairs⟩, he⟩
    · exact .inr ⟨[], t, testNodes, e, rfl, nofun, he⟩

/-! ## Tests, one after the other -/

/-- The tests of nodes, each of the state beside it. -/
def tests (d : Draft) (round : Round) (pairs : List (TestNode × LocalStateRef)) : List Operation :=
  pairs.mapIdx fun i p => d.nextAt i p.1.id round [.localState p.2]
    (.test p.1.dataset p.1.samples p.1.metrics)

/-- What an evaluation has done when it stops. Some nodes were matched, and their tests were
registered and joined their queues; nothing happened to the rest of the nodes. -/
structure Tested (current : RoundSnapshot) (trainNodes : List TrainNode) (d : Draft) (round : Round)
    (pairs : List (TestNode × LocalStateRef)) (rest : List TestNode)
    (left : Draft × List TestNode) : Prop where
  matched : ∀ p ∈ pairs, MatchedWith current trainNodes p.1.id p.2
  draft : d.Extends (tests d round pairs) left.1
  testNodes : left.2 = pairs.mapIdx (fun i p => p.1.queue ⟨d.graph.size + i⟩) ++ rest

/-- Tests that all succeed are followed by those of the other nodes. -/
theorem testAll_append {d : Draft} {before : List TestNode}
    (h : (testAll current trainNodes round d before).outcome = .ok ()) (rest : List TestNode) :
    let a := testAll current trainNodes round d before
    let b := testAll current trainNodes round a.state.1 rest
    testAll current trainNodes round d (before ++ rest) =
      ⟨(b.state.1, a.state.2 ++ b.state.2), b.outcome⟩ := by
  induction before generalizing d with
  | nil => rfl
  | cons t before ih =>
    unfold testAll at h
    cases hstate : stateToTest current trainNodes t.id with
    | error e => simp [hstate] at h
    | ok state =>
      simp only [hstate] at h
      rcases t.registerTest_cases (d.note (.testing state current.round t.id)) state round with
        ⟨e, hreg⟩ | ⟨-, -, hreg⟩
      · simp [hreg] at h
      · simp only [hreg] at h
        simp only [List.cons_append, testAll, hstate, hreg, ih h]

variable {d : Draft} {pairs : List (TestNode × LocalStateRef)}

section

variable (hproduced : current.ProducedBy d.graph)
  (hmatched : ∀ p ∈ pairs, MatchedWith current trainNodes p.1.id p.2)
include hproduced hmatched

/-- Nodes that have matches are all tested. -/
theorem testAll_matched (round : Round) :
    let a := testAll current trainNodes round d (pairs.map Prod.fst)
    a.outcome = .ok () ∧ Tested current trainNodes d round pairs [] a.state := by
  -- a member has one first state, so the states beside the nodes are a function of their members
  let state : ParticipantId → LocalStateRef := fun member => (current.state? member).getD default
  have hstate : ∀ p ∈ pairs, state p.1.id = p.2 := fun p hp => by
    simp only [state, state?_eq_some_iff.mpr (hmatched p hp).first, Option.getD_some]
  have hsound : ∀ t ∈ pairs.map Prod.fst, stateToTest current trainNodes t.id = .ok (state t.id) ∧
      (state t.id).node = t.id ∧ d.graph.Produces .train (state t.id).producer := by
    intro t ht
    obtain ⟨p, hp, rfl⟩ := List.mem_map.mp ht
    have hmatch := hmatched p hp
    rw [hstate p hp]
    exact ⟨stateToTest_eq_ok_iff.mpr hmatch, hmatch.first.holds, hproduced p.2 hmatch.first.mem⟩
  obtain ⟨hout, hnodes, hext⟩ := testAll_eq_ok current trainNodes round d _ state hsound
  have htests : tests d round pairs = (pairs.map Prod.fst).mapIdx fun i t =>
      d.nextAt i t.id round [.localState (state t.id)] (.test t.dataset t.samples t.metrics) := by
    rw [mapIdx_map]
    exact List.mapIdx_eq_mapIdx_iff.mpr fun i hi => by rw [hstate _ (List.getElem_mem hi)]
  rw [← htests] at hext
  rw [mapIdx_map] at hnodes
  exact ⟨hout, hmatched, hext, by rw [hnodes, List.append_nil]⟩

/-- The first node that has no match stops the evaluation. -/
theorem testAll_unmatched (round : Round) {t : TestNode} {e : StrategyError}
    (he : Unmatched current trainNodes t.id e) (rest : List TestNode) :
    let a := testAll current trainNodes round d (pairs.map Prod.fst ++ t :: rest)
    a.outcome = .error e ∧ Tested current trainNodes d round pairs (t :: rest) a.state := by
  obtain ⟨hout, -, hext, hnodes⟩ := testAll_matched hproduced hmatched round
  rw [testAll_append hout, hnodes, List.append_nil]
  simp only [testAll, stateToTest_eq_error_iff.mpr he]
  exact ⟨trivial, hmatched, hext, rfl⟩

end

/-! ## Evaluations -/

/-- How an evaluation ends, and what it has done then. -/
inductive Evaluates (s : FederatedAveraging) (d : Draft) (testNodes : List TestNode)
    (trainNodes : List TrainNode) (round : Round) :
    Except StrategyError Unit → Draft × List TestNode → Prop
  /-- No round was performed, and nothing happens. -/
  | untrained (h : s.current? = none) :
    Evaluates s d testNodes trainNodes round (.error .notTrained) (d, testNodes)
  /-- All nodes were matched and tested. -/
  | tested {current : RoundSnapshot} {pairs : List (TestNode × LocalStateRef)}
    {left : Draft × List TestNode} (last : s.current? = some current)
    (all : testNodes = pairs.map Prod.fst)
    (h : Tested current trainNodes d round pairs [] left) :
    Evaluates s d testNodes trainNodes round (.ok ()) left
  /-- A node had no match; those in front of it were matched and tested. -/
  | stopped {current : RoundSnapshot} {pairs : List (TestNode × LocalStateRef)} {t : TestNode}
    {rest : List TestNode} {e : StrategyError} {left : Draft × List TestNode}
    (last : s.current? = some current) (split : testNodes = pairs.map Prod.fst ++ t :: rest)
    (unmatched : Unmatched current trainNodes t.id e)
    (h : Tested current trainNodes d round pairs (t :: rest) left) :
    Evaluates s d testNodes trainNodes round (.error e) left

/-- An evaluation after some round ends in one of two ways. -/
theorem evaluates_testAll {s : FederatedAveraging} (last : s.current? = some current)
    (hproduced : current.ProducedBy d.graph) (testNodes : List TestNode)
    (trainNodes : List TrainNode) (round : Round) :
    let a := testAll current trainNodes round d testNodes
    s.Evaluates d testNodes trainNodes round a.outcome a.state := by
  rcases matched_or_stops current trainNodes testNodes with
    ⟨pairs, rfl, hmatched⟩ | ⟨pairs, t, rest, e, rfl, hmatched, unmatched⟩
  · obtain ⟨hout, htested⟩ := testAll_matched hproduced hmatched round
    simp only [hout]
    exact .tested last rfl htested
  · obtain ⟨hout, htested⟩ := testAll_unmatched hproduced hmatched round unmatched rest
    simp only [hout]
    exact .stopped last rfl unmatched htested

/-- There is no match where there is a reason for none. -/
theorem Unmatched.not_matchedWith {member : ParticipantId} {e : StrategyError}
    {state : LocalStateRef} (h : Unmatched current trainNodes member e) :
    ¬ MatchedWith current trainNodes member state := by
  intro hmatched
  cases (stateToTest_eq_error_iff.mpr h).symm.trans (stateToTest_eq_ok_iff.mpr hmatched)

/-- An evaluation ends well exactly when all nodes have matches. -/
theorem Evaluates.outcome_eq_ok_iff {s : FederatedAveraging} {testNodes : List TestNode}
    {outcome : Except StrategyError Unit} {left : Draft × List TestNode}
    (h : s.Evaluates d testNodes trainNodes round outcome left) :
    outcome = .ok () ↔ ∃ current, s.current? = some current ∧
      ∀ t ∈ testNodes, ∃ state, MatchedWith current trainNodes t.id state := by
  cases h with
  | untrained hnone => simp [hnone]
  | @tested current pairs _ last all htested =>
    refine ⟨fun _ => ⟨current, last, fun t ht => ?_⟩, fun _ => rfl⟩
    rw [all] at ht
    obtain ⟨p, hp, rfl⟩ := List.mem_map.mp ht
    exact ⟨p.2, htested.matched p hp⟩
  | @stopped current pairs t rest e _ last split unmatched htested =>
    refine ⟨nofun, ?_⟩
    rintro ⟨current', last', hmatched⟩
    obtain rfl := Option.some.inj (last.symm.trans last')
    obtain ⟨state, hstate⟩ := hmatched t (by simp [split])
    exact absurd hstate unmatched.not_matchedWith

/-- **Evaluations follow members.** Let the rounds of a strategy have been registered on one graph,
and let it be evaluated there. The evaluation succeeds if and only if a round was performed and
every node that tests has a match: exactly one of the nodes that train belongs to its member, and
the member trained in the last round. Then one test is registered for each node, in order, on its
member and in the given round, and it consumes the first local state of the member in the last
round. Otherwise the error is that no round was performed, and nothing happens; or it is that of the
first node that has no match, and exactly the nodes in front of it are tested. -/
theorem predict_exact {s : FederatedAveraging} (trained : s.TrainedOn d.graph)
    (testNodes : List TestNode) (trainNodes : List TrainNode) (round : Round) :
    let a := s.predict d testNodes trainNodes round
    (a.outcome = .ok () ↔ ∃ current, s.current? = some current ∧
      ∀ t ∈ testNodes, ∃ state, MatchedWith current trainNodes t.id state) ∧
    s.Evaluates d testNodes trainNodes round a.outcome a.state := by
  intro a
  have hends : s.Evaluates d testNodes trainNodes round a.outcome a.state := by
    simp only [a, predict]
    cases hp : s.current? with
    | none => exact .untrained hp
    | some current => exact evaluates_testAll hp (trained.current hp).2 testNodes trainNodes round
  exact ⟨hends.outcome_eq_ok_iff, hends⟩

/-- Two members train, and only the second of them tests, together with a stranger. The second
member is tested although it stands first among the nodes that train; then the evaluation stops. -/
theorem evaluation_stops_at_stranger :
    let train : String → TrainNode := fun name => .new ⟨name⟩ default []
    let test : String → TestNode := fun name => .new ⟨name⟩ default [] []
    let a := (new default).performRound
      ⟨⟨.empty, .new⟩, [train "first", train "second"], some (.new ⟨"server"⟩)⟩ 0
    let b := a.state.1.predict a.state.2.draft [test "second", test "third"]
      [train "second", train "first"] 0
    a.state.1.TrainedOn a.state.2.draft.graph ∧
      a.state.1.Evaluates a.state.2.draft [test "second", test "third"]
        [train "second", train "first"] 0 (.error (.noMatchingTrainNode ⟨"third"⟩)) b.state ∧
      b.state.2 = [(test "second").queue ⟨2⟩, test "third"] := by
  intro train test a b
  have trained : a.state.1.TrainedOn a.state.2.draft.graph := .round (.new _ _) 0
  exact ⟨trained, (predict_exact trained [test "second", test "third"]
    [train "second", train "first"] 0).2, rfl⟩

end FederatedAveraging

end Federation
