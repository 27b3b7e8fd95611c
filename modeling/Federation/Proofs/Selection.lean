import Federation.Proofs.Building

/-!
# The rounds of an experiment that are evaluated

A choice of rounds is made in three ways, and always has the last round besides. Whether a round is
evaluated is asked for each round in turn; here the answers are put together to the set of rounds
that a choice selects, written as an increasing list.

* `Evaluation.mem_rounds_iff`: the selected rounds are those that are asked for and the last one;
* `Evaluation.outOfRange_eq_some_iff`, `Evaluation.outOfRange_eq_none_iff_subset`: the first round
  that is asked for in vain, and when there is none;
* `Experiment.tests_of_build`: the tests of a graph are those of the selected rounds;
* `evaluated_rounds_exact`: all of this, for each way to choose. For the rounds of an experiment the
  question is always answered, although it is asked in the arithmetic of 32 bits.
-/

namespace Federation

namespace Evaluation

/-! ## The selected rounds -/

/-- The rounds of an experiment of `numRounds` rounds that are evaluated, in order. -/
def rounds (e : Evaluation) (numRounds : Round) : List Round :=
  ((List.range numRounds.toNat).map UInt32.ofNat).filter (e.selects · numRounds)

variable {e : Evaluation} {q n numRounds : Round}

/-- The selected rounds are the rounds of the experiment for which the answer is yes. -/
theorem mem_rounds :
    q ∈ e.rounds numRounds ↔ q < numRounds ∧ e.shouldEvaluate q numRounds = .ok true := by
  have hrange : q ∈ (List.range numRounds.toNat).map UInt32.ofNat ↔ q < numRounds := by
    rw [List.mem_map, UInt32.lt_iff_toNat_lt]
    constructor
    · rintro ⟨i, hi, rfl⟩
      exact Nat.lt_of_le_of_lt (Nat.mod_le _ _) (List.mem_range.mp hi)
    · exact fun h => ⟨q.toNat, List.mem_range.mpr h, UInt32.ofNat_toNat⟩
  rw [rounds, List.mem_filter, hrange]
  exact and_congr_right fun hq => by rw [shouldEvaluate_eq_ok hq, Except.ok.injEq]

theorem mem_rounds_iff_asks : q ∈ e.rounds numRounds ↔
    q < numRounds ∧ (q.toNat + 1 = numRounds.toNat ∨ e.Asks q) := by
  refine mem_rounds.trans (and_congr_right fun hq => ?_)
  rw [shouldEvaluate_eq_ok hq, Except.ok.injEq, selects_iff hq]

theorem shouldEvaluate_eq_mem_rounds (h : q < numRounds) :
    e.shouldEvaluate q numRounds = .ok (decide (q ∈ e.rounds numRounds)) := by
  rw [shouldEvaluate_eq, if_pos (next_lt_size h)]
  exact congrArg Except.ok (decide_eq_decide.mpr (mem_rounds_iff_asks.trans (and_iff_right h)).symm)

/-- The selected rounds are listed in order, each once. -/
theorem pairwise_rounds (e : Evaluation) (numRounds : Round) :
    (e.rounds numRounds).Pairwise (· < ·) := by
  refine List.Pairwise.filter _ (List.pairwise_map.mpr ?_)
  refine List.pairwise_lt_range.imp_of_mem fun {i j} hi hj hij => ?_
  have hbound := numRounds.toNat_lt
  have hi' : i < UInt32.size := Nat.lt_trans (List.mem_range.mp hi) hbound
  have hj' : j < UInt32.size := Nat.lt_trans (List.mem_range.mp hj) hbound
  rwa [UInt32.lt_iff_toNat_lt, UInt32.toNat_ofNat_of_lt' hi', UInt32.toNat_ofNat_of_lt' hj']

theorem nodup_rounds (e : Evaluation) (numRounds : Round) : (e.rounds numRounds).Nodup :=
  (e.pairwise_rounds numRounds).imp fun hlt => UInt32.ne_of_lt hlt

theorem eq_last_iff (h : 1 ≤ numRounds) :
    q = numRounds - 1 ↔ q.toNat + 1 = numRounds.toNat := by
  have hle : 1 ≤ numRounds.toNat := h
  rw [← UInt32.toNat_inj, UInt32.toNat_sub_of_le _ _ h]
  show q.toNat = numRounds.toNat - 1 ↔ _
  omega

/-- The selected rounds are the rounds of the experiment that are asked for, and the last one. -/
theorem mem_rounds_iff (h : 1 ≤ numRounds) :
    q ∈ e.rounds numRounds ↔ q < numRounds ∧ e.Asks q ∨ q = numRounds - 1 := by
  rw [mem_rounds_iff_asks, and_or_left, or_comm, eq_last_iff h]
  refine or_congr_right (and_iff_right_of_imp fun hlast => ?_)
  rw [UInt32.lt_iff_toNat_lt]
  omega

/-- If all rounds of a list are in range, these and the last one are selected. -/
theorem mem_rounds_atRounds (h : 1 ≤ numRounds) {asked : List Round}
    (hasked : (atRounds asked).outOfRange numRounds = none) :
    q ∈ (atRounds asked).rounds numRounds ↔ q ∈ asked ∨ q = numRounds - 1 := by
  rw [outOfRange_eq_none_iff] at hasked
  rw [mem_rounds_iff h]
  exact or_congr_left (and_iff_right_of_imp fun hq => hasked q (mem_requested.mpr hq))

/-- The multiples of a number are selected, and the last round. -/
theorem mem_rounds_every (h : 1 ≤ numRounds) (hn : n ≠ 0) :
    q ∈ (every n).rounds numRounds ↔
      q < numRounds ∧ n.toNat ∣ q.toNat ∨ q = numRounds - 1 := by
  rw [mem_rounds_iff h]
  exact or_congr_left (and_congr_right fun _ => and_iff_right hn)

/-- If nothing is asked for, only the last round is selected. -/
theorem rounds_eq_last (h : 1 ≤ numRounds) (hnone : ∀ q, ¬ e.Asks q) :
    e.rounds numRounds = [numRounds - 1] := by
  have hmem : ∀ q, q ∈ e.rounds numRounds ↔ q ∈ [numRounds - 1] := fun q => by
    simp [mem_rounds_iff h, hnone]
  exact List.perm_singleton.mp
    ((List.perm_ext_iff_of_nodup (e.nodup_rounds numRounds) (by simp)).mpr hmem)

/-! ## Rounds that are asked for in vain -/

/-- The first member of an increasing list that has a property is the least that has it. -/
theorem find?_eq_some_iff_of_pairwise {l : List Round} (h : l.Pairwise (· < ·))
    {p : Round → Bool} :
    l.find? p = some q ↔ q ∈ l ∧ p q = true ∧ ∀ q' ∈ l, p q' = true → q ≤ q' := by
  induction l with
  | nil => simp
  | cons a rest ih =>
    obtain ⟨hlt, hrest⟩ := List.pairwise_cons.mp h
    cases hp : p a with
    | true =>
      rw [List.find?_cons_of_pos hp, Option.some.injEq]
      constructor
      · rintro rfl
        refine ⟨List.mem_cons_self .., hp, fun q' hq' _ => ?_⟩
        rcases List.mem_cons.mp hq' with rfl | hq'
        · exact UInt32.le_refl _
        · exact UInt32.le_of_lt (hlt q' hq')
      · rintro ⟨hq, -, hleast⟩
        rcases List.mem_cons.mp hq with rfl | hq
        · rfl
        · exact absurd (hleast a (List.mem_cons_self ..) hp) (UInt32.not_le.mpr (hlt q hq))
    | false =>
      have hne : ∀ q', p q' = true → q' ≠ a := fun q' hq' heq => by simp [← heq, hq'] at hp
      rw [List.find?_cons_of_neg (by simp [hp]), ih hrest]
      constructor
      · rintro ⟨hq, hpq, hleast⟩
        refine ⟨List.mem_cons_of_mem _ hq, hpq, fun q' hq' hpq' => ?_⟩
        exact hleast q' ((List.mem_cons.mp hq').resolve_left (hne q' hpq')) hpq'
      · rintro ⟨hq, hpq, hleast⟩
        exact ⟨(List.mem_cons.mp hq).resolve_left (hne q hpq), hpq,
          fun q' hq' => hleast q' (List.mem_cons_of_mem _ hq')⟩

/-- What is out of range is the least of the rounds asked for that the experiment does not have. -/
theorem outOfRange_eq_some_iff {asked : List Round} :
    (atRounds asked).outOfRange numRounds = some q ↔
      q ∈ asked ∧ numRounds ≤ q ∧ ∀ q' ∈ asked, numRounds ≤ q' → q ≤ q' := by
  rw [outOfRange, find?_eq_some_iff_of_pairwise (pairwise_requested asked)]
  simp only [mem_requested, decide_eq_true_eq]

theorem asks_of_requested (hq : q ∈ e.requested) : e.Asks q := by
  cases e with
  | atRounds asked => exact mem_requested.mp hq
  | _ => simp [requested] at hq

/-- Nothing is out of range exactly when every round that is asked for is selected. -/
theorem outOfRange_eq_none_iff_subset :
    e.outOfRange numRounds = none ↔ ∀ q ∈ e.requested, q ∈ e.rounds numRounds := by
  rw [outOfRange_eq_none_iff]
  refine forall₂_congr fun q hq => ?_
  rw [mem_rounds_iff_asks, and_iff_left (.inr (asks_of_requested hq))]

end Evaluation

/-! ## The tests of a graph -/

/-- What a filter drops may as well give nothing. -/
theorem flatMap_filter {α β : Type} (p : α → Bool) (f : α → List β) (l : List α) :
    (l.filter p).flatMap f = l.flatMap fun a => if p a then f a else [] := by
  induction l with
  | nil => rfl
  | cons a rest ih =>
    rw [List.flatMap_cons, ← ih]
    cases h : p a <;> simp [h]

/-- The tests of a graph in order, each with its round and its node. -/
def Graph.tests (g : Graph) : List (Round × ParticipantId) :=
  (g.toList.filter fun op => op.kind = .test).map fun op => (op.round, op.node)

namespace Blueprint

variable (p : Blueprint)

/-- The tests among the operations of a number of rounds. -/
theorem filter_tests_upTo (r : Nat) :
    (p.upTo r).filter (fun op => op.kind = .test) = (List.range r).flatMap p.tests := by
  induction r with
  | zero => rfl
  | succ r ih =>
    have hupdates : (p.updates r).filter (fun op => op.kind = .test) = [] :=
      List.filter_eq_nil_iff.mpr fun op hop => by simp [p.kind_of_mem_updates hop]
    have htests : (p.tests r).filter (fun op => op.kind = .test) = p.tests r :=
      List.filter_eq_self.mpr fun op hop => decide_eq_true (p.kind_of_mem_tests hop)
    rw [upTo_succ, List.filter_append, List.filter_append, ih, hupdates, htests, List.append_nil,
      List.range_succ, List.flatMap_append, List.flatMap_singleton]

/-- A round that is evaluated has one test on each node that tests. -/
theorem map_tests (r : Nat) : (p.tests r).map (fun op => (op.round, op.node)) =
    if p.evaluated r then p.testNodes.map fun t => (UInt32.ofNat r, t.id) else [] := by
  unfold tests
  split
  · refine List.ext_getElem (by simp) fun i _ _ => ?_
    simp [test, operation]
  · rfl

end Blueprint

namespace Experiment

variable {e : Experiment} {r : Recorder}

/-- The tests of a graph are those of the selected rounds, in order, with one test on each node. -/
theorem tests_of_build (built : (e.build r).outcome = .ok ()) :
    (e.build r).state.1.graph.tests =
      (e.evaluation.rounds e.numRounds).flatMap fun q => e.testNodes.map fun t => (q, t.id) := by
  obtain ⟨a, -, -, -, hfollows⟩ := (buildable_of_build built).build r
  rw [Graph.tests, hfollows.graph, Blueprint.filter_tests_upTo, List.map_flatMap,
    Evaluation.rounds, flatMap_filter, List.flatMap_map]
  simp only [Blueprint.map_tests]
  rfl

/-- Of the tests of several rounds, those of one of them are picked out. -/
theorem filter_tests {rounds : List Round} (hnodup : rounds.Nodup) {q : Round} (hq : q ∈ rounds)
    (nodes : List TestNode) :
    (rounds.flatMap fun q' => nodes.map fun t => (q', t.id)).filter (fun t => t.1 = q) =
      nodes.map fun t => (q, t.id) := by
  induction rounds with
  | nil => simp at hq
  | cons q' rest ih =>
    obtain ⟨hnot, hrest⟩ := List.nodup_cons.mp hnodup
    rw [List.flatMap_cons, List.filter_append]
    by_cases h : q' = q
    · subst h
      have hothers : (rest.flatMap fun q => nodes.map fun t => (q, t.id)).filter
          (fun t => t.1 = q') = [] := by
        refine List.filter_eq_nil_iff.mpr fun t ht heq => hnot ?_
        obtain ⟨q, hq, hmem⟩ := List.mem_flatMap.mp ht
        obtain ⟨_, -, rfl⟩ := List.mem_map.mp hmem
        exact of_decide_eq_true heq ▸ hq
      rw [hothers, List.append_nil, List.filter_eq_self]
      simp
    · have hthis : (nodes.map fun t => (q', t.id)).filter (fun t => t.1 = q) = [] := by
        simp [h]
      rw [hthis, List.nil_append]
      exact ih hrest ((List.mem_cons.mp hq).resolve_left (Ne.symm h))

/-- In a graph that was built, a selected round has one test on each node. -/
theorem tests_of_round (built : (e.build r).outcome = .ok ()) {q : Round}
    (hq : q ∈ e.evaluation.rounds e.numRounds) :
    (e.build r).state.1.graph.tests.filter (fun t => t.1 = q) =
      e.testNodes.map fun t => (q, t.id) := by
  rw [tests_of_build built]
  exact filter_tests (e.evaluation.nodup_rounds e.numRounds) hq e.testNodes

end Experiment

open Evaluation in
/-- **The rounds that are evaluated.** In a graph that was built, the tests are those of the
selected rounds, in order and with one test on each node that tests. The selected rounds are rounds
of the experiment, in increasing order: for a list of rounds, all of which are in range, those of
the list and the last one; for the multiples of a number that is not zero, those below the number of
rounds and the last one; and otherwise only the last one. Out of range is the least round of the
list that the experiment does not have, and nothing is out of range exactly when all rounds of the
list are selected. For every round of the experiment, the question whether it is evaluated is
answered in the arithmetic of 32 bits. -/
theorem evaluated_rounds_exact :
    (∀ (e : Experiment) (r : Recorder), (e.build r).outcome = .ok () →
      (e.build r).state.1.graph.tests =
        (e.evaluation.rounds e.numRounds).flatMap fun q => e.testNodes.map fun t => (q, t.id)) ∧
    ∀ numRounds : Round, 1 ≤ numRounds →
      (∀ e : Evaluation, (e.rounds numRounds).Pairwise (· < ·) ∧
        ∀ q, q ∈ e.rounds numRounds ↔ q < numRounds ∧ e.shouldEvaluate q numRounds = .ok true) ∧
      (∀ asked : List Round, (atRounds asked).outOfRange numRounds = none →
        ∀ q, q ∈ (atRounds asked).rounds numRounds ↔ q ∈ asked ∨ q = numRounds - 1) ∧
      (∀ n : Round, n ≠ 0 → ∀ q, q ∈ (every n).rounds numRounds ↔
        q < numRounds ∧ n.toNat ∣ q.toNat ∨ q = numRounds - 1) ∧
      (every 0).rounds numRounds = [numRounds - 1] ∧ final.rounds numRounds = [numRounds - 1] ∧
      (∀ (asked : List Round) (q : Round), (atRounds asked).outOfRange numRounds = some q ↔
        q ∈ asked ∧ numRounds ≤ q ∧ ∀ q' ∈ asked, numRounds ≤ q' → q ≤ q') ∧
      (∀ asked : List Round, (atRounds asked).outOfRange numRounds = none ↔
        ∀ q ∈ asked, q ∈ (atRounds asked).rounds numRounds) ∧
      (∀ n : Round, (every n).outOfRange numRounds = none) ∧
      final.outOfRange numRounds = none ∧
      ∀ (e : Evaluation) (q : Round), q < numRounds →
        e.shouldEvaluate q numRounds = .ok (decide (q ∈ e.rounds numRounds)) := by
  refine ⟨fun e r built => Experiment.tests_of_build built, fun numRounds h => ⟨fun e => ?_, ?_, ?_,
    ?_, ?_, ?_, ?_, fun n => rfl, rfl, ?_⟩⟩
  · exact ⟨e.pairwise_rounds numRounds, fun q => mem_rounds⟩
  · exact fun asked hasked q => mem_rounds_atRounds h hasked
  · exact fun n hn q => mem_rounds_every h hn
  · exact rounds_eq_last h fun q hq => hq.1 rfl
  · exact rounds_eq_last h fun q hq => hq
  · exact fun asked q => outOfRange_eq_some_iff
  · intro asked
    rw [outOfRange_eq_none_iff_subset]
    exact forall_congr' fun q => imp_congr_left mem_requested
  · exact fun e q hq => shouldEvaluate_eq_mem_rounds hq

open Evaluation Experiment in
/-- The first member tests the second of the two rounds. Of five rounds, a list in no order selects
those that it names, one of them twice, and the last one, and the multiples of three are two of
them; another list names rounds that two rounds do not have. The question has an answer for the last
of as many rounds as there can be. -/
theorem evaluated_rounds_of_five :
    let asked : List Round := [2, 0, 2]
    let most : Round := 4294967295
    (twoRounds.build .new).outcome = .ok () ∧
      (twoRounds.build .new).state.1.graph.tests = [(1, ⟨"first"⟩)] ∧
      (atRounds asked).outOfRange 5 = none ∧
      (∀ q, q ∈ (atRounds asked).rounds 5 ↔ q ∈ asked ∨ q = 5 - 1) ∧
      (∀ q, q ∈ (every 3).rounds 5 ↔ q < 5 ∧ (3 : Round).toNat ∣ q.toNat ∨ q = 5 - 1) ∧
      (atRounds asked).rounds 5 = [0, 2, 4] ∧ (every 3).rounds 5 = [0, 3, 4] ∧
      (atRounds [3, 1, 2]).outOfRange 2 = some 2 ∧
      most - 1 < most ∧ (every 2).shouldEvaluate (most - 1) most = .ok true := by
  intro asked most
  obtain ⟨-, -, built, -⟩ := buildable_twoRounds.build .new
  obtain ⟨htests, hrounds⟩ := evaluated_rounds_exact
  have hasked : (atRounds asked).outOfRange 5 = none := by decide
  obtain ⟨-, hlist, hmultiples, -⟩ := hrounds 5 (by decide)
  obtain ⟨-, -, -, -, -, hvain, -⟩ := hrounds 2 (by decide)
  obtain ⟨-, -, hmostMultiples, -, -, -, -, -, -, hanswer⟩ := hrounds most (by decide)
  have hvain' : (atRounds [3, 1, 2]).outOfRange 2 = some 2 :=
    (hvain [3, 1, 2] 2).mpr ⟨by decide, by decide, fun _ _ h => h⟩
  have hmost : most - 1 < most := by decide
  have hlast : most - 1 ∈ (every 2).rounds most :=
    (hmostMultiples 2 (by decide) (most - 1)).mpr (.inr rfl)
  refine ⟨built, (htests twoRounds .new built).trans (by decide), hasked, hlist asked hasked,
    hmultiples 3 (by decide), by decide, by decide, hvain', hmost, ?_⟩
  rw [hanswer (every 2) (most - 1) hmost, decide_eq_true hlast]

end Federation
