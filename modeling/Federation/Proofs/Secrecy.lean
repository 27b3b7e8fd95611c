import Federation.Proofs.Scoring

/-!
# What one member learns stays with that member

The local state of a node never leaves the node. What the other members learn from it is what the
node shares, and nothing else. This is a statement about two runs of the same plan: the algorithms
behave alike on the data of the other members, and on the data of one member they may learn
anything, as long as they share the same. Then nobody else can tell the two runs apart by a
score.

The invariant (`AlikeExceptFor`) is kept by every round: the nodes have shared the same, and the
nodes of the other members have also learned the same.

* `Experiment.DifferPrivately`: two behaviors that differ in what one member learns;
* `Experiment.trainAlike_of_differPrivately`: the invariant is kept by every training;
* `Experiment.others_scores_agree`: the scores of the other members.
-/

namespace Federation

/-- Scores that come from the same tests in two runs are the same, if they are for each test that is
kept. -/
theorem filter_eq_of_forall₂ {R R' : TestTask → Performance → Prop} {keep : Performance → Bool}
    {ts : List TestTask} {qs qs' : List Performance} (h : List.Forall₂ R ts qs)
    (h' : List.Forall₂ R' ts qs')
    (hkeep : ∀ t ∈ ts, ∀ q q', R t q → R' t q' → keep q = keep q' ∧ (keep q = true → q = q')) :
    qs.filter keep = qs'.filter keep := by
  induction h generalizing qs' with
  | nil =>
    cases h'
    rfl
  | @cons t q _ _ hq _ ih =>
    cases h' with
    | cons hq' hrest' =>
      obtain ⟨hsame, heq⟩ := hkeep t (List.mem_cons_self ..) _ _ hq hq'
      have hrest := ih hrest' fun t ht => hkeep t (List.mem_cons_of_mem _ ht)
      cases hk : keep q with
      | true =>
        rw [List.filter_cons_of_pos hk, List.filter_cons_of_pos (hsame ▸ hk), hrest, heq hk]
      | false =>
        rw [List.filter_cons_of_neg (by simp [hk]),
          List.filter_cons_of_neg (by simp [← hsame, hk]), hrest]

namespace Experiment

/-- Two behaviors that are the same on the data of all nodes but those of one member. On the data of
that member they share the same, whatever they start from and whatever they learn. -/
structure DifferPrivately (e : Experiment) (member : ParticipantId) (answers answers' : Answers) :
    Prop where
  trains : ∀ n ∈ e.trainNodes, n.id ≠ member → ∀ start shared,
    answers (.train e.strategy.algorithm n.samples start shared) =
      answers' (.train e.strategy.algorithm n.samples start shared)
  scores : ∀ n ∈ e.testNodes, n.id ≠ member → ∀ state,
    answers (.score e.strategy.algorithm n.samples state) =
      answers' (.score e.strategy.algorithm n.samples state)
  shares : ∀ n ∈ e.trainNodes, n.id = member → ∀ start start' shared (u u' : Update),
    answers (.train e.strategy.algorithm n.samples start shared) = .ok u →
    answers' (.train e.strategy.algorithm n.samples start' shared) = .ok u' → u.2 = u'.2

/-- What the node of the given number holds in two runs: it has shared the same, and if it is not
one of the member, it has also learned the same. -/
def AlikeExceptFor (e : Experiment) (member : ParticipantId) (j : Nat) (u u' : Update) : Prop :=
  u.2 = u'.2 ∧ ∀ n, e.trainNodes[j]? = some n → n.id ≠ member → u.1 = u'.1

variable {e : Experiment} {member : ParticipantId} {answers answers' : Answers}

/-- Every training keeps the invariant. -/
theorem trainAlike_of_differPrivately (h : e.DifferPrivately member answers answers') :
    Setup.TrainAlike e.setup e.setup answers answers' (e.AlikeExceptFor member) where
  length := rfl
  shares _ _ _ hu := hu.1
  trains j n n' hn hn' shared start start' u u' hstarts hu hu' := by
    obtain rfl : n = n' := Option.some.inj (hn.symm.trans hn')
    rw [Setup.train_eq_ok_iff] at hu hu'
    have hmem : n ∈ e.trainNodes := List.mem_of_getElem? hn
    by_cases hid : n.id = member
    · refine ⟨h.shares n hmem hid start start' shared u u' hu hu', fun n' hn' hne => ?_⟩
      obtain rfl : n = n' := Option.some.inj (hn.symm.trans hn')
      exact absurd hid hne
    · have hstart : start = start' := by
        cases hstarts with
        | none => rfl
        | some hv => exact congrArg some (hv.2 n hn hid)
      subst hstart
      have hsame := h.trains n hmem hid start shared
      obtain rfl : u = u' := Except.ok.inj (hu.symm.trans (hsame.trans hu'))
      exact ⟨rfl, fun _ _ _ => rfl⟩

/-- A test of another member has the same score in both runs. -/
theorem value_eq_of_differPrivately (h : e.DifferPrivately member answers answers')
    {a : ParticipantId} {serial rounds : Nat} {t : TestTask}
    (ht : t ∈ ((e.blueprint a serial).tasks rounds).filterMap Task.test?)
    (hworker : t.worker ≠ member) {value value' : Float}
    (hscored : (e.blueprint a serial).Scored answers t value)
    (hscored' : (e.blueprint a serial).Scored answers' t value') : value = value' := by
  obtain ⟨updates, u, hupdates, hu, hvalue⟩ := hscored
  obtain ⟨updates', u', hupdates', hu', hvalue'⟩ := hscored'
  obtain ⟨-, halike⟩ := (trainAlike_of_differPrivately h).trained hupdates hupdates'
  have hlt : (e.blueprint a serial).numberOf t.worker < (e.blueprint a serial).trainNodes.length :=
    Setup.length_trained hupdates ▸ (List.getElem?_eq_some_iff.mp hu).1
  have hid := (e.blueprint a serial).id_numberOf hlt
  have hstate : u.1 = u'.1 :=
    (halike _ u u' hu hu').2 _ (List.getElem?_eq_getElem hlt) fun hmember =>
      hworker (hid.symm.trans hmember)
  obtain ⟨r, -, -, k, hk, rfl⟩ := (Blueprint.mem_tests_iff _).mp ht
  have hscore := h.scores _ (List.getElem_mem hk) hworker u.1
  rw [← hstate] at hvalue'
  exact Except.ok.inj (hvalue.symm.trans (hscore.trans hvalue'))

open LocalBackend (Answered)

/-- **What one member learns stays with that member.** Take any experiment that was built, and two
behaviors of its algorithm that differ in what one member learns, but not in what that member
shares. Execute the plan against each of them, on any backends and with anything else going on. If
both are done, they report scores of the same tests, and whoever is not that member has the same
scores. -/
theorem others_scores_agree (e : Experiment) (r : Recorder) (now : Timestamp)
    (member : ParticipantId) (answers answers' : Answers) (built : (e.build r).outcome = .ok ())
    (h : e.DifferPrivately member answers answers') :
    ∃ plan, (e.build r).state.1.compile now = .ok plan ∧ plan.cleanModels = e.cleanModels ∧
      plan.fault? = none ∧
      ∀ (b b' : LocalBackend) (key key' : PlanKey) (history history' : List LocalBackend.Event),
        Answered key answers history → Answered key' answers' history' →
        let first := (b.step (.submit key plan)).after history
        let second := (b'.step (.submit key' plan)).after history'
        first.status key = .ok .done → second.status key' = .ok .done →
        ∃ scores scores', first.performances key = .ok scores ∧
          second.performances key' = .ok scores' ∧
          scores.map Performance.origin = scores'.map Performance.origin ∧
          scores.filter (·.worker ≠ member) = scores'.filter (·.worker ≠ member) := by
  obtain ⟨a, plan, -, hcompile, hclean, haccepted, htests, hscored⟩ :=
    e.exists_scored_plan built now
  refine ⟨plan, hcompile, hclean, haccepted, ?_⟩
  intro b b' key key' history history' hh hh' first second hdone hdone'
  obtain ⟨scores, hscores, hall⟩ := hscored answers b key history hh hdone
  obtain ⟨scores', hscores', hall'⟩ := hscored answers' b' key' history' hh' hdone'
  refine ⟨scores, scores', hscores, hscores', ?_, ?_⟩
  · rw [b.origins_of_done haccepted hh hdone hscores,
      b'.origins_of_done haccepted hh' hdone' hscores']
  · refine filter_eq_of_forall₂ hall hall' fun t ht q q' ⟨hq, hvalue⟩ ⟨hq', hvalue'⟩ => ?_
    have hworker : q.worker = t.worker := congrArg (·.2.1) hq
    have hworker' : q'.worker = t.worker := congrArg (·.2.1) hq'
    refine ⟨by rw [hworker, hworker'], fun hkeep => ?_⟩
    have hother : t.worker ≠ member := by simpa [hworker] using hkeep
    rw [htests] at ht
    exact Performance.eq_of_origin (hq.trans hq'.symm)
      (value_eq_of_differPrivately h ht hother hvalue hvalue')

/-- An experiment of two rounds on two members with data of their own, both of which test. -/
def twoMembers : Experiment :=
  let first : ParticipantId := ⟨"first"⟩
  let second : ParticipantId := ⟨"second"⟩
  { (new (.new default) [.new first default [], .new second default [default]] 2) with
    testNodes := [.new first default [] [], .new second default [default] []]
    aggregator := some (.new first)
    evaluation := .every 1 }

theorem buildable_twoMembers : twoMembers.Buildable where
  aggregates := rfl
  rounds := by decide
  requested := by
    intro asked h
    cases h
  trains := .inl (List.cons_ne_nil _ _)
  matched := by decide

/-- An algorithm that learns a secret from each sample, shares nothing of it, and scores by it. -/
def secretAnswers (secret : Float) : Answers
  | .train _ samples _ _ => .ok (⟨samples.map fun _ => secret⟩, ⟨[], 1⟩)
  | .score _ _ state => .ok (state.parameters.headD 0)

/-- Only the second member has samples from which there is a secret to learn. -/
theorem differPrivately_secretAnswers (secret secret' : Float) :
    twoMembers.DifferPrivately ⟨"second"⟩ (secretAnswers secret) (secretAnswers secret') where
  trains n hn hne start shared := by
    rcases List.mem_pair.mp hn with rfl | rfl
    · rfl
    · exact absurd rfl hne
  scores n hn hne state := rfl
  shares n hn hid start start' shared u u' hu hu' := by
    obtain rfl := Except.ok.inj hu
    obtain rfl := Except.ok.inj hu'
    rfl

/-- Whatever the secret of the second member is, the scores of the first one are the same. -/
theorem others_scores_agree_of_secrets :
    let e := twoMembers
    let key := PlanKey.drawn 0
    let now : Timestamp := ⟨2024, 1, 1, 0, 0, 0⟩
    (e.build .new).outcome = .ok () ∧
      e.DifferPrivately ⟨"second"⟩ (secretAnswers 0.25) (secretAnswers 0.75) ∧
      ∃ plan, (e.build .new).state.1.compile now = .ok plan ∧ ∃ history history',
        Answered key (secretAnswers 0.25) history ∧ Answered key (secretAnswers 0.75) history' ∧
        let first := (LocalBackend.empty.step (.submit key plan)).after history
        let second := (LocalBackend.empty.step (.submit key plan)).after history'
        first.status key = .ok .done ∧ second.status key = .ok .done ∧
          ∃ scores scores', first.performances key = .ok scores ∧
            second.performances key = .ok scores' ∧
            scores.map Performance.origin = scores'.map Performance.origin ∧
            scores.filter (·.worker ≠ ⟨"second"⟩) = scores'.filter (·.worker ≠ ⟨"second"⟩) := by
  intro e key now
  obtain ⟨_, -, built, -⟩ := buildable_twoMembers.build .new
  have hdiffer := differPrivately_secretAnswers 0.25 0.75
  obtain ⟨plan, hcompile, -, -, hagree⟩ :=
    others_scores_agree e .new now ⟨"second"⟩ _ _ built hdiffer
  have hscores : ∀ secret, ∃ averaged, e.setup.scores (secretAnswers secret) e.numRounds.toNat =
      .ok averaged := fun secret => ⟨_, rfl⟩
  obtain ⟨_, haveraged⟩ := hscores 0.25
  obtain ⟨_, haveraged'⟩ := hscores 0.75
  obtain ⟨hh, hdone⟩ := e.done_of_scores built hcompile haveraged .empty key
  obtain ⟨hh', hdone'⟩ := e.done_of_scores built hcompile haveraged' .empty key
  exact ⟨built, hdiffer, plan, hcompile, _, _, hh, hh', hdone, hdone',
    hagree .empty .empty key key _ _ hh hh' hdone hdone'⟩

end Experiment

end Federation
