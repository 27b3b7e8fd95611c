import Federation.Proofs.Growth

/-!
# What a strategy remembers

A strategy remembers a snapshot of each round that it performed. Rounds may be attempted on any
graph, with any nodes and under any index, and many attempts fail, some of them half-way. The
history is in order all the same: its snapshots are numbered, they have as many positions as the
first one, and a position always stands for the same member. That members keep their positions is
checked nowhere as such. It follows from the number of the nodes being compared, and from every node
objecting to the local state of another one.

* `FederatedAveraging.of_trainAll`: what nodes that trained started from, and what they gave;
* `RoundSnapshot.Follows`: what the snapshot of a round has to do with the one before;
* `FederatedAveraging.of_performRound`: a round that is performed adds such a snapshot;
* `Recorded`: histories in which each snapshot follows the one before;
* `FederatedAveraging.history_in_order`: every history is in order;
* `FederatedAveraging.TrainedOn`: a strategy whose rounds were registered on one graph, which then
  produces all that the snapshots refer to.
-/

namespace Federation

/-! ## Snapshots -/

namespace RoundSnapshot

/-- The members that trained, by position. -/
def members (x : RoundSnapshot) : List ParticipantId :=
  x.states.map LocalStateRef.node

/-- There are as many payloads as local states, and those at one position come from one training of
one member. -/
def Paired (x : RoundSnapshot) : Prop :=
  List.Forall₂ (fun r p => r.producer = p.producer ∧ r.node = p.node) x.states x.payloads

/-- A graph has the trainings that a snapshot refers to. -/
def ProducedBy (x : RoundSnapshot) (g : Graph) : Prop :=
  ∀ r ∈ x.states, g.Produces .train r.producer

/-- A snapshot follows the last one, if there is one: it has an aggregated state exactly then, and
the same members. -/
structure Follows (x : RoundSnapshot) (previous? : Option RoundSnapshot) : Prop where
  paired : x.Paired
  shared : x.shared.isSome = previous?.isSome
  members : ∀ previous, previous? = some previous → x.members = previous.members

variable {x : RoundSnapshot} {g g' : Graph}

theorem ProducedBy.grows (h : x.ProducedBy g) (hg : g.Grows g') : x.ProducedBy g' := by
  obtain ⟨ops, hops⟩ := hg.exists_append
  exact fun r hr => (h r hr).mono hops

/-- Then the graph has the trainings that the payloads refer to. -/
theorem ProducedBy.payloads (h : x.ProducedBy g) (hx : x.Paired) :
    ∀ p ∈ x.payloads, g.Produces .train p.producer := by
  intro p hp
  obtain ⟨r, hr, hproducer, -⟩ := exists_mem_of_forall₂ hx hp
  exact hproducer ▸ h r hr

theorem Paired.length_eq (hx : x.Paired) : x.states.length = x.payloads.length :=
  List.Forall₂.length_eq hx

end RoundSnapshot

/-! ## Rounds that are performed -/

namespace FederatedAveraging

variable {s : FederatedAveraging} {site : Site} {round : Round}

/-- When all nodes trained, none of them started from the state of another one, and each gave the
references to its training. -/
theorem of_trainAll {algorithm : Algorithm} {shared : Option SharedStateRef} {d : Draft}
    {nodes : List (TrainNode × Option LocalStateRef)} {ts : List Trained}
    (h : (trainAll algorithm round shared d nodes).outcome = .ok ts) :
    List.Forall₂ (fun p t => (∀ r, p.2 = some r → p.1.id = r.node) ∧
      ∃ id, t = p.1.trained id ∧
        (trainAll algorithm round shared d nodes).state.1.graph.Produces .train id) nodes ts := by
  induction nodes generalizing d ts with
  | nil =>
    obtain rfl := Except.ok.inj h
    exact .nil
  | cons p rest ih =>
    obtain ⟨n, start⟩ := p
    unfold trainAll at h ⊢
    rcases n.registerTrain_cases d algorithm round shared start with
      ⟨e, hreg⟩ | ⟨hscope, -, hreg⟩
    · simp [hreg] at h
    · simp only [hreg] at h ⊢
      obtain ⟨ts, hts, rfl⟩ := exists_of_map_eq_ok h
      let op := d.next n.id round (TrainNode.trainInputs start shared)
        (.train algorithm n.dataset n.samples)
      have hadded : (d.append op).graph.Produces .train ⟨d.graph.size⟩ :=
        ⟨op, d.graph.get?_append_size op, rfl⟩
      obtain ⟨ops, hops⟩ :=
        (grows_trainAll algorithm round shared (d.append op) rest).exists_append
      exact .cons ⟨fun r hr => hscope r hr, _, rfl, hadded.mono hops⟩ (ih hts)

/-- The snapshot of trainings that were all registered. -/
theorem of_trainRound {shared : Option SharedStateRef}
    {nodes : List (TrainNode × Option LocalStateRef)} {x : RoundSnapshot}
    (h : (s.trainRound site round shared nodes).outcome = .ok x) :
    x.round = round ∧ x.shared = shared ∧ x.Paired ∧
      x.ProducedBy (s.trainRound site round shared nodes).state.draft.graph ∧
      List.Forall₂ (fun p r => ∀ start, p.2 = some start → r.node = start.node) nodes x.states := by
  obtain ⟨ts, hts, rfl⟩ := exists_of_map_eq_ok h
  have hall := of_trainAll (mapError_eq_ok_iff.mp hts)
  refine ⟨rfl, rfl, ?_, fun r hr => ?_, ?_⟩
  · have hpairs : ∀ t ∈ ts,
        t.state.producer = t.payload.producer ∧ t.state.node = t.payload.node := by
      intro t ht
      obtain ⟨p, -, -, id, rfl, -⟩ := exists_mem_of_forall₂ hall ht
      exact ⟨rfl, rfl⟩
    simpa [RoundSnapshot.Paired, snapshot, List.forall₂_map_left_iff, List.forall₂_map_right_iff,
      List.forall₂_same] using hpairs
  · obtain ⟨t, ht, rfl⟩ := List.mem_map.mp hr
    obtain ⟨p, -, -, id, rfl, hproduces⟩ := exists_mem_of_forall₂ hall ht
    exact hproduces
  · refine List.forall₂_map_right_iff.mpr (hall.imp ?_)
    rintro p t ⟨hscope, id, rfl, -⟩ start hstart
    exact hscope start hstart

/-- A round after another one has an aggregated state, and the same members at the same positions.
-/
theorem of_followRound {a : AggregationNode} {previous x : RoundSnapshot}
    (h : (s.followRound site a round previous).outcome = .ok x) :
    x.round = round ∧ x.Follows (some previous) ∧
      x.ProducedBy (s.followRound site a round previous).state.draft.graph := by
  unfold followRound at h ⊢
  split at h
  · cases h
  · next hlength =>
    rw [if_neg hlength]
    rcases a.registerAggregate_cases site.draft .weightedAverage previous.payloads round with
      ⟨e, hreg⟩ | ⟨-, -, hreg⟩
    · simp [hreg] at h
    · simp only [hreg] at h ⊢
      obtain ⟨hround, hshared, hpaired, hproduced, hall⟩ := of_trainRound h
      refine ⟨hround, ⟨hpaired, by rw [hshared]; rfl, fun _ hp => ?_⟩, hproduced⟩
      obtain rfl := Option.some.inj hp
      have hlength := Classical.not_not.mp hlength
      rw [List.zip_map_right, List.forall₂_map_left_iff] at hall
      -- position by position, the new states belong to the members of the states before
      have hmembers : (site.trainNodes.zip previous.states).map (fun q => q.2.node) =
          x.states.map LocalStateRef.node := by
        rw [← List.forall₂_eq_eq_eq, List.forall₂_map_left_iff, List.forall₂_map_right_iff]
        exact hall.imp fun q r hr => (hr q.2 rfl).symm
      calc x.members = ((site.trainNodes.zip previous.states).map Prod.snd).map
            LocalStateRef.node := by rw [List.map_map]; exact hmembers.symm
        _ = previous.members := by rw [List.map_snd_zip (Nat.le_of_eq hlength)]; rfl

theorem of_registerRound {a : AggregationNode} {x : RoundSnapshot}
    (h : (s.registerRound site a round).outcome = .ok x) :
    x.round = round ∧ x.Follows s.current? ∧
      x.ProducedBy (s.registerRound site a round).state.draft.graph := by
  unfold registerRound at h ⊢
  cases hcurrent : s.current? with
  | none =>
    simp only [hcurrent] at h ⊢
    obtain ⟨hround, hshared, hpaired, hproduced, -⟩ := of_trainRound h
    exact ⟨hround, ⟨hpaired, by rw [hshared]; rfl, nofun⟩, hproduced⟩
  | some previous =>
    simp only [hcurrent] at h ⊢
    exact of_followRound h

/-- **A round that is performed adds a snapshot to the history**, which follows the last one. -/
theorem of_performRound (h : (s.performRound site round).outcome = .ok ()) :
    ∃ x, (s.performRound site round).state.1 = { s with history := s.history.push x } ∧
      x.round = s.expectedRound ∧ x.Follows s.current? ∧
      x.ProducedBy (s.performRound site round).state.2.draft.graph := by
  unfold performRound at h ⊢
  cases hagg : site.aggregator with
  | none => simp [hagg] at h
  | some a =>
    simp only [hagg] at h ⊢
    split at h
    · cases h
    · next hround =>
      rw [if_neg hround]
      have hround := Classical.not_not.mp hround
      cases hout : (s.registerRound _ a round).outcome with
      | error e => simp [hout] at h
      | ok x =>
        obtain ⟨hx, hfollows, hproduced⟩ := of_registerRound hout
        exact ⟨x, rfl, hx.trans hround, hfollows, hproduced⟩

end FederatedAveraging

/-! ## Histories -/

/-- Histories in which each snapshot follows the one before and is numbered by its position, as far
as the numbers go. -/
inductive Recorded : Array RoundSnapshot → Prop
  | empty : Recorded #[]
  | push {history : Array RoundSnapshot} {x : RoundSnapshot} (h : Recorded history)
    (round : x.round = UInt32.ofNat history.size) (follows : x.Follows history.back?) :
    Recorded (history.push x)

namespace Recorded

variable {history : Array RoundSnapshot} {x y : RoundSnapshot} {i : Nat}

theorem round (h : Recorded history) (hx : history[i]? = some x) : x.round = UInt32.ofNat i := by
  induction h with
  | empty => simp at hx
  | @push history y _ round _ ih =>
    rw [Array.getElem?_push] at hx
    split at hx
    · next hi =>
      obtain rfl := Option.some.inj hx
      rw [hi, round]
    · exact ih hx

/-- Exactly the first round has no aggregated state. -/
theorem shared (h : Recorded history) (hx : history[i]? = some x) :
    x.shared.isSome = true ↔ 1 ≤ i := by
  induction h with
  | empty => simp at hx
  | @push history y _ _ follows ih =>
    rw [Array.getElem?_push] at hx
    split at hx
    · next hi =>
      obtain rfl := Option.some.inj hx
      rw [follows.shared, Array.back?_isSome, ne_eq, ← Array.size_eq_zero_iff, hi]
      omega
    · exact ih hx

theorem paired (h : Recorded history) (hx : x ∈ history) : x.Paired := by
  induction h with
  | empty => simp at hx
  | push _ _ follows ih =>
    rcases Array.mem_push.mp hx with hx | rfl
    · exact ih hx
    · exact follows.paired

theorem exists_back? (hx : x ∈ history) : ∃ last ∈ history, history.back? = some last := by
  cases hback : history.back? with
  | none =>
    rw [Array.back?_eq_none_iff.mp hback] at hx
    simp at hx
  | some last => exact ⟨last, Array.mem_of_back? hback, rfl⟩

/-- All rounds have the same members at the same positions. -/
theorem members (h : Recorded history) (hx : x ∈ history) (hy : y ∈ history) :
    x.members = y.members := by
  induction h generalizing x y with
  | empty => simp at hx
  | @push history z _ _ follows ih =>
    -- the new snapshot has the members of the last one, and so those of any other
    have hnew : ∀ {x}, x ∈ history → z.members = x.members := fun {x} hx => by
      obtain ⟨last, hlast, hback⟩ := exists_back? hx
      exact (follows.members last hback).trans (ih hlast hx)
    rcases Array.mem_push.mp hx with hxOld | rfl
    · rcases Array.mem_push.mp hy with hyOld | rfl
      · exact ih hxOld hyOld
      · exact (hnew hxOld).symm
    · rcases Array.mem_push.mp hy with hyOld | rfl
      · exact hnew hyOld
      · rfl

end Recorded

namespace FederatedAveraging

/-! ## Uses of a strategy -/

/-- A use of a strategy, on whatever graph and nodes. -/
inductive Use
  /-- A round is performed, or attempted. -/
  | round (site : Site) (round : Round)
  /-- The latest states are tested. -/
  | predict (d : Draft) (testNodes : List TestNode) (trainNodes : List TrainNode) (round : Round)
  /-- The rounds are forgotten. -/
  | reset

/-- The strategy after a use. Tests are registered without changing it. -/
def use (s : FederatedAveraging) : Use → FederatedAveraging
  | .round site round => (s.performRound site round).state.1
  | .predict _ _ _ _ => s
  | .reset => s.reset

/-- The strategy after any number of uses. -/
def afterUses (s : FederatedAveraging) (uses : List Use) : FederatedAveraging :=
  uses.foldl use s

variable {s : FederatedAveraging}

theorem recorded_performRound (h : Recorded s.history) (site : Site) (round : Round) :
    Recorded (s.performRound site round).state.1.history := by
  cases hout : (s.performRound site round).outcome with
  | error e =>
    rw [s.history_of_error site round hout]
    exact h
  | ok u =>
    obtain ⟨x, hstate, hround, hfollows, -⟩ := of_performRound hout
    rw [hstate]
    exact h.push hround hfollows

theorem recorded_use (h : Recorded s.history) (u : Use) : Recorded (s.use u).history := by
  cases u with
  | round site round => exact recorded_performRound h site round
  | predict d testNodes trainNodes round => exact h
  | reset => exact .empty

theorem recorded_afterUses (h : Recorded s.history) (uses : List Use) :
    Recorded (s.afterUses uses).history := by
  induction uses generalizing s with
  | nil => exact h
  | cons u rest ih => exact ih (recorded_use h u)

/-- **The history is in order.** However a strategy was used, with whatever graphs, nodes and
indices, and however often it was reset. A round that is performed adds one snapshot, and a round
that fails and an evaluation leave the history alone; so there are as many snapshots as rounds
performed since the last reset. A snapshot is numbered by its position, for as many positions as
there are numbers; it has an aggregated state except in the first round; its local states and its
payloads come in pairs, each from one training of one member; and all snapshots have the same
members at the same positions. -/
theorem history_in_order (algorithm : Algorithm) (uses : List Use) :
    let s := (new algorithm).afterUses uses
    (∀ site round,
      ((s.performRound site round).outcome = .ok () →
        ∃ x, (s.use (.round site round)).history = s.history.push x) ∧
      ∀ e, (s.performRound site round).outcome = .error e →
        (s.use (.round site round)).history = s.history) ∧
    (∀ d testNodes trainNodes round,
      (s.use (.predict d testNodes trainNodes round)).history = s.history) ∧
    ∀ i x, s.history[i]? = some x →
      (i < UInt32.size → x.round.toNat = i) ∧ (x.shared.isSome = true ↔ 1 ≤ i) ∧ x.Paired ∧
      ∀ y ∈ s.history, y.states.length = x.states.length ∧ y.members = x.members := by
  intro s
  have h : Recorded s.history := recorded_afterUses .empty uses
  refine ⟨fun site round => ⟨fun hout => ?_, fun e hout => ?_⟩, fun _ _ _ _ => rfl,
    fun i x hx => ?_⟩
  · obtain ⟨x, hstate, -⟩ := of_performRound hout
    exact ⟨x, congrArg history hstate⟩
  · exact congrArg history (s.history_of_error site round hout)
  · have hmem : x ∈ s.history := Array.mem_of_getElem? hx
    refine ⟨fun hi => ?_, h.shared hx, h.paired hmem, fun y hy => ?_⟩
    · rw [h.round hx, UInt32.toNat_ofNat_of_lt' hi]
    · have hmembers := h.members hy hmem
      refine ⟨?_, hmembers⟩
      simpa [RoundSnapshot.members] using congrArg List.length hmembers

/-! ## Rounds on one graph -/

/-- All rounds of a strategy, also those that failed, were registered on one graph. In between and
since, the graph may have grown by other operations. -/
inductive TrainedOn : FederatedAveraging → Graph → Prop
  | new (algorithm : Algorithm) (g : Graph) : TrainedOn (.new algorithm) g
  | round {s : FederatedAveraging} {site : Site} (h : TrainedOn s site.draft.graph)
    (round : Round) :
    TrainedOn (s.performRound site round).state.1 (s.performRound site round).state.2.draft.graph
  | grow {s : FederatedAveraging} {g g' : Graph} (h : TrainedOn s g) (hg : g.Grows g') :
    TrainedOn s g'

namespace TrainedOn

variable {g : Graph}

theorem recorded (h : s.TrainedOn g) : Recorded s.history := by
  induction h with
  | new algorithm g => exact .empty
  | round _ round ih => exact recorded_performRound ih _ round
  | grow _ _ ih => exact ih

/-- The graph has the trainings that the snapshots refer to. -/
theorem producedBy (h : s.TrainedOn g) {x : RoundSnapshot} (hx : x ∈ s.history) :
    x.ProducedBy g := by
  induction h generalizing x with
  | new algorithm g => simp [FederatedAveraging.new] at hx
  | @round s site _ round ih =>
    have hgrows := s.grows_performRound site round
    cases hout : (s.performRound site round).outcome with
    | error e =>
      rw [s.history_of_error site round hout] at hx
      exact (ih hx).grows hgrows
    | ok u =>
      obtain ⟨y, hstate, -, -, hproduced⟩ := of_performRound hout
      rw [hstate] at hx
      rcases Array.mem_push.mp hx with hx | rfl
      · exact (ih hx).grows hgrows
      · exact hproduced
  | grow _ hg ih => exact (ih hx).grows hg

/-- In particular those of the last round. -/
theorem current (h : s.TrainedOn g) {x : RoundSnapshot} (hx : s.current? = some x) :
    x.Paired ∧ x.ProducedBy g :=
  have hmem : x ∈ s.history := Array.mem_of_back? hx
  ⟨h.recorded.paired hmem, h.producedBy hmem⟩

end TrainedOn

end FederatedAveraging

end Federation
