import Federation.Waiting.Timeline

/-!
# The party on the other side of a wait

A wait knows a backend only by what it is answered. So a backend that keeps more in its state, but
answers alike, is waited for in the same way; and what the answers about one plan keep of the state
of a backend is kept by every wait for this plan, since nothing else is asked.

* `Party.Maps`: one party is another one that keeps more;
* `Timeline.map_run`: it is waited for in the same way;
* `Party.loggedAs`: a party that keeps a log of what it is asked;
* `Party.Keeps`: what the answers about a plan keep;
* `Timeline.keeps_run`: a wait keeps it.
-/

namespace Federation

variable {σ τ : Type}

/-! ## A party that keeps more -/

/-- One party answers as another one does, whose state is a part of its own. -/
structure Party.Maps (f : τ → σ) (q : Party τ) (p : Party σ) : Prop where
  timers : p.timers = q.timers
  status : ∀ s plan, p.status (f s) plan = ((q.status s plan).1, f (q.status s plan).2)
  performances : ∀ s plan,
    p.performances (f s) plan = ((q.performances s plan).1, f (q.performances s plan).2)
  settle : ∀ s, p.settle (f s) = f (q.settle s)
  busy : ∀ s, p.busy (f s) = q.busy s
  note : ∀ s notices, p.note (f s) notices = f (q.note s notices)

namespace Timeline

/-- The timeline with a part of the party. -/
def map (f : τ → σ) (t : Timeline τ) : Timeline σ :=
  ⟨t.now, t.watch, f t.party, t.answer, t.wake, t.deadline, t.abortAt, t.abortable, t.questions⟩

variable {f : τ → σ} {q : Party τ} {p : Party σ}

theorem map_apply (h : q.Maps f p) (t : Timeline τ) (r : Reaction) :
    (t.apply q r).map f = (t.map f).apply p r := by
  unfold apply
  cases r.question with
  | none =>
    cases r.watch.phase <;> simp only [map, h.note, h.timers]
  | some question =>
    cases question with
    | status => simp only [map, h.note, h.status]
    | performances => simp only [map, h.note, h.performances]

theorem map_notice (h : q.Maps f p) (t : Timeline τ) :
    (t.notice q).map f = (t.map f).notice p := by
  have hwatch : (t.map f).watch = t.watch := rfl
  unfold notice
  rw [hwatch]
  cases t.watch.phase with
  | sleeping =>
    dsimp only
    split
    · exact map_apply h t _
    · rfl
  | asking | fetching | «over» result => rfl

theorem map_raise (h : q.Maps f p) (t : Timeline τ) : (t.raise q).map f = (t.map f).raise p := by
  simp only [raise, map, h.note]

theorem map_moveTo (h : q.Maps f p) (t : Timeline τ) (time : Nat) :
    (t.moveTo q time).map f = (t.map f).moveTo p time := by
  have hnow : (t.map f).now = t.now := rfl
  unfold moveTo
  rw [hnow]
  split
  · simp only [map, h.settle]
  · rfl

theorem map_fire (h : q.Maps f p) (t : Timeline τ) (timer : Timer) :
    (t.fire q timer).map f = (t.map f).fire p timer := by
  cases timer with
  | abort =>
    simp only [fire, map_notice h, map_raise h]
    rfl
  | answer a =>
    have habortable : (t.map f).abortable = t.abortable := rfl
    simp only [fire, map_notice h, map_apply h, habortable]
    cases a.raises && t.abortable with
    | true =>
      simp only [if_true, map_raise h]
      rfl
    | false => rfl
  | wake => exact map_apply h t _
  | deadline => exact map_apply h _ _

theorem map_giveWay (h : q.Maps f p) (t : Timeline τ) :
    (t.giveWay q).map f = (t.map f).giveWay p := by
  have hnow : (t.map f).deadline = some (t.map f).now ↔ t.deadline = some t.now := .rfl
  unfold giveWay
  simp only [hnow]
  split
  · exact map_fire h t _
  · rw [map_fire h]
    simp only [map, h.settle]

theorem map_step (h : q.Maps f p) (t : Timeline τ) : (t.step q).map f = (t.map f).step p := by
  have hwatch : (t.map f).watch = t.watch := rfl
  have htimers : (t.map f).timers = t.timers := rfl
  have hnow : (t.map f).now = t.now := rfl
  have hbusy : p.busy (t.map f).party = q.busy t.party := h.busy t.party
  unfold step
  rw [hwatch, htimers, hnow, hbusy]
  cases t.watch.isOver with
  | true => rfl
  | false =>
    simp only [Bool.false_eq_true, if_false]
    cases earliest t.timers with
    | none => rfl
    | some next =>
      obtain ⟨time, timer⟩ := next
      cases timer with
      | wake =>
        dsimp only
        split
        · exact map_giveWay h t
        · rw [map_fire h, map_moveTo h]
      | abort | answer a | deadline =>
        dsimp only
        rw [map_fire h, map_moveTo h]

/-- A party that keeps more is waited for in the same way. -/
theorem map_run (h : q.Maps f p) (n : Nat) (t : Timeline τ) :
    (run q n t).map f = run p n (t.map f) := by
  induction n generalizing t with
  | zero => rfl
  | succ n ih =>
    have hwatch : (t.map f).watch = t.watch := rfl
    unfold run
    rw [hwatch]
    cases t.watch.isOver with
    | true => rfl
    | false => simp only [Bool.false_eq_true, if_false, ih, map_step h]

theorem map_start (h : q.Maps f p) (party : τ) (plan : PlanKey) (poll : PollSettings)
    (raised : Bool) (abortAt : Option Nat) (abortable : Bool) :
    (start q party plan poll raised abortAt abortable).map f =
      start p (f party) plan poll raised abortAt abortable := by
  unfold start
  rw [map_apply h]
  simp only [map, h.timers]

end Timeline

/-! ## A party that keeps a log -/

/-- A question about a plan, with the reply. -/
inductive BackendCall
  | status (plan : PlanKey) (reply : Except BackendError PlanStatus)
  | performances (plan : PlanKey) (reply : Except BackendError (List Performance))

/-- The plan that a question is about. -/
def BackendCall.plan : BackendCall → PlanKey
  | .status plan _ | .performances plan _ => plan

/-- A party that keeps a log, with an entry for each question about a plan. -/
def Party.loggedAs {κ : Type} (entry : BackendCall → κ) (p : Party σ) : Party (σ × List κ) where
  timers := p.timers
  status s plan :=
    let (a, party) := p.status s.1 plan
    (a, (party, s.2 ++ [entry (.status plan a.answer)]))
  performances s plan :=
    let (a, party) := p.performances s.1 plan
    (a, (party, s.2 ++ [entry (.performances plan a)]))
  settle s := (p.settle s.1, s.2)
  busy s := p.busy s.1
  note s notices := (p.note s.1 notices, s.2)

/-- The log is kept beside what the party has. -/
theorem Party.maps_loggedAs {κ : Type} (entry : BackendCall → κ) (p : Party σ) :
    (p.loggedAs entry).Maps Prod.fst p :=
  ⟨rfl, fun _ _ => rfl, fun _ _ => rfl, fun _ => rfl, fun _ => rfl, fun _ _ => rfl⟩

/-! ## What a wait keeps -/

/-- What is kept by the answers about a plan, and by all that a party does by itself. -/
structure Party.Keeps (p : Party σ) (plan : PlanKey) (I : σ → Prop) : Prop where
  status : ∀ s, I s → I (p.status s plan).2
  performances : ∀ s, I s → I (p.performances s plan).2
  settle : ∀ s, I s → I (p.settle s)
  note : ∀ s notices, I s → I (p.note s notices)

/-- What the entries of questions about a plan keep of a log is kept by a party with this log. -/
theorem Party.keeps_loggedAs {κ : Type} (entry : BackendCall → κ) (p : Party σ) (plan : PlanKey)
    {I : List κ → Prop} (h : ∀ log call, I log → call.plan = plan → I (log ++ [entry call])) :
    (p.loggedAs entry).Keeps plan fun s => I s.2 where
  status _ hs := h _ _ hs rfl
  performances _ hs := h _ _ hs rfl
  settle _ hs := hs
  note _ _ hs := hs

namespace Timeline

variable {p : Party σ} {plan : PlanKey} {I : σ → Prop}

/-- A watch on a plan, beside a party that keeps what it should. -/
structure KeepsTo (plan : PlanKey) (I : σ → Prop) (t : Timeline σ) : Prop where
  watches : t.watch.plan = plan
  keeps : I t.party

namespace KeepsTo

theorem apply (h : p.Keeps plan I) {t : Timeline σ} (ht : I t.party) {r : Reaction}
    (hr : r.watch.plan = plan) : (t.apply p r).KeepsTo plan I := by
  have hnote := h.note t.party r.notices ht
  subst hr
  unfold Timeline.apply
  cases r.question with
  | none => cases r.watch.phase <;> exact ⟨rfl, hnote⟩
  | some question =>
    cases question with
    | status => exact ⟨rfl, h.status _ hnote⟩
    | performances =>
      exact ⟨(r.watch.watches_react _).1, h.note _ _ (h.performances _ hnote)⟩

theorem react (h : p.Keeps plan I) {t : Timeline σ} (ht : t.KeepsTo plan I) (event : WatchEvent) :
    (t.apply p (t.watch.react event)).KeepsTo plan I :=
  apply h ht.keeps ((t.watch.watches_react event).1.trans ht.watches)

theorem notice (h : p.Keeps plan I) {t : Timeline σ} (ht : t.KeepsTo plan I) :
    (t.notice p).KeepsTo plan I := by
  unfold Timeline.notice
  split
  · split
    · exact ht.react h .noticed
    · exact ht
  · exact ht

theorem raise (h : p.Keeps plan I) {t : Timeline σ} (ht : t.KeepsTo plan I) :
    (t.raise p).KeepsTo plan I :=
  ⟨(t.watch.watches_react .raised).1.trans ht.watches, h.note _ _ ht.keeps⟩

theorem moveTo (h : p.Keeps plan I) {t : Timeline σ} (ht : t.KeepsTo plan I) (time : Nat) :
    (t.moveTo p time).KeepsTo plan I := by
  unfold Timeline.moveTo
  split
  · exact ⟨ht.watches, h.settle _ ht.keeps⟩
  · exact ht

theorem fire (h : p.Keeps plan I) {t : Timeline σ} (ht : t.KeepsTo plan I) (timer : Timer) :
    (t.fire p timer).KeepsTo plan I := by
  cases timer with
  | abort =>
    have hquiet : ({ t with abortAt := none } : Timeline σ).KeepsTo plan I :=
      ⟨ht.watches, ht.keeps⟩
    exact (hquiet.raise h).notice h
  | answer a =>
    have hquiet : ({ t with answer := none } : Timeline σ).KeepsTo plan I :=
      ⟨ht.watches, ht.keeps⟩
    simp only [Timeline.fire]
    split
    · exact ((hquiet.raise h).react h _).notice h
    · exact (hquiet.react h _).notice h
  | wake => exact ht.react h .woken
  | deadline =>
    have hquiet : ({ t with deadline := none } : Timeline σ).KeepsTo plan I :=
      ⟨ht.watches, ht.keeps⟩
    exact hquiet.react h .expired

theorem giveWay (h : p.Keeps plan I) {t : Timeline σ} (ht : t.KeepsTo plan I) :
    (t.giveWay p).KeepsTo plan I := by
  unfold Timeline.giveWay
  split
  · exact ht.fire h .deadline
  · have hsettled : ({ t with party := p.settle t.party } : Timeline σ).KeepsTo plan I :=
      ⟨ht.watches, h.settle _ ht.keeps⟩
    exact hsettled.fire h .wake

theorem step (h : p.Keeps plan I) {t : Timeline σ} (ht : t.KeepsTo plan I) :
    (t.step p).KeepsTo plan I := by
  unfold Timeline.step
  split
  · exact ht
  · split
    · exact ht
    · split
      · exact ht.giveWay h
      · exact (ht.moveTo h _).fire h .wake
    · exact (ht.moveTo h _).fire h _

end KeepsTo

/-- A wait for a plan keeps what the answers about this plan keep. -/
theorem keeps_run (h : p.Keeps plan I) {t : Timeline σ} (ht : t.KeepsTo plan I) (n : Nat) :
    (run p n t).KeepsTo plan I := by
  induction n generalizing t with
  | zero => exact ht
  | succ n ih =>
    unfold run
    split
    · exact ht
    · exact ih (ht.step h)

theorem keeps_start (h : p.Keeps plan I) {party : σ} (hparty : I party) (poll : PollSettings)
    (raised : Bool) (abortAt : Option Nat) (abortable : Bool) :
    (start p party plan poll raised abortAt abortable).KeepsTo plan I := by
  refine KeepsTo.apply h hparty ?_
  unfold Watch.start Watch.ask
  split <;> rfl

end Timeline

end Federation
