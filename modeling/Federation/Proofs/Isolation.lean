import Mathlib.Data.List.Forall2
import Federation.Proofs.RecordSteps
import Federation.Proofs.Lifecycle

/-!
# Plans do not disturb each other

A backend is used through handles, and a clone of a handle uses the same backend. Whoever holds one
may submit plans of their own, execute them, and ask about any plan or for its cancellation, in any
order. The plans share the one table of their backend, and tasks of different plans may have the
same keys.

The projection compares the whole history with the part of it that is about one plan. Two backends
agree on a plan when they have the same record of it. An event keeps them in agreement, and an event
that is about another plan may be left out on one side.

* `LocalBackend.get?_step_congr`: what an event makes of a record depends on that record alone;
* `Handles.Agree.step`, `Handles.Agree.skip`: a deed on both sides, and a deed on one side;
* `Handles.agree_after_filter`: a history and the part of it that is about one plan;
* `LocalBackend.step_of_get?_eq_none`: what is asked about an unknown plan changes nothing;
* `plans_isolated`: the isolation of plans.
-/

namespace Federation

/-! ## Events on two backends -/

namespace LocalBackend

variable {b b' : LocalBackend} {key : PlanKey}

/-- What an event makes of the record of a plan depends on that record alone. -/
theorem get?_step_congr (h : b.get? key = b'.get? key) (ev : Event) :
    (b.step ev).get? key = (b'.step ev).get? key := by
  by_cases hkey : ev.key = key
  · subst hkey
    cases ev with
    | submit k p =>
      cases hp : p.fault? with
      | some fault =>
        rw [step_submit_of_fault b k hp, step_submit_of_fault b' k hp]
        exact h
      | none => exact (get?_step_submit b k hp).trans (get?_step_submit b' k hp).symm
    | advance k answers =>
      exact (get?_step_advance b k answers).trans
        ((congrArg _ h).trans (get?_step_advance b' k answers).symm)
    | cancel k =>
      exact (get?_step_cancel b k).trans ((congrArg _ h).trans (get?_step_cancel b' k).symm)
    | read k => exact h
  · rw [get?_step_of_ne b hkey, get?_step_of_ne b' hkey, h]

/-- What is asked about a plan that the backend does not know, or done to it, changes nothing. -/
theorem step_of_get?_eq_none {ev : Event} (h : b.get? ev.key = none)
    (hev : ∀ p, ev ≠ .submit ev.key p) : b.step ev = b := by
  cases ev with
  | submit k p => exact absurd rfl (hev p)
  | advance k answers => exact step_advance_of_none b answers h
  | cancel k => exact step_cancel_of_none b h
  | read k => rfl

end LocalBackend

/-! ## Handles -/

/-- Backends, and the handles through which they are used. -/
structure Handles where
  backends : List LocalBackend
  /-- For each handle, the number of its backend. -/
  refers : List Nat

/-- What may be done with handles. -/
inductive Deed
  /-- A backend without plans is made, and a handle for it. -/
  | create
  /-- A handle is cloned. -/
  | clone (handle : Nat)
  /-- Something happens to the backend of a handle. -/
  | use (handle : Nat) (event : LocalBackend.Event)

/-- Whether a deed is about a plan; handles are for all plans. -/
def Deed.concerns (key : PlanKey) : Deed → Bool
  | .use _ ev => ev.key = key
  | _ => true

namespace Handles

/-- The backend of a handle. -/
def get? (s : Handles) (handle : Nat) : Option LocalBackend :=
  s.refers[handle]?.bind fun i => s.backends[i]?

/-- The handles and backends after a deed. Nothing can be done with a handle that there is not. -/
def step (s : Handles) : Deed → Handles
  | .create => ⟨s.backends ++ [.empty], s.refers ++ [s.backends.length]⟩
  | .clone handle => { s with refers := s.refers ++ s.refers[handle]?.toList }
  | .use handle ev =>
    match s.refers[handle]? with
    | some i => { s with backends := s.backends.modify i (·.step ev) }
    | none => s

/-- The handles and backends after a history of deeds. -/
def after (s : Handles) (deeds : List Deed) : Handles :=
  deeds.foldl step s

/-- What leaves the backend of a handle as it is leaves everything as it is. -/
theorem step_use_of_step {s : Handles} {handle : Nat} {ev : LocalBackend.Event}
    (h : ∀ b, s.get? handle = some b → b.step ev = b) : s.step (.use handle ev) = s := by
  simp only [step]
  cases hi : s.refers[handle]? with
  | none => rfl
  | some i =>
    have hb : ∀ b, s.backends[i]? = some b → b.step ev = b := fun b hb =>
      h b (by simp [get?, hi, hb])
    have hmodify : s.backends.modify i (·.step ev) = s.backends := by
      refine List.ext_getElem? fun j => ?_
      rw [List.getElem?_modify]
      cases hj : s.backends[j]? with
      | none => rfl
      | some b =>
        by_cases hij : i = j
        · simp [hij, hb b (hij ▸ hj)]
        · simp [hij]
    simp only [hmodify]

/-! ## Clones -/

/-- A handle keeps its backend. -/
theorem refers_prefix_after (s : Handles) (deeds : List Deed) :
    s.refers <+: (s.after deeds).refers := by
  induction deeds generalizing s with
  | nil => exact List.prefix_rfl
  | cons d rest ih =>
    refine List.IsPrefix.trans ?_ (ih (s.step d))
    cases d with
    | create | clone handle => exact List.prefix_append ..
    | use handle ev =>
      simp only [step]
      split <;> exact List.prefix_rfl

/-- Two handles of one backend remain so. -/
theorem get?_after_eq_of_refers {s : Handles} {i j : Nat} (hi : i < s.refers.length)
    (hj : j < s.refers.length) (h : s.refers[i]? = s.refers[j]?) (deeds : List Deed) :
    (s.after deeds).get? i = (s.after deeds).get? j := by
  obtain ⟨more, hmore⟩ := s.refers_prefix_after deeds
  unfold get?
  rw [← hmore, List.getElem?_append_left hi, List.getElem?_append_left hj, h]

/-- A clone is a handle of the same backend, whatever is done afterwards. -/
theorem get?_clone (s : Handles) {handle : Nat} (h : handle < s.refers.length)
    (deeds : List Deed) :
    ((s.step (.clone handle)).after deeds).get? s.refers.length =
      ((s.step (.clone handle)).after deeds).get? handle := by
  have hrefers : (s.step (.clone handle)).refers = s.refers ++ [s.refers[handle]] := by
    simp only [step, List.getElem?_eq_getElem h, Option.toList_some]
  refine get?_after_eq_of_refers ?_ ?_ ?_ deeds
  · simp [hrefers]
  · simp [hrefers]
    omega
  · simp [hrefers, List.getElem?_append_left h]

/-! ## Agreement on a plan -/

/-- Backends that know the same about a plan do so after one of them has changed on each side. -/
theorem map_modify_congr {key : PlanKey} {f f' : LocalBackend → LocalBackend}
    (hf : ∀ b b', b.get? key = b'.get? key → (f b).get? key = (f' b').get? key)
    {bs bs' : List LocalBackend} (h : bs.map (·.get? key) = bs'.map (·.get? key)) (i : Nat) :
    (bs.modify i f).map (·.get? key) = (bs'.modify i f').map (·.get? key) := by
  induction bs generalizing bs' i with
  | nil =>
    obtain rfl : bs' = [] := by simpa using h.symm
    simp
  | cons b rest ih =>
    cases bs' with
    | nil => simp at h
    | cons b' rest' =>
      obtain ⟨hb, hrest⟩ := List.cons.inj h
      cases i with
      | zero => simp [hf b b' hb, hrest]
      | succ i => simp [hb, ih hrest i]

/-- What the backend of each handle knows about a plan is the same on both sides. -/
structure Agree (key : PlanKey) (s s' : Handles) : Prop where
  refers : s.refers = s'.refers
  records : s.backends.map (·.get? key) = s'.backends.map (·.get? key)

namespace Agree

variable {key : PlanKey} {s s' : Handles}

theorem refl (key : PlanKey) (s : Handles) : s.Agree key s :=
  ⟨rfl, rfl⟩

/-- Through a handle both sides answer alike, if the answer depends on the record of the plan. -/
theorem look (h : s.Agree key s') (handle : Nat) {α : Type} {look : LocalBackend → α}
    (hlook : ∀ b b', b.get? key = b'.get? key → look b = look b') :
    (s.get? handle).map look = (s'.get? handle).map look := by
  unfold Handles.get?
  rw [h.refers]
  cases s'.refers[handle]? with
  | none => rfl
  | some i =>
    have hi : s.backends[i]?.map (·.get? key) = s'.backends[i]?.map (·.get? key) := by
      rw [← List.getElem?_map, ← List.getElem?_map, h.records]
    simp only [Option.bind_some]
    cases hb : s.backends[i]? with
    | none =>
      have hb' : s'.backends[i]? = none := by simpa [hb] using hi.symm
      rw [hb']
    | some b =>
      rw [hb, Option.map_some] at hi
      obtain ⟨b', hb', hrecord⟩ := Option.map_eq_some_iff.mp hi.symm
      rw [hb', Option.map_some, Option.map_some, hlook b b' hrecord.symm]

/-- The same deed on both sides keeps the agreement. -/
theorem step (h : s.Agree key s') (d : Deed) : (s.step d).Agree key (s'.step d) := by
  have hlength : s.backends.length = s'.backends.length := by
    simpa using congrArg List.length h.records
  cases d with
  | create => exact ⟨by simp [Handles.step, h.refers, hlength], by simp [Handles.step, h.records]⟩
  | clone handle => exact ⟨by simp [Handles.step, h.refers], h.records⟩
  | use handle ev =>
    have hrefers := congrArg (·[handle]?) h.refers
    simp only [Handles.step]
    cases hi : s.refers[handle]? with
    | none =>
      rw [← hrefers, hi]
      exact h
    | some i =>
      rw [← hrefers, hi]
      have hstep := fun (b b' : LocalBackend) (hb : b.get? key = b'.get? key) =>
        LocalBackend.get?_step_congr hb ev
      exact ⟨h.refers, map_modify_congr hstep h.records i⟩

/-- A deed that is not about the plan may be left out. -/
theorem skip (h : s.Agree key s') {d : Deed} (hd : d.concerns key = false) :
    (s.step d).Agree key s' := by
  cases d with
  | create | clone handle => simp [Deed.concerns] at hd
  | use handle ev =>
    have hkey : ev.key ≠ key := by simpa [Deed.concerns] using hd
    simp only [Handles.step]
    cases s.refers[handle]? with
    | none => exact h
    | some i =>
      have hstep : ∀ b b' : LocalBackend, b.get? key = b'.get? key →
          (b.step ev).get? key = (id b').get? key := fun b _ hb =>
        (LocalBackend.get?_step_of_ne b hkey).trans hb
      have hrecords := map_modify_congr hstep h.records i
      rw [List.modify_id] at hrecords
      exact ⟨h.refers, hrecords⟩

end Agree

/-- As far as a plan is concerned, only the deeds about it matter. -/
theorem agree_after_filter {key : PlanKey} {s s' : Handles} (h : s.Agree key s')
    (deeds : List Deed) : (s.after deeds).Agree key (s'.after (deeds.filter (·.concerns key))) := by
  induction deeds generalizing s s' with
  | nil => exact h
  | cons d rest ih =>
    cases hd : d.concerns key with
    | true =>
      rw [List.filter_cons_of_pos hd]
      exact ih (h.step d)
    | false =>
      rw [List.filter_cons_of_neg (by simp [hd])]
      exact ih (h.skip hd)

end Handles

open LocalBackend in
/-- **Plans are isolated.** Take handles of any backends, and any history of what is done with them:
handles are cloned, and through them plans are submitted, executed, canceled and asked about, in any
order. What is known of a plan through a handle is what would be known if only what is about this
plan had been done. A submission that is rejected, a question, and whatever is asked or done about a
plan that the backend does not know leave everything as it was. -/
theorem plans_isolated (s : Handles) (deeds : List Deed) (handle : Nat) (key : PlanKey) :
    let now := s.after deeds
    let alone := s.after (deeds.filter (·.concerns key))
    (now.get? handle).map (·.status key) = (alone.get? handle).map (·.status key) ∧
    (now.get? handle).map (·.performances key) = (alone.get? handle).map (·.performances key) ∧
    (∀ p fault, p.fault? = some fault → now.step (.use handle (.submit key p)) = now) ∧
    now.step (.use handle (.read key)) = now ∧
    (handle < now.refers.length → ∀ later,
      ((now.step (.clone handle)).after later).get? now.refers.length =
        ((now.step (.clone handle)).after later).get? handle) ∧
    ∀ b, now.get? handle = some b →
      (∀ p fault, p.fault? = some fault →
        (b.submit key p).outcome = .error (.rejected fault.reason)) ∧
      (b.get? key = none →
        b.status key = .error (.unknownPlan key) ∧
        b.performances key = .error (.unknownPlan key) ∧
        (b.cancel key).outcome = .error (.unknownPlan key) ∧
        now.step (.use handle (.cancel key)) = now ∧
        ∀ answers, now.step (.use handle (.advance key answers)) = now) := by
  intro now alone
  have hagree : now.Agree key alone := Handles.agree_after_filter (.refl key s) deeds
  refine ⟨?_, ?_, fun p fault hp => ?_, ?_, now.get?_clone,
    fun b hb => ⟨fun p fault hp => ?_, fun hnone => ?_⟩⟩
  · exact hagree.look handle fun b b' h => by simp only [status, record, h]
  · exact hagree.look handle fun b b' h => by simp only [performances, record, h]
  · exact Handles.step_use_of_step fun b _ => step_submit_of_fault b key hp
  · exact Handles.step_use_of_step fun b _ => rfl
  · simp only [submit, hp]
  · have hunchanged : ∀ ev : Event, ev.key = key → (∀ p, ev ≠ .submit ev.key p) →
        now.step (.use handle ev) = now := fun ev hkey hev =>
      Handles.step_use_of_step fun b' hb' => by
        obtain rfl : b' = b := Option.some.inj (hb'.symm.trans hb)
        exact step_of_get?_eq_none (by rw [hkey]; exact hnone) hev
    refine ⟨?_, ?_, ?_, hunchanged (.cancel key) rfl (by simp),
      fun answers => hunchanged (.advance key answers) rfl (by simp)⟩
    · simp [status, record, hnone, Except.map]
    · simp [performances, record, hnone, Except.map]
    · simp [cancel, record, hnone]

-- two plans with the same task keys, executed in turns through a handle and its clone; one of them
-- is canceled on the way
example :
    let p := Plan.trainAndTest ⟨"node"⟩ default
    let first := PlanKey.drawn 0
    let second := PlanKey.drawn 1
    let answers : Answers := fun
      | .train .. => .ok (⟨[]⟩, ⟨[], 1⟩)
      | .score .. => .ok (0.5 : Float)
    let turns := [Deed.use 0 (.advance first answers), .use 1 (.advance second answers)]
    let now := (Handles.mk [] []).after ([.create, .clone 0, .use 0 (.submit first p),
      .use 1 (.submit second p)] ++ turns ++ turns ++ [.use 0 (.cancel second)] ++
      (List.replicate 5 turns).flatten)
    (now.get? 1).map (·.status first) = some (.ok .done) ∧
      (now.get? 0).map (·.status second) = some (.ok .canceled) := by
  decide

end Federation
