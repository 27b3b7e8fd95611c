import Federation.Backend.Local

/-!
# What an event does to the record of a plan

Every event of a local backend is about one plan. It changes the record of that plan as the record
alone tells, and it changes no other record.

* `LocalBackend.get?_step_of_ne`: an event leaves the records of the other plans alone;
* `LocalBackend.get?_step_advance`, `LocalBackend.get?_step_cancel`,
  `LocalBackend.get?_step_submit`: what it makes of the record of its own plan;
* `LocalBackend.step_submit_of_fault`: a plan that is not accepted leaves no trace.
-/

namespace Federation

/-- The record of a plan after its cancellation was asked for. -/
def Record.cancel (r : Record) : Record :=
  if r.status.isTerminal then r else { r with canceled := true, status := .canceled }

theorem Record.cancel_of_terminal {r : Record} (h : r.status.isTerminal = true) : r.cancel = r :=
  if_pos h

theorem Record.cancel_of_not_terminal {r : Record} (h : r.status.isTerminal = false) :
    r.cancel = { r with canceled := true, status := .canceled } :=
  if_neg (by simp [h])

namespace LocalBackend

/-- The plan that an event is about. -/
def Event.key : Event → PlanKey
  | .submit key _ | .advance key _ | .cancel key | .read key => key

/-! ## The backend after one event -/

theorem step_submit_of_fault (b : LocalBackend) (key : PlanKey) {p : Plan} {fault : PlanFault}
    (h : p.fault? = some fault) : b.step (.submit key p) = b := by
  simp only [step, submit, h]

theorem step_submit_of_sound (b : LocalBackend) (key : PlanKey) {p : Plan} (h : p.fault? = none) :
    b.step (.submit key p) = b.put key (.accepted p) := by
  simp only [step, submit, h]

theorem step_advance_of_some (b : LocalBackend) {key : PlanKey} {r : Record} (answers : Answers)
    (h : b.get? key = some r) :
    b.step (.advance key answers) = b.put key (r.advance key answers).1 := by
  simp only [step, advance, h]

theorem step_cancel_of_some (b : LocalBackend) {key : PlanKey} {r : Record}
    (h : b.get? key = some r) :
    b.step (.cancel key) = b ∧ r.cancel = r ∨ b.step (.cancel key) = b.put key r.cancel := by
  cases ht : r.status.isTerminal with
  | true =>
    refine .inl ⟨?_, Record.cancel_of_terminal ht⟩
    simp [step, cancel, record, h, ht]
  | false =>
    refine .inr ?_
    rw [Record.cancel_of_not_terminal ht]
    simp [step, cancel, record, h, ht]

theorem step_advance_of_none (b : LocalBackend) {key : PlanKey} (answers : Answers)
    (h : b.get? key = none) : b.step (.advance key answers) = b := by
  simp only [step, advance, h]

theorem step_cancel_of_none (b : LocalBackend) {key : PlanKey} (h : b.get? key = none) :
    b.step (.cancel key) = b := by
  simp only [step, cancel, record, h]

/-! ## The record of a plan after one event -/

theorem get?_step_of_ne (b : LocalBackend) {key : PlanKey} {ev : Event} (h : ev.key ≠ key) :
    (b.step ev).get? key = b.get? key := by
  have put_ne : ∀ r, (b.put ev.key r).get? key = b.get? key := fun r => by
    rw [get?_put, if_neg fun e => h e.symm]
  cases ev with
  | submit k p =>
    cases hp : p.fault? with
    | some fault => rw [step_submit_of_fault b k hp]
    | none =>
      rw [step_submit_of_sound b k hp]
      exact put_ne _
  | advance k answers => exact get?_advance_of_ne b answers fun e => h e.symm
  | cancel k =>
    cases hr : b.get? k with
    | none => rw [step_cancel_of_none b hr]
    | some r =>
      rcases step_cancel_of_some b hr with ⟨hb, -⟩ | hb
      · rw [hb]
      · rw [hb]
        exact put_ne _
  | read k => rfl

theorem get?_step_advance (b : LocalBackend) (key : PlanKey) (answers : Answers) :
    (b.step (.advance key answers)).get? key =
      (b.get? key).map fun r => (r.advance key answers).1 := by
  cases hr : b.get? key with
  | none =>
    rw [step_advance_of_none b answers hr]
    exact hr
  | some r => rw [step_advance_of_some b answers hr, get?_put, if_pos rfl, Option.map_some]

theorem get?_step_cancel (b : LocalBackend) (key : PlanKey) :
    (b.step (.cancel key)).get? key = (b.get? key).map Record.cancel := by
  cases hr : b.get? key with
  | none =>
    rw [step_cancel_of_none b hr]
    exact hr
  | some r =>
    rw [Option.map_some]
    rcases step_cancel_of_some b hr with ⟨hb, hc⟩ | hb
    · rw [hb, hc]
      exact hr
    · rw [hb, get?_put, if_pos rfl]

theorem get?_step_submit (b : LocalBackend) (key : PlanKey) {p : Plan} (h : p.fault? = none) :
    (b.step (.submit key p)).get? key = some (.accepted p) := by
  rw [step_submit_of_sound b key h, get?_put, if_pos rfl]

end LocalBackend

end Federation
