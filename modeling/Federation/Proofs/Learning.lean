import Mathlib.Data.List.Forall2
import Federation.Proofs.Refines
import Federation.Proofs.Setup

/-!
# What the nodes learn

The trainings of federated averaging, without its tests. What a node holds after a round is a
function of what it held before and of what all nodes shared before.

Two averagings are compared node by node. They may have other algorithms and other nodes, as long as
they have as many of them. A relation between what a node holds on one side and on the other goes on
from round to round if the trainings keep it and if it does not tell apart what is shared, because
then both sides average the same.

* `Setup.trained`: what the nodes hold after a number of rounds;
* `Setup.trained_succ`: one more round, node by node;
* `Setup.TrainAlike.trained`: what the trainings keep holds after any number of rounds.
-/

namespace Federation

/-- A computation that is done for each member of a list comes to a result for each of them. -/
theorem forall₂_of_mapM_eq_ok {ε α β : Type} {f : α → Except ε β} {xs : List α} {ys : List β}
    (h : xs.mapM f = .ok ys) : List.Forall₂ (fun x y => f x = .ok y) xs ys := by
  induction xs generalizing ys with
  | nil =>
    obtain rfl := Except.ok.inj h
    exact .nil
  | cons x rest ih =>
    rw [List.mapM_cons] at h
    obtain ⟨y, hy, h⟩ := exists_of_bind_eq_ok h
    obtain ⟨ys', hys', h⟩ := exists_of_bind_eq_ok h
    obtain rfl := Except.ok.inj h
    exact .cons hy (ih hys')

namespace Setup

variable {s s' : Setup} {answers answers' : Answers}

/-! ## Trainings alone -/

/-- A training that succeeds gives what the algorithm answers. -/
theorem train_eq_ok_iff {shared : Option (AveragedState Float)} {n : TrainNode}
    {start : Option LocalState} {u : Update} : s.train answers shared (n, start) = .ok u ↔
      answers (.train s.algorithm n.samples start shared) = .ok u :=
  mapError_eq_ok_iff

/-- What the nodes hold after a number of rounds. -/
def trained (s : Setup) (answers : Answers) : Nat → Except (Failure ExecutionError) (List Update)
  | 0 => .ok []
  | r + 1 => do
    let previous ← trained s answers r
    s.update answers r previous

/-- The tests do not change what the nodes hold. -/
theorem trained_of_after {r : Nat} {updates : List Update} {scores : List Score}
    (h : s.after answers r = .ok (updates, scores)) : s.trained answers r = .ok updates := by
  induction r generalizing updates scores with
  | zero =>
    obtain ⟨rfl, -⟩ := Prod.mk.inj (Except.ok.inj h)
    rfl
  | succ r ih =>
    obtain ⟨⟨previous, before⟩, hprevious, h⟩ := exists_of_bind_eq_ok h
    obtain ⟨now, hnow, h⟩ := exists_of_bind_eq_ok h
    obtain ⟨more, -, h⟩ := exists_of_bind_eq_ok h
    obtain ⟨rfl, -⟩ := Prod.mk.inj (Except.ok.inj h)
    rw [trained, ih hprevious]
    exact hnow

/-- In one more round every node trains, from what it held before and what they all shared. -/
theorem trained_succ {r : Nat} {updates : List Update}
    (h : s.trained answers (r + 1) = .ok updates) :
    ∃ previous shared, s.trained answers r = .ok previous ∧ averaged r previous = .ok shared ∧
      List.Forall₂ (fun q u => s.train answers shared q = .ok u)
        (s.trainNodes.zip (s.learned r previous)) updates := by
  obtain ⟨previous, hprevious, h⟩ := exists_of_bind_eq_ok h
  obtain ⟨shared, hshared, h⟩ := exists_of_bind_eq_ok h
  exact ⟨previous, shared, hprevious, hshared, forall₂_of_mapM_eq_ok h⟩

theorem length_trained {r : Nat} {updates : List Update}
    (h : s.trained answers (r + 1) = .ok updates) : updates.length = s.trainNodes.length := by
  induction r generalizing updates with
  | zero =>
    obtain ⟨previous, shared, -, -, hall⟩ := trained_succ h
    simpa [learned] using hall.length_eq.symm
  | succ r ih =>
    obtain ⟨previous, shared, hprevious, -, hall⟩ := trained_succ h
    simpa [learned, ih hprevious] using hall.length_eq.symm

/-- The training of one node of a round. -/
theorem exists_train {shared : Option (AveragedState Float)} {starts : List (Option LocalState)}
    {updates : List Update}
    (h : List.Forall₂ (fun q u => s.train answers shared q = .ok u) (s.trainNodes.zip starts)
      updates) {j : Nat} {u : Update} (hu : updates[j]? = some u) :
    ∃ n start, s.trainNodes[j]? = some n ∧ starts[j]? = some start ∧
      s.train answers shared (n, start) = .ok u := by
  obtain ⟨hj, rfl⟩ := List.getElem?_eq_some_iff.mp hu
  have hzip : j < (s.trainNodes.zip starts).length := h.length_eq ▸ hj
  have hboth := List.length_zip ▸ hzip
  have hq := h.get hzip hj
  rw [List.get_eq_getElem, List.getElem_zip] at hq
  exact ⟨_, _, List.getElem?_eq_getElem (by omega), List.getElem?_eq_getElem (by omega), hq⟩

theorem averaged_congr (r : Nat) {updates updates' : List Update}
    (h : updates.map Prod.snd = updates'.map Prod.snd) :
    averaged r updates = averaged r updates' := by
  cases r with
  | zero => rfl
  | succ r => rw [averaged, averaged, h]

/-! ## Two averagings -/

/-- Two trainings of a round start alike: both from nothing, or from states that are related. -/
inductive StartsAlike (R : Update → Update → Prop) : Option LocalState → Option LocalState → Prop
  | none : StartsAlike R none none
  | some {u u' : Update} (h : R u u') : StartsAlike R (some u.1) (some u'.1)

/-- Two averagings whose trainings keep a relation, for each node one of its own. -/
structure TrainAlike (s s' : Setup) (answers answers' : Answers)
    (R : Nat → Update → Update → Prop) : Prop where
  length : s.trainNodes.length = s'.trainNodes.length
  shares : ∀ j u u', R j u u' → u.2 = u'.2
  trains : ∀ j n n', s.trainNodes[j]? = some n → s'.trainNodes[j]? = some n' →
    ∀ shared start start' u u', StartsAlike (R j) start start' →
      s.train answers shared (n, start) = .ok u → s'.train answers' shared (n', start') = .ok u' →
      R j u u'

namespace TrainAlike

variable {R : Nat → Update → Update → Prop}

/-- What is related was shared alike. -/
theorem map_snd (h : TrainAlike s s' answers answers' R) {updates updates' : List Update}
    (hlength : updates.length = updates'.length)
    (hR : ∀ j u u', updates[j]? = some u → updates'[j]? = some u' → R j u u') :
    updates.map Prod.snd = updates'.map Prod.snd := by
  refine List.ext_getElem (by simpa using hlength) fun j hj hj' => ?_
  rw [List.length_map] at hj hj'
  rw [List.getElem_map, List.getElem_map]
  exact h.shares j _ _ (hR j _ _ (List.getElem?_eq_getElem hj) (List.getElem?_eq_getElem hj'))

/-- What is related starts the next round alike. -/
theorem starts {r j : Nat} {updates updates' : List Update} {start start' : Option LocalState}
    (hR : ∀ u u', updates[j]? = some u → updates'[j]? = some u' → R j u u')
    (hstart : (s.learned r updates)[j]? = some start)
    (hstart' : (s'.learned r updates')[j]? = some start') : StartsAlike (R j) start start' := by
  cases r with
  | zero =>
    simp only [learned, List.getElem?_map, Option.map_eq_some_iff] at hstart hstart'
    obtain ⟨_, -, rfl⟩ := hstart
    obtain ⟨_, -, rfl⟩ := hstart'
    exact .none
  | succ r =>
    simp only [learned, List.getElem?_map, Option.map_eq_some_iff] at hstart hstart'
    obtain ⟨u, hu, rfl⟩ := hstart
    obtain ⟨u', hu', rfl⟩ := hstart'
    exact .some (hR u u' hu hu')

/-- **Two averagings remain alike.** After any number of rounds, what a node holds on one side is
related to what it holds on the other. -/
theorem trained (h : TrainAlike s s' answers answers' R) {r : Nat} {updates updates' : List Update}
    (hu : s.trained answers r = .ok updates) (hu' : s'.trained answers' r = .ok updates') :
    updates.length = updates'.length ∧
      ∀ j u u', updates[j]? = some u → updates'[j]? = some u' → R j u u' := by
  induction r generalizing updates updates' with
  | zero =>
    obtain rfl := Except.ok.inj hu
    obtain rfl := Except.ok.inj hu'
    exact ⟨rfl, fun j u u' hj => by simp at hj⟩
  | succ r ih =>
    refine ⟨by rw [length_trained hu, length_trained hu', h.length], fun j u u' hj hj' => ?_⟩
    obtain ⟨previous, shared, hprevious, hshared, hall⟩ := trained_succ hu
    obtain ⟨previous', shared', hprevious', hshared', hall'⟩ := trained_succ hu'
    obtain ⟨hlength, hR⟩ := ih hprevious hprevious'
    -- both sides average the same
    rw [averaged_congr r (h.map_snd hlength hR), hshared'] at hshared
    obtain rfl := Except.ok.inj hshared
    obtain ⟨n, start, hn, hstart, htrain⟩ := exists_train hall hj
    obtain ⟨n', start', hn', hstart', htrain'⟩ := exists_train hall' hj'
    exact h.trains j n n' hn hn' _ start start' u u' (starts (hR j) hstart hstart') htrain htrain'

end TrainAlike

end Setup

end Federation
