import Federation.Failure
import Federation.Identity
import Federation.SortedList

/-!
# Which rounds are evaluated

After some rounds the trained models are tested. Whatever is asked for, the last round of an
experiment is always one of them.

Whether a round is evaluated is found out in the arithmetic of 32 bits, where the next round may not
exist and a remainder may be one of a division by zero. Each of the two stops the question.

* `Evaluation.mem_requested`, `Evaluation.pairwise_requested`: the rounds of a list are kept in
  order, each once;
* `Evaluation.shouldEvaluate_eq`: the question has an answer for every round but the largest number
  of 32 bits, and it is that the last round and the rounds that are asked for are evaluated;
* `Evaluation.selects_iff`: among the rounds of an experiment these are the selected ones;
* `Evaluation.outOfRange_eq_none_iff`: nothing is out of range exactly when every requested round
  is a round of the experiment.
-/

namespace Federation

/-! ## Rounds in 32 bits -/

/-- The round after another one. -/
def Round.next (round : Round) : Except Crash Round :=
  if round.toNat + 1 < UInt32.size then .ok (round + 1) else .error .additionOverflow

/-- The remainder of a round. -/
def Round.remainder (round n : Round) : Except Crash Round :=
  if n = 0 then .error .zeroDivisor else .ok (round % n)

/-! ## Choices of rounds -/

/-- A choice of rounds. -/
inductive Evaluation
  /-- Only the last round. -/
  | final
  /-- The given rounds, and the last one. -/
  | atRounds (rounds : List Round)
  /-- The multiples of a number, and the last round; the multiples of zero are none. -/
  | every (frequency : Round)
  deriving DecidableEq

namespace Evaluation

/-- The rounds asked for one by one, in increasing order and without repetitions. -/
def requested : Evaluation → List Round
  | .atRounds rounds => SortedList.ofList rounds
  | _ => []

/-- The number of which the multiples are asked for, if it is not zero. -/
def frequency? : Evaluation → Option Round
  | .every n => (some n).filter (0 < ·)
  | _ => none

/-- The first requested round that an experiment of `numRounds` rounds does not have. -/
def outOfRange (e : Evaluation) (numRounds : Round) : Option Round :=
  e.requested.find? fun r => numRounds ≤ r

/-- Whether a round is one of the multiples that are asked for. -/
def repeats (e : Evaluation) (round : Round) : Except Crash Bool :=
  match e.frequency? with
  | none => .ok false
  | some n => (Round.remainder round n).map fun rest => rest = 0

/-- Whether the models of a round are tested, in an experiment of `numRounds` rounds. -/
def shouldEvaluate (e : Evaluation) (round numRounds : Round) : Except Crash Bool :=
  match Round.next round with
  | .error c => .error c
  | .ok following =>
    if following = numRounds then .ok true
    else if e.requested.contains round then .ok true
    else e.repeats round

/-- A round is selected if the question whether its models are tested is answered with yes. For the
rounds of an experiment there always is an answer (`shouldEvaluate_eq_ok`). -/
def selects (e : Evaluation) (round numRounds : Round) : Bool :=
  match e.shouldEvaluate round numRounds with
  | .ok answer => answer
  | .error _ => false

theorem eq_of_not_lt {q r : Round} (h : ¬ q < r) (h' : ¬ r < q) : q = r :=
  UInt32.le_antisymm (UInt32.not_lt.mp h') (UInt32.not_lt.mp h)

theorem mem_requested {rounds : List Round} {r : Round} :
    r ∈ (atRounds rounds).requested ↔ r ∈ rounds :=
  SortedList.mem_ofList fun _ _ => eq_of_not_lt

theorem pairwise_requested (rounds : List Round) :
    (atRounds rounds).requested.Pairwise (· < ·) :=
  SortedList.pairwise_ofList (fun _ _ => eq_of_not_lt) (fun _ _ _ => UInt32.lt_trans) rounds

theorem outOfRange_eq_none_iff (e : Evaluation) (numRounds : Round) :
    e.outOfRange numRounds = none ↔ ∀ r ∈ e.requested, r < numRounds := by
  simp [outOfRange, List.find?_eq_none, UInt32.not_le]

/-! ## The answer -/

/-- A round is asked for, whether or not it is a round of the experiment. -/
def Asks : Evaluation → Round → Prop
  | .final, _ => False
  | .atRounds rounds, q => q ∈ rounds
  | .every n, q => n ≠ 0 ∧ n.toNat ∣ q.toNat

instance : ∀ (e : Evaluation) (q : Round), Decidable (e.Asks q)
  | .final, _ => inferInstanceAs (Decidable False)
  | .atRounds rounds, q => inferInstanceAs (Decidable (q ∈ rounds))
  | .every n, q => inferInstanceAs (Decidable (n ≠ 0 ∧ n.toNat ∣ q.toNat))

variable {e : Evaluation} {q n numRounds : Round}

theorem mod_eq_zero_iff : q % n = 0 ↔ n.toNat ∣ q.toNat := by
  rw [← UInt32.toNat_inj, UInt32.toNat_mod, Nat.dvd_iff_mod_eq_zero]
  rfl

theorem frequency?_every : (every n).frequency? = if n = 0 then none else some n := by
  by_cases h : n = 0
  · subst h
    rfl
  · simp [frequency?, h, UInt32.pos_iff_ne_zero]

/-- No division is by zero: the multiples of zero are never asked for. -/
theorem repeats_every : (every n).repeats q = .ok (decide ((every n).Asks q)) := by
  rw [repeats, frequency?_every]
  by_cases h : n = 0
  · simp [h, Asks]
  · simp [h, Asks, Round.remainder, Except.map, mod_eq_zero_iff]

/-- What is asked for is either one of the requested rounds or one of the multiples. -/
theorem requested_or_repeats (e : Evaluation) (q : Round) :
    (if e.requested.contains q then .ok true else e.repeats q) =
      (.ok (decide (e.Asks q)) : Except Crash Bool) := by
  cases e with
  | final => rfl
  | atRounds asked =>
    by_cases h : q ∈ asked <;> simp [h, mem_requested, Asks, repeats, frequency?]
  | every n => exact repeats_every

/-- The question has an answer unless the round is the largest number. -/
theorem shouldEvaluate_eq (e : Evaluation) (q numRounds : Round) :
    e.shouldEvaluate q numRounds =
      if q.toNat + 1 < UInt32.size then .ok (decide (q.toNat + 1 = numRounds.toNat ∨ e.Asks q))
      else .error .additionOverflow := by
  rw [shouldEvaluate, Round.next]
  by_cases hq : q.toNat + 1 < UInt32.size
  · have hsum : (q + 1).toNat = q.toNat + 1 := by
      rw [UInt32.toNat_add]
      exact Nat.mod_eq_of_lt hq
    have hlast : q + 1 = numRounds ↔ q.toNat + 1 = numRounds.toNat := by
      rw [← UInt32.toNat_inj, hsum]
    rw [if_pos hq, if_pos hq, requested_or_repeats]
    by_cases h : q + 1 = numRounds
    · simp [h, hlast.mp h]
    · simp [h, mt hlast.mpr h]
  · rw [if_neg hq, if_neg hq]

/-- In an experiment, every round has a next number. -/
theorem next_lt_size (h : q < numRounds) : q.toNat + 1 < UInt32.size := by
  have hlt : q.toNat < numRounds.toNat := h
  have hbound : numRounds.toNat < UInt32.size := numRounds.toNat_lt
  omega

/-- The rounds of an experiment that are selected are those that are asked for, and the last. -/
theorem selects_iff (h : q < numRounds) :
    e.selects q numRounds = true ↔ q.toNat + 1 = numRounds.toNat ∨ e.Asks q := by
  rw [selects, shouldEvaluate_eq, if_pos (next_lt_size h), decide_eq_true_iff]

theorem shouldEvaluate_eq_ok (h : q < numRounds) :
    e.shouldEvaluate q numRounds = .ok (e.selects q numRounds) := by
  rw [selects, shouldEvaluate_eq, if_pos (next_lt_size h)]

theorem selects_last (e : Evaluation) (h : q.toNat + 1 = numRounds.toNat) :
    e.selects q numRounds = true := by
  have hlt : q < numRounds := by
    rw [UInt32.lt_iff_toNat_lt]
    omega
  exact (selects_iff hlt).mpr (.inl h)

end Evaluation

end Federation
