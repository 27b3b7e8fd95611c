import Mathlib.Algebra.GroupWithZero.Nat
import Federation.Averaging

/-!
# What comes of averaging

An average is refused for one of four reasons. There is nothing to average; an update has another
length than the first one; the number of all samples does not fit in a word; there are no samples at
all. Of several reasons the one that is named here first is given. Otherwise there is an average,
and each of its positions is a sum of its own: from zero, in the order of the updates, of the
parameters at this position, each multiplied by the weight of its update.

Nothing is assumed of the arithmetic. It may round, and it may just as well put down what it is
asked to compute, so the sum that stands here is also the expression that is evaluated.

* `Averages`: all that can come of averaging, each with the condition under which it does;
* `misshapen?_eq_some_iff`: the update that is reported is the first of another length;
* `sumCounts_zero`: a sum of counts is exact, and one that does not fit is a crash;
* `IsAverage`, `isAverage_weightedSum`: the sums position by position, and all updates in one go;
* `average_outcome`: these are the outcomes of averaging.
-/

namespace Federation

variable {α : Type}

/-! ## Outcomes -/

/-- The number of samples behind several states. -/
def totalSamples (states : List (SharedState α)) : Nat :=
  (states.map fun s => s.samples.toNat).sum

/-- The weights of states: their shares of all samples. -/
def weights [Scalar α] (states : List (SharedState α)) : List α :=
  states.map fun s =>
    Scalar.div (Scalar.ofCount s.samples) (Scalar.ofCount (UInt64.ofNat (totalSamples states)))

/-- The average of states. All updates have its length, so that each of them has a parameter at each
of its positions; and the position holds the sum of these parameters, scaled by the weights. -/
structure IsAverage [Scalar α] (states : List (SharedState α)) (average : AveragedState α) :
    Prop where
  length : ∀ s ∈ states, s.update.length = average.update.length
  position : ∀ i (hi : i < average.update.length), ∃ parameters,
    states.map (fun s => s.update[i]?) = parameters.map some ∧
      average.update[i] =
        (List.zipWith Scalar.mul parameters (weights states)).foldl Scalar.add Scalar.zero

/-- All updates are as long as the first one. -/
def SameLength (first : SharedState α) (states : List (SharedState α)) : Prop :=
  ∀ s ∈ states, s.update.length = first.update.length

/-- What comes of averaging states. -/
inductive Averages [Scalar α] :
    List (SharedState α) → Except (Failure AggregationError) (AveragedState α) → Prop
  /-- There is nothing to average. -/
  | nothing : Averages [] (.error (.error .emptyInput))
  /-- An update has another length than the first one, and all in front of it have that length. -/
  | misshapen {first : SharedState α} {rest : List (SharedState α)} {index : Nat}
    {s : SharedState α} (found : (first :: rest)[index]? = some s)
    (differs : s.update.length ≠ first.update.length)
    (before : SameLength first ((first :: rest).take index)) :
    Averages (first :: rest)
      (.error (.error (.shapeMismatch index first.update.length s.update.length)))
  /-- The number of samples has no word. -/
  | overflow {first : SharedState α} {rest : List (SharedState α)}
    (same : SameLength first (first :: rest)) (large : 2 ^ 64 ≤ totalSamples (first :: rest)) :
    Averages (first :: rest) (.error (.crash .additionOverflow))
  /-- No update is based on any sample. -/
  | noSamples {first : SharedState α} {rest : List (SharedState α)}
    (same : SameLength first (first :: rest)) (uncounted : ∀ s ∈ first :: rest, s.samples = 0) :
    Averages (first :: rest) (.error (.error .noSamples))
  /-- The average. -/
  | average {first : SharedState α} {rest : List (SharedState α)}
    (same : SameLength first (first :: rest)) (fits : totalSamples (first :: rest) < 2 ^ 64)
    (counted : ¬ ∀ s ∈ first :: rest, s.samples = 0) {a : AveragedState α}
    (isAverage : IsAverage (first :: rest) a) : Averages (first :: rest) (.ok a)

/-! ## Lengths -/

theorem misshapen?_eq_none_iff {expected index : Nat} {states : List (SharedState α)} :
    misshapen? expected index states = none ↔ ∀ s ∈ states, s.update.length = expected := by
  induction states generalizing index with
  | nil => simp [misshapen?]
  | cons s rest ih =>
    unfold misshapen?
    split
    · next h => simp [ih, h]
    · next h => simp [h]

/-- What is reported is the first update of another length, with its place. -/
theorem misshapen?_eq_some_iff {expected start : Nat} {states : List (SharedState α)}
    {err : AggregationError} :
    misshapen? expected start states = some err ↔ ∃ i s, states[i]? = some s ∧
      s.update.length ≠ expected ∧ (∀ s' ∈ states.take i, s'.update.length = expected) ∧
        err = .shapeMismatch (start + i) expected s.update.length := by
  induction states generalizing start with
  | nil => simp [misshapen?]
  | cons s rest ih =>
    unfold misshapen?
    split
    · next h =>
      rw [ih]
      constructor
      · rintro ⟨i, s', hs', hdiffers, hbefore, rfl⟩
        refine ⟨i + 1, s', hs', hdiffers, ?_, by rw [Nat.add_assoc, Nat.add_comm 1]⟩
        exact List.forall_mem_cons.mpr ⟨h, hbefore⟩
      · rintro ⟨i, s', hs', hdiffers, hbefore, rfl⟩
        cases i with
        | zero =>
          obtain rfl : s = s' := by simpa using hs'
          exact absurd h hdiffers
        | succ i =>
          refine ⟨i, s', hs', hdiffers, (List.forall_mem_cons.mp hbefore).2, ?_⟩
          rw [Nat.add_assoc, Nat.add_comm 1]
    · next h =>
      constructor
      · intro herr
        exact ⟨0, s, rfl, h, by simp, (Option.some.inj herr).symm⟩
      · rintro ⟨i, s', hs', hdiffers, hbefore, rfl⟩
        cases i with
        | zero =>
          obtain rfl : s = s' := by simpa using hs'
          rfl
        | succ i => exact absurd (List.forall_mem_cons.mp hbefore).1 h

/-! ## Counts -/

/-- Counts are added up exactly as long as the sum has a word. -/
theorem sumCounts_zero (states : List (SharedState α)) :
    sumCounts 0 (states.map SharedState.samples) =
      if totalSamples states < 2 ^ 64 then .ok (UInt64.ofNat (totalSamples states))
      else .error .additionOverflow := by
  have hsum : (states.map SharedState.samples).foldl (fun sum n => sum + n.toNat) 0 =
      totalSamples states := by
    rw [totalSamples, List.sum_eq_foldl_nat, List.foldl_map, List.foldl_map]
  have hword : UInt64.size = 2 ^ 64 := rfl
  rw [sumCounts_eq, hword]
  simp only [UInt64.toNat_zero, hsum]

theorem totalSamples_eq_zero_iff {states : List (SharedState α)} :
    totalSamples states = 0 ↔ ∀ s ∈ states, s.samples = 0 := by
  simp [totalSamples, List.sum_eq_zero_iff_forall_eq_nat, ← UInt64.toNat_inj]

theorem totalSamples_append (xs ys : List (SharedState α)) :
    totalSamples (xs ++ ys) = totalSamples xs + totalSamples ys := by
  simp [totalSamples]

theorem toNat_totalSamples {states : List (SharedState α)}
    (fits : totalSamples states < 2 ^ 64) :
    (UInt64.ofNat (totalSamples states)).toNat = totalSamples states :=
  UInt64.toNat_ofNat_of_lt' fits

theorem ofNat_totalSamples_eq_zero_iff {states : List (SharedState α)}
    (fits : totalSamples states < 2 ^ 64) :
    UInt64.ofNat (totalSamples states) = 0 ↔ ∀ s ∈ states, s.samples = 0 := by
  rw [← totalSamples_eq_zero_iff, ← UInt64.toNat_inj, toNat_totalSamples fits, UInt64.toNat_zero]

/-! ## Sums -/

/-- Updates of one length all have a parameter at each position below it. -/
theorem exists_parameters {states : List (SharedState α)} {length i : Nat}
    (h : ∀ s ∈ states, s.update.length = length) (hi : i < length) :
    ∃ parameters : List α, states.map (fun s => s.update[i]?) = parameters.map some := by
  induction states with
  | nil => exact ⟨[], rfl⟩
  | cons s rest ih =>
    obtain ⟨hs, hrest⟩ := List.forall_mem_cons.mp h
    obtain ⟨parameters, hparameters⟩ := ih hrest
    have hlt : i < s.update.length := hs ▸ hi
    refine ⟨s.update[i] :: parameters, ?_⟩
    rw [List.map_cons, List.map_cons, List.getElem?_eq_getElem hlt, hparameters]

section

variable [Scalar α] {states : List (SharedState α)}

theorem length_foldl_addScaled (w : SharedState α → α) {sum : List α}
    (h : ∀ s ∈ states, s.update.length = sum.length) :
    (states.foldl (fun sum s => addScaled sum (w s) s.update) sum).length = sum.length := by
  induction states generalizing sum with
  | nil => rfl
  | cons s rest ih =>
    obtain ⟨hs, hrest⟩ := List.forall_mem_cons.mp h
    have hadded : (addScaled sum (w s) s.update).length = sum.length := by
      simp [addScaled, hs]
    rw [List.foldl_cons, ih (by rwa [hadded]), hadded]

/-- Adding up whole updates adds up each position by itself, in the same order. -/
theorem getElem?_foldl_addScaled (w : SharedState α → α) {i : Nat} {parameters : List α}
    (h : states.map (fun s => s.update[i]?) = parameters.map some) (sum : List α) :
    (states.foldl (fun sum s => addScaled sum (w s) s.update) sum)[i]? =
      sum[i]?.map fun x =>
        (List.zipWith Scalar.mul parameters (states.map w)).foldl Scalar.add x := by
  induction states generalizing parameters sum with
  | nil =>
    obtain rfl : parameters = [] := by simpa using h.symm
    simp
  | cons s rest ih =>
    cases parameters with
    | nil => simp at h
    | cons u parameters =>
      rw [List.map_cons, List.map_cons, List.cons.injEq] at h
      have hadded : (addScaled sum (w s) s.update)[i]? =
          sum[i]?.map fun x => Scalar.add x (Scalar.mul u (w s)) := by
        rw [addScaled, List.getElem?_zipWith, h.1]
        cases sum[i]? <;> rfl
      rw [List.foldl_cons, ih h.2, hadded, Option.map_map]
      rfl

/-- The weighted sum of updates is their average. -/
theorem isAverage_weightedSum {length : Nat} (h : ∀ s ∈ states, s.update.length = length) :
    IsAverage states ⟨weightedSum length (UInt64.ofNat (totalSamples states)) states⟩ := by
  have hlength : (weightedSum length (UInt64.ofNat (totalSamples states)) states).length =
      length := by
    unfold weightedSum
    rw [length_foldl_addScaled _ (by simpa using h), List.length_replicate]
  refine ⟨fun s hs => (h s hs).trans hlength.symm, fun i hi => ?_⟩
  have hlt : i < length := hlength ▸ hi
  obtain ⟨parameters, hparameters⟩ := exists_parameters h hlt
  refine ⟨parameters, hparameters, Option.some.inj ?_⟩
  rw [← List.getElem?_eq_getElem]
  unfold weightedSum
  rw [getElem?_foldl_addScaled _ hparameters, List.getElem?_replicate_of_lt hlt]
  rfl

/-- There is only one average. -/
theorem IsAverage.unique {a b : AveragedState α} (ha : IsAverage states a)
    (hb : IsAverage states b) (hne : states ≠ []) : a = b := by
  obtain ⟨s, hs⟩ := List.exists_mem_of_ne_nil states hne
  have hlength : a.update.length = b.update.length := (ha.length s hs).symm.trans (hb.length s hs)
  have hupdate : a.update = b.update := by
    refine List.ext_getElem hlength fun i hi hi' => ?_
    obtain ⟨us, hus, hsum⟩ := ha.position i hi
    obtain ⟨vs, hvs, hsum'⟩ := hb.position i hi'
    obtain rfl : us = vs :=
      (List.map_inj_right fun _ _ => Option.some.inj).mp (hus.symm.trans hvs)
    rw [hsum, hsum']
  cases a
  cases b
  exact congrArg _ hupdate

/-! ## Averages -/

/-- What comes of averaging updates of one length is decided by the number of samples. -/
theorem average_of_sameLength {first : SharedState α} {rest : List (SharedState α)}
    (same : SameLength first (first :: rest)) :
    average (first :: rest) =
      if totalSamples (first :: rest) < 2 ^ 64 then
        if UInt64.ofNat (totalSamples (first :: rest)) = 0 then .error (.error .noSamples)
        else .ok ⟨weightedSum first.update.length
          (UInt64.ofNat (totalSamples (first :: rest))) (first :: rest)⟩
      else .error (.crash .additionOverflow) := by
  have hshape : misshapen? first.update.length 0 (first :: rest) = none :=
    misshapen?_eq_none_iff.mpr same
  simp only [average, hshape, sumCounts_zero]
  by_cases fits : totalSamples (first :: rest) < 2 ^ 64
  · rw [if_pos fits, if_pos fits]
  · rw [if_neg fits, if_neg fits]

theorem Averages.average_eq {outcome : Except (Failure AggregationError) (AveragedState α)}
    (h : Averages states outcome) : Federation.average states = outcome := by
  cases h with
  | nothing => rfl
  | @misshapen first rest index s found differs before =>
    have hshape : misshapen? first.update.length 0 (first :: rest) =
        some (.shapeMismatch index first.update.length s.update.length) :=
      misshapen?_eq_some_iff.mpr ⟨index, s, found, differs, before, by rw [Nat.zero_add]⟩
    simp only [Federation.average, hshape]
  | «overflow» same large => rw [average_of_sameLength same, if_neg (Nat.not_lt.mpr large)]
  | @noSamples first rest same uncounted =>
    have fits : totalSamples (first :: rest) < 2 ^ 64 :=
      totalSamples_eq_zero_iff.mpr uncounted ▸ Nat.two_pow_pos 64
    rw [average_of_sameLength same, if_pos fits,
      if_pos ((ofNat_totalSamples_eq_zero_iff fits).mpr uncounted)]
  | average same fits counted isAverage =>
    rw [average_of_sameLength same, if_pos fits,
      if_neg (mt (ofNat_totalSamples_eq_zero_iff fits).mp counted),
      (isAverage_weightedSum same).unique isAverage (List.cons_ne_nil _ _)]

/-- Something always comes of averaging. -/
theorem exists_averages (states : List (SharedState α)) : ∃ outcome, Averages states outcome := by
  cases states with
  | nil => exact ⟨_, .nothing⟩
  | cons first rest =>
    cases hshape : misshapen? first.update.length 0 (first :: rest) with
    | some err =>
      obtain ⟨i, s, found, differs, before, -⟩ := misshapen?_eq_some_iff.mp hshape
      exact ⟨_, .misshapen found differs before⟩
    | none =>
      have same : SameLength first (first :: rest) := misshapen?_eq_none_iff.mp hshape
      by_cases fits : totalSamples (first :: rest) < 2 ^ 64
      · by_cases uncounted : ∀ s ∈ first :: rest, s.samples = 0
        · exact ⟨_, .noSamples same uncounted⟩
        · exact ⟨_, .average same fits uncounted (isAverage_weightedSum same)⟩
      · exact ⟨_, .overflow same (Nat.not_lt.mp fits)⟩

/-- **What comes of averaging.** Averages are refused for one of four reasons, in this order: there
is no update; an update, the first one to do so, has another length than the first of all; the
number of samples is at least 2⁶⁴, which is a crash; there are no samples. In all other cases, and
in no others, there is an average, and each position of it is the sum from zero, in the order of the
updates, of the parameters at this position multiplied by the weights. An aggregation that takes the
weighted average does the same. -/
theorem average_outcome (states : List (SharedState α))
    (outcome : Except (Failure AggregationError) (AveragedState α)) :
    (average states = outcome ↔ Averages states outcome) ∧
      (AggregationFunction.weightedAverage.apply states = outcome ↔ Averages states outcome) := by
  have hiff : average states = outcome ↔ Averages states outcome := by
    constructor
    · intro h
      obtain ⟨outcome', h'⟩ := exists_averages states
      rwa [← h, h'.average_eq]
    · exact Averages.average_eq
  exact ⟨hiff, hiff⟩

end

end Federation
