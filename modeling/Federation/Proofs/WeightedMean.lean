import Mathlib.Algebra.BigOperators.Ring.Finset
import Mathlib.Algebra.BigOperators.Ring.List
import Mathlib.Algebra.Field.Rat
import Mathlib.Algebra.Order.BigOperators.Group.List
import Mathlib.Algebra.Order.Field.Basic
import Mathlib.Algebra.Order.Ring.Rat
import Mathlib.Data.List.GetD
import Mathlib.Data.Set.Finite.Lemmas
import Mathlib.Data.Set.Finite.List
import Mathlib.Tactic.NormNum
import Mathlib.Tactic.Ring
import Federation.Proofs.Averages

/-!
# Weighted means

When nothing is rounded, the average of updates is their mean, weighted by the numbers of samples:
the weights are not negative and add up to one. So an average says of each parameter what a single
node would have said that had all the samples, whatever their distribution on the nodes.

Only two numbers matter for a position, the number of all samples and the sum of the parameters
multiplied by their numbers of samples. Both are sums over the states, and all that can be done to
the states without any effect on the average is something that keeps these sums.

* `totalAt`: the sum of the parameters at a position, each as often as it has samples;
* `average_eq_means`: the average, written as quotients of sums;
* `average_eq_of_sums`: states with the same sums have the same average;
* `exists_least_greatest`: between which parameters the mean lies;
* `average_weighted_mean`: all that makes it a weighted mean.
-/

namespace Federation

/-- The arithmetic of the rationals, in which nothing is rounded. -/
instance : Scalar ℚ where
  zero := 0
  ofCount n := n.toNat
  add := (· + ·)
  mul := (· * ·)
  div := (· / ·)

/-- The parameter of an update at a position. -/
def SharedState.parameter (s : SharedState ℚ) (i : Nat) : ℚ :=
  s.update.getD i 0

/-- The sum of the parameters at a position, each multiplied by its number of samples. -/
def totalAt (i : Nat) (states : List (SharedState ℚ)) : ℚ :=
  (states.map fun s => (s.samples.toNat : ℚ) * s.parameter i).sum

variable {states : List (SharedState ℚ)} {width : Nat}

/-! ## Means as quotients -/

theorem SharedState.getElem?_update {s : SharedState ℚ} {i : Nat} (hi : i < s.update.length) :
    s.update[i]? = some (s.parameter i) := by
  rw [parameter, List.getD_eq_getElem _ _ hi, List.getElem?_eq_getElem hi]

/-- A sum of scaled parameters has one denominator. -/
theorem foldl_scaled (fits : totalSamples states < 2 ^ 64) (i : Nat) :
    (List.zipWith Scalar.mul (states.map (·.parameter i)) (weights states)).foldl Scalar.add
      Scalar.zero = totalAt i states / totalSamples states := by
  have hscaled : List.zipWith Scalar.mul (states.map (·.parameter i)) (weights states) =
      states.map fun s => (s.samples.toNat : ℚ) * s.parameter i * (totalSamples states : ℚ)⁻¹ := by
    rw [weights, List.zipWith_map, List.zipWith_self]
    refine List.map_congr_left fun s _ => ?_
    change s.parameter i * (s.samples.toNat /
      ((UInt64.ofNat (totalSamples states)).toNat : ℚ)) = _
    rw [toNat_totalSamples fits, div_eq_mul_inv]
    ring
  calc (List.zipWith Scalar.mul (states.map (·.parameter i)) (weights states)).foldl Scalar.add
        Scalar.zero
      = (states.map fun s =>
          (s.samples.toNat : ℚ) * s.parameter i * (totalSamples states : ℚ)⁻¹).sum := by
        rw [hscaled, List.sum_eq_foldl]
        rfl
    _ = totalAt i states / totalSamples states := by
        rw [List.sum_map_mul_right, totalAt, div_eq_mul_inv]

/-- The average of states, position by position. -/
theorem average_eq_means (shaped : ∀ s ∈ states, s.update.length = width)
    (counted : 0 < totalSamples states) (fits : totalSamples states < 2 ^ 64) :
    average states =
      .ok ⟨(List.range width).map fun i => totalAt i states / totalSamples states⟩ := by
  cases states with
  | nil => exact absurd counted (Nat.lt_irrefl 0)
  | cons first rest =>
    have hfirst := shaped first (List.mem_cons_self ..)
    have same : SameLength first (first :: rest) := fun s hs => (shaped s hs).trans hfirst.symm
    refine (Averages.average same fits ?_ ⟨?_, ?_⟩).average_eq
    · rw [← totalSamples_eq_zero_iff]
      exact Nat.ne_of_gt counted
    · simpa using shaped
    · intro i hi
      have hlt : i < width := by simpa using hi
      refine ⟨(first :: rest).map (·.parameter i), ?_, ?_⟩
      · rw [List.map_map]
        refine List.map_congr_left fun s hs => ?_
        exact SharedState.getElem?_update (by rwa [shaped s hs])
      · rw [foldl_scaled fits, List.getElem_map, List.getElem_range]

/-- States with the same sums have the same average. -/
theorem average_eq_of_sums {others : List (SharedState ℚ)}
    (shaped : ∀ s ∈ states, s.update.length = width)
    (counted : 0 < totalSamples states) (fits : totalSamples states < 2 ^ 64)
    (hshaped : ∀ s ∈ others, s.update.length = width)
    (hsamples : totalSamples others = totalSamples states)
    (htotals : ∀ i, totalAt i others = totalAt i states) : average others = average states := by
  rw [average_eq_means shaped counted fits, average_eq_means hshaped (hsamples ▸ counted)
    (hsamples ▸ fits), hsamples]
  simp only [htotals]

/-! ## Sums that are kept -/

theorem totalAt_append (i : Nat) (xs ys : List (SharedState ℚ)) :
    totalAt i (xs ++ ys) = totalAt i xs + totalAt i ys := by
  simp [totalAt]

/-- States without samples add nothing to a sum of what has samples. -/
theorem sum_filter_counted {M : Type} [AddMonoid M] {f : SharedState ℚ → M}
    (hf : ∀ s, s.samples = 0 → f s = 0) (states : List (SharedState ℚ)) :
    ((states.filter (·.samples ≠ 0)).map f).sum = (states.map f).sum := by
  induction states with
  | nil => rfl
  | cons s rest ih =>
    by_cases hs : s.samples = 0
    · rw [List.filter_cons_of_neg (by simpa using hs), ih, List.map_cons, List.sum_cons, hf s hs,
        zero_add]
    · rw [List.filter_cons_of_pos (by simpa using hs), List.map_cons, List.map_cons, List.sum_cons,
        List.sum_cons, ih]

theorem totalSamples_filter_counted (states : List (SharedState ℚ)) :
    totalSamples (states.filter (·.samples ≠ 0)) = totalSamples states :=
  sum_filter_counted (fun s hs => by simp [hs]) states

theorem totalAt_filter_counted (i : Nat) (states : List (SharedState ℚ)) :
    totalAt i (states.filter (·.samples ≠ 0)) = totalAt i states :=
  sum_filter_counted (fun s hs => by simp [hs]) states

/-- The same parameter for every sample. -/
theorem sum_samples_mul (states : List (SharedState ℚ)) (x : ℚ) :
    (states.map fun s => (s.samples.toNat : ℚ) * x).sum = totalSamples states * x := by
  rw [List.sum_map_mul_right, totalSamples, Nat.cast_list_sum, List.map_map]
  rfl

/-- Parts of a state weigh as much as the state. -/
theorem totalAt_parts {s : SharedState ℚ} {parts : List (SharedState ℚ)}
    (same : ∀ p ∈ parts, p.update = s.update) (adds : totalSamples parts = s.samples.toNat)
    (i : Nat) : totalAt i parts = totalAt i [s] := by
  calc totalAt i parts = (parts.map fun p => (p.samples.toNat : ℚ) * s.parameter i).sum := by
        refine congrArg List.sum (List.map_congr_left fun p hp => ?_)
        rw [SharedState.parameter, same p hp, SharedState.parameter]
    _ = (totalSamples parts : ℚ) * s.parameter i := sum_samples_mul parts _
    _ = totalAt i [s] := by simp [adds, totalAt]

/-! ## Bounds -/

/-- A sum over all samples only grows with what has samples. -/
theorem sum_counted_le {f g : SharedState ℚ → ℚ}
    (h : ∀ s ∈ states, s.samples ≠ 0 → f s ≤ g s) :
    (states.map fun s => (s.samples.toNat : ℚ) * f s).sum ≤
      (states.map fun s => (s.samples.toNat : ℚ) * g s).sum := by
  refine List.sum_le_sum fun s hs => ?_
  by_cases hcounted : s.samples = 0
  · simp [hcounted]
  · exact mul_le_mul_of_nonneg_left (h s hs hcounted) (Nat.cast_nonneg _)

/-- Of the states that have samples, one has the least and one the greatest parameter at a position,
and the mean lies between the two. -/
theorem exists_least_greatest (counted : 0 < totalSamples states) (i : Nat) :
    ∃ low ∈ states, ∃ high ∈ states, low.samples ≠ 0 ∧ high.samples ≠ 0 ∧
      (∀ s ∈ states, s.samples ≠ 0 →
        low.parameter i ≤ s.parameter i ∧ s.parameter i ≤ high.parameter i) ∧
      low.parameter i ≤ totalAt i states / totalSamples states ∧
        totalAt i states / totalSamples states ≤ high.parameter i := by
  have hpos : (0 : ℚ) < totalSamples states := Nat.cast_pos.mpr counted
  have hfinite : {s | s ∈ states ∧ s.samples ≠ 0}.Finite :=
    states.finite_toSet.subset fun s hs => hs.1
  have hnonempty : {s | s ∈ states ∧ s.samples ≠ 0}.Nonempty := by
    have hsome := mt totalSamples_eq_zero_iff.mpr (Nat.ne_of_gt counted)
    obtain ⟨s, hs, hcounted⟩ : ∃ s ∈ states, s.samples ≠ 0 := by
      simpa only [not_forall, exists_prop] using hsome
    exact ⟨s, hs, hcounted⟩
  obtain ⟨low, ⟨hlow, hlowCounted⟩, hleast⟩ :=
    Set.exists_min_image _ (fun s : SharedState ℚ => s.parameter i) hfinite hnonempty
  obtain ⟨high, ⟨hhigh, hhighCounted⟩, hgreatest⟩ :=
    Set.exists_max_image _ (fun s : SharedState ℚ => s.parameter i) hfinite hnonempty
  refine ⟨low, hlow, high, hhigh, hlowCounted, hhighCounted,
    fun s hs hcounted => ⟨hleast s ⟨hs, hcounted⟩, hgreatest s ⟨hs, hcounted⟩⟩, ?_, ?_⟩
  · rw [le_div_iff₀ hpos, mul_comm, ← sum_samples_mul]
    exact sum_counted_le fun s hs hcounted => hleast s ⟨hs, hcounted⟩
  · rw [div_le_iff₀ hpos, mul_comm, ← sum_samples_mul]
    exact sum_counted_le fun s hs hcounted => hgreatest s ⟨hs, hcounted⟩

/-! ## Weighted means -/

/-- What makes an average a weighted mean. -/
structure IsWeightedMean (states : List (SharedState ℚ)) (width : Nat) (mean : AveragedState ℚ) :
    Prop where
  length : mean.update.length = width
  /-- Each position holds the sum of all parameters, one for each sample, divided by the number of
  all samples. -/
  position : ∀ i < width, mean.update[i]? = some
    ((states.map fun s => (s.samples.toNat : ℚ) * s.parameter i).sum / totalSamples states)
  /-- It lies between the least and the greatest of the parameters that have samples. -/
  between : ∀ i < width, ∃ m, mean.update[i]? = some m ∧
    ∃ low ∈ states, ∃ high ∈ states, low.samples ≠ 0 ∧ high.samples ≠ 0 ∧
      (∀ s ∈ states, s.samples ≠ 0 →
        low.parameter i ≤ s.parameter i ∧ s.parameter i ≤ high.parameter i) ∧
      low.parameter i ≤ m ∧ m ≤ high.parameter i
  /-- The order of the states does not matter. -/
  reordered : ∀ others : List (SharedState ℚ), others.Perm states → average others = .ok mean
  /-- States without samples can be left out, all of them or some. -/
  reduced : ∀ others : List (SharedState ℚ), others.Sublist states →
    others.filter (·.samples ≠ 0) = states.filter (·.samples ≠ 0) → average others = .ok mean
  /-- A state can be split into several ones that share its samples. -/
  split : ∀ before s after parts, states = before ++ s :: after →
    (∀ p ∈ parts, p.update = s.update) → totalSamples parts = s.samples.toNat →
      average (before ++ parts ++ after) = .ok mean
  /-- A single state is its own mean. -/
  single : ∀ s, states = [s] → mean.update = s.update

/-- **The weighted average is a weighted mean.** In exact arithmetic, states of one length with some
samples, not too many for a word, have an average, and it is their weighted mean. -/
theorem average_weighted_mean (shaped : ∀ s ∈ states, s.update.length = width)
    (counted : 0 < totalSamples states) (fits : totalSamples states < 2 ^ 64) :
    ∃ mean, average states = .ok mean ∧ IsWeightedMean states width mean := by
  have haverage := average_eq_means shaped counted fits
  have hsame {others : List (SharedState ℚ)} (hshaped : ∀ s ∈ others, s.update.length = width)
      (hsamples : totalSamples others = totalSamples states)
      (htotals : ∀ i, totalAt i others = totalAt i states) :=
    (average_eq_of_sums shaped counted fits hshaped hsamples htotals).trans haverage
  have hposition (i : Nat) (hi : i < width) :
      ((List.range width).map fun i => totalAt i states / totalSamples states)[i]? =
        some (totalAt i states / totalSamples states) := by
    rw [List.getElem?_map, List.getElem?_range hi, Option.map_some]
  refine ⟨_, haverage, ?_, hposition, ?_, ?_, ?_, ?_, ?_⟩
  · rw [List.length_map, List.length_range]
  · exact fun i hi => ⟨_, hposition i hi, exists_least_greatest counted i⟩
  · intro others hperm
    exact hsame (fun s hs => shaped s (hperm.subset hs)) (hperm.map _).sum_eq
      fun i => (hperm.map _).sum_eq
  · intro others hsub hfilter
    refine hsame (fun s hs => shaped s (hsub.subset hs)) ?_ fun i => ?_
    · rw [← totalSamples_filter_counted, hfilter, totalSamples_filter_counted]
    · rw [← totalAt_filter_counted, hfilter, totalAt_filter_counted]
  · rintro before s after parts rfl same adds
    have hlength := shaped s (List.mem_append_right _ (List.mem_cons_self ..))
    refine hsame (fun p hp => ?_) ?_ fun i => ?_
    · rcases List.mem_append.mp hp with hp | hp
      · rcases List.mem_append.mp hp with hp | hp
        · exact shaped p (List.mem_append_left _ hp)
        · rw [same p hp, hlength]
      · exact shaped p (List.mem_append_right _ (List.mem_cons_of_mem _ hp))
    · rw [List.append_cons, totalSamples_append, totalSamples_append, totalSamples_append,
        totalSamples_append, adds]
      simp [totalSamples]
    · rw [List.append_cons, totalAt_append, totalAt_append, totalAt_append, totalAt_append,
        totalAt_parts same adds]
  · rintro s rfl
    have hlength := shaped s (List.mem_singleton_self s)
    have hne : (s.samples.toNat : ℚ) ≠ 0 := by
      simpa [totalSamples] using Nat.ne_of_gt counted
    refine List.ext_getElem? fun i => ?_
    by_cases hi : i < width
    · rw [hposition i hi, SharedState.getElem?_update (by rwa [hlength])]
      simp only [totalAt, totalSamples, List.map_cons, List.map_nil, List.sum_singleton]
      rw [mul_div_cancel_left₀ _ hne]
    · rw [List.getElem?_eq_none (by simpa using hi),
        List.getElem?_eq_none (by rw [hlength]; exact Nat.not_lt.mp hi)]

/-- Two nodes with samples and one without. -/
def threeUpdates : List (SharedState ℚ) :=
  [⟨[3, 0], 20⟩, ⟨[100, -100], 0⟩, ⟨[6, 9], 40⟩]

/-- The node with twice as many samples counts twice, the node without samples not at all. -/
theorem average_weighted_mean_of_three :
    (∀ s ∈ threeUpdates, s.update.length = 2) ∧ 0 < totalSamples threeUpdates ∧
      totalSamples threeUpdates < 2 ^ 64 ∧ average threeUpdates = .ok ⟨[5, 6]⟩ := by
  have shaped : ∀ s ∈ threeUpdates, s.update.length = 2 := by decide
  have counted : 0 < totalSamples threeUpdates := by decide
  have fits : totalSamples threeUpdates < 2 ^ 64 := by decide
  have htwenty : (20 : UInt64).toNat = 20 := rfl
  have hforty : (40 : UInt64).toNat = 40 := rfl
  obtain ⟨⟨update⟩, haverage, hmean⟩ := average_weighted_mean shaped counted fits
  have hupdate : update = [5, 6] := by
    have hfirst := hmean.position 0 (by decide)
    have hsecond := hmean.position 1 (by decide)
    have hlength : update.length = 2 := hmean.length
    match update, hlength with
    | [x, y], _ =>
      norm_num [threeUpdates, SharedState.parameter, totalSamples, htwenty, hforty]
        at hfirst hsecond
      rw [hfirst, hsecond]
  exact ⟨shaped, counted, fits, hupdate ▸ haverage⟩

end Federation
