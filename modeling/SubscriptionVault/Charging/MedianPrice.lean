import SubscriptionVault.Contract.Pricing
import SubscriptionVault.Framework.OrderStatistics

/-!
# The median price

A quote of the averaging oracle is the median of the fresh positive observations. Nothing about
it depends on their order, and whoever controls fewer than half of them cannot move it out of the
interval of the others.
-/

namespace SubscriptionVault

/-- The prices a quote goes by, in order. -/
def sortedPrices (env : Env) (config : OracleConfig) (observations : List OraclePrice) :
    List Nat :=
  (usableObservations env config observations).insertionSort (· ≤ ·)

section Median

variable {prices : List Nat}

theorem medianPrice_odd (hodd : prices.length % 2 = 1) :
    medianPrice prices = (prices.insertionSort (· ≤ ·)).getD (prices.length / 2) 0 := by
  unfold medianPrice
  dsimp only
  rw [List.length_insertionSort]
  exact if_neg (by omega)

/-- The halves and the parity correction add up to the rounded-down average. -/
theorem medianPrice_even (heven : prices.length % 2 = 0) :
    medianPrice prices = ((prices.insertionSort (· ≤ ·)).getD (prices.length / 2 - 1) 0 +
      (prices.insertionSort (· ≤ ·)).getD (prices.length / 2) 0) / 2 := by
  unfold medianPrice
  dsimp only
  rw [List.length_insertionSort]
  refine (if_pos heven).trans ?_
  omega

theorem medianPrice_of_perm {prices' : List Nat} (h : prices.Perm prices') :
    medianPrice prices = medianPrice prices' := by
  unfold medianPrice
  rw [insertionSort_of_perm h]

/-- With fewer than half of the prices outside an interval the median lies inside it. -/
theorem medianPrice_inside {a b : Nat}
    (hfew : 2 * prices.countP (fun price => price < a ∨ b < price) < prices.length) :
    a ≤ medianPrice prices ∧ medianPrice prices ≤ b := by
  have hlength := prices.length_insertionSort (· ≤ ·)
  have hcount := (prices.perm_insertionSort (· ≤ ·)).countP_eq
    (fun price => decide (price < a ∨ b < price))
  have hmiddle (i : Nat) (hlow : prices.length ≤ 2 * (i + 1)) (hhigh : 2 * i ≤ prices.length) :
      a ≤ (prices.insertionSort (· ≤ ·)).getD i 0 ∧
        (prices.insertionSort (· ≤ ·)).getD i 0 ≤ b := by
    have hi : i < (prices.insertionSort (· ≤ ·)).length := by omega
    rw [List.getD_eq_getElem _ _ hi]
    exact middle_of_few_outside (List.pairwise_insertionSort _ _) hi (by omega) (by omega)
      (by omega)
  rcases Nat.mod_two_eq_zero_or_one prices.length with heven | hodd
  · have hlow := hmiddle (prices.length / 2 - 1) (by omega) (by omega)
    have hhigh := hmiddle (prices.length / 2) (by omega) (by omega)
    rw [medianPrice_even heven]
    omega
  · rw [medianPrice_odd hodd]
    exact hmiddle (prices.length / 2) (by omega) (by omega)

end Median

section Quotes

variable {env : Env} {config : OracleConfig} {observations : List OraclePrice} {price : Nat}

theorem twapPrice_ok (h : twapPrice env config observations = .ok price) :
    usableObservations env config observations ≠ [] ∧
      price = medianPrice (usableObservations env config observations) := by
  unfold twapPrice at h
  dsimp only at h
  split at h
  · cases h
  split at h
  · cases h
  rename_i hsome
  split at h
  · cases h
  · exact ⟨hsome, (Except.ok.inj h).symm⟩

theorem usableObservations_of_perm {observations' : List OraclePrice}
    (env : Env) (config : OracleConfig)
    (h : observations.Perm observations') : (usableObservations env config observations).Perm
      (usableObservations env config observations') :=
  (h.filter _).map _

theorem twapPrice_of_perm {observations' : List OraclePrice} (h : observations.Perm observations') :
    twapPrice env config observations' = twapPrice env config observations := by
  have husable := usableObservations_of_perm env config h
  have hempty {α : Type} {l l' : List α} (hperm : l.Perm l') : l' = [] ↔ l = [] := by
    rw [← List.length_eq_zero_iff, ← List.length_eq_zero_iff, hperm.length_eq]
  have hnone := hempty h
  have hstale := hempty husable
  unfold twapPrice
  simp only [hnone, hstale, medianPrice_of_perm husable]

theorem usableObservations_bounds (hfits : ∀ obs ∈ observations, InI128 obs.price) {p : Nat}
    (hp : p ∈ usableObservations env config observations) : 0 < p ∧ p ≤ 2 ^ 127 - 1 := by
  obtain ⟨obs, hobs, rfl⟩ := List.mem_map.mp hp
  obtain ⟨hmem, hcounts⟩ := List.mem_filter.mp hobs
  have hpositive : 0 < obs.price := by
    simpa using (Bool.and_eq_true_iff.mp hcounts).2
  have hfits := hfits obs hmem
  unfold InI128 at hfits
  omega

/-- A quote is the middle of the fresh positive prices, or the rounded-down average of the two in
the middle; it is no larger than the largest `i128`, comes out the same for any order of the
observations, and stays inside every interval that fewer than half of the prices lie outside. -/
theorem twap_quote_median {oracle : Address} (hkind : config.kind = .twap)
    (horacle : config.oracle = some oracle)
    (hanswer : env.observations oracle (env.now - config.windowSecs) = some observations)
    (hfits : ∀ obs ∈ observations, InI128 obs.price)
    (hquote : dispatchPrice env config = some (.ok price)) :
    let sorted := sortedPrices env config observations
    0 < sorted.length ∧
      (sorted.length % 2 = 1 → price = sorted.getD (sorted.length / 2) 0) ∧
      (sorted.length % 2 = 0 →
        price = (sorted.getD (sorted.length / 2 - 1) 0 + sorted.getD (sorted.length / 2) 0) / 2) ∧
      0 < price ∧ price ≤ 2 ^ 127 - 1 ∧
      (∀ observations', observations.Perm observations' →
        twapPrice env config observations' = .ok price) ∧
      ∀ a b, 2 * (usableObservations env config observations).countP
          (fun p => p < a ∨ b < p) < (usableObservations env config observations).length →
        a ≤ price ∧ price ≤ b := by
  have hprice : twapPrice env config observations = .ok price := by
    unfold dispatchPrice at hquote
    rw [hkind] at hquote
    dsimp only at hquote
    split at hquote
    · cases Option.some.inj hquote
    rw [horacle] at hquote
    dsimp only at hquote
    rw [hanswer, Option.map_some] at hquote
    exact Option.some.inj hquote
  obtain ⟨hsome, rfl⟩ := twapPrice_ok hprice
  have hlength : (sortedPrices env config observations).length =
      (usableObservations env config observations).length := List.length_insertionSort _ _
  have hpos := List.length_pos_iff.mpr hsome
  have hnone : (usableObservations env config observations).countP
      (fun p => p < 1 ∨ 2 ^ 127 - 1 < p) = 0 := by
    refine List.countP_eq_zero.mpr fun p hp => ?_
    have hbounds := usableObservations_bounds hfits hp
    simp only [decide_eq_true_eq]
    omega
  obtain ⟨hpositive, hlargest⟩ := medianPrice_inside (a := 1) (b := 2 ^ 127 - 1)
    (show 2 * (usableObservations env config observations).countP _ < _ by omega)
  dsimp only
  rw [hlength]
  exact ⟨hpos, medianPrice_odd, medianPrice_even, hpositive, hlargest,
    fun observations' hperm => (twapPrice_of_perm hperm).trans hprice,
    fun a b hfew => medianPrice_inside hfew⟩

end Quotes

section Examples

/-- Four observations; one of them is 400 times the others. -/
private def sampledPrices : List OraclePrice := [⟨10, 95⟩, ⟨4000, 99⟩, ⟨13, 90⟩, ⟨12, 98⟩]

private def sampledEnv : Env := { sampleEnv 100 [] with observations := fun _ _ => sampledPrices }

private def sampledConfig : OracleConfig := ⟨true, some ⟨7⟩, 60, .twap, 60, 0, 0⟩

/-- The outlier does not move the quote out of the interval of the other three. -/
theorem twap_quote_resists : dispatchPrice sampledEnv sampledConfig = some (.ok 12) ∧
    10 ≤ 12 ∧ 12 ≤ 13 := by
  have hquote : dispatchPrice sampledEnv sampledConfig = some (.ok 12) := by decide
  obtain ⟨-, -, -, -, -, -, hinside⟩ :=
    twap_quote_median rfl rfl (show sampledEnv.observations ⟨7⟩ _ = some sampledPrices from rfl)
      (by decide) hquote
  exact ⟨hquote, hinside 10 13 (by decide)⟩

end Examples

end SubscriptionVault
