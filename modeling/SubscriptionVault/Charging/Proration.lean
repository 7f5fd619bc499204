import SubscriptionVault.Contract.Pricing

/-!
# Proration

The product of an amount and a number of seconds need not fit 128 bits. The source divides the
amount by the interval first and works on quotient and remainder apart: one signed, the other
unsigned. Neither half can overflow and together they give the rounded-down product.
-/

namespace SubscriptionVault

def checkedMulU128 (a b : Nat) : Except Error Nat :=
  if a * b ≤ u128Max then .ok (a * b) else .error .overflow

/-- `calculate_prorated_first_charge` with the casts and the checks of its products. -/
def calculateProratedByParts (amount : Int) (interval remaining : Nat) : Except Error Int :=
  if amount < 0 then .error .invalidAmount
  else if interval = 0 then .error .invalidInput
  else if remaining = 0 then .ok 0
  else if interval ≤ remaining then .ok amount
  else do
    let whole ← safeMul (amount.tdiv interval) remaining
    let fractionalProduct ← checkedMulU128 (amount.tmod interval).toNat remaining
    let prorated ← safeAdd whole (wrapI128 (fractionalProduct / interval : Nat))
    pure (min prorated amount)

/-- The product over the unbounded integers, rounded down and at most the whole amount. -/
def proratedAmount (amount : Int) (interval seconds : Nat) : Int :=
  min amount (amount * seconds / interval)

section Parts

variable {amount : Int} {interval seconds : Nat}

/-- The parts of the quotient add up. -/
theorem prorated_parts (amount : Int) (seconds : Nat) (hinterval : 0 < interval) :
    amount / interval * seconds + amount % interval * seconds / interval =
      amount * seconds / interval := by
  have hpos : (interval : Int) ≠ 0 := by omega
  have hsplit : amount * seconds = amount % interval * seconds +
      amount / interval * seconds * interval := by
    calc amount * seconds
        = (amount % interval + interval * (amount / interval)) * seconds := by
          rw [Int.emod_add_mul_ediv]
      _ = amount % interval * seconds + amount / interval * seconds * interval := by ring
  rw [hsplit, Int.add_mul_ediv_right _ _ hpos, add_comm]

theorem fractional_lt (amount : Int) (hinterval : 0 < interval) (hseconds : seconds < interval) :
    0 ≤ amount % interval * seconds ∧ amount % interval * seconds < interval * interval := by
  have hpos : (0 : Int) < interval := by omega
  have hnonneg := Int.emod_nonneg amount hpos.ne'
  have hlt := Int.emod_lt_of_pos amount hpos
  have hsecs : (seconds : Int) ≤ interval := by omega
  constructor
  · exact Int.mul_nonneg hnonneg (Int.natCast_nonneg _)
  · calc amount % interval * seconds
        ≤ amount % interval * interval := Int.mul_le_mul_of_nonneg_left hsecs hnonneg
      _ < interval * interval := Int.mul_lt_mul_of_pos_right hlt hpos

theorem proratedAmount_nonneg (hamount : 0 ≤ amount) :
    0 ≤ proratedAmount amount interval seconds := by
  have hproduct : 0 ≤ amount * (seconds : Int) := Int.mul_nonneg hamount (Int.natCast_nonneg _)
  exact le_min hamount (Int.ediv_nonneg hproduct (Int.natCast_nonneg _))

theorem proratedAmount_le : proratedAmount amount interval seconds ≤ amount := min_le_left _ _

theorem quotient_le (hamount : 0 ≤ amount) (hinterval : 0 < interval)
    (hseconds : seconds ≤ interval) : amount * seconds / interval ≤ amount := by
  refine Int.ediv_le_of_le_mul (by omega) ?_
  exact Int.mul_le_mul_of_nonneg_left (by omega) hamount

theorem le_quotient (hamount : 0 ≤ amount) (hinterval : 0 < interval)
    (hseconds : interval ≤ seconds) : amount ≤ amount * seconds / interval := by
  refine Int.le_ediv_of_mul_le (by omega) ?_
  exact Int.mul_le_mul_of_nonneg_left (by omega) hamount

theorem proratedAmount_mono {amount' : Int} (hinterval : 0 < interval) (hamount : amount ≤ amount') :
    proratedAmount amount interval seconds ≤ proratedAmount amount' interval seconds := by
  refine min_le_min hamount (Int.ediv_le_ediv (by omega) ?_)
  exact Int.mul_le_mul_of_nonneg_right hamount (Int.natCast_nonneg _)

theorem proratedAmount_mono_seconds {seconds' : Nat} (hamount : 0 ≤ amount)
    (hinterval : 0 < interval) (hseconds : seconds ≤ seconds') :
    proratedAmount amount interval seconds ≤ proratedAmount amount interval seconds' := by
  refine min_le_min le_rfl (Int.ediv_le_ediv (by omega) ?_)
  exact Int.mul_le_mul_of_nonneg_left (by omega) hamount

theorem proratedAmount_eq_zero (hamount : 0 ≤ amount) (hinterval : 0 < interval) :
    proratedAmount amount interval seconds = 0 ↔ amount * seconds < interval := by
  have hpos : (0 : Int) < interval := by omega
  have hproduct : 0 ≤ amount * (seconds : Int) := Int.mul_nonneg hamount (Int.natCast_nonneg _)
  have hquotient : amount * seconds / interval = 0 ↔ amount * seconds < interval := by
    constructor
    · intro hzero
      have hlt := Int.lt_ediv_add_one_mul_self (amount * seconds) hpos
      rw [hzero] at hlt
      omega
    · intro hlt
      exact Int.ediv_eq_zero_of_lt hproduct hlt
  unfold proratedAmount
  rw [← hquotient]
  have hnonneg : 0 ≤ amount * seconds / (interval : Int) := Int.ediv_nonneg hproduct hpos.le
  constructor
  · intro hmin
    rcases min_choice amount (amount * seconds / interval) with hleft | hright
    · have hzero : amount = 0 := hleft.symm.trans hmin
      rw [hzero]
      simp
    · exact hright.symm.trans hmin
  · intro hzero
    rw [hzero]
    exact min_eq_right hamount

/-- Inside the interval the source computes the quotient without any of its checks failing. -/
theorem prorated_inside (hamount : 0 ≤ amount) (hfits : InI128 amount)
    (hinterval : interval ≤ u64Max) (hseconds : seconds < interval) :
    InI128 (amount / interval * seconds) ∧
      InI128 (amount / interval * seconds + amount % interval * seconds / interval) ∧
      (amount.tmod interval).toNat * seconds ≤ u128Max ∧
      wrapI128 ((amount.tmod interval).toNat * seconds / interval : Nat) =
        amount % interval * seconds / interval := by
  have hpos : 0 < interval := by omega
  obtain ⟨hproduct, hbound⟩ := fractional_lt amount hpos hseconds
  have hwhole : 0 ≤ amount / interval * (seconds : Int) :=
    Int.mul_nonneg (Int.ediv_nonneg hamount (Int.natCast_nonneg _)) (Int.natCast_nonneg _)
  have hfraction : 0 ≤ amount % interval * seconds / (interval : Int) :=
    Int.ediv_nonneg hproduct (Int.natCast_nonneg _)
  have hsum : amount / interval * seconds + amount % interval * seconds / interval ≤ amount := by
    rw [prorated_parts amount seconds hpos]
    exact quotient_le hamount hpos hseconds.le
  have hmod : ((amount.tmod interval).toNat : Int) = amount % interval := by
    rw [Int.tmod_eq_emod_of_nonneg hamount]
    exact Int.toNat_of_nonneg (Int.emod_nonneg amount (by omega))
  have hcast : (((amount.tmod interval).toNat * seconds / interval : Nat) : Int) =
      amount % interval * seconds / interval := by
    rw [Int.natCast_ediv, Int.natCast_mul, hmod]
  have hsmall : amount % interval * seconds / (interval : Int) ≤ u64Max := by
    have hlt : amount % interval * seconds / (interval : Int) < interval :=
      Int.ediv_lt_of_lt_mul (by omega) hbound
    omega
  unfold InI128 at hfits
  refine ⟨⟨by omega, by omega⟩, ⟨by omega, by omega⟩, ?_, ?_⟩
  · have hle : (interval : Int) * interval ≤ u64Max * u64Max :=
      Int.mul_le_mul (by omega) (by omega) (by omega) (by omega)
    have hsquare : (u64Max : Int) * u64Max ≤ u128Max := by decide
    have hnat : (((amount.tmod interval).toNat * seconds : Nat) : Int) < u128Max := by
      rw [Int.natCast_mul, hmod]
      omega
    omega
  · rw [hcast]
    have hlarge : (u64Max : Int) < 2 ^ 127 := by decide
    exact wrapI128_of_inI128 ⟨by omega, by omega⟩

theorem proratedAmount_zero (hamount : 0 ≤ amount) (hpos : 0 < interval) :
    proratedAmount amount interval 0 = 0 :=
  (proratedAmount_eq_zero hamount hpos).mpr (by simpa using hpos)

theorem proratedAmount_whole (hamount : 0 ≤ amount) (hpos : 0 < interval)
    (hlong : interval ≤ seconds) : proratedAmount amount interval seconds = amount :=
  min_eq_left (le_quotient hamount hpos hlong)

theorem calculateProratedByParts_eq (hamount : 0 ≤ amount) (hfits : InI128 amount)
    (hpos : 0 < interval) (hinterval : interval ≤ u64Max) :
    calculateProratedByParts amount interval seconds =
      .ok (proratedAmount amount interval seconds) := by
  unfold calculateProratedByParts
  rw [if_neg (by omega), if_neg (by omega)]
  by_cases hzero : seconds = 0
  · rw [if_pos hzero, hzero, proratedAmount_zero hamount hpos]
  rw [if_neg hzero]
  by_cases hlong : interval ≤ seconds
  · rw [if_pos hlong, proratedAmount_whole hamount hpos hlong]
  rw [if_neg hlong]
  obtain ⟨hwhole, hsum, hproduct, hwrap⟩ :=
    prorated_inside hamount hfits hinterval (Nat.lt_of_not_le hlong)
  have hmul : safeMul (amount.tdiv interval) seconds = .ok (amount / interval * seconds) := by
    rw [Int.tdiv_eq_ediv_of_nonneg hamount, safeMul, checkedI128, if_pos hwhole]
  have hproduct : checkedMulU128 (amount.tmod interval).toNat seconds =
      .ok ((amount.tmod interval).toNat * seconds) := if_pos hproduct
  have hadd : safeAdd (amount / interval * seconds) (amount % interval * seconds / interval) =
      .ok (amount * seconds / interval) := by
    rw [safeAdd, checkedI128, if_pos hsum, prorated_parts amount seconds hpos]
  refine except_bind_ok.mpr ⟨_, hmul, except_bind_ok.mpr ⟨_, hproduct, except_bind_ok.mpr ⟨_, ?_,
    congrArg Except.ok (min_comm _ _)⟩⟩⟩
  rw [hwrap]
  exact hadd

theorem calculateProratedFirstCharge_eq (hamount : 0 ≤ amount) (hfits : InI128 amount)
    (hpos : 0 < interval) (hinterval : interval ≤ u64Max) :
    calculateProratedFirstCharge amount interval seconds =
      .ok (proratedAmount amount interval seconds) := by
  unfold calculateProratedFirstCharge
  rw [if_neg (by omega), if_neg (by omega)]
  by_cases hzero : seconds = 0
  · rw [if_pos hzero, hzero, proratedAmount_zero hamount hpos]
  rw [if_neg hzero]
  by_cases hlong : interval ≤ seconds
  · rw [if_pos hlong, proratedAmount_whole hamount hpos hlong]
  rw [if_neg hlong]
  obtain ⟨hwhole, hsum, -, -⟩ :=
    prorated_inside hamount hfits hinterval (Nat.lt_of_not_le hlong)
  have hmul : safeMul (amount / interval) seconds = .ok (amount / interval * seconds) := by
    rw [safeMul, checkedI128, if_pos hwhole]
  have hadd : safeAdd (amount / interval * seconds) (amount % interval * seconds / interval) =
      .ok (amount * seconds / interval) := by
    rw [safeAdd, checkedI128, if_pos hsum, prorated_parts amount seconds hpos]
  exact except_bind_ok.mpr ⟨_, hmul, except_bind_ok.mpr ⟨_, hadd,
    congrArg Except.ok (min_comm _ _)⟩⟩

/-- Whatever the amount, the interval and the seconds, the source computes the rounded-down
product, and so does the model that has no check on its parts. -/
theorem prorated_first_charge_exact (hamount : 0 ≤ amount) (hfits : InI128 amount)
    (hpos : 0 < interval) (hinterval : interval ≤ u64Max) (seconds : Nat) :
    calculateProratedByParts amount interval seconds =
        .ok (proratedAmount amount interval seconds) ∧
      calculateProratedFirstCharge amount interval seconds =
        .ok (proratedAmount amount interval seconds) ∧
      0 ≤ proratedAmount amount interval seconds ∧
      proratedAmount amount interval seconds ≤ amount ∧
      (∀ amount', amount ≤ amount' →
        proratedAmount amount interval seconds ≤ proratedAmount amount' interval seconds) ∧
      (∀ seconds', seconds ≤ seconds' →
        proratedAmount amount interval seconds ≤ proratedAmount amount interval seconds') ∧
      (proratedAmount amount interval seconds = 0 ↔ amount * seconds < interval) := by
  refine ⟨calculateProratedByParts_eq hamount hfits hpos hinterval,
    calculateProratedFirstCharge_eq hamount hfits hpos hinterval, proratedAmount_nonneg hamount,
    proratedAmount_le, fun _ => proratedAmount_mono hpos, fun _ =>
    proratedAmount_mono_seconds hamount hpos, proratedAmount_eq_zero hamount hpos⟩

/-- A thousandth of the largest amount is not lost to rounding in between. -/
theorem prorated_first_charge_largest :
    calculateProratedByParts (2 ^ 127 - 1) 1000 1 = .ok ((2 ^ 127 - 1) / 1000) := by
  have hexact := (prorated_first_charge_exact (show (0 : Int) ≤ 2 ^ 127 - 1 by decide) (by decide)
    (show 0 < 1000 by decide) (by decide) 1).1
  rw [hexact]
  decide

end Parts

end SubscriptionVault
