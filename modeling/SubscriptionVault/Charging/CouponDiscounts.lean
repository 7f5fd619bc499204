import SubscriptionVault.Charging.FeeRates
import SubscriptionVault.Contract.Coupons
import SubscriptionVault.Contract.PartialArithmetic

/-!
# What a coupon leaves to pay

The percentage is taken off first, rounded down, then the fixed part, and nothing goes below zero.
Up to the largest subscription amount no product leaves its type, so the code computes exactly
this, and the payable amount is split into what the merchant gets and the fee without a rest.
-/

namespace SubscriptionVault

open Exec

/-! ## Discounts -/

/-- `create_coupon` takes a coupon of these values from somebody at some time. -/
def Coupon.Accepted (coupon : Coupon) : Prop :=
  ∃ env s t, (createCoupon coupon.merchant coupon.code coupon.token coupon.percentOffBps
    coupon.fixedOff coupon.maxRedemptions coupon.expiresAt).run env s = .ok () t

/-- `compute_discount` in a build with overflow checks; there is no result where it aborts. -/
def computeDiscountChecked (gross : Int) (coupon : Coupon) : Option Int := do
  let afterPct ←
    if 0 < coupon.percentOffBps then do
      let remaining ← subI128 10000 coupon.percentOffBps
      let product ← mulI128 gross remaining
      divI128 product 10000
    else some gross
  let afterFixed := max (clampI128 (afterPct - coupon.fixedOff)) 0
  some (clampI128 (gross - afterFixed))

/-- The amount a usable coupon leaves to pay, as `apply_discount_at_charge` computes it. -/
def Coupon.payable (coupon : Coupon) (gross : Int) : Int :=
  wrapI128 (gross - computeDiscount gross coupon)

/-- The share of the amount that the percentage leaves. -/
def afterPercentage (gross : Int) (percentOffBps : Nat) : Int :=
  gross * (10000 - percentOffBps) / 10000

/-- What a coupon should leave to pay. -/
def discounted (gross : Int) (percentOffBps : Nat) (fixedOff : Int) : Int :=
  max 0 (afterPercentage gross percentOffBps - fixedOff)

section Amounts

variable {gross larger fixedOff fixedOff' : Int} {percentOffBps percentOffBps' : Nat}
  {coupon : Coupon}

theorem Coupon.Accepted.terms (h : coupon.Accepted) :
    coupon.percentOffBps ≤ 10000 ∧ 0 < coupon.fixedOff := by
  obtain ⟨env, s, t, hrun⟩ := h
  obtain ⟨_, -, hrun⟩ := run_check_ok (Modifies.requireAuth _) hrun
  obtain ⟨_, hpercent, hrun⟩ := run_check_ok (.failIf _ _) hrun
  obtain ⟨_, hfixed, -⟩ := run_check_ok (.failIf _ _) hrun
  have hpercent := (run_failIf_ok.mp hpercent).1
  have hfixed := (run_failIf_ok.mp hfixed).1
  omega

theorem afterPercentage_bounds (hgross : 0 ≤ gross) (hpercent : percentOffBps ≤ 10000) :
    0 ≤ afterPercentage gross percentOffBps ∧ afterPercentage gross percentOffBps ≤ gross := by
  unfold afterPercentage
  have hproduct : 0 ≤ gross * (10000 - (percentOffBps : Int)) :=
    Int.mul_nonneg hgross (by omega)
  have hle : gross * (10000 - (percentOffBps : Int)) ≤ gross * 10000 :=
    Int.mul_le_mul_of_nonneg_left (by omega) hgross
  omega

theorem afterPercentage_mono (hle : gross ≤ larger) (hpercent : percentOffBps ≤ 10000) :
    afterPercentage gross percentOffBps ≤ afterPercentage larger percentOffBps := by
  apply Int.ediv_le_ediv (by decide)
  exact Int.mul_le_mul_of_nonneg_right hle (by omega)

theorem afterPercentage_anti (hgross : 0 ≤ gross) (hpercent : percentOffBps ≤ percentOffBps') :
    afterPercentage gross percentOffBps' ≤ afterPercentage gross percentOffBps := by
  apply Int.ediv_le_ediv (by decide)
  exact Int.mul_le_mul_of_nonneg_left (by omega) hgross

theorem discounted_mono (hle : gross ≤ larger) (hpercent : percentOffBps ≤ 10000) :
    discounted gross percentOffBps fixedOff ≤ discounted larger percentOffBps fixedOff := by
  have hshare := afterPercentage_mono hle hpercent
  unfold discounted
  omega

theorem discounted_anti (hgross : 0 ≤ gross) (hpercent : percentOffBps ≤ percentOffBps')
    (hfixed : fixedOff ≤ fixedOff') :
    discounted gross percentOffBps' fixedOff' ≤ discounted gross percentOffBps fixedOff := by
  have hshare := afterPercentage_anti hgross hpercent
  unfold discounted
  omega

/-- Up to the largest amount the product with a share fits. -/
theorem product_inI128 {share : Int} (hgross : 0 ≤ gross) (hmax : gross ≤ maxSubscriptionAmount)
    (hshare : 0 ≤ share) (hwhole : share ≤ 10000) : InI128 (gross * share) := by
  have hproduct : 0 ≤ gross * share := Int.mul_nonneg hgross hshare
  have hle : gross * share ≤ maxSubscriptionAmount * 10000 :=
    Int.mul_le_mul hmax hwhole hshare (by decide)
  have hlarge : maxSubscriptionAmount * 10000 < 2 ^ 127 := by decide
  unfold InI128
  omega

/-- The amount after the percentage, as the code has it. -/
theorem afterPct_eq (hgross : 0 ≤ gross) (hmax : gross ≤ maxSubscriptionAmount)
    (hpercent : percentOffBps ≤ 10000) :
    (if 0 < percentOffBps then (wrapI128 (gross * (10000 - percentOffBps))).tdiv 10000 else gross) =
      afterPercentage gross percentOffBps := by
  unfold afterPercentage
  by_cases hzero : percentOffBps = 0
  · subst hzero
    rw [if_neg (by decide)]
    omega
  · have hproduct : 0 ≤ gross * (10000 - (percentOffBps : Int)) :=
      Int.mul_nonneg hgross (by omega)
    have hfits := product_inI128 hgross hmax (show (0 : Int) ≤ 10000 - percentOffBps by omega)
      (by omega)
    rw [if_pos (Nat.pos_of_ne_zero hzero), wrapI128_of_inI128 hfits,
      Int.tdiv_eq_ediv_of_nonneg hproduct]

/-- Nothing is clamped but a fixed part above what is left. -/
theorem clamped_eq {share : Int} (hshare : 0 ≤ share) (hle : share ≤ gross)
    (hmax : gross ≤ maxSubscriptionAmount) (hfixed : 0 < fixedOff) :
    clampI128 (gross - max (clampI128 (share - fixedOff)) 0) =
      gross - max 0 (share - fixedOff) := by
  have hlarge : maxSubscriptionAmount < 2 ^ 127 - 1 := by decide
  unfold clampI128
  omega

/-- The discount is what is left off. -/
theorem computeDiscount_eq (hgross : 0 ≤ gross) (hmax : gross ≤ maxSubscriptionAmount)
    (hpercent : coupon.percentOffBps ≤ 10000) (hfixed : 0 < coupon.fixedOff) :
    computeDiscount gross coupon =
      gross - discounted gross coupon.percentOffBps coupon.fixedOff := by
  obtain ⟨hshare, hle⟩ := afterPercentage_bounds hgross hpercent
  unfold computeDiscount discounted
  simp only [afterPct_eq hgross hmax hpercent]
  exact clamped_eq hshare hle hmax hfixed

/-- A build with overflow checks computes the same discount. -/
theorem computeDiscountChecked_eq (hgross : 0 ≤ gross) (hmax : gross ≤ maxSubscriptionAmount)
    (hpercent : coupon.percentOffBps ≤ 10000) :
    computeDiscountChecked gross coupon = some (computeDiscount gross coupon) := by
  unfold computeDiscountChecked computeDiscount
  by_cases hzero : 0 < coupon.percentOffBps
  · have hremaining : InI128 (10000 - (coupon.percentOffBps : Int)) := by
      unfold InI128
      omega
    have hproduct := product_inI128 hgross hmax
      (show (0 : Int) ≤ 10000 - coupon.percentOffBps by omega) (by omega)
    rw [if_pos hzero, if_pos hzero, subI128_of_inI128 hremaining, wrapI128_of_inI128 hproduct]
    simp only [Option.bind_eq_bind, Option.bind_some, mulI128_of_inI128 hproduct,
      divI128_of_pos hproduct (show (0 : Int) < 10000 by decide)]
  · rw [if_neg hzero, if_neg hzero]
    rfl

theorem discounted_bounds (hgross : 0 ≤ gross) (hpercent : percentOffBps ≤ 10000)
    (hfixed : 0 < fixedOff) :
    0 ≤ discounted gross percentOffBps fixedOff ∧
      discounted gross percentOffBps fixedOff ≤ gross := by
  obtain ⟨hshare, hle⟩ := afterPercentage_bounds hgross hpercent
  unfold discounted
  omega

theorem Coupon.payable_eq (hgross : 0 ≤ gross) (hmax : gross ≤ maxSubscriptionAmount)
    (hpercent : coupon.percentOffBps ≤ 10000) (hfixed : 0 < coupon.fixedOff) :
    coupon.payable gross = discounted gross coupon.percentOffBps coupon.fixedOff := by
  obtain ⟨hnonneg, hle⟩ := discounted_bounds hgross hpercent hfixed
  have hlarge : maxSubscriptionAmount < 2 ^ 127 := by decide
  unfold Coupon.payable
  rw [computeDiscount_eq hgross hmax hpercent hfixed, Int.sub_sub_self]
  apply wrapI128_of_inI128
  unfold InI128
  omega

end Amounts

/-! ## Splitting what is left -/

/-- The rate's share, rounded down, but at least one unit. -/
def flooredFee (amount : Int) (feeBps : Nat) (treasury : Option Address) : Int :=
  if 0 < feeBps ∧ treasury.isSome then max (amount * feeBps / 10000) 1 else 0

/-- The amount is what the merchant gets together with the fee. -/
def SplitsExactly (amount : Int) (feeBps : Nat) (treasury : Option Address) : Prop :=
  ∃ net, splitFee amount feeBps treasury = .ok (net, flooredFee amount feeBps treasury) ∧
    amount = net + flooredFee amount feeBps treasury ∧ 0 ≤ net ∧
    0 ≤ flooredFee amount feeBps treasury

section Split

variable {amount : Int} {feeBps : Nat} {treasury : Option Address}

theorem protocolFee_eq_floored (hamount : 0 ≤ amount) (hmax : amount ≤ maxSubscriptionAmount)
    (hrate : feeBps ≤ 10000) :
    protocolFee amount feeBps treasury = flooredFee amount feeBps treasury := by
  have hproduct : 0 ≤ amount * (feeBps : Int) := Int.mul_nonneg hamount (by omega)
  have hfits := product_inI128 hamount hmax (show (0 : Int) ≤ feeBps by omega) (by omega)
  unfold protocolFee flooredFee
  rw [wrapI128_of_inI128 hfits, Int.tdiv_eq_ediv_of_nonneg hproduct]

/-- The fee is a part of a positive amount, so what it leaves for the merchant fits. -/
theorem splitFee_exact (hamount : 0 < amount) (hmax : amount ≤ maxSubscriptionAmount)
    (hrate : feeBps ≤ 10000) : SplitsExactly amount feeBps treasury := by
  obtain ⟨hnonneg, hle⟩ : 0 ≤ protocolFee amount feeBps treasury ∧ _ :=
    protocolFee_bounds hamount hrate
  have hfee : protocolFee amount feeBps treasury = _ :=
    protocolFee_eq_floored hamount.le hmax hrate
  have hlarge : maxSubscriptionAmount < 2 ^ 127 := by decide
  have hnet : safeSub amount (protocolFee amount feeBps treasury) =
      .ok (amount - protocolFee amount feeBps treasury) := by
    apply safeSub_ok.mpr ⟨rfl, _⟩
    unfold InI128
    omega
  have hsplit : splitFee amount feeBps treasury =
      .ok (amount - protocolFee amount feeBps treasury, protocolFee amount feeBps treasury) :=
    except_bind_ok.mpr ⟨_, hnet, rfl⟩
  rw [hfee] at hsplit hnonneg hle
  exact ⟨_, hsplit, by omega, by omega, hnonneg⟩

end Split

/-! ## Coupons on charges -/

/-- The discount on the amount is exact, stays within it, and what is left is split exactly. -/
structure DiscountExact (gross : Int) (coupon : Coupon) : Prop where
  checked : computeDiscountChecked gross coupon = some (computeDiscount gross coupon)
  applied : ∀ (s : State) id now token, s.couponForCharge id = some coupon →
    coupon.isUsable now token → s.payableAfterCoupon id now token gross = coupon.payable gross
  rest : coupon.payable gross = gross - computeDiscount gross coupon
  formula : coupon.payable gross =
    max 0 (gross * (10000 - coupon.percentOffBps) / 10000 - coupon.fixedOff)
  nonneg : 0 ≤ coupon.payable gross
  le : coupon.payable gross ≤ gross
  monotone : ∀ larger, gross ≤ larger → larger ≤ maxSubscriptionAmount →
    coupon.payable gross ≤ coupon.payable larger
  antitone : ∀ other : Coupon, other.Accepted → coupon.percentOffBps ≤ other.percentOffBps →
    coupon.fixedOff ≤ other.fixedOff → other.payable gross ≤ coupon.payable gross
  split : 0 < coupon.payable gross → ∀ feeBps ≤ 10000, ∀ treasury,
    SplitsExactly (coupon.payable gross) feeBps treasury
  charged : 0 < coupon.payable gross → ∀ start hist s, Deployed start → Run FeeStep start hist s →
    SplitsExactly (coupon.payable gross) s.protocolFeeBps s.treasury

section Exact

variable {gross : Int} {coupon : Coupon}

/-- No run takes the fee rate above its maximum. -/
theorem protocolFeeBps_le {start s : State} {hist : History FeeAction State}
    (hdeployed : Deployed start) (hrun : Run FeeStep start hist s) : s.protocolFeeBps ≤ 10000 := by
  have hinvariant : TreasuryInvariant hist s :=
    hrun.invariant hdeployed.treasury fun _ _ _ _ h hstep => h.step hstep
  have hcapped : s.protocolFeeBps ≤ 500 := hinvariant.capped
  omega

/-- A coupon that can be created leaves exactly what it says of every amount a subscription can
charge. -/
theorem coupon_discount_exact (hgross : 0 ≤ gross) (hmax : gross ≤ maxSubscriptionAmount)
    (haccepted : coupon.Accepted) : DiscountExact gross coupon := by
  obtain ⟨hpercent, hfixed⟩ := haccepted.terms
  have hpayable := Coupon.payable_eq hgross hmax hpercent hfixed
  obtain ⟨hnonneg, hle⟩ := discounted_bounds hgross hpercent hfixed
  have hwithin : coupon.payable gross ≤ maxSubscriptionAmount := by omega
  constructor
  case checked => exact computeDiscountChecked_eq hgross hmax hpercent
  case applied =>
    intro s id now token hcoupon husable
    unfold State.payableAfterCoupon
    rw [hcoupon]
    exact if_pos husable
  case rest =>
    rw [hpayable, computeDiscount_eq hgross hmax hpercent hfixed]
    omega
  case formula => exact hpayable
  case nonneg => rwa [hpayable]
  case le => rwa [hpayable]
  case monotone =>
    intro larger hlarger hfits
    rw [hpayable, Coupon.payable_eq (hgross.trans hlarger) hfits hpercent hfixed]
    exact discounted_mono hlarger hpercent
  case antitone =>
    intro other hother hmore hmoreFixed
    obtain ⟨hotherPercent, hotherFixed⟩ := hother.terms
    rw [hpayable, Coupon.payable_eq hgross hmax hotherPercent hotherFixed]
    exact discounted_anti hgross hmore hmoreFixed
  case split =>
    intro hpositive feeBps hrate treasury
    exact splitFee_exact hpositive hwithin hrate
  case charged =>
    intro hpositive start hist s hdeployed hrun
    exact splitFee_exact hpositive hwithin (protocolFeeBps_le hdeployed hrun)

private def quarterOff : Coupon := ⟨⟨5⟩, ⟨1⟩, ⟨9⟩, 2500, 1, 0, 0, false⟩

/-- A quarter and one unit off ten. -/
theorem coupon_discount_exact_quarter :
    DiscountExact 10 quarterOff ∧ quarterOff.payable 10 = 6 := by
  have haccepted : quarterOff.Accepted :=
    ⟨sampleEnv 0 [⟨1⟩], sampleStart 0, _, run_eq_after (by decide +kernel)⟩
  exact ⟨coupon_discount_exact (by decide) (by decide) haccepted, by decide⟩

end Exact

end SubscriptionVault
