import SubscriptionVault.Contract.Areas
import SubscriptionVault.Contract.Entrypoints

/-!
# Coupons

A merchant creates a coupon under a code of its own choice and may revoke it; the subscriber of a
subscription binds it. Binding claims one of the redemptions before it writes anything else.
-/

namespace SubscriptionVault

open Exec

namespace State

def coupon (s : State) (code : Symbol) : Option Coupon := s.read (.persistent (.coupon code))

/-- `read_redemptions`. -/
def couponRedemptions (s : State) (code : Symbol) : Nat :=
  (s.read (.persistent (.couponRedemptions code))).getD 0

/-- The code bound to a subscription. -/
def boundCoupon (s : State) (id : Nat) : Option Symbol := s.read (.persistent (.subCoupon id))

def isCouponRedeemed (s : State) (id : Nat) (code : Symbol) : Bool :=
  (s.read (.persistent (.subCouponRedeemed id code))).isSome

end State

def Coupon.isExpired (coupon : Coupon) (now : Nat) : Prop :=
  0 < coupon.expiresAt ∧ coupon.expiresAt ≤ now

def Coupon.isUsedUp (coupon : Coupon) (redemptions : Nat) : Prop :=
  0 < coupon.maxRedemptions ∧ coupon.maxRedemptions ≤ redemptions

instance (coupon : Coupon) (now : Nat) : Decidable (coupon.isExpired now) :=
  inferInstanceAs (Decidable (_ ∧ _))

instance (coupon : Coupon) (redemptions : Nat) : Decidable (coupon.isUsedUp redemptions) :=
  inferInstanceAs (Decidable (_ ∧ _))

def writeCoupon (coupon : Coupon) : Vault Unit := store (.persistent (.coupon coupon.code)) coupon

/-- Although a fixed part of zero is documented as allowed, it is refused. -/
def createCoupon (merchant : Address) (code : Symbol) (token : Address) (percentOffBps : Nat)
    (fixedOff : Int) (maxRedemptions expiresAt : Nat) : Vault Unit := do
  requireAuth merchant
  failIf (10000 < percentOffBps) .invalidInput
  failIf (fixedOff ≤ 0) .invalidAmount
  let env ← ask
  failIf (0 < expiresAt ∧ expiresAt ≤ env.now) .invalidInput
  let found ← gets (·.coupon code)
  failIf found.isSome .couponAlreadyExists
  writeCoupon { code, merchant, token, percentOffBps, fixedOff, maxRedemptions, expiresAt,
                revoked := false }

def revokeCoupon (merchant : Address) (code : Symbol) : Vault Unit := do
  requireAuth merchant
  let found ← gets (·.coupon code)
  let coupon ← okOr found .couponNotFound
  failIf (coupon.merchant ≠ merchant) .unauthorized
  writeCoupon { coupon with revoked := true }

/-- The counter must still be what the caller has checked. -/
def casIncrementRedemptions (code : Symbol) (expected maxRedemptions : Nat) : Vault Unit := do
  let current ← gets (·.couponRedemptions code)
  failIf (current ≠ expected) .couponRedemptionLimitReached
  failIf (0 < maxRedemptions ∧ maxRedemptions ≤ current) .couponRedemptionLimitReached
  store (.persistent (.couponRedemptions code)) (saturatingAddU32 current 1)

def applyCoupon (subscriber : Address) (id : Nat) (code : Symbol) : Vault Unit := do
  requireAuth subscriber
  let sub ← getSubscription id
  failIf (sub.subscriber ≠ subscriber) .unauthorized
  let redeemed ← gets (·.isCouponRedeemed id code)
  failIf (redeemed = true) .replay
  let bound ← gets (·.boundCoupon id)
  failIf bound.isSome .couponAlreadyApplied
  let found ← gets (·.coupon code)
  let coupon ← okOr found .couponNotFound
  failIf (coupon.revoked = true) .couponRevoked
  let env ← ask
  failIf (coupon.isExpired env.now) .couponExpired
  let observed ← gets (·.couponRedemptions code)
  failIf (coupon.isUsedUp observed) .couponRedemptionLimitReached
  failIf (coupon.token ≠ sub.token) .couponTokenMismatch
  casIncrementRedemptions code observed coupon.maxRedemptions
  store (.persistent (.subCoupon id)) code
  store (.persistent (.subCouponRedeemed id code)) true

end SubscriptionVault
