import SubscriptionVault.Contract.Host

/-!
# Areas of storage

Slots that are written for the same purpose form an area, whatever tier they live in. What an
operation may write is then a short list of areas, and whether one list covers another is
decided by computation.
-/

namespace SubscriptionVault

inductive Area where
  | records | periods | salts | numbering | activeCounts
  | merchantIndex | tokenIndex | subscriberIndex
  | balances | earnings | merchantTokens | subAccounts | subAccountLabels
  | disputes | escrows | tokens
  | statements | usage | idemKeys | failures | coupons
  | splits | plans | planLinks | transfers | grants | withdrawIntents | credentials
  | blocklist | nonces | locks | createWindows | schedules | merchants | settings
deriving DecidableEq

def DataKey.area : DataKey → Area
  | .sub _ => .records
  | .chargedPeriod _ => .periods
  | .chargeSalt _ => .salts
  | .nextId | .schemaVersion => .numbering
  | .subscriberActiveCount _ => .activeCounts
  | .merchantSubs _ => .merchantIndex
  | .tokenSubs _ => .tokenIndex
  | .subscriberSubs _ => .subscriberIndex
  | .merchantBalance _ _ => .balances
  | .merchantEarnings _ _ => .earnings
  | .merchantTokens _ => .merchantTokens
  | .merchantSubAccount _ _ => .subAccounts
  | .merchantSubAccountList _ => .subAccountLabels
  | .dispute _ | .disputeEscrow _ | .subscriptionDispute _ | .nextDisputeId => .disputes
  | .cancellationEscrow _ => .escrows
  | .billingStatement _ _ | .billingStatementsBySubscription _ | .billingStatementSequence _
  | .billingStatementAggregate _ | .billingPeriodSnapshot _ _ | .billingPeriodSnapshotIndex _ =>
    .statements
  | .usageLimits _ | .usageState _ => .usage
  | .idemKey _ => .idemKeys
  | .chargeFailureCounter _ => .failures
  | .coupon _ | .couponRedemptions _ | .subCoupon _ | .subCouponRedeemed _ _ => .coupons
  | .splitPayees _ => .splits
  | .nextPlanId | .plan _ | .planMaxActive _ => .plans
  | .subPlan _ => .planLinks
  | .transferIntent _ => .transfers
  | .delegatedPayerGrant _ _ => .grants
  | .emergencyWithdrawIntent _ => .withdrawIntents
  | .credential _ => .credentials
  | .blocklist _ => .blocklist
  | .adminNonce _ _ => .nonces
  | .subscriberCreateWindow _ => .createWindows
  | .payoutSchedule _ => .schedules
  | .merchantPaused _ | .merchantConfig _ | .merchantVacation _ | .merchantWhitelistMode
  | .merchantApproved _ | .merchantMultiSig _ | .merchantFeeBps _ | .merchantMaxSubs _
  | .usageChargeCapOverride _ => .merchants
  | _ => .settings

def SymbolKey.area : SymbolKey → Area
  | .usageRef _ _ => .usage
  | .batchNonceCtx => .nonces
  | .plan _ => .plans
  | _ => .settings

def Slot.area : Slot → Area
  | .persistent key | .instanced key => key.area
  | .symbol key => key.area
  | .lock _ => .locks
  | .tokenBalance _ _ => .tokens
  | .subAccountFunds _ _ _ => .subAccounts

/-- The slots of the listed areas. -/
def areas (l : List Area) : Set Slot := {k | l.contains k.area = true}

theorem areas_mono {l l' : List Area} (h : l.all l'.contains = true) : areas l ⊆ areas l' := by
  intro k hk
  have hmem : k.area ∈ l := List.contains_iff_mem.mp hk
  exact List.all_eq_true.mp h k.area hmem

/-- A slot of no listed area keeps its value. -/
theorem State.read_of_areas {l : List Area} {s t : State} {k : Slot} {α : Type}
    [Holds Slot.Val k α] (h : FiniteStore.AgreeOff (areas l) s t)
    (hk : l.contains k.area = false) : t.read k = s.read k := by
  refine h.read fun hmem => ?_
  have hin : l.contains k.area = true := hmem
  rw [hk] at hin
  cases hin

namespace Modifies

variable {α : Type} {l l' : List Area} {x : Vault α}

theorem widen (h : Modifies (areas l) x) (hsub : l.all l'.contains = true) :
    Modifies (areas l') x :=
  h.weaken (areas_mono hsub)

end Modifies

end SubscriptionVault
