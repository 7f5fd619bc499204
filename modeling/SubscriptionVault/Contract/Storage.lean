import SubscriptionVault.Contract.Types
import SubscriptionVault.Framework.FiniteStore

/-!
# Contract storage

`DataKey` lists the storage keys under the source's names, `SymbolKey` the entries the source
keys by a bare symbol. A key may live in the persistent or in the instance tier; the tier is
part of the slot, since configuration moves between the two with the schema version.

Two more kinds of slot surround the contract's own storage: the balances kept by token
contracts, and, for sub-accounts, the funds received in each token. The contract keeps one
number per sub-account whatever the token; the per-token record is a history variable that no
contract function reads.
-/

namespace SubscriptionVault

/-- The labels under which configuration changes are rate limited. -/
inductive ConfigLabel where
  | minTopup | gracePeriod | disputeWindowSecs | acceptedTokens | admin | protocolFee
  | feeToken | oracle | operator | emergencyStop
deriving DecidableEq

/-- The entrypoints that hold a reentrancy lock while they run. -/
inductive LockName where
  | operatorChargeSubscription | operatorChargeUsage | operatorChargeUsageWithRef
  | batchCharge | bulkCancelSubscriptions | bulkDepositFunds | depositFunds
  | depositFundsOnBehalf | graceBuyout | finalizeEmergencyWithdraw | withdrawSubscriberFunds
  | partialRefund | scheduleCancel | unscheduleCancel | initiateTransfer | acceptTransfer
  | vetoTransfer | chargeOneOff | chargeSubscription | chargeUsage | chargeUsageWithReference
  | withdrawMerchantFunds | withdrawMerchantTokenFunds | merchantRefund | flushPayouts
  | withdrawSubAccountFunds | openDispute | respondDispute | resolveDispute
  | claimCancellationEscrow
deriving DecidableEq

inductive DataKey where
  | merchantSubs (merchant : Address)
  | token
  | admin
  | minTopup
  | nextId
  | schemaVersion
  | sub (id : Nat)
  | chargedPeriod (id : Nat)
  | idemKey (id : Nat)
  | emergencyStop
  | merchantPaused (merchant : Address)
  | billingStatement (id sequence : Nat)
  | billingStatementsBySubscription (id : Nat)
  | billingRetentionConfig
  | billingStatementAggregate (id : Nat)
  | recovery (recoveryId : Bytes)
  | merchantConfig (merchant : Address)
  | merchantEarnings (merchant token : Address)
  | merchantTokens (merchant : Address)
  | usageLimits (id : Nat)
  | usageState (id : Nat)
  | gracePeriod
  | feeBps
  | treasury
  | acceptedTokens
  | tokenDecimals (token : Address)
  | nextPlanId
  | plan (planId : Nat)
  | subPlan (id : Nat)
  | planMaxActive (planId : Nat)
  | creditLimit (subscriber token : Address)
  | tokenSubs (token : Address)
  | subscriberSubs (subscriber : Address)
  | merchantBalance (merchant token : Address)
  | blocklist (address : Address)
  | oracle
  | billingPeriodSnapshot (id period : Nat)
  | billingPeriodSnapshotIndex (id : Nat)
  | adminNonce (signer : Address) (domain : Nat)
  | metadata (id : Nat) (key : HostString)
  | metadataKeys (id : Nat)
  | operator
  | billingStatementSequence (id : Nat)
  | merchantMaxSubs (merchant : Address)
  | guardians
  | nextProposalId
  | proposal (proposalId : Nat)
  | disputeEscrow (disputeId : Nat)
  | dispute (disputeId : Nat)
  | nextDisputeId
  | subscriptionDispute (id : Nat)
  | payoutSchedule (merchant : Address)
  | pendingTreasuryChange
  | transferIntent (id : Nat)
  | coupon (code : Symbol)
  | couponRedemptions (code : Symbol)
  | adminConfigLastChangedAt (label : ConfigLabel)
  | subscriberCreateCap
  | subscriberCreateWindow (subscriber : Address)
  | merchantWhitelistMode
  | merchantApproved (merchant : Address)
  | chargeSalt (id : Nat)
  | chargeFailureCounter (id : Nat)
  | autoPauseThreshold
  | buyoutPremiumBps
  | merchantVacation (merchant : Address)
  | subCoupon (id : Nat)
  | subCouponRedeemed (id : Nat) (code : Symbol)
  | merchantMultiSig (merchant : Address)
  | subscriberActiveCount (subscriber : Address)
  | subscriberActiveCapOverride (subscriber : Address)
  | feeToken
  | cancellationEscrow (id : Nat)
  | merchantFeeBps (merchant : Address)
  | delegatedPayerGrant (subscriber payer : Address)
  | splitPayees (id : Nat)
  | emergencyWithdrawIntent (id : Nat)
  | merchantSubAccount (merchant : Address) (label : Symbol)
  | merchantSubAccountList (merchant : Address)
  | disputeWindowSecs
  | usageChargeCapOverride (merchant : Address)
  | credential (id : Nat)
deriving DecidableEq

/-- The type of the value stored under a key. -/
def DataKey.Val : DataKey → Type
  | .merchantSubs _ | .tokenSubs _ | .subscriberSubs _ => List Nat
  | .token | .admin | .treasury | .operator | .feeToken => Address
  | .minTopup => Int
  | .nextId | .schemaVersion | .chargedPeriod _ | .gracePeriod | .feeBps => Nat
  | .sub _ => Subscription
  | .idemKey _ => IdemRingBuffer
  | .emergencyStop | .merchantPaused _ | .recovery _ | .usageChargeCapOverride _ => Bool
  | .billingStatement _ _ => BillingStatement
  | .billingStatementsBySubscription _ => List Nat
  | .billingRetentionConfig => BillingRetentionConfig
  | .billingStatementAggregate _ => BillingStatementAggregate
  | .merchantConfig _ => MerchantConfig
  | .merchantEarnings _ _ => TokenEarnings
  | .merchantTokens _ => List Address
  | .usageLimits _ => UsageLimits
  | .usageState _ => UsageState
  | .acceptedTokens => List Address
  | .tokenDecimals _ | .nextPlanId | .subPlan _ | .planMaxActive _ => Nat
  | .plan _ => PlanTemplate
  | .creditLimit _ _ | .merchantBalance _ _ => Int
  | .blocklist _ => Bytes
  | .oracle => OracleConfig
  | .billingPeriodSnapshot _ _ => BillingPeriodSnapshot
  | .billingPeriodSnapshotIndex _ => List Nat
  | .adminNonce _ _ | .billingStatementSequence _ | .merchantMaxSubs _ => Nat
  | .metadata _ _ => HostString
  | .metadataKeys _ => List HostString
  | .guardians => AddressMap Nat
  | .nextProposalId | .nextDisputeId | .subscriptionDispute _ => Nat
  | .proposal _ => Proposal
  | .disputeEscrow _ => DisputeEscrowLedger
  | .dispute _ => Dispute
  | .payoutSchedule _ => PayoutSchedule
  | .pendingTreasuryChange => PendingTreasuryChange
  | .transferIntent _ => TransferIntent
  | .coupon _ => Coupon
  | .couponRedemptions _ | .adminConfigLastChangedAt _ | .subscriberCreateCap => Nat
  | .subscriberCreateWindow _ => SubscriberCreateWindow
  | .merchantWhitelistMode | .merchantApproved _ | .subCouponRedeemed _ _ => Bool
  | .chargeSalt _ => BytesN32
  | .chargeFailureCounter _ | .autoPauseThreshold | .buyoutPremiumBps => Nat
  | .merchantVacation _ => MerchantVacation
  | .subCoupon _ => Symbol
  | .merchantMultiSig _ => MerchantMultiSigConfig
  | .subscriberActiveCount _ | .subscriberActiveCapOverride _ => Nat
  | .cancellationEscrow _ => CancellationEscrow
  | .merchantFeeBps _ | .disputeWindowSecs => Nat
  | .delegatedPayerGrant _ _ => DelegatedPayerGrant
  | .splitPayees _ => SplitPayees
  | .emergencyWithdrawIntent _ => EmergencyWithdrawIntent
  | .merchantSubAccount _ _ => Int
  | .merchantSubAccountList _ => List Symbol
  | .credential _ => CredentialBadge

/-- Instance entries keyed by a bare symbol, some together with further components. -/
inductive SymbolKey where
  | proposalCutoff
  | adminProposal
  | capDefault
  | merchCap (merchant : Address)
  | usageRef (id : Nat) (reference : Bytes)
  | idemTtl
  | batchNonceCtx
  | plan (planId : Nat)
deriving DecidableEq

def SymbolKey.Val : SymbolKey → Type
  | .proposalCutoff | .idemTtl | .batchNonceCtx => Nat
  | .adminProposal => AdminProposal
  | .capDefault | .merchCap _ => Int
  | .usageRef _ _ => Bool
  | .plan _ => PlanTemplate

inductive Slot where
  | persistent (key : DataKey)
  | instanced (key : DataKey)
  | symbol (key : SymbolKey)
  | lock (name : LockName)
  | tokenBalance (token holder : Address)
  | subAccountFunds (merchant : Address) (label : Symbol) (token : Address)
deriving DecidableEq

def Slot.Val : Slot → Type
  | .persistent key | .instanced key => key.Val
  | .symbol key => key.Val
  | .lock _ => Bool
  | .tokenBalance _ _ | .subAccountFunds _ _ _ => Int

/-! ## The type found at each key -/

section Typed

open DataKey

variable (id n : Nat) (a b : Address) (c : Symbol)

instance : Holds Val (merchantSubs a) (List Nat) := ⟨rfl⟩
instance : Holds Val token Address := ⟨rfl⟩
instance : Holds Val admin Address := ⟨rfl⟩
instance : Holds Val minTopup Int := ⟨rfl⟩
instance : Holds Val nextId Nat := ⟨rfl⟩
instance : Holds Val schemaVersion Nat := ⟨rfl⟩
instance : Holds Val (sub id) Subscription := ⟨rfl⟩
instance : Holds Val (chargedPeriod id) Nat := ⟨rfl⟩
instance : Holds Val (idemKey id) IdemRingBuffer := ⟨rfl⟩
instance : Holds Val emergencyStop Bool := ⟨rfl⟩
instance : Holds Val (merchantPaused a) Bool := ⟨rfl⟩
instance : Holds Val (billingStatement id n) BillingStatement := ⟨rfl⟩
instance : Holds Val (billingStatementsBySubscription id) (List Nat) := ⟨rfl⟩
instance : Holds Val billingRetentionConfig BillingRetentionConfig := ⟨rfl⟩
instance : Holds Val (billingStatementAggregate id) BillingStatementAggregate := ⟨rfl⟩
instance (r : Bytes) : Holds Val (recovery r) Bool := ⟨rfl⟩
instance : Holds Val (merchantConfig a) MerchantConfig := ⟨rfl⟩
instance : Holds Val (merchantEarnings a b) TokenEarnings := ⟨rfl⟩
instance : Holds Val (merchantTokens a) (List Address) := ⟨rfl⟩
instance : Holds Val (usageLimits id) UsageLimits := ⟨rfl⟩
instance : Holds Val (usageState id) UsageState := ⟨rfl⟩
instance : Holds Val gracePeriod Nat := ⟨rfl⟩
instance : Holds Val feeBps Nat := ⟨rfl⟩
instance : Holds Val treasury Address := ⟨rfl⟩
instance : Holds Val acceptedTokens (List Address) := ⟨rfl⟩
instance : Holds Val (tokenDecimals a) Nat := ⟨rfl⟩
instance : Holds Val nextPlanId Nat := ⟨rfl⟩
instance : Holds Val (plan n) PlanTemplate := ⟨rfl⟩
instance : Holds Val (subPlan id) Nat := ⟨rfl⟩
instance : Holds Val (planMaxActive n) Nat := ⟨rfl⟩
instance : Holds Val (creditLimit a b) Int := ⟨rfl⟩
instance : Holds Val (tokenSubs a) (List Nat) := ⟨rfl⟩
instance : Holds Val (subscriberSubs a) (List Nat) := ⟨rfl⟩
instance : Holds Val (merchantBalance a b) Int := ⟨rfl⟩
instance : Holds Val (blocklist a) Bytes := ⟨rfl⟩
instance : Holds Val oracle OracleConfig := ⟨rfl⟩
instance : Holds Val (billingPeriodSnapshot id n) BillingPeriodSnapshot := ⟨rfl⟩
instance : Holds Val (billingPeriodSnapshotIndex id) (List Nat) := ⟨rfl⟩
instance : Holds Val (adminNonce a n) Nat := ⟨rfl⟩
instance (k : HostString) : Holds Val (metadata id k) HostString := ⟨rfl⟩
instance : Holds Val (metadataKeys id) (List HostString) := ⟨rfl⟩
instance : Holds Val operator Address := ⟨rfl⟩
instance : Holds Val (billingStatementSequence id) Nat := ⟨rfl⟩
instance : Holds Val (merchantMaxSubs a) Nat := ⟨rfl⟩
instance : Holds Val guardians (AddressMap Nat) := ⟨rfl⟩
instance : Holds Val nextProposalId Nat := ⟨rfl⟩
instance : Holds Val (proposal n) Proposal := ⟨rfl⟩
instance : Holds Val (disputeEscrow n) DisputeEscrowLedger := ⟨rfl⟩
instance : Holds Val (dispute n) Dispute := ⟨rfl⟩
instance : Holds Val nextDisputeId Nat := ⟨rfl⟩
instance : Holds Val (subscriptionDispute id) Nat := ⟨rfl⟩
instance : Holds Val (payoutSchedule a) PayoutSchedule := ⟨rfl⟩
instance : Holds Val pendingTreasuryChange PendingTreasuryChange := ⟨rfl⟩
instance : Holds Val (transferIntent id) TransferIntent := ⟨rfl⟩
instance : Holds Val (coupon c) Coupon := ⟨rfl⟩
instance : Holds Val (couponRedemptions c) Nat := ⟨rfl⟩
instance (l : ConfigLabel) : Holds Val (adminConfigLastChangedAt l) Nat := ⟨rfl⟩
instance : Holds Val subscriberCreateCap Nat := ⟨rfl⟩
instance : Holds Val (subscriberCreateWindow a) SubscriberCreateWindow := ⟨rfl⟩
instance : Holds Val merchantWhitelistMode Bool := ⟨rfl⟩
instance : Holds Val (merchantApproved a) Bool := ⟨rfl⟩
instance : Holds Val (chargeSalt id) BytesN32 := ⟨rfl⟩
instance : Holds Val (chargeFailureCounter id) Nat := ⟨rfl⟩
instance : Holds Val autoPauseThreshold Nat := ⟨rfl⟩
instance : Holds Val buyoutPremiumBps Nat := ⟨rfl⟩
instance : Holds Val (merchantVacation a) MerchantVacation := ⟨rfl⟩
instance : Holds Val (subCoupon id) Symbol := ⟨rfl⟩
instance : Holds Val (subCouponRedeemed id c) Bool := ⟨rfl⟩
instance : Holds Val (merchantMultiSig a) MerchantMultiSigConfig := ⟨rfl⟩
instance : Holds Val (subscriberActiveCount a) Nat := ⟨rfl⟩
instance : Holds Val (subscriberActiveCapOverride a) Nat := ⟨rfl⟩
instance : Holds Val feeToken Address := ⟨rfl⟩
instance : Holds Val (cancellationEscrow id) CancellationEscrow := ⟨rfl⟩
instance : Holds Val (merchantFeeBps a) Nat := ⟨rfl⟩
instance : Holds Val (delegatedPayerGrant a b) DelegatedPayerGrant := ⟨rfl⟩
instance : Holds Val (splitPayees id) SplitPayees := ⟨rfl⟩
instance : Holds Val (emergencyWithdrawIntent id) EmergencyWithdrawIntent := ⟨rfl⟩
instance : Holds Val (merchantSubAccount a c) Int := ⟨rfl⟩
instance : Holds Val (merchantSubAccountList a) (List Symbol) := ⟨rfl⟩
instance : Holds Val disputeWindowSecs Nat := ⟨rfl⟩
instance : Holds Val (usageChargeCapOverride a) Bool := ⟨rfl⟩
instance : Holds Val (credential id) CredentialBadge := ⟨rfl⟩

instance : Holds SymbolKey.Val .proposalCutoff Nat := ⟨rfl⟩
instance : Holds SymbolKey.Val .adminProposal AdminProposal := ⟨rfl⟩
instance : Holds SymbolKey.Val .capDefault Int := ⟨rfl⟩
instance : Holds SymbolKey.Val (.merchCap a) Int := ⟨rfl⟩
instance (r : Bytes) : Holds SymbolKey.Val (.usageRef id r) Bool := ⟨rfl⟩
instance : Holds SymbolKey.Val .idemTtl Nat := ⟨rfl⟩
instance : Holds SymbolKey.Val .batchNonceCtx Nat := ⟨rfl⟩
instance : Holds SymbolKey.Val (.plan n) PlanTemplate := ⟨rfl⟩

instance {k : DataKey} {α : Type} [h : Holds Val k α] : Holds Slot.Val (.persistent k) α :=
  ⟨h.type_eq⟩
instance {k : DataKey} {α : Type} [h : Holds Val k α] : Holds Slot.Val (.instanced k) α :=
  ⟨h.type_eq⟩
instance {k : SymbolKey} {α : Type} [h : Holds SymbolKey.Val k α] :
    Holds Slot.Val (.symbol k) α := ⟨h.type_eq⟩
instance (l : LockName) : Holds Slot.Val (.lock l) Bool := ⟨rfl⟩
instance : Holds Slot.Val (.tokenBalance a b) Int := ⟨rfl⟩
instance : Holds Slot.Val (.subAccountFunds a c b) Int := ⟨rfl⟩

end Typed

/-- Everything the vault's operations can read or write. -/
abbrev State := FiniteStore Slot Slot.Val

end SubscriptionVault
