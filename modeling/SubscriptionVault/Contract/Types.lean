import Mathlib

/-!
# Contract types

The records, enumerations and error codes of the vault contract, under the source's field
names. Unsigned machine integers are naturals, `i128` values are integers; the operations
that check or wrap live in `Arithmetic`. Event payloads are not modelled.
-/

namespace SubscriptionVault

/-- An account or contract address. Token contracts are named by their address. -/
structure Address where
  id : Nat
deriving DecidableEq

/-- A host map keyed by addresses. -/
abbrev AddressMap (α : Type) := AList fun _ : Address => α

/-- A 32-byte value: idempotency keys, salts and hashes. -/
structure BytesN32 where
  value : Nat
deriving DecidableEq

abbrev Bytes := List UInt8

/-- A host string: bytes of any content, with a length that fits 32 bits. -/
structure HostString where
  bytes : Bytes
  fits : bytes.length < 256 ^ 4
deriving DecidableEq

/-- A short host symbol. -/
structure Symbol where
  name : Nat
deriving DecidableEq

inductive SubscriptionStatus where
  | active
  | paused
  | cancelled
  | insufficientBalance
  | gracePeriod
  | expired
  | archived
deriving DecidableEq

structure Subscription where
  subscriber : Address
  merchant : Address
  token : Address
  amount : Int
  intervalSeconds : Nat
  lastPaymentTimestamp : Nat
  status : SubscriptionStatus
  prepaidBalance : Int
  usageEnabled : Bool
  lifetimeCap : Option Int
  lifetimeCharged : Int
  startTime : Nat
  expiresAt : Option Nat
  graceStartTimestamp : Option Nat
  cancelAt : Option Nat
  autoRenew : Bool
  autoRenewDisabledAt : Option Nat
  expiresAtLedger : Option Nat
  subAccountLabel : Option Symbol
  prorationEnabled : Bool
  autoPauseThreshold : Nat
deriving DecidableEq

/-- Either the wall-clock bound or the ledger-sequence bound is met. -/
def Subscription.isExpired (sub : Subscription) (currentTime currentLedger : Nat) : Bool :=
  sub.expiresAt.any (· ≤ currentTime) || sub.expiresAtLedger.any (· ≤ currentLedger)

/-- A badge that cannot be passed on. -/
structure CredentialBadge where
  subscriptionId : Nat
  tier : Nat
  issuedAt : Nat
  revoked : Bool
deriving DecidableEq

structure EmergencyWithdrawIntent where
  subscriptionId : Nat
  requestedAt : Nat
  requestedStatus : SubscriptionStatus
deriving DecidableEq

/-- Weights are basis points; both writers of this record check them. -/
structure SplitPayees where
  subscriptionId : Nat
  entries : List (Address × Nat)
  weight_pos : ∀ entry ∈ entries, 0 < entry.2
  total_weight : (entries.map Prod.snd).sum = 10000
deriving DecidableEq

structure TransferIntent where
  subscriptionId : Nat
  «from» : Address
  «to» : Address
  expiresAt : Nat
deriving DecidableEq

structure DelegatedPayerGrant where
  subscriber : Address
  payer : Address
  expiresAt : Nat
  maxAmount : Int
deriving DecidableEq

structure IdemRingBuffer where
  entries : List (BytesN32 × Nat)
  cursor : Nat
deriving DecidableEq

structure SubscriberCreateWindow where
  startTs : Nat
  count : Nat
deriving DecidableEq

structure UsageLimits where
  merchant : Address
  rateLimitMaxCalls : Option Nat
  rateWindowSecs : Nat
  burstMinIntervalSecs : Nat
  usageCapUnits : Option Int
deriving DecidableEq

structure UsageState where
  lastUsageTimestamp : Nat
  windowStartTimestamp : Nat
  windowCallCount : Nat
  currentPeriodUsageUnits : Int
  periodIndex : Nat
deriving DecidableEq

structure PlanTemplate where
  merchant : Address
  token : Address
  amount : Int
  intervalSeconds : Nat
  trialSeconds : Nat
  trialPeriodSeconds : Option Nat
  usageEnabled : Bool
  lifetimeCap : Option Int
  templateKey : Nat
  version : Nat
  isDisabled : Bool
deriving DecidableEq

/-! ## Merchants -/

structure AccruedTotals where
  interval : Int
  usage : Int
  oneOff : Int
deriving DecidableEq

structure TokenEarnings where
  accruals : AccruedTotals
  withdrawals : Int
  refunds : Int
deriving DecidableEq

structure MerchantConfig where
  version : Int
  payoutAddress : Address
  feeBips : Int
  allowedOperations : Int
  isActive : Bool
  feeAddress : Option Address
  redirectUrl : Bytes
  isPaused : Bool
  lastUpdated : Nat
deriving DecidableEq

structure MerchantMultiSigConfig where
  signers : List Address
  threshold : Nat
deriving DecidableEq

structure MerchantVacation where
  startTs : Nat
  endTs : Nat
deriving DecidableEq

structure PayoutSchedule where
  cadenceSeconds : Nat
  minPayout : Int
  lastPayoutAt : Nat
deriving DecidableEq

structure AcceptedToken where
  token : Address
  decimals : Nat
deriving DecidableEq

/-! ## Charging -/

inductive BillingChargeKind where
  | interval
  | usage
  | oneOff
deriving DecidableEq

inductive ChargeExecutionResult where
  | charged
  | insufficientBalance
  | lifetimeCapReached
  | scheduledCancellation
  | skipped
deriving DecidableEq

inductive UsageChargeResult where
  | charged
  | insufficientBalance
  | lifetimeCapReached
  | replay
  | burstLimitExceeded
  | rateLimitExceeded
  | usageCapExceeded
deriving DecidableEq

structure BillingStatement where
  subscriptionId : Nat
  sequence : Nat
  chargedAt : Nat
  periodStart : Nat
  periodEnd : Nat
  amount : Int
  merchant : Address
  token : Address
  kind : BillingChargeKind
deriving DecidableEq

structure BillingRetentionConfig where
  keepRecent : Nat
deriving DecidableEq

structure BillingStatementAggregate where
  prunedCount : Nat
  totalAmount : Int
  totals : AccruedTotals
  oldestPeriodStart : Option Nat
  newestPeriodEnd : Option Nat
deriving DecidableEq

structure BillingPeriodSnapshot where
  subscriptionId : Nat
  periodIndex : Nat
  periodStart : Nat
  periodEnd : Nat
  totalCharged : Int
  totalUsageUnits : Int
  statusFlags : Nat
  finalizedAt : Nat
deriving DecidableEq

structure BatchChargeResult where
  subscriptionId : Nat
  success : Bool
  errorCode : Nat
deriving DecidableEq

structure Coupon where
  code : Symbol
  merchant : Address
  token : Address
  percentOffBps : Nat
  fixedOff : Int
  maxRedemptions : Nat
  expiresAt : Nat
  revoked : Bool
deriving DecidableEq

inductive OracleKind where
  | spot
  | twap
  | fixedRate
deriving DecidableEq

structure OracleConfig where
  enabled : Bool
  oracle : Option Address
  maxAgeSeconds : Nat
  kind : OracleKind
  windowSecs : Nat
  fixedNumerator : Nat
  fixedDenominator : Nat
deriving DecidableEq

structure OraclePrice where
  price : Int
  timestamp : Nat
deriving DecidableEq

/-! ## Disputes and cancellation escrow -/

inductive DisputeStatus where
  | opened
  | responded
  | resolvedToMerchant
  | resolvedToSubscriber
deriving DecidableEq

inductive ResolutionTarget where
  | subscriber
  | merchant
deriving DecidableEq

structure Dispute where
  id : Nat
  subscriptionId : Nat
  subscriber : Address
  merchant : Address
  amount : Int
  openedAt : Nat
  status : DisputeStatus
  evidenceHash : Option BytesN32
  respondedAt : Option Nat
  adminEvidenceHash : Option BytesN32
deriving DecidableEq

structure DisputeEscrowLedger where
  originalAmount : Int
  totalDisbursed : Int
deriving DecidableEq

structure CancellationEscrow where
  subscriptionId : Nat
  amount : Int
  token : Address
  subscriber : Address
  merchant : Address
  releasedAt : Nat
deriving DecidableEq

/-! ## Administration and governance -/

inductive ProposalKind where
  | rotateAdmin
  | setProtocolFee
  | upgradeContract
  | emergencyStop
  | recoverStrandedFunds
  | addAcceptedToken
  | removeAcceptedToken
  | setDisputeWindow
  | setOracleConfig
deriving DecidableEq

structure Proposal where
  id : Nat
  kind : ProposalKind
  target : Address
  target2 : Option Address
  target3 : Nat
  quorumBps : Nat
  votes : AddressMap Bool
  eta : Nat
  submittedAt : Nat
  executed : Bool
deriving DecidableEq

structure AdminProposal where
  newAdmin : Address
  proposedAt : Nat
  expiresAt : Nat
deriving DecidableEq

structure PendingTreasuryChange where
  newTreasury : Address
  newFeeBps : Nat
  effectiveAt : Nat
deriving DecidableEq

/-- The contract's error codes. -/
inductive Error where
  | unauthorized | forbidden | subscriberBlocklisted | selfRotation | nonceAlreadyUsed
  | batchTooLarge | notFound | notInitialized | invalidAmount | invalidInput
  | invalidRecoveryAmount | invalidNewAdmin | metadataKeyTooLong | metadataValueTooLong
  | oraclePriceInvalid | invalidExpiration | oracleDeviationTooHigh | protocolFeeTooHigh
  | selfReferralNotAllowed | invalidStatusTransition | notActive | subscriptionExpired
  | intervalNotElapsed | replay | recoveryNotAllowed | emergencyStopActive
  | alreadyInitialized | merchantPaused | reentrancy | timelockNotElapsed | notInGracePeriod
  | emergencyWithdrawInvalidState | vacationActive | usageLimitsRequired
  | insufficientBalance | insufficientPrepaidBalance | belowMinimumTopup | underflow
  | overflow | oracleNotConfigured | oraclePriceUnavailable | oraclePriceStale
  | subscriptionLimitReached | lifetimeCapReached | usageNotEnabled | invalidExportLimit
  | metadataKeyLimitReached | maxConcurrentSubscriptionsReached | creditLimitExceeded
  | rateLimitExceeded | usageCapExceeded | burstLimitExceeded | couponNotFound
  | couponExpired | couponRedemptionLimitReached | couponRevoked | couponAlreadyExists
  | couponAlreadyApplied | couponTokenMismatch | subscriberRateLimited | idemBufferFull
  | invalidFeeBips | invalidOperations | mustAllowChargeOperation | merchantNotApproved
  | unknownMerchantTag | duplicateMerchantTag | merchantTagLimitExceeded
  | invalidTokenDecimals | invalidToken | cannotChangeUsageMode | schemaMigrationDowngrade
  | schemaVersionMismatch | schemaMigrationVerificationFailed | disputeNotFound
  | disputeAlreadyResolved | disputeNotResponded | disputeWindowElapsed | disputeAlreadyOpen
  | disputeAlreadyResponded | disputeOverpay | subscriberHasOpenDisputes
  | disputeAmountExceedsMerchantBalance | transferIntentNotFound | transferIntentExpired
  | invalidTransferTarget | cooldownActive | emergencyWithdrawCooldownActive
  | emergencyWithdrawNotRequested | emergencyWithdrawStateChanged | renewalWindowClosed
  | delegatedPayerGrantNotFound | delegatedPayerGrantExpired | delegatedPayerAmountExceeded
  | proposalNotFound | proposalExpired | invalidClaimant | proposalAlreadyExists
  | noActiveProposal | proposalCooldownActive | proposalInvalidated | governanceRequired
  | escrowNotFound | escrowNotReleased | multiSigApprovalRequired | multiSigProposalNotFound
  | multiSigQuorumNotReached | multiSigProposalExpired
deriving DecidableEq

/-- The numeric code a batch item reports. -/
def Error.toCode : Error → Nat
  | .unauthorized => 1001 | .forbidden => 1002 | .subscriberBlocklisted => 1003
  | .selfRotation => 1004 | .nonceAlreadyUsed => 1005 | .batchTooLarge => 1006
  | .notFound => 2001 | .notInitialized => 2002
  | .invalidAmount => 3001 | .invalidInput => 3002 | .invalidRecoveryAmount => 3003
  | .invalidNewAdmin => 3004 | .metadataKeyTooLong => 3005 | .metadataValueTooLong => 3006
  | .oraclePriceInvalid => 3007 | .invalidExpiration => 3008
  | .oracleDeviationTooHigh => 3009 | .protocolFeeTooHigh => 3010
  | .selfReferralNotAllowed => 3011
  | .invalidStatusTransition => 4001 | .notActive => 4002 | .subscriptionExpired => 4003
  | .intervalNotElapsed => 4004 | .replay => 4005 | .recoveryNotAllowed => 4006
  | .emergencyStopActive => 4007 | .alreadyInitialized => 4008 | .merchantPaused => 4009
  | .reentrancy => 4010 | .timelockNotElapsed => 4011 | .notInGracePeriod => 4013
  | .emergencyWithdrawInvalidState => 4015 | .vacationActive => 4014
  | .usageLimitsRequired => 4016
  | .insufficientBalance => 5001 | .insufficientPrepaidBalance => 5002
  | .belowMinimumTopup => 5003 | .underflow => 5004 | .overflow => 5005
  | .oracleNotConfigured => 5006 | .oraclePriceUnavailable => 5007 | .oraclePriceStale => 5008
  | .subscriptionLimitReached => 6001 | .lifetimeCapReached => 6002 | .usageNotEnabled => 6003
  | .invalidExportLimit => 6004 | .metadataKeyLimitReached => 6005
  | .maxConcurrentSubscriptionsReached => 6006 | .creditLimitExceeded => 6007
  | .rateLimitExceeded => 6008 | .usageCapExceeded => 6009 | .burstLimitExceeded => 6010
  | .couponNotFound => 6011 | .couponExpired => 6012 | .couponRedemptionLimitReached => 6013
  | .couponRevoked => 6014 | .couponAlreadyExists => 6015 | .couponAlreadyApplied => 6016
  | .couponTokenMismatch => 6017 | .subscriberRateLimited => 6018 | .idemBufferFull => 6019
  | .invalidFeeBips => 7001 | .invalidOperations => 7002 | .mustAllowChargeOperation => 7003
  | .merchantNotApproved => 7004 | .unknownMerchantTag => 7005
  | .duplicateMerchantTag => 7006 | .merchantTagLimitExceeded => 7007
  | .invalidTokenDecimals => 8001 | .invalidToken => 8002
  | .cannotChangeUsageMode => 9001 | .schemaMigrationDowngrade => 9101
  | .schemaVersionMismatch => 9102 | .schemaMigrationVerificationFailed => 9103
  | .disputeNotFound => 10001 | .disputeAlreadyResolved => 10002
  | .disputeNotResponded => 10003 | .disputeWindowElapsed => 10004
  | .disputeAlreadyOpen => 10005 | .disputeAlreadyResponded => 10006
  | .disputeOverpay => 10007 | .subscriberHasOpenDisputes => 10008
  | .disputeAmountExceedsMerchantBalance => 10009
  | .transferIntentNotFound => 11001 | .transferIntentExpired => 11002
  | .invalidTransferTarget => 11003
  | .cooldownActive => 12001 | .emergencyWithdrawCooldownActive => 12003
  | .emergencyWithdrawNotRequested => 12004 | .emergencyWithdrawStateChanged => 12005
  | .renewalWindowClosed => 12002
  | .delegatedPayerGrantNotFound => 13001 | .delegatedPayerGrantExpired => 13002
  | .delegatedPayerAmountExceeded => 13003
  | .proposalNotFound => 14001 | .proposalExpired => 14002 | .invalidClaimant => 14003
  | .proposalAlreadyExists => 14004 | .noActiveProposal => 14005
  | .proposalCooldownActive => 14006 | .proposalInvalidated => 14007
  | .governanceRequired => 14008
  | .escrowNotFound => 13004 | .escrowNotReleased => 13005
  | .multiSigApprovalRequired => 15001 | .multiSigProposalNotFound => 15002
  | .multiSigQuorumNotReached => 15003 | .multiSigProposalExpired => 15004

end SubscriptionVault
