import SubscriptionVault.Contract.ChargeCore
import SubscriptionVault.Contract.Migration

/-!
# Subscription lifecycle

Creation with its limits and indexes, split payees, plans and caps, cancellation, and the ways
a subscriber gets money out again. Deposits and the merchant's one-off charge are in `Funding`.
-/

namespace SubscriptionVault

open Exec

def minSubscriptionInterval : Nat := 60
def maxSubscriptionInterval : Nat := 31536000
def secondsInDay : Nat := 86400

/-- Scans over all subscriptions are refused beyond this many. -/
def maxWritePathScanDepth : Nat := 5000

def validateSubscriptionAmount (amount : Int) : Vault Unit :=
  failIf (amount ≤ 0 ∨ maxSubscriptionAmount < amount) .invalidAmount

/-- A usage subscription may have no fixed part. -/
def validateSubscriptionAmountForCreate (amount : Int) (usageEnabled : Bool) : Vault Unit :=
  failIf (amount < 0 ∨ (amount = 0 ∧ usageEnabled = false) ∨ maxSubscriptionAmount < amount)
    .invalidAmount

def validateInterval (interval : Nat) : Vault Unit :=
  failIf (interval < minSubscriptionInterval ∨ maxSubscriptionInterval < interval) .invalidInput

/-! ## Limits on a subscriber -/

namespace State

def creditLimit (s : State) (subscriber token : Address) : Int :=
  (s.read (.instanced (.creditLimit subscriber token))).getD 0

def subscriberActiveCount (s : State) (subscriber : Address) : Nat :=
  (s.read (.instanced (.subscriberActiveCount subscriber))).getD 0

def subscriberActiveCap (s : State) (subscriber : Address) : Nat :=
  (s.read (.instanced (.subscriberActiveCapOverride subscriber))).getD 10

def merchantMaxSubs (s : State) (merchant : Address) : Nat :=
  (s.read (.instanced (.merchantMaxSubs merchant))).getD u32Max

/-- One subscription's share in a subscriber's exposure. -/
def addExposure (s : State) (subscriber token : Address) (exposure : Int) (id : Nat) :
    Except Error Int :=
  match s.subscription id with
  | none => .ok exposure
  | some sub =>
    if sub.subscriber ≠ subscriber ∨ sub.token ≠ token then .ok exposure
    else do
      let withPrepaid ← safeAdd exposure sub.prepaidBalance
      if sub.status = .active then safeAdd withPrepaid sub.amount else pure withPrepaid

def computeSubscriberExposure (s : State) (subscriber token : Address) : Except Error Int :=
  if maxWritePathScanDepth < s.nextSubscriptionId then .error .invalidInput
  else (List.range s.nextSubscriptionId).foldlM (s.addExposure subscriber token) 0

/-- A limit of zero is no limit. -/
def creditLimitForDelta (s : State) (subscriber token : Address) (additional : Int) :
    Except Error Unit :=
  if additional ≤ 0 ∨ s.creditLimit subscriber token = 0 then .ok ()
  else do
    let current ← s.computeSubscriberExposure subscriber token
    let exposure ← safeAdd current additional
    if s.creditLimit subscriber token < exposure then .error .creditLimitExceeded else pure ()

end State

def enforceCreditLimitForDelta (subscriber token : Address) (additional : Int) : Vault Unit := do
  let checked ← gets (·.creditLimitForDelta subscriber token additional)
  lift checked

def doSetSubscriberCreditLimit (admin subscriber token : Address) (limit : Int) : Vault Unit := do
  requireAdminAuth admin
  failIf (limit < 0) .invalidAmount
  store (.instanced (.creditLimit subscriber token)) limit

/-- The admin creates without limit; everybody else a number per day. -/
def enforceCreationRateLimit (subscriber : Address) : Vault Unit := do
  let env ← ask
  let admin ← gets (·.admin)
  when (admin ≠ some subscriber) do
    let stored ← load (.instanced .subscriberCreateCap)
    let cap := stored.getD 50
    failIf (cap = 0) .subscriberRateLimited
    let found ← load (.persistent (.subscriberCreateWindow subscriber))
    let window := found.getD ⟨env.now, 0⟩
    let current :=
      if wrapU64 (window.startTs + secondsInDay) ≤ env.now then ⟨env.now, 0⟩ else window
    failIf (cap ≤ current.count) .subscriberRateLimited
    store (.persistent (.subscriberCreateWindow subscriber))
      { current with count := current.count + 1 }

/-- The limits on live subscriptions of the merchant and of the subscriber. -/
def enforceSubscriptionCounts (subscriber merchant : Address) : Vault Unit := do
  let counts ← gets fun s : State => (s.merchantSubs merchant).length
  let maxSubs ← gets (·.merchantMaxSubs merchant)
  failIf (maxSubs ≤ counts) .maxConcurrentSubscriptionsReached
  let active ← gets (·.subscriberActiveCount subscriber)
  let cap ← gets (·.subscriberActiveCap subscriber)
  failIf (cap ≤ active) .maxConcurrentSubscriptionsReached

def setSubscriberActiveCount (subscriber : Address) (count : Nat) : Vault Unit :=
  store (.instanced (.subscriberActiveCount subscriber)) count

def incrementSubscriberActiveCount (subscriber : Address) : Vault Unit := do
  let count ← gets (·.subscriberActiveCount subscriber)
  setSubscriberActiveCount subscriber (saturatingAddU32 count 1)

def decrementSubscriberActiveCount (subscriber : Address) : Vault Unit := do
  let count ← gets (·.subscriberActiveCount subscriber)
  setSubscriberActiveCount subscriber (count - 1)

/-! ## Creation -/

/-- `resolve_cap`: the caller's cap, else the merchant's default, else the global one. -/
def State.resolveCap (s : State) (merchant : Address) (explicit : Option Int) : Option Int :=
  explicit.or ((s.read (.symbol (.merchCap merchant))).or (s.read (.symbol .capDefault)))

/-- What a caller asks for when creating a subscription. -/
structure NewSubscription where
  subscriber : Address
  merchant : Address
  token : Address
  amount : Int
  intervalSeconds : Nat
  usageEnabled : Bool
  lifetimeCap : Option Int
  expiresAt : Option Nat
  expiresAtLedger : Option Nat
  subAccountLabel : Option Symbol
  prorationEnabled : Bool

def NewSubscription.record (new : NewSubscription) (cap : Option Int) (now lastPayment : Nat) :
    Subscription where
  subscriber := new.subscriber
  merchant := new.merchant
  token := new.token
  amount := new.amount
  intervalSeconds := new.intervalSeconds
  lastPaymentTimestamp := lastPayment
  status := .active
  prepaidBalance := 0
  usageEnabled := new.usageEnabled
  lifetimeCap := cap
  lifetimeCharged := 0
  startTime := now
  expiresAt := new.expiresAt
  graceStartTimestamp := none
  cancelAt := none
  autoRenew := true
  autoRenewDisabledAt := none
  expiresAtLedger := new.expiresAtLedger
  subAccountLabel := new.subAccountLabel
  prorationEnabled := new.prorationEnabled
  autoPauseThreshold := 0

/-- Append an id to one of the index lists. -/
def pushIndex (key : DataKey) [Holds DataKey.Val key (List Nat)] (id : Nat) : Vault Unit := do
  let ids ← load (.instanced key)
  store (.instanced key) (ids.getD [] ++ [id])

/-- Take an id out of one of the index lists. -/
def dropIndex (key : DataKey) [Holds DataKey.Val key (List Nat)] (id : Nat) : Vault Unit := do
  let found ← load (.instanced key)
  whenSome found fun ids => when (id ∈ ids) (store (.instanced key) (ids.erase id))

def indexSubscription (id : Nat) (sub : Subscription) : Vault Unit := do
  pushIndex (.merchantSubs sub.merchant) id
  pushIndex (.tokenSubs sub.token) id
  pushIndex (.subscriberSubs sub.subscriber) id

def unindexSubscription (id : Nat) (sub : Subscription) : Vault Unit := do
  dropIndex (.merchantSubs sub.merchant) id
  dropIndex (.tokenSubs sub.token) id
  dropIndex (.subscriberSubs sub.subscriber) id

/-- Usage limits must have been configured by the merchant for the id to come. -/
def requireUsageLimits (id : Nat) (merchant : Address) : Vault Unit := do
  let limits ← load (.instanced (.usageLimits id))
  failIf (limits.all (·.merchant ≠ merchant)) .usageLimitsRequired

/-- Reject bounds that have passed already. -/
def validateExpiry (expiresAt expiresAtLedger : Option Nat) : Vault Unit := do
  let env ← ask
  failIf (expiresAt.any (· ≤ env.now)) .invalidExpiration
  failIf (expiresAtLedger.any (· ≤ env.sequence)) .invalidExpiration

def validateCap (cap : Option Int) (amount : Int) : Vault Unit := do
  failIf (cap.any (· ≤ 0)) .invalidAmount
  failIf (cap.any (· < amount)) .invalidInput

/-- The badge of a new subscription. -/
def issueCredential (id : Nat) : Vault Unit := do
  let env ← ask
  store (.persistent (.credential id))
    { subscriptionId := id, tier := 1, issuedAt := env.now, revoked := false }

def revokeCredential (id : Nat) : Vault Unit := do
  let found ← load (.persistent (.credential id))
  whenSome found fun credential =>
    when (credential.revoked = false)
      (store (.persistent (.credential id)) { credential with revoked := true })

def doCreateSubscriptionWithToken (new : NewSubscription) : Vault Nat := do
  let env ← ask
  requireAuth new.subscriber
  validateSubscriptionAmountForCreate new.amount new.usageEnabled
  requireNotBlocklisted new.subscriber
  requireNotBlocklisted new.merchant
  enforceCreationRateLimit new.subscriber
  enforceSubscriptionCounts new.subscriber new.merchant
  validateInterval new.intervalSeconds
  validateExpiry new.expiresAt new.expiresAtLedger
  let accepted ← gets (·.isTokenAccepted new.token)
  failIf (accepted = false) .invalidInput
  let cap ← gets (·.resolveCap new.merchant new.lifetimeCap)
  validateCap cap new.amount
  enforceCreditLimitForDelta new.subscriber new.token new.amount
  let id ← gets (·.nextSubscriptionId)
  when (new.usageEnabled = true) (requireUsageLimits id new.merchant)
  failIf (id = u32Max) .subscriptionLimitReached
  writeConfig .nextId (id + 1)
  writeSubscription id (new.record cap env.now env.now)
  incrementSubscriberActiveCount new.subscriber
  indexSubscription id (new.record cap env.now env.now)
  issueCredential id
  pure id

/-- The token is the contract's default one, whatever the request says. -/
def doCreateSubscription (new : NewSubscription) : Vault Nat := do
  validateSubscriptionAmountForCreate new.amount new.usageEnabled
  let token ← gets (·.defaultToken)
  let token ← lift token
  enforceCreditLimitForDelta new.subscriber token new.amount
  doCreateSubscriptionWithToken { new with token }

/-! ## Split payees -/

/-- Check the entries in order and add up their weights. -/
def checkSplitEntries : List (Address × Nat) → Nat → Vault Nat
  | [], total => pure total
  | (payee, weight) :: rest, total => do
    failIf (weight = 0) .invalidInput
    let sum ← okOr (checkedAddU32 total weight) .invalidInput
    requireNotBlocklisted payee
    checkSplitEntries rest sum

/-- The record for entries that are positive and add up to the whole. -/
def SplitPayees.of (id : Nat) (entries : List (Address × Nat)) : Except Error SplitPayees :=
  if h : (∀ entry ∈ entries, 0 < entry.2) ∧ (entries.map Prod.snd).sum = 10000 then
    .ok ⟨id, entries, h.1, h.2⟩
  else .error .invalidInput

def validateSplit (entries : List (Address × Nat)) : Vault Unit := do
  failIf (entries = []) .invalidInput
  let total ← checkSplitEntries entries 0
  failIf (total ≠ 10000) .invalidInput

def createSubscriptionWithSplit (new : NewSubscription) (entries : List (Address × Nat)) :
    Vault Nat := do
  validateSplit entries
  let id ← doCreateSubscription { new with expiresAtLedger := none, subAccountLabel := none }
  let split ← lift (SplitPayees.of id entries)
  store (.persistent (.splitPayees id)) split
  pure id

def updateSplitPayees (subscriber : Address) (id : Nat)
    (entries : Option (List (Address × Nat))) : Vault Unit := do
  requireAuth subscriber
  requireNotEmergencyStop
  let sub ← getSubscription id
  failIf (sub.subscriber ≠ subscriber) .unauthorized
  failIf (sub.status = .cancelled ∨ sub.status = .expired) .notActive
  match entries with
  | some entries => do
    validateSplit entries
    let split ← lift (SplitPayees.of id entries)
    store (.persistent (.splitPayees id)) split
  | none => delete (.persistent (.splitPayees id))

/-! ## Plans -/

def State.planTemplate (s : State) (planId : Nat) : Option PlanTemplate :=
  s.read (.instanced (.plan planId))

def PlanTemplate.effectiveTrialPeriodSeconds (plan : PlanTemplate) : Nat :=
  plan.trialPeriodSeconds.getD plan.trialSeconds

/-- The id of the next plan; the last one is used again. -/
def nextPlanId : Vault Nat := do
  let found ← load (.instanced .nextPlanId)
  let id := found.getD 0
  store (.instanced .nextPlanId) ((checkedAddU32 id 1).getD id)
  pure id

def doCreatePlanTemplate (merchant : Address) (amount : Int) (intervalSeconds : Nat)
    (usageEnabled : Bool) (lifetimeCap : Option Int) : Vault Nat := do
  requireAuth merchant
  validateSubscriptionAmount amount
  validateInterval intervalSeconds
  failIf (lifetimeCap.any (· ≤ 0)) .invalidAmount
  let token ← gets (·.defaultToken)
  let token ← lift token
  let planId ← nextPlanId
  store (.instanced (.plan planId))
    { merchant, token, amount, intervalSeconds, trialSeconds := 0, trialPeriodSeconds := none,
      usageEnabled, lifetimeCap, templateKey := planId, version := 1, isDisabled := false }
  pure planId

def doCreatePlanTemplateWithToken (merchant token : Address) (amount : Int)
    (intervalSeconds : Nat) (usageEnabled : Bool) (lifetimeCap : Option Int) : Vault Nat := do
  requireAuth merchant
  validateSubscriptionAmount amount
  validateInterval intervalSeconds
  let accepted ← gets (·.isTokenAccepted token)
  failIf (accepted = false) .invalidInput
  failIf (lifetimeCap.any (· ≤ 0)) .invalidAmount
  let planId ← nextPlanId
  store (.instanced (.plan planId))
    { merchant, token, amount, intervalSeconds, trialSeconds := 0, trialPeriodSeconds := none,
      usageEnabled, lifetimeCap, templateKey := planId, version := 1, isDisabled := false }
  pure planId

/-- A plan with a trial period; its amount has no upper bound here. -/
def doRegisterPlan (merchant : Address) (amount : Int) (intervalSeconds trialSeconds : Nat)
    (usageEnabled : Bool) (lifetimeCap : Option Int) : Vault Nat := do
  requireAuth merchant
  failIf (amount ≤ 0) .invalidAmount
  validateInterval intervalSeconds
  failIf (lifetimeCap.any (· ≤ 0)) .invalidAmount
  let token ← gets (·.defaultToken)
  let token ← lift token
  let planId ← nextPlanId
  store (.instanced (.plan planId))
    { merchant, token, amount, intervalSeconds, trialSeconds,
      trialPeriodSeconds := if 0 < trialSeconds then some trialSeconds else none
      usageEnabled, lifetimeCap, templateKey := planId, version := 1, isDisabled := false }
  pure planId

/-- The next version of a plan, which its subscriptions may migrate to. -/
def doUpdatePlanTemplate (merchant : Address) (planId : Nat) (amount : Int)
    (intervalSeconds : Nat) (usageEnabled : Bool) (lifetimeCap : Option Int) : Vault Nat := do
  requireAuth merchant
  validateSubscriptionAmount amount
  validateInterval intervalSeconds
  failIf (lifetimeCap.any (· ≤ 0)) .invalidAmount
  let found ← gets (·.planTemplate planId)
  let existing ← okOr found .notFound
  failIf (existing.merchant ≠ merchant) .forbidden
  failIf (usageEnabled ≠ existing.usageEnabled) .cannotChangeUsageMode
  let newPlanId ← nextPlanId
  let version ← okOr (checkedAddU32 existing.version 1) .overflow
  let trialPeriodSeconds := existing.trialPeriodSeconds.or
    (if 0 < existing.trialSeconds then some existing.trialSeconds else none)
  store (.instanced (.plan newPlanId))
    { existing with
      amount, intervalSeconds, trialPeriodSeconds, lifetimeCap, version, isDisabled := false }
  pure newPlanId

/-- The copy marked as disabled goes under a key of its own, which nothing reads. -/
def doDisablePlanTemplate (merchant : Address) (planId : Nat) : Vault Unit := do
  requireAuth merchant
  let found ← gets (·.planTemplate planId)
  let plan ← okOr found .notFound
  failIf (plan.merchant ≠ merchant) .forbidden
  when (plan.isDisabled = false)
    (store (.symbol (.plan planId)) { plan with isDisabled := true })

def doDeprecatePlan (merchant : Address) (planId : Nat) : Vault Unit := do
  requireAuth merchant
  let found ← gets (·.planTemplate planId)
  let plan ← okOr found .notFound
  failIf (plan.merchant ≠ merchant) .forbidden
  when (plan.isDisabled = false)
    (store (.instanced (.plan planId)) { plan with isDisabled := true })

def PlanTemplate.subscription (plan : PlanTemplate) (subscriber : Address)
    (label : Option Symbol) : NewSubscription where
  subscriber
  merchant := plan.merchant
  token := plan.token
  amount := plan.amount
  intervalSeconds := plan.intervalSeconds
  usageEnabled := plan.usageEnabled
  lifetimeCap := plan.lifetimeCap
  expiresAt := none
  expiresAtLedger := none
  subAccountLabel := label
  prorationEnabled := false

/-- A limit of zero is no limit. -/
def doSetPlanMaxActiveSubs (merchant : Address) (planId maxActive : Nat) : Vault Unit := do
  requireAuth merchant
  let found ← gets (·.planTemplate planId)
  let plan ← okOr found .notFound
  failIf (plan.merchant ≠ merchant) .forbidden
  store (.instanced (.planMaxActive planId)) maxActive

/-- Active subscriptions of the subscriber made from the plan. -/
def State.countActiveSubscriptionsForPlan (s : State) (subscriber : Address) (planId : Nat) :
    Except Error Nat :=
  if maxWritePathScanDepth < s.nextSubscriptionId then .error .invalidInput
  else .ok ((List.range s.nextSubscriptionId).countP fun id =>
    s.read (.instanced (.subPlan id)) = some planId &&
      (s.subscription id).any fun sub => sub.subscriber = subscriber && sub.status = .active)

def enforcePlanConcurrencyLimit (subscriber : Address) (planId : Nat) : Vault Unit := do
  let found ← load (.instanced (.planMaxActive planId))
  let maxActive := found.getD 0
  when (maxActive ≠ 0) do
    let counted ← gets (·.countActiveSubscriptionsForPlan subscriber planId)
    let current ← lift counted
    failIf (maxActive ≤ current) .maxConcurrentSubscriptionsReached

def doCreateSubscriptionFromPlan (subscriber : Address) (planId : Nat)
    (label : Option Symbol) : Vault Nat := do
  let env ← ask
  requireAuth subscriber
  requireNotBlocklisted subscriber
  enforceCreationRateLimit subscriber
  let found ← gets (·.planTemplate planId)
  let plan ← okOr found .notFound
  validateSubscriptionAmount plan.amount
  failIf plan.isDisabled .invalidInput
  enforceSubscriptionCounts subscriber plan.merchant
  enforceCreditLimitForDelta subscriber plan.token plan.amount
  enforcePlanConcurrencyLimit subscriber planId
  let id ← gets (·.nextSubscriptionId)
  let nextId ← okOr (checkedAddU32 id 1) .overflow
  writeConfig .nextId nextId
  let cap ← gets (·.resolveCap plan.merchant plan.lifetimeCap)
  let sub := (plan.subscription subscriber label).record cap env.now
    (saturatingAddU64 env.now plan.effectiveTrialPeriodSeconds)
  writeSubscription id sub
  incrementSubscriberActiveCount subscriber
  store (.instanced (.subPlan id)) planId
  indexSubscription id sub
  pure id

/-- The checks between the plan a subscription is on and the one it moves to. -/
def checkPlanMigration (sub : Subscription) (current new : PlanTemplate) : Vault Unit := do
  failIf (current.templateKey ≠ new.templateKey) .invalidInput
  failIf (new.version ≤ current.version) .invalidInput
  failIf (new.token ≠ sub.token) .invalidInput
  failIf (new.usageEnabled ≠ sub.usageEnabled) .cannotChangeUsageMode
  failIf (new.lifetimeCap.any (· < sub.lifetimeCharged)) .lifetimeCapReached

def doMigrateSubscriptionToPlan (subscriber : Address) (id newPlanId : Nat) : Vault Unit := do
  requireAuth subscriber
  requireNotBlocklisted subscriber
  let sub ← getSubscription id
  failIf (sub.subscriber ≠ subscriber) .forbidden
  let pinned ← load (.instanced (.subPlan id))
  let currentPlanId ← okOr pinned .invalidInput
  let found ← gets (·.planTemplate currentPlanId)
  let currentPlan ← okOr found .notFound
  let foundNew ← gets (·.planTemplate newPlanId)
  let newPlan ← okOr foundNew .notFound
  validateSubscriptionAmount newPlan.amount
  checkPlanMigration sub currentPlan newPlan
  writeSubscription id
    { sub with
      lifetimeCap := newPlan.lifetimeCap
      amount := newPlan.amount
      intervalSeconds := newPlan.intervalSeconds
      usageEnabled := newPlan.usageEnabled }
  store (.instanced (.subPlan id)) newPlanId

def doUpdateSubscriptionCap (admin : Address) (id : Nat) (newCap : Option Int) :
    Vault Unit := do
  requireAdminAuth admin
  failIf (newCap.any (· ≤ 0)) .invalidAmount
  let sub ← getSubscription id
  failIf (newCap.any (· < sub.lifetimeCharged)) .lifetimeCapReached
  writeSubscription id { sub with lifetimeCap := newCap }

/-! ## Cancellation -/

/-- The refund is the whole prepaid balance, paid out at once. -/
def applyCancellation (id : Nat) (sub : Subscription) : Vault Unit := do
  let status ← lift (transitionTo sub.status .cancelled)
  when (sub.status = .active) (decrementSubscriberActiveCount sub.subscriber)
  writeSubscription id { sub with status, prepaidBalance := 0 }
  when (0 < sub.prepaidBalance) do
    let env ← ask
    subTotalAccounted sub.token sub.prepaidBalance
    transfer sub.token env.host.contract sub.subscriber sub.prepaidBalance
  unindexSubscription id sub
  revokeCredential id

def doCancelSubscription (id : Nat) (authorizer : Address) : Vault Unit := do
  requireAuth authorizer
  let sub ← getSubscription id
  failIfExpired id sub
  failIf (authorizer ≠ sub.subscriber ∧ authorizer ≠ sub.merchant) .forbidden
  when (authorizer = sub.subscriber) (requireNotBlocklisted sub.subscriber)
  failIf (sub.status = .cancelled) .invalidStatusTransition
  applyCancellation id sub

def doScheduleCancel (id : Nat) (authorizer : Address) (cancelAt : Nat) : Vault Unit := do
  let env ← ask
  requireAuth authorizer
  failIf (cancelAt ≤ env.now) .invalidInput
  let sub ← getSubscription id
  failIf (authorizer ≠ sub.subscriber ∧ authorizer ≠ sub.merchant) .forbidden
  failIf (sub.status = .cancelled) .invalidStatusTransition
  failIfExpired id sub
  writeSubscription id { sub with cancelAt := some cancelAt }

/-! ## Batches run by the admin or the operator -/

def batchMaxSize : Nat := 100

/-- Whether the batch goes on. An empty batch uses no nonce. -/
def bulkPrecheck (caller : Address) (ids : List Nat) (nonce : Nat) : Vault Bool := do
  requireAdminOrOperatorAuth caller
  failIf (batchMaxSize < ids.length) .batchTooLarge
  if ids = [] then pure false
  else do
    checkAndAdvance caller .operatorBatchCharge nonce
    pure true

/-- A subscription that is missing, expired or cancelled already is skipped. -/
def bulkCancelOne (id : Nat) : Vault Unit := do
  let env ← ask
  let sub ← getSubscription id
  failIf (sub.isExpired env.now env.sequence) .subscriptionExpired
  when (sub.status ≠ .cancelled) (applyCancellation id sub)

def doBulkCancelSubscriptions (caller : Address) (ids : List Nat) (nonce : Nat) :
    Vault Unit := do
  let proceed ← bulkPrecheck caller ids nonce
  when proceed (forEach ids fun id => do
    let _ ← attempt (bulkCancelOne id)
    pure ())

/-! ## Money back to the subscriber -/

/-- Clear the prepaid balance and send it to the subscriber. -/
def refundPrepaid (id : Nat) (sub : Subscription) : Vault Unit := do
  let env ← ask
  writeSubscription id { sub with prepaidBalance := 0 }
  transfer sub.token env.host.contract sub.subscriber sub.prepaidBalance
  subTotalAccounted sub.token sub.prepaidBalance

def State.cancellationEscrow (s : State) (id : Nat) : Option CancellationEscrow :=
  s.read (.persistent (.cancellationEscrow id))

/-- The checks before an escrow is paid to the subscriber. -/
def requireReleasedEscrow (id : Nat) (escrow : CancellationEscrow) : Vault Unit := do
  let env ← ask
  failIf (env.now < escrow.releasedAt) .escrowNotReleased
  let dispute ← load (.instanced (.subscriptionDispute id))
  failIf dispute.isSome .disputeAlreadyOpen

def payEscrow (id : Nat) (escrow : CancellationEscrow) : Vault Unit := do
  let env ← ask
  delete (.persistent (.cancellationEscrow id))
  transfer escrow.token env.host.contract escrow.subscriber escrow.amount
  subTotalAccounted escrow.token escrow.amount

def doClaimCancellationEscrow (subscriber : Address) (id : Nat) : Vault Unit := do
  requireAuth subscriber
  let found ← gets (·.cancellationEscrow id)
  let escrow ← okOr found .escrowNotFound
  failIf (subscriber ≠ escrow.subscriber) .unauthorized
  requireReleasedEscrow id escrow
  payEscrow id escrow

/-- Without a prepaid balance a claimable escrow is paid instead. -/
def doWithdrawSubscriberFunds (id : Nat) (subscriber : Address) : Vault Unit := do
  let env ← ask
  requireAuth subscriber
  let sub ← getSubscription id
  failIf (subscriber ≠ sub.subscriber) .forbidden
  failIf (sub.status ≠ .cancelled ∧ sub.status ≠ .expired ∧ sub.status ≠ .archived ∧
    sub.isExpired env.now env.sequence = false) .invalidStatusTransition
  if 0 < sub.prepaidBalance then refundPrepaid id sub
  else do
    let found ← gets (·.cancellationEscrow id)
    let escrow ← okOr found .invalidAmount
    failIf (subscriber ≠ escrow.subscriber) .forbidden
    requireReleasedEscrow id escrow
    failIf (escrow.amount ≤ 0) .invalidAmount
    payEscrow id escrow

def doRequestEmergencyWithdraw (id : Nat) (subscriber : Address) : Vault Unit := do
  let env ← ask
  requireAuth subscriber
  let sub ← getSubscription id
  failIf (subscriber ≠ sub.subscriber) .forbidden
  failIf (sub.status ≠ .paused ∧ sub.status ≠ .cancelled) .emergencyWithdrawInvalidState
  failIf (sub.prepaidBalance ≤ 0) .invalidAmount
  let pending ← load (.persistent (.emergencyWithdrawIntent id))
  failIf pending.isSome .emergencyWithdrawCooldownActive
  store (.persistent (.emergencyWithdrawIntent id))
    { subscriptionId := id, requestedAt := env.now, requestedStatus := sub.status }

def emergencyWithdrawCooldown : Nat := 72 * 60 * 60

def doFinalizeEmergencyWithdraw (id : Nat) (subscriber : Address) : Vault Unit := do
  let env ← ask
  requireAuth subscriber
  let sub ← getSubscription id
  failIf (subscriber ≠ sub.subscriber) .forbidden
  let found ← load (.persistent (.emergencyWithdrawIntent id))
  let intent ← okOr found .emergencyWithdrawNotRequested
  failIf (sub.status ≠ intent.requestedStatus) .emergencyWithdrawStateChanged
  failIf (sub.status ≠ .paused ∧ sub.status ≠ .cancelled) .emergencyWithdrawInvalidState
  failIf (env.now < wrapU64 (intent.requestedAt + emergencyWithdrawCooldown))
    .emergencyWithdrawCooldownActive
  failIf (sub.prepaidBalance ≤ 0) .invalidAmount
  delete (.persistent (.emergencyWithdrawIntent id))
  refundPrepaid id sub

def doPartialRefund (admin : Address) (id : Nat) (subscriber : Address) (amount : Int) :
    Vault Unit := do
  let env ← ask
  requireAdminAuth admin
  failIf (amount ≤ 0) .invalidAmount
  let sub ← getSubscription id
  failIf (subscriber ≠ sub.subscriber) .unauthorized
  failIf (sub.prepaidBalance < amount) .insufficientBalance
  let newBalance ← lift (safeSub sub.prepaidBalance amount)
  writeSubscription id { sub with prepaidBalance := newBalance }
  transfer sub.token env.host.contract subscriber amount
  subTotalAccounted sub.token amount

end SubscriptionVault
