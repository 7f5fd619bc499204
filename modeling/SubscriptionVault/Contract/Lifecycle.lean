import SubscriptionVault.Contract.Disputes
import SubscriptionVault.Contract.Funding

/-!
# Pausing, transferring and restoring subscriptions

What subscriber, merchant and admin can do to a subscription besides paying for it: pause and
resume, the renewal and expiry settings, archiving, the transfer to another subscriber, the
blocklist, and the restore of an exported snapshot.
-/

namespace SubscriptionVault

open Exec

/-! ## Settings -/

def requireParty (authorizer : Address) (sub : Subscription) : Vault Unit :=
  failIf (authorizer ≠ sub.subscriber ∧ authorizer ≠ sub.merchant) .forbidden

def doSetSubscriptionExpirationLedger (id : Nat) (authorizer : Address)
    (expiresAtLedger : Option Nat) : Vault Unit := do
  let env ← ask
  requireAuth authorizer
  let sub ← getSubscription id
  requireParty authorizer sub
  failIf (sub.status = .cancelled ∨ sub.status = .expired ∨ sub.status = .archived)
    .invalidStatusTransition
  failIf (expiresAtLedger.any (· ≤ env.sequence)) .invalidExpiration
  writeSubscription id { sub with expiresAtLedger }

def doUnscheduleCancel (id : Nat) (authorizer : Address) : Vault Unit := do
  requireAuth authorizer
  let sub ← getSubscription id
  requireParty authorizer sub
  failIf (sub.status = .cancelled) .invalidStatusTransition
  writeSubscription id { sub with cancelAt := none }

/-- One interval after auto-renewal was first disabled. -/
def Subscription.isInRenewalWindow (sub : Subscription) (now : Nat) : Bool :=
  sub.autoRenewDisabledAt.any fun disabledAt =>
    now < saturatingAddU64 disabledAt sub.intervalSeconds

/-- When auto-renewal is disabled; the first time counts. -/
def Subscription.disabledAt (sub : Subscription) (enabled : Bool) (now : Nat) : Option Nat :=
  if enabled = sub.autoRenew then sub.autoRenewDisabledAt
  else if enabled then none else some now

def doSetAutoRenew (id : Nat) (authorizer : Address) (enabled : Bool) : Vault Unit := do
  let env ← ask
  requireAuth authorizer
  let sub ← getSubscription id
  failIf (sub.status = .cancelled) .invalidStatusTransition
  failIf (sub.isExpired env.now env.sequence) .subscriptionExpired
  requireParty authorizer sub
  failIf (enabled = true ∧ sub.autoRenew = false ∧ sub.isInRenewalWindow env.now = false)
    .renewalWindowClosed
  writeSubscription id
    { sub with autoRenew := enabled, autoRenewDisabledAt := sub.disabledAt enabled env.now }

/-! ## Pause and resume -/

/-- The matrix also allows pausing an underfunded subscription. -/
def applyPause (id : Nat) (sub : Subscription) : Vault Unit := do
  let status ← lift (transitionTo sub.status .paused)
  writeSubscription id { sub with status }
  decrementSubscriberActiveCount sub.subscriber

def doPauseSubscription (id : Nat) (authorizer : Address) : Vault Unit := do
  requireAuth authorizer
  let sub ← getSubscription id
  failIfExpired id sub
  requireParty authorizer sub
  when (sub.status ≠ .paused) (applyPause id sub)

/-- Only a resume from the paused status counts the subscription again. -/
def applyResume (id : Nat) (sub : Subscription) : Vault Unit := do
  let status ← lift (transitionTo sub.status .active)
  writeSubscription id { sub with status }
  when (sub.status = .paused) (incrementSubscriberActiveCount sub.subscriber)

def doResumeSubscription (id : Nat) (authorizer : Address) : Vault Unit := do
  requireAuth authorizer
  let sub ← getSubscription id
  failIfExpired id sub
  requireParty authorizer sub
  when (authorizer = sub.subscriber) (requireNotBlocklisted sub.subscriber)
  when (sub.status ≠ .active) do
    failIf ((sub.status = .insufficientBalance ∨ sub.status = .gracePeriod) ∧
      sub.prepaidBalance < sub.amount) .insufficientBalance
    applyResume id sub

/-- A subscription that is missing or expired is skipped, like one already paused. -/
def bulkPauseOne (id : Nat) : Vault Unit := do
  let env ← ask
  let sub ← getSubscription id
  failIf (sub.isExpired env.now env.sequence) .subscriptionExpired
  when (sub.status ≠ .paused) (applyPause id sub)

def doBulkPauseSubscriptions (caller : Address) (ids : List Nat) (nonce : Nat) :
    Vault Unit := do
  let proceed ← bulkPrecheck caller ids nonce
  when proceed (forEach ids fun id => do
    let _ ← attempt (bulkPauseOne id)
    pure ())

/-! ## Archiving -/

/-- The status a finished subscription has just before it is archived. -/
def Subscription.closedStatus (sub : Subscription) (env : Env) :
    Except Error SubscriptionStatus :=
  if sub.status ≠ .cancelled ∧ sub.status ≠ .expired ∧
      sub.isExpired env.now env.sequence = true then transitionTo sub.status .expired
  else .ok sub.status

def doCleanupSubscription (id : Nat) (authorizer : Address) : Vault Unit := do
  let env ← ask
  requireAuth authorizer
  let sub ← getSubscription id
  failIf (sub.status ≠ .cancelled ∧ sub.isExpired env.now env.sequence = false)
    .invalidStatusTransition
  when (sub.status ≠ .archived) do
    let closed ← lift (sub.closedStatus env)
    let status ← lift (transitionTo closed .archived)
    writeSubscription id { sub with status }

/-! ## Transfer to another subscriber -/

def doInitiateTransfer (id : Nat) («from» «to» : Address) (expiresAt : Nat) : Vault Unit := do
  let env ← ask
  requireAuth «from»
  let sub ← getSubscription id
  failIf (sub.subscriber ≠ «from») .unauthorized
  failIf (sub.status = .cancelled) .invalidStatusTransition
  failIfExpired id sub
  failIf (expiresAt ≤ env.now) .invalidInput
  failIf («from» = «to») .invalidTransferTarget
  store (.instanced (.transferIntent id)) { subscriptionId := id, «from», «to», expiresAt }

/-- Statuses that use up one of a subscriber's places when a subscription is transferred. -/
def SubscriptionStatus.countsTowardActiveCap : SubscriptionStatus → Bool
  | .active | .gracePeriod | .insufficientBalance => true
  | _ => false

def requirePlace («to» : Address) : Vault Unit := do
  let active ← gets (·.subscriberActiveCount «to»)
  let cap ← gets (·.subscriberActiveCap «to»)
  failIf (cap ≤ active) .maxConcurrentSubscriptionsReached

def transferPlace («from» «to» : Address) : Vault Unit := do
  decrementSubscriberActiveCount «from»
  incrementSubscriberActiveCount «to»

/-- The sender named in the intent is not compared with the current subscriber. -/
def doAcceptTransfer (id : Nat) («to» : Address) : Vault Unit := do
  let env ← ask
  requireAuth «to»
  let found ← load (.instanced (.transferIntent id))
  let intent ← okOr found .transferIntentNotFound
  failIf (intent.to ≠ «to») .unauthorized
  failIf (intent.expiresAt ≤ env.now) .transferIntentExpired
  let sub ← getSubscription id
  delete (.instanced (.transferIntent id))
  let liability ← lift (safeAdd sub.prepaidBalance
    (if sub.status = .active then sub.amount else 0))
  enforceCreditLimitForDelta «to» sub.token liability
  when (sub.status.countsTowardActiveCap = true) (requirePlace «to»)
  dropIndex (.subscriberSubs sub.subscriber) id
  pushIndex (.subscriberSubs «to») id
  when (sub.status.countsTowardActiveCap = true) (transferPlace sub.subscriber «to»)
  writeSubscription id { sub with subscriber := «to» }

def doVetoTransfer (id : Nat) (merchant : Address) : Vault Unit := do
  requireAuth merchant
  let sub ← getSubscription id
  failIf (sub.merchant ≠ merchant) .unauthorized
  let found ← load (.instanced (.transferIntent id))
  failIf found.isNone .transferIntentNotFound
  delete (.instanced (.transferIntent id))

/-! ## Blocklist -/

def doAddToBlocklist (authorizer subscriber : Address) (reason : Bytes) : Vault Unit := do
  requireAdminAuth authorizer
  requireNotBlocklisted subscriber
  store (.persistent (.blocklist subscriber)) reason

namespace State

def subscriberSubs (s : State) (subscriber : Address) : List Nat :=
  (s.read (.instanced (.subscriberSubs subscriber))).getD []

/-- The subscription has a dispute that the admin has not answered. -/
def hasOpenDispute (s : State) (id : Nat) : Bool :=
  ((s.read (.instanced (.subscriptionDispute id))).bind s.dispute).any (·.status = .opened)

end State

def resumeAfterBlocklistRemoval (id : Nat) : Vault Unit := do
  let sub ← getSubscription id
  when (sub.status = .paused) (applyResume id sub)

/-- Every subscription in the index that is paused is resumed. -/
def resumeListed (id : Nat) : Vault Unit := do
  let found ← gets (·.subscription id)
  whenSome found fun sub => when (sub.status = .paused) (resumeAfterBlocklistRemoval id)

def doRemoveFromBlocklist (admin subscriber : Address) : Vault Unit := do
  requireAdminAuth admin
  let listed ← gets (·.isBlocklisted subscriber)
  failIf (listed = false) .notFound
  let ids ← gets (·.subscriberSubs subscriber)
  let disputed ← gets fun s : State => ids.any s.hasOpenDispute
  failIf disputed .subscriberHasOpenDisputes
  delete (.persistent (.blocklist subscriber))
  forEach ids resumeListed

/-! ## Delegated payers and usage limits -/

def doGrantDelegatedPayer (subscriber payer : Address) (expiresAt : Nat) (maxAmount : Int) :
    Vault Unit := do
  let env ← ask
  requireAuth subscriber
  failIf (expiresAt ≤ env.now) .invalidInput
  failIf (maxAmount ≤ 0) .invalidAmount
  failIf (payer = subscriber) .invalidInput
  store (.persistent (.delegatedPayerGrant subscriber payer))
    { subscriber, payer, expiresAt, maxAmount }

def doRevokeDelegatedPayer (subscriber payer : Address) : Vault Unit := do
  requireAuth subscriber
  let found ← load (.persistent (.delegatedPayerGrant subscriber payer))
  failIf found.isNone .delegatedPayerGrantNotFound
  delete (.persistent (.delegatedPayerGrant subscriber payer))

/-- For an id that does not exist yet the next one may be prepared. -/
def requireOwnUsageSubscription (id : Nat) (merchant : Address) : Vault Unit := do
  let env ← ask
  let found ← gets (·.effectiveSubscription id env.now)
  let next ← gets (·.nextSubscriptionId)
  failIf (found = none ∧ id ≠ next) .notFound
  failIf (found.any (·.merchant ≠ merchant)) .forbidden
  failIf (found.any (·.usageEnabled = false)) .usageNotEnabled

def doConfigureUsageLimits (id : Nat) (limits : UsageLimits) : Vault Unit := do
  requireAuth limits.merchant
  requireOwnUsageSubscription id limits.merchant
  failIf (limits.usageCapUnits.any (· ≤ 0)) .invalidAmount
  store (.instanced (.usageLimits id)) limits

/-! ## Snapshots -/

/-- A subscription as the export writes it. -/
structure SubscriptionSummary where
  subscriptionId : Nat
  subscriber : Address
  merchant : Address
  token : Address
  amount : Int
  intervalSeconds : Nat
  lastPaymentTimestamp : Nat
  status : SubscriptionStatus
  prepaidBalance : Int
  usageEnabled : Bool
  lifetimeCap : Option Int
  lifetimeCharged : Int
  startTime : Nat
  expiresAt : Option Nat
  expiresAtLedger : Option Nat

def SubscriptionSummary.record (summary : SubscriptionSummary) : Subscription where
  subscriber := summary.subscriber
  merchant := summary.merchant
  token := summary.token
  amount := summary.amount
  intervalSeconds := summary.intervalSeconds
  lastPaymentTimestamp := summary.lastPaymentTimestamp
  status := summary.status
  prepaidBalance := summary.prepaidBalance
  usageEnabled := summary.usageEnabled
  lifetimeCap := summary.lifetimeCap
  lifetimeCharged := summary.lifetimeCharged
  startTime := summary.startTime
  expiresAt := summary.expiresAt
  graceStartTimestamp := none
  cancelAt := none
  autoRenew := true
  autoRenewDisabledAt := none
  expiresAtLedger := summary.expiresAtLedger
  subAccountLabel := none
  prorationEnabled := false
  autoPauseThreshold := 0

structure MerchantBalanceEntry where
  merchant : Address
  token : Address
  amount : Int

/-- The next id after a restore, as far as the instance tier knows. -/
def nextIdAfter (current : Nat) (summaries : List SubscriptionSummary) : Nat :=
  summaries.foldl (fun next summary => max next (saturatingAddU32 summary.subscriptionId 1)) current

/-- The counter is raised in the instance tier, which is not the one creation reads from
schema version 3 on. -/
def restoreSnapshotPage (admin : Address) (summaries : List SubscriptionSummary)
    (balances : List MerchantBalanceEntry) : Vault Unit := do
  requireAdminAuth admin
  let stopped ← gets (·.emergencyStop)
  failIf (stopped = false) .recoveryNotAllowed
  let stored ← load (.instanced .nextId)
  let current := stored.getD 0
  forEach summaries fun summary => writeSubscription summary.subscriptionId summary.record
  forEach balances fun entry => setMerchantBalance entry.merchant entry.token entry.amount
  when (current < nextIdAfter current summaries)
    (store (.instanced .nextId) (nextIdAfter current summaries))

end SubscriptionVault
