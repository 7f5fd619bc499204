import SubscriptionVault.Contract.Subscriptions

/-!
# Deposits and charges outside the billing engine

The three deposit paths, the grace-period buyout and the merchant's one-off charge.
-/

namespace SubscriptionVault

open Exec

/-! ## Deposits -/

def lifetimeCapRemaining (cap lifetimeCharged : Int) : Int := max (clampI128 (cap - lifetimeCharged)) 0

/-- What may still be deposited under the lifetime cap. -/
def Subscription.depositable (sub : Subscription) : Option Int :=
  sub.lifetimeCap.map fun cap =>
    clampI128 (lifetimeCapRemaining cap sub.lifetimeCharged - sub.prepaidBalance)

def enforceDepositCap (sub : Subscription) (deposit : Int) : Vault Unit :=
  failIf (sub.depositable.any (· < deposit)) .lifetimeCapReached

def enforceMinTopup (amount : Int) : Vault Unit := do
  let configured ← gets (·.minTopup)
  let minTopup ← lift configured
  failIf (amount < 0) .invalidAmount
  failIf (amount < minTopup) .belowMinimumTopup

def doDepositFunds (id : Nat) (amount : Int) (nonce : Option Nat) : Vault Unit := do
  let env ← ask
  let sub ← getSubscription id
  requireAuth sub.subscriber
  requireNotBlocklisted sub.subscriber
  whenSome nonce (checkAndAdvance sub.subscriber .depositFunds)
  failIf (sub.status = .cancelled) .invalidStatusTransition
  enforceMinTopup amount
  requireNotBlocklisted sub.merchant
  checkMerchantStatus sub.merchant ∅
  failIfExpired id sub
  enforceCreditLimitForDelta sub.subscriber sub.token amount
  enforceDepositCap sub amount
  let prepaidBalance ← lift (safeAddBalance sub.prepaidBalance amount)
  delete (.instanced (.chargeFailureCounter id))
  writeSubscription id { sub with prepaidBalance }
  transfer sub.token sub.subscriber env.host.contract amount
  addTotalAccounted sub.token amount

/-- The subscription after a deposit that covers the next charge again. -/
def Subscription.recovered (sub : Subscription) : Subscription :=
  if (sub.status = .insufficientBalance ∨ sub.status = .gracePeriod) ∧
      sub.amount ≤ sub.prepaidBalance then
    { sub with status := .active, graceStartTimestamp := none }
  else sub

/-- The grant is used up. Vacation and cancellation are not looked at. -/
def doDepositFundsOnBehalf (id : Nat) (payer : Address) (amount : Int) (nonce : Option Nat) :
    Vault Unit := do
  let env ← ask
  requireAuth payer
  whenSome nonce (checkAndAdvance payer .depositFunds)
  let sub ← getSubscription id
  let found ← load (.persistent (.delegatedPayerGrant sub.subscriber payer))
  let grant ← okOr found .delegatedPayerGrantNotFound
  failIf (grant.expiresAt ≤ env.now) .delegatedPayerGrantExpired
  failIf (grant.maxAmount < amount) .delegatedPayerAmountExceeded
  enforceMinTopup amount
  requireNotBlocklisted sub.subscriber
  requireNotBlocklisted sub.merchant
  let paused ← gets (·.merchantPaused sub.merchant)
  failIf paused .merchantPaused
  failIfExpired id sub
  enforceCreditLimitForDelta sub.subscriber sub.token amount
  enforceDepositCap sub amount
  let prepaidBalance ← lift (safeAddBalance sub.prepaidBalance amount)
  writeSubscription id { sub with prepaidBalance }
  delete (.persistent (.delegatedPayerGrant sub.subscriber payer))
  transfer sub.token payer env.host.contract amount
  addTotalAccounted sub.token amount
  writeSubscription id (Subscription.recovered { sub with prepaidBalance })

/-- One entry of a bulk deposit; the caller pays. The blocklist is read but not heeded. -/
def bulkDepositOne (caller : Address) (id : Nat) (amount : Int) : Vault Unit := do
  let env ← ask
  let sub ← getSubscription id
  failIf (amount < 0) .invalidAmount
  enforceMinTopup amount
  checkMerchantStatus sub.merchant ∅
  failIf (sub.isExpired env.now env.sequence) .subscriptionExpired
  enforceCreditLimitForDelta sub.subscriber sub.token amount
  enforceDepositCap sub amount
  let prepaidBalance ← lift (safeAddBalance sub.prepaidBalance amount)
  delete (.instanced (.chargeFailureCounter id))
  writeSubscription id { sub with prepaidBalance }
  transfer sub.token caller env.host.contract amount
  addTotalAccounted sub.token amount

/-- An entry that cannot be deposited is reported and skipped. -/
def bulkDepositItems (caller : Address) (entries : List (Nat × Int)) : Vault Unit :=
  forEach entries fun entry => do
    let _ ← attempt (bulkDepositOne caller entry.1 entry.2)
    pure ()

def doBulkDepositFunds (caller : Address) (entries : List (Nat × Int)) (nonce : Nat) :
    Vault Unit := do
  let proceed ← bulkPrecheck caller (entries.map Prod.fst) nonce
  when proceed (bulkDepositItems caller entries)

/-! ## Grace buyout -/

/-- The surcharge of a buyout on the charge it replaces. -/
def buyoutPremium (charge : Int) (premiumBps : Nat) : Except Error Int :=
  if 0 < premiumBps then (safeMul charge premiumBps).map (·.tdiv 10000) else .ok 0

/-- The caller need not be the subscription's subscriber, and no token is moved. -/
def doGraceBuyout (id : Nat) (subscriber : Address) (amount : Int) (key : Option BytesN32) :
    Vault (Int × Int) := do
  let env ← ask
  requireAuth subscriber
  let sub ← getSubscription id
  failIf (sub.status ≠ .gracePeriod) .notInGracePeriod
  let charge := sub.amount
  let premiumBps ← gets (·.buyoutPremiumBps)
  let premium ← lift (buyoutPremium charge premiumBps)
  let required ← lift (safeAdd charge premium)
  failIf (amount < required) .insufficientBalance
  let funded ← lift (safeAdd sub.prepaidBalance amount)
  let prepaidBalance ← lift (safeSubBalance funded charge)
  let lifetimeCharged ← lift (safeAdd sub.lifetimeCharged charge)
  writeSubscription id
    { sub with
      prepaidBalance
      lastPaymentTimestamp := max env.now sub.lastPaymentTimestamp
      lifetimeCharged
      status := .active
      graceStartTimestamp := none }
  let credit ← lift (safeAdd charge premium)
  creditMerchantBalanceForToken sub.merchant sub.token credit .interval
  require (sub.intervalSeconds ≠ 0)
  store (.instanced (.chargedPeriod id)) ((env.now - sub.startTime) / sub.intervalSeconds)
  appendStatement id charge sub.merchant sub.token .interval (env.now - sub.intervalSeconds)
    env.now
  recordIdemKey .chargeInterval id key
  pure (charge, premium)

/-! ## One-off charge -/

/-- The fee of a one-off charge is never converted. -/
def creditOneOffFee (token : Address) (fee : Int) (treasury : Option Address) : Vault Unit :=
  when (0 < fee) (whenSome treasury fun treasury =>
    creditMerchantBalanceForToken treasury token fee .oneOff)

/-- The checks of a one-off charge that is no replay. Over the cap the subscription is
cancelled, but the error that follows rolls that back. -/
def checkOneOff (id : Nat) (sub : Subscription) (merchant : Address) (amount : Int) :
    Vault Int := do
  failIf (sub.merchant ≠ merchant) .unauthorized
  when sub.capReached do
    when (sub.status ≠ .cancelled) (cancelCapped id sub)
    fail .lifetimeCapReached
  failIf (sub.status ≠ .active ∧ sub.status ≠ .paused) .notActive
  failIf (amount ≤ 0) .invalidAmount
  failIf (sub.prepaidBalance < amount) .insufficientPrepaidBalance
  let charged ← lift (safeAdd sub.lifetimeCharged amount)
  when (sub.lifetimeCap.any (· < charged)) do
    cancelCapped id sub
    fail .lifetimeCapReached
  pure charged

/-- The debited subscription is computed but never written. -/
def settleOneOff (id : Nat) (sub : Subscription) (charged amount : Int)
    (key : Option BytesN32) : Vault Unit := do
  let env ← ask
  let newBalance ← lift (safeSub sub.prepaidBalance amount)
  let debited := { sub with lifetimeCharged := charged, prepaidBalance := newBalance }
  let feeBps ← gets (·.protocolFeeBps)
  let treasury ← gets (·.treasury)
  let split ← lift (splitFee amount feeBps treasury)
  creditChargePayees id debited split.1 .oneOff
  routeToSubAccount debited split.1
  creditOneOffFee debited.token split.2 treasury
  let _ ← lift debited.cancelledWhenCapped
  appendStatement id amount debited.merchant debited.token .oneOff env.now env.now
  recordIdemKey .chargeOneoff id key

def doChargeOneOff (id : Nat) (merchant : Address) (amount : Int) (key : Option BytesN32) :
    Vault Unit := do
  let env ← ask
  requireAuth merchant
  let sub ← getSubscription id
  requireNotBlocklisted sub.subscriber
  requireNotBlocklisted sub.merchant
  checkSplitPayees id
  failIfExpired id sub
  let replayed ← gets (·.isReplayedKey env .chargeOneoff id key)
  when (replayed = false) do
    let charged ← checkOneOff id sub merchant amount
    settleOneOff id sub charged amount key

end SubscriptionVault
