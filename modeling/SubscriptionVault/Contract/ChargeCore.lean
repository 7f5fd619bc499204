import SubscriptionVault.Contract.Pricing

/-!
# Charging a subscription

The interval charge, the usage charge and the batch. Both charges check first, credit the
payees and the treasury next, and write the debited subscription afterwards. A batch catches
the error of an item together with what the item wrote before it failed.

The time a charge is given is always the ledger's, so it is read from the environment.
-/

namespace SubscriptionVault

open Exec

/-! ## Checks in front of a charge -/

/-- Pause and vacation of merchants already looked up in a batch. -/
abbrev MerchantCache := AddressMap (Bool × Bool)

def State.cachedMerchantStatus (s : State) (cache : MerchantCache) (merchant : Address)
    (now : Nat) : Bool × Bool :=
  (cache.lookup merchant).getD (s.merchantStatus merchant now)

def checkMerchantStatus (merchant : Address) (cache : MerchantCache) : Vault Unit := do
  let env ← ask
  let status ← gets (·.cachedMerchantStatus cache merchant env.now)
  failIf status.1 .merchantPaused
  failIf status.2 .vacationActive

def checkPayee (payee : Address) : Vault Unit := do
  requireNotBlocklisted payee
  checkMerchantStatus payee ∅

def checkSplitPayees (id : Nat) : Vault Unit := do
  let split ← gets (·.splitPayees id)
  whenSome split fun split => forEach split.entries fun entry => checkPayee entry.1

/-- An expired subscription is marked as such before the error is returned. -/
def failIfExpired (id : Nat) (sub : Subscription) : Vault Unit := do
  let env ← ask
  when (sub.isExpired env.now env.sequence) do
    when (sub.status ≠ .expired) do
      let status ← lift (transitionTo sub.status .expired)
      writeSubscription id { sub with status }
    fail .subscriptionExpired

def cancelCapped (id : Nat) (sub : Subscription) : Vault Unit := do
  let status ← lift (transitionTo sub.status .cancelled)
  writeSubscription id { sub with status }

/-- Auto-renewal is off and the interval has elapsed. -/
def Subscription.renewalClosed (sub : Subscription) (now : Nat) : Except Error Bool :=
  if sub.autoRenew then .ok false
  else (nextChargeTime sub.lastPaymentTimestamp sub.intervalSeconds).map fun next => next ≤ now

/-! ## Crediting -/

/-- One payee's part of the merchant amount. -/
def splitShare (net : Int) (weight : Nat) : Int := (wrapI128 (net * weight)).tdiv 10000

/-- Credit every listed payee its share; the sum of the shares is returned. -/
def creditShares (token : Address) (net : Int) (kind : BillingChargeKind) :
    List (Address × Nat) → Int → Vault Int
  | [], total => pure total
  | (payee, weight) :: rest, total => do
    let distributed ← lift (safeAdd total (splitShare net weight))
    creditMerchantBalanceForToken payee token (splitShare net weight) kind
    creditShares token net kind rest distributed

/-- The first payee gets what rounding leaves over. -/
def creditChargePayees (id : Nat) (sub : Subscription) (net : Int) (kind : BillingChargeKind) :
    Vault Unit := do
  let split ← gets (·.splitPayees id)
  match split.map (·.entries) with
  | none => creditMerchantBalanceForToken sub.merchant sub.token net kind
  | some [] => pure ()
  | some ((first, _) :: others) => do
    let distributed ← creditShares sub.token net kind others 0
    creditMerchantBalanceForToken first sub.token (wrapI128 (net - distributed)) kind

/-- The merchant amount moves on to the sub-account the subscription names. -/
def routeToSubAccount (sub : Subscription) (net : Int) : Vault Unit :=
  whenSome sub.subAccountLabel fun label => do
    creditSubAccount sub.merchant label sub.token net
    let parent ← gets (·.merchantBalance sub.merchant sub.token)
    let newParent ← lift (safeSub parent net)
    setMerchantBalance sub.merchant sub.token newParent

/-- The protocol fee of an interval or usage charge, in the fee token if one is configured. -/
def creditProtocolFee (token : Address) (fee : Int) (treasury : Option Address)
    (kind : BillingChargeKind) : Vault Unit :=
  when (0 < fee) do
    let env ← ask
    let converted ← gets (·.convertFee env token fee)
    let conversion ← unwrap converted
    whenSome treasury fun treasury =>
      creditMerchantBalanceForToken treasury (conversion.targetToken.getD token)
        conversion.effectiveAmount kind

/-! ## Interval charge -/

/-- Administration values read once for a whole batch. -/
structure CachedAdminConfig where
  feeBps : Nat
  treasury : Option Address
  graceDuration : Nat
  autoPauseThreshold : Nat

def State.cachedAdminConfig (s : State) : Except Error CachedAdminConfig :=
  s.gracePeriod.map fun graceDuration =>
    { feeBps := s.protocolFeeBps, treasury := s.treasury, graceDuration,
      autoPauseThreshold := s.autoPauseThreshold }

/-- The fee terms of an interval charge. Merchant overrides are not consulted. -/
def State.intervalFeeTerms (s : State) (cfg : Option CachedAdminConfig) :
    Nat × Option Address :=
  match cfg with
  | some cfg => (cfg.feeBps, cfg.treasury)
  | none => (s.protocolFeeBps, s.treasury)

/-- What an interval of the subscription costs now. -/
def State.intervalAmount (s : State) (id now : Nat) (sub : Subscription) : Except Error Int :=
  let payable := s.payableAfterCoupon id now sub.token sub.amount
  if sub.prorationEnabled ∧ sub.lastPaymentTimestamp = sub.startTime then
    calculateProratedFirstCharge payable sub.intervalSeconds (now - sub.startTime)
  else .ok payable

/-- The refund goes to the subscriber at once. -/
def fireScheduledCancellation (id : Nat) (sub : Subscription) : Vault Unit :=
  when (sub.status ≠ .cancelled) do
    let status ← lift (transitionTo sub.status .cancelled)
    writeSubscription id { sub with status, prepaidBalance := 0, cancelAt := none }
    when (0 < sub.prepaidBalance) do
      let env ← ask
      transfer sub.token env.host.contract sub.subscriber sub.prepaidBalance
      subTotalAccounted sub.token sub.prepaidBalance

/-- An underfunded subscription may be charged again once its interval has elapsed. -/
def requireChargeable (sub : Subscription) : Vault Unit := do
  let env ← ask
  if sub.status = .active ∨ sub.status = .gracePeriod then pure ()
  else if sub.status = .insufficientBalance then do
    let nextAllowed ← lift (nextChargeTime sub.lastPaymentTimestamp sub.intervalSeconds)
    failIf (env.now < nextAllowed) .notActive
  else fail .notActive

def Subscription.capRemaining (sub : Subscription) : Except Error (Option Int) :=
  match sub.lifetimeCap with
  | none => .ok none
  | some cap =>
    if lifetimeCapReached cap sub.lifetimeCharged then .ok (some 0)
    else (safeSub cap sub.lifetimeCharged).map some

/-- A charge of `amount` does not fit under what the cap leaves. -/
def exceedsRemaining (remaining : Option Int) (amount : Int) : Bool :=
  remaining.any fun r => r = 0 || r < amount

/-- The subscription with a charge booked; a funded charge also ends a grace period. -/
def Subscription.booked (sub : Subscription) (amount newBalance : Int) (now : Nat) :
    Except Error Subscription := do
  let lifetimeCharged ← safeAdd sub.lifetimeCharged amount
  let paid := { sub with
    prepaidBalance := newBalance
    lastPaymentTimestamp := max now sub.lastPaymentTimestamp
    lifetimeCharged }
  if sub.status = .gracePeriod ∨ sub.status = .insufficientBalance then do
    let status ← transitionTo sub.status .active
    pure { paid with status, graceStartTimestamp := none }
  else pure paid

def Subscription.cancelledWhenCapped (sub : Subscription) : Except Error Subscription :=
  if sub.capReached then (transitionTo sub.status .cancelled).map fun status =>
    { sub with status }
  else .ok sub

/-- What a charge decided on before it moves money. -/
structure IntervalCharge where
  amount : Int
  newBalance : Int
  periodIndex : Nat
  nextAllowed : Nat
  salt : BytesN32

/-- The funded branch of `charge_one`. -/
def settleInterval (id : Nat) (sub : Subscription) (charge : IntervalCharge)
    (key : Option BytesN32) (cfg : Option CachedAdminConfig) : Vault Unit := do
  let env ← ask
  let terms ← gets (·.intervalFeeTerms cfg)
  let split ← lift (splitFee charge.amount terms.1 terms.2)
  creditChargePayees id sub split.1 .interval
  routeToSubAccount sub split.1
  creditProtocolFee sub.token split.2 terms.2 .interval
  let booked ← lift (sub.booked charge.amount charge.newBalance env.now)
  delete (.instanced (.chargeFailureCounter id))
  let settled ← lift booked.cancelledWhenCapped
  writeSubscription id settled
  appendStatement id charge.amount sub.merchant sub.token .interval
    (charge.nextAllowed - sub.intervalSeconds) env.now
  writePeriodSnapshot
    { subscriptionId := id
      periodIndex := charge.periodIndex
      periodStart := charge.nextAllowed - sub.intervalSeconds
      periodEnd := env.now
      totalCharged := charge.amount
      totalUsageUnits := 0
      statusFlags := snapshotFlagClosed ||| snapshotFlagIntervalCharged
      finalizedAt := env.now }
  store (.instanced (.chargedPeriod id)) charge.periodIndex
  store (.instanced (.chargeSalt id)) charge.salt
  recordIdemKey .chargeInterval id key

/-- The subscription after a charge it could not pay for. -/
def Subscription.underfunded (sub : Subscription) (now graceDuration : Nat) :
    Except Error Subscription :=
  if sub.status = .gracePeriod then
    match sub.graceStartTimestamp with
    | some graceStart =>
      if graceDuration = 0 ∨ saturatingAddU64 graceStart graceDuration ≤ now then
        (transitionTo sub.status .insufficientBalance).map fun status => { sub with status }
      else .ok sub
    | none => .ok { sub with graceStartTimestamp := some now }
  else if 0 < graceDuration then
    (transitionTo sub.status .gracePeriod).map fun status =>
      { sub with status, graceStartTimestamp := some now }
  else
    (transitionTo sub.status .insufficientBalance).map fun status =>
      { sub with status, graceStartTimestamp := none }

/-- Count a failure; at the threshold the subscription is paused. -/
def countChargeFailure (id : Nat) (sub : Subscription) (threshold : Nat) : Vault Unit :=
  when (0 < threshold ∧ sub.status = .insufficientBalance) do
    let counted ← load (.instanced (.chargeFailureCounter id))
    let failures := saturatingAddU32 (counted.getD 0) 1
    store (.instanced (.chargeFailureCounter id)) failures
    when (threshold ≤ failures) do
      writeSubscription id { sub with status := .paused }
      delete (.instanced (.chargeFailureCounter id))

/-- The underfunded branch of `charge_one`. -/
def recordShortfall (id : Nat) (sub : Subscription) (cfg : Option CachedAdminConfig) :
    Vault Unit := do
  let env ← ask
  let grace ← gets fun s : State => cfg.elim s.gracePeriod fun cfg => .ok cfg.graceDuration
  let graceDuration ← lift grace
  let short ← lift (sub.underfunded env.now graceDuration)
  writeSubscription id short
  let threshold ← gets fun s : State => cfg.elim s.autoPauseThreshold (·.autoPauseThreshold)
  countChargeFailure id short threshold

/-- `charge_one` from the period computation on. -/
def chargeInterval (id : Nat) (sub : Subscription) (amount : Int) (key : Option BytesN32)
    (cfg : Option CachedAdminConfig) : Vault ChargeExecutionResult := do
  let env ← ask
  require (sub.intervalSeconds ≠ 0)
  let periodIndex := (env.now - sub.startTime) / sub.intervalSeconds
  let salt := env.host.chargeSalt id sub.lastPaymentTimestamp env.sequence
  let lastSalt ← load (.instanced (.chargeSalt id))
  failIf (lastSalt = some salt) .replay
  let replayed ← gets (·.isReplayedKey env .chargeInterval id key)
  if replayed then pure .charged
  else do
    let storedPeriod ← load (.instanced (.chargedPeriod id))
    failIf (storedPeriod.any (periodIndex ≤ ·)) .replay
    let nextAllowed ← lift (nextChargeTime sub.lastPaymentTimestamp sub.intervalSeconds)
    failIf (env.now < nextAllowed) .intervalNotElapsed
    let remaining ← lift sub.capRemaining
    if exceedsRemaining remaining amount then do
      cancelCapped id sub
      pure .lifetimeCapReached
    else match safeSubBalance sub.prepaidBalance amount with
      | .ok newBalance => do
        settleInterval id sub { amount, newBalance, periodIndex, nextAllowed, salt } key cfg
        pure .charged
      | .error _ => do
        recordShortfall id sub cfg
        pure .insufficientBalance

/-- `charge_one` after its checks on the parties. -/
def chargeChecked (id : Nat) (sub : Subscription) (key : Option BytesN32)
    (cfg : Option CachedAdminConfig) : Vault ChargeExecutionResult := do
  let env ← ask
  let priced ← gets (·.intervalAmount id env.now sub)
  let amount ← lift priced
  if sub.capReached then do
    when (sub.status ≠ .cancelled) (cancelCapped id sub)
    pure .lifetimeCapReached
  else if sub.cancelAt.any (· ≤ env.now) then do
    fireScheduledCancellation id sub
    pure .scheduledCancellation
  else do
    requireChargeable sub
    let closed ← lift (sub.renewalClosed env.now)
    if closed then pure .skipped
    else chargeInterval id sub amount key cfg

def chargeOne (id : Nat) (key : Option BytesN32) (cfg : Option CachedAdminConfig)
    (cache : MerchantCache) : Vault ChargeExecutionResult := do
  requireNotEmergencyStop
  let sub ← getSubscription id
  checkMerchantStatus sub.merchant cache
  requireNotBlocklisted sub.subscriber
  requireNotBlocklisted sub.merchant
  checkSplitPayees id
  failIfExpired id sub
  chargeChecked id sub key cfg

/-! ## Batches -/

/-- The cache after an item was looked at. -/
def State.rememberMerchant (s : State) (cache : MerchantCache) (id now : Nat) : MerchantCache :=
  if s.emergencyStop then cache
  else match s.effectiveSubscription id now with
    | none => cache
    | some sub =>
      cache.insert sub.merchant (s.cachedMerchantStatus cache sub.merchant now)

def batchResult (id : Nat) : Except Error ChargeExecutionResult → BatchChargeResult
  | .ok .charged | .ok .scheduledCancellation | .ok .skipped => ⟨id, true, 0⟩
  | .ok .insufficientBalance => ⟨id, false, Error.insufficientBalance.toCode⟩
  | .ok .lifetimeCapReached => ⟨id, false, Error.lifetimeCapReached.toCode⟩
  | .error e => ⟨id, false, e.toCode⟩

/-- A subscription to charge and the idempotency key given for it. -/
abbrev BatchItem := Nat × Option BytesN32

def chargeItems (cfg : Option CachedAdminConfig) :
    List BatchItem → MerchantCache → Vault (List BatchChargeResult)
  | [], _ => pure []
  | (id, key) :: rest, cache => do
    let env ← ask
    let nextCache ← gets (·.rememberMerchant cache id env.now)
    let result ← attempt (chargeOne id key cfg cache)
    let results ← chargeItems cfg rest nextCache
    pure (batchResult id result :: results)

/-- Pair every id with the key at its position, if there is one. -/
def batchItems (ids : List Nat) (keys : Option (List BytesN32)) : List BatchItem :=
  ids.zipIdx.map fun (id, i) => (id, keys.bind (·[i]?))

/-- Items are charged one after the other; an error of one item stops none of the others. -/
def executeBatchCharge (items : List BatchItem) : Vault (List BatchChargeResult) := do
  let cfg ← gets (·.cachedAdminConfig.toOption)
  chargeItems cfg items ∅

/-! ## Usage charge -/

def UsageState.enterWindow (state : UsageState) (limits : UsageLimits) (now : Nat) :
    UsageState :=
  if limits.rateLimitMaxCalls.isSome ∧
      saturatingAddU64 state.windowStartTimestamp limits.rateWindowSecs ≤ now then
    { state with windowStartTimestamp := now, windowCallCount := 0 }
  else state

def UsageState.record (state : UsageState) (units : Int) (now : Nat) : UsageState :=
  { state with
    lastUsageTimestamp := now
    windowCallCount := saturatingAddU32 state.windowCallCount 1
    currentPeriodUsageUnits := clampI128 (state.currentPeriodUsageUnits + units) }

/-- The usage cap counts per interval; a new interval is stored even if the cap then rejects. -/
def applyUsageCap (id : Nat) (limits : UsageLimits) (state : UsageState) (period : Nat)
    (units : Int) : Vault (Option UsageChargeResult) := do
  let env ← ask
  let renewed := limits.usageCapUnits.isSome ∧ state.periodIndex < period
  let current := if renewed then
    { state with periodIndex := period, currentPeriodUsageUnits := 0 } else state
  when renewed (store (.instanced (.usageState id)) current)
  if limits.usageCapUnits.any (· < clampI128 (current.currentPeriodUsageUnits + units)) then
    pure (some .usageCapExceeded)
  else do
    store (.instanced (.usageState id)) (current.record units env.now)
    pure none

/-- The limits configured for the subscription; a result when one of them rejects. -/
def applyUsageLimits (id : Nat) (sub : Subscription) (units : Int) :
    Vault (Option UsageChargeResult) := do
  let env ← ask
  let configured ← load (.instanced (.usageLimits id))
  match configured with
  | none => pure none
  | some limits => do
    require (sub.intervalSeconds ≠ 0)
    let period := (env.now - sub.startTime) / sub.intervalSeconds
    let stored ← load (.instanced (.usageState id))
    let state := stored.getD ⟨0, env.now, 0, 0, period⟩
    if 0 < limits.burstMinIntervalSecs ∧
        env.now - state.lastUsageTimestamp < limits.burstMinIntervalSecs then
      pure (some .burstLimitExceeded)
    else do
      let opened := state.enterWindow limits env.now
      if limits.rateLimitMaxCalls.any (· ≤ opened.windowCallCount) then
        pure (some .rateLimitExceeded)
      else applyUsageCap id limits opened period units

/-- The subscription with a usage charge booked. -/
def Subscription.usageBooked (sub : Subscription) (pendingLifetime newBalance : Int) :
    Except Error Subscription :=
  let paid := { sub with prepaidBalance := newBalance, lifetimeCharged := pendingLifetime }
  if paid.capReached then (transitionTo sub.status .cancelled).map fun status =>
    { paid with status }
  else if newBalance = 0 then (transitionTo sub.status .insufficientBalance).map fun status =>
    { paid with status }
  else .ok paid

/-- The funded branch of `charge_usage_one`. -/
def settleUsage (id : Nat) (sub : Subscription) (usageAmount pendingLifetime newBalance : Int)
    (reference : Bytes) : Vault Unit := do
  let env ← ask
  let feeBps ← gets (·.routeFeeBps sub.merchant)
  let treasury ← gets (·.treasury)
  let split ← lift (splitFee usageAmount feeBps treasury)
  creditChargePayees id sub split.1 .usage
  routeToSubAccount sub split.1
  creditProtocolFee sub.token split.2 treasury .usage
  let booked ← lift (sub.usageBooked pendingLifetime newBalance)
  writeSubscription id booked
  store (.symbol (.usageRef id reference)) true
  require (sub.intervalSeconds ≠ 0)
  let periodIndex := (env.now - sub.startTime) / sub.intervalSeconds
  failIf (u64Max < periodIndex * sub.intervalSeconds) .overflow
  let periodStart ← okOr (checkedAddU64 sub.startTime (periodIndex * sub.intervalSeconds))
    .overflow
  writePeriodSnapshot
    { subscriptionId := id, periodIndex, periodStart, periodEnd := env.now,
      totalCharged := usageAmount, totalUsageUnits := usageAmount,
      statusFlags := snapshotFlagUsageCharged, finalizedAt := env.now }
  appendStatement id usageAmount sub.merchant sub.token .usage env.now env.now

/-- `charge_usage_one` from the lifetime cap check on. A cancellation at the cap is reported
as a charge. -/
def chargeUsageDue (id : Nat) (sub : Subscription) (usageAmount : Int) (reference : Bytes) :
    Vault UsageChargeResult := do
  let pendingLifetime ← lift (safeAdd sub.lifetimeCharged usageAmount)
  if sub.lifetimeCap.any (· < pendingLifetime) then do
    cancelCapped id sub
    pure .charged
  else match safeSubBalance sub.prepaidBalance usageAmount with
    | .ok newBalance => do
      settleUsage id sub usageAmount pendingLifetime newBalance reference
      pure .charged
    | .error _ => do
      let status ← lift (transitionTo sub.status .insufficientBalance)
      writeSubscription id { sub with status }
      pure .charged

/-- `charge_usage_one` after its checks on the parties. -/
def chargeUsageChecked (id : Nat) (sub : Subscription) (usageAmount : Int)
    (reference : Bytes) : Vault UsageChargeResult := do
  let env ← ask
  when sub.capReached do
    when (sub.status ≠ .cancelled) (cancelCapped id sub)
    fail .lifetimeCapReached
  failIf (sub.status ≠ .active) .notActive
  failIf (sub.usageEnabled = false) .usageNotEnabled
  let closed ← lift (sub.renewalClosed env.now)
  failIf closed .notActive
  failIf (usageAmount ≤ 0) .invalidAmount
  let override ← load (.instanced (.usageChargeCapOverride sub.merchant))
  if override.getD false = false ∧ sub.amount < usageAmount then pure .usageCapExceeded
  else do
    failIf (sub.prepaidBalance < usageAmount) .insufficientPrepaidBalance
    let seen ← load (.symbol (.usageRef id reference))
    if seen.isSome then pure .replay
    else do
      let rejected ← applyUsageLimits id sub usageAmount
      match rejected with
      | some result => pure result
      | none => chargeUsageDue id sub usageAmount reference

def chargeUsageOne (id : Nat) (usageAmount : Int) (reference : Bytes) :
    Vault UsageChargeResult := do
  requireNotEmergencyStop
  let sub ← getSubscription id
  checkMerchantStatus sub.merchant ∅
  requireNotBlocklisted sub.subscriber
  requireNotBlocklisted sub.merchant
  checkSplitPayees id
  failIfExpired id sub
  chargeUsageChecked id sub usageAmount reference

end SubscriptionVault
