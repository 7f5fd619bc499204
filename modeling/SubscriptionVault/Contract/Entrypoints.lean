import SubscriptionVault.Contract.Lifecycle
import SubscriptionVault.Contract.Payouts

/-!
# Entrypoints

The calls the contract offers, with the emergency-stop check and the reentrancy lock each of
them puts around the function that does the work. Calls that only change configuration,
governance, plans, coupons, metadata or statement archives are not listed.
-/

namespace SubscriptionVault

open Exec

/-! ## Batches of charges -/

structure BatchChargeResponse where
  results : List BatchChargeResult
  duplicateId : Option Nat

/-- The first id that occurred before. -/
def firstDuplicate : List Nat → List Nat → Option Nat
  | _, [] => none
  | seen, id :: rest => if id ∈ seen then some id else firstDuplicate (seen ++ [id]) rest

/-- The nonce is checked first and used up only when an item succeeded. -/
def chargeBatch (admin : Address) (items : List BatchItem) (nonce : Nat) :
    Vault BatchChargeResponse := do
  validateNonce admin .batchCharge nonce
  store (.symbol .batchNonceCtx) nonce
  let results ← executeBatchCharge items
  let advanced ← attempt
    (when (results.any (·.success) = true) (checkAndAdvance admin .batchCharge nonce))
  delete (.symbol .batchNonceCtx)
  lift advanced
  pure ⟨results, none⟩

def doBatchChargeDetailed (ids : List Nat) (keys : Option (List BytesN32)) (nonce : Nat) :
    Vault BatchChargeResponse := do
  let admin ← requireStoredAdminAuth
  failIf (batchMaxSize < ids.length) .invalidInput
  if ids = [] then pure ⟨[], none⟩
  else do
    failIf (keys.any (·.length ≠ ids.length)) .invalidInput
    match firstDuplicate [] ids with
    | some id => pure ⟨[], some id⟩
    | none => chargeBatch admin (batchItems ids keys) nonce

def doBatchCharge (ids : List Nat) (keys : Option (List BytesN32)) (nonce : Nat) :
    Vault (List BatchChargeResult) := do
  let response ← doBatchChargeDetailed ids keys nonce
  failIf response.duplicateId.isSome .invalidInput
  pure response.results

/-! ## Operator charges -/

def requireOperatorAuth (op : Address) : Vault Unit := do
  requireAuth op
  let stored ← gets (·.operator)
  let stored ← okOr stored .unauthorized
  failIf (op ≠ stored) .unauthorized

def doSetOperator (admin op : Address) : Vault Unit := do
  let env ← ask
  requireAdminAuth admin
  failIf (op = env.host.contract) .invalidInput
  enforceConfigCooldown .operator
  writeConfig .operator op

/-- The operator's batch does nothing. -/
def doOperatorBatchCharge : Vault (List BatchChargeResult) := pure []

def doOperatorChargeSubscription (op : Address) (id : Nat) : Vault ChargeExecutionResult := do
  requireOperatorAuth op
  chargeOne id none none ∅

def doOperatorChargeUsage (op : Address) (id : Nat) (usageAmount : Int) (reference : Bytes) :
    Vault UsageChargeResult := do
  requireOperatorAuth op
  chargeUsageOne id usageAmount reference

/-- The text "usage", the reference of a usage charge without one. -/
def usageReference : Bytes := [0x75, 0x73, 0x61, 0x67, 0x65]

/-! ## Wrappers -/

section Wrappers

variable {α : Type}

/-- The emergency stop is checked before the lock is taken. -/
def guardedCall (name : LockName) (body : Vault α) : Vault α := do
  requireNotEmergencyStop
  withLock name body

/-- A batch takes its lock first. -/
def guardedBatch (body : Vault α) : Vault α :=
  withLock .batchCharge do
    requireNotEmergencyStop
    body

def stoppableCall (body : Vault α) : Vault α := do
  requireNotEmergencyStop
  body

/-- The token is read again for the event. -/
def withdrawMerchantFundsReported (merchant : Address) (amount : Int) : Vault Unit := do
  withdrawMerchantFunds merchant amount
  let token ← gets (·.defaultToken)
  let _ ← lift token
  pure ()

/-- The cancelled subscription is read again for the event. -/
def cancelSubscriptionReported (id : Nat) (authorizer : Address) : Vault Unit := do
  doCancelSubscription id authorizer
  let _ ← getSubscription id
  pure ()

/-- The subscription is read before, for the event. -/
def pauseSubscriptionReported (id : Nat) (authorizer : Address) : Vault Unit := do
  let _ ← getSubscription id
  doPauseSubscription id authorizer

def resumeSubscriptionReported (id : Nat) (authorizer : Address) : Vault Unit := do
  let _ ← getSubscription id
  doResumeSubscription id authorizer
  let _ ← getSubscription id
  pure ()

end Wrappers

/-! ## Calls -/

/-- The calls that move money or change subscriptions. -/
inductive VaultCall where
  | init (token : Address) (tokenDecimals : Nat) (admin : Address) (minTopup : Int)
      (gracePeriod : Nat)
  | migrate (admin : Address) (dryRun : Bool)
  | migrateConfigToPersistent (admin : Address)
  | createSubscription (new : NewSubscription)
  | createSubscriptionWithToken (new : NewSubscription)
  | createSubscriptionWithSplit (new : NewSubscription) (entries : List (Address × Nat))
  | createSubscriptionFromPlan (subscriber : Address) (planId : Nat) (label : Option Symbol)
  | depositFunds (id : Nat) (amount : Int) (nonce : Option Nat)
  | depositFundsOnBehalf (id : Nat) (payer : Address) (amount : Int) (nonce : Option Nat)
  | bulkDepositFunds (caller : Address) (entries : List (Nat × Int)) (nonce : Nat)
  | chargeSubscription (id : Nat) (key : Option BytesN32)
  | operatorChargeSubscription (op : Address) (id : Nat)
  | batchCharge (ids : List Nat) (keys : Option (List BytesN32)) (nonce : Nat)
  | batchChargeDetailed (ids : List Nat) (keys : Option (List BytesN32)) (nonce : Nat)
  | operatorBatchCharge (op : Address) (ids : List Nat) (nonce : Nat)
  | chargeUsage (id : Nat) (usageAmount : Int)
  | chargeUsageWithReference (id : Nat) (usageAmount : Int) (reference : Bytes)
  | operatorChargeUsage (op : Address) (id : Nat) (usageAmount : Int)
  | operatorChargeUsageWithRef (op : Address) (id : Nat) (usageAmount : Int)
      (reference : Bytes)
  | chargeOneOff (id : Nat) (merchant : Address) (amount : Int) (key : Option BytesN32)
  | graceBuyout (id : Nat) (subscriber : Address) (amount : Int) (key : Option BytesN32)
  | withdrawMerchantFunds (merchant : Address) (amount : Int)
  | withdrawMerchantTokenFunds (merchant token : Address) (amount : Int)
  | merchantRefund (merchant subscriber token : Address) (amount : Int)
  | flushPayouts (merchant : Address)
  | registerSubAccount (merchant : Address) (label : Symbol)
  | withdrawSubAccountFunds (merchant : Address) (label : Symbol) (token : Address)
      (amount : Int)
  | rotateMerchantAddress (admin oldMerchant newMerchant : Address) (nonce : Nat)
  | cancelSubscription (id : Nat) (authorizer : Address)
  | bulkCancelSubscriptions (caller : Address) (ids : List Nat) (nonce : Nat)
  | scheduleCancel (id : Nat) (authorizer : Address) (cancelAt : Nat)
  | unscheduleCancel (id : Nat) (authorizer : Address)
  | setAutoRenew (id : Nat) (authorizer : Address) (enabled : Bool)
  | setSubscriptionExpiryLedger (id : Nat) (authorizer : Address)
      (expiresAtLedger : Option Nat)
  | pauseSubscription (id : Nat) (authorizer : Address)
  | bulkPauseSubscriptions (caller : Address) (ids : List Nat) (nonce : Nat)
  | resumeSubscription (id : Nat) (authorizer : Address)
  | cleanupSubscription (id : Nat) (authorizer : Address)
  | migrateSubscriptionToPlan (subscriber : Address) (id newPlanId : Nat)
  | updateSubscriptionCap (admin : Address) (id : Nat) (newCap : Option Int)
  | updateSplitPayees (subscriber : Address) (id : Nat)
      (entries : Option (List (Address × Nat)))
  | configureUsageLimits (id : Nat) (limits : UsageLimits)
  | initiateTransfer (id : Nat) («from» «to» : Address) (expiresAt : Nat)
  | acceptTransfer (id : Nat) («to» : Address)
  | vetoTransfer (id : Nat) (merchant : Address)
  | withdrawSubscriberFunds (id : Nat) (subscriber : Address)
  | requestEmergencyWithdraw (id : Nat) (subscriber : Address)
  | finalizeEmergencyWithdraw (id : Nat) (subscriber : Address)
  | partialRefund (admin : Address) (id : Nat) (subscriber : Address) (amount : Int)
  | claimCancellationEscrow (subscriber : Address) (id : Nat)
  | openDispute (subscriber : Address) (id : Nat) (amount : Int)
      (evidenceHash : Option BytesN32)
  | respondDispute (admin : Address) (disputeId : Nat) (evidenceHash : Option BytesN32)
  | resolveDispute (admin : Address) (disputeId : Nat) (toSubscriber : Bool)
  | lodgeEscrowDispute (merchant : Address) (id : Nat)
  | grantDelegatedPayer (subscriber payer : Address) (expiresAt : Nat) (maxAmount : Int)
  | revokeDelegatedPayer (subscriber payer : Address)
  | addToBlocklist (authorizer subscriber : Address) (reason : Bytes)
  | removeFromBlocklist (admin subscriber : Address)
  | restoreSnapshotPage (admin : Address) (summaries : List SubscriptionSummary)
      (balances : List MerchantBalanceEntry)

/-- Run a call for its effect on storage. -/
def effectOf {α : Type} (body : Vault α) : Vault Unit := (fun _ => ()) <$> body

def VaultCall.exec : VaultCall → Vault Unit
  | .init token tokenDecimals admin minTopup gracePeriod =>
    doInit token tokenDecimals admin minTopup gracePeriod
  | .migrate admin dryRun => doMigrate admin dryRun
  | .migrateConfigToPersistent admin => SubscriptionVault.migrateConfigToPersistent admin
  | .createSubscription new => effectOf (stoppableCall (doCreateSubscription new))
  | .createSubscriptionWithToken new =>
    effectOf (stoppableCall
      (doCreateSubscriptionWithToken { new with prorationEnabled := false }))
  | .createSubscriptionWithSplit new entries =>
    effectOf (stoppableCall (SubscriptionVault.createSubscriptionWithSplit new entries))
  | .createSubscriptionFromPlan subscriber planId label =>
    effectOf (stoppableCall (doCreateSubscriptionFromPlan subscriber planId label))
  | .depositFunds id amount nonce =>
    guardedCall .depositFunds (doDepositFunds id amount nonce)
  | .depositFundsOnBehalf id payer amount nonce =>
    guardedCall .depositFundsOnBehalf (doDepositFundsOnBehalf id payer amount nonce)
  | .bulkDepositFunds caller entries nonce =>
    guardedCall .bulkDepositFunds (doBulkDepositFunds caller entries nonce)
  | .chargeSubscription id key =>
    effectOf (guardedCall .chargeSubscription (chargeOne id key none ∅))
  | .operatorChargeSubscription op id =>
    effectOf (guardedCall .operatorChargeSubscription (doOperatorChargeSubscription op id))
  | .batchCharge ids keys nonce => effectOf (guardedBatch (doBatchCharge ids keys nonce))
  | .batchChargeDetailed ids keys nonce =>
    effectOf (guardedBatch (doBatchChargeDetailed ids keys nonce))
  | .operatorBatchCharge _ _ _ => effectOf (stoppableCall doOperatorBatchCharge)
  | .chargeUsage id usageAmount =>
    effectOf (guardedCall .chargeUsage (chargeUsageOne id usageAmount usageReference))
  | .chargeUsageWithReference id usageAmount reference =>
    effectOf (guardedCall .chargeUsageWithReference (chargeUsageOne id usageAmount reference))
  | .operatorChargeUsage op id usageAmount =>
    effectOf (guardedCall .operatorChargeUsage (doOperatorChargeUsage op id usageAmount []))
  | .operatorChargeUsageWithRef op id usageAmount reference =>
    effectOf (guardedCall .operatorChargeUsageWithRef
      (doOperatorChargeUsage op id usageAmount reference))
  | .chargeOneOff id merchant amount key =>
    guardedCall .chargeOneOff (doChargeOneOff id merchant amount key)
  | .graceBuyout id subscriber amount key =>
    effectOf (guardedCall .graceBuyout (doGraceBuyout id subscriber amount key))
  | .withdrawMerchantFunds merchant amount =>
    guardedCall .withdrawMerchantFunds (withdrawMerchantFundsReported merchant amount)
  | .withdrawMerchantTokenFunds merchant token amount =>
    guardedCall .withdrawMerchantTokenFunds
      (withdrawMerchantFundsForToken merchant token amount)
  | .merchantRefund merchant subscriber token amount =>
    withLock .merchantRefund (SubscriptionVault.merchantRefund merchant subscriber token amount)
  | .flushPayouts merchant => guardedCall .flushPayouts (doFlushPayouts merchant)
  | .registerSubAccount merchant label => SubscriptionVault.registerSubAccount merchant label
  | .withdrawSubAccountFunds merchant label token amount =>
    withLock .withdrawSubAccountFunds
      (SubscriptionVault.withdrawSubAccountFunds merchant label token amount)
  | .rotateMerchantAddress admin oldMerchant newMerchant nonce =>
    doRotateMerchantAddress admin oldMerchant newMerchant nonce
  | .cancelSubscription id authorizer => cancelSubscriptionReported id authorizer
  | .bulkCancelSubscriptions caller ids nonce =>
    withLock .bulkCancelSubscriptions (doBulkCancelSubscriptions caller ids nonce)
  | .scheduleCancel id authorizer cancelAt =>
    withLock .scheduleCancel (doScheduleCancel id authorizer cancelAt)
  | .unscheduleCancel id authorizer =>
    withLock .unscheduleCancel (doUnscheduleCancel id authorizer)
  | .setAutoRenew id authorizer enabled => doSetAutoRenew id authorizer enabled
  | .setSubscriptionExpiryLedger id authorizer expiresAtLedger =>
    doSetSubscriptionExpirationLedger id authorizer expiresAtLedger
  | .pauseSubscription id authorizer => pauseSubscriptionReported id authorizer
  | .bulkPauseSubscriptions caller ids nonce => doBulkPauseSubscriptions caller ids nonce
  | .resumeSubscription id authorizer => resumeSubscriptionReported id authorizer
  | .cleanupSubscription id authorizer => doCleanupSubscription id authorizer
  | .migrateSubscriptionToPlan subscriber id newPlanId =>
    doMigrateSubscriptionToPlan subscriber id newPlanId
  | .updateSubscriptionCap admin id newCap => doUpdateSubscriptionCap admin id newCap
  | .updateSplitPayees subscriber id entries =>
    SubscriptionVault.updateSplitPayees subscriber id entries
  | .configureUsageLimits id limits => doConfigureUsageLimits id limits
  | .initiateTransfer id «from» «to» expiresAt =>
    withLock .initiateTransfer (doInitiateTransfer id «from» «to» expiresAt)
  | .acceptTransfer id «to» => withLock .acceptTransfer (doAcceptTransfer id «to»)
  | .vetoTransfer id merchant => withLock .vetoTransfer (doVetoTransfer id merchant)
  | .withdrawSubscriberFunds id subscriber =>
    withLock .withdrawSubscriberFunds (doWithdrawSubscriberFunds id subscriber)
  | .requestEmergencyWithdraw id subscriber => doRequestEmergencyWithdraw id subscriber
  | .finalizeEmergencyWithdraw id subscriber =>
    withLock .finalizeEmergencyWithdraw (doFinalizeEmergencyWithdraw id subscriber)
  | .partialRefund admin id subscriber amount =>
    guardedCall .partialRefund (doPartialRefund admin id subscriber amount)
  | .claimCancellationEscrow subscriber id =>
    withLock .claimCancellationEscrow (doClaimCancellationEscrow subscriber id)
  | .openDispute subscriber id amount evidenceHash =>
    withLock .openDispute (doOpenDispute subscriber id amount evidenceHash)
  | .respondDispute admin disputeId evidenceHash =>
    withLock .respondDispute (doRespondDispute admin disputeId evidenceHash)
  | .resolveDispute admin disputeId toSubscriber =>
    withLock .resolveDispute (doResolveDispute admin disputeId toSubscriber)
  | .lodgeEscrowDispute merchant id => doLodgeEscrowDispute merchant id
  | .grantDelegatedPayer subscriber payer expiresAt maxAmount =>
    doGrantDelegatedPayer subscriber payer expiresAt maxAmount
  | .revokeDelegatedPayer subscriber payer => doRevokeDelegatedPayer subscriber payer
  | .addToBlocklist authorizer subscriber reason =>
    doAddToBlocklist authorizer subscriber reason
  | .removeFromBlocklist admin subscriber => doRemoveFromBlocklist admin subscriber
  | .restoreSnapshotPage admin summaries balances =>
    SubscriptionVault.restoreSnapshotPage admin summaries balances

/-- A call keeps what it wrote only when it succeeds. -/
def VaultCall.commit (call : VaultCall) (env : Env) (s : State) : State :=
  call.exec.after env s

/-! ## Wrappers that succeed -/

section Rules

variable {α : Type} {r : Env} {s t : State} {a : α} {name : LockName} {body : Vault α}

@[simp] theorem run_effectOf_ok {u : Unit} :
    (effectOf body).run r s = .ok u t ↔ ∃ a, body.run r s = .ok a t := by
  simp [effectOf]

@[simp] theorem State.emergencyStop_lock (s : State) (name : LockName) (held : Bool) :
    State.emergencyStop (s.write (.lock name) held) = s.emergencyStop := by
  unfold State.emergencyStop
  rw [State.config_write_of_ne _ _ (by simp [configSlots])]

theorem run_stoppableCall_ok :
    (stoppableCall body).run r s = .ok a t ↔
      s.emergencyStop = false ∧ body.run r s = .ok a t := by
  simp [stoppableCall, and_assoc]

theorem run_guardedCall_ok :
    (guardedCall name body).run r s = .ok a t ↔
      s.emergencyStop = false ∧ (withLock name body).run r s = .ok a t := by
  simp [guardedCall, and_assoc]

theorem run_guardedBatch_ok :
    (guardedBatch body).run r s = .ok a t ↔
      s.emergencyStop = false ∧ (withLock .batchCharge body).run r s = .ok a t := by
  simp only [guardedBatch, run_withLock_ok, run_bind_ok, run_requireNotEmergencyStop_ok,
    State.emergencyStop_lock]
  constructor
  · rintro ⟨hfree, u, ⟨_, _, ⟨hopen, rfl⟩, hbody⟩, rfl⟩
    exact ⟨hopen, hfree, u, hbody, rfl⟩
  · rintro ⟨hopen, hfree, u, hbody, rfl⟩
    exact ⟨hfree, u, ⟨(), _, ⟨hopen, rfl⟩, hbody⟩, rfl⟩

end Rules

/-! ## A deployment for concrete runs -/

/-- What the token contract does outside the vault. -/
def mint (token holder : Address) (amount : Int) : Vault Unit :=
  update (·.setBalance token holder amount)

/-- Address 2 pays merchant 1 ten units of token 9 a minute. -/
def sampleRequest : NewSubscription where
  subscriber := ⟨2⟩
  merchant := ⟨1⟩
  token := ⟨9⟩
  amount := 10
  intervalSeconds := 60
  usageEnabled := false
  lifetimeCap := none
  expiresAt := none
  expiresAtLedger := none
  subAccountLabel := none
  prorationEnabled := false

/-- The calls that set up a vault of admin 8 for token 9, latest first. -/
def sampleVault (gracePeriod : Nat) : List (Env × Vault Unit) :=
  [(sampleEnv 0 [⟨1⟩], initializeMerchantConfig ⟨1⟩ ⟨1⟩ 0 1 none []),
   (sampleEnv 0 [], mint ⟨9⟩ ⟨2⟩ 1000),
   (sampleEnv 0 [], doInit ⟨9⟩ 7 ⟨8⟩ 1 gracePeriod)]

end SubscriptionVault
