import SubscriptionVault.Contract.Governance

/-!
# Administration entrypoints

Admin rotation in one and in two steps, recovery of stranded funds, protocol fee, accepted
tokens and the emergency stop. `AdminCall` collects them with the governance entrypoints and
`AdminCall.exec` is the code an entrypoint runs.
-/

namespace SubscriptionVault

open Exec

def proposalWindowSecs : Nat := 7 * 24 * 60 * 60
def adminProposalCooldownSecs : Nat := 24 * 60 * 60
def treasuryChangeDelaySecs : Nat := 48 * 24 * 60 * 60

/-- The accounting module keeps no totals. -/
def addTotalAccounted (_token : Address) (_amount : Int) : Vault Unit := pure ()
def subTotalAccounted (_token : Address) (_amount : Int) : Vault Unit := pure ()
def State.totalAccounted (_s : State) (_token : Address) : Int := 0

def State.subscription (s : State) (id : Nat) : Option Subscription :=
  s.read (.persistent (.sub id))

def rejectContractSelf (a : Address) : Vault Unit := do
  let env ← ask
  failIf (a = env.host.contract) .invalidInput

/-! ## Admin rotation -/

def doRotateAdmin (currentAdmin newAdmin : Address) (nonce : Nat) : Vault Unit := do
  let env ← ask
  requireAdminAuth currentAdmin
  checkAndAdvance currentAdmin .adminRotation nonce
  failIf (newAdmin = currentAdmin) .selfRotation
  failIf (newAdmin = env.host.contract) .invalidNewAdmin
  let id ← requireMultisigApproval ⟨.rotateAdmin, newAdmin, none, 0⟩
  enforceConfigCooldown .admin
  writeConfig .admin newAdmin
  invalidatePendingProposals
  consumeMultisigProposal id

def doProposeAdmin (currentAdmin newAdmin : Address) : Vault Unit := do
  let env ← ask
  requireAuth currentAdmin
  let stored ← requireAdmin
  failIf (currentAdmin ≠ stored) .unauthorized
  failIf (newAdmin = env.host.contract) .invalidNewAdmin
  let s ← getState
  failIf (s.adminProposal.any fun pending => env.now ≤ pending.expiresAt) .proposalAlreadyExists
  store (.symbol .adminProposal)
    { newAdmin, proposedAt := env.now,
      expiresAt := saturatingAddU64 env.now proposalWindowSecs }

/-- The expired branch also removes the proposal, but its error rolls that back. -/
def doClaimAdminRole (claimant : Address) : Vault Unit := do
  let env ← ask
  requireAuth claimant
  let s ← getState
  let proposal ← okOr s.adminProposal .proposalNotFound
  failIf (claimant ≠ proposal.newAdmin) .invalidClaimant
  failIf (env.now < saturatingAddU64 proposal.proposedAt adminProposalCooldownSecs)
    .proposalCooldownActive
  when (proposal.expiresAt < env.now) do
    delete (.symbol .adminProposal)
    fail .proposalExpired
  let _ ← requireAdmin
  delete (.symbol .adminProposal)
  writeConfig .admin claimant
  invalidatePendingProposals

def doCancelAdminProposal (admin : Address) : Vault Unit := do
  requireAuth admin
  let stored ← requireAdmin
  failIf (admin ≠ stored) .unauthorized
  let s ← getState
  failIf (s.adminProposal = none) .noActiveProposal
  delete (.symbol .adminProposal)

/-! ## Recovery, fees and tokens -/

/-- How many subscriptions a subscriber may create in a day. -/
def doSetSubscriberCreateCap (admin : Address) (cap : Nat) : Vault Unit := do
  requireAdminAuth admin
  writeConfig .subscriberCreateCap cap

/-- The part of an amount that fits the value field of a proposal. -/
def amountU32 (amount : Int) : Nat := if (u32Max : Int) < amount then u32Max else amount.toNat

def doRecoverStrandedFunds (admin token recipient : Address) (amount : Int)
    (recoveryId : Bytes) : Vault Unit := do
  let env ← ask
  requireAdminAuth admin
  failIf (amount ≤ 0) .invalidRecoveryAmount
  let id ← requireMultisigApproval
    ⟨.recoverStrandedFunds, recipient, some token, amountU32 amount⟩
  let used ← load (.persistent (.recovery recoveryId))
  failIf used.isSome .replay
  let contractBalance ← tokenBalance token env.host.contract
  let s ← getState
  let recoverable ← lift (safeSub contractBalance (s.totalAccounted token))
  failIf (recoverable < amount) .insufficientBalance
  store (.persistent (.recovery recoveryId)) true
  consumeMultisigProposal id
  transfer token env.host.contract recipient amount

def queueTreasuryChange (admin treasury : Address) (feeBps : Nat) : Vault Unit := do
  let env ← ask
  requireAdminAuth admin
  failIf (maxProtocolFeeBips < feeBps) .protocolFeeTooHigh
  let pending ← load (.persistent .pendingTreasuryChange)
  failIf pending.isSome .invalidInput
  let id ← requireMultisigApproval ⟨.setProtocolFee, treasury, none, feeBps⟩
  store (.persistent .pendingTreasuryChange)
    { newTreasury := treasury, newFeeBps := feeBps,
      effectiveAt := saturatingAddU64 env.now treasuryChangeDelaySecs }
  enforceConfigCooldown .protocolFee
  writeConfig .feeBps feeBps
  writeConfig .treasury treasury
  consumeMultisigProposal id

def executeTreasuryChange (admin : Address) : Vault Unit := do
  let env ← ask
  requireAdminAuth admin
  let found ← load (.persistent .pendingTreasuryChange)
  let pending ← okOr found .notFound
  failIf (env.now < pending.effectiveAt) .timelockNotElapsed
  writeConfig .feeBps pending.newFeeBps
  writeConfig .treasury pending.newTreasury
  delete (.persistent .pendingTreasuryChange)

def cancelTreasuryChange (admin : Address) : Vault Unit := do
  requireAdminAuth admin
  let found ← load (.persistent .pendingTreasuryChange)
  failIf found.isNone .notFound
  delete (.persistent .pendingTreasuryChange)

def State.acceptedTokens (s : State) : List Address :=
  (s.read (.instanced .acceptedTokens)).getD []

def State.tokenSubs (s : State) (token : Address) : List Nat :=
  (s.read (.instanced (.tokenSubs token))).getD []

def addAcceptedToken (admin token : Address) (decimals : Nat) : Vault Unit := do
  requireAdminAuth admin
  let id ← requireMultisigApproval ⟨.addAcceptedToken, token, none, decimals⟩
  let s ← getState
  when (s.isTokenAccepted token = false) do
    enforceConfigCooldown .acceptedTokens
    store (.instanced .acceptedTokens) (s.acceptedTokens ++ [token])
  store (.instanced (.tokenDecimals token)) decimals
  consumeMultisigProposal id

def Subscription.isLive (sub : Subscription) : Bool :=
  sub.status = .active || sub.status = .gracePeriod

def removeAcceptedToken (admin token : Address) : Vault Unit := do
  requireAdminAuth admin
  let s ← getState
  let default ← lift s.defaultToken
  failIf (token = default) .invalidInput
  failIf ((s.tokenSubs token).any fun id => (s.subscription id).any (·.isLive))
    .invalidStatusTransition
  let id ← requireMultisigApproval ⟨.removeAcceptedToken, token, none, 0⟩
  enforceConfigCooldown .acceptedTokens
  delete (.instanced (.tokenDecimals token))
  store (.instanced .acceptedTokens) (s.acceptedTokens.filter (· ≠ token))
  consumeMultisigProposal id

/-! ## Emergency stop -/

/-- The value field of an emergency-stop proposal. -/
def stopValue (enabled : Bool) : Nat := if enabled then 1 else 0

/-- Shared by the two emergency-stop entrypoints; nothing happens when the flag is already as
asked for. -/
def switchEmergencyStop (admin : Address) (enabled : Bool) : Vault Unit := do
  requireAdminAuth admin
  let s ← getState
  if s.emergencyStop = enabled then pure ()
  else do
    let id ← requireMultisigApproval ⟨.emergencyStop, admin, none, stopValue enabled⟩
    enforceConfigCooldown .emergencyStop
    writeConfig .emergencyStop enabled
    consumeMultisigProposal id

def enableEmergencyStop (admin : Address) : Vault Unit := switchEmergencyStop admin true
def disableEmergencyStop (admin : Address) : Vault Unit := switchEmergencyStop admin false

/-! ## Entrypoints -/

inductive AdminCall where
  | init (token : Address) (tokenDecimals : Nat) (admin : Address) (minTopup : Int)
      (gracePeriod : Nat)
  | rotateAdmin (currentAdmin newAdmin : Address) (nonce : Nat)
  | proposeAdmin (currentAdmin newAdmin : Address)
  | claimAdminRole (claimant : Address)
  | cancelAdminProposal (admin : Address)
  | recoverStrandedFunds (admin token recipient : Address) (amount : Int) (recoveryId : Bytes)
  | queueTreasuryChange (admin treasury : Address) (feeBps : Nat)
  | executeTreasuryChange (admin : Address)
  | cancelTreasuryChange (admin : Address)
  | addAcceptedToken (admin token : Address) (decimals : Nat)
  | removeAcceptedToken (admin token : Address)
  | enableEmergencyStop (admin : Address)
  | disableEmergencyStop (admin : Address)
  | submitProposal (request : Request) (quorumBps eta : Nat)
  | voteProposal (id : Nat) (votedYes : Bool) (nonce : Nat)
  | executeProposal (id : Nat)
  | cancelProposal (id : Nat)
  | addGuardian (admin guardian : Address) (weight : Nat)
  | removeGuardian (admin guardian : Address)

/-- The code of an entrypoint. `set_protocol_fee` is `queue_treasury_change`. -/
def AdminCall.exec : AdminCall → Vault Unit
  | .init token tokenDecimals admin minTopup gracePeriod =>
    doInit token tokenDecimals admin minTopup gracePeriod
  | .rotateAdmin currentAdmin newAdmin nonce => do
    requireNotEmergencyStop
    doRotateAdmin currentAdmin newAdmin nonce
  | .proposeAdmin currentAdmin newAdmin => do
    requireNotEmergencyStop
    doProposeAdmin currentAdmin newAdmin
  | .claimAdminRole claimant => do
    requireNotEmergencyStop
    doClaimAdminRole claimant
  | .cancelAdminProposal admin => doCancelAdminProposal admin
  | .recoverStrandedFunds admin token recipient amount recoveryId =>
    doRecoverStrandedFunds admin token recipient amount recoveryId
  | .queueTreasuryChange admin treasury feeBps => do
    rejectContractSelf treasury
    SubscriptionVault.queueTreasuryChange admin treasury feeBps
  | .executeTreasuryChange admin => SubscriptionVault.executeTreasuryChange admin
  | .cancelTreasuryChange admin => SubscriptionVault.cancelTreasuryChange admin
  | .addAcceptedToken admin token decimals => do
    rejectContractSelf token
    SubscriptionVault.addAcceptedToken admin token decimals
  | .removeAcceptedToken admin token => SubscriptionVault.removeAcceptedToken admin token
  | .enableEmergencyStop admin => SubscriptionVault.enableEmergencyStop admin
  | .disableEmergencyStop admin => SubscriptionVault.disableEmergencyStop admin
  | .submitProposal request quorumBps eta => do
    let _ ← doSubmitProposal request quorumBps eta
    pure ()
  | .voteProposal id votedYes nonce => doVoteProposal id votedYes nonce
  | .executeProposal id => doExecuteProposal id
  | .cancelProposal id => doCancelProposal id
  | .addGuardian admin guardian weight => do
    requireAdminAuth admin
    SubscriptionVault.addGuardian guardian weight
  | .removeGuardian admin guardian => do
    requireAdminAuth admin
    SubscriptionVault.removeGuardian guardian

end SubscriptionVault
