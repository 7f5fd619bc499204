import SubscriptionVault.Contract.Subscriptions

/-!
# Disputes

A dispute moves a disputed amount from the merchant's balance into an escrow and later routes
it to the merchant or to the subscriber.
-/

namespace SubscriptionVault

open Exec

namespace State

def dispute (s : State) (disputeId : Nat) : Option Dispute :=
  s.read (.persistent (.dispute disputeId))

def disputeEscrow (s : State) (disputeId : Nat) : Option DisputeEscrowLedger :=
  s.read (.instanced (.disputeEscrow disputeId))

def nextDisputeId (s : State) : Nat := (s.read (.instanced .nextDisputeId)).getD 0

end State

def DisputeEscrowLedger.remaining (ledger : DisputeEscrowLedger) : Int :=
  ledger.originalAmount - ledger.totalDisbursed

/-- Take the next dispute number; the counter wraps. -/
def allocateDisputeId : Vault Nat := do
  let current ← gets (·.nextDisputeId)
  store (.instanced .nextDisputeId) ((current + 1) % (u64Max + 1))
  pure current

/-- Put an amount in escrow under a new dispute of the subscription. -/
def recordDispute (id : Nat) (subscriber merchant : Address) (amount : Int)
    (evidenceHash : Option BytesN32) : Vault Unit := do
  let env ← ask
  let disputeId ← allocateDisputeId
  store (.instanced (.disputeEscrow disputeId)) ⟨amount, 0⟩
  store (.persistent (.dispute disputeId))
    { id := disputeId, subscriptionId := id, subscriber, merchant, amount,
      openedAt := env.now, status := .opened, evidenceHash, respondedAt := none,
      adminEvidenceHash := none }
  store (.instanced (.subscriptionDispute id)) disputeId

def doOpenDispute (subscriber : Address) (id : Nat) (amount : Int)
    (evidenceHash : Option BytesN32) : Vault Unit := do
  requireAuth subscriber
  failIf (amount ≤ 0) .invalidAmount
  let sub ← getSubscription id
  failIf (sub.subscriber ≠ subscriber) .unauthorized
  let pending ← load (.instanced (.subscriptionDispute id))
  failIf pending.isSome .disputeAlreadyOpen
  let balance ← gets (·.merchantBalance sub.merchant sub.token)
  failIf (balance < amount) .disputeAmountExceedsMerchantBalance
  let newBalance ← lift (checkedI128 (balance - amount) .underflow)
  setMerchantBalance sub.merchant sub.token newBalance
  recordDispute id subscriber sub.merchant amount evidenceHash

def doRespondDispute (admin : Address) (disputeId : Nat) (evidenceHash : Option BytesN32) :
    Vault Unit := do
  let env ← ask
  requireAdminAuth admin
  let found ← gets (·.dispute disputeId)
  let dispute ← okOr found .disputeNotFound
  failIf (dispute.status ≠ .opened) .disputeAlreadyResponded
  store (.persistent (.dispute disputeId))
    { dispute with
      status := .responded, respondedAt := some env.now, adminEvidenceHash := evidenceHash }
  let _ ← getSubscription dispute.subscriptionId
  pure ()

/-- Without an answer in time the subscriber wins. -/
def Dispute.resolution (dispute : Dispute) (toSubscriber : Bool) : DisputeStatus :=
  if dispute.status = .opened ∨ toSubscriber then .resolvedToSubscriber
  else .resolvedToMerchant

def Dispute.isResolved (dispute : Dispute) : Bool :=
  dispute.status = .resolvedToMerchant || dispute.status = .resolvedToSubscriber

/-- Hand what is left in escrow to the side that won. -/
def payOutDispute (dispute : Dispute) (token : Address) (remaining : Int)
    (resolution : DisputeStatus) : Vault Unit :=
  if resolution = .resolvedToMerchant then do
    let current ← gets (·.merchantBalance dispute.merchant token)
    let newBalance ← lift (checkedI128 (current + remaining) .overflow)
    setMerchantBalance dispute.merchant token newBalance
  else do
    let env ← ask
    subTotalAccounted token remaining
    transfer token env.host.contract dispute.subscriber remaining

/-- The escrow is always drawn in full, so its entry goes away. -/
def doResolveDispute (admin : Address) (disputeId : Nat) (toSubscriber : Bool) :
    Vault Unit := do
  let env ← ask
  requireAdminAuth admin
  let found ← gets (·.dispute disputeId)
  let dispute ← okOr found .disputeNotFound
  failIf dispute.isResolved .disputeAlreadyResolved
  let window ← gets (·.disputeWindowSecs)
  failIf (dispute.status = .opened ∧ env.now - dispute.openedAt < window) .disputeNotResponded
  let escrow ← gets (·.disputeEscrow disputeId)
  let ledger ← okOr escrow .insufficientBalance
  let remaining ← lift (checkedI128 ledger.remaining .underflow)
  failIf (remaining ≤ 0) .insufficientBalance
  let sub ← getSubscription dispute.subscriptionId
  delete (.instanced (.disputeEscrow disputeId))
  payOutDispute dispute sub.token remaining (dispute.resolution toSubscriber)
  store (.persistent (.dispute disputeId))
    { dispute with status := dispute.resolution toSubscriber }
  delete (.instanced (.subscriptionDispute dispute.subscriptionId))

/-- A merchant contests a cancellation escrow; it becomes the escrow of a dispute. -/
def doLodgeEscrowDispute (merchant : Address) (id : Nat) : Vault Unit := do
  let env ← ask
  requireAuth merchant
  let found ← gets (·.cancellationEscrow id)
  let escrow ← okOr found .escrowNotFound
  failIf (merchant ≠ escrow.merchant) .unauthorized
  failIf (escrow.releasedAt ≤ env.now) .escrowNotReleased
  let pending ← load (.instanced (.subscriptionDispute id))
  failIf pending.isSome .disputeAlreadyOpen
  delete (.persistent (.cancellationEscrow id))
  recordDispute id escrow.subscriber escrow.merchant escrow.amount none

end SubscriptionVault
