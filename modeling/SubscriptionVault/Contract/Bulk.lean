import SubscriptionVault.Contract.Entrypoints

/-!
# Results of bulk calls

What a bulk pause and a bulk cancellation report of each listed subscription. The effect of the
calls does not depend on the reports, so the calls of a run leave them out.
-/

namespace SubscriptionVault

open Exec

structure BulkSubscriptionResult where
  subscriptionId : Nat
  success : Bool
  /-- The state of the subscription changed; a subscription already there is left as it is. -/
  changed : Bool
  errorCode : Nat
deriving DecidableEq

def bulkFailed (id : Nat) (e : Error) : BulkSubscriptionResult := ⟨id, false, false, e.toCode⟩

def bulkSkipped (id : Nat) : BulkSubscriptionResult := ⟨id, true, false, 0⟩

def bulkChanged (id : Nat) : BulkSubscriptionResult := ⟨id, true, true, 0⟩

/-- One listed subscription: looked up, and changed unless it is where it should be. -/
def bulkOne (target : SubscriptionStatus) (apply : Nat → Subscription → Vault Unit) (id : Nat) :
    Vault BulkSubscriptionResult := do
  let env ← ask
  let found ← attempt (getSubscription id)
  match found with
  | .error e => pure (bulkFailed id e)
  | .ok sub =>
    if sub.isExpired env.now env.sequence then pure (bulkFailed id .subscriptionExpired)
    else if sub.status = target then pure (bulkSkipped id)
    else do
      let applied ← attempt (apply id sub)
      match applied with
      | .ok () => pure (bulkChanged id)
      | .error e => pure (bulkFailed id e)

/-- `bulk_pause_one`. -/
def bulkPauseReport (id : Nat) : Vault BulkSubscriptionResult := bulkOne .paused applyPause id

/-- `bulk_cancel_one`. -/
def bulkCancelReport (id : Nat) : Vault BulkSubscriptionResult :=
  bulkOne .cancelled applyCancellation id

def bulkReports (one : Nat → Vault BulkSubscriptionResult) :
    List Nat → Vault (List BulkSubscriptionResult)
  | [] => pure []
  | id :: rest => do
    let result ← one id
    let results ← bulkReports one rest
    pure (result :: results)

/-- A list under the caller's nonce; an empty list has no results. -/
def bulkCall (one : Nat → Vault BulkSubscriptionResult) (caller : Address) (ids : List Nat)
    (nonce : Nat) : Vault (List BulkSubscriptionResult) := do
  let proceed ← bulkPrecheck caller ids nonce
  if proceed then bulkReports one ids else pure []

/-- `bulk_pause_subscriptions`. -/
def bulkPauseWithResults (caller : Address) (ids : List Nat) (nonce : Nat) :
    Vault (List BulkSubscriptionResult) :=
  bulkCall bulkPauseReport caller ids nonce

/-- `bulk_cancel_subscriptions`. -/
def bulkCancelWithResults (caller : Address) (ids : List Nat) (nonce : Nat) :
    Vault (List BulkSubscriptionResult) :=
  withLock .bulkCancelSubscriptions (bulkCall bulkCancelReport caller ids nonce)

end SubscriptionVault
