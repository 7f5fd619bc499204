import SubscriptionVault.Contract.Lifecycle
import SubscriptionVault.Contract.Queries

/-!
# Listings

Reads of many subscriptions, in pages: those of a subscriber by their ids, those of a merchant or a
token by their places in the index, and scans of all ids for stranded and for prepaid balances.
-/

namespace SubscriptionVault

def maxSubscriptionListPage : Nat := 100

def maxMerchantCursorDepth : Nat := 1000

def maxQueryResults : Nat := 100

def maxScanDepth : Nat := 1000

def maxPrepaidScanDepth : Nat := 500

/-! ## By subscriber -/

structure SubscriptionsPage where
  subscriptionIds : List Nat
  nextStartId : Option Nat
deriving DecidableEq

/-- The loop over the index, with the number of ids looked at and the ids found. -/
def scanSubscriberIndex (startFromId limit : Nat) :
    List Nat → Nat → List Nat → SubscriptionsPage
  | [], _, found => ⟨found, none⟩
  | id :: rest, scanned, found =>
    if id < startFromId then scanSubscriberIndex startFromId limit rest scanned found
    else if maxScanDepth ≤ scanned then ⟨found, some id⟩
    else if found.length < limit then
      scanSubscriberIndex startFromId limit rest (scanned + 1) (found ++ [id])
    else ⟨found, some id⟩

def State.listSubscriptionsBySubscriber (s : State) (subscriber : Address)
    (startFromId limit : Nat) : Except Error SubscriptionsPage :=
  if limit = 0 ∨ maxQueryResults < limit then .error .invalidExportLimit
  else if s.nextSubscriptionId = 0 ∧ 0 < startFromId ∨
      0 < s.nextSubscriptionId ∧ s.nextSubscriptionId ≤ startFromId then .error .invalidInput
  else .ok (scanSubscriberIndex startFromId limit (s.subscriberSubs subscriber) 0 [])

/-! ## By merchant and by token -/

structure SubscriptionsIndexPage where
  subscriptions : List Subscription
  nextCursor : Option Nat
  total : Nat
deriving DecidableEq

/-- The loop of `read_merchant_page` over as many positions. -/
def State.readMerchantPositions (s : State) (ids : List Nat) (reverse : Bool) :
    Nat → Nat → List Subscription
  | 0, _ => []
  | steps + 1, position =>
    let index := if reverse then ids.length - 1 - position else position
    (ids[index]?.bind s.subscription).toList ++
      s.readMerchantPositions ids reverse steps (position + 1)

def State.readMerchantPage (s : State) (ids : List Nat) (start limit : Nat) (reverse : Bool) :
    List Subscription :=
  let stop := min (saturatingAddU32 start limit) ids.length
  s.readMerchantPositions ids reverse (stop - start) start

def State.getSubscriptionsByMerchantPaginated (s : State) (merchant : Address)
    (cursor : Option Nat) (limit : Nat) (reverse : Bool) : Except Error SubscriptionsIndexPage :=
  if limit = 0 ∨ maxSubscriptionListPage < limit then .error .invalidInput
  else
    let ids := s.merchantSubs merchant
    let start := cursor.getD 0
    if ids.length ≤ start ∨ maxMerchantCursorDepth ≤ start then .ok ⟨[], none, ids.length⟩
    else
      let stop := min (min (saturatingAddU32 start limit) ids.length) maxMerchantCursorDepth
      .ok { subscriptions := s.readMerchantPage ids start (stop - start) reverse
            nextCursor := if stop < ids.length ∧ stop < maxMerchantCursorDepth then some stop
              else none
            total := ids.length }

def State.listSubscriptionsByToken (s : State) (token : Address) (cursor : Option Nat)
    (limit : Nat) : Except Error SubscriptionsIndexPage :=
  if limit = 0 ∨ maxSubscriptionListPage < limit then .error .invalidInput
  else
    let ids := s.tokenSubs token
    let start := cursor.getD 0
    if ids.length ≤ start then .ok ⟨[], none, ids.length⟩
    else
      let stop := min (saturatingAddU32 start limit) ids.length
      .ok { subscriptions := ((ids.drop start).take (stop - start)).filterMap s.subscription
            nextCursor := if stop < ids.length then some stop else none
            total := ids.length }

/-! ## Stranded balances -/

structure RecoverableSubscription where
  subscriptionId : Nat
  subscriber : Address
  merchant : Address
  token : Address
  prepaidBalance : Int
deriving DecidableEq

structure RecoverableSubscriptionsPage where
  subscriptions : List RecoverableSubscription
  nextCursor : Option Nat
deriving DecidableEq

/-- A cancelled subscription that still holds money. -/
def State.recoverable (s : State) (id : Nat) : Option RecoverableSubscription :=
  (s.subscription id).bind fun sub =>
    if sub.status = .cancelled ∧ 0 < sub.prepaidBalance then
      some ⟨id, sub.subscriber, sub.merchant, sub.token, sub.prepaidBalance⟩
    else none

/-- The loop from an id on, with as many ids to go. -/
def State.scanRecoverable (s : State) (limit : Nat) :
    Nat → Nat → Nat → List RecoverableSubscription → RecoverableSubscriptionsPage
  | 0, _, _, found => ⟨found, none⟩
  | left + 1, cursorId, scanned, found =>
    if maxScanDepth ≤ scanned then ⟨found, some cursorId⟩
    else match s.recoverable cursorId with
      | some entry =>
        if found.length < limit then
          s.scanRecoverable limit left (cursorId + 1) (scanned + 1) (found ++ [entry])
        else ⟨found, some cursorId⟩
      | none => s.scanRecoverable limit left (cursorId + 1) (scanned + 1) found

def State.listRecoverableSubscriptions (s : State) (cursor : Option Nat) (limit : Nat) :
    Except Error RecoverableSubscriptionsPage :=
  if limit = 0 ∨ maxQueryResults < limit then .error .invalidExportLimit
  else
    let start := cursor.getD 0
    if s.nextSubscriptionId = 0 ∨ s.nextSubscriptionId ≤ start then .ok ⟨[], none⟩
    else .ok (s.scanRecoverable limit (s.nextSubscriptionId - start) start 0 [])

/-! ## Prepaid balances -/

structure PrepaidQueryRequest where
  token : Address
  startSubscriptionId : Nat
  scanLimit : Nat
deriving DecidableEq

structure PrepaidQueryResult where
  token : Address
  partialTotal : Int
  subscriptionsCount : Nat
  nextStartId : Option Nat
  hasMore : Bool
deriving DecidableEq

/-- One id of the loop over the prepaid balances of a token. -/
def State.addPrepaid (s : State) (token : Address) (found : Int × Nat) (id : Nat) : Int × Nat :=
  match s.subscription id with
  | some sub =>
    if sub.token = token ∧ 0 < sub.prepaidBalance then
      (clampI128 (found.1 + sub.prepaidBalance), saturatingAddU32 found.2 1)
    else found
  | none => found

/-- The end of the scan is an unchecked `u32` sum. -/
def State.queryPrepaidBalancesPaginated (s : State) (request : PrepaidQueryRequest) :
    PrepaidQueryResult :=
  let scanLimit := min request.scanLimit maxPrepaidScanDepth
  let start := request.startSubscriptionId
  if s.nextSubscriptionId = 0 ∨ s.nextSubscriptionId ≤ start then
    ⟨request.token, 0, 0, none, false⟩
  else
    let scanEnd := min ((start + scanLimit) % 2 ^ 32) s.nextSubscriptionId
    let found := (List.range' start (scanEnd - start)).foldl (s.addPrepaid request.token) (0, 0)
    { token := request.token, partialTotal := found.1, subscriptionsCount := found.2
      nextStartId := if scanEnd < s.nextSubscriptionId then some scanEnd else none
      hasMore := scanEnd < s.nextSubscriptionId }

end SubscriptionVault
