import SubscriptionVault.Contract.Administration

/-!
# Subscription records

The subscription record itself and what a charge leaves behind: billing statements, one
snapshot per billing period, and the recently used idempotency keys.
-/

namespace SubscriptionVault

open Exec

/-! ## Subscriptions -/

namespace State

/-- `get_subscription`: a grace period that has run out reads as underfunded. -/
def effectiveSubscription (s : State) (id now : Nat) : Option Subscription :=
  (s.subscription id).map fun sub =>
    if sub.status = .gracePeriod ∧ sub.graceStartTimestamp.any fun graceStart =>
        s.gracePeriod.toOption.getD 0 = 0 ||
          saturatingAddU64 graceStart (s.gracePeriod.toOption.getD 0) ≤ now then
      { sub with status := .insufficientBalance }
    else sub

def splitPayees (s : State) (id : Nat) : Option SplitPayees :=
  s.read (.persistent (.splitPayees id))

/-- Only the status may read differently from what is stored. -/
theorem effectiveSubscription_eq_some {s : State} {id now : Nat} {sub : Subscription} :
    s.effectiveSubscription id now = some sub →
      ∃ stored, s.subscription id = some stored ∧ sub = { stored with status := sub.status } := by
  intro h
  obtain ⟨stored, hstored, rfl⟩ := Option.map_eq_some_iff.mp h
  refine ⟨stored, hstored, ?_⟩
  split <;> rfl

theorem effectiveSubscription_of_subscription {s : State} {id : Nat} {stored : Subscription}
    (h : s.subscription id = some stored) (now : Nat) :
    ∃ status, s.effectiveSubscription id now = some { stored with status } := by
  unfold effectiveSubscription
  rw [h, Option.map_some]
  split
  · exact ⟨_, rfl⟩
  · exact ⟨stored.status, rfl⟩

end State

def getSubscription (id : Nat) : Vault Subscription := do
  let env ← ask
  let found ← gets (·.effectiveSubscription id env.now)
  okOr found .notFound

@[simp] theorem run_getSubscription_ok {r : Env} {s t : State} {id : Nat} {sub : Subscription} :
    (getSubscription id).run r s = .ok sub t ↔
      s.effectiveSubscription id r.now = some sub ∧ s = t := by
  simp only [getSubscription, run_bind_ok, run_ask_ok, run_gets_ok, run_okOr_ok]
  constructor
  · rintro ⟨_, _, ⟨rfl, rfl⟩, _, _, ⟨rfl, rfl⟩, hfound⟩
    exact hfound
  · exact fun hfound => ⟨_, _, ⟨rfl, rfl⟩, _, _, ⟨rfl, rfl⟩, hfound⟩

def writeSubscription (id : Nat) (sub : Subscription) : Vault Unit :=
  store (.persistent (.sub id)) sub

def nextChargeTime (lastPayment interval : Nat) : Except Error Nat :=
  (checkedAddU64 lastPayment interval).elim (.error .overflow) .ok

def lifetimeCapReached (cap lifetimeCharged : Int) : Bool := cap ≤ lifetimeCharged

/-- The cap, if any, is used up. -/
def Subscription.capReached (sub : Subscription) : Bool :=
  sub.lifetimeCap.any (lifetimeCapReached · sub.lifetimeCharged)

/-! ## Statements -/

def State.statementSequence (s : State) (id : Nat) : Nat :=
  (s.read (.persistent (.billingStatementSequence id))).getD 0

def appendStatement (id : Nat) (amount : Int) (merchant token : Address)
    (kind : BillingChargeKind) (periodStart timestamp : Nat) : Vault Unit := do
  let seq ← gets (·.statementSequence id)
  let nextSeq ← okOr (checkedAddU32 seq 1) .overflow
  store (.persistent (.billingStatementSequence id)) nextSeq
  store (.persistent (.billingStatement id nextSeq))
    { subscriptionId := id, sequence := nextSeq, chargedAt := timestamp, periodStart,
      periodEnd := timestamp, amount, merchant, token, kind }
  let ids ← load (.persistent (.billingStatementsBySubscription id))
  store (.persistent (.billingStatementsBySubscription id)) (ids.getD [] ++ [nextSeq])

/-! ## Period snapshots -/

def snapshotFlagClosed : Nat := 1
def snapshotFlagIntervalCharged : Nat := 2
def snapshotFlagUsageCharged : Nat := 4
def snapshotFlagEmpty : Nat := 8

def maxBillingPeriodSnapshots : Nat := 365

def BillingPeriodSnapshot.hasFlag (snapshot : BillingPeriodSnapshot) (flag : Nat) : Prop :=
  snapshot.statusFlags &&& flag ≠ 0

instance (snapshot : BillingPeriodSnapshot) (flag : Nat) : Decidable (snapshot.hasFlag flag) :=
  inferInstanceAs (Decidable (_ ≠ _))

/-- The new snapshot added onto one already stored for the period. -/
def BillingPeriodSnapshot.mergeOnto (snapshot existing : BillingPeriodSnapshot) :
    Except Error BillingPeriodSnapshot :=
  if existing.hasFlag snapshotFlagClosed then .error .invalidStatusTransition
  else do
    let totalCharged ← safeAdd existing.totalCharged snapshot.totalCharged
    let totalUsageUnits ← safeAdd existing.totalUsageUnits snapshot.totalUsageUnits
    pure { snapshot with
      totalCharged
      totalUsageUnits
      statusFlags := snapshot.statusFlags ||| existing.statusFlags
      periodStart := existing.periodStart
      periodEnd := max snapshot.periodEnd existing.periodEnd
      finalizedAt := max snapshot.finalizedAt existing.finalizedAt }

def BillingPeriodSnapshot.markEmpty (snapshot : BillingPeriodSnapshot) :
    BillingPeriodSnapshot :=
  if snapshot.hasFlag snapshotFlagClosed ∧
      ¬snapshot.hasFlag (snapshotFlagIntervalCharged ||| snapshotFlagUsageCharged) then
    { snapshot with statusFlags := snapshot.statusFlags ||| snapshotFlagEmpty }
  else snapshot

/-- How many of the oldest periods are beyond the limit. -/
@[irreducible] def excessPeriods (periods : List Nat) : Nat := periods.length - maxBillingPeriodSnapshots

/-- Append a period to the index, dropping the oldest snapshots beyond the limit. -/
def indexPeriodSnapshot (id period : Nat) : Vault Unit := do
  let stored ← load (.persistent (.billingPeriodSnapshotIndex id))
  let periods := stored.getD [] ++ [period]
  forEach (periods.take (excessPeriods periods)) fun oldest =>
    delete (.persistent (.billingPeriodSnapshot id oldest))
  store (.persistent (.billingPeriodSnapshotIndex id)) (periods.drop (excessPeriods periods))

def writePeriodSnapshot (snapshot : BillingPeriodSnapshot) : Vault Unit := do
  let id := snapshot.subscriptionId
  let period := snapshot.periodIndex
  failIf (snapshot.periodEnd < snapshot.periodStart) .invalidInput
  failIf (snapshot.hasFlag snapshotFlagIntervalCharged ∧
    snapshot.periodEnd ≤ snapshot.periodStart) .invalidInput
  let existing ← load (.persistent (.billingPeriodSnapshot id period))
  let merged ← lift (existing.elim (.ok snapshot) snapshot.mergeOnto)
  let marked := merged.markEmpty
  failIf (¬marked.hasFlag snapshotFlagEmpty ∧ marked.totalCharged ≤ 0) .invalidInput
  store (.persistent (.billingPeriodSnapshot id period)) marked
  when (existing = none) (indexPeriodSnapshot id period)

/-! ## Idempotency keys -/

/-- Number of idempotency keys kept for a subscription. -/
def idemHistory : Nat := 64

namespace State

def idemTtlSecs (s : State) : Nat := (s.read (.symbol .idemTtl)).getD (7 * 24 * 60 * 60)

def idemBuffer (s : State) (id : Nat) : IdemRingBuffer :=
  (s.read (.instanced (.idemKey id))).getD { entries := [], cursor := 0 }

/-- The key was recorded and its entry has not aged out. -/
def checkKey (s : State) (id : Nat) (hashed : BytesN32) (now : Nat) : Bool :=
  (s.idemBuffer id).entries.any fun entry =>
    now - entry.2 < s.idemTtlSecs && entry.1 = hashed

end State

/-- Live entries, oldest first. -/
def IdemRingBuffer.retained (buf : IdemRingBuffer) (now ttl : Nat) : List (BytesN32 × Nat) :=
  let start := if buf.entries.length = idemHistory then buf.cursor % buf.entries.length else 0
  (buf.entries.rotate start).filter fun entry => now - entry.2 < ttl

/-- A full buffer is an error: evicting a live key would allow its replay. -/
def pushKey (id : Nat) (hashed : BytesN32) (now : Nat) : Vault Unit := do
  let buf ← gets (·.idemBuffer id)
  let ttl ← gets (·.idemTtlSecs)
  let retained := buf.retained now ttl
  failIf (idemHistory ≤ retained.length) .idemBufferFull
  store (.instanced (.idemKey id)) { entries := retained ++ [(hashed, now)], cursor := 0 }

/-- The stored form of a caller's key. -/
def hashIdemKey (env : Env) (domain : NonceDomain) (id : Nat) (key : BytesN32) : BytesN32 :=
  env.host.hashIdemKey domain.asU32 id key

/-- The caller's key, if given, was used before. -/
def State.isReplayedKey (s : State) (env : Env) (domain : NonceDomain) (id : Nat)
    (key : Option BytesN32) : Bool :=
  key.any fun k => s.checkKey id (hashIdemKey env domain id k) env.now

def recordIdemKey (domain : NonceDomain) (id : Nat) (key : Option BytesN32) : Vault Unit := do
  let env ← ask
  whenSome key fun k => pushKey id (hashIdemKey env domain id k) env.now

end SubscriptionVault
