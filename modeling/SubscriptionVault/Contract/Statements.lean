import SubscriptionVault.Contract.Merchant

/-!
# Billing statements

Old statements of a subscription are folded into one record of totals and deleted; those that are
kept are read in pages, in either order.
-/

namespace SubscriptionVault

open Exec

structure BillingCompactionSummary where
  subscriptionId : Nat
  prunedCount : Nat
  keptCount : Nat
  totalPrunedAmount : Int
deriving DecidableEq

structure BillingStatementsPage where
  statements : List BillingStatement
  nextCursor : Option Nat
  total : Nat
deriving DecidableEq

namespace State

def statementIds (s : State) (id : Nat) : List Nat :=
  (s.read (.persistent (.billingStatementsBySubscription id))).getD []

def billingStatement (s : State) (id seq : Nat) : Option BillingStatement :=
  s.read (.persistent (.billingStatement id seq))

def getRetentionConfig (s : State) : BillingRetentionConfig :=
  (s.read (.instanced .billingRetentionConfig)).getD ⟨0⟩

def getCompactedAggregate (s : State) (id : Nat) : BillingStatementAggregate :=
  (s.read (.persistent (.billingStatementAggregate id))).getD ⟨0, 0, ⟨0, 0, 0⟩, none, none⟩

end State

def setRetentionConfig (keepRecent : Nat) : Vault Unit :=
  store (.instanced .billingRetentionConfig) (⟨keepRecent⟩ : BillingRetentionConfig)

/-! ## Compaction -/

/-- What the loop over the pruned statements adds up. -/
structure PrunedTotals where
  amount : Int
  totals : AccruedTotals
  oldest : Option Nat
  newest : Option Nat
deriving DecidableEq

def PrunedTotals.add (pruned : PrunedTotals) (stmt : BillingStatement) :
    Except Error PrunedTotals := do
  let amount ← checkedI128 (pruned.amount + stmt.amount) .overflow
  let totals ← pruned.totals.accrue stmt.kind stmt.amount
  .ok { amount, totals
        oldest := some (pruned.oldest.elim stmt.periodStart (min · stmt.periodStart))
        newest := some (pruned.newest.elim stmt.periodEnd (max · stmt.periodEnd)) }

/-- A statement that is missing is passed over. -/
def pruneStatements (id : Nat) : List Nat → PrunedTotals → Vault PrunedTotals
  | [], pruned => pure pruned
  | seq :: rest, pruned => do
    let found ← load (.persistent (.billingStatement id seq))
    let pruned ← match found with
      | some stmt => lift (pruned.add stmt)
      | none => pure pruned
    delete (.persistent (.billingStatement id seq))
    pruneStatements id rest pruned

/-- The aggregate with the totals of one more batch of `count` statements. -/
def BillingStatementAggregate.fold (agg : BillingStatementAggregate) (count : Nat)
    (pruned : PrunedTotals) : Except Error BillingStatementAggregate := do
  let prunedCount ← ((checkedAddU32 agg.prunedCount count).elim (.error .overflow) .ok)
  let totalAmount ← checkedI128 (agg.totalAmount + pruned.amount) .overflow
  let interval ← checkedI128 (agg.totals.interval + pruned.totals.interval) .overflow
  let usage ← checkedI128 (agg.totals.usage + pruned.totals.usage) .overflow
  let oneOff ← checkedI128 (agg.totals.oneOff + pruned.totals.oneOff) .overflow
  .ok { prunedCount, totalAmount, totals := { interval, usage, oneOff }
        oldestPeriodStart := agg.oldestPeriodStart.merge min pruned.oldest
        newestPeriodEnd := agg.newestPeriodEnd.merge max pruned.newest }

def compactSubscriptionStatements (id : Nat) (keepRecentOverride : Option Nat) :
    Vault BillingCompactionSummary := do
  let config ← gets (·.getRetentionConfig)
  let keepRecent := keepRecentOverride.getD config.keepRecent
  let ids ← gets (·.statementIds id)
  if ids.length ≤ keepRecent then
    pure { subscriptionId := id, prunedCount := 0, keptCount := ids.length, totalPrunedAmount := 0 }
  else do
    let pruneCount := ids.length - keepRecent
    let pruned ← pruneStatements id (ids.take pruneCount) ⟨0, ⟨0, 0, 0⟩, none, none⟩
    store (.persistent (.billingStatementsBySubscription id)) (ids.drop pruneCount)
    let agg ← gets (·.getCompactedAggregate id)
    let folded ← lift (agg.fold pruneCount pruned)
    store (.persistent (.billingStatementAggregate id)) folded
    pure { subscriptionId := id, prunedCount := pruneCount
           keptCount := (ids.drop pruneCount).length, totalPrunedAmount := pruned.amount }

/-! ## Pages -/

/-- The statements of as many places, from one place on. -/
def collectStatements (id : Nat) (ids : List Nat) (newestFirst : Bool) :
    Nat → Nat → Vault (List BillingStatement)
  | 0, _ => pure []
  | steps + 1, i => do
    let seq ← unwrap (if newestFirst then ids[ids.length - 1 - i]? else ids[i]?)
    let found ← load (.persistent (.billingStatement id seq))
    let rest ← collectStatements id ids newestFirst steps (i + 1)
    pure (found.toList ++ rest)

def getStatementsBySubscriptionOffset (id offset limit : Nat) (newestFirst : Bool) :
    Vault BillingStatementsPage := do
  failIf (limit = 0) .invalidInput
  let ids ← gets (·.statementIds id)
  let stop := min (saturatingAddU32 offset limit) ids.length
  let statements ← collectStatements id ids newestFirst (stop - offset) offset
  pure { statements, nextCursor := if stop < ids.length then some stop else none
         total := ids.length }

def getStatementsBySubscriptionCursor (id : Nat) (cursor : Option Nat) (limit : Nat)
    (newestFirst : Bool) : Vault BillingStatementsPage :=
  getStatementsBySubscriptionOffset id (cursor.getD 0) limit newestFirst

end SubscriptionVault
