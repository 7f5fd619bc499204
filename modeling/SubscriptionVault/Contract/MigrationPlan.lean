import SubscriptionVault.Contract.Migration

/-!
# Schema migration with its summary

The summary of a migration is planned from the two versions before anything is done. A dry run
stops there and counts what would be rewritten; a real run goes from version to version and puts
the numbers of its own passes into the summary.
-/

namespace SubscriptionVault

open Exec

structure SchemaMigrationSummary where
  fromVersion : Nat
  toVersion : Nat
  configKeysToMigrate : Nat
  subsForLedgerExpiry : Nat
  subsForSubAccountLabel : Nat
  dryRun : Bool
  wouldChange : Bool
  deriving DecidableEq

/-! ## The plan -/

/-- The keys that `count_legacy_config_keys` asks for. -/
def legacyConfigKeys : List DataKey :=
  [.token, .admin, .minTopup, .gracePeriod, .disputeWindowSecs, .nextId, .emergencyStop,
    .treasury, .feeBps, .operator, .schemaVersion]

namespace State

def countLegacyConfigKeys (s : State) : Nat :=
  (legacyConfigKeys.filter fun key => (s.get (.instanced key)).isSome).length

/-- The counter of both passes over the subscriptions. -/
def countSubscriptions (s : State) (ids : List Nat) (count : Nat) : Nat :=
  ids.foldl (fun count id =>
    if (s.subscription id).isSome then saturatingAddU32 count 1 else count) count

def countRewriteableSubscriptions (s : State) : Nat :=
  s.countSubscriptions (List.range s.nextSubscriptionId) 0

def planSchemaMigration (s : State) (storedVersion binaryVersion : Nat) (dryRun : Bool) :
    SchemaMigrationSummary :=
  let needsConfigMigration := storedVersion ≤ 2 ∧ 3 ≤ binaryVersion
  let needsLedgerExpirationRewrite := storedVersion ≤ 3 ∧ 4 ≤ binaryVersion
  let needsSubAccountLabelRewrite := storedVersion ≤ 4 ∧ 5 ≤ binaryVersion
  let subscriptionCount :=
    if dryRun = true ∧ (needsLedgerExpirationRewrite ∨ needsSubAccountLabelRewrite) then
      s.countRewriteableSubscriptions
    else 0
  { fromVersion := storedVersion
    toVersion := binaryVersion
    configKeysToMigrate := if needsConfigMigration then s.countLegacyConfigKeys else 0
    subsForLedgerExpiry := if needsLedgerExpirationRewrite then subscriptionCount else 0
    subsForSubAccountLabel := if needsSubAccountLabelRewrite then subscriptionCount else 0
    dryRun
    wouldChange := decide (storedVersion ≠ binaryVersion) }

/-- `verify_migration`, for every version. -/
def migrationVerifiedAt (s : State) (version : Nat) : Bool :=
  if 3 ≤ version then s.migrationVerified version
  else s.schemaVersion = version && s.read (.instanced .schemaVersion) = some version &&
    s.read (.persistent .schemaVersion) ≠ some version

end State

/-! ## The steps -/

/-- Every record is read and written back. -/
def rewriteSubscriptions : List Nat → Nat → Vault Nat
  | [], touched => pure touched
  | id :: ids, touched => do
    let found ← load (.persistent (.sub id))
    match found with
    | some sub => do
      store (.persistent (.sub id)) sub
      rewriteSubscriptions ids (saturatingAddU32 touched 1)
    | none => rewriteSubscriptions ids touched

def rewriteSubscriptionsForLedgerExpiration : Vault Nat := do
  let nextId ← gets (·.nextSubscriptionId)
  rewriteSubscriptions (List.range nextId) 0

def rewriteSubscriptionsForSubAccountLabel : Vault Nat := do
  let nextId ← gets (·.nextSubscriptionId)
  rewriteSubscriptions (List.range nextId) 0

def versionAfter (current : Nat) : Nat := if current < 2 then 2 else current + 1

/-- What is done to get from one version to the next. -/
def migrationStep (current : Nat) (summary : SchemaMigrationSummary) :
    Vault SchemaMigrationSummary :=
  if current < 2 then pure summary
  else if current = 2 then do
    doMigrateConfigToPersistentInternal
    pure summary
  else if current = 3 then do
    let touched ← rewriteSubscriptionsForLedgerExpiration
    pure { summary with subsForLedgerExpiry := touched }
  else if current = 4 then do
    let touched ← rewriteSubscriptionsForSubAccountLabel
    pure { summary with subsForSubAccountLabel := touched }
  else pure summary

/-- The loop over the versions; every round gains one at least, so that the difference of the
versions is enough rounds. -/
def migrationSteps (binaryVersion : Nat) :
    Nat → Nat → SchemaMigrationSummary → Vault SchemaMigrationSummary
  | 0, _, summary => pure summary
  | rounds + 1, current, summary =>
    if current < binaryVersion then do
      let summary ← migrationStep current summary
      migrationSteps binaryVersion rounds (versionAfter current) summary
    else pure summary

def setSchemaVersion (binaryVersion : Nat) : Vault Unit :=
  if 3 ≤ binaryVersion then do
    store (.persistent .schemaVersion) binaryVersion
    delete (.instanced .schemaVersion)
  else store (.instanced .schemaVersion) binaryVersion

def verifyMigrationAt (version : Nat) : Vault Unit := do
  let verified ← gets (·.migrationVerifiedAt version)
  failIf (verified = false) .schemaMigrationVerificationFailed

/-- `do_migrate` to any version, with what it returns. -/
def doMigrateTo (admin : Address) (binaryVersion : Nat) (dryRun : Bool) :
    Vault SchemaMigrationSummary := do
  requireAdminAuth admin
  let storedVersion ← gets (·.schemaVersion)
  failIf (binaryVersion < storedVersion) .schemaVersionMismatch
  let summary ← gets (·.planSchemaMigration storedVersion binaryVersion dryRun)
  if dryRun = true ∨ storedVersion = binaryVersion then pure summary
  else do
    let summary ← migrationSteps binaryVersion (binaryVersion - storedVersion) storedVersion
      summary
    setSchemaVersion binaryVersion
    verifyMigrationAt binaryVersion
    pure summary

end SubscriptionVault
