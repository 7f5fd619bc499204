import SubscriptionVault.Contract.Administration

/-!
# Schema migration

From schema version 3 on configuration lives in the persistent tier. Migration moves it there,
sets the version and verifies the result. The rewrites that later versions need only change
how records are encoded, so they leave the modelled records as they are.
-/

namespace SubscriptionVault

open Exec

/-- Move one configuration entry from the instance to the persistent tier. -/
def promoteConfig {α : Type} (key : DataKey) [Holds DataKey.Val key α] : Vault Unit := do
  let found ← load (.instanced key)
  whenSome found fun value => do
    store (.persistent key) value
    delete (.instanced key)

def doMigrateConfigToPersistentInternal : Vault Unit := do
  promoteConfig .token
  promoteConfig .admin
  promoteConfig .minTopup
  promoteConfig .gracePeriod
  promoteConfig .disputeWindowSecs
  promoteConfig .nextId
  promoteConfig .emergencyStop
  promoteConfig .treasury
  promoteConfig .feeBps
  promoteConfig .operator
  store (.persistent .schemaVersion) 3
  delete (.instanced .schemaVersion)

namespace State

/-- An instance entry that a finished migration must not leave behind. -/
def hasLegacyConfig (s : State) : Bool :=
  (s.read (.instanced .token)).isSome || (s.read (.instanced .admin)).isSome ||
    (s.read (.instanced .minTopup)).isSome || (s.read (.instanced .gracePeriod)).isSome ||
    (s.read (.instanced .nextId)).isSome || (s.read (.instanced .emergencyStop)).isSome ||
    (s.read (.instanced .treasury)).isSome || (s.read (.instanced .feeBps)).isSome ||
    (s.read (.instanced .operator)).isSome

def isMigratedSubscription (s : State) (id : Nat) : Bool :=
  (s.subscription id).all fun sub =>
    0 < sub.amount && sub.intervalSeconds ≠ 0 && 0 ≤ sub.prepaidBalance &&
      0 ≤ sub.lifetimeCharged

def nextSubscriptionId (s : State) : Nat := (s.config .nextId).getD 0

/-- The first, the middle and the last subscription stand for all of them. -/
def migrationSamples (s : State) : List Nat :=
  if 0 < s.nextSubscriptionId then
    [0, s.nextSubscriptionId / 2, s.nextSubscriptionId - 1]
  else []

/-- `verify_migration`, for versions from 3 on. -/
def migrationVerified (s : State) (version : Nat) : Bool :=
  s.schemaVersion = version && s.read (.persistent .schemaVersion) = some version &&
    s.read (.instanced .schemaVersion) ≠ some version && !s.hasLegacyConfig &&
    s.migrationSamples.all s.isMigratedSubscription

end State

def verifyMigration (version : Nat) : Vault Unit := do
  let verified ← gets (·.migrationVerified version)
  failIf (verified = false) .schemaMigrationVerificationFailed

def migrateConfigToPersistent (admin : Address) : Vault Unit := do
  requireAdminAuth admin
  let stored ← gets (·.schemaVersion)
  failIf (3 < stored) .schemaMigrationDowngrade
  doMigrateConfigToPersistentInternal
  verifyMigration 3

/-- `do_migrate` to the version of this contract. -/
def doMigrate (admin : Address) (dryRun : Bool) : Vault Unit := do
  requireAdminAuth admin
  let stored ← gets (·.schemaVersion)
  failIf (storageVersion < stored) .schemaVersionMismatch
  when (dryRun = false ∧ stored ≠ storageVersion) do
    when (stored ≤ 2) doMigrateConfigToPersistentInternal
    store (.persistent .schemaVersion) storageVersion
    delete (.instanced .schemaVersion)
    verifyMigration storageVersion

end SubscriptionVault
