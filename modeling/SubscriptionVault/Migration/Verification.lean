import SubscriptionVault.Lifecycle.Transactions
import SubscriptionVault.Migration.Settings

/-!
# The check at the end of a migration

A migration looks at three subscriptions before it is done, and refuses a subscription without
a fixed amount. Creation allows such subscriptions when they are charged by usage.
-/

namespace SubscriptionVault

open Exec

/-- The migration to the current version goes through, with every subscription as it was. -/
def MigrationAccepted (env : Env) (s : State) (admin : Address) : Prop :=
  ∃ t, (doMigrate admin false).run env s = .ok () t ∧ t.subscription = s.subscription ∧
    t.schemaVersion = storageVersion

/-- The next id as it is read after the migration. -/
def State.promotedNextId (s : State) : Nat :=
  if s.schemaVersion < 3 then
    ((s.read (.instanced .nextId)).or (s.read (.persistent .nextId))).getD 0
  else s.nextSubscriptionId

/-- The first, the middle and the last of the ids in use. -/
def sampledIds (nextId : Nat) : List Nat :=
  if 0 < nextId then [0, nextId / 2, nextId - 1] else []

/-- What the migration asks of a subscription. -/
structure Subscription.Migratable (sub : Subscription) : Prop where
  amount : 0 < sub.amount
  interval : sub.intervalSeconds ≠ 0
  prepaid : 0 ≤ sub.prepaidBalance
  lifetime : 0 ≤ sub.lifetimeCharged

/-- The sampled subscriptions pass, and from version 3 on the old tier has been cleared. -/
structure Migratable (s : State) : Prop where
  samples : ∀ id ∈ sampledIds s.promotedNextId, ∀ sub, s.subscription id = some sub →
    sub.Migratable
  cleared : 3 ≤ s.schemaVersion → s.hasLegacyConfig = false

/-! ## The state that is verified -/

/-- The state with its settings moved if need be, and the current version. -/
def State.migrated (s : State) : State :=
  ((if s.schemaVersion ≤ 2 then s.promoted 3 else s).write (.persistent .schemaVersion)
    storageVersion).remove (.instanced .schemaVersion)

section Migrated

variable {env : Env} {s t : State} {admin : Address}

theorem State.schemaVersion_migrated (s : State) : s.migrated.schemaVersion = storageVersion :=
  State.schemaVersion_relabelled _ _

theorem State.promotes_migrated (h : s.schemaVersion < 3) : Promotes s s.migrated := by
  unfold State.migrated
  rw [if_pos (Nat.le_of_lt_succ h)]
  exact s.promotes_promoted.relabelled (by decide)

/-- From version 3 on only the version is written. -/
theorem read_migrated_of_late (h : 3 ≤ s.schemaVersion) {k : Slot} {α : Type}
    [Holds Slot.Val k α] (hp : k ≠ .persistent .schemaVersion)
    (hi : k ≠ .instanced .schemaVersion) : (s.migrated.read k : Option α) = s.read k := by
  have hlate : ¬s.schemaVersion ≤ 2 := by omega
  unfold State.migrated
  rw [if_neg hlate, FiniteStore.read_remove_of_ne _ hi, FiniteStore.read_write_of_ne _ _ hp]

theorem State.subscription_migrated (s : State) : s.migrated.subscription = s.subscription := by
  funext id
  rcases Nat.lt_or_ge s.schemaVersion 3 with hold | hlate
  · exact ((State.promotes_migrated hold).persistent (.sub id) (by simp)).trans
      (if_neg (by simp [promotedKeys]))
  · exact read_migrated_of_late hlate (by simp) (by simp)

theorem State.nextSubscriptionId_migrated (s : State) :
    s.migrated.nextSubscriptionId = s.promotedNextId := by
  have hversion : 3 ≤ s.migrated.schemaVersion := by
    rw [s.schemaVersion_migrated]
    decide
  have hread : s.migrated.nextSubscriptionId =
      (s.migrated.read (.persistent .nextId)).getD 0 :=
    congrArg (fun found : Option Nat => found.getD 0) (State.config_of_late hversion .nextId)
  rw [hread]
  unfold State.promotedNextId
  rcases Nat.lt_or_ge s.schemaVersion 3 with hold | hlate
  · rw [if_pos hold]
    exact congrArg (fun found : Option Nat => found.getD 0)
      (((State.promotes_migrated hold).persistent .nextId (by simp)).trans (if_pos (by decide)))
  · rw [if_neg (Nat.not_lt.mpr hlate), read_migrated_of_late hlate (by simp) (by simp)]
    exact (congrArg (fun found : Option Nat => found.getD 0) (State.config_of_late hlate .nextId)).symm

theorem State.hasLegacyConfig_migrated (s : State) :
    s.migrated.hasLegacyConfig = false ↔ (3 ≤ s.schemaVersion → s.hasLegacyConfig = false) := by
  rcases Nat.lt_or_ge s.schemaVersion 3 with hold | hlate
  · have hcleared {key : DataKey} (hkey : key ∈ promotedKeys) (hne : key ≠ .schemaVersion) :
        s.migrated.read (.instanced key) = none :=
      ((State.promotes_migrated hold).instanced key hne).trans (if_pos hkey)
    refine iff_of_true ?_ fun hlate => absurd hold (Nat.not_lt.mpr hlate)
    unfold State.hasLegacyConfig
    simp only [Bool.or_eq_false_iff, Option.isSome_eq_false_iff, Option.isNone_iff_eq_none]
    refine ⟨⟨⟨⟨⟨⟨⟨⟨?_, ?_⟩, ?_⟩, ?_⟩, ?_⟩, ?_⟩, ?_⟩, ?_⟩, ?_⟩
    all_goals exact hcleared (by decide) (by decide)
  · have hsame : s.migrated.hasLegacyConfig = s.hasLegacyConfig := by
      unfold State.hasLegacyConfig
      simp only [read_migrated_of_late hlate, ne_eq, reduceCtorEq, not_false_eq_true,
        Slot.instanced.injEq]
    rw [hsame]
    exact ⟨fun h _ => h, fun h => h hlate⟩

theorem isMigratedSubscription_iff {id : Nat} : s.isMigratedSubscription id = true ↔
    ∀ sub, s.subscription id = some sub → sub.Migratable := by
  unfold State.isMigratedSubscription
  cases s.subscription id with
  | none => simp
  | some sub =>
    simp only [Option.all_some, Bool.and_eq_true, decide_eq_true_eq, Option.some.injEq,
      forall_eq']
    constructor
    · rintro ⟨⟨⟨hamount, hinterval⟩, hprepaid⟩, hlifetime⟩
      exact ⟨hamount, hinterval, hprepaid, hlifetime⟩
    · rintro ⟨hamount, hinterval, hprepaid, hlifetime⟩
      exact ⟨⟨⟨hamount, hinterval⟩, hprepaid⟩, hlifetime⟩

theorem State.migrationVerified_migrated (s : State) :
    s.migrated.migrationVerified storageVersion = true ↔ Migratable s := by
  have hwritten : s.migrated.read (.persistent .schemaVersion) = some storageVersion := by
    unfold State.migrated
    rw [FiniteStore.read_remove_of_ne _ (by simp), FiniteStore.read_write_self]
  have hdropped : s.migrated.read (.instanced .schemaVersion) = none := by
    unfold State.migrated
    rw [FiniteStore.read_remove_self]
  have hsamples : s.migrated.migrationSamples = sampledIds s.promotedNextId := by
    unfold State.migrationSamples sampledIds
    rw [s.nextSubscriptionId_migrated]
  unfold State.migrationVerified
  rw [hwritten, hdropped, hsamples, s.schemaVersion_migrated]
  simp only [decide_true, Bool.true_and, ne_eq, reduceCtorEq, not_false_eq_true,
    Bool.and_eq_true, Bool.not_eq_true', s.hasLegacyConfig_migrated, List.all_eq_true,
    isMigratedSubscription_iff, s.subscription_migrated]
  exact ⟨fun ⟨hcleared, hsound⟩ => ⟨hsound, hcleared⟩, fun h => ⟨h.cleared, h.samples⟩⟩

end Migrated

/-! ## Acceptance -/

section Acceptance

variable {env : Env} {s t : State} {admin : Address}

theorem run_doMigrate_ok (hsigned : env.authorized admin ∧ admin ≠ env.host.contract)
    (hadmin : s.admin = some admin) (hversion : s.schemaVersion ≤ storageVersion) :
    (doMigrate admin false).run env s = .ok () t ↔
      s.schemaVersion = storageVersion ∧ s = t ∨
        s.schemaVersion ≠ storageVersion ∧ Migratable s ∧ s.migrated = t := by
  have hauth : (requireAdminAuth admin).run env s = .ok () s :=
    run_requireAdminAuth_ok.mpr ⟨⟨hadmin, hsigned⟩, rfl⟩
  have hstored : (gets (·.schemaVersion) : Vault _).run env s = .ok s.schemaVersion s :=
    run_gets_ok.mpr ⟨rfl, rfl⟩
  unfold doMigrate
  rw [run_seq_of_ok hauth, run_bind_of_ok hstored,
    run_seq_of_ok (run_failIf_ok.mpr ⟨Nat.not_lt.mpr hversion, rfl⟩), run_when_ok]
  have hmoved : (when (s.schemaVersion ≤ 2) doMigrateConfigToPersistentInternal).run env s =
      .ok () (if s.schemaVersion ≤ 2 then s.promoted 3 else s) := by
    by_cases hold : s.schemaVersion ≤ 2
    · rw [if_pos hold]
      exact run_when_ok.mpr (.inl ⟨hold, run_migrateInternal⟩)
    · rw [if_neg hold]
      exact run_when_ok.mpr (.inr ⟨hold, rfl⟩)
  rw [run_seq_of_ok hmoved, run_seq_of_ok (run_store_ok.mpr rfl),
    run_seq_of_ok (run_delete_ok.mpr rfl)]
  have hverified (u : State) : (verifyMigration storageVersion).run env u = .ok () t ↔
      u.migrationVerified storageVersion = true ∧ u = t := by
    simp [verifyMigration]
  rw [hverified]
  show (false = false ∧ s.schemaVersion ≠ storageVersion) ∧
    (s.migrated.migrationVerified storageVersion = true ∧ s.migrated = t) ∨ _ ↔ _
  rw [s.migrationVerified_migrated]
  by_cases hcurrent : s.schemaVersion = storageVersion
  · simp [hcurrent]
  · simp [hcurrent]

end Acceptance

/-- The vault of an earlier release, of schema version 4. -/
private def olderVault : State :=
  (afterCalls (sampleVault 0)).write (.persistent .schemaVersion) 4

/-- A subscription that is charged by usage only. -/
private def usageOnlyCalls : List (Env × VaultCall) :=
  [(sampleEnv 0 [⟨2⟩], .createSubscription { sampleRequest with amount := 0, usageEnabled := true }),
   (sampleEnv 0 [⟨1⟩], .configureUsageLimits 0 ⟨⟨1⟩, none, 0, 0, none⟩)]

end SubscriptionVault
