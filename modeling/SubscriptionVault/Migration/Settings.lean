import SubscriptionVault.Contract.Merchant
import SubscriptionVault.Contract.Migration

/-!
# Settings across a migration

Before schema version 3 a setting is found in either tier, from then on only in the persistent
one. The migration moves ten settings by name. A setting that is read like the others but is not
on its list is lost, and so is a pause kept under the old key of a merchant.
-/

namespace SubscriptionVault

open Exec

/-- The keys that the contract reads through `read_config`. -/
def configKeys : List DataKey :=
  [.token, .admin, .minTopup, .gracePeriod, .disputeWindowSecs, .nextId, .emergencyStop,
    .treasury, .feeBps, .operator, .subscriberCreateCap, .feeToken, .buyoutPremiumBps, .oracle]

/-- The keys that the migration moves, in its order. -/
def promotedKeys : List DataKey :=
  [.token, .admin, .minTopup, .gracePeriod, .disputeWindowSecs, .nextId, .emergencyStop,
    .treasury, .feeBps, .operator]

/-! ## What the migration does to the store -/

section Promotion

instance (priority := low) DataKey.holdsVal (key : DataKey) : Holds DataKey.Val key key.Val :=
  ⟨rfl⟩

/-- The entry under `key` moved to the persistent tier. -/
def State.promote (s : State) (key : DataKey) : State :=
  match s.read (.instanced key) with
  | some value => (s.write (.persistent key) value).remove (.instanced key)
  | none => s

/-- The layout of `version`, with the listed settings moved. -/
def State.promoted (s : State) (version : Nat) : State :=
  ((promotedKeys.foldl State.promote s).write (.persistent .schemaVersion) version).remove
    (.instanced .schemaVersion)

variable {env : Env} {s t : State} {key k : DataKey} {α : Type}

theorem State.read_promote_persistent (s : State) (key k : DataKey) :
    (s.promote key).read (.persistent k) =
      if k = key then (s.read (.instanced k)).or (s.read (.persistent k))
      else s.read (.persistent k) := by
  unfold State.promote
  cases hold : s.read (.instanced key) with
  | none =>
    by_cases hk : k = key
    · subst hk
      rw [if_pos rfl, hold, Option.none_or]
    · rw [if_neg hk]
  | some v =>
    have htier : Slot.persistent k ≠ .instanced key := by simp
    rw [FiniteStore.read_remove_of_ne _ htier]
    by_cases hk : k = key
    · subst hk
      rw [FiniteStore.read_write_self, if_pos rfl, hold, Option.some_or]
    · have hother : Slot.persistent k ≠ .persistent key := by simpa using hk
      rw [FiniteStore.read_write_of_ne _ _ hother, if_neg hk]

theorem State.read_promote_instanced (s : State) (key k : DataKey) :
    (s.promote key).read (.instanced k) = if k = key then none else s.read (.instanced k) := by
  unfold State.promote
  cases hold : s.read (.instanced key) with
  | none =>
    by_cases hk : k = key
    · subst hk
      rw [if_pos rfl, hold]
    · rw [if_neg hk]
  | some v =>
    by_cases hk : k = key
    · subst hk
      rw [FiniteStore.read_remove_self, if_pos rfl]
    · have hother : Slot.instanced k ≠ .instanced key := by simpa using hk
      have htier : Slot.instanced k ≠ .persistent key := by simp
      rw [FiniteStore.read_remove_of_ne _ hother, FiniteStore.read_write_of_ne _ _ htier,
        if_neg hk]

/-- Moving a list of entries moves each of them, whatever the order. -/
theorem State.read_foldl_promote (keys : List DataKey) (s : State) (k : DataKey) :
    (keys.foldl State.promote s).read (.persistent k) =
        (if k ∈ keys then (s.read (.instanced k)).or (s.read (.persistent k))
        else s.read (.persistent k)) ∧
      (keys.foldl State.promote s).read (.instanced k) =
        if k ∈ keys then none else s.read (.instanced k) := by
  induction keys generalizing s with
  | nil => exact ⟨rfl, rfl⟩
  | cons key keys ih =>
    obtain ⟨hpersistent, hinstanced⟩ := ih (s.promote key)
    rw [List.foldl_cons, hpersistent, hinstanced, s.read_promote_persistent,
      s.read_promote_instanced]
    by_cases hk : k = key
    · subst hk
      rw [if_pos rfl, if_pos rfl, if_pos List.mem_cons_self, if_pos List.mem_cons_self,
        Option.none_or, ite_self, ite_self]
      exact ⟨rfl, rfl⟩
    · rw [if_neg hk, if_neg hk]
      simp [hk]

theorem run_promoteConfig [h : Holds DataKey.Val key α] :
    (promoteConfig key).run env s = .ok () (s.promote key) := by
  obtain ⟨rfl⟩ := h
  refine (run_bind_of_ok (run_load_ok.mpr ⟨rfl, rfl⟩)).trans ?_
  unfold State.promote
  cases s.read (.instanced key) <;> rfl

theorem run_migrateInternal : doMigrateConfigToPersistentInternal.run env s =
    .ok () (s.promoted 3) := by
  unfold doMigrateConfigToPersistentInternal
  rw [run_seq_of_ok run_promoteConfig, run_seq_of_ok run_promoteConfig,
    run_seq_of_ok run_promoteConfig, run_seq_of_ok run_promoteConfig,
    run_seq_of_ok run_promoteConfig, run_seq_of_ok run_promoteConfig,
    run_seq_of_ok run_promoteConfig, run_seq_of_ok run_promoteConfig,
    run_seq_of_ok run_promoteConfig, run_seq_of_ok run_promoteConfig]
  rfl

/-- `t` is `s` in the layout of a version from 3 on. -/
structure Promotes (s t : State) : Prop where
  late : 3 ≤ t.schemaVersion
  persistent : ∀ k ≠ .schemaVersion, t.read (.persistent k) =
    if k ∈ promotedKeys then (s.read (.instanced k)).or (s.read (.persistent k))
    else s.read (.persistent k)
  instanced : ∀ k ≠ .schemaVersion, t.read (.instanced k) =
    if k ∈ promotedKeys then none else s.read (.instanced k)

theorem State.schemaVersion_relabelled (s : State) (version : Nat) :
    State.schemaVersion ((s.write (.persistent .schemaVersion) version).remove
      (.instanced .schemaVersion)) = version := by
  simp [State.schemaVersion]

/-- Writing another version over a promoted state changes nothing else. -/
theorem Promotes.relabelled {u : State} (h : Promotes s u) {version : Nat} (hlate : 3 ≤ version) :
    Promotes s ((u.write (.persistent .schemaVersion) version).remove
      (.instanced .schemaVersion)) where
  late := by rw [State.schemaVersion_relabelled]; exact hlate
  persistent k hk := by
    have hother : Slot.persistent k ≠ .persistent .schemaVersion := by simpa using hk
    have htier : Slot.persistent k ≠ .instanced .schemaVersion := by simp
    rw [FiniteStore.read_remove_of_ne _ htier, FiniteStore.read_write_of_ne _ _ hother]
    exact h.persistent k hk
  instanced k hk := by
    have hother : Slot.instanced k ≠ .instanced .schemaVersion := by simpa using hk
    have htier : Slot.instanced k ≠ .persistent .schemaVersion := by simp
    rw [FiniteStore.read_remove_of_ne _ hother, FiniteStore.read_write_of_ne _ _ htier]
    exact h.instanced k hk

theorem State.promotes_promoted (s : State) : Promotes s (s.promoted 3) where
  late := by
    unfold State.promoted
    rw [State.schemaVersion_relabelled]
  persistent k hk := by
    have hother : Slot.persistent k ≠ .persistent .schemaVersion := by simpa using hk
    have htier : Slot.persistent k ≠ .instanced .schemaVersion := by simp
    unfold State.promoted
    rw [FiniteStore.read_remove_of_ne _ htier, FiniteStore.read_write_of_ne _ _ hother]
    exact (s.read_foldl_promote promotedKeys k).1
  instanced k hk := by
    have hother : Slot.instanced k ≠ .instanced .schemaVersion := by simpa using hk
    have htier : Slot.instanced k ≠ .persistent .schemaVersion := by simp
    unfold State.promoted
    rw [FiniteStore.read_remove_of_ne _ hother, FiniteStore.read_write_of_ne _ _ htier]
    exact (s.read_foldl_promote promotedKeys k).2

variable {admin : Address} {u : Unit}

theorem migrateConfigToPersistent_promotes
    (hrun : (migrateConfigToPersistent admin).run env s = .ok u t) : Promotes s t := by
  obtain ⟨_, -, hrun⟩ := run_check_ok (Modifies.requireAdminAuth _) hrun
  obtain ⟨_, -, hrun⟩ := run_check_ok (.gets _) hrun
  obtain ⟨_, -, hrun⟩ := run_check_ok (.failIf _ _) hrun
  rw [run_seq_of_ok run_migrateInternal] at hrun
  have hverify : (verifyMigration 3).Keeps Eq := .bind (.gets _) fun _ => .failIf _ _
  obtain rfl := hverify.ok hrun
  exact s.promotes_promoted

theorem doMigrate_promotes (hold : s.schemaVersion < 3)
    (hrun : (doMigrate admin false).run env s = .ok u t) : Promotes s t := by
  obtain ⟨_, -, hrun⟩ := run_check_ok (Modifies.requireAdminAuth _) hrun
  obtain ⟨stored, hstored, hrun⟩ := run_check_ok (.gets _) hrun
  obtain rfl : s.schemaVersion = stored := (run_gets_ok.mp hstored).1
  obtain ⟨_, -, hrun⟩ := run_check_ok (.failIf _ _) hrun
  have hother : s.schemaVersion ≠ storageVersion := by
    intro heq
    rw [heq] at hold
    exact absurd hold (by decide)
  rcases run_when_ok.mp hrun with ⟨-, hrun⟩ | ⟨hdone, -⟩
  · have hmoved : (when (s.schemaVersion ≤ 2) doMigrateConfigToPersistentInternal).run env s =
        .ok () (s.promoted 3) :=
      run_when_ok.mpr (.inl ⟨Nat.le_of_lt_succ hold, run_migrateInternal⟩)
    rw [run_seq_of_ok hmoved] at hrun
    obtain ⟨_, _, hversion, hrun⟩ := run_bind_ok.mp hrun
    obtain rfl := run_store_ok.mp hversion
    obtain ⟨_, _, hdropped, hrun⟩ := run_bind_ok.mp hrun
    obtain rfl := run_delete_ok.mp hdropped
    have hverify : (verifyMigration storageVersion).Keeps Eq :=
      .bind (.gets _) fun _ => .failIf _ _
    obtain rfl := hverify.ok hrun
    exact s.promotes_promoted.relabelled (by decide)
  · exact absurd ⟨rfl, hother⟩ hdone

end Promotion

/-! ## What the contract reads -/

/-- Every setting, and the pause of every merchant, is read as before. -/
structure SettingsKept (s t : State) : Prop where
  config : ∀ key ∈ configKeys, ∀ (α : Type) [Holds DataKey.Val key α],
    (t.config key : Option α) = s.config key
  paused : ∀ merchant, t.merchantPaused merchant = s.merchantPaused merchant

/-- Before the migration: a setting on the list is not stored in both tiers with different
values, one off the list is not in the old tier, and no merchant is paused by the old key alone. -/
structure Portable (s : State) : Prop where
  listed : ∀ key ∈ promotedKeys, ∀ value, s.read (.instanced key) = some value →
    s.read (.persistent key) = none ∨ s.read (.persistent key) = some value
  unlisted : ∀ key ∈ configKeys, key ∉ promotedKeys → s.read (.persistent key) = none →
    s.read (.instanced key) = none
  paused : ∀ merchant, s.read (.instanced (.merchantPaused merchant)) = some true →
    (s.merchantConfig merchant).any (·.isPaused) = true

section Reading

variable {s t : State} {key : DataKey}

theorem State.config_of_early (h : s.schemaVersion < 3) (key : DataKey) :
    (s.config key : Option key.Val) = (s.read (.persistent key)).or (s.read (.instanced key)) := by
  unfold State.config
  rw [if_pos h]
  cases s.read (.persistent key) <;> rfl

theorem State.config_of_late (h : 3 ≤ s.schemaVersion) (key : DataKey) :
    (s.config key : Option key.Val) = s.read (.persistent key) := by
  unfold State.config
  rw [if_neg (Nat.not_lt.mpr h)]
  cases s.read (.persistent key) <;> rfl

theorem mem_configKeys_ne (h : key ∈ configKeys) : key ≠ .schemaVersion := by
  rintro rfl
  exact absurd h (by decide)

/-- One setting is read as before. -/
theorem Promotes.config_iff (h : Promotes s t) (hold : s.schemaVersion < 3)
    (hkey : key ∈ configKeys) : (t.config key : Option key.Val) = s.config key ↔
      if key ∈ promotedKeys then ∀ value, s.read (.instanced key) = some value →
        s.read (.persistent key) = none ∨ s.read (.persistent key) = some value
      else s.read (.persistent key) = none → s.read (.instanced key) = none := by
  rw [State.config_of_late h.late, State.config_of_early hold,
    h.persistent key (mem_configKeys_ne hkey)]
  by_cases hlisted : key ∈ promotedKeys
  · rw [if_pos hlisted, if_pos hlisted]
    cases s.read (.persistent key) <;> cases s.read (.instanced key) <;> simp [eq_comm]
  · rw [if_neg hlisted, if_neg hlisted]
    cases s.read (.persistent key) <;> cases s.read (.instanced key) <;> simp

theorem Promotes.merchantPaused (h : Promotes s t) (merchant : Address) :
    t.merchantPaused merchant = (s.merchantConfig merchant).any (·.isPaused) := by
  have hconfig : t.merchantConfig merchant = s.merchantConfig merchant := by
    refine (h.instanced (.merchantConfig merchant) (by simp)).trans (if_neg ?_)
    simp [promotedKeys]
  unfold State.merchantPaused
  rw [hconfig, decide_eq_false (Nat.not_lt.mpr h.late), Bool.false_and, Bool.or_false]

theorem Promotes.paused_iff (h : Promotes s t) (hold : s.schemaVersion < 3) (merchant : Address) :
    t.merchantPaused merchant = s.merchantPaused merchant ↔
      (s.read (.instanced (.merchantPaused merchant)) = some true →
        (s.merchantConfig merchant).any (·.isPaused) = true) := by
  rw [h.merchantPaused, State.merchantPaused, decide_eq_true hold, Bool.true_and]
  cases (s.merchantConfig merchant).any (·.isPaused)
  · cases s.read (.instanced (.merchantPaused merchant)) with
    | none => simp
    | some paused => cases paused <;> simp
  · simp

theorem Promotes.settingsKept_iff (h : Promotes s t) (hold : s.schemaVersion < 3) :
    SettingsKept s t ↔ Portable s := by
  constructor
  · intro hkept
    have hiff {key : DataKey} (hkey : key ∈ configKeys) :=
      (h.config_iff hold hkey).mp (hkept.config key hkey key.Val)
    refine ⟨fun key hlisted => ?_, fun key hkey hlisted => ?_,
      fun merchant => (h.paused_iff hold merchant).mp (hkept.paused merchant)⟩
    · have hkey : key ∈ configKeys := List.mem_append_left _ hlisted
      simpa only [if_pos hlisted] using hiff hkey
    · simpa only [if_neg hlisted] using hiff hkey
  · intro hportable
    refine ⟨fun key hkey α hholds => ?_,
      fun merchant => (h.paused_iff hold merchant).mpr (hportable.paused merchant)⟩
    obtain ⟨rfl⟩ := hholds
    refine (h.config_iff hold hkey).mpr ?_
    split
    · rename_i hlisted
      exact hportable.listed key hlisted
    · rename_i hlisted
      exact hportable.unlisted key hkey hlisted

end Reading

/-- A migration from a version before 3 keeps every setting exactly when all of them are on its
list and no merchant is paused by the old key alone. -/
theorem migration_keeps_settings_iff {env : Env} {s t : State} {admin : Address}
    (hold : s.schemaVersion < 3)
    (hrun : (doMigrate admin false).run env s = .ok () t ∨
      (migrateConfigToPersistent admin).run env s = .ok () t) :
    SettingsKept s t ↔ Portable s := by
  rcases hrun with hrun | hrun
  · exact (doMigrate_promotes hold hrun).settingsKept_iff hold
  · exact (migrateConfigToPersistent_promotes hrun).settingsKept_iff hold

/-- A vault of version 0 that is about to be migrated, with a fee token or without. -/
private def legacyVault (feeToken : Option Address) : State :=
  let bare : State := FiniteStore.empty
  let named := ((bare.writeConfig .token ⟨9⟩).writeConfig .admin ⟨8⟩).writeConfig .minTopup 1
  match feeToken with
  | some token => named.writeConfig .feeToken token
  | none => named

theorem migration_keeps_settings_plain :
    SettingsKept (legacyVault none)
      ((doMigrate ⟨8⟩ false).after (sampleEnv 0 [⟨8⟩]) (legacyVault none)) := by
  have hrun := run_eq_after
    (show (doMigrate ⟨8⟩ false).succeeds (sampleEnv 0 [⟨8⟩]) (legacyVault none) = true by
      decide +kernel)
  refine (migration_keeps_settings_iff (by decide +kernel) (.inl hrun)).mpr ⟨?_, ?_, ?_⟩
  · intro key hkey _ _
    left
    revert key
    decide +kernel
  · decide +kernel
  · intro merchant hpaused
    have hunset : (legacyVault none).read (.instanced (.merchantPaused merchant)) = none := rfl
    rw [hunset] at hpaused
    cases hpaused

/-- The fee token is written before the migration and cannot be read after it. -/
theorem migration_loses_fee_token : ∃ t,
    (doMigrate ⟨8⟩ false).run (sampleEnv 0 [⟨8⟩]) (legacyVault (some ⟨7⟩)) = .ok () t ∧
      (legacyVault (some ⟨7⟩)).schemaVersion < 3 ∧
      (legacyVault (some ⟨7⟩)).feeToken = some ⟨7⟩ ∧ t.feeToken = none := by
  refine ⟨_, run_eq_after (by decide +kernel), ?_⟩
  decide +kernel

end SubscriptionVault
