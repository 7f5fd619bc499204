import SubscriptionVault.Contract.Host

/-!
# Configuration, administration rights and nonces

Configuration lives in the persistent tier from schema version 3 on and in the instance tier
before that. Functions that only read are functions of the state; the rest is contract code.
-/

namespace SubscriptionVault

open Exec

variable {α : Type}

/-- The storage version `init` writes. -/
def storageVersion : Nat := 5

def configCooldownSecs : Nat := 6 * 60 * 60

namespace State

def schemaVersion (s : State) : Nat :=
  match s.read (.persistent .schemaVersion) with
  | some v => v
  | none => (s.read (.instanced .schemaVersion)).getD 0

/-- `read_config`: the persistent entry, or before version 3 the instance entry. -/
def config (s : State) (key : DataKey) [Holds DataKey.Val key α] : Option α :=
  match s.read (.persistent key) with
  | some v => some v
  | none => if s.schemaVersion < 3 then s.read (.instanced key) else none

/-- `write_config`: from version 3 on the instance entry is dropped. -/
def writeConfig (s : State) (key : DataKey) [Holds DataKey.Val key α] (v : α) : State :=
  if 3 ≤ s.schemaVersion then (s.write (.persistent key) v).remove (.instanced key)
  else s.write (.instanced key) v

def minTopup (s : State) : Except Error Int :=
  (s.config .minTopup).elim (.error .notInitialized) .ok

def gracePeriod (s : State) : Except Error Nat :=
  (s.config .gracePeriod).elim (.error .notInitialized) .ok

def disputeWindowSecs (s : State) : Nat := (s.config .disputeWindowSecs).getD (14 * 24 * 60 * 60)

def subscriberCreateCap (s : State) : Nat := (s.config .subscriberCreateCap).getD 50

def defaultToken (s : State) : Except Error Address :=
  (s.config .token).elim (.error .notFound) .ok

def isTokenAccepted (s : State) (token : Address) : Bool :=
  (s.read (.instanced (.tokenDecimals token))).isSome

def protocolFeeBps (s : State) : Nat := (s.config .feeBps).getD 0

def treasury (s : State) : Option Address := s.config .treasury

def feeToken (s : State) : Option Address := s.config .feeToken

def buyoutPremiumBps (s : State) : Nat := (s.config .buyoutPremiumBps).getD 0

def autoPauseThreshold (s : State) : Nat :=
  (s.read (.instanced .autoPauseThreshold)).getD 0

def emergencyStop (s : State) : Bool := (s.config .emergencyStop).getD false

def admin (s : State) : Option Address := s.config .admin

def operator (s : State) : Option Address := s.config .operator

def isBlocklisted (s : State) (a : Address) : Bool := (s.read (.persistent (.blocklist a))).isSome

end State

/-- Read the whole state; used in front of the read-only functions. -/
def getState : Vault State := gets id

def writeConfig (key : DataKey) [Holds DataKey.Val key α] (v : α) : Vault Unit :=
  update (State.writeConfig · key v)

def removeConfig (key : DataKey) : Vault Unit := do
  delete (.persistent key)
  delete (.instanced key)

def enforceConfigCooldown (label : ConfigLabel) : Vault Unit := do
  let env ← ask
  let prevTs := (← load (.persistent (.adminConfigLastChangedAt label))).getD 0
  failIf (0 < prevTs ∧ env.now - prevTs < configCooldownSecs) .cooldownActive
  store (.persistent (.adminConfigLastChangedAt label)) env.now

def requireNotBlocklisted (a : Address) : Vault Unit := do
  let s ← getState
  failIf (s.isBlocklisted a) .subscriberBlocklisted

def requireNotEmergencyStop : Vault Unit := do
  let s ← getState
  failIf s.emergencyStop .emergencyStopActive

/-! ## Administration rights -/

def requireAdmin : Vault Address := do
  let s ← getState
  okOr s.admin .notInitialized

def requireAdminAuth (admin : Address) : Vault Unit := do
  requireAuth admin
  let stored ← requireAdmin
  failIf (admin ≠ stored) .forbidden

def requireStoredAdminAuth : Vault Address := do
  let stored ← requireAdmin
  requireAuth stored
  pure stored

def requireAdminOrOperatorAuth (caller : Address) : Vault Unit := do
  requireAuth caller
  let stored ← requireAdmin
  let s ← getState
  failIf (caller ≠ stored ∧ s.operator ≠ some caller) .unauthorized

/-! ## Nonces -/

inductive NonceDomain where
  | batchCharge | adminRotation | operatorBatchCharge | metadataSigned | merchantRotation
  | chargeInterval | depositFunds | chargeOneoff | subscriberWithdrawal | chargebackDispute
  | governanceVote

def NonceDomain.asU32 : NonceDomain → Nat
  | .batchCharge => 0
  | .adminRotation => 1
  | .operatorBatchCharge => 2
  | .metadataSigned => 3
  | .merchantRotation => 4
  | .chargeInterval => 5
  | .depositFunds => 6
  | .chargeOneoff => 7
  | .subscriberWithdrawal => 8
  | .chargebackDispute => 9
  | .governanceVote => 10

def State.nonce (s : State) (signer : Address) (domain : NonceDomain) : Nat :=
  (s.read (.persistent (.adminNonce signer domain.asU32))).getD 0

def computeNextNonce (stored expected : Nat) : Except Error Nat :=
  if expected ≠ stored then .error .nonceAlreadyUsed
  else (checkedAddU64 stored 1).elim (.error .overflow) .ok

def validateNonce (signer : Address) (domain : NonceDomain) (expected : Nat) : Vault Unit := do
  let s ← getState
  let _ ← lift (computeNextNonce (s.nonce signer domain) expected)
  pure ()

def checkAndAdvance (signer : Address) (domain : NonceDomain) (expected : Nat) :
    Vault Unit := do
  let s ← getState
  let next ← lift (computeNextNonce (s.nonce signer domain) expected)
  store (.persistent (.adminNonce signer domain.asU32)) next

/-! ## Initialisation and setters -/

def doInit (token : Address) (tokenDecimals : Nat) (admin : Address) (minTopup : Int)
    (gracePeriod : Nat) : Vault Unit := do
  let env ← ask
  let s ← getState
  failIf ((s.config .token).isSome ∨ (s.config .admin).isSome) .alreadyInitialized
  failIf (minTopup ≤ 0) .invalidAmount
  failIf (19 < tokenDecimals) .invalidTokenDecimals
  failIf (token = env.host.contract) .invalidToken
  store (.persistent .schemaVersion) storageVersion
  writeConfig .token token
  store (.instanced (.tokenDecimals token)) tokenDecimals
  store (.instanced .acceptedTokens) [token]
  writeConfig .admin admin
  writeConfig .minTopup minTopup
  writeConfig .gracePeriod gracePeriod

def doSetMinTopup (admin : Address) (minTopup : Int) : Vault Unit := do
  requireAdminAuth admin
  failIf (minTopup ≤ 0) .invalidAmount
  enforceConfigCooldown .minTopup
  writeConfig .minTopup minTopup

def doSetGracePeriod (admin : Address) (gracePeriod : Nat) : Vault Unit := do
  requireAdminAuth admin
  enforceConfigCooldown .gracePeriod
  writeConfig .gracePeriod gracePeriod

def applyDisputeWindowSecs (windowSecs : Nat) : Vault Unit := do
  failIf (windowSecs = 0 ∨ u32Max < windowSecs) .invalidInput
  writeConfig .disputeWindowSecs windowSecs

def doSetDisputeWindowSecs (admin : Address) (windowSecs : Nat) : Vault Unit := do
  requireAdminAuth admin
  enforceConfigCooldown .disputeWindowSecs
  applyDisputeWindowSecs windowSecs

/-- A threshold of zero turns the automatic pause off. -/
def doSetAutoPauseThreshold (admin : Address) (threshold : Nat) : Vault Unit := do
  requireAdminAuth admin
  store (.instanced .autoPauseThreshold) threshold

/-! ## Effects -/

/-- The slots that decide what `config key` reads. -/
def configSlots (key : DataKey) : Set Slot :=
  {.persistent key, .instanced key, .persistent .schemaVersion, .instanced .schemaVersion}

theorem State.schemaVersion_of_agreeOff {S : Set Slot} {s t : State}
    (h : FiniteStore.AgreeOff S s t) (hp : .persistent .schemaVersion ∉ S)
    (hi : .instanced .schemaVersion ∉ S) : t.schemaVersion = s.schemaVersion := by
  unfold State.schemaVersion
  rw [h.read hp, h.read hi]

theorem State.config_of_agreeOff {S : Set Slot} {s t : State} {key : DataKey}
    [Holds DataKey.Val key α] (h : FiniteStore.AgreeOff S s t)
    (hS : ∀ k ∈ configSlots key, k ∉ S) : t.config key = s.config key := by
  unfold State.config
  rw [h.read (hS (.persistent key) (by simp [configSlots])),
    h.read (hS (.instanced key) (by simp [configSlots])),
    State.schemaVersion_of_agreeOff h (hS _ (by simp [configSlots]))
      (hS _ (by simp [configSlots]))]

@[simp] theorem State.config_write_of_ne {β : Type} (s : State) {k : Slot} [Holds Slot.Val k β]
    (v : β) {key : DataKey} [Holds DataKey.Val key α] (h : k ∉ configSlots key) :
    State.config (s.write k v) key = s.config key :=
  State.config_of_agreeOff (s.agreeOff_write v (Set.mem_singleton k))
    fun j hj heq => h (by rwa [Set.mem_singleton_iff.mp heq] at hj)

@[simp] theorem State.config_remove_of_ne (s : State) {k : Slot} {key : DataKey}
    [Holds DataKey.Val key α] (h : k ∉ configSlots key) :
    State.config (s.remove k) key = s.config key :=
  State.config_of_agreeOff (s.agreeOff_remove (Set.mem_singleton k))
    fun j hj heq => h (by rwa [Set.mem_singleton_iff.mp heq] at hj)

theorem State.agreeOff_writeConfig {S : Set Slot} (s : State) (key : DataKey)
    [Holds DataKey.Val key α] (v : α) (hp : .persistent key ∈ S) (hi : .instanced key ∈ S) :
    FiniteStore.AgreeOff S s (s.writeConfig key v) := by
  unfold State.writeConfig
  split
  · exact (FiniteStore.agreeOff_write s v hp).trans (FiniteStore.agreeOff_remove _ hi)
  · exact FiniteStore.agreeOff_write s v hi

theorem State.config_writeConfig_of_le (s : State) (key : DataKey) [Holds DataKey.Val key α]
    (v : α) (h : 3 ≤ s.schemaVersion) : (s.writeConfig key v).config key = some v := by
  simp [State.writeConfig, h, State.config]

/-- What is read after a configuration write: the new value, unless an older persistent entry
hides the instance tier. -/
theorem State.config_writeConfig (s : State) (key : DataKey) [Holds DataKey.Val key α] (v : α)
    (hkey : key ≠ .schemaVersion) :
    (s.writeConfig key v).config key = some v ∨
      (s.writeConfig key v).config key = s.config key := by
  by_cases h : 3 ≤ s.schemaVersion
  · exact .inl (s.config_writeConfig_of_le key v h)
  · have hversion : State.schemaVersion (s.write (.instanced key) v) = s.schemaVersion :=
      State.schemaVersion_of_agreeOff (s.agreeOff_write v (Set.mem_singleton _)) (by simp)
        (by simpa using hkey.symm)
    simp only [State.writeConfig, h, if_false, State.config, hversion]
    cases hp : s.read (.persistent key) with
    | none => simp [hp, Nat.lt_of_not_le h]
    | some w => simp [hp]

section Rules

variable {r : Env} {s t : State} {u : Unit}

@[simp] theorem run_getState_ok {v : State} : getState.run r s = .ok v t ↔ s = v ∧ s = t := by
  simp [getState]

@[simp] theorem run_getState_err {e : Error} : getState.run r s = .err e t ↔ False := by
  simp [getState]

@[simp] theorem run_writeConfig_ok {key : DataKey} [Holds DataKey.Val key α] {v : α} :
    (writeConfig key v).run r s = .ok u t ↔ State.writeConfig s key v = t := by
  simp [writeConfig]

@[simp] theorem run_requireNotBlocklisted_ok {a : Address} :
    (requireNotBlocklisted a).run r s = .ok u t ↔ s.isBlocklisted a = false ∧ s = t := by
  simp [requireNotBlocklisted, and_comm]

@[simp] theorem run_requireNotEmergencyStop_ok :
    requireNotEmergencyStop.run r s = .ok u t ↔ s.emergencyStop = false ∧ s = t := by
  simp [requireNotEmergencyStop, and_comm]

@[simp] theorem run_requireAdmin_ok {a : Address} :
    requireAdmin.run r s = .ok a t ↔ s.admin = some a ∧ s = t := by
  simp [requireAdmin, and_comm]

@[simp] theorem run_requireAdminAuth_ok {a : Address} :
    (requireAdminAuth a).run r s = .ok u t ↔
      (s.admin = some a ∧ r.authorized a ∧ a ≠ r.host.contract) ∧ s = t := by
  simp only [requireAdminAuth, run_bind_ok, run_requireAuth_ok, run_requireAdmin_ok,
    run_failIf_ok]
  constructor
  · rintro ⟨_, _, ⟨hauth, rfl⟩, stored, _, ⟨hadmin, rfl⟩, heq, rfl⟩
    exact ⟨⟨by rw [hadmin, not_not.mp heq], hauth⟩, rfl⟩
  · rintro ⟨⟨hadmin, hauth⟩, rfl⟩
    exact ⟨(), _, ⟨hauth, rfl⟩, a, _, ⟨hadmin, rfl⟩, by simp, rfl⟩

@[simp] theorem run_requireStoredAdminAuth_ok {a : Address} :
    requireStoredAdminAuth.run r s = .ok a t ↔
      (s.admin = some a ∧ r.authorized a ∧ a ≠ r.host.contract) ∧ s = t := by
  simp only [requireStoredAdminAuth, run_bind_ok, run_requireAuth_ok, run_requireAdmin_ok,
    run_pure_ok]
  constructor
  · rintro ⟨_, _, ⟨hadmin, rfl⟩, _, _, ⟨hauth, rfl⟩, rfl, rfl⟩
    exact ⟨⟨hadmin, hauth⟩, rfl⟩
  · rintro ⟨⟨hadmin, hauth⟩, rfl⟩
    exact ⟨a, _, ⟨hadmin, rfl⟩, (), _, ⟨hauth, rfl⟩, rfl, rfl⟩

theorem run_requireAdminOrOperatorAuth_ok {a : Address} :
    (requireAdminOrOperatorAuth a).run r s = .ok u t ↔
      ((r.authorized a ∧ a ≠ r.host.contract) ∧ s.admin.isSome ∧
        (s.admin = some a ∨ s.operator = some a)) ∧ s = t := by
  simp only [requireAdminOrOperatorAuth, run_bind_ok, run_requireAuth_ok, run_requireAdmin_ok,
    run_failIf_ok, run_getState_ok]
  constructor
  · rintro ⟨_, _, ⟨hauth, rfl⟩, stored, _, ⟨hadmin, rfl⟩, _, _, ⟨rfl, rfl⟩, hcaller, rfl⟩
    refine ⟨⟨hauth, by simp [hadmin], ?_⟩, rfl⟩
    rw [hadmin]
    by_cases h : a = stored
    · exact .inl (by rw [h])
    · exact .inr (by simpa [h] using hcaller)
  · rintro ⟨⟨hauth, hsome, hcaller⟩, rfl⟩
    obtain ⟨stored, hadmin⟩ := Option.isSome_iff_exists.mp hsome
    refine ⟨(), _, ⟨hauth, rfl⟩, stored, _, ⟨hadmin, rfl⟩, _, _, ⟨rfl, rfl⟩, ?_, rfl⟩
    rw [hadmin] at hcaller
    rcases hcaller with h | h
    · simp [Option.some.inj h]
    · simp [h]

theorem run_enforceConfigCooldown_ok {label : ConfigLabel} :
    (enforceConfigCooldown label).run r s = .ok u t ↔
      ¬(0 < (s.read (.persistent (.adminConfigLastChangedAt label))).getD 0 ∧
        r.now - (s.read (.persistent (.adminConfigLastChangedAt label))).getD 0 <
          configCooldownSecs) ∧
      s.write (.persistent (.adminConfigLastChangedAt label)) r.now = t := by
  simp [enforceConfigCooldown]

theorem run_checkAndAdvance_ok {signer : Address} {domain : NonceDomain} {expected : Nat} :
    (checkAndAdvance signer domain expected).run r s = .ok u t ↔
      ∃ next, computeNextNonce (s.nonce signer domain) expected = .ok next ∧
        s.write (.persistent (.adminNonce signer domain.asU32)) next = t := by
  simp [checkAndAdvance]

end Rules

/-! ## Footprints -/

namespace Modifies

section ReadOnly

variable {R : State → State → Prop} [Std.Refl R] [IsTrans State R]

omit [IsTrans State R] in
theorem getState : SubscriptionVault.getState.Keeps R := .gets _

theorem requireNotBlocklisted (a : Address) : (requireNotBlocklisted a).Keeps R :=
  .bind getState fun _ => .failIf _ _

theorem requireNotEmergencyStop : SubscriptionVault.requireNotEmergencyStop.Keeps R :=
  .bind getState fun _ => .failIf _ _

theorem requireAdmin : SubscriptionVault.requireAdmin.Keeps R :=
  .bind getState fun _ => .okOr _ _

theorem requireAdminAuth (a : Address) : (requireAdminAuth a).Keeps R :=
  .bind (requireAuth a) fun _ => .bind requireAdmin fun _ => .failIf _ _

theorem requireStoredAdminAuth : SubscriptionVault.requireStoredAdminAuth.Keeps R :=
  .bind requireAdmin fun _ => .bind (requireAuth _) fun _ => .pure _

theorem requireAdminOrOperatorAuth (a : Address) : (requireAdminOrOperatorAuth a).Keeps R :=
  .bind (requireAuth a) fun _ => .bind requireAdmin fun _ => .bind getState fun _ => .failIf _ _

theorem validateNonce (signer : Address) (domain : NonceDomain) (expected : Nat) :
    (validateNonce signer domain expected).Keeps R :=
  .bind getState fun _ => .bind (.lift _) fun _ => .pure _

end ReadOnly

variable {S : Set Slot}

theorem writeConfig {key : DataKey} [Holds DataKey.Val key α] {v : α}
    (hp : .persistent key ∈ S) (hi : .instanced key ∈ S) : Modifies S (writeConfig key v) :=
  .update fun s => State.agreeOff_writeConfig s _ v hp hi

theorem enforceConfigCooldown {label : ConfigLabel}
    (h : .persistent (.adminConfigLastChangedAt label) ∈ S) :
    Modifies S (enforceConfigCooldown label) :=
  .bind .ask fun _ => .bind load fun _ => .bind (.failIf _ _) fun _ => store h

theorem checkAndAdvance {signer : Address} {domain : NonceDomain} {expected : Nat}
    (h : .persistent (.adminNonce signer domain.asU32) ∈ S) :
    Modifies S (checkAndAdvance signer domain expected) :=
  .bind getState fun _ => .bind (.lift _) fun _ => store h

end Modifies

end SubscriptionVault
