import SubscriptionVault.Charging.Batch
import SubscriptionVault.Contract.Payouts
import SubscriptionVault.Framework.Transition

/-!
# Whether a merchant's pause holds

A merchant is paused by its configuration or, before schema version 3, by a separate flag.
`pause_merchant` only sets the flag. Runs of everything that touches either of the two are
studied on a board that holds exactly what `get_merchant_paused` reads.
-/

namespace SubscriptionVault

open Exec

/-- Everything `get_merchant_paused` looks at. -/
structure PauseBoard where
  version : Nat
  config : Address → Option MerchantConfig
  flag : Address → Option Bool

def State.pauseBoard (s : State) : PauseBoard where
  version := s.schemaVersion
  config := s.merchantConfig
  flag merchant := s.read (.instanced (.merchantPaused merchant))

namespace PauseBoard

def configPaused (b : PauseBoard) (merchant : Address) : Bool :=
  (b.config merchant).any (·.isPaused)

def flagPaused (b : PauseBoard) (merchant : Address) : Bool :=
  decide (b.version < 3) && (b.flag merchant).getD false

def paused (b : PauseBoard) (merchant : Address) : Bool :=
  b.configPaused merchant || b.flagPaused merchant

def setConfig (b : PauseBoard) (merchant : Address) (config : Option MerchantConfig) :
    PauseBoard :=
  { b with config := Function.update b.config merchant config }

def setFlag (b : PauseBoard) (merchant : Address) (flag : Option Bool) : PauseBoard :=
  { b with flag := Function.update b.flag merchant flag }

/-- Entries the old address has replace those of the new one. -/
def move (b : PauseBoard) (oldMerchant newMerchant : Address) : PauseBoard where
  version := b.version
  config := Function.update (Function.update b.config newMerchant
    ((b.config oldMerchant).or (b.config newMerchant))) oldMerchant none
  flag := Function.update (Function.update b.flag newMerchant
    ((b.flag oldMerchant).or (b.flag newMerchant))) oldMerchant none

end PauseBoard

theorem State.merchantPaused_eq_paused (s : State) (merchant : Address) :
    s.merchantPaused merchant = s.pauseBoard.paused merchant := rfl

/-! ## What moves the board -/

/-- A merchant's configuration or its separate pause flag. -/
def Slot.isPauseEntry : Slot → Bool
  | .instanced (.merchantConfig _) | .instanced (.merchantPaused _) => true
  | _ => false

def Slot.isSchemaVersion : Slot → Bool
  | .persistent .schemaVersion | .instanced .schemaVersion => true
  | _ => false

def entryFree : Set Slot := {k | k.isPauseEntry = false}

def pauseFree : Set Slot := {k | (k.isPauseEntry || k.isSchemaVersion) = false}

section Board

variable {s t : State}

theorem State.pauseBoard_of_entryFree (h : FiniteStore.AgreeOff entryFree s t) :
    t.pauseBoard.config = s.pauseBoard.config ∧ t.pauseBoard.flag = s.pauseBoard.flag := by
  refine ⟨funext fun merchant => ?_, funext fun merchant => ?_⟩
  · show t.read (.instanced (.merchantConfig merchant)) = _
    exact h.read Bool.false_ne_true.symm
  · show t.read (.instanced (.merchantPaused merchant)) = _
    exact h.read Bool.false_ne_true.symm

theorem State.pauseBoard_of_pauseFree (h : FiniteStore.AgreeOff pauseFree s t) :
    t.pauseBoard = s.pauseBoard := by
  have hentry : FiniteStore.AgreeOff entryFree s t :=
    h.mono fun k hk => (Bool.or_eq_false_iff.mp hk).1
  obtain ⟨hconfig, hflag⟩ := State.pauseBoard_of_entryFree hentry
  have hversion : t.pauseBoard.version = s.pauseBoard.version :=
    State.schemaVersion_of_agreeOff h Bool.false_ne_true.symm Bool.false_ne_true.symm
  calc t.pauseBoard = ⟨t.pauseBoard.version, t.pauseBoard.config, t.pauseBoard.flag⟩ := rfl
    _ = s.pauseBoard := by rw [hversion, hconfig, hflag]

theorem Modifies.pauseBoard {α : Type} {x : Vault α} {a : α} {r : Env}
    (h : Modifies pauseFree x) (hrun : x.run r s = .ok a t) : t.pauseBoard = s.pauseBoard :=
  State.pauseBoard_of_pauseFree (h.ok hrun)

theorem State.pauseBoard_write_flag (s : State) (merchant : Address) (paused : Bool) :
    State.pauseBoard (s.write (.instanced (.merchantPaused merchant)) paused) =
      s.pauseBoard.setFlag merchant (some paused) := by
  simp only [State.pauseBoard, PauseBoard.setFlag, PauseBoard.mk.injEq]
  refine ⟨?_, ?_, ?_⟩
  · simp [State.schemaVersion]
  · funext m
    simp [State.merchantConfig]
  · funext m
    by_cases h : m = merchant
    · subst h
      simp
    · simp [h]

theorem State.pauseBoard_remove_flag (s : State) (merchant : Address) :
    State.pauseBoard (s.remove (.instanced (.merchantPaused merchant))) =
      s.pauseBoard.setFlag merchant none := by
  simp only [State.pauseBoard, PauseBoard.setFlag, PauseBoard.mk.injEq]
  refine ⟨?_, ?_, ?_⟩
  · simp [State.schemaVersion]
  · funext m
    simp [State.merchantConfig]
  · funext m
    by_cases h : m = merchant
    · subst h
      simp
    · simp [h]

theorem State.pauseBoard_write_config (s : State) (merchant : Address)
    (config : MerchantConfig) :
    State.pauseBoard (s.write (.instanced (.merchantConfig merchant)) config) =
      s.pauseBoard.setConfig merchant (some config) := by
  simp only [State.pauseBoard, PauseBoard.setConfig, PauseBoard.mk.injEq]
  refine ⟨?_, ?_, ?_⟩
  · simp [State.schemaVersion]
  · funext m
    by_cases h : m = merchant
    · subst h
      simp [State.merchantConfig]
    · simp [State.merchantConfig, h]
  · funext m
    simp

theorem State.pauseBoard_remove_config (s : State) (merchant : Address) :
    State.pauseBoard (s.remove (.instanced (.merchantConfig merchant))) =
      s.pauseBoard.setConfig merchant none := by
  simp only [State.pauseBoard, PauseBoard.setConfig, PauseBoard.mk.injEq]
  refine ⟨?_, ?_, ?_⟩
  · simp [State.schemaVersion]
  · funext m
    by_cases h : m = merchant
    · subst h
      simp [State.merchantConfig]
    · simp [State.merchantConfig, h]
  · funext m
    simp

end Board

/-! ## Calls -/

inductive PauseCall where
  | pause (merchant : Address)
  | unpause (merchant : Address)
  | initializeConfig (merchant payoutAddress : Address) (feeBips allowedOperations : Int)
      (feeAddress : Option Address) (redirectUrl : Bytes)
  | setConfig (merchant : Address) (config : MerchantConfig)
  | updateConfig (merchant : Address) (u : MerchantConfigUpdate)
  | rotate (admin oldMerchant newMerchant : Address) (nonce : Nat)
  | init (token : Address) (tokenDecimals : Nat) (admin : Address) (minTopup : Int)
      (gracePeriod : Nat)
  | migrate (admin : Address) (dryRun : Bool)
  | migrateConfig (admin : Address)

def PauseCall.exec : PauseCall → Vault Unit
  | .pause merchant => pauseMerchant merchant
  | .unpause merchant => unpauseMerchant merchant
  | .initializeConfig merchant payoutAddress feeBips allowedOperations feeAddress redirectUrl =>
    initializeMerchantConfig merchant payoutAddress feeBips allowedOperations feeAddress
      redirectUrl
  | .setConfig merchant config => setMerchantConfig merchant config
  | .updateConfig merchant u => updateMerchantConfig merchant u
  | .rotate admin oldMerchant newMerchant nonce =>
    doRotateMerchantAddress admin oldMerchant newMerchant nonce
  | .init token tokenDecimals admin minTopup gracePeriod =>
    doInit token tokenDecimals admin minTopup gracePeriod
  | .migrate admin dryRun => doMigrate admin dryRun
  | .migrateConfig admin => migrateConfigToPersistent admin

inductive PauseAction where
  | call (env : Env) (call : PauseCall)
  | other

/-- One committed contract call; whatever is not a `PauseCall` leaves the board alone. -/
inductive PauseStep : PauseAction → State → State → Prop
  | call {env : Env} {call : PauseCall} {s t : State} :
      call.exec.run env s = .ok () t → PauseStep (.call env call) s t
  | other {s t : State} : t.pauseBoard = s.pauseBoard → PauseStep .other s t

/-! ## Effects on the board -/

section Effects

variable {r : Env} {s t : State} {merchant : Address}

theorem pauseMerchant_effect (hrun : (pauseMerchant merchant).run r s = .ok () t) :
    t.pauseBoard = if s.pauseBoard.paused merchant then s.pauseBoard
      else s.pauseBoard.setFlag merchant (some true) := by
  simp only [pauseMerchant, run_bind_ok, run_requireAuth_ok, run_gets_ok, run_when_ok,
    setMerchantPaused, run_store_ok] at hrun
  obtain ⟨_, _, ⟨-, rfl⟩, _, _, ⟨rfl, rfl⟩, ⟨hactive, rfl⟩ | ⟨hpaused, rfl⟩⟩ := hrun
  · rw [s.pauseBoard_write_flag, if_neg (by simpa [State.merchantPaused_eq_paused] using hactive)]
  · rw [if_pos (by simpa [State.merchantPaused_eq_paused] using hpaused)]

theorem unpauseMerchant_effect (hrun : (unpauseMerchant merchant).run r s = .ok () t) :
    t.pauseBoard = if s.pauseBoard.paused merchant then
        s.pauseBoard.setFlag merchant (some false)
      else s.pauseBoard := by
  simp only [unpauseMerchant, run_bind_ok, run_requireAuth_ok, run_gets_ok, run_when_ok,
    setMerchantPaused, run_store_ok] at hrun
  obtain ⟨_, _, ⟨-, rfl⟩, _, _, ⟨rfl, rfl⟩, ⟨hpaused, rfl⟩ | ⟨hactive, rfl⟩⟩ := hrun
  · rw [s.pauseBoard_write_flag, if_pos (by simpa [State.merchantPaused_eq_paused] using hpaused)]
  · rw [if_neg (by simpa [State.merchantPaused_eq_paused] using hactive)]

theorem initializeMerchantConfig_effect {payoutAddress : Address}
    {feeBips allowedOperations : Int} {feeAddress : Option Address} {redirectUrl : Bytes}
    (hrun : (initializeMerchantConfig merchant payoutAddress feeBips allowedOperations feeAddress
      redirectUrl).run r s = .ok () t) :
    ∃ config, config.isPaused = false ∧
      t.pauseBoard = s.pauseBoard.setConfig merchant (some config) := by
  simp only [initializeMerchantConfig, run_bind_ok, run_requireAuth_ok, run_ask_ok, run_store_ok,
    requireMerchantApproved, validateMerchantConfigInput, validateFeeBips, validateOperations,
    run_gets_ok, run_failIf_ok] at hrun
  obtain ⟨_, _, ⟨-, rfl⟩, _, _, ⟨_, _, ⟨-, rfl⟩, -, rfl⟩, _, _, ⟨_, _, ⟨-, rfl⟩, _, _, ⟨-, rfl⟩,
    -, rfl⟩, _, _, ⟨-, rfl⟩, rfl⟩ := hrun
  exact ⟨_, rfl, s.pauseBoard_write_config ..⟩

theorem setMerchantConfig_effect {config : MerchantConfig}
    (hrun : (setMerchantConfig merchant config).run r s = .ok () t) :
    t.pauseBoard =
      s.pauseBoard.setConfig merchant (some { config with lastUpdated := r.now }) := by
  simp only [setMerchantConfig, run_bind_ok, run_requireAuth_ok, run_ask_ok, run_store_ok,
    validateMerchantConfigInput, validateFeeBips, validateOperations, run_failIf_ok] at hrun
  obtain ⟨_, _, ⟨-, rfl⟩, _, _, ⟨_, _, ⟨-, rfl⟩, _, _, ⟨-, rfl⟩, -, rfl⟩, _, _, ⟨rfl, rfl⟩,
    rfl⟩ := hrun
  exact s.pauseBoard_write_config ..

theorem updateMerchantConfig_effect {u : MerchantConfigUpdate}
    (hrun : (updateMerchantConfig merchant u).run r s = .ok () t) :
    ∃ config, s.pauseBoard.config merchant = some config ∧
      t.pauseBoard = s.pauseBoard.setConfig merchant (some (u.apply config r.now)) := by
  simp only [updateMerchantConfig, run_bind_ok, run_requireAuth_ok, run_ask_ok, run_store_ok,
    run_gets_ok, run_okOr_ok] at hrun
  obtain ⟨_, _, ⟨-, rfl⟩, _, _, ⟨rfl, rfl⟩, config, _, ⟨hconfig, rfl⟩, _, u₁, hprotected, _, u₂,
    hfee, _, u₃, hops, _, _, ⟨rfl, rfl⟩, rfl⟩ := hrun
  have h₁ : s = u₁ := Keeps.ok (.when (.bind (.gets _) fun _ => .bind (.lift _) fun _ =>
    .failIf _ _)) hprotected
  have h₂ : u₁ = u₂ := Keeps.ok (.whenSome fun _ => .failIf _ _) hfee
  have h₃ : u₂ = u₃ := Keeps.ok (.whenSome fun _ => .bind (.failIf _ _) fun _ =>
    .failIf _ _) hops
  obtain rfl := (h₁.trans h₂).trans h₃
  exact ⟨config, hconfig, s.pauseBoard_write_config ..⟩

/-! ### Rotation -/

theorem run_moveEntry_ok {α : Type} {«from» «to» : DataKey} [Holds DataKey.Val «from» α]
    [Holds DataKey.Val «to» α] {u : Unit} :
    (moveEntry «from» «to»).run r s = .ok u t ↔
      (∃ value, s.read (.instanced «from») = some value ∧
        (s.write (.instanced «to») value).remove (.instanced «from») = t) ∨
      (s.read (.instanced «from») = none ∧ s = t) := by
  simp only [moveEntry, run_bind_ok, run_load_ok, run_whenSome_ok, run_store_ok, run_delete_ok]
  constructor
  · rintro ⟨_, _, ⟨rfl, rfl⟩, ⟨value, hsome, _, _, rfl, rfl⟩ | hnone⟩
    · exact .inl ⟨value, hsome, rfl⟩
    · exact .inr hnone
  · rintro (⟨value, hsome, rfl⟩ | hnone)
    · exact ⟨_, _, ⟨rfl, rfl⟩, .inl ⟨value, hsome, (), _, rfl, rfl⟩⟩
    · exact ⟨_, _, ⟨rfl, rfl⟩, .inr hnone⟩

private theorem update_move_of_none {α : Type} (f : Address → Option α) {a b : Address}
    (h : f a = none) : Function.update (Function.update f b ((f a).or (f b))) a none = f := by
  funext m
  by_cases ha : m = a
  · rw [ha, Function.update_self, h]
  · rw [Function.update_of_ne ha]
    by_cases hb : m = b
    · rw [hb, Function.update_self, h, Option.none_or]
    · rw [Function.update_of_ne hb]

variable {oldMerchant newMerchant : Address}

theorem moveConfig_effect (hrun : (moveEntry (.merchantConfig oldMerchant)
      (.merchantConfig newMerchant)).run r s = .ok () t) :
    t.pauseBoard = { s.pauseBoard with
      config := (s.pauseBoard.move oldMerchant newMerchant).config } := by
  rcases run_moveEntry_ok.mp hrun with ⟨config, hconfig, rfl⟩ | ⟨hnone, rfl⟩
  · rw [State.pauseBoard_remove_config, State.pauseBoard_write_config]
    have hold : s.pauseBoard.config oldMerchant = some config := hconfig
    simp only [PauseBoard.setConfig, PauseBoard.move, hold, Option.some_or]
  · have hold : s.pauseBoard.config oldMerchant = none := hnone
    simp only [PauseBoard.move, update_move_of_none _ hold]

theorem moveFlag_effect (hrun : (moveEntry (.merchantPaused oldMerchant)
      (.merchantPaused newMerchant)).run r s = .ok () t) :
    t.pauseBoard = { s.pauseBoard with
      flag := (s.pauseBoard.move oldMerchant newMerchant).flag } := by
  rcases run_moveEntry_ok.mp hrun with ⟨flag, hflag, rfl⟩ | ⟨hnone, rfl⟩
  · rw [State.pauseBoard_remove_flag, State.pauseBoard_write_flag]
    have hold : s.pauseBoard.flag oldMerchant = some flag := hflag
    simp only [PauseBoard.setFlag, PauseBoard.move, hold, Option.some_or]
  · have hold : s.pauseBoard.flag oldMerchant = none := hnone
    simp only [PauseBoard.move, update_move_of_none _ hold]

private theorem moveMerchantToken_pauseFree (token : Address) :
    Modifies pauseFree (moveMerchantToken oldMerchant newMerchant token) :=
  .bind (.gets _) fun _ => .bind (.when (.bind (.gets _) fun _ => Modifies.store rfl)) fun _ =>
    .bind (Modifies.delete rfl) fun _ => .bind Modifies.load fun _ => .whenSome fun _ =>
    .bind (Modifies.store rfl) fun _ => Modifies.delete rfl

private theorem rewriteSubscriptionMerchant_pauseFree (id : Nat) :
    Modifies pauseFree (rewriteSubscriptionMerchant oldMerchant newMerchant id) :=
  .bind (.gets _) fun _ => .whenSome fun _ => .when (Modifies.store rfl)

theorem doRotateMerchantAddress_effect {admin : Address} {nonce : Nat}
    (hrun : (doRotateMerchantAddress admin oldMerchant newMerchant nonce).run r s = .ok () t) :
    t.pauseBoard = s.pauseBoard.move oldMerchant newMerchant := by
  simp only [doRotateMerchantAddress, run_bind_ok, run_requireAdminAuth_ok, run_gets_ok] at hrun
  obtain ⟨_, _, ⟨-, rfl⟩, _, u₁, hnonce, _, _, ⟨rfl, rfl⟩, _, u₂, htokens, _, u₃, hlist, _, u₄,
    hconfig, _, u₅, hflag, _, u₆, hvacation, _, _, ⟨rfl, rfl⟩, _, u₇, hsubs, hlist'⟩ := hrun
  have h₁ := Modifies.pauseBoard (Modifies.checkAndAdvance rfl) hnonce
  have h₂ := Modifies.pauseBoard (.forEach moveMerchantToken_pauseFree _) htokens
  have h₃ := Modifies.pauseBoard (.bind (.when (.bind Modifies.load fun _ =>
    Modifies.store rfl)) fun _ => Modifies.delete rfl) hlist
  have h₄ := moveConfig_effect hconfig
  have h₅ := moveFlag_effect hflag
  have h₆ := Modifies.pauseBoard (.bind Modifies.load fun _ => .whenSome fun _ =>
    .bind (Modifies.store rfl) fun _ => Modifies.delete rfl) hvacation
  have h₇ := Modifies.pauseBoard (.forEach rewriteSubscriptionMerchant_pauseFree _) hsubs
  have h₈ := Modifies.pauseBoard (.bind (.when (.bind Modifies.load fun _ =>
    Modifies.store rfl)) fun _ => Modifies.delete rfl) hlist'
  rw [h₈, h₇, h₆, h₅, h₄, h₃, h₂, h₁]
  rfl

/-! ### Upgrades -/

private theorem promoteConfig_entryFree {α : Type} {key : DataKey} [Holds DataKey.Val key α]
    (hi : .instanced key ∈ entryFree) : Modifies entryFree (promoteConfig key) :=
  .bind Modifies.load fun _ => .whenSome fun _ => .bind (Modifies.store rfl) fun _ => Modifies.delete hi

private theorem migrateInternal_entryFree :
    Modifies entryFree doMigrateConfigToPersistentInternal :=
  .bind (promoteConfig_entryFree rfl) fun _ => .bind (promoteConfig_entryFree rfl) fun _ =>
    .bind (promoteConfig_entryFree rfl) fun _ => .bind (promoteConfig_entryFree rfl) fun _ =>
    .bind (promoteConfig_entryFree rfl) fun _ => .bind (promoteConfig_entryFree rfl) fun _ =>
    .bind (promoteConfig_entryFree rfl) fun _ => .bind (promoteConfig_entryFree rfl) fun _ =>
    .bind (promoteConfig_entryFree rfl) fun _ => .bind (promoteConfig_entryFree rfl) fun _ =>
    .bind (Modifies.store rfl) fun _ => Modifies.delete rfl

theorem migrateConfigToPersistent_entryFree (admin : Address) :
    Modifies entryFree (migrateConfigToPersistent admin) :=
  .bind (Modifies.requireAdminAuth _) fun _ => .bind (.gets _) fun _ => .bind (.failIf _ _) fun _ =>
    .bind migrateInternal_entryFree fun _ => .bind (.gets _) fun _ => .failIf _ _

theorem doInit_entryFree (token : Address) (tokenDecimals : Nat) (admin : Address)
    (minTopup : Int) (gracePeriod : Nat) :
    Modifies entryFree (doInit token tokenDecimals admin minTopup gracePeriod) :=
  .bind .ask fun _ => .bind Modifies.getState fun _ => .bind (.failIf _ _) fun _ =>
    .bind (.failIf _ _) fun _ => .bind (.failIf _ _) fun _ => .bind (.failIf _ _) fun _ =>
    .bind (Modifies.store rfl) fun _ => .bind (Modifies.writeConfig rfl rfl) fun _ => .bind (Modifies.store rfl) fun _ =>
    .bind (Modifies.store rfl) fun _ => .bind (Modifies.writeConfig rfl rfl) fun _ =>
    .bind (Modifies.writeConfig rfl rfl) fun _ => Modifies.writeConfig rfl rfl

/-- A dry run changes nothing; any other migration leaves the entries of the board alone. -/
theorem doMigrate_effect {admin : Address} {dryRun : Bool}
    (hrun : (doMigrate admin dryRun).run r s = .ok () t) :
    FiniteStore.AgreeOff entryFree s t ∧ (dryRun = true → t = s) := by
  simp only [doMigrate, run_bind_ok, run_requireAdminAuth_ok, run_gets_ok, run_failIf_ok] at hrun
  obtain ⟨_, _, ⟨-, rfl⟩, _, _, ⟨rfl, rfl⟩, _, _, ⟨-, rfl⟩, hrun⟩ := hrun
  rcases run_when_ok.mp hrun with ⟨⟨hreal, -⟩, hrun⟩ | ⟨-, rfl⟩
  · refine ⟨Keeps.ok (.bind (.when migrateInternal_entryFree) fun _ => .bind (Modifies.store rfl)
      fun _ => .bind (Modifies.delete rfl) fun _ => .bind (.gets _) fun _ => .failIf _ _) hrun, ?_⟩
    intro hdry
    rw [hreal] at hdry
    cases hdry
  · exact ⟨Std.Refl.refl _, fun _ => rfl⟩

end Effects

end SubscriptionVault
