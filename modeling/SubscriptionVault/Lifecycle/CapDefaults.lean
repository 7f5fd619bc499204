import SubscriptionVault.Lifecycle.Catalogue

/-!
# Default caps

A creation that names no lifetime cap takes the merchant's default, or else the default of the
contract, and one from a plan takes the plan's. All of them are positive wherever they are set,
so no subscription starts above its cap.
-/

namespace SubscriptionVault

open Exec

/-! ## Setting a default -/

def setCapDefault (key : SymbolKey) [Holds SymbolKey.Val key Int] (cap : Option Int) :
    Vault Unit := do
  failIf (cap.any (· ≤ 0)) .invalidAmount
  match cap with
  | some c => store (.symbol key) c
  | none => delete (.symbol key)

def doSetGlobalCapDefault (admin : Address) (cap : Option Int) : Vault Unit := do
  requireAdminAuth admin
  setCapDefault .capDefault cap

def doSetMerchantCapDefault (merchant : Address) (cap : Option Int) : Vault Unit := do
  requireAuth merchant
  setCapDefault (.merchCap merchant) cap

/-- The entrypoints that write a default. -/
inductive CapCall where
  | setGlobalCapDefault (admin : Address) (cap : Option Int)
  | setMerchantCapDefault (merchant : Address) (cap : Option Int)

def CapCall.exec : CapCall → Vault Unit
  | .setGlobalCapDefault admin cap => doSetGlobalCapDefault admin cap
  | .setMerchantCapDefault merchant cap => do
    rejectContractSelf merchant
    doSetMerchantCapDefault merchant cap

/-! ## Where caps come from -/

/-- The caps that a subscription may be given are positive. -/
structure State.CapsPositive (s : State) : Prop where
  global : ∀ cap, s.read (.symbol .capDefault) = some cap → 0 < cap
  merchant : ∀ merchant cap, s.read (.symbol (.merchCap merchant)) = some cap → 0 < cap
  plan : ∀ planId plan, s.planTemplate planId = some plan →
    ∀ cap, plan.lifetimeCap = some cap → 0 < cap

/-- The slots that caps are read from. -/
def Slot.isCap : Slot → Bool
  | .symbol .capDefault | .symbol (.merchCap _) | .instanced (.plan _) => true
  | _ => false

def capFree : Set Slot := {k | k.isCap = false}

section Kept

variable {env : Env} {s t : State} {l : List Area}

theorem State.CapsPositive.of_agreeOff (h : s.CapsPositive)
    (hagree : FiniteStore.AgreeOff capFree s t) : t.CapsPositive where
  global cap hcap := by
    refine h.global cap ?_
    rw [← hcap]
    exact (hagree.read Bool.noConfusion).symm
  merchant merchant cap hcap := by
    refine h.merchant merchant cap ?_
    rw [← hcap]
    exact (hagree.read Bool.noConfusion).symm
  plan planId plan hplan := by
    refine h.plan planId plan ?_
    rw [← hplan]
    exact (hagree.read (k := .instanced (.plan planId)) Bool.noConfusion).symm

theorem State.CapsPositive.resolveCap (h : s.CapsPositive) {planId : Nat} {plan : PlanTemplate}
    (hplan : s.planTemplate planId = some plan) {cap : Int}
    (hcap : s.resolveCap plan.merchant plan.lifetimeCap = some cap) : 0 < cap := by
  rcases Option.or_eq_some_iff.mp hcap with hown | ⟨-, hdefault⟩
  · exact h.plan planId plan hplan cap hown
  rcases Option.or_eq_some_iff.mp hdefault with hmerchant | ⟨-, hglobal⟩
  · exact h.merchant plan.merchant cap hmerchant
  · exact h.global cap hglobal

theorem areas_subset_capFree (h : (l.contains .settings || l.contains .plans) = false) :
    areas l ⊆ capFree := by
  intro k hk
  have hmem : l.contains k.area = true := hk
  obtain ⟨hsettings, hplans⟩ := Bool.or_eq_false_iff.mp h
  by_contra hcap
  have hcap : k.isCap = true := by simpa [capFree] using hcap
  cases k with
  | symbol key =>
    cases key
    case capDefault | merchCap => exact Bool.noConfusion (hsettings.symm.trans hmem)
    all_goals cases hcap
  | instanced key =>
    cases key
    case plan => exact Bool.noConfusion (hplans.symm.trans hmem)
    all_goals cases hcap
  | _ => cases hcap

/-! ## Calls of the vault -/

theorem doInit_capFree (token : Address) (tokenDecimals : Nat) (admin : Address) (minTopup : Int)
    (gracePeriod : Nat) :
    Modifies capFree (doInit token tokenDecimals admin minTopup gracePeriod) :=
  .bind .ask fun _ => .bind Modifies.getState fun _ => .bind (.failIf _ _) fun _ =>
    .bind (.failIf _ _) fun _ => .bind (.failIf _ _) fun _ => .bind (.failIf _ _) fun _ =>
    .bind (Modifies.store rfl) fun _ => .bind (Modifies.writeConfig rfl rfl) fun _ =>
    .bind (Modifies.store rfl) fun _ => .bind (Modifies.store rfl) fun _ =>
    .bind (Modifies.writeConfig rfl rfl) fun _ => .bind (Modifies.writeConfig rfl rfl) fun _ =>
    Modifies.writeConfig rfl rfl

theorem promoteConfig_capFree {α : Type} {key : DataKey} [Holds DataKey.Val key α]
    (hold : Slot.instanced key ∈ capFree) (hnew : Slot.persistent key ∈ capFree) :
    Modifies capFree (promoteConfig key) :=
  .bind Modifies.load fun _ => .whenSome fun _ => .bind (Modifies.store hnew) fun _ =>
    Modifies.delete hold

theorem migrateInternal_capFree : Modifies capFree doMigrateConfigToPersistentInternal :=
  .bind (promoteConfig_capFree rfl rfl) fun _ => .bind (promoteConfig_capFree rfl rfl) fun _ =>
    .bind (promoteConfig_capFree rfl rfl) fun _ => .bind (promoteConfig_capFree rfl rfl) fun _ =>
    .bind (promoteConfig_capFree rfl rfl) fun _ => .bind (promoteConfig_capFree rfl rfl) fun _ =>
    .bind (promoteConfig_capFree rfl rfl) fun _ => .bind (promoteConfig_capFree rfl rfl) fun _ =>
    .bind (promoteConfig_capFree rfl rfl) fun _ => .bind (promoteConfig_capFree rfl rfl) fun _ =>
    .bind (Modifies.store rfl) fun _ => Modifies.delete rfl

theorem migrateConfigToPersistent_capFree (admin : Address) :
    Modifies capFree (migrateConfigToPersistent admin) :=
  .bind (Modifies.requireAdminAuth _) fun _ => .bind (.gets _) fun _ => .bind (.failIf _ _) fun _ =>
    .bind migrateInternal_capFree fun _ => .bind (.gets _) fun _ => .failIf _ _

theorem doMigrate_capFree (admin : Address) (dryRun : Bool) :
    Modifies capFree (doMigrate admin dryRun) :=
  .bind (Modifies.requireAdminAuth _) fun _ => .bind (.gets _) fun _ => .bind (.failIf _ _) fun _ =>
    .when <| .bind (.when migrateInternal_capFree) fun _ => .bind (Modifies.store rfl) fun _ =>
    .bind (Modifies.delete rfl) fun _ => .bind (.gets _) fun _ => .failIf _ _

theorem VaultCall.capsKept {call : VaultCall} (hrun : call.exec.run env s = .ok () t) :
    FiniteStore.AgreeOff capFree s t := by
  by_cases hareas : (call.areas.contains .settings || call.areas.contains .plans) = false
  · exact ((VaultCall.worksIn call).ok hrun).1.mono (areas_subset_capFree hareas)
  · cases call
    case init => exact (doInit_capFree _ _ _ _ _).ok hrun
    case migrate => exact (doMigrate_capFree _ _).ok hrun
    case migrateConfigToPersistent => exact (migrateConfigToPersistent_capFree _).ok hrun
    all_goals exact absurd rfl hareas

theorem BulkItem.capsKept (item : BulkItem) : Modifies capFree item.exec := by
  cases item with
  | charge => exact .effectOf ((chargeOne_areas _ _ _ _).weaken (areas_subset_capFree rfl))
  | deposit => exact (bulkDepositOne_areas _ _ _).weaken (areas_subset_capFree rfl)
  | cancel => exact (bulkCancelOne_areas _).weaken (areas_subset_capFree rfl)
  | pause => exact (bulkPauseOne_areas _).weaken (areas_subset_capFree rfl)

end Kept

/-! ## Calls that set caps -/

section Setting

variable {env : Env} {s t : State} {cap : Option Int}

theorem positive_of_checked (h : ¬cap.any (· ≤ 0) = true) : ∀ c, cap = some c → 0 < c := by
  rintro c rfl
  simpa using h

theorem State.CapsPositive.write_plan (h : s.CapsPositive) {planId : Nat} {plan : PlanTemplate}
    (hplan : ∀ c, plan.lifetimeCap = some c → 0 < c) :
    State.CapsPositive (s.write (.instanced (.plan planId)) plan) where
  global c hc := by
    rw [FiniteStore.read_write_of_ne s plan (by simp)] at hc
    exact h.global c hc
  merchant merchant c hc := by
    rw [FiniteStore.read_write_of_ne s plan (by simp)] at hc
    exact h.merchant merchant c hc
  plan j found hfound := by
    by_cases hj : j = planId
    · subst hj
      obtain rfl := Option.some.inj ((FiniteStore.read_write_self s plan).symm.trans hfound)
      exact hplan
    · have hother : Slot.instanced (.plan j) ≠ .instanced (.plan planId) := by simpa using hj
      exact h.plan j found ((FiniteStore.read_write_of_ne s plan hother).symm.trans hfound)

/-- A plan with a checked cap is stored under the next number. -/
theorem State.CapsPositive.added (h : s.CapsPositive) {plan : PlanTemplate} {id : Nat} {m : State}
    (hcap : ¬plan.lifetimeCap.any (· ≤ 0) = true) (hnext : nextPlanId.run env s = .ok id m)
    (hstore : (store (.instanced (.plan id)) plan).run env m = .ok () t) : t.CapsPositive := by
  have hcounter : Modifies capFree nextPlanId :=
    .bind Modifies.load fun _ => .bind (Modifies.store rfl) fun _ => .pure _
  obtain rfl := run_store_ok.mp hstore
  exact (h.of_agreeOff (hcounter.ok hnext)).write_plan (positive_of_checked hcap)

theorem State.CapsPositive.run_added (h : s.CapsPositive) {plan : Nat → PlanTemplate}
    (hcap : ∀ id, (plan id).lifetimeCap = cap) (hchecked : ¬cap.any (· ≤ 0) = true) {id : Nat}
    (hrun : (do
      let planId ← nextPlanId
      store (.instanced (.plan planId)) (plan planId)
      pure planId : Vault Nat).run env s = .ok id t) : t.CapsPositive := by
  obtain ⟨planId, m, hnext, hrun⟩ := run_bind_ok.mp hrun
  obtain ⟨_, m', hstore, hrun⟩ := run_bind_ok.mp hrun
  obtain ⟨-, rfl⟩ := run_pure_ok.mp hrun
  exact h.added (hcap planId ▸ hchecked) hnext hstore

/-- A call that writes plans writes positive caps only. -/
theorem CatalogueCall.capsPositive {call : CatalogueCall} {u : Unit}
    (hrun : call.exec.run env s = .ok u t) (h : s.CapsPositive) : t.CapsPositive := by
  cases call with
  | createPlanTemplate =>
    obtain ⟨_, hrun⟩ := run_effectOf_ok.mp hrun
    obtain ⟨_, -, hrun⟩ := run_check_ok (Modifies.requireAuth _) hrun
    obtain ⟨_, -, hrun⟩ := run_check_ok (.failIf _ _) hrun
    obtain ⟨_, -, hrun⟩ := run_check_ok (.failIf _ _) hrun
    obtain ⟨_, hcap, hrun⟩ := run_check_ok (.failIf _ _) hrun
    obtain ⟨_, -, hrun⟩ := run_check_ok (.gets _) hrun
    obtain ⟨_, -, hrun⟩ := run_check_ok (.lift _) hrun
    exact h.run_added (fun _ => rfl) (run_failIf_ok.mp hcap).1 hrun
  | createPlanTemplateWithToken =>
    obtain ⟨_, hrun⟩ := run_effectOf_ok.mp hrun
    obtain ⟨_, -, hrun⟩ := run_check_ok (Modifies.requireAuth _) hrun
    obtain ⟨_, -, hrun⟩ := run_check_ok (.failIf _ _) hrun
    obtain ⟨_, -, hrun⟩ := run_check_ok (.failIf _ _) hrun
    obtain ⟨_, -, hrun⟩ := run_check_ok (.gets _) hrun
    obtain ⟨_, -, hrun⟩ := run_check_ok (.failIf _ _) hrun
    obtain ⟨_, hcap, hrun⟩ := run_check_ok (.failIf _ _) hrun
    exact h.run_added (fun _ => rfl) (run_failIf_ok.mp hcap).1 hrun
  | registerPlan =>
    obtain ⟨_, -, hrun⟩ := run_check_ok Modifies.requireNotEmergencyStop hrun
    obtain ⟨_, hrun⟩ := run_effectOf_ok.mp hrun
    obtain ⟨_, -, hrun⟩ := run_check_ok (Modifies.requireAuth _) hrun
    obtain ⟨_, -, hrun⟩ := run_check_ok (.failIf _ _) hrun
    obtain ⟨_, -, hrun⟩ := run_check_ok (.failIf _ _) hrun
    obtain ⟨_, hcap, hrun⟩ := run_check_ok (.failIf _ _) hrun
    obtain ⟨_, -, hrun⟩ := run_check_ok (.gets _) hrun
    obtain ⟨_, -, hrun⟩ := run_check_ok (.lift _) hrun
    exact h.run_added (fun _ => rfl) (run_failIf_ok.mp hcap).1 hrun
  | updatePlanTemplate =>
    obtain ⟨_, hrun⟩ := run_effectOf_ok.mp hrun
    obtain ⟨_, -, hrun⟩ := run_check_ok (Modifies.requireAuth _) hrun
    obtain ⟨_, -, hrun⟩ := run_check_ok (.failIf _ _) hrun
    obtain ⟨_, -, hrun⟩ := run_check_ok (.failIf _ _) hrun
    obtain ⟨_, hcap, hrun⟩ := run_check_ok (.failIf _ _) hrun
    obtain ⟨_, -, hrun⟩ := run_check_ok (.gets _) hrun
    obtain ⟨_, -, hrun⟩ := run_check_ok (.okOr _ _) hrun
    obtain ⟨_, -, hrun⟩ := run_check_ok (.failIf _ _) hrun
    obtain ⟨_, -, hrun⟩ := run_check_ok (.failIf _ _) hrun
    obtain ⟨_, m, hnext, hrun⟩ := run_bind_ok.mp hrun
    obtain ⟨_, -, hrun⟩ := run_check_ok (.okOr _ _) hrun
    obtain ⟨_, m', hstore, hrun⟩ := run_bind_ok.mp hrun
    obtain ⟨-, rfl⟩ := run_pure_ok.mp hrun
    exact h.added (run_failIf_ok.mp hcap).1 hnext hstore
  | disablePlanTemplate =>
    obtain ⟨_, -, hrun⟩ := run_check_ok (Modifies.requireAuth _) hrun
    obtain ⟨_, -, hrun⟩ := run_check_ok (.gets _) hrun
    obtain ⟨_, -, hrun⟩ := run_check_ok (.okOr _ _) hrun
    obtain ⟨_, -, hrun⟩ := run_check_ok (.failIf _ _) hrun
    rcases run_when_ok.mp hrun with ⟨-, hstore⟩ | ⟨-, rfl⟩
    · exact h.of_agreeOff ((Modifies.store (S := capFree) rfl).ok hstore)
    · exact h
  | deprecatePlan =>
    obtain ⟨_, -, hrun⟩ := run_check_ok (Modifies.requireAuth _) hrun
    obtain ⟨found, hfound, hrun⟩ := run_check_ok (.gets _) hrun
    obtain ⟨plan, hplan, hrun⟩ := run_check_ok (.okOr _ _) hrun
    obtain ⟨_, -, hrun⟩ := run_check_ok (.failIf _ _) hrun
    have hstored : s.planTemplate _ = some plan :=
      (run_gets_ok.mp hfound).1.trans (run_okOr_ok.mp hplan).1
    rcases run_when_ok.mp hrun with ⟨-, hstore⟩ | ⟨-, rfl⟩
    · obtain rfl := run_store_ok.mp hstore
      exact h.write_plan fun c hc => h.plan _ plan hstored c hc
    · exact h
  | setPlanMaxActiveSubs =>
    obtain ⟨_, -, hrun⟩ := run_check_ok (Modifies.requireAuth _) hrun
    obtain ⟨_, -, hrun⟩ := run_check_ok (.gets _) hrun
    obtain ⟨_, -, hrun⟩ := run_check_ok (.okOr _ _) hrun
    obtain ⟨_, -, hrun⟩ := run_check_ok (.failIf _ _) hrun
    exact h.of_agreeOff ((Modifies.store (S := capFree) rfl).ok hrun)

/-- Only the default is written, and it is positive where it is set. -/
theorem run_setCapDefault_ok {key : SymbolKey} [Holds SymbolKey.Val key Int] {u : Unit}
    (hrun : (setCapDefault key cap).run env s = .ok u t) :
    FiniteStore.AgreeOff {Slot.symbol key} s t ∧
      ∀ c : Int, t.read (.symbol key) = some c → 0 < c := by
  obtain ⟨_, hcap, hrun⟩ := run_check_ok (.failIf _ _) hrun
  have hpositive := positive_of_checked (run_failIf_ok.mp hcap).1
  cases cap with
  | some new =>
    obtain rfl := run_store_ok.mp hrun
    refine ⟨FiniteStore.agreeOff_write _ _ rfl, fun c hc => ?_⟩
    obtain rfl := Option.some.inj ((FiniteStore.read_write_self s new).symm.trans hc)
    exact hpositive new rfl
  | none =>
    obtain rfl := run_delete_ok.mp hrun
    refine ⟨FiniteStore.agreeOff_remove _ rfl, fun c hc => ?_⟩
    rw [FiniteStore.read_remove_self] at hc
    cases hc

theorem CapCall.capsPositive {call : CapCall} (hrun : call.exec.run env s = .ok () t)
    (h : s.CapsPositive) : t.CapsPositive := by
  have hplans {key : SymbolKey} (hagree : FiniteStore.AgreeOff {Slot.symbol key} s t)
      (planId : Nat) : t.planTemplate planId = s.planTemplate planId := by
    unfold State.planTemplate
    exact hagree.read (by simp)
  cases call with
  | setGlobalCapDefault =>
    obtain ⟨_, -, hrun⟩ := run_check_ok (Modifies.requireAdminAuth _) hrun
    obtain ⟨hagree, hglobal⟩ := run_setCapDefault_ok hrun
    refine ⟨hglobal, fun merchant cap hcap => ?_, fun planId plan hplan => ?_⟩
    · rw [hagree.read (k := .symbol (.merchCap merchant)) (by simp)] at hcap
      exact h.merchant merchant cap hcap
    · rw [hplans hagree] at hplan
      exact h.plan planId plan hplan
  | setMerchantCapDefault owner =>
    obtain ⟨_, -, hrun⟩ := run_check_ok (.bind .ask fun _ => .failIf _ _) hrun
    obtain ⟨_, -, hrun⟩ := run_check_ok (Modifies.requireAuth _) hrun
    obtain ⟨hagree, howner⟩ := run_setCapDefault_ok hrun
    refine ⟨fun cap hcap => ?_, fun merchant cap hcap => ?_, fun planId plan hplan => ?_⟩
    · rw [hagree.read (k := .symbol .capDefault) (by simp)] at hcap
      exact h.global cap hcap
    · by_cases hmerchant : merchant = owner
      · subst hmerchant
        exact howner cap hcap
      · rw [hagree.read (k := .symbol (.merchCap merchant)) (by simpa using hmerchant)] at hcap
        exact h.merchant merchant cap hcap
    · rw [hplans hagree] at hplan
      exact h.plan planId plan hplan

end Setting

end SubscriptionVault
