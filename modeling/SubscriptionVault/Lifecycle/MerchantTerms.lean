import SubscriptionVault.Charging.MerchantPause
import SubscriptionVault.Lifecycle.Indexes
import SubscriptionVault.Lifecycle.Transactions

/-!
# Terms of a merchant

The fee and the allowed operations of a merchant's configuration are not to change while the
merchant has active subscriptions. A partial update looks for one first. Initialising the
configuration again, replacing it and rotating another address onto it do not.
-/

namespace SubscriptionVault

open Exec

/-! ## Terms -/

/-- The two protected fields. -/
def MerchantConfig.terms (config : MerchantConfig) : Int × Int :=
  (config.feeBips, config.allowedOperations)

def State.terms (s : State) (merchant : Address) : Option (Int × Int) :=
  (s.merchantConfig merchant).map MerchantConfig.terms

def State.hasActive (s : State) (merchant : Address) : Prop :=
  ∃ id sub, s.subscription id = some sub ∧ sub.merchant = merchant ∧ sub.status = .active

/-- The merchant's index lists a subscription that is active. -/
def State.listsActive (s : State) (merchant : Address) : Prop :=
  ∃ id ∈ s.merchantSubs merchant, ∃ sub, s.subscription id = some sub ∧ sub.status = .active

/-! ## Calls that write a configuration -/

inductive ConfigCall where
  | init (merchant payoutAddress : Address) (feeBips allowedOperations : Int)
      (feeAddress : Option Address) (redirectUrl : Bytes)
  | replace (merchant : Address) (config : MerchantConfig)
  | update (merchant : Address) (u : MerchantConfigUpdate)

def ConfigCall.exec : ConfigCall → Vault Unit
  | .init merchant payoutAddress feeBips allowedOperations feeAddress redirectUrl =>
    initializeMerchantConfig merchant payoutAddress feeBips allowedOperations feeAddress
      redirectUrl
  | .replace merchant config => setMerchantConfig merchant config
  | .update merchant u => updateMerchantConfig merchant u

inductive ConfigAction where
  | vault (l : Transaction)
  | config (env : Env) (call : ConfigCall)

/-- A transaction, or a call that writes a configuration; nothing else writes one. -/
inductive ConfigStep : ConfigAction → State → State → Prop
  | vault {l : Transaction} {s t : State} : Transacts l s t →
      (∀ env, l = .other env → t.merchantConfig = s.merchantConfig) → ConfigStep (.vault l) s t
  | config {env : Env} {call : ConfigCall} {s t : State} :
      call.exec.run env s = .ok () t → ConfigStep (.config env call) s t

/-! ## When the terms stay -/

/-- A merchant with active subscriptions on both sides of a step has the same terms. -/
def State.KeepsTerms (s t : State) : Prop :=
  ∀ merchant, s.hasActive merchant → t.hasActive merchant →
    ∀ x, s.terms merchant = some x → t.terms merchant = some x

/-- The merchant has nothing active, or these terms already. -/
def State.MayHaveTerms (s : State) (merchant : Address) (new : Int × Int) : Prop :=
  s.hasActive merchant → ∀ x, s.terms merchant = some x → x = new

/-- Every active subscription of the old address moves along, and the new address is not given
other terms. -/
def State.MayRotate (s : State) (oldMerchant newMerchant : Address) : Prop :=
  ∀ x, s.terms oldMerchant = some x → s.MayHaveTerms newMerchant x ∧
    ∀ id sub, s.subscription id = some sub → sub.merchant = oldMerchant → sub.status = .active →
      oldMerchant ≠ newMerchant ∧ id ∈ s.merchantSubs oldMerchant

def ConfigCall.SparesTerms (s : State) : ConfigCall → Prop
  | .init merchant _ feeBips allowedOperations _ _ =>
    s.MayHaveTerms merchant (feeBips, allowedOperations)
  | .replace merchant config => s.MayHaveTerms merchant config.terms
  | .update merchant u => s.listsActive merchant ∨ ∀ x, s.terms merchant = some x →
    s.MayHaveTerms merchant (u.feeBips.getD x.1, u.allowedOperations.getD x.2)

def ConfigAction.SparesTerms (s : State) : ConfigAction → Prop
  | .vault (.call _ (.rotateMerchantAddress _ oldMerchant newMerchant _)) =>
    s.MayRotate oldMerchant newMerchant
  | .vault _ => True
  | .config _ call => call.SparesTerms s

section Calls

variable {env : Env} {s t : State} {merchant : Address}

theorem run_initializeMerchantConfig_ok {payoutAddress : Address}
    {feeBips allowedOperations : Int} {feeAddress : Option Address} {redirectUrl : Bytes} {u : Unit}
    (hrun : (initializeMerchantConfig merchant payoutAddress feeBips allowedOperations feeAddress
      redirectUrl).run env s = .ok u t) :
    ∃ config : MerchantConfig, config.terms = (feeBips, allowedOperations) ∧
      s.write (.instanced (.merchantConfig merchant)) config = t := by
  obtain ⟨_, -, hrun⟩ := run_check_ok (Modifies.requireAuth _) hrun
  obtain ⟨_, -, hrun⟩ := run_check_ok (.bind (.gets _) fun _ => .failIf _ _) hrun
  obtain ⟨_, -, hrun⟩ := run_check_ok
    (.bind (.failIf _ _) fun _ => .bind (.failIf _ _) fun _ => .failIf _ _) hrun
  obtain ⟨time, -, hrun⟩ := run_check_ok .ask hrun
  exact ⟨_, rfl, run_store_ok.mp hrun⟩

theorem run_setMerchantConfig_ok {config : MerchantConfig} {u : Unit}
    (hrun : (setMerchantConfig merchant config).run env s = .ok u t) :
    ∃ stored : MerchantConfig, stored.terms = config.terms ∧
      s.write (.instanced (.merchantConfig merchant)) stored = t := by
  obtain ⟨_, -, hrun⟩ := run_check_ok (Modifies.requireAuth _) hrun
  obtain ⟨_, -, hrun⟩ := run_check_ok
    (.bind (.failIf _ _) fun _ => .bind (.failIf _ _) fun _ => .failIf _ _) hrun
  obtain ⟨time, -, hrun⟩ := run_check_ok .ask hrun
  exact ⟨{ config with lastUpdated := time.now }, rfl, run_store_ok.mp hrun⟩

/-- The guard of a partial update counts what the index lists. -/
theorem run_rejectProtectedFieldChange_ok {update : MerchantConfigUpdate} {u : Unit}
    (hrun : (rejectProtectedFieldChange merchant update).run env s = .ok u t)
    (hprotected : update.feeBips.isSome ∨ update.allowedOperations.isSome) :
    ¬s.listsActive merchant := by
  unfold rejectProtectedFieldChange at hrun
  rw [when, if_pos hprotected] at hrun
  obtain ⟨_, hcounted, hrun⟩ := run_check_ok (.gets _) hrun
  obtain ⟨rfl, -⟩ := run_gets_ok.mp hcounted
  obtain ⟨active, hactive, hrun⟩ := run_check_ok (.lift _) hrun
  have hcount := (run_lift_ok.mp hactive).1
  have hnone := (run_failIf_ok.mp hrun).1
  unfold State.countActiveSubscriptions at hcount
  split at hcount
  · cases hcount
  rw [not_not.mp hnone] at hcount
  rintro ⟨id, hmem, sub, hsub, hstatus⟩
  have hidle := List.countP_eq_zero.mp (Except.ok.inj hcount) id hmem
  rw [hsub, Option.any_some, decide_eq_true hstatus] at hidle
  exact hidle rfl

/-- An update of a protected field goes through when the index lists nothing active. -/
theorem run_updateMerchantConfig_ok {update : MerchantConfigUpdate} {u : Unit}
    (hrun : (updateMerchantConfig merchant update).run env s = .ok u t) :
    ∃ config stored : MerchantConfig, s.merchantConfig merchant = some config ∧
      stored.terms = (update.feeBips.getD config.terms.1,
        update.allowedOperations.getD config.terms.2) ∧
      s.write (.instanced (.merchantConfig merchant)) stored = t ∧
      (update.feeBips.isSome ∨ update.allowedOperations.isSome → ¬s.listsActive merchant) := by
  obtain ⟨_, -, hrun⟩ := run_check_ok (Modifies.requireAuth _) hrun
  obtain ⟨found, hfound, hrun⟩ := run_check_ok (.gets _) hrun
  obtain ⟨rfl, -⟩ := run_gets_ok.mp hfound
  obtain ⟨config, hconfig, hrun⟩ := run_check_ok (.okOr _ _) hrun
  have hconfig := (run_okOr_ok.mp hconfig).1
  obtain ⟨_, hguard, hrun⟩ := run_check_ok (.when (.bind (.gets _) fun _ => .bind (.lift _) fun _ =>
    .failIf _ _)) hrun
  obtain ⟨_, -, hrun⟩ := run_check_ok (.whenSome fun _ => .failIf _ _) hrun
  obtain ⟨_, -, hrun⟩ := run_check_ok (.whenSome fun _ => .bind (.failIf _ _) fun _ =>
    .failIf _ _) hrun
  obtain ⟨time, -, hrun⟩ := run_check_ok .ask hrun
  exact ⟨config, update.apply config time.now, hconfig, rfl, run_store_ok.mp hrun,
    run_rejectProtectedFieldChange_ok hguard⟩

/-- A refused update has written nothing. -/
theorem run_updateMerchantConfig_err {update : MerchantConfigUpdate} {e : Error}
    (hrun : (updateMerchantConfig merchant update).run env s = .err e t) : s = t := by
  rcases run_check_err (Modifies.requireAuth _) hrun with rfl | ⟨_, -, hrun⟩
  · rfl
  rcases run_check_err (.gets _) hrun with rfl | ⟨_, -, hrun⟩
  · rfl
  rcases run_check_err (.okOr _ _) hrun with rfl | ⟨_, -, hrun⟩
  · rfl
  rcases run_check_err (.when (.bind (.gets _) fun _ => .bind (.lift _) fun _ =>
    .failIf _ _)) hrun with rfl | ⟨_, -, hrun⟩
  · rfl
  rcases run_check_err (.whenSome fun _ => .failIf _ _) hrun with rfl | ⟨_, -, hrun⟩
  · rfl
  rcases run_check_err (.whenSome fun _ => .bind (.failIf _ _) fun _ => .failIf _ _) hrun
    with rfl | ⟨_, -, hrun⟩
  · rfl
  rcases run_check_err .ask hrun with rfl | ⟨_, -, hrun⟩
  · rfl
  cases hrun

end Calls

section Steps

variable {env : Env} {s t : State} {merchant oldMerchant newMerchant : Address} {new : Int × Int}

/-! ### A configuration is written -/

theorem State.terms_write_config (s : State) (merchant : Address) (config : MerchantConfig) :
    State.terms (s.write (.instanced (.merchantConfig merchant)) config) =
      Function.update s.terms merchant (some config.terms) := by
  have hconfig := congrArg PauseBoard.config (s.pauseBoard_write_config merchant config)
  funext m
  have hm : State.merchantConfig (s.write (.instanced (.merchantConfig merchant)) config) m =
      Function.update s.merchantConfig merchant (some config) m := congrFun hconfig m
  unfold State.terms
  rw [hm]
  by_cases h : m = merchant
  · rw [h, Function.update_self, Function.update_self, Option.map_some]
  · rw [Function.update_of_ne h, Function.update_of_ne h]

theorem State.hasActive_of_subscription (h : t.subscription = s.subscription) :
    t.hasActive = s.hasActive := by
  unfold State.hasActive
  rw [h]

theorem keepsTerms_write_iff {config : MerchantConfig}
    (h : s.write (.instanced (.merchantConfig merchant)) config = t) :
    s.KeepsTerms t ↔ s.MayHaveTerms merchant config.terms := by
  have hterms := s.terms_write_config merchant config
  have hrecord : t.subscription = s.subscription := by
    funext id
    rw [← h]
    exact FiniteStore.read_write_of_ne s config (by nofun)
  have hactive := State.hasActive_of_subscription hrecord
  rw [h] at hterms
  unfold State.KeepsTerms State.MayHaveTerms
  rw [hactive, hterms]
  constructor
  · intro hkeeps hcurrent x hx
    have hafter := hkeeps merchant hcurrent hcurrent x hx
    rw [Function.update_self] at hafter
    exact (Option.some.inj hafter).symm
  · intro hmay m hcurrent _ x hx
    by_cases hm : m = merchant
    · subst hm
      rw [Function.update_self, hmay hcurrent x hx]
    · rw [Function.update_of_ne hm]
      exact hx

theorem ConfigCall.keepsTerms_iff {call : ConfigCall} (hrun : call.exec.run env s = .ok () t) :
    s.KeepsTerms t ↔ call.SparesTerms s := by
  cases call with
  | init m payoutAddress feeBips allowedOperations feeAddress redirectUrl =>
    obtain ⟨stored, hterms, hwrite⟩ := run_initializeMerchantConfig_ok hrun
    rw [keepsTerms_write_iff hwrite, hterms]
    exact Iff.rfl
  | replace m config =>
    obtain ⟨stored, hterms, hwrite⟩ := run_setMerchantConfig_ok hrun
    rw [keepsTerms_write_iff hwrite, hterms]
    exact Iff.rfl
  | update m u =>
    obtain ⟨config, stored, hconfig, hterms, hwrite, hguard⟩ := run_updateMerchantConfig_ok hrun
    have hcurrent : s.terms m = some config.terms := by
      unfold State.terms
      rw [hconfig, Option.map_some]
    rw [keepsTerms_write_iff hwrite, hterms]
    constructor
    · intro hmay
      refine .inr fun x hx => ?_
      obtain rfl := Option.some.inj (hcurrent.symm.trans hx)
      exact hmay
    · intro hspares
      rcases hspares with hlisted | hmay
      · -- an update that got past the guard leaves both fields alone
        have hopen : ¬(u.feeBips.isSome ∨ u.allowedOperations.isSome) :=
          fun hprotected => hguard hprotected hlisted
        have hfee : u.feeBips = none := by
          simpa using fun h => hopen (.inl h)
        have hoperations : u.allowedOperations = none := by
          simpa using fun h => hopen (.inr h)
        intro _ x hx
        rw [hfee, hoperations]
        exact (Option.some.inj (hcurrent.symm.trans hx)).symm
      · exact hmay _ hcurrent

/-! ### A rotation -/

theorem rotated_terms {admin : Address} {nonce : Nat} {u : Unit}
    (hrun : (doRotateMerchantAddress admin oldMerchant newMerchant nonce).run env s = .ok u t) :
    t.terms = Function.update (Function.update s.terms newMerchant
      ((s.terms oldMerchant).or (s.terms newMerchant))) oldMerchant none := by
  have hconfig := congrArg PauseBoard.config (doRotateMerchantAddress_effect hrun)
  funext m
  have hm : t.merchantConfig m = Function.update (Function.update s.merchantConfig newMerchant
      ((s.merchantConfig oldMerchant).or (s.merchantConfig newMerchant))) oldMerchant none m :=
    congrFun hconfig m
  unfold State.terms
  rw [hm]
  by_cases hold : m = oldMerchant
  · rw [hold, Function.update_self, Function.update_self]
    rfl
  rw [Function.update_of_ne hold, Function.update_of_ne hold]
  by_cases hnew : m = newMerchant
  · rw [hnew, Function.update_self, Function.update_self]
    cases s.merchantConfig oldMerchant <;> rfl
  · rw [Function.update_of_ne hnew, Function.update_of_ne hnew]

theorem rotated_subscription {admin : Address} {nonce : Nat} {u : Unit}
    (hrun : (doRotateMerchantAddress admin oldMerchant newMerchant nonce).run env s = .ok u t)
    (id : Nat) :
    t.subscription id = if id ∈ s.merchantSubs oldMerchant then
      (s.subscription id).map (·.rehomed oldMerchant newMerchant) else s.subscription id := by
  have hrecord := congrArg (fun b => b.record id) (doRotateMerchantAddress_book hrun)
  exact hrecord.trans (s.book.rotated_record oldMerchant newMerchant id)

/-- What the new address has active stays with it. -/
theorem rotated_new_active {admin : Address} {nonce : Nat} {u : Unit}
    (hrun : (doRotateMerchantAddress admin oldMerchant newMerchant nonce).run env s = .ok u t)
    (hactive : s.hasActive newMerchant) : t.hasActive newMerchant := by
  obtain ⟨id, sub, hsub, hmerchant, hstatus⟩ := hactive
  have hrecord := rotated_subscription hrun id
  by_cases hlisted : id ∈ s.merchantSubs oldMerchant
  · rw [if_pos hlisted, hsub, Option.map_some] at hrecord
    refine ⟨id, _, hrecord, ?_, (sub.rehomed_same oldMerchant newMerchant).2.2.trans hstatus⟩
    unfold Subscription.rehomed
    split
    · rfl
    · exact hmerchant
  · rw [if_neg hlisted] at hrecord
    exact ⟨id, sub, hrecord.trans hsub, hmerchant, hstatus⟩

/-- Active subscriptions of the old address that are not in its index stay with it. -/
theorem rotated_old_active {admin : Address} {nonce : Nat} {u : Unit}
    (hrun : (doRotateMerchantAddress admin oldMerchant newMerchant nonce).run env s = .ok u t)
    (hne : oldMerchant ≠ newMerchant) :
    t.hasActive oldMerchant ↔ ∃ id sub, s.subscription id = some sub ∧
      sub.merchant = oldMerchant ∧ sub.status = .active ∧ id ∉ s.merchantSubs oldMerchant := by
  constructor
  · rintro ⟨id, sub, hsub, hmerchant, hstatus⟩
    have hrecord := rotated_subscription hrun id
    by_cases hlisted : id ∈ s.merchantSubs oldMerchant
    · rw [if_pos hlisted, hsub] at hrecord
      obtain ⟨before, -, rfl⟩ := Option.map_eq_some_iff.mp hrecord.symm
      unfold Subscription.rehomed at hmerchant
      split at hmerchant
      · exact absurd hmerchant.symm hne
      · contradiction
    · rw [if_neg hlisted, hsub] at hrecord
      exact ⟨id, sub, hrecord.symm, hmerchant, hstatus, hlisted⟩
  · rintro ⟨id, sub, hsub, hmerchant, hstatus, hlisted⟩
    have hrecord := rotated_subscription hrun id
    rw [if_neg hlisted] at hrecord
    exact ⟨id, sub, hrecord.trans hsub, hmerchant, hstatus⟩

theorem rotated_keepsTerms_iff {admin : Address} {nonce : Nat} {u : Unit}
    (hrun : (doRotateMerchantAddress admin oldMerchant newMerchant nonce).run env s = .ok u t) :
    s.KeepsTerms t ↔ s.MayRotate oldMerchant newMerchant := by
  have hterms := rotated_terms hrun
  have hold : t.terms oldMerchant = none := by
    rw [hterms, Function.update_self]
  constructor
  · intro hkeeps x hx
    constructor
    · intro hactive y hy
      by_cases hne : newMerchant = oldMerchant
      · subst hne
        exact Option.some.inj (hy.symm.trans hx)
      have hafter := hkeeps newMerchant hactive (rotated_new_active hrun hactive) y hy
      rw [hterms, Function.update_of_ne hne, Function.update_self, hx, Option.some_or] at hafter
      exact (Option.some.inj hafter).symm
    · intro id sub hsub hmerchant hstatus
      have hactive : s.hasActive oldMerchant := ⟨id, sub, hsub, hmerchant, hstatus⟩
      have hnone (hafter : t.hasActive oldMerchant) : False := by
        have hstays := hkeeps oldMerchant hactive hafter x hx
        rw [hold] at hstays
        cases hstays
      have hne : oldMerchant ≠ newMerchant := by
        intro heq
        subst heq
        exact hnone (rotated_new_active hrun hactive)
      refine ⟨hne, ?_⟩
      by_contra hunlisted
      exact hnone ((rotated_old_active hrun hne).mpr ⟨id, sub, hsub, hmerchant, hstatus, hunlisted⟩)
  · intro hmay m hbefore hafter x hx
    by_cases hm : m = oldMerchant
    · subst hm
      obtain ⟨-, hmoves⟩ := hmay x hx
      obtain ⟨id, sub, hsub, hmerchant, hstatus⟩ := hbefore
      have hne := (hmoves id sub hsub hmerchant hstatus).1
      obtain ⟨id, sub, hsub, hmerchant, hstatus, hunlisted⟩ :=
        (rotated_old_active hrun hne).mp hafter
      exact absurd (hmoves id sub hsub hmerchant hstatus).2 hunlisted
    rw [hterms, Function.update_of_ne hm]
    by_cases hnew : m = newMerchant
    · subst hnew
      rw [Function.update_self]
      cases hterm : s.terms oldMerchant with
      | none => rw [Option.none_or, hx]
      | some y => rw [Option.some_or, (hmay y hterm).1 hbefore x hx]
    · rw [Function.update_of_ne hnew]
      exact hx

/-! ### Any step -/

theorem keepsTerms_of_config (h : t.merchantConfig = s.merchantConfig) : s.KeepsTerms t := by
  intro m _ _ x hx
  unfold State.terms at hx ⊢
  rw [h]
  exact hx

/-- One step leaves the terms alone exactly when its condition holds in the state before it. -/
theorem ConfigStep.keepsTerms_iff {l : ConfigAction} (h : ConfigStep l s t) :
    s.KeepsTerms t ↔ l.SparesTerms s := by
  cases h with
  | config hrun => exact ConfigCall.keepsTerms_iff hrun
  | @vault l _ _ hstep hother =>
    cases hstep with
    | other hagree => exact iff_of_true (keepsTerms_of_config (hother _ rfl)) trivial
    | @call env call _ _ hrun =>
      have hquiet (h : (.locks :: call.areas).contains .merchants = false) : s.KeepsTerms t :=
        keepsTerms_of_config (funext fun m =>
          State.read_of_areas (k := .instanced (.merchantConfig m))
            ((VaultCall.worksIn call).ok hrun).1 h)
      cases call
      case rotateMerchantAddress admin oldMerchant newMerchant nonce =>
        exact rotated_keepsTerms_iff hrun
      all_goals exact iff_of_true (hquiet rfl) trivial

end Steps

section Runs

variable {start s : State} {hist : History ConfigAction State}

/-- A merchant that has had active subscriptions throughout has the terms it started with. -/
theorem terms_lasting (hrun : Run ConfigStep start hist s)
    (hspares : ∀ step ∈ hist, step.1.SparesTerms step.2) {merchant : Address} {x : Int × Int}
    (hx : start.terms merchant = some x) (hbusy : ∀ step ∈ hist, step.2.hasActive merchant)
    (hnow : s.hasActive merchant) : s.terms merchant = some x := by
  induction hrun with
  | start => exact hx
  | @next earlier u v l _ hstep ih =>
    have hlast : u.hasActive merchant := hbusy _ List.mem_cons_self
    have hbefore := ih (fun step hmem => hspares step (List.mem_cons_of_mem _ hmem))
      (fun step hmem => hbusy step (List.mem_cons_of_mem _ hmem)) hlast
    exact hstep.keepsTerms_iff.mpr (hspares _ List.mem_cons_self) merchant hlast hnow x hbefore

/-- A step leaves the terms of every busy merchant alone exactly when its condition holds, so a
merchant that stays busy through a run of such steps keeps its terms, and a refused update changes
nothing at all. -/
theorem merchant_terms_kept_iff (hrun : Run ConfigStep start hist s) :
    (∀ l u v, (l, u, v) ∈ transitions hist s → (u.KeepsTerms v ↔ l.SparesTerms u)) ∧
    ((∀ step ∈ hist, step.1.SparesTerms step.2) →
      ∀ merchant x, start.terms merchant = some x →
        (∀ step ∈ hist, step.2.hasActive merchant) → s.hasActive merchant →
          s.terms merchant = some x) ∧
    ∀ env u v merchant update e,
      (updateMerchantConfig merchant update).run env u = .err e v → u = v := by
  refine ⟨fun l u v hmem => (hrun.step_of_transition hmem).keepsTerms_iff,
    fun hspares merchant x hx hbusy hnow => terms_lasting hrun hspares hx hbusy hnow,
    fun env u v merchant update e hfails => run_updateMerchantConfig_err hfails⟩

end Runs

section Examples

private def chargesNothing : ConfigCall := .init ⟨1⟩ ⟨1⟩ 0 1 none []

private def chargesAll : ConfigCall := .init ⟨1⟩ ⟨1⟩ 10000 1 none []

private def termsSet : State := chargesNothing.exec.after (sampleEnv 0 [⟨1⟩]) (sampleStart 0)

private def termsUsed : State :=
  (VaultCall.createSubscription sampleRequest).exec.after (sampleEnv 0 [⟨2⟩]) termsSet

private def termsRaised : State := chargesAll.exec.after (sampleEnv 0 [⟨1⟩]) termsUsed

private theorem busy_of_record {u : State} (h : (u.subscription 0).map (fun sub =>
    (sub.merchant, sub.status)) = some (⟨1⟩, .active)) : u.hasActive ⟨1⟩ := by
  obtain ⟨sub, hsub, hparts⟩ := Option.map_eq_some_iff.mp h
  exact ⟨0, sub, hsub, congrArg Prod.fst hparts, congrArg Prod.snd hparts⟩

/-- Initialising the configuration again takes the fee of a busy merchant to 100 %. -/
theorem busy_merchant_reinitialised : ∃ start hist s l u v, Deployed start ∧
    Run ConfigStep start hist s ∧ (l, u, v) ∈ transitions hist s ∧
    u.hasActive ⟨1⟩ ∧ v.hasActive ⟨1⟩ ∧
    u.terms ⟨1⟩ = some (0, 1) ∧ v.terms ⟨1⟩ = some (10000, 1) := by
  have hset : ConfigStep (.config (sampleEnv 0 [⟨1⟩]) chargesNothing) (sampleStart 0) termsSet :=
    .config (run_eq_after (by decide +kernel))
  have hcreated : ConfigStep (.vault (.call (sampleEnv 0 [⟨2⟩])
      (.createSubscription sampleRequest))) termsSet termsUsed :=
    .vault (.call (run_eq_after (by decide +kernel))) nofun
  have hraised : ConfigStep (.config (sampleEnv 0 [⟨1⟩]) chargesAll) termsUsed termsRaised :=
    .config (run_eq_after (by decide +kernel))
  refine ⟨_, _, _, _, termsUsed, termsRaised, sample_deployed 0,
    ((Run.start.next hset).next hcreated).next hraised, List.mem_cons_self,
    busy_of_record (by decide +kernel), busy_of_record (by decide +kernel),
    by decide +kernel, by decide +kernel⟩

private def redirects : ConfigCall :=
  .update ⟨1⟩ ⟨none, none, none, none, none, some [104, 105], none⟩

/-- A redirect address goes through while the merchant is busy. -/
theorem busy_merchant_redirected : ∃ u v, ConfigStep (.config (sampleEnv 5 [⟨1⟩]) redirects) u v ∧
    (v.merchantConfig ⟨1⟩).map (·.redirectUrl) = some [104, 105] ∧
    u.terms ⟨1⟩ = some (0, 1) ∧ v.terms ⟨1⟩ = some (0, 1) := by
  have hstep : ConfigStep (.config (sampleEnv 5 [⟨1⟩]) redirects) termsUsed
      (redirects.exec.after (sampleEnv 5 [⟨1⟩]) termsUsed) :=
    .config (run_eq_after (by decide +kernel))
  have hterms : termsUsed.terms ⟨1⟩ = some (0, 1) := by decide +kernel
  have hbusy : termsUsed.hasActive ⟨1⟩ := busy_of_record (by decide +kernel)
  obtain ⟨-, hlasting, -⟩ := merchant_terms_kept_iff (Run.start.next hstep)
  refine ⟨_, _, hstep, by decide +kernel, hterms, ?_⟩
  refine hlasting (fun step hmem => ?_) ⟨1⟩ _ hterms (fun step hmem => ?_)
    (busy_of_record (by decide +kernel))
  · obtain rfl := List.mem_singleton.mp hmem
    exact .inr fun x hx _ y hy => Option.some.inj (hy.symm.trans hx)
  · obtain rfl := List.mem_singleton.mp hmem
    exact hbusy

end Examples

end SubscriptionVault
