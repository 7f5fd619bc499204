import SubscriptionVault.Charging.Footprints

/-!
# A batch is a sequence of single charges

A batch reads the administration values once and the status of each merchant once. Charges
change neither, so both stay right to the end, and every item is charged as a single charge
in the state its predecessors left would be.
-/

namespace SubscriptionVault

open Exec

/-! ## What charges leave alone -/

section Frame

variable {s t : State}

theorem State.cachedAdminConfig_of_chargeSlots (h : FiniteStore.AgreeOff chargeSlots s t) :
    t.cachedAdminConfig = s.cachedAdminConfig := by
  have hgrace : t.gracePeriod = s.gracePeriod := by
    unfold State.gracePeriod
    rw [State.config_of_chargeSlots .gracePeriod h Bool.false_ne_true Bool.false_ne_true]
  have hpause : t.autoPauseThreshold = s.autoPauseThreshold := by
    unfold State.autoPauseThreshold
    rw [h.read Bool.false_ne_true]
  unfold State.cachedAdminConfig
  rw [hgrace, State.protocolFeeBps_of_chargeSlots h, State.treasury_of_chargeSlots h, hpause]

theorem State.merchantPaused_of_chargeSlots (h : FiniteStore.AgreeOff chargeSlots s t)
    (merchant : Address) : t.merchantPaused merchant = s.merchantPaused merchant := by
  unfold State.merchantPaused State.merchantConfig
  rw [h.read Bool.false_ne_true, h.read Bool.false_ne_true,
    State.schemaVersion_of_agreeOff h Bool.false_ne_true Bool.false_ne_true]

theorem State.merchantStatus_of_chargeSlots (h : FiniteStore.AgreeOff chargeSlots s t)
    (merchant : Address) (now : Nat) :
    t.merchantStatus merchant now = s.merchantStatus merchant now := by
  unfold State.merchantStatus State.isMerchantInVacation State.merchantVacation
  rw [State.merchantPaused_of_chargeSlots h, h.read Bool.false_ne_true]

end Frame

/-! ## Looked-up values -/

/-- What a batch has looked up is what a look at the state would give. -/
structure Coherent (now : Nat) (cfg : Option CachedAdminConfig) (cache : MerchantCache)
    (s : State) : Prop where
  cfg : cfg = s.cachedAdminConfig.toOption
  cache : ∀ merchant status, cache.lookup merchant = some status →
    status = s.merchantStatus merchant now

namespace Coherent

variable {now : Nat} {cfg : Option CachedAdminConfig} {cache : MerchantCache} {s t : State}

theorem initial (now : Nat) (s : State) : Coherent now s.cachedAdminConfig.toOption ∅ s where
  cfg := rfl
  cache merchant status h := by simp at h

theorem cachedMerchantStatus (h : Coherent now cfg cache s) (merchant : Address) :
    s.cachedMerchantStatus cache merchant now = s.merchantStatus merchant now := by
  unfold State.cachedMerchantStatus
  cases hlookup : cache.lookup merchant with
  | none => rfl
  | some status => exact h.cache merchant status hlookup

theorem rememberMerchant (h : Coherent now cfg cache s) (id : Nat) :
    Coherent now cfg (s.rememberMerchant cache id now) s := by
  refine ⟨h.cfg, fun merchant status hlookup => ?_⟩
  unfold State.rememberMerchant at hlookup
  split at hlookup
  · exact h.cache merchant status hlookup
  · split at hlookup
    · exact h.cache merchant status hlookup
    · rename_i sub _
      by_cases hmerchant : merchant = sub.merchant
      · subst hmerchant
        rw [AList.lookup_insert] at hlookup
        rw [← Option.some.inj hlookup, h.cachedMerchantStatus]
      · rw [AList.lookup_insert_ne hmerchant] at hlookup
        exact h.cache merchant status hlookup

theorem of_chargeSlots (h : Coherent now cfg cache s)
    (hagree : FiniteStore.AgreeOff chargeSlots s t) : Coherent now cfg cache t where
  cfg := by rw [h.cfg, State.cachedAdminConfig_of_chargeSlots hagree]
  cache merchant status hlookup := by
    rw [h.cache merchant status hlookup, State.merchantStatus_of_chargeSlots hagree]

theorem intervalFeeTerms (h : Coherent now cfg cache s) :
    s.intervalFeeTerms cfg = s.intervalFeeTerms none := by
  rw [h.cfg]
  unfold State.cachedAdminConfig
  cases s.gracePeriod <;> rfl

theorem grace (h : Coherent now cfg cache s) :
    (cfg.elim s.gracePeriod fun cfg => .ok cfg.graceDuration) = s.gracePeriod := by
  rw [h.cfg]
  unfold State.cachedAdminConfig
  cases s.gracePeriod <;> rfl

theorem threshold (h : Coherent now cfg cache s) :
    cfg.elim s.autoPauseThreshold (·.autoPauseThreshold) = s.autoPauseThreshold := by
  rw [h.cfg]
  unfold State.cachedAdminConfig
  cases s.gracePeriod <;> rfl

/-! ## A charge with looked-up values -/

variable {env : Env}

theorem run_checkMerchantStatus (h : Coherent env.now cfg cache s) (merchant : Address) :
    (checkMerchantStatus merchant cache).run env s = (checkMerchantStatus merchant ∅).run env s := by
  refine run_bind_congr fun env' u hask => ?_
  obtain ⟨rfl, rfl⟩ := run_ask_ok.mp hask
  refine run_bind_congr_left (run_gets_congr ?_)
  rw [h.cachedMerchantStatus, (initial env.now s).cachedMerchantStatus]

theorem run_settleInterval (h : Coherent env.now cfg cache s) (id : Nat) (sub : Subscription)
    (charge : IntervalCharge) (key : Option BytesN32) :
    (settleInterval id sub charge key cfg).run env s =
      (settleInterval id sub charge key none).run env s :=
  Keeps.run_bind_congr .ask fun _ => run_bind_congr_left (run_gets_congr h.intervalFeeTerms)

theorem run_recordShortfall (h : Coherent env.now cfg cache s) (id : Nat)
    (sub : Subscription) :
    (recordShortfall id sub cfg).run env s = (recordShortfall id sub none).run env s := by
  refine Keeps.run_bind_congr .ask fun _ => ?_
  refine (run_bind_congr_left (run_gets_congr h.grace)).trans ?_
  refine Keeps.run_bind_congr (.gets _) fun _ => Keeps.run_bind_congr (.lift _) fun _ =>
    Keeps.run_bind_congr (.lift _) fun short => ?_
  -- The threshold is read after the subscription is written.
  refine run_bind_congr fun _ u hwrite => run_bind_congr_left (run_gets_congr ?_)
  exact (h.of_chargeSlots ((Modifies.writeSubscription id short).ok hwrite)).threshold

theorem run_chargeInterval (h : Coherent env.now cfg cache s) (id : Nat) (sub : Subscription)
    (amount : Int) (key : Option BytesN32) :
    (chargeInterval id sub amount key cfg).run env s =
      (chargeInterval id sub amount key none).run env s := by
  refine Keeps.run_bind_congr .ask fun _ => Keeps.run_bind_congr (.require _) fun _ =>
    Keeps.run_bind_congr Modifies.load fun _ => Keeps.run_bind_congr (.failIf _ _) fun _ =>
    Keeps.run_bind_congr (.gets _) fun _ => ?_
  split
  · rfl
  refine Keeps.run_bind_congr Modifies.load fun _ => Keeps.run_bind_congr (.failIf _ _) fun _ =>
    Keeps.run_bind_congr (.lift _) fun _ => Keeps.run_bind_congr (.failIf _ _) fun _ =>
    Keeps.run_bind_congr (.lift _) fun _ => ?_
  split
  · rfl
  split
  · exact run_bind_congr_left (h.run_settleInterval ..)
  · exact run_bind_congr_left (h.run_recordShortfall ..)

theorem run_chargeChecked (h : Coherent env.now cfg cache s) (id : Nat) (sub : Subscription)
    (key : Option BytesN32) :
    (chargeChecked id sub key cfg).run env s = (chargeChecked id sub key none).run env s := by
  refine Keeps.run_bind_congr .ask fun _ => Keeps.run_bind_congr (.gets _) fun _ =>
    Keeps.run_bind_congr (.lift _) fun _ => ?_
  split
  · rfl
  split
  · rfl
  refine Keeps.run_bind_congr (Modifies.requireChargeable _) fun _ =>
    Keeps.run_bind_congr (.lift _) fun _ => ?_
  split
  · rfl
  · exact h.run_chargeInterval ..

theorem run_chargeOne (h : Coherent env.now cfg cache s) (id : Nat) (key : Option BytesN32) :
    (chargeOne id key cfg cache).run env s = (chargeOne id key none ∅).run env s := by
  refine Keeps.run_bind_congr Modifies.requireNotEmergencyStop fun _ =>
    Keeps.run_bind_congr (Modifies.getSubscription _) fun sub => ?_
  refine (run_bind_congr_left (h.run_checkMerchantStatus _)).trans ?_
  refine Keeps.run_bind_congr (Modifies.checkMerchantStatus _ _) fun _ =>
    Keeps.run_bind_congr (Modifies.requireNotBlocklisted _) fun _ =>
    Keeps.run_bind_congr (Modifies.requireNotBlocklisted _) fun _ =>
    Keeps.run_bind_congr (Modifies.checkSplitPayees _) fun _ => ?_
  refine run_bind_congr fun _ u hexpired => ?_
  exact (h.of_chargeSlots ((Modifies.failIfExpired id sub).ok hexpired)).run_chargeChecked ..

end Coherent

/-! ## Batches -/

/-- Charge the items one by one, with nothing looked up beforehand. -/
def chargeEach : List BatchItem → Vault (List BatchChargeResult)
  | [] => pure []
  | (id, key) :: rest => do
    let result ← attempt (chargeOne id key none ∅)
    let results ← chargeEach rest
    pure (batchResult id result :: results)

theorem Coherent.run_chargeItems {env : Env} {cfg : Option CachedAdminConfig} {s : State}
    {cache : MerchantCache} (h : Coherent env.now cfg cache s) (items : List BatchItem) :
    (chargeItems cfg items cache).run env s = (chargeEach items).run env s := by
  induction items generalizing s cache with
  | nil => rfl
  | cons item items ih =>
    obtain ⟨id, key⟩ := item
    calc (chargeItems cfg ((id, key) :: items) cache).run env s
      _ = (do
            let result ← attempt (chargeOne id key cfg cache)
            let results ← chargeItems cfg items (s.rememberMerchant cache id env.now)
            pure (batchResult id result :: results) : Vault (List BatchChargeResult)).run env s :=
        rfl
      _ = (do
            let result ← attempt (chargeOne id key none ∅)
            let results ← chargeItems cfg items (s.rememberMerchant cache id env.now)
            pure (batchResult id result :: results) : Vault (List BatchChargeResult)).run env s :=
        run_bind_congr_left (run_attempt_congr (h.run_chargeOne id key))
      _ = (chargeEach ((id, key) :: items)).run env s := by
        refine run_bind_congr fun result u hrun => run_bind_congr_left ?_
        have hagree := (Keeps.attempt (Modifies.chargeOne id key none ∅)).ok hrun
        exact ih ((h.rememberMerchant id).of_chargeSlots hagree)

theorem run_executeBatchCharge (env : Env) (s : State) (items : List BatchItem) :
    (executeBatchCharge items).run env s = (chargeEach items).run env s :=
  (Coherent.initial env.now s).run_chargeItems items

/-- A batch over any list of subscriptions gives the results and leaves the storage that
charging them one by one without caches does. -/
theorem batch_eq_single_charges (env : Env) (s : State) (ids : List Nat)
    (keys : Option (List BytesN32)) :
    (executeBatchCharge (batchItems ids keys)).run env s =
      (chargeEach (batchItems ids keys)).run env s :=
  run_executeBatchCharge env s _

/-- One item of a batch with the states around it. -/
structure ChargedItem where
  item : BatchItem
  before : State
  result : Except Error ChargeExecutionResult
  after : State

/-- What the batch reports for the item. -/
def ChargedItem.report (charged : ChargedItem) : BatchChargeResult :=
  batchResult charged.item.1 charged.result

/-- Single charges, one after the other, each error caught. -/
inductive Charges (env : Env) : State → List ChargedItem → State → Prop
  | done {s : State} : Charges env s [] s
  | charge {s u t : State} {item : BatchItem} {result : Except Error ChargeExecutionResult}
      {rest : List ChargedItem} :
      (attempt (chargeOne item.1 item.2 none ∅)).run env s = .ok result u →
      Charges env u rest t → Charges env s (⟨item, s, result, u⟩ :: rest) t

theorem run_chargeEach_ok {env : Env} {s t : State} {items : List BatchItem}
    {results : List BatchChargeResult} :
    (chargeEach items).run env s = .ok results t ↔
      ∃ charged, charged.map ChargedItem.item = items ∧
        charged.map ChargedItem.report = results ∧ Charges env s charged t := by
  induction items generalizing s results with
  | nil =>
    simp only [chargeEach, run_pure_ok]
    constructor
    · rintro ⟨rfl, rfl⟩
      exact ⟨[], rfl, rfl, .done⟩
    · rintro ⟨charged, hitems, rfl, hcharges⟩
      obtain rfl := List.map_eq_nil_iff.mp hitems
      cases hcharges
      exact ⟨rfl, rfl⟩
  | cons item items ih =>
    obtain ⟨id, key⟩ := item
    simp only [chargeEach, run_bind_ok, run_pure_ok]
    constructor
    · rintro ⟨result, u, hrun, results', _, hrest, rfl, rfl⟩
      obtain ⟨charged, rfl, rfl, hcharges⟩ := ih.mp hrest
      exact ⟨⟨(id, key), s, result, u⟩ :: charged, rfl, rfl, .charge hrun hcharges⟩
    · rintro ⟨charged, hitems, rfl, hcharges⟩
      cases hcharges with
      | done => cases hitems
      | charge hrun hcharges =>
        obtain ⟨rfl, rfl⟩ := List.cons_eq_cons.mp hitems
        exact ⟨_, _, hrun, _, _, ih.mpr ⟨_, rfl, rfl, hcharges⟩, rfl, rfl⟩

/-- A batch charges its items as single charges would, one after the other. -/
theorem run_executeBatchCharge_ok {env : Env} {s t : State} {items : List BatchItem}
    {results : List BatchChargeResult} :
    (executeBatchCharge items).run env s = .ok results t ↔
      ∃ charged, charged.map ChargedItem.item = items ∧
        charged.map ChargedItem.report = results ∧ Charges env s charged t := by
  rw [run_executeBatchCharge, run_chargeEach_ok]

namespace Charges

variable {env : Env} {s t : State} {charged : List ChargedItem}

/-- What every single charge preserves, a batch preserves. -/
theorem rel {R : State → State → Prop} [Std.Refl R] [IsTrans State R]
    (h : Charges env s charged t)
    (hstep : ∀ (item : BatchItem) u v result, (attempt (chargeOne item.1 item.2 none ∅)).run env u =
      .ok result v → R u v) : R s t := by
  induction h with
  | done => exact Std.Refl.refl _
  | charge hrun _ ih => exact trans_of R (hstep _ _ _ _ hrun) ih

/-- Every item was charged singly, in a state the charges before it led to. -/
theorem of_mem (h : Charges env s charged t) {c : ChargedItem} (hmem : c ∈ charged) :
    FiniteStore.AgreeOff chargeSlots s c.before ∧
      (attempt (chargeOne c.item.1 c.item.2 none ∅)).run env c.before = .ok c.result c.after := by
  induction h with
  | done => cases hmem
  | charge hrun _ ih =>
    rcases List.mem_cons.mp hmem with rfl | hmem
    · exact ⟨Std.Refl.refl _, hrun⟩
    · obtain ⟨hagree, hrun'⟩ := ih hmem
      have hfirst := (Keeps.attempt (Modifies.chargeOne _ _ none ∅)).ok hrun
      exact ⟨hfirst.trans hagree, hrun'⟩

end Charges

end SubscriptionVault
