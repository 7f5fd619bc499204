import SubscriptionVault.Lifecycle.Runs

/-!
# Transactions

A transaction is one top-level call with everything it does, or whatever the entrypoints that
are not listed do. What a listed call may write is given by its areas, so most facts about
transactions need only the few calls that write where it matters.
-/

namespace SubscriptionVault

open Exec

/-! ## What calls write -/

/-- Everything a charge writes, payments included. -/
def paymentAreas : List Area := chargeAreas ++ creditAreas

/-- The areas a call may write to, besides the lock it holds. -/
def VaultCall.areas : VaultCall → List Area
  | .init _ _ _ _ _ | .migrate _ _ | .migrateConfigToPersistent _ => [.numbering, .settings]
  | .createSubscription _ | .createSubscriptionWithToken _ | .createSubscriptionWithSplit _ _
  | .createSubscriptionFromPlan _ _ _ => creationAreas
  | .depositFunds _ _ _ | .bulkDepositFunds _ _ _ => depositAreas
  | .depositFundsOnBehalf _ _ _ _ => .grants :: depositAreas
  | .chargeSubscription _ _ | .operatorChargeSubscription _ _ | .chargeUsage _ _
  | .chargeUsageWithReference _ _ _ | .operatorChargeUsage _ _ _
  | .operatorChargeUsageWithRef _ _ _ _ | .chargeOneOff _ _ _ _ | .graceBuyout _ _ _ _ =>
    paymentAreas
  | .batchCharge _ _ _ | .batchChargeDetailed _ _ _ => .nonces :: paymentAreas
  | .operatorBatchCharge _ _ _ => []
  | .withdrawMerchantFunds _ _ | .withdrawMerchantTokenFunds _ _ _ | .merchantRefund _ _ _ _ =>
    [.balances, .earnings, .tokens]
  | .flushPayouts _ => [.balances, .earnings, .tokens, .schedules]
  | .registerSubAccount _ _ => [.subAccounts, .subAccountLabels]
  | .withdrawSubAccountFunds _ _ _ _ => [.subAccounts, .earnings, .tokens]
  | .rotateMerchantAddress _ _ _ _ => rotationAreas
  | .cancelSubscription _ _ => cancellationAreas
  | .bulkCancelSubscriptions _ _ _ => .nonces :: cancellationAreas
  | .scheduleCancel _ _ _ | .unscheduleCancel _ _ | .setAutoRenew _ _ _
  | .setSubscriptionExpiryLedger _ _ _ | .cleanupSubscription _ _ | .updateSubscriptionCap _ _ _ =>
    [.records]
  | .pauseSubscription _ _ | .resumeSubscription _ _ => [.records, .activeCounts]
  | .bulkPauseSubscriptions _ _ _ => [.nonces, .records, .activeCounts]
  | .migrateSubscriptionToPlan _ _ _ => [.records, .planLinks]
  | .updateSplitPayees _ _ _ => [.splits]
  | .configureUsageLimits _ _ => [.usage]
  | .initiateTransfer _ _ _ _ => [.records, .transfers]
  | .acceptTransfer _ _ => [.records, .transfers, .activeCounts, .subscriberIndex]
  | .vetoTransfer _ _ => [.transfers]
  | .withdrawSubscriberFunds _ _ => [.records, .tokens, .escrows]
  | .requestEmergencyWithdraw _ _ => [.withdrawIntents]
  | .finalizeEmergencyWithdraw _ _ => [.records, .tokens, .withdrawIntents]
  | .partialRefund _ _ _ _ => [.records, .tokens]
  | .claimCancellationEscrow _ _ => [.escrows, .tokens]
  | .openDispute _ _ _ _ => [.balances, .disputes]
  | .respondDispute _ _ _ => [.disputes]
  | .resolveDispute _ _ _ => [.disputes, .balances, .tokens]
  | .lodgeEscrowDispute _ _ => [.escrows, .disputes]
  | .grantDelegatedPayer _ _ _ _ | .revokeDelegatedPayer _ _ => [.grants]
  | .addToBlocklist _ _ _ => [.blocklist]
  | .removeFromBlocklist _ _ => [.blocklist, .records, .activeCounts]
  | .restoreSnapshotPage _ _ _ => [.records, .balances, .numbering]

/-- No entrypoint is running. -/
def State.Unlocked (s : State) : Prop := ∀ name, s.read (.lock name) = none

/-- The areas of the call and locks are all that changes, and no lock is left behind. -/
def WorksIn (l : List Area) (s t : State) : Prop :=
  FiniteStore.AgreeOff (areas (.locks :: l)) s t ∧ (s.Unlocked → t.Unlocked)

instance (l : List Area) : Std.Refl (WorksIn l) where
  refl s := ⟨Std.Refl.refl s, id⟩

instance (l : List Area) : IsTrans State (WorksIn l) where
  trans _ _ _ h h' := ⟨h.1.trans h'.1, h'.2 ∘ h.2⟩

namespace WorksIn

variable {α : Type} {l : List Area} {x body : Vault α}

theorem of_modifies (h : Modifies (areas l) x) (hl : l.contains .locks = false) :
    x.Keeps (WorksIn l) := by
  refine Keeps.mono h fun s t hagree => ⟨hagree.mono fun k hk => ?_, fun hfree name => ?_⟩
  · have hmem : k.area ∈ l := List.contains_iff_mem.mp hk
    exact List.contains_iff_mem.mpr (List.mem_cons_of_mem _ hmem)
  · exact (State.read_of_areas (k := .lock name) hagree hl).trans (hfree name)

theorem withLock {name : LockName} (h : Modifies (areas l) body)
    (hl : l.contains .locks = false) : (withLock name body).Keeps (WorksIn l) := by
  have hwide : Modifies (areas (.locks :: l)) (SubscriptionVault.withLock name body) := by
    refine Modifies.withLock (List.contains_iff_mem.mpr List.mem_cons_self) (h.weaken fun k hk => ?_)
    have hmem : k.area ∈ l := List.contains_iff_mem.mp hk
    exact List.contains_iff_mem.mpr (List.mem_cons_of_mem _ hmem)
  -- the lock is dropped whichever way the body ends
  have hfree (s u : State) (hbody : FiniteStore.AgreeOff (areas l) (s.write (.lock name) true) u)
      (hs : s.Unlocked) : State.Unlocked (u.remove (.lock name)) := by
    intro other
    by_cases hother : other = name
    · subst hother
      exact FiniteStore.read_remove_self u
    · have hne : Slot.lock other ≠ .lock name := fun heq => hother (Slot.lock.inj heq)
      rw [FiniteStore.read_remove_of_ne u hne, State.read_of_areas (k := .lock other) hbody hl,
        FiniteStore.read_write_of_ne s _ hne]
      exact hs other
  refine .of_runs (fun env s a t hrun => ⟨hwide.ok hrun, fun hs => ?_⟩)
    fun env s e t hrun => ⟨hwide.err hrun, fun hs => ?_⟩
  · obtain ⟨-, u, hbody, rfl⟩ := run_withLock_ok.mp hrun
    exact hfree s u (h.ok hbody) hs
  · rcases run_withLock_err hrun with ⟨-, rfl⟩ | ⟨u, hbody, rfl⟩
    · exact hs
    · exact hfree s u (h.err hbody) hs

theorem guardedCall {name : LockName} (h : Modifies (areas l) body)
    (hl : l.contains .locks = false) : (guardedCall name body).Keeps (WorksIn l) :=
  .bind Modifies.requireNotEmergencyStop fun _ => withLock h hl

theorem stoppableCall (h : Modifies (areas l) body) (hl : l.contains .locks = false) :
    (stoppableCall body).Keeps (WorksIn l) :=
  .bind Modifies.requireNotEmergencyStop fun _ => of_modifies h hl

theorem effectOf (h : x.Keeps (WorksIn l)) : (effectOf x).Keeps (WorksIn l) :=
  .of_runs (fun _ _ _ _ hrun => h.ok (run_effectOf_ok.mp hrun).choose_spec)
    fun _ _ _ _ hrun => h.err (run_effectOf_err.mp hrun)

end WorksIn

/-! ## Payments and batches -/

theorem creditMerchantBalanceForToken_areas (merchant token : Address) (amount : Int)
    (kind : BillingChargeKind) :
    Modifies (areas creditAreas) (creditMerchantBalanceForToken merchant token amount kind) :=
  (Modifies.creditMerchantBalanceForToken _ _ _ _).weaken creditSlots_subset_areas

/-- Everything written for an interval charge, a one-off charge or a buyout. -/
def billingAreas : List Area := intervalAreas ++ creditAreas

theorem paymentKeeps_areas {S : Set Slot} (hS : areas billingAreas ⊆ S) (id : Nat)
    (sub : Subscription) : PaymentKeeps (FiniteStore.AgreeOff S) id sub where
  quiet _ _ hagree := hagree.mono ((areas_mono rfl).trans hS)
  credit _ _ _ _ := ((creditMerchantBalanceForToken_areas _ _ _ _).widen rfl).weaken hS
  payees net kind := by
    have hpayees : Modifies (areas creditAreas) (creditChargePayees id sub net kind) :=
      (Modifies.creditChargePayees _ _ _ _).weaken creditSlots_subset_areas
    have hroute : Modifies (areas creditAreas) (routeToSubAccount sub net) :=
      (Modifies.routeToSubAccount _ _).weaken creditSlots_subset_areas
    exact .bind ((hpayees.widen rfl).weaken hS) fun _ => (hroute.widen rfl).weaken hS

theorem chargeOne_areas (id : Nat) (key : Option BytesN32) (cfg : Option CachedAdminConfig)
    (cache : MerchantCache) : Modifies (areas billingAreas) (chargeOne id key cfg cache) :=
  chargeOne_keeps (paymentKeeps_areas subset_rfl id) key cfg cache

theorem chargeUsageOne_areas (id : Nat) (usageAmount : Int) (reference : Bytes) :
    Modifies (areas paymentAreas) (chargeUsageOne id usageAmount reference) :=
  chargeUsageOne_keeps (fun sub => (paymentKeeps_areas (areas_mono rfl) id sub).ends.withUsage
    fun _ _ hagree => hagree.mono (areas_mono rfl)) usageAmount reference

theorem doChargeOneOff_areas (id : Nat) (merchant : Address) (amount : Int)
    (key : Option BytesN32) :
    Modifies (areas billingAreas) (doChargeOneOff id merchant amount key) :=
  doChargeOneOff_keeps (paymentKeeps_areas subset_rfl id) merchant amount key

theorem doGraceBuyout_areas (id : Nat) (subscriber : Address) (amount : Int)
    (key : Option BytesN32) :
    Modifies (areas billingAreas) (doGraceBuyout id subscriber amount key) :=
  doGraceBuyout_keeps (paymentKeeps_areas subset_rfl id) subscriber amount key

section Batches

variable {R : State → State → Prop} [Std.Refl R] [IsTrans State R]

theorem chargeItems_keeps (hcharge : ∀ id key cfg cache, (chargeOne id key cfg cache).Keeps R)
    (cfg : Option CachedAdminConfig) (items : List BatchItem) (cache : MerchantCache) :
    (chargeItems cfg items cache).Keeps R := by
  induction items generalizing cache with
  | nil => exact .pure _
  | cons item items ih =>
    exact .bind .ask fun _ => .bind (.gets _) fun _ => .bind (.attempt (hcharge _ _ _ _)) fun _ =>
      .bind (ih _) fun _ => .pure _

theorem doBatchChargeDetailed_keeps
    (hcharge : ∀ id key cfg cache, (chargeOne id key cfg cache).Keeps R)
    (hquiet : ∀ s t, FiniteStore.AgreeOff (areas [.nonces]) s t → R s t) (ids : List Nat)
    (keys : Option (List BytesN32)) (nonce : Nat) :
    (doBatchChargeDetailed ids keys nonce).Keeps R := by
  have hnonces {α : Type} {x : Vault α} (hx : Modifies (areas [.nonces]) x) : x.Keeps R :=
    hx.mono hquiet
  have hbatch (admin : Address) (items : List BatchItem) :
      (chargeBatch admin items nonce).Keeps R :=
    .bind (Modifies.validateNonce _ _ _) fun _ =>
      .bind (hnonces (Modifies.store rfl)) fun _ =>
      .bind (.bind (.gets _) fun _ => chargeItems_keeps hcharge _ _ _) fun _ =>
      .bind (.attempt (.when (hnonces (Modifies.checkAndAdvance rfl)))) fun _ =>
      .bind (hnonces (Modifies.delete rfl)) fun _ => .bind (.lift _) fun _ => .pure _
  refine .bind Modifies.requireStoredAdminAuth fun admin => .bind (.failIf _ _) fun _ =>
    .ite (.pure _) (.bind (.failIf _ _) fun _ => ?_)
  split
  · exact .pure _
  · exact hbatch _ _

end Batches

/-- A list is worked through under the caller's nonce. -/
theorem bulkItems_areas {α : Type} {l : List Area} {f : α → Vault Unit}
    (hf : ∀ a, Modifies (areas l) (f a)) (as : List α) (caller : Address) (ids : List Nat)
    (nonce : Nat) : Modifies (areas (.nonces :: l)) (do
      let proceed ← bulkPrecheck caller ids nonce
      when proceed (forEach as fun a => do
        let _ ← attempt (f a)
        pure ()) : Vault Unit) := by
  have hitem (a : α) : Modifies (areas (.nonces :: l)) (f a) := (hf a).weaken fun k hk => by
    have hmem : k.area ∈ l := List.contains_iff_mem.mp hk
    exact List.contains_iff_mem.mpr (List.mem_cons_of_mem _ hmem)
  have hcheck : Modifies (areas (.nonces :: l)) (bulkPrecheck caller ids nonce) :=
    (bulkPrecheck_areas _ _ _).weaken fun k hk => by
      have hmem : k.area = .nonces := List.mem_singleton.mp (List.contains_iff_mem.mp hk)
      exact List.contains_iff_mem.mpr (hmem ▸ List.mem_cons_self)
  exact .bind hcheck fun _ => .when <|
    .forEach (fun a => .bind (.attempt (hitem a)) fun _ => .pure ()) _

/-! ## All calls -/

theorem doBatchChargeDetailed_areas (ids : List Nat) (keys : Option (List BytesN32))
    (nonce : Nat) : Modifies (areas (.nonces :: billingAreas))
      (doBatchChargeDetailed ids keys nonce) :=
  doBatchChargeDetailed_keeps (fun _ _ _ _ => (chargeOne_areas _ _ _ _).widen rfl)
    (fun _ _ hagree => hagree.mono (areas_mono rfl)) ids keys nonce

theorem VaultCall.worksIn (call : VaultCall) : call.exec.Keeps (WorksIn call.areas) := by
  cases call with
  | init => exact WorksIn.of_modifies (doInit_areas _ _ _ _ _) rfl
  | migrate => exact WorksIn.of_modifies (doMigrate_areas _ _) rfl
  | migrateConfigToPersistent => exact WorksIn.of_modifies (migrateConfigToPersistent_areas _) rfl
  | createSubscription =>
    exact WorksIn.effectOf (WorksIn.stoppableCall ((doCreateSubscription_areas _).widen rfl) rfl)
  | createSubscriptionWithToken =>
    exact WorksIn.effectOf
      (WorksIn.stoppableCall ((doCreateSubscriptionWithToken_areas _).widen rfl) rfl)
  | createSubscriptionWithSplit =>
    exact WorksIn.effectOf
      (WorksIn.stoppableCall ((createSubscriptionWithSplit_areas _ _).widen rfl) rfl)
  | createSubscriptionFromPlan =>
    exact WorksIn.effectOf
      (WorksIn.stoppableCall ((doCreateSubscriptionFromPlan_areas _ _ _).widen rfl) rfl)
  | depositFunds => exact WorksIn.guardedCall (doDepositFunds_areas _ _ _) rfl
  | depositFundsOnBehalf =>
    exact WorksIn.guardedCall ((doDepositFundsOnBehalf_areas _ _ _ _).widen rfl) rfl
  | bulkDepositFunds =>
    exact WorksIn.guardedCall ((bulkItems_areas (fun entry => bulkDepositOne_areas _ _ _) _ _ _ _).widen
      rfl) rfl
  | chargeSubscription =>
    exact WorksIn.effectOf (WorksIn.guardedCall ((chargeOne_areas _ _ _ _).widen rfl) rfl)
  | operatorChargeSubscription =>
    exact WorksIn.effectOf (WorksIn.guardedCall (.bind (keeps_requireOperatorAuth _) fun _ =>
      (chargeOne_areas _ _ _ _).widen rfl) rfl)
  | batchCharge =>
    exact WorksIn.effectOf (WorksIn.withLock (.bind Modifies.requireNotEmergencyStop fun _ =>
      .bind ((doBatchChargeDetailed_areas _ _ _).widen rfl) fun _ => .bind (.failIf _ _) fun _ =>
      .pure _) rfl)
  | batchChargeDetailed =>
    exact WorksIn.effectOf (WorksIn.withLock (.bind Modifies.requireNotEmergencyStop fun _ =>
      (doBatchChargeDetailed_areas _ _ _).widen rfl) rfl)
  | operatorBatchCharge =>
    exact WorksIn.effectOf (WorksIn.stoppableCall (.pure _) rfl)
  | chargeUsage => exact WorksIn.effectOf (WorksIn.guardedCall (chargeUsageOne_areas _ _ _) rfl)
  | chargeUsageWithReference =>
    exact WorksIn.effectOf (WorksIn.guardedCall (chargeUsageOne_areas _ _ _) rfl)
  | operatorChargeUsage =>
    exact WorksIn.effectOf (WorksIn.guardedCall (.bind (keeps_requireOperatorAuth _) fun _ =>
      chargeUsageOne_areas _ _ _) rfl)
  | operatorChargeUsageWithRef =>
    exact WorksIn.effectOf (WorksIn.guardedCall (.bind (keeps_requireOperatorAuth _) fun _ =>
      chargeUsageOne_areas _ _ _) rfl)
  | chargeOneOff =>
    exact WorksIn.guardedCall ((doChargeOneOff_areas _ _ _ _).widen rfl) rfl
  | graceBuyout =>
    exact WorksIn.effectOf (WorksIn.guardedCall ((doGraceBuyout_areas _ _ _ _).widen rfl) rfl)
  | withdrawMerchantFunds => exact WorksIn.guardedCall (withdrawMerchantFundsReported_areas _ _) rfl
  | withdrawMerchantTokenFunds =>
    exact WorksIn.guardedCall (withdrawMerchantFundsForToken_areas _ _ _) rfl
  | merchantRefund => exact WorksIn.withLock (merchantRefund_areas _ _ _ _) rfl
  | flushPayouts => exact WorksIn.guardedCall (doFlushPayouts_areas _) rfl
  | registerSubAccount => exact WorksIn.of_modifies (registerSubAccount_areas _ _) rfl
  | withdrawSubAccountFunds => exact WorksIn.withLock (withdrawSubAccountFunds_areas _ _ _ _) rfl
  | rotateMerchantAddress => exact WorksIn.of_modifies (doRotateMerchantAddress_areas _ _ _ _) rfl
  | cancelSubscription =>
    exact WorksIn.of_modifies (.bind (doCancelSubscription_areas _ _) fun _ =>
      .bind (Modifies.getSubscription _) fun _ => .pure _) rfl
  | bulkCancelSubscriptions =>
    exact WorksIn.withLock (bulkItems_areas (fun _ => bulkCancelOne_areas _) _ _ _ _) rfl
  | scheduleCancel => exact WorksIn.withLock (doScheduleCancel_areas _ _ _) rfl
  | unscheduleCancel => exact WorksIn.withLock (doUnscheduleCancel_areas _ _) rfl
  | setAutoRenew => exact WorksIn.of_modifies (doSetAutoRenew_areas _ _ _) rfl
  | setSubscriptionExpiryLedger =>
    exact WorksIn.of_modifies (doSetSubscriptionExpirationLedger_areas _ _ _) rfl
  | pauseSubscription =>
    exact WorksIn.of_modifies (.bind (Modifies.getSubscription _) fun _ =>
      doPauseSubscription_areas _ _) rfl
  | bulkPauseSubscriptions =>
    exact WorksIn.of_modifies (bulkItems_areas (fun _ => bulkPauseOne_areas _) _ _ _ _) rfl
  | resumeSubscription =>
    exact WorksIn.of_modifies (.bind (Modifies.getSubscription _) fun _ =>
      .bind (doResumeSubscription_areas _ _) fun _ =>
      .bind (Modifies.getSubscription _) fun _ => .pure _) rfl
  | cleanupSubscription => exact WorksIn.of_modifies (doCleanupSubscription_areas _ _) rfl
  | migrateSubscriptionToPlan => exact WorksIn.of_modifies (doMigrateSubscriptionToPlan_areas _ _ _) rfl
  | updateSubscriptionCap => exact WorksIn.of_modifies (doUpdateSubscriptionCap_areas _ _ _) rfl
  | updateSplitPayees => exact WorksIn.of_modifies (updateSplitPayees_areas _ _ _) rfl
  | configureUsageLimits => exact WorksIn.of_modifies (doConfigureUsageLimits_areas _ _) rfl
  | initiateTransfer => exact WorksIn.withLock (doInitiateTransfer_areas _ _ _ _) rfl
  | acceptTransfer => exact WorksIn.withLock (doAcceptTransfer_areas _ _) rfl
  | vetoTransfer => exact WorksIn.withLock (doVetoTransfer_areas _ _) rfl
  | withdrawSubscriberFunds => exact WorksIn.withLock (doWithdrawSubscriberFunds_areas _ _) rfl
  | requestEmergencyWithdraw => exact WorksIn.of_modifies (doRequestEmergencyWithdraw_areas _ _) rfl
  | finalizeEmergencyWithdraw => exact WorksIn.withLock (doFinalizeEmergencyWithdraw_areas _ _) rfl
  | partialRefund => exact WorksIn.guardedCall (doPartialRefund_areas _ _ _ _) rfl
  | claimCancellationEscrow => exact WorksIn.withLock (doClaimCancellationEscrow_areas _ _) rfl
  | openDispute => exact WorksIn.withLock (doOpenDispute_areas _ _ _ _) rfl
  | respondDispute => exact WorksIn.withLock (doRespondDispute_areas _ _ _) rfl
  | resolveDispute => exact WorksIn.withLock (doResolveDispute_areas _ _ _) rfl
  | lodgeEscrowDispute => exact WorksIn.of_modifies (doLodgeEscrowDispute_areas _ _) rfl
  | grantDelegatedPayer => exact WorksIn.of_modifies (doGrantDelegatedPayer_areas _ _ _ _) rfl
  | revokeDelegatedPayer => exact WorksIn.of_modifies (doRevokeDelegatedPayer_areas _ _) rfl
  | addToBlocklist => exact WorksIn.of_modifies (doAddToBlocklist_areas _ _ _) rfl
  | removeFromBlocklist => exact WorksIn.of_modifies (doRemoveFromBlocklist_areas _ _) rfl
  | restoreSnapshotPage => exact WorksIn.of_modifies (restoreSnapshotPage_areas _ _ _) rfl

/-- Of the merchants' entries a call only touches those that move with a merchant. -/
theorem VaultCall.read_merchants {call : VaultCall} {env : Env} {s t : State} {k : Slot}
    {α : Type} [Holds Slot.Val k α] (hrun : call.exec.run env s = .ok () t)
    (hk : k.area = .merchants) (hstays : k.movesWithMerchant = false) : t.read k = s.read k := by
  have hout : k ∉ rotationSlots := fun hmem => by
    have hmoves := hmem hk
    rw [hstays] at hmoves
    cases hmoves
  by_cases hquiet : (.locks :: call.areas).contains .merchants = false
  · exact State.read_of_areas ((VaultCall.worksIn call).ok hrun).1 (hk ▸ hquiet)
  · cases call
    case rotateMerchantAddress =>
      exact ((doRotateMerchantAddress_slots _ _ _ _).ok hrun).read hout
    all_goals exact absurd rfl hquiet

/-! ## Runs of transactions -/

/-- Where the entrypoints that are not listed may write. -/
def foreignAreas : List Area :=
  [.tokens, .statements, .coupons, .plans, .nonces, .schedules, .merchants, .settings]

inductive Transaction where
  | call (env : Env) (call : VaultCall)
  /-- An entrypoint that is not listed, a transfer of tokens outside the vault, or nothing. -/
  | other (env : Env)

def Transaction.env : Transaction → Env
  | .call env _ | .other env => env

def Transaction.areas : Transaction → List Area
  | .call _ c => c.areas
  | .other _ => foreignAreas

inductive Transacts : Transaction → State → State → Prop
  | call {env : Env} {call : VaultCall} {s t : State} :
      call.exec.run env s = .ok () t → Transacts (.call env call) s t
  | other {env : Env} {s t : State} :
      FiniteStore.AgreeOff (areas foreignAreas) s t → Transacts (.other env) s t

section Runs

variable {s t start : State} {l : Transaction} {hist : History Transaction State}

theorem Transacts.worksIn (h : Transacts l s t) : WorksIn l.areas s t := by
  cases h with
  | call hrun => exact (VaultCall.worksIn _).ok hrun
  | other hagree =>
    have hwide : SubscriptionVault.areas foreignAreas ⊆
        SubscriptionVault.areas (.locks :: foreignAreas) := areas_mono rfl
    refine ⟨hagree.mono hwide, fun hfree name => ?_⟩
    exact (State.read_of_areas (k := .lock name) hagree rfl).trans (hfree name)

/-- What lies in no area of the transaction is still there. -/
theorem Transacts.read {k : Slot} {α : Type} [Holds Slot.Val k α] (h : Transacts l s t)
    (hk : (.locks :: l.areas).contains k.area = false) : t.read k = s.read k :=
  State.read_of_areas h.worksIn.1 hk

theorem unlocked_of_run (hstart : start.Unlocked) (hrun : Run Transacts start hist s) :
    s.Unlocked :=
  hrun.invariant_state hstart fun _ _ _ hfree hstep => hstep.worksIn.2 hfree

theorem Deployed.areas (h : Deployed s) :
    FiniteStore.AgreeOff (areas [.numbering, .settings]) FiniteStore.empty s := by
  obtain ⟨env, token, tokenDecimals, admin, minTopup, gracePeriod, hrun⟩ := h
  exact (doInit_areas token tokenDecimals admin minTopup gracePeriod).ok hrun

theorem Deployed.unlocked (h : Deployed s) : s.Unlocked := fun name =>
  State.read_of_areas (k := .lock name) h.areas rfl

/-- A transaction makes a run of the vault's steps. -/
theorem Transacts.steps (h : Transacts l s t) : ∃ steps, Run VaultStep s steps t := by
  cases h with
  | @call env call _ _ hrun =>
    by_cases hbulk : call.isBulk = true
    · obtain ⟨steps, hsteps, -⟩ := VaultCall.worked hbulk hrun
      exact ⟨steps, hsteps⟩
    · exact ⟨_, .next .start (.call (Bool.eq_false_iff.mpr hbulk) hrun)⟩
  | @other env _ _ hagree =>
    have hstep : VaultStep (.other env) s t := .other (hagree.mono (areas_subset_unbooked rfl))
    exact ⟨_, .next .start hstep⟩

end Runs

/-! ## Escrows -/

/-- No refund is put into escrow. -/
def NoNewEscrow (s t : State) : Prop :=
  ∀ id, s.cancellationEscrow id = none → t.cancellationEscrow id = none

instance : Std.Refl NoNewEscrow where
  refl _ _ := id

instance : IsTrans State NoNewEscrow where
  trans _ _ _ h h' id := h' id ∘ h id

namespace NoNewEscrow

variable {α : Type} {s t : State} {l : List Area} {x body : Vault α}

theorem of_areas (hagree : FiniteStore.AgreeOff (areas l) s t)
    (hl : l.contains .escrows = false) : NoNewEscrow s t := fun id hnone =>
  (State.read_of_areas (k := .persistent (.cancellationEscrow id)) hagree hl).trans hnone

theorem of_modifies (h : Modifies (areas l) x) (hl : l.contains .escrows = false) :
    x.Keeps NoNewEscrow :=
  h.mono fun _ _ hagree => of_areas hagree hl

theorem delete (id : Nat) :
    (delete (.persistent (.cancellationEscrow id))).Keeps NoNewEscrow := by
  refine .update fun s other hnone => ?_
  by_cases hother : other = id
  · subst hother
    exact FiniteStore.read_remove_self s
  · have hne : Slot.persistent (.cancellationEscrow other) ≠ .persistent (.cancellationEscrow id) :=
      fun heq => hother (DataKey.cancellationEscrow.inj (Slot.persistent.inj heq))
    exact (FiniteStore.read_remove_of_ne s hne).trans hnone

theorem withLock {name : LockName} (h : body.Keeps NoNewEscrow) :
    (withLock name body).Keeps NoNewEscrow :=
  .bind Modifies.load fun _ => .bind (.failIf _ _) fun _ =>
    .bind (of_modifies (l := [.locks]) (Modifies.store rfl) rfl) fun _ => .bind (.attempt h) fun _ =>
    .bind (of_modifies (l := [.locks]) (Modifies.delete rfl) rfl) fun _ => .lift _

theorem payEscrow (id : Nat) (escrow : CancellationEscrow) :
    (payEscrow id escrow).Keeps NoNewEscrow :=
  .bind .ask fun _ => .bind (delete _) fun _ =>
    .bind (of_modifies (l := [.tokens]) (Modifies.transfer rfl rfl) rfl) fun _ => .pure ()

end NoNewEscrow

theorem doClaimCancellationEscrow_escrows (subscriber : Address) (id : Nat) :
    (doClaimCancellationEscrow subscriber id).Keeps NoNewEscrow :=
  .bind (Modifies.requireAuth _) fun _ => .bind (.gets _) fun _ => .bind (.okOr _ _) fun _ =>
    .bind (.failIf _ _) fun _ => .bind (Modifies.requireReleasedEscrow _ _) fun _ =>
    NoNewEscrow.payEscrow _ _

theorem doWithdrawSubscriberFunds_escrows (id : Nat) (subscriber : Address) :
    (doWithdrawSubscriberFunds id subscriber).Keeps NoNewEscrow :=
  .bind .ask fun _ => .bind (Modifies.requireAuth _) fun _ =>
    .bind (Modifies.getSubscription _) fun _ => .bind (.failIf _ _) fun _ =>
    .bind (.failIf _ _) fun _ => .ite (NoNewEscrow.of_modifies (refundPrepaid_areas _ _) rfl) <|
    .bind (.gets _) fun _ => .bind (.okOr _ _) fun _ => .bind (.failIf _ _) fun _ =>
    .bind (Modifies.requireReleasedEscrow _ _) fun _ => .bind (.failIf _ _) fun _ =>
    NoNewEscrow.payEscrow _ _

theorem doLodgeEscrowDispute_escrows (merchant : Address) (id : Nat) :
    (doLodgeEscrowDispute merchant id).Keeps NoNewEscrow :=
  .bind .ask fun _ => .bind (Modifies.requireAuth _) fun _ => .bind (.gets _) fun _ =>
    .bind (.okOr _ _) fun _ => .bind (.failIf _ _) fun _ => .bind (.failIf _ _) fun _ =>
    .bind Modifies.load fun _ => .bind (.failIf _ _) fun _ => .bind (NoNewEscrow.delete _) fun _ =>
    NoNewEscrow.of_modifies (recordDispute_areas _ _ _ _ _) rfl

theorem VaultCall.escrows (call : VaultCall) : call.exec.Keeps NoNewEscrow := by
  by_cases hquiet : (.locks :: call.areas).contains .escrows = false
  · exact Keeps.mono call.worksIn fun _ _ h => NoNewEscrow.of_areas h.1 hquiet
  · cases call
    case claimCancellationEscrow =>
      exact NoNewEscrow.withLock (doClaimCancellationEscrow_escrows _ _)
    case withdrawSubscriberFunds =>
      exact NoNewEscrow.withLock (doWithdrawSubscriberFunds_escrows _ _)
    case lodgeEscrowDispute => exact doLodgeEscrowDispute_escrows _ _
    all_goals exact absurd rfl hquiet

section Runs

variable {s t start : State} {l : Transaction} {hist : History Transaction State}

theorem Transacts.noNewEscrow {l : Transaction} (h : Transacts l s t) : NoNewEscrow s t := by
  cases h with
  | call hrun => exact (VaultCall.escrows _).ok hrun
  | other hagree => exact NoNewEscrow.of_areas hagree rfl

theorem Deployed.cancellationEscrow (h : Deployed s) (id : Nat) :
    s.cancellationEscrow id = none :=
  State.read_of_areas (k := .persistent (.cancellationEscrow id)) h.areas rfl

theorem cancellationEscrow_of_run (hdeployed : Deployed start)
    (hrun : Run Transacts start hist s) (id : Nat) : s.cancellationEscrow id = none :=
  hrun.invariant_state (I := fun s => s.cancellationEscrow id = none)
    (hdeployed.cancellationEscrow id) fun _ _ _ hnone hstep => hstep.noNewEscrow id hnone

end Runs

/-! ## Concrete runs -/

/-- The state after the calls, latest first. -/
def stateAfter (s : State) : List (Env × VaultCall) → State
  | [] => s
  | (env, call) :: earlier => call.exec.after env (stateAfter s earlier)

def transactionHistory (s : State) : List (Env × VaultCall) → History Transaction State
  | [] => []
  | (env, call) :: earlier => (.call env call, stateAfter s earlier) :: transactionHistory s earlier

def allSucceed (s : State) : List (Env × VaultCall) → Bool
  | [] => true
  | (env, call) :: earlier => allSucceed s earlier && call.exec.succeeds env (stateAfter s earlier)

theorem run_transactions {start s : State} {hist : History Transaction State}
    (hrun : Run Transacts start hist s) {calls : List (Env × VaultCall)}
    (h : allSucceed s calls = true) :
    Run Transacts start (transactionHistory s calls ++ hist) (stateAfter s calls) := by
  induction calls with
  | nil => exact hrun
  | cons entry earlier ih =>
    simp only [allSucceed, Bool.and_eq_true] at h
    exact (ih h.1).next (.call (run_eq_after h.2))

/-- The calls alone make a run. -/
theorem run_alone {s : State} {calls : List (Env × VaultCall)} (h : allSucceed s calls = true) :
    Run Transacts s (transactionHistory s calls) (stateAfter s calls) := by
  have hrun := run_transactions .start h
  rw [List.append_nil] at hrun
  exact hrun

theorem sample_transacted (gracePeriod : Nat) : Run Transacts (sampleStart gracePeriod)
    [(.other (sampleEnv 0 []), sampleStart gracePeriod)] (afterCalls (sampleVault gracePeriod)) :=
  Run.start.next (.other ((sample_areas gracePeriod).mono (areas_mono rfl)))

end SubscriptionVault
