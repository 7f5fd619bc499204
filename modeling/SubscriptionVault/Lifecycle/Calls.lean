import SubscriptionVault.Framework.Transition
import SubscriptionVault.Lifecycle.Upkeep

/-!
# Calls and runs

A call works on the book through one operation, or through one for each of its entries. A run
takes such operations one after the other; whatever else the contract does between them leaves
the book alone. Calls with entries are taken apart, so that the state in front of each entry is
part of the run.
-/

namespace SubscriptionVault

open Exec

/-! ## Operations -/

/-- What an action does to the book. -/
inductive Operation where
  | create
  | deposit (id : Nat)
  | charge (id : Nat)
  | chargeUsage (id : Nat) (usageAmount : Int)
  | buyOut (id : Nat)
  | cancel (id : Nat)
  | pause (id : Nat)
  | resume (id : Nat)
  | edit (id : Nat)
  | archive (id : Nat)
  | replan (id planId : Nat)
  | transfer (id : Nat) («to» : Address)
  | unblock
  | rotate (oldMerchant newMerchant : Address)
  | restore (summaries : List SubscriptionSummary)
  | renumber
  | other

/-- The changes an operation may make, besides none. -/
def Operation.Changes (env : Env) (s : State) (b' : Book) : Operation → Prop
  | .create => CreatesRecord env s.book b'
  | .deposit id => EditsRecord s.book id b' ∨ RevivesRecord s.book id b'
  | .charge id => IntervalChanges env s id b'
  | .chargeUsage id usageAmount => UsageChanges env s id usageAmount b'
  | .buyOut id => BuysOut env s.book id b'
  | .cancel id => CancelsRecord s.book id b'
  | .pause id => PausesRecord s.book id b'
  | .resume id => ResumesRecord s.book id b' ∨ RevivesRecord s.book id b'
  | .edit id => EditsRecord s.book id b'
  | .archive id => ArchivesRecord env s.book id b'
  | .replan id planId => ∃ plan, s.planTemplate planId = some plan ∧
      ReplansRecord s.book id b' plan
  | .transfer id «to» => TransfersRecord s.book id b' «to»
  | .unblock => ResumesRecords s.book b'
  | .rotate oldMerchant newMerchant => b' = s.book.rotated oldMerchant newMerchant
  | .restore summaries => b' = { s.book.restored summaries with nextId := b'.nextId } ∧
      (3 ≤ s.book.schemaVersion → b'.nextId = s.book.nextId)
  | .renumber => RenumbersBook s.book b'
  | .other => False

/-- One entry of a call that works through a list. -/
inductive BulkItem where
  | charge (id : Nat) (key : Option BytesN32)
  | deposit (caller : Address) (id : Nat) (amount : Int)
  | cancel (id : Nat)
  | pause (id : Nat)

def BulkItem.exec : BulkItem → Vault Unit
  | .charge id key => effectOf (chargeOne id key none ∅)
  | .deposit caller id amount => bulkDepositOne caller id amount
  | .cancel id => bulkCancelOne id
  | .pause id => bulkPauseOne id

def BulkItem.operation : BulkItem → Operation
  | .charge id _ => .charge id
  | .deposit _ id _ => .deposit id
  | .cancel id => .cancel id
  | .pause id => .pause id

/-- The entries of a call, in the order it works through them. -/
def VaultCall.items : VaultCall → List BulkItem
  | .batchCharge ids keys _ | .batchChargeDetailed ids keys _ =>
    (batchItems ids keys).map fun item => .charge item.1 item.2
  | .bulkDepositFunds caller entries _ =>
    entries.map fun entry => .deposit caller entry.1 entry.2
  | .bulkCancelSubscriptions _ ids _ => ids.map .cancel
  | .bulkPauseSubscriptions _ ids _ => ids.map .pause
  | _ => []

def VaultCall.isBulk : VaultCall → Bool
  | .batchCharge _ _ _ | .batchChargeDetailed _ _ _ | .bulkDepositFunds _ _ _
  | .bulkCancelSubscriptions _ _ _ | .bulkPauseSubscriptions _ _ _ => true
  | _ => false

/-- The operation of a call that does not work through a list. -/
def VaultCall.operation : VaultCall → Operation
  | .init _ _ _ _ _ | .migrate _ _ | .migrateConfigToPersistent _ => .renumber
  | .createSubscription _ | .createSubscriptionWithToken _ | .createSubscriptionWithSplit _ _
  | .createSubscriptionFromPlan _ _ _ => .create
  | .depositFunds id _ _ | .depositFundsOnBehalf id _ _ _ => .deposit id
  | .chargeSubscription id _ | .operatorChargeSubscription _ id => .charge id
  | .chargeUsage id usageAmount | .chargeUsageWithReference id usageAmount _
  | .operatorChargeUsage _ id usageAmount | .operatorChargeUsageWithRef _ id usageAmount _ =>
    .chargeUsage id usageAmount
  | .graceBuyout id _ _ _ => .buyOut id
  | .rotateMerchantAddress _ oldMerchant newMerchant _ => .rotate oldMerchant newMerchant
  | .cancelSubscription id _ => .cancel id
  | .scheduleCancel id _ _ | .unscheduleCancel id _ | .setAutoRenew id _ _
  | .setSubscriptionExpiryLedger id _ _ | .updateSubscriptionCap _ id _
  | .withdrawSubscriberFunds id _ | .finalizeEmergencyWithdraw id _
  | .partialRefund _ id _ _ => .edit id
  | .pauseSubscription id _ => .pause id
  | .resumeSubscription id _ => .resume id
  | .cleanupSubscription id _ => .archive id
  | .migrateSubscriptionToPlan _ id newPlanId => .replan id newPlanId
  | .acceptTransfer id «to» => .transfer id «to»
  | .removeFromBlocklist _ _ => .unblock
  | .restoreSnapshotPage _ summaries _ => .restore summaries
  | _ => .other

/-! ## Wrapped code -/

section Wrapped

variable {α : Type} {env : Env} {s t : State} {a : α} {name : LockName} {body : Vault α}

theorem State.book_lock (s : State) (name : LockName) (held : Bool) :
    State.book (s.write (.lock name) held) = s.book :=
  State.book_of_unbooked (s.agreeOff_write held rfl)

/-- Under a lock the book changes as it does without. -/
theorem run_locked_ok (hrun : (withLock name body).run env s = .ok a t) :
    ∃ u, body.run env (s.write (.lock name) true) = .ok a u ∧ t.book = u.book := by
  obtain ⟨-, u, hbody, rfl⟩ := run_withLock_ok.mp hrun
  exact ⟨u, hbody, book_of_delete rfl⟩

theorem run_locked_book (P : Book → Book → Prop)
    (hbody : ∀ s t, body.run env s = .ok a t → P s.book t.book)
    (hrun : (withLock name body).run env s = .ok a t) : P s.book t.book := by
  obtain ⟨u, hlocked, hbook⟩ := run_locked_ok hrun
  rw [hbook, ← s.book_lock name true]
  exact hbody _ u hlocked

theorem State.gracePeriod_lock (s : State) (name : LockName) (held : Bool) :
    State.gracePeriod (s.write (.lock name) held) = s.gracePeriod := by
  unfold State.gracePeriod
  rw [State.config_write_of_ne _ _ (by simp [configSlots])]

theorem State.effectiveSubscription_lock (s : State) (name : LockName) (held : Bool)
    (id now : Nat) : State.effectiveSubscription (s.write (.lock name) held) id now =
      s.effectiveSubscription id now := by
  have hsub : State.subscription (s.write (.lock name) held) id = s.subscription id := by
    simp [State.subscription]
  unfold State.effectiveSubscription
  rw [hsub, s.gracePeriod_lock name held]

theorem State.merchantStatus_lock (s : State) (name : LockName) (held : Bool)
    (merchant : Address) (now : Nat) :
    State.merchantStatus (s.write (.lock name) held) merchant now =
      s.merchantStatus merchant now := by
  have hversion : State.schemaVersion (s.write (.lock name) held) = s.schemaVersion := by
    simp [State.schemaVersion]
  simp [State.merchantStatus, State.merchantPaused, State.merchantConfig, hversion,
    State.isMerchantInVacation, State.merchantVacation]

theorem State.isBlocklisted_lock (s : State) (name : LockName) (held : Bool) (a : Address) :
    State.isBlocklisted (s.write (.lock name) held) a = s.isBlocklisted a := by
  simp [State.isBlocklisted]

theorem State.creditLimitForDelta_lock (s : State) (name : LockName) (held : Bool) :
    State.creditLimitForDelta (s.write (.lock name) held) = s.creditLimitForDelta :=
  State.creditLimitForDelta_of_areas (l := [.locks]) (s.agreeOff_write held rfl)
    (areas_subset_unbooked rfl) rfl

theorem Deposits.of_lock {id : Nat} {sub : Subscription} {amount : Int}
    (h : Deposits (s.write (.lock name) true) id sub amount) : Deposits s id sub amount where
  reads := s.book_lock name true ▸ h.reads
  nonneg := h.nonneg
  affordable := s.creditLimitForDelta_lock name true ▸ h.affordable

theorem Affords.of_lock {id : Nat} {sub : Subscription} {amount : Int}
    (h : Affords (s.write (.lock name) true) id sub amount) : Affords s id sub amount :=
  { h with reads := s.book_lock name true ▸ h.reads }

theorem Admitted.of_lock {id : Nat} {sub : Subscription}
    (h : Admitted env (s.write (.lock name) true) id sub) : Admitted env s id sub where
  running := s.emergencyStop_lock name true ▸ h.running
  found := s.effectiveSubscription_lock name true id env.now ▸ h.found
  merchantOpen := s.merchantStatus_lock name true sub.merchant env.now ▸ h.merchantOpen
  subscriberUnlisted := s.isBlocklisted_lock name true sub.subscriber ▸ h.subscriberUnlisted
  merchantUnlisted := s.isBlocklisted_lock name true sub.merchant ▸ h.merchantUnlisted
  payeesOpen split hsplit entry hmem := by
    have hopen := h.payeesOpen split (by simpa [State.splitPayees] using hsplit) entry hmem
    exact ⟨s.isBlocklisted_lock name true entry.1 ▸ hopen.1,
      s.merchantStatus_lock name true entry.1 env.now ▸ hopen.2⟩

theorem Cleared.of_lock {id : Nat} {sub : Subscription}
    (h : Cleared env (s.write (.lock name) true) id sub) : Cleared env s id sub :=
  { h.admitted.of_lock with unexpired := h.unexpired }

theorem State.intervalAmount_lock (s : State) (name : LockName) (held : Bool) (id now : Nat)
    (sub : Subscription) : State.intervalAmount (s.write (.lock name) held) id now sub =
      s.intervalAmount id now sub := by
  simp [State.intervalAmount, State.payableAfterCoupon, State.couponForCharge]

theorem IntervalDue.of_lock {id : Nat} {sub : Subscription} {amount : Int}
    (h : IntervalDue env (s.write (.lock name) true) id sub amount) :
    IntervalDue env s id sub amount :=
  { h with
    toCleared := h.toCleared.of_lock
    priced := (s.intervalAmount_lock name true id env.now sub).symm.trans h.priced
    freshSalt := by simpa using h.freshSalt
    freshPeriod := by simpa using h.freshPeriod }

theorem CapBlocks.of_lock {id : Nat} {sub : Subscription}
    (h : CapBlocks env (s.write (.lock name) true) id sub) : CapBlocks env s id sub := by
  rcases h with hreached | ⟨amount, remaining, hdue, hremaining, hexceeds⟩
  · exact .inl hreached
  · exact .inr ⟨amount, remaining, hdue.of_lock, hremaining, hexceeds⟩

theorem IntervalChanges.of_lock {id : Nat} {b' : Book}
    (h : IntervalChanges env (s.write (.lock name) true) id b') : IntervalChanges env s id b' := by
  have hbook := s.book_lock name true
  have hthreshold : State.autoPauseThreshold (s.write (.lock name) true) =
      s.autoPauseThreshold := by
    simp [State.autoPauseThreshold]
  have hfailures : State.failuresNow (s.write (.lock name) true) id = s.failuresNow id := by
    simp [State.failuresNow]
  cases h with
  | unchanged => exact hbook ▸ .unchanged
  | expired hadmitted hexpired hstatus =>
    rw [hbook]
    exact .expired hadmitted.of_lock hexpired hstatus
  | capped hclear hstatus hcancel hblocks =>
    rw [hbook]
    exact .capped hclear.of_lock hstatus hcancel hblocks.of_lock
  | cancelled hclear hstatus hcancel hat =>
    rw [hbook]
    exact .cancelled hclear.of_lock hstatus hcancel hat
  | short hdue hbalance hstatus hnew =>
    rw [s.gracePeriod_lock name true, hthreshold, hfailures] at hstatus
    rw [hbook]
    exact .short hdue.of_lock hbalance hstatus hnew
  | booked hbooks =>
    obtain ⟨sub, new, amount, hdue, hfunded, hsettled, hends⟩ := hbooks
    rw [hbook] at hends
    exact .booked ⟨sub, new, amount, hdue.of_lock, hfunded, hsettled, hends⟩

theorem UsageDue.of_lock {id : Nat} {sub : Subscription} {usageAmount : Int}
    {reference : Bytes} (h : UsageDue env (s.write (.lock name) true) id sub usageAmount reference) :
    UsageDue env s id sub usageAmount reference :=
  { h with
    toCleared := h.toCleared.of_lock
    within := by simpa using h.within
    fresh := by simpa using h.fresh
    admitted := by simpa [State.usageRejection, State.usageState] using h.admitted }

theorem UsageChanges.of_lock {id : Nat} {usageAmount : Int} {b' : Book}
    (h : UsageChanges env (s.write (.lock name) true) id usageAmount b') :
    UsageChanges env s id usageAmount b' := by
  have hbook := s.book_lock name true
  cases h with
  | unchanged => exact hbook ▸ .unchanged
  | capped hdue hcap =>
    rw [hbook]
    exact .capped hdue.of_lock hcap
  | booked hdue hcap hnew =>
    rw [hbook]
    exact .booked hdue.of_lock hcap hnew
  | unfit hdue =>
    rw [hbook]
    exact .unfit hdue.of_lock

end Wrapped

/-! ## Calls -/

section Calls

variable {env : Env} {s t : State}

theorem chargeOne_book {id : Nat} {key : Option BytesN32} {result : ChargeExecutionResult}
    (hrun : (chargeOne id key none ∅).run env s = .ok result t) :
    IntervalChanges env s id t.book := by
  have hchanges := chargeOne_changes env s id key
  rw [hrun] at hchanges
  exact hchanges

theorem keeps_requireOperatorAuth {R : State → State → Prop} [Std.Refl R] [IsTrans State R]
    (op : Address) : (requireOperatorAuth op).Keeps R :=
  .bind (Modifies.requireAuth _) fun _ => .bind (.gets _) fun _ => .bind (.okOr _ _) fun _ =>
    .failIf _ _

theorem doOperatorChargeSubscription_book {op : Address} {id : Nat}
    {result : ChargeExecutionResult}
    (hrun : (doOperatorChargeSubscription op id).run env s = .ok result t) :
    IntervalChanges env s id t.book := by
  obtain ⟨_, -, hrun⟩ := run_check_ok (keeps_requireOperatorAuth op) hrun
  exact chargeOne_book hrun

theorem doOperatorChargeUsage_book {op : Address} {id : Nat} {usageAmount : Int}
    {reference : Bytes} {result : UsageChargeResult}
    (hrun : (doOperatorChargeUsage op id usageAmount reference).run env s = .ok result t) :
    UsageChanges env s id usageAmount t.book := by
  obtain ⟨_, -, hrun⟩ := run_check_ok (keeps_requireOperatorAuth op) hrun
  exact chargeUsageOne_book hrun

/-- Every call that does not work through a list changes the book by its operation. -/
theorem VaultCall.changes {call : VaultCall} (hsingle : call.isBulk = false)
    (hrun : call.exec.run env s = .ok () t) :
    t.book = s.book ∨ call.operation.Changes env s t.book := by
  have hquiet {name : LockName} {body : Vault Unit} (hbody : Modifies unbooked body)
      (hrun : (withLock name body).run env s = .ok () t) : t.book = s.book :=
    run_locked_book (fun b b' => b' = b) (fun _ _ => hbody.book) hrun
  cases call with
  | init => exact .inr (doInit_book hrun)
  | migrate => exact .inr (doMigrate_book hrun)
  | migrateConfigToPersistent => exact .inr (migrateConfigToPersistent_book hrun)
  | createSubscription =>
    obtain ⟨_, hrun⟩ := run_effectOf_ok.mp hrun
    exact .inr (doCreateSubscription_book (run_stoppableCall_ok.mp hrun).2).1
  | createSubscriptionWithToken =>
    obtain ⟨_, hrun⟩ := run_effectOf_ok.mp hrun
    exact .inr (doCreateSubscriptionWithToken_book (run_stoppableCall_ok.mp hrun).2).1
  | createSubscriptionWithSplit =>
    obtain ⟨_, hrun⟩ := run_effectOf_ok.mp hrun
    exact .inr (createSubscriptionWithSplit_book (run_stoppableCall_ok.mp hrun).2).1
  | createSubscriptionFromPlan =>
    obtain ⟨_, hrun⟩ := run_effectOf_ok.mp hrun
    exact .inr (doCreateSubscriptionFromPlan_book (run_stoppableCall_ok.mp hrun).2).1
  | depositFunds =>
    exact .inr (.inl (run_locked_book (EditsRecord · _ ·)
      (fun _ _ h => (doDepositFunds_book h).1) (run_guardedCall_ok.mp hrun).2))
  | depositFundsOnBehalf =>
    exact .inr (run_locked_book (fun b b' => EditsRecord b _ b' ∨ RevivesRecord b _ b')
      (fun _ _ h => (doDepositFundsOnBehalf_book h).1) (run_guardedCall_ok.mp hrun).2)
  | bulkDepositFunds | batchCharge | batchChargeDetailed | bulkCancelSubscriptions
  | bulkPauseSubscriptions => cases hsingle
  | chargeSubscription =>
    obtain ⟨_, hrun⟩ := run_effectOf_ok.mp hrun
    obtain ⟨u, hbody, hbook⟩ := run_locked_ok (run_guardedCall_ok.mp hrun).2
    exact .inr (hbook ▸ (chargeOne_book hbody).of_lock)
  | operatorChargeSubscription =>
    obtain ⟨_, hrun⟩ := run_effectOf_ok.mp hrun
    obtain ⟨u, hbody, hbook⟩ := run_locked_ok (run_guardedCall_ok.mp hrun).2
    exact .inr (hbook ▸ (doOperatorChargeSubscription_book hbody).of_lock)
  | operatorBatchCharge =>
    obtain ⟨_, hrun⟩ := run_effectOf_ok.mp hrun
    obtain ⟨-, rfl⟩ := run_pure_ok.mp (run_stoppableCall_ok.mp hrun).2
    exact .inl rfl
  | chargeUsage | chargeUsageWithReference =>
    obtain ⟨_, hrun⟩ := run_effectOf_ok.mp hrun
    obtain ⟨u, hbody, hbook⟩ := run_locked_ok (run_guardedCall_ok.mp hrun).2
    exact .inr (hbook ▸ (chargeUsageOne_book hbody).of_lock)
  | operatorChargeUsage | operatorChargeUsageWithRef =>
    obtain ⟨_, hrun⟩ := run_effectOf_ok.mp hrun
    obtain ⟨u, hbody, hbook⟩ := run_locked_ok (run_guardedCall_ok.mp hrun).2
    exact .inr (hbook ▸ (doOperatorChargeUsage_book hbody).of_lock)
  | chargeOneOff =>
    exact .inl (run_locked_book (fun b b' => b' = b) (fun _ _ => doChargeOneOff_book)
      (run_guardedCall_ok.mp hrun).2)
  | graceBuyout =>
    obtain ⟨_, hrun⟩ := run_effectOf_ok.mp hrun
    exact .inr (run_locked_book (BuysOut env · _ ·)
      (fun _ _ => doGraceBuyout_book) (run_guardedCall_ok.mp hrun).2)
  | withdrawMerchantFunds =>
    exact .inl (hquiet ((withdrawMerchantFundsReported_areas _ _).unbooked rfl) (run_guardedCall_ok.mp hrun).2)
  | withdrawMerchantTokenFunds =>
    exact .inl (hquiet ((withdrawMerchantFundsForToken_areas _ _ _).unbooked rfl)
      (run_guardedCall_ok.mp hrun).2)
  | merchantRefund => exact .inl (hquiet ((merchantRefund_areas _ _ _ _).unbooked rfl) hrun)
  | flushPayouts =>
    exact .inl (hquiet ((doFlushPayouts_areas _).unbooked rfl) (run_guardedCall_ok.mp hrun).2)
  | registerSubAccount => exact .inl (((registerSubAccount_areas _ _).unbooked rfl).book hrun)
  | withdrawSubAccountFunds => exact .inl (hquiet ((withdrawSubAccountFunds_areas _ _ _ _).unbooked rfl) hrun)
  | rotateMerchantAddress => exact .inr (doRotateMerchantAddress_book hrun)
  | cancelSubscription =>
    obtain ⟨_, s₁, hcancel, hread⟩ := run_bind_ok.mp hrun
    obtain ⟨_, -, hlast⟩ := run_check_ok (Modifies.getSubscription _) hread
    obtain ⟨-, rfl⟩ := run_pure_ok.mp hlast
    exact .inr (doCancelSubscription_book hcancel)
  | scheduleCancel =>
    exact .inr (run_locked_book (EditsRecord · _ ·) (fun _ _ h => (doScheduleCancel_book h).1) hrun)
  | unscheduleCancel =>
    exact .inr (run_locked_book (EditsRecord · _ ·) (fun _ _ h => (doUnscheduleCancel_book h).1) hrun)
  | setAutoRenew => exact .inr (doSetAutoRenew_book hrun).1
  | setSubscriptionExpiryLedger =>
    obtain ⟨sub, hreads, hbook⟩ := doSetSubscriptionExpirationLedger_book hrun
    refine .inr ⟨sub, _, hreads, ?_, hbook⟩
    rfl
  | pauseSubscription =>
    obtain ⟨_, -, hrun⟩ := run_check_ok (Modifies.getSubscription _) hrun
    exact doPauseSubscription_book hrun
  | resumeSubscription => exact (resumeSubscriptionReported_book hrun).1
  | cleanupSubscription => exact doCleanupSubscription_book hrun
  | migrateSubscriptionToPlan => exact .inr (doMigrateSubscriptionToPlan_book hrun)
  | updateSubscriptionCap => exact .inr (doUpdateSubscriptionCap_book hrun).1
  | updateSplitPayees => exact .inl (((updateSplitPayees_areas _ _ _).unbooked rfl).book hrun)
  | configureUsageLimits => exact .inl (((doConfigureUsageLimits_areas _ _).unbooked rfl).book hrun)
  | initiateTransfer =>
    exact .inl (run_locked_book (fun b b' => b' = b) (fun _ _ => doInitiateTransfer_book) hrun)
  | acceptTransfer =>
    exact .inr (run_locked_book (TransfersRecord · _ · _) (fun _ _ => doAcceptTransfer_book) hrun)
  | vetoTransfer => exact .inl (hquiet ((doVetoTransfer_areas _ _).unbooked rfl) hrun)
  | withdrawSubscriberFunds =>
    exact run_locked_book (fun b b' => b' = b ∨ EditsRecord b _ b')
      (fun _ _ h => (doWithdrawSubscriberFunds_book h).1) hrun
  | requestEmergencyWithdraw =>
    exact .inl (((doRequestEmergencyWithdraw_areas _ _).unbooked rfl).book hrun)
  | finalizeEmergencyWithdraw =>
    exact .inr (run_locked_book (EditsRecord · _ ·)
      (fun _ _ h => (doFinalizeEmergencyWithdraw_book h).1) hrun)
  | partialRefund =>
    exact .inr (run_locked_book (EditsRecord · _ ·)
      (fun _ _ h => (doPartialRefund_book h).1) (run_guardedCall_ok.mp hrun).2)
  | claimCancellationEscrow =>
    exact .inl (hquiet ((doClaimCancellationEscrow_areas _ _).unbooked rfl) hrun)
  | openDispute => exact .inl (hquiet ((doOpenDispute_areas _ _ _ _).unbooked rfl) hrun)
  | respondDispute => exact .inl (hquiet ((doRespondDispute_areas _ _ _).unbooked rfl) hrun)
  | resolveDispute => exact .inl (hquiet ((doResolveDispute_areas _ _ _).unbooked rfl) hrun)
  | lodgeEscrowDispute => exact .inl (((doLodgeEscrowDispute_areas _ _).unbooked rfl).book hrun)
  | grantDelegatedPayer => exact .inl (((doGrantDelegatedPayer_areas _ _ _ _).unbooked rfl).book hrun)
  | revokeDelegatedPayer => exact .inl (((doRevokeDelegatedPayer_areas _ _).unbooked rfl).book hrun)
  | addToBlocklist => exact .inl (((doAddToBlocklist_areas _ _ _).unbooked rfl).book hrun)
  | removeFromBlocklist => exact .inr (doRemoveFromBlocklist_book hrun).1
  | restoreSnapshotPage => exact .inr (restoreSnapshotPage_book hrun)

end Calls

end SubscriptionVault
