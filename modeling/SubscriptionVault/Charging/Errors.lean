import SubscriptionVault.Contract.Entrypoints

/-!
# Errors of the charging and deposit code

Which errors the code behind the checks of a charge or a deposit can end in. Everything is
stated for any set of errors with the ordinary ones in it; a replay and a vacation are refusals
and come from a few places only.
-/

namespace SubscriptionVault

open Exec

/-- What refuses a charge for the time being. -/
def Error.isRefusal : Error → Bool
  | .replay | .vacationActive => true
  | _ => false

def ordinary : Set Error := {e | e.isRefusal = false}

section Errors

variable {E : Set Error}

theorem fails_checked {x : Int} {e : Error} (he : e ∈ E) :
    FailsIn E (checkedI128 x e) :=
  .ite (.ok _) (.error he)

theorem fails_creditLimitForDelta (hoverflow : .overflow ∈ E) (hinput : .invalidInput ∈ E)
    (hlimit : .creditLimitExceeded ∈ E) (s : State) (subscriber token : Address)
    (additional : Int) : FailsIn E (s.creditLimitForDelta subscriber token additional) := by
  have hadd (exposure : Int) (id : Nat) :
      FailsIn E (s.addExposure subscriber token exposure id) := by
    unfold State.addExposure
    split
    · exact .ok _
    · exact .ite (.ok _) (.bind (fails_checked hoverflow) fun _ =>
        .ite (fails_checked hoverflow) (.ok _))
  exact .ite (.ok _) (.bind (.ite (.error hinput) (.foldlM hadd _ _)) fun _ =>
    .bind (fails_checked hoverflow) fun _ => .ite (.error hlimit) (.ok _))

theorem raises_load {k : Slot} {α : Type} [Holds Slot.Val k α] : (load k).Raises E :=
  .of_silent (by simp)

theorem raises_store {k : Slot} {α : Type} [Holds Slot.Val k α] {v : α} :
    (store k v).Raises E :=
  .of_silent (by simp)

theorem raises_delete {k : Slot} : (delete k).Raises E :=
  .of_silent (by simp)

variable (hE : ordinary ⊆ E)

include hE

theorem fails_safeAdd (a b : Int) : FailsIn E (safeAdd a b) :=
  fails_checked (hE rfl)

theorem fails_safeSub (a b : Int) : FailsIn E (safeSub a b) :=
  fails_checked (hE rfl)

theorem fails_transitionTo (current next : SubscriptionStatus) :
    FailsIn E (transitionTo current next) :=
  .ite (.ok _) (.error (hE rfl))

theorem fails_nextChargeTime (lastPayment interval : Nat) :
    FailsIn E (nextChargeTime lastPayment interval) := by
  unfold nextChargeTime
  cases checkedAddU64 lastPayment interval with
  | none => exact .error (hE rfl)
  | some next => exact .ok next

theorem raises_creditMerchantBalance (merchant token : Address) (amount : Int)
    (kind : BillingChargeKind) :
    (creditMerchantBalanceForToken merchant token amount kind).Raises E := by
  have haccrue (totals : AccruedTotals) : FailsIn E (totals.accrue kind amount) := by
    cases kind <;> exact .map _ (fails_checked (hE rfl))
  exact .bind (.failIf (hE rfl)) fun _ => .bind (.gets _) fun _ =>
    .bind (.lift (fails_safeAdd hE _ _)) fun _ => .bind raises_store fun _ =>
    .bind (.gets _) fun _ => .bind (.lift (haccrue _)) fun _ => .bind raises_store fun _ =>
    .bind (.bind (.gets _) fun _ => .when raises_store) fun _ => .pure _

theorem raises_creditChargePayees (id : Nat) (sub : Subscription) (net : Int)
    (kind : BillingChargeKind) : (creditChargePayees id sub net kind).Raises E := by
  have hshares (entries : List (Address × Nat)) (total : Int) :
      (creditShares sub.token net kind entries total).Raises E := by
    induction entries generalizing total with
    | nil => exact .pure _
    | cons entry rest ih =>
      exact .bind (.lift (fails_safeAdd hE _ _)) fun _ =>
        .bind (raises_creditMerchantBalance hE _ _ _ _) fun _ => ih _
  refine .bind (.gets _) fun split => ?_
  split
  · exact raises_creditMerchantBalance hE _ _ _ _
  · exact .pure _
  · exact .bind (hshares _ _) fun _ => raises_creditMerchantBalance hE _ _ _ _

theorem raises_routeToSubAccount (sub : Subscription) (net : Int) :
    (routeToSubAccount sub net).Raises E :=
  .whenSome fun _ => .bind
    (.bind (.failIf (hE rfl)) fun _ => .bind (.bind raises_load fun _ => .failIf (hE rfl)) fun _ =>
      .bind (.gets _) fun _ => .bind (.lift (fails_checked (hE rfl))) fun _ =>
      .bind raises_store fun _ => .bind (.gets _) fun _ => raises_store) fun _ =>
    .bind (.gets _) fun _ => .bind (.lift (fails_safeSub hE _ _)) fun _ => raises_store

theorem raises_creditProtocolFee (token : Address) (fee : Int)
    (treasury : Option Address) (kind : BillingChargeKind) :
    (creditProtocolFee token fee treasury kind).Raises E :=
  .when (.bind .ask fun _ => .bind (.gets _) fun _ => .bind (.unwrap _) fun _ =>
    .whenSome fun _ => raises_creditMerchantBalance hE _ _ _ _)

theorem fails_booked (sub : Subscription) (amount newBalance : Int) (now : Nat) :
    FailsIn E (sub.booked amount newBalance now) :=
  .bind (fails_safeAdd hE _ _) fun _ =>
    .ite (.bind (fails_transitionTo hE _ _) fun _ => .ok _) (.ok _)

theorem fails_cancelledWhenCapped (sub : Subscription) :
    FailsIn E sub.cancelledWhenCapped :=
  .ite (.map _ (fails_transitionTo hE _ _)) (.ok _)

theorem raises_appendStatement (id : Nat) (amount : Int) (merchant token : Address)
    (kind : BillingChargeKind) (periodStart timestamp : Nat) :
    (appendStatement id amount merchant token kind periodStart timestamp).Raises E :=
  .bind (.gets _) fun _ => .bind (.okOr (hE rfl)) fun _ => .bind raises_store fun _ =>
    .bind raises_store fun _ => .bind raises_load fun _ => raises_store

theorem raises_writePeriodSnapshot (snapshot : BillingPeriodSnapshot) :
    (writePeriodSnapshot snapshot).Raises E := by
  have hmerge (existing : BillingPeriodSnapshot) :
      FailsIn E (snapshot.mergeOnto existing) :=
    .ite (.error (hE rfl)) (.bind (fails_safeAdd hE _ _) fun _ =>
      .bind (fails_safeAdd hE _ _) fun _ => .ok _)
  have helim (existing : Option BillingPeriodSnapshot) :
      FailsIn E (existing.elim (.ok snapshot) snapshot.mergeOnto) := by
    cases existing with
    | none => exact .ok _
    | some existing => exact hmerge existing
  exact .bind (.failIf (hE rfl)) fun _ => .bind (.failIf (hE rfl)) fun _ => .bind raises_load fun _ =>
    .bind (.lift (helim _)) fun _ => .bind (.failIf (hE rfl)) fun _ => .bind raises_store fun _ =>
    .when (.bind raises_load fun _ => .bind (.forEach (fun _ => raises_delete) _) fun _ =>
      raises_store)

theorem raises_recordIdemKey (domain : NonceDomain) (id : Nat)
    (key : Option BytesN32) : (recordIdemKey domain id key).Raises E :=
  .bind .ask fun _ => .whenSome fun _ => .bind (.gets _) fun _ => .bind (.gets _) fun _ =>
    .bind (.failIf (hE rfl)) fun _ => raises_store

theorem raises_settleInterval (id : Nat) (sub : Subscription) (charge : IntervalCharge)
    (key : Option BytesN32) (cfg : Option CachedAdminConfig) :
    (settleInterval id sub charge key cfg).Raises E :=
  .bind .ask fun _ => .bind (.gets _) fun _ =>
    .bind (.lift (.bind (fails_safeSub hE _ _) fun _ => .ok _)) fun _ =>
    .bind (raises_creditChargePayees hE _ _ _ _) fun _ =>
    .bind (raises_routeToSubAccount hE _ _) fun _ =>
    .bind (raises_creditProtocolFee hE _ _ _ _) fun _ =>
    .bind (.lift (fails_booked hE _ _ _ _)) fun _ => .bind raises_delete fun _ =>
    .bind (.lift (fails_cancelledWhenCapped hE _)) fun _ => .bind raises_store fun _ =>
    .bind (raises_appendStatement hE _ _ _ _ _ _ _) fun _ =>
    .bind (raises_writePeriodSnapshot hE _) fun _ => .bind raises_store fun _ =>
    .bind raises_store fun _ => raises_recordIdemKey hE _ _ _

theorem raises_recordShortfall (id : Nat) (sub : Subscription) :
    (recordShortfall id sub none).Raises E := by
  have hgrace (s : State) : FailsIn E s.gracePeriod := by
    unfold State.gracePeriod
    cases s.config .gracePeriod with
    | none => exact .error (hE rfl)
    | some grace => exact .ok grace
  have hshort (now grace : Nat) : FailsIn E (sub.underfunded now grace) := by
    unfold Subscription.underfunded
    refine .ite ?_ (.ite (.map _ (fails_transitionTo hE _ _)) (.map _ (fails_transitionTo hE _ _)))
    split
    · exact .ite (.map _ (fails_transitionTo hE _ _)) (.ok _)
    · exact .ok _
  exact .bind .ask fun _ => .bind_gets fun s => .bind (.lift (hgrace s)) fun _ =>
    .bind (.lift (hshort _ _)) fun _ => .bind raises_store fun _ => .bind (.gets _) fun _ =>
    .when (.bind raises_load fun _ => .bind raises_store fun _ =>
      .when (.bind raises_store fun _ => raises_delete))

theorem fails_intervalAmount (s : State) (id now : Nat) (sub : Subscription) :
    FailsIn E (s.intervalAmount id now sub) := by
  have hprorated (amount : Int) (interval remaining : Nat) :
      FailsIn E (calculateProratedFirstCharge amount interval remaining) :=
    .ite (.error (hE rfl)) (.ite (.error (hE rfl)) (.ite (.ok _) (.ite (.ok _)
      (.bind (fails_checked (hE rfl)) fun _ => .bind (fails_safeAdd hE _ _) fun _ => .ok _))))
  exact .ite (hprorated _ _ _) (.ok _)

theorem raises_cancelCapped (id : Nat) (sub : Subscription) :
    (cancelCapped id sub).Raises E :=
  .bind (.lift (fails_transitionTo hE _ _)) fun _ => raises_store

theorem raises_fireScheduledCancellation (id : Nat) (sub : Subscription) :
    (fireScheduledCancellation id sub).Raises E :=
  .when (.bind (.lift (fails_transitionTo hE _ _)) fun _ => .bind raises_store fun _ =>
    .when (.bind .ask fun _ => .bind (.of_silent (by simp)) fun _ => .pure _))

theorem raises_requireChargeable (sub : Subscription) :
    (requireChargeable sub).Raises E :=
  .bind .ask fun _ => .ite (.pure _) (.ite
    (.bind (.lift (fails_nextChargeTime hE _ _)) fun _ => .failIf (hE rfl)) (.fail (hE rfl)))

theorem raises_requireNotBlocklisted (a : Address) :
    (requireNotBlocklisted a).Raises E :=
  .bind (.gets _) fun _ => .failIf (hE rfl)

theorem raises_checkMerchantStatus (hvacation : .vacationActive ∈ E) (merchant : Address)
    (cache : MerchantCache) : (checkMerchantStatus merchant cache).Raises E :=
  .bind .ask fun _ => .bind (.gets _) fun _ => .bind (.failIf (hE rfl)) fun _ => .failIf hvacation

theorem raises_failIfExpired (id : Nat) (sub : Subscription) :
    (failIfExpired id sub).Raises E :=
  .bind .ask fun _ => .when (.bind (.when (.bind (.lift (fails_transitionTo hE _ _)) fun _ =>
    raises_store)) fun _ => .fail (hE rfl))

/-! ## Charges -/

theorem raises_getSubscription (id : Nat) : (getSubscription id).Raises E :=
  .bind .ask fun _ => .bind (.gets _) fun _ => .okOr (hE rfl)

theorem raises_requireNotEmergencyStop : requireNotEmergencyStop.Raises E :=
  .bind (.gets _) fun _ => .failIf (hE rfl)

theorem fails_capRemaining (sub : Subscription) : FailsIn E sub.capRemaining := by
  unfold Subscription.capRemaining
  split
  · exact .ok _
  · exact .ite (.ok _) (.map _ (fails_safeSub hE _ _))

theorem fails_renewalClosed (sub : Subscription) (now : Nat) :
    FailsIn E (sub.renewalClosed now) :=
  .ite (.ok _) (.map _ (fails_nextChargeTime hE _ _))

/-- Where an interval charge can be refused as a replay. -/
theorem raises_chargeChecked (hreplay : .replay ∈ E) (id : Nat) (sub : Subscription)
    (key : Option BytesN32) : (chargeChecked id sub key none).Raises E := by
  have hinterval (amount : Int) : (chargeInterval id sub amount key none).Raises E := by
    refine .bind .ask fun _ => .bind (.require _) fun _ => .bind raises_load fun _ =>
      .bind (.failIf hreplay) fun _ => .bind (.gets _) fun _ => .ite (.pure _) ?_
    refine .bind raises_load fun _ => .bind (.failIf hreplay) fun _ =>
      .bind (.lift (fails_nextChargeTime hE _ _)) fun _ => .bind (.failIf (hE rfl)) fun _ =>
      .bind (.lift (fails_capRemaining hE _)) fun _ => .ite ?_ ?_
    · exact .bind (raises_cancelCapped hE _ _) fun _ => .pure _
    · split
      · exact .bind (raises_settleInterval hE _ _ _ _ _) fun _ => .pure _
      · exact .bind (raises_recordShortfall hE _ _) fun _ => .pure _
  refine .bind .ask fun _ => .bind_gets fun s =>
    .bind (.lift (fails_intervalAmount hE s _ _ _)) fun _ => .ite ?_ (.ite ?_ ?_)
  · exact .bind (.when (raises_cancelCapped hE _ _)) fun _ => .pure _
  · exact .bind (raises_fireScheduledCancellation hE _ _) fun _ => .pure _
  · exact .bind (raises_requireChargeable hE _) fun _ =>
      .bind (.lift (fails_renewalClosed hE _ _)) fun _ => .ite (.pure _) (hinterval _)

theorem raises_settleUsage (id : Nat) (sub : Subscription)
    (usageAmount pendingLifetime newBalance : Int) (reference : Bytes) :
    (settleUsage id sub usageAmount pendingLifetime newBalance reference).Raises E := by
  have hbooked : FailsIn E (sub.usageBooked pendingLifetime newBalance) :=
    .ite (.map _ (fails_transitionTo hE _ _)) (.ite (.map _ (fails_transitionTo hE _ _)) (.ok _))
  exact .bind .ask fun _ => .bind (.gets _) fun _ => .bind (.gets _) fun _ =>
    .bind (.lift (.bind (fails_safeSub hE _ _) fun _ => .ok _)) fun _ =>
    .bind (raises_creditChargePayees hE _ _ _ _) fun _ =>
    .bind (raises_routeToSubAccount hE _ _) fun _ =>
    .bind (raises_creditProtocolFee hE _ _ _ _) fun _ => .bind (.lift hbooked) fun _ =>
    .bind raises_store fun _ => .bind raises_store fun _ => .bind (.require _) fun _ =>
    .bind (.failIf (hE rfl)) fun _ => .bind (.okOr (hE rfl)) fun _ =>
    .bind (raises_writePeriodSnapshot hE _) fun _ => raises_appendStatement hE _ _ _ _ _ _ _

theorem raises_chargeUsageDue (id : Nat) (sub : Subscription) (usageAmount : Int)
    (reference : Bytes) : (chargeUsageDue id sub usageAmount reference).Raises E := by
  refine .bind (.lift (fails_safeAdd hE _ _)) fun _ => .ite ?_ ?_
  · exact .bind (raises_cancelCapped hE _ _) fun _ => .pure _
  · split
    · exact .bind (raises_settleUsage hE _ _ _ _ _ _) fun _ => .pure _
    · exact .bind (.lift (fails_transitionTo hE _ _)) fun _ => .bind raises_store fun _ => .pure _

omit hE in
theorem raises_applyUsageLimits (id : Nat) (sub : Subscription) (units : Int) :
    (applyUsageLimits id sub units).Raises E := by
  have hcap (limits : UsageLimits) (state : UsageState) (period : Nat) :
      (applyUsageCap id limits state period units).Raises E :=
    .bind .ask fun _ => .bind (.when raises_store) fun _ => .ite (.pure _)
      (.bind raises_store fun _ => .pure _)
  refine .bind .ask fun _ => .bind raises_load fun configured => ?_
  cases configured with
  | none => exact .pure _
  | some limits =>
    exact .bind (.require _) fun _ => .bind raises_load fun _ => .ite (.pure _)
      (.ite (.pure _) (hcap _ _ _))

theorem raises_chargeUsageChecked (id : Nat) (sub : Subscription) (usageAmount : Int)
    (reference : Bytes) : (chargeUsageChecked id sub usageAmount reference).Raises E := by
  refine .bind .ask fun _ => .bind (.when (.bind (.when (raises_cancelCapped hE _ _)) fun _ =>
    .fail (hE rfl))) fun _ => .bind (.failIf (hE rfl)) fun _ => .bind (.failIf (hE rfl)) fun _ =>
    .bind (.lift (fails_renewalClosed hE _ _)) fun _ => .bind (.failIf (hE rfl)) fun _ =>
    .bind (.failIf (hE rfl)) fun _ => .bind raises_load fun _ => .ite (.pure _) ?_
  refine .bind (.failIf (hE rfl)) fun _ => .bind raises_load fun _ => .ite (.pure _) ?_
  refine .bind (raises_applyUsageLimits _ _ _) fun rejected => ?_
  cases rejected with
  | none => exact raises_chargeUsageDue hE _ _ _ _
  | some result => exact .pure _

/-! ## One-off charges and buyouts -/

theorem raises_checkOneOff (id : Nat) (sub : Subscription) (merchant : Address) (amount : Int) :
    (checkOneOff id sub merchant amount).Raises E :=
  .bind (.failIf (hE rfl)) fun _ => .bind (.when (.bind (.when (raises_cancelCapped hE _ _))
    fun _ => .fail (hE rfl))) fun _ => .bind (.failIf (hE rfl)) fun _ =>
    .bind (.failIf (hE rfl)) fun _ => .bind (.failIf (hE rfl)) fun _ =>
    .bind (.lift (fails_safeAdd hE _ _)) fun _ =>
    .bind (.when (.bind (raises_cancelCapped hE _ _) fun _ => .fail (hE rfl))) fun _ => .pure _

theorem raises_settleOneOff (id : Nat) (sub : Subscription) (charged amount : Int)
    (key : Option BytesN32) : (settleOneOff id sub charged amount key).Raises E :=
  .bind .ask fun _ => .bind (.lift (fails_safeSub hE _ _)) fun _ => .bind (.gets _) fun _ =>
    .bind (.gets _) fun _ => .bind (.lift (.bind (fails_safeSub hE _ _) fun _ => .ok _)) fun _ =>
    .bind (raises_creditChargePayees hE _ _ _ _) fun _ =>
    .bind (raises_routeToSubAccount hE _ _) fun _ =>
    .bind (.when (.whenSome fun _ => raises_creditMerchantBalance hE _ _ _ _)) fun _ =>
    .bind (.lift (fails_cancelledWhenCapped hE _)) fun _ =>
    .bind (raises_appendStatement hE _ _ _ _ _ _ _) fun _ => raises_recordIdemKey hE _ _ _

omit hE in
theorem raises_requireAuth (a : Address) : (requireAuth a).Raises E :=
  .of_silent (by simp)

theorem raises_doGraceBuyout (id : Nat) (subscriber : Address) (amount : Int)
    (key : Option BytesN32) : (doGraceBuyout id subscriber amount key).Raises E := by
  have hpremium (charge : Int) (bps : Nat) : FailsIn E (buyoutPremium charge bps) :=
    .ite (.map _ (fails_checked (hE rfl))) (.ok _)
  have hbalance (balance amount : Int) : FailsIn E (safeSubBalance balance amount) :=
    .ite (.error (hE rfl)) (.ite (.error (hE rfl)) (fails_safeSub hE _ _))
  exact .bind .ask fun _ => .bind (raises_requireAuth _) fun _ =>
    .bind (raises_getSubscription hE _) fun _ => .bind (.failIf (hE rfl)) fun _ =>
    .bind (.gets _) fun _ => .bind (.lift (hpremium _ _)) fun _ =>
    .bind (.lift (fails_safeAdd hE _ _)) fun _ => .bind (.failIf (hE rfl)) fun _ =>
    .bind (.lift (fails_safeAdd hE _ _)) fun _ => .bind (.lift (hbalance _ _)) fun _ =>
    .bind (.lift (fails_safeAdd hE _ _)) fun _ => .bind raises_store fun _ =>
    .bind (.lift (fails_safeAdd hE _ _)) fun _ =>
    .bind (raises_creditMerchantBalance hE _ _ _ _) fun _ => .bind (.require _) fun _ =>
    .bind raises_store fun _ => .bind (raises_appendStatement hE _ _ _ _ _ _ _) fun _ =>
    .bind (raises_recordIdemKey hE _ _ _) fun _ => .pure _

/-! ## Deposits -/

theorem raises_enforceMinTopup (amount : Int) : (enforceMinTopup amount).Raises E := by
  have hconfigured (s : State) : FailsIn E s.minTopup := by
    unfold State.minTopup
    cases s.config .minTopup with
    | none => exact .error (hE rfl)
    | some least => exact .ok least
  exact .bind_gets fun s => .bind (.lift (hconfigured s)) fun _ => .bind (.failIf (hE rfl)) fun _ =>
    .failIf (hE rfl)

theorem raises_enforceCreditLimitForDelta (subscriber token : Address) (additional : Int) :
    (enforceCreditLimitForDelta subscriber token additional).Raises E :=
  .bind_gets fun _ => .lift (fails_creditLimitForDelta (hE rfl) (hE rfl) (hE rfl) _ _ _ _)

theorem raises_enforceDepositCap (sub : Subscription) (deposit : Int) :
    (enforceDepositCap sub deposit).Raises E :=
  .failIf (hE rfl)

theorem fails_safeAddBalance (balance amount : Int) : FailsIn E (safeAddBalance balance amount) :=
  .ite (.error (hE rfl)) (fails_safeAdd hE _ _)

theorem raises_checkAndAdvance (signer : Address) (domain : NonceDomain) (expected : Nat) :
    (checkAndAdvance signer domain expected).Raises E := by
  have hnext (stored : Nat) : FailsIn E (computeNextNonce stored expected) := by
    refine .ite (.error (hE rfl)) ?_
    cases checkedAddU64 stored 1 with
    | none => exact .error (hE rfl)
    | some next => exact .ok next
  exact .bind (.gets _) fun _ => .bind (.lift (hnext _)) fun _ => raises_store

omit hE in
theorem raises_transfer (token sender receiver : Address) (amount : Int) :
    (transfer token sender receiver amount).Raises E :=
  .of_silent (by simp)

theorem raises_doDepositFundsOnBehalf (id : Nat) (payer : Address) (amount : Int)
    (nonce : Option Nat) : (doDepositFundsOnBehalf id payer amount nonce).Raises E :=
  .bind .ask fun _ => .bind (raises_requireAuth _) fun _ =>
    .bind (.whenSome fun _ => raises_checkAndAdvance hE _ _ _) fun _ =>
    .bind (raises_getSubscription hE _) fun _ => .bind raises_load fun _ =>
    .bind (.okOr (hE rfl)) fun _ => .bind (.failIf (hE rfl)) fun _ =>
    .bind (.failIf (hE rfl)) fun _ => .bind (raises_enforceMinTopup hE _) fun _ =>
    .bind (raises_requireNotBlocklisted hE _) fun _ =>
    .bind (raises_requireNotBlocklisted hE _) fun _ => .bind (.gets _) fun _ =>
    .bind (.failIf (hE rfl)) fun _ => .bind (raises_failIfExpired hE _ _) fun _ =>
    .bind (raises_enforceCreditLimitForDelta hE _ _ _) fun _ =>
    .bind (raises_enforceDepositCap hE _ _) fun _ => .bind (.lift (fails_safeAddBalance hE _ _))
    fun _ => .bind raises_store fun _ => .bind raises_delete fun _ =>
    .bind (raises_transfer _ _ _ _) fun _ => .bind (.pure _) fun _ => raises_store

end Errors

end SubscriptionVault
