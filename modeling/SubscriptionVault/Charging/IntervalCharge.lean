import SubscriptionVault.Charging.Footprints

/-!
# What an interval charge can do

A charge passes a row of guards before it looks at the balance. A subscription that passes all
of them is due: its charge is settled when the balance covers it and recorded as a shortfall
otherwise. Everything else a charge can do is listed once, as the possible outcomes.
-/

namespace SubscriptionVault

open Exec

/-! ## Checks on merchants -/

section Checks

variable {env : Env} {s t : State} {u : Unit}

@[simp] theorem State.cachedMerchantStatus_empty (s : State) (merchant : Address) (now : Nat) :
    s.cachedMerchantStatus ∅ merchant now = s.merchantStatus merchant now := by
  simp [State.cachedMerchantStatus]

theorem run_checkMerchantStatus_ok {merchant : Address} {cache : MerchantCache} :
    (checkMerchantStatus merchant cache).run env s = .ok u t ↔
      s.cachedMerchantStatus cache merchant env.now = (false, false) ∧ s = t := by
  simp only [checkMerchantStatus, run_bind_ok, run_ask_ok, run_gets_ok, run_failIf_ok]
  constructor
  · rintro ⟨_, _, ⟨rfl, rfl⟩, _, _, ⟨rfl, rfl⟩, _, _, ⟨hpaused, rfl⟩, hvacation, rfl⟩
    exact ⟨Prod.ext (by simpa using hpaused) (by simpa using hvacation), rfl⟩
  · rintro ⟨hstatus, rfl⟩
    exact ⟨_, _, ⟨rfl, rfl⟩, _, _, ⟨rfl, rfl⟩, (), _, ⟨by simp [hstatus], rfl⟩,
      by simp [hstatus], rfl⟩

/-- The payee may take part in a charge. -/
def State.payeeOpen (s : State) (payee : Address) (now : Nat) : Prop :=
  s.isBlocklisted payee = false ∧ s.merchantStatus payee now = (false, false)

@[simp] theorem run_checkPayee_ok {payee : Address} :
    (checkPayee payee).run env s = .ok u t ↔ s.payeeOpen payee env.now ∧ s = t := by
  simp only [checkPayee, run_bind_ok, run_requireNotBlocklisted_ok, run_checkMerchantStatus_ok,
    State.cachedMerchantStatus_empty]
  constructor
  · rintro ⟨_, _, ⟨hlisted, rfl⟩, hstatus, rfl⟩
    exact ⟨⟨hlisted, hstatus⟩, rfl⟩
  · rintro ⟨⟨hlisted, hstatus⟩, rfl⟩
    exact ⟨(), _, ⟨hlisted, rfl⟩, hstatus, rfl⟩

theorem run_checkSplitPayees_ok {id : Nat} :
    (checkSplitPayees id).run env s = .ok u t ↔
      (∀ split, s.splitPayees id = some split → ∀ entry ∈ split.entries,
        s.payeeOpen entry.1 env.now) ∧ s = t := by
  simp only [checkSplitPayees, run_bind_ok, run_gets_ok, run_whenSome_ok]
  have hloop (split : SplitPayees) (u : Unit) :
      (forEach split.entries fun entry => checkPayee entry.1).run env s = .ok u t ↔
        s = t ∧ ∀ entry ∈ split.entries, s.payeeOpen entry.1 env.now := by
    rw [Keeps.run_forEach_ok fun _ => Modifies.checkPayee _]
    simp
  constructor
  · rintro ⟨_, _, ⟨rfl, rfl⟩, ⟨split, hsplit, hrun⟩ | ⟨hnone, rfl⟩⟩
    · obtain ⟨rfl, hopen⟩ := (hloop split ()).mp hrun
      refine ⟨fun split' hsplit' => ?_, rfl⟩
      rw [hsplit] at hsplit'
      obtain rfl := Option.some.inj hsplit'
      exact hopen
    · refine ⟨fun split hsplit => ?_, rfl⟩
      rw [hnone] at hsplit
      cases hsplit
  · rintro ⟨hopen, rfl⟩
    refine ⟨_, _, ⟨rfl, rfl⟩, ?_⟩
    cases hsplit : s.splitPayees id with
    | none => exact .inr ⟨rfl, rfl⟩
    | some split => exact .inl ⟨split, rfl, (hloop split ()).mpr ⟨rfl, hopen split hsplit⟩⟩

end Checks

/-! ## Due charges -/

/-- Statuses with which an interval may be charged. -/
def Subscription.isChargeable (sub : Subscription) : Prop :=
  sub.status = .active ∨ sub.status = .gracePeriod ∨ sub.status = .insufficientBalance

/-- The parties may take part in a charge and the subscription has not expired. -/
structure Cleared (env : Env) (s : State) (id : Nat) (sub : Subscription) : Prop where
  running : s.emergencyStop = false
  found : s.effectiveSubscription id env.now = some sub
  merchantOpen : s.merchantStatus sub.merchant env.now = (false, false)
  subscriberUnlisted : s.isBlocklisted sub.subscriber = false
  merchantUnlisted : s.isBlocklisted sub.merchant = false
  payeesOpen : ∀ split, s.splitPayees id = some split → ∀ entry ∈ split.entries,
    s.payeeOpen entry.1 env.now
  unexpired : sub.isExpired env.now env.sequence = false

/-- The parties may take part in a charge, be the subscription expired or not. -/
structure Admitted (env : Env) (s : State) (id : Nat) (sub : Subscription) : Prop where
  running : s.emergencyStop = false
  found : s.effectiveSubscription id env.now = some sub
  merchantOpen : s.merchantStatus sub.merchant env.now = (false, false)
  subscriberUnlisted : s.isBlocklisted sub.subscriber = false
  merchantUnlisted : s.isBlocklisted sub.merchant = false
  payeesOpen : ∀ split, s.splitPayees id = some split → ∀ entry ∈ split.entries,
    s.payeeOpen entry.1 env.now

theorem Cleared.admitted {env : Env} {s : State} {id : Nat} {sub : Subscription}
    (h : Cleared env s id sub) : Admitted env s id sub :=
  { h with }

/-- An interval is over, costs `amount`, and nothing but a used key, the cap or the balance can
keep it from being charged. -/
structure IntervalDue (env : Env) (s : State) (id : Nat) (sub : Subscription) (amount : Int) : Prop
    extends Cleared env s id sub where
  priced : s.intervalAmount id env.now sub = .ok amount
  capLeft : sub.capReached = false
  unscheduled : sub.cancelAt.any (· ≤ env.now) = false
  chargeable : sub.isChargeable
  renewing : sub.renewalClosed env.now = .ok false
  interval : sub.intervalSeconds ≠ 0
  freshSalt : s.read (.instanced (.chargeSalt id)) ≠
    some (env.host.chargeSalt id sub.lastPaymentTimestamp env.sequence)
  freshPeriod : (s.read (.instanced (.chargedPeriod id))).any
    ((env.now - sub.startTime) / sub.intervalSeconds ≤ ·) = false
  elapsed : sub.lastPaymentTimestamp + sub.intervalSeconds ≤ env.now

/-- The charge passes every guard in front of the look at the balance. -/
structure DueCharge (env : Env) (s : State) (id : Nat) (key : Option BytesN32)
    (sub : Subscription) (amount : Int) (nextAllowed : Nat) : Prop
    extends Cleared env s id sub where
  priced : s.intervalAmount id env.now sub = .ok amount
  capLeft : sub.capReached = false
  unscheduled : sub.cancelAt.any (· ≤ env.now) = false
  chargeable : sub.isChargeable
  renewing : sub.renewalClosed env.now = .ok false
  interval : sub.intervalSeconds ≠ 0
  freshSalt : s.read (.instanced (.chargeSalt id)) ≠
    some (env.host.chargeSalt id sub.lastPaymentTimestamp env.sequence)
  freshKey : s.isReplayedKey env .chargeInterval id key = false
  freshPeriod : (s.read (.instanced (.chargedPeriod id))).any
    ((env.now - sub.startTime) / sub.intervalSeconds ≤ ·) = false
  next : nextChargeTime sub.lastPaymentTimestamp sub.intervalSeconds = .ok nextAllowed
  elapsed : nextAllowed ≤ env.now
  fits : ∃ remaining, sub.capRemaining = .ok remaining ∧ exceedsRemaining remaining amount = false

/-- What a due charge does with the balance. -/
def payInterval (env : Env) (id : Nat) (sub : Subscription) (amount : Int) (nextAllowed : Nat)
    (key : Option BytesN32) (cfg : Option CachedAdminConfig) : Vault ChargeExecutionResult :=
  match safeSubBalance sub.prepaidBalance amount with
  | .ok newBalance => do
    settleInterval id sub
      { amount, newBalance, periodIndex := (env.now - sub.startTime) / sub.intervalSeconds,
        nextAllowed, salt := env.host.chargeSalt id sub.lastPaymentTimestamp env.sequence }
      key cfg
    pure .charged
  | .error _ => do
    recordShortfall id sub cfg
    pure .insufficientBalance

theorem nextChargeTime_ok {lastPayment interval next : Nat} :
    nextChargeTime lastPayment interval = .ok next ↔
      lastPayment + interval = next ∧ lastPayment + interval ≤ u64Max := by
  unfold nextChargeTime checkedAddU64
  split
  · rename_i hfits
    simp [hfits]
  · rename_i hover
    simp [hover]

/-- Where the parties may take part, both charges come to the look at the expiry. -/
theorem run_parties_of_admitted {α : Type} {env : Env} {s : State} {id : Nat}
    {sub : Subscription} (h : Admitted env s id sub) (rest : Subscription → Vault α) :
    (do
      requireNotEmergencyStop
      let sub ← getSubscription id
      checkMerchantStatus sub.merchant ∅
      requireNotBlocklisted sub.subscriber
      requireNotBlocklisted sub.merchant
      checkSplitPayees id
      rest sub : Vault α).run env s = (rest sub).run env s := by
  refine (run_seq_of_ok (run_requireNotEmergencyStop_ok.mpr ⟨h.running, rfl⟩)).trans ?_
  refine (run_bind_of_ok (run_getSubscription_ok.mpr ⟨h.found, rfl⟩)).trans ?_
  refine (run_seq_of_ok (run_checkMerchantStatus_ok.mpr
    ⟨by simpa using h.merchantOpen, rfl⟩)).trans ?_
  refine (run_seq_of_ok (run_requireNotBlocklisted_ok.mpr ⟨h.subscriberUnlisted, rfl⟩)).trans ?_
  refine (run_seq_of_ok (run_requireNotBlocklisted_ok.mpr ⟨h.merchantUnlisted, rfl⟩)).trans ?_
  exact run_seq_of_ok (run_checkSplitPayees_ok.mpr ⟨h.payeesOpen, rfl⟩)

theorem run_failIfExpired_of_live {env : Env} {s : State} {id : Nat} {sub : Subscription}
    (h : sub.isExpired env.now env.sequence = false) :
    (failIfExpired id sub).run env s = .ok () s :=
  (run_bind_of_ok (run_ask_ok.mpr ⟨rfl, rfl⟩)).trans
    (run_when_ok.mpr (.inr ⟨by simp [h], rfl⟩))

section Due

variable {env : Env} {s : State} {id : Nat} {key : Option BytesN32} {sub : Subscription}
  {amount : Int} {nextAllowed : Nat}

private theorem run_requireChargeable (h : DueCharge env s id key sub amount nextAllowed) :
    (requireChargeable sub).run env s = .ok () s := by
  refine (run_bind_of_ok (run_ask_ok.mpr ⟨rfl, rfl⟩)).trans ?_
  rcases h.chargeable with hstatus | hstatus | hstatus
  · simp only [hstatus, true_or, if_true, run_pure_ok, and_self]
  · simp only [hstatus, or_true, if_true, run_pure_ok, and_self]
  · simp only [hstatus, reduceCtorEq, or_self, if_false, if_true]
    refine (run_bind_of_ok (run_lift_ok.mpr ⟨h.next, rfl⟩)).trans ?_
    exact run_failIf_ok.mpr ⟨Nat.not_lt.mpr h.elapsed, rfl⟩

/-- A charge that passes the guards goes on with the balance. -/
theorem run_chargeOne_of_due (h : DueCharge env s id key sub amount nextAllowed) :
    (chargeOne id key none ∅).run env s =
      (payInterval env id sub amount nextAllowed key none).run env s := by
  obtain ⟨remaining, hremaining, hfits⟩ := h.fits
  have hpriced : (gets (·.intervalAmount id env.now sub) : Vault _).run env s =
      .ok (.ok amount) s := run_gets_ok.mpr ⟨h.priced, rfl⟩
  have hkey : (gets (·.isReplayedKey env .chargeInterval id key) : Vault _).run env s =
      .ok false s := run_gets_ok.mpr ⟨h.freshKey, rfl⟩
  calc (chargeOne id key none ∅).run env s
    _ = (chargeChecked id sub key none).run env s := by
      refine (run_parties_of_admitted h.admitted _).trans ?_
      exact run_seq_of_ok (run_failIfExpired_of_live h.unexpired)
    _ = (chargeInterval id sub amount key none).run env s := by
      refine (run_bind_of_ok (run_ask_ok.mpr ⟨rfl, rfl⟩)).trans ?_
      refine (run_bind_of_ok hpriced).trans ?_
      refine (run_bind_of_ok (run_lift_ok.mpr ⟨rfl, rfl⟩)).trans ?_
      rw [if_neg (by simp [h.capLeft]), if_neg (by simp [h.unscheduled])]
      refine (run_seq_of_ok (run_requireChargeable h)).trans ?_
      refine (run_bind_of_ok (run_lift_ok.mpr ⟨h.renewing, rfl⟩)).trans ?_
      rw [if_neg (by simp)]
    _ = (payInterval env id sub amount nextAllowed key none).run env s := by
      refine (run_bind_of_ok (run_ask_ok.mpr ⟨rfl, rfl⟩)).trans ?_
      refine (run_seq_of_ok (run_require_ok.mpr ⟨h.interval, rfl⟩)).trans ?_
      refine (run_bind_of_ok (run_load_ok.mpr ⟨rfl, rfl⟩)).trans ?_
      refine (run_seq_of_ok (run_failIf_ok.mpr ⟨h.freshSalt, rfl⟩)).trans ?_
      refine (run_bind_of_ok hkey).trans ?_
      rw [if_neg (by simp)]
      refine (run_bind_of_ok (run_load_ok.mpr ⟨rfl, rfl⟩)).trans ?_
      refine (run_seq_of_ok (run_failIf_ok.mpr ⟨by simp [h.freshPeriod], rfl⟩)).trans ?_
      refine (run_bind_of_ok (run_lift_ok.mpr ⟨h.next, rfl⟩)).trans ?_
      refine (run_seq_of_ok (run_failIf_ok.mpr ⟨Nat.not_lt.mpr h.elapsed, rfl⟩)).trans ?_
      refine (run_bind_of_ok (run_lift_ok.mpr ⟨hremaining, rfl⟩)).trans ?_
      rw [if_neg (by simp [hfits])]
      rfl

end Due

/-! ## Outcomes -/

/-- The lifetime cap is used up, or leaves less than an interval that is due takes. -/
def CapBlocks (env : Env) (s : State) (id : Nat) (sub : Subscription) : Prop :=
  sub.capReached = true ∨ ∃ amount remaining, IntervalDue env s id sub amount ∧
    sub.capRemaining = .ok remaining ∧ exceedsRemaining remaining amount = true

/-- Everything a charge in state `s` can end in. An error other than the last is returned
before anything but an expiry has been written. -/
inductive IntervalOutcome (env : Env) (s : State) (id : Nat) (key : Option BytesN32) :
    Outcome Error State ChargeExecutionResult → Prop
  | trap : IntervalOutcome env s id key .trap
  | refused (e : Error) : IntervalOutcome env s id key (.err e s)
  | expired {sub : Subscription} {t : State} :
      Admitted env s id sub →
      (failIfExpired id sub).run env s = .err .subscriptionExpired t →
      IntervalOutcome env s id key (.err .subscriptionExpired t)
  /-- Nothing is done for a replayed key or a subscription that does not renew. -/
  | idle {result : ChargeExecutionResult} {sub : Subscription} :
      s.effectiveSubscription id env.now = some sub →
      (result = .charged → s.isReplayedKey env .chargeInterval id key = true) →
      (result = .lifetimeCapReached ∨ result = .scheduledCancellation →
        sub.status = .cancelled) →
      result ≠ .insufficientBalance → IntervalOutcome env s id key (.ok result s)
  | capped {sub : Subscription} {t : State} :
      Cleared env s id sub → sub.status ≠ .cancelled →
      CapBlocks env s id sub → (cancelCapped id sub).run env s = .ok () t →
      IntervalOutcome env s id key (.ok .lifetimeCapReached t)
  | cancelled {sub : Subscription} {t : State} :
      Cleared env s id sub → sub.status ≠ .cancelled →
      sub.cancelAt.any (· ≤ env.now) = true →
      (fireScheduledCancellation id sub).run env s = .ok () t →
      IntervalOutcome env s id key (.ok .scheduledCancellation t)
  | short {sub : Subscription} {amount : Int} {nextAllowed : Nat} {e : Error} {t : State} :
      DueCharge env s id key sub amount nextAllowed →
      safeSubBalance sub.prepaidBalance amount = .error e →
      (recordShortfall id sub none).run env s = .ok () t →
      IntervalOutcome env s id key (.ok .insufficientBalance t)
  | settled {sub : Subscription} {charge : IntervalCharge} {t : State} :
      DueCharge env s id key sub charge.amount charge.nextAllowed →
      safeSubBalance sub.prepaidBalance charge.amount = .ok charge.newBalance →
      charge.periodIndex = (env.now - sub.startTime) / sub.intervalSeconds →
      charge.salt = env.host.chargeSalt id sub.lastPaymentTimestamp env.sequence →
      (settleInterval id sub charge key none).run env s = .ok () t →
      IntervalOutcome env s id key (.ok .charged t)
  | unsettled {sub : Subscription} {charge : IntervalCharge} {e : Error} {t : State} :
      DueCharge env s id key sub charge.amount charge.nextAllowed →
      safeSubBalance sub.prepaidBalance charge.amount = .ok charge.newBalance →
      charge.periodIndex = (env.now - sub.startTime) / sub.intervalSeconds →
      charge.salt = env.host.chargeSalt id sub.lastPaymentTimestamp env.sequence →
      (settleInterval id sub charge key none).run env s = .err e t →
      IntervalOutcome env s id key (.err e t)

section Outcomes

variable {env : Env} {s t : State} {id : Nat} {key : Option BytesN32} {sub : Subscription}
  {amount : Int} {nextAllowed : Nat} {e : Error}

theorem run_failIfExpired_ok {u : Unit} :
    (failIfExpired id sub).run env s = .ok u t ↔
      sub.isExpired env.now env.sequence = false ∧ s = t := by
  simp [failIfExpired, run_when_ok, and_comm]

/-- Both charges begin with the same checks. -/
theorem run_parties_ok {α : Type} {a : α} {env : Env} {s t : State} {id : Nat}
    {rest : Subscription → Vault α}
    (hrun : (do
      requireNotEmergencyStop
      let sub ← getSubscription id
      checkMerchantStatus sub.merchant ∅
      requireNotBlocklisted sub.subscriber
      requireNotBlocklisted sub.merchant
      checkSplitPayees id
      failIfExpired id sub
      rest sub : Vault α).run env s = .ok a t) :
    ∃ sub, Cleared env s id sub ∧ (rest sub).run env s = .ok a t := by
  obtain ⟨_, hopen, hrun⟩ := run_check_ok Modifies.requireNotEmergencyStop hrun
  obtain ⟨sub, hget, hrun⟩ := run_check_ok (Modifies.getSubscription id) hrun
  obtain ⟨_, hmerchant, hrun⟩ := run_check_ok (Modifies.checkMerchantStatus _ _) hrun
  obtain ⟨_, hsubscriber, hrun⟩ := run_check_ok (Modifies.requireNotBlocklisted _) hrun
  obtain ⟨_, hlisted, hrun⟩ := run_check_ok (Modifies.requireNotBlocklisted _) hrun
  obtain ⟨_, hpayees, hrun⟩ := run_check_ok (Modifies.checkSplitPayees id) hrun
  obtain ⟨_, u, hexpired, hrun⟩ := run_bind_ok.mp hrun
  obtain ⟨hunexpired, rfl⟩ := run_failIfExpired_ok.mp hexpired
  refine ⟨sub, ?_, hrun⟩
  exact
    { running := (run_requireNotEmergencyStop_ok.mp hopen).1
      found := (run_getSubscription_ok.mp hget).1
      merchantOpen := by simpa using (run_checkMerchantStatus_ok.mp hmerchant).1
      subscriberUnlisted := (run_requireNotBlocklisted_ok.mp hsubscriber).1
      merchantUnlisted := (run_requireNotBlocklisted_ok.mp hlisted).1
      payeesOpen := (run_checkSplitPayees_ok.mp hpayees).1
      unexpired := hunexpired }

theorem run_failIfExpired_err (hrun : (failIfExpired id sub).run env s = .err e t) :
    s = t ∨ e = .subscriptionExpired := by
  simp only [failIfExpired, run_bind_err, run_ask_err, run_ask_ok, false_or, run_when_err,
    run_when_ok, run_lift_err, run_lift_ok, writeSubscription, run_store_err, and_false,
    exists_false, or_false, run_fail_err] at hrun
  obtain ⟨_, _, ⟨rfl, rfl⟩, -, ⟨-, -, rfl⟩ | ⟨_, _, -, rfl, rfl⟩⟩ := hrun
  · exact .inl rfl
  · exact .inr rfl

theorem run_cancelCapped_err (hrun : (cancelCapped id sub).run env s = .err e t) : s = t := by
  simp only [cancelCapped, writeSubscription, run_bind_err, run_lift_err, run_lift_ok,
    run_store_err, and_false, exists_false, or_false] at hrun
  exact hrun.2

theorem run_fireScheduledCancellation_err
    (hrun : (fireScheduledCancellation id sub).run env s = .err e t) : s = t := by
  simp only [fireScheduledCancellation, writeSubscription, subTotalAccounted, run_when_err,
    run_bind_err, run_lift_err, run_lift_ok, run_store_err, run_ask_err, run_transfer_err,
    run_pure_err, and_false, exists_false, or_false] at hrun
  exact hrun.2.2

/-- Recording a shortfall fails before it writes. -/
theorem run_recordShortfall_err {cfg : Option CachedAdminConfig}
    (hrun : (recordShortfall id sub cfg).run env s = .err e t) : s = t := by
  simp only [recordShortfall, countChargeFailure, writeSubscription, run_when_err, run_bind_err,
    run_ask_err, run_ask_ok, run_gets_err, run_gets_ok, run_load_err, run_lift_err, run_lift_ok,
    run_store_err, run_delete_err, and_false, exists_false, or_false, false_or] at hrun
  obtain ⟨_, _, ⟨rfl, rfl⟩, _, _, ⟨rfl, rfl⟩, ⟨-, rfl⟩ | ⟨_, _, ⟨-, rfl⟩, -, rfl⟩⟩ := hrun
  · rfl
  · rfl

private theorem payInterval_outcome (h : DueCharge env s id key sub amount nextAllowed) :
    IntervalOutcome env s id key
      ((payInterval env id sub amount nextAllowed key none).run env s) := by
  cases hbalance : safeSubBalance sub.prepaidBalance amount with
  | ok newBalance =>
    let charge : IntervalCharge :=
      { amount, newBalance, periodIndex := (env.now - sub.startTime) / sub.intervalSeconds,
        nextAllowed, salt := env.host.chargeSalt id sub.lastPaymentTimestamp env.sequence }
    have hpay : payInterval env id sub amount nextAllowed key none =
        (do
          settleInterval id sub charge key none
          pure .charged) := by
      unfold payInterval
      rw [hbalance]
    rw [hpay]
    cases hrun : (settleInterval id sub charge key none).run env s with
    | trap => exact (run_bind_of_trap hrun) ▸ .trap
    | ok _ t => exact (run_bind_of_ok hrun) ▸ .settled h hbalance rfl rfl hrun
    | err e t => exact (run_bind_of_err hrun) ▸ .unsettled h hbalance rfl rfl hrun
  | error e =>
    have hpay : payInterval env id sub amount nextAllowed key none =
        (do
          recordShortfall id sub none
          pure .insufficientBalance) := by
      unfold payInterval
      rw [hbalance]
    rw [hpay]
    cases hrun : (recordShortfall id sub none).run env s with
    | trap => exact (run_bind_of_trap hrun) ▸ .trap
    | ok _ t => exact (run_bind_of_ok hrun) ▸ .short h hbalance hrun
    | err e t =>
      obtain rfl := run_recordShortfall_err hrun
      exact (run_bind_of_err hrun) ▸ .refused e

theorem isChargeable_of_run {u : Unit} (hrun : (requireChargeable sub).run env s = .ok u t) :
    sub.isChargeable := by
  simp only [requireChargeable, run_bind_ok, run_ask_ok] at hrun
  obtain ⟨_, _, ⟨rfl, rfl⟩, hrun⟩ := hrun
  split at hrun
  · rename_i hstatus
    exact hstatus.elim .inl fun h => .inr (.inl h)
  · split at hrun
    · rename_i hstatus
      exact .inr (.inr hstatus)
    · simp at hrun

theorem Subscription.isChargeable.ne_cancelled (h : sub.isChargeable) :
    sub.status ≠ .cancelled := by
  rcases h with h | h | h <;> simp [h]

/-- A cancellation inside a charge, reported as `result`. -/
private theorem outcome_of_cancellation {x : Vault Unit} {result : ChargeExecutionResult}
    (hok : ∀ t, x.run env s = .ok () t → IntervalOutcome env s id key (.ok result t))
    (herr : ∀ e t, x.run env s = .err e t → s = t) :
    IntervalOutcome env s id key ((do x; pure result : Vault ChargeExecutionResult).run env s) := by
  cases hrun : x.run env s with
  | trap => exact (run_bind_of_trap hrun) ▸ .trap
  | ok _ t => exact (run_bind_of_ok hrun) ▸ hok t hrun
  | err e t =>
    obtain rfl := herr e t hrun
    exact (run_bind_of_err hrun) ▸ .refused e

/-- A charge from the period computation on. -/
private theorem chargeInterval_outcome (hclear : Cleared env s id sub)
    (hpriced : s.intervalAmount id env.now sub = .ok amount) (hcap : sub.capReached = false)
    (hscheduled : sub.cancelAt.any (· ≤ env.now) = false) (hchargeable : sub.isChargeable)
    (hrenewing : sub.renewalClosed env.now = .ok false) :
    IntervalOutcome env s id key ((chargeInterval id sub amount key none).run env s) := by
  let P := IntervalOutcome env s id key
  refine Keeps.run_bind_cases (P := P) .ask .trap .refused fun env' hask => ?_
  obtain ⟨rfl, -⟩ := run_ask_ok.mp hask
  refine Keeps.run_bind_cases (P := P) (.require _) .trap .refused fun _ hinterval => ?_
  refine Keeps.run_bind_cases (P := P) Modifies.load .trap .refused fun lastSalt hsalt => ?_
  refine Keeps.run_bind_cases (P := P) (.failIf _ _) .trap .refused fun _ hfresh => ?_
  refine Keeps.run_bind_cases (P := P) (.gets _) .trap .refused fun replayed hreplayed => ?_
  split
  · rename_i hreplay
    refine .idle hclear.found (fun _ => ?_) (by simp) (by simp)
    rw [(run_gets_ok.mp hreplayed).1, hreplay]
  rename_i hunseen
  refine Keeps.run_bind_cases (P := P) Modifies.load .trap .refused fun period hperiod => ?_
  refine Keeps.run_bind_cases (P := P) (.failIf _ _) .trap .refused fun _ hnew => ?_
  refine Keeps.run_bind_cases (P := P) (.lift _) .trap .refused fun next hnext => ?_
  refine Keeps.run_bind_cases (P := P) (.failIf _ _) .trap .refused fun _ helapsed => ?_
  refine Keeps.run_bind_cases (P := P) (.lift _) .trap .refused fun remaining hremaining => ?_
  have hunsalted : s.read (.instanced (.chargeSalt id)) ≠
      some (env.host.chargeSalt id sub.lastPaymentTimestamp env.sequence) := by
    rw [(run_load_ok.mp hsalt).1]
    exact (run_failIf_ok.mp hfresh).1
  have hunmarked : (s.read (.instanced (.chargedPeriod id))).any
      ((env.now - sub.startTime) / sub.intervalSeconds ≤ ·) = false := by
    rw [(run_load_ok.mp hperiod).1]
    simpa using (run_failIf_ok.mp hnew).1
  split
  · rename_i hexceeds
    have hdue : IntervalDue env s id sub amount :=
      { hclear with
        priced := hpriced
        capLeft := hcap
        unscheduled := hscheduled
        chargeable := hchargeable
        renewing := hrenewing
        interval := (run_require_ok.mp hinterval).1
        freshSalt := hunsalted
        freshPeriod := hunmarked
        elapsed := by
          have hsum := (nextChargeTime_ok.mp (run_lift_ok.mp hnext).1).1
          have hnow := (run_failIf_ok.mp helapsed).1
          omega }
    have hblocks : CapBlocks env s id sub :=
      .inr ⟨amount, remaining, hdue, (run_lift_ok.mp hremaining).1, hexceeds⟩
    refine outcome_of_cancellation (fun t hrun => ?_) fun e t hrun => ?_
    · exact .capped hclear hchargeable.ne_cancelled hblocks hrun
    · exact run_cancelCapped_err hrun
  rename_i hfits
  exact payInterval_outcome
    { hclear with
      priced := hpriced
      capLeft := hcap
      unscheduled := hscheduled
      chargeable := hchargeable
      renewing := hrenewing
      interval := (run_require_ok.mp hinterval).1
      freshSalt := hunsalted
      freshKey := by
        rw [(run_gets_ok.mp hreplayed).1]
        simpa using hunseen
      freshPeriod := hunmarked
      next := (run_lift_ok.mp hnext).1
      elapsed := Nat.not_lt.mp (run_failIf_ok.mp helapsed).1
      fits := ⟨remaining, (run_lift_ok.mp hremaining).1, by simpa using hfits⟩ }

/-- A charge after the checks on the parties. -/
private theorem chargeChecked_outcome (hclear : Cleared env s id sub) :
    IntervalOutcome env s id key ((chargeChecked id sub key none).run env s) := by
  let P := IntervalOutcome env s id key
  refine Keeps.run_bind_cases (P := P) .ask .trap .refused fun env' hask => ?_
  obtain ⟨rfl, -⟩ := run_ask_ok.mp hask
  refine Keeps.run_bind_cases (P := P) (.gets _) .trap .refused fun priced hpriced => ?_
  refine Keeps.run_bind_cases (P := P) (.lift _) .trap .refused fun amount hamount => ?_
  split
  · rename_i hcap
    by_cases hstatus : sub.status = .cancelled
    · rw [run_seq_of_ok (run_when_ok.mpr (.inr ⟨by simp [hstatus], rfl⟩))]
      exact .idle hclear.found (by simp) (fun _ => hstatus) (by simp)
    · refine outcome_of_cancellation (fun t hrun => ?_) fun e t hrun => ?_
      · rcases run_when_ok.mp hrun with ⟨-, hcancel⟩ | ⟨hne, -⟩
        · exact .capped hclear hstatus (.inl hcap) hcancel
        · exact absurd hstatus hne
      · exact run_cancelCapped_err (run_when_err.mp hrun).2
  rename_i hcap
  split
  · rename_i hscheduled
    by_cases hstatus : sub.status = .cancelled
    · have hidle : (fireScheduledCancellation id sub).run env s = .ok () s :=
        run_when_ok.mpr (.inr ⟨by simp [hstatus], rfl⟩)
      rw [run_seq_of_ok hidle]
      exact .idle hclear.found (by simp) (fun _ => hstatus) (by simp)
    · refine outcome_of_cancellation (fun t hrun => ?_) fun e t hrun => ?_
      · exact .cancelled hclear hstatus hscheduled hrun
      · exact run_fireScheduledCancellation_err hrun
  rename_i hscheduled
  refine Keeps.run_bind_cases (P := P) (Modifies.requireChargeable sub) .trap .refused
    fun _ hchargeable => ?_
  refine Keeps.run_bind_cases (P := P) (.lift _) .trap .refused fun closed hclosed => ?_
  split
  · exact .idle hclear.found (by simp) (by simp) (by simp)
  rename_i hopen
  refine chargeInterval_outcome hclear ?_ (by simpa using hcap) (by simpa using hscheduled)
    (isChargeable_of_run hchargeable) ?_
  · exact (run_gets_ok.mp hpriced).1.trans (run_lift_ok.mp hamount).1
  · rw [(run_lift_ok.mp hclosed).1]
    simpa using hopen

/-- The charge ends in one of the listed outcomes. -/
theorem chargeOne_outcome (env : Env) (s : State) (id : Nat) (key : Option BytesN32) :
    IntervalOutcome env s id key ((chargeOne id key none ∅).run env s) := by
  let P := IntervalOutcome env s id key
  refine Keeps.run_bind_cases (P := P) Modifies.requireNotEmergencyStop .trap .refused
    fun _ hopen => ?_
  refine Keeps.run_bind_cases (P := P) (Modifies.getSubscription id) .trap .refused
    fun sub hget => ?_
  refine Keeps.run_bind_cases (P := P) (Modifies.checkMerchantStatus _ _) .trap .refused
    fun _ hmerchant => ?_
  refine Keeps.run_bind_cases (P := P) (Modifies.requireNotBlocklisted _) .trap .refused
    fun _ hsubscriber => ?_
  refine Keeps.run_bind_cases (P := P) (Modifies.requireNotBlocklisted _) .trap .refused
    fun _ hlisted => ?_
  refine Keeps.run_bind_cases (P := P) (Modifies.checkSplitPayees id) .trap .refused
    fun _ hpayees => ?_
  have hadmitted : Admitted env s id sub :=
    { running := (run_requireNotEmergencyStop_ok.mp hopen).1
      found := (run_getSubscription_ok.mp hget).1
      merchantOpen := by simpa using (run_checkMerchantStatus_ok.mp hmerchant).1
      subscriberUnlisted := (run_requireNotBlocklisted_ok.mp hsubscriber).1
      merchantUnlisted := (run_requireNotBlocklisted_ok.mp hlisted).1
      payeesOpen := (run_checkSplitPayees_ok.mp hpayees).1 }
  cases hexpired : (failIfExpired id sub).run env s with
  | trap => exact (run_bind_of_trap hexpired) ▸ .trap
  | err e t =>
    rw [run_bind_of_err hexpired]
    rcases run_failIfExpired_err hexpired with rfl | rfl
    · exact .refused e
    · exact .expired hadmitted hexpired
  | ok _ t =>
    obtain ⟨hunexpired, rfl⟩ := run_failIfExpired_ok.mp hexpired
    rw [run_bind_of_ok hexpired]
    exact chargeChecked_outcome { hadmitted with unexpired := hunexpired }

end Outcomes

end SubscriptionVault
