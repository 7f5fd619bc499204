import SubscriptionVault.Contract.Queries
import SubscriptionVault.Lifecycle.Transactions

/-!
# The forecast of the next charge

The forecast looks at the status of a subscription alone. A charge looks at the renewal flag, the
interval, the marks of earlier charges, the payees and the cap as well, and admits a subscription
that is short of balance. The two agree where the rest of these guards says what the status says.
-/

namespace SubscriptionVault

open Exec

/-- What a forecast is asked about: neither the parties nor a cap, an expiry or a scheduled
cancellation keep the subscription from being charged. -/
structure Billable (env : Env) (s : State) (id : Nat) (sub : Subscription) : Prop where
  found : s.effectiveSubscription id env.now = some sub
  merchantOpen : s.merchantStatus sub.merchant env.now = (false, false)
  subscriberUnlisted : s.isBlocklisted sub.subscriber = false
  merchantUnlisted : s.isBlocklisted sub.merchant = false
  unexpired : sub.isExpired env.now env.sequence = false
  capLeft : sub.capReached = false
  unscheduled : sub.cancelAt.any (· ≤ env.now) = false

/-- The guards of a charge that the forecast leaves out: auto-renewal is on, the charge time fits
its type, the period is not charged yet, nobody paid is closed, and the cap leaves room. -/
structure Unhindered (env : Env) (s : State) (id : Nat) (key : Option BytesN32)
    (sub : Subscription) : Prop where
  running : s.emergencyStop = false
  payeesOpen : ∀ split, s.splitPayees id = some split → ∀ entry ∈ split.entries,
    s.payeeOpen entry.1 env.now
  renews : sub.autoRenew = true
  interval : sub.intervalSeconds ≠ 0
  bounded : sub.lastPaymentTimestamp + sub.intervalSeconds ≤ u64Max
  freshSalt : s.read (.instanced (.chargeSalt id)) ≠
    some (env.host.chargeSalt id sub.lastPaymentTimestamp env.sequence)
  freshKey : s.isReplayedKey env .chargeInterval id key = false
  freshPeriod : (s.read (.instanced (.chargedPeriod id))).any
    ((env.now - sub.startTime) / sub.intervalSeconds ≤ ·) = false
  fits : ∃ amount remaining, s.intervalAmount id env.now sub = .ok amount ∧
    sub.capRemaining = .ok remaining ∧ exceedsRemaining remaining amount = false

/-- The charge gets as far as comparing the amount with the balance. -/
def ReachesBalance (env : Env) (s : State) (id : Nat) (key : Option BytesN32) : Prop :=
  ∃ sub amount nextAllowed, DueCharge env s id key sub amount nextAllowed

/-- The charge agrees with its forecast. -/
structure NextChargeInfo.AgreesWith (info : NextChargeInfo) (env : Env) (s : State) (id : Nat)
    (key : Option BytesN32) : Prop where
  expected : info.nextChargeTimestamp ≤ env.now →
    (info.isChargeExpected = true ↔ ReachesBalance env s id key)
  early : env.now < info.nextChargeTimestamp →
    ((chargeOne id key none ∅).run env s).Leaves (· = s)
  priced : ∀ sub t, s.subscription id = some sub → s.couponForCharge id = none →
    sub.prorationEnabled = false → s.isReplayedKey env .chargeInterval id key = false →
    (chargeOne id key none ∅).run env s = .ok .charged t →
    ∃ new, t.subscription id = some new ∧
      new.prepaidBalance = sub.prepaidBalance - info.amount

section Agreement

variable {env : Env} {s : State} {id now : Nat} {key : Option BytesN32} {sub told : Subscription}

/-! ## Readings at two times -/

/-- A stored subscription reads chargeable if and only if it is stored so. -/
theorem State.effective_chargeable {stored : Subscription}
    (hstored : s.subscription id = some stored)
    (hfound : s.effectiveSubscription id now = some sub) :
    sub = { stored with status := sub.status } ∧ (sub.isChargeable ↔ stored.isChargeable) := by
  unfold State.effectiveSubscription at hfound
  rw [hstored, Option.map_some] at hfound
  have hsub := Option.some.inj hfound
  split at hsub
  · rename_i hended
    subst hsub
    exact ⟨rfl, by simp [Subscription.isChargeable, hended.1]⟩
  · subst hsub
    exact ⟨rfl, Iff.rfl⟩

/-- Two readings differ only in whether a grace period has ended. -/
theorem State.effective_differ (htold : s.effectiveSubscription id now = some told)
    (hfound : s.effectiveSubscription id env.now = some sub) :
    sub = { told with status := sub.status } ∧ (sub.isChargeable ↔ told.isChargeable) := by
  obtain ⟨stored, hstored, -⟩ := State.effectiveSubscription_eq_some htold
  obtain ⟨htold, htoldChargeable⟩ := State.effective_chargeable hstored htold
  obtain ⟨hsub, hchargeable⟩ := State.effective_chargeable hstored hfound
  refine ⟨?_, hchargeable.trans htoldChargeable.symm⟩
  rw [htold]
  exact hsub

/-! ## Admission -/

theorem Billable.due_iff (h : Billable env s id sub)
    (hnext : saturatingAddU64 sub.lastPaymentTimestamp sub.intervalSeconds ≤ env.now) :
    ReachesBalance env s id key ↔ sub.isChargeable ∧ Unhindered env s id key sub := by
  constructor
  · rintro ⟨sub', amount, nextAllowed, hdue⟩
    obtain rfl := Option.some.inj (hdue.found.symm.trans h.found)
    obtain ⟨hsum, hbounded⟩ := nextChargeTime_ok.mp hdue.next
    obtain ⟨remaining, hremaining, hfits⟩ := hdue.fits
    have hrenews : sub'.autoRenew = true := by
      cases hoff : sub'.autoRenew with
      | true => rfl
      | false =>
        have hrenewing := hdue.renewing
        unfold Subscription.renewalClosed at hrenewing
        rw [hoff, hdue.next] at hrenewing
        have helapsed := hdue.elapsed
        simp [Except.map, helapsed] at hrenewing
    exact ⟨hdue.chargeable,
      { running := hdue.running
        payeesOpen := hdue.payeesOpen
        renews := hrenews
        interval := hdue.interval
        bounded := hbounded
        freshSalt := hdue.freshSalt
        freshKey := hdue.freshKey
        freshPeriod := hdue.freshPeriod
        fits := ⟨amount, remaining, hdue.priced, hremaining, hfits⟩ }⟩
  · rintro ⟨hchargeable, hunhindered⟩
    obtain ⟨amount, remaining, hpriced, hremaining, hfits⟩ := hunhindered.fits
    have hbounded := hunhindered.bounded
    refine ⟨sub, amount, sub.lastPaymentTimestamp + sub.intervalSeconds, ?_⟩
    exact
      { h with
        running := hunhindered.running
        payeesOpen := hunhindered.payeesOpen
        priced := hpriced
        chargeable := hchargeable
        renewing := by
          unfold Subscription.renewalClosed
          rw [if_pos hunhindered.renews]
        interval := hunhindered.interval
        freshSalt := hunhindered.freshSalt
        freshKey := hunhindered.freshKey
        freshPeriod := hunhindered.freshPeriod
        next := nextChargeTime_ok.mpr ⟨rfl, hbounded⟩
        elapsed := by
          unfold saturatingAddU64 at hnext
          omega
        fits := ⟨remaining, hremaining, hfits⟩ }

/-! ## Early charges -/

/-- A charge before the forecast time changes nothing. -/
theorem Billable.early_leaves (h : Billable env s id sub)
    (hearly : env.now < saturatingAddU64 sub.lastPaymentTimestamp sub.intervalSeconds) :
    ((chargeOne id key none ∅).run env s).Leaves (· = s) := by
  have hbefore : env.now < sub.lastPaymentTimestamp + sub.intervalSeconds := by
    unfold saturatingAddU64 at hearly
    omega
  have hundue {sub' : Subscription} {amount : Int} (hdue : IntervalDue env s id sub' amount) :
      False := by
    obtain rfl := Option.some.inj (hdue.found.symm.trans h.found)
    exact absurd hdue.elapsed (Nat.not_le.mpr hbefore)
  have houtcome := chargeOne_outcome env s id key
  cases hrun : (chargeOne id key none ∅).run env s with
  | trap => trivial
  | ok result t =>
    rw [hrun] at houtcome
    show t = s
    cases houtcome with
    | idle => rfl
    | capped hclear _ hblocks _ =>
      obtain rfl := Option.some.inj (hclear.found.symm.trans h.found)
      rcases hblocks with hreached | ⟨_, _, hdue, -⟩
      · rw [h.capLeft] at hreached
        cases hreached
      · exact (hundue hdue).elim
    | cancelled hclear _ hscheduled _ =>
      obtain rfl := Option.some.inj (hclear.found.symm.trans h.found)
      rw [h.unscheduled] at hscheduled
      cases hscheduled
    | short hdue _ _ => exact (hundue hdue.intervalDue).elim
    | settled hdue _ _ _ _ => exact (hundue hdue.intervalDue).elim
  | err e t =>
    rw [hrun] at houtcome
    show t = s
    cases houtcome with
    | refused => rfl
    | expired hadmitted hexpired =>
      obtain rfl := Option.some.inj (hadmitted.found.symm.trans h.found)
      rw [(run_failIfExpired_ok (u := ())).mpr ⟨h.unexpired, rfl⟩] at hexpired
      cases hexpired
    | unsettled hdue _ _ _ _ => exact (hundue hdue.intervalDue).elim

/-! ## Amounts -/

/-- Without coupon and proration an interval costs what the subscription says. -/
theorem State.intervalAmount_plain (hcoupon : s.couponForCharge id = none)
    (hplain : sub.prorationEnabled = false) : s.intervalAmount id now sub = .ok sub.amount := by
  unfold State.intervalAmount State.payableAfterCoupon
  rw [hcoupon]
  simp [hplain]

theorem chargeOne_debits {t : State} (htold : s.subscription id = some told)
    (hcoupon : s.couponForCharge id = none) (hplain : told.prorationEnabled = false)
    (hfresh : s.isReplayedKey env .chargeInterval id key = false)
    (hrun : (chargeOne id key none ∅).run env s = .ok .charged t) :
    ∃ new, t.subscription id = some new ∧
      new.prepaidBalance = told.prepaidBalance - told.amount := by
  obtain ⟨sub, new, amount, hdue, hsettled, hbook⟩ := chargeOne_charged hfresh hrun
  obtain ⟨stored, hstored, hsub⟩ := State.effectiveSubscription_eq_some hdue.found
  obtain rfl := Option.some.inj (hstored.symm.trans htold)
  have hamount : amount = sub.amount := by
    have hpriced := hdue.priced
    rw [State.intervalAmount_plain hcoupon (by rw [hsub]; exact hplain)] at hpriced
    exact (Except.ok.inj hpriced).symm
  refine ⟨new, ?_, ?_⟩
  · show t.book.record id = some new
    rw [hbook]
    exact Function.update_self _ _ _
  · rw [hsettled.2, hamount, hsub]

/-! ## Agreement -/

/-- A forecast made at any time is right about a charge exactly when the charge comes early or
the guards it leaves out decide as the status does: nothing else stands in the way of a
subscription that is active or in its grace period, and something does for one that is short of
balance. -/
theorem forecast_right_iff (htold : s.effectiveSubscription id now = some told)
    (hbillable : Billable env s id sub) :
    (computeNextChargeInfo s told).AgreesWith env s id key ↔
      (saturatingAddU64 told.lastPaymentTimestamp told.intervalSeconds ≤ env.now →
        (told.status = .active ∨ told.status = .gracePeriod → Unhindered env s id key sub) ∧
        (told.status = .insufficientBalance → ¬ Unhindered env s id key sub)) := by
  obtain ⟨hsame, hchargeable⟩ := State.effective_differ htold hbillable.found
  have hnext : saturatingAddU64 sub.lastPaymentTimestamp sub.intervalSeconds =
      saturatingAddU64 told.lastPaymentTimestamp told.intervalSeconds := by
    rw [hsame]
  constructor
  · intro hagrees hdue
    have hreaches := (hagrees.expected hdue).trans (hbillable.due_iff (hnext.le.trans hdue))
    constructor
    · intro hstatus
      have hexpected : told.status.chargeExpected = true := by
        rcases hstatus with h | h <;> rw [h] <;> rfl
      exact (hreaches.mp hexpected).2
    · intro hstatus hunhindered
      have hexpected : told.status.chargeExpected = true :=
        hreaches.mpr ⟨hchargeable.mpr (.inr (.inr hstatus)), hunhindered⟩
      rw [hstatus] at hexpected
      cases hexpected
  · intro h
    refine ⟨fun hdue => ?_, fun hearly => ?_, fun stored t hstored hcoupon hplain hfresh hrun => ?_⟩
    · obtain ⟨hopen, hshort⟩ := h hdue
      rw [hbillable.due_iff (hnext.le.trans hdue), hchargeable]
      show told.status.chargeExpected = true ↔ _
      unfold Subscription.isChargeable
      cases hstatus : told.status with
      | active => simp [SubscriptionStatus.chargeExpected, hopen (.inl hstatus)]
      | gracePeriod => simp [SubscriptionStatus.chargeExpected, hopen (.inr hstatus)]
      | insufficientBalance => simp [SubscriptionStatus.chargeExpected, hshort hstatus]
      | paused => simp [SubscriptionStatus.chargeExpected]
      | cancelled => simp [SubscriptionStatus.chargeExpected]
      | expired => simp [SubscriptionStatus.chargeExpected]
      | archived => simp [SubscriptionStatus.chargeExpected]
    · exact hbillable.early_leaves (hearly.trans_eq hnext.symm)
    · obtain ⟨stored', hstored', hread⟩ := State.effectiveSubscription_eq_some htold
      obtain rfl := Option.some.inj (hstored'.symm.trans hstored)
      have hamount : (computeNextChargeInfo s told).amount = stored'.amount := by
        show told.amount = _
        rw [hread]
      rw [hamount]
      exact chargeOne_debits hstored hcoupon hplain hfresh hrun

end Agreement

/-! ## Forecasts of sample subscriptions -/

/-- Nothing is recorded of earlier charges. -/
private theorem unhindered_of_fresh {env : Env} {s : State} {sub : Subscription}
    (hrunning : s.emergencyStop = false) (hpayees : s.splitPayees 0 = none)
    (hrenews : sub.autoRenew = true)
    (hinterval : sub.intervalSeconds ≠ 0 ∧
      sub.lastPaymentTimestamp + sub.intervalSeconds ≤ u64Max)
    (hsalt : s.read (.instanced (.chargeSalt 0)) = none)
    (hperiod : s.read (.instanced (.chargedPeriod 0)) = none)
    (hpriced : s.intervalAmount 0 env.now sub = .ok sub.amount) (hcap : sub.lifetimeCap = none) :
    Unhindered env s 0 none sub where
  running := hrunning
  payeesOpen := by
    intro split hsplit
    rw [hpayees] at hsplit
    cases hsplit
  renews := hrenews
  interval := hinterval.1
  bounded := hinterval.2
  freshSalt := by
    rw [hsalt]
    exact nofun
  freshKey := rfl
  freshPeriod := by
    rw [hperiod]
    rfl
  fits := by
    refine ⟨sub.amount, none, hpriced, ?_, rfl⟩
    unfold Subscription.capRemaining
    rw [hcap]

/-- Paid for. -/
private def paidAhead : List (Env × VaultCall) :=
  [(sampleEnv 1 [⟨2⟩], .depositFunds 0 100 none),
   (sampleEnv 0 [⟨2⟩], .createSubscription sampleRequest)]

theorem paid_ahead_agrees : ∃ (hist : History Transaction State) (s : State) (sub : Subscription),
    Run Transacts (sampleStart 0) hist s ∧ s.effectiveSubscription 0 1 = some sub ∧
    (computeNextChargeInfo s sub).isChargeExpected = true ∧
    (computeNextChargeInfo s sub).AgreesWith (sampleEnv 60 []) s 0 none := by
  let u := stateAfter (afterCalls (sampleVault 0)) paidAhead
  let sub := { sampleRequest.record none 0 0 with prepaidBalance := 100 }
  have hrun := run_transactions (sample_transacted 0)
    (show allSucceed (afterCalls (sampleVault 0)) paidAhead = true by decide +kernel)
  have hbillable : Billable (sampleEnv 60 []) u 0 sub :=
    ⟨by decide +kernel, by decide +kernel, by decide +kernel, by decide +kernel, by decide,
      by decide, by decide⟩
  have hunhindered : Unhindered (sampleEnv 60 []) u 0 none sub :=
    unhindered_of_fresh (by decide +kernel) (by decide +kernel) rfl (by decide)
      (by decide +kernel) (by decide +kernel) (by decide +kernel) rfl
  have htold : u.effectiveSubscription 0 1 = some sub := by decide +kernel
  refine ⟨_, u, sub, hrun, htold, rfl, ?_⟩
  exact (forecast_right_iff htold hbillable).mpr fun _ => ⟨fun _ => hunhindered, nofun⟩

/-- Paid for, but not renewing any more. -/
private def unrenewed : List (Env × VaultCall) :=
  (sampleEnv 2 [⟨2⟩], .setAutoRenew 0 ⟨2⟩ false) :: paidAhead

/-- A charge found no balance. -/
private def unpaid : List (Env × VaultCall) :=
  [(sampleEnv 60 [⟨2⟩], .chargeSubscription 0 none),
   (sampleEnv 0 [⟨2⟩], .createSubscription sampleRequest)]

/-- A charge of a subscription that does not renew is expected and none gets through; a charge of
one that is short of balance gets through and none is expected. -/
theorem forecasts_go_wrong : ∃ (hist hist' : History Transaction State) (s s' : State)
    (sub sub' : Subscription),
    (Run Transacts (sampleStart 0) hist s ∧ Billable (sampleEnv 60 []) s 0 sub ∧
      (computeNextChargeInfo s sub).isChargeExpected = true ∧
      ¬ReachesBalance (sampleEnv 60 []) s 0 none ∧
      ¬(computeNextChargeInfo s sub).AgreesWith (sampleEnv 60 []) s 0 none) ∧
    Run Transacts (sampleStart 0) hist' s' ∧ Billable (sampleEnv 61 []) s' 0 sub' ∧
      (computeNextChargeInfo s' sub').isChargeExpected = false ∧
      ReachesBalance (sampleEnv 61 []) s' 0 none ∧
      ¬(computeNextChargeInfo s' sub').AgreesWith (sampleEnv 61 []) s' 0 none := by
  let u := stateAfter (afterCalls (sampleVault 0)) unrenewed
  let v := stateAfter (afterCalls (sampleVault 0)) unpaid
  let off :=
    { sampleRequest.record none 0 0 with
      prepaidBalance := 100, autoRenew := false, autoRenewDisabledAt := some 2 }
  let short := { sampleRequest.record none 0 0 with status := .insufficientBalance }
  have hrun := run_transactions (sample_transacted 0)
    (show allSucceed (afterCalls (sampleVault 0)) unrenewed = true by decide +kernel)
  have hrun' := run_transactions (sample_transacted 0)
    (show allSucceed (afterCalls (sampleVault 0)) unpaid = true by decide +kernel)
  have hoff : Billable (sampleEnv 60 []) u 0 off :=
    ⟨by decide +kernel, by decide +kernel, by decide +kernel, by decide +kernel, by decide,
      by decide, by decide⟩
  have hshort : Billable (sampleEnv 61 []) v 0 short :=
    ⟨by decide +kernel, by decide +kernel, by decide +kernel, by decide +kernel, by decide,
      by decide, by decide⟩
  have hskipped : ¬ReachesBalance (sampleEnv 60 []) u 0 none := by
    rw [hoff.due_iff (by decide)]
    rintro ⟨-, hunhindered⟩
    exact absurd hunhindered.renews (by decide)
  have hattempted : ReachesBalance (sampleEnv 61 []) v 0 none := by
    refine (hshort.due_iff (by decide)).mpr ⟨.inr (.inr rfl), ?_⟩
    exact unhindered_of_fresh (by decide +kernel) (by decide +kernel) rfl (by decide)
      (by decide +kernel) (by decide +kernel) (by decide +kernel) rfl
  refine ⟨_, _, u, v, off, short, ⟨hrun, hoff, rfl, hskipped, fun hagrees => ?_⟩, hrun', hshort,
    rfl, hattempted, fun hagrees => ?_⟩
  · exact hskipped ((hagrees.expected (by decide)).mp rfl)
  · exact absurd ((hagrees.expected (by decide)).mpr hattempted) (by decide)

end SubscriptionVault
