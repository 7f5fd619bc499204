import SubscriptionVault.Contract.Queries
import SubscriptionVault.Lifecycle.GraceClock

/-!
# Grace episodes

An episode starts with the attempt to charge that finds the balance too low, and its clock shows
the time of that attempt as long as the grace period is stored. The steps after which the clock
is right again are those that pay, those that leave a running grace period alone, and those that
do not meet one.
-/

namespace SubscriptionVault

open Exec

/-! ## Charges -/

/-- Status and clock are as before, or there are none any more. -/
def ClockKept (id : Nat) (s t : State) : Prop :=
  ∀ new, t.subscription id = some new →
    new.Unclocked ∨ ∃ old, s.subscription id = some old ∧ old.SameClock new

/-- A grace period starts now. -/
structure GraceStarted (env : Env) (id : Nat) (s t : State) : Prop where
  outside : ∀ old, s.subscription id = some old → old.status ≠ .gracePeriod
  starts : ∃ new, t.subscription id = some new ∧ new.status = .gracePeriod ∧
    new.graceStartTimestamp = some env.now

/-- A charge ends the subscription without being paid, because of its expiry, its cap or its
scheduled cancellation. -/
def ChargeHalts (env : Env) (s : State) (id : Nat) (key : Option BytesN32) : Prop :=
  ∃ sub, Admitted env s id sub ∧ (sub.isExpired env.now env.sequence = true ∨
    ∃ amount, s.intervalAmount id env.now sub = .ok amount ∧
      (sub.capReached = true ∨ sub.cancelAt.any (· ≤ env.now) = true ∨
        s.isReplayedKey env .chargeInterval id key = false ∧ ∃ remaining,
          IntervalDue env s id sub amount ∧ sub.capRemaining = .ok remaining ∧
            exceedsRemaining remaining amount = true))

section Charges

variable {env : Env} {s t u : State} {id : Nat} {key : Option BytesN32} {sub : Subscription}
  {result : ChargeExecutionResult}

theorem ClockKept.of_same (h : t.subscription id = s.subscription id) : ClockKept id s t :=
  fun new hnew => .inr ⟨new, h ▸ hnew, rfl, rfl⟩

theorem ClockKept.of_unclocked (h : WritesUnclocked s t) : ClockKept id s t := by
  intro new hnew
  rcases h id new hnew with hkept | hfree
  · exact .inr ⟨new, hkept, rfl, rfl⟩
  · exact .inl hfree

theorem subscription_of_set {new : Subscription} (h : t.book = s.book.setRecord id new) :
    t.subscription id = some new := by
  have hrecord : t.subscription id = (s.book.setRecord id new).record id :=
    congrFun (congrArg Book.record h) id
  exact hrecord.trans (Function.update_self _ _ _)

theorem ClockKept.of_set {new : Subscription} (h : t.book = s.book.setRecord id new)
    (hnew : new.Unclocked) : ClockKept id s t := by
  intro found hfound
  obtain rfl := Option.some.inj ((subscription_of_set h).symm.trans hfound)
  exact .inl hnew

/-- What is read outside a grace period is what is stored. -/
theorem unclocked_of_read (hreads : s.book.Reads id sub)
    (hfits : ∀ stored, s.subscription id = some stored → stored.ClockFits)
    (hother : ∀ stored, s.subscription id = some stored → stored.status ≠ .gracePeriod) :
    s.subscription id = some sub ∧ sub.Unclocked := by
  obtain ⟨stored, hstored, rfl | ⟨hgrace, -⟩⟩ := hreads
  · exact ⟨hstored, (hfits sub hstored).unclocked (hother sub hstored)⟩
  · exact absurd hgrace (hother stored hstored)

/-- A charge that reaches the cap or the scheduled end was priced, and was no replay unless it
was stopped before the key was looked at. -/
theorem charge_stopped (hrun : (chargeOne id key none ∅).run env s = .ok result t)
    (hresult : result = .lifetimeCapReached ∨ result = .scheduledCancellation) :
    ∃ sub amount, s.effectiveSubscription id env.now = some sub ∧
      s.intervalAmount id env.now sub = .ok amount ∧
      (sub.capReached = true ∨ sub.cancelAt.any (· ≤ env.now) = true ∨
        s.isReplayedKey env .chargeInterval id key = false) := by
  obtain ⟨sub, hclear, hrun⟩ := run_parties_ok hrun
  obtain ⟨_, hask, hrun⟩ := run_check_ok .ask hrun
  obtain ⟨rfl, -⟩ := run_ask_ok.mp hask
  obtain ⟨_, hpriced, hrun⟩ := run_check_ok (.gets _) hrun
  obtain ⟨rfl, -⟩ := run_gets_ok.mp hpriced
  obtain ⟨amount, hamount, hrun⟩ := run_check_ok (.lift _) hrun
  refine ⟨sub, amount, hclear.found, (run_lift_ok.mp hamount).1, ?_⟩
  split at hrun
  · rename_i hcap
    exact .inl hcap
  split at hrun
  · rename_i hend
    exact .inr (.inl hend)
  obtain ⟨_, -, hrun⟩ := run_check_ok (Modifies.requireChargeable _) hrun
  obtain ⟨closed, -, hrun⟩ := run_check_ok (.lift _) hrun
  split at hrun
  · obtain ⟨rfl, -⟩ := run_pure_ok.mp hrun
    rcases hresult with h | h <;> cases h
  obtain ⟨_, hask, hrun⟩ := run_check_ok .ask hrun
  obtain ⟨rfl, -⟩ := run_ask_ok.mp hask
  obtain ⟨_, -, hrun⟩ := run_check_ok (.require _) hrun
  obtain ⟨_, -, hrun⟩ := run_check_ok Modifies.load hrun
  obtain ⟨_, -, hrun⟩ := run_check_ok (.failIf _ _) hrun
  obtain ⟨replayed, hreplayed, hrun⟩ := run_check_ok (.gets _) hrun
  obtain ⟨rfl, -⟩ := run_gets_ok.mp hreplayed
  split at hrun
  · obtain ⟨rfl, -⟩ := run_pure_ok.mp hrun
    rcases hresult with h | h <;> cases h
  · rename_i hfresh
    exact .inr (.inr (Bool.eq_false_iff.mpr hfresh))

/-- A recorded shortfall starts a grace period, stays in one, or leaves none. -/
theorem recordShortfall_clock {amount : Int} {next : Nat} {v : Unit}
    (hfits : ∀ stored, s.subscription id = some stored → stored.ClockFits)
    (hdue : DueCharge env s id key sub amount next)
    (hrun : (recordShortfall id sub none).run env s = .ok v t) :
    ClockKept id s t ∨ GraceStarted env id s t := by
  obtain ⟨grace, short, hgrace, hshort, rfl⟩ := run_recordShortfall_ok.mp hrun
  obtain ⟨hopen, rfl⟩ := (underfunded_ok hgrace hdue.found hdue.chargeable).mp hshort
  have hrecord := s.subscription_withShortfall id (sub.fallenBehind grace env.now)
  have hzero (h : sub.status ≠ .gracePeriod) (hnone : ¬0 < grace) :
      ClockKept id s (s.withShortfall id (sub.fallenBehind grace env.now)) := by
    intro new hnew
    have hbehind : sub.fallenBehind grace env.now =
        { sub with status := .insufficientBalance, graceStartTimestamp := none } := by
      unfold Subscription.fallenBehind
      rw [if_neg h, if_neg hnone]
    rw [hbehind] at hrecord hnew
    obtain rfl := Option.some.inj (hrecord.symm.trans hnew)
    left
    split
    · exact ⟨nofun, rfl⟩
    · exact ⟨nofun, rfl⟩
  obtain ⟨stored, hstored, hcases⟩ := effectiveSubscription_cases hgrace hdue.found
  rcases hdue.chargeable with hactive | hrunning | hinsufficient
  · have hne : sub.status ≠ .gracePeriod := by
      rw [hactive]
      nofun
    by_cases hpos : 0 < grace
    · right
      have hbehind : sub.fallenBehind grace env.now =
          { sub with status := .gracePeriod, graceStartTimestamp := some env.now } := by
        unfold Subscription.fallenBehind
        rw [if_neg hne, if_pos hpos]
      rw [hbehind, if_neg (fun h => nomatch h.2.1)] at hrecord
      refine ⟨fun old hold hstatus => ?_, hbehind ▸ ⟨_, hrecord, rfl, rfl⟩⟩
      obtain rfl := Option.some.inj (hstored.symm.trans hold)
      rcases hcases with ⟨-, rfl⟩ | ⟨-, rfl⟩
      · cases hactive
      · exact hne hstatus
    · exact .inl (hzero hne hpos)
  · left
    have hsame : sub = stored := by
      rcases hcases with ⟨-, rfl⟩ | ⟨-, hsame⟩
      · cases hrunning
      · exact hsame
    subst hsame
    obtain ⟨start, hstart⟩ := Option.isSome_iff_exists.mp ((hfits sub hstored).mpr hrunning)
    intro new hnew
    have hset : sub.graceStartTimestamp.or (some env.now) = sub.graceStartTimestamp := by
      rw [hstart]
      rfl
    have hbehind : sub.fallenBehind grace env.now = sub := by
      unfold Subscription.fallenBehind
      rw [if_pos hrunning, hset]
    have hother : sub.status ≠ .insufficientBalance := by
      rw [hrunning]
      nofun
    rw [hbehind, if_neg fun h => hother h.2.1] at hrecord
    rw [hbehind] at hnew
    obtain rfl := Option.some.inj (hrecord.symm.trans hnew)
    exact .inr ⟨_, hstored, rfl, rfl⟩
  · have hne : sub.status ≠ .gracePeriod := by
      rw [hinsufficient]
      nofun
    exact .inl (hzero hne fun hpos => hopen hpos hinsufficient)

/-- What an attempt does to the clock when it is not one that halts a grace period. -/
theorem chargeOne_clock (env : Env) (s : State) (id : Nat) (key : Option BytesN32)
    (hfits : ∀ stored, s.subscription id = some stored → stored.ClockFits)
    (hspared : ∀ stored, s.subscription id = some stored → stored.status = .gracePeriod →
      ¬ChargeHalts env s id key) :
    ((chargeOne id key none ∅).run env s).Leaves (ClockKept id s) ∨
      ∃ t, (chargeOne id key none ∅).run env s = .ok .insufficientBalance t ∧
        GraceStarted env id s t := by
  have hquiet (hhalts : ChargeHalts env s id key) {sub : Subscription}
      (hreads : s.book.Reads id sub) : sub.Unclocked :=
    (unclocked_of_read hreads hfits fun stored hstored hgrace =>
      hspared stored hstored hgrace hhalts).2
  have hactive {sub : Subscription} {amount : Int} {next : Nat}
      (hdue : DueCharge env s id key sub amount next) :
      sub.status = .active → sub.graceStartTimestamp = none := by
    intro hstatus
    obtain ⟨stored, hstored, rfl | ⟨-, rfl⟩⟩ := Book.reads_of_effective hdue.found
    · exact ((hfits sub hstored).unclocked (by rw [hstatus]; nofun)).clock
    · cases hstatus
  have houtcome := chargeOne_outcome env s id key
  cases hrun : (chargeOne id key none ∅).run env s with
  | trap => exact .inl trivial
  | err e t =>
    left
    show ClockKept id s t
    rw [hrun] at houtcome
    cases houtcome with
    | refused => exact .of_same rfl
    | expired hadmitted hexpired =>
      rcases failIfExpired_book hexpired with hbook | ⟨hover, -, hbook⟩
      · exact .of_same (congrFun (congrArg Book.record hbook) id)
      · have hfree := hquiet ⟨_, hadmitted, .inl hover⟩ (Book.reads_of_effective hadmitted.found)
        exact .of_set hbook ⟨nofun, hfree.clock⟩
    | unsettled hdue hbalance hperiod hsalt hsettle =>
      exact .of_unclocked
        ((settleInterval_unclocked hdue.chargeable (hactive hdue)).err hsettle)
  | ok result t =>
    rw [hrun] at houtcome
    cases houtcome with
    | idle => exact .inl (.of_same rfl)
    | capped hclear hstatus hblocks hcancel =>
      left
      obtain ⟨-, hbook⟩ := cancelCapped_book hcancel
      obtain ⟨sub, amount, hfound, hpriced, hstop⟩ := charge_stopped hrun (.inl rfl)
      obtain rfl := Option.some.inj (hclear.found.symm.trans hfound)
      have hhalts : ChargeHalts env s id key := by
        refine ⟨_, hclear.admitted, .inr ⟨amount, hpriced, ?_⟩⟩
        rcases hblocks with hcap | ⟨amount', remaining, hdue, hremaining, hexceeds⟩
        · exact .inl hcap
        · obtain rfl := Except.ok.inj (hpriced.symm.trans hdue.priced)
          rcases hstop with h | h | hfresh
          · exact .inl h
          · exact .inr (.inl h)
          · exact .inr (.inr ⟨hfresh, remaining, hdue, hremaining, hexceeds⟩)
      have hfree := hquiet hhalts (Book.reads_of_effective hclear.found)
      exact .of_set hbook ⟨nofun, hfree.clock⟩
    | cancelled hclear hstatus hdue hfire =>
      left
      obtain ⟨-, hbook⟩ := fireScheduledCancellation_book hstatus hfire
      obtain ⟨sub, amount, hfound, hpriced, -⟩ := charge_stopped hrun (.inr rfl)
      obtain rfl := Option.some.inj (hclear.found.symm.trans hfound)
      have hfree := hquiet ⟨_, hclear.admitted, .inr ⟨amount, hpriced, .inr (.inl hdue)⟩⟩
        (Book.reads_of_effective hclear.found)
      exact .of_set hbook ⟨nofun, hfree.clock⟩
    | short hdue hbalance hshort =>
      rcases recordShortfall_clock hfits hdue hshort with hkept | hstarted
      · exact .inl hkept
      · exact .inr ⟨t, rfl, hstarted⟩
    | settled hdue hbalance hperiod hsalt hsettle =>
      exact .inl (.of_unclocked
        ((settleInterval_unclocked hdue.chargeable (hactive hdue)).ok hsettle))

end Charges

/-! ## Steps -/

/-- The record of `id` is written back as it was read, with other parts changed. -/
def Operation.edits (id : Nat) : Operation → Prop
  | .deposit j | .edit j | .pause j | .replan j _ | .transfer j _ => j = id
  | _ => False

/-- The status of `id` is replaced, and the clock is not looked at. -/
def Operation.replaces (id : Nat) : Operation → Prop
  | .resume j | .cancel j | .archive j => j = id
  | _ => False

/-- The deposit covers the next charge, and makes the subscription active again. -/
def VaultAction.Recovers (stored : Subscription) : VaultAction → Prop
  | .call _ (.depositFundsOnBehalf _ _ amount _) => stored.amount ≤ stored.prepaidBalance + amount
  | _ => False

/-- Only the entries of a list can fail and be part of a run. -/
def VaultAction.Works : VaultAction → State → Prop
  | .item env entry, s => ∃ t, entry.exec.run env s = .ok () t
  | .call _ _, _ | .other _, _ => True

/-- A grace period is not broken off with its clock still set, and none comes without one. -/
structure VaultAction.SparesGrace (id : Nat) (l : VaultAction) (s : State) : Prop where
  restores : ∀ summaries, l.operation = .restore summaries → ∀ summary ∈ summaries,
    summary.subscriptionId = id → summary.status ≠ .gracePeriod
  replaces : l.Works s → l.operation.replaces id →
    ∀ stored, s.subscription id = some stored → stored.status ≠ .gracePeriod
  edits : l.Works s → l.operation.edits id → ∀ stored, s.subscription id = some stored →
    ¬stored.graceLapsed s.graceSeconds l.env.now ∨ l.Recovers stored
  charges : ∀ key, l.attempts id = some key → ChargeHalts l.env s id key →
    ∀ stored, s.subscription id = some stored → stored.status ≠ .gracePeriod

/-- The attempt to charge starts a grace period. -/
def VaultAction.StartsGrace (id : Nat) (l : VaultAction) (s : State) : Prop :=
  ∃ key t, l.attempts id = some key ∧
    (chargeOne id key none ∅).run l.env s = .ok .insufficientBalance t ∧
      GraceStarted l.env id s t

section Steps

variable {env : Env} {s t : State} {id : Nat} {l : VaultAction} {call : VaultCall}
  {stored old : Subscription} {grace : Nat}

theorem VaultCall.keepsClock (hticks : old.Ticks grace env.now)
    (hop : call.operation.edits id) : KeepsClock env old grace id call.exec := by
  cases call
  case depositFunds j amount nonce =>
    obtain rfl : j = id := hop
    exact .guarded (doDepositFunds_clock hticks _ _)
  case depositFundsOnBehalf j payer amount nonce =>
    obtain rfl : j = id := hop
    exact .guarded (doDepositFundsOnBehalf_clock hticks _ _ _)
  case scheduleCancel j authorizer cancelAt =>
    obtain rfl : j = id := hop
    exact .locked (doScheduleCancel_clock hticks _ _)
  case unscheduleCancel j authorizer =>
    obtain rfl : j = id := hop
    exact .locked (doUnscheduleCancel_clock hticks _)
  case setAutoRenew j authorizer enabled =>
    obtain rfl : j = id := hop
    exact doSetAutoRenew_clock hticks _ _
  case setSubscriptionExpiryLedger j authorizer expiresAtLedger =>
    obtain rfl : j = id := hop
    exact doSetSubscriptionExpirationLedger_clock hticks _ _
  case updateSubscriptionCap admin j newCap =>
    obtain rfl : j = id := hop
    exact doUpdateSubscriptionCap_clock hticks _ _
  case withdrawSubscriberFunds j subscriber =>
    obtain rfl : j = id := hop
    exact .locked (doWithdrawSubscriberFunds_clock hticks _)
  case finalizeEmergencyWithdraw j subscriber =>
    obtain rfl : j = id := hop
    exact .locked (doFinalizeEmergencyWithdraw_clock hticks _)
  case partialRefund admin j subscriber amount =>
    obtain rfl : j = id := hop
    exact .guarded (doPartialRefund_clock hticks _ _ _)
  case pauseSubscription j authorizer =>
    obtain rfl : j = id := hop
    exact .check (Modifies.getSubscription _) fun _ => doPauseSubscription_clock hticks _
  case migrateSubscriptionToPlan subscriber j newPlanId =>
    obtain rfl : j = id := hop
    exact doMigrateSubscriptionToPlan_clock hticks _ _
  case acceptTransfer j receiver =>
    obtain rfl : j = id := hop
    exact .locked (doAcceptTransfer_clock hticks _)
  all_goals exact hop.elim

theorem BulkItem.keepsClock {item : BulkItem} (hticks : old.Ticks grace env.now)
    (hop : item.operation.edits id) : KeepsClock env old grace id item.exec := by
  cases item with
  | deposit caller j amount =>
    obtain rfl : j = id := hop
    exact bulkDepositOne_clock hticks _ _
  | pause j =>
    obtain rfl : j = id := hop
    exact bulkPauseOne_clock hticks
  | charge | cancel => exact hop.elim

theorem KeepsClock.clockKept {x : Vault Unit} (hx : KeepsClock env old s.graceSeconds id x)
    (hold : s.subscription id = some old) (hrun : x.run env s = .ok () t) : ClockKept id s t := by
  have hbefore : ClockedLike old s.graceSeconds id s := by
    refine ⟨rfl, fun sub hsub => ?_⟩
    obtain rfl := Option.some.inj (hold.symm.trans hsub)
    exact .inl ⟨rfl, rfl⟩
  intro new hnew
  rcases (hx s () t hbefore hrun).1.record new hnew with hsame | hfree
  · exact .inr ⟨old, hold, hsame⟩
  · exact .inl hfree

/-- A deposit on behalf that covers the next charge clears the clock. -/
theorem onBehalf_clock {payer : Address} {amount : Int} {nonce : Option Nat}
    (hold : s.subscription id = some old)
    (hlapsed : old.status = .gracePeriod) (hcovers : old.amount ≤ old.prepaidBalance + amount)
    (hrun : (VaultCall.depositFundsOnBehalf id payer amount nonce).exec.run env s = .ok () t) :
    ClockKept id s t := by
  obtain ⟨m, hbody, hbook⟩ := run_locked_ok (run_guardedCall_ok.mp hrun).2
  obtain ⟨sub, hdeposits, hafter⟩ := doDepositFundsOnBehalf_deposits hbody
  rw [State.book_lock, ← hbook] at hafter
  have hreads : s.book.Reads id sub := hdeposits.of_lock.reads
  obtain ⟨stored, hstored, hsub⟩ := hreads
  have hstored : s.subscription id = some stored := hstored
  obtain rfl := Option.some.inj (hold.symm.trans hstored)
  have hfree : (sub.toppedUp amount).recovered.Unclocked := by
    have hcovered : (sub.toppedUp amount).amount ≤ (sub.toppedUp amount).prepaidBalance := by
      rcases hsub with rfl | ⟨-, rfl⟩
      · exact hcovers
      · exact hcovers
    have hbehind : (sub.toppedUp amount).status = .insufficientBalance ∨
        (sub.toppedUp amount).status = .gracePeriod := by
      rcases hsub with rfl | ⟨-, rfl⟩
      · exact .inr hlapsed
      · exact .inl rfl
    unfold Subscription.recovered
    rw [if_pos ⟨hbehind, hcovered⟩]
    exact ⟨nofun, rfl⟩
  exact .of_set hafter hfree

theorem VaultStep.edits_clock (h : VaultStep l s t) (hop : l.operation.edits id)
    (hold : s.subscription id = some old) (hfits : old.ClockFits)
    (hspares : l.SparesGrace id s) : ClockKept id s t := by
  cases h with
  | @call env c _ _ hsingle hrun =>
    rcases Classical.em (old.graceLapsed s.graceSeconds env.now) with hlapsed | hrunning
    · have hrecovers := (hspares.edits trivial hop old hold).resolve_left (not_not.mpr hlapsed)
      cases c
      case depositFundsOnBehalf j payer amount nonce =>
        obtain rfl : j = id := hop
        exact onBehalf_clock hold hlapsed.1 hrecovers hrun
      all_goals exact hrecovers.elim
    · exact (VaultCall.keepsClock ⟨hfits, hrunning⟩ hop).clockKept hold hrun
  | @item env entry _ _ hrun =>
    have hrunning := (hspares.edits ⟨t, hrun⟩ hop old hold).resolve_right fun h => h.elim
    exact (BulkItem.keepsClock ⟨hfits, hrunning⟩ hop).clockKept hold hrun
  | @itemFailed env entry _ _ e hrun =>
    cases entry with
    | deposit =>
      obtain rfl := bulkDepositOne_err hrun
      exact .of_same rfl
    | pause =>
      obtain rfl := bulkPauseOne_err hrun
      exact .of_same rfl
    | charge | cancel => exact hop.elim
  | other => exact hop.elim

theorem VaultStep.resumes_clock (h : VaultStep l s t) (hop : l.operation = .resume id)
    (hold : s.subscription id = some old) (hfree : old.Unclocked) : ClockKept id s t := by
  cases h with
  | @call env c _ _ hsingle hrun =>
    cases c
    case resumeSubscription j authorizer =>
      obtain rfl := Operation.resume.inj hop
      have hticks : old.Ticks s.graceSeconds env.now := ⟨hfree.fits, hfree.not_lapsed _ _⟩
      have hcall : KeepsClock env old s.graceSeconds j
          (VaultCall.resumeSubscription j authorizer).exec :=
        .check (Modifies.getSubscription _) fun _ =>
          .next (doResumeSubscription_clock hticks hfree _) fun _ =>
          .check (Modifies.getSubscription _) fun _ => .pure _
      exact hcall.clockKept hold hrun
    all_goals cases hop
  | @item env entry _ _ hrun => cases entry <;> cases hop
  | @itemFailed env entry _ _ e hrun => cases entry <;> cases hop
  | other => cases hop

theorem unclocked_of_guarded {α : Type} {a : α} {name : LockName} {body : Vault α}
    (hbody : body.Keeps WritesUnclocked) (hrun : (guardedCall name body).run env s = .ok a t) :
    WritesUnclocked s t := by
  have hlocks {u v : State} (h : FiniteStore.AgreeOff (areas [.locks]) u v) :
      WritesUnclocked u v := by
    intro j sub hsub
    have hsame : v.subscription j = u.subscription j :=
      State.read_of_areas (k := .persistent (.sub j)) h rfl
    exact .inl (hsame ▸ hsub)
  obtain ⟨v, w, hinner, hbefore, hafter⟩ := run_withLock_areas (run_guardedCall_ok.mp hrun).2
  exact IsTrans.trans _ _ _ (IsTrans.trans _ _ _ (hlocks hbefore) (hbody.ok hinner))
    (hlocks hafter)

/-- Creations and buyouts leave the records they write without a clock. -/
theorem VaultStep.fresh_clock (h : VaultStep l s t)
    (hop : l.operation = .create ∨ ∃ j, l.operation = .buyOut j) : WritesUnclocked s t := by
  cases h with
  | @call env c _ _ hsingle hrun =>
    cases c
    case createSubscription new =>
      obtain ⟨_, hrun⟩ := run_effectOf_ok.mp hrun
      exact (doCreateSubscription_unclocked _).ok (run_stoppableCall_ok.mp hrun).2
    case createSubscriptionWithToken new =>
      obtain ⟨_, hrun⟩ := run_effectOf_ok.mp hrun
      exact (doCreateSubscriptionWithToken_unclocked _).ok (run_stoppableCall_ok.mp hrun).2
    case createSubscriptionWithSplit new entries =>
      obtain ⟨_, hrun⟩ := run_effectOf_ok.mp hrun
      exact (createSubscriptionWithSplit_unclocked _ _).ok (run_stoppableCall_ok.mp hrun).2
    case createSubscriptionFromPlan subscriber planId label =>
      obtain ⟨_, hrun⟩ := run_effectOf_ok.mp hrun
      exact (doCreateSubscriptionFromPlan_unclocked _ _ _).ok (run_stoppableCall_ok.mp hrun).2
    case graceBuyout j subscriber amount key =>
      obtain ⟨_, hrun⟩ := run_effectOf_ok.mp hrun
      exact unclocked_of_guarded (doGraceBuyout_unclocked _ _) hrun
    all_goals rcases hop with hop | ⟨j, hop⟩ <;> cases hop
  | @item env entry _ _ hrun => cases entry <;> rcases hop with hop | ⟨j, hop⟩ <;> cases hop
  | @itemFailed env entry _ _ e hrun =>
    cases entry <;> rcases hop with hop | ⟨j, hop⟩ <;> cases hop
  | other => rcases hop with hop | ⟨j, hop⟩ <;> cases hop

/-- Usage is charged to active subscriptions only. -/
theorem UsageChanges.clock {usageAmount : Int} (h : UsageChanges env s id usageAmount t.book)
    (hfits : ∀ stored, s.subscription id = some stored → stored.ClockFits) :
    ClockKept id s t := by
  have hfree {sub : Subscription} {reference : Bytes}
      (hdue : UsageDue env s id sub usageAmount reference) : sub.graceStartTimestamp = none := by
    obtain ⟨stored, hstored, rfl | ⟨-, rfl⟩⟩ := Book.reads_of_effective hdue.found
    · exact ((hfits sub hstored).unclocked (by rw [hdue.active]; nofun)).clock
    · cases hdue.active
  generalize hbook : t.book = b at h
  cases h with
  | unchanged => exact .of_same (congrFun (congrArg Book.record hbook) id)
  | capped hdue =>
    have hclock := hfree hdue
    exact .of_set hbook ⟨nofun, hclock⟩
  | booked hdue _ hsettled =>
    have hclock := hfree hdue
    refine .of_set hbook ⟨?_, ?_⟩
    · rw [hsettled.1]
      split
      · nofun
      · split <;> nofun
    · rw [hsettled.2]
      exact hclock
  | unfit hdue =>
    have hclock := hfree hdue
    exact .of_set hbook ⟨nofun, hclock⟩

theorem VaultStep.rotates_clock {oldMerchant newMerchant : Address} (h : VaultStep l s t)
    (hop : l.operation = .rotate oldMerchant newMerchant) : ClockKept id s t := by
  have hchanges := h.changes
  rw [hop] at hchanges
  rcases hchanges with hsame | hrotated
  · exact .of_same (congrFun (congrArg Book.record hsame) id)
  · have hbook : t.book = s.book.rotated oldMerchant newMerchant := hrotated
    have hrecord : t.subscription id = if id ∈ s.book.merchantSubs oldMerchant then
        (s.subscription id).map (·.rehomed oldMerchant newMerchant) else s.subscription id :=
      congrFun (congrArg Book.record hbook) id
    intro new hnew
    rw [hrecord] at hnew
    split at hnew
    · obtain ⟨old, hold, rfl⟩ := Option.map_eq_some_iff.mp hnew
      refine .inr ⟨old, hold, ?_⟩
      unfold Subscription.rehomed
      split
      · exact ⟨rfl, rfl⟩
      · exact ⟨rfl, rfl⟩
    · exact .inr ⟨new, hnew, rfl, rfl⟩

/-- An entry that fails to replace a status has written nothing. -/
theorem VaultStep.works_of_replaces (h : VaultStep l s t) (hop : l.operation.replaces id) :
    l.Works s ∨ t.book = s.book := by
  cases h with
  | call => exact .inl trivial
  | item hrun => exact .inl ⟨t, hrun⟩
  | @itemFailed env entry _ _ e hrun =>
    cases entry with
    | cancel =>
      obtain rfl := bulkCancelOne_err hrun
      exact .inr rfl
    | charge | deposit | pause => exact hop.elim
  | other => exact hop.elim

theorem VaultAction.attempts_of_charge (hop : l.operation = .charge id) :
    ∃ key, l.attempts id = some key := by
  cases l with
  | call env c =>
    cases c
    case chargeSubscription j key =>
      obtain rfl := Operation.charge.inj hop
      exact ⟨key, if_pos rfl⟩
    case operatorChargeSubscription op j =>
      obtain rfl := Operation.charge.inj hop
      exact ⟨none, if_pos rfl⟩
    all_goals cases hop
  | item env entry =>
    cases entry
    case charge j key =>
      obtain rfl := Operation.charge.inj hop
      exact ⟨key, if_pos rfl⟩
    all_goals cases hop
  | other env => cases hop

/-- A step that is no attempt to charge, and spares a grace period, starts none. -/
theorem VaultStep.clock_of_unattempted (h : VaultStep l s t) (hattempt : l.attempts id = none)
    (hfits : ∀ stored, s.subscription id = some stored → stored.ClockFits)
    (hspares : l.SparesGrace id s) : ClockKept id s t := by
  have hedits {stored : Subscription} (hstored : s.subscription id = some stored)
      (hop : l.operation.edits id) : ClockKept id s t :=
    h.edits_clock hop hstored (hfits stored hstored) hspares
  have hchanges := h.changes
  have hrecord := h.at_record id
  generalize hop : l.operation = op at hrecord hchanges
  cases hrecord with
  | kept hsame => exact .of_same hsame
  | created => exact .of_unclocked (h.fresh_clock (.inl hop))
  | restored hmem hid hnew =>
    intro new hfound
    obtain rfl := Option.some.inj (hnew.symm.trans hfound)
    exact .inl ⟨hspares.restores _ hop _ hmem hid, rfl⟩
  | @rewritten op sub new hreads hnew hafter =>
    have hset (hnew : new.Unclocked) : ClockKept id s t := by
      intro found hfound
      obtain rfl := Option.some.inj (hafter.symm.trans hfound)
      exact .inl hnew
    have hreplaced (hop' : l.operation.replaces id)
        (hset : sub.graceStartTimestamp = none → ClockKept id s t) : ClockKept id s t := by
      rcases h.works_of_replaces hop' with hworks | hsame
      · exact hset (unclocked_of_read hreads hfits (hspares.replaces hworks hop')).2.clock
      · exact .of_same (congrFun (congrArg Book.record hsame) id)
    obtain ⟨stored, hstored, hsub⟩ := hreads
    have hstored : s.subscription id = some stored := hstored
    cases hnew with
    | edited hwhich =>
      rcases hwhich with rfl | rfl <;> exact hedits hstored (by rw [hop]; rfl)
    | revived hwhich =>
      rcases hwhich with rfl | rfl
      · exact hedits hstored (by rw [hop]; rfl)
      · have hresumes : l.operation.replaces id := by rw [hop]; rfl
        rcases h.works_of_replaces hresumes with hworks | hsame
        · have hother := hspares.replaces hworks hresumes stored hstored
          exact h.resumes_clock hop hstored ((hfits stored hstored).unclocked hother)
        · exact .of_same (congrFun (congrArg Book.record hsame) id)
    | paused => exact hedits hstored (by rw [hop]; rfl)
    | resumed _ hpaused =>
      rcases hsub with rfl | ⟨-, rfl⟩
      · have hclock := ((hfits sub hstored).unclocked (by rw [hpaused]; nofun)).clock
        exact hset ⟨nofun, hclock⟩
      · cases hpaused
    | cancelled => exact hreplaced (by rw [hop]; rfl) fun hclock => hset ⟨nofun, hclock⟩
    | archived => exact hreplaced (by rw [hop]; rfl) fun hclock => hset ⟨nofun, hclock⟩
    | transferred => exact hedits hstored (by rw [hop]; rfl)
    | replanned => exact hedits hstored (by rw [hop]; rfl)
    | rehomed => exact h.rotates_clock hop
    | halted hwhich =>
      rcases hwhich with rfl | ⟨usageAmount, rfl⟩
      · obtain ⟨key, hkey⟩ := VaultAction.attempts_of_charge hop
        cases hattempt.symm.trans hkey
      · rcases hchanges with hsame | hchanges
        · exact .of_same (congrFun (congrArg Book.record hsame) id)
        · exact UsageChanges.clock hchanges hfits
    | settled =>
      obtain ⟨key, hkey⟩ := VaultAction.attempts_of_charge hop
      cases hattempt.symm.trans hkey
    | used =>
      rcases hchanges with hsame | hchanges
      · exact .of_same (congrFun (congrArg Book.record hsame) id)
      · exact UsageChanges.clock hchanges hfits
    | boughtOut => exact .of_unclocked (h.fresh_clock (.inr ⟨id, hop⟩))

/-- A step that spares a grace period keeps status and clock, clears them, or starts a period. -/
theorem VaultStep.clock (h : VaultStep l s t)
    (hfits : ∀ stored, s.subscription id = some stored → stored.ClockFits)
    (hspares : l.SparesGrace id s) :
    ClockKept id s t ∨ l.StartsGrace id s ∧ GraceStarted l.env id s t := by
  cases hattempt : l.attempts id with
  | none => exact .inl (h.clock_of_unattempted hattempt hfits hspares)
  | some key =>
    have hcharge := chargeOne_clock l.env s id key hfits fun stored hstored hgrace hhalts =>
      hspares.charges key hattempt hhalts stored hstored hgrace
    rcases h.attempted hattempt with ⟨result, v, hrun, hsame⟩ | ⟨e, -, hrun⟩
    · have hrecord : t.subscription id = v.subscription id := hsame.subscription id
      rcases hcharge with hkept | ⟨v', hshort, hstarted⟩
      · left
        rw [hrun] at hkept
        exact fun new hnew => hkept new (hrecord ▸ hnew)
      · obtain ⟨-, rfl⟩ := Outcome.ok.inj (hrun.symm.trans hshort)
        exact .inr ⟨⟨key, v, hattempt, hshort, hstarted⟩, hstarted.outside, hrecord ▸ hstarted.starts⟩
    · rcases hcharge with hkept | ⟨v', hshort, -⟩
      · left
        rw [hrun] at hkept
        exact hkept
      · cases hrun.symm.trans hshort

end Steps

/-! ## Runs -/

/-- The clock that is stored under `id`. -/
def State.graceClock (s : State) (id : Nat) : Option Nat :=
  (s.subscription id).bind (·.graceStartTimestamp)

/-- The last episode began with an attempt at `start`, and has been stored ever since. -/
def EpisodeSince (id start : Nat) : History VaultAction State → Prop :=
  Since (fun _ v => ∃ sub, v.subscription id = some sub ∧ sub.status = .gracePeriod ∧
      sub.graceStartTimestamp = some start)
    fun l v => l.env.now = start ∧ l.StartsGrace id v

/-- What the clock of a stored subscription says. -/
structure ClockTells (hist : History VaultAction State) (s : State) (id : Nat)
    (stored : Subscription) : Prop where
  fits : stored.graceStartTimestamp.isSome = true ↔ stored.status = .gracePeriod
  deadline : ∀ now info, getNextChargeInfo s id now = some info →
    (info.graceDeadline.isSome = true ↔ stored.status = .gracePeriod)
  episode : ∀ start, stored.graceStartTimestamp = some start → EpisodeSince id start hist
  ends : ∀ start now sub, stored.graceStartTimestamp = some start → start ≤ now → now < u64Max →
    s.effectiveSubscription id now = some sub →
    sub.status = if start + s.graceSeconds ≤ now then .insufficientBalance else .gracePeriod

section Runs

variable {start s : State} {hist : History VaultAction State} {id : Nat} {stored : Subscription}

theorem saturatingAddU64_le {a b n : Nat} (hn : n < u64Max) :
    saturatingAddU64 a b ≤ n ↔ a + b ≤ n := by
  unfold saturatingAddU64
  omega

theorem Deployed.graceClock (h : Deployed start) (id : Nat) : start.subscription id = none := by
  have hrecord : start.book.record id = none := by
    rw [h.book]
    rfl
  exact hrecord

/-- While no step breaks off a grace period, the clock is set exactly in one, and shows when the
charge that started it was attempted. -/
theorem graceClock_of_run (hstart : Deployed start) (hrun : Run VaultStep start hist s)
    (hspares : ∀ taken ∈ hist, taken.1.SparesGrace id taken.2) :
    (∀ stored, s.subscription id = some stored → stored.ClockFits) ∧
      ∀ at_, s.graceClock id = some at_ → EpisodeSince id at_ hist := by
  have hnone := hstart.graceClock id
  refine Run.since_stored (fun v : State => v.graceClock id)
    (I := fun v => ∀ stored, v.subscription id = some stored → stored.ClockFits)
    (P := fun l v => l.SparesGrace id v) ?_ ?_ ?_ hrun hspares
  · show (start.subscription id).bind _ = none
    rw [hnone]
    rfl
  · intro stored hstored
    cases hnone.symm.trans hstored
  · intro l u v hP hfits hstep
    rcases hstep.clock hfits hP with hkept | ⟨hstarts, hstarted⟩
    · refine ⟨fun stored hstored => ?_, fun at_ hat => ?_⟩
      · rcases hkept stored hstored with hfree | ⟨old, hold, hsame⟩
        · exact hfree.fits
        · exact Subscription.ClockedAs.fits (.inl hsame) (hfits old hold)
      · obtain ⟨new, hnew, hclock⟩ := Option.bind_eq_some_iff.mp hat
        right
        rcases hkept new hnew with hfree | ⟨old, hold, hstatus, hsame⟩
        · cases hfree.clock.symm.trans hclock
        · have hset := hsame.symm.trans hclock
          have hgrace := (hfits old hold).mp (by rw [hset]; rfl)
          exact ⟨⟨old, hold, hgrace, hset⟩, Option.bind_eq_some_iff.mpr ⟨old, hold, hset⟩⟩
    · obtain ⟨new, hnew, hstatus, hclock⟩ := hstarted.starts
      refine ⟨fun stored hstored => ?_, fun at_ hat => ?_⟩
      · obtain rfl := Option.some.inj (hnew.symm.trans hstored)
        unfold Subscription.ClockFits
        rw [hclock, hstatus]
        exact ⟨fun _ => rfl, fun _ => rfl⟩
      · left
        obtain ⟨found, hfound, hset⟩ := Option.bind_eq_some_iff.mp hat
        obtain rfl := Option.some.inj (hnew.symm.trans hfound)
        exact ⟨Option.some.inj (hclock.symm.trans hset), hstarts⟩

end Runs

/-! ## One episode -/

private def fallenBehindActions : List VaultAction :=
  [.call (sampleEnv 60 []) (.chargeSubscription 0 none),
   .call (sampleEnv 0 [⟨2⟩]) (.createSubscription sampleRequest)]

private def resumedActions : List VaultAction :=
  [.call (sampleEnv 61 [⟨2⟩]) (.resumeSubscription 0 ⟨2⟩),
   .call (sampleEnv 61 [⟨2⟩]) (.depositFunds 0 20 none)] ++ fallenBehindActions

end SubscriptionVault
