import SubscriptionVault.Lifecycle.CapDefaults
import SubscriptionVault.Lifecycle.FailuresInRow
import SubscriptionVault.Lifecycle.Lifetime
import SubscriptionVault.Lifecycle.PlanCreation

/-!
# Lifetime caps

Whatever takes money out of a subscription counts it as charged, except for a one-off charge, and
asks whether the cap has room for it, except for a buyout. Without one-off charges and without
buyouts that find no room, the count is right and below the cap, and a deposit leaves no more on
the subscription than can still be charged.
-/

namespace SubscriptionVault

open Exec

/-! ## Charged and capped -/

def State.prepaidBalance (s : State) (id : Nat) : Int :=
  (s.subscription id).elim 0 (·.prepaidBalance)

/-- No more has been charged than the cap allows. -/
def Subscription.WithinCap (sub : Subscription) : Prop :=
  ∀ cap, sub.lifetimeCap = some cap → sub.lifetimeCharged ≤ cap

/-- The record counts `amount` more as charged, and not past its cap. -/
def Subscription.Counts (amount : Int) (sub new : Subscription) : Prop :=
  new.lifetimeCharged = sub.lifetimeCharged + amount ∧ (sub.WithinCap → new.WithinCap)

section Records

variable {env : Env} {s t : State} {b b' : Book} {id : Nat} {sub new : Subscription}
  {amount : Int} {key : Option BytesN32} {e : Error}

theorem Subscription.Counts.refl (sub : Subscription) : sub.Counts 0 sub :=
  ⟨(Int.add_zero _).symm, id⟩

theorem Subscription.counts_of_same (hcap : new.lifetimeCap = sub.lifetimeCap)
    (hcharged : new.lifetimeCharged = sub.lifetimeCharged) : sub.Counts 0 new := by
  refine ⟨by omega, fun hwithin cap hnew => ?_⟩
  rw [hcharged]
  exact hwithin cap (hcap ▸ hnew)

/-- A charge that the cap has room for. -/
theorem Subscription.counts_of_fits (hcap : new.lifetimeCap = sub.lifetimeCap)
    (hcharged : new.lifetimeCharged = sub.lifetimeCharged + amount)
    (hfits : ∀ cap, sub.lifetimeCap = some cap → sub.lifetimeCharged + amount ≤ cap) :
    sub.Counts amount new := by
  refine ⟨hcharged, fun _ cap hnew => ?_⟩
  rw [hcharged]
  exact hfits cap (hcap ▸ hnew)

theorem Book.counts_of_set (hreads : b.Reads id sub) (hcounts : sub.Counts amount new)
    (hrecord : b'.record = (b.setRecord id new).record) :
    b.Carries id b' (Subscription.Counts amount) :=
  .of_read hreads (fun _ => hcounts) ((congrFun hrecord id).trans (Function.update_self ..))

theorem Book.counts_of_edit (hreads : b.Reads id sub) (hcounts : sub.Counts 0 new)
    (hrecord : b'.record = (b.setRecord id new).record) (j : Nat) :
    b.Carries j b' (Subscription.Counts 0) :=
  .of_edit Subscription.Counts.refl hreads (fun _ => hcounts) hrecord j

theorem State.prepaidBalance_of_reads (h : s.book.Reads id sub) :
    s.prepaidBalance id = sub.prepaidBalance := by
  obtain ⟨stored, hstored, rfl | ⟨-, rfl⟩⟩ := h
  · exact congrArg (·.elim 0 Subscription.prepaidBalance) hstored
  · exact congrArg (·.elim 0 Subscription.prepaidBalance) hstored

/-- What the record counts is what its balance has lost. -/
theorem State.counts_of_moved (hreads : s.book.Reads id sub)
    (hcounts : sub.Counts (sub.prepaidBalance - new.prepaidBalance) new)
    (hrecord : t.book.record = (s.book.setRecord id new).record) :
    s.book.Carries id t.book (Subscription.Counts (s.prepaidBalance id - t.prepaidBalance id)) := by
  have hnew : t.subscription id = some new := (congrFun hrecord id).trans (Function.update_self ..)
  have hafter : t.prepaidBalance id = new.prepaidBalance :=
    congrArg (·.elim 0 Subscription.prepaidBalance) hnew
  rw [State.prepaidBalance_of_reads hreads, hafter]
  exact Book.counts_of_set hreads hcounts hrecord

theorem State.counts_of_unmoved (h : t.book = s.book) :
    s.book.Carries id t.book (Subscription.Counts (s.prepaidBalance id - t.prepaidBalance id)) := by
  have hrecord : t.subscription id = s.subscription id := congrArg (Book.record · id) h
  have hmoved : s.prepaidBalance id - t.prepaidBalance id = 0 := by
    rw [State.prepaidBalance, State.prepaidBalance, hrecord, sub_self]
  rw [hmoved]
  exact .of_same Subscription.Counts.refl hrecord

/-! ## Interval charges -/

/-- A charge that is cancelled as scheduled pays the balance back. -/
def paysBack : Outcome Error State ChargeExecutionResult → Bool
  | .ok .scheduledCancellation _ => true
  | _ => false

/-- What the charge takes out of the balance. -/
def State.takenBy (s t : State) (id : Nat) (outcome : Outcome Error State ChargeExecutionResult) :
    Int :=
  if paysBack outcome then 0 else s.prepaidBalance id - t.prepaidBalance id

theorem Subscription.fits_of_remaining {remaining : Option Int}
    (hremaining : sub.capRemaining = .ok remaining)
    (hfits : exceedsRemaining remaining amount = false) :
    ∀ cap, sub.lifetimeCap = some cap → sub.lifetimeCharged + amount ≤ cap := by
  intro cap hcap
  rw [Subscription.capRemaining, hcap] at hremaining
  dsimp only at hremaining
  split at hremaining
  · obtain rfl := Except.ok.inj hremaining
    simp [exceedsRemaining] at hfits
  · obtain ⟨left, hleft, rfl⟩ := except_map_ok.mp hremaining
    obtain ⟨rfl, -⟩ := safeSub_ok.mp hleft
    simp only [exceedsRemaining, Option.any_some, Bool.or_eq_false_iff,
      decide_eq_false_iff_not] at hfits
    omega

theorem Subscription.SettledTo.counts {now : Nat} (h : sub.SettledTo new amount now)
    (hfits : ∃ remaining, sub.capRemaining = .ok remaining ∧
      exceedsRemaining remaining amount = false) :
    sub.Counts (sub.prepaidBalance - new.prepaidBalance) new := by
  obtain ⟨remaining, hremaining, hfits⟩ := hfits
  have hcharged : new.lifetimeCharged = sub.lifetimeCharged + amount := by rw [h.2]
  have hbalance : new.prepaidBalance = sub.prepaidBalance - amount := by rw [h.2]
  have hmoved : sub.prepaidBalance - new.prepaidBalance = amount := by omega
  rw [hmoved]
  exact Subscription.counts_of_fits (by rw [h.2]) hcharged
    (Subscription.fits_of_remaining hremaining hfits)

/-- Wherever a charge ends, the record counts what has been taken. -/
theorem chargeOne_counts (env : Env) (s : State) (id : Nat) (key : Option BytesN32) :
    ((chargeOne id key none ∅).run env s).Leaves fun t => s.book.Carries id t.book
      (Subscription.Counts (s.takenBy t id ((chargeOne id key none ∅).run env s))) := by
  have hstatus {sub new : Subscription} (hnew : new = { sub with
      status := new.status
      graceStartTimestamp := new.graceStartTimestamp }) :
      sub.Counts (sub.prepaidBalance - new.prepaidBalance) new := by
    have hbalance : new.prepaidBalance = sub.prepaidBalance := by rw [hnew]
    rw [hbalance, sub_self]
    exact Subscription.counts_of_same (by rw [hnew]) (by rw [hnew])
  have houtcome := chargeOne_outcome env s id key
  generalize (chargeOne id key none ∅).run env s = outcome at houtcome ⊢
  cases houtcome with
  | trap => trivial
  | refused e => exact State.counts_of_unmoved rfl
  | @expired sub t hadmitted hrun =>
    show s.book.Carries id t.book _
    have hreads := Book.reads_of_effective hadmitted.found
    rcases failIfExpired_book hrun with hbook | ⟨-, -, hbook⟩
    · exact State.counts_of_unmoved hbook
    · exact State.counts_of_moved hreads (hstatus rfl) (congrArg Book.record hbook)
  | @idle result sub hfound _ _ _ =>
    show s.book.Carries id s.book _
    unfold State.takenBy
    split
    · exact .of_same Subscription.Counts.refl rfl
    · exact State.counts_of_unmoved rfl
  | @capped sub t hclear _ _ hrun =>
    show s.book.Carries id t.book _
    have hreads := Book.reads_of_effective hclear.found
    exact State.counts_of_moved hreads (hstatus rfl)
      (congrArg Book.record (cancelCapped_book hrun).2)
  | @cancelled sub t hclear hopen _ hrun =>
    show s.book.Carries id t.book (Subscription.Counts 0)
    have hreads := Book.reads_of_effective hclear.found
    refine Book.counts_of_set hreads ?_
      (congrArg Book.record (fireScheduledCancellation_book hopen hrun).2)
    exact Subscription.counts_of_same rfl rfl
  | @short sub amount next e t hdue hbalance hrun =>
    show s.book.Carries id t.book _
    obtain ⟨grace, short, hgrace, hshort, rfl⟩ := run_recordShortfall_ok.mp hrun
    obtain ⟨-, rfl⟩ := (underfunded_ok hgrace hdue.found hdue.chargeable).mp hshort
    obtain ⟨new, hbook, hnew⟩ := withShortfall_book s id (sub.fallenBehind grace env.now)
    have hfallen := sub.fallenBehind_eq grace env.now
    refine State.counts_of_moved hdue.intervalDue.reads (hstatus ?_) (congrArg Book.record hbook)
    rcases hnew with rfl | ⟨rfl, -⟩
    · exact hfallen
    · rw [hfallen]
  | @settled sub charge t hdue hbalance _ _ hrun =>
    show s.book.Carries id t.book _
    have hends := settleInterval_ends env s id hdue.chargeable hbalance key
    rw [hrun] at hends
    cases hends with
    | complete hnew hbook =>
      refine State.counts_of_moved hdue.intervalDue.reads (hnew.counts hdue.fits) ?_
      rw [hbook]
      rfl
  | @unsettled sub charge e t hdue hbalance _ _ hrun =>
    show s.book.Carries id t.book _
    have hends := settleInterval_ends env s id hdue.chargeable hbalance key
    rw [hrun] at hends
    cases hends with
    | unwritten _ hbook => exact State.counts_of_unmoved hbook
    | unmarked _ hnew hbook | unkeyed _ hnew hbook =>
      exact State.counts_of_moved hdue.intervalDue.reads (hnew.counts hdue.fits)
        ((congrArg Book.record hbook).trans rfl)

/-! ## Usage charges -/

theorem chargeUsageOne_counts {reference : Bytes} {result : UsageChargeResult}
    (hrun : (chargeUsageOne id amount reference).run env s = .ok result t) :
    s.book.Carries id t.book (Subscription.Counts (s.prepaidBalance id - t.prepaidBalance id)) := by
  have hchanges := chargeUsageOne_book hrun
  generalize hbook : t.book = b at hchanges
  cases hchanges with
  | unchanged => exact hbook ▸ State.counts_of_unmoved hbook
  | capped hdue | unfit hdue =>
    rw [← hbook]
    refine State.counts_of_moved hdue.reads ?_ (congrArg Book.record hbook)
    rw [sub_self]
    exact Subscription.counts_of_same rfl rfl
  | @booked sub new _ hdue hroom hsettled =>
    have hcharged : new.lifetimeCharged = sub.lifetimeCharged + amount := by rw [hsettled.2]
    have hbalance : new.prepaidBalance = sub.prepaidBalance - amount := by rw [hsettled.2]
    have hmoved : sub.prepaidBalance - new.prepaidBalance = amount := by omega
    have hfits : ∀ cap, sub.lifetimeCap = some cap → sub.lifetimeCharged + amount ≤ cap := by
      intro cap hcap
      simpa [Subscription.capExceededBy, hcap] using hroom
    rw [← hbook]
    refine State.counts_of_moved hdue.reads ?_ (congrArg Book.record hbook)
    rw [hmoved]
    exact Subscription.counts_of_fits (by rw [hsettled.2]) hcharged hfits

/-! ## Operations that charge nothing -/

variable {j : Nat} {u : Unit}

theorem Rewrites.counts {op : Operation} (h : Rewrites env s id op sub new)
    (hsettles : op.settles id = false) (hterms : ∀ j planId, op ≠ .replan j planId)
    (hedit : ∀ j, op ≠ .edit j) (hdeposit : ∀ j, op ≠ .deposit j) : sub.Counts 0 new := by
  cases h with
  | edited hop =>
    rcases hop with rfl | rfl
    · exact absurd rfl (hdeposit id)
    · exact absurd rfl (hedit id)
  | revived _ _ hnew => exact Subscription.counts_of_same (by rw [hnew]) (by rw [hnew])
  | paused | resumed | cancelled | archived | transferred =>
    exact Subscription.counts_of_same rfl rfl
  | replanned => exact absurd rfl (hterms _ _)
  | rehomed =>
    unfold Subscription.rehomed
    split <;> exact Subscription.counts_of_same rfl rfl
  | halted _ _ _ hnew => exact Subscription.counts_of_same (by rw [hnew]) (by rw [hnew])
  | settled | used | boughtOut => simp [Operation.settles] at hsettles

theorem RecordStep.counts {op : Operation} (h : RecordStep env s id b' op)
    (hsettles : op.settles id = false) (hterms : ∀ j planId, op ≠ .replan j planId)
    (hedit : ∀ j, op ≠ .edit j) (hdeposit : ∀ j, op ≠ .deposit j)
    (hused : op = .create → id ≠ s.book.nextId)
    (hrestore : ∀ summaries, op ≠ .restore summaries) :
    s.book.Carries id b' (Subscription.Counts 0) := by
  cases h with
  | kept hsame => exact .of_same Subscription.Counts.refl hsame
  | rewritten hreads hrewrites hafter =>
    exact .of_read hreads (fun _ => hrewrites.counts hsettles hterms hedit hdeposit) hafter
  | created hid => exact absurd hid (hused rfl)
  | restored => exact absurd rfl (hrestore _)

/-- Only a creation puts a record where none was. -/
theorem RecordStep.of_unused {op : Operation} (h : RecordStep env s id b' op)
    (hnone : s.book.record id = none) (hrestore : ∀ summaries, op ≠ .restore summaries) :
    b'.record id = none ∨ op = .create ∧ id = s.book.nextId := by
  cases h with
  | kept hsame => exact .inl (hsame.trans hnone)
  | rewritten hreads =>
    obtain ⟨stored, hstored, -⟩ := hreads
    rw [hnone] at hstored
    cases hstored
  | created hid => exact .inr ⟨rfl, hid⟩
  | restored => exact absurd rfl (hrestore _)

theorem doMigrateSubscriptionToPlan_counts {subscriber : Address} {planId : Nat}
    (hrun : (doMigrateSubscriptionToPlan subscriber id planId).run env s = .ok u t) (j : Nat) :
    s.book.Carries j t.book (Subscription.Counts 0) := by
  obtain ⟨_, -, hrun⟩ := run_check_ok (Modifies.requireAuth _) hrun
  obtain ⟨_, -, hrun⟩ := run_check_ok (Modifies.requireNotBlocklisted _) hrun
  obtain ⟨sub, hreads, -, hrun⟩ := run_read_ok hrun
  obtain ⟨_, -, hrun⟩ := run_check_ok (.failIf _ _) hrun
  obtain ⟨_, -, hrun⟩ := run_check_ok Modifies.load hrun
  obtain ⟨_, -, hrun⟩ := run_check_ok (.okOr _ _) hrun
  obtain ⟨_, -, hrun⟩ := run_check_ok (.gets _) hrun
  obtain ⟨_, -, hrun⟩ := run_check_ok (.okOr _ _) hrun
  obtain ⟨_, -, hrun⟩ := run_check_ok (.gets _) hrun
  obtain ⟨plan, -, hrun⟩ := run_check_ok (.okOr _ _) hrun
  obtain ⟨_, -, hrun⟩ := run_check_ok (.failIf _ _) hrun
  obtain ⟨_, hchecks, hrun⟩ := run_check_ok (Modifies.checkPlanMigration _ _ _) hrun
  obtain ⟨_, m, hwrite, hrun⟩ := run_bind_ok.mp hrun
  obtain rfl := run_store_ok.mp hrun
  have hfits : ¬plan.lifetimeCap.any (· < sub.lifetimeCharged) = true := by
    simp only [checkPlanMigration, run_bind_ok, run_failIf_ok] at hchecks
    obtain ⟨_, _, -, _, _, -, _, _, -, _, _, -, hcap, -⟩ := hchecks
    exact hcap
  have hlink : State.book (m.write (.instanced (.subPlan id)) planId) = m.book :=
    State.book_of_unbooked (m.agreeOff_write planId rfl)
  refine Book.counts_of_edit hreads ?_
    (congrArg Book.record (hlink.trans (book_of_writeSubscription hwrite))) j
  refine ⟨(Int.add_zero _).symm, fun _ cap hcap => ?_⟩
  have hcap : plan.lifetimeCap = some cap := hcap
  simpa [hcap] using hfits

theorem doUpdateSubscriptionCap_counts {admin : Address} {newCap : Option Int}
    (hrun : (doUpdateSubscriptionCap admin id newCap).run env s = .ok u t) (j : Nat) :
    s.book.Carries j t.book (Subscription.Counts 0) := by
  obtain ⟨_, -, hrun⟩ := run_check_ok (Modifies.requireAdminAuth _) hrun
  obtain ⟨_, -, hrun⟩ := run_check_ok (.failIf _ _) hrun
  obtain ⟨sub, hreads, -, hrun⟩ := run_read_ok hrun
  obtain ⟨_, hfits, hrun⟩ := run_check_ok (.failIf _ _) hrun
  have hfits := (run_failIf_ok.mp hfits).1
  refine Book.counts_of_edit hreads ?_ (congrArg Book.record (book_of_writeSubscription hrun)) j
  refine ⟨(Int.add_zero _).symm, fun _ cap hcap => ?_⟩
  have hcap : newCap = some cap := hcap
  simpa [hcap] using hfits

theorem doScheduleCancel_counts {authorizer : Address} {cancelAt : Nat}
    (hrun : (doScheduleCancel id authorizer cancelAt).run env s = .ok u t) (j : Nat) :
    s.book.Carries j t.book (Subscription.Counts 0) := by
  obtain ⟨_, -, hrun⟩ := run_check_ok .ask hrun
  obtain ⟨_, -, hrun⟩ := run_check_ok (Modifies.requireAuth _) hrun
  obtain ⟨_, -, hrun⟩ := run_check_ok (.failIf _ _) hrun
  obtain ⟨sub, hreads, -, hrun⟩ := run_read_ok hrun
  obtain ⟨_, -, hrun⟩ := run_check_ok (.failIf _ _) hrun
  obtain ⟨_, -, hrun⟩ := run_check_ok (.failIf _ _) hrun
  obtain ⟨-, hrun⟩ := run_unexpired_ok hrun
  refine Book.counts_of_edit hreads ?_ (congrArg Book.record (book_of_writeSubscription hrun)) j
  exact Subscription.counts_of_same rfl rfl

theorem doUnscheduleCancel_counts {authorizer : Address}
    (hrun : (doUnscheduleCancel id authorizer).run env s = .ok u t) (j : Nat) :
    s.book.Carries j t.book (Subscription.Counts 0) := by
  obtain ⟨_, -, hrun⟩ := run_check_ok (Modifies.requireAuth _) hrun
  obtain ⟨sub, hreads, -, hrun⟩ := run_read_ok hrun
  obtain ⟨_, -, hrun⟩ := run_check_ok (.failIf _ _) hrun
  obtain ⟨_, -, hrun⟩ := run_check_ok (.failIf _ _) hrun
  refine Book.counts_of_edit hreads ?_ (congrArg Book.record (book_of_writeSubscription hrun)) j
  exact Subscription.counts_of_same rfl rfl

theorem refundPrepaid_counts (hreads : s.book.Reads id sub)
    (hrun : (refundPrepaid id sub).run env s = .ok u t) (j : Nat) :
    s.book.Carries j t.book (Subscription.Counts 0) := by
  refine Book.counts_of_edit hreads ?_ (congrArg Book.record (refundPrepaid_book hrun)) j
  exact Subscription.counts_of_same rfl rfl

theorem doWithdrawSubscriberFunds_counts {subscriber : Address}
    (hrun : (doWithdrawSubscriberFunds id subscriber).run env s = .ok u t) (j : Nat) :
    s.book.Carries j t.book (Subscription.Counts 0) := by
  obtain ⟨_, -, hrun⟩ := run_check_ok .ask hrun
  obtain ⟨_, -, hrun⟩ := run_check_ok (Modifies.requireAuth _) hrun
  obtain ⟨sub, hreads, -, hrun⟩ := run_read_ok hrun
  obtain ⟨_, -, hrun⟩ := run_check_ok (.failIf _ _) hrun
  obtain ⟨_, -, hrun⟩ := run_check_ok (.failIf _ _) hrun
  split at hrun
  · exact refundPrepaid_counts hreads hrun j
  · obtain ⟨_, -, hrun⟩ := run_check_ok (.gets _) hrun
    obtain ⟨escrow, -, hrun⟩ := run_check_ok (.okOr _ _) hrun
    obtain ⟨_, -, hrun⟩ := run_check_ok (.failIf _ _) hrun
    obtain ⟨_, -, hrun⟩ := run_check_ok (Modifies.requireReleasedEscrow _ _) hrun
    obtain ⟨_, -, hrun⟩ := run_check_ok (.failIf _ _) hrun
    have hbook := ((payEscrow_areas id escrow).unbooked rfl).book hrun
    exact .of_same Subscription.Counts.refl (congrArg (Book.record · j) hbook)

theorem doFinalizeEmergencyWithdraw_counts {subscriber : Address}
    (hrun : (doFinalizeEmergencyWithdraw id subscriber).run env s = .ok u t) (j : Nat) :
    s.book.Carries j t.book (Subscription.Counts 0) := by
  obtain ⟨_, -, hrun⟩ := run_check_ok .ask hrun
  obtain ⟨_, -, hrun⟩ := run_check_ok (Modifies.requireAuth _) hrun
  obtain ⟨sub, hreads, -, hrun⟩ := run_read_ok hrun
  obtain ⟨_, -, hrun⟩ := run_check_ok (.failIf _ _) hrun
  obtain ⟨_, -, hrun⟩ := run_check_ok Modifies.load hrun
  obtain ⟨_, -, hrun⟩ := run_check_ok (.okOr _ _) hrun
  obtain ⟨_, -, hrun⟩ := run_check_ok (.failIf _ _) hrun
  obtain ⟨_, -, hrun⟩ := run_check_ok (.failIf _ _) hrun
  obtain ⟨_, -, hrun⟩ := run_check_ok (.failIf _ _) hrun
  obtain ⟨_, -, hrun⟩ := run_check_ok (.failIf _ _) hrun
  obtain ⟨_, s₁, -, hbook, hrun⟩ := run_quiet_ok (Modifies.delete rfl) hrun
  rw [← hbook]
  exact refundPrepaid_counts (hbook ▸ hreads) hrun j

theorem doPartialRefund_counts {admin subscriber : Address} {refund : Int}
    (hrun : (doPartialRefund admin id subscriber refund).run env s = .ok u t) (j : Nat) :
    s.book.Carries j t.book (Subscription.Counts 0) := by
  obtain ⟨_, -, hrun⟩ := run_check_ok .ask hrun
  obtain ⟨_, -, hrun⟩ := run_check_ok (Modifies.requireAdminAuth _) hrun
  obtain ⟨_, -, hrun⟩ := run_check_ok (.failIf _ _) hrun
  obtain ⟨sub, hreads, -, hrun⟩ := run_read_ok hrun
  obtain ⟨_, -, hrun⟩ := run_check_ok (.failIf _ _) hrun
  obtain ⟨_, -, hrun⟩ := run_check_ok (.failIf _ _) hrun
  obtain ⟨newBalance, -, hrun⟩ := run_check_ok (.lift _) hrun
  obtain ⟨_, s₁, hwrite, hrun⟩ := run_bind_ok.mp hrun
  obtain ⟨_, s₂, -, h₂, hrun⟩ := run_quiet_ok (Modifies.transfer rfl rfl) hrun
  obtain rfl := run_subTotalAccounted_ok.mp hrun
  refine Book.counts_of_edit hreads ?_
    (congrArg Book.record (h₂.trans (book_of_writeSubscription hwrite))) j
  exact Subscription.counts_of_same rfl rfl

/-- An edit keeps the cap, or sets one that leaves room for what was charged. -/
theorem VaultStep.counts_of_edit {l : VaultAction} (h : VaultStep l s t)
    (hop : l.operation = .edit id) (j : Nat) : s.book.Carries j t.book (Subscription.Counts 0) := by
  have hlocked {name : LockName} {body : Vault Unit} {env : Env}
      (hbody : ∀ v w, body.run env v = .ok () w →
        v.book.Carries j w.book (Subscription.Counts 0))
      (hrun : (withLock name body).run env s = .ok () t) :
      s.book.Carries j t.book (Subscription.Counts 0) :=
    run_locked_book (fun b b' => b.Carries j b' (Subscription.Counts 0)) hbody hrun
  cases h with
  | @call env call _ _ hsingle hrun =>
    clear hsingle
    cases call
    case scheduleCancel => exact hlocked (fun _ _ hbody => doScheduleCancel_counts hbody j) hrun
    case unscheduleCancel => exact hlocked (fun _ _ hbody => doUnscheduleCancel_counts hbody j) hrun
    case setAutoRenew =>
      obtain ⟨sub, hreads, -, hbook⟩ := doSetAutoRenew_sets hrun
      refine Book.counts_of_edit hreads ?_ (congrArg Book.record hbook) j
      exact Subscription.counts_of_same rfl rfl
    case setSubscriptionExpiryLedger =>
      obtain ⟨sub, hreads, hbook⟩ := doSetSubscriptionExpirationLedger_book hrun
      refine Book.counts_of_edit hreads ?_ (congrArg Book.record hbook) j
      exact Subscription.counts_of_same rfl rfl
    case updateSubscriptionCap => exact doUpdateSubscriptionCap_counts hrun j
    case withdrawSubscriberFunds =>
      exact hlocked (fun _ _ hbody => doWithdrawSubscriberFunds_counts hbody j) hrun
    case finalizeEmergencyWithdraw =>
      exact hlocked (fun _ _ hbody => doFinalizeEmergencyWithdraw_counts hbody j) hrun
    case partialRefund =>
      exact hlocked (fun _ _ hbody => doPartialRefund_counts hbody j) (run_guardedCall_ok.mp hrun).2
    all_goals cases hop
  | @item env entry => cases entry <;> cases hop
  | @itemFailed env entry => cases entry <;> cases hop
  | other => cases hop

/-! ## Deposits -/

/-- A deposit is added to the balance, and the cap has room for it. -/
structure TopsUp (b b' : Book) (id : Nat) (sub new : Subscription) (amount : Int) : Prop where
  reads : b.Reads id sub
  nonneg : 0 ≤ amount
  room : sub.depositable.any (· < amount) = false
  balance : new.prepaidBalance = sub.prepaidBalance + amount
  cap : new.lifetimeCap = sub.lifetimeCap
  charged : new.lifetimeCharged = sub.lifetimeCharged
  record : b'.record = (b.setRecord id new).record

theorem Book.Reads.depositable (h : b.Reads id sub) (h' : b.Reads id new) :
    new.depositable = sub.depositable := by
  obtain ⟨stored, hstored, hsub⟩ := h
  obtain ⟨found, hfound, hnew⟩ := h'
  obtain rfl := Option.some.inj (hstored.symm.trans hfound)
  have hsame : sub.depositable = stored.depositable := by
    rcases hsub with rfl | ⟨-, rfl⟩ <;> rfl
  rw [hsame]
  rcases hnew with rfl | ⟨-, rfl⟩ <;> rfl

theorem run_enforceDepositCap_ok :
    (enforceDepositCap sub amount).run env s = .ok u t ↔
      sub.depositable.any (· < amount) = false ∧ s = t := by
  simp [enforceDepositCap]

theorem doDepositFunds_topsUp {nonce : Option Nat}
    (hrun : (doDepositFunds id amount nonce).run env s = .ok u t) :
    ∃ sub new, TopsUp s.book t.book id sub new amount := by
  obtain ⟨sub, hdeposits, hbook⟩ := doDepositFunds_deposits hrun
  obtain ⟨_, -, hrun⟩ := run_check_ok .ask hrun
  obtain ⟨found, hfound, -, hrun⟩ := run_read_ok hrun
  obtain ⟨_, -, hrun⟩ := run_check_ok (Modifies.requireAuth _) hrun
  obtain ⟨_, -, hrun⟩ := run_check_ok (Modifies.requireNotBlocklisted _) hrun
  obtain ⟨_, s₁, -, hrun⟩ := run_bind_ok.mp hrun
  obtain ⟨_, -, hrun⟩ := run_check_ok (.failIf _ _) hrun
  obtain ⟨_, -, hrun⟩ := run_check_ok (Modifies.enforceMinTopup _) hrun
  obtain ⟨_, -, hrun⟩ := run_check_ok (Modifies.requireNotBlocklisted _) hrun
  obtain ⟨_, -, hrun⟩ := run_check_ok (Modifies.checkMerchantStatus _ _) hrun
  obtain ⟨-, hrun⟩ := run_unexpired_ok hrun
  obtain ⟨_, -, hrun⟩ := run_check_ok (Modifies.enforceCreditLimitForDelta _ _ _) hrun
  obtain ⟨_, hroom, -⟩ := run_check_ok (.failIf _ _) hrun
  have hroom := (run_enforceDepositCap_ok.mp hroom).1
  rw [← hfound.depositable hdeposits.reads] at hroom
  exact ⟨sub, sub.toppedUp amount, hdeposits.reads, hdeposits.nonneg, hroom, rfl, rfl, rfl,
    congrArg Book.record hbook⟩

theorem doDepositFundsOnBehalf_topsUp {payer : Address} {nonce : Option Nat}
    (hrun : (doDepositFundsOnBehalf id payer amount nonce).run env s = .ok u t) :
    ∃ sub new, TopsUp s.book t.book id sub new amount := by
  obtain ⟨sub, hdeposits, hbook⟩ := doDepositFundsOnBehalf_deposits hrun
  obtain ⟨_, -, hrun⟩ := run_check_ok .ask hrun
  obtain ⟨_, -, hrun⟩ := run_check_ok (Modifies.requireAuth _) hrun
  have hnonces : Modifies (areas [.nonces])
      (whenSome nonce (checkAndAdvance payer .depositFunds)) :=
    .whenSome fun _ => Modifies.checkAndAdvance rfl
  obtain ⟨_, s₁, -, h₁, hrun⟩ := run_quiet_ok (hnonces.unbooked rfl) hrun
  obtain ⟨found, hfound, -, hrun⟩ := run_read_ok hrun
  obtain ⟨_, -, hrun⟩ := run_check_ok Modifies.load hrun
  obtain ⟨_, -, hrun⟩ := run_check_ok (.okOr _ _) hrun
  obtain ⟨_, -, hrun⟩ := run_check_ok (.failIf _ _) hrun
  obtain ⟨_, -, hrun⟩ := run_check_ok (.failIf _ _) hrun
  obtain ⟨_, -, hrun⟩ := run_check_ok (Modifies.enforceMinTopup _) hrun
  obtain ⟨_, -, hrun⟩ := run_check_ok (Modifies.requireNotBlocklisted _) hrun
  obtain ⟨_, -, hrun⟩ := run_check_ok (Modifies.requireNotBlocklisted _) hrun
  obtain ⟨_, -, hrun⟩ := run_check_ok (.gets _) hrun
  obtain ⟨_, -, hrun⟩ := run_check_ok (.failIf _ _) hrun
  obtain ⟨-, hrun⟩ := run_unexpired_ok hrun
  obtain ⟨_, -, hrun⟩ := run_check_ok (Modifies.enforceCreditLimitForDelta _ _ _) hrun
  obtain ⟨_, hroom, -⟩ := run_check_ok (.failIf _ _) hrun
  have hroom := (run_enforceDepositCap_ok.mp hroom).1
  rw [h₁] at hfound
  rw [← hfound.depositable hdeposits.reads] at hroom
  have hkept : ((sub.toppedUp amount).recovered).prepaidBalance = sub.prepaidBalance + amount ∧
      (sub.toppedUp amount).recovered.lifetimeCap = sub.lifetimeCap ∧
      (sub.toppedUp amount).recovered.lifetimeCharged = sub.lifetimeCharged := by
    unfold Subscription.recovered
    split <;> exact ⟨rfl, rfl, rfl⟩
  exact ⟨sub, (sub.toppedUp amount).recovered, hdeposits.reads, hdeposits.nonneg, hroom,
    hkept.1, hkept.2.1, hkept.2.2, congrArg Book.record hbook⟩

theorem bulkDepositOne_topsUp {caller : Address}
    (hrun : (bulkDepositOne caller id amount).run env s = .ok u t) :
    ∃ sub new, TopsUp s.book t.book id sub new amount := by
  obtain ⟨sub, hdeposits, hbook⟩ := bulkDepositOne_deposits hrun
  obtain ⟨_, -, hrun⟩ := run_check_ok .ask hrun
  obtain ⟨found, hfound, -, hrun⟩ := run_read_ok hrun
  obtain ⟨_, -, hrun⟩ := run_check_ok (.failIf _ _) hrun
  obtain ⟨_, -, hrun⟩ := run_check_ok (Modifies.enforceMinTopup _) hrun
  obtain ⟨_, -, hrun⟩ := run_check_ok (Modifies.checkMerchantStatus _ _) hrun
  obtain ⟨_, -, hrun⟩ := run_check_ok (.failIf _ _) hrun
  obtain ⟨_, -, hrun⟩ := run_check_ok (Modifies.enforceCreditLimitForDelta _ _ _) hrun
  obtain ⟨_, hroom, -⟩ := run_check_ok (.failIf _ _) hrun
  have hroom := (run_enforceDepositCap_ok.mp hroom).1
  rw [← hfound.depositable hdeposits.reads] at hroom
  exact ⟨sub, sub.toppedUp amount, hdeposits.reads, hdeposits.nonneg, hroom, rfl, rfl, rfl,
    congrArg Book.record hbook⟩

/-- What is on the subscription can still be charged. -/
theorem TopsUp.within (h : TopsUp b b' id sub new amount) (hwithin : sub.WithinCap) {cap : Int}
    (hcap : new.lifetimeCap = some cap) : new.prepaidBalance + new.lifetimeCharged ≤ cap := by
  have hsub : sub.lifetimeCap = some cap := h.cap.symm.trans hcap
  have hcharged := hwithin cap hsub
  have hroom := h.room
  simp only [Subscription.depositable, hsub, Option.map_some, Option.any_some,
    decide_eq_false_iff_not, lifetimeCapRemaining, clampI128] at hroom
  have hamount := h.nonneg
  rw [h.balance, h.charged]
  omega

theorem TopsUp.counts (h : TopsUp b b' id sub new amount) (j : Nat) :
    b.Carries j b' (Subscription.Counts 0) :=
  Book.counts_of_edit h.reads (Subscription.counts_of_same h.cap h.charged) h.record j

/-! ## Creations -/

/-- The next record has nothing charged to it, and a positive cap if any. -/
def StartsBelowCap (s t : State) : Prop :=
  ∃ new, t.subscription s.book.nextId = some new ∧ new.lifetimeCharged = 0 ∧
    ∀ cap, new.lifetimeCap = some cap → 0 < cap

theorem doCreateSubscriptionWithToken_starts {new : NewSubscription} {created : Nat}
    (hrun : (doCreateSubscriptionWithToken new).run env s = .ok created t) :
    StartsBelowCap s t := by
  obtain ⟨ledger, -, hrun⟩ := run_check_ok .ask hrun
  obtain ⟨_, -, hrun⟩ := run_check_ok (Modifies.requireAuth _) hrun
  obtain ⟨_, -, hrun⟩ := run_check_ok (.failIf _ _) hrun
  obtain ⟨_, -, hrun⟩ := run_check_ok (Modifies.requireNotBlocklisted _) hrun
  obtain ⟨_, -, hrun⟩ := run_check_ok (Modifies.requireNotBlocklisted _) hrun
  have hlimit := (enforceCreationRateLimit_areas new.subscriber).unbooked rfl
  obtain ⟨_, s₁, -, h₁, hrun⟩ := run_quiet_ok hlimit hrun
  obtain ⟨_, -, hrun⟩ := run_check_ok (Modifies.enforceSubscriptionCounts _ _) hrun
  obtain ⟨_, -, hrun⟩ := run_check_ok (.failIf _ _) hrun
  obtain ⟨_, -, hrun⟩ := run_check_ok (Modifies.validateExpiry _ _) hrun
  obtain ⟨_, -, hrun⟩ := run_check_ok (.gets _) hrun
  obtain ⟨_, -, hrun⟩ := run_check_ok (.failIf _ _) hrun
  obtain ⟨cap, -, hrun⟩ := run_check_ok (.gets _) hrun
  obtain ⟨_, hcap, hrun⟩ := run_check_ok (Modifies.validateCap _ _) hrun
  obtain ⟨_, -, hrun⟩ := run_check_ok (Modifies.enforceCreditLimitForDelta _ _ _) hrun
  obtain ⟨id, hid, hrun⟩ := run_check_ok (.gets _) hrun
  obtain ⟨_, -, hrun⟩ := run_check_ok (.when (Modifies.requireUsageLimits _ _)) hrun
  obtain ⟨_, -, hrun⟩ := run_check_ok (.failIf _ _) hrun
  obtain ⟨_, s₂, hnext, hrun⟩ := run_bind_ok.mp hrun
  obtain ⟨_, s₃, hwrite, hrun⟩ := run_bind_ok.mp hrun
  obtain ⟨_, s₄, hcount, hrun⟩ := run_bind_ok.mp hrun
  obtain ⟨_, s₅, hindex, hrun⟩ := run_bind_ok.mp hrun
  obtain ⟨_, s₆, -, h₆, hrun⟩ := run_quiet_ok ((issueCredential_areas id).unbooked rfl) hrun
  obtain ⟨-, rfl⟩ := run_pure_ok.mp hrun
  have hrecords : s₆.subscription = s₅.subscription := congrArg Book.record h₆
  obtain rfl : s.book.nextId = id := by
    rw [← h₁]
    exact (run_gets_ok.mp hid).1
  refine ⟨new.record cap ledger.now ledger.now, ?_, rfl, fun c hc => ?_⟩
  · rw [hrecords, subscription_of_writes hnext hwrite hcount rfl hindex]
    exact Function.update_self _ _ _
  · exact ((run_validateCap_ok.mp hcap).1 c hc).1

theorem doCreateSubscriptionFromPlan_starts {subscriber : Address} {planId created : Nat}
    {label : Option Symbol} (hpositive : s.CapsPositive)
    (hrun : (doCreateSubscriptionFromPlan subscriber planId label).run env s = .ok created t) :
    StartsBelowCap s t := by
  obtain ⟨ledger, -, hrun⟩ := run_check_ok .ask hrun
  obtain ⟨_, -, hrun⟩ := run_check_ok (Modifies.requireAuth _) hrun
  obtain ⟨_, -, hrun⟩ := run_check_ok (Modifies.requireNotBlocklisted _) hrun
  have hlimit := enforceCreationRateLimit_areas subscriber
  obtain ⟨_, s₁, hlimited, h₁, hrun⟩ := run_quiet_ok (hlimit.unbooked rfl) hrun
  obtain ⟨found, hfound, hrun⟩ := run_check_ok (.gets _) hrun
  obtain ⟨plan, hplan, hrun⟩ := run_check_ok (.okOr _ _) hrun
  obtain ⟨_, -, hrun⟩ := run_check_ok (.failIf _ _) hrun
  obtain ⟨_, -, hrun⟩ := run_check_ok (.failIf _ _) hrun
  obtain ⟨_, -, hrun⟩ := run_check_ok (Modifies.enforceSubscriptionCounts _ _) hrun
  obtain ⟨_, -, hrun⟩ := run_check_ok (Modifies.enforceCreditLimitForDelta _ _ _) hrun
  obtain ⟨_, -, hrun⟩ := run_check_ok (Modifies.enforcePlanConcurrencyLimit _ _) hrun
  obtain ⟨id, hid, hrun⟩ := run_check_ok (.gets _) hrun
  obtain ⟨next, -, hrun⟩ := run_check_ok (.okOr _ _) hrun
  obtain ⟨_, s₂, hnext, hrun⟩ := run_bind_ok.mp hrun
  obtain ⟨cap, hcap, hrun⟩ := run_check_ok (.gets _) hrun
  obtain ⟨_, s₃, hwrite, hrun⟩ := run_bind_ok.mp hrun
  obtain ⟨_, s₄, hcount, hrun⟩ := run_bind_ok.mp hrun
  obtain ⟨_, s₅, -, h₅, hrun⟩ := run_quiet_ok (Modifies.store rfl) hrun
  obtain ⟨_, s₆, hindex, hrun⟩ := run_bind_ok.mp hrun
  obtain ⟨-, rfl⟩ := run_pure_ok.mp hrun
  obtain rfl : s.book.nextId = id := by
    rw [← h₁]
    exact (run_gets_ok.mp hid).1
  have hnumber : Modifies capFree (writeConfig .nextId next) := Modifies.writeConfig rfl rfl
  have hwindow : s₁.CapsPositive :=
    hpositive.of_agreeOff ((hlimit.weaken (areas_subset_capFree rfl)).ok hlimited)
  have hcaps : s₂.CapsPositive := hwindow.of_agreeOff (hnumber.ok hnext)
  have hoffered : s₂.planTemplate planId = some plan := by
    have hsame : s₂.planTemplate planId = s₁.planTemplate planId := by
      unfold State.planTemplate
      exact (hnumber.ok hnext).read Bool.noConfusion
    exact hsame.trans ((run_gets_ok.mp hfound).1.trans (run_okOr_ok.mp hplan).1)
  refine ⟨(plan.subscription subscriber label).record cap ledger.now
    (saturatingAddU64 ledger.now plan.effectiveTrialPeriodSeconds), ?_, rfl, fun c hc => ?_⟩
  · rw [subscription_of_writes hnext hwrite hcount h₅ hindex]
    exact Function.update_self _ _ _
  · exact hcaps.resolveCap hoffered ((run_gets_ok.mp hcap).1.trans hc)

theorem doCreateSubscription_starts {new : NewSubscription} {created : Nat}
    (hrun : (doCreateSubscription new).run env s = .ok created t) : StartsBelowCap s t := by
  obtain ⟨_, -, hrun⟩ := run_check_ok (.failIf _ _) hrun
  obtain ⟨_, -, hrun⟩ := run_check_ok (.gets _) hrun
  obtain ⟨token, -, hrun⟩ := run_check_ok (.lift _) hrun
  obtain ⟨_, -, hrun⟩ := run_check_ok (Modifies.enforceCreditLimitForDelta _ _ _) hrun
  exact doCreateSubscriptionWithToken_starts hrun

theorem VaultStep.starts {l : VaultAction} (h : VaultStep l s t) (hcreate : l.operation = .create)
    (hpositive : s.CapsPositive) : StartsBelowCap s t := by
  cases h with
  | @call env call _ _ hsingle hrun =>
    clear hsingle
    cases call
    case createSubscription =>
      obtain ⟨_, hrun⟩ := run_effectOf_ok.mp hrun
      exact doCreateSubscription_starts (run_stoppableCall_ok.mp hrun).2
    case createSubscriptionWithToken =>
      obtain ⟨_, hrun⟩ := run_effectOf_ok.mp hrun
      exact doCreateSubscriptionWithToken_starts (run_stoppableCall_ok.mp hrun).2
    case createSubscriptionWithSplit =>
      obtain ⟨_, hrun⟩ := run_effectOf_ok.mp hrun
      have hsplit := (run_stoppableCall_ok.mp hrun).2
      obtain ⟨_, -, hsplit⟩ := run_check_ok (Modifies.validateSplit _) hsplit
      obtain ⟨id, s₁, hcreated, hsplit⟩ := run_bind_ok.mp hsplit
      obtain ⟨split, -, hsplit⟩ := run_check_ok (.lift _) hsplit
      obtain ⟨_, s₂, -, h₂, hsplit⟩ := run_quiet_ok (Modifies.store rfl) hsplit
      obtain ⟨-, rfl⟩ := run_pure_ok.mp hsplit
      have hrecords : s₂.subscription = s₁.subscription := congrArg Book.record h₂
      unfold StartsBelowCap
      rw [hrecords]
      exact doCreateSubscription_starts hcreated
    case createSubscriptionFromPlan =>
      obtain ⟨_, hrun⟩ := run_effectOf_ok.mp hrun
      exact doCreateSubscriptionFromPlan_starts hpositive (run_stoppableCall_ok.mp hrun).2
    all_goals cases hcreate
  | @item env entry => cases entry <;> cases hcreate
  | @itemFailed env entry => cases entry <;> cases hcreate
  | other => cases hcreate

end Records

/-! ## Steps -/

/-- What a call that went through has charged, other than for an interval. -/
def VaultCall.charges (env : Env) (id : Nat) (call : VaultCall) (s t : State) : Int :=
  match call with
  | .graceBuyout j _ _ _ => if j = id then (s.subscription id).elim 0 (·.amount) else 0
  | .chargeOneOff j _ amount key =>
    if j = id ∧ s.isReplayedKey env .chargeOneoff id key = false then amount else 0
  | .chargeUsage j _ | .chargeUsageWithReference j _ _ | .operatorChargeUsage _ j _
  | .operatorChargeUsageWithRef _ j _ _ =>
    if j = id then s.prepaidBalance id - t.prepaidBalance id else 0
  | _ => 0

/-- What a step has charged the subscription: what an interval or usage charge has taken out of
the balance, the price a buyout pays for, or the amount of a one-off charge. -/
def VaultAction.charges (id : Nat) (l : VaultAction) (s t : State) : Int :=
  match l.attempts id with
  | some key => s.takenBy t id ((chargeOne id key none ∅).run l.env s)
  | none => match l with
    | .call env c => c.charges env id s t
    | _ => 0

/-- No snapshot is restored, a buyout finds room under the cap, and nothing is charged once. -/
def VaultAction.KeepsCaps : VaultAction → State → Prop
  | .call _ (.restoreSnapshotPage _ _ _), _ => False
  | .call _ (.graceBuyout id _ _ _), s => ∀ sub cap, s.subscription id = some sub →
    sub.lifetimeCap = some cap → sub.lifetimeCharged + sub.amount ≤ cap
  | .call env (.chargeOneOff id _ _ key), s => s.isReplayedKey env .chargeOneoff id key = true
  | _, _ => True

section Steps

variable {env : Env} {s t : State} {l : VaultAction} {id : Nat} {key : Option BytesN32}

theorem VaultAction.KeepsCaps.not_restore (h : l.KeepsCaps s)
    (summaries : List SubscriptionSummary) : l.operation ≠ .restore summaries := by
  intro hop
  cases l with
  | call env call =>
    cases call
    case restoreSnapshotPage => exact h
    all_goals cases hop
  | item env entry => cases entry <;> cases hop
  | other => cases hop

theorem State.takenBy_of_prepaid {v : State} {o : Outcome Error State ChargeExecutionResult}
    (h : t.subscription id = v.subscription id) : s.takenBy t id o = s.takenBy v id o := by
  unfold State.takenBy State.prepaidBalance
  rw [h]

theorem VaultStep.counts_of_attempt (h : VaultStep l s t) (hattempt : l.attempts id = some key) :
    s.book.Carries id t.book (Subscription.Counts (l.charges id s t)) := by
  have hcharges : l.charges id s t = s.takenBy t id ((chargeOne id key none ∅).run l.env s) := by
    unfold VaultAction.charges
    rw [hattempt]
  have hcounts := chargeOne_counts l.env s id key
  rw [hcharges]
  rcases h.attempted hattempt with ⟨result, v, hv, hsame⟩ | ⟨e, -, hv⟩
  · have hrecord : t.subscription id = v.subscription id := hsame.subscription id
    rw [hv] at hcounts ⊢
    rw [State.takenBy_of_prepaid hrecord]
    intro sub hsub
    obtain ⟨new, hnew, hcounted⟩ := hcounts sub hsub
    exact ⟨new, hrecord.trans hnew, hcounted⟩
  · rw [hv] at hcounts ⊢
    exact hcounts

theorem usageCall_counts {call : VaultCall} {amount : Int} {reference : Bytes}
    (hcall : call.usageCharge = some (id, amount, reference))
    (hrun : call.exec.run env s = .ok () t) :
    s.book.Carries id t.book (Subscription.Counts (s.prepaidBalance id - t.prepaidBalance id)) := by
  obtain ⟨result, v, w, hbody, hbefore, hafter⟩ := run_usageCall hcall hrun
  have hlocks : areas [.locks] ⊆ unbooked := areas_subset_unbooked rfl
  have hv : v.book = s.book := State.book_of_unbooked (hbefore.mono hlocks)
  have hw : t.book = w.book := State.book_of_unbooked (hafter.mono hlocks)
  have hcounts := chargeUsageOne_counts hbody
  have hbalance : v.prepaidBalance id = s.prepaidBalance id :=
    congrArg (fun b : Book => (b.record id).elim 0 (·.prepaidBalance)) hv
  have hafterwards : t.prepaidBalance id = w.prepaidBalance id :=
    congrArg (fun b : Book => (b.record id).elim 0 (·.prepaidBalance)) hw
  rw [hw, ← hv, hafterwards, ← hbalance]
  exact hcounts

theorem Book.Reads.fits {sub : Subscription} (h : s.book.Reads id sub)
    (hkeeps : ∀ stored cap, s.subscription id = some stored → stored.lifetimeCap = some cap →
      stored.lifetimeCharged + stored.amount ≤ cap) :
    ∀ cap, sub.lifetimeCap = some cap → sub.lifetimeCharged + sub.amount ≤ cap := by
  obtain ⟨stored, hstored, rfl | ⟨-, rfl⟩⟩ := h
  · exact fun cap hcap => hkeeps sub cap hstored hcap
  · exact fun cap hcap => hkeeps stored cap hstored hcap

theorem doGraceBuyout_counts {subscriber : Address} {amount : Int} {paid : Int × Int}
    (hkeeps : ∀ sub cap, s.subscription id = some sub → sub.lifetimeCap = some cap →
      sub.lifetimeCharged + sub.amount ≤ cap)
    (hrun : (doGraceBuyout id subscriber amount key).run env s = .ok paid t) :
    s.book.Carries id t.book (Subscription.Counts ((s.subscription id).elim 0 (·.amount))) := by
  obtain ⟨sub, haffords, hbook⟩ := doGraceBuyout_settles hrun
  have hprice : (s.subscription id).elim 0 (·.amount) = sub.amount := by
    obtain ⟨stored, hstored, rfl | ⟨-, rfl⟩⟩ := haffords.reads
    · exact congrArg (·.elim 0 Subscription.amount) hstored
    · exact congrArg (·.elim 0 Subscription.amount) hstored
  rw [hprice]
  refine Book.counts_of_set haffords.reads ?_ ((congrArg Book.record hbook).trans rfl)
  exact Subscription.counts_of_fits rfl rfl (haffords.reads.fits hkeeps)

/-- A step on another subscription, or one that charges nothing. -/
theorem VaultStep.counts_elsewhere (h : VaultStep l s t)
    (hsettles : l.operation.settles id = false) (hkeeps : l.KeepsCaps s)
    (hused : l.operation = .create → id ≠ s.book.nextId) :
    s.book.Carries id t.book (Subscription.Counts 0) := by
  by_cases hedit : ∃ j, l.operation = .edit j
  · obtain ⟨j, hop⟩ := hedit
    exact h.counts_of_edit hop id
  by_cases hdeposit : ∃ j, l.operation = .deposit j
  · obtain ⟨j, hop⟩ := hdeposit
    cases h with
    | @call env call _ _ hsingle hrun =>
      clear hsingle
      cases call
      case depositFunds =>
        refine run_locked_book (fun b b' => b.Carries id b' (Subscription.Counts 0))
          (fun _ _ hbody => ?_) (run_guardedCall_ok.mp hrun).2
        obtain ⟨sub, new, htops⟩ := doDepositFunds_topsUp hbody
        exact htops.counts id
      case depositFundsOnBehalf =>
        refine run_locked_book (fun b b' => b.Carries id b' (Subscription.Counts 0))
          (fun _ _ hbody => ?_) (run_guardedCall_ok.mp hrun).2
        obtain ⟨sub, new, htops⟩ := doDepositFundsOnBehalf_topsUp hbody
        exact htops.counts id
      all_goals cases hop
    | @item env entry _ _ hrun =>
      cases entry with
      | deposit =>
        obtain ⟨sub, new, htops⟩ := bulkDepositOne_topsUp hrun
        exact htops.counts id
      | charge | cancel | pause => cases hop
    | @itemFailed env entry _ _ e hrun =>
      cases entry with
      | deposit =>
        obtain rfl := bulkDepositOne_err hrun
        exact .of_same Subscription.Counts.refl rfl
      | charge | cancel | pause => cases hop
    | other => cases hop
  by_cases hreplan : ∃ j planId, l.operation = .replan j planId
  · obtain ⟨j, planId, hop⟩ := hreplan
    cases h with
    | @call env call _ _ hsingle hrun =>
      clear hsingle
      cases call
      case migrateSubscriptionToPlan => exact doMigrateSubscriptionToPlan_counts hrun id
      all_goals cases hop
    | @item env entry => cases entry <;> cases hop
    | @itemFailed env entry => cases entry <;> cases hop
    | other => cases hop
  exact (h.at_record id).counts hsettles (fun j planId hop => hreplan ⟨j, planId, hop⟩)
    (fun j hop => hedit ⟨j, hop⟩) (fun j hop => hdeposit ⟨j, hop⟩) hused hkeeps.not_restore

/-- Every step counts what it charges. -/
theorem VaultStep.counts (h : VaultStep l s t) (hkeeps : l.KeepsCaps s)
    (hused : l.operation = .create → id ≠ s.book.nextId) :
    s.book.Carries id t.book (Subscription.Counts (l.charges id s t)) := by
  cases hattempt : l.attempts id with
  | some key => exact h.counts_of_attempt hattempt
  | none =>
    have helsewhere (hsettles : l.operation.settles id = false) (hzero : l.charges id s t = 0) :
        s.book.Carries id t.book (Subscription.Counts (l.charges id s t)) := by
      rw [hzero]
      exact h.counts_elsewhere hsettles hkeeps hused
    cases h with
    | @call env c _ _ hsingle hrun =>
      have hcharges : VaultAction.charges id (.call env c) s t = c.charges env id s t := by
        unfold VaultAction.charges
        rw [hattempt]
      cases c
      case graceBuyout j subscriber amount k =>
        by_cases hj : j = id
        · subst hj
          rw [hcharges, VaultCall.charges, if_pos rfl]
          obtain ⟨paid, hrun⟩ := run_effectOf_ok.mp hrun
          obtain ⟨u, hbody, hbook⟩ := run_locked_ok (run_guardedCall_ok.mp hrun).2
          have hlocked : State.subscription (s.write (.lock .graceBuyout) true) = s.subscription :=
            congrArg Book.record (s.book_lock .graceBuyout true)
          have hcounts := doGraceBuyout_counts (hlocked ▸ hkeeps) hbody
          rw [hbook, ← s.book_lock .graceBuyout true]
          rwa [hlocked] at hcounts
        · exact helsewhere (decide_eq_false hj) (hcharges.trans (if_neg hj))
      case chargeOneOff j merchant amount k =>
        have hreplayed : ¬(j = id ∧ s.isReplayedKey env .chargeOneoff id k = false) := by
          rintro ⟨rfl, hfresh⟩
          exact Bool.noConfusion (hfresh.symm.trans hkeeps)
        exact helsewhere rfl (hcharges.trans (if_neg hreplayed))
      case chargeUsage j amount | chargeUsageWithReference j amount reference
          | operatorChargeUsage op j amount | operatorChargeUsageWithRef op j amount reference =>
        by_cases hj : j = id
        · subst hj
          rw [hcharges, VaultCall.charges, if_pos rfl]
          exact usageCall_counts rfl hrun
        · exact helsewhere (decide_eq_false hj) (hcharges.trans (if_neg hj))
      case chargeSubscription j k | operatorChargeSubscription op j =>
        have hj : j ≠ id := by
          intro hj
          exact nomatch (if_pos hj).symm.trans hattempt
        exact helsewhere (decide_eq_false hj) hcharges
      all_goals exact helsewhere rfl hcharges
    | @item env entry _ _ hrun =>
      have hcharges : VaultAction.charges id (.item env entry) s t = 0 := by
        unfold VaultAction.charges
        rw [hattempt]
      cases entry with
      | charge j k =>
        have hj : j ≠ id := fun hj => nomatch (if_pos hj).symm.trans hattempt
        exact helsewhere (decide_eq_false hj) hcharges
      | deposit | cancel | pause => exact helsewhere rfl hcharges
    | @itemFailed env entry _ _ e hrun =>
      have hcharges : VaultAction.charges id (.item env entry) s t = 0 := by
        unfold VaultAction.charges
        rw [hattempt]
      cases entry with
      | charge j k =>
        have hj : j ≠ id := fun hj => nomatch (if_pos hj).symm.trans hattempt
        exact helsewhere (decide_eq_false hj) hcharges
      | deposit | cancel | pause => exact helsewhere rfl hcharges
    | other => exact helsewhere rfl rfl

/-- Nothing is charged to a number that is not in use. -/
theorem VaultAction.charges_of_unused (hkeeps : l.KeepsCaps s) (hs : s.subscription id = none)
    (ht : l.operation ≠ .create → t.subscription id = none) : l.charges id s t = 0 := by
  have hbefore : s.prepaidBalance id = 0 := congrArg (·.elim 0 Subscription.prepaidBalance) hs
  have hafter (hop : l.operation ≠ .create) : t.prepaidBalance id = 0 :=
    congrArg (·.elim 0 Subscription.prepaidBalance) (ht hop)
  have htaken (hop : l.operation ≠ .create)
      (o : Outcome Error State ChargeExecutionResult) : s.takenBy t id o = 0 := by
    unfold State.takenBy
    rw [hbefore, hafter hop, sub_self, ite_self]
  unfold VaultAction.charges
  cases l with
  | call env c =>
    cases c
    case graceBuyout =>
      show (if _ then (s.subscription id).elim 0 (·.amount) else 0) = 0
      rw [hs]
      exact ite_self _
    case chargeOneOff j merchant amount k =>
      refine if_neg ?_
      rintro ⟨rfl, hfresh⟩
      exact Bool.noConfusion (hfresh.symm.trans hkeeps)
    case chargeSubscription | operatorChargeSubscription =>
      split
      · exact htaken nofun _
      · rfl
    case chargeUsage | chargeUsageWithReference | operatorChargeUsage
        | operatorChargeUsageWithRef =>
      show (if _ then s.prepaidBalance id - t.prepaidBalance id else 0) = 0
      rw [hbefore, hafter nofun, sub_self]
      exact ite_self _
    all_goals rfl
  | item env entry =>
    cases entry with
    | charge =>
      split
      · exact htaken nofun _
      · rfl
    | deposit | cancel | pause => rfl
  | other => rfl

theorem VaultStep.capsPositive (h : VaultStep l s t) (hpositive : s.CapsPositive)
    (hother : ∀ env, l = .other env → t.CapsPositive) : t.CapsPositive := by
  cases h with
  | call _ hrun => exact hpositive.of_agreeOff (VaultCall.capsKept hrun)
  | item hrun => exact hpositive.of_agreeOff ((BulkItem.capsKept _).ok hrun)
  | itemFailed hrun => exact hpositive.of_agreeOff ((BulkItem.capsKept _).err hrun)
  | other => exact hother _ rfl

/-- A deposit leaves no more on the subscription than can still be charged. -/
theorem VaultStep.deposits_within (h : VaultStep l s t) (hdeposits : l.Deposits id s)
    (hwithin : ∀ sub, s.subscription id = some sub → sub.WithinCap) {new : Subscription} {cap : Int}
    (hnew : t.subscription id = some new) (hcap : new.lifetimeCap = some cap) :
    new.prepaidBalance + new.lifetimeCharged ≤ cap := by
  have htops {v w : State} {sub new' : Subscription} {amount : Int} (hv : v.book = s.book)
      (hw : t.book = w.book) (htops : TopsUp v.book w.book id sub new' amount) :
      new.prepaidBalance + new.lifetimeCharged ≤ cap := by
    have hrecord : t.subscription id = some new' := by
      show t.book.record id = some new'
      rw [hw, htops.record]
      exact Function.update_self _ _ _
    obtain rfl := Option.some.inj (hrecord.symm.trans hnew)
    have hsub : sub.WithinCap := by
      have hreads := htops.reads
      rw [hv] at hreads
      obtain ⟨stored, hstored, rfl | ⟨-, rfl⟩⟩ := hreads
      · exact hwithin sub hstored
      · exact hwithin stored hstored
    exact htops.within hsub hcap
  cases h with
  | @call env call _ _ hsingle hrun =>
    clear hsingle
    cases call
    case depositFunds j amount nonce =>
      obtain rfl : j = id := hdeposits
      obtain ⟨u, hbody, hbook⟩ := run_locked_ok (run_guardedCall_ok.mp hrun).2
      obtain ⟨sub, new', h⟩ := doDepositFunds_topsUp hbody
      exact htops (s.book_lock _ true) hbook h
    case depositFundsOnBehalf j payer amount nonce =>
      obtain rfl : j = id := hdeposits
      obtain ⟨u, hbody, hbook⟩ := run_locked_ok (run_guardedCall_ok.mp hrun).2
      obtain ⟨sub, new', h⟩ := doDepositFundsOnBehalf_topsUp hbody
      exact htops (s.book_lock _ true) hbook h
    all_goals exact hdeposits.elim
  | @item env entry _ _ hrun =>
    cases entry with
    | deposit caller j amount =>
      obtain ⟨rfl, -⟩ := hdeposits
      obtain ⟨sub, new', h⟩ := bulkDepositOne_topsUp hrun
      exact htops rfl rfl h
    | charge | cancel | pause => exact hdeposits.elim
  | @itemFailed env entry _ _ e hrun =>
    cases entry with
    | deposit caller j amount =>
      obtain ⟨rfl, v, hv⟩ := hdeposits
      cases hv.symm.trans hrun
    | charge | cancel | pause => exact hdeposits.elim
  | other => exact hdeposits.elim

end Steps

/-! ## Runs -/

/-- Code outside the listed entrypoints sets a cap only where caps are set. -/
inductive SetsCaps (env : Env) (s t : State) : Prop
  | catalogue {call : CatalogueCall} : call.exec.run env s = .ok () t → SetsCaps env s t
  | default {call : CapCall} : call.exec.run env s = .ok () t → SetsCaps env s t
  | elsewhere : FiniteStore.AgreeOff capFree s t → SetsCaps env s t

def CapStep (l : VaultAction) (s t : State) : Prop :=
  VaultStep l s t ∧ ∀ env, l = .other env → SetsCaps env s t

/-- What has been charged to the subscription over the run. -/
def chargedOver (id : Nat) (hist : History VaultAction State) (s : State) : Int :=
  ((transitions hist s).map fun step => step.1.charges id step.2.1 step.2.2).sum

structure State.Capped (s : State) : Prop where
  numbered : s.book.Numbered
  positive : s.CapsPositive
  within : ∀ id sub, s.subscription id = some sub → sub.WithinCap

/-- The count is what was charged, it stays within the cap, and a deposit leaves no more on a
subscription than can still be charged. -/
structure CapsHold (hist : History VaultAction State) (s : State) : Prop where
  counted : ∀ id, chargedOver id hist s = s.lifetimeCharged id
  within : ∀ id sub cap, s.subscription id = some sub → sub.lifetimeCap = some cap →
    sub.lifetimeCharged ≤ cap
  deposited : ∀ l u v, (l, u, v) ∈ transitions hist s → ∀ id, l.Deposits id u →
    ∀ sub cap, v.subscription id = some sub → sub.lifetimeCap = some cap →
      sub.prepaidBalance + sub.lifetimeCharged ≤ cap

section Runs

variable {start s t : State} {l : VaultAction} {hist : History VaultAction State}

theorem SetsCaps.capsPositive {env : Env} (h : SetsCaps env s t) (hpositive : s.CapsPositive) :
    t.CapsPositive := by
  cases h with
  | catalogue hrun => exact CatalogueCall.capsPositive hrun hpositive
  | default hrun => exact CapCall.capsPositive hrun hpositive
  | elsewhere hagree => exact hpositive.of_agreeOff hagree

/-- A step counts what it charges to any number, in use or not. -/
theorem CapStep.capped (h : CapStep l s t) (hkeeps : l.KeepsCaps s) (hs : s.Capped) :
    t.Capped ∧ ∀ id, t.lifetimeCharged id = s.lifetimeCharged id + l.charges id s t := by
  have hcharged (u : State) (id : Nat) :
      u.lifetimeCharged id = (u.book.record id).elim 0 (·.lifetimeCharged) := rfl
  have hunused (id : Nat) (hid : s.book.nextId ≤ id) : s.book.record id = none :=
    hs.numbered.unused id hid
  have hkept (id : Nat) {sub : Subscription} (hsub : s.book.record id = some sub) :
      ∃ new, t.book.record id = some new ∧ sub.Counts (l.charges id s t) new := by
    refine h.1.counts hkeeps (fun _ hid => ?_) sub hsub
    rw [hunused id (Nat.le_of_eq hid.symm)] at hsub
    cases hsub
  have hfresh (id : Nat) (hnone : s.book.record id = none) :
      l.charges id s t = 0 ∧ ∀ new, t.book.record id = some new →
        new.lifetimeCharged = 0 ∧ new.WithinCap := by
    rcases (h.1.at_record id).of_unused hnone hkeeps.not_restore with hsame | ⟨hcreate, rfl⟩
    · refine ⟨VaultAction.charges_of_unused hkeeps hnone fun _ => hsame, fun new hnew => ?_⟩
      rw [hsame] at hnew
      cases hnew
    · refine ⟨VaultAction.charges_of_unused hkeeps hnone fun hop => absurd hcreate hop,
        fun new hnew => ?_⟩
      obtain ⟨created, hcreated, hzero, hcap⟩ := h.1.starts hcreate hs.positive
      obtain rfl := Option.some.inj (hcreated.symm.trans hnew)
      refine ⟨hzero, fun cap hnewCap => ?_⟩
      rw [hzero]
      exact (hcap cap hnewCap).le
  refine ⟨⟨numbered_of_step hs.numbered h.1 hkeeps.not_restore,
    h.1.capsPositive hs.positive fun env hl => (h.2 env hl).capsPositive hs.positive,
    fun id new hnew => ?_⟩, fun id => ?_⟩
  · cases hsub : s.book.record id with
    | none => exact ((hfresh id hsub).2 new hnew).2
    | some sub =>
      obtain ⟨found, hfound, hcounts⟩ := hkept id hsub
      obtain rfl := Option.some.inj (hfound.symm.trans hnew)
      exact hcounts.2 (hs.within id sub hsub)
  · rw [hcharged s, hcharged t]
    cases hsub : s.book.record id with
    | none =>
      obtain ⟨hzero, hnew⟩ := hfresh id hsub
      rw [hzero]
      cases hafter : t.book.record id with
      | none => rfl
      | some new => exact (hnew new hafter).1
    | some sub =>
      obtain ⟨new, hnew, hcounts⟩ := hkept id hsub
      rw [hnew]
      exact hcounts.1

theorem Deployed.capped (h : Deployed start) : start.Capped := by
  refine ⟨h.numbered, ?_, fun id sub hsub => ?_⟩
  · obtain ⟨env, token, tokenDecimals, admin, minTopup, gracePeriod, hrun⟩ := h
    have hempty : State.CapsPositive FiniteStore.empty := ⟨nofun, nofun, nofun⟩
    exact hempty.of_agreeOff ((doInit_capFree _ _ _ _ _).ok hrun)
  · have hnone : start.subscription id = none := congrArg (Book.record · id) h.book
    rw [hnone] at hsub
    cases hsub

theorem capped_of_run (hdeployed : Deployed start) (hrun : Run CapStep start hist s)
    (hkeeps : ∀ step ∈ hist, step.1.KeepsCaps step.2) :
    s.Capped ∧ ∀ id, chargedOver id hist s = s.lifetimeCharged id := by
  induction hrun with
  | start =>
    refine ⟨hdeployed.capped, fun id => ?_⟩
    have hnone : start.subscription id = none := congrArg (Book.record · id) hdeployed.book
    exact (congrArg (·.elim 0 Subscription.lifetimeCharged) hnone).symm
  | @next hist u v l _ hlast ih =>
    obtain ⟨hcapped, hcounted⟩ := ih fun step hmem => hkeeps step (List.mem_cons_of_mem _ hmem)
    obtain ⟨hcapped', hcharged⟩ := hlast.capped (hkeeps _ List.mem_cons_self) hcapped
    refine ⟨hcapped', fun id => ?_⟩
    have hsum : chargedOver id ((l, u) :: hist) v = l.charges id u v + chargedOver id hist u :=
      List.sum_cons
    rw [hsum, hcounted id, hcharged id]
    exact Int.add_comm _ _

end Runs

/-! ## A cap lowered in the grace period -/

private theorem run_capped {start s : State} {hist : History VaultAction State}
    (hrun : Run CapStep start hist s) {actions : List VaultAction}
    (h : actionsSucceed s actions = true) (hcalls : ∀ l ∈ actions, ∀ env, l ≠ .other env) :
    Run CapStep start (actionHistory s actions ++ hist) (actionsAfter s actions) := by
  induction actions with
  | nil => exact hrun
  | cons l earlier ih =>
    simp only [actionsSucceed, Bool.and_eq_true, Bool.not_eq_true'] at h
    obtain ⟨⟨hearlier, hsingle⟩, hsucceeds⟩ := h
    exact (ih hearlier fun l' hmem => hcalls l' (List.mem_cons_of_mem _ hmem)).next
      ⟨VaultAction.step_of_run hsingle (run_eq_after hsucceeds),
        fun env hl => absurd hl (hcalls l List.mem_cons_self env)⟩

private theorem sampleVault_capped (gracePeriod : Nat) :
    Run CapStep (sampleStart gracePeriod) [(.other (sampleEnv 0 []), sampleStart gracePeriod)]
      (afterCalls (sampleVault gracePeriod)) :=
  .next .start ⟨.other ((sample_areas gracePeriod).mono (areas_subset_unbooked rfl)),
    fun _ _ => .elsewhere ((sample_areas gracePeriod).mono (areas_subset_capFree rfl))⟩

private def chargedActions : List VaultAction :=
  [.call (sampleEnv 60 []) (.chargeSubscription 0 none),
   .call (sampleEnv 0 [⟨2⟩]) (.depositFunds 0 20 none),
   .call (sampleEnv 0 [⟨2⟩]) (.createSubscription { sampleRequest with lifetimeCap := some 20 })]

private def loweredActions : List VaultAction :=
  [.call (sampleEnv 62 [⟨2⟩]) (.graceBuyout 0 ⟨2⟩ 10 none),
   .call (sampleEnv 61 [⟨8⟩]) (.updateSubscriptionCap ⟨8⟩ 0 (some 5)),
   .call (sampleEnv 61 []) (.chargeSubscription 0 none),
   .call (sampleEnv 0 [⟨2⟩]) (.createSubscription sampleRequest)]

end SubscriptionVault
