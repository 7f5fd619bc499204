import SubscriptionVault.Charging.Shortfall
import SubscriptionVault.Charging.UsageCharge
import SubscriptionVault.Lifecycle.Changes

/-!
# Charges and the book

What an interval charge and a usage charge do to the book of subscriptions. An interval charge
that fails halfway may leave the debited record behind when it runs in a batch, so the changes
cover every end of a charge, not only the successful ones.
-/

namespace SubscriptionVault

open Exec

/-! ## Quiet code -/

section Quiet

variable {α β : Type} {env : Env} {s : State} {P : Outcome Error State β → Prop}

theorem outcome_of_bind {x : Vault α} {f : α → Vault β} (htrap : P .trap)
    (herr : ∀ e t, x.run env s = .err e t → P (.err e t))
    (hok : ∀ a t, x.run env s = .ok a t → P ((f a).run env t)) :
    P ((x >>= f).run env s) := by
  cases hrun : x.run env s with
  | ok a t => exact (run_bind_of_ok hrun) ▸ hok a t hrun
  | err e t => exact (run_bind_of_err hrun) ▸ herr e t hrun
  | trap => exact (run_bind_of_trap hrun) ▸ htrap

/-- Code that leaves the book alone may come first. -/
theorem outcome_of_quiet {x : Vault α} {f : α → Vault β} {b : Book} (hx : Modifies unbooked x)
    (hbook : s.book = b) (htrap : P .trap)
    (herr : ∀ (e : Error) (t : State), t.book = b → P (.err e t))
    (hok : ∀ a t, x.run env s = .ok a t → t.book = b → P ((f a).run env t)) :
    P ((x >>= f).run env s) :=
  outcome_of_bind htrap
    (fun e t hrun => herr e t ((State.book_of_unbooked (hx.err hrun)).trans hbook))
    fun a t hrun => hok a t hrun ((hx.book hrun).trans hbook)

end Quiet

theorem creditSlots_subset_unbooked : creditSlots ⊆ unbooked := by
  intro k hk
  have hk : k.isCredit = true := hk
  show k.bookPart = none
  cases k with
  | persistent key => cases key <;> cases hk
  | instanced key => cases key <;> first | rfl | cases hk
  | symbol key => cases hk
  | lock name => cases hk
  | tokenBalance token holder => cases hk
  | subAccountFunds merchant label token => rfl

theorem logSlots_subset_unbooked : logSlots ⊆ unbooked := by
  intro k hk
  have hk : k.isLog = true := hk
  show k.bookPart = none
  cases k with
  | persistent key => cases key <;> first | rfl | cases hk
  | instanced key => cases key <;> first | rfl | cases hk
  | symbol key => rfl
  | lock name => cases hk
  | tokenBalance token holder => cases hk
  | subAccountFunds merchant label token => cases hk

/-! ## Booked intervals -/

section Booked

variable {sub booked new : Subscription} {amount newBalance : Int} {now : Nat}

/-- The record a funded charge of one interval leads to. -/
def Subscription.SettledTo (sub new : Subscription) (amount : Int) (now : Nat) : Prop :=
  new.status = (if new.capReached then .cancelled else .active) ∧
    new = { sub with
      prepaidBalance := sub.prepaidBalance - amount
      lastPaymentTimestamp := max now sub.lastPaymentTimestamp
      lifetimeCharged := sub.lifetimeCharged + amount
      status := new.status
      graceStartTimestamp := new.graceStartTimestamp }

theorem Subscription.settledTo_of_booked (hchargeable : sub.isChargeable)
    (hbalance : safeSubBalance sub.prepaidBalance amount = .ok newBalance)
    (hbooked : sub.booked amount newBalance now = .ok booked)
    (hnew : booked.cancelledWhenCapped = .ok new) : sub.SettledTo new amount now := by
  obtain ⟨-, -, rfl, -⟩ := safeSubBalance_ok.mp hbalance
  have hactive : booked.status = .active ∧ booked = { sub with
      prepaidBalance := sub.prepaidBalance - amount
      lastPaymentTimestamp := max now sub.lastPaymentTimestamp
      lifetimeCharged := sub.lifetimeCharged + amount
      status := booked.status
      graceStartTimestamp := booked.graceStartTimestamp } := by
    unfold Subscription.booked at hbooked
    obtain ⟨lifetime, hlifetime, hbooked⟩ := except_bind_ok.mp hbooked
    obtain ⟨rfl, -⟩ := safeAdd_ok.mp hlifetime
    split at hbooked
    · obtain ⟨status, hstatus, hbooked⟩ := except_bind_ok.mp hbooked
      obtain ⟨-, rfl⟩ := transitionTo_ok.mp hstatus
      cases hbooked
      exact ⟨rfl, rfl⟩
    · rename_i hbehind
      cases hbooked
      refine ⟨?_, rfl⟩
      rcases hchargeable with h | h | h
      · exact h
      · exact absurd (.inl h) hbehind
      · exact absurd (.inr h) hbehind
  unfold Subscription.cancelledWhenCapped at hnew
  split at hnew
  · rename_i hcap
    obtain ⟨status, hstatus, rfl⟩ := except_map_ok.mp hnew
    obtain ⟨-, rfl⟩ := transitionTo_ok.mp hstatus
    refine ⟨?_, ?_⟩
    · show SubscriptionStatus.cancelled = if booked.capReached then .cancelled else .active
      rw [if_pos hcap]
    · rw [hactive.2]
  · rename_i hcap
    obtain rfl := Except.ok.inj hnew
    refine ⟨?_, hactive.2⟩
    rw [if_neg hcap]
    exact hactive.1

end Booked

/-! ## Interval charges -/

/-- The mark of a charge of the period. -/
def Book.marked (b : Book) (id period : Nat) (salt : BytesN32) : Book :=
  (b.setPeriod id period).setSalt id salt

theorem IntervalDue.reads {env : Env} {s : State} {id : Nat} {sub : Subscription} {amount : Int}
    (h : IntervalDue env s id sub amount) : s.book.Reads id sub :=
  Book.reads_of_effective h.found

theorem DueCharge.intervalDue {env : Env} {s : State} {id : Nat} {key : Option BytesN32}
    {sub : Subscription} {amount : Int} {next : Nat}
    (h : DueCharge env s id key sub amount next) : IntervalDue env s id sub amount :=
  { h with
    elapsed := by
      have hnext := (nextChargeTime_ok.mp h.next).1
      have helapsed := h.elapsed
      omega }

/-- The amount an interval costs is booked, and the period marked unless the charge failed
before that. -/
def BooksInterval (env : Env) (s : State) (id : Nat) (b' : Book) : Prop :=
  ∃ sub new amount, IntervalDue env s id sub amount ∧
    (0 ≤ amount ∧ amount ≤ sub.prepaidBalance) ∧ sub.SettledTo new amount env.now ∧
    (b' = s.book.setRecord id new ∨
      b' = (s.book.setRecord id new).marked id (sub.periodIndex env.now)
        (env.host.chargeSalt id sub.lastPaymentTimestamp env.sequence))

/-- How the funded branch of a charge can end, by what it has done to the book. -/
inductive SettleEnds (env : Env) (s : State) (id : Nat) (sub : Subscription)
    (charge : IntervalCharge) : Outcome Error State Unit → Prop
  | trap : SettleEnds env s id sub charge .trap
  | unwritten (e : Error) {t : State} : t.book = s.book → SettleEnds env s id sub charge (.err e t)
  | unmarked (e : Error) {t : State} {new : Subscription} :
      sub.SettledTo new charge.amount env.now → t.book = s.book.setRecord id new →
      SettleEnds env s id sub charge (.err e t)
  | unkeyed (e : Error) {t : State} {new : Subscription} :
      sub.SettledTo new charge.amount env.now →
      t.book = (s.book.setRecord id new).marked id charge.periodIndex charge.salt →
      SettleEnds env s id sub charge (.err e t)
  | complete {t : State} {new : Subscription} :
      sub.SettledTo new charge.amount env.now →
      t.book = (s.book.setRecord id new).marked id charge.periodIndex charge.salt →
      SettleEnds env s id sub charge (.ok () t)

section Settle

variable {env : Env} {s : State} {id : Nat} {sub : Subscription} {charge : IntervalCharge}

theorem book_of_delete {k : Slot} (hk : k ∈ unbooked) : State.book (s.remove k) = s.book :=
  State.book_of_unbooked (s.agreeOff_remove hk)

theorem settleInterval_ends (env : Env) (s : State) (id : Nat) (hchargeable : sub.isChargeable)
    (hbalance : safeSubBalance sub.prepaidBalance charge.amount = .ok charge.newBalance)
    (key : Option BytesN32) :
    SettleEnds env s id sub charge ((settleInterval id sub charge key none).run env s) := by
  have hcredit {α : Type} {x : Vault α} (hx : Modifies creditSlots x) : Modifies unbooked x :=
    hx.weaken creditSlots_subset_unbooked
  have hlog {α : Type} {x : Vault α} (hx : Modifies logSlots x) : Modifies unbooked x :=
    hx.weaken logSlots_subset_unbooked
  let P := SettleEnds env s id sub charge
  have hstart (e : Error) (t : State) (h : t.book = s.book) : P (.err e t) := .unwritten e h
  refine outcome_of_quiet (P := P) .ask rfl .trap hstart fun env' s₁ hask h₁ => ?_
  obtain ⟨rfl, -⟩ := run_ask_ok.mp hask
  refine outcome_of_quiet (P := P) (.gets _) h₁ .trap hstart fun terms s₂ _ h₂ => ?_
  refine outcome_of_quiet (P := P) (.lift _) h₂ .trap hstart fun split s₃ _ h₃ => ?_
  refine outcome_of_quiet (P := P) (hcredit (Modifies.creditChargePayees _ _ _ _)) h₃ .trap hstart
    fun _ s₄ _ h₄ => ?_
  refine outcome_of_quiet (P := P) (hcredit (Modifies.routeToSubAccount _ _)) h₄ .trap hstart
    fun _ s₅ _ h₅ => ?_
  refine outcome_of_quiet (P := P) (hcredit (Modifies.creditProtocolFee _ _ _ _)) h₅ .trap hstart
    fun _ s₆ _ h₆ => ?_
  refine outcome_of_quiet (P := P) (.lift _) h₆ .trap hstart fun booked s₇ hbooked h₇ => ?_
  refine outcome_of_quiet (P := P) (Modifies.delete rfl) h₇ .trap hstart fun _ s₈ _ h₈ => ?_
  refine outcome_of_quiet (P := P) (.lift _) h₈ .trap hstart fun new s₉ hnew h₉ => ?_
  have hsettled : sub.SettledTo new charge.amount env.now :=
    Subscription.settledTo_of_booked hchargeable hbalance (run_lift_ok.mp hbooked).1
      (run_lift_ok.mp hnew).1
  -- from here on the record is written
  have hwritten (e : Error) (t : State) (h : t.book = s.book.setRecord id new) : P (.err e t) :=
    .unmarked e hsettled h
  refine outcome_of_bind (P := P) .trap (by simp [writeSubscription]) fun _ s₁₀ hwrite => ?_
  have h₁₀ : s₁₀.book = s.book.setRecord id new := by
    rw [book_of_writeSubscription hwrite, h₉]
  refine outcome_of_quiet (P := P) (hlog (Modifies.appendStatement _ _ _ _ _ _ _)) h₁₀ .trap
    hwritten fun _ s₁₁ _ h₁₁ => ?_
  refine outcome_of_quiet (P := P) (hlog (Modifies.writePeriodSnapshot _)) h₁₁ .trap hwritten
    fun _ s₁₂ _ h₁₂ => ?_
  refine outcome_of_bind (P := P) .trap (by simp) fun _ s₁₃ hperiod => ?_
  refine outcome_of_bind (P := P) .trap (by simp) fun _ s₁₄ hsalt => ?_
  have h₁₄ : s₁₄.book = (s.book.setRecord id new).marked id charge.periodIndex charge.salt := by
    rw [← run_store_ok.mp hsalt, ← run_store_ok.mp hperiod, State.book_write_salt,
      State.book_write_period, h₁₂]
    rfl
  have hkey := hlog (Modifies.recordIdemKey .chargeInterval id key)
  cases hrun : (recordIdemKey .chargeInterval id key).run env s₁₄ with
  | trap => exact .trap
  | err e t => exact .unkeyed e hsettled ((State.book_of_unbooked (hkey.err hrun)).trans h₁₄)
  | ok _ t => exact .complete hsettled ((hkey.book hrun).trans h₁₄)

end Settle

/-- Everything an interval charge may do to the book, whether it succeeds or not. -/
inductive IntervalChanges (env : Env) (s : State) (id : Nat) : Book → Prop
  | unchanged : IntervalChanges env s id s.book
  | expired {sub : Subscription} :
      Admitted env s id sub → sub.isExpired env.now env.sequence = true →
      canTransition sub.status .expired →
      IntervalChanges env s id (s.book.setRecord id { sub with status := .expired })
  | capped {sub : Subscription} :
      Cleared env s id sub → sub.status ≠ .cancelled → canTransition sub.status .cancelled →
      CapBlocks env s id sub →
      IntervalChanges env s id (s.book.setRecord id { sub with status := .cancelled })
  | cancelled {sub : Subscription} :
      Cleared env s id sub → sub.status ≠ .cancelled → canTransition sub.status .cancelled →
      sub.cancelAt.any (· ≤ env.now) = true →
      IntervalChanges env s id (s.book.setRecord id
        { sub with status := .cancelled, prepaidBalance := 0, cancelAt := none })
  | short {sub new : Subscription} {amount : Int} {e : Error} :
      IntervalDue env s id sub amount → safeSubBalance sub.prepaidBalance amount = .error e →
      new.status = .gracePeriod ∨ new.status = .insufficientBalance ∨
        (new.status = .paused ∧ s.gracePeriod = .ok 0 ∧ 0 < s.autoPauseThreshold ∧
          s.autoPauseThreshold ≤ s.failuresNow id) →
      new = { sub with
        status := new.status
        graceStartTimestamp := new.graceStartTimestamp } →
      IntervalChanges env s id (s.book.setRecord id new)
  | booked {b' : Book} : BooksInterval env s id b' → IntervalChanges env s id b'

section Interval

variable {env : Env} {s t : State} {id : Nat} {sub short : Subscription} {key : Option BytesN32}
  {amount : Int} {next : Nat} {e : Error} {u : Unit}

theorem failIfExpired_book (hrun : (failIfExpired id sub).run env s = .err e t) :
    t.book = s.book ∨ sub.isExpired env.now env.sequence = true ∧
      canTransition sub.status .expired ∧
      t.book = s.book.setRecord id { sub with status := .expired } := by
  simp only [failIfExpired, run_bind_err, run_ask_err, run_ask_ok, false_or, run_when_err,
    run_when_ok, run_lift_err, run_bind_ok, run_lift_ok, transitionTo_ok, writeSubscription,
    run_store_err, run_store_ok, and_false, exists_false, or_false, run_fail_err] at hrun
  obtain ⟨_, _, ⟨rfl, rfl⟩, hexpired, ⟨-, -, rfl⟩ | ⟨_, _, hmark, -, rfl⟩⟩ := hrun
  · exact .inl rfl
  · rcases hmark with ⟨-, _, _, ⟨⟨hstatus, rfl⟩, rfl⟩, rfl⟩ | ⟨-, rfl⟩
    · exact .inr ⟨hexpired, hstatus, s.book_write_sub id _⟩
    · exact .inl rfl

theorem cancelCapped_book (hrun : (cancelCapped id sub).run env s = .ok u t) :
    canTransition sub.status .cancelled ∧
      t.book = s.book.setRecord id { sub with status := .cancelled } := by
  simp only [cancelCapped, run_bind_ok, run_lift_ok, transitionTo_ok] at hrun
  obtain ⟨_, _, ⟨⟨hstatus, rfl⟩, rfl⟩, hwrite⟩ := hrun
  exact ⟨hstatus, book_of_writeSubscription hwrite⟩

theorem book_of_transfer {token sender receiver : Address} {amount : Int}
    (hrun : (transfer token sender receiver amount).run env s = .ok u t) : t.book = s.book :=
  (Modifies.transfer (S := unbooked) rfl rfl).book hrun

theorem fireScheduledCancellation_book (hstatus : sub.status ≠ .cancelled)
    (hrun : (fireScheduledCancellation id sub).run env s = .ok u t) :
    canTransition sub.status .cancelled ∧
      t.book = s.book.setRecord id
        { sub with status := .cancelled, prepaidBalance := 0, cancelAt := none } := by
  simp only [fireScheduledCancellation, subTotalAccounted, run_when_ok, run_bind_ok, run_lift_ok,
    transitionTo_ok, run_ask_ok, run_pure_ok, true_and] at hrun
  rcases hrun with ⟨-, _, _, ⟨⟨hcancel, rfl⟩, rfl⟩, _, s₁, hwrite, hpay⟩ | ⟨hcancelled, -⟩
  · refine ⟨hcancel, ?_⟩
    rcases hpay with ⟨-, _, _, ⟨rfl, rfl⟩, _, _, htransfer, rfl⟩ | ⟨-, rfl⟩
    · rw [book_of_transfer htransfer, book_of_writeSubscription hwrite]
    · exact book_of_writeSubscription hwrite
  · exact absurd hstatus hcancelled

theorem withShortfall_book (s : State) (id : Nat) (short : Subscription) :
    ∃ new, (s.withShortfall id short).book = s.book.setRecord id new ∧
      (new = short ∨ new = { short with status := .paused } ∧
        short.status = .insufficientBalance ∧ 0 < s.autoPauseThreshold ∧
        s.autoPauseThreshold ≤ s.failuresNow id) := by
  have hslots : shortfallSlots id ⊆ outsideExcept .record := by
    rintro k (rfl | rfl)
    · exact .inr rfl
    · exact .inl rfl
  have hagree := s.withShortfall_agreeOff id short
  have hsame : (s.withShortfall id short).book =
      { s.book with record := (s.withShortfall id short).subscription } :=
    State.book_sameBut (hagree.mono hslots)
  have hbook (new : Subscription) (hnew : (s.withShortfall id short).subscription id = some new) :
      (s.withShortfall id short).book = s.book.setRecord id new := by
    refine hsame.trans (congrArg (fun record => { s.book with record }) (funext fun j => ?_))
    by_cases hj : j = id
    · subst hj
      rw [hnew, Function.update_self]
    · rw [Function.update_of_ne hj]
      exact hagree.read (by simp [shortfallSlots, hj])
  have hrecord := s.subscription_withShortfall id short
  by_cases hpaused : 0 < s.autoPauseThreshold ∧ short.status = .insufficientBalance ∧
      s.autoPauseThreshold ≤ s.failuresNow id
  · rw [if_pos hpaused] at hrecord
    exact ⟨_, hbook _ hrecord, .inr ⟨rfl, hpaused.2.1, hpaused.1, hpaused.2.2⟩⟩
  · rw [if_neg hpaused] at hrecord
    exact ⟨_, hbook _ hrecord, .inl rfl⟩

theorem Subscription.fallenBehind_eq (sub : Subscription) (grace now : Nat) :
    sub.fallenBehind grace now = { sub with
      status := (sub.fallenBehind grace now).status
      graceStartTimestamp := (sub.fallenBehind grace now).graceStartTimestamp } := by
  unfold Subscription.fallenBehind
  split
  · rfl
  · split <;> rfl

theorem recordShortfall_book (hdue : DueCharge env s id key sub amount next)
    (hbalance : safeSubBalance sub.prepaidBalance amount = .error e)
    (hrun : (recordShortfall id sub none).run env s = .ok u t) :
    IntervalChanges env s id t.book := by
  obtain ⟨grace, short, hgrace, hshort, rfl⟩ := run_recordShortfall_ok.mp hrun
  obtain ⟨-, rfl⟩ := (underfunded_ok hgrace hdue.found hdue.chargeable).mp hshort
  obtain ⟨new, hbook, hnew⟩ := withShortfall_book s id (sub.fallenBehind grace env.now)
  have hfallen := sub.fallenBehind_eq grace env.now
  have hstatus := sub.fallenBehind_status grace env.now
  rw [hbook]
  rcases hnew with rfl | ⟨rfl, hbehind, hthreshold, hreached⟩
  · refine .short hdue.intervalDue hbalance ?_ hfallen
    split at hstatus
    · exact .inl hstatus
    · exact .inr (.inl hstatus)
  · have hzero : grace = 0 := by
      by_contra hpositive
      rw [hbehind, if_pos (.inr (Nat.pos_of_ne_zero hpositive))] at hstatus
      cases hstatus
    refine .short hdue.intervalDue hbalance
      (.inr (.inr ⟨rfl, hzero ▸ hgrace, hthreshold, hreached⟩)) ?_
    rw [hfallen]

/-- Wherever an interval charge ends, the book has changed in one of the listed ways. -/
theorem chargeOne_changes (env : Env) (s : State) (id : Nat) (key : Option BytesN32) :
    ((chargeOne id key none ∅).run env s).Leaves fun t => IntervalChanges env s id t.book := by
  have hfunded {sub : Subscription} {amount balance : Int}
      (h : safeSubBalance sub.prepaidBalance amount = .ok balance) :
      0 ≤ amount ∧ amount ≤ sub.prepaidBalance :=
    ⟨(safeSubBalance_ok.mp h).1, (safeSubBalance_ok.mp h).2.1⟩
  have houtcome := chargeOne_outcome env s id key
  generalize (chargeOne id key none ∅).run env s = outcome at houtcome ⊢
  cases houtcome with
  | trap => trivial
  | refused e => exact .unchanged
  | @expired sub t hadmitted hrun =>
    show IntervalChanges env s id t.book
    rcases failIfExpired_book hrun with hbook | ⟨hexpired, hstatus, hbook⟩
    · rw [hbook]
      exact .unchanged
    · rw [hbook]
      exact .expired hadmitted hexpired hstatus
  | idle hfound _ _ _ => exact .unchanged
  | @capped sub t hclear hstatus hblocks hrun =>
    show IntervalChanges env s id t.book
    obtain ⟨hcancel, hbook⟩ := cancelCapped_book hrun
    rw [hbook]
    exact .capped hclear hstatus hcancel hblocks
  | @cancelled sub t hclear hstatus hdue hrun =>
    show IntervalChanges env s id t.book
    obtain ⟨hcancel, hbook⟩ := fireScheduledCancellation_book hstatus hrun
    rw [hbook]
    exact .cancelled hclear hstatus hcancel hdue
  | short hdue hbalance hrun => exact recordShortfall_book hdue hbalance hrun
  | @settled sub charge t hdue hbalance hperiod hsalt hrun =>
    have hends := settleInterval_ends env s id hdue.chargeable hbalance key
    rw [hrun] at hends
    cases hends with
    | complete hnew hbook =>
      rw [hperiod, hsalt] at hbook
      exact .booked ⟨_, _, _, hdue.intervalDue, hfunded hbalance, hnew, .inr hbook⟩
  | @unsettled sub charge e t hdue hbalance hperiod hsalt hrun =>
    have hends := settleInterval_ends env s id hdue.chargeable hbalance key
    rw [hrun] at hends
    show IntervalChanges env s id t.book
    cases hends with
    | unwritten _ hbook =>
      rw [hbook]
      exact .unchanged
    | unmarked _ hnew hbook =>
      exact .booked ⟨_, _, _, hdue.intervalDue, hfunded hbalance, hnew, .inl hbook⟩
    | unkeyed _ hnew hbook =>
      rw [hperiod, hsalt] at hbook
      exact .booked ⟨_, _, _, hdue.intervalDue, hfunded hbalance, hnew, .inr hbook⟩

/-- A charge that is no replay and reports success has booked the interval. -/
theorem chargeOne_charged (hfresh : s.isReplayedKey env .chargeInterval id key = false)
    (hrun : (chargeOne id key none ∅).run env s = .ok .charged t) :
    ∃ sub new amount, IntervalDue env s id sub amount ∧
      sub.SettledTo new amount env.now ∧
      t.book = (s.book.setRecord id new).marked id (sub.periodIndex env.now)
        (env.host.chargeSalt id sub.lastPaymentTimestamp env.sequence) := by
  have houtcome := chargeOne_outcome env s id key
  rw [hrun] at houtcome
  cases houtcome with
  | idle _ hreplay _ _ => simp [hfresh] at hreplay
  | settled hdue hbalance hperiod hsalt hsettle =>
    have hends := settleInterval_ends env s id hdue.chargeable hbalance key
    rw [hsettle] at hends
    cases hends with
    | complete hnew hbook =>
      rw [hperiod, hsalt] at hbook
      exact ⟨_, _, _, hdue.intervalDue, hnew, hbook⟩

end Interval

/-! ## Usage charges -/

/-- The record a usage charge leads to. -/
def Subscription.UsageSettledTo (sub new : Subscription) (usageAmount : Int) : Prop :=
  new.status = (if new.capReached then .cancelled
    else if new.prepaidBalance = 0 then .insufficientBalance else .active) ∧
    new = { sub with
      prepaidBalance := sub.prepaidBalance - usageAmount
      lifetimeCharged := sub.lifetimeCharged + usageAmount
      status := new.status }

/-- Everything a successful usage charge may do to the book. -/
inductive UsageChanges (env : Env) (s : State) (id : Nat) (usageAmount : Int) : Book → Prop
  | unchanged : UsageChanges env s id usageAmount s.book
  | capped {sub : Subscription} {reference : Bytes} :
      UsageDue env s id sub usageAmount reference → sub.capExceededBy usageAmount = true →
      UsageChanges env s id usageAmount (s.book.setRecord id { sub with status := .cancelled })
  | booked {sub new : Subscription} {reference : Bytes} :
      UsageDue env s id sub usageAmount reference → sub.capExceededBy usageAmount = false →
      sub.UsageSettledTo new usageAmount →
      UsageChanges env s id usageAmount (s.book.setRecord id new)
  | unfit {sub : Subscription} {reference : Bytes} :
      UsageDue env s id sub usageAmount reference →
      UsageChanges env s id usageAmount
        (s.book.setRecord id { sub with status := .insufficientBalance })

section Usage

variable {env : Env} {s t : State} {id : Nat} {sub : Subscription} {usageAmount : Int}
  {reference : Bytes}

theorem Subscription.usageSettledTo_of_booked {new : Subscription} {balance : Int}
    (hactive : sub.status = .active)
    (hbalance : safeSubBalance sub.prepaidBalance usageAmount = .ok balance)
    (hbooked : sub.usageBooked (sub.lifetimeCharged + usageAmount) balance = .ok new) :
    sub.UsageSettledTo new usageAmount := by
  obtain ⟨-, -, rfl, -⟩ := safeSubBalance_ok.mp hbalance
  unfold Subscription.usageBooked at hbooked
  dsimp only at hbooked
  split at hbooked
  · rename_i hcap
    obtain ⟨status, hstatus, rfl⟩ := except_map_ok.mp hbooked
    obtain ⟨-, rfl⟩ := transitionTo_ok.mp hstatus
    exact ⟨(if_pos hcap).symm, rfl⟩
  · rename_i hcap
    split at hbooked
    · rename_i hempty
      obtain ⟨status, hstatus, rfl⟩ := except_map_ok.mp hbooked
      obtain ⟨-, rfl⟩ := transitionTo_ok.mp hstatus
      exact ⟨((if_neg hcap).trans (if_pos hempty)).symm, rfl⟩
    · rename_i hempty
      obtain rfl := Except.ok.inj hbooked
      exact ⟨hactive.trans ((if_neg hcap).trans (if_neg hempty)).symm, rfl⟩

theorem settleUsage_book {pending balance : Int} {u : Unit}
    (hrun : (settleUsage id sub usageAmount pending balance reference).run env s = .ok u t) :
    ∃ new, sub.usageBooked pending balance = .ok new ∧ t.book = s.book.setRecord id new := by
  have hcredit {α : Type} {x : Vault α} (hx : Modifies creditSlots x) : Modifies unbooked x :=
    hx.weaken creditSlots_subset_unbooked
  have hlog {α : Type} {x : Vault α} (hx : Modifies logSlots x) : Modifies unbooked x :=
    hx.weaken logSlots_subset_unbooked
  obtain ⟨_, -, hrun⟩ := run_check_ok .ask hrun
  obtain ⟨_, -, hrun⟩ := run_check_ok (.gets _) hrun
  obtain ⟨_, -, hrun⟩ := run_check_ok (.gets _) hrun
  obtain ⟨_, -, hrun⟩ := run_check_ok (.lift _) hrun
  obtain ⟨_, s₁, -, h₁, hrun⟩ :=
    run_quiet_ok (hcredit (Modifies.creditChargePayees _ _ _ _)) hrun
  obtain ⟨_, s₂, -, h₂, hrun⟩ := run_quiet_ok (hcredit (Modifies.routeToSubAccount _ _)) hrun
  obtain ⟨_, s₃, -, h₃, hrun⟩ :=
    run_quiet_ok (hcredit (Modifies.creditProtocolFee _ _ _ _)) hrun
  obtain ⟨new, hnew, hrun⟩ := run_check_ok (.lift _) hrun
  obtain ⟨_, s₄, hwrite, hrun⟩ := run_bind_ok.mp hrun
  have h₄ : s₄.book = s.book.setRecord id new := by
    rw [book_of_writeSubscription hwrite, h₃, h₂, h₁]
  obtain ⟨_, s₅, -, h₅, hrun⟩ := run_quiet_ok (Modifies.store rfl) hrun
  obtain ⟨_, -, hrun⟩ := run_check_ok (.require _) hrun
  obtain ⟨_, -, hrun⟩ := run_check_ok (.failIf _ _) hrun
  obtain ⟨_, -, hrun⟩ := run_check_ok (.okOr _ _) hrun
  obtain ⟨_, s₆, -, h₆, hrun⟩ := run_quiet_ok (hlog (Modifies.writePeriodSnapshot _)) hrun
  have h₇ := (hlog (Modifies.appendStatement _ _ _ _ _ _ _)).book hrun
  exact ⟨new, (run_lift_ok.mp hnew).1, by rw [h₇, h₆, h₅, h₄]⟩

theorem UsageDue.reads (h : UsageDue env s id sub usageAmount reference) :
    s.book.Reads id sub :=
  Book.reads_of_effective h.found

theorem applyUsageLimits_book {rejected : Option UsageChargeResult}
    (hrun : (applyUsageLimits id sub usageAmount).run env s = .ok rejected t) :
    t.book = s.book :=
  ((Modifies.applyUsageLimits _ _ _).weaken logSlots_subset_unbooked).book hrun

theorem chargeUsageOne_book {result : UsageChargeResult}
    (hrun : (chargeUsageOne id usageAmount reference).run env s = .ok result t) :
    UsageChanges env s id usageAmount t.book := by
  cases chargeUsageOne_outcome hrun with
  | refused => exact .unchanged
  | rejected _ _ _ _ _ hlimits =>
    rw [applyUsageLimits_book hlimits]
    exact .unchanged
  | capped hdue hlimits hcap hcancel =>
    rw [(cancelCapped_book hcancel).2, applyUsageLimits_book hlimits]
    exact .capped hdue hcap
  | settled hdue hlimits hcap _ hbalance hsettle =>
    obtain ⟨new, hnew, hwritten⟩ := settleUsage_book hsettle
    rw [hwritten, applyUsageLimits_book hlimits]
    exact .booked hdue hcap (Subscription.usageSettledTo_of_booked hdue.active hbalance hnew)
  | @unfit sub u hdue hlimits _ _ =>
    rw [u.book_write_sub, applyUsageLimits_book hlimits]
    exact .unfit hdue

end Usage

end SubscriptionVault
