import SubscriptionVault.Lifecycle.OneRecord

/-!
# Terms of a subscription

Once a subscription exists, its token, its start, its wall-clock bound and its sub-account label
stay what they are, unless a snapshot is restored over it. The ledger bound is an exception: it
has a call of its own, and no other call touches it.
-/

namespace SubscriptionVault

open Exec

/-- The operations whose relation leaves the ledger bound open. -/
def Operation.mayRebind : Operation → Bool
  | .edit _ | .deposit _ => true
  | _ => false

structure Subscription.CarriedBy (op : Operation) (sub new : Subscription) : Prop where
  token : new.token = sub.token
  startTime : new.startTime = sub.startTime
  expiresAt : new.expiresAt = sub.expiresAt
  label : new.subAccountLabel = sub.subAccountLabel
  bound : op.mayRebind = false → new.expiresAtLedger = sub.expiresAtLedger

/-! ## Operations -/

section Changes

variable {env : Env} {s : State} {b b' : Book} {id : Nat} {op : Operation}
  {sub new mid : Subscription}

theorem Subscription.CarriedBy.refl (sub : Subscription) : sub.CarriedBy op sub :=
  ⟨rfl, rfl, rfl, rfl, fun _ => rfl⟩

theorem Subscription.CarriedBy.trans (h : sub.CarriedBy op mid) (h' : mid.CarriedBy op new) :
    sub.CarriedBy op new where
  token := h'.token.trans h.token
  startTime := h'.startTime.trans h.startTime
  expiresAt := h'.expiresAt.trans h.expiresAt
  label := h'.label.trans h.label
  bound hfixed := (h'.bound hfixed).trans (h.bound hfixed)

/-- One record is written, and no term of it changes. -/
theorem Book.carries_of_set (hreads : b.Reads id sub)
    (hrecord : b'.record = (b.setRecord id new).record) (hnew : sub.CarriedBy op new) (j : Nat) :
    b.Carries j b' (Subscription.CarriedBy op) :=
  .of_edit .refl hreads
    (fun _ => ⟨hnew.token, hnew.startTime, hnew.expiresAt, hnew.label, hnew.bound⟩) hrecord j

theorem Book.carries_trans {b'' : Book} {j : Nat}
    (h : b.Carries j b' (Subscription.CarriedBy op))
    (h' : b'.Carries j b'' (Subscription.CarriedBy op)) :
    b.Carries j b'' (Subscription.CarriedBy op) := by
  intro sub hsub
  obtain ⟨mid, hmid, hfirst⟩ := h sub hsub
  obtain ⟨new, hnew, hrest⟩ := h' mid hmid
  exact ⟨new, hnew, hfirst.trans hrest⟩

theorem EditsRecord.carries (h : EditsRecord b id b') (hop : op.mayRebind = true) (j : Nat) :
    b.Carries j b' (Subscription.CarriedBy op) := by
  obtain ⟨sub, new, hreads, hnew, rfl⟩ := h
  have hfree : ¬op.mayRebind = false := by rw [hop]; decide
  refine Book.carries_of_set hreads rfl ?_ j
  rw [hnew]
  exact ⟨rfl, rfl, rfl, rfl, fun hfixed => absurd hfixed hfree⟩

theorem RevivesRecord.carries (h : RevivesRecord b id b') (j : Nat) :
    b.Carries j b' (Subscription.CarriedBy op) := by
  obtain ⟨sub, new, hreads, -, hnew, rfl⟩ := h
  refine Book.carries_of_set hreads rfl ?_ j
  rw [hnew]
  exact ⟨rfl, rfl, rfl, rfl, fun _ => rfl⟩

theorem ResumesRecord.carries (h : ResumesRecord b id b') (j : Nat) :
    b.Carries j b' (Subscription.CarriedBy op) := by
  obtain ⟨sub, hreads, -, rfl⟩ := h
  refine Book.carries_of_set hreads rfl ?_ j
  exact ⟨rfl, rfl, rfl, rfl, fun _ => rfl⟩

theorem ResumesRecords.carries (h : ResumesRecords b b') (j : Nat) :
    b.Carries j b' (Subscription.CarriedBy op) := by
  induction h with
  | done => exact .of_same .refl rfl
  | next hfirst _ ih => exact Book.carries_trans (hfirst.carries j) ih

theorem CancelsRecord.carries (h : CancelsRecord b id b') (j : Nat) :
    b.Carries j b' (Subscription.CarriedBy op) := by
  obtain ⟨sub, hreads, -, -, rfl⟩ := h
  have hnew : sub.CarriedBy op { sub with status := .cancelled, prepaidBalance := 0 } :=
    ⟨rfl, rfl, rfl, rfl, fun _ => rfl⟩
  refine Book.carries_of_set hreads ?_ hnew j
  split <;> rfl

theorem TransfersRecord.carries {«to» : Address} (h : TransfersRecord b id b' «to») (j : Nat) :
    b.Carries j b' (Subscription.CarriedBy op) := by
  obtain ⟨sub, hreads, rfl⟩ := h
  have hnew : sub.CarriedBy op { sub with subscriber := «to» } :=
    ⟨rfl, rfl, rfl, rfl, fun _ => rfl⟩
  refine Book.carries_of_set hreads ?_ hnew j
  dsimp only
  split <;> rfl

theorem Subscription.ChargedTo.carried {now : Nat} (h : sub.ChargedTo new now) :
    sub.CarriedBy op new := by
  unfold Subscription.ChargedTo at h
  rw [h]
  exact ⟨rfl, rfl, rfl, rfl, fun _ => rfl⟩

theorem IntervalChanges.carries (h : IntervalChanges env s id b') (j : Nat) :
    s.book.Carries j b' (Subscription.CarriedBy op) := by
  cases h with
  | unchanged => exact .of_same .refl rfl
  | expired hadmitted =>
    refine Book.carries_of_set (Book.reads_of_effective hadmitted.found) rfl ?_ j
    exact ⟨rfl, rfl, rfl, rfl, fun _ => rfl⟩
  | capped hclear | cancelled hclear =>
    refine Book.carries_of_set (Book.reads_of_effective hclear.found) rfl ?_ j
    exact ⟨rfl, rfl, rfl, rfl, fun _ => rfl⟩
  | short hdue _ _ hnew =>
    refine Book.carries_of_set hdue.reads rfl ?_ j
    rw [hnew]
    exact ⟨rfl, rfl, rfl, rfl, fun _ => rfl⟩
  | booked hbooks =>
    obtain ⟨sub, new, amount, hdue, -, hsettled, hends⟩ := hbooks
    refine Book.carries_of_set hdue.reads ?_ hsettled.chargedTo.carried j
    rcases hends with rfl | rfl <;> rfl

theorem UsageChanges.carries {usageAmount : Int} (h : UsageChanges env s id usageAmount b')
    (j : Nat) : s.book.Carries j b' (Subscription.CarriedBy op) := by
  cases h with
  | unchanged => exact .of_same .refl rfl
  | capped hdue | unfit hdue =>
    refine Book.carries_of_set hdue.reads rfl ?_ j
    exact ⟨rfl, rfl, rfl, rfl, fun _ => rfl⟩
  | booked hdue _ hsettled =>
    refine Book.carries_of_set hdue.reads rfl ?_ j
    rw [hsettled.2]
    exact ⟨rfl, rfl, rfl, rfl, fun _ => rfl⟩

theorem Book.rotated_carries (b : Book) (oldMerchant newMerchant : Address) (j : Nat) :
    b.Carries j (b.rotated oldMerchant newMerchant) (Subscription.CarriedBy op) := by
  intro sub hsub
  have hrecord : (b.rotated oldMerchant newMerchant).record j =
      if j ∈ b.merchantSubs oldMerchant then
        (b.record j).map (·.rehomed oldMerchant newMerchant) else b.record j := rfl
  rw [hsub] at hrecord
  split at hrecord
  · refine ⟨_, hrecord, ?_⟩
    show sub.CarriedBy op (sub.rehomed oldMerchant newMerchant)
    unfold Subscription.rehomed
    split
    · exact ⟨rfl, rfl, rfl, rfl, fun _ => rfl⟩
    · exact .refl sub
  · exact ⟨sub, hrecord, .refl sub⟩

theorem CreatesRecord.carries (h : CreatesRecord env b b') {j : Nat} (hused : j ≠ b.nextId) :
    b.Carries j b' (Subscription.CarriedBy op) := by
  obtain ⟨sub, -, -, -, -, -, hbook, -⟩ := h
  have hrecord : b'.record = (b.setRecord b.nextId sub).record := by
    rw [hbook]
    rfl
  exact .of_same .refl ((congrFun hrecord j).trans (Function.update_of_ne hused ..))

/-- Only a restore, or a creation under the same number, may change the terms. -/
theorem Operation.Changes.carries (h : op.Changes env s b') {j : Nat}
    (hrestore : ∀ summaries, op ≠ .restore summaries)
    (hused : op = .create → j ≠ s.book.nextId) :
    s.book.Carries j b' (Subscription.CarriedBy op) := by
  cases op with
  | create => exact CreatesRecord.carries h (hused rfl)
  | deposit =>
    rcases h with h | h
    · exact EditsRecord.carries h rfl j
    · exact RevivesRecord.carries h j
  | charge => exact IntervalChanges.carries h j
  | chargeUsage => exact UsageChanges.carries h j
  | buyOut =>
    obtain ⟨sub, new, hreads, -, -, hcharged, -, rfl⟩ := h
    exact Book.carries_of_set hreads rfl hcharged.carried j
  | cancel => exact CancelsRecord.carries h j
  | pause =>
    obtain ⟨sub, hreads, -, -, rfl⟩ := h
    refine Book.carries_of_set hreads rfl ?_ j
    exact ⟨rfl, rfl, rfl, rfl, fun _ => rfl⟩
  | resume =>
    rcases h with h | h
    · exact ResumesRecord.carries h j
    · exact RevivesRecord.carries h j
  | edit => exact EditsRecord.carries h rfl j
  | archive =>
    obtain ⟨sub, hreads, -, -, rfl⟩ := h
    refine Book.carries_of_set hreads rfl ?_ j
    exact ⟨rfl, rfl, rfl, rfl, fun _ => rfl⟩
  | replan =>
    obtain ⟨plan, -, sub, hreads, rfl⟩ := h
    refine Book.carries_of_set hreads rfl ?_ j
    exact ⟨rfl, rfl, rfl, rfl, fun _ => rfl⟩
  | transfer => exact TransfersRecord.carries h j
  | unblock => exact ResumesRecords.carries h j
  | rotate oldMerchant newMerchant =>
    obtain rfl := h
    exact s.book.rotated_carries oldMerchant newMerchant j
  | restore summaries => exact absurd rfl (hrestore summaries)
  | renumber =>
    have hbook : b' = { s.book with nextId := b'.nextId, schemaVersion := b'.schemaVersion } := h.1
    exact .of_same .refl (by rw [hbook])
  | other => exact h.elim

end Changes

/-! ## Steps -/

section Steps

variable {env : Env} {s t : State} {j : Nat}

/-- Calls that edit a record without paying in add no money and leave auto-renewal alone, but for
the two that set the ledger bound and auto-renewal. -/
theorem VaultCall.edits {call : VaultCall} {id : Nat} (hop : call.operation = .edit id)
    (hbound : ∀ authorizer bound, call ≠ .setSubscriptionExpiryLedger id authorizer bound)
    (hrenewal : ∀ authorizer enabled, call ≠ .setAutoRenew id authorizer enabled)
    (hrun : call.exec.run env s = .ok () t) :
    s.book.Draws t.book ∧ s.book.SameRenewal t.book := by
  have hlocked {name : LockName} {body : Vault Unit} {Q : Book → Book → Prop}
      (hbody : ∀ s t, body.run env s = .ok () t → Q s.book t.book ∧
        s.book.Draws t.book ∧ s.book.SameRenewal t.book)
      (hrun : (withLock name body).run env s = .ok () t) :
      s.book.Draws t.book ∧ s.book.SameRenewal t.book :=
    run_locked_book (fun b b' => b.Draws b' ∧ b.SameRenewal b') (fun s t h => (hbody s t h).2) hrun
  cases call
  case scheduleCancel =>
    exact hlocked (Q := (EditsRecord · _ ·)) (fun _ _ => doScheduleCancel_book) hrun
  case unscheduleCancel =>
    exact hlocked (Q := (EditsRecord · _ ·)) (fun _ _ => doUnscheduleCancel_book) hrun
  case setAutoRenew id' authorizer enabled =>
    obtain rfl : id' = id := Operation.edit.inj hop
    exact absurd rfl (hrenewal authorizer enabled)
  case setSubscriptionExpiryLedger id' authorizer bound =>
    obtain rfl : id' = id := Operation.edit.inj hop
    exact absurd rfl (hbound authorizer bound)
  case updateSubscriptionCap => exact (doUpdateSubscriptionCap_book hrun).2
  case withdrawSubscriberFunds =>
    exact hlocked (Q := fun b b' => b' = b ∨ EditsRecord b _ b')
      (fun _ _ => doWithdrawSubscriberFunds_book) hrun
  case finalizeEmergencyWithdraw =>
    exact hlocked (Q := (EditsRecord · _ ·)) (fun _ _ => doFinalizeEmergencyWithdraw_book) hrun
  case partialRefund =>
    exact hlocked (Q := (EditsRecord · _ ·)) (fun _ _ => doPartialRefund_book)
      (run_guardedCall_ok.mp hrun).2
  all_goals cases hop

theorem VaultCall.draws {call : VaultCall} {id : Nat} (hop : call.operation = .edit id)
    (hother : ∀ authorizer bound, call ≠ .setSubscriptionExpiryLedger id authorizer bound)
    (hrun : call.exec.run env s = .ok () t) : s.book.Draws t.book := by
  by_cases hset : ∃ authorizer enabled, call = .setAutoRenew id authorizer enabled
  · obtain ⟨authorizer, enabled, rfl⟩ := hset
    exact (doSetAutoRenew_book hrun).2
  · refine (VaultCall.edits hop hother (fun authorizer enabled heq => ?_) hrun).1
    exact hset ⟨authorizer, enabled, heq⟩

/-- A deposit takes no money out and leaves auto-renewal alone. -/
theorem VaultCall.deposits {call : VaultCall} {id : Nat} (hop : call.operation = .deposit id)
    (hrun : call.exec.run env s = .ok () t) :
    s.book.Steady t.book ∧ s.book.SameRenewal t.book := by
  cases call
  case depositFunds =>
    exact run_locked_book (fun b b' => b.Steady b' ∧ b.SameRenewal b')
      (fun _ _ h => (doDepositFunds_book h).2) (run_guardedCall_ok.mp hrun).2
  case depositFundsOnBehalf =>
    exact run_locked_book (fun b b' => b.Steady b' ∧ b.SameRenewal b')
      (fun _ _ h => (doDepositFundsOnBehalf_book h).2) (run_guardedCall_ok.mp hrun).2
  all_goals cases hop

/-- Calls that edit a record keep the ledger bound, but for the one that sets it. -/
theorem VaultCall.steady {call : VaultCall} (hop : call.operation.mayRebind = true)
    (hother : ∀ authorizer bound, call ≠ .setSubscriptionExpiryLedger j authorizer bound)
    (hrun : call.exec.run env s = .ok () t) : s.book.Carries j t.book Subscription.Steady := by
  by_cases hset : ∃ id authorizer bound, call = .setSubscriptionExpiryLedger id authorizer bound
  · obtain ⟨id, authorizer, bound, rfl⟩ := hset
    obtain ⟨sub, -, hbook⟩ := doSetSubscriptionExpirationLedger_book hrun
    have hne : j ≠ id := by
      rintro rfl
      exact hother authorizer bound rfl
    exact .of_same Subscription.Steady.refl <|
      (congrFun (congrArg Book.record hbook) j).trans (Function.update_of_ne hne ..)
  · have hplain (id : Nat) (authorizer : Address) (bound : Option Nat) :
        call ≠ .setSubscriptionExpiryLedger id authorizer bound :=
      fun heq => hset ⟨id, authorizer, bound, heq⟩
    cases hcall : call.operation with
    | edit id => exact (VaultCall.draws hcall (hplain id) hrun).steady j
    | deposit id => exact (VaultCall.deposits hcall hrun).1 j
    | _ =>
      rw [hcall] at hop
      cases hop

/-- The action sets the ledger bound of the subscription. -/
def VaultAction.rebinds (j : Nat) : VaultAction → Bool
  | .call _ (.setSubscriptionExpiryLedger id _ _) => id = j
  | _ => false

/-- Both bounds are as they were. -/
def Subscription.SameBounds (sub new : Subscription) : Prop :=
  new.expiresAt = sub.expiresAt ∧ new.expiresAtLedger = sub.expiresAtLedger

theorem VaultStep.carries {l : VaultAction} (h : VaultStep l s t)
    (hrestore : ∀ summaries, l.operation ≠ .restore summaries)
    (hused : l.operation = .create → j ≠ s.book.nextId) :
    s.book.Carries j t.book (Subscription.CarriedBy l.operation) := by
  rcases h.changes with hsame | hchanges
  · exact .of_same .refl (by rw [hsame])
  · exact hchanges.carries hrestore hused

theorem VaultStep.steady {l : VaultAction} (h : VaultStep l s t)
    (hop : l.operation.mayRebind = true) (hother : l.rebinds j = false) :
    s.book.Carries j t.book Subscription.Steady := by
  cases h with
  | @call env call _ _ hsingle hrun =>
    refine VaultCall.steady hop ?_ hrun
    rintro authorizer bound rfl
    simp [VaultAction.rebinds] at hother
  | @item env entry _ _ hrun =>
    cases entry with
    | deposit => exact (bulkDepositOne_book hrun).2.1 j
    | charge | cancel | pause => cases hop
  | @itemFailed env entry _ _ e hrun =>
    cases entry with
    | deposit =>
      obtain rfl := bulkDepositOne_err hrun
      exact .of_same Subscription.Steady.refl rfl
    | charge | cancel | pause => cases hop
  | other => cases hop

/-- A step that does not set the ledger bound keeps both bounds. -/
theorem VaultStep.sameBounds {l : VaultAction} (h : VaultStep l s t)
    (hrestore : ∀ summaries, l.operation ≠ .restore summaries)
    (hused : l.operation = .create → j ≠ s.book.nextId) (hother : l.rebinds j = false) :
    s.book.Carries j t.book Subscription.SameBounds := by
  intro sub hsub
  obtain ⟨new, hnew, hcarried⟩ := h.carries hrestore hused sub hsub
  refine ⟨new, hnew, hcarried.expiresAt, ?_⟩
  by_cases hop : l.operation.mayRebind = true
  · obtain ⟨same, hsame, hsteady⟩ := h.steady hop hother sub hsub
    obtain rfl : same = new := Option.some.inj (hsame.symm.trans hnew)
    exact hsteady.bound
  · exact hcarried.bound (Bool.eq_false_iff.mpr hop)

end Steps

end SubscriptionVault
