import SubscriptionVault.Lifecycle.OneRecord

/-!
# How records are rewritten

The view of a single subscription again, this time with everything an operation writes into the
record. Facts about who takes part in a subscription, or about what it owes, follow from the
list of rewrites.
-/

namespace SubscriptionVault

/-- The record an operation finds under `id`, and the one it leaves there. -/
inductive Rewrites (env : Env) (s : State) (id : Nat) :
    Operation → Subscription → Subscription → Prop
  | edited {op : Operation} {sub new : Subscription} :
      op = .deposit id ∨ op = .edit id → sub.EditedTo new → Rewrites env s id op sub new
  | revived {op : Operation} {sub new : Subscription} :
      op = .deposit id ∨ op = .resume id →
      sub.status = .insufficientBalance ∨ sub.status = .gracePeriod →
      new = { sub with
        status := .active
        prepaidBalance := new.prepaidBalance
        graceStartTimestamp := new.graceStartTimestamp } → Rewrites env s id op sub new
  | paused {sub : Subscription} : Rewrites env s id (.pause id) sub { sub with status := .paused }
  | resumed {op : Operation} {sub : Subscription} :
      op = .resume id ∨ op = .unblock → sub.status = .paused →
      Rewrites env s id op sub { sub with status := .active }
  | cancelled {sub : Subscription} :
      Rewrites env s id (.cancel id) sub { sub with status := .cancelled, prepaidBalance := 0 }
  | archived {sub : Subscription} :
      Rewrites env s id (.archive id) sub { sub with status := .archived }
  | transferred {sub : Subscription} {«to» : Address} :
      Rewrites env s id (.transfer id «to») sub { sub with subscriber := «to» }
  | replanned {sub : Subscription} {planId : Nat} {plan : PlanTemplate} :
      s.planTemplate planId = some plan →
      Rewrites env s id (.replan id planId) sub { sub with
        lifetimeCap := plan.lifetimeCap
        amount := plan.amount
        intervalSeconds := plan.intervalSeconds
        usageEnabled := plan.usageEnabled }
  | rehomed {sub : Subscription} {oldMerchant newMerchant : Address} :
      id ∈ s.merchantSubs oldMerchant →
      Rewrites env s id (.rotate oldMerchant newMerchant) sub
        (sub.rehomed oldMerchant newMerchant)
  /-- A charge that takes nothing may end the subscription, or its being active. -/
  | halted {op : Operation} {sub new : Subscription} :
      op = .charge id ∨ (∃ usageAmount, op = .chargeUsage id usageAmount) →
      new.status ≠ .active →
      new.prepaidBalance = sub.prepaidBalance ∨ new.prepaidBalance = 0 →
      new = { sub with
        status := new.status
        prepaidBalance := new.prepaidBalance
        graceStartTimestamp := new.graceStartTimestamp
        cancelAt := new.cancelAt } → Rewrites env s id op sub new
  | settled {sub new : Subscription} {amount : Int} :
      IntervalDue env s id sub amount → 0 ≤ amount ∧ amount ≤ sub.prepaidBalance →
      sub.SettledTo new amount env.now → Rewrites env s id (.charge id) sub new
  | used {sub new : Subscription} {usageAmount : Int} {reference : Bytes} :
      UsageDue env s id sub usageAmount reference → sub.UsageSettledTo new usageAmount →
      Rewrites env s id (.chargeUsage id usageAmount) sub new
  | boughtOut {sub new : Subscription} :
      sub.status = .gracePeriod → sub.ChargedTo new env.now → new.status = .active →
      Rewrites env s id (.buyOut id) sub new

/-- What an operation does to the record of `id`. -/
inductive RecordStep (env : Env) (s : State) (id : Nat) (b' : Book) : Operation → Prop
  | kept {op : Operation} : b'.record id = s.book.record id → RecordStep env s id b' op
  | rewritten {op : Operation} {sub new : Subscription} :
      s.book.Reads id sub → Rewrites env s id op sub new → b'.record id = some new →
      RecordStep env s id b' op
  | created {sub : Subscription} :
      id = s.book.nextId → b'.record id = some sub → RecordStep env s id b' .create
  | restored {summaries : List SubscriptionSummary} {summary : SubscriptionSummary} :
      summary ∈ summaries → summary.subscriptionId = id → b'.record id = some summary.record →
      RecordStep env s id b' (.restore summaries)

section Rewriting

variable {env : Env} {s : State} {b' : Book} {id j : Nat} {op : Operation}
  {sub new : Subscription}

/-- An operation that writes one record. -/
theorem RecordStep.of_set (hreads : s.book.Reads id sub) (hnew : Rewrites env s id op sub new)
    (hrecord : b'.record = (s.book.setRecord id new).record) (j : Nat) :
    RecordStep env s j b' op := by
  by_cases hj : j = id
  · subst hj
    refine .rewritten hreads hnew ?_
    rw [hrecord]
    exact Function.update_self _ _ _
  · refine .kept ?_
    rw [hrecord]
    exact Function.update_of_ne hj _ _

theorem EditsRecord.at_record (hop : op = .deposit id ∨ op = .edit id)
    (h : EditsRecord s.book id b') (j : Nat) : RecordStep env s j b' op := by
  obtain ⟨sub, new, hreads, hnew, rfl⟩ := h
  exact .of_set hreads (.edited hop hnew) rfl j

theorem RevivesRecord.at_record (hop : op = .deposit id ∨ op = .resume id)
    (h : RevivesRecord s.book id b') (j : Nat) : RecordStep env s j b' op := by
  obtain ⟨sub, new, hreads, hbehind, hnew, rfl⟩ := h
  exact .of_set hreads (.revived hop hbehind hnew) rfl j

theorem PausesRecord.at_record (h : PausesRecord s.book id b') (j : Nat) :
    RecordStep env s j b' (.pause id) := by
  obtain ⟨sub, hreads, -, -, rfl⟩ := h
  refine .of_set hreads .paused ?_ j
  rfl

theorem ResumesRecord.at_record (h : ResumesRecord s.book id b') (j : Nat) :
    RecordStep env s j b' (.resume id) := by
  obtain ⟨sub, hreads, hpaused, rfl⟩ := h
  refine .of_set hreads (.resumed (.inl rfl) hpaused) ?_ j
  rfl

theorem ResumesRecords.at_step (h : ResumesRecords s.book b') (j : Nat) :
    RecordStep env s j b' .unblock := by
  rcases h.at_record j with hsame | ⟨-, sub, hsub, hpaused, hafter⟩
  · exact .kept hsame.record
  · exact .rewritten ⟨sub, hsub, .inl rfl⟩ (.resumed (.inr rfl) hpaused) hafter

theorem CancelsRecord.at_record (h : CancelsRecord s.book id b') (j : Nat) :
    RecordStep env s j b' (.cancel id) := by
  obtain ⟨sub, hreads, -, -, rfl⟩ := h
  refine .of_set hreads .cancelled ?_ j
  split <;> rfl

theorem ArchivesRecord.at_record (h : ArchivesRecord env s.book id b') (j : Nat) :
    RecordStep env s j b' (.archive id) := by
  obtain ⟨sub, hreads, -, -, rfl⟩ := h
  exact .of_set hreads .archived rfl j

theorem TransfersRecord.at_record {«to» : Address} (h : TransfersRecord s.book id b' «to»)
    (j : Nat) : RecordStep env s j b' (.transfer id «to») := by
  obtain ⟨sub, hreads, rfl⟩ := h
  refine .of_set hreads .transferred ?_ j
  dsimp only
  split <;> rfl

theorem ReplansRecord.at_record {planId : Nat} {plan : PlanTemplate}
    (hplan : s.planTemplate planId = some plan) (h : ReplansRecord s.book id b' plan) (j : Nat) :
    RecordStep env s j b' (.replan id planId) := by
  obtain ⟨sub, hreads, rfl⟩ := h
  exact .of_set hreads (.replanned hplan) rfl j

theorem BuysOut.at_record (h : BuysOut env s.book id b') (j : Nat) :
    RecordStep env s j b' (.buyOut id) := by
  obtain ⟨sub, new, hreads, hgrace, -, hnew, hactive, rfl⟩ := h
  refine .of_set hreads (.boughtOut hgrace hnew hactive) ?_ j
  rfl

theorem CreatesRecord.at_record (h : CreatesRecord env s.book b') (j : Nat) :
    RecordStep env s j b' .create := by
  obtain ⟨sub, -, -, -, -, -, hbook, -⟩ := h
  have hrecord : b'.record = (s.book.setRecord s.book.nextId sub).record := by
    rw [hbook]
    rfl
  by_cases hj : j = s.book.nextId
  · subst hj
    have hcreated : b'.record s.book.nextId = some sub := by
      rw [hrecord]
      exact Function.update_self _ _ _
    exact .created rfl hcreated
  · refine .kept ?_
    rw [hrecord]
    exact Function.update_of_ne hj _ _

theorem IntervalChanges.at_record (h : IntervalChanges env s id b') (j : Nat) :
    RecordStep env s j b' (.charge id) := by
  cases h with
  | unchanged => exact .kept rfl
  | expired hadmitted _ _ =>
    refine .of_set (Book.reads_of_effective hadmitted.found) ?_ rfl j
    exact .halted (.inl rfl) (by simp) (.inl rfl) rfl
  | capped hclear _ _ _ =>
    refine .of_set (Book.reads_of_effective hclear.found) ?_ rfl j
    exact .halted (.inl rfl) (by simp) (.inl rfl) rfl
  | cancelled hclear _ _ _ =>
    refine .of_set (Book.reads_of_effective hclear.found) ?_ rfl j
    exact .halted (.inl rfl) (by simp) (.inr rfl) rfl
  | @short sub new amount e hdue _ hstatus hnew =>
    have hbalance : new.prepaidBalance = sub.prepaidBalance := by rw [hnew]
    refine .of_set hdue.reads (.halted (.inl rfl) ?_ (.inl hbalance) ?_) rfl j
    · rcases hstatus with h | h | ⟨h, -⟩ <;> rw [h] <;> simp
    · rw [hnew]
  | booked hbooks =>
    obtain ⟨sub, new, amount, hdue, hfunded, hsettled, hends⟩ := hbooks
    refine .of_set hdue.reads (.settled hdue hfunded hsettled) ?_ j
    rcases hends with rfl | rfl <;> rfl

theorem UsageChanges.at_record {usageAmount : Int} (h : UsageChanges env s id usageAmount b')
    (j : Nat) : RecordStep env s j b' (.chargeUsage id usageAmount) := by
  cases h with
  | unchanged => exact .kept rfl
  | capped hdue _ =>
    refine .of_set hdue.reads ?_ rfl j
    exact .halted (.inr ⟨usageAmount, rfl⟩) (by simp) (.inl rfl) rfl
  | booked hdue _ hsettled => exact .of_set hdue.reads (.used hdue hsettled) rfl j
  | unfit hdue =>
    refine .of_set hdue.reads ?_ rfl j
    exact .halted (.inr ⟨usageAmount, rfl⟩) (by simp) (.inl rfl) rfl

theorem Book.rotated_at_record (s : State) (oldMerchant newMerchant : Address) (j : Nat) :
    RecordStep env s j (s.book.rotated oldMerchant newMerchant)
      (.rotate oldMerchant newMerchant) := by
  have hrecord : (s.book.rotated oldMerchant newMerchant).record j =
      if j ∈ s.book.merchantSubs oldMerchant then
        (s.book.record j).map (·.rehomed oldMerchant newMerchant) else s.book.record j := rfl
  split at hrecord
  · rename_i hlisted
    cases hsub : s.book.record j with
    | none =>
      rw [hsub] at hrecord
      exact .kept (hrecord.trans hsub.symm)
    | some sub =>
      rw [hsub] at hrecord
      exact .rewritten ⟨sub, hsub, .inl rfl⟩ (.rehomed hlisted) hrecord
  · exact .kept hrecord

theorem Book.restored_at_record {summaries : List SubscriptionSummary}
    (hbook : b' = { s.book.restored summaries with nextId := b'.nextId }) (j : Nat) :
    RecordStep env s j b' (.restore summaries) := by
  have hrecord : b'.record j = (s.book.restored summaries).record j := by rw [hbook]
  rcases s.book.restored_record summaries j with hkept | ⟨summary, hmem, hid, hrestored⟩
  · exact .kept (hrecord.trans hkept)
  · exact .restored hmem hid (hrecord.trans hrestored)

/-- Every operation rewrites each record in one of the listed ways. -/
theorem Operation.Changes.at_record (h : op.Changes env s b') (j : Nat) :
    RecordStep env s j b' op := by
  cases op with
  | create => exact CreatesRecord.at_record h j
  | deposit =>
    rcases h with h | h
    · exact EditsRecord.at_record (.inl rfl) h j
    · exact RevivesRecord.at_record (.inl rfl) h j
  | charge => exact IntervalChanges.at_record h j
  | chargeUsage => exact UsageChanges.at_record h j
  | buyOut => exact BuysOut.at_record h j
  | cancel => exact CancelsRecord.at_record h j
  | pause => exact PausesRecord.at_record h j
  | resume =>
    rcases h with h | h
    · exact ResumesRecord.at_record h j
    · exact RevivesRecord.at_record (.inr rfl) h j
  | edit => exact EditsRecord.at_record (.inr rfl) h j
  | archive => exact ArchivesRecord.at_record h j
  | replan =>
    obtain ⟨plan, hplan, h⟩ := h
    exact ReplansRecord.at_record hplan h j
  | transfer => exact TransfersRecord.at_record h j
  | unblock => exact ResumesRecords.at_step h j
  | rotate oldMerchant newMerchant =>
    obtain rfl := h
    exact Book.rotated_at_record s oldMerchant newMerchant j
  | restore => exact Book.restored_at_record h.1 j
  | renumber =>
    have hbook : b' = { s.book with nextId := b'.nextId, schemaVersion := b'.schemaVersion } := h.1
    refine .kept ?_
    rw [hbook]
  | other => exact h.elim

theorem VaultStep.at_record {l : VaultAction} {t : State} (h : VaultStep l s t) (j : Nat) :
    RecordStep l.env s j t.book l.operation := by
  rcases h.changes with hsame | hchanges
  · rw [hsame]
    exact .kept rfl
  · exact hchanges.at_record j

end Rewriting

/-! ## Becoming active -/

/-- The statuses out of which an operation may make the subscription active. -/
def Operation.wakes (id : Nat) : Operation → Set SubscriptionStatus
  | .deposit j | .charge j =>
    {status | j = id ∧ (status = .gracePeriod ∨ status = .insufficientBalance)}
  | .resume j => {status | j = id ∧
      (status = .paused ∨ status = .gracePeriod ∨ status = .insufficientBalance)}
  | .unblock => {.paused}
  | .buyOut j => {status | j = id ∧ status = .gracePeriod}
  | _ => ∅

section Waking

variable {env : Env} {s : State} {b' : Book} {id : Nat} {op : Operation}
  {sub new : Subscription}

theorem Rewrites.wakes (h : Rewrites env s id op sub new) (hactive : new.status = .active) :
    sub.status = .active ∨ sub.status ∈ op.wakes id := by
  cases h with
  | edited _ hnew =>
    rw [hnew] at hactive
    exact .inl hactive
  | revived hop hbehind _ =>
    rcases hop with rfl | rfl
    · exact .inr ⟨rfl, hbehind.symm⟩
    · exact .inr ⟨rfl, .inr hbehind.symm⟩
  | paused | cancelled | archived => cases hactive
  | resumed hop hpaused =>
    rcases hop with rfl | rfl
    · exact .inr ⟨rfl, .inl hpaused⟩
    · exact .inr hpaused
  | transferred | replanned => exact .inl hactive
  | rehomed =>
    unfold Subscription.rehomed at hactive
    split at hactive <;> exact .inl hactive
  | halted _ hended _ _ => exact absurd hactive hended
  | settled hdue _ _ => exact hdue.chargeable.imp_right fun hbehind => ⟨rfl, hbehind⟩
  | used hdue _ => exact .inl hdue.active
  | boughtOut hgrace _ _ => exact .inr ⟨rfl, hgrace⟩

/-- A grace period that has run out wakes up like one that has not. -/
theorem Operation.wakes_of_grace (h : SubscriptionStatus.insufficientBalance ∈ op.wakes id) :
    SubscriptionStatus.gracePeriod ∈ op.wakes id := by
  cases op with
  | deposit | charge => exact ⟨h.1, .inl rfl⟩
  | resume => exact ⟨h.1, .inr (.inl rfl)⟩
  | unblock => cases h
  | buyOut => cases h.2
  | _ => exact h.elim

theorem Book.Reads.wakes (h : s.book.Reads id sub)
    (hwakes : sub.status = .active ∨ sub.status ∈ op.wakes id) :
    ∃ stored, s.subscription id = some stored ∧ stored.subscriber = sub.subscriber ∧
      (stored.status = .active ∨ stored.status ∈ op.wakes id) := by
  obtain ⟨stored, hstored, rfl | ⟨hgrace, rfl⟩⟩ := h
  · exact ⟨sub, hstored, rfl, hwakes⟩
  · refine ⟨stored, hstored, rfl, .inr ?_⟩
    rcases hwakes with hactive | hwakes
    · cases hactive
    · rw [hgrace]
      exact Operation.wakes_of_grace hwakes

/-- A creation rewrites nothing. -/
theorem Rewrites.ne_create (h : Rewrites env s id op sub new) : op ≠ .create := by
  rintro rfl
  cases h with
  | edited hop | revived hop | resumed hop => rcases hop with hop | hop <;> cases hop
  | halted hop => rcases hop with hop | ⟨_, hop⟩ <;> cases hop

theorem Rewrites.subscriber (h : Rewrites env s id op sub new) :
    new.subscriber = sub.subscriber ∨ op = .transfer id new.subscriber := by
  cases h with
  | edited _ hnew => rw [hnew]; exact .inl rfl
  | revived _ _ hnew => rw [hnew]; exact .inl rfl
  | paused | resumed | cancelled | archived | replanned => exact .inl rfl
  | transferred => exact .inr rfl
  | rehomed =>
    unfold Subscription.rehomed
    split <;> exact .inl rfl
  | halted _ _ _ hnew => rw [hnew]; exact .inl rfl
  | settled _ _ hsettled => rw [hsettled.2]; exact .inl rfl
  | used _ hsettled => rw [hsettled.2]; exact .inl rfl
  | boughtOut _ hnew _ => rw [hnew]; exact .inl rfl

theorem Rewrites.token (h : Rewrites env s id op sub new) : new.token = sub.token := by
  cases h with
  | edited _ hnew => rw [hnew]
  | revived _ _ hnew => rw [hnew]
  | paused | resumed | cancelled | archived | transferred | replanned => rfl
  | rehomed =>
    unfold Subscription.rehomed
    split <;> rfl
  | halted _ _ _ hnew => rw [hnew]
  | settled _ _ hsettled => rw [hsettled.2]
  | used _ hsettled => rw [hsettled.2]
  | boughtOut _ hnew _ => rw [hnew]

/-- What an active subscription was before the operation. -/
def Operation.Woken (op : Operation) (id : Nat) (sub new : Subscription) : Prop :=
  (new.subscriber = sub.subscriber ∨ op = .transfer id new.subscriber) ∧
    (sub.status = .active ∨ sub.status ∈ op.wakes id)

theorem RecordStep.woken (h : RecordStep env s id b' op) (hcreate : op ≠ .create)
    (hrestore : ∀ summaries, op ≠ .restore summaries) (hnew : b'.record id = some new)
    (hactive : new.status = .active) : ∃ sub, s.subscription id = some sub ∧
      op.Woken id sub new := by
  cases h with
  | kept hsame => exact ⟨new, hsame.symm.trans hnew, .inl rfl, .inl hactive⟩
  | rewritten hreads hrewrites hafter =>
    obtain rfl := Option.some.inj (hafter.symm.trans hnew)
    obtain ⟨stored, hstored, hsubscriber, hwakes⟩ := hreads.wakes (hrewrites.wakes hactive)
    exact ⟨stored, hstored, hsubscriber ▸ hrewrites.subscriber, hwakes⟩
  | created => exact absurd rfl hcreate
  | restored => exact absurd rfl (hrestore _)

end Waking

end SubscriptionVault
