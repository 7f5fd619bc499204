import SubscriptionVault.Lifecycle.Amounts

/-!
# Prepaid balances

No operation takes more out of a prepaid balance than there is, so without a restored snapshot
no balance is ever negative.
-/

namespace SubscriptionVault

open Exec

/-- No prepaid balance is negative. -/
def Book.Funded (b : Book) : Prop := ∀ j sub, b.record j = some sub → 0 ≤ sub.prepaidBalance

/-- A balance that was not negative is not negative afterwards. -/
def Subscription.KeepsFunds (sub new : Subscription) : Prop :=
  0 ≤ sub.prepaidBalance → 0 ≤ new.prepaidBalance

/-! ## Operations -/

section Changes

variable {env : Env} {s t : State} {b b' : Book} {id j : Nat} {op : Operation}
  {sub new : Subscription}

theorem Subscription.KeepsFunds.refl (sub : Subscription) : sub.KeepsFunds sub := id

theorem Book.keepsFunds_of_set (hreads : b.Reads id sub) (hkeeps : sub.KeepsFunds new)
    (hrecord : b'.record = (b.setRecord id new).record) (j : Nat) :
    b.Carries j b' Subscription.KeepsFunds :=
  .of_edit .refl hreads (fun _ => hkeeps) hrecord j

theorem Book.Steady.keepsFunds (h : b.Steady b') (j : Nat) :
    b.Carries j b' Subscription.KeepsFunds := by
  intro sub hsub
  obtain ⟨new, hnew, hsteady⟩ := h j sub hsub
  exact ⟨new, hnew, hsteady.funded⟩

theorem IntervalChanges.keepsFunds (h : IntervalChanges env s id b') (j : Nat) :
    s.book.Carries j b' Subscription.KeepsFunds := by
  cases h with
  | unchanged => exact .of_same .refl rfl
  | expired hadmitted =>
    refine Book.keepsFunds_of_set (Book.reads_of_effective hadmitted.found) ?_ rfl j
    exact fun hfunds => hfunds
  | capped hclear =>
    refine Book.keepsFunds_of_set (Book.reads_of_effective hclear.found) ?_ rfl j
    exact fun hfunds => hfunds
  | cancelled hclear =>
    refine Book.keepsFunds_of_set (Book.reads_of_effective hclear.found) ?_ rfl j
    exact fun _ => Int.le_refl 0
  | short hdue _ _ hnew =>
    refine Book.keepsFunds_of_set hdue.reads ?_ rfl j
    rw [hnew]
    exact fun hfunds => hfunds
  | booked hbooks =>
    obtain ⟨sub, new, amount, hdue, ⟨-, hcovered⟩, hsettled, hends⟩ := hbooks
    have hrecord : b'.record = (s.book.setRecord id new).record := by
      rcases hends with rfl | rfl <;> rfl
    refine Book.keepsFunds_of_set hdue.reads ?_ hrecord j
    intro _
    rw [hsettled.2]
    exact Int.sub_nonneg.mpr hcovered

theorem UsageChanges.keepsFunds {usageAmount : Int} (h : UsageChanges env s id usageAmount b')
    (j : Nat) : s.book.Carries j b' Subscription.KeepsFunds := by
  cases h with
  | unchanged => exact .of_same .refl rfl
  | capped hdue | unfit hdue =>
    refine Book.keepsFunds_of_set hdue.reads ?_ rfl j
    exact fun hfunds => hfunds
  | booked hdue _ hsettled =>
    refine Book.keepsFunds_of_set hdue.reads ?_ rfl j
    intro _
    rw [hsettled.2]
    exact Int.sub_nonneg.mpr hdue.funded

theorem ResumesRecords.keepsFunds (h : ResumesRecords b b') (j : Nat) :
    b.Carries j b' Subscription.KeepsFunds := by
  rcases h.at_record j with hsame | ⟨-, sub, hsub, -, hafter⟩
  · exact .of_same .refl hsame.record
  · intro stored hstored
    obtain rfl : sub = stored := Option.some.inj (hsub.symm.trans hstored)
    exact ⟨_, hafter, fun hfunds => hfunds⟩

theorem Book.rotated_keepsFunds (b : Book) (oldMerchant newMerchant : Address) (j : Nat) :
    b.Carries j (b.rotated oldMerchant newMerchant) Subscription.KeepsFunds := by
  intro sub hsub
  have hrecord : (b.rotated oldMerchant newMerchant).record j =
      if j ∈ b.merchantSubs oldMerchant then
        (b.record j).map (·.rehomed oldMerchant newMerchant) else b.record j := rfl
  rw [hsub] at hrecord
  split at hrecord
  · refine ⟨_, hrecord, fun hfunds => ?_⟩
    have hsame : (sub.rehomed oldMerchant newMerchant).prepaidBalance = sub.prepaidBalance := by
      unfold Subscription.rehomed
      split <;> rfl
    rw [hsame]
    exact hfunds
  · exact ⟨sub, hrecord, .refl sub⟩

theorem doGraceBuyout_keepsFunds {subscriber : Address} {amount : Int} {key : Option BytesN32}
    {paid : Int × Int} (hrun : (doGraceBuyout id subscriber amount key).run env s = .ok paid t)
    (j : Nat) : s.book.Carries j t.book Subscription.KeepsFunds := by
  obtain ⟨sub, haffords, hbook⟩ := doGraceBuyout_settles hrun
  have hrecord : t.book.record =
      (s.book.setRecord id (sub.boughtOut amount env.now)).record := by rw [hbook]; rfl
  refine Book.keepsFunds_of_set haffords.reads ?_ hrecord j
  exact fun _ => Int.sub_nonneg.mpr haffords.covered

/-- The operations whose relation says enough. -/
theorem Operation.Changes.keepsFunds (h : op.Changes env s b')
    (hplain : op.mayRebind = false) (hresume : ∀ id, op ≠ .resume id)
    (hbuyOut : ∀ id, op ≠ .buyOut id) (hrestore : ∀ summaries, op ≠ .restore summaries)
    (hused : op = .create → j ≠ s.book.nextId) :
    s.book.Carries j b' Subscription.KeepsFunds := by
  cases op with
  | create => exact .of_same .refl (CreatesRecord.other_record h (hused rfl))
  | deposit | edit => cases hplain
  | resume id => exact absurd rfl (hresume id)
  | buyOut id => exact absurd rfl (hbuyOut id)
  | restore summaries => exact absurd rfl (hrestore summaries)
  | charge => exact IntervalChanges.keepsFunds h j
  | chargeUsage => exact UsageChanges.keepsFunds h j
  | cancel =>
    obtain ⟨sub, hreads, -, -, rfl⟩ := h
    have hnew : sub.KeepsFunds { sub with status := .cancelled, prepaidBalance := 0 } :=
      fun _ => Int.le_refl 0
    refine Book.keepsFunds_of_set hreads hnew ?_ j
    split <;> rfl
  | pause | archive =>
    obtain ⟨sub, hreads, -, -, rfl⟩ := h
    refine Book.keepsFunds_of_set hreads ?_ rfl j
    exact fun hfunds => hfunds
  | replan =>
    obtain ⟨plan, -, sub, hreads, rfl⟩ := h
    refine Book.keepsFunds_of_set hreads ?_ rfl j
    exact fun hfunds => hfunds
  | transfer id «to» =>
    obtain ⟨sub, hreads, rfl⟩ := h
    have hnew : sub.KeepsFunds { sub with subscriber := «to» } := fun hfunds => hfunds
    refine Book.keepsFunds_of_set hreads hnew ?_ j
    dsimp only
    split <;> rfl
  | unblock => exact ResumesRecords.keepsFunds h j
  | rotate oldMerchant newMerchant =>
    obtain rfl := h
    exact s.book.rotated_keepsFunds oldMerchant newMerchant j
  | renumber =>
    have hbook : b' = { s.book with nextId := b'.nextId, schemaVersion := b'.schemaVersion } := h.1
    exact .of_same .refl (by rw [hbook])
  | other => exact h.elim

end Changes

/-! ## Steps -/

section Steps

variable {env : Env} {s t start : State} {j : Nat} {l : VaultAction}

/-- Calls that edit a record add to its balance, or take out what is there. -/
theorem VaultCall.keepsFunds {call : VaultCall} (hop : call.operation.mayRebind = true)
    (hrun : call.exec.run env s = .ok () t) : s.book.Carries j t.book Subscription.KeepsFunds := by
  by_cases hbound : ∃ authorizer bound, call = .setSubscriptionExpiryLedger j authorizer bound
  · obtain ⟨authorizer, bound, rfl⟩ := hbound
    obtain ⟨sub, hreads, hbook⟩ := doSetSubscriptionExpirationLedger_book hrun
    refine Book.keepsFunds_of_set hreads ?_ (congrArg Book.record hbook) j
    exact fun hfunds => hfunds
  · intro sub hsub
    obtain ⟨new, hnew, hsteady⟩ := VaultCall.steady hop
      (fun authorizer bound heq => hbound ⟨authorizer, bound, heq⟩) hrun sub hsub
    exact ⟨new, hnew, hsteady.funded⟩

theorem VaultStep.keepsFunds (h : VaultStep l s t)
    (hrestore : ∀ summaries, l.operation ≠ .restore summaries)
    (hused : l.operation = .create → j ≠ s.book.nextId) :
    s.book.Carries j t.book Subscription.KeepsFunds := by
  have hrest (hplain : l.operation.mayRebind = false) (hresume : ∀ id, l.operation ≠ .resume id)
      (hbuyOut : ∀ id, l.operation ≠ .buyOut id) :
      s.book.Carries j t.book Subscription.KeepsFunds := by
    rcases h.changes with hsame | hchanges
    · exact .of_same .refl (by rw [hsame])
    · exact hchanges.keepsFunds hplain hresume hbuyOut hrestore hused
  by_cases hop : l.operation.mayRebind = true
  · cases h with
    | call _ hrun => exact VaultCall.keepsFunds hop hrun
    | @item env entry _ _ hrun =>
      cases entry with
      | deposit => exact (bulkDepositOne_book hrun).2.1.keepsFunds j
      | charge | cancel | pause => cases hop
    | @itemFailed env entry _ _ e hrun =>
      cases entry with
      | deposit =>
        obtain rfl := bulkDepositOne_err hrun
        exact .of_same .refl rfl
      | charge | cancel | pause => cases hop
    | other => cases hop
  · have hplain := Bool.eq_false_iff.mpr hop
    by_cases hresume : ∃ id, l.operation = .resume id
    · obtain ⟨id, hresume⟩ := hresume
      cases h with
      | @call env call _ _ _ hrun =>
        cases call
        case resumeSubscription =>
          exact (resumeSubscriptionReported_book hrun).2.steady.keepsFunds j
        all_goals cases hresume
      | @item env entry => cases entry <;> cases hresume
      | @itemFailed env entry => cases entry <;> cases hresume
      | other => cases hresume
    · by_cases hbuyOut : ∃ id, l.operation = .buyOut id
      · obtain ⟨id, hbuyOut⟩ := hbuyOut
        cases h with
        | @call env call _ _ _ hrun =>
          cases call
          case graceBuyout =>
            obtain ⟨_, hrun⟩ := run_effectOf_ok.mp hrun
            exact run_locked_book (fun b b' => b.Carries j b' Subscription.KeepsFunds)
              (fun _ _ hbody => doGraceBuyout_keepsFunds hbody j) (run_guardedCall_ok.mp hrun).2
          all_goals cases hbuyOut
        | @item env entry => cases entry <;> cases hbuyOut
        | @itemFailed env entry => cases entry <;> cases hbuyOut
        | other => cases hbuyOut
      · exact hrest hplain (fun id heq => hresume ⟨id, heq⟩) fun id heq => hbuyOut ⟨id, heq⟩

/-- A new subscription has no balance. -/
theorem VaultStep.createsEmpty (h : VaultStep l s t) (hcreate : l.operation = .create) :
    s.book.CreatesEmpty t.book := by
  cases h with
  | @call env call _ _ _ hrun =>
    cases call
    case createSubscription =>
      obtain ⟨_, hrun⟩ := run_effectOf_ok.mp hrun
      exact (doCreateSubscription_book (run_stoppableCall_ok.mp hrun).2).2.1
    case createSubscriptionWithToken =>
      obtain ⟨_, hrun⟩ := run_effectOf_ok.mp hrun
      exact (doCreateSubscriptionWithToken_book (run_stoppableCall_ok.mp hrun).2).2.1
    case createSubscriptionWithSplit =>
      obtain ⟨_, hrun⟩ := run_effectOf_ok.mp hrun
      exact (createSubscriptionWithSplit_book (run_stoppableCall_ok.mp hrun).2).2.1
    case createSubscriptionFromPlan =>
      obtain ⟨_, hrun⟩ := run_effectOf_ok.mp hrun
      exact (doCreateSubscriptionFromPlan_book (run_stoppableCall_ok.mp hrun).2).2.1
    all_goals cases hcreate
  | @item env entry => cases entry <;> cases hcreate
  | @itemFailed env entry => cases entry <;> cases hcreate
  | other => cases hcreate

theorem funded_of_step (h : s.book.Funded) (hstep : VaultStep l s t)
    (hrestore : ∀ summaries, l.operation ≠ .restore summaries) : t.book.Funded := by
  intro j found hfound
  by_cases hnew : l.operation = .create ∧ j = s.book.nextId
  · obtain ⟨hcreate, rfl⟩ := hnew
    obtain ⟨sub, hrecord, hempty⟩ := hstep.createsEmpty hcreate
    have hself : t.book.record s.book.nextId = some sub :=
      (congrFun hrecord _).trans (Function.update_self ..)
    obtain rfl := Option.some.inj (hself.symm.trans hfound)
    rw [hempty]
  · have hused (hcreate : l.operation = .create) : j ≠ s.book.nextId :=
      fun heq => hnew ⟨hcreate, heq⟩
    cases hsub : s.book.record j with
    | some sub =>
      obtain ⟨new, hkept, hfunds⟩ := hstep.keepsFunds hrestore hused sub hsub
      obtain rfl := Option.some.inj (hkept.symm.trans hfound)
      exact hfunds (h j sub hsub)
    | none =>
      have hnone : t.book.record j = none := by
        rcases hstep.changes with hsame | hchanges
        · rw [hsame]
          exact hsub
        rcases (hchanges.view j).reads hsub with hnone | ⟨hcreate, heq⟩ | ⟨summaries, heq⟩
        · exact hnone
        · exact absurd heq (hused hcreate)
        · exact absurd heq (hrestore summaries)
      rw [hnone] at hfound
      cases hfound

end Steps

/-! ## Transactions -/

def Transaction.isRestore : Transaction → Bool
  | .call _ (.restoreSnapshotPage _ _ _) => true
  | _ => false

section Transactions

variable {env : Env} {s t start : State} {l : Transaction} {hist : History Transaction State}
  {I : State → Prop}

theorem invariant_of_worked {Q : VaultAction → Prop} {items : List BulkItem}
    (h : Worked env items s t) (hstep : ∀ l u v, VaultStep l u v → Q l → I u → I v)
    (hquiet : Q (.other env)) (hitem : ∀ item ∈ items, Q (.item env item)) (hs : I s) : I t := by
  obtain ⟨steps, hrun, hsteps⟩ := h
  induction hrun with
  | start => exact hs
  | @next hist u v l _ hlast ih =>
    have hbefore := ih fun step hmem => hsteps step (List.mem_cons_of_mem _ hmem)
    refine hstep l u v hlast ?_ hbefore
    rcases hsteps _ List.mem_cons_self with hl | ⟨item, hmem, hl⟩
    · obtain rfl : l = .other env := hl
      exact hquiet
    · obtain rfl : l = .item env item := hl
      exact hitem item hmem

/-- A transaction's steps are its own call, or what the call works through. -/
theorem Transacts.invariant_at {Q : VaultAction → Prop}
    (hstep : ∀ l u v, VaultStep l u v → Q l → I u → I v) (hquiet : ∀ env, Q (.other env))
    (h : Transacts l s t)
    (hitem : ∀ env call, l = .call env call → ∀ item ∈ call.items, Q (.item env item))
    (hcall : ∀ env call, l = .call env call → call.isBulk = false → Q (.call env call))
    (hs : I s) : I t := by
  cases h with
  | @call env call _ _ hrun =>
    by_cases hbulk : call.isBulk = true
    · exact invariant_of_worked (VaultCall.worked hbulk hrun) hstep (hquiet env)
        (hitem env call rfl) hs
    · have hsingle := Bool.eq_false_iff.mpr hbulk
      exact hstep _ s t (.call hsingle hrun) (hcall env call rfl hsingle) hs
  | @other env _ _ hagree =>
    have hother : VaultStep (.other env) s t := .other (hagree.mono (areas_subset_unbooked rfl))
    exact hstep _ s t hother (hquiet env) hs

/-- The steps perform the call's own operation, or work through a list. -/
theorem Transacts.invariant_of {Q : Operation → Prop}
    (hstep : ∀ l u v, VaultStep l u v → Q l.operation → I u → I v)
    (hquiet : Q .other) (hitem : ∀ item : BulkItem, Q item.operation) (h : Transacts l s t)
    (hcall : ∀ env call, l = .call env call → Q call.operation) (hs : I s) : I t :=
  Transacts.invariant_at (Q := fun l => Q l.operation) hstep (fun _ => hquiet) h
    (fun _ _ _ item _ => hitem item) (fun env call hl _ => hcall env call hl) hs

/-- What every step of the vault preserves but a restore. -/
theorem Transacts.invariant
    (hstep : ∀ l u v, VaultStep l u v → (∀ summaries, l.operation ≠ .restore summaries) →
      I u → I v) (h : Transacts l s t) (hrestore : l.isRestore = false) (hs : I s) : I t := by
  refine Transacts.invariant_of (Q := fun op => ∀ summaries, op ≠ .restore summaries) hstep
    (fun summaries heq => by cases heq) (fun item summaries heq => by cases item <;> cases heq) h
    (fun env call hl summaries heq => ?_) hs
  obtain rfl := hl
  cases call
  case restoreSnapshotPage => cases hrestore
  all_goals cases heq

/-- Without a restored snapshot no balance is negative, and the numbers in use are the first. -/
theorem funded_of_run (hdeployed : Deployed start) (hrun : Run Transacts start hist s)
    (hrestore : ∀ step ∈ hist, step.1.isRestore = false) :
    s.book.Funded ∧ s.book.Numbered := by
  induction hrun with
  | start =>
    refine ⟨fun j sub hsub => ?_, hdeployed.numbered⟩
    rw [hdeployed.book] at hsub
    cases hsub
  | @next hist u v l _ hstep ih =>
    have hbefore := ih fun step hmem => hrestore step (List.mem_cons_of_mem _ hmem)
    refine hstep.invariant (I := fun s => s.book.Funded ∧ s.book.Numbered)
      (fun l u v hlast hplain hu => ?_) (hrestore _ List.mem_cons_self) hbefore
    exact ⟨funded_of_step hu.1 hlast hplain, numbered_of_step hu.2 hlast hplain⟩

end Transactions

end SubscriptionVault
