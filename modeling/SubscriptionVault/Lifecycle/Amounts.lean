import SubscriptionVault.Lifecycle.Terms
import SubscriptionVault.Lifecycle.Transactions

/-!
# Amounts charged

What a subscription has been charged so far changes with a charge of that subscription or its
buyout, and with nothing else, unless a record is put in its place. The steps of a run say this
one by one, and a transaction makes such a run.
-/

namespace SubscriptionVault

open Exec

/-- The operation charges the subscription or buys it out. -/
def Operation.settles (j : Nat) : Operation → Bool
  | .charge id | .chargeUsage id _ | .buyOut id => id = j
  | _ => false

def Subscription.SameLifetime (sub new : Subscription) : Prop :=
  new.lifetimeCharged = sub.lifetimeCharged

/-! ## Operations -/

section Changes

variable {env : Env} {s : State} {b b' : Book} {id j : Nat} {op : Operation}
  {sub new : Subscription}

theorem Subscription.SameLifetime.refl (sub : Subscription) : sub.SameLifetime sub := rfl

theorem Book.lifetime_of_set (hreads : b.Reads id sub)
    (hrecord : b'.record = (b.setRecord id new).record)
    (hsame : sub.SameLifetime new) (j : Nat) : b.Carries j b' Subscription.SameLifetime := by
  have hkept (status : SubscriptionStatus) :
      ({ sub with status } : Subscription).SameLifetime new := hsame
  exact .of_edit .refl hreads hkept hrecord j

theorem EditsRecord.lifetime (h : EditsRecord b id b') (j : Nat) :
    b.Carries j b' Subscription.SameLifetime := by
  obtain ⟨sub, new, hreads, hnew, rfl⟩ := h
  have hsame : sub.SameLifetime new := by
    rw [hnew]
    rfl
  exact Book.lifetime_of_set hreads rfl hsame j

theorem RevivesRecord.lifetime (h : RevivesRecord b id b') (j : Nat) :
    b.Carries j b' Subscription.SameLifetime := by
  obtain ⟨sub, new, hreads, -, hnew, rfl⟩ := h
  have hsame : sub.SameLifetime new := by
    rw [hnew]
    rfl
  exact Book.lifetime_of_set hreads rfl hsame j

theorem ResumesRecords.lifetime (h : ResumesRecords b b') (j : Nat) :
    b.Carries j b' Subscription.SameLifetime := by
  rcases h.at_record j with hsame | ⟨-, sub, hsub, -, hafter⟩
  · exact .of_same .refl hsame.record
  · intro stored hstored
    obtain rfl : sub = stored := Option.some.inj (hsub.symm.trans hstored)
    exact ⟨_, hafter, rfl⟩

theorem Book.rotated_lifetime (b : Book) (oldMerchant newMerchant : Address) (j : Nat) :
    b.Carries j (b.rotated oldMerchant newMerchant) Subscription.SameLifetime := by
  intro sub hsub
  have hrecord : (b.rotated oldMerchant newMerchant).record j =
      if j ∈ b.merchantSubs oldMerchant then
        (b.record j).map (·.rehomed oldMerchant newMerchant) else b.record j := rfl
  rw [hsub] at hrecord
  split at hrecord
  · refine ⟨_, hrecord, ?_⟩
    show (sub.rehomed oldMerchant newMerchant).lifetimeCharged = sub.lifetimeCharged
    unfold Subscription.rehomed
    split <;> rfl
  · exact ⟨sub, hrecord, rfl⟩

theorem CreatesRecord.other_record (h : CreatesRecord env b b') (hj : j ≠ b.nextId) :
    b'.record j = b.record j := by
  obtain ⟨sub, -, -, -, -, -, hbook, -⟩ := h
  have hrecord : b'.record = (b.setRecord b.nextId sub).record := by
    rw [hbook]
    rfl
  exact (congrFun hrecord j).trans (Function.update_of_ne hj ..)

/-! Charges write the record they are for. -/

theorem IntervalChanges.other_record (h : IntervalChanges env s id b') (hj : j ≠ id) :
    b'.record j = s.book.record j := by
  cases h with
  | unchanged => rfl
  | expired | capped | cancelled | short => exact Function.update_of_ne hj ..
  | booked hbooks =>
    obtain ⟨sub, new, amount, -, -, -, hends⟩ := hbooks
    rcases hends with rfl | rfl <;> exact Function.update_of_ne hj ..

theorem UsageChanges.other_record {usageAmount : Int} (h : UsageChanges env s id usageAmount b')
    (hj : j ≠ id) : b'.record j = s.book.record j := by
  cases h with
  | unchanged => rfl
  | capped | booked | unfit => exact Function.update_of_ne hj ..

theorem BuysOut.other_record (h : BuysOut env b id b') (hj : j ≠ id) :
    b'.record j = b.record j := by
  obtain ⟨sub, new, -, -, -, -, -, rfl⟩ := h
  exact Function.update_of_ne hj ..

/-- Besides charges, only a restore or a creation under the same number may change what a
subscription was charged. -/
theorem Operation.Changes.lifetime (h : op.Changes env s b') (hcharge : op.settles j = false)
    (hrestore : ∀ summaries, op ≠ .restore summaries)
    (hused : op = .create → j ≠ s.book.nextId) :
    s.book.Carries j b' Subscription.SameLifetime := by
  cases op with
  | create => exact .of_same .refl (CreatesRecord.other_record h (hused rfl))
  | deposit =>
    rcases h with h | h
    · exact EditsRecord.lifetime h j
    · exact RevivesRecord.lifetime h j
  | charge =>
    have hj := of_decide_eq_false hcharge
    exact .of_same .refl (IntervalChanges.other_record h fun heq => hj heq.symm)
  | chargeUsage =>
    have hj := of_decide_eq_false hcharge
    exact .of_same .refl (UsageChanges.other_record h fun heq => hj heq.symm)
  | buyOut =>
    have hj := of_decide_eq_false hcharge
    exact .of_same .refl (BuysOut.other_record h fun heq => hj heq.symm)
  | cancel =>
    obtain ⟨sub, hreads, -, -, rfl⟩ := h
    have hnew : sub.SameLifetime { sub with status := .cancelled, prepaidBalance := 0 } := rfl
    refine Book.lifetime_of_set hreads ?_ hnew j
    split <;> rfl
  | pause =>
    obtain ⟨sub, hreads, -, -, rfl⟩ := h
    have hnew : sub.SameLifetime { sub with status := .paused } := rfl
    exact Book.lifetime_of_set hreads rfl hnew j
  | resume =>
    rcases h with h | h
    · exact ResumesRecords.lifetime h.chain j
    · exact RevivesRecord.lifetime h j
  | edit => exact EditsRecord.lifetime h j
  | archive =>
    obtain ⟨sub, hreads, -, -, rfl⟩ := h
    have hnew : sub.SameLifetime { sub with status := .archived } := rfl
    exact Book.lifetime_of_set hreads rfl hnew j
  | replan =>
    obtain ⟨plan, -, sub, hreads, rfl⟩ := h
    refine Book.lifetime_of_set hreads rfl ?_ j
    rfl
  | transfer id «to» =>
    obtain ⟨sub, hreads, rfl⟩ := h
    have hnew : sub.SameLifetime { sub with subscriber := «to» } := rfl
    refine Book.lifetime_of_set hreads ?_ hnew j
    dsimp only
    split <;> rfl
  | unblock => exact ResumesRecords.lifetime h j
  | rotate oldMerchant newMerchant =>
    obtain rfl := h
    exact s.book.rotated_lifetime oldMerchant newMerchant j
  | restore summaries => exact absurd rfl (hrestore summaries)
  | renumber =>
    have hbook : b' = { s.book with nextId := b'.nextId, schemaVersion := b'.schemaVersion } := h.1
    exact .of_same .refl (by rw [hbook])
  | other => exact h.elim

end Changes

/-! ## Steps and transactions -/

section Steps

variable {env : Env} {s t : State} {j : Nat}

theorem VaultStep.lifetime {l : VaultAction} (h : VaultStep l s t)
    (hcharge : l.operation.settles j = false)
    (hrestore : ∀ summaries, l.operation ≠ .restore summaries)
    (hused : l.operation = .create → j ≠ s.book.nextId) :
    s.book.Carries j t.book Subscription.SameLifetime := by
  rcases h.changes with hsame | hchanges
  · exact .of_same .refl (by rw [hsame])
  · exact hchanges.lifetime hcharge hrestore hused

/-- The call charges the subscription or buys it out, on its own or in a batch. -/
def VaultCall.settles (j : Nat) (call : VaultCall) : Bool :=
  call.operation.settles j || call.items.any fun item => item.operation.settles j

theorem lifetime_of_worked {items : List BulkItem} (h : Worked env items s t)
    (hcharge : ∀ item ∈ items, item.operation.settles j = false) :
    s.book.Carries j t.book Subscription.SameLifetime := by
  obtain ⟨steps, hrun, hsteps⟩ := h
  induction hrun with
  | start => exact .of_same .refl rfl
  | @next hist u v l _ hlast ih =>
    have hbefore := ih fun step hmem => hsteps step (List.mem_cons_of_mem _ hmem)
    have hstep : u.book.Carries j v.book Subscription.SameLifetime := by
      rcases hsteps _ List.mem_cons_self with hl | ⟨item, hmem, hl⟩
      · obtain rfl : l = .other env := hl
        exact hlast.lifetime rfl (fun _ h => by cases h) fun h => by cases h
      · obtain rfl : l = .item env item := hl
        refine hlast.lifetime (hcharge item hmem) (fun _ h => ?_) fun h => ?_
        · cases item <;> cases h
        · cases item <;> cases h
    intro sub hsub
    obtain ⟨mid, hmid, hfirst⟩ := hbefore sub hsub
    obtain ⟨new, hnew, hrest⟩ := hstep mid hmid
    exact ⟨new, hnew, hrest.trans hfirst⟩

theorem VaultCall.lifetime {call : VaultCall} (hrun : call.exec.run env s = .ok () t)
    (hcharge : call.settles j = false)
    (hrestore : ∀ summaries, call.operation ≠ .restore summaries)
    (hused : call.operation = .create → j ≠ s.book.nextId) :
    s.book.Carries j t.book Subscription.SameLifetime := by
  obtain ⟨hsingle, hitems⟩ := Bool.or_eq_false_iff.mp hcharge
  by_cases hbulk : call.isBulk = true
  · refine lifetime_of_worked (VaultCall.worked hbulk hrun) fun item hmem => ?_
    exact Bool.eq_false_iff.mpr (List.any_eq_false.mp hitems item hmem)
  · have hstep : VaultStep (.call env call) s t := .call (Bool.eq_false_iff.mpr hbulk) hrun
    exact hstep.lifetime hsingle hrestore hused

end Steps

end SubscriptionVault
