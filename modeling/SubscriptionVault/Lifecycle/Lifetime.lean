import SubscriptionVault.Lifecycle.Prepaid

/-!
# Lifetime charges

What a subscription has been charged over its lifetime never goes down, unless a snapshot is
restored.
-/

namespace SubscriptionVault

open Exec

/-- What the subscription was charged so far, nothing where there is none. -/
def State.lifetimeCharged (s : State) (id : Nat) : Int :=
  (s.subscription id).elim 0 (·.lifetimeCharged)

def Subscription.KeepsCharges (sub new : Subscription) : Prop :=
  sub.lifetimeCharged ≤ new.lifetimeCharged

section Changes

variable {env : Env} {s t : State} {b b' : Book} {id j : Nat} {sub new : Subscription}

theorem Subscription.KeepsCharges.refl (sub : Subscription) : sub.KeepsCharges sub :=
  Int.le_refl _

theorem Subscription.SameLifetime.keepsCharges (h : sub.SameLifetime new) :
    sub.KeepsCharges new :=
  Int.le_of_eq h.symm

theorem Book.keepsCharges_of_set (hreads : b.Reads id sub) (hkeeps : sub.KeepsCharges new)
    (hrecord : b'.record = (b.setRecord id new).record) (j : Nat) :
    b.Carries j b' Subscription.KeepsCharges := by
  have hkept (status : SubscriptionStatus) :
      ({ sub with status } : Subscription).KeepsCharges new := hkeeps
  exact .of_edit .refl hreads hkept hrecord j

theorem IntervalChanges.keepsCharges (h : IntervalChanges env s id b') (j : Nat) :
    s.book.Carries j b' Subscription.KeepsCharges := by
  cases h with
  | unchanged => exact .of_same .refl rfl
  | expired hadmitted =>
    have hreads := Book.reads_of_effective hadmitted.found
    refine Book.keepsCharges_of_set hreads ?_ rfl j
    exact Int.le_refl _
  | capped hclear | cancelled hclear =>
    have hreads := Book.reads_of_effective hclear.found
    refine Book.keepsCharges_of_set hreads ?_ rfl j
    exact Int.le_refl _
  | short hdue _ _ hnew =>
    refine Book.keepsCharges_of_set hdue.reads ?_ rfl j
    rw [hnew]
    exact Int.le_refl _
  | booked hbooks =>
    obtain ⟨sub, new, amount, hdue, ⟨hsign, -⟩, hsettled, hends⟩ := hbooks
    have hrecord : b'.record = (s.book.setRecord id new).record := by
      rcases hends with rfl | rfl <;> rfl
    refine Book.keepsCharges_of_set hdue.reads ?_ hrecord j
    rw [hsettled.2]
    exact Int.le_add_of_nonneg_right hsign

theorem UsageChanges.keepsCharges {usageAmount : Int} (h : UsageChanges env s id usageAmount b')
    (j : Nat) : s.book.Carries j b' Subscription.KeepsCharges := by
  cases h with
  | unchanged => exact .of_same .refl rfl
  | capped hdue | unfit hdue =>
    refine Book.keepsCharges_of_set hdue.reads ?_ rfl j
    exact Int.le_refl _
  | booked hdue _ hsettled =>
    refine Book.keepsCharges_of_set hdue.reads ?_ rfl j
    rw [hsettled.2]
    exact Int.le_add_of_nonneg_right (Int.le_of_lt hdue.positive)

end Changes

/-! ## Steps -/

section Steps

variable {s t : State} {j : Nat} {l : VaultAction}

theorem VaultStep.keepsCharges (h : VaultStep l s t)
    (hrestore : ∀ summaries, l.operation ≠ .restore summaries)
    (hused : l.operation = .create → j ≠ s.book.nextId) :
    s.book.Carries j t.book Subscription.KeepsCharges := by
  cases hsettles : l.operation.settles j with
  | false =>
    intro sub hsub
    obtain ⟨new, hnew, hsame⟩ := h.lifetime hsettles hrestore hused sub hsub
    exact ⟨new, hnew, hsame.keepsCharges⟩
  | true =>
    rcases h.changes with hsame | hchanges
    · exact .of_same .refl (by rw [hsame])
    cases hop : l.operation with
    | charge id =>
      rw [hop] at hchanges
      exact IntervalChanges.keepsCharges hchanges j
    | chargeUsage id usageAmount =>
      rw [hop] at hchanges
      exact UsageChanges.keepsCharges hchanges j
    | buyOut id =>
      cases h with
      | @call env call _ _ _ hrun =>
        cases call
        case graceBuyout _ amount _ _ =>
          obtain ⟨_, hrun⟩ := run_effectOf_ok.mp hrun
          refine run_locked_book (fun b b' => b.Carries j b' Subscription.KeepsCharges)
            (fun _ _ hbody => ?_) (run_guardedCall_ok.mp hrun).2
          obtain ⟨sub, haffords, hbook⟩ := doGraceBuyout_settles hbody
          have hkeeps : sub.KeepsCharges (sub.boughtOut amount env.now) :=
            Int.le_add_of_nonneg_right haffords.costs
          refine Book.keepsCharges_of_set haffords.reads hkeeps ?_ j
          rw [hbook]
          rfl
        all_goals cases hop
      | @item env entry => cases entry <;> cases hop
      | @itemFailed env entry => cases entry <;> cases hop
      | other => cases hop
    | _ =>
      rw [hop] at hsettles
      cases hsettles

/-- A number that is not in use stands for nothing charged, so creations fit in. -/
theorem VaultStep.lifetimeCharged_le (h : VaultStep l s t) (hnumbered : s.book.Numbered)
    (hrestore : ∀ summaries, l.operation ≠ .restore summaries) (j : Nat) :
    s.lifetimeCharged j ≤ t.lifetimeCharged j := by
  have hcharged (u : State) : u.lifetimeCharged j =
      (u.book.record j).elim 0 (·.lifetimeCharged) := rfl
  cases hsub : s.book.record j with
  | some sub =>
    have hused (_ : l.operation = .create) : j ≠ s.book.nextId := by
      intro heq
      have hnone := hnumbered.unused j (Nat.le_of_eq heq.symm)
      rw [hsub] at hnone
      cases hnone
    obtain ⟨new, hnew, hkeeps⟩ := h.keepsCharges hrestore hused sub hsub
    rw [hcharged s, hcharged t, hsub, hnew]
    exact hkeeps
  | none =>
    rw [hcharged s, hsub]
    change 0 ≤ t.lifetimeCharged j
    cases hnew : t.book.record j with
    | none =>
      rw [hcharged t, hnew]
      exact Int.le_refl 0
    | some new =>
      -- only a creation puts a record where none was
      rw [hcharged t, hnew]
      rcases h.changes with hsame | hchanges
      · rw [hsame, hsub] at hnew
        cases hnew
      rcases (hchanges.view j).reads hsub with hnone | ⟨hcreate, rfl⟩ | ⟨summaries, hrestores⟩
      · rw [hnone] at hnew
        cases hnew
      · rw [hcreate] at hchanges
        obtain ⟨sub, -, -, -, hzero, -, hbook, -⟩ := hchanges
        have hself : t.book.record s.book.nextId = some sub := by
          rw [hbook]
          exact Function.update_self ..
        obtain rfl := Option.some.inj (hself.symm.trans hnew)
        exact Int.le_of_eq hzero.symm
      · exact absurd hrestores (hrestore summaries)

end Steps

/-! ## Transactions -/

theorem Transacts.lifetimeCharged_le {l : Transaction} {s t : State} (h : Transacts l s t)
    (hrestore : l.isRestore = false) (hnumbered : s.book.Numbered) :
    t.book.Numbered ∧ ∀ j, s.lifetimeCharged j ≤ t.lifetimeCharged j := by
  refine h.invariant (I := fun u => u.book.Numbered ∧
    ∀ j, s.lifetimeCharged j ≤ u.lifetimeCharged j) (fun l u v hstep hplain hu => ?_) hrestore
    ⟨hnumbered, fun _ => Int.le_refl _⟩
  refine ⟨numbered_of_step hu.1 hstep hplain, fun j => ?_⟩
  exact (hu.2 j).trans (hstep.lifetimeCharged_le hu.1 hplain j)

end SubscriptionVault
