import SubscriptionVault.Lifecycle.CreditLimit
import SubscriptionVault.Lifecycle.LifetimeCaps

/-!
# Charged out of what was paid in

Only deposits and buyouts pay into a subscription, and what is counted as charged was taken out of
it. So what has been charged over its lifetime, together with what is left, was paid in before.
-/

namespace SubscriptionVault

open Exec

/-- What was charged so far, and what is left. -/
def State.funding (s : State) (id : Nat) : Int := s.prepaidBalance id + s.lifetimeCharged id

/-- What a step that goes through pays into the subscription. A buyout is booked as a deposit,
though it moves no token. -/
def VaultAction.paysInto (id : Nat) (l : VaultAction) (s : State) : Int :=
  match l with
  | .call _ (.depositFunds j amount _) | .call _ (.depositFundsOnBehalf j _ amount _)
  | .call _ (.graceBuyout j _ amount _) => if j = id then amount else 0
  | .item env (.deposit caller j amount) =>
    if j = id ∧ (bulkDepositOne caller j amount).succeeds env s = true then amount else 0
  | _ => 0

/-- What was paid into the subscription over the run. -/
def paidOver (id : Nat) (hist : History VaultAction State) : Int :=
  (hist.map fun step => step.1.paysInto id step.2).sum

section Steps

variable {env : Env} {s t : State} {l : VaultAction} {id j : Nat} {op : Operation}
  {sub new : Subscription} {amount : Int}

theorem State.funding_of_record (h : s.subscription id = some sub) :
    s.funding id = sub.prepaidBalance + sub.lifetimeCharged := by
  unfold State.funding State.prepaidBalance State.lifetimeCharged
  rw [h]
  rfl

theorem State.funding_of_none (h : s.subscription id = none) : s.funding id = 0 := by
  unfold State.funding State.prepaidBalance State.lifetimeCharged
  rw [h]
  rfl

theorem State.funding_of_reads (h : s.book.Reads id sub) :
    s.funding id = sub.prepaidBalance + sub.lifetimeCharged := by
  obtain ⟨stored, hstored, rfl | ⟨-, rfl⟩⟩ := h
  · exact State.funding_of_record hstored
  · exact (State.funding_of_record hstored).trans rfl

/-- What is counted as charged is taken from the balance, and nothing but a deposit, an edit or a
resumption is left to say more about. -/
theorem Rewrites.funding_kept (h : Rewrites env s id op sub new) (hbuyout : op ≠ .buyOut id)
    (hfunds : 0 ≤ sub.prepaidBalance) :
    new.prepaidBalance + new.lifetimeCharged ≤ sub.prepaidBalance + sub.lifetimeCharged ∨
      new.lifetimeCharged = sub.lifetimeCharged ∧
        (op = .deposit id ∨ op = .edit id ∨ op = .resume id) := by
  cases h with
  | edited hop hnew =>
    refine .inr ⟨by rw [hnew], ?_⟩
    exact hop.imp_right .inl
  | revived hop _ hnew =>
    refine .inr ⟨by rw [hnew], ?_⟩
    exact hop.imp_right .inr
  | paused | resumed | archived | transferred | replanned => exact .inl le_rfl
  | cancelled => exact .inl (Int.add_le_add_right hfunds _)
  | rehomed =>
    unfold Subscription.rehomed
    split <;> exact .inl le_rfl
  | halted _ _ hbalance hnew =>
    have hcharged : new.lifetimeCharged = sub.lifetimeCharged := by rw [hnew]
    omega
  | settled _ _ hsettled =>
    rw [hsettled.2]
    dsimp only
    omega
  | used _ hsettled =>
    rw [hsettled.2]
    dsimp only
    omega
  | boughtOut => exact absurd rfl hbuyout

/-- Only deposits and buyouts of the subscription add to it. -/
theorem VaultStep.funding_le (h : VaultStep l s t) (hfunded : s.book.Funded)
    (hnumbered : s.book.Numbered) (hrestore : ∀ summaries, l.operation ≠ .restore summaries)
    (hdeposit : l.operation ≠ .deposit id) (hbuyout : l.operation ≠ .buyOut id) :
    t.funding id ≤ s.funding id := by
  have hrecord := h.at_record id
  generalize hop : l.operation = op at hrecord
  cases hrecord with
  | kept hsame =>
    unfold State.funding State.prepaidBalance State.lifetimeCharged
    rw [show t.subscription id = s.subscription id from hsame]
  | @rewritten _ sub new hreads hrewrites hafter =>
    subst hop
    have hfunds : 0 ≤ sub.prepaidBalance := by
      have ⟨stored, hstored, _⟩ := hreads
      rw [hreads.balance_eq ⟨stored, hstored, .inl rfl⟩]
      exact hfunded id stored hstored
    rw [State.funding_of_record hafter, State.funding_of_reads hreads]
    rcases hrewrites.funding_kept hbuyout hfunds with hle | ⟨hcharged, hop | hop | hop⟩
    · exact hle
    · exact (hdeposit hop).elim
    all_goals
      have hdrawn := h.drawn (by rw [hop]; rfl) hreads hafter hrewrites hfunds
      omega
  | @created new hid hafter =>
    have hnone : s.subscription id = none := hnumbered.unused id hid.ge
    obtain ⟨created, hcreated, hempty⟩ := h.createsEmpty hop
    have hself : t.book.record id = some created := by
      rw [hcreated, hid]
      exact Function.update_self ..
    rcases h.changes with hsame | hchanges
    · rw [hsame, show s.book.record id = none from hnone] at hself
      cases hself
    rw [hop] at hchanges
    obtain ⟨started, -, -, -, hzero, -, hbook, -⟩ := hchanges
    have hstarted : t.book.record id = some started := by
      rw [hbook, hid]
      exact Function.update_self ..
    obtain rfl := Option.some.inj (hself.symm.trans hstarted)
    rw [State.funding_of_record hself, hempty, hzero, State.funding_of_none hnone]
    exact le_rfl
  | restored => exact absurd hop (hrestore _)

theorem VaultStep.funding_of_deposit (h : VaultStep l s t) (hop : l.operation = .deposit id) :
    t.funding id = s.funding id + l.paysInto id s := by
  have htops {v w : State} {sub new : Subscription} {amount : Int} (hv : v.book = s.book)
      (hw : t.book = w.book) (htops : TopsUp v.book w.book id sub new amount) :
      t.funding id = s.funding id + amount := by
    have hafter : t.book.record id = some new := by
      rw [hw, htops.record]
      exact Function.update_self _ _ _
    rw [State.funding_of_record hafter, State.funding_of_reads (hv ▸ htops.reads), htops.balance,
      htops.charged]
    omega
  cases h with
  | @call env call _ _ hsingle hrun =>
    clear hsingle
    cases call
    case depositFunds j amount nonce =>
      obtain rfl := Operation.deposit.inj hop
      obtain ⟨u, hbody, hbook⟩ := run_locked_ok (run_guardedCall_ok.mp hrun).2
      obtain ⟨sub, new, h⟩ := doDepositFunds_topsUp hbody
      exact (htops (s.book_lock _ true) hbook h).trans (by rw [VaultAction.paysInto, if_pos rfl])
    case depositFundsOnBehalf j payer amount nonce =>
      obtain rfl := Operation.deposit.inj hop
      obtain ⟨u, hbody, hbook⟩ := run_locked_ok (run_guardedCall_ok.mp hrun).2
      obtain ⟨sub, new, h⟩ := doDepositFundsOnBehalf_topsUp hbody
      exact (htops (s.book_lock _ true) hbook h).trans (by rw [VaultAction.paysInto, if_pos rfl])
    all_goals cases hop
  | @item env entry _ _ hrun =>
    cases entry with
    | deposit caller j amount =>
      obtain rfl := Operation.deposit.inj hop
      obtain ⟨sub, new, h⟩ := bulkDepositOne_topsUp hrun
      rw [htops rfl rfl h, VaultAction.paysInto, if_pos ⟨rfl, succeeds_of_ok hrun⟩]
    | charge | cancel | pause => cases hop
  | @itemFailed env entry _ _ e hrun =>
    cases entry with
    | deposit caller j amount =>
      obtain rfl := bulkDepositOne_err hrun
      have hfailed : (bulkDepositOne caller j amount).run env s = .err e s := hrun
      simp [VaultAction.paysInto, Exec.succeeds, hfailed]
    | charge | cancel | pause => cases hop
  | other => cases hop

theorem VaultStep.funding_of_buyout (h : VaultStep l s t) (hop : l.operation = .buyOut id) :
    t.funding id = s.funding id + l.paysInto id s := by
  cases h with
  | @call env call _ _ hsingle hrun =>
    clear hsingle
    cases call
    case graceBuyout j subscriber amount key =>
      obtain rfl := Operation.buyOut.inj hop
      obtain ⟨paid, hrun⟩ := run_effectOf_ok.mp hrun
      obtain ⟨u, hbody, hbook⟩ := run_locked_ok (run_guardedCall_ok.mp hrun).2
      obtain ⟨sub, haffords, hafter⟩ := doGraceBuyout_settles hbody
      have hbought : t.book.record j = some (sub.boughtOut amount env.now) := by
        rw [hbook, hafter]
        exact Function.update_self _ _ _
      have hreads : s.book.Reads j sub := s.book_lock .graceBuyout true ▸ haffords.reads
      rw [State.funding_of_record hbought, State.funding_of_reads hreads, VaultAction.paysInto,
        if_pos rfl, Subscription.boughtOut]
      dsimp only
      omega
    all_goals cases hop
  | @item env entry | @itemFailed env entry => cases entry <;> cases hop
  | other => cases hop

/-- Nothing else is paid in. -/
theorem VaultAction.paysInto_eq_zero (hdeposit : l.operation ≠ .deposit id)
    (hbuyout : l.operation ≠ .buyOut id) : l.paysInto id s = 0 := by
  cases l with
  | call env call =>
    cases call
    case depositFunds | depositFundsOnBehalf => exact if_neg fun hj => hdeposit (congrArg _ hj)
    case graceBuyout => exact if_neg fun hj => hbuyout (congrArg _ hj)
    all_goals rfl
  | item env entry =>
    cases entry with
    | deposit => exact if_neg fun hj => hdeposit (congrArg _ hj.1)
    | charge | cancel | pause => rfl
  | other => rfl

end Steps

/-! ## Runs -/

section Runs

variable {start s : State} {hist : History VaultAction State}

theorem paid_of_run (hdeployed : Deployed start) (hrun : Run VaultStep start hist s)
    (hrestore : ∀ step ∈ hist, ∀ summaries, step.1.operation ≠ .restore summaries) :
    s.book.Funded ∧ s.book.Numbered ∧ ∀ id, s.funding id ≤ paidOver id hist := by
  induction hrun with
  | start =>
    have hnone (id : Nat) : start.subscription id = none :=
      congrArg (Book.record · id) hdeployed.book
    refine ⟨fun id sub hsub => ?_, hdeployed.numbered, fun id => ?_⟩
    · cases (hnone id).symm.trans hsub
    · exact (State.funding_of_none (hnone id)).le
  | @next hist u v l _ hlast ih =>
    have hplain := hrestore (l, u) List.mem_cons_self
    obtain ⟨hfunded, hnumbered, hpaid⟩ :=
      ih fun step hmem => hrestore step (List.mem_cons_of_mem _ hmem)
    refine ⟨funded_of_step hfunded hlast hplain, numbered_of_step hnumbered hlast hplain,
      fun id => ?_⟩
    have hearlier := hpaid id
    have hsum : paidOver id ((l, u) :: hist) = l.paysInto id u + paidOver id hist := List.sum_cons
    have hadded : v.funding id ≤ u.funding id + l.paysInto id u := by
      by_cases hdeposit : l.operation = .deposit id
      · exact (hlast.funding_of_deposit hdeposit).le
      by_cases hbuyout : l.operation = .buyOut id
      · exact (hlast.funding_of_buyout hbuyout).le
      rw [VaultAction.paysInto_eq_zero hdeposit hbuyout, Int.add_zero]
      exact hlast.funding_le hfunded hnumbered hplain hdeposit hbuyout
    omega

/-- Over any run that restores no snapshot, what a subscription was charged and what it has left
was paid in before, and nothing is left below zero. -/
theorem charged_within_paid (hdeployed : Deployed start) (hrun : Run VaultStep start hist s)
    (hrestore : ∀ step ∈ hist, ∀ summaries, step.1.operation ≠ .restore summaries) (id : Nat) :
    0 ≤ s.prepaidBalance id ∧
      s.prepaidBalance id + s.lifetimeCharged id ≤ paidOver id hist := by
  obtain ⟨hfunded, -, hpaid⟩ := paid_of_run hdeployed hrun hrestore
  refine ⟨?_, hpaid id⟩
  unfold State.prepaidBalance
  cases hsub : s.subscription id with
  | none => exact le_rfl
  | some sub => exact hfunded id sub hsub

end Runs

private def refundedActions : List VaultAction :=
  [.call (sampleEnv 61 [⟨8⟩]) (.partialRefund ⟨8⟩ 0 ⟨2⟩ 4),
   .call (sampleEnv 60 []) (.chargeSubscription 0 none),
   .call (sampleEnv 0 [⟨2⟩]) (.depositFunds 0 20 none),
   .call (sampleEnv 0 [⟨2⟩]) (.createSubscription sampleRequest)]

/-- Of a deposit of 20 a charge takes 10, and a refund leaves 6. -/
theorem charged_within_paid_of_refund : ∃ hist s, Run VaultStep (sampleStart 0) hist s ∧
    paidOver 0 hist = 20 ∧ s.lifetimeCharged 0 = 10 ∧ s.prepaidBalance 0 = 6 ∧
      s.prepaidBalance 0 + s.lifetimeCharged 0 ≤ paidOver 0 hist := by
  have hrun := run_actions (sample_prepared 0)
    (show actionsSucceed (afterCalls (sampleVault 0)) refundedActions = true by decide +kernel)
  obtain ⟨-, hpaid⟩ := charged_within_paid (sample_deployed 0) hrun (by
    simp [actionHistory, refundedActions, VaultAction.operation, VaultCall.operation]) 0
  exact ⟨_, _, hrun, by decide +kernel, by decide +kernel, by decide +kernel, hpaid⟩

end SubscriptionVault
