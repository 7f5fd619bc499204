import SubscriptionVault.Lifecycle.Transactions

/-!
# Leaving a subscription

A subscriber can always get the prepaid balance back: by cancelling a subscription that is
still open, by withdrawing from one that is closed or has expired. Every status falls under one
of the two. Whichever is used, and however often, the balance is paid out once.
-/

namespace SubscriptionVault

open Exec

variable {env : Env} {s t : State} {id : Nat} {sub : Subscription} {contract : Address}

/-! ## The payment -/

/-- The prepaid balance has gone to the subscriber, and no other tokens have moved. -/
structure CashedOut (contract : Address) (s : State) (id : Nat) (sub : Subscription)
    (t : State) : Prop where
  emptied : ∃ left, t.subscription id = some left ∧ left.prepaidBalance = 0
  refunded : t.balanceOf =
    (s.transferred sub.token contract sub.subscriber sub.prepaidBalance).balanceOf

/-- The vault can pay the prepaid balance, and the token contract lets it. -/
structure Payable (env : Env) (s : State) (sub : Subscription) : Prop where
  solvent : sub.prepaidBalance ≤ s.balanceOf sub.token env.host.contract
  accepted : env.transferRefused sub.token env.host.contract sub.subscriber
    sub.prepaidBalance = false

theorem State.balanceOf_of_areas {l : List Area} (h : FiniteStore.AgreeOff (areas l) s t)
    (hl : l.contains .tokens = false) : t.balanceOf = s.balanceOf := by
  funext token holder
  unfold State.balanceOf
  rw [State.read_of_areas (k := .tokenBalance token holder) h hl]

theorem Payable.of_balances (h : Payable env s sub) (hbalances : t.balanceOf = s.balanceOf) :
    Payable env t sub where
  solvent := hbalances ▸ h.solvent
  accepted := h.accepted

theorem Payable.run_transfer (h : Payable env s sub) (hfunds : 0 < sub.prepaidBalance) :
    (transfer sub.token env.host.contract sub.subscriber sub.prepaidBalance).run env s =
      .ok () (s.transferred sub.token env.host.contract sub.subscriber sub.prepaidBalance) :=
  run_transfer_ok.mpr ⟨.inl rfl, hfunds.le, h.accepted, h.solvent, rfl⟩

/-! ## Withdrawal -/

theorem refundPrepaid_succeeds (h : Payable env s sub) (hfunds : 0 < sub.prepaidBalance) :
    ∃ t, (refundPrepaid id sub).run env s = .ok () t := by
  have hwrite : FiniteStore.AgreeOff (areas [.records]) s
      (s.write (.persistent (.sub id)) { sub with prepaidBalance := 0 }) :=
    s.agreeOff_write _ rfl
  have hpayable := h.of_balances (State.balanceOf_of_areas hwrite rfl)
  refine exists_run_bind (run_ask_ok.mpr ⟨rfl, rfl⟩) ?_
  refine exists_run_seq (run_store_ok.mpr rfl) ?_
  exact exists_run_seq (hpayable.run_transfer hfunds) ⟨_, run_pure_ok.mpr ⟨rfl, rfl⟩⟩

theorem cashedOut_of_refund (hrun : (refundPrepaid id sub).run env s = .ok () t) :
    CashedOut env.host.contract s id sub t := by
  have hrecord : t.subscription id = some { sub with prepaidBalance := 0 } :=
    (congrFun (congrArg Book.record (refundPrepaid_book hrun)) id).trans (Function.update_self ..)
  obtain ⟨_, hask, hrun⟩ := run_check_ok .ask hrun
  obtain ⟨rfl, -⟩ := run_ask_ok.mp hask
  obtain ⟨_, s₁, hwrite, hrun⟩ := run_bind_ok.mp hrun
  obtain ⟨_, s₂, htransfer, hrun⟩ := run_bind_ok.mp hrun
  obtain rfl := run_subTotalAccounted_ok.mp hrun
  obtain ⟨-, -, -, -, rfl⟩ := run_transfer_ok.mp htransfer
  have hsame : s₁.balanceOf = s.balanceOf :=
    State.balanceOf_of_areas ((writeSubscription_areas _ _).ok hwrite) rfl
  exact ⟨⟨_, hrecord, rfl⟩, State.balanceOf_transferred_congr hsame _ _ _ _⟩

/-! ## Cancellation -/

theorem dropIndex_succeeds (env : Env) (s : State) (key : DataKey)
    [Holds DataKey.Val key (List Nat)] (id : Nat) :
    ∃ t, (dropIndex key id).run env s = .ok () t := by
  refine exists_run_bind (run_load_ok.mpr ⟨rfl, rfl⟩) ?_
  cases s.read (.instanced key) with
  | none => exact ⟨s, run_pure_ok.mpr ⟨rfl, rfl⟩⟩
  | some ids => exact exists_run_when fun _ => ⟨_, run_store_ok.mpr rfl⟩

theorem revokeCredential_succeeds (env : Env) (s : State) (id : Nat) :
    ∃ t, (revokeCredential id).run env s = .ok () t := by
  refine exists_run_bind (run_load_ok.mpr ⟨rfl, rfl⟩) ?_
  cases s.read (.persistent (.credential id)) with
  | none => exact ⟨s, run_pure_ok.mpr ⟨rfl, rfl⟩⟩
  | some credential => exact exists_run_when fun _ => ⟨_, run_store_ok.mpr rfl⟩

theorem unindexSubscription_succeeds : ∃ t, (unindexSubscription id sub).run env s = .ok () t := by
  obtain ⟨s₁, hmerchant⟩ := dropIndex_succeeds env s (.merchantSubs sub.merchant) id
  obtain ⟨s₂, htoken⟩ := dropIndex_succeeds env s₁ (.tokenSubs sub.token) id
  exact exists_run_seq hmerchant (exists_run_seq htoken (dropIndex_succeeds env s₂ _ _))

theorem applyCancellation_succeeds (h : 0 < sub.prepaidBalance → Payable env s sub)
    (hcancel : canTransition sub.status .cancelled) :
    ∃ t, (applyCancellation id sub).run env s = .ok () t := by
  have hcount : ∃ s₁, (when (sub.status = .active)
      (decrementSubscriberActiveCount sub.subscriber)).run env s = .ok () s₁ :=
    exists_run_when fun _ => exists_run_bind (run_gets_ok.mpr ⟨rfl, rfl⟩) ⟨_, run_store_ok.mpr rfl⟩
  obtain ⟨s₁, hcount⟩ := hcount
  have hcounted : FiniteStore.AgreeOff (areas [.activeCounts]) s s₁ :=
    Keeps.ok (.when (decrementSubscriberActiveCount_areas _)) hcount
  let s₂ := s₁.write (.persistent (.sub id))
    { sub with status := .cancelled, prepaidBalance := 0 }
  have hwritten : FiniteStore.AgreeOff (areas [.records]) s₁ s₂ := s₁.agreeOff_write _ rfl
  have hpayable (hfunds : 0 < sub.prepaidBalance) : Payable env s₂ sub :=
    ((h hfunds).of_balances (State.balanceOf_of_areas hcounted rfl)).of_balances
      (State.balanceOf_of_areas hwritten rfl)
  have hrefund : ∃ s₃, (when (0 < sub.prepaidBalance) do
      let env ← ask
      subTotalAccounted sub.token sub.prepaidBalance
      transfer sub.token env.host.contract sub.subscriber sub.prepaidBalance).run env s₂ =
        .ok () s₃ := by
    refine exists_run_when fun hfunds => ?_
    refine exists_run_bind (run_ask_ok.mpr ⟨rfl, rfl⟩) ?_
    exact exists_run_seq (run_pure_ok.mpr ⟨rfl, rfl⟩) ⟨_, (hpayable hfunds).run_transfer hfunds⟩
  obtain ⟨s₃, hrefund⟩ := hrefund
  refine exists_run_bind (run_lift_ok.mpr ⟨transitionTo_ok.mpr ⟨hcancel, rfl⟩, rfl⟩) ?_
  refine exists_run_seq hcount (exists_run_seq (run_store_ok.mpr rfl) ?_)
  obtain ⟨s₄, hunindex⟩ := unindexSubscription_succeeds
  exact exists_run_seq hrefund (exists_run_seq hunindex (revokeCredential_succeeds env s₄ id))

/-- A cancellation empties the record and pays out what was in it. -/
theorem applyCancellation_pays (hrun : (applyCancellation id sub).run env s = .ok () t) :
    (∃ left, t.subscription id = some left ∧ left.prepaidBalance = 0) ∧
      t.balanceOf = if 0 < sub.prepaidBalance then
        (s.transferred sub.token env.host.contract sub.subscriber sub.prepaidBalance).balanceOf
      else s.balanceOf := by
  have hrecord : t.subscription id = some { sub with status := .cancelled, prepaidBalance := 0 } :=
    (congrFun (congrArg Book.record (applyCancellation_book hrun).2) id).trans
      (Function.update_self ..)
  refine ⟨⟨_, hrecord, rfl⟩, ?_⟩
  obtain ⟨status, -, hrun⟩ := run_check_ok (.lift _) hrun
  obtain ⟨_, s₁, hcount, hrun⟩ := run_bind_ok.mp hrun
  obtain ⟨_, s₂, hwrite, hrun⟩ := run_bind_ok.mp hrun
  obtain ⟨_, s₃, hrefund, hrun⟩ := run_bind_ok.mp hrun
  obtain ⟨_, s₄, hunindex, hrevoke⟩ := run_bind_ok.mp hrun
  have hcounted : s₁.balanceOf = s.balanceOf := State.balanceOf_of_areas
    (Keeps.ok (.when (decrementSubscriberActiveCount_areas _)) hcount) rfl
  have hwritten : s₂.balanceOf = s₁.balanceOf :=
    State.balanceOf_of_areas ((writeSubscription_areas _ _).ok hwrite) rfl
  have hlast : t.balanceOf = s₃.balanceOf :=
    (State.balanceOf_of_areas ((revokeCredential_areas _).ok hrevoke) rfl).trans
      (State.balanceOf_of_areas ((unindexSubscription_areas _ _).ok hunindex) rfl)
  have hsame : s₂.balanceOf = s.balanceOf := hwritten.trans hcounted
  rw [hlast]
  rcases run_when_ok.mp hrefund with ⟨hfunds, hpay⟩ | ⟨hempty, rfl⟩
  · rw [if_pos hfunds]
    obtain ⟨_, hask, hpay⟩ := run_check_ok .ask hpay
    obtain ⟨rfl, -⟩ := run_ask_ok.mp hask
    obtain ⟨_, -, hpay⟩ := run_check_ok (.pure _) hpay
    obtain ⟨-, -, -, -, rfl⟩ := run_transfer_ok.mp hpay
    exact State.balanceOf_transferred_congr hsame _ _ _ _
  · rw [if_neg hempty, hsame]

/-! ## The two exits -/

theorem doWithdrawSubscriberFunds_succeeds
    (hfound : s.effectiveSubscription id env.now = some sub)
    (hsigned : env.authorized sub.subscriber ∧ sub.subscriber ≠ env.host.contract)
    (hclosed : ¬(sub.status ≠ .cancelled ∧ sub.status ≠ .expired ∧ sub.status ≠ .archived ∧
      sub.isExpired env.now env.sequence = false))
    (hpayable : Payable env s sub) (hfunds : 0 < sub.prepaidBalance) :
    ∃ t, (doWithdrawSubscriberFunds id sub.subscriber).run env s = .ok () t := by
  refine exists_run_bind (run_ask_ok.mpr ⟨rfl, rfl⟩) ?_
  refine exists_run_seq (run_requireAuth_ok.mpr ⟨hsigned, rfl⟩) ?_
  refine exists_run_bind (run_getSubscription_ok.mpr ⟨hfound, rfl⟩) ?_
  refine exists_run_seq (run_failIf_ok.mpr ⟨fun hne => hne rfl, rfl⟩) ?_
  refine exists_run_seq (run_failIf_ok.mpr ⟨hclosed, rfl⟩) ?_
  rw [if_pos hfunds]
  exact refundPrepaid_succeeds hpayable hfunds

theorem doCancelSubscription_succeeds (hfound : s.effectiveSubscription id env.now = some sub)
    (hsigned : env.authorized sub.subscriber ∧ sub.subscriber ≠ env.host.contract)
    (hunexpired : sub.isExpired env.now env.sequence = false)
    (hunlisted : s.isBlocklisted sub.subscriber = false) (hopen : sub.status ≠ .cancelled)
    (hcancel : canTransition sub.status .cancelled) (hpayable : Payable env s sub) :
    ∃ t, (doCancelSubscription id sub.subscriber).run env s = .ok () t := by
  have hadmitted : (requireNotBlocklisted sub.subscriber).run env s = .ok () s :=
    run_requireNotBlocklisted_ok.mpr ⟨hunlisted, rfl⟩
  refine exists_run_seq (run_requireAuth_ok.mpr ⟨hsigned, rfl⟩) ?_
  refine exists_run_bind (run_getSubscription_ok.mpr ⟨hfound, rfl⟩) ?_
  refine exists_run_seq (run_failIfExpired_ok.mpr ⟨hunexpired, rfl⟩) ?_
  refine exists_run_seq (run_failIf_ok.mpr ⟨fun h => h.1 rfl, rfl⟩) ?_
  refine exists_run_seq (run_when_ok.mpr (.inl ⟨rfl, hadmitted⟩)) ?_
  refine exists_run_seq (run_failIf_ok.mpr ⟨hopen, rfl⟩) ?_
  exact applyCancellation_succeeds (fun _ => hpayable) hcancel

/-- The statuses a withdrawal turns down are those that can be cancelled. -/
theorem canTransition_cancelled {status : SubscriptionStatus} (hcancelled : status ≠ .cancelled)
    (hexpired : status ≠ .expired) (harchived : status ≠ .archived) :
    canTransition status .cancelled := by
  cases status with
  | cancelled => exact absurd rfl hcancelled
  | expired => exact absurd rfl hexpired
  | archived => exact absurd rfl harchived
  | active | paused | insufficientBalance | gracePeriod => rfl

/-- What an exit does to a record with `sub` in it. -/
def PaysOut (contract : Address) (s : State) (id : Nat) (sub : Subscription) (t : State) : Prop :=
  (∃ left, t.subscription id = some left ∧ left.prepaidBalance = 0) ∧
    t.balanceOf = if 0 < sub.prepaidBalance then
      (s.transferred sub.token contract sub.subscriber sub.prepaidBalance).balanceOf
    else s.balanceOf

theorem PaysOut.cashedOut (h : PaysOut contract s id sub t) (hfunds : 0 < sub.prepaidBalance) :
    CashedOut contract s id sub t where
  emptied := h.1
  refunded := h.2.trans (if_pos hfunds)

theorem doCancelSubscription_pays {authorizer : Address}
    (hsub : s.subscription id = some sub)
    (hrun : (doCancelSubscription id authorizer).run env s = .ok () t) :
    PaysOut env.host.contract s id sub t := by
  obtain ⟨_, -, hrun⟩ := run_check_ok (Modifies.requireAuth _) hrun
  obtain ⟨found, -, hfound, hrun⟩ := run_read_ok hrun
  obtain ⟨-, hrun⟩ := run_unexpired_ok hrun
  obtain ⟨_, -, hrun⟩ := run_check_ok (.failIf _ _) hrun
  obtain ⟨_, -, hrun⟩ := run_check_ok (.when (Modifies.requireNotBlocklisted _)) hrun
  obtain ⟨_, -, hrun⟩ := run_check_ok (.failIf _ _) hrun
  obtain ⟨stored, hstored, hstatus⟩ := State.effectiveSubscription_eq_some hfound
  obtain rfl : stored = sub := Option.some.inj (hstored.symm.trans hsub)
  have hpays := applyCancellation_pays hrun
  rw [hstatus] at hpays
  exact hpays

theorem doWithdrawSubscriberFunds_pays {subscriber : Address}
    (hsub : s.subscription id = some sub) (hnone : s.cancellationEscrow id = none)
    (hrun : (doWithdrawSubscriberFunds id subscriber).run env s = .ok () t) :
    PaysOut env.host.contract s id sub t := by
  obtain ⟨_, -, hrun⟩ := run_check_ok .ask hrun
  obtain ⟨_, -, hrun⟩ := run_check_ok (Modifies.requireAuth _) hrun
  obtain ⟨found, -, hfound, hrun⟩ := run_read_ok hrun
  obtain ⟨_, -, hrun⟩ := run_check_ok (.failIf _ _) hrun
  obtain ⟨_, -, hrun⟩ := run_check_ok (.failIf _ _) hrun
  obtain ⟨stored, hstored, hstatus⟩ := State.effectiveSubscription_eq_some hfound
  obtain rfl : stored = sub := Option.some.inj (hstored.symm.trans hsub)
  split at hrun
  · rename_i hfunds
    have hcashed := cashedOut_of_refund hrun
    rw [hstatus] at hcashed hfunds
    exact ⟨hcashed.emptied, hcashed.refunded.trans (if_pos hfunds).symm⟩
  · -- without an escrow there is nothing else to withdraw
    obtain ⟨escrow, hread, hrun⟩ := run_check_ok (.gets _) hrun
    obtain ⟨rfl, -⟩ := run_gets_ok.mp hread
    obtain ⟨_, hescrow, -⟩ := run_check_ok (.okOr _ _) hrun
    rw [hnone] at hescrow
    cases (run_okOr_ok.mp hescrow).1

/-! ## Calls -/

/-- The two calls a subscriber can leave by. -/
def Transaction.isExit (id : Nat) : Transaction → Bool
  | .call _ (.cancelSubscription id' _) | .call _ (.withdrawSubscriberFunds id' _) => id' = id
  | _ => false

theorem PaysOut.of_lock {name : LockName} {u : State}
    (h : PaysOut contract (s.write (.lock name) true) id sub u) :
    PaysOut contract s id sub (u.remove (.lock name)) := by
  have htaken : State.balanceOf (s.write (.lock name) true) = s.balanceOf :=
    State.balanceOf_of_areas (l := [.locks]) (s.agreeOff_write true rfl) rfl
  have hdropped : FiniteStore.AgreeOff (areas [.locks]) u (u.remove (.lock name)) :=
    u.agreeOff_remove rfl
  obtain ⟨⟨left, hleft, hempty⟩, hbalances⟩ := h
  refine ⟨⟨left, ?_, hempty⟩, ?_⟩
  · exact (State.read_of_areas (k := .persistent (.sub id)) hdropped rfl).trans hleft
  · rw [State.balanceOf_of_areas hdropped rfl, hbalances, htaken,
      State.balanceOf_transferred_congr htaken]

theorem cancelSubscription_succeeds (hsub : s.subscription id = some sub)
    (hrun : ∃ t, (doCancelSubscription id sub.subscriber).run env s = .ok () t) :
    ∃ t, (VaultCall.cancelSubscription id sub.subscriber).exec.run env s = .ok () t := by
  obtain ⟨t, hcancel⟩ := hrun
  obtain ⟨⟨left, hleft, -⟩, -⟩ := doCancelSubscription_pays hsub hcancel
  obtain ⟨status, hfound⟩ := State.effectiveSubscription_of_subscription hleft env.now
  refine exists_run_seq hcancel ?_
  exact exists_run_bind (run_getSubscription_ok.mpr ⟨hfound, rfl⟩) ⟨t, run_pure_ok.mpr ⟨rfl, rfl⟩⟩

/-- Every exit that succeeds pays out what the record holds. -/
theorem Transacts.paysOut {l : Transaction} (hstep : Transacts l s t) (hexit : l.isExit id = true)
    (hsub : s.subscription id = some sub) (hnone : s.cancellationEscrow id = none) :
    PaysOut l.env.host.contract s id sub t := by
  cases hstep with
  | other => cases hexit
  | @call env c _ _ hrun =>
    cases c
    case cancelSubscription id' authorizer =>
      obtain rfl : id' = id := of_decide_eq_true hexit
      obtain ⟨_, t', hcancel, hrun⟩ := run_bind_ok.mp hrun
      obtain ⟨_, -, hrun⟩ := run_check_ok (Modifies.getSubscription _) hrun
      obtain ⟨-, rfl⟩ := run_pure_ok.mp hrun
      exact doCancelSubscription_pays hsub hcancel
    case withdrawSubscriberFunds id' subscriber =>
      obtain rfl : id' = id := of_decide_eq_true hexit
      obtain ⟨-, u, hbody, rfl⟩ := run_withLock_ok.mp hrun
      have hsub' : State.subscription (s.write (.lock .withdrawSubscriberFunds) true) id' =
          some sub := (FiniteStore.read_write_of_ne s true (by simp)).trans hsub
      have hnone' : State.cancellationEscrow (s.write (.lock .withdrawSubscriberFunds) true) id' =
          none := (FiniteStore.read_write_of_ne s true (by simp)).trans hnone
      exact (doWithdrawSubscriberFunds_pays hsub' hnone' hbody).of_lock
    all_goals cases hexit

/-- One of the exits is open to the subscriber, whatever the status. -/
theorem exit_succeeds (hfree : s.Unlocked) (hsub : s.subscription id = some sub)
    (hfunds : 0 < sub.prepaidBalance)
    (hsigned : env.authorized sub.subscriber ∧ sub.subscriber ≠ env.host.contract)
    (hunlisted : s.isBlocklisted sub.subscriber = false) (hpayable : Payable env s sub) :
    (∃ t, Transacts (.call env (.cancelSubscription id sub.subscriber)) s t) ∨
      ∃ t, Transacts (.call env (.withdrawSubscriberFunds id sub.subscriber)) s t := by
  obtain ⟨status, hfound⟩ := State.effectiveSubscription_of_subscription hsub env.now
  have hpayable' : Payable env s { sub with status } := ⟨hpayable.solvent, hpayable.accepted⟩
  by_cases hopen : status ≠ .cancelled ∧ status ≠ .expired ∧ status ≠ .archived ∧
      sub.isExpired env.now env.sequence = false
  · obtain ⟨hcancelled, hexpired, harchived, hunexpired⟩ := hopen
    left
    obtain ⟨t, hcancel⟩ := doCancelSubscription_succeeds hfound hsigned hunexpired hunlisted
      hcancelled (canTransition_cancelled hcancelled hexpired harchived) hpayable'
    obtain ⟨t, hrun⟩ := cancelSubscription_succeeds hsub ⟨t, hcancel⟩
    exact ⟨t, .call hrun⟩
  · right
    let locked := s.write (.lock .withdrawSubscriberFunds) true
    have hbalances : State.balanceOf locked = s.balanceOf :=
      State.balanceOf_of_areas (l := [.locks]) (s.agreeOff_write true rfl) rfl
    have hfound' : State.effectiveSubscription locked id env.now = some { sub with status } :=
      (s.effectiveSubscription_lock _ true id env.now).trans hfound
    obtain ⟨u, hrun⟩ := doWithdrawSubscriberFunds_succeeds hfound' hsigned hopen
      (hpayable'.of_balances hbalances) hfunds
    exact ⟨_, .call (run_withLock_ok.mpr ⟨hfree _, u, hrun, rfl⟩)⟩

/-- Of any exits taken one after the other, only the first one pays. -/
theorem exits_pay_once {later : History Transaction State}
    (hescrow : s.cancellationEscrow id = none) (hsub : s.subscription id = some sub)
    (hfunds : 0 < sub.prepaidBalance) (hlater : Run Transacts s later t)
    (hexits : ∀ step ∈ later, step.1.isExit id = true ∧ step.1.env.host.contract = contract) :
    t = s ∨ CashedOut contract s id sub t := by
  refine (?_ : t.cancellationEscrow id = none ∧ (t = s ∨ CashedOut contract s id sub t)).2
  induction hlater with
  | start => exact ⟨hescrow, .inl rfl⟩
  | @next earlier u t l _ hstep ih =>
    obtain ⟨hnone, hbefore⟩ := ih fun step hmem => hexits step (List.mem_cons_of_mem _ hmem)
    obtain ⟨hexit, rfl⟩ := hexits (l, u) List.mem_cons_self
    refine ⟨hstep.noNewEscrow id hnone, .inr ?_⟩
    rcases hbefore with rfl | hcashed
    · exact (hstep.paysOut hexit hsub hnone).cashedOut hfunds
    · obtain ⟨left, hleft, hempty⟩ := hcashed.emptied
      obtain ⟨hagain, hbalances⟩ := hstep.paysOut hexit hleft hnone
      refine ⟨hagain, ?_⟩
      rw [hbalances, if_neg (by omega)]
      exact hcashed.refunded

/-! ## Runs -/

theorem subscriber_exit {start : State} {hist : History Transaction State}
    (hdeployed : Deployed start) (hrun : Run Transacts start hist s)
    (hsub : s.subscription id = some sub) (hfunds : 0 < sub.prepaidBalance)
    (contract : Address) :
    (∀ env : Env, env.host.contract = contract → env.authorized sub.subscriber →
      sub.subscriber ≠ contract → s.isBlocklisted sub.subscriber = false → Payable env s sub →
      ∃ call ∈ [VaultCall.cancelSubscription id sub.subscriber,
          .withdrawSubscriberFunds id sub.subscriber],
        ∃ t, call.exec.run env s = .ok () t ∧ CashedOut contract s id sub t) ∧
      ∀ later t, Run Transacts s later t →
        (∀ step ∈ later, step.1.isExit id = true ∧ step.1.env.host.contract = contract) →
        t = s ∨ CashedOut contract s id sub t := by
  have hnone := cancellationEscrow_of_run hdeployed hrun id
  constructor
  · rintro env rfl hsigned hself hunlisted hpayable
    have hfree := unlocked_of_run hdeployed.unlocked hrun
    rcases exit_succeeds hfree hsub hfunds ⟨hsigned, hself⟩ hunlisted hpayable with h | h
    · obtain ⟨t, hstep⟩ := h
      have hexit : Transaction.isExit id (.call env (.cancelSubscription id sub.subscriber)) :=
        decide_eq_true rfl
      have hpaid := (hstep.paysOut hexit hsub hnone).cashedOut hfunds
      cases hstep with
      | call hcall => exact ⟨_, List.mem_cons_self, t, hcall, hpaid⟩
    · obtain ⟨t, hstep⟩ := h
      have hexit : Transaction.isExit id (.call env (.withdrawSubscriberFunds id sub.subscriber)) :=
        decide_eq_true rfl
      have hpaid := (hstep.paysOut hexit hsub hnone).cashedOut hfunds
      cases hstep with
      | call hcall => exact ⟨_, List.mem_cons_of_mem _ List.mem_cons_self, t, hcall, hpaid⟩
  · intro later t hlater hexits
    exact exits_pay_once hnone hsub hfunds hlater hexits

/-- Address 2 subscribes and deposits fifty units. -/
private def depositedCalls : List (Env × VaultCall) :=
  [(sampleEnv 0 [⟨2⟩], .depositFunds 0 50 none),
   (sampleEnv 0 [⟨2⟩], .createSubscription sampleRequest)]

private def depositedVault : State := stateAfter (afterCalls (sampleVault 0)) depositedCalls

private theorem deposited_run : Run Transacts (sampleStart 0)
    (transactionHistory (afterCalls (sampleVault 0)) depositedCalls ++
      [(.other (sampleEnv 0 []), sampleStart 0)]) depositedVault :=
  run_transactions (sample_transacted 0) (by decide +kernel)

theorem subscriber_exit_deposited :
    ∃ call ∈ [VaultCall.cancelSubscription 0 ⟨2⟩, .withdrawSubscriberFunds 0 ⟨2⟩],
      ∃ t, call.exec.run (sampleEnv 1 [⟨2⟩]) depositedVault = .ok () t ∧
        CashedOut ⟨0⟩ depositedVault 0
          { sampleRequest.record none 0 0 with prepaidBalance := 50 } t := by
  have hsub : depositedVault.subscription 0 =
      some { sampleRequest.record none 0 0 with prepaidBalance := 50 } := by decide +kernel
  have hexit := subscriber_exit (sample_deployed 0) deposited_run hsub (by decide) ⟨0⟩
  exact hexit.1 (sampleEnv 1 [⟨2⟩]) rfl rfl (by decide) (by decide +kernel)
    ⟨by decide +kernel, rfl⟩

end SubscriptionVault
