import SubscriptionVault.Lifecycle.Terms

/-!
# Expiry

A subscription that has run out can neither be charged nor funded. It stays that way as long as
nobody moves its ledger bound, which the contract allows even after the bound was met; and the
buyout of a grace period does not look at the bounds at all.
-/

namespace SubscriptionVault

open Exec

/-- The subscription has run out by now. -/
def State.Expired (s : State) (env : Env) (id : Nat) : Prop :=
  ∃ sub, s.subscription id = some sub ∧ sub.isExpired env.now env.sequence = true

/-! ## Charges and deposits -/

def VaultCall.chargesOrFunds (id : Nat) : VaultCall → Bool
  | .chargeSubscription id' _ | .operatorChargeSubscription _ id' | .chargeUsage id' _
  | .chargeUsageWithReference id' _ _ | .operatorChargeUsage _ id' _
  | .operatorChargeUsageWithRef _ id' _ _ | .chargeOneOff id' _ _ _ | .graceBuyout id' _ _ _
  | .depositFunds id' _ _ | .depositFundsOnBehalf id' _ _ _ => id' = id
  | _ => false

/-- The call, or the entry of a bulk call, charges the subscription or pays into it. -/
def VaultAction.chargesOrFunds (id : Nat) : VaultAction → Bool
  | .call _ c => c.chargesOrFunds id
  | .item _ (.charge id' _) | .item _ (.deposit _ id' _) => id' = id
  | _ => false

def VaultAction.Succeeds (s : State) : VaultAction → Prop
  | .call env c => ∃ t, c.exec.run env s = .ok () t
  | .item env entry => ∃ t, entry.exec.run env s = .ok () t
  | .other _ => False

section Refusals

variable {env : Env} {s t : State} {id : Nat} {u : Unit}

theorem State.not_expired_of_read {sub : Subscription}
    (hfound : s.effectiveSubscription id env.now = some sub)
    (hunexpired : sub.isExpired env.now env.sequence = false) : ¬s.Expired env id := by
  rintro ⟨stored, hstored, hexpired⟩
  obtain ⟨found, hsub, hstatus⟩ := State.effectiveSubscription_eq_some hfound
  obtain rfl : found = stored := Option.some.inj (hsub.symm.trans hstored)
  rw [hstatus] at hunexpired
  exact absurd (hexpired.symm.trans hunexpired) (by decide)

theorem State.Expired.of_areas {l : List Area} (h : s.Expired env id)
    (hagree : FiniteStore.AgreeOff (areas l) s t) (hrecords : l.contains .records = false) :
    t.Expired env id := by
  obtain ⟨sub, hsub, hexpired⟩ := h
  exact ⟨sub, (State.read_of_areas (k := .persistent (.sub id)) hagree hrecords).trans hsub,
    hexpired⟩

theorem not_expired_of_locked {α : Type} {name : LockName} {body : Vault α} {a : α}
    (hbody : ∀ s t, body.run env s = .ok a t → ¬s.Expired env id)
    (hrun : (withLock name body).run env s = .ok a t) : ¬s.Expired env id := by
  obtain ⟨u, hlocked, -⟩ := run_locked_ok hrun
  exact fun h => hbody _ u hlocked (h.of_areas (l := [.locks]) (s.agreeOff_write true rfl) rfl)

theorem not_expired_of_guarded {α : Type} {name : LockName} {body : Vault α} {a : α}
    (hbody : ∀ s t, body.run env s = .ok a t → ¬s.Expired env id)
    (hrun : (guardedCall name body).run env s = .ok a t) : ¬s.Expired env id :=
  not_expired_of_locked hbody (run_guardedCall_ok.mp hrun).2

theorem chargeOne_unexpired {key : Option BytesN32} {cfg : Option CachedAdminConfig}
    {cache : MerchantCache} {result : ChargeExecutionResult}
    (hrun : (chargeOne id key cfg cache).run env s = .ok result t) : ¬s.Expired env id := by
  obtain ⟨_, -, hrun⟩ := run_check_ok Modifies.requireNotEmergencyStop hrun
  obtain ⟨sub, -, hfound, hrun⟩ := run_read_ok hrun
  obtain ⟨_, -, hrun⟩ := run_check_ok (Modifies.checkMerchantStatus _ _) hrun
  obtain ⟨_, -, hrun⟩ := run_check_ok (Modifies.requireNotBlocklisted _) hrun
  obtain ⟨_, -, hrun⟩ := run_check_ok (Modifies.requireNotBlocklisted _) hrun
  obtain ⟨_, -, hrun⟩ := run_check_ok (Modifies.checkSplitPayees id) hrun
  exact State.not_expired_of_read hfound (run_unexpired_ok hrun).1

theorem chargeUsageOne_unexpired {usageAmount : Int} {reference : Bytes}
    {result : UsageChargeResult}
    (hrun : (chargeUsageOne id usageAmount reference).run env s = .ok result t) :
    ¬s.Expired env id := by
  obtain ⟨_, -, hrun⟩ := run_check_ok Modifies.requireNotEmergencyStop hrun
  obtain ⟨sub, -, hfound, hrun⟩ := run_read_ok hrun
  obtain ⟨_, -, hrun⟩ := run_check_ok (Modifies.checkMerchantStatus _ _) hrun
  obtain ⟨_, -, hrun⟩ := run_check_ok (Modifies.requireNotBlocklisted _) hrun
  obtain ⟨_, -, hrun⟩ := run_check_ok (Modifies.requireNotBlocklisted _) hrun
  obtain ⟨_, -, hrun⟩ := run_check_ok (Modifies.checkSplitPayees id) hrun
  exact State.not_expired_of_read hfound (run_unexpired_ok hrun).1

theorem doChargeOneOff_unexpired {merchant : Address} {amount : Int} {key : Option BytesN32}
    (hrun : (doChargeOneOff id merchant amount key).run env s = .ok u t) : ¬s.Expired env id := by
  obtain ⟨_, -, hrun⟩ := run_check_ok .ask hrun
  obtain ⟨_, -, hrun⟩ := run_check_ok (Modifies.requireAuth _) hrun
  obtain ⟨sub, -, hfound, hrun⟩ := run_read_ok hrun
  obtain ⟨_, -, hrun⟩ := run_check_ok (Modifies.requireNotBlocklisted _) hrun
  obtain ⟨_, -, hrun⟩ := run_check_ok (Modifies.requireNotBlocklisted _) hrun
  obtain ⟨_, -, hrun⟩ := run_check_ok (Modifies.checkSplitPayees id) hrun
  exact State.not_expired_of_read hfound (run_unexpired_ok hrun).1

theorem doDepositFunds_unexpired {amount : Int} {nonce : Option Nat}
    (hrun : (doDepositFunds id amount nonce).run env s = .ok u t) : ¬s.Expired env id := by
  obtain ⟨_, -, hrun⟩ := run_check_ok .ask hrun
  obtain ⟨sub, -, hfound, hrun⟩ := run_read_ok hrun
  obtain ⟨_, -, hrun⟩ := run_check_ok (Modifies.requireAuth _) hrun
  obtain ⟨_, -, hrun⟩ := run_check_ok (Modifies.requireNotBlocklisted _) hrun
  obtain ⟨_, s₁, -, hrun⟩ := run_bind_ok.mp hrun
  obtain ⟨_, -, hrun⟩ := run_check_ok (.failIf _ _) hrun
  obtain ⟨_, -, hrun⟩ := run_check_ok (Modifies.enforceMinTopup _) hrun
  obtain ⟨_, -, hrun⟩ := run_check_ok (Modifies.requireNotBlocklisted _) hrun
  obtain ⟨_, -, hrun⟩ := run_check_ok (Modifies.checkMerchantStatus _ _) hrun
  exact State.not_expired_of_read hfound (run_unexpired_ok hrun).1

theorem doDepositFundsOnBehalf_unexpired {payer : Address} {amount : Int} {nonce : Option Nat}
    (hrun : (doDepositFundsOnBehalf id payer amount nonce).run env s = .ok u t) :
    ¬s.Expired env id := by
  obtain ⟨_, -, hrun⟩ := run_check_ok .ask hrun
  obtain ⟨_, -, hrun⟩ := run_check_ok (Modifies.requireAuth _) hrun
  obtain ⟨_, s₁, hnonce, hrun⟩ := run_bind_ok.mp hrun
  obtain ⟨sub, -, hfound, hrun⟩ := run_read_ok hrun
  obtain ⟨_, -, hrun⟩ := run_check_ok Modifies.load hrun
  obtain ⟨grant, -, hrun⟩ := run_check_ok (.okOr _ _) hrun
  obtain ⟨_, -, hrun⟩ := run_check_ok (.failIf _ _) hrun
  obtain ⟨_, -, hrun⟩ := run_check_ok (.failIf _ _) hrun
  obtain ⟨_, -, hrun⟩ := run_check_ok (Modifies.enforceMinTopup _) hrun
  obtain ⟨_, -, hrun⟩ := run_check_ok (Modifies.requireNotBlocklisted _) hrun
  obtain ⟨_, -, hrun⟩ := run_check_ok (Modifies.requireNotBlocklisted _) hrun
  obtain ⟨_, -, hrun⟩ := run_check_ok (.gets _) hrun
  obtain ⟨_, -, hrun⟩ := run_check_ok (.failIf _ _) hrun
  have hadvances : Modifies (areas [.nonces])
      (whenSome nonce (checkAndAdvance payer .depositFunds)) :=
    .whenSome fun _ => Modifies.checkAndAdvance rfl
  exact fun h => State.not_expired_of_read hfound (run_unexpired_ok hrun).1
    (h.of_areas (hadvances.ok hnonce) rfl)

theorem bulkDepositOne_unexpired {caller : Address} {amount : Int}
    (hrun : (bulkDepositOne caller id amount).run env s = .ok u t) : ¬s.Expired env id := by
  obtain ⟨_, hask, hrun⟩ := run_check_ok .ask hrun
  obtain ⟨rfl, -⟩ := run_ask_ok.mp hask
  obtain ⟨sub, -, hfound, hrun⟩ := run_read_ok hrun
  obtain ⟨_, -, hrun⟩ := run_check_ok (.failIf _ _) hrun
  obtain ⟨_, -, hrun⟩ := run_check_ok (Modifies.enforceMinTopup _) hrun
  obtain ⟨_, -, hrun⟩ := run_check_ok (Modifies.checkMerchantStatus _ _) hrun
  obtain ⟨_, hexpired, -⟩ := run_check_ok (.failIf _ _) hrun
  exact State.not_expired_of_read hfound (Bool.eq_false_iff.mpr (run_failIf_ok.mp hexpired).1)

theorem VaultCall.unexpired {call : VaultCall} (hcall : call.chargesOrFunds id = true)
    (hbuyout : ∀ subscriber amount key, call ≠ .graceBuyout id subscriber amount key)
    (hrun : call.exec.run env s = .ok () t) : ¬s.Expired env id := by
  cases call
  case chargeSubscription =>
    obtain rfl := of_decide_eq_true hcall
    obtain ⟨_, hrun⟩ := run_effectOf_ok.mp hrun
    exact not_expired_of_guarded (fun _ _ => chargeOne_unexpired) hrun
  case operatorChargeSubscription =>
    obtain rfl := of_decide_eq_true hcall
    obtain ⟨_, hrun⟩ := run_effectOf_ok.mp hrun
    refine not_expired_of_guarded (fun s t hbody => ?_) hrun
    obtain ⟨_, -, hbody⟩ := run_check_ok (keeps_requireOperatorAuth _) hbody
    exact chargeOne_unexpired hbody
  case chargeUsage | chargeUsageWithReference =>
    obtain rfl := of_decide_eq_true hcall
    obtain ⟨_, hrun⟩ := run_effectOf_ok.mp hrun
    exact not_expired_of_guarded (fun _ _ => chargeUsageOne_unexpired) hrun
  case operatorChargeUsage | operatorChargeUsageWithRef =>
    obtain rfl := of_decide_eq_true hcall
    obtain ⟨_, hrun⟩ := run_effectOf_ok.mp hrun
    refine not_expired_of_guarded (fun s t hbody => ?_) hrun
    obtain ⟨_, -, hbody⟩ := run_check_ok (keeps_requireOperatorAuth _) hbody
    exact chargeUsageOne_unexpired hbody
  case chargeOneOff =>
    obtain rfl := of_decide_eq_true hcall
    exact not_expired_of_guarded (fun _ _ => doChargeOneOff_unexpired) hrun
  case graceBuyout =>
    obtain rfl := of_decide_eq_true hcall
    exact absurd rfl (hbuyout _ _ _)
  case depositFunds =>
    obtain rfl := of_decide_eq_true hcall
    exact not_expired_of_guarded (fun _ _ => doDepositFunds_unexpired) hrun
  case depositFundsOnBehalf =>
    obtain rfl := of_decide_eq_true hcall
    exact not_expired_of_guarded (fun _ _ => doDepositFundsOnBehalf_unexpired) hrun
  all_goals cases hcall

end Refusals

/-! ## Ways around the expiry -/

/-- The ledger bound is not moved once it alone was met, and an expired subscription is not
bought out of its grace period. -/
structure RespectsExpiry (id : Nat) (l : VaultAction) (s : State) : Prop where
  noRestore : ∀ summaries, l.operation ≠ .restore summaries
  boundStands : l.rebinds id = true → ∀ sub, s.subscription id = some sub →
    sub.isExpired l.env.now l.env.sequence = true → sub.expiresAt.any (· ≤ l.env.now) = true
  noBuyout : s.Expired l.env id → ∀ env subscriber amount key,
    l ≠ .call env (.graceBuyout id subscriber amount key)

section Steps

variable {env : Env} {s t start : State} {id : Nat} {l : VaultAction}
  {hist : History VaultAction State}

theorem RespectsExpiry.refuses (h : RespectsExpiry id l s) (hexpired : s.Expired l.env id)
    (hcharge : l.chargesOrFunds id = true) : ¬l.Succeeds s := by
  cases l with
  | call env c =>
    rintro ⟨t, hrun⟩
    refine VaultCall.unexpired hcharge ?_ hrun hexpired
    rintro subscriber amount key rfl
    exact h.noBuyout hexpired env subscriber amount key rfl
  | item env entry =>
    rintro ⟨t, hrun⟩
    cases entry with
    | charge =>
      obtain rfl := of_decide_eq_true hcharge
      obtain ⟨_, hrun⟩ := run_effectOf_ok.mp hrun
      exact chargeOne_unexpired hrun hexpired
    | deposit =>
      obtain rfl := of_decide_eq_true hcharge
      exact bulkDepositOne_unexpired hrun hexpired
    | cancel | pause => cases hcharge
  | other => exact fun h => h

theorem Subscription.isExpired_mono {sub : Subscription} {now now' sequence sequence' : Nat}
    (h : sub.isExpired now sequence = true) (hnow : now ≤ now') (hsequence : sequence ≤ sequence') :
    sub.isExpired now' sequence' = true := by
  simp only [Subscription.isExpired, Bool.or_eq_true, Option.any_eq_true, decide_eq_true_eq] at h ⊢
  rcases h with ⟨bound, hbound, hmet⟩ | ⟨bound, hbound, hmet⟩
  · exact .inl ⟨bound, hbound, hmet.trans hnow⟩
  · exact .inr ⟨bound, hbound, hmet.trans hsequence⟩

theorem State.Expired.later {env' : Env} (h : s.Expired env id) (hnow : env.now ≤ env'.now)
    (hsequence : env.sequence ≤ env'.sequence) : s.Expired env' id := by
  obtain ⟨sub, hsub, hexpired⟩ := h
  exact ⟨sub, hsub, Subscription.isExpired_mono hexpired hnow hsequence⟩

/-- No step that respects the expiry undoes it. -/
theorem State.Expired.step (h : s.Expired l.env id) (hguard : RespectsExpiry id l s)
    (hnumbered : s.book.Numbered) (hstep : VaultStep l s t) : t.Expired l.env id := by
  obtain ⟨sub, hsub, hexpired⟩ := h
  have hused : l.operation = .create → id ≠ s.book.nextId := by
    rintro - rfl
    have hnone := hnumbered.unused _ le_rfl
    cases hnone.symm.trans hsub
  by_cases hbound : l.rebinds id = true
  · obtain ⟨new, hnew, hcarried⟩ := hstep.carries hguard.noRestore hused sub hsub
    have hclock := hguard.boundStands hbound sub hsub hexpired
    refine ⟨new, hnew, ?_⟩
    simp only [Subscription.isExpired, hcarried.expiresAt, hclock, Bool.true_or]
  · obtain ⟨new, hnew, hclock, hledger⟩ :=
      hstep.sameBounds hguard.noRestore hused (Bool.eq_false_iff.mpr hbound) sub hsub
    refine ⟨new, hnew, ?_⟩
    rw [← hexpired]
    simp only [Subscription.isExpired, hclock, hledger]

theorem book_numbered_of_run (hdeployed : Deployed start) (hrun : Run VaultStep start hist s)
    (hrestore : ∀ step ∈ hist, ∀ summaries, step.1.operation ≠ .restore summaries) :
    s.book.Numbered := by
  induction hrun with
  | start => exact hdeployed.numbered
  | next _ hlast ih =>
    have hbefore := ih fun step hmem => hrestore step (List.mem_cons_of_mem _ hmem)
    exact numbered_of_step hbefore hlast (hrestore _ List.mem_cons_self)

/-- Once expired, a subscription is expired in all later steps. -/
theorem expired_of_run (hdeployed : Deployed start) (hrun : Run VaultStep start hist s)
    (hrespects : ∀ step ∈ hist, RespectsExpiry id step.1 step.2) (horder : InOrder hist)
    {later earlier : History VaultAction State} {u : State}
    (hhist : hist = later ++ (l, u) :: earlier) (hexpired : u.Expired l.env id) :
    (∀ env : Env, (∀ step ∈ hist, step.1.env.now ≤ env.now ∧ step.1.env.sequence ≤ env.sequence) →
      s.Expired env id) ∧ ∀ step ∈ later, step.2.Expired step.1.env id := by
  induction hrun generalizing later with
  | start => cases later <;> cases hhist
  | @next before v t l' hbefore hlast ih =>
    have hguards := fun step hmem => hrespects step (List.mem_cons_of_mem _ hmem)
    have hnumbered := book_numbered_of_run hdeployed hbefore fun step hmem =>
      (hguards step hmem).noRestore
    -- the last step was taken in an expired state
    have hlatest : v.Expired l'.env id ∧ ∀ step ∈ later, step.2.Expired step.1.env id := by
      cases later with
      | nil =>
        obtain ⟨heq, -⟩ := List.cons.inj hhist
        cases heq
        exact ⟨hexpired, fun _ h => nomatch h⟩
      | cons step rest =>
        obtain ⟨rfl, hrest⟩ := List.cons.inj hhist
        obtain ⟨hnow, hearlier⟩ := ih hguards horder.tail hrest
        have hstill : v.Expired l'.env id := hnow l'.env fun before hmem =>
          ⟨horder.le hmem, (List.rel_of_pairwise_cons horder.pairwise hmem).2.1⟩
        refine ⟨hstill, fun later hmem => ?_⟩
        rcases List.mem_cons.mp hmem with rfl | hmem
        · exact hstill
        · exact hearlier later hmem
    refine ⟨fun env hafter => ?_, hlatest.2⟩
    obtain ⟨hclock, hsequence⟩ := hafter (l', v) List.mem_cons_self
    have hguard := hrespects (l', v) List.mem_cons_self
    exact (hlatest.1.step hguard hnumbered hlast).later hclock hsequence

end Steps

section Examples

/-- The subscription ends at ledger 10. -/
private def shortLived : NewSubscription := { sampleRequest with expiresAtLedger := some 10 }

private def expiring : List VaultAction :=
  [.other (sampleEnv 10 []),
   .call (sampleEnv 0 [⟨2⟩]) (.depositFunds 0 100 none),
   .call (sampleEnv 0 [⟨2⟩]) (.createSubscription shortLived)]

/-- The subscriber drops the ledger bound afterwards, and the subscription is charged. -/
private def outlived : List VaultAction :=
  [.call (sampleEnv 60 []) (.chargeSubscription 0 none),
   .call (sampleEnv 20 [⟨2⟩]) (.setSubscriptionExpiryLedger 0 ⟨2⟩ none)]

private def refusedDeposit : VaultAction := .item (sampleEnv 20 [⟨2⟩]) (.deposit ⟨2⟩ 0 50)

private theorem expiring_expired : State.Expired
    (actionsAfter (afterCalls (sampleVault 0)) expiring.tail) (sampleEnv 10 []) 0 := by
  have hexpired : ((actionsAfter (afterCalls (sampleVault 0)) expiring.tail).subscription 0).any
      (fun sub => sub.isExpired 10 10) = true := by decide +kernel
  exact (Option.any_eq_true _ _).mp hexpired

end Examples

end SubscriptionVault
