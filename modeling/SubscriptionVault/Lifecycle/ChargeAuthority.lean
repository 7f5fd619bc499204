import SubscriptionVault.Accounts.Operations
import SubscriptionVault.Lifecycle.Amounts

/-!
# Who may charge

Charges are for the admin and the operator to start, one-off charges for the merchant of the
subscription, buyouts for its subscriber. The plain charges ask for no signature at all, and a
buyout asks for one of an address the caller names. What follows holds when those calls are
signed as they should be.
-/

namespace SubscriptionVault

open Exec

/-! ## Signatures -/

/-- The stored admin or the stored operator has signed. -/
def ChargerSigned (env : Env) (s : State) : Prop :=
  (∃ admin, s.admin = some admin ∧ env.authorized admin = true) ∨
    ∃ op, s.operator = some op ∧ env.authorized op = true

def MerchantSigned (env : Env) (s : State) (id : Nat) : Prop :=
  ∃ sub, s.subscription id = some sub ∧ env.authorized sub.merchant = true

def SubscriberSigned (env : Env) (s : State) (id : Nat) : Prop :=
  ∃ sub, s.subscription id = some sub ∧ env.authorized sub.subscriber = true

/-- The call charges, and is signed by whoever may make it. The operator's batch charges
nothing. -/
def VaultCall.ChargeSigned (env : Env) (s : State) : VaultCall → Prop
  | .chargeSubscription _ _ | .operatorChargeSubscription _ _ | .batchCharge _ _ _
  | .batchChargeDetailed _ _ _ | .chargeUsage _ _ | .chargeUsageWithReference _ _ _
  | .operatorChargeUsage _ _ _ | .operatorChargeUsageWithRef _ _ _ _ => ChargerSigned env s
  | .chargeOneOff id _ _ _ => MerchantSigned env s id
  | .graceBuyout id _ _ _ => SubscriberSigned env s id
  | _ => False

/-- One of the four parties has signed. -/
def PartySigned (env : Env) (s : State) (id : Nat) : Prop :=
  ChargerSigned env s ∨ MerchantSigned env s id ∨ SubscriberSigned env s id

/-- The calls without a check of their own are signed, and no number in use is taken again. -/
def Transaction.SignedCharges : Transaction → State → Prop
  | .call env (.chargeSubscription _ _), s | .call env (.chargeUsage _ _), s
  | .call env (.chargeUsageWithReference _ _ _), s => ChargerSigned env s
  | .call env (.graceBuyout id _ _ _), s => SubscriberSigned env s id
  | .call _ (.createSubscription _), s | .call _ (.createSubscriptionWithToken _), s
  | .call _ (.createSubscriptionWithSplit _ _), s
  | .call _ (.createSubscriptionFromPlan _ _ _), s => s.subscription s.nextSubscriptionId = none
  | _, _ => True

/-- The calls for intervals and usage. -/
def VaultCall.isCharge : VaultCall → Bool
  | .chargeSubscription _ _ | .operatorChargeSubscription _ _ | .batchCharge _ _ _
  | .batchChargeDetailed _ _ _ | .chargeUsage _ _ | .chargeUsageWithReference _ _ _
  | .operatorChargeUsage _ _ _ | .operatorChargeUsageWithRef _ _ _ _ => true
  | _ => false

def Posting.isEarning (p : Posting) : Bool := p.isPayment || p.isCut

/-- Prepaid money is credited only in a call that is signed for it, and lifetime charges change
only when one of the parties has signed. -/
structure ChargeAuthorized (l : Transaction) (s t : State) : Prop where
  credited : PostsOf (fun p => p.isEarning = false) s t ∨
    ∃ env call, l = .call env call ∧ call.ChargeSigned env s
  lifetime : ∀ id sub, s.subscription id = some sub →
    (∃ new, t.subscription id = some new ∧ new.lifetimeCharged = sub.lifetimeCharged) ∨
      PartySigned l.env s id

/-! ## Calls -/

section Calls

variable {env : Env} {s t : State} {l : Transaction} {call : VaultCall}

theorem signed_of_requireStoredAdminAuth {admin : Address}
    (hrun : requireStoredAdminAuth.run env s = .ok admin t) : ChargerSigned env s := by
  obtain ⟨⟨hstored, hsigned, -⟩, -⟩ := run_requireStoredAdminAuth_ok.mp hrun
  exact .inl ⟨admin, hstored, hsigned⟩

theorem signed_of_requireOperatorAuth {op : Address} {u : Unit}
    (hrun : (requireOperatorAuth op).run env s = .ok u t) : ChargerSigned env s := by
  obtain ⟨_, hauth, hrun⟩ := run_check_ok (Modifies.requireAuth _) hrun
  obtain ⟨found, hfound, hrun⟩ := run_check_ok (.gets _) hrun
  obtain ⟨stored, hstored, hrun⟩ := run_check_ok (.okOr _ _) hrun
  have hsame := (run_failIf_ok.mp hrun).1
  have hop : op = stored := not_not.mp hsame
  refine .inr ⟨op, ?_, (run_requireAuth_ok.mp hauth).1.1⟩
  rw [hop]
  exact ((run_gets_ok.mp hfound).1).trans (run_okOr_ok.mp hstored).1

theorem signed_of_doBatchChargeDetailed {ids : List Nat} {keys : Option (List BytesN32)}
    {nonce : Nat} {response : BatchChargeResponse}
    (hrun : (doBatchChargeDetailed ids keys nonce).run env s = .ok response t) :
    ChargerSigned env s := by
  obtain ⟨admin, m, hadmin, -⟩ := run_bind_ok.mp hrun
  exact signed_of_requireStoredAdminAuth hadmin

/-- A lock is no setting. -/
theorem chargerSigned_lock {name : LockName} :
    ChargerSigned env (s.write (.lock name) true) ↔ ChargerSigned env s := by
  have hadmin : State.admin (s.write (.lock name) true) = s.admin :=
    State.config_write_of_ne s true (by simp [configSlots])
  have hoperator : State.operator (s.write (.lock name) true) = s.operator :=
    State.config_write_of_ne s true (by simp [configSlots])
  unfold ChargerSigned
  rw [hadmin, hoperator]

theorem signed_of_locked {α : Type} {name : LockName} {body : Vault α} {a : α}
    (hbody : ∀ u v, body.run env u = .ok a v → ChargerSigned env u)
    (hrun : (withLock name body).run env s = .ok a t) : ChargerSigned env s := by
  obtain ⟨-, u, hrun, -⟩ := run_withLock_ok.mp hrun
  exact chargerSigned_lock.mp (hbody _ _ hrun)

/-- A one-off charge that is no replay is made by the merchant of the subscription. -/
theorem doChargeOneOff_signed {id : Nat} {merchant : Address} {amount : Int}
    {key : Option BytesN32} (hrun : (doChargeOneOff id merchant amount key).run env s = .ok () t) :
    s = t ∨ MerchantSigned env s id := by
  obtain ⟨_, -, hrun⟩ := run_check_ok .ask hrun
  obtain ⟨_, hauth, hrun⟩ := run_check_ok (Modifies.requireAuth _) hrun
  obtain ⟨sub, hget, hrun⟩ := run_check_ok (Modifies.getSubscription id) hrun
  obtain ⟨_, -, hrun⟩ := run_check_ok (Modifies.requireNotBlocklisted _) hrun
  obtain ⟨_, -, hrun⟩ := run_check_ok (Modifies.requireNotBlocklisted _) hrun
  obtain ⟨_, -, hrun⟩ := run_check_ok (Modifies.checkSplitPayees id) hrun
  obtain ⟨_, _, hexpired, hrun⟩ := run_bind_ok.mp hrun
  obtain ⟨-, rfl⟩ := run_failIfExpired_ok.mp hexpired
  obtain ⟨replayed, -, hrun⟩ := run_check_ok (.gets _) hrun
  rcases run_when_ok.mp hrun with ⟨-, hrun⟩ | ⟨-, rfl⟩
  · obtain ⟨charged, checked, hcheck, -⟩ := run_bind_ok.mp hrun
    obtain ⟨_, howner, -⟩ := run_check_ok (.failIf _ _) hcheck
    obtain ⟨stored, hstored, hsame⟩ :=
      State.effectiveSubscription_eq_some (run_getSubscription_ok.mp hget).1
    have hmerchant : sub.merchant = merchant := not_not.mp (run_failIf_ok.mp howner).1
    refine .inr ⟨stored, hstored, ?_⟩
    rw [hsame] at hmerchant
    rw [show stored.merchant = merchant from hmerchant]
    exact (run_requireAuth_ok.mp hauth).1.1
  · exact .inl rfl

/-- Where the code asks for a signature, it is the one of the admin or the operator. -/
theorem VaultCall.chargerSigned (hrun : call.exec.run env s = .ok () t)
    (hcond : (Transaction.call env call).SignedCharges s) (hcharge : call.isCharge = true) :
    ChargerSigned env s := by
  cases call
  case chargeSubscription | chargeUsage | chargeUsageWithReference => exact hcond
  case operatorChargeSubscription | operatorChargeUsage | operatorChargeUsageWithRef =>
    obtain ⟨_, hrun⟩ := run_effectOf_ok.mp hrun
    refine signed_of_locked (fun u v hbody => ?_) (run_guardedCall_ok.mp hrun).2
    obtain ⟨_, hop, -⟩ := run_check_ok (keeps_requireOperatorAuth _) hbody
    exact signed_of_requireOperatorAuth hop
  case batchCharge =>
    obtain ⟨_, hrun⟩ := run_effectOf_ok.mp hrun
    refine signed_of_locked (fun u v hbody => ?_) (run_guardedBatch_ok.mp hrun).2
    obtain ⟨response, m, hbatch, -⟩ := run_bind_ok.mp hbody
    exact signed_of_doBatchChargeDetailed hbatch
  case batchChargeDetailed =>
    obtain ⟨_, hrun⟩ := run_effectOf_ok.mp hrun
    refine signed_of_locked (fun u v hbody => ?_) (run_guardedBatch_ok.mp hrun).2
    exact signed_of_doBatchChargeDetailed hbody
  all_goals cases hcharge

theorem VaultCall.credited (hrun : call.exec.run env s = .ok () t)
    (hcond : (Transaction.call env call).SignedCharges s) :
    PostsOf (fun p => p.isEarning = false) s t ∨ call.ChargeSigned env s := by
  have hquiet (hplain : ∀ p, call.mayPost s p → p.isEarning = false) :
      PostsOf (fun p => p.isEarning = false) s t := (VaultCall.posts hrun).mono hplain
  have hcharger := VaultCall.chargerSigned hrun hcond
  cases call
  case chargeSubscription | chargeUsage | chargeUsageWithReference | operatorChargeSubscription
      | operatorChargeUsage | operatorChargeUsageWithRef | batchCharge | batchChargeDetailed =>
    exact .inr (hcharger rfl)
  case graceBuyout => exact .inr hcond
  case chargeOneOff id merchant amount key =>
    by_cases hsigned : MerchantSigned env s id
    · exact .inr hsigned
    · refine .inl (posts_of_guarded (fun u hbody => ?_) hrun)
      rcases doChargeOneOff_signed hbody with rfl | hlocked
      · exact Std.Refl.refl _
      · exact absurd hlocked hsigned
  case withdrawMerchantFunds | flushPayouts =>
    exact .inl (hquiet fun p ⟨_, hp⟩ => hp ▸ rfl)
  case withdrawMerchantTokenFunds | merchantRefund | registerSubAccount
      | withdrawSubAccountFunds => exact .inl (hquiet fun p hp => hp ▸ rfl)
  case rotateMerchantAddress => exact .inl (hquiet fun p ⟨_, _, _, hp⟩ => hp ▸ rfl)
  case openDispute => exact .inl (hquiet fun p ⟨_, _, hp⟩ => hp ▸ rfl)
  case resolveDispute | restoreSnapshotPage =>
    exact .inl (hquiet fun p ⟨_, _, _, hp⟩ => hp ▸ rfl)
  all_goals exact .inl (hquiet fun p hp => hp.elim)

theorem VaultCall.lifetimeSigned (hrun : call.exec.run env s = .ok () t)
    (hcond : (Transaction.call env call).SignedCharges s) {id : Nat} {sub : Subscription}
    (hsub : s.subscription id = some sub) :
    (∃ new, t.subscription id = some new ∧ new.lifetimeCharged = sub.lifetimeCharged) ∨
      PartySigned env s id := by
  have hquiet (hcharge : call.settles id = false)
      (hrestore : ∀ summaries, call.operation ≠ .restore summaries)
      (hused : call.operation = .create → id ≠ s.book.nextId) :
      ∃ new, t.subscription id = some new ∧ new.lifetimeCharged = sub.lifetimeCharged :=
    VaultCall.lifetime hrun hcharge hrestore hused sub hsub
  have hcreation (hfree : s.subscription s.nextSubscriptionId = none) : id ≠ s.book.nextId := by
    rintro rfl
    rw [show s.subscription s.book.nextId = none from hfree] at hsub
    cases hsub
  have hcharger := VaultCall.chargerSigned hrun hcond
  cases call
  case chargeSubscription | chargeUsage | chargeUsageWithReference | operatorChargeSubscription
      | operatorChargeUsage | operatorChargeUsageWithRef | batchCharge | batchChargeDetailed =>
    exact .inr (.inl (hcharger rfl))
  case graceBuyout bought subscriber amount key =>
    by_cases hid : bought = id
    · subst hid
      exact .inr (.inr (.inr hcond))
    · refine .inl (hquiet ?_ (fun _ h => by cases h) fun h => by cases h)
      simp [VaultCall.settles, VaultCall.operation, Operation.settles, VaultCall.items, hid]
  case createSubscription | createSubscriptionWithToken | createSubscriptionWithSplit
      | createSubscriptionFromPlan =>
    exact .inl (hquiet rfl (fun _ h => by cases h) fun _ => hcreation hcond)
  case restoreSnapshotPage admin summaries balances =>
    obtain ⟨_, hadmin, -⟩ := run_check_ok (Modifies.requireAdminAuth _) hrun
    obtain ⟨⟨hstored, hsigned, -⟩, -⟩ := run_requireAdminAuth_ok.mp hadmin
    exact .inr (.inl (.inl ⟨admin, hstored, hsigned⟩))
  case bulkDepositFunds | bulkCancelSubscriptions | bulkPauseSubscriptions =>
    refine .inl (hquiet ?_ (fun _ h => by cases h) fun h => by cases h)
    simp [VaultCall.settles, VaultCall.operation, Operation.settles, VaultCall.items,
      BulkItem.operation]
  all_goals exact .inl (hquiet rfl (fun _ h => by cases h) fun h => by cases h)

theorem Transacts.chargeAuthorized (h : Transacts l s t) (hcond : l.SignedCharges s) :
    ChargeAuthorized l s t := by
  cases h with
  | call hrun =>
    refine ⟨?_, fun id sub hsub => VaultCall.lifetimeSigned hrun hcond hsub⟩
    rcases VaultCall.credited hrun hcond with hposts | hsigned
    · exact .inl hposts
    · exact .inr ⟨_, _, rfl, hsigned⟩
  | other hagree =>
    refine ⟨.inl (.of_areas hagree rfl), fun id sub hsub => .inl ⟨sub, ?_, rfl⟩⟩
    have hbook : t.book = s.book := State.book_of_unbooked (hagree.mono (areas_subset_unbooked rfl))
    exact (congrArg (fun b : Book => b.record id) hbook).trans hsub

end Calls

/-! ## Runs -/

section Runs

variable {start s : State} {hist : History Transaction State}

end Runs

private def prepaidCalls : List (Env × VaultCall) :=
  [(sampleEnv 1 [⟨2⟩], .depositFunds 0 100 none),
   (sampleEnv 0 [⟨2⟩], .createSubscription sampleRequest)]

private def chargedBy (signers : List Address) : List (Env × VaultCall) :=
  (sampleEnv 61 signers, .chargeSubscription 0 none) :: prepaidCalls

private def prepaidState : State := stateAfter (afterCalls (sampleVault 0)) prepaidCalls

end SubscriptionVault
