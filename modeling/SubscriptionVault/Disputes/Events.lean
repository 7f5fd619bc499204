import SubscriptionVault.Accounts.Postings
import SubscriptionVault.Disputes.Registry
import SubscriptionVault.Lifecycle.Exit

/-!
# What calls do to disputes

Every transaction is one event of the dispute registry, and a resolution also pays the side
that won.
-/

namespace SubscriptionVault

open Exec

def State.disputes (s : State) : DisputeBook where
  dispute := s.dispute
  escrow := s.disputeEscrow
  active id := s.read (.instanced (.subscriptionDispute id))
  nextId := s.nextDisputeId

/-! ## Writing the registry -/

section Writes

variable {s t : State} {l : List Area}

theorem State.disputes_of_areas (h : FiniteStore.AgreeOff (areas l) s t)
    (hl : l.contains .disputes = false) : t.disputes = s.disputes := by
  apply DisputeBook.ext
  · funext d
    exact State.read_of_areas (k := .persistent (.dispute d)) h hl
  · funext d
    exact State.read_of_areas (k := .instanced (.disputeEscrow d)) h hl
  · funext id
    exact State.read_of_areas (k := .instanced (.subscriptionDispute id)) h hl
  · exact congrArg (·.getD 0) (State.read_of_areas (k := .instanced .nextDisputeId) h hl)

theorem Modifies.disputes {α : Type} {x : Vault α} {env : Env} {a : α}
    (hx : Modifies (areas l) x) (hl : l.contains .disputes = false)
    (hrun : x.run env s = .ok a t) : t.disputes = s.disputes :=
  State.disputes_of_areas (hx.ok hrun) hl

private theorem disputeKey_injective :
    Function.Injective fun d => Slot.persistent (.dispute d) := fun _ _ h => by
  cases h
  rfl

private theorem escrowKey_injective :
    Function.Injective fun d => Slot.instanced (.disputeEscrow d) := fun _ _ h => by
  cases h
  rfl

private theorem activeKey_injective :
    Function.Injective fun id => Slot.instanced (.subscriptionDispute id) := fun _ _ h => by
  cases h
  rfl

theorem State.disputes_write_dispute (s : State) (d : Nat) (x : Dispute) :
    State.disputes (s.write (.persistent (.dispute d)) x) =
      { s.disputes with dispute := Function.update s.dispute d (some x) } := by
  apply DisputeBook.ext
  · exact s.read_write_family disputeKey_injective d x
  · rfl
  · rfl
  · rfl

theorem State.disputes_write_escrow (s : State) (d : Nat) (ledger : DisputeEscrowLedger) :
    State.disputes (s.write (.instanced (.disputeEscrow d)) ledger) =
      { s.disputes with escrow := Function.update s.disputeEscrow d (some ledger) } := by
  apply DisputeBook.ext
  · rfl
  · exact s.read_write_family escrowKey_injective d ledger
  · rfl
  · rfl

theorem State.disputes_remove_escrow (s : State) (d : Nat) :
    State.disputes (s.remove (.instanced (.disputeEscrow d))) =
      { s.disputes with escrow := Function.update s.disputeEscrow d none } := by
  apply DisputeBook.ext
  · rfl
  · exact s.read_remove_family escrowKey_injective d
  · rfl
  · rfl

theorem State.disputes_write_active (s : State) (id d : Nat) :
    State.disputes (s.write (.instanced (.subscriptionDispute id)) d) =
      { s.disputes with active := Function.update s.disputes.active id (some d) } := by
  apply DisputeBook.ext
  · rfl
  · rfl
  · exact s.read_write_family activeKey_injective id d
  · rfl

theorem State.disputes_remove_active (s : State) (id : Nat) :
    State.disputes (s.remove (.instanced (.subscriptionDispute id))) =
      { s.disputes with active := Function.update s.disputes.active id none } := by
  apply DisputeBook.ext
  · rfl
  · rfl
  · exact s.read_remove_family activeKey_injective id
  · rfl

theorem State.disputes_write_nextId (s : State) (n : Nat) :
    State.disputes (s.write (.instanced .nextDisputeId) n) =
      { s.disputes with nextId := n } := by
  apply DisputeBook.ext
  · rfl
  · rfl
  · rfl
  · exact congrArg (·.getD 0) (s.read_write_self (k := .instanced .nextDisputeId) n)

end Writes

/-! ## Operations -/

/-- A dispute of the amount is opened for the subscription. -/
def OpensDispute (id : Nat) (amount : Int) (b b' : DisputeBook) : Prop :=
  ∃ x : Dispute, x.id = b.nextId ∧ x.subscriptionId = id ∧ x.amount = amount ∧
    x.status = .opened ∧ b.active id = none ∧ b' = b.opened x

/-- The dispute that is opened is this subscriber's. -/
def OpensFor (id : Nat) (subscriber : Address) (amount : Int) (b b' : DisputeBook) : Prop :=
  ∃ x : Dispute, x.subscriber = subscriber ∧ x.id = b.nextId ∧ x.subscriptionId = id ∧
    x.amount = amount ∧ x.status = .opened ∧ b.active id = none ∧ b' = b.opened x

/-- The amount goes to the side that won: to the balance of the merchant, or in tokens to the
subscriber. -/
def Dispute.PaidOut (x : Dispute) (amount : Int) (token contract : Address) (s t : State) :
    Prop :=
  if x.status = .resolvedToMerchant then
    t.balanceOf = s.balanceOf ∧ t.merchantBalance = fun m k =>
      if m = x.merchant ∧ k = token then s.merchantBalance m k + amount else s.merchantBalance m k
  else t.merchantBalance = s.merchantBalance ∧
    t.balanceOf = (s.transferred token contract x.subscriber amount).balanceOf

/-- The dispute is resolved, and what is left of its escrow paid in the token of its
subscription. -/
def ResolvesDispute (d : Nat) (contract : Address) (s t : State) : Prop :=
  ∃ (x : Dispute) (status : DisputeStatus) (ledger : DisputeEscrowLedger) (sub : Subscription),
    s.dispute d = some x ∧ x.isResolved = false ∧ { x with status }.isResolved = true ∧
      s.disputeEscrow d = some ledger ∧ s.subscription x.subscriptionId = some sub ∧
      t.disputes = s.disputes.closed d { x with status } ∧
      { x with status }.PaidOut ledger.remaining sub.token contract s t

theorem OpensDispute.changes {id : Nat} {amount : Int} {b b' : DisputeBook}
    (h : OpensDispute id amount b b') : b.Changes .opening b' := by
  obtain ⟨x, hid, hsub, -, hstatus, hfree, rfl⟩ := h
  rw [← hsub] at hfree
  exact .opening hid hstatus hfree

theorem OpensFor.opens {id : Nat} {subscriber : Address} {amount : Int} {b b' : DisputeBook}
    (h : OpensFor id subscriber amount b b') : OpensDispute id amount b b' := by
  obtain ⟨x, -, hopened⟩ := h
  exact ⟨x, hopened⟩

theorem Dispute.resolution_resolved (x : Dispute) (toSubscriber : Bool) :
    { x with status := x.resolution toSubscriber }.isResolved = true := by
  unfold Dispute.isResolved Dispute.resolution
  split <;> rfl

section Operations

variable {env : Env} {s t : State} {id d : Nat} {amount : Int} {u : Unit}

theorem recordDispute_disputes {subscriber merchant : Address}
    {evidenceHash : Option BytesN32} (hfree : s.disputes.active id = none)
    (hrun : (recordDispute id subscriber merchant amount evidenceHash).run env s = .ok u t) :
    OpensFor id subscriber amount s.disputes t.disputes := by
  obtain ⟨_, henv, hrun⟩ := run_check_ok .ask hrun
  obtain ⟨rfl, -⟩ := run_ask_ok.mp henv
  obtain ⟨disputeId, s₁, hallocate, hrun⟩ := run_bind_ok.mp hrun
  obtain ⟨current, hcurrent, hallocate⟩ := run_check_ok (.gets _) hallocate
  obtain ⟨_, s₀, hcount, hallocate⟩ := run_bind_ok.mp hallocate
  obtain ⟨hid, rfl⟩ := run_pure_ok.mp hallocate
  obtain ⟨_, s₂, hescrow, hrun⟩ := run_bind_ok.mp hrun
  obtain ⟨_, s₃, hrecord, hlast⟩ := run_bind_ok.mp hrun
  obtain ⟨rfl, -⟩ := run_gets_ok.mp hcurrent
  obtain rfl := run_store_ok.mp hcount
  obtain rfl := run_store_ok.mp hescrow
  obtain rfl := run_store_ok.mp hrecord
  obtain rfl := run_store_ok.mp hlast
  subst hid
  let x : Dispute :=
    { id := s.nextDisputeId, subscriptionId := id, subscriber, merchant, amount,
      openedAt := env.now, status := .opened, evidenceHash, respondedAt := none,
      adminEvidenceHash := none }
  refine ⟨x, rfl, rfl, rfl, rfl, rfl, hfree, ?_⟩
  rw [State.disputes_write_active, State.disputes_write_dispute, State.disputes_write_escrow,
    State.disputes_write_nextId]
  rfl

theorem doOpenDispute_disputes {subscriber : Address} {evidenceHash : Option BytesN32}
    (hrun : (doOpenDispute subscriber id amount evidenceHash).run env s = .ok u t) :
    (∃ sub, s.subscription id = some sub) ∧ 0 < amount ∧
      OpensFor id subscriber amount s.disputes t.disputes := by
  obtain ⟨_, -, hrun⟩ := run_check_ok (Modifies.requireAuth _) hrun
  obtain ⟨_, hsign, hrun⟩ := run_check_ok (.failIf _ _) hrun
  obtain ⟨sub, hreads, -, hrun⟩ := run_read_ok hrun
  obtain ⟨_, -, hrun⟩ := run_check_ok (.failIf _ _) hrun
  obtain ⟨pending, hpending, hrun⟩ := run_check_ok Modifies.load hrun
  obtain ⟨_, hfree, hrun⟩ := run_check_ok (.failIf _ _) hrun
  obtain ⟨_, -, hrun⟩ := run_check_ok (.gets _) hrun
  obtain ⟨_, -, hrun⟩ := run_check_ok (.failIf _ _) hrun
  obtain ⟨rest, -, hrun⟩ := run_check_ok (.lift _) hrun
  obtain ⟨_, s₁, hwrite, hrun⟩ := run_bind_ok.mp hrun
  obtain ⟨stored, hstored, -⟩ := hreads
  have hpaid : Modifies (areas [.balances])
      (setMerchantBalance sub.merchant sub.token rest) := Modifies.store rfl
  have hsame : s₁.disputes = s.disputes := hpaid.disputes rfl hwrite
  have hnone : s.disputes.active id = none := by
    obtain rfl := (run_load_ok.mp hpending).1
    exact Option.not_isSome_iff_eq_none.mp (run_failIf_ok.mp hfree).1
  refine ⟨⟨stored, hstored⟩, Int.not_le.mp (run_failIf_ok.mp hsign).1, ?_⟩
  rw [← hsame]
  exact recordDispute_disputes (by rw [hsame]; exact hnone) hrun

theorem doLodgeEscrowDispute_disputes {merchant : Address}
    (hrun : (doLodgeEscrowDispute merchant id).run env s = .ok u t) :
    ∃ escrow, s.cancellationEscrow id = some escrow ∧
      OpensFor id escrow.subscriber escrow.amount s.disputes t.disputes := by
  obtain ⟨_, -, hrun⟩ := run_check_ok .ask hrun
  obtain ⟨_, -, hrun⟩ := run_check_ok (Modifies.requireAuth _) hrun
  obtain ⟨found, hfound, hrun⟩ := run_check_ok (.gets _) hrun
  obtain ⟨escrow, hescrow, hrun⟩ := run_check_ok (.okOr _ _) hrun
  obtain ⟨_, -, hrun⟩ := run_check_ok (.failIf _ _) hrun
  obtain ⟨_, -, hrun⟩ := run_check_ok (.failIf _ _) hrun
  obtain ⟨pending, hpending, hrun⟩ := run_check_ok Modifies.load hrun
  obtain ⟨_, hfree, hrun⟩ := run_check_ok (.failIf _ _) hrun
  obtain ⟨_, s₁, hdrop, hrun⟩ := run_bind_ok.mp hrun
  have hdropped : Modifies (areas [.escrows]) (delete (.persistent (.cancellationEscrow id))) :=
    Modifies.delete rfl
  have hsame : s₁.disputes = s.disputes := hdropped.disputes rfl hdrop
  have hnone : s.disputes.active id = none := by
    obtain rfl := (run_load_ok.mp hpending).1
    exact Option.not_isSome_iff_eq_none.mp (run_failIf_ok.mp hfree).1
  have hstored : s.cancellationEscrow id = some escrow :=
    (run_gets_ok.mp hfound).1.trans (run_okOr_ok.mp hescrow).1
  refine ⟨escrow, hstored, ?_⟩
  rw [← hsame]
  exact recordDispute_disputes (by rw [hsame]; exact hnone) hrun

theorem doRespondDispute_disputes {admin : Address} {evidenceHash : Option BytesN32}
    (hrun : (doRespondDispute admin d evidenceHash).run env s = .ok u t) :
    s.disputes.Changes (.answer d) t.disputes := by
  obtain ⟨_, -, hrun⟩ := run_check_ok .ask hrun
  obtain ⟨_, -, hrun⟩ := run_check_ok (Modifies.requireAdminAuth _) hrun
  obtain ⟨found, hfound, hrun⟩ := run_check_ok (.gets _) hrun
  obtain ⟨x, hx, hrun⟩ := run_check_ok (.okOr _ _) hrun
  obtain ⟨_, hstatus, hrun⟩ := run_check_ok (.failIf _ _) hrun
  obtain ⟨_, s₁, hwrite, hrun⟩ := run_bind_ok.mp hrun
  obtain ⟨_, -, hlast⟩ := run_check_ok (Modifies.getSubscription _) hrun
  obtain ⟨-, rfl⟩ := run_pure_ok.mp hlast
  obtain rfl := run_store_ok.mp hwrite
  have hstored : s.disputes.dispute d = some x :=
    (run_gets_ok.mp hfound).1.trans (run_okOr_ok.mp hx).1
  have hopen : x.status = .opened := not_not.mp (run_failIf_ok.mp hstatus).1
  rw [State.disputes_write_dispute]
  exact .answer hstored hopen

theorem payOutDispute_paid {x : Dispute} {token : Address} {remaining : Int}
    {resolution : DisputeStatus}
    (hrun : (payOutDispute x token remaining resolution).run env s = .ok u t) :
    { x with status := resolution }.PaidOut remaining token env.host.contract s t := by
  unfold payOutDispute at hrun
  unfold Dispute.PaidOut
  split at hrun
  · rename_i hmerchant
    obtain ⟨current, hcurrent, hrun⟩ := run_check_ok (.gets _) hrun
    obtain rfl := (run_gets_ok.mp hcurrent).1
    obtain ⟨balance, hbalance, hrun⟩ := run_check_ok (.lift _) hrun
    obtain ⟨rfl, -⟩ := checkedI128_ok.mp (run_lift_ok.mp hbalance).1
    have hstore : Modifies (areas [.balances]) (setMerchantBalance x.merchant token
        (s.merchantBalance x.merchant token + remaining)) := Modifies.store rfl
    have htokens := State.balanceOf_of_areas (hstore.ok hrun) rfl
    obtain rfl := run_store_ok.mp hrun
    rw [if_pos hmerchant]
    refine ⟨htokens, ?_⟩
    have haccounts := congrArg Accounts.balance (s.accounts_setBalance x.merchant token
      (s.merchantBalance x.merchant token + remaining))
    refine haccounts.trans ?_
    funext m k
    change (if m = x.merchant ∧ k = token then _ else _) = _
    split
    · rename_i hself
      rw [hself.1, hself.2]
    · rfl
  · rename_i hsubscriber
    obtain ⟨_, henv, hrun⟩ := run_check_ok .ask hrun
    obtain ⟨_, -, hrun⟩ := run_check_ok (.pure ()) hrun
    obtain ⟨rfl, -⟩ := run_ask_ok.mp henv
    have htransfer : Modifies (areas [.tokens])
        (transfer token env.host.contract x.subscriber remaining) := Modifies.transfer rfl rfl
    rw [if_neg hsubscriber]
    refine ⟨State.merchantBalance_of_areas (htransfer.ok hrun) rfl, ?_⟩
    obtain ⟨-, -, -, -, rfl⟩ := run_transfer_ok.mp hrun
    rfl

theorem Dispute.PaidOut.congr {x : Dispute} {token contract : Address} {s' t' : State}
    (h : x.PaidOut amount token contract s t) (hs : s'.balanceOf = s.balanceOf)
    (ht : t'.balanceOf = t.balanceOf) (hs' : s'.merchantBalance = s.merchantBalance)
    (ht' : t'.merchantBalance = t.merchantBalance) : x.PaidOut amount token contract s' t' := by
  unfold Dispute.PaidOut at h ⊢
  rw [hs, ht, hs', ht', State.balanceOf_transferred_congr hs]
  exact h

theorem doResolveDispute_disputes {admin : Address} {toSubscriber : Bool}
    (hrun : (doResolveDispute admin d toSubscriber).run env s = .ok u t) :
    ResolvesDispute d env.host.contract s t := by
  obtain ⟨_, -, hrun⟩ := run_check_ok .ask hrun
  obtain ⟨_, -, hrun⟩ := run_check_ok (Modifies.requireAdminAuth _) hrun
  obtain ⟨found, hfound, hrun⟩ := run_check_ok (.gets _) hrun
  obtain ⟨x, hx, hrun⟩ := run_check_ok (.okOr _ _) hrun
  obtain ⟨_, hopen, hrun⟩ := run_check_ok (.failIf _ _) hrun
  obtain ⟨_, -, hrun⟩ := run_check_ok (.gets _) hrun
  obtain ⟨_, -, hrun⟩ := run_check_ok (.failIf _ _) hrun
  obtain ⟨escrow, hescrow, hrun⟩ := run_check_ok (.gets _) hrun
  obtain ⟨ledger, hledger, hrun⟩ := run_check_ok (.okOr _ _) hrun
  obtain ⟨remaining, hremaining, hrun⟩ := run_check_ok (.lift _) hrun
  obtain ⟨_, -, hrun⟩ := run_check_ok (.failIf _ _) hrun
  obtain ⟨sub, ⟨stored, hstored, hsub⟩, -, hrun⟩ := run_read_ok hrun
  obtain ⟨_, s₁, hdrop, hrun⟩ := run_bind_ok.mp hrun
  obtain ⟨_, s₂, hpaid, hrest⟩ := run_bind_ok.mp hrun
  obtain ⟨_, s₃, hwrite, hlast⟩ := run_bind_ok.mp hrest
  have hdispute : s.dispute d = some x :=
    (run_gets_ok.mp hfound).1.trans (run_okOr_ok.mp hx).1
  have hlocked : s.disputeEscrow d = some ledger :=
    (run_gets_ok.mp hescrow).1.trans (run_okOr_ok.mp hledger).1
  have hunresolved : x.isResolved = false := Bool.eq_false_iff.mpr (run_failIf_ok.mp hopen).1
  have htoken : sub.token = stored.token := by
    rcases hsub with rfl | ⟨-, rfl⟩ <;> rfl
  obtain ⟨rfl, -⟩ := checkedI128_ok.mp (run_lift_ok.mp hremaining).1
  refine ⟨x, x.resolution toSubscriber, ledger, stored, hdispute, hunresolved,
    x.resolution_resolved toSubscriber, hlocked, hstored, ?_, ?_⟩
  · have hkept : s₂.disputes = s₁.disputes := (payOutDispute_areas _ _ _ _).disputes rfl hpaid
    obtain rfl := run_delete_ok.mp hdrop
    obtain rfl := run_store_ok.mp hwrite
    obtain rfl := run_delete_ok.mp hlast
    have hrecords : s₂.dispute = s.dispute := by
      exact congrArg DisputeBook.dispute (hkept.trans (State.disputes_remove_escrow s d))
    rw [State.disputes_remove_active, State.disputes_write_dispute, hkept, hrecords,
      State.disputes_remove_escrow]
    rfl
  · have hbefore : Modifies (areas [.disputes]) (delete (.instanced (.disputeEscrow d))) :=
      Modifies.delete rfl
    have hafter : Modifies (areas [.disputes]) (do
        store (.persistent (.dispute d)) { x with status := x.resolution toSubscriber }
        delete (.instanced (.subscriptionDispute x.subscriptionId)) : Vault Unit) :=
      .bind (Modifies.store rfl) fun _ => Modifies.delete rfl
    have hfirst := hbefore.ok hdrop
    have hfinal := hafter.ok hrest
    rw [← htoken]
    exact (payOutDispute_paid hpaid).congr (State.balanceOf_of_areas hfirst rfl).symm
      (State.balanceOf_of_areas hfinal rfl) (State.merchantBalance_of_areas hfirst rfl).symm
      (State.merchantBalance_of_areas hfinal rfl)

end Operations

/-! ## Transactions -/

def VaultCall.disputeEvent : VaultCall → DisputeEvent
  | .openDispute _ _ _ _ | .lodgeEscrowDispute _ _ => .opening
  | .respondDispute _ disputeId _ => .answer disputeId
  | .resolveDispute _ disputeId _ => .resolution disputeId
  | _ => .quiet

def Transaction.disputeEvent : Transaction → DisputeEvent
  | .call _ c => c.disputeEvent
  | .other _ => .quiet

section Transactions

variable {env : Env} {s t : State} {l : Transaction} {d : Nat}

/-- What a locked body does to the registry the call does. -/
theorem run_locked_disputes {name : LockName} {body : Vault Unit}
    (P : DisputeBook → DisputeBook → Prop)
    (hbody : ∀ {u v}, body.run env u = .ok () v → P u.disputes v.disputes)
    (hrun : (withLock name body).run env s = .ok () t) : P s.disputes t.disputes := by
  obtain ⟨-, v, hlocked, rfl⟩ := run_withLock_ok.mp hrun
  have hlock : State.disputes (s.write (.lock name) true) = s.disputes := rfl
  have hunlock : State.disputes (v.remove (.lock name)) = v.disputes := rfl
  rw [hunlock, ← hlock]
  exact hbody hlocked

theorem Transacts.disputes (h : Transacts l s t) :
    s.disputes.Changes l.disputeEvent t.disputes := by
  have hquiet (hl : (.locks :: l.areas).contains .disputes = false) :
      s.disputes.Changes .quiet t.disputes := by
    rw [State.disputes_of_areas h.worksIn.1 hl]
    exact .quiet
  cases h with
  | @call env call _ _ hrun =>
    cases call
    case openDispute =>
      exact run_locked_disputes (DisputeBook.Changes · .opening)
        (fun hbody => (doOpenDispute_disputes hbody).2.2.opens.changes) hrun
    case respondDispute =>
      exact run_locked_disputes (DisputeBook.Changes · (.answer _))
        (fun hbody => doRespondDispute_disputes hbody) hrun
    case lodgeEscrowDispute =>
      obtain ⟨escrow, -, hopens⟩ := doLodgeEscrowDispute_disputes hrun
      exact hopens.opens.changes
    case resolveDispute =>
      refine run_locked_disputes (DisputeBook.Changes · (.resolution _)) (fun hbody => ?_) hrun
      obtain ⟨x, status, ledger, sub, hx, hunresolved, hresolved, -, -, hclosed, -⟩ :=
        doResolveDispute_disputes hbody
      rw [hclosed]
      exact .resolution hx hunresolved hresolved
    all_goals exact hquiet rfl
  | other => exact hquiet rfl

theorem Transacts.opens {subscriber : Address} {id : Nat} {amount : Int}
    {evidence : Option BytesN32}
    (h : Transacts (.call env (.openDispute subscriber id amount evidence)) s t) :
    0 < amount ∧ OpensFor id subscriber amount s.disputes t.disputes := by
  cases h with
  | call hrun =>
    exact run_locked_disputes (fun b b' => 0 < amount ∧ OpensFor id subscriber amount b b')
      (fun hbody => (doOpenDispute_disputes hbody).2) hrun

theorem Transacts.lodges {merchant : Address} {id : Nat}
    (h : Transacts (.call env (.lodgeEscrowDispute merchant id)) s t) :
    ∃ escrow, s.cancellationEscrow id = some escrow ∧
      OpensFor id escrow.subscriber escrow.amount s.disputes t.disputes := by
  cases h with
  | call hrun => exact doLodgeEscrowDispute_disputes hrun

theorem Transacts.resolves (h : Transacts l s t) (hl : l.disputeEvent = .resolution d) :
    ResolvesDispute d l.env.host.contract s t := by
  cases h with
  | @call env call _ _ hrun =>
    cases call
    case resolveDispute admin disputeId toSubscriber =>
      obtain rfl : disputeId = d := DisputeEvent.resolution.inj hl
      obtain ⟨-, v, hlocked, rfl⟩ := run_withLock_ok.mp hrun
      obtain ⟨x, status, ledger, sub, hx, hunresolved, hresolved, hledger, hsub, hclosed, hpaid⟩ :=
        doResolveDispute_disputes hlocked
      exact ⟨x, status, ledger, sub, hx, hunresolved, hresolved, hledger, hsub, hclosed,
        hpaid.congr rfl rfl rfl rfl⟩
    all_goals cases hl
  | other => cases hl

end Transactions

end SubscriptionVault
