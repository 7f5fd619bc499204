import SubscriptionVault.Charging.Errors
import SubscriptionVault.Disputes.Settlement
import SubscriptionVault.Lifecycle.Prepaid

/-!
# Disputes that hold up a removal from the blocklist

The removal is refused while a subscription filed under the address has an open dispute. An
unresolved dispute escapes that guard once the admin has answered it, and once its subscription
has left the index of the subscriber who disputes.
-/

namespace SubscriptionVault

open Exec

/-! ## What the guard should see -/

/-- Nobody leaves the blocklist with an unresolved dispute, and a refusal for disputes leaves the
vault as it was. -/
structure State.RemovalWaits (s : State) : Prop where
  waits : ∀ env admin subscriber t,
    (VaultCall.removeFromBlocklist admin subscriber).exec.run env s = .ok () t →
      ∀ d x, s.dispute d = some x → x.subscriber = subscriber → x.isResolved = true
  refused : ∀ env admin subscriber t,
    (VaultCall.removeFromBlocklist admin subscriber).exec.run env s =
      .err .subscriberHasOpenDisputes t → t = s

/-- Every unresolved dispute is unanswered, is the one its subscription points to, and belongs to
a subscription in the index of the subscriber who disputes. -/
def State.GuardSees (s : State) : Prop :=
  ∀ d x, s.disputes.dispute d = some x → x.isResolved = false →
    s.disputes.active x.subscriptionId = some d ∧ x.status = .opened ∧
      x.subscriptionId ∈ s.subscriberSubs x.subscriber

/-- The operation takes the subscription out of the index of its subscriber. -/
def Operation.delists (id : Nat) : Operation → Prop
  | .cancel j | .transfer j _ => j = id
  | _ => False

def VaultCall.delists (id : Nat) (call : VaultCall) : Prop :=
  call.operation.delists id ∨ ∃ item ∈ call.items, item.operation.delists id

/-- A dispute is opened only for a subscription in the index of the subscriber who disputes, and
none is answered. -/
def VaultCall.FilesDispute (s : State) : VaultCall → Prop
  | .openDispute subscriber id _ _ => id ∈ s.subscriberSubs subscriber
  | .respondDispute _ _ _ => False
  | _ => True

/-- Nor does a disputed subscription leave that index. -/
def Transaction.KeepsGuard : Transaction → State → Prop
  | .call _ c, s => c.FilesDispute s ∧ ∀ id, c.delists id → s.disputes.active id = none
  | .other _, _ => True

section Listed

variable {env : Env} {s t : State} {b' : Book} {op : Operation} {id : Nat} {a : Address}

/-- What is in a subscriber's index stays there, unless it is cancelled by hand or transferred. -/
theorem Operation.Changes.subscriberSubs (h : op.Changes env s b') (hop : ¬op.delists id)
    (hmem : id ∈ s.subscriberSubs a) : id ∈ b'.subscriberSubs a := by
  have hsame (heq : b'.subscriberSubs = s.book.subscriberSubs) : id ∈ b'.subscriberSubs a := by
    rw [heq]
    exact hmem
  have hupdate (b : Book) (owner : Address) (ids : List Nat)
      (hothers : id ∈ b.subscriberSubs a) (hids : a = owner → id ∈ ids) :
      id ∈ Function.update b.subscriberSubs owner ids a := by
    by_cases ha : a = owner
    · rw [ha, Function.update_self]
      exact hids ha
    · rwa [Function.update_of_ne ha]
  cases op with
  | create =>
    obtain ⟨sub, -, -, -, -, -, hbook, -⟩ := h
    rw [hbook]
    refine hupdate s.book sub.subscriber _ hmem fun ha => ?_
    rw [ha] at hmem
    exact List.mem_append_left _ hmem
  | deposit j =>
    rcases h with ⟨_, _, -, -, rfl⟩ | ⟨_, _, -, -, -, rfl⟩ <;> exact hmem
  | charge j =>
    cases h with
    | booked hbooks =>
      obtain ⟨_, _, _, -, -, -, rfl | rfl⟩ := hbooks <;> exact hmem
    | _ => exact hmem
  | chargeUsage j amount => cases h <;> exact hmem
  | buyOut j =>
    obtain ⟨_, _, -, -, -, -, -, rfl⟩ := h
    exact hmem
  | cancel j =>
    obtain ⟨sub, -, -, -, hbook⟩ := h
    have hlists : b'.subscriberSubs = Function.update s.book.subscriberSubs sub.subscriber
        ((s.book.subscriberSubs sub.subscriber).erase j) := by
      rw [hbook]
      split <;> rfl
    rw [hlists]
    refine hupdate s.book sub.subscriber _ hmem fun ha => ?_
    rw [ha] at hmem
    exact (List.mem_erase_of_ne (Ne.symm hop)).mpr hmem
  | pause j =>
    obtain ⟨_, -, -, -, rfl⟩ := h
    exact hmem
  | resume j =>
    rcases h with ⟨_, -, -, rfl⟩ | ⟨_, _, -, -, -, rfl⟩ <;> exact hmem
  | edit j =>
    obtain ⟨_, _, -, -, rfl⟩ := h
    exact hmem
  | archive j =>
    obtain ⟨_, -, -, -, rfl⟩ := h
    exact hmem
  | replan j planId =>
    obtain ⟨_, -, _, -, rfl⟩ := h
    exact hmem
  | transfer j «to» =>
    obtain ⟨sub, -, hbook⟩ := h
    have hlists : b'.subscriberSubs =
        Function.update (Function.update s.book.subscriberSubs sub.subscriber
          ((s.book.subscriberSubs sub.subscriber).erase j)) «to»
          (Function.update s.book.subscriberSubs sub.subscriber
            ((s.book.subscriberSubs sub.subscriber).erase j) «to» ++ [j]) := by
      rw [hbook]
      dsimp only
      split <;> rfl
    have herased (c : Address) (hc : id ∈ s.subscriberSubs c) :
        id ∈ Function.update s.book.subscriberSubs sub.subscriber
          ((s.book.subscriberSubs sub.subscriber).erase j) c := by
      by_cases hsub : c = sub.subscriber
      · rw [hsub, Function.update_self]
        rw [hsub] at hc
        exact (List.mem_erase_of_ne (Ne.symm hop)).mpr hc
      · rwa [Function.update_of_ne hsub]
    rw [hlists]
    by_cases hto : a = «to»
    · rw [hto, Function.update_self]
      rw [hto] at hmem
      exact List.mem_append_left _ (herased _ hmem)
    · rw [Function.update_of_ne hto]
      exact herased _ hmem
  | unblock =>
    refine hsame ?_
    have hresumes : ResumesRecords s.book b' := h
    clear hsame hupdate hmem hop h
    generalize s.book = b at hresumes
    induction hresumes with
    | done => rfl
    | next hfirst _ ih =>
      obtain ⟨_, -, -, rfl⟩ := hfirst
      exact ih
  | rotate oldMerchant newMerchant =>
    rw [show b' = s.book.rotated oldMerchant newMerchant from h]
    exact hmem
  | restore summaries =>
    rw [h.1, s.book.restored_rest summaries]
    exact hmem
  | renumber =>
    have hbook : b' = { s.book with nextId := b'.nextId, schemaVersion := b'.schemaVersion } := h.1
    rw [hbook]
    exact hmem
  | other => exact h.elim

theorem VaultStep.subscriberSubs {l : VaultAction} (h : VaultStep l s t)
    (hop : ¬l.operation.delists id) (hmem : id ∈ s.subscriberSubs a) :
    id ∈ t.subscriberSubs a := by
  rcases h.changes with hsame | hchanges
  · have hlists : t.subscriberSubs = s.subscriberSubs := congrArg Book.subscriberSubs hsame
    rw [hlists]
    exact hmem
  · exact hchanges.subscriberSubs hop hmem

theorem Transacts.subscriberSubs {l : Transaction} (h : Transacts l s t)
    (hkept : ∀ env call, l = .call env call → ¬call.delists id) (hmem : id ∈ s.subscriberSubs a) :
    id ∈ t.subscriberSubs a :=
  h.invariant_at (I := fun v => id ∈ v.subscriberSubs a)
    (Q := fun action => ¬action.operation.delists id)
    (fun _ _ _ hstep hop hlisted => hstep.subscriberSubs hop hlisted) (fun _ => not_false)
    (fun env call hl item hitem hdelists => hkept env call hl (.inr ⟨item, hitem, hdelists⟩))
    (fun env call hl _ hdelists => hkept env call hl (.inl hdelists)) hmem

end Listed

/-! ## What the guard finds -/

section Guard

variable {env : Env} {s t : State} {id d : Nat} {x : Dispute} {u : Unit}
  {admin subscriber : Address}

theorem hasOpenDispute_of_active (hactive : s.disputes.active id = some d)
    (hx : s.disputes.dispute d = some x) (hopen : x.status = .opened) :
    s.hasOpenDispute id = true := by
  have hread : s.read (.instanced (.subscriptionDispute id)) = some d := hactive
  have hstored : s.dispute d = some x := hx
  rw [State.hasOpenDispute, hread, Option.bind_some, hstored, Option.any_some, hopen]
  rfl

theorem removal_finds_none
    (hrun : (doRemoveFromBlocklist admin subscriber).run env s = .ok u t)
    (hmem : id ∈ s.subscriberSubs subscriber) : s.hasOpenDispute id = false := by
  obtain ⟨_, -, hrun⟩ := run_check_ok (Modifies.requireAdminAuth _) hrun
  obtain ⟨_, -, hrun⟩ := run_check_ok (.gets _) hrun
  obtain ⟨_, -, hrun⟩ := run_check_ok (.failIf _ _) hrun
  obtain ⟨ids, hids, hrun⟩ := run_check_ok (.gets _) hrun
  obtain ⟨disputed, hdisputed, hrun⟩ := run_check_ok (.gets _) hrun
  obtain ⟨_, hclear, hrun⟩ := run_check_ok (.failIf _ _) hrun
  obtain ⟨rfl, -⟩ := run_gets_ok.mp hids
  obtain ⟨rfl, -⟩ := run_gets_ok.mp hdisputed
  have hnone := Bool.eq_false_iff.mpr (run_failIf_ok.mp hclear).1
  exact Bool.eq_false_iff.mpr (List.any_eq_false.mp hnone id hmem)

theorem raises_resumeListed (id : Nat) :
    (resumeListed id).Raises {.notFound, .invalidStatusTransition} := by
  have hget : (getSubscription id).Raises {.notFound, .invalidStatusTransition} :=
    .bind .ask fun _ => .bind (.gets _) fun _ => .okOr (.inl rfl)
  have hresume (sub : Subscription) :
      (applyResume id sub).Raises {.notFound, .invalidStatusTransition} :=
    .bind (.lift (.ite (.ok _) (.error (.inr rfl)))) fun _ => .bind raises_store fun _ =>
      .when (.bind (.gets _) fun _ => raises_store)
  exact .bind (.gets _) fun _ => .whenSome fun _ => .when (.bind hget fun sub =>
    .when (hresume sub))

/-- Disputes are looked at before anything is written, and what follows fails otherwise. -/
theorem removal_refused (hrun : (doRemoveFromBlocklist admin subscriber).run env s =
    .err .subscriberHasOpenDisputes t) : t = s := by
  rcases run_check_err (Modifies.requireAdminAuth _) hrun with rfl | ⟨_, -, hrun⟩
  · rfl
  rcases run_check_err (.gets _) hrun with rfl | ⟨_, -, hrun⟩
  · rfl
  rcases run_check_err (.failIf _ _) hrun with rfl | ⟨_, -, hrun⟩
  · rfl
  rcases run_check_err (.gets _) hrun with rfl | ⟨ids, -, hrun⟩
  · rfl
  rcases run_check_err (.gets _) hrun with rfl | ⟨_, -, hrun⟩
  · rfl
  rcases run_check_err (.failIf _ _) hrun with rfl | ⟨_, -, hrun⟩
  · rfl
  have hraises : (delete (.persistent (.blocklist subscriber)) >>= fun _ =>
      forEach ids resumeListed).Raises {.notFound, .invalidStatusTransition} :=
    .bind raises_delete fun _ => .forEach raises_resumeListed ids
  rcases hraises _ _ _ _ hrun with h | h <;> cases h

/-- A guard that sees every unresolved dispute lets nobody go too early. -/
theorem State.GuardSees.removalWaits (h : s.GuardSees) : s.RemovalWaits where
  waits env admin subscriber t hrun d x hx hown := by
    by_contra hunresolved
    have hrun : (doRemoveFromBlocklist admin subscriber).run env s = .ok () t := hrun
    obtain ⟨hactive, hopen, hlisted⟩ := h d x hx (Bool.eq_false_iff.mpr hunresolved)
    rw [hown] at hlisted
    have hfound := hasOpenDispute_of_active hactive hx hopen
    rw [removal_finds_none hrun hlisted] at hfound
    cases hfound
  refused env admin subscriber t hrun := removal_refused hrun

end Guard

/-! ## One transaction -/

section Steps

variable {s t : State} {d id : Nat} {x : Dispute} {subscriber : Address} {amount : Int}

/-- Every subscription with a pending dispute keeps its places in the indexes. -/
def KeepsListed (s t : State) : Prop :=
  ∀ id a, s.disputes.active id ≠ none → id ∈ s.subscriberSubs a → id ∈ t.subscriberSubs a

theorem State.GuardSees.quiet (h : s.GuardSees) (hkept : KeepsListed s t)
    (hsame : t.disputes = s.disputes) : t.GuardSees := by
  intro d x hx hunresolved
  rw [hsame] at hx ⊢
  obtain ⟨hactive, hopen, hlisted⟩ := h d x hx hunresolved
  exact ⟨hactive, hopen, hkept _ _ (by rw [hactive]; nofun) hlisted⟩

theorem State.GuardSees.opened (h : s.GuardSees) (hkept : KeepsListed s t)
    (hopens : OpensFor id subscriber amount s.disputes t.disputes)
    (hlisted : id ∈ t.subscriberSubs subscriber) : t.GuardSees := by
  obtain ⟨new, rfl, -, rfl, -, hstatus, hfree, hopened⟩ := hopens
  intro d x hx hunresolved
  rw [hopened] at hx ⊢
  by_cases hd : d = s.disputes.nextId
  · subst hd
    have hself : (s.disputes.opened new).dispute s.disputes.nextId = some new :=
      Function.update_self _ _ _
    obtain rfl := Option.some.inj (hself.symm.trans hx)
    exact ⟨Function.update_self _ _ _, hstatus, hlisted⟩
  · have hkeptRecord : (s.disputes.opened new).dispute d = s.disputes.dispute d :=
      Function.update_of_ne hd _ _
    obtain ⟨hactive, hopen, hbefore⟩ := h d x (hkeptRecord.symm.trans hx) hunresolved
    have hother : x.subscriptionId ≠ new.subscriptionId := by
      intro heq
      rw [heq, hfree] at hactive
      cases hactive
    exact ⟨(Function.update_of_ne hother _ _).trans hactive, hopen,
      hkept _ _ (by rw [hactive]; nofun) hbefore⟩

theorem State.GuardSees.closed (h : s.GuardSees) (hkept : KeepsListed s t)
    {status : DisputeStatus} (hx : s.disputes.dispute d = some x)
    (hunresolved : x.isResolved = false) (hresolved : { x with status }.isResolved = true)
    (hclosed : t.disputes = s.disputes.closed d { x with status }) : t.GuardSees := by
  have hpoints := (h d x hx hunresolved).1
  intro j y hy hpending
  rw [hclosed] at hy ⊢
  by_cases hj : j = d
  · subst hj
    have hself : (s.disputes.closed j { x with status }).dispute j = some { x with status } :=
      Function.update_self _ _ _
    obtain rfl := Option.some.inj (hself.symm.trans hy)
    rw [hresolved] at hpending
    cases hpending
  · have hkeptRecord : (s.disputes.closed d { x with status }).dispute j = s.disputes.dispute j :=
      Function.update_of_ne hj _ _
    obtain ⟨hactive, hopen, hlisted⟩ := h j y (hkeptRecord.symm.trans hy) hpending
    have hother : y.subscriptionId ≠ x.subscriptionId := by
      intro heq
      rw [heq, hpoints] at hactive
      exact hj (Option.some.inj hactive).symm
    exact ⟨(Function.update_of_ne hother _ _).trans hactive, hopen,
      hkept _ _ (by rw [hactive]; nofun) hlisted⟩

theorem DisputeBook.Changes.of_quiet {b b' : DisputeBook} (h : b.Changes .quiet b') : b' = b := by
  cases h
  rfl

/-- No cancellation puts money in escrow, so only subscribers open disputes. -/
theorem Transacts.guardSees {l : Transaction} (h : Transacts l s t) (hkeeps : l.KeepsGuard s)
    (hescrows : ∀ id, s.cancellationEscrow id = none) (hsees : s.GuardSees) : t.GuardSees := by
  have hkept : KeepsListed s t := by
    intro id a hpending hmem
    refine h.subscriberSubs (fun env call hl hdelists => ?_) hmem
    subst hl
    exact hpending (hkeeps.2 id hdelists)
  have hquiet (hl : l.disputeEvent = .quiet) : t.GuardSees := by
    have hchanges := h.disputes
    rw [hl] at hchanges
    exact hsees.quiet hkept hchanges.of_quiet
  cases l with
  | other env => exact hquiet rfl
  | call env call =>
    cases call
    case openDispute subscriber id amount evidence =>
      have hlisted : id ∈ t.subscriberSubs subscriber := by
        refine h.subscriberSubs (fun _ _ hl hdelists => ?_) hkeeps.1
        cases hl
        rcases hdelists with hdelists | ⟨_, hmem, -⟩
        · exact hdelists
        · cases hmem
      exact hsees.opened hkept h.opens.2 hlisted
    case lodgeEscrowDispute merchant id =>
      obtain ⟨escrow, hescrow, -⟩ := h.lodges
      rw [hescrows id] at hescrow
      cases hescrow
    case respondDispute => exact hkeeps.1.elim
    case resolveDispute admin d toSubscriber =>
      obtain ⟨x, status, _, _, hx, hunresolved, hresolved, -, -, hclosed, -⟩ := h.resolves rfl
      exact hsees.closed hkept hx hunresolved hresolved hclosed
    all_goals exact hquiet rfl

end Steps

/-! ## Runs -/

theorem guardSees_of_run {start s : State} {hist : History Transaction State}
    (hdeployed : Deployed start) (hrun : Run Transacts start hist s)
    (hkeeps : ∀ step ∈ hist, step.1.KeepsGuard step.2) : s.GuardSees := by
  induction hrun with
  | start =>
    intro d x hx
    exact absurd (hdeployed.disputes.lt hx) (Nat.not_lt_zero d)
  | next hbefore hstep ih =>
    have hsees := ih fun step hmem => hkeeps step (List.mem_cons_of_mem _ hmem)
    have hescrows := cancellationEscrow_of_run hdeployed hbefore
    exact hstep.guardSees (hkeeps _ List.mem_cons_self) hescrows hsees

private def contestedCalls : List (Env × VaultCall) :=
  [(sampleEnv 62 [⟨8⟩], .addToBlocklist ⟨8⟩ ⟨2⟩ []),
   (sampleEnv 61 [⟨2⟩], .openDispute ⟨2⟩ 0 4 none),
   (sampleEnv 60 [], .chargeSubscription 0 none),
   (sampleEnv 0 [⟨2⟩], .depositFunds 0 50 none),
   (sampleEnv 0 [⟨2⟩], .createSubscription sampleRequest)]

private def contestedVault : State := stateAfter (afterCalls (sampleVault 0)) contestedCalls

private theorem contestedVault_run : Run Transacts (sampleStart 0)
    (transactionHistory (afterCalls (sampleVault 0)) contestedCalls ++
      [(.other (sampleEnv 0 []), sampleStart 0)]) contestedVault :=
  run_transactions (sample_transacted 0) (by decide +kernel)

private def answeredCalls : List (Env × VaultCall) :=
  (sampleEnv 63 [⟨8⟩], .respondDispute ⟨8⟩ 0 none) :: contestedCalls

private def answeredVault : State := stateAfter (afterCalls (sampleVault 0)) answeredCalls

end SubscriptionVault
