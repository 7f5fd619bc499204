import SubscriptionVault.Charging.Unread
import SubscriptionVault.Governance.Effects
import SubscriptionVault.Governance.Footprints
import SubscriptionVault.Lifecycle.Prepaid
import SubscriptionVault.Lifecycle.Rewrites
import SubscriptionVault.Lifecycle.Terminal

/-!
# Tokens taken off the list

Removing a token says only that it is not accepted any more. No charge, no deposit, no refund, no
scheduled payout and no withdrawal from a sub-account asks for that, so they go on as before; a
merchant's own withdrawal asks, and is refused until the token is accepted again. The guard of
the removal looks for active subscriptions and ones in grace, and leaves the others in place.
-/

namespace SubscriptionVault

open Exec

/-! ## What acceptance is -/

/-- The list of accepted tokens, with the proposals and the cooldown of its changes. -/
def Slot.isAcceptance : Slot → Bool
  | .instanced (.tokenDecimals _) | .instanced .acceptedTokens => true
  | .persistent (.adminConfigLastChangedAt _) | .persistent (.proposal _) => true
  | _ => false

def acceptanceSlots : Set Slot := {k | k.isAcceptance = true}

instance : Unread acceptanceSlots where
  isUnread k hk := by
    have haccepts : k.isAcceptance = true := hk
    unfold Slot.isAcceptance at haccepts
    split at haccepts
    · rfl
    · rfl
    · rfl
    · rfl
    · cases haccepts

theorem lock_not_acceptance (name : LockName) : Slot.lock name ∉ acceptanceSlots := Bool.noConfusion

namespace Ignores

/-! ### Whole calls -/

section Calls

variable {α : Type}

theorem effectOf {body : Vault α} (h : Ignores acceptanceSlots body) :
    Ignores acceptanceSlots (effectOf body) := by
  have hsame : SubscriptionVault.effectOf body = body >>= fun _ => pure () := rfl
  rw [hsame]
  exact .bind h fun _ => .pure _

theorem withLock {name : LockName} {body : Vault α} (h : Ignores acceptanceSlots body) :
    Ignores acceptanceSlots (withLock name body) :=
  .bind (respects_load (lock_not_acceptance name)) fun _ => .bind (.failIf _ _) fun _ =>
    .bind (store _) fun _ => .bind (.attempt h) fun _ => .bind (delete _) fun _ => .lift _

theorem guardedCall {name : LockName} {body : Vault α} (h : Ignores acceptanceSlots body) :
    Ignores acceptanceSlots (guardedCall name body) :=
  .bind requireNotEmergencyStop fun _ => withLock h

theorem guardedBatch {body : Vault α} (h : Ignores acceptanceSlots body) :
    Ignores acceptanceSlots (guardedBatch body) :=
  withLock (.bind requireNotEmergencyStop fun _ => h)

theorem stoppableCall {body : Vault α} (h : Ignores acceptanceSlots body) :
    Ignores acceptanceSlots (stoppableCall body) :=
  .bind requireNotEmergencyStop fun _ => h

end Calls

variable {S : Set Slot} [Unread S]

theorem requireOperatorAuth (op : Address) : Ignores S (requireOperatorAuth op) :=
  .bind (requireAuth _) fun _ => .bind (.gets fun _ _ h => h.config .operator rfl) fun _ =>
    .bind (.okOr _ _) fun _ => .failIf _ _

theorem doOperatorChargeSubscription (op : Address) (id : Nat) :
    Ignores S (doOperatorChargeSubscription op id) :=
  .bind (requireOperatorAuth _) fun _ => chargeOne _ _ _ _

theorem doOperatorChargeUsage (op : Address) (id : Nat) (usageAmount : Int) (reference : Bytes) :
    Ignores S (doOperatorChargeUsage op id usageAmount reference) :=
  .bind (requireOperatorAuth _) fun _ => chargeUsageOne _ _ _

theorem requireAdmin : Ignores S requireAdmin :=
  .bind_state (fun _ _ h => by rw [State.admin, State.admin, h.config .admin rfl]) fun _ =>
    .okOr _ _

theorem requireStoredAdminAuth : Ignores S requireStoredAdminAuth :=
  .bind requireAdmin fun _ => .bind (requireAuth _) fun _ => .pure _

theorem validateNonce (signer : Address) (domain : NonceDomain) (expected : Nat) :
    Ignores S (validateNonce signer domain expected) :=
  .bind_state (fun _ _ h => by rw [h.nonce]) fun _ => .bind (.lift _) fun _ => .pure _

theorem chargeItems (cfg : Option CachedAdminConfig) (items : List BatchItem)
    (cache : MerchantCache) : Ignores S (chargeItems cfg items cache) := by
  induction items generalizing cache with
  | nil => exact .pure _
  | cons item rest ih =>
    have hremember (now : Nat) {s s' : State} (h : SameBut S s s') :
        s'.rememberMerchant cache item.1 now = s.rememberMerchant cache item.1 now := by
      simp only [State.rememberMerchant, h.effectiveSubscription, h.cachedMerchantStatus,
        h.emergencyStop]
    exact .bind .ask fun env => .bind (.gets fun _ _ h => hremember env.now h) fun _ =>
      .bind (.attempt (chargeOne _ _ _ _)) fun _ => .bind (ih _) fun _ => .pure _

theorem executeBatchCharge (items : List BatchItem) : Ignores S (executeBatchCharge items) :=
  .bind (.gets fun _ _ h => by
    simp only [State.cachedAdminConfig, h.gracePeriod, h.protocolFeeBps, h.treasury,
      h.autoPauseThreshold]) fun _ => chargeItems _ _ _

theorem chargeBatch (admin : Address) (items : List BatchItem) (nonce : Nat) :
    Ignores S (chargeBatch admin items nonce) :=
  .bind (validateNonce _ _ _) fun _ => .bind (store _) fun _ =>
    .bind (executeBatchCharge _) fun _ => .bind (.attempt (.when (checkAndAdvance _ _ _))) fun _ =>
    .bind (delete _) fun _ => .bind (.lift _) fun _ => .pure _

theorem doBatchChargeDetailed (ids : List Nat) (keys : Option (List BytesN32)) (nonce : Nat) :
    Ignores S (doBatchChargeDetailed ids keys nonce) := by
  refine .bind requireStoredAdminAuth fun admin => .bind (.failIf _ _) fun _ =>
    .ite (.pure _) (.bind (.failIf _ _) fun _ => ?_)
  split
  · exact .pure _
  · exact chargeBatch _ _ _

theorem doBatchCharge (ids : List Nat) (keys : Option (List BytesN32)) (nonce : Nat) :
    Ignores S (doBatchCharge ids keys nonce) :=
  .bind (doBatchChargeDetailed _ _ _) fun _ => .bind (.failIf _ _) fun _ => .pure _

theorem doBulkDepositFunds (caller : Address) (entries : List (Nat × Int)) (nonce : Nat) :
    Ignores S (doBulkDepositFunds caller entries nonce) := by
  have hrole : Ignores S (requireAdminOrOperatorAuth caller) :=
    .bind (requireAuth _) fun _ => .bind requireAdmin fun _ =>
      .bind_state (fun _ _ h => by
        rw [State.operator, State.operator, h.config .operator rfl]) fun _ => .failIf _ _
  have hprecheck : Ignores S (bulkPrecheck caller (entries.map Prod.fst) nonce) :=
    .bind hrole fun _ => .bind (.failIf _ _) fun _ =>
      .ite (.pure _) (.bind (checkAndAdvance _ _ _) fun _ => .pure _)
  exact .bind hprecheck fun _ => .when <| .forEach
    (fun _ => .bind (.attempt (bulkDepositOne _ _ _)) fun _ => .pure _) _

end Ignores

/-- Charges, deposits, refunds, scheduled payouts and withdrawals from sub-accounts. -/
def VaultCall.isBilling : VaultCall → Bool
  | .depositFunds _ _ _ | .depositFundsOnBehalf _ _ _ _ | .bulkDepositFunds _ _ _
  | .chargeSubscription _ _ | .operatorChargeSubscription _ _ | .batchCharge _ _ _
  | .batchChargeDetailed _ _ _ | .operatorBatchCharge _ _ _ | .chargeUsage _ _
  | .chargeUsageWithReference _ _ _ | .operatorChargeUsage _ _ _
  | .operatorChargeUsageWithRef _ _ _ _ | .chargeOneOff _ _ _ _ | .graceBuyout _ _ _ _
  | .merchantRefund _ _ _ _ | .flushPayouts _ | .withdrawSubAccountFunds _ _ _ _ => true
  | _ => false

/-- None of these calls asks whether a token is accepted. -/
theorem VaultCall.ignores_acceptance (call : VaultCall) (hbilling : call.isBilling = true) :
    Ignores acceptanceSlots call.exec := by
  cases call with
  | depositFunds => exact .guardedCall (.doDepositFunds _ _ _)
  | depositFundsOnBehalf => exact .guardedCall (.doDepositFundsOnBehalf _ _ _ _)
  | bulkDepositFunds => exact .guardedCall (.doBulkDepositFunds _ _ _)
  | chargeSubscription => exact .effectOf (.guardedCall (.chargeOne _ _ _ _))
  | operatorChargeSubscription =>
    exact .effectOf (.guardedCall (.doOperatorChargeSubscription _ _))
  | batchCharge => exact .effectOf (.guardedBatch (.doBatchCharge _ _ _))
  | batchChargeDetailed => exact .effectOf (.guardedBatch (.doBatchChargeDetailed _ _ _))
  | operatorBatchCharge => exact .effectOf (.stoppableCall (.pure _))
  | chargeUsage => exact .effectOf (.guardedCall (.chargeUsageOne _ _ _))
  | chargeUsageWithReference => exact .effectOf (.guardedCall (.chargeUsageOne _ _ _))
  | operatorChargeUsage | operatorChargeUsageWithRef =>
    exact .effectOf (.guardedCall (.doOperatorChargeUsage _ _ _ _))
  | chargeOneOff => exact .guardedCall (.doChargeOneOff _ _ _ _)
  | graceBuyout => exact .effectOf (.guardedCall (.doGraceBuyout _ _ _ _))
  | merchantRefund => exact .withLock (.merchantRefund _ _ _ _)
  | flushPayouts => exact .guardedCall (.doFlushPayouts _)
  | withdrawSubAccountFunds => exact .withLock (.withdrawSubAccountFunds _ _ _ _)
  | _ => cases hbilling

/-! ## Withdrawals of merchants -/

section Withdrawals

variable {env : Env} {s t v : State} {merchant token : Address} {amount : Int}

/-- A withdrawal that has been told whether the token is accepted. -/
private def withdrawalTold (accepted : Bool) (merchant token : Address) (amount : Int) :
    Vault Unit := do
  let env ← ask
  requireAuth merchant
  requireMerchantApproved merchant
  requireMerchantSigners merchant
  requireNotBlocklisted merchant
  failIf (amount ≤ 0) .invalidAmount
  failIf (accepted = false) .invalidInput
  let config ← gets (·.merchantConfig merchant)
  failIf config.isNone .notFound
  let current ← requireMerchantBalance merchant token amount
  let held ← tokenBalance token env.host.contract
  failIf (held < amount) .insufficientBalance
  debitMerchantBalance merchant token current amount
  recordRefund merchant token amount
  subTotalAccounted token amount
  recordWithdrawal merchant token amount
  transfer token env.host.contract merchant amount

private theorem withdrawal_told :
    (withdrawMerchantFundsForToken merchant token amount).run env s =
      (withdrawalTold (s.isTokenAccepted token) merchant token amount).run env s := by
  refine Keeps.run_bind_congr .ask fun _ => ?_
  refine Keeps.run_bind_congr (.bind .ask fun _ => .require _) fun _ => ?_
  refine Keeps.run_bind_congr (.bind (.gets _) fun _ => .failIf _ _) fun _ => ?_
  refine Keeps.run_bind_congr (.bind (.gets _) fun _ =>
    .whenSome fun _ => .forEach (fun _ => .bind .ask fun _ => .require _) _) fun _ => ?_
  refine Keeps.run_bind_congr (.bind (.gets _) fun _ => .failIf _ _) fun _ => ?_
  exact Keeps.run_bind_congr (.failIf _ _) fun _ => rfl

private theorem Ignores.withdrawalTold (accepted : Bool) :
    Ignores acceptanceSlots (withdrawalTold accepted merchant token amount) := by
  have hsigners : Ignores acceptanceSlots (requireMerchantSigners merchant) :=
    .bind (.gets fun _ _ h => h.instanced (.merchantMultiSig merchant) rfl) fun _ =>
      .whenSome fun _ => .forEach (fun _ => Ignores.requireAuth _) _
  have hdebit (current : Int) :
      Ignores acceptanceSlots (debitMerchantBalance merchant token current amount) :=
    .bind (.lift _) fun _ => Ignores.store _
  have hrefund : Ignores acceptanceSlots (recordRefund merchant token amount) :=
    .bind (.gets fun _ _ h => h.tokenEarnings _ _) fun _ => .bind (.lift _) fun _ =>
      Ignores.store _
  refine .bind .ask fun env => .bind (Ignores.requireAuth _) fun _ => ?_
  refine .bind (Ignores.requireMerchantApproved _) fun _ => .bind hsigners fun _ => ?_
  refine .bind (Ignores.requireNotBlocklisted _) fun _ => .bind (.failIf _ _) fun _ => ?_
  refine .bind (.failIf _ _) fun _ => .bind (.gets fun _ _ h => h.merchantConfig _) fun _ => ?_
  refine .bind (.failIf _ _) fun _ => .bind (Ignores.requireMerchantBalance _ _ _) fun _ => ?_
  refine .bind (.gets fun _ _ h => h.balanceOf _ _) fun _ => .bind (.failIf _ _) fun _ => ?_
  refine .bind (hdebit _) fun _ => .bind hrefund fun _ => .bind (.pure _) fun _ => ?_
  exact .bind (Ignores.recordWithdrawal _ _ _) fun _ => Ignores.transfer _ _ _ _

/-- The answer about the token is all that the call takes from the list. -/
private theorem withdrawal_run : (VaultCall.withdrawMerchantTokenFunds merchant token
      amount).exec.run env s = (guardedCall .withdrawMerchantTokenFunds
        (withdrawalTold (s.isTokenAccepted token) merchant token amount)).run env s := by
  have hlocked : State.isTokenAccepted
      (s.write (.lock .withdrawMerchantTokenFunds) true) token = s.isTokenAccepted token := by
    rw [State.isTokenAccepted, State.isTokenAccepted, FiniteStore.read_write_of_ne]
    intro heq
    cases heq
  refine Keeps.run_bind_congr (.bind (.gets _) fun _ => .failIf _ _) fun _ => ?_
  refine Keeps.run_bind_congr (.gets _) fun _ => ?_
  refine Keeps.run_bind_congr (.failIf _ _) fun _ => ?_
  refine Exec.run_bind_congr fun _ t hstore => ?_
  obtain rfl := run_store_ok.mp hstore
  apply run_bind_congr_left
  apply run_attempt_congr
  rw [withdrawal_told, hlocked]

/-- Two withdrawals end alike when both find the token accepted, or neither does. -/
theorem withdrawal_matches (hsame : SameBut acceptanceSlots s v)
    (haccepted : v.isTokenAccepted token = s.isTokenAccepted token) :
    Outcome.Matches (SameBut acceptanceSlots)
      ((VaultCall.withdrawMerchantTokenFunds merchant token amount).exec.run env s)
      ((VaultCall.withdrawMerchantTokenFunds merchant token amount).exec.run env v) := by
  rw [withdrawal_run, withdrawal_run, haccepted]
  exact Ignores.guardedCall (.withdrawalTold _) env s v hsame

theorem withdrawal_refused {u : Unit} (hunaccepted : s.isTokenAccepted token = false) :
    (VaultCall.withdrawMerchantTokenFunds merchant token amount).exec.run env s ≠ .ok u t := by
  intro hrun
  rw [withdrawal_run, hunaccepted] at hrun
  obtain ⟨-, v, hrun, -⟩ := run_withLock_ok.mp (run_guardedCall_ok.mp hrun).2
  obtain ⟨_, -, hrun⟩ := run_check_ok .ask hrun
  obtain ⟨_, -, hrun⟩ := run_check_ok (Modifies.requireAuth _) hrun
  obtain ⟨_, -, hrun⟩ := run_check_ok (.bind (.gets _) fun _ => .failIf _ _) hrun
  obtain ⟨_, -, hrun⟩ := run_check_ok (.bind (.gets _) fun _ => .whenSome fun _ =>
    .forEach (fun _ => Modifies.requireAuth _) _) hrun
  obtain ⟨_, -, hrun⟩ := run_check_ok (.bind (.gets _) fun _ => .failIf _ _) hrun
  obtain ⟨_, -, hrun⟩ := run_check_ok (.failIf _ _) hrun
  obtain ⟨_, hasked, -⟩ := run_check_ok (.failIf _ _) hrun
  exact (run_failIf_ok.mp hasked).1 rfl

end Withdrawals

/-! ## The removal -/

section Removal

variable {env : Env} {s t w : State} {token admin : Address} {u : Unit} {id : Nat}

/-- Executing the proposal for a removal does nothing more than mark it executed. -/
theorem consumed_removal
    (happroves : s.registry.Approves env.now ⟨.removeAcceptedToken, token, none, 0⟩ id)
    (hbefore : w.proposal = s.proposal)
    (hconsume : (consumeMultisigProposal id).run env w = .ok u t) :
    SameBut acceptanceSlots w t := by
  unfold consumeMultisigProposal at hconsume
  split at hconsume
  · obtain ⟨-, rfl⟩ := run_pure_ok.mp hconsume
    exact Std.Refl.refl w
  rename_i hpos
  rcases happroves with ⟨-, hzero⟩ | ⟨-, q, hmatching, -⟩
  · exact absurd hzero hpos
  obtain ⟨hstored, hrequest, -⟩ := Registry.matching_spec hmatching
  have hq : w.proposal id = some q := (congrFun hbefore id).trans hstored
  have hkind : q.kind = .removeAcceptedToken := congrArg Request.kind hrequest
  simp only [doExecuteProposal, ensureProposalNotInvalidated, run_bind_ok, run_ask_ok,
    run_getState_ok, run_okOr_ok, run_failIf_ok, run_store_ok] at hconsume
  obtain ⟨_, _, ⟨rfl, rfl⟩, _, _, ⟨rfl, rfl⟩, p, _, ⟨hp, rfl⟩, _, _,
    ⟨_, _, ⟨rfl, rfl⟩, -, rfl⟩, _, _, ⟨-, rfl⟩, _, _, ⟨-, rfl⟩, _, _,
    ⟨-, rfl⟩, _, _, ⟨-, rfl⟩, _, _, ⟨-, rfl⟩, _, v, happly, rfl⟩ := hconsume
  obtain rfl : q = p := Option.some.inj (hq.symm.trans hp)
  rw [applyProposal, hkind] at happly
  obtain ⟨-, rfl⟩ := run_pure_ok.mp happly
  exact FiniteStore.agreeOff_write _ _ rfl

/-- A removal changes the list and what surrounds it, and the guard has looked at the index. -/
theorem removal_spec (hrun : (removeAcceptedToken admin token).run env s = .ok u t) :
    SameBut acceptanceSlots s t ∧ t.isTokenAccepted token = false ∧
      ∀ id ∈ s.tokenSubs token, ∀ sub, s.subscription id = some sub → sub.isLive = false := by
  obtain ⟨_, -, hrun⟩ := run_check_ok (Modifies.requireAdminAuth _) hrun
  obtain ⟨s', hstate, hrun⟩ := run_check_ok Modifies.getState hrun
  obtain rfl := (run_getState_ok.mp hstate).1
  obtain ⟨_, -, hrun⟩ := run_check_ok (.lift _) hrun
  obtain ⟨_, -, hrun⟩ := run_check_ok (.failIf _ _) hrun
  obtain ⟨_, hidle, hrun⟩ := run_check_ok (.failIf _ _) hrun
  obtain ⟨id, v, happroval, hrun⟩ := run_bind_ok.mp hrun
  obtain ⟨rfl, happroves⟩ := requireMultisigApproval_spec happroval
  obtain ⟨_, w₁, hcooldown, hrun⟩ := run_bind_ok.mp hrun
  obtain ⟨_, w₂, hdecimals, hrun⟩ := run_bind_ok.mp hrun
  obtain ⟨_, w₃, hlist, hconsume⟩ := run_bind_ok.mp hrun
  have h₁ : SameBut acceptanceSlots v w₁ :=
    Exec.Keeps.ok (Modifies.enforceConfigCooldown (S := acceptanceSlots) rfl) hcooldown
  have h₂ : SameBut acceptanceSlots w₁ w₂ :=
    Exec.Keeps.ok (Modifies.delete (S := acceptanceSlots) rfl) hdecimals
  have h₃ : SameBut acceptanceSlots w₂ w₃ :=
    Exec.Keeps.ok (Modifies.store (S := acceptanceSlots) rfl) hlist
  have hproposals : w₃.proposal = v.proposal := by
    have h₁ : FiniteStore.AgreeOff registryFree v w₁ :=
      Exec.Keeps.ok (Modifies.enforceConfigCooldown (S := registryFree) rfl) hcooldown
    have h₂ : FiniteStore.AgreeOff registryFree w₁ w₂ :=
      Exec.Keeps.ok (Modifies.delete (S := registryFree) rfl) hdecimals
    have h₃ : FiniteStore.AgreeOff registryFree w₂ w₃ :=
      Exec.Keeps.ok (Modifies.store (S := registryFree) rfl) hlist
    exact congrArg Registry.proposals (registry_of_agreeOff ((h₁.trans h₂).trans h₃))
  refine ⟨((h₁.trans h₂).trans h₃).trans (consumed_removal happroves hproposals hconsume), ?_, ?_⟩
  · have haccepted : t.isTokenAccepted = w₃.isTokenAccepted :=
      State.isTokenAccepted_of_tokenFree ((consumeMultisigProposal_tokenFree id).ok hconsume)
    obtain rfl := run_delete_ok.mp hdecimals
    obtain rfl := run_store_ok.mp hlist
    rw [haccepted]
    simp [State.isTokenAccepted]
  · intro j hj sub hsub
    have hnone := Bool.eq_false_iff.mpr (run_failIf_ok.mp hidle).1
    have hfound := Bool.eq_false_iff.mpr (List.any_eq_false.mp hnone j hj)
    rwa [hsub, Option.any_some] at hfound

end Removal

/-! ## What the guard sees -/

section Listed

variable {env : Env} {s t : State} {b' : Book} {op : Operation} {id : Nat}

/-- But for creations, a token's list changes only when a subscription is cancelled by hand. -/
theorem Operation.Changes.tokenSubs (h : op.Changes env s b') (hcreate : op ≠ .create) :
    b'.tokenSubs = s.book.tokenSubs ∨ ∃ j, ∃ sub : Subscription, op = .cancel j ∧
      (b'.record j).map (·.status) = some .cancelled ∧
      b'.tokenSubs = Function.update s.book.tokenSubs sub.token
        ((s.book.tokenSubs sub.token).erase j) := by
  cases op with
  | create => exact absurd rfl hcreate
  | cancel j =>
    obtain ⟨sub, -, -, -, hbook⟩ := h
    refine .inr ⟨j, sub, rfl, ?_, ?_⟩
    · have hrecord : b'.record j = some { sub with status := .cancelled, prepaidBalance := 0 } := by
        rw [hbook]
        exact Function.update_self _ _ _
      rw [hrecord]
      rfl
    · rw [hbook]
      split <;> rfl
  | deposit j =>
    rcases h with ⟨_, _, -, -, rfl⟩ | ⟨_, _, -, -, -, rfl⟩ <;> exact .inl rfl
  | charge j =>
    cases h with
    | booked hbooks =>
      obtain ⟨_, _, _, -, -, -, rfl | rfl⟩ := hbooks <;> exact .inl rfl
    | _ => exact .inl rfl
  | chargeUsage j amount => cases h <;> exact .inl rfl
  | buyOut j =>
    obtain ⟨_, _, -, -, -, -, -, rfl⟩ := h
    exact .inl rfl
  | pause j =>
    obtain ⟨_, -, -, -, rfl⟩ := h
    exact .inl rfl
  | resume j =>
    rcases h with ⟨_, -, -, rfl⟩ | ⟨_, _, -, -, -, rfl⟩ <;> exact .inl rfl
  | edit j =>
    obtain ⟨_, _, -, -, rfl⟩ := h
    exact .inl rfl
  | archive j =>
    obtain ⟨_, -, -, -, rfl⟩ := h
    exact .inl rfl
  | replan j planId =>
    obtain ⟨_, -, _, -, rfl⟩ := h
    exact .inl rfl
  | transfer j «to» =>
    obtain ⟨sub, -, hbook⟩ := h
    rw [hbook]
    dsimp only
    split <;> exact .inl rfl
  | unblock =>
    have hresumes : ResumesRecords s.book b' := h
    refine .inl ?_
    clear h
    generalize s.book = b at hresumes
    induction hresumes with
    | done => rfl
    | next hfirst _ ih =>
      obtain ⟨_, -, -, rfl⟩ := hfirst
      exact ih
  | rotate oldMerchant newMerchant =>
    rw [show b' = s.book.rotated oldMerchant newMerchant from h]
    exact .inl rfl
  | restore summaries =>
    rw [h.1, s.book.restored_rest summaries]
    exact .inl rfl
  | renumber =>
    have hbook : b' = { s.book with nextId := b'.nextId, schemaVersion := b'.schemaVersion } := h.1
    rw [hbook]
    exact .inl rfl
  | other => exact h.elim

/-- A subscription that has not come to its end is listed under its token. -/
def State.ListedAt (s : State) (id : Nat) : Prop :=
  ∀ sub, s.subscription id = some sub → sub.status.isTerminal = false →
    id ∈ s.tokenSubs sub.token

/-- The operation puts back the record of `id` from a snapshot. -/
def Operation.restores (id : Nat) : Operation → Prop
  | .restore summaries => ∃ summary ∈ summaries, summary.subscriptionId = id
  | _ => False

theorem Rewrites.spares {sub new : Subscription} (h : Rewrites env s id op sub new) :
    op.Spares s id := by
  cases h with
  | edited hop | revived hop | resumed hop => rcases hop with rfl | rfl <;> trivial
  | halted hop => rcases hop with rfl | ⟨_, rfl⟩ <;> trivial
  | _ => trivial

/-- What is listed stays listed, until it is cancelled by hand. -/
theorem Operation.Changes.keepsListed (h : op.Changes env s b') (hcreate : op ≠ .create)
    {new : Subscription} (hnew : b'.record id = some new) (hlive : new.status.isTerminal = false)
    (hmem : id ∈ s.tokenSubs new.token) : id ∈ b'.tokenSubs new.token := by
  rcases h.tokenSubs hcreate with hsame | ⟨j, sub, -, hcancelled, hlist⟩
  · rw [hsame]
    exact hmem
  · have hother : id ≠ j := by
      rintro rfl
      rw [hnew, Option.map_some] at hcancelled
      rw [Option.some.inj hcancelled] at hlive
      cases hlive
    rw [hlist]
    by_cases htoken : new.token = sub.token
    · rw [htoken, Function.update_self]
      rw [htoken] at hmem
      exact (List.mem_erase_of_ne hother).mpr hmem
    · rw [Function.update_of_ne htoken]
      exact hmem

theorem CreatesRecord.listed (h : CreatesRecord env s.book b') (hs : s.ListedAt id)
    {new : Subscription} (hnew : b'.record id = some new)
    (hlive : new.status.isTerminal = false) : id ∈ b'.tokenSubs new.token := by
  obtain ⟨sub, -, -, -, -, -, hbook, -⟩ := h
  have hlist : b'.tokenSubs = Function.update s.book.tokenSubs sub.token
      (s.book.tokenSubs sub.token ++ [s.book.nextId]) := by
    rw [hbook]
    rfl
  have hrecord : b'.record = Function.update s.book.record s.book.nextId (some sub) := by
    rw [hbook]
    rfl
  rw [hlist]
  rw [hrecord] at hnew
  by_cases hid : id = s.book.nextId
  · subst hid
    rw [Function.update_self] at hnew
    obtain rfl := Option.some.inj hnew
    rw [Function.update_self]
    exact List.mem_append_right _ (List.mem_singleton_self _)
  · rw [Function.update_of_ne hid] at hnew
    have hmem : id ∈ s.book.tokenSubs new.token := hs new hnew hlive
    by_cases htoken : new.token = sub.token
    · rw [htoken, Function.update_self]
      rw [htoken] at hmem
      exact List.mem_append_left _ hmem
    · rwa [Function.update_of_ne htoken]

theorem VaultStep.listedAt {l : VaultAction} (h : VaultStep l s t)
    (hop : ¬l.operation.restores id) (hs : s.ListedAt id) : t.ListedAt id := by
  intro new hnew hlive
  rcases h.changes with hsame | hchanges
  · have hlists : t.tokenSubs = s.tokenSubs := congrArg Book.tokenSubs hsame
    have hrecord : t.subscription id = s.subscription id := congrFun (congrArg Book.record hsame) id
    rw [hlists]
    exact hs new (hrecord.symm.trans hnew) hlive
  by_cases hcreate : l.operation = .create
  · rw [hcreate] at hchanges
    exact CreatesRecord.listed hchanges hs hnew hlive
  refine hchanges.keepsListed hcreate hnew hlive ?_
  have hrecord := hchanges.at_record id
  generalize hl : l.operation = op at hrecord hcreate hop
  cases hrecord with
  | kept hkept => exact hs new (hkept.symm.trans hnew) hlive
  | @rewritten _ sub after hreads hrewrites hafter =>
    obtain rfl : after = new := Option.some.inj (hafter.symm.trans hnew)
    obtain ⟨stored, hstored, -, htoken, -⟩ := hreads.parties
    rw [hrewrites.token, ← htoken]
    refine hs stored hstored (Bool.eq_false_iff.mpr fun hterminal => ?_)
    obtain ⟨ended, hended, hfinal, -⟩ :=
      finished_of_step ⟨stored, hstored, hterminal, .inl rfl, rfl⟩ h (hl ▸ hrewrites.spares)
    obtain rfl := Option.some.inj (hended.symm.trans hnew)
    rw [hfinal] at hlive
    cases hlive
  | created => exact absurd rfl hcreate
  | restored hmem hid _ => exact absurd ⟨_, hmem, hid⟩ hop

/-- The call puts back the record of `id` from a snapshot. -/
def Transaction.restores (id : Nat) : Transaction → Prop
  | .call _ (.restoreSnapshotPage _ summaries _) => ∃ summary ∈ summaries,
    summary.subscriptionId = id
  | _ => False

theorem Transacts.listedAt {l : Transaction} (h : Transacts l s t) (hl : ¬l.restores id)
    (hs : s.ListedAt id) : t.ListedAt id := by
  refine h.invariant_of (Q := fun op => ¬op.restores id) (fun _ _ _ hstep hop hlisted =>
    hstep.listedAt hop hlisted) not_false (fun item => ?_) (fun env call heq => ?_) hs
  · cases item <;> exact not_false
  · subst heq
    cases call
    case restoreSnapshotPage => exact hl
    all_goals exact not_false

theorem listedAt_of_run {start : State} {hist : History Transaction State}
    (hdeployed : Deployed start) (hrun : Run Transacts start hist s)
    (hkept : ∀ step ∈ hist, ¬step.1.restores id) : s.ListedAt id := by
  induction hrun with
  | start =>
    intro sub hsub
    have hnone : start.book.record id = some sub := hsub
    rw [hdeployed.book] at hnone
    cases hnone
  | next _ hlast ih =>
    exact hlast.listedAt (hkept _ List.mem_cons_self)
      (ih fun step hmem => hkept step (List.mem_cons_of_mem _ hmem))

end Listed

/-! ## Removals in a run -/

section Runs

variable {start s t : State} {hist : History Transaction State} {env : Env}
  {admin token : Address}

/-- What a removal of the token from the list leaves, when it turns `s` into `t`. -/
structure RemovalLeaves (hist : History Transaction State) (s t : State) (token : Address) :
    Prop where
  /-- Records and balances are as they were. -/
  others : SameBut acceptanceSlots s t
  /-- No subscription is active or in grace, unless a snapshot put it in place. -/
  idle : ∀ id sub, t.subscription id = some sub → sub.token = token →
    (∀ step ∈ hist, ¬step.1.restores id) → sub.status ≠ .active ∧ sub.status ≠ .gracePeriod
  /-- Charges, deposits, refunds, scheduled payouts and sub-accounts go on. -/
  billed : ∀ env (call : VaultCall), call.isBilling = true →
    Outcome.Matches (SameBut acceptanceSlots) (call.exec.run env s) (call.exec.run env t)
  refused : ∀ env merchant amount v,
    (VaultCall.withdrawMerchantTokenFunds merchant token amount).exec.run env t ≠ .ok () v
  /-- Withdrawals are as before once the token is accepted again. -/
  readmitted : ∀ env merchant amount v, SameBut acceptanceSlots t v →
    v.isTokenAccepted token = s.isTokenAccepted token → Outcome.Matches (SameBut acceptanceSlots)
      ((VaultCall.withdrawMerchantTokenFunds merchant token amount).exec.run env s)
      ((VaultCall.withdrawMerchantTokenFunds merchant token amount).exec.run env v)

/-- Token 10 is accepted besides the first, and the subscriber has some of it. -/
private def secondToken : List (Env × Vault Unit) :=
  [(sampleEnv 0 [⟨8⟩], (AdminCall.addAcceptedToken ⟨8⟩ ⟨10⟩ 7).exec),
   (sampleEnv 0 [], mint ⟨10⟩ ⟨2⟩ 1000)] ++ sampleVault 0

private theorem secondToken_run : Run Transacts (sampleStart 0)
    [(.other (sampleEnv 0 []), afterCalls (sampleVault 0)),
      (.other (sampleEnv 0 []), sampleStart 0)] (afterCalls secondToken) := by
  have hminted : FiniteStore.AgreeOff (areas [.tokens]) _ _ :=
    (mint_areas ⟨10⟩ ⟨2⟩ 1000).after (sampleEnv 0 []) (afterCalls (sampleVault 0))
  have hadded : FiniteStore.AgreeOff (areas [.settings]) _ (afterCalls secondToken) :=
    (addAcceptedToken_areas ⟨8⟩ ⟨10⟩ 7).after (sampleEnv 0 [⟨8⟩])
      (afterCalls ((sampleEnv 0 [], mint ⟨10⟩ ⟨2⟩ 1000) :: sampleVault 0))
  exact (sample_transacted 0).next (.other ((hminted.mono (areas_mono rfl)).trans
    (hadded.mono (areas_mono rfl))))

/-- A subscription in token 10 is charged once and then paused. -/
private def pausedCalls : List (Env × VaultCall) :=
  [(sampleEnv 61 [⟨2⟩], .pauseSubscription 0 ⟨2⟩),
   (sampleEnv 60 [], .chargeSubscription 0 none),
   (sampleEnv 0 [⟨2⟩], .depositFunds 0 50 none),
   (sampleEnv 0 [⟨2⟩], .createSubscriptionWithToken { sampleRequest with token := ⟨10⟩ })]

private def pausedVault : State := stateAfter (afterCalls secondToken) pausedCalls

private theorem pausedVault_run : Run Transacts (sampleStart 0)
    (transactionHistory (afterCalls secondToken) pausedCalls ++
      [(.other (sampleEnv 0 []), afterCalls (sampleVault 0)),
        (.other (sampleEnv 0 []), sampleStart 0)]) pausedVault :=
  run_transactions secondToken_run (by decide +kernel)

private def removedVault : State :=
  (AdminCall.removeAcceptedToken ⟨8⟩ ⟨10⟩).exec.after (sampleEnv 100 [⟨8⟩]) pausedVault

private theorem removedVault_run : (AdminCall.removeAcceptedToken ⟨8⟩ ⟨10⟩).exec.run
    (sampleEnv 100 [⟨8⟩]) pausedVault = .ok () removedVault :=
  run_eq_after (by decide +kernel)

end Runs

end SubscriptionVault
