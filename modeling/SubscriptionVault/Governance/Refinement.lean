import SubscriptionVault.Governance.Registry

/-!
# Entrypoints refine their registry effects

One lemma per contract function says what a successful run does to the registry; together they
give `adminCall_effect`.
-/

namespace SubscriptionVault

open Exec

variable {r : Env} {s t : State}

/-- Code that writes none of the registry's slots leaves the registry as it was. -/
theorem Modifies.registry {α : Type} {x : Vault α} {a : α} (h : Modifies registryFree x)
    (hrun : x.run r s = .ok a t) : t.registry = s.registry :=
  registry_of_agreeOff (h.ok hrun)

theorem admin_of_registry {u : State} (h : t.registry = u.registry) : t.admin = u.admin :=
  congrArg Registry.admin h

/-! ## Approval and execution -/

theorem requireMultisigApproval_spec {request : Request} {id : Nat}
    (hrun : (requireMultisigApproval request).run r s = .ok id t) :
    t = s ∧ s.registry.Approves r.now request id := by
  simp only [requireMultisigApproval, run_bind_ok, run_ask_ok, run_getState_ok] at hrun
  obtain ⟨_, _, ⟨rfl, rfl⟩, _, _, ⟨rfl, rfl⟩, hrun⟩ := hrun
  split at hrun
  · rename_i hnone
    obtain ⟨rfl, rfl⟩ := run_pure_ok.mp hrun
    exact ⟨rfl, .inl ⟨hnone, rfl⟩⟩
  · rename_i hsome
    simp only [run_bind_ok, run_okOr_ok, run_failIf_ok, run_pure_ok, not_lt] at hrun
    obtain ⟨found, _, ⟨hfound, rfl⟩, _, _, ⟨hdue, rfl⟩, _, _, ⟨htally, rfl⟩, rfl, rfl⟩ := hrun
    exact ⟨rfl, .inr ⟨hsome, found.2, hfound, hdue, htally⟩⟩

theorem invalidatePendingProposals_spec {u : Unit}
    (hrun : invalidatePendingProposals.run r s = .ok u t) :
    t.registry = { s.registry with cutoff := s.registry.nextProposalId } := by
  simp only [invalidatePendingProposals, run_bind_ok, run_getState_ok, run_store_ok] at hrun
  obtain ⟨_, _, ⟨rfl, rfl⟩, rfl⟩ := hrun
  exact registry_write_proposalCutoff s _

/-- Writing the admin and invalidating the pending proposals rotates the registry. -/
theorem rotated_of_writeConfig {admin : Address} {u : Unit}
    (hrun : invalidatePendingProposals.run r (s.writeConfig .admin admin) = .ok u t) :
    ∃ written, Registry.AdminWritten s.admin admin written ∧
      t.registry = s.registry.rotated written := by
  obtain ⟨written, hwritten, hregistry⟩ := registry_writeConfig_admin s admin
  refine ⟨written, hwritten, ?_⟩
  rw [invalidatePendingProposals_spec hrun, hregistry]
  rfl

private theorem modifies_applyProposal {p : Proposal} (hkind : p.kind ≠ .rotateAdmin) :
    Modifies registryFree (applyProposal p) := by
  unfold applyProposal
  split
  · exact absurd ‹_› hkind
  · exact .bind (Modifies.writeConfig rfl rfl) fun _ =>
      .whenSome fun _ => Modifies.writeConfig rfl rfl
  · exact .fail _
  · exact Modifies.writeConfig rfl rfl
  · exact .pure _
  · exact .pure _
  · exact .pure _
  · exact .bind (.failIf _ _) fun _ => Modifies.writeConfig rfl rfl
  · exact .bind Modifies.getState fun _ => Modifies.writeConfig rfl rfl

theorem applyProposal_spec {p : Proposal} {u : Unit}
    (hrun : (applyProposal p).run r s = .ok u t) :
    (p.kind = .rotateAdmin ∧ ∃ admin, Registry.AdminWritten s.admin p.target admin ∧
      t.registry = s.registry.rotated admin) ∨
    (p.kind ≠ .rotateAdmin ∧ t.registry = s.registry) := by
  by_cases hkind : p.kind = .rotateAdmin
  · simp only [applyProposal, hkind, run_bind_ok, run_writeConfig_ok] at hrun
    obtain ⟨_, _, rfl, hrun⟩ := hrun
    exact .inl ⟨hkind, rotated_of_writeConfig hrun⟩
  · exact .inr ⟨hkind, (modifies_applyProposal hkind).registry hrun⟩

theorem doExecuteProposal_spec {id : Nat} {u : Unit}
    (hrun : (doExecuteProposal id).run r s = .ok u t) :
    s.registry.Executes r.now id t.registry := by
  simp only [doExecuteProposal, ensureProposalNotInvalidated, run_bind_ok, run_ask_ok,
    run_getState_ok, run_okOr_ok, run_failIf_ok, run_store_ok, checkedAddU64_eq_some,
    not_lt] at hrun
  obtain ⟨_, _, ⟨rfl, rfl⟩, _, _, ⟨rfl, rfl⟩, p, _, ⟨hstored, rfl⟩, _, _,
    ⟨_, _, ⟨rfl, rfl⟩, hvalid, rfl⟩, _, _, ⟨hfresh, rfl⟩, _, _, ⟨⟨rfl, -⟩, rfl⟩, _, _,
    ⟨hdelayed, rfl⟩, _, _, ⟨hdue, rfl⟩, _, _, ⟨hquorum, rfl⟩, _, u', happly, rfl⟩ := hrun
  refine ⟨p, ⟨hstored, hvalid, by simpa using hfresh, hdelayed, hdue, hquorum⟩, ?_⟩
  rw [registry_write_proposal]
  rcases applyProposal_spec happly with ⟨hkind, admin, hadmin, heq⟩ | ⟨hkind, heq⟩
  · exact .inl ⟨hkind, admin, hadmin, by rw [heq]⟩
  · exact .inr ⟨hkind, by rw [heq]⟩

theorem consumeMultisigProposal_spec {id : Nat} {u : Unit}
    (hrun : (consumeMultisigProposal id).run r s = .ok u t) :
    s.registry.Consumes r.now id t.registry := by
  unfold consumeMultisigProposal at hrun
  split at hrun
  · rename_i hzero
    obtain ⟨-, rfl⟩ := run_pure_ok.mp hrun
    exact .inl ⟨hzero, rfl⟩
  · rename_i hpos
    exact .inr ⟨hpos, doExecuteProposal_spec hrun⟩

/-! ## Governance -/

theorem run_getNextProposalId_ok {id : Nat} :
    getNextProposalId.run r s = .ok id t ↔
      s.currentProposalId = id ∧
        s.write (.instanced .nextProposalId) ((s.currentProposalId + 1) % (u64Max + 1)) = t := by
  simp [getNextProposalId, and_comm]

theorem doSubmitProposal_spec {request : Request} {quorumBps eta id : Nat}
    (hrun : (doSubmitProposal request quorumBps eta).run r s = .ok id t) :
    (AdminCall.submitProposal request quorumBps eta).Effect r s t.registry := by
  simp only [doSubmitProposal, run_bind_ok, run_ask_ok, run_failIf_ok, run_lift_ok,
    run_okOr_ok, run_getNextProposalId_ok, run_store_ok, run_pure_ok, checkedAddU64_eq_some,
    not_lt] at hrun
  obtain ⟨_, _, ⟨rfl, rfl⟩, _, _, ⟨hquorum, rfl⟩, _, _, ⟨-, rfl⟩, _, _, ⟨-, rfl⟩, _, _,
    ⟨⟨rfl, -⟩, rfl⟩, _, _, ⟨heta, rfl⟩, _, _, ⟨rfl, rfl⟩, _, _, rfl, rfl, rfl⟩ := hrun
  refine ⟨hquorum, heta, ?_⟩
  rw [registry_write_proposal, registry_write_nextProposalId]

theorem doVoteProposal_spec {id nonce : Nat} {votedYes : Bool} {u : Unit}
    (hrun : (doVoteProposal id votedYes nonce).run r s = .ok u t) :
    (AdminCall.voteProposal id votedYes nonce).Effect r s t.registry := by
  simp only [doVoteProposal, ensureProposalNotInvalidated, run_bind_ok, run_ask_ok,
    run_requireStoredAdminAuth_ok, run_getState_ok, run_failIf_ok, run_okOr_ok, run_store_ok,
    not_le, not_lt] at hrun
  obtain ⟨_, _, ⟨rfl, rfl⟩, guardian, _, ⟨hauth, rfl⟩, _, _, ⟨rfl, rfl⟩, _, _,
    ⟨hweight, rfl⟩, p, _, ⟨hstored, rfl⟩, _, _, ⟨_, _, ⟨rfl, rfl⟩, hvalid, rfl⟩, _, _,
    ⟨hfresh, rfl⟩, _, _, ⟨hopen, rfl⟩, _, u', hnonce, rfl⟩ := hrun
  refine ⟨guardian, p, hauth, hweight, hstored, hvalid, by simpa using hfresh, hopen, ?_⟩
  rw [registry_write_proposal,
    (Modifies.checkAndAdvance (S := registryFree) rfl).registry hnonce]

theorem doCancelProposal_spec {id : Nat} {u : Unit}
    (hrun : (doCancelProposal id).run r s = .ok u t) :
    (AdminCall.cancelProposal id).Effect r s t.registry := by
  simp only [doCancelProposal, run_bind_ok, run_requireStoredAdminAuth_ok, run_getState_ok,
    run_okOr_ok, run_failIf_ok, run_store_ok] at hrun
  obtain ⟨admin, _, ⟨hauth, rfl⟩, _, _, ⟨rfl, rfl⟩, p, _, ⟨hstored, rfl⟩, _, _,
    ⟨hfresh, rfl⟩, rfl⟩ := hrun
  exact ⟨admin, p, hauth, hstored, by simpa using hfresh, registry_write_proposal s id _⟩

/-! ## Admin rotation -/

theorem doInit_spec {token admin : Address} {tokenDecimals gracePeriod : Nat} {minTopup : Int}
    {u : Unit} (hrun : (doInit token tokenDecimals admin minTopup gracePeriod).run r s = .ok u t) :
    (AdminCall.init token tokenDecimals admin minTopup gracePeriod).Effect r s t.registry := by
  simp only [doInit, run_bind_ok, run_ask_ok, run_getState_ok, run_failIf_ok, run_store_ok,
    run_writeConfig_ok] at hrun
  obtain ⟨_, _, ⟨rfl, rfl⟩, _, _, ⟨rfl, rfl⟩, _, _, ⟨hfresh, rfl⟩, _, _, ⟨-, rfl⟩, _, _,
    ⟨-, rfl⟩, _, _, ⟨-, rfl⟩, _, u₁, hversion, _, u₂, htoken, _, u₃, hdecimals, _, u₄, htokens,
    _, u₅, hadmin, _, u₆, htopup, hgrace⟩ := hrun
  have hnone : s.admin = none := Option.not_isSome_iff_eq_none.mp fun h => hfresh (.inr h)
  have hversion₄ : 3 ≤ u₄.schemaVersion := by
    subst htokens hdecimals htoken hversion
    simp [State.writeConfig, State.schemaVersion, storageVersion]
  have h₁ : u₁.registry = { s.registry with admin := u₁.admin } := by
    rw [← hversion]
    exact registry_write_schemaVersion s storageVersion
  have h₄ : u₄.registry = u₁.registry := by
    have h₂ : FiniteStore.AgreeOff registryFree u₁ u₂ :=
      htoken ▸ u₁.agreeOff_writeConfig .token token rfl rfl
    have h₃ : FiniteStore.AgreeOff registryFree u₂ u₃ :=
      hdecimals ▸ FiniteStore.agreeOff_write u₂ _ rfl
    have h₄ : FiniteStore.AgreeOff registryFree u₃ u₄ :=
      htokens ▸ FiniteStore.agreeOff_write u₃ _ rfl
    exact registry_of_agreeOff ((h₂.trans h₃).trans h₄)
  have h₅ : u₅.registry = { s.registry with admin := some admin } := by
    rw [← hadmin, registry_writeConfig_admin_of_le u₄ admin hversion₄, h₄, h₁]
  have h₆ : FiniteStore.AgreeOff registryFree u₅ u₆ :=
    htopup ▸ u₅.agreeOff_writeConfig .minTopup minTopup rfl rfl
  have h₇ : FiniteStore.AgreeOff registryFree u₆ t :=
    hgrace ▸ u₆.agreeOff_writeConfig .gracePeriod gracePeriod rfl rfl
  exact ⟨hnone, (registry_of_agreeOff (h₆.trans h₇)).trans h₅⟩

theorem doRotateAdmin_spec {currentAdmin newAdmin : Address} {nonce : Nat} {u : Unit}
    (hrun : (doRotateAdmin currentAdmin newAdmin nonce).run r s = .ok u t) :
    (AdminCall.rotateAdmin currentAdmin newAdmin nonce).Effect r s t.registry := by
  simp only [doRotateAdmin, run_bind_ok, run_ask_ok, run_requireAdminAuth_ok, run_failIf_ok,
    run_writeConfig_ok] at hrun
  obtain ⟨_, _, ⟨rfl, rfl⟩, _, _, ⟨hauth, rfl⟩, _, u₁, hnonce, _, _, ⟨-, rfl⟩, _, _,
    ⟨-, rfl⟩, id, u₂, happroval, _, u₃, hcooldown, _, _, rfl, _, u₄, hinvalidate,
    hconsume⟩ := hrun
  obtain ⟨rfl, happroves⟩ := requireMultisigApproval_spec happroval
  have h₁ := (Modifies.checkAndAdvance (S := registryFree) rfl).registry hnonce
  have h₃ := (Modifies.enforceConfigCooldown (S := registryFree) rfl).registry hcooldown
  obtain ⟨admin, hadmin, h₄⟩ := rotated_of_writeConfig hinvalidate
  rw [admin_of_registry h₃, admin_of_registry h₁] at hadmin
  have hconsumed := consumeMultisigProposal_spec hconsume
  rw [h₄, h₃, h₁] at hconsumed
  exact ⟨hauth, id, admin, by rwa [h₁] at happroves, hadmin, hconsumed⟩

theorem doProposeAdmin_spec {currentAdmin newAdmin : Address} {u : Unit}
    (hrun : (doProposeAdmin currentAdmin newAdmin).run r s = .ok u t) :
    (AdminCall.proposeAdmin currentAdmin newAdmin).Effect r s t.registry := by
  simp only [doProposeAdmin, run_bind_ok, run_ask_ok, run_requireAuth_ok, run_requireAdmin_ok,
    run_failIf_ok, run_getState_ok, run_store_ok, not_not] at hrun
  obtain ⟨_, _, ⟨rfl, rfl⟩, _, _, ⟨hauth, rfl⟩, _, _, ⟨hstored, rfl⟩, _, _, ⟨rfl, rfl⟩, _, _,
    ⟨-, rfl⟩, _, _, ⟨rfl, rfl⟩, _, _, ⟨-, rfl⟩, rfl⟩ := hrun
  exact ⟨⟨hstored, hauth⟩, registry_write_adminProposal s _⟩

theorem doClaimAdminRole_spec {claimant : Address} {u : Unit}
    (hrun : (doClaimAdminRole claimant).run r s = .ok u t) :
    (AdminCall.claimAdminRole claimant).Effect r s t.registry := by
  simp only [doClaimAdminRole, run_bind_ok, run_ask_ok, run_requireAuth_ok, run_getState_ok,
    run_okOr_ok, run_failIf_ok, run_when_ok, run_fail_ok, run_requireAdmin_ok, run_delete_ok,
    run_writeConfig_ok, and_false, exists_false, false_or, not_not, not_lt] at hrun
  obtain ⟨_, _, ⟨rfl, rfl⟩, _, _, ⟨hauth, rfl⟩, _, _, ⟨rfl, rfl⟩, proposal, _,
    ⟨hproposal, rfl⟩, _, _, ⟨hclaimant, rfl⟩, _, _, ⟨hcooldown, rfl⟩, _, _, ⟨hopen, rfl⟩, _, _,
    ⟨-, rfl⟩, _, _, rfl, _, _, rfl, hinvalidate⟩ := hrun
  obtain ⟨admin, hadmin, heq⟩ := rotated_of_writeConfig hinvalidate
  rw [registry_remove_adminProposal] at heq
  have hsame : State.admin (s.remove (.symbol .adminProposal)) = s.admin := by
    simp [State.admin, configSlots]
  rw [hsame] at hadmin
  exact ⟨hauth.1, proposal, admin, hproposal, hclaimant.symm, hcooldown, hopen, hadmin, heq⟩

theorem doCancelAdminProposal_spec {admin : Address} {u : Unit}
    (hrun : (doCancelAdminProposal admin).run r s = .ok u t) :
    (AdminCall.cancelAdminProposal admin).Effect r s t.registry := by
  simp only [doCancelAdminProposal, run_bind_ok, run_requireAuth_ok, run_requireAdmin_ok,
    run_failIf_ok, run_getState_ok, run_delete_ok, not_not] at hrun
  obtain ⟨_, _, ⟨hauth, rfl⟩, _, _, ⟨hstored, rfl⟩, _, _, ⟨rfl, rfl⟩, _, _, ⟨rfl, rfl⟩, _, _,
    ⟨-, rfl⟩, rfl⟩ := hrun
  exact ⟨⟨hstored, hauth⟩, registry_remove_adminProposal s⟩

/-! ## Calls that only ask for approval -/

/-- Around approval and consumption these entrypoints leave the registry alone. -/
private theorem gated_of_parts {admin : Address} {request : Request} {id : Nat} {u : Unit}
    {v w x : State} (hauth : s.AdminAuth r admin)
    (happroval : (requireMultisigApproval request).run r s = .ok id v)
    (hbefore : w.registry = s.registry)
    (hconsume : (consumeMultisigProposal id).run r w = .ok u x)
    (hafter : t.registry = x.registry) : Gated r s admin request t.registry := by
  have hconsumed := consumeMultisigProposal_spec hconsume
  rw [hbefore] at hconsumed
  exact ⟨hauth, id, (requireMultisigApproval_spec happroval).2, hafter ▸ hconsumed⟩

theorem doRecoverStrandedFunds_spec {admin token recipient : Address} {amount : Int}
    {recoveryId : Bytes} {u : Unit}
    (hrun : (doRecoverStrandedFunds admin token recipient amount recoveryId).run r s =
      .ok u t) :
    Gated r s admin ⟨.recoverStrandedFunds, recipient, some token, amountU32 amount⟩
      t.registry := by
  simp only [doRecoverStrandedFunds, run_bind_ok, run_ask_ok, run_requireAdminAuth_ok,
    run_failIf_ok, run_load_ok, run_tokenBalance_ok, run_getState_ok, run_lift_ok,
    run_store_ok] at hrun
  obtain ⟨_, _, ⟨rfl, rfl⟩, _, _, ⟨hauth, rfl⟩, _, _, ⟨-, rfl⟩, id, v, happroval, _, _,
    ⟨-, rfl⟩, _, _, ⟨-, rfl⟩, _, _, ⟨-, rfl⟩, _, _, ⟨-, rfl⟩, _, _, ⟨-, rfl⟩, _, _, ⟨-, rfl⟩,
    _, _, rfl, _, x, hconsume, htransfer⟩ := hrun
  obtain ⟨rfl, -⟩ := requireMultisigApproval_spec happroval
  exact gated_of_parts hauth happroval
    (registry_of_agreeOff (FiniteStore.agreeOff_write _ _ rfl)) hconsume
    ((Modifies.transfer (S := registryFree) rfl rfl).registry htransfer)

theorem queueTreasuryChange_spec {admin treasury : Address} {feeBps : Nat} {u : Unit}
    (hrun : (queueTreasuryChange admin treasury feeBps).run r s = .ok u t) :
    Gated r s admin ⟨.setProtocolFee, treasury, none, feeBps⟩ t.registry := by
  simp only [queueTreasuryChange, run_bind_ok, run_ask_ok, run_requireAdminAuth_ok,
    run_failIf_ok, run_load_ok, run_store_ok, run_writeConfig_ok] at hrun
  obtain ⟨_, _, ⟨rfl, rfl⟩, _, _, ⟨hauth, rfl⟩, _, _, ⟨-, rfl⟩, _, _, ⟨-, rfl⟩, _, _,
    ⟨-, rfl⟩, id, v, happroval, _, w₁, hpending, _, w₂, hcooldown, _, w₃, hfee, _, w₄,
    htreasury, hconsume⟩ := hrun
  obtain ⟨rfl, -⟩ := requireMultisigApproval_spec happroval
  refine gated_of_parts hauth happroval (registry_of_agreeOff ?_) hconsume rfl
  have h₁ : FiniteStore.AgreeOff registryFree v w₁ :=
    hpending ▸ FiniteStore.agreeOff_write v _ rfl
  have h₂ : FiniteStore.AgreeOff registryFree w₁ w₂ :=
    (Modifies.enforceConfigCooldown (S := registryFree) rfl).ok hcooldown
  have h₃ : FiniteStore.AgreeOff registryFree w₂ w₃ :=
    hfee ▸ w₂.agreeOff_writeConfig .feeBps feeBps rfl rfl
  have h₄ : FiniteStore.AgreeOff registryFree w₃ w₄ :=
    htreasury ▸ w₃.agreeOff_writeConfig .treasury treasury rfl rfl
  exact ((h₁.trans h₂).trans h₃).trans h₄

theorem addAcceptedToken_spec {admin token : Address} {decimals : Nat} {u : Unit}
    (hrun : (addAcceptedToken admin token decimals).run r s = .ok u t) :
    Gated r s admin ⟨.addAcceptedToken, token, none, decimals⟩ t.registry := by
  simp only [addAcceptedToken, run_bind_ok, run_requireAdminAuth_ok, run_getState_ok,
    run_store_ok] at hrun
  obtain ⟨_, _, ⟨hauth, rfl⟩, id, v, happroval, _, _, ⟨rfl, rfl⟩, _, w₁, hlist, _, w₂,
    hdecimals, hconsume⟩ := hrun
  obtain ⟨rfl, -⟩ := requireMultisigApproval_spec happroval
  refine gated_of_parts hauth happroval (registry_of_agreeOff ?_) hconsume rfl
  have h₁ : FiniteStore.AgreeOff registryFree v w₁ :=
    Exec.Keeps.ok (.when (.bind (Modifies.enforceConfigCooldown (S := registryFree) rfl)
      fun _ => Modifies.store rfl)) hlist
  exact h₁.trans (hdecimals ▸ FiniteStore.agreeOff_write w₁ _ rfl)

theorem removeAcceptedToken_spec {admin token : Address} {u : Unit}
    (hrun : (removeAcceptedToken admin token).run r s = .ok u t) :
    Gated r s admin ⟨.removeAcceptedToken, token, none, 0⟩ t.registry := by
  simp only [removeAcceptedToken, run_bind_ok, run_requireAdminAuth_ok, run_getState_ok,
    run_lift_ok, run_failIf_ok, run_delete_ok, run_store_ok] at hrun
  obtain ⟨_, _, ⟨hauth, rfl⟩, _, _, ⟨rfl, rfl⟩, _, _, ⟨-, rfl⟩, _, _, ⟨-, rfl⟩, _, _,
    ⟨-, rfl⟩, id, v, happroval, _, w₁, hcooldown, _, w₂, hdecimals, _, w₃, htokens,
    hconsume⟩ := hrun
  obtain ⟨rfl, -⟩ := requireMultisigApproval_spec happroval
  refine gated_of_parts hauth happroval (registry_of_agreeOff ?_) hconsume rfl
  have h₁ : FiniteStore.AgreeOff registryFree v w₁ :=
    (Modifies.enforceConfigCooldown (S := registryFree) rfl).ok hcooldown
  have h₂ : FiniteStore.AgreeOff registryFree w₁ w₂ :=
    hdecimals ▸ FiniteStore.agreeOff_remove w₁ rfl
  exact (h₁.trans h₂).trans (htokens ▸ FiniteStore.agreeOff_write w₂ _ rfl)

theorem switchEmergencyStop_spec {admin : Address} {enabled : Bool} {u : Unit}
    (hrun : (switchEmergencyStop admin enabled).run r s = .ok u t) :
    (s.emergencyStop = enabled ∧ t.registry = s.registry) ∨
      (s.emergencyStop ≠ enabled ∧
        Gated r s admin ⟨.emergencyStop, admin, none, stopValue enabled⟩ t.registry) := by
  simp only [switchEmergencyStop, run_bind_ok, run_requireAdminAuth_ok, run_getState_ok] at hrun
  obtain ⟨_, _, ⟨hauth, rfl⟩, _, _, ⟨rfl, rfl⟩, hrun⟩ := hrun
  split at hrun
  · rename_i hsame
    obtain ⟨-, rfl⟩ := run_pure_ok.mp hrun
    exact .inl ⟨hsame, rfl⟩
  · rename_i hdiffer
    simp only [run_bind_ok, run_writeConfig_ok] at hrun
    obtain ⟨id, v, happroval, _, w₁, hcooldown, _, w₂, hwrite, hconsume⟩ := hrun
    obtain ⟨rfl, -⟩ := requireMultisigApproval_spec happroval
    have h₁ : FiniteStore.AgreeOff registryFree v w₁ :=
      (Modifies.enforceConfigCooldown (S := registryFree) rfl).ok hcooldown
    have h₂ : FiniteStore.AgreeOff registryFree w₁ w₂ :=
      hwrite ▸ w₁.agreeOff_writeConfig .emergencyStop enabled rfl rfl
    exact .inr ⟨hdiffer, gated_of_parts hauth happroval (registry_of_agreeOff (h₁.trans h₂))
      hconsume rfl⟩

/-! ## All entrypoints -/

theorem run_after_emergencyCheck {x : Vault Unit} {u : Unit}
    (hrun : (do requireNotEmergencyStop; x).run r s = .ok u t) : x.run r s = .ok u t := by
  simp only [run_bind_ok, run_requireNotEmergencyStop_ok] at hrun
  obtain ⟨_, _, ⟨-, rfl⟩, hrun⟩ := hrun
  exact hrun

theorem run_after_rejectContractSelf {a : Address} {x : Vault Unit} {u : Unit}
    (hrun : (do rejectContractSelf a; x).run r s = .ok u t) : x.run r s = .ok u t := by
  simp only [rejectContractSelf, run_bind_ok, run_ask_ok, run_failIf_ok] at hrun
  obtain ⟨_, _, ⟨_, _, ⟨rfl, rfl⟩, -, rfl⟩, hrun⟩ := hrun
  exact hrun

/-- Every successful entrypoint call has its registry effect. -/
theorem adminCall_effect {call : AdminCall} {u : Unit} (hrun : call.exec.run r s = .ok u t) :
    call.Effect r s t.registry := by
  cases call with
  | init => exact doInit_spec hrun
  | rotateAdmin => exact doRotateAdmin_spec (run_after_emergencyCheck hrun)
  | proposeAdmin => exact doProposeAdmin_spec (run_after_emergencyCheck hrun)
  | claimAdminRole => exact doClaimAdminRole_spec (run_after_emergencyCheck hrun)
  | cancelAdminProposal => exact doCancelAdminProposal_spec hrun
  | recoverStrandedFunds => exact doRecoverStrandedFunds_spec hrun
  | queueTreasuryChange => exact queueTreasuryChange_spec (run_after_rejectContractSelf hrun)
  | executeTreasuryChange =>
    refine Modifies.registry ?_ hrun
    exact .bind .ask fun _ => .bind (Modifies.requireAdminAuth _) fun _ =>
      .bind Modifies.load fun _ => .bind (.okOr _ _) fun _ => .bind (.failIf _ _) fun _ =>
      .bind (Modifies.writeConfig rfl rfl) fun _ => .bind (Modifies.writeConfig rfl rfl) fun _ =>
      Modifies.delete rfl
  | cancelTreasuryChange =>
    refine Modifies.registry ?_ hrun
    exact .bind (Modifies.requireAdminAuth _) fun _ => .bind Modifies.load fun _ =>
      .bind (.failIf _ _) fun _ => Modifies.delete rfl
  | addAcceptedToken => exact addAcceptedToken_spec (run_after_rejectContractSelf hrun)
  | removeAcceptedToken => exact removeAcceptedToken_spec hrun
  | enableEmergencyStop admin =>
    rcases switchEmergencyStop_spec hrun with ⟨hstop, heq⟩ | ⟨hstop, hgated⟩
    · simpa [AdminCall.Effect, AdminCall.request?, hstop] using heq
    · simpa [AdminCall.Effect, AdminCall.request?, hstop, stopValue] using hgated
  | disableEmergencyStop admin =>
    rcases switchEmergencyStop_spec hrun with ⟨hstop, heq⟩ | ⟨hstop, hgated⟩
    · simpa [AdminCall.Effect, AdminCall.request?, hstop] using heq
    · simpa [AdminCall.Effect, AdminCall.request?, hstop, stopValue] using hgated
  | submitProposal =>
    obtain ⟨id, v, hsubmit, hpure⟩ := run_bind_ok.mp hrun
    obtain ⟨-, rfl⟩ := run_pure_ok.mp hpure
    exact doSubmitProposal_spec hsubmit
  | voteProposal => exact doVoteProposal_spec hrun
  | executeProposal => exact doExecuteProposal_spec hrun
  | cancelProposal => exact doCancelProposal_spec hrun
  | addGuardian =>
    simp only [AdminCall.exec, addGuardian, run_bind_ok, run_requireAdminAuth_ok, run_failIf_ok,
      run_getState_ok, run_store_ok] at hrun
    obtain ⟨_, _, ⟨hauth, rfl⟩, _, _, ⟨hweight, rfl⟩, _, _, ⟨rfl, rfl⟩, rfl⟩ := hrun
    exact ⟨hauth, hweight, registry_write_guardians s _⟩
  | removeGuardian =>
    simp only [AdminCall.exec, removeGuardian, run_bind_ok, run_requireAdminAuth_ok,
      run_getState_ok, run_store_ok] at hrun
    obtain ⟨_, _, ⟨hauth, rfl⟩, _, _, ⟨rfl, rfl⟩, rfl⟩ := hrun
    exact ⟨hauth, registry_write_guardians s _⟩

end SubscriptionVault
