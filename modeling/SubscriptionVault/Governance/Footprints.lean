import SubscriptionVault.Lifecycle.Footprints

/-!
# What administration calls write

Eight of the calls write nothing but guardians, proposals, the admin and the votes' nonces. All
of them together stay in the settings, the nonces and the token balances.
-/

namespace SubscriptionVault

open Exec

/-! ## Governance -/

/-- Guardians and proposals, the admin and the rotation in progress, and the nonces. -/
def Slot.isGovernance : Slot → Bool
  | .persistent .guardians | .persistent (.proposal _) | .instanced .nextProposalId
  | .symbol .proposalCutoff | .symbol .adminProposal | .persistent .admin | .instanced .admin
  | .persistent (.adminNonce _ _) => true
  | _ => false

def governanceSlots : Set Slot := {k | k.isGovernance = true}

/-- The slots of governance without the nonces. -/
def quietSlots : Set Slot := {k | (k.isGovernance && k.area != .nonces) = true}

theorem quietSlots_subset_governanceSlots : quietSlots ⊆ governanceSlots := by
  intro k hk
  have hk : (k.isGovernance && k.area != .nonces) = true := hk
  rw [Bool.and_eq_true] at hk
  exact hk.1

/-- The calls about the admin, the guardians and the proposals that execute nothing. -/
def AdminCall.isGovernance : AdminCall → Bool
  | .proposeAdmin _ _ | .claimAdminRole _ | .cancelAdminProposal _ | .submitProposal _ _ _
  | .voteProposal _ _ _ | .cancelProposal _ | .addGuardian _ _ _ | .removeGuardian _ _ => true
  | _ => false

/-- The calls that carry a nonce. -/
def AdminCall.isNonced : AdminCall → Bool
  | .rotateAdmin _ _ _ | .voteProposal _ _ _ => true
  | _ => false

theorem doSubmitProposal_quiet (request : Request) (quorumBps eta : Nat) :
    Modifies quietSlots (doSubmitProposal request quorumBps eta) := by
  unfold doSubmitProposal
  refine .bind .ask fun _ => .bind (.failIf _ _) fun _ => .bind (.failIf _ _) fun _ => ?_
  refine .bind (.lift _) fun _ => ?_
  generalize checkedAddU64 _ _ = minEta
  exact .bind (.okOr _ _) fun _ => .bind (.failIf _ _) fun _ =>
    .bind (.bind Modifies.getState fun _ => .bind (Modifies.store rfl) fun _ => .pure _) fun _ =>
    .bind (Modifies.store rfl) fun _ => .pure _

theorem doClaimAdminRole_quiet (claimant : Address) :
    Modifies quietSlots (doClaimAdminRole claimant) := by
  unfold doClaimAdminRole
  refine .bind .ask fun _ => .bind (Modifies.requireAuth _) fun _ => ?_
  refine .bind Modifies.getState fun _ => .bind (.okOr _ _) fun proposal => ?_
  generalize saturatingAddU64 _ _ = claimableFrom
  refine .bind (.failIf _ _) fun _ => .bind (.failIf _ _) fun _ => ?_
  refine .bind (.when (.bind (Modifies.delete rfl) fun _ => .fail _)) fun _ => ?_
  refine .bind Modifies.requireAdmin fun _ => .bind (Modifies.delete rfl) fun _ => ?_
  exact .bind (Modifies.writeConfig rfl rfl) fun _ => .bind Modifies.getState fun _ =>
    Modifies.store rfl

theorem AdminCall.modifies_quiet {call : AdminCall} (h : call.isGovernance = true)
    (hquiet : call.isNonced = false) : Modifies quietSlots call.exec := by
  cases call
  case proposeAdmin =>
    exact .bind Modifies.requireNotEmergencyStop fun _ => .bind .ask fun _ =>
      .bind (Modifies.requireAuth _) fun _ => .bind Modifies.requireAdmin fun _ =>
      .bind (.failIf _ _) fun _ => .bind (.failIf _ _) fun _ => .bind Modifies.getState fun _ =>
      .bind (.failIf _ _) fun _ => Modifies.store rfl
  case claimAdminRole =>
    exact .bind Modifies.requireNotEmergencyStop fun _ => doClaimAdminRole_quiet _
  case cancelAdminProposal =>
    exact .bind (Modifies.requireAuth _) fun _ => .bind Modifies.requireAdmin fun _ =>
      .bind (.failIf _ _) fun _ => .bind Modifies.getState fun _ => .bind (.failIf _ _) fun _ =>
      Modifies.delete rfl
  case submitProposal =>
    exact .bind (doSubmitProposal_quiet _ _ _) fun _ => .pure _
  case cancelProposal =>
    exact .bind Modifies.requireStoredAdminAuth fun _ => .bind Modifies.getState fun _ =>
      .bind (.okOr _ _) fun _ => .bind (.failIf _ _) fun _ => Modifies.store rfl
  case addGuardian =>
    exact .bind (Modifies.requireAdminAuth _) fun _ => .bind (.failIf _ _) fun _ =>
      .bind Modifies.getState fun _ => Modifies.store rfl
  case removeGuardian =>
    exact .bind (Modifies.requireAdminAuth _) fun _ => .bind Modifies.getState fun _ =>
      Modifies.store rfl
  case voteProposal => cases hquiet
  all_goals cases h

theorem AdminCall.modifies_governance {call : AdminCall} (h : call.isGovernance = true) :
    Modifies governanceSlots call.exec := by
  by_cases hquiet : call.isNonced = false
  · exact (AdminCall.modifies_quiet h hquiet).weaken quietSlots_subset_governanceSlots
  cases call
  case voteProposal =>
    exact .bind .ask fun _ => .bind Modifies.requireStoredAdminAuth fun _ =>
      .bind Modifies.getState fun _ => .bind (.failIf _ _) fun _ => .bind (.okOr _ _) fun _ =>
      .bind (.bind Modifies.getState fun _ => .failIf _ _) fun _ => .bind (.failIf _ _) fun _ =>
      .bind (.failIf _ _) fun _ => .bind (Modifies.checkAndAdvance rfl) fun _ => Modifies.store rfl
  case rotateAdmin => cases h
  all_goals exact absurd rfl hquiet

/-! ## All calls -/

def adminAreas : List Area := [.settings, .numbering, .nonces, .tokens]

/-- Calls without a nonce write no counter. -/
def quietAreas : List Area := [.settings, .numbering, .tokens]

theorem governanceSlots_subset_areas : governanceSlots ⊆ areas adminAreas := by
  intro k hk
  have hk : k.isGovernance = true := hk
  unfold Slot.isGovernance at hk
  split at hk <;> first | rfl | cases hk

theorem quietSlots_subset_areas : quietSlots ⊆ areas quietAreas := by
  intro k hk
  have hk : (k.isGovernance && k.area != .nonces) = true := hk
  unfold Slot.isGovernance at hk
  split at hk <;> first | rfl | cases hk

theorem keeps_requireMultisigApproval (request : Request) :
    (requireMultisigApproval request).Keeps Eq := by
  refine .bind .ask fun env => .bind Modifies.getState fun s => .ite (.pure _) ?_
  exact .bind (.okOr _ _) fun _ => .bind (.failIf _ _) fun _ => .bind (.failIf _ _) fun _ =>
    .pure _

theorem applyProposal_areas (p : Proposal) : Modifies (areas [.settings]) (applyProposal p) := by
  unfold applyProposal
  split
  · exact .bind (Modifies.writeConfig rfl rfl) fun _ => .bind Modifies.getState fun _ =>
      Modifies.store rfl
  · exact .bind (Modifies.writeConfig rfl rfl) fun _ =>
      .whenSome fun _ => Modifies.writeConfig rfl rfl
  · exact .fail _
  · exact Modifies.writeConfig rfl rfl
  · exact .pure _
  · exact .pure _
  · exact .pure _
  · exact .bind (.failIf _ _) fun _ => Modifies.writeConfig rfl rfl
  · exact .bind Modifies.getState fun _ => Modifies.writeConfig rfl rfl

theorem doExecuteProposal_areas (id : Nat) :
    Modifies (areas [.settings]) (doExecuteProposal id) := by
  unfold doExecuteProposal
  refine .bind .ask fun _ => .bind Modifies.getState fun _ => .bind (.okOr _ _) fun p => ?_
  generalize checkedAddU64 _ _ = minExecutionTime
  exact .bind (.bind Modifies.getState fun _ => .failIf _ _) fun _ => .bind (.failIf _ _) fun _ =>
    .bind (.okOr _ _) fun _ => .bind (.failIf _ _) fun _ => .bind (.failIf _ _) fun _ =>
    .bind (.failIf _ _) fun _ => .bind (applyProposal_areas p) fun _ => Modifies.store rfl

theorem consumeMultisigProposal_areas (id : Nat) :
    Modifies (areas [.settings]) (consumeMultisigProposal id) :=
  .ite (.pure _) (doExecuteProposal_areas id)

theorem requireMultisigApproval_areas {S : Set Slot} (request : Request) :
    Modifies S (requireMultisigApproval request) :=
  (keeps_requireMultisigApproval request).mono fun s _ heq => heq ▸ Std.Refl.refl s

theorem switchEmergencyStop_areas (admin : Address) (enabled : Bool) :
    Modifies (areas quietAreas) (switchEmergencyStop admin enabled) :=
  .bind (Modifies.requireAdminAuth _) fun _ => .bind Modifies.getState fun _ => .ite (.pure _) <|
    .bind (requireMultisigApproval_areas _) fun id =>
    .bind (Modifies.enforceConfigCooldown rfl) fun _ => .bind (Modifies.writeConfig rfl rfl)
      fun _ => (consumeMultisigProposal_areas id).widen rfl

theorem queueTreasuryChange_areas (admin treasury : Address) (feeBps : Nat) :
    Modifies (areas quietAreas) (queueTreasuryChange admin treasury feeBps) := by
  unfold queueTreasuryChange
  generalize treasuryChangeDelaySecs = delay
  exact .bind .ask fun _ => .bind (Modifies.requireAdminAuth _) fun _ => .bind (.failIf _ _)
    fun _ => .bind Modifies.load fun _ => .bind (.failIf _ _) fun _ =>
    .bind (requireMultisigApproval_areas _) fun id => .bind (Modifies.store rfl) fun _ =>
    .bind (Modifies.enforceConfigCooldown rfl) fun _ => .bind (Modifies.writeConfig rfl rfl)
      fun _ => .bind (Modifies.writeConfig rfl rfl) fun _ =>
    (consumeMultisigProposal_areas id).widen rfl

theorem addAcceptedToken_areas (admin token : Address) (decimals : Nat) :
    Modifies (areas [.settings]) (AdminCall.addAcceptedToken admin token decimals).exec :=
  .bind (.bind .ask fun _ => .failIf _ _) fun _ => .bind (Modifies.requireAdminAuth _) fun _ =>
    .bind (requireMultisigApproval_areas _) fun id => .bind Modifies.getState fun _ =>
    .bind (.when (.bind (Modifies.enforceConfigCooldown rfl) fun _ => Modifies.store rfl))
      fun _ => .bind (Modifies.store rfl) fun _ => consumeMultisigProposal_areas id

theorem AdminCall.modifies_quietAreas {call : AdminCall} (hquiet : call.isNonced = false) :
    Modifies (areas quietAreas) call.exec := by
  by_cases h : call.isGovernance = true
  · exact (AdminCall.modifies_quiet h hquiet).weaken quietSlots_subset_areas
  cases call
  case init => exact (doInit_areas _ _ _ _ _).widen rfl
  case rotateAdmin => cases hquiet
  case recoverStrandedFunds =>
    exact .bind .ask fun _ => .bind (Modifies.requireAdminAuth _) fun _ => .bind (.failIf _ _)
      fun _ => .bind (requireMultisigApproval_areas _) fun id => .bind Modifies.load fun _ =>
      .bind (.failIf _ _) fun _ => .bind (Modifies.tokenBalance _ _) fun _ =>
      .bind Modifies.getState fun _ => .bind (.lift _) fun _ => .bind (.failIf _ _) fun _ =>
      .bind (Modifies.store rfl) fun _ =>
      .bind ((consumeMultisigProposal_areas id).widen rfl) fun _ => Modifies.transfer rfl rfl
  case queueTreasuryChange =>
    exact .bind (.bind .ask fun _ => .failIf _ _) fun _ => queueTreasuryChange_areas _ _ _
  case executeTreasuryChange =>
    exact .bind .ask fun _ => .bind (Modifies.requireAdminAuth _) fun _ => .bind Modifies.load
      fun _ => .bind (.okOr _ _) fun _ => .bind (.failIf _ _) fun _ =>
      .bind (Modifies.writeConfig rfl rfl) fun _ => .bind (Modifies.writeConfig rfl rfl) fun _ =>
      Modifies.delete rfl
  case cancelTreasuryChange =>
    exact .bind (Modifies.requireAdminAuth _) fun _ => .bind Modifies.load fun _ =>
      .bind (.failIf _ _) fun _ => Modifies.delete rfl
  case addAcceptedToken => exact (addAcceptedToken_areas _ _ _).widen rfl
  case removeAcceptedToken =>
    exact .bind (Modifies.requireAdminAuth _) fun _ => .bind Modifies.getState fun _ =>
      .bind (.lift _) fun _ => .bind (.failIf _ _) fun _ => .bind (.failIf _ _) fun _ =>
      .bind (requireMultisigApproval_areas _) fun id =>
      .bind (Modifies.enforceConfigCooldown rfl) fun _ => .bind (Modifies.delete rfl) fun _ =>
      .bind (Modifies.store rfl) fun _ => (consumeMultisigProposal_areas id).widen rfl
  case enableEmergencyStop => exact switchEmergencyStop_areas _ _
  case disableEmergencyStop => exact switchEmergencyStop_areas _ _
  case executeProposal => exact (doExecuteProposal_areas _).widen rfl
  all_goals exact absurd rfl h

theorem AdminCall.modifies_areas (call : AdminCall) : Modifies (areas adminAreas) call.exec := by
  by_cases hquiet : call.isNonced = false
  · exact (AdminCall.modifies_quietAreas hquiet).widen rfl
  cases call
  case rotateAdmin =>
    exact .bind Modifies.requireNotEmergencyStop fun _ => .bind .ask fun _ =>
      .bind (Modifies.requireAdminAuth _) fun _ => .bind (Modifies.checkAndAdvance rfl) fun _ =>
      .bind (.failIf _ _) fun _ => .bind (.failIf _ _) fun _ =>
      .bind (requireMultisigApproval_areas _) fun id =>
      .bind (Modifies.enforceConfigCooldown rfl) fun _ => .bind (Modifies.writeConfig rfl rfl)
        fun _ => .bind (.bind Modifies.getState fun _ => Modifies.store rfl) fun _ =>
      (consumeMultisigProposal_areas id).widen rfl
  case voteProposal =>
    exact (AdminCall.modifies_governance rfl).weaken governanceSlots_subset_areas
  all_goals exact absurd rfl hquiet

end SubscriptionVault
