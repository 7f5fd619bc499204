import SubscriptionVault.Governance.Footprints
import SubscriptionVault.Governance.Refinement
import SubscriptionVault.Lifecycle.OneRecord
import SubscriptionVault.Lifecycle.Transactions

/-!
# The treasury timelock

Charges take their fee at the configured rate and pay it to the configured treasury. The two
values are written by the calls around a pending treasury change and by the execution of a fee
proposal. Queueing a change writes them at once, so the timelock only binds where the queued
values are the ones in force.
-/

namespace SubscriptionVault

open Exec

/-! ## Fee terms -/

/-- The rate and the treasury that charges use. -/
structure FeeTerms where
  feeBps : Nat
  treasury : Option Address
deriving DecidableEq

def State.feeTerms (s : State) : FeeTerms := ⟨s.protocolFeeBps, s.treasury⟩

def State.pendingTreasuryChange (s : State) : Option PendingTreasuryChange :=
  s.read (.persistent .pendingTreasuryChange)

def PendingTreasuryChange.feeTerms (p : PendingTreasuryChange) : FeeTerms :=
  ⟨p.newFeeBps, some p.newTreasury⟩

/-- The terms after execution of a fee proposal. -/
def Proposal.feeTerms (p : Proposal) (old : FeeTerms) : FeeTerms :=
  ⟨p.target3, p.target2 <|> old.treasury⟩

/-- Configuration is in the persistent tier, and `init` has been called. -/
structure State.Settled (s : State) : Prop where
  version : s.schemaVersion = storageVersion
  token : (s.config .token).isSome = true

/-- No stored fee proposal asks for more than the maximum. -/
def Registry.FeesCapped (g : Registry) : Prop :=
  ∀ id p, g.proposals id = some p → p.kind = .setProtocolFee → p.target3 ≤ maxProtocolFeeBips

/-! ## Slots -/

/-- The slots the terms and the pending change are read from. -/
def Slot.isTermSlot : Slot → Bool
  | .persistent .feeBps | .instanced .feeBps | .persistent .treasury | .instanced .treasury
  | .persistent .token | .instanced .token | .persistent .schemaVersion
  | .instanced .schemaVersion | .persistent .pendingTreasuryChange => true
  | _ => false

def Slot.isFeeSlot : Slot → Bool
  | .persistent (.proposal _) => true
  | k => k.isTermSlot

abbrev termsFree : Set Slot := {k | k.isTermSlot = false}
abbrev feeFree : Set Slot := {k | k.isFeeSlot = false}

section Slots

variable {s t : State}

theorem feeFree_subset : feeFree ⊆ termsFree := by
  intro k hk
  have hk : k.isFeeSlot = false := hk
  unfold Slot.isFeeSlot at hk
  split at hk
  · cases hk
  · exact hk

theorem State.feeTerms_of_agreeOff {S : Set Slot} (h : FiniteStore.AgreeOff S s t)
    (hfee : ∀ k ∈ configSlots .feeBps, k ∉ S) (htreasury : ∀ k ∈ configSlots .treasury, k ∉ S) :
    t.feeTerms = s.feeTerms := by
  simp only [State.feeTerms, State.protocolFeeBps, State.treasury,
    State.config_of_agreeOff h hfee, State.config_of_agreeOff h htreasury]

theorem State.feeTerms_of_termsFree (h : FiniteStore.AgreeOff termsFree s t) :
    t.feeTerms = s.feeTerms :=
  State.feeTerms_of_agreeOff h (by simp [configSlots, Slot.isTermSlot])
    (by simp [configSlots, Slot.isTermSlot])

theorem State.feeTerms_of_feeFree (h : FiniteStore.AgreeOff feeFree s t) :
    t.feeTerms = s.feeTerms :=
  State.feeTerms_of_termsFree (h.mono feeFree_subset)

theorem State.pendingTreasuryChange_of_termsFree (h : FiniteStore.AgreeOff termsFree s t) :
    t.pendingTreasuryChange = s.pendingTreasuryChange := by
  have hread : t.read (.persistent .pendingTreasuryChange) =
      s.read (.persistent .pendingTreasuryChange) := h.read (by simp [Slot.isTermSlot])
  exact hread

theorem State.pendingTreasuryChange_of_feeFree (h : FiniteStore.AgreeOff feeFree s t) :
    t.pendingTreasuryChange = s.pendingTreasuryChange :=
  State.pendingTreasuryChange_of_termsFree (h.mono feeFree_subset)

theorem State.proposal_of_feeFree (h : FiniteStore.AgreeOff feeFree s t) :
    t.proposal = s.proposal := by
  funext id
  have hread : t.read (.persistent (.proposal id)) = s.read (.persistent (.proposal id)) :=
    h.read (by simp [Slot.isFeeSlot])
  exact hread

theorem State.Settled.of_agreeOff {S : Set Slot} (hs : s.Settled)
    (h : FiniteStore.AgreeOff S s t) (hS : ∀ k ∈ configSlots .token, k ∉ S) : t.Settled where
  version := by
    rw [State.schemaVersion_of_agreeOff h (hS _ (by simp [configSlots]))
      (hS _ (by simp [configSlots]))]
    exact hs.version
  token := by
    rw [State.config_of_agreeOff h hS]
    exact hs.token

theorem State.Settled.of_termsFree (hs : s.Settled) (h : FiniteStore.AgreeOff termsFree s t) :
    t.Settled :=
  hs.of_agreeOff h (by simp [configSlots, Slot.isTermSlot])

theorem State.Settled.of_feeFree (hs : s.Settled) (h : FiniteStore.AgreeOff feeFree s t) :
    t.Settled :=
  hs.of_termsFree (h.mono feeFree_subset)

theorem State.Settled.persistent (hs : s.Settled) : 3 ≤ s.schemaVersion := by
  rw [hs.version]
  decide


end Slots

theorem governanceSlots_subset_termsFree : governanceSlots ⊆ termsFree := by
  intro k hk
  have hk : k.isGovernance = true := hk
  unfold Slot.isGovernance at hk
  split at hk <;> first | rfl | cases hk

/-- The calls that only write what governance keeps stay away from the fee. -/
theorem AdminCall.termsFree {call : AdminCall} (h : call.isGovernance = true) :
    Modifies termsFree call.exec :=
  (AdminCall.modifies_governance h).weaken governanceSlots_subset_termsFree

/-! ## Governance -/

/-- The fee proposal is executed when it is due. -/
def Governed (env : Env) (s t : State) : Prop :=
  ∃ id p, s.proposal id = some p ∧ p.kind = .setProtocolFee ∧ p.executed = false ∧
    p.eta ≤ env.now ∧ t.proposal id = some { p with executed := true } ∧
    t.feeTerms = p.feeTerms s.feeTerms

/-- What code that executes at most one proposal does around the fee. -/
structure FeesFollow (env : Env) (s t : State) : Prop where
  settled : t.Settled
  pending : t.pendingTreasuryChange = s.pendingTreasuryChange
  terms : t.feeTerms = s.feeTerms ∨ Governed env s t

section Governance

variable {env : Env} {s t w x : State} {u : Unit} {id : Nat} {p : Proposal}

theorem FeesFollow.of_termsFree (hs : s.Settled) (h : FiniteStore.AgreeOff termsFree s t) :
    FeesFollow env s t :=
  ⟨hs.of_termsFree h, State.pendingTreasuryChange_of_termsFree h,
    .inl (State.feeTerms_of_termsFree h)⟩

theorem FeesFollow.of_feeFree (hs : s.Settled) (h : FiniteStore.AgreeOff feeFree s t) :
    FeesFollow env s t :=
  .of_termsFree hs (h.mono feeFree_subset)

/-- The action of a proposal other than a fee proposal. -/
theorem applyProposal_feeFree (hkind : p.kind ≠ .setProtocolFee) :
    Modifies feeFree (applyProposal p) := by
  unfold applyProposal
  split
  · exact .bind (Modifies.writeConfig rfl rfl) fun _ => .bind Modifies.getState fun _ =>
      Modifies.store rfl
  · exact absurd ‹_› hkind
  · exact .fail _
  · exact Modifies.writeConfig rfl rfl
  · exact .pure _
  · exact .pure _
  · exact .pure _
  · exact .bind (.failIf _ _) fun _ => Modifies.writeConfig rfl rfl
  · exact .bind Modifies.getState fun _ => Modifies.writeConfig rfl rfl

theorem State.Settled.of_write {k : Slot} {α : Type} [Holds Slot.Val k α] (hs : s.Settled) (v : α)
    (hk : k ∉ configSlots .token) : State.Settled (s.write k v) :=
  hs.of_agreeOff (s.agreeOff_write v (Set.mem_singleton k)) fun j hj heq =>
    hk (by rwa [Set.mem_singleton_iff.mp heq] at hj)

theorem State.Settled.writeConfig {key : DataKey} {α : Type} [Holds DataKey.Val key α]
    (hs : s.Settled) (v : α) (hkey : key ≠ .token ∧ key ≠ .schemaVersion) :
    (s.writeConfig key v).Settled := by
  have hslots : FiniteStore.AgreeOff {.persistent key, .instanced key} s (s.writeConfig key v) :=
    s.agreeOff_writeConfig key v (by simp) (by simp)
  refine hs.of_agreeOff hslots ?_
  intro k hk
  simp only [configSlots, Set.mem_insert_iff, Set.mem_singleton_iff] at hk ⊢
  rcases hk with rfl | rfl | rfl | rfl <;> simp [hkey.1.symm, hkey.2.symm]

theorem State.Settled.feeTerms_writeFee (hs : s.Settled) (feeBps : Nat) :
    (s.writeConfig .feeBps feeBps).feeTerms = ⟨feeBps, s.treasury⟩ := by
  have hslots : FiniteStore.AgreeOff {.persistent .feeBps, .instanced .feeBps} s
      (s.writeConfig .feeBps feeBps) := s.agreeOff_writeConfig .feeBps feeBps (by simp) (by simp)
  have htreasury : (s.writeConfig .feeBps feeBps).config .treasury = s.config .treasury :=
    State.config_of_agreeOff hslots (by simp [configSlots])
  have hfee := s.config_writeConfig_of_le .feeBps feeBps hs.persistent
  simp only [State.feeTerms, State.protocolFeeBps, State.treasury, htreasury, hfee,
    Option.getD_some]

theorem State.Settled.feeTerms_writeTreasury (hs : s.Settled) (treasury : Address) :
    (s.writeConfig .treasury treasury).feeTerms = ⟨s.protocolFeeBps, some treasury⟩ := by
  have hslots : FiniteStore.AgreeOff {.persistent .treasury, .instanced .treasury} s
      (s.writeConfig .treasury treasury) :=
    s.agreeOff_writeConfig .treasury treasury (by simp) (by simp)
  have hfee : (s.writeConfig .treasury treasury).config .feeBps = s.config .feeBps :=
    State.config_of_agreeOff hslots (by simp [configSlots])
  have htreasury := s.config_writeConfig_of_le .treasury treasury hs.persistent
  simp only [State.feeTerms, State.protocolFeeBps, State.treasury, htreasury, hfee]

/-- Both entries written, one after the other. -/
theorem State.Settled.setFeeTerms (hs : s.Settled) (feeBps : Nat) (treasury : Address) :
    ((s.writeConfig .feeBps feeBps).writeConfig .treasury treasury).Settled ∧
      ((s.writeConfig .feeBps feeBps).writeConfig .treasury treasury).feeTerms =
        ⟨feeBps, some treasury⟩ := by
  have hfee : (s.writeConfig .feeBps feeBps).Settled := hs.writeConfig feeBps (by simp)
  have hterms := hs.feeTerms_writeFee feeBps
  refine ⟨hfee.writeConfig treasury (by simp), ?_⟩
  rw [hfee.feeTerms_writeTreasury treasury]
  exact congrArg (FeeTerms.mk · (some treasury)) (congrArg FeeTerms.feeBps hterms)

theorem State.pendingTreasuryChange_writeConfig {k : DataKey} {α : Type}
    [Holds DataKey.Val k α] (s : State) (v : α) (hkey : k ≠ .pendingTreasuryChange) :
    (s.writeConfig k v).pendingTreasuryChange = s.pendingTreasuryChange := by
  have hslots : FiniteStore.AgreeOff {.persistent k, .instanced k} s (s.writeConfig k v) :=
    s.agreeOff_writeConfig k v (by simp) (by simp)
  have hread : (s.writeConfig k v).read (.persistent .pendingTreasuryChange) =
      s.read (.persistent .pendingTreasuryChange) := hslots.read (by simp [hkey.symm])
  exact hread

/-- A fee proposal's action writes the terms it asks for. -/
theorem applyProposal_fees (hs : s.Settled) (hkind : p.kind = .setProtocolFee)
    (hrun : (applyProposal p).run env s = .ok u t) :
    t.Settled ∧ t.pendingTreasuryChange = s.pendingTreasuryChange ∧
      t.feeTerms = p.feeTerms s.feeTerms := by
  unfold applyProposal at hrun
  rw [hkind] at hrun
  obtain ⟨_, s₁, hfee, hrun⟩ := run_bind_ok.mp hrun
  obtain rfl := run_writeConfig_ok.mp hfee
  have hwritten : (State.writeConfig s .feeBps p.target3).Settled := hs.writeConfig _ (by simp)
  have hpending := State.pendingTreasuryChange_writeConfig s p.target3 (k := .feeBps) (by simp)
  rcases run_whenSome_ok.mp hrun with ⟨treasury, htarget, hrun⟩ | ⟨htarget, rfl⟩
  · obtain rfl := run_writeConfig_ok.mp hrun
    obtain ⟨hsettled, hterms⟩ := hs.setFeeTerms p.target3 treasury
    refine ⟨hsettled, ?_, ?_⟩
    · rw [State.pendingTreasuryChange_writeConfig _ _ (by simp), hpending]
    · rw [hterms, Proposal.feeTerms, htarget]
      rfl
  · refine ⟨hwritten, hpending, ?_⟩
    rw [hs.feeTerms_writeFee, Proposal.feeTerms, htarget]
    rfl

theorem doExecuteProposal_fees (hs : s.Settled)
    (hrun : (doExecuteProposal id).run env s = .ok u t) : FeesFollow env s t := by
  simp only [doExecuteProposal, ensureProposalNotInvalidated, run_bind_ok, run_ask_ok,
    run_getState_ok, run_okOr_ok, run_failIf_ok, run_store_ok, not_lt] at hrun
  obtain ⟨_, _, ⟨rfl, rfl⟩, _, _, ⟨rfl, rfl⟩, p, _, ⟨hstored, rfl⟩, _, _,
    ⟨_, _, ⟨rfl, rfl⟩, -, rfl⟩, _, _, ⟨hfresh, rfl⟩, _, _, ⟨-, rfl⟩, _, _, ⟨-, rfl⟩, _, _,
    ⟨hdue, rfl⟩, _, _, ⟨-, rfl⟩, _, w, happly, rfl⟩ := hrun
  have hmark : FiniteStore.AgreeOff {.persistent (.proposal id)} w
      (w.write (.persistent (.proposal id)) { p with executed := true }) :=
    w.agreeOff_write _ (Set.mem_singleton _)
  have hpending : State.pendingTreasuryChange
      (w.write (.persistent (.proposal id)) { p with executed := true }) =
        w.pendingTreasuryChange := by
    simp [State.pendingTreasuryChange]
  have hterms : State.feeTerms
      (w.write (.persistent (.proposal id)) { p with executed := true }) = w.feeTerms :=
    State.feeTerms_of_agreeOff hmark (by simp [configSlots]) (by simp [configSlots])
  by_cases hkind : p.kind = .setProtocolFee
  · obtain ⟨hsettled, hsame, hset⟩ := applyProposal_fees hs hkind happly
    refine ⟨hsettled.of_agreeOff hmark (by simp [configSlots]), hpending.trans hsame, .inr ?_⟩
    refine ⟨id, p, hstored, hkind, by simpa using hfresh, hdue, ?_, hterms.trans hset⟩
    simp [State.proposal]
  · have hquiet := (applyProposal_feeFree hkind).ok happly
    refine ⟨(hs.of_feeFree hquiet).of_agreeOff hmark (by simp [configSlots]), ?_, .inl ?_⟩
    · rw [hpending, State.pendingTreasuryChange_of_feeFree hquiet]
    · rw [hterms, State.feeTerms_of_feeFree hquiet]

/-- Code that consumes a proposal between two pieces that stay away from the fee. -/
theorem FeesFollow.of_consumed (hs : s.Settled) (hbefore : FiniteStore.AgreeOff feeFree s w)
    (hconsume : (consumeMultisigProposal id).run env w = .ok u x)
    (hafter : FiniteStore.AgreeOff feeFree x t) : FeesFollow env s t := by
  have hw : w.Settled := hs.of_feeFree hbefore
  have hexecuted : FeesFollow env w x := by
    unfold consumeMultisigProposal at hconsume
    split at hconsume
    · obtain ⟨-, rfl⟩ := run_pure_ok.mp hconsume
      exact .of_feeFree hw (Std.Refl.refl w)
    · exact doExecuteProposal_fees hw hconsume
  refine ⟨hexecuted.settled.of_feeFree hafter, ?_, ?_⟩
  · rw [State.pendingTreasuryChange_of_feeFree hafter, hexecuted.pending,
      State.pendingTreasuryChange_of_feeFree hbefore]
  · rw [State.feeTerms_of_feeFree hafter, ← State.feeTerms_of_feeFree hbefore]
    rcases hexecuted.terms with hsame | ⟨j, p, hstored, hkind, hfresh, hdue, hmarked, hset⟩
    · exact .inl hsame
    · refine .inr ⟨j, p, ?_, hkind, hfresh, hdue, ?_, ?_⟩
      · rw [← State.proposal_of_feeFree hbefore]
        exact hstored
      · rw [State.proposal_of_feeFree hafter]
        exact hmarked
      · rw [State.feeTerms_of_feeFree hafter, ← State.feeTerms_of_feeFree hbefore]
        exact hset

end Governance

/-! ## Calls -/

section Calls

variable {env : Env} {s t : State} {u : Unit}

theorem doRotateAdmin_fees {currentAdmin newAdmin : Address} {nonce : Nat} (hs : s.Settled)
    (hrun : (doRotateAdmin currentAdmin newAdmin nonce).run env s = .ok u t) :
    FeesFollow env s t := by
  obtain ⟨_, -, hrun⟩ := run_check_ok .ask hrun
  obtain ⟨_, -, hrun⟩ := run_check_ok (Modifies.requireAdminAuth _) hrun
  obtain ⟨_, s₁, hnonce, hrun⟩ := run_bind_ok.mp hrun
  obtain ⟨_, -, hrun⟩ := run_check_ok (.failIf _ _) hrun
  obtain ⟨_, -, hrun⟩ := run_check_ok (.failIf _ _) hrun
  obtain ⟨id, -, hrun⟩ := run_check_ok (keeps_requireMultisigApproval _) hrun
  obtain ⟨_, s₃, hcooldown, hrun⟩ := run_bind_ok.mp hrun
  obtain ⟨_, s₄, hadmin, hrun⟩ := run_bind_ok.mp hrun
  obtain ⟨_, s₅, hcutoff, hrun⟩ := run_bind_ok.mp hrun
  have h₁ : FiniteStore.AgreeOff feeFree s s₁ :=
    Exec.Keeps.ok (Modifies.checkAndAdvance (S := feeFree) rfl) hnonce
  have h₂ : FiniteStore.AgreeOff feeFree s₁ s₃ :=
    Exec.Keeps.ok (Modifies.enforceConfigCooldown (S := feeFree) rfl) hcooldown
  have h₃ : FiniteStore.AgreeOff feeFree s₃ s₄ :=
    run_writeConfig_ok.mp hadmin ▸ s₃.agreeOff_writeConfig .admin newAdmin rfl rfl
  have h₄ : FiniteStore.AgreeOff feeFree s₄ s₅ :=
    Exec.Keeps.ok (R := FiniteStore.AgreeOff feeFree)
      (.bind Modifies.getState fun _ => Modifies.store rfl) hcutoff
  exact .of_consumed hs (((h₁.trans h₂).trans h₃).trans h₄) hrun (Std.Refl.refl t)

theorem doRecoverStrandedFunds_fees {admin token recipient : Address} {amount : Int}
    {recoveryId : Bytes} (hs : s.Settled)
    (hrun : (doRecoverStrandedFunds admin token recipient amount recoveryId).run env s =
      .ok u t) : FeesFollow env s t := by
  obtain ⟨_, -, hrun⟩ := run_check_ok .ask hrun
  obtain ⟨_, -, hrun⟩ := run_check_ok (Modifies.requireAdminAuth _) hrun
  obtain ⟨_, -, hrun⟩ := run_check_ok (.failIf _ _) hrun
  obtain ⟨id, -, hrun⟩ := run_check_ok (keeps_requireMultisigApproval _) hrun
  obtain ⟨_, -, hrun⟩ := run_check_ok Modifies.load hrun
  obtain ⟨_, -, hrun⟩ := run_check_ok (.failIf _ _) hrun
  obtain ⟨_, -, hrun⟩ := run_check_ok (Modifies.tokenBalance _ _) hrun
  obtain ⟨_, -, hrun⟩ := run_check_ok Modifies.getState hrun
  obtain ⟨_, -, hrun⟩ := run_check_ok (.lift _) hrun
  obtain ⟨_, -, hrun⟩ := run_check_ok (.failIf _ _) hrun
  obtain ⟨_, s₂, hused, hrun⟩ := run_bind_ok.mp hrun
  obtain ⟨_, s₃, hconsume, htransfer⟩ := run_bind_ok.mp hrun
  have hbefore : FiniteStore.AgreeOff feeFree s s₂ :=
    Exec.Keeps.ok (Modifies.store (S := feeFree) rfl) hused
  have hafter : FiniteStore.AgreeOff feeFree s₃ t :=
    Exec.Keeps.ok (Modifies.transfer (S := feeFree) rfl rfl) htransfer
  exact .of_consumed hs hbefore hconsume hafter

theorem addAcceptedToken_fees {admin token : Address} {decimals : Nat} (hs : s.Settled)
    (hrun : (addAcceptedToken admin token decimals).run env s = .ok u t) :
    FeesFollow env s t := by
  obtain ⟨_, -, hrun⟩ := run_check_ok (Modifies.requireAdminAuth _) hrun
  obtain ⟨id, -, hrun⟩ := run_check_ok (keeps_requireMultisigApproval _) hrun
  obtain ⟨_, -, hrun⟩ := run_check_ok Modifies.getState hrun
  obtain ⟨_, s₂, hlist, hrun⟩ := run_bind_ok.mp hrun
  obtain ⟨_, s₃, hdecimals, hrun⟩ := run_bind_ok.mp hrun
  have h₁ : FiniteStore.AgreeOff feeFree s s₂ :=
    Exec.Keeps.ok (R := FiniteStore.AgreeOff feeFree)
      (.when (.bind (Modifies.enforceConfigCooldown rfl) fun _ => Modifies.store rfl)) hlist
  have h₂ : FiniteStore.AgreeOff feeFree s₂ s₃ :=
    Exec.Keeps.ok (Modifies.store (S := feeFree) rfl) hdecimals
  exact .of_consumed hs (h₁.trans h₂) hrun (Std.Refl.refl t)

theorem removeAcceptedToken_fees {admin token : Address} (hs : s.Settled)
    (hrun : (removeAcceptedToken admin token).run env s = .ok u t) : FeesFollow env s t := by
  obtain ⟨_, -, hrun⟩ := run_check_ok (Modifies.requireAdminAuth _) hrun
  obtain ⟨_, -, hrun⟩ := run_check_ok Modifies.getState hrun
  obtain ⟨_, -, hrun⟩ := run_check_ok (.lift _) hrun
  obtain ⟨_, -, hrun⟩ := run_check_ok (.failIf _ _) hrun
  obtain ⟨_, -, hrun⟩ := run_check_ok (.failIf _ _) hrun
  obtain ⟨id, -, hrun⟩ := run_check_ok (keeps_requireMultisigApproval _) hrun
  obtain ⟨_, s₂, hcooldown, hrun⟩ := run_bind_ok.mp hrun
  obtain ⟨_, s₃, hdecimals, hrun⟩ := run_bind_ok.mp hrun
  obtain ⟨_, s₄, hlist, hrun⟩ := run_bind_ok.mp hrun
  have h₁ : FiniteStore.AgreeOff feeFree s s₂ :=
    Exec.Keeps.ok (Modifies.enforceConfigCooldown (S := feeFree) rfl) hcooldown
  have h₂ : FiniteStore.AgreeOff feeFree s₂ s₃ :=
    Exec.Keeps.ok (Modifies.delete (S := feeFree) rfl) hdecimals
  have h₃ : FiniteStore.AgreeOff feeFree s₃ s₄ :=
    Exec.Keeps.ok (Modifies.store (S := feeFree) rfl) hlist
  exact .of_consumed hs ((h₁.trans h₂).trans h₃) hrun (Std.Refl.refl t)

theorem switchEmergencyStop_fees {admin : Address} {enabled : Bool} (hs : s.Settled)
    (hrun : (switchEmergencyStop admin enabled).run env s = .ok u t) : FeesFollow env s t := by
  obtain ⟨_, -, hrun⟩ := run_check_ok (Modifies.requireAdminAuth _) hrun
  obtain ⟨_, -, hrun⟩ := run_check_ok Modifies.getState hrun
  split at hrun
  · obtain ⟨-, rfl⟩ := run_pure_ok.mp hrun
    exact .of_feeFree hs (Std.Refl.refl _)
  · obtain ⟨id, -, hrun⟩ := run_check_ok (keeps_requireMultisigApproval _) hrun
    obtain ⟨_, s₂, hcooldown, hrun⟩ := run_bind_ok.mp hrun
    obtain ⟨_, s₃, hwrite, hrun⟩ := run_bind_ok.mp hrun
    have h₁ : FiniteStore.AgreeOff feeFree s s₂ :=
      Exec.Keeps.ok (Modifies.enforceConfigCooldown (S := feeFree) rfl) hcooldown
    have h₂ : FiniteStore.AgreeOff feeFree s₂ s₃ :=
      run_writeConfig_ok.mp hwrite ▸ s₂.agreeOff_writeConfig .emergencyStop enabled rfl rfl
    exact .of_consumed hs (h₁.trans h₂) hrun (Std.Refl.refl t)

/-! The three calls around a pending change. -/

theorem queueTreasuryChange_fees {admin treasury : Address} {feeBps : Nat} (hs : s.Settled)
    (hrun : (queueTreasuryChange admin treasury feeBps).run env s = .ok u t) :
    feeBps ≤ maxProtocolFeeBips ∧ t.Settled ∧
      t.pendingTreasuryChange =
        some ⟨treasury, feeBps, saturatingAddU64 env.now treasuryChangeDelaySecs⟩ ∧
      ∃ w, FeesFollow env w t ∧ w.feeTerms = ⟨feeBps, some treasury⟩ ∧
        w.proposal = s.proposal := by
  obtain ⟨env', henv, hrun⟩ := run_check_ok .ask hrun
  obtain rfl := (run_ask_ok.mp henv).1
  obtain ⟨_, -, hrun⟩ := run_check_ok (Modifies.requireAdminAuth _) hrun
  obtain ⟨_, hcap, hrun⟩ := run_check_ok (.failIf _ _) hrun
  obtain ⟨_, -, hrun⟩ := run_check_ok Modifies.load hrun
  obtain ⟨_, -, hrun⟩ := run_check_ok (.failIf _ _) hrun
  obtain ⟨id, -, hrun⟩ := run_check_ok (keeps_requireMultisigApproval _) hrun
  obtain ⟨_, s₂, hstore, hrun⟩ := run_bind_ok.mp hrun
  obtain rfl := run_store_ok.mp hstore
  obtain ⟨_, s₃, hcooldown, hrun⟩ := run_bind_ok.mp hrun
  obtain ⟨_, s₄, hfee, hrun⟩ := run_bind_ok.mp hrun
  obtain rfl := run_writeConfig_ok.mp hfee
  obtain ⟨_, s₅, htreasury, hrun⟩ := run_bind_ok.mp hrun
  obtain rfl := run_writeConfig_ok.mp htreasury
  have hquiet : FiniteStore.AgreeOff feeFree
      (s.write (.persistent .pendingTreasuryChange)
        ⟨treasury, feeBps, saturatingAddU64 env.now treasuryChangeDelaySecs⟩) s₃ :=
    Exec.Keeps.ok (Modifies.enforceConfigCooldown (S := feeFree) rfl) hcooldown
  have hs₃ : s₃.Settled := (hs.of_write _ (by simp [configSlots])).of_feeFree hquiet
  obtain ⟨hsettled, hterms⟩ := hs₃.setFeeTerms feeBps treasury
  have hexecuted := FeesFollow.of_consumed hsettled (Std.Refl.refl _) hrun (Std.Refl.refl t)
  refine ⟨Nat.not_lt.mp (run_failIf_ok.mp hcap).1, hexecuted.settled, ?_, _, hexecuted, hterms, ?_⟩
  · rw [hexecuted.pending, State.pendingTreasuryChange_writeConfig _ _ (by simp),
      State.pendingTreasuryChange_writeConfig _ _ (by simp),
      State.pendingTreasuryChange_of_feeFree hquiet]
    simp [State.pendingTreasuryChange]
  · have h₁ : FiniteStore.AgreeOff registryFree _ s₃ :=
      Exec.Keeps.ok (Modifies.enforceConfigCooldown (S := registryFree) rfl) hcooldown
    have h₂ : FiniteStore.AgreeOff registryFree s₃ (s₃.writeConfig .feeBps feeBps) :=
      s₃.agreeOff_writeConfig .feeBps feeBps rfl rfl
    have h₃ : FiniteStore.AgreeOff registryFree (s₃.writeConfig .feeBps feeBps)
        ((s₃.writeConfig .feeBps feeBps).writeConfig .treasury treasury) :=
      State.agreeOff_writeConfig _ .treasury treasury rfl rfl
    have hregistry := registry_of_agreeOff ((h₁.trans h₂).trans h₃)
    rw [registry_write_of_free _ _ rfl] at hregistry
    exact congrArg Registry.proposals hregistry

/-- Execution of a pending change puts its terms in force and drops it. -/
theorem executeTreasuryChange_fees {admin : Address} (hs : s.Settled)
    (hrun : (executeTreasuryChange admin).run env s = .ok u t) :
    ∃ p, s.pendingTreasuryChange = some p ∧ p.effectiveAt ≤ env.now ∧ t.Settled ∧
      t.pendingTreasuryChange = none ∧ t.feeTerms = p.feeTerms ∧ t.registry = s.registry := by
  obtain ⟨env', henv, hrun⟩ := run_check_ok .ask hrun
  obtain rfl := (run_ask_ok.mp henv).1
  obtain ⟨_, -, hrun⟩ := run_check_ok (Modifies.requireAdminAuth _) hrun
  obtain ⟨found, hfound, hrun⟩ := run_check_ok Modifies.load hrun
  obtain ⟨p, hp, hrun⟩ := run_check_ok (.okOr _ _) hrun
  obtain ⟨_, hdue, hrun⟩ := run_check_ok (.failIf _ _) hrun
  obtain ⟨_, s₁, hfee, hrun⟩ := run_bind_ok.mp hrun
  obtain rfl := run_writeConfig_ok.mp hfee
  obtain ⟨_, s₂, htreasury, hrun⟩ := run_bind_ok.mp hrun
  obtain rfl := run_writeConfig_ok.mp htreasury
  obtain rfl := run_delete_ok.mp hrun
  have hpending : s.pendingTreasuryChange = some p := by
    rw [← (run_okOr_ok.mp hp).1]
    exact (run_load_ok.mp hfound).1
  obtain ⟨hsettled, hterms⟩ := hs.setFeeTerms p.newFeeBps p.newTreasury
  have hdrop := FiniteStore.agreeOff_remove (S := {.persistent .pendingTreasuryChange})
    ((State.writeConfig s .feeBps p.newFeeBps).writeConfig .treasury p.newTreasury)
    (k := .persistent .pendingTreasuryChange) (Set.mem_singleton _)
  refine ⟨p, hpending, Nat.not_lt.mp (run_failIf_ok.mp hdue).1, ?_, ?_, ?_, ?_⟩
  · exact hsettled.of_agreeOff hdrop (by simp [configSlots])
  · simp [State.pendingTreasuryChange]
  · rw [State.feeTerms_of_agreeOff hdrop (by simp [configSlots]) (by simp [configSlots]), hterms]
    rfl
  · rw [registry_remove_of_free _ rfl]
    have h₁ : FiniteStore.AgreeOff registryFree s (State.writeConfig s .feeBps p.newFeeBps) :=
      s.agreeOff_writeConfig .feeBps p.newFeeBps rfl rfl
    exact registry_of_agreeOff
      (h₁.trans (State.agreeOff_writeConfig _ .treasury p.newTreasury rfl rfl))

theorem cancelTreasuryChange_fees {admin : Address} (hs : s.Settled)
    (hrun : (cancelTreasuryChange admin).run env s = .ok u t) :
    t.Settled ∧ t.pendingTreasuryChange = none ∧ t.feeTerms = s.feeTerms := by
  obtain ⟨_, -, hrun⟩ := run_check_ok (Modifies.requireAdminAuth _) hrun
  obtain ⟨_, -, hrun⟩ := run_check_ok Modifies.load hrun
  obtain ⟨_, -, hrun⟩ := run_check_ok (.failIf _ _) hrun
  obtain rfl := run_delete_ok.mp hrun
  have hdrop := FiniteStore.agreeOff_remove (S := {.persistent .pendingTreasuryChange}) s
    (k := .persistent .pendingTreasuryChange) (Set.mem_singleton _)
  refine ⟨hs.of_agreeOff hdrop (by simp [configSlots]), ?_, ?_⟩
  · simp [State.pendingTreasuryChange]
  · exact State.feeTerms_of_agreeOff hdrop (by simp [configSlots]) (by simp [configSlots])

end Calls

/-! ## Proposals -/

namespace Registry.FeesCapped

variable {g g' : Registry} {now id : Nat} {p : Proposal}

theorem put (h : g.FeesCapped)
    (hp : p.kind = .setProtocolFee → p.target3 ≤ maxProtocolFeeBips) :
    (g.put id p).FeesCapped := by
  intro j q hstored hkind
  by_cases hj : j = id
  · subst hj
    obtain rfl : p = q := by simpa [Registry.put] using hstored
    exact hp hkind
  · exact h j q (by simpa [Registry.put, hj] using hstored) hkind

/-- A stored proposal may change its votes and whether it was executed. -/
theorem again {q : Proposal} (h : g.FeesCapped) (hstored : g.proposals id = some p)
    (hkind : q.kind = p.kind) (hvalue : q.target3 = p.target3) : (g.put id q).FeesCapped :=
  h.put fun hfee => hvalue ▸ h id p hstored (hkind ▸ hfee)

theorem executes (h : g.FeesCapped) (hexec : g.Executes now id g') : g'.FeesCapped := by
  obtain ⟨p, hp, ⟨-, admin, -, rfl⟩ | ⟨-, rfl⟩⟩ := hexec
  · have hrotated : (g.rotated admin).FeesCapped := h
    exact hrotated.again hp.stored rfl rfl
  · exact h.again hp.stored rfl rfl

theorem consumes (h : g.FeesCapped) (hconsumes : g.Consumes now id g') : g'.FeesCapped := by
  rcases hconsumes with ⟨-, rfl⟩ | ⟨-, hexec⟩
  · exact h
  · exact h.executes hexec

theorem gated {env : Env} {s : State} {admin : Address} {request : Request}
    (h : s.registry.FeesCapped) (hgated : Gated env s admin request g') : g'.FeesCapped := by
  obtain ⟨-, id, -, hconsumes⟩ := hgated
  exact h.consumes hconsumes

end Registry.FeesCapped

theorem submitted_capped {request : Request} {quorumBps eta id : Nat} {env : Env} {s t : State}
    (hrun : (doSubmitProposal request quorumBps eta).run env s = .ok id t)
    (hkind : request.kind = .setProtocolFee) : request.target3 ≤ maxProtocolFeeBips := by
  obtain ⟨_, -, hrun⟩ := run_check_ok .ask hrun
  obtain ⟨_, -, hrun⟩ := run_check_ok (.failIf _ _) hrun
  obtain ⟨_, -, hrun⟩ := run_check_ok (.failIf _ _) hrun
  obtain ⟨_, hvalid, -⟩ := run_check_ok (.lift _) hrun
  have hvalid := (run_lift_ok.mp hvalid).1
  rw [hkind, validateProposalConfig, validateSetProtocolFeeProposal] at hvalid
  split at hvalid
  · cases hvalid
  · rename_i hcap
    exact Nat.not_lt.mp hcap

theorem feesCapped_of_call {call : AdminCall} {env : Env} {s t : State} {u : Unit}
    (h : s.registry.FeesCapped) (hrun : call.exec.run env s = .ok u t) :
    t.registry.FeesCapped := by
  have heffect := adminCall_effect hrun
  cases call with
  | init =>
    rw [heffect.2]
    exact h
  | rotateAdmin =>
    obtain ⟨-, id, admin, -, -, hconsumes⟩ := heffect
    have hrotated : (s.registry.rotated admin).FeesCapped := h
    exact hrotated.consumes hconsumes
  | proposeAdmin | cancelAdminProposal | removeGuardian =>
    rw [heffect.2]
    exact h
  | claimAdminRole =>
    obtain ⟨-, proposal, admin, -, -, -, -, -, heq⟩ := heffect
    rw [heq]
    exact h
  | recoverStrandedFunds | queueTreasuryChange | addAcceptedToken | removeAcceptedToken =>
    exact h.gated heffect
  | executeTreasuryChange | cancelTreasuryChange =>
    have heq : t.registry = s.registry := heffect
    rw [heq]
    exact h
  | enableEmergencyStop | disableEmergencyStop =>
    rcases switchEmergencyStop_spec hrun with ⟨-, heq⟩ | ⟨-, hgated⟩
    · rw [heq]
      exact h
    · exact h.gated hgated
  | submitProposal =>
    obtain ⟨-, -, heq⟩ := heffect
    obtain ⟨id, v, hsubmit, -⟩ := run_bind_ok.mp hrun
    rw [heq]
    exact Registry.FeesCapped.put (g := { s.registry with nextProposalId := _ }) h
      fun hkind => submitted_capped hsubmit hkind
  | voteProposal =>
    obtain ⟨guardian, p, -, -, hstored, -, -, -, heq⟩ := heffect
    rw [heq]
    exact h.again hstored rfl rfl
  | executeProposal => exact h.executes heffect
  | cancelProposal =>
    obtain ⟨admin, p, -, hstored, -, heq⟩ := heffect
    rw [heq]
    exact h.again hstored rfl rfl
  | addGuardian =>
    rw [heffect.2.2]
    exact h

/-! ## Steps -/

/-- Nothing that the fee depends on has changed. -/
structure FeesKept (s t : State) : Prop where
  version : t.schemaVersion = s.schemaVersion
  token : t.config .token = s.config .token
  terms : t.feeTerms = s.feeTerms
  pending : t.pendingTreasuryChange = s.pendingTreasuryChange
  proposals : t.proposal = s.proposal

/-- An administration call, a migration, or anything that stays away from the fee. -/
inductive FeeAction where
  | call (env : Env) (call : AdminCall)
  | migrate (env : Env) (admin : Address) (dryRun : Bool)
  | migrateConfigToPersistent (env : Env) (admin : Address)
  | other

inductive FeeStep : FeeAction → State → State → Prop
  | call {env : Env} {call : AdminCall} {s t : State} :
      call.exec.run env s = .ok () t → FeeStep (.call env call) s t
  | migrate {env : Env} {admin : Address} {dryRun : Bool} {s t : State} :
      (doMigrate admin dryRun).run env s = .ok () t → FeeStep (.migrate env admin dryRun) s t
  | migrateConfigToPersistent {env : Env} {admin : Address} {s t : State} :
      (migrateConfigToPersistent admin).run env s = .ok () t →
        FeeStep (.migrateConfigToPersistent env admin) s t
  | other {s t : State} : FeesKept s t → FeeStep .other s t

section Steps

variable {s t : State}

theorem FeesKept.settled (h : FeesKept s t) (hs : s.Settled) : t.Settled :=
  ⟨h.version.trans hs.version, by rw [h.token, hs.token]⟩

theorem schemaVersion_of_transaction {l : Transaction} (hstep : Transacts l s t)
    (hs : s.schemaVersion = storageVersion) : t.schemaVersion = storageVersion := by
  obtain ⟨steps, hsteps⟩ := hstep.steps
  refine hsteps.invariant_state (I := fun s => s.schemaVersion = storageVersion) hs ?_
  intro l s t hcurrent hlast
  rcases hlast.changes with hsame | hchanges
  · exact (congrArg Book.schemaVersion hsame).trans hcurrent
  · exact (Operation.Changes.numbering hchanges hcurrent).1

/-- The calls outside the settings stay away from the fee. -/
theorem FeeStep.of_call {call : VaultCall} {env : Env} (hs : s.Settled)
    (hcall : call.areas.contains .settings = false) (hrun : call.exec.run env s = .ok () t) :
    FeeStep .other s t := by
  have hagree := ((VaultCall.worksIn call).ok hrun).1
  have hversion : t.schemaVersion = s.schemaVersion :=
    (schemaVersion_of_transaction (.call hrun) hs.version).trans hs.version.symm
  have hout : (Area.locks :: call.areas).contains .settings = false := by
    rw [List.contains_cons, hcall]
    rfl
  refine .other ⟨hversion, State.config_of_areas hagree hversion hout hout, ?_, ?_, ?_⟩
  · simp only [State.feeTerms, State.protocolFeeBps, State.treasury,
      State.config_of_areas (k := .feeBps) hagree hversion hout hout,
      State.config_of_areas (k := .treasury) hagree hversion hout hout]
  · exact State.read_of_areas (k := .persistent .pendingTreasuryChange) hagree hout
  · funext id
    exact State.read_of_areas (k := .persistent (.proposal id)) hagree hout

end Steps

/-- A settled vault has nothing left to migrate. -/
theorem doMigrate_settled {admin : Address} {dryRun : Bool} {env : Env} {s t : State} {u : Unit}
    (hs : s.Settled) (hrun : (doMigrate admin dryRun).run env s = .ok u t) : t = s := by
  obtain ⟨_, -, hrun⟩ := run_check_ok (Modifies.requireAdminAuth _) hrun
  obtain ⟨stored, hstored, hrun⟩ := run_check_ok (.gets _) hrun
  obtain rfl := (run_gets_ok.mp hstored).1
  obtain ⟨_, -, hrun⟩ := run_check_ok (.failIf _ _) hrun
  rcases run_when_ok.mp hrun with ⟨⟨-, hold⟩, -⟩ | ⟨-, rfl⟩
  · exact absurd hs.version hold
  · rfl

theorem migrateConfigToPersistent_settled {admin : Address} {env : Env} {s t : State} {u : Unit}
    (hs : s.Settled) (hrun : (migrateConfigToPersistent admin).run env s = .ok u t) : False := by
  obtain ⟨_, -, hrun⟩ := run_check_ok (Modifies.requireAdminAuth _) hrun
  obtain ⟨stored, hstored, hrun⟩ := run_check_ok (.gets _) hrun
  obtain rfl := (run_gets_ok.mp hstored).1
  obtain ⟨_, hversion, -⟩ := run_check_ok (.failIf _ _) hrun
  have hversion := (run_failIf_ok.mp hversion).1
  rw [hs.version] at hversion
  exact hversion (by decide)

/-- `init` can only be called once. -/
theorem doInit_settled {token admin : Address} {tokenDecimals gracePeriod : Nat} {minTopup : Int}
    {env : Env} {s t : State} {u : Unit} (hs : s.Settled)
    (hrun : (doInit token tokenDecimals admin minTopup gracePeriod).run env s = .ok u t) :
    False := by
  obtain ⟨_, -, hrun⟩ := run_check_ok .ask hrun
  obtain ⟨read, hread, hrun⟩ := run_check_ok Modifies.getState hrun
  obtain rfl := (run_getState_ok.mp hread).1
  obtain ⟨_, hfresh, -⟩ := run_check_ok (.failIf _ _) hrun
  exact (run_failIf_ok.mp hfresh).1 (.inl hs.token)

/-- The step drops a pending change or replaces it. -/
def FeeAction.endsPending : FeeAction → Prop
  | .call _ (.executeTreasuryChange _) | .call _ (.cancelTreasuryChange _) => True
  | _ => False

/-- The pending change was queued with these values, and neither executed nor cancelled since. -/
def Queued (p : PendingTreasuryChange) : History FeeAction State → Prop :=
  Since (fun l _ => ¬l.endsPending) fun l _ => ∃ env admin,
    l = .call env (.queueTreasuryChange admin p.newTreasury p.newFeeBps) ∧
      env.now + treasuryChangeDelaySecs ≤ p.effectiveAt

/-- A change of the terms that the timelock or governance justifies. -/
def FeeChangeJustified (l : FeeAction) (hist : History FeeAction State) (s t : State) : Prop :=
  (∃ env admin p, l = .call env (.executeTreasuryChange admin) ∧
      s.pendingTreasuryChange = some p ∧ p.effectiveAt ≤ env.now ∧ Queued p hist ∧
      t.feeTerms = p.feeTerms) ∨
    ∃ env call, l = .call env call ∧ Governed env s t

/-- A queued change repeats the terms in force, and its delay fits the clock. -/
def FeeAction.QueuesInForce (l : FeeAction) (s : State) : Prop :=
  match l with
  | .call env (.queueTreasuryChange _ treasury feeBps) =>
    s.feeTerms = ⟨feeBps, some treasury⟩ ∧ env.now + treasuryChangeDelaySecs ≤ u64Max
  | _ => True

/-! ## Runs -/

/-- What every run keeps. -/
structure TreasuryInvariant (hist : History FeeAction State) (s : State) : Prop where
  settled : s.Settled
  capped : s.protocolFeeBps ≤ maxProtocolFeeBips
  proposals : s.registry.FeesCapped
  pending : ∀ p, s.pendingTreasuryChange = some p → p.newFeeBps ≤ maxProtocolFeeBips ∧
    ((∀ step ∈ hist, step.1.QueuesInForce step.2) → Queued p hist)

section Runs

variable {start s t : State} {hist : History FeeAction State} {l : FeeAction} {env : Env}

theorem Queued.cons {p : PendingTreasuryChange} (h : Queued p hist) (hl : ¬l.endsPending) :
    Queued p ((l, s) :: hist) :=
  .inr ⟨hl, h⟩

theorem governed_capped (h : Governed env s t) (hcapped : s.registry.FeesCapped) :
    t.protocolFeeBps ≤ maxProtocolFeeBips := by
  obtain ⟨id, p, hstored, hkind, -, -, -, hterms⟩ := h
  have hfee : t.protocolFeeBps = p.target3 := congrArg FeeTerms.feeBps hterms
  rw [hfee]
  exact hcapped id p hstored hkind

/-- The effects on the fee that a call can have. -/
theorem AdminCall.fees {call : AdminCall} (hs : s.Settled)
    (hrun : call.exec.run env s = .ok () t) :
    (FeesFollow env s t ∧ ¬(FeeAction.call env call).endsPending) ∨
    (∃ admin treasury feeBps, call = .queueTreasuryChange admin treasury feeBps ∧
      feeBps ≤ maxProtocolFeeBips ∧ t.Settled ∧ t.pendingTreasuryChange =
        some ⟨treasury, feeBps, saturatingAddU64 env.now treasuryChangeDelaySecs⟩ ∧
      ∃ w, FeesFollow env w t ∧ w.feeTerms = ⟨feeBps, some treasury⟩ ∧
        w.proposal = s.proposal) ∨
    (∃ admin p, call = .executeTreasuryChange admin ∧ s.pendingTreasuryChange = some p ∧
      p.effectiveAt ≤ env.now ∧ t.Settled ∧ t.pendingTreasuryChange = none ∧
      t.feeTerms = p.feeTerms) ∨
    (∃ admin, call = .cancelTreasuryChange admin ∧ t.Settled ∧ t.pendingTreasuryChange = none ∧
      t.feeTerms = s.feeTerms) := by
  cases call with
  | init => exact (doInit_settled hs hrun).elim
  | rotateAdmin => exact .inl ⟨doRotateAdmin_fees hs (run_after_emergencyCheck hrun), id⟩
  | proposeAdmin | claimAdminRole | cancelAdminProposal | submitProposal | voteProposal
  | cancelProposal | addGuardian | removeGuardian =>
    exact .inl ⟨.of_termsFree hs ((AdminCall.termsFree rfl).ok hrun), id⟩
  | recoverStrandedFunds => exact .inl ⟨doRecoverStrandedFunds_fees hs hrun, id⟩
  | queueTreasuryChange admin treasury feeBps =>
    exact .inr (.inl ⟨admin, treasury, feeBps, rfl,
      queueTreasuryChange_fees hs (run_after_rejectContractSelf hrun)⟩)
  | executeTreasuryChange admin =>
    obtain ⟨p, hpending, hdue, hsettled, hnone, hterms, -⟩ := executeTreasuryChange_fees hs hrun
    exact .inr (.inr (.inl ⟨admin, p, rfl, hpending, hdue, hsettled, hnone, hterms⟩))
  | cancelTreasuryChange admin =>
    exact .inr (.inr (.inr ⟨admin, rfl, cancelTreasuryChange_fees hs hrun⟩))
  | addAcceptedToken =>
    exact .inl ⟨addAcceptedToken_fees hs (run_after_rejectContractSelf hrun), id⟩
  | removeAcceptedToken => exact .inl ⟨removeAcceptedToken_fees hs hrun, id⟩
  | enableEmergencyStop | disableEmergencyStop =>
    exact .inl ⟨switchEmergencyStop_fees hs hrun, id⟩
  | executeProposal => exact .inl ⟨doExecuteProposal_fees hs hrun, id⟩

theorem TreasuryInvariant.step (h : TreasuryInvariant hist s) (hstep : FeeStep l s t) :
    TreasuryInvariant ((l, s) :: hist) t := by
  have hearlier (hall : ∀ step ∈ (l, s) :: hist, step.1.QueuesInForce step.2) :
      ∀ step ∈ hist, step.1.QueuesInForce step.2 := fun step hmem =>
    hall step (List.mem_cons_of_mem _ hmem)
  cases hstep with
  | @call env call _ _ hrun =>
    have hproposals := feesCapped_of_call h.proposals hrun
    rcases AdminCall.fees h.settled hrun with ⟨hfollow, hends⟩ |
      ⟨admin, treasury, feeBps, rfl, hcap, hsettled, hpending, w, hfollow, hterms, hsame⟩ |
      ⟨admin, p, rfl, hpending, -, hsettled, hnone, hterms⟩ |
      ⟨admin, rfl, hsettled, hnone, hterms⟩
    · refine ⟨hfollow.settled, ?_, hproposals, fun p hp => ?_⟩
      · rcases hfollow.terms with hkept | hgoverned
        · exact (congrArg FeeTerms.feeBps hkept).trans_le h.capped
        · exact governed_capped hgoverned h.proposals
      · obtain ⟨hcap, hqueued⟩ := h.pending p (hfollow.pending ▸ hp)
        exact ⟨hcap, fun hall => (hqueued (hearlier hall)).cons hends⟩
    · refine ⟨hsettled, ?_, hproposals, fun p hp => ?_⟩
      · rcases hfollow.terms with hkept | hgoverned
        · have hfee : t.protocolFeeBps = feeBps :=
            congrArg FeeTerms.feeBps (hkept.trans hterms)
          exact hfee.trans_le hcap
        · refine governed_capped hgoverned ?_
          intro id p hstored
          have hstored : w.proposal id = some p := hstored
          rw [hsame] at hstored
          exact h.proposals id p hstored
      · rw [hpending] at hp
        obtain rfl := Option.some.inj hp
        refine ⟨hcap, fun hall => .inl ⟨env, admin, rfl, ?_⟩⟩
        have hforce := hall _ List.mem_cons_self
        exact le_min (Nat.le_refl _) hforce.2
    · refine ⟨hsettled, ?_, hproposals, fun q hq => ?_⟩
      · have hfee : t.protocolFeeBps = p.newFeeBps := congrArg FeeTerms.feeBps hterms
        rw [hfee]
        exact (h.pending p hpending).1
      · rw [hnone] at hq
        cases hq
    · refine ⟨hsettled, ?_, hproposals, fun q hq => ?_⟩
      · exact (congrArg FeeTerms.feeBps hterms).trans_le h.capped
      · rw [hnone] at hq
        cases hq
  | migrate hrun =>
    obtain rfl := doMigrate_settled h.settled hrun
    refine ⟨h.settled, h.capped, h.proposals, fun p hp => ?_⟩
    obtain ⟨hcap, hqueued⟩ := h.pending p hp
    exact ⟨hcap, fun hall => (hqueued (hearlier hall)).cons fun h => h⟩
  | migrateConfigToPersistent hrun =>
    exact (migrateConfigToPersistent_settled h.settled hrun).elim
  | other hkept =>
    refine ⟨hkept.settled h.settled, ?_, ?_, fun p hp => ?_⟩
    · exact (congrArg FeeTerms.feeBps hkept.terms).trans_le h.capped
    · intro id p hstored
      have hstored : t.proposal id = some p := hstored
      exact h.proposals id p (by rw [hkept.proposals] at hstored; exact hstored)
    · obtain ⟨hcap, hqueued⟩ := h.pending p (hkept.pending ▸ hp)
      exact ⟨hcap, fun hall => (hqueued (hearlier hall)).cons fun h => h⟩

/-- A step changes the terms only as the timelock or governance allows. -/
theorem FeeStep.justified (h : TreasuryInvariant hist s)
    (hearlier : ∀ step ∈ hist, step.1.QueuesInForce step.2) (hstep : FeeStep l s t)
    (hguard : l.QueuesInForce s) (hchanged : t.feeTerms ≠ s.feeTerms) :
    FeeChangeJustified l hist s t := by
  cases hstep with
  | @call env call _ _ hrun =>
    rcases AdminCall.fees h.settled hrun with ⟨hfollow, -⟩ |
      ⟨admin, treasury, feeBps, rfl, -, -, -, w, hfollow, hterms, hsame⟩ |
      ⟨admin, p, rfl, hpending, hdue, -, -, hterms⟩ | ⟨admin, rfl, -, -, hterms⟩
    · rcases hfollow.terms with hkept | hgoverned
      · exact absurd hkept hchanged
      · exact .inr ⟨env, call, rfl, hgoverned⟩
    · have hforce : w.feeTerms = s.feeTerms := hterms.trans hguard.1.symm
      rcases hfollow.terms with hkept | ⟨id, p, hstored, hrest⟩
      · exact absurd (hkept.trans hforce) hchanged
      · rw [hforce] at hrest
        exact .inr ⟨env, _, rfl, id, p, hsame ▸ hstored, hrest⟩
    · exact .inl ⟨env, admin, p, rfl, hpending, hdue, (h.pending p hpending).2 hearlier, hterms⟩
    · exact absurd hterms hchanged
  | migrate hrun =>
    obtain rfl := doMigrate_settled h.settled hrun
    exact absurd rfl hchanged
  | migrateConfigToPersistent hrun =>
    exact (migrateConfigToPersistent_settled h.settled hrun).elim
  | other hkept => exact absurd hkept.terms hchanged

/-- The entries that `init` leaves unset. -/
def Slot.isFeeEntry : Slot → Bool
  | .persistent .feeBps | .instanced .feeBps | .persistent .treasury | .instanced .treasury
  | .persistent .pendingTreasuryChange | .persistent (.proposal _) => true
  | _ => false

theorem Deployed.settled (h : Deployed s) : s.Settled := by
  obtain ⟨env, token, tokenDecimals, admin, minTopup, gracePeriod, hrun⟩ := h
  obtain ⟨_, -, hrun⟩ := run_check_ok .ask hrun
  obtain ⟨_, -, hrun⟩ := run_check_ok Modifies.getState hrun
  obtain ⟨_, -, hrun⟩ := run_check_ok (.failIf _ _) hrun
  obtain ⟨_, -, hrun⟩ := run_check_ok (.failIf _ _) hrun
  obtain ⟨_, -, hrun⟩ := run_check_ok (.failIf _ _) hrun
  obtain ⟨_, -, hrun⟩ := run_check_ok (.failIf _ _) hrun
  obtain ⟨_, s₁, hversion, hrun⟩ := run_bind_ok.mp hrun
  obtain rfl := run_store_ok.mp hversion
  obtain ⟨_, s₂, htoken, hrun⟩ := run_bind_ok.mp hrun
  obtain rfl := run_writeConfig_ok.mp htoken
  have hrest : Modifies {k | k ∉ configSlots .token} (do
      store (.instanced (.tokenDecimals token)) tokenDecimals
      store (.instanced .acceptedTokens) [token]
      writeConfig .admin admin
      writeConfig .minTopup minTopup
      writeConfig .gracePeriod gracePeriod : Vault Unit) := by
    refine .bind (Modifies.store (by simp [configSlots])) fun _ => ?_
    refine .bind (Modifies.store (by simp [configSlots])) fun _ => ?_
    refine .bind (Modifies.writeConfig (by simp [configSlots]) (by simp [configSlots])) fun _ => ?_
    refine .bind (Modifies.writeConfig (by simp [configSlots]) (by simp [configSlots])) fun _ => ?_
    exact Modifies.writeConfig (by simp [configSlots]) (by simp [configSlots])
  have hcurrent : State.schemaVersion
      (FiniteStore.empty.write (.persistent .schemaVersion) storageVersion) = storageVersion := by
    simp [State.schemaVersion]
  have hlate : 3 ≤ State.schemaVersion
      (FiniteStore.empty.write (.persistent .schemaVersion) storageVersion) := by
    rw [hcurrent]
    decide
  have hwritten := State.config_writeConfig_of_le _ .token token hlate
  refine State.Settled.of_agreeOff ⟨?_, ?_⟩ (hrest.ok hrun) (fun k hk hnot => hnot hk)
  · have hslots := State.agreeOff_writeConfig (S := {.persistent .token, .instanced .token})
      (FiniteStore.empty.write (.persistent .schemaVersion) storageVersion) .token token
      (by simp) (by simp)
    rw [State.schemaVersion_of_agreeOff hslots (by simp) (by simp), hcurrent]
  · rw [hwritten]
    rfl

theorem Deployed.feeEntry_unset (h : Deployed s) {k : Slot} {α : Type} [Holds Slot.Val k α]
    (hk : k.isFeeEntry = true) : s.read k = none := by
  obtain ⟨env, token, tokenDecimals, admin, minTopup, gracePeriod, hrun⟩ := h
  have hinit : Modifies {k : Slot | k.isFeeEntry = false}
      (doInit token tokenDecimals admin minTopup gracePeriod) :=
    .bind .ask fun _ => .bind Modifies.getState fun _ => .bind (.failIf _ _) fun _ =>
      .bind (.failIf _ _) fun _ => .bind (.failIf _ _) fun _ => .bind (.failIf _ _) fun _ =>
      .bind (Modifies.store rfl) fun _ => .bind (Modifies.writeConfig rfl rfl) fun _ =>
      .bind (Modifies.store rfl) fun _ => .bind (Modifies.store rfl) fun _ =>
      .bind (Modifies.writeConfig rfl rfl) fun _ => .bind (Modifies.writeConfig rfl rfl) fun _ =>
      Modifies.writeConfig rfl rfl
  rw [(hinit.ok hrun).read (by simp [hk])]
  exact FiniteStore.read_empty

theorem Deployed.proposal (h : Deployed s) (id : Nat) : s.proposal id = none :=
  h.feeEntry_unset (k := .persistent (.proposal id)) rfl

theorem Deployed.treasury (h : Deployed s) : TreasuryInvariant [] s := by
  have hfee : s.protocolFeeBps = 0 := by
    simp [State.protocolFeeBps, State.config, h.feeEntry_unset (k := .persistent .feeBps) rfl,
      h.feeEntry_unset (k := .instanced .feeBps) rfl]
  refine ⟨h.settled, hfee ▸ Nat.zero_le _, fun id p hstored => ?_, fun p hp => ?_⟩
  · have hstored : s.proposal id = some p := hstored
    rw [h.proposal] at hstored
    cases hstored
  · have hnone : s.pendingTreasuryChange = none :=
      h.feeEntry_unset (k := .persistent .pendingTreasuryChange) rfl
    rw [hnone] at hp
    cases hp

/-- In every run the fee rate stays within its maximum. Where every change that is queued repeats
the terms in force, these change only by executing a pending change after its delay, or by
governance. -/
theorem treasury_timelocked (hdeployed : Deployed start) (hrun : Run FeeStep start hist s) :
    s.protocolFeeBps ≤ maxProtocolFeeBips ∧
      ((∀ step ∈ hist, step.1.QueuesInForce step.2) → ∀ l t, FeeStep l s t → l.QueuesInForce s →
        t.feeTerms ≠ s.feeTerms → FeeChangeJustified l hist s t) := by
  have hinvariant : TreasuryInvariant hist s :=
    hrun.invariant hdeployed.treasury fun _ _ _ _ h hstep => h.step hstep
  exact ⟨hinvariant.capped, fun hguard l t hstep hlast =>
    hstep.justified hinvariant hguard hlast⟩

private def feeSubmitted : AdminCall :=
  .submitProposal ⟨.setProtocolFee, ⟨8⟩, some ⟨7⟩, 250⟩ 6700 172800

private def feeProposed : State := feeSubmitted.exec.after (sampleEnv 0 [⟨8⟩]) (sampleStart 0)

/-- A fee proposal executed at its ETA. -/
theorem treasury_timelocked_governed :
    ∃ (hist : History FeeAction State) (s t : State), Run FeeStep (sampleStart 0) hist s ∧
      FeeStep (.call (sampleEnv 172800 []) (.executeProposal 0)) s t ∧ t.protocolFeeBps = 250 ∧
      FeeChangeJustified (.call (sampleEnv 172800 []) (.executeProposal 0)) hist s t := by
  have hsubmit : feeSubmitted.exec.run (sampleEnv 0 [⟨8⟩]) (sampleStart 0) = .ok () feeProposed :=
    run_eq_after (by decide +kernel)
  have hrun : Run FeeStep (sampleStart 0)
      [(.call (sampleEnv 0 [⟨8⟩]) feeSubmitted, sampleStart 0)] feeProposed :=
    .next .start (.call hsubmit)
  have hexecute : FeeStep (.call (sampleEnv 172800 []) (.executeProposal 0)) feeProposed
      ((AdminCall.executeProposal 0).exec.after (sampleEnv 172800 []) feeProposed) :=
    .call (run_eq_after (by decide +kernel))
  refine ⟨_, _, _, hrun, hexecute, by decide +kernel, ?_⟩
  refine (treasury_timelocked (sample_deployed 0) hrun).2 ?_ _ _ hexecute trivial (by decide +kernel)
  intro step hmem
  obtain rfl := List.mem_singleton.mp hmem
  trivial

/-- The values are in force as soon as the change is queued. -/
theorem queued_change_in_force :
    ∃ (start t : State) (l : FeeAction), Deployed start ∧ FeeStep l start t ∧
      t.feeTerms ≠ start.feeTerms ∧ ¬FeeChangeJustified l [] start t := by
  have hqueue : FeeStep (.call (sampleEnv 0 [⟨8⟩]) (.queueTreasuryChange ⟨8⟩ ⟨7⟩ 500))
      (sampleStart 0) ((AdminCall.queueTreasuryChange ⟨8⟩ ⟨7⟩ 500).exec.after
        (sampleEnv 0 [⟨8⟩]) (sampleStart 0)) := .call (run_eq_after (by decide +kernel))
  refine ⟨_, _, _, sample_deployed 0, hqueue, by decide +kernel, ?_⟩
  rintro (⟨env, admin, p, hexecute, -⟩ | ⟨env, call, -, id, p, hstored, -⟩)
  · cases hexecute
  · rw [(sample_deployed 0).proposal] at hstored
    cases hstored

end Runs

end SubscriptionVault
