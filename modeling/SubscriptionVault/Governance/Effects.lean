import SubscriptionVault.Governance.Matching

/-!
# Executed proposals and their actions

Execution of a proposal performs the action itself for most kinds; recoveries and token changes
are left to the administration call that consumes the proposal. Whoever executes one of those
directly marks it executed with nothing done. Leaving that aside, the flag is set only by the
admin's cancellation or along with the action.
-/

namespace SubscriptionVault

open Exec

/-! ## Actions -/

/-- The kinds whose action is left to the call that consumes the proposal. -/
def ProposalKind.LeftToCaller (kind : ProposalKind) : Prop :=
  kind = .recoverStrandedFunds ∨ kind = .addAcceptedToken ∨ kind = .removeAcceptedToken

/-- The entry `writeConfig` writes. -/
def State.writtenConfig {α : Type} (s : State) (key : DataKey) [Holds DataKey.Val key α] :
    Option α :=
  if 3 ≤ s.schemaVersion then s.read (.persistent key) else s.read (.instanced key)

/-- The step from `s` to `t` has performed the proposal's action. -/
def Performed (l : AdminAction) (s t : State) (p : Proposal) : Prop :=
  match p.kind with
  | .rotateAdmin => t.writtenConfig .admin = some p.target
  | .setProtocolFee =>
    t.writtenConfig .feeBps = some p.target3 ∧
      ∀ treasury, p.target2 = some treasury → t.writtenConfig .treasury = some treasury
  | .upgradeContract => False
  | .emergencyStop => t.writtenConfig .emergencyStop = some (decide (p.target3 ≠ 0))
  | .setDisputeWindow => t.writtenConfig .disputeWindowSecs = some p.target3
  | .setOracleConfig =>
    ∃ config : OracleConfig, t.writtenConfig .oracle = some config ∧
      config.oracle = some p.target
  | .recoverStrandedFunds =>
    ∃ env admin token amount recoveryId,
      l = .call env (.recoverStrandedFunds admin token p.target amount recoveryId) ∧
        p.target2 = some token ∧ p.target3 = amountU32 amount ∧
        t.balanceOf = (s.transferred token env.host.contract p.target amount).balanceOf
  | .addAcceptedToken =>
    (∃ env admin, l = .call env (.addAcceptedToken admin p.target p.target3)) ∧
      t.isTokenAccepted p.target = true
  | .removeAcceptedToken =>
    (∃ env admin, l = .call env (.removeAcceptedToken admin p.target)) ∧
      t.isTokenAccepted p.target = false

/-- The admin cancels proposal `id`. -/
def CancelledByAdmin (id : Nat) (l : AdminAction) (s : State) : Prop :=
  ∃ env admin, l = .call env (.cancelProposal id) ∧ s.AdminAuth env admin

/-- The step marks proposal `id` executed. -/
def MarkedExecuted (id : Nat) (p : Proposal) (s t : State) : Prop :=
  s.proposal id = some p ∧ p.executed = false ∧
    ∃ p', t.proposal id = some p' ∧ p'.executed = true

/-- Nobody executes a recovery or a token change directly. -/
def AdminAction.LeavesToCaller (l : AdminAction) (s : State) : Prop :=
  match l with
  | .call _ (.executeProposal id) => ∀ p, s.proposal id = some p → ¬p.kind.LeftToCaller
  | .call _ (.submitProposal _ _ _) => s.currentProposalId < u64Max
  | _ => True

/-! ## Slots -/

section Slots

variable {α β : Type} {s t : State} {key key' : DataKey}

theorem State.writtenConfig_of_agreeOff {S : Set Slot} [Holds DataKey.Val key α]
    (h : FiniteStore.AgreeOff S s t) (hS : ∀ k ∈ configSlots key, k ∉ S) :
    t.writtenConfig key = s.writtenConfig key := by
  unfold State.writtenConfig
  rw [h.read (hS (.persistent key) (by simp [configSlots])),
    h.read (hS (.instanced key) (by simp [configSlots])),
    State.schemaVersion_of_agreeOff h (hS _ (by simp [configSlots]))
      (hS _ (by simp [configSlots]))]

theorem State.writtenConfig_write_of_ne [Holds DataKey.Val key α] (s : State) {k : Slot}
    [Holds Slot.Val k β] (v : β) (hk : k ∉ configSlots key) :
    State.writtenConfig (s.write k v) key = s.writtenConfig key :=
  State.writtenConfig_of_agreeOff (s.agreeOff_write v (Set.mem_singleton k))
    fun j hj heq => hk (by rwa [Set.mem_singleton_iff.mp heq] at hj)

theorem State.schemaVersion_writeConfig [Holds DataKey.Val key α] (s : State) (v : α)
    (hkey : key ≠ .schemaVersion) : (s.writeConfig key v).schemaVersion = s.schemaVersion := by
  have hslots : FiniteStore.AgreeOff {.persistent key, .instanced key} s (s.writeConfig key v) :=
    s.agreeOff_writeConfig key v (by simp) (by simp)
  exact State.schemaVersion_of_agreeOff hslots (by simp [hkey.symm]) (by simp [hkey.symm])

theorem State.writtenConfig_writeConfig [Holds DataKey.Val key α] (s : State) (v : α)
    (hkey : key ≠ .schemaVersion) : (s.writeConfig key v).writtenConfig key = some v := by
  unfold State.writtenConfig
  rw [s.schemaVersion_writeConfig v hkey]
  by_cases h : 3 ≤ s.schemaVersion <;> simp [State.writeConfig, h]

theorem State.writtenConfig_writeConfig_of_ne [Holds DataKey.Val key α]
    [Holds DataKey.Val key' β] (s : State) (v : β) (hkey' : key' ≠ .schemaVersion)
    (hne : key ≠ key') : (s.writeConfig key' v).writtenConfig key = s.writtenConfig key := by
  have hslots : FiniteStore.AgreeOff {.persistent key', .instanced key'} s
      (s.writeConfig key' v) := s.agreeOff_writeConfig key' v (by simp) (by simp)
  refine State.writtenConfig_of_agreeOff hslots ?_
  intro k hk
  simp only [configSlots, Set.mem_insert_iff, Set.mem_singleton_iff] at hk ⊢
  rcases hk with rfl | rfl | rfl | rfl <;> simp [hne, hkey'.symm]

end Slots

/-- The slots the accepted tokens and the token balances are read from. -/
def Slot.isTokenSlot : Slot → Bool
  | .instanced (.tokenDecimals _) | .tokenBalance _ _ => true
  | _ => false

abbrev tokenFree : Set Slot := {k | k.isTokenSlot = false}

theorem State.isTokenAccepted_of_tokenFree {s t : State}
    (h : FiniteStore.AgreeOff tokenFree s t) : t.isTokenAccepted = s.isTokenAccepted := by
  funext token
  unfold State.isTokenAccepted
  rw [h.read (k := .instanced (.tokenDecimals token)) (by simp [Slot.isTokenSlot])]

theorem State.balanceOf_of_tokenFree {s t : State}
    (h : FiniteStore.AgreeOff tokenFree s t) : t.balanceOf = s.balanceOf := by
  funext token holder
  unfold State.balanceOf
  rw [h.read (k := .tokenBalance token holder) (by simp [Slot.isTokenSlot])]

theorem applyProposal_tokenFree (p : Proposal) : Modifies tokenFree (applyProposal p) := by
  unfold applyProposal
  split
  · exact .bind (Modifies.writeConfig rfl rfl) fun _ => .bind Modifies.getState fun _ =>
      Modifies.store rfl
  · exact .bind (Modifies.writeConfig rfl rfl) fun _ =>
      .whenSome fun _ => Modifies.writeConfig rfl rfl
  · exact .fail _
  · exact Modifies.writeConfig rfl rfl
  · exact .pure _
  · exact .pure _
  · exact .pure _
  · exact .bind (.failIf _ _) fun _ => Modifies.writeConfig rfl rfl
  · exact .bind Modifies.getState fun _ => Modifies.writeConfig rfl rfl

theorem doExecuteProposal_tokenFree (id : Nat) : Modifies tokenFree (doExecuteProposal id) := by
  unfold doExecuteProposal ensureProposalNotInvalidated
  refine .bind .ask fun _ => .bind Modifies.getState fun _ => .bind (.okOr _ _) fun _ => ?_
  refine .bind (.bind Modifies.getState fun _ => .failIf _ _) fun _ => .bind (.failIf _ _) ?_
  intro _
  generalize checkedAddU64 _ _ = minExecutionTime
  refine .bind (.okOr _ _) fun _ => .bind (.failIf _ _) fun _ => ?_
  refine .bind (.failIf _ _) fun _ => .bind (.failIf _ _) fun _ => ?_
  exact .bind (applyProposal_tokenFree _) fun _ => Modifies.store rfl

theorem consumeMultisigProposal_tokenFree (id : Nat) :
    Modifies tokenFree (consumeMultisigProposal id) := by
  unfold consumeMultisigProposal
  split
  · exact .pure _
  · exact doExecuteProposal_tokenFree id

/-! ## Execution performs the action -/

section Execution

variable {r : Env} {s t v w x : State} {u : Unit} {id : Nat} {p : Proposal}

/-- An applied proposal's action is done, unless it is left to the caller. -/
theorem applyProposal_performed (hrun : (applyProposal p).run r s = .ok u t)
    (hkind : ¬p.kind.LeftToCaller) (l : AdminAction) (start : State) :
    Performed l start t p := by
  unfold applyProposal at hrun
  unfold Performed
  cases hk : p.kind with
  | recoverStrandedFunds => exact absurd (.inl hk) hkind
  | addAcceptedToken => exact absurd (.inr (.inl hk)) hkind
  | removeAcceptedToken => exact absurd (.inr (.inr hk)) hkind
  | rotateAdmin =>
    simp only [hk, invalidatePendingProposals, run_bind_ok, run_writeConfig_ok, run_getState_ok,
      run_store_ok] at hrun
    obtain ⟨_, _, rfl, _, _, ⟨rfl, rfl⟩, rfl⟩ := hrun
    exact (State.writtenConfig_write_of_ne _ _ (by simp [configSlots])).trans
      (s.writtenConfig_writeConfig p.target (by simp))
  | setProtocolFee =>
    simp only [hk, run_bind_ok, run_writeConfig_ok] at hrun
    obtain ⟨_, _, rfl, hrun⟩ := hrun
    cases htreasury : p.target2 with
    | none =>
      rw [htreasury] at hrun
      obtain ⟨-, rfl⟩ := run_pure_ok.mp hrun
      refine ⟨s.writtenConfig_writeConfig p.target3 (by simp), ?_⟩
      rintro treasury ⟨⟩
    | some treasury =>
      rw [htreasury] at hrun
      obtain rfl := run_writeConfig_ok.mp hrun
      constructor
      · exact (State.writtenConfig_writeConfig_of_ne _ treasury (by simp) (by simp)).trans
          (s.writtenConfig_writeConfig p.target3 (by simp))
      · rintro _ ⟨⟩
        exact State.writtenConfig_writeConfig _ treasury (by simp)
  | upgradeContract =>
    rw [hk] at hrun
    exact (run_fail_ok.mp hrun).elim
  | emergencyStop =>
    rw [hk] at hrun
    obtain rfl := run_writeConfig_ok.mp hrun
    exact s.writtenConfig_writeConfig _ (by simp)
  | setDisputeWindow =>
    rw [hk] at hrun
    simp only [applyDisputeWindowSecs, run_bind_ok, run_failIf_ok, run_writeConfig_ok] at hrun
    obtain ⟨_, _, ⟨-, rfl⟩, rfl⟩ := hrun
    exact s.writtenConfig_writeConfig _ (by simp)
  | setOracleConfig =>
    rw [hk] at hrun
    simp only [setOracleAddress, run_bind_ok, run_getState_ok, run_writeConfig_ok] at hrun
    obtain ⟨_, _, ⟨rfl, rfl⟩, rfl⟩ := hrun
    exact ⟨_, s.writtenConfig_writeConfig _ (by simp), rfl⟩

/-- Marking a proposal executed undoes no action. -/
theorem Performed.write_proposal {l : AdminAction} (h : Performed l s t p) (q : Proposal) :
    Performed l s (t.write (.persistent (.proposal id)) q) p := by
  have htokens : FiniteStore.AgreeOff tokenFree t (t.write (.persistent (.proposal id)) q) :=
    t.agreeOff_write q rfl
  have hconfig {α : Type} {key : DataKey} [Holds DataKey.Val key α]
      (hkey : key ≠ .proposal id) :
      State.writtenConfig (t.write (.persistent (.proposal id)) q) key =
        t.writtenConfig key :=
    State.writtenConfig_write_of_ne t q (by simp [configSlots, hkey.symm])
  unfold Performed at h ⊢
  cases hk : p.kind <;> simp only [hk] at h ⊢ <;>
    simpa [hconfig, State.isTokenAccepted_of_tokenFree htokens,
      State.balanceOf_of_tokenFree htokens] using h

theorem doExecuteProposal_performed (hrun : (doExecuteProposal id).run r s = .ok u t)
    (hstored : s.proposal id = some p) (hkind : ¬p.kind.LeftToCaller) (l : AdminAction)
    (start : State) : Performed l start t p := by
  simp only [doExecuteProposal, ensureProposalNotInvalidated, run_bind_ok, run_ask_ok,
    run_getState_ok, run_okOr_ok, run_failIf_ok, run_store_ok] at hrun
  obtain ⟨_, _, ⟨rfl, rfl⟩, _, _, ⟨rfl, rfl⟩, q, _, ⟨hq, rfl⟩, _, _, ⟨_, _, ⟨rfl, rfl⟩, -, rfl⟩,
    _, _, ⟨-, rfl⟩, _, _, ⟨-, rfl⟩, _, _, ⟨-, rfl⟩, _, _, ⟨-, rfl⟩, _, _, ⟨-, rfl⟩, _, v, happly,
    rfl⟩ := hrun
  obtain rfl : p = q := Option.some.inj (hstored.symm.trans hq)
  exact (applyProposal_performed happly hkind l start).write_proposal _

theorem not_marked_of_eq (h : t.proposal = s.proposal) : ¬MarkedExecuted id p s t := by
  rintro ⟨hstored, hfresh, p', hp', hexecuted⟩
  rw [h, hstored] at hp'
  obtain rfl := Option.some.inj hp'
  rw [hfresh] at hexecuted
  cases hexecuted

/-- When one entry changes, that is the one marked executed. -/
theorem marked_of_update {j : Nat} {q : Proposal} (hmarked : MarkedExecuted id p s t)
    (h : t.proposal = Function.update s.proposal j (some q)) :
    id = j ∧ q.executed = true := by
  obtain ⟨hstored, hfresh, p', hp', hexecuted⟩ := hmarked
  by_cases hj : id = j
  · subst hj
    rw [h, Function.update_self] at hp'
    obtain rfl := Option.some.inj hp'
    exact ⟨rfl, hexecuted⟩
  · rw [h, Function.update_of_ne hj, hstored] at hp'
    obtain rfl := Option.some.inj hp'
    rw [hfresh] at hexecuted
    cases hexecuted

theorem Registry.Executes.proposals_eq {g g' : Registry} {now j : Nat}
    (h : g.Executes now j g') : ∃ q, g.proposals j = some q ∧
      g'.proposals = Function.update g.proposals j (some { q with executed := true }) := by
  obtain ⟨q, hexec, ⟨-, _, -, rfl⟩ | ⟨-, rfl⟩⟩ := h
  · exact ⟨q, hexec.stored, rfl⟩
  · exact ⟨q, hexec.stored, rfl⟩

/-- The proposal consumed is the approved one, and its action is done or left to the caller. -/
theorem consumed_request {g : Registry} {request : Request} {j : Nat}
    (happroves : g.Approves r.now request j) (hg : g.proposals = s.proposal)
    (hbefore : w.proposal = s.proposal)
    (hconsume : (consumeMultisigProposal j).run r w = .ok u x)
    (hmarked : MarkedExecuted id p s x) :
    p.request = request ∧ (p.kind.LeftToCaller ∨ ∀ l start, Performed l start x p) := by
  unfold consumeMultisigProposal at hconsume
  split at hconsume
  · obtain ⟨-, rfl⟩ := run_pure_ok.mp hconsume
    exact absurd hmarked (not_marked_of_eq hbefore)
  rename_i hpos
  obtain ⟨q, hq, hproposals⟩ := (doExecuteProposal_spec hconsume).proposals_eq
  change w.proposal j = some q at hq
  change x.proposal = Function.update w.proposal j _ at hproposals
  rw [hbefore] at hq hproposals
  obtain ⟨rfl, -⟩ := marked_of_update hmarked hproposals
  obtain rfl : p = q := Option.some.inj (hmarked.1.symm.trans hq)
  constructor
  · rcases happroves with ⟨-, hzero⟩ | ⟨-, q, hmatching, -⟩
    · exact absurd hzero hpos
    · obtain ⟨hstored, hrequest, -⟩ := Registry.matching_spec hmatching
      rw [hg, hq] at hstored
      obtain rfl := Option.some.inj hstored
      exact hrequest
  · by_cases hkind : p.kind.LeftToCaller
    · exact .inl hkind
    · exact .inr fun l start =>
        doExecuteProposal_performed hconsume (by rw [hbefore, hq]) hkind l start

/-- What is consumed for a request that execution carries out is carried out. -/
theorem consumed_performed {g : Registry} {request : Request} {j : Nat}
    (happroves : g.Approves r.now request j) (hg : g.proposals = s.proposal)
    (hbefore : w.proposal = s.proposal)
    (hconsume : (consumeMultisigProposal j).run r w = .ok u x)
    (hmarked : MarkedExecuted id p s x) (hkind : ¬request.kind.LeftToCaller) (l : AdminAction)
    (start : State) : Performed l start x p := by
  obtain ⟨hrequest, hleft | hperformed⟩ :=
    consumed_request happroves hg hbefore hconsume hmarked
  · rw [← hrequest] at hkind
    exact absurd hleft hkind
  · exact hperformed l start

end Execution

/-! ## Calls that consume a proposal -/

section Consumers

variable {r : Env} {s t : State} {u : Unit} {id : Nat} {p : Proposal}

theorem proposal_of_modifies {α : Type} {y : Vault α} {a : α} (h : Modifies registryFree y)
    (hrun : y.run r s = .ok a t) : t.proposal = s.proposal :=
  congrArg Registry.proposals (h.registry hrun)

theorem doRotateAdmin_performed {currentAdmin newAdmin : Address} {nonce : Nat}
    (hrun : (doRotateAdmin currentAdmin newAdmin nonce).run r s = .ok u t)
    (hmarked : MarkedExecuted id p s t) (l : AdminAction) : Performed l s t p := by
  simp only [doRotateAdmin, run_bind_ok, run_ask_ok, run_requireAdminAuth_ok, run_failIf_ok,
    run_writeConfig_ok] at hrun
  obtain ⟨_, _, ⟨rfl, rfl⟩, _, _, ⟨-, rfl⟩, _, v, hnonce, _, _, ⟨-, rfl⟩, _, _, ⟨-, rfl⟩, j, _,
    happroval, _, w₁, hcooldown, _, _, rfl, _, w₂, hinvalidate, hconsume⟩ := hrun
  obtain ⟨rfl, happroves⟩ := requireMultisigApproval_spec happroval
  have hfirst := proposal_of_modifies (Modifies.checkAndAdvance rfl) hnonce
  have hsecond := proposal_of_modifies (Modifies.enforceConfigCooldown rfl) hcooldown
  obtain ⟨_, -, hrotated⟩ := rotated_of_writeConfig hinvalidate
  have hthird : w₂.proposal = w₁.proposal := congrArg Registry.proposals hrotated
  exact consumed_performed happroves hfirst (hthird.trans (hsecond.trans hfirst)) hconsume
    hmarked (by simp [ProposalKind.LeftToCaller]) l s

theorem queueTreasuryChange_performed {admin treasury : Address} {feeBps : Nat}
    (hrun : (queueTreasuryChange admin treasury feeBps).run r s = .ok u t)
    (hmarked : MarkedExecuted id p s t) (l : AdminAction) : Performed l s t p := by
  simp only [queueTreasuryChange, run_bind_ok, run_ask_ok, run_requireAdminAuth_ok,
    run_failIf_ok, run_load_ok, run_store_ok, run_writeConfig_ok] at hrun
  obtain ⟨_, _, ⟨rfl, rfl⟩, _, _, ⟨-, rfl⟩, _, _, ⟨-, rfl⟩, _, _, ⟨-, rfl⟩, _, _, ⟨-, rfl⟩, j, v,
    happroval, _, w₁, hpending, _, w₂, hcooldown, _, w₃, hfee, _, w₄, htreasury,
    hconsume⟩ := hrun
  obtain ⟨rfl, happroves⟩ := requireMultisigApproval_spec happroval
  have h₁ : FiniteStore.AgreeOff registryFree v w₁ :=
    hpending ▸ FiniteStore.agreeOff_write v _ rfl
  have h₂ : FiniteStore.AgreeOff registryFree w₁ w₂ :=
    (Modifies.enforceConfigCooldown (S := registryFree) rfl).ok hcooldown
  have h₃ : FiniteStore.AgreeOff registryFree w₂ w₃ :=
    hfee ▸ w₂.agreeOff_writeConfig .feeBps feeBps rfl rfl
  have h₄ : FiniteStore.AgreeOff registryFree w₃ w₄ :=
    htreasury ▸ w₃.agreeOff_writeConfig .treasury treasury rfl rfl
  have hbefore : w₄.proposal = v.proposal :=
    congrArg Registry.proposals (registry_of_agreeOff (((h₁.trans h₂).trans h₃).trans h₄))
  exact consumed_performed happroves rfl hbefore hconsume hmarked
    (by simp [ProposalKind.LeftToCaller]) l _

theorem switchEmergencyStop_performed {admin : Address} {enabled : Bool}
    (hrun : (switchEmergencyStop admin enabled).run r s = .ok u t)
    (hmarked : MarkedExecuted id p s t) (l : AdminAction) : Performed l s t p := by
  simp only [switchEmergencyStop, run_bind_ok, run_requireAdminAuth_ok, run_getState_ok] at hrun
  obtain ⟨_, _, ⟨-, rfl⟩, _, _, ⟨rfl, rfl⟩, hrun⟩ := hrun
  split at hrun
  · obtain ⟨-, rfl⟩ := run_pure_ok.mp hrun
    exact absurd hmarked (not_marked_of_eq rfl)
  · simp only [run_bind_ok, run_writeConfig_ok] at hrun
    obtain ⟨j, v, happroval, _, w₁, hcooldown, _, w₂, hwrite, hconsume⟩ := hrun
    obtain ⟨rfl, happroves⟩ := requireMultisigApproval_spec happroval
    have h₁ : FiniteStore.AgreeOff registryFree v w₁ :=
      (Modifies.enforceConfigCooldown (S := registryFree) rfl).ok hcooldown
    have h₂ : FiniteStore.AgreeOff registryFree w₁ w₂ :=
      hwrite ▸ w₁.agreeOff_writeConfig .emergencyStop enabled rfl rfl
    have hbefore : w₂.proposal = v.proposal :=
      congrArg Registry.proposals (registry_of_agreeOff (h₁.trans h₂))
    exact consumed_performed happroves rfl hbefore hconsume hmarked
      (by simp [ProposalKind.LeftToCaller]) l _

theorem addAcceptedToken_performed {env : Env} {admin token : Address} {decimals : Nat}
    (hrun : (addAcceptedToken admin token decimals).run r s = .ok u t)
    (hmarked : MarkedExecuted id p s t) :
    Performed (.call env (.addAcceptedToken admin token decimals)) s t p := by
  simp only [addAcceptedToken, run_bind_ok, run_requireAdminAuth_ok, run_getState_ok,
    run_store_ok] at hrun
  obtain ⟨_, _, ⟨-, rfl⟩, j, v, happroval, _, _, ⟨rfl, rfl⟩, _, w₁, hlist, _, w₂,
    hdecimals, hconsume⟩ := hrun
  obtain ⟨rfl, happroves⟩ := requireMultisigApproval_spec happroval
  have h₁ : FiniteStore.AgreeOff registryFree v w₁ :=
    Exec.Keeps.ok (.when (.bind (Modifies.enforceConfigCooldown (S := registryFree) rfl)
      fun _ => Modifies.store rfl)) hlist
  have h₂ : FiniteStore.AgreeOff registryFree w₁ w₂ :=
    hdecimals ▸ FiniteStore.agreeOff_write w₁ _ rfl
  have hbefore : w₂.proposal = v.proposal :=
    congrArg Registry.proposals (registry_of_agreeOff (h₁.trans h₂))
  obtain ⟨hrequest, -⟩ := consumed_request happroves rfl hbefore hconsume hmarked
  obtain ⟨hkind, htarget, -, htarget3⟩ := Request.mk.inj hrequest
  have haccepted : t.isTokenAccepted = w₂.isTokenAccepted :=
    State.isTokenAccepted_of_tokenFree ((consumeMultisigProposal_tokenFree j).ok hconsume)
  unfold Performed
  rw [hkind, htarget, htarget3]
  refine ⟨⟨env, admin, rfl⟩, ?_⟩
  rw [haccepted, ← hdecimals]
  simp [State.isTokenAccepted]

theorem removeAcceptedToken_performed {env : Env} {admin token : Address}
    (hrun : (removeAcceptedToken admin token).run r s = .ok u t)
    (hmarked : MarkedExecuted id p s t) :
    Performed (.call env (.removeAcceptedToken admin token)) s t p := by
  simp only [removeAcceptedToken, run_bind_ok, run_requireAdminAuth_ok, run_getState_ok,
    run_lift_ok, run_failIf_ok, run_delete_ok, run_store_ok] at hrun
  obtain ⟨_, _, ⟨-, rfl⟩, _, _, ⟨rfl, rfl⟩, _, _, ⟨-, rfl⟩, _, _, ⟨-, rfl⟩, _, _,
    ⟨-, rfl⟩, j, v, happroval, _, w₁, hcooldown, _, w₂, hdecimals, _, w₃, htokens,
    hconsume⟩ := hrun
  obtain ⟨rfl, happroves⟩ := requireMultisigApproval_spec happroval
  have h₁ : FiniteStore.AgreeOff registryFree v w₁ :=
    (Modifies.enforceConfigCooldown (S := registryFree) rfl).ok hcooldown
  have h₂ : FiniteStore.AgreeOff registryFree w₁ w₂ :=
    hdecimals ▸ FiniteStore.agreeOff_remove w₁ rfl
  have h₃ : FiniteStore.AgreeOff registryFree w₂ w₃ :=
    htokens ▸ FiniteStore.agreeOff_write w₂ _ rfl
  have hbefore : w₃.proposal = v.proposal :=
    congrArg Registry.proposals (registry_of_agreeOff ((h₁.trans h₂).trans h₃))
  obtain ⟨hrequest, -⟩ := consumed_request happroves rfl hbefore hconsume hmarked
  obtain ⟨hkind, htarget, -, -⟩ := Request.mk.inj hrequest
  have haccepted : t.isTokenAccepted = w₃.isTokenAccepted :=
    State.isTokenAccepted_of_tokenFree ((consumeMultisigProposal_tokenFree j).ok hconsume)
  unfold Performed
  rw [hkind, htarget]
  refine ⟨⟨env, admin, rfl⟩, ?_⟩
  rw [haccepted, ← htokens, ← hdecimals]
  simp [State.isTokenAccepted]

theorem doRecoverStrandedFunds_performed {admin token recipient : Address} {amount : Int}
    {recoveryId : Bytes}
    (hrun : (doRecoverStrandedFunds admin token recipient amount recoveryId).run r s = .ok u t)
    (hmarked : MarkedExecuted id p s t) :
    Performed (.call r (.recoverStrandedFunds admin token recipient amount recoveryId)) s t
      p := by
  simp only [doRecoverStrandedFunds, run_bind_ok, run_ask_ok, run_requireAdminAuth_ok,
    run_failIf_ok, run_load_ok, run_tokenBalance_ok, run_getState_ok, run_lift_ok,
    run_store_ok] at hrun
  obtain ⟨_, _, ⟨rfl, rfl⟩, _, _, ⟨-, rfl⟩, _, _, ⟨-, rfl⟩, j, v, happroval, _, _,
    ⟨-, rfl⟩, _, _, ⟨-, rfl⟩, _, _, ⟨-, rfl⟩, _, _, ⟨-, rfl⟩, _, _, ⟨-, rfl⟩, _, _, ⟨-, rfl⟩,
    _, w, hused, _, x, hconsume, htransfer⟩ := hrun
  obtain ⟨rfl, happroves⟩ := requireMultisigApproval_spec happroval
  have hregistry : FiniteStore.AgreeOff registryFree v w :=
    hused ▸ FiniteStore.agreeOff_write v true rfl
  have hbefore : w.proposal = v.proposal :=
    congrArg Registry.proposals (registry_of_agreeOff hregistry)
  have hafter : t.proposal = x.proposal :=
    proposal_of_modifies (Modifies.transfer (S := registryFree) rfl rfl) htransfer
  have hconsumed : MarkedExecuted id p v x := by
    unfold MarkedExecuted at hmarked
    rwa [hafter] at hmarked
  obtain ⟨hrequest, -⟩ := consumed_request happroves rfl hbefore hconsume hconsumed
  obtain ⟨hkind, htarget, htarget2, htarget3⟩ := Request.mk.inj hrequest
  have hbalances : x.balanceOf = v.balanceOf := by
    have hused : FiniteStore.AgreeOff tokenFree v w :=
      hused ▸ FiniteStore.agreeOff_write v true rfl
    rw [State.balanceOf_of_tokenFree ((consumeMultisigProposal_tokenFree j).ok hconsume),
      State.balanceOf_of_tokenFree hused]
  unfold Performed
  rw [hkind, htarget, htarget2, htarget3]
  obtain ⟨-, -, -, -, rfl⟩ := run_transfer_ok.mp htransfer
  exact ⟨_, admin, token, amount, recoveryId, rfl, rfl, rfl,
    State.balanceOf_transferred_congr hbalances _ _ _ _⟩

end Consumers

/-! ## Executed means effected -/

theorem AdminCall.Effect.proposals_eq {env : Env} {s t : State} {call : AdminCall}
    (h : call.Effect env s t.registry)
    (hquiet : match call with
      | .init _ _ _ _ _ | .proposeAdmin _ _ | .claimAdminRole _ | .cancelAdminProposal _
      | .addGuardian _ _ _ | .removeGuardian _ _ | .executeTreasuryChange _
      | .cancelTreasuryChange _ => True
      | _ => False) : t.proposal = s.proposal := by
  change t.registry.proposals = s.registry.proposals
  cases call with
  | init | proposeAdmin | cancelAdminProposal | removeGuardian => rw [h.2]
  | addGuardian => rw [h.2.2]
  | claimAdminRole =>
    obtain ⟨-, _, _, -, -, -, -, -, heq⟩ := h
    rw [heq]
    rfl
  | executeTreasuryChange | cancelTreasuryChange => rw [show t.registry = s.registry from h]
  | _ => exact hquiet.elim

/-- A step that marks a proposal executed is the admin's cancellation or has performed the
proposal's action. -/
theorem performed_of_marked {l : AdminAction} {s t : State} {id : Nat} {p : Proposal}
    (hstep : Guarded AdminAction.LeavesToCaller AdminStep l s t)
    (hmarked : MarkedExecuted id p s t) : CancelledByAdmin id l s ∨ Performed l s t p := by
  obtain ⟨hleft, ⟨hrun⟩ | ⟨heq⟩⟩ := hstep
  swap
  · exact absurd hmarked (not_marked_of_eq (congrArg Registry.proposals heq))
  rename_i env call
  have heffect := adminCall_effect hrun
  cases call with
  | init | proposeAdmin | claimAdminRole | cancelAdminProposal | addGuardian | removeGuardian
  | executeTreasuryChange | cancelTreasuryChange =>
    exact absurd hmarked (not_marked_of_eq (heffect.proposals_eq trivial))
  | rotateAdmin =>
    exact .inr (doRotateAdmin_performed (run_after_emergencyCheck hrun) hmarked _)
  | recoverStrandedFunds => exact .inr (doRecoverStrandedFunds_performed hrun hmarked)
  | queueTreasuryChange =>
    exact .inr (queueTreasuryChange_performed (run_after_rejectContractSelf hrun) hmarked _)
  | addAcceptedToken =>
    exact .inr (addAcceptedToken_performed (run_after_rejectContractSelf hrun) hmarked)
  | removeAcceptedToken => exact .inr (removeAcceptedToken_performed hrun hmarked)
  | enableEmergencyStop | disableEmergencyStop =>
    exact .inr (switchEmergencyStop_performed hrun hmarked _)
  | submitProposal =>
    obtain ⟨-, -, heq⟩ := heffect
    have hupdate := marked_of_update hmarked (congrArg Registry.proposals heq)
    cases hupdate.2
  | voteProposal j =>
    obtain ⟨_, q, -, -, hq, -, hfresh, -, heq⟩ := heffect
    have hupdate := marked_of_update hmarked (congrArg Registry.proposals heq)
    rw [show q.executed = true from hupdate.2] at hfresh
    cases hfresh
  | cancelProposal j =>
    obtain ⟨admin, q, hauth, -, -, heq⟩ := heffect
    obtain ⟨rfl, -⟩ := marked_of_update hmarked (congrArg Registry.proposals heq)
    exact .inl ⟨env, admin, rfl, hauth⟩
  | executeProposal j =>
    obtain ⟨q, hq, hproposals⟩ := Registry.Executes.proposals_eq heffect
    obtain ⟨rfl, -⟩ := marked_of_update hmarked hproposals
    exact .inr (doExecuteProposal_performed hrun hmarked.1 (hleft p hmarked.1) _ _)

/-! ## Approved proposals stay usable -/

/-- The guardians have approved the proposal, and it can still be carried out: by execution, or
for the kinds left to the caller by a call that finds it. -/
structure Registry.Usable (g : Registry) (id : Nat) (p : Proposal) : Prop where
  stored : g.proposals id = some p
  fresh : p.executed = false
  valid : g.cutoff ≤ id
  quorum : g.required p ≤ g.yes p
  found : p.kind.LeftToCaller → g.matching p.request = some (id, p)

def SignedByAdmin (l : AdminAction) (s : State) : Prop :=
  ∃ env call admin, l = .call env call ∧ s.AdminAuth env admin

/-- The step does not change the admin by another proposal or by a claim, and does not submit a
proposal that hides number `id` from the search. -/
def AdminAction.KeepsInReach (id : Nat) (l : AdminAction) (s : State) : Prop :=
  match l with
  | .call _ (.executeProposal j) =>
    ∀ q, s.proposal j = some q → q.kind = .rotateAdmin → j = id
  | .call _ (.claimAdminRole _) => False
  | .call _ (.submitProposal request _ _) =>
    ∀ p, s.proposal id = some p → p.kind.LeftToCaller →
      p.request ≠ request ∧ s.currentProposalId + 1 < id + 10
  | _ => True

section Usable

variable {g : Registry} {id j : Nat} {p q : Proposal}

theorem Registry.asks_put {request : Request} {k : Nat}
    (h : (g.put j { q with executed := true }).Asks request k) : g.Asks request k := by
  obtain ⟨q', hq', hrequest, hfresh⟩ := h
  by_cases hk : k = j
  · subst hk
    obtain rfl : _ = q' := by simpa [Registry.put] using hq'
    cases hfresh
  · exact ⟨q', by simpa [Registry.put, hk] using hq', hrequest, hfresh⟩

/-- Another proposal is executed. -/
theorem Registry.Usable.put_executed (h : g.Usable id p) (hne : id ≠ j) :
    (g.put j { q with executed := true }).Usable id p where
  stored := by simpa [Registry.put, hne] using h.stored
  fresh := h.fresh
  valid := h.valid
  quorum := h.quorum
  found hkind := by
    obtain ⟨hle, hten, -, hrequest, hfresh, hnewest⟩ :=
      Registry.matching_eq_some_iff.mp (h.found hkind)
    refine Registry.matching_eq_some_iff.mpr
      ⟨hle, hten, by simpa [Registry.put, hne] using h.stored, hrequest, hfresh, ?_⟩
    intro k hlt hk hasks
    exact hnewest k hlt hk (Registry.asks_put hasks)

/-- Another proposal is submitted, for something else and near enough. -/
theorem Registry.Usable.submit (h : g.Usable id p) (hnumbered : g.Numbered)
    (hwrap : g.nextProposalId < u64Max) (hnew : p.kind.LeftToCaller →
      p.request ≠ q.request ∧ g.nextProposalId + 1 < id + 10) :
    (Registry.put { g with nextProposalId := (g.nextProposalId + 1) % (u64Max + 1) }
      g.nextProposalId q).Usable id p := by
  have hlt : id < g.nextProposalId := hnumbered id p h.stored
  have hne : id ≠ g.nextProposalId := hlt.ne
  have hnext : (g.nextProposalId + 1) % (u64Max + 1) = g.nextProposalId + 1 :=
    Nat.mod_eq_of_lt (by omega)
  have hstored : (Registry.put
      { g with nextProposalId := (g.nextProposalId + 1) % (u64Max + 1) } g.nextProposalId
      q).proposals id = some p := by
    simpa [Registry.put, hne] using h.stored
  refine ⟨hstored, h.fresh, h.valid, h.quorum, fun hkind => ?_⟩
  obtain ⟨hother, hnear⟩ := hnew hkind
  obtain ⟨-, -, -, -, -, hnewest⟩ := Registry.matching_eq_some_iff.mp (h.found hkind)
  refine Registry.matching_eq_some_iff.mpr ⟨?_, ?_, hstored, rfl, h.fresh, ?_⟩
  · show id ≤ (g.nextProposalId + 1) % (u64Max + 1)
    omega
  · show (g.nextProposalId + 1) % (u64Max + 1) < id + 10
    omega
  · rintro k hk - ⟨q', hq', hrequest, hfresh⟩
    by_cases hkn : k = g.nextProposalId
    · subst hkn
      obtain rfl : q = q' := by simpa [Registry.put] using hq'
      exact hother hrequest.symm
    · have hold : g.proposals k = some q' := by simpa [Registry.put, hkn] using hq'
      have hkl : k < g.nextProposalId := hnumbered k q' hold
      exact hnewest k hk hkl.le ⟨q', hold, hrequest, hfresh⟩

/-- An approved proposal stays usable, unless the admin signs the step or it performs the
proposal's action. -/
theorem usable_of_step {l : AdminAction} {s t : State} (hnumbered : s.registry.Numbered)
    (hstep : Guarded AdminAction.LeavesToCaller AdminStep l s t) (hreach : l.KeepsInReach id s)
    (h : s.registry.Usable id p) :
    t.registry.Usable id p ∨ SignedByAdmin l s ∨ Performed l s t p := by
  have hmarked : MarkedExecuted id p s t → CancelledByAdmin id l s ∨ Performed l s t p :=
    performed_of_marked hstep
  obtain ⟨hleft, ⟨hrun⟩ | ⟨heq⟩⟩ := hstep
  swap
  · rw [heq]
    exact .inl h
  rename_i env call
  have heffect := adminCall_effect hrun
  have hsigned {admin : Address} (hauth : s.AdminAuth env admin) :
      SignedByAdmin (.call env call) s := ⟨env, call, admin, rfl, hauth⟩
  cases call with
  | init =>
    rw [heffect.2]
    exact .inl ⟨h.stored, h.fresh, h.valid, h.quorum, h.found⟩
  | rotateAdmin | proposeAdmin | cancelAdminProposal | addGuardian | removeGuardian =>
    exact .inr (.inl (hsigned heffect.1))
  | claimAdminRole => exact hreach.elim
  | submitProposal request =>
    rw [heffect.2.2]
    exact .inl (h.submit hnumbered hleft (hreach p h.stored))
  | voteProposal =>
    obtain ⟨_, _, hauth, -⟩ := heffect
    exact .inr (.inl (hsigned hauth))
  | cancelProposal =>
    obtain ⟨_, _, hauth, -⟩ := heffect
    exact .inr (.inl (hsigned hauth))
  | executeProposal j =>
    obtain ⟨q, hexec, hcases⟩ := heffect
    by_cases hid : id = j
    · subst hid
      obtain rfl : p = q := Option.some.inj (h.stored.symm.trans hexec.stored)
      have hexecuted : t.proposal id = some { p with executed := true } := by
        change t.registry.proposals id = _
        rcases hcases with ⟨-, _, -, heq⟩ | ⟨-, heq⟩ <;>
          rw [heq] <;> exact Function.update_self ..
      rcases hmarked ⟨h.stored, h.fresh, _, hexecuted, rfl⟩ with
        ⟨_, _, hcall, -⟩ | hperformed
      · cases hcall
      · exact .inr (.inr hperformed)
    · rcases hcases with ⟨hkind, -⟩ | ⟨-, heq⟩
      · exact absurd (hreach q hexec.stored hkind).symm hid
      · rw [heq]
        exact .inl (h.put_executed hid)
  | executeTreasuryChange | cancelTreasuryChange =>
    rw [show t.registry = s.registry from heffect]
    exact .inl h
  | recoverStrandedFunds | queueTreasuryChange | addAcceptedToken | removeAcceptedToken
  | enableEmergencyStop | disableEmergencyStop =>
    simp only [AdminCall.Effect] at heffect
    split at heffect
    · exact .inr (.inl (hsigned heffect.1))
    · rw [heffect]
      exact .inl h

end Usable

theorem leavesToCaller_numbered {hist : History AdminAction State} {s : State}
    (hrun : Run (Guarded AdminAction.LeavesToCaller AdminStep) FiniteStore.empty hist s) :
    s.registry.Numbered := by
  refine hrun.invariant_state (I := fun s => s.registry.Numbered) ?_ ?_
  · intro id p hp
    simp [State.registry, State.proposal] at hp
  · rintro l s t hnumbered ⟨hleft, ⟨hrun⟩ | ⟨heq⟩⟩
    · rename_i call
      refine (ProposalChange.of_effect (adminCall_effect hrun)).numbered hnumbered ?_
      intro hsubmission
      cases call <;> first | exact hleft | cases hsubmission
    · rwa [heq]

/-- In every run in which nobody executes a recovery or a token change directly, a proposal is
marked executed only by the admin's cancellation or along with its action, and an approved
proposal kept in reach stays usable until the admin signs a step or its action is performed. -/
theorem executed_means_effected {hist : History AdminAction State} {s t : State}
    {l : AdminAction} {id : Nat} {p : Proposal}
    (hrun : Run (Guarded AdminAction.LeavesToCaller AdminStep) FiniteStore.empty hist s)
    (hstep : Guarded AdminAction.LeavesToCaller AdminStep l s t) :
    (MarkedExecuted id p s t → CancelledByAdmin id l s ∨ Performed l s t p) ∧
      (l.KeepsInReach id s → s.registry.Usable id p →
        t.registry.Usable id p ∨ SignedByAdmin l s ∨ Performed l s t p) :=
  ⟨performed_of_marked hstep, usable_of_step (leavesToCaller_numbered hrun) hstep⟩

section Runs

private abbrev tokenApproved : List (Env × AdminCall) :=
  [(sampleEnv 1 [⟨1⟩], .voteProposal 0 true 0),
   (sampleEnv 0 [], .submitProposal ⟨.addAcceptedToken, ⟨20⟩, none, 6⟩ 6700 172800),
   (sampleEnv 0 [⟨1⟩], .addGuardian ⟨1⟩ ⟨1⟩ 10),
   (sampleEnv 0 [], .init ⟨10⟩ 7 ⟨1⟩ 100 86400)]

private abbrev stopApproved : List (Env × AdminCall) :=
  [(sampleEnv 1 [⟨1⟩], .voteProposal 0 true 0),
   (sampleEnv 0 [], .submitProposal ⟨.emergencyStop, ⟨1⟩, none, 1⟩ 6700 172800),
   (sampleEnv 0 [⟨1⟩], .addGuardian ⟨1⟩ ⟨1⟩ 10),
   (sampleEnv 0 [], .init ⟨10⟩ 7 ⟨1⟩ 100 86400)]

private abbrev executeFirst : AdminAction := .call (sampleEnv 172800 []) (.executeProposal 0)

/-- Anybody executes the approved emergency stop, and the vault is stopped. -/
theorem executed_means_effected_stop : ∃ t p, AdminStep executeFirst (callsAfter stopApproved) t ∧
    Performed executeFirst (callsAfter stopApproved) t p := by
  have hrun : Run (Guarded AdminAction.LeavesToCaller AdminStep) FiniteStore.empty
      (callHistory stopApproved) (callsAfter stopApproved) := by
    apply run_calls (by decide +kernel)
    intro step hmem
    simp only [callHistory, List.mem_cons, List.not_mem_nil, or_false] at hmem
    rcases hmem with rfl | rfl | rfl | rfl
    · trivial
    · have hcounter : (callsAfter (stopApproved.drop 2)).currentProposalId < u64Max := by
        decide +kernel
      exact hcounter
    · trivial
    · trivial
  have hexecute : AdminStep executeFirst (callsAfter stopApproved) _ :=
    .call (run_eq_after (by decide +kernel))
  have hpending : ((callsAfter stopApproved).proposal 0).any
      fun p => p.executed = false ∧ p.kind = .emergencyStop := by decide +kernel
  obtain ⟨p, hstored, hterms⟩ := (Option.any_eq_true _ _).mp hpending
  obtain ⟨hfresh, hkind⟩ := of_decide_eq_true hterms
  have hleft : executeFirst.LeavesToCaller (callsAfter stopApproved) := by
    intro q hq
    obtain rfl : p = q := Option.some.inj (hstored.symm.trans hq)
    simp [hkind, ProposalKind.LeftToCaller]
  have hexecuted : (((AdminCall.executeProposal 0).exec.after (sampleEnv 172800 [])
      (callsAfter stopApproved)).proposal 0).any (·.executed) := by decide +kernel
  obtain ⟨p', hp', hset⟩ := (Option.any_eq_true _ _).mp hexecuted
  have heffected := (executed_means_effected (p := p) hrun ⟨hleft, hexecute⟩).1
    ⟨hstored, hfresh, p', hp', hset⟩
  rcases heffected with ⟨_, _, hcall, -⟩ | hperformed
  · cases hcall
  · exact ⟨_, p, hexecute, hperformed⟩

/-- Anybody executes the approved addition of token 20: the proposal is spent, the token is not
added, and the admin finds no approval for adding it. -/
theorem executed_without_effect :
    ¬∀ (hist : History AdminAction State) (l : AdminAction) (s t : State) (id : Nat)
      (p : Proposal), Run AdminStep FiniteStore.empty hist s → AdminStep l s t →
        MarkedExecuted id p s t → CancelledByAdmin id l s ∨ Performed l s t p := by
  intro hall
  have hrun : Run (Guarded (fun _ _ => True) AdminStep) FiniteStore.empty
      (callHistory tokenApproved) (callsAfter tokenApproved) :=
    run_calls (by decide +kernel) fun _ _ => trivial
  have hexecute : AdminStep executeFirst (callsAfter tokenApproved) _ :=
    .call (run_eq_after (by decide +kernel))
  have hpending : ((callsAfter tokenApproved).proposal 0).any
      fun p => p.executed = false ∧ p.kind = .addAcceptedToken := by decide +kernel
  obtain ⟨p, hstored, hterms⟩ := (Option.any_eq_true _ _).mp hpending
  obtain ⟨hfresh, hkind⟩ := of_decide_eq_true hterms
  have hexecuted : (((AdminCall.executeProposal 0).exec.after (sampleEnv 172800 [])
      (callsAfter tokenApproved)).proposal 0).any (·.executed) := by decide +kernel
  obtain ⟨p', hp', hset⟩ := (Option.any_eq_true _ _).mp hexecuted
  rcases hall _ _ _ _ 0 p (hrun.mono fun _ _ _ h => h.2) hexecute
    ⟨hstored, hfresh, p', hp', hset⟩ with ⟨_, _, hcall, -⟩ | hperformed
  · cases hcall
  · unfold Performed at hperformed
    rw [hkind] at hperformed
    obtain ⟨⟨_, _, hcall⟩, -⟩ := hperformed
    cases hcall

end Runs

end SubscriptionVault
