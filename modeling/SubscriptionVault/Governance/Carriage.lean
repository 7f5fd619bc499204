import SubscriptionVault.Governance.Effects

/-!
# Approved actions and their calls

With guardians configured, an administration call goes through on an approved proposal exactly
when the search finds that proposal for the call and its number is not 0. Rotations and fee
changes never get that far: a rotation invalidates the proposal before consuming it, and a fee
proposal is searched for in a shape that submission refuses.
-/

namespace SubscriptionVault

open Exec

/-! ## Proposals and calls -/

/-- The call is the entrypoint for the proposal's kind, with the proposed targets and value. -/
def Proposal.AsksFor (p : Proposal) (call : AdminCall) : Prop :=
  match p.kind, call with
  | .rotateAdmin, .rotateAdmin _ newAdmin _ => newAdmin = p.target
  | .setProtocolFee, .queueTreasuryChange _ treasury feeBps =>
    p.target2 = some treasury ∧ feeBps = p.target3
  | .recoverStrandedFunds, .recoverStrandedFunds _ token recipient amount _ =>
    p.target2 = some token ∧ recipient = p.target ∧ amount = p.target3
  | .addAcceptedToken, .addAcceptedToken _ token decimals =>
    token = p.target ∧ decimals = p.target3
  | .removeAcceptedToken, .removeAcceptedToken _ token => token = p.target
  | _, _ => False

/-- The cooldown of a setting has run out. -/
def State.CooledDown (s : State) (now : Nat) (label : ConfigLabel) : Prop :=
  ¬(0 < (s.read (.persistent (.adminConfigLastChangedAt label))).getD 0 ∧
    now - (s.read (.persistent (.adminConfigLastChangedAt label))).getD 0 < configCooldownSecs)

instance (s : State) (now : Nat) (label : ConfigLabel) : Decidable (s.CooledDown now label) :=
  inferInstanceAs (Decidable (¬(_ ∧ _)))

/-- What the call requires besides the approval. -/
def AdminCall.Ready (env : Env) (s : State) : AdminCall → Prop
  | .rotateAdmin currentAdmin newAdmin nonce =>
    s.emergencyStop = false ∧ s.AdminAuth env currentAdmin ∧
      s.nonce currentAdmin .adminRotation = nonce ∧ nonce < u64Max ∧ newAdmin ≠ currentAdmin ∧
      newAdmin ≠ env.host.contract ∧ s.CooledDown env.now .admin
  | .queueTreasuryChange admin treasury feeBps =>
    s.AdminAuth env admin ∧ treasury ≠ env.host.contract ∧ feeBps ≤ maxProtocolFeeBips ∧
      s.read (.persistent .pendingTreasuryChange) = none ∧ s.CooledDown env.now .protocolFee
  | .recoverStrandedFunds admin token recipient amount recoveryId =>
    s.AdminAuth env admin ∧ 0 < amount ∧ s.read (.persistent (.recovery recoveryId)) = none ∧
      amount ≤ s.balanceOf token env.host.contract ∧
      InI128 (s.balanceOf token env.host.contract) ∧
      env.transferRefused token env.host.contract recipient amount = false
  | .addAcceptedToken admin token _ =>
    s.AdminAuth env admin ∧ token ≠ env.host.contract ∧
      (s.isTokenAccepted token = false → s.CooledDown env.now .acceptedTokens)
  | .removeAcceptedToken admin token =>
    s.AdminAuth env admin ∧ (∃ default, s.defaultToken = .ok default ∧ token ≠ default) ∧
      (∀ id ∈ s.tokenSubs token, ∀ sub, s.subscription id = some sub → sub.isLive = false) ∧
      s.CooledDown env.now .acceptedTokens
  | _ => False

/-- The proposal is pending, its ETA has passed, and the members' yes weight reaches its
effective quorum. -/
structure State.ApprovedAt (s : State) (now id : Nat) (p : Proposal) : Prop where
  stored : s.proposal id = some p
  fresh : p.executed = false
  valid : s.proposalCutoff ≤ id
  due : p.eta ≤ now
  reached : requiredVotes s.guardians p ≤ memberWeight s.guardians p true

/-- The shape the entrypoints search for. No fee change and no rotation has it. -/
def Proposal.Consumable (p : Proposal) : Prop :=
  match p.kind with
  | .recoverStrandedFunds => True
  | .addAcceptedToken => p.target2 = none
  | .removeAcceptedToken => p.target2 = none ∧ p.target3 = 0
  | _ => False

/-- The call succeeds, performs the action and leaves exactly proposal `id` executed. -/
def GoesThrough (env : Env) (s : State) (call : AdminCall) (id : Nat) (p : Proposal) : Prop :=
  ∃ t, call.exec.run env s = .ok () t ∧ Performed (.call env call) s t p ∧
    t.proposal = Function.update s.proposal id (some { p with executed := true })

/-! ## The quorum check of the search -/

theorem calculateTotalWeight_eq (guardians : AddressMap Nat) :
    calculateTotalWeight guardians =
      min (guardians.entries.map fun member => member.2).sum u32Max := by
  have hfold := foldl_saturating (fun member : Sigma fun _ : Address => Nat => member.2) u32Max
    guardians.entries (fun _ _ => Nat.zero_le _) (Nat.zero_le _) (fun _ _ _ _ _ => rfl)
    (Nat.le_refl 0)
  rw [Nat.zero_min, Nat.zero_add] at hfold
  exact hfold

theorem memberWeight_le (guardians : AddressMap Nat) (p : Proposal) (votedYes : Bool) :
    memberWeight guardians p votedYes ≤ (guardians.entries.map fun member => member.2).sum := by
  apply List.sum_le_sum
  intro member _
  split
  · exact le_rfl
  · exact Nat.zero_le _

/-- A proposal that reaches its effective quorum passes the check on the no votes. -/
theorem State.ApprovedAt.passes {s : State} {now id : Nat} {p : Proposal}
    (h : s.ApprovedAt now id p) (hquorum : p.quorumBps ≤ 10000) :
    (calculateQuorum s.guardians p).2 * p.quorumBps / 10000 ≤
      (calculateQuorum s.guardians p).1 := by
  have hno : (calculateQuorum s.guardians p).2 ≤ calculateTotalWeight s.guardians := by
    rw [calculateQuorum_eq, calculateTotalWeight_eq]
    exact min_le_min_right _ (memberWeight_le _ _ _)
  have hrequired : (calculateQuorum s.guardians p).2 * p.quorumBps / 10000 ≤
      requiredVotes s.guardians p := by
    rw [requiredVotes_eq hquorum]
    exact Nat.div_le_div_right (Nat.mul_le_mul hno (le_max_left _ _))
  have hle : requiredVotes s.guardians p ≤ u32Max :=
    Nat.le_of_lt_succ (Nat.mod_lt _ (Nat.succ_pos _))
  have hyes : requiredVotes s.guardians p ≤ (calculateQuorum s.guardians p).1 := by
    rw [calculateQuorum_eq]
    exact Nat.le_min.mpr ⟨h.reached, hle⟩
  exact hrequired.trans hyes

section Success

variable {env : Env} {s w : State} {id : Nat} {p : Proposal}

theorem approval_succeeds (h : s.ApprovedAt env.now id p) (hp : p.Submittable)
    (hguardians : s.guardians.entries ≠ [])
    (hmatching : s.registry.matching p.request = some (id, p)) :
    (requireMultisigApproval p.request).run env s = .ok id s := by
  have hdue := h.due
  have hpasses := h.passes hp.quorum
  simp only [requireMultisigApproval, run_bind_ok, run_ask_ok, run_getState_ok]
  refine ⟨_, _, ⟨rfl, rfl⟩, _, _, ⟨rfl, rfl⟩, ?_⟩
  rw [if_neg hguardians]
  simp only [run_bind_ok, run_okOr_ok, run_failIf_ok, run_pure_ok]
  exact ⟨(id, p), _, ⟨hmatching, rfl⟩, (), _, ⟨Nat.not_lt.mpr hdue, rfl⟩, (), _,
    ⟨Nat.not_lt.mpr hpasses, rfl⟩, rfl, rfl⟩

theorem consumption_succeeds (h : s.ApprovedAt env.now id p) (hp : p.Submittable)
    (hkind : p.kind ≠ .upgradeContract) (hid : id ≠ 0) (hsame : w.registry = s.registry) :
    ∃ x, (consumeMultisigProposal id).run env w = .ok () x := by
  have hproposal : w.proposal = s.proposal := congrArg Registry.proposals hsame
  have hcutoff : w.proposalCutoff = s.proposalCutoff := congrArg Registry.cutoff hsame
  have hguardians : w.guardians = s.guardians := congrArg Registry.guardians hsame
  unfold consumeMultisigProposal
  rw [if_neg hid]
  refine (execute_succeeds_iff hp ?_ ?_ h.fresh h.due ?_).mpr hkind
  · rw [hproposal]
    exact h.stored
  · rw [hcutoff]
    exact h.valid
  · rw [hguardians]
    exact h.reached

theorem run_cooldown {label : ConfigLabel} (hcooled : s.CooledDown env.now label) :
    (enforceConfigCooldown label).run env s =
      .ok () (s.write (.persistent (.adminConfigLastChangedAt label)) env.now) :=
  run_enforceConfigCooldown_ok.mpr ⟨hcooled, rfl⟩

theorem addAcceptedToken_succeeds {admin : Address} (h : s.ApprovedAt env.now id p)
    (hp : p.Submittable) (hguardians : s.guardians.entries ≠ [])
    (hkind : p.kind = .addAcceptedToken) (htarget2 : p.target2 = none) (hid : id ≠ 0)
    (hmatching : s.registry.matching p.request = some (id, p))
    (hready : (AdminCall.addAcceptedToken admin p.target p.target3).Ready env s) :
    ∃ t, (AdminCall.addAcceptedToken admin p.target p.target3).exec.run env s = .ok () t := by
  obtain ⟨hauth, hself, hcooled⟩ := hready
  have hrequest : p.request = ⟨.addAcceptedToken, p.target, none, p.target3⟩ := by
    simp only [Proposal.request, hkind, htarget2]
  have happroval := approval_succeeds h hp hguardians hmatching
  rw [hrequest] at happroval
  obtain ⟨v, hlist, hv⟩ : ∃ v, (when (s.isTokenAccepted p.target = false) do
      enforceConfigCooldown .acceptedTokens
      store (.instanced .acceptedTokens) (s.acceptedTokens ++ [p.target])).run env s = .ok () v ∧
      v.registry = s.registry := by
    by_cases haccepted : s.isTokenAccepted p.target = false
    · refine ⟨_, run_when_ok.mpr (.inl ⟨haccepted, run_bind_ok.mpr
        ⟨(), _, run_cooldown (hcooled haccepted), run_store_ok.mpr rfl⟩⟩), ?_⟩
      rw [registry_write_of_free _ _ rfl, registry_write_of_free _ _ rfl]
    · exact ⟨s, run_when_ok.mpr (.inr ⟨haccepted, rfl⟩), rfl⟩
  obtain ⟨t, hconsume⟩ := consumption_succeeds (w := v.write (.instanced (.tokenDecimals p.target))
    p.target3) h hp (by simp [hkind]) hid
    ((registry_write_of_free v _ rfl).trans hv)
  refine ⟨t, ?_⟩
  simp only [AdminCall.exec, rejectContractSelf, addAcceptedToken, run_bind_ok, run_ask_ok,
    run_failIf_ok, run_requireAdminAuth_ok, run_getState_ok, run_store_ok]
  exact ⟨(), s, ⟨_, s, ⟨rfl, rfl⟩, hself, rfl⟩, (), s, ⟨hauth, rfl⟩, id, s, happroval, _, s,
    ⟨rfl, rfl⟩, (), v, hlist, (), _, rfl, hconsume⟩

theorem removeAcceptedToken_succeeds {admin : Address} (h : s.ApprovedAt env.now id p)
    (hp : p.Submittable) (hguardians : s.guardians.entries ≠ [])
    (hkind : p.kind = .removeAcceptedToken) (htarget2 : p.target2 = none)
    (htarget3 : p.target3 = 0) (hid : id ≠ 0)
    (hmatching : s.registry.matching p.request = some (id, p))
    (hready : (AdminCall.removeAcceptedToken admin p.target).Ready env s) :
    ∃ t, (AdminCall.removeAcceptedToken admin p.target).exec.run env s = .ok () t := by
  obtain ⟨hauth, ⟨default, hdefault, hother⟩, hunused, hcooled⟩ := hready
  have hrequest : p.request = ⟨.removeAcceptedToken, p.target, none, 0⟩ := by
    simp only [Proposal.request, hkind, htarget2, htarget3]
  have happroval := approval_succeeds h hp hguardians hmatching
  rw [hrequest] at happroval
  have hidle : ¬((s.tokenSubs p.target).any
      fun id => (s.subscription id).any (·.isLive)) = true := by
    rw [List.any_eq_true]
    rintro ⟨subId, hmem, hlive⟩
    obtain ⟨sub, hsub, hlive⟩ := (Option.any_eq_true _ _).mp hlive
    rw [hunused subId hmem sub hsub] at hlive
    cases hlive
  let cooled := s.write (.persistent (.adminConfigLastChangedAt .acceptedTokens)) env.now
  let removed := cooled.remove (.instanced (.tokenDecimals p.target))
  have hsame : State.registry (removed.write (.instanced .acceptedTokens)
      (s.acceptedTokens.filter (· ≠ p.target))) = s.registry := by
    rw [registry_write_of_free _ _ rfl, registry_remove_of_free _ rfl,
      registry_write_of_free _ _ rfl]
  obtain ⟨t, hconsume⟩ := consumption_succeeds h hp (by simp [hkind]) hid hsame
  refine ⟨t, ?_⟩
  simp only [AdminCall.exec, removeAcceptedToken, run_bind_ok, run_failIf_ok,
    run_requireAdminAuth_ok, run_getState_ok, run_lift_ok, run_delete_ok, run_store_ok]
  exact ⟨(), s, ⟨hauth, rfl⟩, _, s, ⟨rfl, rfl⟩, default, s, ⟨hdefault, rfl⟩, (), s,
    ⟨hother, rfl⟩, (), s, ⟨hidle, rfl⟩, id, s, happroval, (), cooled, run_cooldown hcooled, (),
    removed, rfl, (), _, rfl, hconsume⟩

theorem recoverStrandedFunds_succeeds {admin token : Address} {recoveryId : Bytes}
    (h : s.ApprovedAt env.now id p) (hp : p.Submittable)
    (hguardians : s.guardians.entries ≠ []) (hkind : p.kind = .recoverStrandedFunds)
    (htarget2 : p.target2 = some token) (hid : id ≠ 0)
    (hmatching : s.registry.matching p.request = some (id, p))
    (hready : (AdminCall.recoverStrandedFunds admin token p.target p.target3
      recoveryId).Ready env s) :
    ∃ t, (AdminCall.recoverStrandedFunds admin token p.target p.target3 recoveryId).exec.run env
      s = .ok () t := by
  obtain ⟨hauth, hpos, hunused, hheld, hfits, haccepts⟩ := hready
  have hamount : amountU32 p.target3 = p.target3 := by
    have hle := hp.value
    rw [amountU32, if_neg (by omega)]
    exact Int.toNat_natCast _
  have hrequest : p.request = ⟨.recoverStrandedFunds, p.target, some token,
      amountU32 p.target3⟩ := by
    simp only [Proposal.request, hkind, htarget2, hamount]
  have happroval := approval_succeeds h hp hguardians hmatching
  rw [hrequest] at happroval
  let used : State := s.write (.persistent (.recovery recoveryId)) true
  obtain ⟨x, hconsume⟩ := consumption_succeeds (w := used) h hp (by simp [hkind]) hid
    (registry_write_of_free s _ rfl)
  have hbalances : x.balanceOf = s.balanceOf := by
    have hused : FiniteStore.AgreeOff tokenFree s used := FiniteStore.agreeOff_write s true rfl
    rw [State.balanceOf_of_tokenFree ((consumeMultisigProposal_tokenFree id).ok hconsume),
      State.balanceOf_of_tokenFree hused]
  refine ⟨x.transferred token env.host.contract p.target p.target3, ?_⟩
  simp only [AdminCall.exec, doRecoverStrandedFunds, run_bind_ok, run_ask_ok,
    run_requireAdminAuth_ok, run_failIf_ok, run_load_ok, run_tokenBalance_ok, run_getState_ok,
    run_lift_ok, run_store_ok, run_transfer_ok]
  refine ⟨_, s, ⟨rfl, rfl⟩, (), s, ⟨hauth, rfl⟩, (), s, ⟨Int.not_le.mpr hpos, rfl⟩, id, s,
    happroval, none, s, ⟨hunused, rfl⟩, (), s, ⟨by simp, rfl⟩, _, s, ⟨rfl, rfl⟩, _, s,
    ⟨rfl, rfl⟩, s.balanceOf token env.host.contract, s, ⟨?_, rfl⟩, (), s,
    ⟨Int.not_lt.mpr hheld, rfl⟩, (), used, rfl, (), x, hconsume, .inl rfl, hpos.le, haccepts, ?_,
    rfl⟩
  · simpa [State.totalAccounted] using hfits
  · rw [hbalances]
    exact hheld

end Success

/-! ## When a call goes through -/

section GoesThrough

variable {env : Env} {s t : State} {call : AdminCall} {admin : Address} {request : Request}
  {id : Nat} {p : Proposal}

/-- The search finds the proposal exactly when it is near enough and no newer one asks for the
same. -/
theorem matching_iff_of_numbered (hnumbered : s.registry.Numbered)
    (hstored : s.proposal id = some p) (hfresh : p.executed = false) :
    s.registry.matching p.request = some (id, p) ↔
      s.currentProposalId < id + 10 ∧ ∀ j, id < j → ¬s.registry.Asks p.request j := by
  rw [Registry.matching_eq_some_iff]
  constructor
  · rintro ⟨-, hnear, -, -, -, hnewest⟩
    refine ⟨hnear, ?_⟩
    intro j hj hasks
    have hlt : j < s.currentProposalId := by
      obtain ⟨q, hq, -⟩ := hasks
      exact hnumbered j q hq
    exact hnewest j hj hlt.le hasks
  · rintro ⟨hnear, hnewest⟩
    have hlt := hnumbered id p hstored
    exact ⟨hlt.le, hnear, hstored, rfl, hfresh, fun j hj _ => hnewest j hj⟩

/-- A gated call that marks the proposal executed has found it. -/
theorem matched_of_gated (hgated : Gated env s admin request t.registry)
    (hkind : request.kind ≠ .rotateAdmin) (hmarked : MarkedExecuted id p s t) :
    id ≠ 0 ∧ s.registry.matching request = some (id, p) := by
  obtain ⟨-, j, happroves, hconsumes⟩ := hgated
  rcases Registry.consumes_of_approves happroves hconsumes hkind with
    ⟨-, heq⟩ | ⟨q, hmatching, hexec, heq⟩
  · exact absurd hmarked (not_marked_of_eq (congrArg Registry.proposals heq))
  · obtain ⟨rfl, -⟩ := marked_of_update hmarked (congrArg Registry.proposals heq)
    obtain rfl : p = q := Option.some.inj (hmarked.1.symm.trans hexec.stored)
    refine ⟨?_, hmatching⟩
    rintro rfl
    rcases hconsumes with ⟨-, hsame⟩ | ⟨hpos, -⟩
    · exact absurd hmarked (not_marked_of_eq (congrArg Registry.proposals hsame))
    · exact hpos rfl

/-- A gated call that succeeds on the proposal the search finds executes just that proposal. -/
theorem executed_of_gated (hguardians : s.guardians.entries ≠ [])
    (hgated : Gated env s admin request t.registry) (hkind : request.kind ≠ .rotateAdmin)
    (hid : id ≠ 0) (hmatching : s.registry.matching request = some (id, p)) :
    t.proposal = Function.update s.proposal id (some { p with executed := true }) := by
  obtain ⟨-, j, happroves, hconsumes⟩ := hgated
  obtain ⟨q, hq⟩ : ∃ q, s.registry.matching request = some (j, q) := by
    rcases happroves with ⟨hnone, -⟩ | ⟨-, q, hq, -⟩
    · exact absurd hnone hguardians
    · exact ⟨q, hq⟩
  obtain ⟨rfl, rfl⟩ := Prod.mk.inj (Option.some.inj (hq.symm.trans hmatching))
  rcases Registry.consumes_of_approves happroves hconsumes hkind with
    ⟨hzero, -⟩ | ⟨q', hq', -, heq⟩
  · exact absurd hzero hid
  · obtain ⟨-, rfl⟩ := Prod.mk.inj (Option.some.inj (hq'.symm.trans hmatching))
    exact congrArg Registry.proposals heq

/-- A rotation executes no proposal: it has invalidated them all. -/
theorem rotation_keeps_proposals {currentAdmin newAdmin : Address} {nonce : Nat}
    (hnumbered : s.registry.Numbered)
    (heffect : (AdminCall.rotateAdmin currentAdmin newAdmin nonce).Effect env s t.registry) :
    t.proposal = s.proposal := by
  obtain ⟨-, j, admin, -, -, ⟨-, heq⟩ | ⟨-, q, hexec, -⟩⟩ := heffect
  · exact congrArg Registry.proposals heq
  · have hlt : j < s.currentProposalId := hnumbered j q hexec.stored
    have hle : s.currentProposalId ≤ j := hexec.valid
    omega

theorem marked_of_goesThrough (hstored : s.proposal id = some p) (hfresh : p.executed = false)
    (ht : t.proposal = Function.update s.proposal id (some { p with executed := true })) :
    MarkedExecuted id p s t :=
  ⟨hstored, hfresh, _, by rw [ht]; exact Function.update_self .., rfl⟩

/-- In every state a run reaches, an approved proposal's call goes through exactly when the
proposal has the shape the entrypoint searches for, its number is not 0, at most eight proposals
were submitted after it, and no newer one asks for the same. -/
theorem goesThrough_iff {hist : History AdminAction State}
    (hrun : Run (Guarded AdminAction.CounterFits AdminStep) FiniteStore.empty hist s)
    (hguardians : s.guardians.entries ≠ []) (happroved : s.ApprovedAt env.now id p)
    (hasks : p.AsksFor call) (hready : call.Ready env s) :
    GoesThrough env s call id p ↔
      p.Consumable ∧ id ≠ 0 ∧ s.currentProposalId < id + 10 ∧
        ∀ j, id < j → ¬s.registry.Asks p.request j := by
  have hballots := ballots_of_run hrun
  have hp := hballots.submittable id p happroved.stored
  rw [← matching_iff_of_numbered hballots.numbered happroved.stored happroved.fresh]
  have hmarks {t : State}
      (ht : t.proposal = Function.update s.proposal id (some { p with executed := true })) :
      MarkedExecuted id p s t := marked_of_goesThrough happroved.stored happroved.fresh ht
  unfold Proposal.AsksFor at hasks
  split at hasks
  · -- rotations
    rename_i hkind
    simp only [Proposal.Consumable, hkind, false_and, iff_false]
    rintro ⟨t, hcall, -, ht⟩
    have hkept := rotation_keeps_proposals hballots.numbered (adminCall_effect hcall)
    exact not_marked_of_eq hkept (hmarks ht)
  · -- fee changes
    rename_i admin treasury feeBps hkind
    simp only [Proposal.Consumable, hkind, false_and, iff_false]
    rintro ⟨t, hcall, -, ht⟩
    have hgated : Gated env s admin ⟨.setProtocolFee, treasury, none, feeBps⟩ t.registry :=
      adminCall_effect hcall
    obtain ⟨-, hmatching⟩ := matched_of_gated hgated (by simp) (hmarks ht)
    obtain ⟨-, hrequest, -⟩ := Registry.matching_spec hmatching
    obtain ⟨-, -, htarget2, -⟩ := Request.mk.inj hrequest
    rw [hasks.1] at htarget2
    cases htarget2
  · -- recoveries
    rename_i admin token recipient amount recoveryId hkind
    obtain ⟨htarget2, rfl, rfl⟩ := hasks
    have hamount : amountU32 p.target3 = p.target3 := by
      have hle := hp.value
      rw [amountU32, if_neg (by omega)]
      exact Int.toNat_natCast _
    have hrequest : p.request = ⟨.recoverStrandedFunds, p.target, some token,
        amountU32 p.target3⟩ := by
      simp only [Proposal.request, hkind, htarget2, hamount]
    simp only [Proposal.Consumable, hkind, true_and]
    constructor
    · rintro ⟨t, hcall, -, ht⟩
      rw [hrequest]
      exact matched_of_gated (adminCall_effect hcall) (by simp) (hmarks ht)
    · rintro ⟨hid, hmatching⟩
      obtain ⟨t, hcall⟩ :=
        recoverStrandedFunds_succeeds happroved hp hguardians hkind htarget2 hid hmatching hready
      rw [hrequest] at hmatching
      have ht := executed_of_gated hguardians (adminCall_effect hcall) (by simp) hid hmatching
      exact ⟨t, hcall, doRecoverStrandedFunds_performed hcall (hmarks ht), ht⟩
  · -- additions
    rename_i admin token decimals hkind
    obtain ⟨rfl, rfl⟩ := hasks
    simp only [Proposal.Consumable, hkind]
    constructor
    · rintro ⟨t, hcall, -, ht⟩
      obtain ⟨hid, hmatching⟩ :=
        matched_of_gated (adminCall_effect hcall) (by simp) (hmarks ht)
      obtain ⟨-, hrequest, -⟩ := Registry.matching_spec hmatching
      obtain ⟨-, -, htarget2, -⟩ := Request.mk.inj hrequest
      exact ⟨htarget2, hid, hrequest ▸ hmatching⟩
    · rintro ⟨htarget2, hid, hmatching⟩
      obtain ⟨t, hcall⟩ :=
        addAcceptedToken_succeeds happroved hp hguardians hkind htarget2 hid hmatching hready
      have hrequest : p.request = ⟨.addAcceptedToken, p.target, none, p.target3⟩ := by
        simp only [Proposal.request, hkind, htarget2]
      rw [hrequest] at hmatching
      have ht := executed_of_gated hguardians (adminCall_effect hcall) (by simp) hid hmatching
      exact ⟨t, hcall,
        addAcceptedToken_performed (run_after_rejectContractSelf hcall) (hmarks ht), ht⟩
  · -- removals
    rename_i admin token hkind
    subst hasks
    simp only [Proposal.Consumable, hkind]
    constructor
    · rintro ⟨t, hcall, -, ht⟩
      obtain ⟨hid, hmatching⟩ :=
        matched_of_gated (adminCall_effect hcall) (by simp) (hmarks ht)
      obtain ⟨-, hrequest, -⟩ := Registry.matching_spec hmatching
      obtain ⟨-, -, htarget2, htarget3⟩ := Request.mk.inj hrequest
      exact ⟨⟨htarget2, htarget3⟩, hid, hrequest ▸ hmatching⟩
    · rintro ⟨⟨htarget2, htarget3⟩, hid, hmatching⟩
      obtain ⟨t, hcall⟩ := removeAcceptedToken_succeeds happroved hp hguardians hkind htarget2
        htarget3 hid hmatching hready
      have hrequest : p.request = ⟨.removeAcceptedToken, p.target, none, 0⟩ := by
        simp only [Proposal.request, hkind, htarget2, htarget3]
      rw [hrequest] at hmatching
      have ht := executed_of_gated hguardians (adminCall_effect hcall) (by simp) hid hmatching
      exact ⟨t, hcall, removeAcceptedToken_performed hcall (hmarks ht), ht⟩
  · exact hasks.elim

end GoesThrough

section Runs

private abbrev secondApproved (request : Request) : List (Env × AdminCall) :=
  [(sampleEnv 1 [⟨1⟩], .voteProposal 1 true 0),
   (sampleEnv 0 [], .submitProposal request 6700 172800),
   (sampleEnv 0 [], .submitProposal ⟨.emergencyStop, ⟨1⟩, none, 1⟩ 6700 172800),
   (sampleEnv 0 [⟨1⟩], .addGuardian ⟨1⟩ ⟨1⟩ 10),
   (sampleEnv 0 [], .init ⟨10⟩ 7 ⟨1⟩ 100 86400)]

private abbrev atEta : Env := sampleEnv 172800 [⟨1⟩]

private theorem approved_of_all (request : Request)
    (h : ((callsAfter (secondApproved request)).proposal 1).any (fun p =>
      p.request = request ∧ p.executed = false ∧ p.eta = 172800 ∧
        requiredVotes (callsAfter (secondApproved request)).guardians p ≤
          memberWeight (callsAfter (secondApproved request)).guardians p true) = true)
    (hcutoff : (callsAfter (secondApproved request)).proposalCutoff = 0) :
    ∃ p, (callsAfter (secondApproved request)).ApprovedAt 172800 1 p ∧ p.request = request := by
  obtain ⟨p, hstored, hterms⟩ := (Option.any_eq_true _ _).mp h
  obtain ⟨hrequest, hfresh, heta, hreached⟩ := of_decide_eq_true hterms
  exact ⟨p, ⟨hstored, hfresh, by omega, heta.le, hreached⟩, hrequest⟩

/-- The second proposal adds token 20; the admin's call goes through on it. -/
theorem goesThrough_token :
    ∃ p, GoesThrough atEta (callsAfter (secondApproved ⟨.addAcceptedToken, ⟨20⟩, none, 6⟩))
      (.addAcceptedToken ⟨1⟩ ⟨20⟩ 6) 1 p := by
  have hrun : Run (Guarded AdminAction.CounterFits AdminStep) FiniteStore.empty
      (callHistory (secondApproved ⟨.addAcceptedToken, ⟨20⟩, none, 6⟩))
      (callsAfter (secondApproved ⟨.addAcceptedToken, ⟨20⟩, none, 6⟩)) := by
    apply run_calls (by decide +kernel)
    intro step hmem
    simp only [callHistory, List.mem_cons, List.not_mem_nil, or_false] at hmem
    rcases hmem with rfl | rfl | rfl | rfl | rfl <;> trivial
  obtain ⟨p, happroved, hrequest⟩ :=
    approved_of_all ⟨.addAcceptedToken, ⟨20⟩, none, 6⟩ (by decide +kernel) (by decide +kernel)
  obtain ⟨hkind, htarget, htarget2, htarget3⟩ := Request.mk.inj hrequest
  refine ⟨p, (goesThrough_iff hrun (by decide +kernel) happroved ?_ ?_).mpr ?_⟩
  · unfold Proposal.AsksFor
    rw [hkind]
    exact ⟨htarget.symm, htarget3.symm⟩
  · exact ⟨⟨by decide +kernel, by decide⟩, by decide, fun _ => by decide +kernel⟩
  · refine ⟨?_, by decide, by decide +kernel, ?_⟩
    · unfold Proposal.Consumable
      rw [hkind]
      exact htarget2
    · rintro j hj ⟨q, hq, -⟩
      have hlt : j < 2 := (ballots_of_run hrun).numbered j q hq
      omega

/-- The second proposal rotates the admin to address 9; the admin's call fails, however often it
is repeated. -/
theorem approved_rotation_refused :
    ¬∀ (hist : History AdminAction State) (env : Env) (s : State) (id : Nat) (p : Proposal)
      (call : AdminCall), Run AdminStep FiniteStore.empty hist s → s.guardians.entries ≠ [] →
        s.ApprovedAt env.now id p → p.AsksFor call → call.Ready env s →
          GoesThrough env s call id p := by
  intro hall
  have hrun : Run (Guarded (fun _ _ => True) AdminStep) FiniteStore.empty
      (callHistory (secondApproved ⟨.rotateAdmin, ⟨9⟩, none, 0⟩))
      (callsAfter (secondApproved ⟨.rotateAdmin, ⟨9⟩, none, 0⟩)) :=
    run_calls (by decide +kernel) fun _ _ => trivial
  obtain ⟨p, happroved, hrequest⟩ :=
    approved_of_all ⟨.rotateAdmin, ⟨9⟩, none, 0⟩ (by decide +kernel) (by decide +kernel)
  obtain ⟨hkind, htarget, -, -⟩ := Request.mk.inj hrequest
  have hasks : p.AsksFor (.rotateAdmin ⟨1⟩ ⟨9⟩ 0) := by
    unfold Proposal.AsksFor
    rw [hkind]
    exact htarget.symm
  have hready : (AdminCall.rotateAdmin ⟨1⟩ ⟨9⟩ 0).Ready atEta
      (callsAfter (secondApproved ⟨.rotateAdmin, ⟨9⟩, none, 0⟩)) :=
    ⟨by decide +kernel, ⟨by decide +kernel, by decide⟩, by decide +kernel, by decide, by decide,
      by decide, by decide +kernel⟩
  obtain ⟨t, hcall, -⟩ := hall _ atEta _ 1 p _ (hrun.mono fun _ _ _ h => h.2)
    (by decide +kernel) happroved hasks hready
  have hfails : (AdminCall.rotateAdmin ⟨1⟩ ⟨9⟩ 0).exec.succeeds atEta
      (callsAfter (secondApproved ⟨.rotateAdmin, ⟨9⟩, none, 0⟩)) = false := by decide +kernel
  rw [Exec.succeeds, hcall] at hfails
  cases hfails

end Runs

end SubscriptionVault
