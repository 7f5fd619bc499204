import SubscriptionVault.Governance.AdminControl

/-!
# One approved proposal, one action

An administration call that asks for approval consumes the proposal it was approved by: it
marks the proposal executed, executed proposals stay executed, and the approval check skips
them. This holds along runs in which the check finds a proposal other than number 0, backed by
guardian weight.
-/

namespace SubscriptionVault

open Exec

/-- The proposal asks for just what the call does. For a recovery that includes the amount,
which a proposal can only carry up to the largest `u32`. -/
def Proposal.Matches (p : Proposal) (call : AdminCall) (s : State) : Prop :=
  call.request? s = some p.request ∧
    match call with
    | .recoverStrandedFunds _ _ _ amount _ => (p.target3 : Int) = amount
    | _ => True

/-- Proposal `id` approves the call: it is unexecuted, asks for just that call, and has positive
yes weight that reaches the quorum of the current total weight. -/
def ApprovedBy (s : State) (call : AdminCall) (id : Nat) : Prop :=
  ∃ p, s.proposal id = some p ∧ p.executed = false ∧ p.Matches call s ∧
    0 < (calculateQuorum s.guardians p).1 ∧
    calculateTotalWeight s.guardians * max p.quorumBps minQuorumBps / 10000 ≤
      (calculateQuorum s.guardians p).1

/-- Proposal `id` is stored and executed. -/
def Registry.Spent (g : Registry) (id : Nat) : Prop :=
  ∃ p, g.proposals id = some p ∧ p.executed = true

/-- The counter is ahead of every stored proposal. -/
def Registry.Numbered (g : Registry) : Prop :=
  ∀ id p, g.proposals id = some p → id < g.nextProposalId

/-- The amount of a recovery fits the value field of a proposal. -/
def AdminCall.AmountFits : AdminCall → Prop
  | .recoverStrandedFunds _ _ _ amount _ => amount ≤ u32Max
  | _ => True

/-- The proposal counter does not wrap around, and with guardians configured a call is approved
only by a proposal other than number 0 that some guardian weight stands behind, and only for an
amount the proposal can carry. -/
def AdminAction.SoundlyApproved (l : AdminAction) (s : State) : Prop :=
  match l with
  | .call _ (.submitProposal _ _ _) => s.currentProposalId < u64Max
  | .call _ entry =>
    s.guardians.entries ≠ [] → ∀ request id p, entry.request? s = some request →
      s.registry.matching request = some (id, p) →
        entry.AmountFits ∧ id ≠ 0 ∧
          (10000 ≤ calculateTotalWeight s.guardians * max p.quorumBps minQuorumBps ∨
            ∃ guardian weight, p.votes.lookup guardian = some true ∧
              s.guardians.lookup guardian = some weight ∧ 0 < weight)
  | .other => True

/-! ## Proposals along a run -/

/-- What a step can do to the stored proposals: nothing, change one that is not executed, or, if
it is a submission, store a new one under the counter. -/
inductive ProposalChange (submission : Prop) (g g' : Registry) : Prop
  | none (hproposals : g'.proposals = g.proposals)
      (hnext : g'.nextProposalId = g.nextProposalId)
  | update (id : Nat) (p p' : Proposal) (hstored : g.proposals id = some p)
      (hfresh : p.executed = false)
      (hproposals : g'.proposals = Function.update g.proposals id (some p'))
      (hnext : g'.nextProposalId = g.nextProposalId)
  | submit (p : Proposal) (hsubmission : submission)
      (hproposals : g'.proposals = Function.update g.proposals g.nextProposalId (some p))
      (hnext : g'.nextProposalId = (g.nextProposalId + 1) % (u64Max + 1))

theorem Registry.Executes.proposalChange {submission : Prop} {g g' : Registry} {now id : Nat}
    (h : g.Executes now id g') : ProposalChange submission g g' := by
  obtain ⟨p, hexec, ⟨-, _, -, rfl⟩ | ⟨-, rfl⟩⟩ := h
  · exact .update id p _ hexec.stored hexec.fresh rfl rfl
  · exact .update id p _ hexec.stored hexec.fresh rfl rfl

theorem Registry.Consumes.proposalChange {submission : Prop} {g g' : Registry} {now id : Nat}
    (h : g.Consumes now id g') : ProposalChange submission g g' := by
  rcases h with ⟨-, rfl⟩ | ⟨-, h⟩
  · exact .none rfl rfl
  · exact h.proposalChange

def AdminCall.IsSubmission : AdminCall → Prop
  | .submitProposal _ _ _ => True
  | _ => False

theorem ProposalChange.of_effect {env : Env} {s : State} {call : AdminCall} {g : Registry}
    (h : call.Effect env s g) : ProposalChange call.IsSubmission s.registry g := by
  cases call with
  | init =>
    obtain ⟨-, rfl⟩ := h
    exact .none rfl rfl
  | rotateAdmin =>
    obtain ⟨-, id, admin, -, -, hconsumes⟩ := h
    have hchange : ProposalChange False _ _ := hconsumes.proposalChange
    cases hchange with
    | none hproposals hnext => exact .none hproposals hnext
    | update id p p' hstored hfresh hproposals hnext =>
      exact .update id p p' hstored hfresh hproposals hnext
    | submit _ hsubmission => exact hsubmission.elim
  | proposeAdmin | cancelAdminProposal | removeGuardian =>
    obtain ⟨-, rfl⟩ := h
    exact .none rfl rfl
  | claimAdminRole =>
    obtain ⟨-, _, _, -, -, -, -, -, rfl⟩ := h
    exact .none rfl rfl
  | submitProposal =>
    obtain ⟨-, -, rfl⟩ := h
    exact .submit _ trivial rfl rfl
  | voteProposal id =>
    obtain ⟨_, p, -, -, hstored, -, hfresh, -, rfl⟩ := h
    exact .update id p _ hstored hfresh rfl rfl
  | executeProposal => exact Registry.Executes.proposalChange h
  | cancelProposal id =>
    obtain ⟨_, p, -, hstored, hfresh, rfl⟩ := h
    exact .update id p _ hstored hfresh rfl rfl
  | addGuardian =>
    obtain ⟨-, -, rfl⟩ := h
    exact .none rfl rfl
  | executeTreasuryChange | cancelTreasuryChange =>
    obtain rfl : g = s.registry := h
    exact .none rfl rfl
  | recoverStrandedFunds | queueTreasuryChange | addAcceptedToken | removeAcceptedToken
  | enableEmergencyStop | disableEmergencyStop =>
    simp only [AdminCall.Effect] at h
    split at h
    · obtain ⟨-, _, -, hconsumes⟩ := h
      exact hconsumes.proposalChange
    · subst h
      exact .none rfl rfl

/-- Along steps that do not wrap the counter, numbering is kept. -/
theorem ProposalChange.numbered {submission : Prop} {g g' : Registry}
    (h : ProposalChange submission g g') (hnumbered : g.Numbered)
    (hwrap : submission → g.nextProposalId < u64Max) : g'.Numbered := by
  cases h with
  | none hproposals hnext =>
    intro id p hp
    rw [hnext]
    exact hnumbered id p (hproposals ▸ hp)
  | update id p p' hstored _ hproposals hnext =>
    intro j q hq
    rw [hproposals] at hq
    rw [hnext]
    by_cases hj : j = id
    · exact hj ▸ hnumbered id p hstored
    · exact hnumbered j q (by simpa [hj] using hq)
  | submit p hsubmission hproposals hnext =>
    have hlt := hwrap hsubmission
    intro j q hq
    rw [hnext, Nat.mod_eq_of_lt (by omega)]
    by_cases hj : j = g.nextProposalId
    · omega
    · exact (hnumbered j q (by simpa [hproposals, hj] using hq)).trans (Nat.lt_succ_self _)

/-- A spent proposal stays spent. -/
theorem ProposalChange.spent {submission : Prop} {g g' : Registry} {id : Nat}
    (h : ProposalChange submission g g') (hnumbered : g.Numbered) (hspent : g.Spent id) : g'.Spent id := by
  obtain ⟨q, hq, hexecuted⟩ := hspent
  cases h with
  | none hproposals => exact ⟨q, hproposals ▸ hq, hexecuted⟩
  | update j p p' hstored hfresh hproposals =>
    have hj : id ≠ j := by
      rintro rfl
      obtain rfl := Option.some.inj (hstored.symm.trans hq)
      rw [hfresh] at hexecuted
      cases hexecuted
    exact ⟨q, by simpa [hproposals, hj] using hq, hexecuted⟩
  | submit p _ hproposals =>
    have hj : id ≠ g.nextProposalId := (hnumbered id q hq).ne
    exact ⟨q, by simpa [hproposals, hj] using hq, hexecuted⟩

theorem guardedStep_numbered {l : AdminAction} {s t : State} (hnumbered : s.registry.Numbered)
    (h : Guarded AdminAction.SoundlyApproved AdminStep l s t) : t.registry.Numbered := by
  obtain ⟨hsound, ⟨hrun⟩ | ⟨heq⟩⟩ := h
  · rename_i call
    refine (ProposalChange.of_effect (adminCall_effect hrun)).numbered hnumbered ?_
    intro hsubmission
    cases call <;> first | exact hsound | cases hsubmission
  · rwa [heq]

theorem guardedStep_spent {l : AdminAction} {s t : State} {id : Nat}
    (hnumbered : s.registry.Numbered)
    (h : Guarded AdminAction.SoundlyApproved AdminStep l s t) (hspent : s.registry.Spent id) :
    t.registry.Spent id := by
  obtain ⟨-, ⟨hrun⟩ | ⟨heq⟩⟩ := h
  · exact (ProposalChange.of_effect (adminCall_effect hrun)).spent hnumbered hspent
  · rwa [heq]

theorem numbered_of_run {hist : History AdminAction State} {s : State}
    (hrun : Run (Guarded AdminAction.SoundlyApproved AdminStep) FiniteStore.empty hist s) :
    s.registry.Numbered := by
  refine hrun.invariant_state (I := fun s => s.registry.Numbered) ?_
    fun _ _ _ hnumbered hstep => guardedStep_numbered hnumbered hstep
  intro id p hp
  simp [State.registry, State.proposal] at hp

theorem spent_of_run {later : History AdminAction State} {s t : State} {id : Nat}
    (hrun : Run (Guarded AdminAction.SoundlyApproved AdminStep) s later t)
    (hnumbered : s.registry.Numbered) (hspent : s.registry.Spent id) : t.registry.Spent id :=
  (hrun.invariant_state (I := fun u => u.registry.Numbered ∧ u.registry.Spent id)
    ⟨hnumbered, hspent⟩ fun _ _ _ h hstep =>
      ⟨guardedStep_numbered h.1 hstep, guardedStep_spent h.1 hstep h.2⟩).2

/-! ## Approval -/

/-- A spent proposal approves nothing. -/
theorem not_approvedBy_of_spent {s : State} {id : Nat} (h : s.registry.Spent id)
    (call : AdminCall) : ¬ApprovedBy s call id := by
  rintro ⟨p, hstored, hfresh, -⟩
  obtain ⟨q, hq, hexecuted⟩ := h
  obtain rfl := Option.some.inj (hstored.symm.trans hq)
  rw [hfresh] at hexecuted
  cases hexecuted

private theorem amountU32_of_fits {amount : Int} (hpos : 0 < amount) (h : amount ≤ u32Max) :
    (amountU32 amount : Int) = amount := by
  rw [amountU32, if_neg (by omega)]
  omega

/-- A successful recovery is of a positive amount. -/
theorem recovery_pos {admin token recipient : Address} {amount : Int} {recoveryId : Bytes}
    {env : Env} {s t : State} {u : Unit}
    (hrun : (doRecoverStrandedFunds admin token recipient amount recoveryId).run env s =
      .ok u t) : 0 < amount := by
  simp only [doRecoverStrandedFunds, run_bind_ok, run_ask_ok, run_requireAdminAuth_ok,
    run_failIf_ok] at hrun
  obtain ⟨_, _, ⟨rfl, rfl⟩, _, _, ⟨-, rfl⟩, _, _, ⟨hpos, rfl⟩, -⟩ := hrun
  omega

/-- A request found for a successful call matches the call to the last detail. -/
theorem matches_of_request {env : Env} {s t : State} {call : AdminCall} {p : Proposal}
    (hrun : call.exec.run env s = .ok () t) (hrequest : call.request? s = some p.request)
    (hfits : call.AmountFits) : p.Matches call s := by
  refine ⟨hrequest, ?_⟩
  cases call with
  | recoverStrandedFunds admin token recipient amount recoveryId =>
    have htarget3 : amountU32 amount = p.target3 :=
      congrArg Request.target3 (Option.some.inj hrequest)
    show (p.target3 : Int) = amount
    rw [← htarget3]
    exact amountU32_of_fits (recovery_pos hrun) hfits
  | _ => trivial

/-- What a call that asks for approval requires: the approval, and its consumption, after the
rotation if the call is one. -/
theorem approves_of_effect {env : Env} {s : State} {call : AdminCall} {g : Registry}
    {request : Request} (h : call.Effect env s g) (hrequest : call.request? s = some request) :
    ∃ id, s.registry.Approves env.now request id ∧
      (s.registry.Consumes env.now id g ∧ request.kind ≠ .rotateAdmin ∨
        ∃ admin, (s.registry.rotated admin).Consumes env.now id g) := by
  cases call with
  | rotateAdmin =>
    obtain ⟨-, id, admin, happroves, -, hconsumes⟩ := h
    obtain rfl := Option.some.inj hrequest
    exact ⟨id, happroves, .inr ⟨admin, hconsumes⟩⟩
  | recoverStrandedFunds | queueTreasuryChange | addAcceptedToken | removeAcceptedToken
  | enableEmergencyStop | disableEmergencyStop =>
    simp only [AdminCall.Effect, hrequest] at h
    obtain ⟨-, id, happroves, hconsumes⟩ := h
    refine ⟨id, happroves, .inl ⟨hconsumes, ?_⟩⟩
    unfold AdminCall.request? at hrequest
    grind
  | _ => cases hrequest

/-- In every run with sound approvals, a call that asks for approval while guardians are
configured is approved by a proposal that no later call of the run can be approved by. -/
theorem approval_consumed_once {hist : History AdminAction State} {s t : State} {env : Env}
    {call : AdminCall} {request : Request}
    (hrun : Run (Guarded AdminAction.SoundlyApproved AdminStep) FiniteStore.empty hist s)
    (hstep : Guarded AdminAction.SoundlyApproved AdminStep (.call env call) s t)
    (hguardians : s.guardians.entries ≠ []) (hrequest : call.request? s = some request) :
    ∃ id, ApprovedBy s call id ∧ ∀ later u,
      Run (Guarded AdminAction.SoundlyApproved AdminStep) t later u →
        u.registry.Spent id ∧ ∀ call', ¬ApprovedBy u call' id := by
  have hnumbered := numbered_of_run hrun
  have hnumbered' := guardedStep_numbered hnumbered hstep
  obtain ⟨hsound, ⟨hcall⟩⟩ := hstep
  obtain ⟨id, happroves, hconsumes⟩ := approves_of_effect (adminCall_effect hcall) hrequest
  obtain ⟨p, hmatching⟩ : ∃ p, s.registry.matching request = some (id, p) := by
    rcases happroves with ⟨hnone, -⟩ | ⟨-, p, hmatching, -⟩
    · exact absurd hnone hguardians
    · exact ⟨p, hmatching⟩
  obtain ⟨hstored, hasks, hfresh, -⟩ := Registry.matching_spec hmatching
  obtain ⟨hfits, hzero, hbacked⟩ : call.AmountFits ∧ id ≠ 0 ∧ _ := by
    cases call with
    | submitProposal => cases hrequest
    | _ => exact hsound hguardians request id p hrequest hmatching
  have hexec : s.registry.Executable env.now id p ∧
      t.registry = s.registry.put id { p with executed := true } := by
    rcases hconsumes with ⟨hconsumes, hkind⟩ | ⟨admin, ⟨hid, -⟩ | ⟨-, q, hq, -⟩⟩
    · rcases Registry.consumes_of_approves happroves hconsumes hkind with
        ⟨hid, -⟩ | ⟨q, hq, hexec, heq⟩
      · exact absurd hid hzero
      · obtain rfl : q = p := by simpa using hq.symm.trans hmatching
        exact ⟨hexec, heq⟩
    · exact absurd hid hzero
    · -- a rotation has just invalidated the proposal it was approved by
      have hvalid : s.registry.nextProposalId ≤ id := hq.valid
      exact absurd (hnumbered id p hstored) (by omega)
  obtain ⟨hpositive, -⟩ := quorum_of_executable hexec.1
    ((attributed_of_run (hrun.mono fun _ _ _ h => h.2)).quorum id p hstored) hbacked
  refine ⟨id, ⟨p, hstored, hfresh, ?_, hpositive, ?_⟩, ?_⟩
  · exact matches_of_request hcall (by rw [hrequest, hasks]) hfits
  · rw [← requiredVotes_eq
      ((attributed_of_run (hrun.mono fun _ _ _ h => h.2)).quorum id p hstored)]
    exact hexec.1.quorum
  · intro later u hlater
    have hspent : t.registry.Spent id :=
      ⟨{ p with executed := true }, by simp [hexec.2, Registry.put], rfl⟩
    have hspent' := spent_of_run hlater hnumbered' hspent
    exact ⟨hspent', not_approvedBy_of_spent hspent'⟩

/-! ## Two runs -/

section Runs

private abbrev start : AdminCall := .init ⟨10⟩ 7 ⟨1⟩ 100 86400
private abbrev oneGuardian : AdminCall := .addGuardian ⟨1⟩ ⟨1⟩ 10
private abbrev submitToken : AdminCall :=
  .submitProposal ⟨.addAcceptedToken, ⟨20⟩, none, 6⟩ 6700 172800
private abbrev voteForToken : AdminCall := .voteProposal 1 true 0
private abbrev addToken : AdminCall := .addAcceptedToken ⟨1⟩ ⟨20⟩ 6

private def started : List (Env × Vault Unit) := [(sampleEnv 0 [], start.exec)]

private def oneGuardianSet : List (Env × Vault Unit) :=
  (sampleEnv 0 [⟨1⟩], oneGuardian.exec) :: started

private def tokenSubmitted : List (Env × Vault Unit) :=
  (sampleEnv 0 [], submitToken.exec) :: oneGuardianSet

private def tokenSubmittedTwice : List (Env × Vault Unit) :=
  (sampleEnv 0 [], submitToken.exec) :: tokenSubmitted

private def tokenVoted : List (Env × Vault Unit) :=
  (sampleEnv 1 [⟨1⟩], voteForToken.exec) :: tokenSubmittedTwice

private def tokenAdded (earlier : List (Env × Vault Unit)) : List (Env × Vault Unit) :=
  (sampleEnv 172800 [⟨1⟩], addToken.exec) :: earlier

private theorem run_oneGuardianSet :
    Run AdminStep FiniteStore.empty [(.call (sampleEnv 0 [⟨1⟩]) oneGuardian, afterCalls started),
      (.call (sampleEnv 0 []) start, FiniteStore.empty)] (afterCalls oneGuardianSet) :=
  (Run.start.next (.call (Exec.run_eq_after (by decide +kernel)))).next
    (.call (Exec.run_eq_after (by decide +kernel)))

/-- The second submission of the same proposal gets a vote and approves the token. -/
theorem approval_consumed_once_token :
    ∃ id, ApprovedBy (afterCalls tokenVoted) addToken id ∧ ∀ later u,
      Run (Guarded AdminAction.SoundlyApproved AdminStep)
        (afterCalls (tokenAdded tokenVoted)) later u →
          u.registry.Spent id ∧ ∀ call', ¬ApprovedBy u call' id := by
  have hguarded {l : AdminAction} {s t : State} (h : AdminStep l s t)
      (hl : l.SoundlyApproved s) : Guarded AdminAction.SoundlyApproved AdminStep l s t := ⟨hl, h⟩
  have hinit : AdminStep (.call (sampleEnv 0 []) start) FiniteStore.empty (afterCalls started) :=
    .call (Exec.run_eq_after (by decide +kernel))
  have hguardian : AdminStep (.call (sampleEnv 0 [⟨1⟩]) oneGuardian) (afterCalls started)
      (afterCalls oneGuardianSet) := .call (Exec.run_eq_after (by decide +kernel))
  have hfirst : AdminStep (.call (sampleEnv 0 []) submitToken) (afterCalls oneGuardianSet)
      (afterCalls tokenSubmitted) := .call (Exec.run_eq_after (by decide +kernel))
  have hsecond : AdminStep (.call (sampleEnv 0 []) submitToken) (afterCalls tokenSubmitted)
      (afterCalls tokenSubmittedTwice) := .call (Exec.run_eq_after (by decide +kernel))
  have hvote : AdminStep (.call (sampleEnv 1 [⟨1⟩]) voteForToken)
      (afterCalls tokenSubmittedTwice) (afterCalls tokenVoted) :=
    .call (Exec.run_eq_after (by decide +kernel))
  have hadd : AdminStep (.call (sampleEnv 172800 [⟨1⟩]) addToken) (afterCalls tokenVoted)
      (afterCalls (tokenAdded tokenVoted)) := .call (Exec.run_eq_after (by decide +kernel))
  have hrun := ((((Run.start.next (hguarded hinit (by intro _ _ _ _ h; cases h))).next
    (hguarded hguardian (by intro _ _ _ _ h; cases h))).next
    (hguarded hfirst (by decide +kernel : (afterCalls oneGuardianSet).currentProposalId < u64Max))).next
    (hguarded hsecond (by decide +kernel : (afterCalls tokenSubmitted).currentProposalId < u64Max))).next
    (hguarded hvote (by intro _ _ _ _ h; cases h))
  refine approval_consumed_once hrun (hguarded hadd ?_) (by decide +kernel) rfl
  intro _ request id p hrequest hmatching
  obtain rfl := Option.some.inj hrequest
  have hfound : ((afterCalls tokenVoted).registry.matching ⟨.addAcceptedToken, ⟨20⟩, none, 6⟩).all
      fun found => found.1 ≠ 0 ∧ found.2.votes.lookup ⟨1⟩ = some true := by decide +kernel
  rw [hmatching] at hfound
  obtain ⟨hid, hvoted⟩ : id ≠ 0 ∧ p.votes.lookup ⟨1⟩ = some true := by simpa using hfound
  exact ⟨trivial, hid, .inr ⟨⟨1⟩, 10, hvoted, by decide +kernel, by decide⟩⟩

/-- Proposal number 0, which nobody voted on, approves a new token. -/
theorem approval_without_votes :
    ¬∀ (hist : History AdminAction State) (s t : State) (env : Env) (call : AdminCall)
        (request : Request),
      Run AdminStep FiniteStore.empty hist s → AdminStep (.call env call) s t →
        s.guardians.entries ≠ [] → call.request? s = some request →
          ∃ id, ApprovedBy s call id ∧ ∀ later u, Run AdminStep t later u →
            u.registry.Spent id ∧ ∀ call', ¬ApprovedBy u call' id := by
  intro hclaim
  have hsubmit : AdminStep (.call (sampleEnv 0 []) submitToken) (afterCalls oneGuardianSet)
      (afterCalls tokenSubmitted) := .call (Exec.run_eq_after (by decide +kernel))
  have hadd : AdminStep (.call (sampleEnv 172800 [⟨1⟩]) addToken) (afterCalls tokenSubmitted)
      (afterCalls (tokenAdded tokenSubmitted)) := .call (Exec.run_eq_after (by decide +kernel))
  have hrun := run_oneGuardianSet.next hsubmit
  obtain ⟨id, ⟨p, hstored, -, -, hpositive, -⟩, -⟩ :=
    hclaim _ _ _ _ _ _ hrun hadd (by decide +kernel) rfl
  obtain ⟨voter, -, hvote, -⟩ := (calculateQuorum_yes_pos _ p).mp hpositive
  obtain ⟨env, nonce, u, hmem, -⟩ :=
    (attributed_of_run hrun).votes id p voter true hstored hvote
  simp at hmem

end Runs

end SubscriptionVault
