import SubscriptionVault.Framework.Tally
import SubscriptionVault.Governance.Handover

/-!
# Guardian votes

The votes a proposal carries are the latest vote of each voter, and its tally is the weight of
the current guardians among them, up to the largest `u32`. Whoever signs a vote call, the vote
is cast by the stored admin: a guardian's vote is recorded exactly when that guardian is the
admin.
-/

namespace SubscriptionVault

open Exec

/-! ## The tally -/

/-- The weight of the current guardians whose recorded vote is `votedYes`. -/
def memberWeight (guardians : AddressMap Nat) (p : Proposal) (votedYes : Bool) : Nat :=
  (guardians.entries.map fun member =>
    if p.votes.lookup member.1 = some votedYes then member.2 else 0).sum

private def share (guardians : AddressMap Nat) (votedYes : Bool)
    (vote : Sigma fun _ : Address => Bool) : Nat :=
  (guardians.lookup vote.1).elim 0 fun weight => if vote.2 = votedYes then weight else 0

private theorem memberWeight_eq (guardians : AddressMap Nat) (p : Proposal) (votedYes : Bool) :
    memberWeight guardians p votedYes = (p.votes.entries.map (share guardians votedYes)).sum := by
  have hswap := sum_lookup_comm p.votes guardians
    fun voted weight => if voted = votedYes then weight else 0
  unfold share
  rw [hswap, memberWeight]
  congr 2
  funext member
  cases p.votes.lookup member.1 <;> simp

private theorem countVote_eq (guardians : AddressMap Nat) (yes no : Nat)
    (vote : Sigma fun _ : Address => Bool) :
    countVote guardians (min yes u32Max, min no u32Max) vote =
      (min (yes + share guardians true vote) u32Max,
        min (no + share guardians false vote) u32Max) := by
  obtain ⟨voter, voted⟩ := vote
  unfold countVote share saturatingAddU32
  generalize u32Max = bound
  cases guardians.lookup voter with
  | none => rfl
  | some weight =>
    cases voted
    · simp only [Option.elim_some, Bool.false_eq_true, if_false, if_true, Nat.add_zero,
        Prod.mk.injEq, true_and]
      omega
    · simp only [Option.elim_some, Bool.true_eq_false, if_false, if_true, Nat.add_zero,
        Prod.mk.injEq, and_true]
      omega

/-- The tally is the weight of the members on either side, up to the largest `u32`. -/
theorem calculateQuorum_eq (guardians : AddressMap Nat) (p : Proposal) :
    calculateQuorum guardians p =
      (min (memberWeight guardians p true) u32Max,
        min (memberWeight guardians p false) u32Max) := by
  have hfold (l : List (Sigma fun _ : Address => Bool)) (yes no : Nat) :
      l.foldl (countVote guardians) (min yes u32Max, min no u32Max) =
        (min (yes + (l.map (share guardians true)).sum) u32Max,
          min (no + (l.map (share guardians false)).sum) u32Max) := by
    induction l generalizing yes no with
    | nil => rfl
    | cons vote l ih =>
      rw [List.foldl_cons, countVote_eq, ih]
      simp only [List.map_cons, List.sum_cons, Nat.add_assoc]
  have htally := hfold p.votes.entries 0 0
  simp only [Nat.zero_min, Nat.zero_add, ← memberWeight_eq] at htally
  exact htally

/-! ## Recorded votes -/

/-- Voting on the proposal is open. -/
structure State.VotingOpen (s : State) (now id : Nat) (p : Proposal) : Prop where
  stored : s.proposal id = some p
  valid : s.proposalCutoff ≤ id
  fresh : p.executed = false
  before : now < p.eta

/-- The vote call succeeds, records the vote under the guardian and under nobody else, and uses
the guardian's nonce. -/
def VoteRecorded (env : Env) (s : State) (id : Nat) (p : Proposal) (guardian : Address)
    (votedYes : Bool) (nonce : Nat) : Prop :=
  ∃ t p', (AdminCall.voteProposal id votedYes nonce).exec.run env s = .ok () t ∧
    t.proposal id = some p' ∧ p'.votes.lookup guardian = some votedYes ∧
    (∀ other, other ≠ guardian → p'.votes.lookup other = p.votes.lookup other) ∧
    t.nonce guardian .governanceVote = nonce + 1

/-- A guardian's vote is recorded under that guardian exactly when the guardian is the admin. -/
theorem voteRecorded_iff {env : Env} {s : State} {id : Nat} {p : Proposal}
    {guardian : Address} {votedYes : Bool} {nonce : Nat} (hopen : s.VotingOpen env.now id p)
    (hauth : env.authorized guardian ∧ guardian ≠ env.host.contract)
    (hweight : s.guardianWeight guardian ≠ 0)
    (hnonce : s.nonce guardian .governanceVote = nonce) (hfits : nonce < u64Max) :
    VoteRecorded env s id p guardian votedYes nonce ↔ s.admin = some guardian := by
  have hnext : computeNextNonce (s.nonce guardian .governanceVote) nonce = .ok (nonce + 1) := by
    have hle : nonce + 1 ≤ u64Max := hfits
    simp [computeNextNonce, hnonce, checkedAddU64, hle]
  constructor
  · rintro ⟨t, p', hrun, -, -, -, hadvanced⟩
    simp only [AdminCall.exec, doVoteProposal, ensureProposalNotInvalidated, run_bind_ok,
      run_ask_ok, run_requireStoredAdminAuth_ok, run_getState_ok, run_failIf_ok, run_okOr_ok,
      run_checkAndAdvance_ok, run_store_ok] at hrun
    obtain ⟨_, _, ⟨rfl, rfl⟩, voter, _, ⟨hvoter, rfl⟩, _, _, ⟨rfl, rfl⟩, _, _, ⟨-, rfl⟩, q, _,
      ⟨-, rfl⟩, _, _, ⟨_, _, ⟨rfl, rfl⟩, -, rfl⟩, _, _, ⟨-, rfl⟩, _, _, ⟨-, rfl⟩, _, _,
      ⟨next, -, rfl⟩, rfl⟩ := hrun
    by_cases hsame : voter = guardian
    · exact hsame ▸ hvoter.1
    · have hkept : (s.nonce guardian .governanceVote) = nonce + 1 := by
        simpa [State.nonce, Ne.symm hsame] using hadvanced
      omega
  · intro hadmin
    let voted : Proposal := { p with votes := p.votes.insert guardian votedYes }
    let used := s.write (.persistent (.adminNonce guardian NonceDomain.governanceVote.asU32))
      (nonce + 1)
    refine ⟨used.write (.persistent (.proposal id)) voted, voted, ?_, ?_, ?_, ?_, ?_⟩
    · have hbefore := hopen.before
      have hvalid := hopen.valid
      simp only [AdminCall.exec, doVoteProposal, ensureProposalNotInvalidated, run_bind_ok,
        run_ask_ok, run_requireStoredAdminAuth_ok, run_getState_ok, run_failIf_ok, run_okOr_ok,
        run_checkAndAdvance_ok, run_store_ok]
      refine ⟨_, _, ⟨rfl, rfl⟩, guardian, _, ⟨⟨hadmin, hauth⟩, rfl⟩, _, _, ⟨rfl, rfl⟩, (), _,
        ⟨hweight, rfl⟩, p, _, ⟨hopen.stored, rfl⟩, (), _, ⟨_, _, ⟨rfl, rfl⟩, ?_, rfl⟩, (), _,
        ⟨by simp [hopen.fresh], rfl⟩, (), _, ⟨?_, rfl⟩, (), _, ⟨_, hnext, rfl⟩, rfl⟩ <;> omega
    · simp [State.proposal]
    · exact AList.lookup_insert _
    · intro other hother
      exact AList.lookup_insert_ne hother
    · simp [State.nonce, used]

/-! ## The votes of a proposal -/

/-- A vote on proposal `id`, recorded under the admin of the time. -/
def CastsVote (id : Nat) (voter : Address) (votedYes : Bool) (l : AdminAction) (u : State) :
    Prop :=
  ∃ env nonce, l = .call env (.voteProposal id votedYes nonce) ∧ u.admin = some voter

def LatestVote (hist : History AdminAction State) (id : Nat) (voter : Address)
    (votedYes : Bool) : Prop :=
  Since (fun l u => ∀ voted, ¬CastsVote id voter voted l u) (CastsVote id voter votedYes) hist

/-- What submission has checked of a proposal. The value field is a `u32`. -/
structure Proposal.Submittable (p : Proposal) : Prop where
  quorum : p.quorumBps ≤ 10000
  delayed : p.submittedAt + minTimelockDelay ≤ p.eta
  fits : p.submittedAt + minTimelockDelay ≤ u64Max
  value : p.target3 ≤ u32Max
  window : p.kind = .setDisputeWindow → p.target3 ≠ 0
  treasury : p.kind = .setProtocolFee → p.target2 ≠ none

/-- The proposal apart from the flag that marks it executed. -/
def Proposal.content (p : Proposal) : Proposal := { p with executed := false }

/-- The value field of a submission is a `u32`, and the proposal counter does not wrap
around. -/
def AdminAction.CounterFits (l : AdminAction) (s : State) : Prop :=
  match l with
  | .call _ (.submitProposal request _ _) =>
    request.target3 ≤ u32Max ∧ s.currentProposalId < u64Max
  | _ => True

def AdminCall.IsVote : AdminCall → Prop
  | .voteProposal _ _ _ => True
  | _ => False

theorem Registry.Executes.keeps_content {g g' : Registry} {now id : Nat}
    (h : g.Executes now id g') (j : Nat) :
    (g'.proposals j).map Proposal.content = (g.proposals j).map Proposal.content := by
  obtain ⟨p, hexec, hcases⟩ := h
  have hproposals : g'.proposals = Function.update g.proposals id
      (some { p with executed := true }) := by
    rcases hcases with ⟨-, _, -, rfl⟩ | ⟨-, rfl⟩ <;> rfl
  rw [hproposals]
  by_cases hj : j = id
  · subst hj
    rw [Function.update_self, hexec.stored]
    rfl
  · rw [Function.update_of_ne hj]

theorem Registry.Consumes.keeps_content {g g' : Registry} {now id : Nat}
    (h : g.Consumes now id g') (j : Nat) :
    (g'.proposals j).map Proposal.content = (g.proposals j).map Proposal.content := by
  rcases h with ⟨-, rfl⟩ | ⟨-, h⟩
  · rfl
  · exact h.keeps_content j

/-- Apart from submissions and votes, calls at most mark proposals executed. -/
theorem AdminCall.Effect.keeps_content {env : Env} {s : State} {call : AdminCall} {g : Registry}
    (h : call.Effect env s g) (hvote : ¬call.IsVote) (hsubmission : ¬call.IsSubmission)
    (j : Nat) :
    (g.proposals j).map Proposal.content = (s.proposal j).map Proposal.content := by
  cases call with
  | submitProposal => exact absurd trivial hsubmission
  | voteProposal => exact absurd trivial hvote
  | init | proposeAdmin | cancelAdminProposal | removeGuardian =>
    rw [h.2]
    rfl
  | addGuardian =>
    rw [h.2.2]
    rfl
  | rotateAdmin =>
    obtain ⟨-, _, _, -, -, hconsumes⟩ := h
    exact hconsumes.keeps_content j
  | claimAdminRole =>
    obtain ⟨-, _, _, -, -, -, -, -, heq⟩ := h
    rw [heq]
    rfl
  | executeProposal => exact Registry.Executes.keeps_content h j
  | cancelProposal id =>
    obtain ⟨_, p, -, hstored, -, heq⟩ := h
    rw [heq]
    by_cases hj : j = id
    · subst hj
      rw [hstored]
      simp [Registry.put, Proposal.content]
    · simp [Registry.put, hj, State.registry]
  | executeTreasuryChange | cancelTreasuryChange =>
    rw [show g = s.registry from h]
    rfl
  | recoverStrandedFunds | queueTreasuryChange | addAcceptedToken | removeAcceptedToken
  | enableEmergencyStop | disableEmergencyStop =>
    simp only [AdminCall.Effect] at h
    split at h
    · obtain ⟨-, _, -, hconsumes⟩ := h
      exact hconsumes.keeps_content j
    · rw [h]
      rfl

/-- Stored proposals passed submission, and their votes are the latest votes cast. -/
structure Ballots (hist : History AdminAction State) (g : Registry) : Prop where
  numbered : g.Numbered
  submittable : ∀ id p, g.proposals id = some p → p.Submittable
  latest : ∀ id p, g.proposals id = some p → ∀ voter votedYes,
    p.votes.lookup voter = some votedYes ↔ LatestVote hist id voter votedYes
  stored : ∀ step ∈ hist, ∀ id voter votedYes, CastsVote id voter votedYes step.1 step.2 →
    ∃ p, g.proposals id = some p

theorem LatestVote.cons_iff {hist : History AdminAction State} {l : AdminAction} {s : State}
    {id : Nat} {voter : Address} {votedYes : Bool}
    (hother : ∀ voted, ¬CastsVote id voter voted l s) :
    LatestVote ((l, s) :: hist) id voter votedYes ↔ LatestVote hist id voter votedYes :=
  Since.cons_iff (hother votedYes) hother

namespace Ballots

variable {hist : History AdminAction State} {g : Registry} {l : AdminAction} {s : State}

/-- Proposals are at most marked executed, and no vote is cast. -/
theorem quiet (h : Ballots hist s.registry)
    (hother : ∀ id voter voted, ¬CastsVote id voter voted l s)
    (hnext : g.nextProposalId = s.registry.nextProposalId)
    (hcontent : ∀ j, (g.proposals j).map Proposal.content =
      (s.proposal j).map Proposal.content) : Ballots ((l, s) :: hist) g := by
  have hsource (id : Nat) (p : Proposal) (hstored : g.proposals id = some p) :
      ∃ q, s.registry.proposals id = some q ∧ q.content = p.content := by
    have hmap := hcontent id
    rw [hstored] at hmap
    cases hq : s.proposal id with
    | none => simp [hq] at hmap
    | some q => exact ⟨q, hq, by simpa [hq] using hmap.symm⟩
  constructor
  · intro id p hstored
    obtain ⟨q, hq, -⟩ := hsource id p hstored
    rw [hnext]
    exact h.numbered id q hq
  · intro id p hstored
    obtain ⟨q, hq, heq⟩ := hsource id p hstored
    have hsubmittable := h.submittable id q hq
    have hfields : q.quorumBps = p.quorumBps ∧ q.submittedAt = p.submittedAt ∧ q.eta = p.eta ∧
        q.request = p.request :=
      ⟨congrArg (·.quorumBps) heq, congrArg (·.submittedAt) heq, congrArg (·.eta) heq,
        congrArg (·.request) heq⟩
    obtain ⟨hquorum, hsubmitted, heta, hrequest⟩ := hfields
    obtain ⟨hkind, -, htarget2, htarget3⟩ := Request.mk.inj hrequest
    exact ⟨hquorum ▸ hsubmittable.quorum, hsubmitted ▸ heta ▸ hsubmittable.delayed,
      hsubmitted ▸ hsubmittable.fits, htarget3 ▸ hsubmittable.value,
      hkind ▸ htarget3 ▸ hsubmittable.window, hkind ▸ htarget2 ▸ hsubmittable.treasury⟩
  · intro id p hstored voter votedYes
    obtain ⟨q, hq, heq⟩ := hsource id p hstored
    have hvotes : q.votes = p.votes := congrArg (·.votes) heq
    rw [← hvotes, LatestVote.cons_iff (hother id voter)]
    exact h.latest id q hq voter votedYes
  · intro step hmem id voter votedYes hcast
    rcases List.mem_cons.mp hmem with rfl | hmem
    · exact absurd hcast (hother id voter votedYes)
    · obtain ⟨q, hq⟩ := h.stored step hmem id voter votedYes hcast
      have hmap := hcontent id
      rw [show s.proposal id = some q from hq] at hmap
      cases hg : g.proposals id with
      | none => simp [hg] at hmap
      | some p => exact ⟨p, rfl⟩

theorem submit {p : Proposal} (h : Ballots hist s.registry)
    (hother : ∀ id voter voted, ¬CastsVote id voter voted l s)
    (hwrap : s.currentProposalId < u64Max) (hvotes : p.votes = ∅) (hp : p.Submittable) :
    Ballots ((l, s) :: hist) (Registry.put
      { s.registry with nextProposalId := (s.currentProposalId + 1) % (u64Max + 1) }
      s.currentProposalId p) := by
  have hnew : s.registry.proposals s.currentProposalId = none := by
    cases hq : s.registry.proposals s.currentProposalId with
    | none => rfl
    | some q => exact absurd (h.numbered _ q hq) (lt_irrefl _)
  constructor
  · intro j q hq
    show j < (s.currentProposalId + 1) % (u64Max + 1)
    rw [Nat.mod_eq_of_lt (by omega)]
    by_cases hj : j = s.currentProposalId
    · omega
    · have hlt : j < s.currentProposalId :=
        h.numbered j q (by simpa [Registry.put, hj] using hq)
      omega
  · intro j q hq
    by_cases hj : j = s.currentProposalId
    · subst hj
      obtain rfl : p = q := by simpa [Registry.put] using hq
      exact hp
    · exact h.submittable j q (by simpa [Registry.put, hj] using hq)
  · intro j q hq voter votedYes
    rw [LatestVote.cons_iff (hother j voter)]
    by_cases hj : j = s.currentProposalId
    · subst hj
      obtain rfl : p = q := by simpa [Registry.put] using hq
      rw [hvotes]
      constructor
      · intro hlookup
        cases hlookup
      · -- a vote on the new number would have needed a stored proposal
        intro hlatest
        obtain ⟨step, hmem, hcast⟩ := hlatest.exists_mem
        obtain ⟨q, hq⟩ := h.stored step hmem _ _ _ hcast
        rw [hnew] at hq
        cases hq
    · exact h.latest j q (by simpa [Registry.put, hj] using hq) voter votedYes
  · intro step hmem id voter votedYes hcast
    rcases List.mem_cons.mp hmem with rfl | hmem
    · exact absurd hcast (hother id voter votedYes)
    · obtain ⟨q, hq⟩ := h.stored step hmem id voter votedYes hcast
      by_cases hid : id = s.currentProposalId
      · exact ⟨p, by simp [Registry.put, hid]⟩
      · exact ⟨q, by simp [Registry.put, hid, hq]⟩

theorem vote {env : Env} {id nonce : Nat} {votedYes : Bool} {guardian : Address} {p : Proposal}
    (h : Ballots hist s.registry) (hl : l = .call env (.voteProposal id votedYes nonce))
    (hadmin : s.admin = some guardian) (hstored : s.proposal id = some p) :
    Ballots ((l, s) :: hist)
      (s.registry.put id { p with votes := p.votes.insert guardian votedYes }) := by
  have hcasts : CastsVote id guardian votedYes l s := ⟨env, nonce, hl, hadmin⟩
  have honly (j : Nat) (voter : Address) (voted : Bool) (hcast : CastsVote j voter voted l s) :
      j = id ∧ voter = guardian ∧ voted = votedYes := by
    obtain ⟨_, _, hcall, hvoter⟩ := hcast
    rw [hl] at hcall
    cases hcall
    exact ⟨rfl, Option.some.inj (hvoter.symm.trans hadmin), rfl⟩
  constructor
  · intro j q hq
    by_cases hj : j = id
    · exact hj ▸ h.numbered id p hstored
    · exact h.numbered j q (by simpa [Registry.put, hj] using hq)
  · intro j q hq
    by_cases hj : j = id
    · subst hj
      obtain rfl : _ = q := by simpa [Registry.put] using hq
      have hp := h.submittable j p hstored
      exact ⟨hp.quorum, hp.delayed, hp.fits, hp.value, hp.window, hp.treasury⟩
    · exact h.submittable j q (by simpa [Registry.put, hj] using hq)
  · intro j q hq voter voted
    by_cases hj : j = id
    · subst hj
      obtain rfl : _ = q := by simpa [Registry.put] using hq
      by_cases hvoter : voter = guardian
      · subst hvoter
        rw [AList.lookup_insert]
        constructor
        · intro heq
          obtain rfl := Option.some.inj heq
          exact .inl hcasts
        · rintro (hcast | ⟨hnone, -⟩)
          · rw [(honly _ _ _ hcast).2.2]
          · exact absurd hcasts (hnone votedYes)
      · have hother (voted : Bool) : ¬CastsVote j voter voted l s :=
          fun hcast => hvoter (honly _ _ _ hcast).2.1
        rw [AList.lookup_insert_ne hvoter, LatestVote.cons_iff hother]
        exact h.latest j p hstored voter voted
    · have hother (voted : Bool) : ¬CastsVote j voter voted l s :=
        fun hcast => hj (honly _ _ _ hcast).1
      rw [LatestVote.cons_iff hother]
      exact h.latest j q (by simpa [Registry.put, hj] using hq) voter voted
  · intro step hmem j voter voted hcast
    by_cases hj : j = id
    · exact ⟨_, by rw [hj]; exact Function.update_self ..⟩
    · rcases List.mem_cons.mp hmem with rfl | hmem
      · exact absurd (honly _ _ _ hcast).1 hj
      · obtain ⟨q, hq⟩ := h.stored step hmem j voter voted hcast
        exact ⟨q, by simp [Registry.put, hj, hq]⟩

end Ballots

/-- Nothing but a submission or a vote touches the counter or the content of proposals. -/
theorem AdminCall.Effect.keeps_counter {env : Env} {s : State} {call : AdminCall} {g : Registry}
    (h : call.Effect env s g) (hsubmission : ¬call.IsSubmission) :
    g.nextProposalId = s.registry.nextProposalId := by
  cases ProposalChange.of_effect h with
  | none _ hnext => exact hnext
  | update _ _ _ _ _ _ hnext => exact hnext
  | submit _ hsubmits => exact absurd hsubmits hsubmission

/-- An accepted submission has passed the checks of `doSubmitProposal`. -/
theorem submittable_of_run {env : Env} {s t : State} {request : Request}
    {quorumBps eta id : Nat} {p : Proposal}
    (hrun : (doSubmitProposal request quorumBps eta).run env s = .ok id t)
    (hfits : request.target3 ≤ u32Max) (hstored : t.proposal s.currentProposalId = some p) :
    p.Submittable := by
  simp only [doSubmitProposal, run_bind_ok, run_ask_ok, run_failIf_ok, run_lift_ok,
    run_okOr_ok, run_getNextProposalId_ok, run_store_ok, run_pure_ok] at hrun
  obtain ⟨_, _, ⟨rfl, rfl⟩, _, _, ⟨hquorum, rfl⟩, _, _, ⟨hwindow, rfl⟩, _, _,
    ⟨hconfig, rfl⟩, minEta, _, ⟨hmin, rfl⟩, _, _, ⟨heta, rfl⟩, _, _, ⟨rfl, rfl⟩, _, _, rfl, -, rfl⟩ := hrun
  obtain ⟨rfl, hminEta⟩ := checkedAddU64_eq_some.mp hmin
  obtain rfl : _ = p := by simpa [State.proposal] using hstored
  refine ⟨Nat.not_lt.mp hquorum, Nat.not_lt.mp heta, hminEta, hfits, ?_, ?_⟩
  · intro hkind hzero
    exact hwindow ⟨hkind, hzero⟩
  · intro hkind hnone
    have hkind : request.kind = .setProtocolFee := hkind
    have hnone : request.target2 = none := hnone
    simp [validateProposalConfig, hkind, validateSetProtocolFeeProposal, hnone] at hconfig
    split at hconfig <;> cases hconfig

theorem Ballots.step {hist : History AdminAction State} {l : AdminAction} {s t : State}
    (h : Ballots hist s.registry) (hstep : Guarded AdminAction.CounterFits AdminStep l s t) :
    Ballots ((l, s) :: hist) t.registry := by
  obtain ⟨hfits, ⟨hrun⟩ | ⟨heq⟩⟩ := hstep
  swap
  · refine h.quiet ?_ (by rw [heq]) fun j => by rw [heq]; rfl
    rintro id voter voted ⟨_, _, hcall, -⟩
    cases hcall
  rename_i env call
  have heffect := adminCall_effect hrun
  by_cases hvote : call.IsVote
  · cases call with
    | voteProposal id votedYes nonce =>
      obtain ⟨guardian, p, hauth, -, hstored, -, -, -, heq⟩ := heffect
      rw [heq]
      exact h.vote rfl hauth.1 hstored
    | _ => exact hvote.elim
  have hother (id : Nat) (voter : Address) (voted : Bool) :
      ¬CastsVote id voter voted (.call env call) s := by
    rintro ⟨_, _, hcall, -⟩
    cases hcall
    exact hvote trivial
  by_cases hsubmission : call.IsSubmission
  · cases call with
    | submitProposal request quorumBps eta =>
      obtain ⟨id, u, hsubmit, hpure⟩ := run_bind_ok.mp hrun
      obtain ⟨-, rfl⟩ := run_pure_ok.mp hpure
      obtain ⟨-, -, heq⟩ := heffect
      have hp := submittable_of_run hsubmit hfits.1
        (show u.registry.proposals s.currentProposalId = some _ by
          rw [heq]
          exact Function.update_self ..)
      rw [heq]
      exact h.submit hother hfits.2 rfl hp
    | _ => exact hsubmission.elim
  · exact h.quiet hother (heffect.keeps_counter hsubmission)
      (heffect.keeps_content hvote hsubmission)

theorem ballots_of_run {hist : History AdminAction State} {s : State}
    (hrun : Run (Guarded AdminAction.CounterFits AdminStep) FiniteStore.empty hist s) :
    Ballots hist s.registry := by
  refine hrun.invariant (I := fun hist s => Ballots hist s.registry) ?_
    fun _ _ _ _ h hstep => h.step hstep
  constructor <;> simp [Registry.Numbered, State.registry, State.proposal]

/-! ## Execution -/

/-- The action of a proposal that passed submission fails only for the reserved kind. -/
theorem applyProposal_succeeds (env : Env) (s : State) {p : Proposal} (hp : p.Submittable) :
    (∃ t, (applyProposal p).run env s = .ok () t) ↔ p.kind ≠ .upgradeContract := by
  unfold applyProposal
  cases hkind : p.kind with
  | upgradeContract => simp
  | setDisputeWindow =>
    have hpos := hp.window hkind
    have hle := hp.value
    simp [applyDisputeWindowSecs, hpos, Nat.not_lt.mpr hle]
  | rotateAdmin => simp [invalidatePendingProposals]
  | setProtocolFee => cases p.target2 <;> simp [whenSome]
  | setOracleConfig => simp [setOracleAddress]
  | _ => simp

/-- Past its ETA, with the members' yes weight reaching the required votes, a proposal can be
executed unless it is of the reserved kind. -/
theorem execute_succeeds_iff {env : Env} {s : State} {id : Nat} {p : Proposal}
    (hp : p.Submittable) (hstored : s.proposal id = some p) (hvalid : s.proposalCutoff ≤ id)
    (hfresh : p.executed = false) (hdue : p.eta ≤ env.now)
    (hreached : requiredVotes s.guardians p ≤ memberWeight s.guardians p true) :
    (∃ t, (AdminCall.executeProposal id).exec.run env s = .ok () t) ↔
      p.kind ≠ .upgradeContract := by
  have hquorum : requiredVotes s.guardians p ≤ (calculateQuorum s.guardians p).1 := by
    have hle : requiredVotes s.guardians p ≤ u32Max :=
      Nat.le_of_lt_succ (Nat.mod_lt _ (Nat.succ_pos _))
    rw [calculateQuorum_eq]
    exact Nat.le_min.mpr ⟨hreached, hle⟩
  have hdelay : checkedAddU64 p.submittedAt minTimelockDelay =
      some (p.submittedAt + minTimelockDelay) := checkedAddU64_eq_some.mpr ⟨rfl, hp.fits⟩
  have hdelayed := hp.delayed
  rw [← applyProposal_succeeds env s hp]
  simp only [AdminCall.exec, doExecuteProposal, ensureProposalNotInvalidated, run_bind_ok,
    run_ask_ok, run_getState_ok, run_okOr_ok, run_failIf_ok, run_store_ok]
  constructor
  · rintro ⟨_, _, _, ⟨rfl, rfl⟩, _, _, ⟨rfl, rfl⟩, q, _, ⟨hq, rfl⟩, _, _, ⟨_, _, ⟨rfl, rfl⟩, -, rfl⟩,
      _, _, ⟨-, rfl⟩, _, _, ⟨-, rfl⟩, _, _, ⟨-, rfl⟩, _, _, ⟨-, rfl⟩, _, _, ⟨-, rfl⟩, _, u, happly,
      -⟩
    obtain rfl : p = q := Option.some.inj (hstored.symm.trans hq)
    exact ⟨u, happly⟩
  · rintro ⟨u, happly⟩
    refine ⟨_, _, _, ⟨rfl, rfl⟩, _, _, ⟨rfl, rfl⟩, p, _, ⟨hstored, rfl⟩, (), _,
      ⟨_, _, ⟨rfl, rfl⟩, ?_, rfl⟩, (), _, ⟨by simp [hfresh], rfl⟩, _, _, ⟨hdelay, rfl⟩, (), _,
      ⟨?_, rfl⟩, (), _, ⟨?_, rfl⟩, (), _, ⟨?_, rfl⟩, (), u, happly, rfl⟩ <;> omega

/-- What guardian voting comes to in any state a run reaches. A guardian's vote is recorded
exactly when the guardian is the admin; the votes on record are the latest of each voter; the
tally is the weight of the members on either side exactly when that fits a `u32`; and a proposal
its members carry can be executed exactly when it is not of the reserved kind. -/
theorem guardian_voting {hist : History AdminAction State} {s : State} {id : Nat} {p : Proposal}
    (hrun : Run (Guarded AdminAction.CounterFits AdminStep) FiniteStore.empty hist s)
    (hstored : s.proposal id = some p) :
    (∀ env guardian votedYes nonce, s.VotingOpen env.now id p →
      env.authorized guardian ∧ guardian ≠ env.host.contract → s.guardianWeight guardian ≠ 0 →
      s.nonce guardian .governanceVote = nonce → nonce < u64Max →
        (VoteRecorded env s id p guardian votedYes nonce ↔ s.admin = some guardian)) ∧
    (∀ voter votedYes,
      p.votes.lookup voter = some votedYes ↔ LatestVote hist id voter votedYes) ∧
    (((calculateQuorum s.guardians p).1 = memberWeight s.guardians p true ↔
        memberWeight s.guardians p true ≤ u32Max) ∧
      ((calculateQuorum s.guardians p).2 = memberWeight s.guardians p false ↔
        memberWeight s.guardians p false ≤ u32Max)) ∧
    (∀ env : Env, s.proposalCutoff ≤ id → p.executed = false → p.eta ≤ env.now →
      requiredVotes s.guardians p ≤ memberWeight s.guardians p true →
        ((∃ t, (AdminCall.executeProposal id).exec.run env s = .ok () t) ↔
          p.kind ≠ .upgradeContract)) := by
  have hballots := ballots_of_run hrun
  refine ⟨?_, hballots.latest id p hstored, ?_, ?_⟩
  · intro env guardian votedYes nonce hopen hauth hweight hnonce hfits
    exact voteRecorded_iff hopen hauth hweight hnonce hfits
  · rw [calculateQuorum_eq]
    exact ⟨min_eq_left_iff, min_eq_left_iff⟩
  · intro env hvalid hfresh hdue hreached
    exact execute_succeeds_iff (hballots.submittable id p hstored) hstored hvalid hfresh hdue
      hreached

section Runs

private abbrev setUp : List (Env × AdminCall) :=
  [(sampleEnv 0 [], .submitProposal ⟨.emergencyStop, ⟨1⟩, none, 1⟩ 6700 172800),
   (sampleEnv 0 [⟨1⟩], .addGuardian ⟨1⟩ ⟨2⟩ 10), (sampleEnv 0 [⟨1⟩], .addGuardian ⟨1⟩ ⟨1⟩ 20),
   (sampleEnv 0 [], .init ⟨10⟩ 7 ⟨1⟩ 100 86400)]

private theorem setUp_run : Run (Guarded AdminAction.CounterFits AdminStep) FiniteStore.empty
    (callHistory setUp) (callsAfter setUp) := by
  apply run_calls (by decide +kernel)
  intro step hmem
  simp only [callHistory, List.mem_cons, List.not_mem_nil, or_false] at hmem
  rcases hmem with rfl | rfl | rfl | rfl <;> trivial

private theorem setUp_open : ∃ p, (callsAfter setUp).VotingOpen 1 0 p := by
  have hpending : ((callsAfter setUp).proposal 0).any
      fun p => p.executed = false ∧ p.eta = 172800 := by decide +kernel
  obtain ⟨p, hstored, hterms⟩ := (Option.any_eq_true _ _).mp hpending
  obtain ⟨hfresh, heta⟩ := of_decide_eq_true hterms
  exact ⟨p, hstored, by decide +kernel, hfresh, by omega⟩

/-- The admin, who is a guardian, votes on a proposal to stop the vault. -/
theorem guardian_voting_admin :
    ∃ p, VoteRecorded (sampleEnv 1 [⟨1⟩]) (callsAfter setUp) 0 p ⟨1⟩ true 0 := by
  obtain ⟨p, hvoting⟩ := setUp_open
  have hvotes := (guardian_voting setUp_run hvoting.stored).1
  exact ⟨p, (hvotes (sampleEnv 1 [⟨1⟩]) ⟨1⟩ true 0 hvoting (by decide) (by decide +kernel)
    (by decide +kernel) (by decide)).mpr (by decide +kernel)⟩

/-- Address 2 is a guardian, and nobody but address 2 signs its vote: it is not recorded. -/
theorem guardian_vote_refused :
    ¬∀ (hist : History AdminAction State) (s : State) (env : Env) (id : Nat) (p : Proposal)
      (guardian : Address) (votedYes : Bool) (nonce : Nat),
      Run AdminStep FiniteStore.empty hist s → s.VotingOpen env.now id p →
        env.authorized guardian ∧ guardian ≠ env.host.contract → s.guardianWeight guardian ≠ 0 →
          s.nonce guardian .governanceVote = nonce → nonce < u64Max →
            VoteRecorded env s id p guardian votedYes nonce := by
  intro hall
  obtain ⟨p, hvoting⟩ := setUp_open
  obtain ⟨t, -, hvote, -⟩ := hall _ _ (sampleEnv 1 [⟨2⟩]) 0 p ⟨2⟩ true 0
    (setUp_run.mono fun _ _ _ h => h.2) hvoting (by decide) (by decide +kernel)
    (by decide +kernel) (by decide)
  have hfails : (AdminCall.voteProposal 0 true 0).exec.succeeds (sampleEnv 1 [⟨2⟩])
      (callsAfter setUp) = false := by decide +kernel
  rw [Exec.succeeds, hvote] at hfails
  cases hfails

end Runs

end SubscriptionVault
