import SubscriptionVault.Contract.Administration

/-!
# The governance registry

The part of the state that decides who administers the vault: the admin, the guardians, the
proposals and the two-step rotation in progress. `AdminCall.Effect` says, for each entrypoint,
what a successful call requires of the registry and what it leaves behind;
`adminCall_effect` proves it of the code. Everything about administration and approval is
derived from that statement.
-/

namespace SubscriptionVault

open Exec

structure Registry where
  admin : Option Address
  guardians : AddressMap Nat
  proposals : Nat → Option Proposal
  nextProposalId : Nat
  cutoff : Nat
  adminProposal : Option AdminProposal

def State.registry (s : State) : Registry where
  admin := s.admin
  guardians := s.guardians
  proposals := s.proposal
  nextProposalId := s.currentProposalId
  cutoff := s.proposalCutoff
  adminProposal := s.adminProposal

namespace Registry

def put (g : Registry) (id : Nat) (p : Proposal) : Registry :=
  { g with proposals := Function.update g.proposals id (some p) }

/-- A change of the admin invalidates every proposal submitted so far. -/
def rotated (g : Registry) (admin : Option Address) : Registry :=
  { g with admin, cutoff := g.nextProposalId }

/-- The weight of the yes votes, of the no votes, and the weight execution asks for. -/
def yes (g : Registry) (p : Proposal) : Nat := (calculateQuorum g.guardians p).1
def no (g : Registry) (p : Proposal) : Nat := (calculateQuorum g.guardians p).2
def required (g : Registry) (p : Proposal) : Nat := requiredVotes g.guardians p

/-- The proposal the approval check finds for a request. -/
def matching (g : Registry) (request : Request) : Option (Nat × Proposal) :=
  matchingProposal g.proposals g.nextProposalId request

/-- What execution requires of a proposal. -/
structure Executable (g : Registry) (now id : Nat) (p : Proposal) : Prop where
  stored : g.proposals id = some p
  valid : g.cutoff ≤ id
  fresh : p.executed = false
  delayed : p.submittedAt + minTimelockDelay ≤ now
  due : p.eta ≤ now
  quorum : g.required p ≤ g.yes p

/-- The admin entry after `new` was written. Before schema version 3 a persistent entry, if
there is one, hides the write. -/
def AdminWritten (old : Option Address) (new : Address) (written : Option Address) : Prop :=
  written = some new ∨ written = old

/-- Execution of proposal `id`. -/
def Executes (now id : Nat) (g g' : Registry) : Prop :=
  ∃ p, g.Executable now id p ∧
    ((p.kind = .rotateAdmin ∧ ∃ admin, AdminWritten g.admin p.target admin ∧
        g' = (g.rotated admin).put id { p with executed := true }) ∨
      (p.kind ≠ .rotateAdmin ∧ g' = g.put id { p with executed := true }))

/-- The answer `id` of the approval check. -/
def Approves (g : Registry) (now : Nat) (request : Request) (id : Nat) : Prop :=
  (g.guardians.entries = [] ∧ id = 0) ∨
    (g.guardians.entries ≠ [] ∧ ∃ p, g.matching request = some (id, p) ∧ p.eta ≤ now ∧
      g.no p * p.quorumBps / 10000 ≤ g.yes p)

def Consumes (now id : Nat) (g g' : Registry) : Prop :=
  (id = 0 ∧ g' = g) ∨ (id ≠ 0 ∧ g.Executes now id g')

end Registry

namespace Registry

variable {g g' : Registry} {now id : Nat} {request : Request} {p : Proposal}

/-- The proposal found for a request is stored, unexecuted and asks for just that request. -/
theorem matching_spec (h : g.matching request = some (id, p)) :
    g.proposals id = some p ∧ p.request = request ∧ p.executed = false ∧
      id ≤ g.nextProposalId := by
  obtain ⟨i, -, hi⟩ := List.exists_of_findSome?_eq_some h
  split at hi
  · rename_i q hstored
    split at hi
    · rename_i hq
      obtain ⟨rfl, rfl⟩ := Prod.mk.inj (Option.some.inj hi)
      exact ⟨hstored, hq.1, hq.2, Nat.sub_le _ _⟩
    · cases hi
  · cases hi

/-- Consuming an approval for anything but a rotation at most marks one proposal executed. -/
theorem consumes_of_approves (happroves : g.Approves now request id)
    (hconsumes : g.Consumes now id g') (hkind : request.kind ≠ .rotateAdmin) :
    (id = 0 ∧ g' = g) ∨
      ∃ p, g.matching request = some (id, p) ∧ g.Executable now id p ∧
        g' = g.put id { p with executed := true } := by
  rcases hconsumes with hzero | ⟨hpos, p, hexec, heffect⟩
  · exact .inl hzero
  rcases happroves with ⟨-, hzero⟩ | ⟨-, q, hmatching, -⟩
  · exact absurd hzero hpos
  obtain ⟨hstored, hrequest, -⟩ := matching_spec hmatching
  obtain rfl : p = q := Option.some.inj (hexec.stored.symm.trans hstored)
  have hkind : p.kind ≠ .rotateAdmin := by
    intro h
    exact hkind (by rw [← hrequest]; exact h)
  rcases heffect with ⟨hrotate, -⟩ | ⟨-, heq⟩
  · exact absurd hrotate hkind
  · exact .inr ⟨p, hmatching, hexec, heq⟩

end Registry

/-- The caller is the stored admin and authorised the call. -/
def State.AdminAuth (env : Env) (s : State) (admin : Address) : Prop :=
  s.admin = some admin ∧ env.authorized admin ∧ admin ≠ env.host.contract

/-- The approval asked for when the call is made in state `s`, if there is one to ask for. -/
def AdminCall.request? (s : State) : AdminCall → Option Request
  | .rotateAdmin _ newAdmin _ => some ⟨.rotateAdmin, newAdmin, none, 0⟩
  | .recoverStrandedFunds _ token recipient amount _ =>
    some ⟨.recoverStrandedFunds, recipient, some token, amountU32 amount⟩
  | .queueTreasuryChange _ treasury feeBps => some ⟨.setProtocolFee, treasury, none, feeBps⟩
  | .addAcceptedToken _ token decimals => some ⟨.addAcceptedToken, token, none, decimals⟩
  | .removeAcceptedToken _ token => some ⟨.removeAcceptedToken, token, none, 0⟩
  | .enableEmergencyStop admin =>
    if s.emergencyStop then none else some ⟨.emergencyStop, admin, none, 1⟩
  | .disableEmergencyStop admin =>
    if s.emergencyStop then some ⟨.emergencyStop, admin, none, 0⟩ else none
  | _ => none

/-- A call that asks for approval and changes nothing else in the registry. -/
def Gated (env : Env) (s : State) (admin : Address) (request : Request) (g : Registry) : Prop :=
  s.AdminAuth env admin ∧
    ∃ id, s.registry.Approves env.now request id ∧ s.registry.Consumes env.now id g

/-- What a successful call requires, and the registry it leaves behind. -/
def AdminCall.Effect (env : Env) (s : State) (call : AdminCall) (g : Registry) : Prop :=
  match call with
  | .init _ _ admin _ _ => s.admin = none ∧ g = { s.registry with admin := some admin }
  | .rotateAdmin currentAdmin newAdmin _ =>
    s.AdminAuth env currentAdmin ∧
      ∃ id admin, s.registry.Approves env.now ⟨.rotateAdmin, newAdmin, none, 0⟩ id ∧
        Registry.AdminWritten s.admin newAdmin admin ∧
        (s.registry.rotated admin).Consumes env.now id g
  | .proposeAdmin currentAdmin newAdmin =>
    s.AdminAuth env currentAdmin ∧
      g = { s.registry with
            adminProposal :=
              some ⟨newAdmin, env.now, saturatingAddU64 env.now proposalWindowSecs⟩ }
  | .claimAdminRole claimant =>
    env.authorized claimant ∧
      ∃ proposal admin, s.adminProposal = some proposal ∧ proposal.newAdmin = claimant ∧
        saturatingAddU64 proposal.proposedAt adminProposalCooldownSecs ≤ env.now ∧
        env.now ≤ proposal.expiresAt ∧ Registry.AdminWritten s.admin claimant admin ∧
        g = { s.registry.rotated admin with adminProposal := none }
  | .cancelAdminProposal admin =>
    s.AdminAuth env admin ∧ g = { s.registry with adminProposal := none }
  | .submitProposal request quorumBps eta =>
    quorumBps ≤ 10000 ∧ env.now + minTimelockDelay ≤ eta ∧
      g = Registry.put
        { s.registry with nextProposalId := (s.currentProposalId + 1) % (u64Max + 1) }
        s.currentProposalId
        { id := s.currentProposalId, kind := request.kind, target := request.target,
          target2 := request.target2, target3 := request.target3, quorumBps, votes := ∅,
          eta, submittedAt := env.now, executed := false }
  | .voteProposal id votedYes _ =>
    ∃ guardian p, s.AdminAuth env guardian ∧ s.guardianWeight guardian ≠ 0 ∧
      s.proposal id = some p ∧ s.proposalCutoff ≤ id ∧ p.executed = false ∧ env.now < p.eta ∧
      g = s.registry.put id { p with votes := p.votes.insert guardian votedYes }
  | .executeProposal id => s.registry.Executes env.now id g
  | .cancelProposal id =>
    ∃ admin p, s.AdminAuth env admin ∧ s.proposal id = some p ∧ p.executed = false ∧
      g = s.registry.put id { p with executed := true }
  | .addGuardian admin guardian weight =>
    s.AdminAuth env admin ∧ weight ≠ 0 ∧
      g = { s.registry with guardians := s.guardians.insert guardian weight }
  | .removeGuardian admin guardian =>
    s.AdminAuth env admin ∧ g = { s.registry with guardians := s.guardians.erase guardian }
  | .executeTreasuryChange _ | .cancelTreasuryChange _ => g = s.registry
  | .recoverStrandedFunds admin _ _ _ _ | .queueTreasuryChange admin _ _
  | .addAcceptedToken admin _ _ | .removeAcceptedToken admin _
  | .enableEmergencyStop admin | .disableEmergencyStop admin =>
    match call.request? s with
    | some request => Gated env s admin request g
    | none => g = s.registry

/-! ## Reading the registry after a write -/

/-- The slots the registry is read from. -/
def Slot.isRegistry : Slot → Bool
  | .persistent .admin | .instanced .admin | .persistent .schemaVersion
  | .instanced .schemaVersion | .persistent .guardians | .instanced .nextProposalId
  | .persistent (.proposal _) | .symbol .proposalCutoff | .symbol .adminProposal => true
  | _ => false

abbrev registryFree : Set Slot := {k | k.isRegistry = false}

theorem registry_of_agreeOff {s t : State} (h : FiniteStore.AgreeOff registryFree s t) :
    t.registry = s.registry := by
  have hread (k : Slot) {α : Type} [Holds Slot.Val k α] (hk : k.isRegistry = true) :
      t.read k = s.read k := h.read (by simp [hk])
  have hadmin : t.admin = s.admin :=
    State.config_of_agreeOff h (by simp [configSlots, Slot.isRegistry])
  have hproposals : t.proposal = s.proposal := funext fun id => hread (.persistent (.proposal id)) rfl
  simp only [State.registry, State.guardians, State.currentProposalId, State.proposalCutoff,
    State.adminProposal, hadmin, hproposals, hread (.persistent .guardians) rfl,
    hread (.instanced .nextProposalId) rfl, hread (.symbol .proposalCutoff) rfl,
    hread (.symbol .adminProposal) rfl]

section Writes

variable (s : State)

theorem registry_write_of_free {k : Slot} {α : Type} [Holds Slot.Val k α] (v : α)
    (hk : k.isRegistry = false) : State.registry (s.write k v) = s.registry :=
  registry_of_agreeOff (s.agreeOff_write v hk)

theorem registry_remove_of_free {k : Slot} (hk : k.isRegistry = false) :
    State.registry (s.remove k) = s.registry :=
  registry_of_agreeOff (s.agreeOff_remove hk)

theorem registry_write_proposal (id : Nat) (p : Proposal) :
    State.registry (s.write (.persistent (.proposal id)) p) = s.registry.put id p := by
  have hproposals : State.proposal (s.write (.persistent (.proposal id)) p) =
      Function.update s.proposal id (some p) := by
    funext j
    by_cases h : j = id
    · subst h
      simp [State.proposal]
    · simp [State.proposal, h]
  simp [State.registry, Registry.put, hproposals, State.admin, configSlots, State.guardians,
    State.currentProposalId, State.proposalCutoff, State.adminProposal]

theorem registry_write_guardians (guardians : AddressMap Nat) :
    State.registry (s.write (.persistent .guardians) guardians) =
      { s.registry with guardians } := by
  simp [State.registry, State.admin, configSlots, State.guardians, State.currentProposalId,
    State.proposalCutoff, State.adminProposal, State.proposal, funext_iff]

theorem registry_write_nextProposalId (n : Nat) :
    State.registry (s.write (.instanced .nextProposalId) n) =
      { s.registry with nextProposalId := n } := by
  simp [State.registry, State.admin, configSlots, State.guardians, State.currentProposalId,
    State.proposalCutoff, State.adminProposal, State.proposal, funext_iff]

theorem registry_write_proposalCutoff (n : Nat) :
    State.registry (s.write (.symbol .proposalCutoff) n) = { s.registry with cutoff := n } := by
  simp [State.registry, State.admin, configSlots, State.guardians, State.currentProposalId,
    State.proposalCutoff, State.adminProposal, State.proposal, funext_iff]

theorem registry_write_adminProposal (p : AdminProposal) :
    State.registry (s.write (.symbol .adminProposal) p) =
      { s.registry with adminProposal := some p } := by
  simp [State.registry, State.admin, configSlots, State.guardians, State.currentProposalId,
    State.proposalCutoff, State.adminProposal, State.proposal, funext_iff]

theorem registry_remove_adminProposal :
    State.registry (s.remove (.symbol .adminProposal)) =
      { s.registry with adminProposal := none } := by
  simp [State.registry, State.admin, configSlots, State.guardians, State.currentProposalId,
    State.proposalCutoff, State.adminProposal, State.proposal, funext_iff]

theorem registry_write_schemaVersion (version : Nat) :
    State.registry (s.write (.persistent .schemaVersion) version) =
      { s.registry with
        admin := State.admin (s.write (.persistent .schemaVersion) version) } := by
  simp [State.registry, State.guardians, State.currentProposalId, State.proposalCutoff,
    State.adminProposal, State.proposal, funext_iff]

theorem registry_writeConfig_admin (admin : Address) :
    ∃ written, Registry.AdminWritten s.admin admin written ∧
      (s.writeConfig .admin admin).registry = { s.registry with admin := written } := by
  refine ⟨_, s.config_writeConfig .admin admin (by simp), ?_⟩
  unfold State.writeConfig
  split <;>
    simp [State.registry, State.admin, State.guardians, State.currentProposalId,
      State.proposalCutoff, State.adminProposal, State.proposal, funext_iff]

theorem registry_writeConfig_admin_of_le (admin : Address) (h : 3 ≤ s.schemaVersion) :
    (s.writeConfig .admin admin).registry = { s.registry with admin := some admin } := by
  obtain ⟨written, -, heq⟩ := registry_writeConfig_admin s admin
  have hwritten : written = some admin := by
    rw [← s.config_writeConfig_of_le .admin admin h]
    exact (congrArg Registry.admin heq).symm
  rw [heq, hwritten]

end Writes

end SubscriptionVault
