import SubscriptionVault.Governance.Approval

/-!
# Pending handovers

A rotation can be pending in two places: as the one two-step proposal, and among the numbered
proposals behind the cutoff. A change of the admin moves the cutoff past every numbered
proposal; only a claim removes the two-step proposal. As long as no change happens over an open
two-step proposal, every change of the admin stems from the call itself or from a request made
since the change before.
-/

namespace SubscriptionVault

open Exec

/-! ## Requests -/

def AdminAction.now? : AdminAction → Option Nat
  | .call env _ => some env.now
  | .other => none

/-- The ledger's clock never runs backwards. -/
def ClockForward (hist : History AdminAction State) : Prop :=
  hist.Pairwise fun later earlier =>
    ∀ now ∈ later.1.now?, ∀ before ∈ earlier.1.now?, before ≤ now

/-- The step is taken under the admin, or before the vault had one. -/
def SameAdmin (admin : Option Address) (_l : AdminAction) (u : State) : Prop :=
  u.admin = none ∨ u.admin = admin

/-- The step proposes `newAdmin` in two steps, signed by the admin. -/
def ProposesAdmin (admin newAdmin : Address) (l : AdminAction) (u : State) : Prop :=
  ∃ env, l = .call env (.proposeAdmin admin newAdmin) ∧ u.AdminAuth env admin

/-- The step submits proposal `id`. -/
def SubmitsProposal (id : Nat) (request : Request) (l : AdminAction) (u : State) : Prop :=
  ∃ env quorumBps eta, l = .call env (.submitProposal request quorumBps eta) ∧
    u.currentProposalId = id

/-- The change of the admin from `old` to `t.admin` stems from the step's own call, signed by
the admin, or from a request made since the change before. -/
inductive AdminChangeFresh (hist : History AdminAction State) (l : AdminAction) (s t : State)
    (old : Address) : Prop
  | rotated (env : Env) (newAdmin : Address) (nonce : Nat)
      (hcall : l = .call env (.rotateAdmin old newAdmin nonce)) (hauth : s.AdminAuth env old)
  | claimed (env : Env) (claimant : Address) (hcall : l = .call env (.claimAdminRole claimant))
      (hsince : Since (SameAdmin (some old)) (ProposesAdmin old claimant) hist)
  | voted (env : Env) (id : Nat) (request : Request)
      (hcall : l = .call env (.executeProposal id)) (hkind : request.kind = .rotateAdmin)
      (hsince : Since (SameAdmin (some old)) (SubmitsProposal id request) hist)

/-- No two-step proposal can still be claimed at `now`. -/
def State.NoOpenHandover (s : State) (now : Nat) : Prop :=
  ∀ proposal, s.adminProposal = some proposal → proposal.expiresAt < now

/-- The admin is rotated, directly or by an executed proposal, only while no two-step proposal
is open; the proposal counter does not wrap around. -/
def AdminAction.HandoverClear (l : AdminAction) (s : State) : Prop :=
  match l with
  | .call env (.rotateAdmin _ _ _) => s.NoOpenHandover env.now
  | .call env (.executeProposal id) =>
    (∃ p, s.proposal id = some p ∧ p.kind = .rotateAdmin) → s.NoOpenHandover env.now
  | .call _ (.submitProposal _ _ _) => s.currentProposalId < u64Max
  | _ => True

/-! ## Where open requests come from -/

/-- The clock has passed the proposal's window. -/
def Lapsed (hist : History AdminAction State) (proposal : AdminProposal) : Prop :=
  ∃ env call u, (.call env call, u) ∈ hist ∧ proposal.expiresAt < env.now

/-- What can still change the admin was requested since the last change. -/
structure OpenSinceChange (hist : History AdminAction State) (g : Registry) : Prop where
  numbered : g.Numbered
  proposed : ∀ proposal, g.adminProposal = some proposal → Lapsed hist proposal ∨
    ∃ admin, g.admin = some admin ∧
      Since (SameAdmin (some admin)) (ProposesAdmin admin proposal.newAdmin) hist
  submitted : ∀ id p, g.proposals id = some p → g.cutoff ≤ id →
    Since (SameAdmin g.admin) (SubmitsProposal id p.request) hist

namespace OpenSinceChange

variable {hist : History AdminAction State} {g g' : Registry} {l : AdminAction} {s : State}
  {now id : Nat} {p p' : Proposal}

theorem cons (h : OpenSinceChange hist s.registry) :
    OpenSinceChange ((l, s) :: hist) s.registry where
  numbered := h.numbered
  proposed proposal hproposal := by
    rcases h.proposed proposal hproposal with ⟨env, call, u, hmem, hlapsed⟩ | ⟨admin, ha, hsince⟩
    · exact .inl ⟨env, call, u, List.mem_cons_of_mem _ hmem, hlapsed⟩
    · exact .inr ⟨admin, ha, .inr ⟨.inr ha, hsince⟩⟩
  submitted id p hstored hvalid := .inr ⟨.inr rfl, h.submitted id p hstored hvalid⟩

/-- A registry with the same proposals and no new two-step proposal. -/
theorem of_eq (h : OpenSinceChange hist g) (hproposals : g'.proposals = g.proposals)
    (hnext : g'.nextProposalId = g.nextProposalId) (hcutoff : g'.cutoff = g.cutoff)
    (hadmin : g'.admin = g.admin)
    (hrotation : g'.adminProposal = g.adminProposal ∨ g'.adminProposal = none) :
    OpenSinceChange hist g' where
  numbered := by
    intro id p hstored
    rw [hnext]
    exact h.numbered id p (hproposals ▸ hstored)
  proposed proposal hproposal := by
    rw [hadmin]
    rcases hrotation with heq | heq
    · exact h.proposed proposal (heq ▸ hproposal)
    · rw [heq] at hproposal
      cases hproposal
  submitted id p hstored hvalid := by
    rw [hadmin]
    rw [hproposals] at hstored
    rw [hcutoff] at hvalid
    exact h.submitted id p hstored hvalid

/-- A stored proposal may change in everything but what it asks for. -/
theorem put (h : OpenSinceChange hist g) (hstored : g.proposals id = some p)
    (hrequest : p'.request = p.request) : OpenSinceChange hist (g.put id p') where
  numbered := by
    intro j q hq
    by_cases hj : j = id
    · subst hj
      exact h.numbered j p hstored
    · exact h.numbered j q (by simpa [Registry.put, hj] using hq)
  proposed := h.proposed
  submitted j q hq hvalid := by
    by_cases hj : j = id
    · subst hj
      obtain rfl : p' = q := by simpa [Registry.put] using hq
      rw [hrequest]
      exact h.submitted j p hstored hvalid
    · exact h.submitted j q (by simpa [Registry.put, hj] using hq) hvalid

/-- After a rotation nothing is open: the cutoff has passed every proposal. -/
theorem rotated (h : g.Numbered) (admin : Option Address)
    (hlapsed : ∀ proposal, g.adminProposal = some proposal → Lapsed hist proposal) :
    OpenSinceChange hist (g.rotated admin) where
  numbered := h
  proposed proposal hproposal := .inl (hlapsed proposal hproposal)
  submitted id p hstored hvalid := by
    have hlt : id < g.nextProposalId := h id p hstored
    have hge : g.nextProposalId ≤ id := hvalid
    omega

theorem executes (h : OpenSinceChange hist g) (hexec : g.Executes now id g')
    (hlapsed : (∃ p, g.proposals id = some p ∧ p.kind = .rotateAdmin) →
      ∀ proposal, g.adminProposal = some proposal → Lapsed hist proposal) :
    OpenSinceChange hist g' := by
  obtain ⟨p, hp, ⟨hkind, admin, -, rfl⟩ | ⟨-, rfl⟩⟩ := hexec
  · have hrotated : OpenSinceChange hist (g.rotated admin) :=
      rotated h.numbered admin (hlapsed ⟨p, hp.stored, hkind⟩)
    exact hrotated.put hp.stored rfl
  · exact h.put hp.stored rfl

/-- The vault is set up; until then nobody could propose a rotation. -/
theorem initialised (h : OpenSinceChange hist g) (hadmin : g.admin = none) (admin : Address) :
    OpenSinceChange hist { g with admin := some admin } where
  numbered := h.numbered
  proposed proposal hproposal := by
    rcases h.proposed proposal hproposal with hlapsed | ⟨_, hsome, -⟩
    · exact .inl hlapsed
    · rw [hadmin] at hsome
      cases hsome
  submitted id p hstored hvalid := by
    have hsince := h.submitted id p hstored hvalid
    rw [hadmin] at hsince
    refine hsince.mono ?_ fun _ _ hmade => hmade
    intro _ u hu
    simp only [SameAdmin, or_self] at hu
    exact .inl hu

theorem submit (h : OpenSinceChange hist s.registry) (hwrap : s.currentProposalId < u64Max)
    {request : Request} (hrequest : p.request = request)
    (hsubmits : SubmitsProposal s.currentProposalId request l s) :
    OpenSinceChange ((l, s) :: hist) (Registry.put
      { s.registry with nextProposalId := (s.currentProposalId + 1) % (u64Max + 1) }
      s.currentProposalId p) where
  numbered := by
    intro j q hq
    have hnext : (s.currentProposalId + 1) % (u64Max + 1) = s.currentProposalId + 1 :=
      Nat.mod_eq_of_lt (by omega)
    show j < (s.currentProposalId + 1) % (u64Max + 1)
    rw [hnext]
    by_cases hj : j = s.currentProposalId
    · omega
    · have hlt : j < s.currentProposalId :=
        h.numbered j q (by simpa [Registry.put, hj] using hq)
      omega
  proposed := h.cons.proposed
  submitted j q hq hvalid := by
    by_cases hj : j = s.currentProposalId
    · subst hj
      obtain rfl : p = q := by simpa [Registry.put] using hq
      rw [hrequest]
      exact .inl hsubmits
    · exact h.cons.submitted j q (by simpa [Registry.put, hj] using hq) hvalid

theorem step {t : State} (h : OpenSinceChange hist s.registry)
    (hstep : Guarded AdminAction.HandoverClear AdminStep l s t) :
    OpenSinceChange ((l, s) :: hist) t.registry := by
  obtain ⟨hclear, ⟨hrun⟩ | ⟨heq⟩⟩ := hstep
  swap
  · rw [heq]
    exact h.cons
  rename_i env call
  have heffect := adminCall_effect hrun
  have hcons : OpenSinceChange ((.call env call, s) :: hist) s.registry := h.cons
  have hlapsed (hnone : s.NoOpenHandover env.now) (proposal : AdminProposal)
      (hproposal : s.adminProposal = some proposal) :
      Lapsed ((.call env call, s) :: hist) proposal :=
    ⟨env, call, s, List.mem_cons_self, hnone proposal hproposal⟩
  cases call with
  | init =>
    rw [heffect.2]
    exact hcons.initialised heffect.1 _
  | rotateAdmin =>
    obtain ⟨-, id, admin, -, -, hconsumes⟩ := heffect
    have hrotated : OpenSinceChange _ (s.registry.rotated admin) :=
      rotated h.numbered admin (hlapsed hclear)
    rcases hconsumes with ⟨-, heq⟩ | ⟨-, hexec⟩
    · rw [heq]
      exact hrotated
    · exact hrotated.executes hexec fun _ => hlapsed hclear
  | proposeAdmin currentAdmin newAdmin =>
    obtain ⟨hauth, heq⟩ := heffect
    rw [heq]
    refine ⟨hcons.numbered, ?_, hcons.submitted⟩
    intro proposal hproposal
    obtain rfl := Option.some.inj hproposal
    exact .inr ⟨currentAdmin, hauth.1, .inl ⟨env, rfl, hauth⟩⟩
  | claimAdminRole =>
    obtain ⟨-, _, admin, -, -, -, -, -, heq⟩ := heffect
    rw [heq]
    refine rotated (g := { s.registry with adminProposal := none }) h.numbered admin ?_
    simp
  | cancelAdminProposal =>
    rw [heffect.2]
    exact hcons.of_eq rfl rfl rfl rfl (.inr rfl)
  | submitProposal request quorumBps eta =>
    obtain ⟨-, -, heq⟩ := heffect
    rw [heq]
    exact h.submit hclear rfl ⟨env, quorumBps, eta, rfl, rfl⟩
  | voteProposal =>
    obtain ⟨_, p, -, -, hstored, -, -, -, heq⟩ := heffect
    rw [heq]
    exact hcons.put hstored rfl
  | executeProposal => exact hcons.executes heffect fun hrotates => hlapsed (hclear hrotates)
  | cancelProposal =>
    obtain ⟨_, p, -, hstored, -, heq⟩ := heffect
    rw [heq]
    exact hcons.put hstored rfl
  | addGuardian =>
    rw [heffect.2.2]
    exact hcons.of_eq rfl rfl rfl rfl (.inl rfl)
  | removeGuardian =>
    rw [heffect.2]
    exact hcons.of_eq rfl rfl rfl rfl (.inl rfl)
  | executeTreasuryChange | cancelTreasuryChange =>
    rw [show t.registry = s.registry from heffect]
    exact hcons
  | recoverStrandedFunds | queueTreasuryChange | addAcceptedToken | removeAcceptedToken
  | enableEmergencyStop | disableEmergencyStop =>
    simp only [AdminCall.Effect] at heffect
    split at heffect
    · rename_i request hrequest
      obtain ⟨-, id, happroves, hconsumes⟩ := heffect
      have hkind : request.kind ≠ .rotateAdmin := by
        unfold AdminCall.request? at hrequest
        grind
      rcases Registry.consumes_of_approves happroves hconsumes hkind with
        ⟨-, heq⟩ | ⟨p, -, hexec, heq⟩
      · rw [heq]
        exact hcons
      · rw [heq]
        exact hcons.put hexec.stored rfl
    · rw [heffect]
      exact hcons

end OpenSinceChange

theorem openSinceChange_of_run {hist : History AdminAction State} {s : State}
    (hrun : Run (Guarded AdminAction.HandoverClear AdminStep) FiniteStore.empty hist s) :
    OpenSinceChange hist s.registry := by
  refine hrun.invariant (I := fun hist s => OpenSinceChange hist s.registry) ?_
    fun _ _ _ _ h hstep => h.step hstep
  constructor <;> simp [Registry.Numbered, State.registry, State.proposal, State.adminProposal]

/-! ## Changes of the admin -/

/-- A lapsed proposal cannot be claimed. -/
theorem expired_of_lapsed {hist : History AdminAction State} {proposal : AdminProposal}
    {env : Env} {call : AdminCall} {s : State} (hlapsed : Lapsed hist proposal)
    (hclock : ClockForward ((.call env call, s) :: hist)) : proposal.expiresAt < env.now := by
  obtain ⟨before, _, _, hmem, hlt⟩ := hlapsed
  have hle : before.now ≤ env.now := List.rel_of_pairwise_cons hclock hmem _ rfl _ rfl
  omega

/-- In every run whose rotations meet no open two-step proposal, every change of the admin
stems from its own call or from a request made since the change before. -/
theorem admin_change_fresh {hist : History AdminAction State} {s t : State} {l : AdminAction}
    {old : Address}
    (hrun : Run (Guarded AdminAction.HandoverClear AdminStep) FiniteStore.empty hist s)
    (hstep : AdminStep l s t) (hclock : ClockForward ((l, s) :: hist))
    (hold : s.admin = some old) (hchange : t.admin ≠ some old) :
    AdminChangeFresh hist l s t old := by
  have hopen := openSinceChange_of_run hrun
  have hsame (h : t.registry.admin = s.registry.admin) : False :=
    hchange ((show t.admin = s.admin from h).trans hold)
  rcases hstep with ⟨hrun⟩ | ⟨heq⟩
  swap
  · exact (hsame (by rw [heq])).elim
  rename_i env call
  have heffect := adminCall_effect hrun
  cases call with
  | init => exact absurd (heffect.1.symm.trans hold) (by simp)
  | rotateAdmin currentAdmin newAdmin nonce =>
    have hauth := heffect.1
    obtain rfl : currentAdmin = old := Option.some.inj (hauth.1.symm.trans hold)
    exact .rotated env newAdmin nonce rfl hauth
  | claimAdminRole claimant =>
    obtain ⟨-, proposal, admin, hproposal, rfl, -, hwindow, -⟩ := heffect
    rcases hopen.proposed proposal hproposal with hlapsed | ⟨admin, hadmin, hsince⟩
    · have hexpired := expired_of_lapsed hlapsed hclock
      omega
    · obtain rfl : admin = old := Option.some.inj (hadmin.symm.trans hold)
      exact .claimed env _ rfl hsince
  | executeProposal id =>
    obtain ⟨p, hexec, ⟨hkind, -⟩ | ⟨-, heq⟩⟩ := heffect
    · have hsince := hopen.submitted id p hexec.stored hexec.valid
      rw [show s.registry.admin = some old from hold] at hsince
      exact .voted env id p.request rfl hkind hsince
    · exact (hsame (by rw [heq]; rfl)).elim
  | _ => exact (hsame (heffect.keeps_admin fun hwrites => hwrites)).elim

section Runs

private abbrev proposed : List (Env × AdminCall) :=
  [(sampleEnv 0 [⟨1⟩], .proposeAdmin ⟨1⟩ ⟨2⟩), (sampleEnv 0 [], .init ⟨10⟩ 7 ⟨1⟩ 100 86400)]

private abbrev claimTwo : AdminAction := .call (sampleEnv 86400 [⟨2⟩]) (.claimAdminRole ⟨2⟩)

/-- The admin proposes address 2, who claims the role a day later. -/
theorem admin_change_fresh_claim :
    ∃ t, AdminChangeFresh (callHistory proposed) claimTwo (callsAfter proposed) t ⟨1⟩ := by
  have hrun : Run (Guarded AdminAction.HandoverClear AdminStep) FiniteStore.empty
      (callHistory proposed) (callsAfter proposed) := by
    apply run_calls (by decide +kernel)
    intro step hmem
    simp only [callHistory, List.mem_cons, List.not_mem_nil, or_false] at hmem
    rcases hmem with rfl | rfl <;> trivial
  have hclaim : AdminStep claimTwo (callsAfter proposed) _ :=
    .call (run_eq_after (by decide +kernel))
  refine ⟨_, admin_change_fresh hrun hclaim ?_ (by decide +kernel) (by decide +kernel)⟩
  simp [ClockForward, callHistory, AdminAction.now?, claimTwo, sampleEnv]

private abbrev rotatedMeanwhile : List (Env × AdminCall) :=
  (sampleEnv 1 [⟨1⟩], .rotateAdmin ⟨1⟩ ⟨3⟩ 0) :: proposed

/-- The admin proposes address 2 and then rotates the role to address 3. A day later address 2
claims the role from address 3, who never agreed to it. -/
theorem stale_handover_claimed :
    ¬∀ (hist : History AdminAction State) (l : AdminAction) (s t : State) (old : Address),
      Run AdminStep FiniteStore.empty hist s → AdminStep l s t →
        ClockForward ((l, s) :: hist) → s.admin = some old → t.admin ≠ some old →
          AdminChangeFresh hist l s t old := by
  intro hall
  have hrun : Run (Guarded (fun _ _ => True) AdminStep) FiniteStore.empty
      (callHistory rotatedMeanwhile) (callsAfter rotatedMeanwhile) :=
    run_calls (by decide +kernel) fun _ _ => trivial
  have hclaim : AdminStep claimTwo (callsAfter rotatedMeanwhile) _ :=
    .call (run_eq_after (by decide +kernel))
  have hclock : ClockForward ((claimTwo, callsAfter rotatedMeanwhile) ::
      callHistory rotatedMeanwhile) := by
    simp [ClockForward, callHistory, AdminAction.now?, claimTwo, sampleEnv]
  have hfresh := hall _ _ _ _ ⟨3⟩ (hrun.mono fun _ _ _ h => h.2) hclaim hclock
    (by decide +kernel) (by decide +kernel)
  cases hfresh with
  | rotated _ _ _ hcall => cases hcall
  | voted _ _ _ hcall => cases hcall
  | claimed _ _ hcall hsince =>
    cases hcall
    rcases hsince with ⟨_, hmade, -⟩ | ⟨hsame, -⟩
    · cases hmade
    · revert hsame
      unfold SameAdmin
      decide +kernel

end Runs

end SubscriptionVault
