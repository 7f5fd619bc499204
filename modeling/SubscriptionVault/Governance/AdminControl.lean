import SubscriptionVault.Framework.Transition
import SubscriptionVault.Governance.Refinement

/-!
# Who can change the admin

Runs of the administration entrypoints, interleaved with any other entrypoints, from the empty
store on. An invariant ties every recorded vote and every pending two-step rotation to the
call that made it; with it, each change of the admin traces back to an authorisation by the
admin of the time or to a governance vote.
-/

namespace SubscriptionVault

/-- An administration call, or any other entrypoint. -/
inductive AdminAction where
  | call (env : Env) (call : AdminCall)
  | other

/-- One committed contract call. The entrypoints outside `AdminCall` leave the registry as it
is; a call that fails leaves everything as it is. -/
inductive AdminStep : AdminAction → State → State → Prop
  | call {env : Env} {call : AdminCall} {s t : State} :
      call.exec.run env s = .ok () t → AdminStep (.call env call) s t
  | other {s t : State} : t.registry = s.registry → AdminStep .other s t

/-! ## Weights -/

theorem calculateTotalWeight_le (guardians : AddressMap Nat) :
    calculateTotalWeight guardians ≤ u32Max := by
  have hfold (l : List (Sigma fun _ : Address => Nat)) (total : Nat) (h : total ≤ u32Max) :
      l.foldl (fun total guardian => saturatingAddU32 total guardian.2) total ≤ u32Max := by
    induction l generalizing total with
    | nil => exact h
    | cons guardian l ih => exact ih _ (Nat.min_le_right _ _)
  exact hfold _ 0 (Nat.zero_le _)

private theorem saturatingAddU32_pos {a b : Nat} :
    0 < saturatingAddU32 a b ↔ 0 < a ∨ 0 < b := by
  have : 0 < u32Max := by decide
  unfold saturatingAddU32
  omega

/-- The yes weight is positive exactly when a current guardian of positive weight voted yes. -/
theorem calculateQuorum_yes_pos (guardians : AddressMap Nat) (p : Proposal) :
    0 < (calculateQuorum guardians p).1 ↔
      ∃ guardian weight, p.votes.lookup guardian = some true ∧
        guardians.lookup guardian = some weight ∧ 0 < weight := by
  have hfold (l : List (Sigma fun _ : Address => Bool)) (tally : Nat × Nat) :
      0 < (l.foldl (countVote guardians) tally).1 ↔
        0 < tally.1 ∨ ∃ guardian weight, ⟨guardian, true⟩ ∈ l ∧
          guardians.lookup guardian = some weight ∧ 0 < weight := by
    induction l generalizing tally with
    | nil => simp
    | cons vote l ih =>
      obtain ⟨voter, votedYes⟩ := vote
      rw [List.foldl_cons, ih]
      cases hlookup : guardians.lookup voter with
      | none => grind [countVote]
      | some weight => cases votedYes <;> grind [countVote, saturatingAddU32_pos]
  unfold calculateQuorum
  rw [hfold]
  simp [← AList.mem_lookup_iff]

/-! ## Where votes and pending rotations come from -/

/-- `voter` cast this vote while it was the admin and a guardian. -/
def VoteCast (hist : History AdminAction State) (id : Nat) (voter : Address)
    (votedYes : Bool) : Prop :=
  ∃ env nonce u, (.call env (.voteProposal id votedYes nonce), u) ∈ hist ∧
    u.AdminAuth env voter ∧ u.guardianWeight voter ≠ 0

/-- The admin of the time proposed the rotation. -/
def RotationProposed (hist : History AdminAction State) (newAdmin : Address) : Prop :=
  ∃ env admin u, (.call env (.proposeAdmin admin newAdmin), u) ∈ hist ∧ u.AdminAuth env admin

structure Attributed (hist : History AdminAction State) (g : Registry) : Prop where
  quorum : ∀ id p, g.proposals id = some p → p.quorumBps ≤ 10000
  votes : ∀ id p voter votedYes, g.proposals id = some p →
    p.votes.lookup voter = some votedYes → VoteCast hist id voter votedYes
  rotation : ∀ proposal, g.adminProposal = some proposal →
    RotationProposed hist proposal.newAdmin

namespace Attributed

variable {hist : History AdminAction State} {g g' : Registry} {e : AdminAction × State}
  {now id : Nat} {p : Proposal}

theorem cons (h : Attributed hist g) : Attributed (e :: hist) g where
  quorum := h.quorum
  votes id p voter votedYes hstored hvote := by
    obtain ⟨env, nonce, u, hmem, hcast⟩ := h.votes id p voter votedYes hstored hvote
    exact ⟨env, nonce, u, List.mem_cons_of_mem _ hmem, hcast⟩
  rotation proposal hproposal := by
    obtain ⟨env, admin, u, hmem, hauth⟩ := h.rotation proposal hproposal
    exact ⟨env, admin, u, List.mem_cons_of_mem _ hmem, hauth⟩

/-- A registry with the same proposals and no new pending rotation. -/
theorem of_eq (h : Attributed hist g) (hproposals : g'.proposals = g.proposals)
    (hrotation : g'.adminProposal = g.adminProposal ∨ g'.adminProposal = none) :
    Attributed hist g' where
  quorum := hproposals ▸ h.quorum
  votes := hproposals ▸ h.votes
  rotation proposal hproposal := by
    rcases hrotation with heq | heq
    · exact h.rotation proposal (heq ▸ hproposal)
    · rw [heq] at hproposal
      cases hproposal

theorem put (h : Attributed hist g) (hquorum : p.quorumBps ≤ 10000)
    (hvotes : ∀ voter votedYes, p.votes.lookup voter = some votedYes →
      VoteCast hist id voter votedYes) : Attributed hist (g.put id p) where
  quorum j q hstored := by
    by_cases hj : j = id
    · subst hj
      obtain rfl : p = q := by simpa [Registry.put] using hstored
      exact hquorum
    · exact h.quorum j q (by simpa [Registry.put, hj] using hstored)
  votes j q voter votedYes hstored hvote := by
    by_cases hj : j = id
    · subst hj
      obtain rfl : p = q := by simpa [Registry.put] using hstored
      exact hvotes voter votedYes hvote
    · exact h.votes j q voter votedYes (by simpa [Registry.put, hj] using hstored) hvote
  rotation := h.rotation

/-- Marking a stored proposal executed leaves its votes alone. -/
theorem close (h : Attributed hist g) (hstored : g.proposals id = some p) :
    Attributed hist (g.put id { p with executed := true }) :=
  h.put (h.quorum id p hstored) fun voter votedYes => h.votes id p voter votedYes hstored

theorem executes (h : Attributed hist g) (hexec : g.Executes now id g') :
    Attributed hist g' := by
  obtain ⟨p, hp, ⟨-, admin, -, rfl⟩ | ⟨-, rfl⟩⟩ := hexec
  · have hrotated : Attributed hist (g.rotated admin) := h.of_eq rfl (.inl rfl)
    exact hrotated.close hp.stored
  · exact h.close hp.stored

theorem consumes (h : Attributed hist g) (hconsumes : g.Consumes now id g') :
    Attributed hist g' := by
  rcases hconsumes with ⟨-, rfl⟩ | ⟨-, hexec⟩
  · exact h
  · exact h.executes hexec

theorem step {l : AdminAction} {s t : State} (h : Attributed hist s.registry)
    (hstep : AdminStep l s t) : Attributed ((l, s) :: hist) t.registry := by
  rcases hstep with ⟨hrun⟩ | ⟨heq⟩
  swap
  · rw [heq]
    exact h.cons
  rename_i env call
  have heffect := adminCall_effect hrun
  have hcons : Attributed ((.call env call, s) :: hist) s.registry := h.cons
  cases call with
  | init =>
    rw [heffect.2]
    exact hcons.of_eq rfl (.inl rfl)
  | rotateAdmin =>
    obtain ⟨-, id, admin, -, -, hconsumes⟩ := heffect
    have hrotated : Attributed _ (s.registry.rotated admin) := hcons.of_eq rfl (.inl rfl)
    exact hrotated.consumes hconsumes
  | proposeAdmin =>
    obtain ⟨hauth, heq⟩ := heffect
    rw [heq]
    refine ⟨hcons.quorum, hcons.votes, ?_⟩
    intro proposal hproposal
    obtain rfl := Option.some.inj hproposal
    exact ⟨env, _, s, List.mem_cons_self, hauth⟩
  | claimAdminRole =>
    obtain ⟨-, _, admin, -, -, -, -, -, heq⟩ := heffect
    rw [heq]
    exact hcons.of_eq rfl (.inr rfl)
  | cancelAdminProposal =>
    rw [heffect.2]
    exact hcons.of_eq rfl (.inr rfl)
  | submitProposal =>
    obtain ⟨hquorum, -, heq⟩ := heffect
    rw [heq]
    refine Attributed.put (hcons.of_eq rfl (.inl rfl)) hquorum ?_
    simp
  | voteProposal id votedYes nonce =>
    obtain ⟨guardian, p, hauth, hweight, hstored, -, -, -, heq⟩ := heffect
    rw [heq]
    refine hcons.put (hcons.quorum id p hstored) ?_
    intro voter voted hvote
    by_cases hvoter : voter = guardian
    · subst hvoter
      rw [AList.lookup_insert] at hvote
      obtain rfl := Option.some.inj hvote
      exact ⟨env, nonce, s, List.mem_cons_self, hauth, hweight⟩
    · rw [AList.lookup_insert_ne hvoter] at hvote
      exact hcons.votes id p voter voted hstored hvote
  | executeProposal => exact hcons.executes heffect
  | cancelProposal =>
    obtain ⟨_, p, -, hstored, -, heq⟩ := heffect
    rw [heq]
    exact hcons.close hstored
  | addGuardian =>
    rw [heffect.2.2]
    exact hcons.of_eq rfl (.inl rfl)
  | removeGuardian =>
    rw [heffect.2]
    exact hcons.of_eq rfl (.inl rfl)
  | executeTreasuryChange | cancelTreasuryChange =>
    rw [show t.registry = s.registry from heffect]
    exact hcons
  | recoverStrandedFunds | queueTreasuryChange | addAcceptedToken | removeAcceptedToken
  | enableEmergencyStop | disableEmergencyStop =>
    simp only [AdminCall.Effect] at heffect
    split at heffect
    · obtain ⟨-, id, -, hconsumes⟩ := heffect
      exact hcons.consumes hconsumes
    · rw [heffect]
      exact hcons

end Attributed

theorem attributed_of_run {hist : History AdminAction State} {s : State}
    (hrun : Run AdminStep FiniteStore.empty hist s) : Attributed hist s.registry := by
  refine hrun.invariant (I := fun hist s => Attributed hist s.registry) ?_
    fun _ _ _ _ h hstep => h.step hstep
  constructor <;> simp [State.registry, State.proposal, State.adminProposal]

/-! ## Changes of the admin -/

/-- The calls that can write the admin. -/
def AdminCall.WritesAdmin : AdminCall → Prop
  | .init _ _ _ _ _ | .rotateAdmin _ _ _ | .claimAdminRole _ | .executeProposal _ => True
  | _ => False

/-- Every other call keeps the admin. -/
theorem AdminCall.Effect.keeps_admin {env : Env} {s : State} {call : AdminCall} {g : Registry}
    (h : call.Effect env s g) (hcall : ¬call.WritesAdmin) : g.admin = s.registry.admin := by
  cases call with
  | init | rotateAdmin | claimAdminRole | executeProposal => exact absurd trivial hcall
  | proposeAdmin | cancelAdminProposal | removeGuardian => rw [h.2]
  | addGuardian => rw [h.2.2]
  | submitProposal =>
    rw [h.2.2]
    rfl
  | voteProposal =>
    obtain ⟨_, _, -, -, -, -, -, -, heq⟩ := h
    rw [heq]
    rfl
  | cancelProposal =>
    obtain ⟨_, _, -, -, -, heq⟩ := h
    rw [heq]
    rfl
  | executeTreasuryChange | cancelTreasuryChange => rw [show g = s.registry from h]
  | recoverStrandedFunds | queueTreasuryChange | addAcceptedToken | removeAcceptedToken
  | enableEmergencyStop | disableEmergencyStop =>
    simp only [AdminCall.Effect] at h
    split at h
    · rename_i request hrequest
      obtain ⟨-, id, happroves, hconsumes⟩ := h
      have hkind : request.kind ≠ .rotateAdmin := by
        unfold AdminCall.request? at hrequest
        grind
      rcases Registry.consumes_of_approves happroves hconsumes hkind with
        ⟨-, heq⟩ | ⟨p, -, -, heq⟩
      · rw [heq]
      · rw [heq]
        rfl
    · rw [h]

/-- Why the admin changed from `old` in the step `l` from `s` to `t`. -/
inductive AdminChangeJustified (hist : History AdminAction State) (l : AdminAction)
    (s t : State) (old : Address) : Prop
  /-- The admin rotated the role in one step. -/
  | rotated (env : Env) (newAdmin : Address) (nonce : Nat)
      (hcall : l = .call env (.rotateAdmin old newAdmin nonce)) (hauth : s.AdminAuth env old)
      (hnew : t.admin = some newAdmin)
  /-- The new admin claimed a rotation that the admin of the time had proposed. -/
  | claimed (env : Env) (claimant : Address) (hcall : l = .call env (.claimAdminRole claimant))
      (hauth : env.authorized claimant) (hproposed : RotationProposed hist claimant)
      (hnew : t.admin = some claimant)
  /-- Guardians voted for a rotation, whose timelock has run out. -/
  | voted (env : Env) (id : Nat) (p : Proposal) (hcall : l = .call env (.executeProposal id))
      (hstored : s.proposal id = some p) (hkind : p.kind = .rotateAdmin)
      (hexecuted : p.executed = false) (hvalid : s.proposalCutoff ≤ id)
      (hdue : p.eta ≤ env.now) (hpositive : 0 < (calculateQuorum s.guardians p).1)
      (hquorum : calculateTotalWeight s.guardians * 6700 / 10000 ≤
        (calculateQuorum s.guardians p).1)
      (hcast : ∀ voter, p.votes.lookup voter = some true → VoteCast hist id voter true)
      (hnew : t.admin = some p.target)

/-- A rotation proposal is executed only when its quorum is at least one unit of weight or a
current guardian of positive weight voted for it. -/
def AdminAction.VoteBacked (l : AdminAction) (s : State) : Prop :=
  match l with
  | .call _ (.executeProposal id) =>
    ∀ p, s.proposal id = some p → p.kind = .rotateAdmin →
      10000 ≤ calculateTotalWeight s.guardians * max p.quorumBps minQuorumBps ∨
        ∃ guardian weight, p.votes.lookup guardian = some true ∧
          s.guardians.lookup guardian = some weight ∧ 0 < weight
  | _ => True

theorem requiredVotes_eq {guardians : AddressMap Nat} {p : Proposal}
    (h : p.quorumBps ≤ 10000) :
    requiredVotes guardians p =
      calculateTotalWeight guardians * max p.quorumBps minQuorumBps / 10000 := by
  have htotal := calculateTotalWeight_le guardians
  have hmax : max p.quorumBps minQuorumBps ≤ 10000 := by
    unfold minQuorumBps
    omega
  have hmul := Nat.mul_le_mul htotal hmax
  refine Nat.mod_eq_of_lt ?_
  generalize calculateTotalWeight guardians * max p.quorumBps minQuorumBps = product at *
  omega

/-- Executed with the guardians' backing, a proposal has positive yes weight and two thirds of
the total. -/
theorem quorum_of_executable {s : State} {now id : Nat} {p : Proposal}
    (hexec : s.registry.Executable now id p) (hquorum : p.quorumBps ≤ 10000)
    (hbacked : 10000 ≤ calculateTotalWeight s.guardians * max p.quorumBps minQuorumBps ∨
      ∃ guardian weight, p.votes.lookup guardian = some true ∧
        s.guardians.lookup guardian = some weight ∧ 0 < weight) :
    0 < (calculateQuorum s.guardians p).1 ∧
      calculateTotalWeight s.guardians * 6700 / 10000 ≤ (calculateQuorum s.guardians p).1 := by
  have hyes : requiredVotes s.guardians p ≤ (calculateQuorum s.guardians p).1 := hexec.quorum
  rw [requiredVotes_eq hquorum] at hyes
  refine ⟨?_, (Nat.div_le_div_right (Nat.mul_le_mul_left _ (le_max_right _ _))).trans hyes⟩
  rcases hbacked with hlarge | hvoter
  · exact (Nat.div_pos hlarge (by decide)).trans_le hyes
  · exact (calculateQuorum_yes_pos s.guardians p).mpr hvoter

/-- In every run whose executions of rotation proposals are backed by weight, every change of
the admin is justified. -/
theorem admin_change_justified {hist : History AdminAction State} {s t : State}
    {l : AdminAction} {old : Address}
    (hrun : Run (Guarded AdminAction.VoteBacked AdminStep) FiniteStore.empty hist s)
    (hstep : Guarded AdminAction.VoteBacked AdminStep l s t) (hold : s.admin = some old)
    (hchange : t.admin ≠ some old) : AdminChangeJustified hist l s t old := by
  have hattributed := attributed_of_run (hrun.mono fun _ _ _ h => h.2)
  obtain ⟨hbacked, hstep⟩ := hstep
  have hsame (h : t.registry.admin = s.registry.admin) : False :=
    hchange ((show t.admin = s.admin from h).trans hold)
  rcases hstep with ⟨hrun⟩ | ⟨heq⟩
  swap
  · exact (hsame (by rw [heq])).elim
  rename_i env call
  have heffect := adminCall_effect hrun
  cases call with
  | init => exact absurd (heffect.1.symm.trans hold) (by simp)
  | rotateAdmin currentAdmin newAdmin nonce =>
    obtain ⟨hauth, id, admin, happroves, hadmin, hconsumes⟩ := heffect
    obtain rfl : currentAdmin = old := Option.some.inj (hauth.1.symm.trans hold)
    refine .rotated env newAdmin nonce rfl hauth ?_
    have hwritten (admin' : Option Address) (h : admin' = some newAdmin ∨ admin' = s.admin)
        (ht : t.registry.admin = admin') : t.admin = some newAdmin := by
      rcases h with rfl | rfl
      · exact ht
      · exact (hsame ht).elim
    rcases hconsumes with ⟨-, heq⟩ | ⟨hpos, p, hexec, heffect⟩
    · exact hwritten admin hadmin (by rw [heq]; rfl)
    · rcases happroves with ⟨-, hzero⟩ | ⟨-, q, hmatching, -⟩
      · exact absurd hzero hpos
      obtain ⟨hstored, hrequest, -⟩ := Registry.matching_spec hmatching
      obtain rfl : p = q := Option.some.inj (hexec.stored.symm.trans hstored)
      have htarget : p.target = newAdmin := congrArg Request.target hrequest
      rcases heffect with ⟨-, admin', hadmin', heq⟩ | ⟨-, heq⟩
      · rcases hadmin' with rfl | rfl
        · exact hwritten (some p.target) (.inl (by rw [htarget])) (by rw [heq]; rfl)
        · exact hwritten _ hadmin (by rw [heq]; rfl)
      · exact hwritten _ hadmin (by rw [heq]; rfl)
  | claimAdminRole claimant =>
    obtain ⟨hauth, proposal, admin, hproposal, rfl, -, -, hadmin, heq⟩ := heffect
    refine .claimed env _ rfl hauth (hattributed.rotation proposal hproposal) ?_
    rcases hadmin with rfl | rfl
    · exact show t.registry.admin = _ by rw [heq]; rfl
    · exact (hsame (by rw [heq]; rfl)).elim
  | executeProposal id =>
    obtain ⟨p, hexec, ⟨hkind, admin, hadmin, heq⟩ | ⟨-, heq⟩⟩ := heffect
    · have hquorum := hattributed.quorum id p hexec.stored
      obtain ⟨hpositive, hreached⟩ :=
        quorum_of_executable hexec hquorum (hbacked p hexec.stored hkind)
      refine .voted env id p rfl hexec.stored hkind hexec.fresh hexec.valid hexec.due hpositive
        hreached (fun voter => hattributed.votes id p voter true hexec.stored) ?_
      rcases hadmin with rfl | rfl
      · exact show t.registry.admin = _ by rw [heq]; rfl
      · exact (hsame (by rw [heq]; rfl)).elim
    · exact (hsame (by rw [heq]; rfl)).elim
  | _ => exact (hsame (heffect.keeps_admin fun hwrites => hwrites)).elim

/-! ## Concrete runs -/

/-- The state after the calls, latest first. -/
def callsAfter : List (Env × AdminCall) → State
  | [] => FiniteStore.empty
  | (env, call) :: earlier => call.exec.after env (callsAfter earlier)

def callHistory : List (Env × AdminCall) → History AdminAction State
  | [] => []
  | (env, call) :: earlier => (.call env call, callsAfter earlier) :: callHistory earlier

def callsSucceed : List (Env × AdminCall) → Bool
  | [] => true
  | (env, call) :: earlier =>
    callsSucceed earlier && call.exec.succeeds env (callsAfter earlier)

theorem run_calls {P : AdminAction → State → Prop} {calls : List (Env × AdminCall)}
    (h : callsSucceed calls = true) (hP : ∀ step ∈ callHistory calls, P step.1 step.2) :
    Run (Guarded P AdminStep) FiniteStore.empty (callHistory calls) (callsAfter calls) := by
  induction calls with
  | nil => exact .start
  | cons step earlier ih =>
    obtain ⟨hearlier, hsucceeds⟩ := Bool.and_eq_true_iff.mp h
    have hrun := ih hearlier fun step hmem => hP step (List.mem_cons_of_mem _ hmem)
    have hlast := hP _ List.mem_cons_self
    exact hrun.next ⟨hlast, .call (Exec.run_eq_after hsucceeds)⟩

/-! ## Two runs -/

section Runs

private abbrev initialise : AdminCall := .init ⟨10⟩ 7 ⟨1⟩ 100 86400
private abbrev rotateTo9 : AdminCall := .submitProposal ⟨.rotateAdmin, ⟨9⟩, none, 0⟩ 0 172800
private abbrev onlyGuardian : AdminCall := .addGuardian ⟨1⟩ ⟨1⟩ 1

private def initialised : List (Env × Vault Unit) := [(sampleEnv 0 [], initialise.exec)]

private def guarded : List (Env × Vault Unit) :=
  (sampleEnv 0 [⟨1⟩], onlyGuardian.exec) :: initialised

private def submitted : List (Env × Vault Unit) := (sampleEnv 0 [], rotateTo9.exec) :: guarded

private def votedFor9 : List (Env × Vault Unit) :=
  (sampleEnv 1 [⟨1⟩], (AdminCall.voteProposal 0 true 0).exec) :: submitted

private def rotatedTo9 : List (Env × Vault Unit) :=
  (sampleEnv 172800 [], (AdminCall.executeProposal 0).exec) :: votedFor9

/-- The admin, who is the only guardian, votes for a successor. -/
theorem admin_change_justified_vote :
    ∃ hist, AdminChangeJustified hist (.call (sampleEnv 172800 []) (.executeProposal 0))
      (afterCalls votedFor9) (afterCalls rotatedTo9) ⟨1⟩ := by
  have hinit : AdminStep (.call (sampleEnv 0 []) initialise) FiniteStore.empty
      (afterCalls initialised) := .call (Exec.run_eq_after (by decide +kernel))
  have hguardian : AdminStep (.call (sampleEnv 0 [⟨1⟩]) onlyGuardian) (afterCalls initialised)
      (afterCalls guarded) := .call (Exec.run_eq_after (by decide +kernel))
  have hsubmit : AdminStep (.call (sampleEnv 0 []) rotateTo9) (afterCalls guarded)
      (afterCalls submitted) := .call (Exec.run_eq_after (by decide +kernel))
  have hvote : AdminStep (.call (sampleEnv 1 [⟨1⟩]) (.voteProposal 0 true 0))
      (afterCalls submitted) (afterCalls votedFor9) :=
    .call (Exec.run_eq_after (by decide +kernel))
  have hexecute : AdminStep (.call (sampleEnv 172800 []) (.executeProposal 0))
      (afterCalls votedFor9) (afterCalls rotatedTo9) :=
    .call (Exec.run_eq_after (by decide +kernel))
  have hguarded {l : AdminAction} {s t : State} (h : AdminStep l s t) (hl : l.VoteBacked s) :
      Guarded AdminAction.VoteBacked AdminStep l s t := ⟨hl, h⟩
  have hrun := (((Run.start.next (hguarded hinit trivial)).next (hguarded hguardian trivial)).next
    (hguarded hsubmit trivial)).next (hguarded hvote trivial)
  have hvoter : ((afterCalls votedFor9).proposal 0).all
      (·.votes.lookup ⟨1⟩ = some true) := by decide +kernel
  refine ⟨_, admin_change_justified hrun ⟨?_, hexecute⟩ (by decide +kernel) (by decide +kernel)⟩
  intro p hstored _
  rw [hstored] at hvoter
  exact .inr ⟨⟨1⟩, 1, by simpa using hvoter, by decide +kernel, by decide⟩

private def nobodyVoted : List (Env × Vault Unit) :=
  (sampleEnv 0 [], rotateTo9.exec) :: initialised

private def takenOver : List (Env × Vault Unit) :=
  (sampleEnv 172800 [], (AdminCall.executeProposal 0).exec) :: nobodyVoted

/-- Without guardians anybody submits a rotation to themselves and executes it two days later:
address 9 replaces the admin, address 1, and nobody signed any of the calls. -/
theorem rotation_without_votes :
    ¬∀ (hist : History AdminAction State) (l : AdminAction) (s t : State) (old : Address),
      Run AdminStep FiniteStore.empty hist s → AdminStep l s t → s.admin = some old →
        t.admin ≠ some old → AdminChangeJustified hist l s t old := by
  intro hclaim
  have hinit : AdminStep (.call (sampleEnv 0 []) initialise) FiniteStore.empty
      (afterCalls initialised) := .call (Exec.run_eq_after (by decide +kernel))
  have hsubmit : AdminStep (.call (sampleEnv 0 []) rotateTo9) (afterCalls initialised)
      (afterCalls nobodyVoted) := .call (Exec.run_eq_after (by decide +kernel))
  have hexecute : AdminStep (.call (sampleEnv 172800 []) (.executeProposal 0))
      (afterCalls nobodyVoted) (afterCalls takenOver) :=
    .call (Exec.run_eq_after (by decide +kernel))
  have hjustified := hclaim _ _ _ _ ⟨1⟩ ((Run.start.next hinit).next hsubmit) hexecute
    (by decide +kernel) (by decide +kernel)
  cases hjustified with
  | rotated _ _ _ hcall => cases hcall
  | claimed _ _ hcall => cases hcall
  | voted _ id p hcall hstored _ _ _ _ hpositive =>
    cases hcall
    have hnone : ((afterCalls nobodyVoted).proposal 0).all
        fun p => (calculateQuorum (afterCalls nobodyVoted).guardians p).1 = 0 := by
      decide +kernel
    rw [hstored] at hnone
    exact absurd (by simpa using hnone) hpositive.ne'

end Runs

end SubscriptionVault
