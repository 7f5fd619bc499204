import SubscriptionVault.Accounts.Reports
import SubscriptionVault.Governance.Approval
import SubscriptionVault.Governance.Footprints
import SubscriptionVault.Lifecycle.BulkResults

/-!
# Recovery of stranded funds

A recovery pays out what the vault holds beyond what it accounts for. The accounted total is
never kept, so the bound is the whole balance of the vault. It is the right one exactly while
nothing is owed to anybody.
-/

namespace SubscriptionVault

open Exec

/-! ## What is owed -/

/-- A cancellation escrow holds its amount in its own token. -/
def escrowWeight (token : Address) : (k : Slot) → Slot.Val k → Int
  | .persistent (.cancellationEscrow _), (escrow : CancellationEscrow) =>
    if escrow.token = token then escrow.amount else 0
  | _, _ => 0

/-- Everything recorded as belonging to somebody. -/
def State.obligations (s : State) (token : Address) : Int :=
  s.prepaid token + s.owed token + s.total (escrowWeight token)

/-- The vault holds what it owes. -/
def State.Solvent (s : State) (contract token : Address) : Prop :=
  s.obligations token ≤ s.balanceOf token contract

/-- Nothing is owed in the token, or nothing of it is there to be recovered. -/
def State.NothingAtStake (s : State) (contract token : Address) : Prop :=
  s.obligations token ≤ 0 ∨ s.balanceOf token contract ≤ 0

/-- Two states that differ at most in what has been decided about the vault. -/
def SameBooks (s s' : State) : Prop := FiniteStore.AgreeOff (areas [.settings]) s s'

/-! ## Recoveries -/

structure Recovery where
  env : Env
  admin : Address
  token : Address
  recipient : Address
  amount : Int
  recoveryId : Bytes

def Recovery.exec (r : Recovery) : Vault Unit :=
  doRecoverStrandedFunds r.admin r.token r.recipient r.amount r.recoveryId

/-- A recovery that goes through, of a vault at the address. -/
inductive Recovers (contract : Address) : Recovery → State → State → Prop
  | mk {r : Recovery} {s t : State} : r.env.host.contract = contract →
      r.exec.run r.env s = .ok () t → Recovers contract r s t

/-- The amount is not owed to anybody. -/
def Recovery.IsSurplus (r : Recovery) (contract : Address) (s : State) : Prop :=
  r.amount ≤ s.balanceOf r.token contract - s.obligations r.token

/-- Whatever has been decided about the vault, recoveries of the token leave what is owed. -/
def State.RecoversSurplus (s : State) (contract token : Address) : Prop :=
  ∀ s' r t, SameBooks s s' → r.token = token → Recovers contract r s' t →
    r.IsSurplus contract s'

section Books

variable {s t : State} {l : List Area} {contract token : Address} {r : Recovery}

/-- A slot of decisions, numbers, nonces or tokens holds nothing that is owed. -/
theorem weightless_of_admin {k : Slot} (hk : k ∈ areas adminAreas) (v : Slot.Val k) :
    prepaidWeight token k v = 0 ∧ creditWeight token k v = 0 ∧ heldWeight s token k v = 0 ∧
      escrowWeight token k v = 0 := by
  have hin : adminAreas.contains k.area = true := hk
  cases k with
  | persistent key =>
    cases key with
    | sub _ | dispute _ | cancellationEscrow _ => cases hin
    | _ => exact ⟨rfl, rfl, rfl, rfl⟩
  | instanced key =>
    cases key with
    | merchantBalance _ _ => cases hin
    | _ => exact ⟨rfl, rfl, rfl, rfl⟩
  | subAccountFunds _ _ _ => cases hin
  | _ => exact ⟨rfl, rfl, rfl, rfl⟩

/-- Decisions and token movements change nothing that is owed. -/
theorem State.obligations_of_admin (h : FiniteStore.AgreeOff (areas adminAreas) s t) :
    t.obligations = s.obligations := by
  funext token
  have hsubs : t.subscription = s.subscription := by
    funext id
    exact State.read_of_areas (k := .persistent (.sub id)) h rfl
  have hheld : heldWeight t token = heldWeight s token := by
    funext k v
    unfold heldWeight
    rw [hsubs]
  have hprepaid : t.prepaid token = s.prepaid token :=
    FiniteStore.total_of_agreeOff h fun k hk v => (weightless_of_admin (s := s) hk v).1
  have hcredited : t.credited token = s.credited token :=
    FiniteStore.total_of_agreeOff h fun k hk v => (weightless_of_admin (s := s) hk v).2.1
  have hdisputed : t.total (heldWeight s token) = s.total (heldWeight s token) :=
    FiniteStore.total_of_agreeOff h fun k hk v => (weightless_of_admin (s := s) hk v).2.2.1
  have hescrowed : t.total (escrowWeight token) = s.total (escrowWeight token) :=
    FiniteStore.total_of_agreeOff h fun k hk v => (weightless_of_admin (s := s) hk v).2.2.2
  unfold State.obligations State.owed
  rw [hheld, hprepaid, hcredited, hdisputed, hescrowed]

/-- What a recovery that goes through has checked and done. -/
theorem Recovers.spec (h : Recovers contract r s t) :
    0 < r.amount ∧ r.amount ≤ s.balanceOf r.token contract ∧ t.obligations = s.obligations ∧
      ∀ token, t.balanceOf token contract = s.balanceOf token contract +
        (if r.token = token ∧ r.recipient = contract then r.amount else 0) -
        if r.token = token then r.amount else 0 := by
  obtain ⟨hcontract, hrun⟩ := h
  have hagree : FiniteStore.AgreeOff (areas adminAreas) s t :=
    (AdminCall.modifies_areas
      (.recoverStrandedFunds r.admin r.token r.recipient r.amount r.recoveryId)).ok hrun
  have hpositive := recovery_pos hrun
  obtain ⟨env, hask, hrun⟩ := run_check_ok .ask hrun
  obtain ⟨rfl, -⟩ := run_ask_ok.mp hask
  obtain ⟨_, -, hrun⟩ := run_check_ok (Modifies.requireAdminAuth _) hrun
  obtain ⟨_, -, hrun⟩ := run_check_ok (.failIf _ _) hrun
  obtain ⟨id, -, hrun⟩ := run_check_ok (keeps_requireMultisigApproval _) hrun
  obtain ⟨_, -, hrun⟩ := run_check_ok Modifies.load hrun
  obtain ⟨_, -, hrun⟩ := run_check_ok (.failIf _ _) hrun
  obtain ⟨_, -, hrun⟩ := run_check_ok (Modifies.tokenBalance _ _) hrun
  obtain ⟨_, -, hrun⟩ := run_check_ok Modifies.getState hrun
  obtain ⟨_, -, hrun⟩ := run_check_ok (.lift _) hrun
  obtain ⟨_, -, hrun⟩ := run_check_ok (.failIf _ _) hrun
  obtain ⟨_, s₁, hused, hrun⟩ := run_bind_ok.mp hrun
  obtain ⟨_, s₂, hconsume, htransfer⟩ := run_bind_ok.mp hrun
  have hdecided : FiniteStore.AgreeOff (areas [.settings]) s s₂ :=
    (Exec.Keeps.ok (Modifies.store (S := areas [.settings]) rfl) hused).trans
      ((consumeMultisigProposal_areas id).ok hconsume)
  have hbalances : s₂.balanceOf = s.balanceOf := State.balanceOf_of_areas hdecided rfl
  obtain ⟨-, -, -, henough, rfl⟩ := run_transfer_ok.mp htransfer
  rw [hcontract, hbalances] at henough
  refine ⟨hpositive, henough, State.obligations_of_admin hagree, fun token => ?_⟩
  rw [State.balanceOf_transferred, hbalances, hcontract]
  simp

end Books

/-! ## When recoveries are safe -/

section Safe

variable {s s' t : State} {contract token : Address} {r : Recovery}

theorem SameBooks.nothingAtStake (h : SameBooks s s') (hs : s.NothingAtStake contract token) :
    s'.NothingAtStake contract token := by
  unfold State.NothingAtStake
  rw [State.obligations_of_admin (h.mono (areas_mono rfl)), State.balanceOf_of_areas h rfl]
  exact hs

/-- With nothing at stake the bound on a recovery is the right one. -/
theorem Recovers.isSurplus (h : Recovers contract r s t)
    (hs : s.NothingAtStake contract r.token) : r.IsSurplus contract s := by
  obtain ⟨hpositive, henough, -⟩ := h.spec
  unfold Recovery.IsSurplus
  rcases hs with howed | hempty <;> omega

theorem Recovers.solvent (h : Recovers contract r s t)
    (hs : s.NothingAtStake contract r.token) (hsolvent : s.Solvent contract token) :
    t.Solvent contract token := by
  have hsurplus := h.isSurplus hs
  obtain ⟨hpositive, -, howed, hbalance⟩ := h.spec
  unfold Recovery.IsSurplus at hsurplus
  unfold State.Solvent at hsolvent ⊢
  rw [howed, hbalance]
  by_cases htoken : r.token = token
  · subst htoken
    simp only [true_and, if_true]
    split <;> omega
  · simp only [htoken, false_and, if_false]
    omega

/-- An admin without guardians, next to the vault. -/
def soleAdmin (contract : Address) : Address := ⟨contract.id + 1⟩

theorem soleAdmin_ne (contract : Address) : soleAdmin contract ≠ contract := by
  intro h
  have hid : contract.id + 1 = contract.id := congrArg Address.id h
  omega

/-- The state with the same books and no guardians, in which no recovery has been made. -/
def State.ungoverned (s : State) (contract : Address) : State :=
  ((s.write (.persistent .guardians) (∅ : AddressMap Nat)).write (.persistent .admin)
    (soleAdmin contract)).remove (.persistent (.recovery []))

theorem ungoverned_sameBooks (s : State) (contract : Address) :
    SameBooks s (s.ungoverned contract) := by
  have hguardians : SameBooks s (s.write (.persistent .guardians) (∅ : AddressMap Nat)) :=
    s.agreeOff_write _ rfl
  have hadmin (u : State) : SameBooks u (u.write (.persistent .admin) (soleAdmin contract)) :=
    u.agreeOff_write _ rfl
  have hunused (u : State) : SameBooks u (u.remove (.persistent (.recovery []))) :=
    u.agreeOff_remove rfl
  exact ((hguardians.trans (hadmin _)).trans (hunused _))

theorem ungoverned_guardians (s : State) (contract : Address) :
    (s.ungoverned contract).guardians.entries = [] := by
  have hread : (s.ungoverned contract).read (.persistent .guardians) =
      some (∅ : AddressMap Nat) := by
    unfold State.ungoverned
    rw [FiniteStore.read_remove_of_ne _ (by simp), FiniteStore.read_write_of_ne _ _ (by simp),
      FiniteStore.read_write_self]
  unfold State.guardians
  rw [hread]
  rfl

theorem ungoverned_admin (s : State) (contract : Address) :
    (s.ungoverned contract).admin = some (soleAdmin contract) := by
  have hread : (s.ungoverned contract).read (.persistent .admin) = some (soleAdmin contract) := by
    unfold State.ungoverned
    rw [FiniteStore.read_remove_of_ne _ (by simp), FiniteStore.read_write_self]
  unfold State.admin State.config
  rw [hread]

theorem ungoverned_unused (s : State) (contract : Address) :
    ((s.ungoverned contract).read (.persistent (.recovery [])) : Option Bool) = none :=
  FiniteStore.read_remove_self _

/-- The recovery of everything the vault holds. -/
def sweep (s : State) (contract token : Address) : Recovery where
  env := { sampleEnv 0 [soleAdmin contract] with host := { sampleHost with contract := contract } }
  admin := soleAdmin contract
  token := token
  recipient := soleAdmin contract
  amount := s.balanceOf token contract
  recoveryId := []

/-- Nothing but the decisions keeps the admin from recovering everything. -/
theorem sweep_recovers (hpositive : 0 < s.balanceOf token contract)
    (hfits : InI128 (s.balanceOf token contract)) :
    ∃ t, Recovers contract (sweep s contract token) (s.ungoverned contract) t := by
  have hbalance : (s.ungoverned contract).balanceOf token
      (sweep s contract token).env.host.contract = s.balanceOf token contract := by
    rw [State.balanceOf_of_areas (ungoverned_sameBooks s contract) rfl]
    rfl
  have hrecoverable : safeSub (s.balanceOf token contract)
      ((s.ungoverned contract).totalAccounted token) = .ok (s.balanceOf token contract) := by
    have hcounter : (s.ungoverned contract).totalAccounted token = 0 := rfl
    rw [hcounter, safeSub_ok, sub_zero]
    exact ⟨rfl, hfits⟩
  have happroval (request : Request) : (requireMultisigApproval request).run
      (sweep s contract token).env (s.ungoverned contract) =
        .ok 0 (s.ungoverned contract) := by
    unfold requireMultisigApproval
    rw [run_bind_of_ok (run_ask_ok.mpr ⟨rfl, rfl⟩), run_bind_of_ok (run_getState_ok.mpr ⟨rfl, rfl⟩),
      if_pos (ungoverned_guardians s contract)]
    rfl
  have hauth : (soleAdmin contract) ∈ [soleAdmin contract] := List.mem_singleton_self _
  refine ⟨State.transferred ((s.ungoverned contract).write (.persistent (.recovery [])) true)
    token contract (soleAdmin contract) (s.balanceOf token contract), .mk rfl ?_⟩
  show (doRecoverStrandedFunds (soleAdmin contract) token (soleAdmin contract)
    (s.balanceOf token contract) []).run (sweep s contract token).env _ = _
  unfold doRecoverStrandedFunds
  rw [run_bind_of_ok (run_ask_ok.mpr ⟨rfl, rfl⟩),
    run_bind_of_ok (a := ()) (run_requireAdminAuth_ok.mpr
      ⟨⟨ungoverned_admin s contract, decide_eq_true hauth, soleAdmin_ne contract⟩, rfl⟩),
    run_bind_of_ok (a := ()) (run_failIf_ok.mpr ⟨Int.not_le.mpr hpositive, rfl⟩),
    run_bind_of_ok (happroval _),
    run_bind_of_ok (run_load_ok.mpr ⟨ungoverned_unused s contract, rfl⟩),
    run_bind_of_ok (a := ()) (run_failIf_ok.mpr ⟨by simp, rfl⟩),
    run_bind_of_ok (run_tokenBalance_ok.mpr ⟨hbalance, rfl⟩),
    run_bind_of_ok (run_getState_ok.mpr ⟨rfl, rfl⟩),
    run_bind_of_ok (run_lift_ok.mpr ⟨hrecoverable, rfl⟩),
    run_bind_of_ok (a := ()) (run_failIf_ok.mpr ⟨lt_irrefl _, rfl⟩),
    run_bind_of_ok (a := ()) (run_store_ok.mpr rfl),
    run_bind_of_ok (a := ()) (t := (s.ungoverned contract).write (.persistent (.recovery [])) true)
      rfl]
  have hmarked : FiniteStore.AgreeOff (areas [.settings]) (s.ungoverned contract)
      ((s.ungoverned contract).write (.persistent (.recovery [])) true) :=
    FiniteStore.agreeOff_write _ _ rfl
  refine run_transfer_ok.mpr ⟨.inl rfl, hpositive.le, rfl, ?_, rfl⟩
  rw [State.balanceOf_of_areas hmarked rfl, hbalance]

/-- Recoveries are safe exactly while nothing is at stake. -/
theorem recoversSurplus_iff (hfits : InI128 (s.balanceOf token contract)) :
    s.RecoversSurplus contract token ↔ s.NothingAtStake contract token := by
  constructor
  · intro hsafe
    by_contra hstake
    unfold State.NothingAtStake at hstake
    obtain ⟨t, hsweep⟩ := sweep_recovers (by omega) hfits
    have hsurplus := hsafe _ _ _ (ungoverned_sameBooks s contract) rfl hsweep
    unfold Recovery.IsSurplus at hsurplus
    rw [State.obligations_of_admin ((ungoverned_sameBooks s contract).mono (areas_mono rfl)),
      State.balanceOf_of_areas (ungoverned_sameBooks s contract) rfl] at hsurplus
    have hall : s.balanceOf token contract ≤
      s.balanceOf token contract - s.obligations token := hsurplus
    omega
  · rintro hs s' r t hbooks rfl hrecovers
    exact hrecovers.isSurplus (hbooks.nothingAtStake hs)

end Safe

/-! ## Runs of recoveries -/

section Runs

variable {s start : State} {contract : Address} {hist : History Recovery State}

/-- Recoveries made while nothing is at stake in their token keep the vault solvent. -/
theorem recoveries_solvent (hrun : Run (Recovers contract) start hist s)
    (hsafe : ∀ step ∈ hist, step.2.NothingAtStake contract step.1.token) :
    (∀ step ∈ hist, step.1.IsSurplus contract step.2) ∧
      ∀ token, start.Solvent contract token → s.Solvent contract token := by
  induction hrun with
  | start => exact ⟨fun step hmem => (List.not_mem_nil hmem).elim, fun _ h => h⟩
  | @next hist r u v hrun hstep ih =>
    obtain ⟨hsurplus, hsolvent⟩ := ih fun step hmem => hsafe step (List.mem_cons_of_mem _ hmem)
    have hlast := hsafe _ List.mem_cons_self
    refine ⟨fun step hmem => ?_, fun token hstart => hstep.solvent hlast (hsolvent token hstart)⟩
    rcases List.mem_cons.mp hmem with rfl | hearlier
    · exact hstep.isSurplus hlast
    · exact hsurplus step hearlier

/-- Recoveries of a token leave what is owed in it, whatever has been decided, exactly while
nothing is owed in it or nothing is there; then any sequence of them keeps the vault solvent. -/
theorem recoveries_safe_iff {token : Address} (hfits : InI128 (s.balanceOf token contract)) :
    (s.RecoversSurplus contract token ↔ s.NothingAtStake contract token) ∧
      ∀ hist t, Run (Recovers contract) s hist t →
        (∀ step ∈ hist, step.2.NothingAtStake contract step.1.token) →
        (∀ step ∈ hist, step.1.IsSurplus contract step.2) ∧
          ∀ token, s.Solvent contract token → t.Solvent contract token :=
  ⟨recoversSurplus_iff hfits, fun _ _ hrun hsafe => recoveries_solvent hrun hsafe⟩

end Runs

/-- A subscriber has put 50 into the vault. -/
private def entrustedCalls : List (Env × VaultCall) :=
  [(sampleEnv 0 [⟨2⟩], .depositFunds 0 50 none),
   (sampleEnv 0 [⟨2⟩], .createSubscription sampleRequest)]

private def entrusted : State := stateAfter (afterCalls (sampleVault 0)) entrustedCalls

private def takingAll : Recovery := ⟨sampleEnv 1 [⟨8⟩], ⟨8⟩, ⟨9⟩, ⟨8⟩, 50, [1]⟩

/-- The deposit is at stake. -/
theorem recoveries_unsafe_entrusted : ¬entrusted.RecoversSurplus ⟨0⟩ ⟨9⟩ := by
  have hfits : InI128 (entrusted.balanceOf ⟨9⟩ ⟨0⟩) := by decide +kernel
  rw [(recoveries_safe_iff hfits).1]
  unfold State.NothingAtStake
  decide +kernel

/-- The admin takes the subscriber's deposit. -/
theorem deposit_recovered : ∃ start hist s r t, Deployed start ∧ Run Transacts start hist s ∧
    Recovers ⟨0⟩ r s t ∧ s.Solvent ⟨0⟩ ⟨9⟩ ∧ ¬r.IsSurplus ⟨0⟩ s ∧ ¬t.Solvent ⟨0⟩ ⟨9⟩ := by
  have hreached := run_transactions (sample_transacted 0)
    (show allSucceed (afterCalls (sampleVault 0)) entrustedCalls = true by decide +kernel)
  have hrecovers : Recovers ⟨0⟩ takingAll entrusted
      (takingAll.exec.after takingAll.env entrusted) :=
    .mk rfl (run_eq_after (by decide +kernel))
  refine ⟨_, _, entrusted, takingAll, _, sample_deployed 0, hreached, hrecovers, ?_, ?_, ?_⟩
  · unfold State.Solvent
    decide +kernel
  · unfold Recovery.IsSurplus
    decide +kernel
  · unfold State.Solvent
    decide +kernel

end SubscriptionVault
