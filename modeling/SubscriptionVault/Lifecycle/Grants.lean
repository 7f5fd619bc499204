import SubscriptionVault.Lifecycle.Consents

/-!
# Grants to delegated payers

A subscriber lets somebody else pay once. The grant is kept under the pair of the two, whichever
subscription the payment is for, and a payment that goes through uses it up.
-/

namespace SubscriptionVault

open Exec

def State.delegatedPayerGrant (s : State) (subscriber payer : Address) :
    Option DelegatedPayerGrant :=
  s.read (.persistent (.delegatedPayerGrant subscriber payer))

/-- The subscriber gives the grant, which has not run out. -/
def Grants (grant : DelegatedPayerGrant) : Transaction → State → Prop :=
  fun l _ => ∃ env, l = .call env
      (.grantDelegatedPayer grant.subscriber grant.payer grant.expiresAt grant.maxAmount) ∧
    env.authorized grant.subscriber = true ∧ env.now < grant.expiresAt ∧ 0 < grant.maxAmount

/-- The transaction gives, takes back or uses a grant of the subscriber to the payer. -/
def Transaction.TouchesGrant (subscriber payer : Address) : Transaction → State → Prop
  | .call _ (.grantDelegatedPayer a b _ _), _ => a = subscriber ∧ b = payer
  | .call _ (.revokeDelegatedPayer a b), _ => a = subscriber ∧ b = payer
  | .call _ (.depositFundsOnBehalf id b _ _), s => s.owner id = some subscriber ∧ b = payer
  | _, _ => False

section Grants

variable {env : Env} {s t : State} {id : Nat} {u : Unit} {subscriber payer : Address}

theorem State.delegatedPayerGrant_of_areas {l : List Area}
    (h : FiniteStore.AgreeOff (areas l) s t) (hl : l.contains .grants = false) (a b : Address) :
    t.delegatedPayerGrant a b = s.delegatedPayerGrant a b :=
  State.read_of_areas (k := .persistent (.delegatedPayerGrant a b)) h hl

theorem State.delegatedPayerGrant_remove (s : State) (a b a' b' : Address) :
    State.delegatedPayerGrant (s.remove (.persistent (.delegatedPayerGrant a' b'))) a b =
      if a = a' ∧ b = b' then none else s.delegatedPayerGrant a b := by
  split
  · rename_i hsame
    obtain ⟨rfl, rfl⟩ := hsame
    exact FiniteStore.read_remove_self s
  · rename_i hother
    have hne : Slot.persistent (.delegatedPayerGrant a b) ≠
        .persistent (.delegatedPayerGrant a' b') := by simpa using hother
    exact FiniteStore.read_remove_of_ne s hne

theorem doGrantDelegatedPayer_grants {expiresAt : Nat} {maxAmount : Int}
    (hrun : (doGrantDelegatedPayer subscriber payer expiresAt maxAmount).run env s = .ok u t) :
    env.authorized subscriber = true ∧ env.now < expiresAt ∧ 0 < maxAmount ∧
      t = s.write (.persistent (.delegatedPayerGrant subscriber payer))
        { subscriber, payer, expiresAt, maxAmount } := by
  obtain ⟨ledger, hledger, hrun⟩ := run_check_ok .ask hrun
  obtain ⟨rfl, -⟩ := run_ask_ok.mp hledger
  obtain ⟨_, hsigned, hrun⟩ := run_check_ok (Modifies.requireAuth _) hrun
  obtain ⟨_, hopen, hrun⟩ := run_check_ok (.failIf _ _) hrun
  obtain ⟨_, hamount, hrun⟩ := run_check_ok (.failIf _ _) hrun
  obtain ⟨_, -, hrun⟩ := run_check_ok (.failIf _ _) hrun
  exact ⟨(run_requireAuth_ok.mp hsigned).1.1, Nat.lt_of_not_le (run_failIf_ok.mp hopen).1,
    Int.lt_of_not_ge (run_failIf_ok.mp hamount).1, (run_store_ok.mp hrun).symm⟩

theorem doRevokeDelegatedPayer_grants
    (hrun : (doRevokeDelegatedPayer subscriber payer).run env s = .ok u t) :
    t = s.remove (.persistent (.delegatedPayerGrant subscriber payer)) := by
  obtain ⟨_, -, hrun⟩ := run_check_ok (Modifies.requireAuth _) hrun
  obtain ⟨_, -, hrun⟩ := run_check_ok Modifies.load hrun
  obtain ⟨_, -, hrun⟩ := run_check_ok (.failIf _ _) hrun
  exact (run_delete_ok.mp hrun).symm

/-- A payment finds a grant of the owner that covers it, and uses it up. -/
theorem doDepositFundsOnBehalf_grants {amount : Int} {nonce : Option Nat}
    (hrun : (doDepositFundsOnBehalf id payer amount nonce).run env s = .ok u t) :
    ∃ owner grant, s.owner id = some owner ∧ s.delegatedPayerGrant owner payer = some grant ∧
      amount ≤ grant.maxAmount ∧ env.now < grant.expiresAt ∧
      ∀ a b, t.delegatedPayerGrant a b =
        if a = owner ∧ b = payer then none else s.delegatedPayerGrant a b := by
  obtain ⟨ledger, hledger, hrun⟩ := run_check_ok .ask hrun
  obtain ⟨rfl, -⟩ := run_ask_ok.mp hledger
  obtain ⟨_, -, hrun⟩ := run_check_ok (Modifies.requireAuth _) hrun
  obtain ⟨_, s₁, hnonce, hrun⟩ := run_bind_ok.mp hrun
  have hnonces : Modifies (areas [.nonces])
      (whenSome nonce (checkAndAdvance payer .depositFunds)) :=
    .whenSome fun _ => Modifies.checkAndAdvance rfl
  have h₁ := hnonces.ok hnonce
  have hbook : s₁.book = s.book := State.book_of_unbooked (h₁.mono (areas_subset_unbooked rfl))
  obtain ⟨sub, hreads, -, hrun⟩ := run_read_ok hrun
  rw [hbook] at hreads
  obtain ⟨found, hfound, hrun⟩ := run_check_ok Modifies.load hrun
  obtain ⟨rfl, -⟩ := run_load_ok.mp hfound
  obtain ⟨grant, hgrant, hrun⟩ := run_check_ok (.okOr _ _) hrun
  obtain ⟨_, hopen, hrun⟩ := run_check_ok (.failIf _ _) hrun
  obtain ⟨_, hcovers, hrun⟩ := run_check_ok (.failIf _ _) hrun
  obtain ⟨_, -, hrun⟩ := run_check_ok (Modifies.enforceMinTopup _) hrun
  obtain ⟨_, -, hrun⟩ := run_check_ok (Modifies.requireNotBlocklisted _) hrun
  obtain ⟨_, -, hrun⟩ := run_check_ok (Modifies.requireNotBlocklisted _) hrun
  obtain ⟨_, -, hrun⟩ := run_check_ok (.gets _) hrun
  obtain ⟨_, -, hrun⟩ := run_check_ok (.failIf _ _) hrun
  obtain ⟨-, hrun⟩ := run_unexpired_ok hrun
  obtain ⟨_, -, hrun⟩ := run_check_ok (Modifies.enforceCreditLimitForDelta _ _ _) hrun
  obtain ⟨_, -, hrun⟩ := run_check_ok (.failIf _ _) hrun
  obtain ⟨prepaidBalance, -, hrun⟩ := run_check_ok (.lift _) hrun
  obtain ⟨_, s₂, hwrite, hrun⟩ := run_bind_ok.mp hrun
  obtain ⟨_, s₃, hdeleted, hrun⟩ := run_bind_ok.mp hrun
  obtain ⟨_, s₄, hpaid, hrun⟩ := run_bind_ok.mp hrun
  obtain ⟨_, s₅, htotal, hlast⟩ := run_bind_ok.mp hrun
  obtain rfl := run_addTotalAccounted_ok.mp htotal
  obtain rfl := run_delete_ok.mp hdeleted
  have hstored : s₁.delegatedPayerGrant sub.subscriber payer = some grant :=
    (run_okOr_ok.mp hgrant).1
  rw [State.delegatedPayerGrant_of_areas h₁ rfl] at hstored
  refine ⟨sub.subscriber, grant, State.owner_of_reads hreads, hstored,
    Int.not_lt.mp (run_failIf_ok.mp hcovers).1, Nat.lt_of_not_le (run_failIf_ok.mp hopen).1,
    fun a b => ?_⟩
  have htransfer : Modifies (areas [.tokens])
      (transfer sub.token payer env.host.contract amount) := Modifies.transfer rfl rfl
  rw [State.delegatedPayerGrant_of_areas ((writeSubscription_areas id _).ok hlast) rfl,
    State.delegatedPayerGrant_of_areas (htransfer.ok hpaid) rfl,
    State.delegatedPayerGrant_remove,
    State.delegatedPayerGrant_of_areas ((writeSubscription_areas id _).ok hwrite) rfl,
    State.delegatedPayerGrant_of_areas h₁ rfl]

/-- A grant that is there has just been given, or was there already. -/
theorem Transacts.grant {l : Transaction} (h : Transacts l s t) {grant : DelegatedPayerGrant}
    (hgrant : t.delegatedPayerGrant subscriber payer = some grant) :
    (grant.subscriber = subscriber ∧ grant.payer = payer ∧ Grants grant l s) ∨
      ¬l.TouchesGrant subscriber payer s ∧
        s.delegatedPayerGrant subscriber payer = some grant := by
  have hquiet (hl : (Area.locks :: l.areas).contains .grants = false) :
      s.delegatedPayerGrant subscriber payer = some grant :=
    (State.delegatedPayerGrant_of_areas h.worksIn.1 hl _ _).symm.trans hgrant
  cases h with
  | other => exact .inr ⟨not_false, hquiet rfl⟩
  | @call env call _ _ hrun =>
    cases call
    case grantDelegatedPayer a b expiresAt maxAmount =>
      obtain ⟨hsigned, hopen, hamount, rfl⟩ := doGrantDelegatedPayer_grants hrun
      by_cases hsame : subscriber = a ∧ payer = b
      · obtain ⟨rfl, rfl⟩ := hsame
        left
        obtain rfl := Option.some.inj ((FiniteStore.read_write_self s _).symm.trans hgrant)
        exact ⟨rfl, rfl, env, rfl, hsigned, hopen, hamount⟩
      · have hne : Slot.persistent (.delegatedPayerGrant subscriber payer) ≠
            .persistent (.delegatedPayerGrant a b) := by simpa using hsame
        refine .inr ⟨fun htouched => hsame ⟨htouched.1.symm, htouched.2.symm⟩, ?_⟩
        exact (FiniteStore.read_write_of_ne s _ hne).symm.trans hgrant
    case revokeDelegatedPayer a b =>
      obtain rfl := doRevokeDelegatedPayer_grants hrun
      rw [State.delegatedPayerGrant_remove] at hgrant
      split at hgrant
      · cases hgrant
      · rename_i hother
        exact .inr ⟨fun htouched => hother ⟨htouched.1.symm, htouched.2.symm⟩, hgrant⟩
    case depositFundsOnBehalf id b amount nonce =>
      obtain ⟨v, w, hbody, hbefore, hafter⟩ := run_withLock_areas (run_guardedCall_ok.mp hrun).2
      obtain ⟨owner, _, howner, -, -, -, hgrants⟩ := doDepositFundsOnBehalf_grants hbody
      rw [State.owner_of_locks hbefore] at howner
      rw [State.delegatedPayerGrant_of_areas hafter rfl, hgrants] at hgrant
      split at hgrant
      · cases hgrant
      · rename_i hother
        rw [State.delegatedPayerGrant_of_areas hbefore rfl] at hgrant
        refine .inr ⟨fun htouched => hother ⟨?_, htouched.2.symm⟩, hgrant⟩
        exact Option.some.inj (htouched.1.symm.trans howner)
    all_goals exact .inr ⟨not_false, hquiet rfl⟩

/-- What a grant tells of the past: the subscriber gave it to the payer, and since then none of
the two has replaced, revoked or used it. -/
theorem grants_of_run {start : State} {hist : History Transaction State}
    (hdeployed : Deployed start) (hrun : Run Transacts start hist s)
    {grant : DelegatedPayerGrant} (hgrant : s.delegatedPayerGrant subscriber payer = some grant) :
    Since (fun l u => ¬l.TouchesGrant subscriber payer u) (fun l u => grant.subscriber = subscriber ∧
      grant.payer = payer ∧ Grants grant l u) hist := by
  have hnone : start.delegatedPayerGrant subscriber payer = none :=
    State.delegatedPayerGrant_of_areas hdeployed.areas rfl _ _
  refine (Run.since_stored (fun u => u.delegatedPayerGrant subscriber payer)
    (I := fun _ => True) (P := fun _ _ => True) hnone trivial
    (fun l u v _ _ hstep => ⟨trivial, fun grant hgrant => hstep.grant hgrant⟩) hrun
    fun _ _ => trivial).2 grant hgrant

end Grants

/-- In every run, a delegated deposit that goes through uses up a grant that covers it: the owner
of the subscription gave it to the payer, it has not run out, and since it was given it has been
neither replaced nor revoked nor used for any subscription of that owner. A deposit that fails
leaves every grant as it is. -/
theorem grants_used_once {start s : State} {hist : History Transaction State}
    (hdeployed : Deployed start) (hrun : Run Transacts start hist s) (env : Env) (id : Nat)
    (payer : Address) (amount : Int) (nonce : Option Nat) :
    (∀ t, (VaultCall.depositFundsOnBehalf id payer amount nonce).exec.run env s = .ok () t →
      ∃ grant, s.owner id = some grant.subscriber ∧ grant.payer = payer ∧
        amount ≤ grant.maxAmount ∧ env.now < grant.expiresAt ∧
        Since (fun l u => ¬l.TouchesGrant grant.subscriber payer u) (Grants grant) hist ∧
        t.delegatedPayerGrant grant.subscriber payer = none) ∧
    ((∀ t, (VaultCall.depositFundsOnBehalf id payer amount nonce).exec.run env s ≠ .ok () t) →
      ∀ a b, ((VaultCall.depositFundsOnBehalf id payer amount nonce).commit env
        s).delegatedPayerGrant a b = s.delegatedPayerGrant a b) := by
  refine ⟨fun t hcall => ?_, fun hfails a b => ?_⟩
  · obtain ⟨v, w, hbody, hbefore, hafter⟩ := run_withLock_areas (run_guardedCall_ok.mp hcall).2
    obtain ⟨owner, grant, howner, hgrant, hcovers, hopen, hgrants⟩ :=
      doDepositFundsOnBehalf_grants hbody
    rw [State.owner_of_locks hbefore] at howner
    rw [State.delegatedPayerGrant_of_areas hbefore rfl] at hgrant
    have hsince := grants_of_run hdeployed hrun hgrant
    obtain ⟨taken, -, rfl, hpayer, -⟩ := hsince.exists_mem
    refine ⟨grant, howner, hpayer, hcovers, hopen, hsince.mono (fun _ _ hK => hK)
      fun _ _ hmade => hmade.2.2, ?_⟩
    rw [State.delegatedPayerGrant_of_areas hafter rfl, hgrants, if_pos ⟨rfl, rfl⟩]
  · have hsame : (VaultCall.depositFundsOnBehalf id payer amount nonce).commit env s = s :=
      after_of_not_ok hfails
    rw [hsame]

private def grantedCalls : List (Env × VaultCall) :=
  [(sampleEnv 1 [⟨2⟩], .grantDelegatedPayer ⟨2⟩ ⟨4⟩ 1000 50),
   (sampleEnv 0 [⟨2⟩], .createSubscription sampleRequest)]

/-- The vault once address 4 has money of its own. -/
private def twoPayers : List (Env × Vault Unit) :=
  (sampleEnv 0 [], mint ⟨9⟩ ⟨4⟩ 1000) :: sampleVault 0

private theorem twoPayers_run : Run Transacts (sampleStart 0)
    [(.other (sampleEnv 0 []), sampleStart 0)] (afterCalls twoPayers) := by
  have hmint : Modifies (areas [.tokens]) (mint ⟨9⟩ ⟨4⟩ 1000) :=
    .update fun s => s.agreeOff_write _ rfl
  exact Run.start.next (.other (((sample_areas 0).mono (areas_mono rfl)).trans
    ((hmint.after (sampleEnv 0 []) (afterCalls (sampleVault 0))).mono (areas_mono rfl))))

/-- Address 4 pays 40 of the 50 it may, and the grant is gone. -/
theorem granted_deposit : ∃ (hist : History Transaction State) (s t : State),
    Run Transacts (sampleStart 0) hist s ∧
    (VaultCall.depositFundsOnBehalf 0 ⟨4⟩ 40 none).exec.run (sampleEnv 2 [⟨4⟩]) s = .ok () t ∧
    ∃ grant : DelegatedPayerGrant, s.owner 0 = some grant.subscriber ∧ grant.payer = ⟨4⟩ ∧
      40 ≤ grant.maxAmount ∧ 2 < grant.expiresAt ∧
      Since (fun l u => ¬l.TouchesGrant grant.subscriber ⟨4⟩ u) (Grants grant) hist ∧
      t.delegatedPayerGrant grant.subscriber ⟨4⟩ = none := by
  have hrun := run_transactions twoPayers_run
    (show allSucceed (afterCalls twoPayers) grantedCalls = true by decide +kernel)
  have hdeposit := run_eq_after (show
    (VaultCall.depositFundsOnBehalf 0 ⟨4⟩ 40 none).exec.succeeds (sampleEnv 2 [⟨4⟩])
      (stateAfter (afterCalls twoPayers) grantedCalls) = true by decide +kernel)
  exact ⟨_, _, _, hrun, hdeposit,
    (grants_used_once (sample_deployed 0) hrun _ _ _ _ _).1 _ hdeposit⟩

end SubscriptionVault
