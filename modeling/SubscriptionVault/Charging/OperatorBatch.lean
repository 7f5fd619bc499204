import SubscriptionVault.Lifecycle.Transactions

/-!
# The operator's batch

Admin and operator are each offered a batch of charges. The admin's works through the list. The
operator's returns no results, without a look at the caller, the list or the nonce.
-/

namespace SubscriptionVault

open Exec

/-! ## The two batches -/

/-- `batch_charge`, with the results it returns. -/
def batchCharge (ids : List Nat) (keys : Option (List BytesN32)) (nonce : Nat) :
    Vault (List BatchChargeResult) :=
  guardedBatch (doBatchCharge ids keys nonce)

/-- `operator_batch_charge`, with the results it returns. -/
def operatorBatchCharge (_operator : Address) (_ids : List Nat) (_nonce : Nat) :
    Vault (List BatchChargeResult) :=
  stoppableCall doOperatorBatchCharge

/-- The call is made by `caller` alone. -/
def Env.calledBy (env : Env) (caller : Address) : Env :=
  { env with authorized := fun a => a = caller }

/-- The counters that protect calls against replay. -/
def nonceCounters : Set Slot := {k | ∃ signer domain, k = .persistent (.adminNonce signer domain)}

/-- Two calls return the same and leave the same storage but for counters, or fail alike. -/
inductive SameEnds {α : Type} : Outcome Error State α → Outcome Error State α → Prop
  | ok {a : α} {t u : State} :
      FiniteStore.AgreeOff nonceCounters t u → SameEnds (.ok a t) (.ok a u)
  | err {e : Error} {t u : State} : SameEnds (.err e t) (.err e u)
  | trap : SameEnds .trap .trap

/-- The operator's batch does what the admin's batch of the same list does, each called with the
next nonce, and anybody else's call fails and changes nothing. -/
structure OperatorBatchAgrees (env : Env) (s : State) (admin caller : Address)
    (ids : List Nat) : Prop where
  operator : s.operator = some caller → SameEnds
    ((operatorBatchCharge caller ids (s.nonce caller .operatorBatchCharge)).run
      (env.calledBy caller) s)
    ((batchCharge ids none (s.nonce admin .batchCharge)).run (env.calledBy admin) s)
  others : s.operator ≠ some caller → ∀ nonce,
    (∀ results t, (operatorBatchCharge caller ids nonce).run (env.calledBy caller) s ≠
      .ok results t) ∧
    (VaultCall.operatorBatchCharge caller ids nonce).commit (env.calledBy caller) s = s

/-! ## How they end -/

section Ends

variable {α : Type} {env : Env} {s t : State} {body : Vault α} {ids : List Nat}
  {keys : Option (List BytesN32)} {nonce : Nat}

theorem run_stoppableCall_stopped (hstop : s.emergencyStop = true) :
    (stoppableCall body).run env s = .err .emergencyStopActive s := by
  have hrefused : requireNotEmergencyStop.run env s = .err .emergencyStopActive s := by
    simp [requireNotEmergencyStop, run_bind_err, getState, hstop]
  exact run_bind_of_err hrefused

theorem run_guardedBatch_stopped (hstop : s.emergencyStop = true)
    (hfree : s.read (.lock .batchCharge) = none) :
    ∃ u, (guardedBatch body).run env s = .err .emergencyStopActive u := by
  let locked : State := s.write (.lock .batchCharge) true
  have hbody : (stoppableCall body).run env locked = .err .emergencyStopActive locked :=
    run_stoppableCall_stopped ((State.emergencyStop_lock s _ true).trans hstop)
  have hcaught : (attempt (stoppableCall body)).run env locked =
      .ok (.error .emergencyStopActive) locked := run_attempt_ok.mpr (.inr ⟨_, rfl, hbody⟩)
  refine ⟨locked.remove (.lock .batchCharge), ?_⟩
  refine (run_bind_of_ok (run_load_ok.mpr ⟨rfl, rfl⟩)).trans ?_
  refine (run_seq_of_ok (run_failIf_ok.mpr ⟨by simp [hfree], rfl⟩)).trans ?_
  refine (run_seq_of_ok (run_store_ok.mpr rfl)).trans ?_
  refine (run_bind_of_ok hcaught).trans ?_
  refine (run_seq_of_ok (run_delete_ok.mpr rfl)).trans ?_
  exact run_lift_err.mpr ⟨rfl, rfl⟩

theorem run_operatorBatchCharge (op : Address) (hrunning : s.emergencyStop = false) :
    (operatorBatchCharge op ids nonce).run env s = .ok [] s :=
  run_stoppableCall_ok.mpr ⟨hrunning, run_pure_ok.mpr ⟨rfl, rfl⟩⟩

/-- There is a result for every item, so only an empty batch returns none. -/
theorem doBatchCharge_results (hrun : (doBatchCharge ids keys nonce).run env s = .ok [] t) :
    ids = [] := by
  obtain ⟨response, u, hrun, hrest⟩ := run_bind_ok.mp hrun
  obtain ⟨_, hunique, hrest⟩ := run_check_ok (.failIf _ _) hrest
  obtain ⟨hresults, -⟩ := run_pure_ok.mp hrest
  obtain ⟨admin, -, hrun⟩ := run_check_ok Modifies.requireStoredAdminAuth hrun
  obtain ⟨_, -, hrun⟩ := run_check_ok (.failIf _ _) hrun
  by_contra hids
  rw [if_neg hids] at hrun
  obtain ⟨_, -, hrun⟩ := run_check_ok (.failIf _ _) hrun
  split at hrun
  · obtain ⟨rfl, -⟩ := run_pure_ok.mp hrun
    exact (run_failIf_ok.mp hunique).1 rfl
  · obtain ⟨_, -, hrun⟩ := run_check_ok (Modifies.validateNonce _ _ _) hrun
    obtain ⟨_, _, -, hrun⟩ := run_bind_ok.mp hrun
    obtain ⟨results, _, hexecuted, hrun⟩ := run_bind_ok.mp hrun
    obtain ⟨_, _, -, hrun⟩ := run_bind_ok.mp hrun
    obtain ⟨_, _, -, hrun⟩ := run_bind_ok.mp hrun
    obtain ⟨_, -, hrun⟩ := run_check_ok (.lift _) hrun
    obtain ⟨rfl, -⟩ := run_pure_ok.mp hrun
    obtain ⟨charged, hitems, hreports, -⟩ := run_executeBatchCharge_ok.mp hexecuted
    have hnone : charged = [] := List.map_eq_nil_iff.mp (hreports.trans hresults)
    rw [hnone] at hitems
    have hlength : ids.length = 0 := by simpa [batchItems] using (congrArg List.length hitems).symm
    exact hids (List.length_eq_zero_iff.mp hlength)

/-- An empty batch of the admin's uses no nonce. -/
theorem run_batchCharge_nil {admin : Address} (hrunning : s.emergencyStop = false)
    (hfree : s.read (.lock .batchCharge) = none) (hadmin : s.admin = some admin)
    (houtside : admin ≠ env.host.contract) :
    (batchCharge [] none nonce).run (env.calledBy admin) s =
      .ok [] (FiniteStore.remove (s.write (.lock .batchCharge) true) (.lock .batchCharge)) := by
  let locked : State := s.write (.lock .batchCharge) true
  have hconfig : (locked.config .admin : Option Address) = s.config .admin :=
    State.config_write_of_ne s true (by simp [configSlots])
  have hstored : locked.admin = some admin := hconfig.trans hadmin
  refine run_guardedBatch_ok.mpr ⟨hrunning, run_withLock_ok.mpr ⟨hfree, locked, ?_, rfl⟩⟩
  have hsigned : (env.calledBy admin).authorized admin = true := decide_eq_true rfl
  have hresponse : (doBatchChargeDetailed [] none nonce).run (env.calledBy admin) locked =
      .ok ⟨[], none⟩ locked := by
    refine (run_bind_of_ok (run_requireStoredAdminAuth_ok.mpr
      ⟨⟨hstored, hsigned, houtside⟩, rfl⟩)).trans ?_
    refine (run_seq_of_ok (run_failIf_ok.mpr ⟨by simp, rfl⟩)).trans ?_
    rfl
  refine (run_bind_of_ok hresponse).trans ?_
  refine (run_seq_of_ok (run_failIf_ok.mpr ⟨by simp, rfl⟩)).trans ?_
  rfl

end Ends

/-! ## When they agree -/

/-- In every state a deployment can reach, the two batches agree exactly while the emergency stop
is on, or when the operator asks for nothing. -/
theorem operator_batch_agrees_iff {start s : State} {hist : History Transaction State}
    (hdeployed : Deployed start) (hrun : Run Transacts start hist s) {admin : Address}
    (hadmin : s.admin = some admin) {env : Env} (houtside : admin ≠ env.host.contract)
    (caller : Address) (ids : List Nat) :
    OperatorBatchAgrees env s admin caller ids ↔
      s.emergencyStop = true ∨ (s.operator = some caller ∧ ids = []) := by
  have hfree := unlocked_of_run hdeployed.unlocked hrun .batchCharge
  cases hstop : s.emergencyStop with
  | true =>
    have hrefused : (stoppableCall doOperatorBatchCharge).run (env.calledBy caller) s =
        .err .emergencyStopActive s := run_stoppableCall_stopped hstop
    refine iff_of_true ⟨fun _ => ?_, fun _ nonce => ⟨fun results t hok => ?_, ?_⟩⟩ (.inl rfl)
    · obtain ⟨u, hadmins⟩ :
          ∃ u, (guardedBatch (doBatchCharge ids none (s.nonce admin .batchCharge))).run
            (env.calledBy admin) s = .err .emergencyStopActive u :=
        run_guardedBatch_stopped hstop hfree
      rw [operatorBatchCharge, hrefused, batchCharge, hadmins]
      exact .err
    · have hfails := hrefused.symm.trans hok
      cases hfails
    · refine after_of_not_ok fun t hok => ?_
      obtain ⟨_, hok⟩ := run_effectOf_ok.mp hok
      have hfails := hrefused.symm.trans hok
      cases hfails
  | false =>
    have hempty (nonce : Nat) : (operatorBatchCharge caller ids nonce).run (env.calledBy caller) s =
        .ok [] s := run_operatorBatchCharge caller hstop
    constructor
    · intro hagrees
      right
      by_cases hop : s.operator = some caller
      · refine ⟨hop, ?_⟩
        have hends := hagrees.operator hop
        rw [hempty] at hends
        generalize hadmins : (batchCharge ids none (s.nonce admin .batchCharge)).run
          (env.calledBy admin) s = o at hends
        cases hends with
        | ok hcounters =>
          obtain ⟨-, u, hbody, -⟩ := run_withLock_ok.mp (run_guardedBatch_ok.mp hadmins).2
          exact doBatchCharge_results hbody
      · exact absurd (hempty 0) ((hagrees.others hop 0).1 [] s)
    · rintro (hstopped | ⟨hop, rfl⟩)
      · cases hstopped
      · refine ⟨fun _ => ?_, fun hother => absurd hop hother⟩
        rw [hempty, run_batchCharge_nil hstop hfree hadmin houtside]
        refine .ok fun k _ => ?_
        by_cases hk : k = .lock .batchCharge
        · subst hk
          have hnone : s.get (.lock .batchCharge) = none := hfree
          exact (FiniteStore.get_replace_self _ _ _).trans hnone.symm
        · exact (FiniteStore.get_replace_of_ne _ _ hk).trans (FiniteStore.get_replace_of_ne s _ hk)

/-! ## A deployment with an operator -/

theorem doSetOperator_areas (admin op : Address) :
    Modifies (areas [.settings]) (doSetOperator admin op) :=
  .bind .ask fun _ => .bind (Modifies.requireAdminAuth _) fun _ => .bind (.failIf _ _) fun _ =>
    .bind (Modifies.enforceConfigCooldown rfl) fun _ => Modifies.writeConfig rfl rfl

private def operatedVault : List (Env × Vault Unit) :=
  (sampleEnv 0 [⟨8⟩], doSetOperator ⟨8⟩ ⟨7⟩) :: sampleVault 0

private theorem operatedVault_run : Run Transacts (sampleStart 0)
    [(.other (sampleEnv 0 []), sampleStart 0)] (afterCalls operatedVault) := by
  have hset := (doSetOperator_areas ⟨8⟩ ⟨7⟩).after (sampleEnv 0 [⟨8⟩]) (afterCalls (sampleVault 0))
  exact Run.start.next (.other (((sample_areas 0).mono (areas_mono rfl)).trans
    (hset.mono (areas_mono rfl))))

private def fundedCalls : List (Env × VaultCall) :=
  [(sampleEnv 1 [⟨2⟩], .depositFunds 0 25 none),
   (sampleEnv 0 [⟨2⟩], .createSubscription sampleRequest)]

/-- An operator who asks for nothing gets what the admin gets. -/
theorem empty_operator_batch_agrees : ∃ hist s, Run Transacts (sampleStart 0) hist s ∧
    s.emergencyStop = false ∧ s.admin = some ⟨8⟩ ∧ s.operator = some ⟨7⟩ ∧
      OperatorBatchAgrees (sampleEnv 60 []) s ⟨8⟩ ⟨7⟩ [] := by
  have hop : (afterCalls operatedVault).operator = some ⟨7⟩ := by decide +kernel
  have hadmin : (afterCalls operatedVault).admin = some ⟨8⟩ := by decide +kernel
  exact ⟨_, _, operatedVault_run, by decide +kernel, hadmin, hop,
    (operator_batch_agrees_iff (sample_deployed 0) operatedVault_run hadmin (by decide) ⟨7⟩ []).mpr
      (.inr ⟨hop, rfl⟩)⟩

/-- With a charge due, the admin's batch takes it and the operator's reports no results and
leaves the balance alone. So does the same call by somebody who is not the operator. -/
theorem operator_batch_charges_nothing : ∃ hist s, Deployed (sampleStart 0) ∧
    Run Transacts (sampleStart 0) hist s ∧ s.admin = some ⟨8⟩ ∧ s.operator = some ⟨7⟩ ∧
    (((VaultCall.batchCharge [0] none 0).commit (sampleEnv 60 [⟨8⟩]) s).subscription 0).map
      (·.prepaidBalance) = some 15 ∧
    (operatorBatchCharge ⟨7⟩ [0] 0).run (sampleEnv 60 [⟨7⟩]) s = .ok [] s ∧
    (operatorBatchCharge ⟨6⟩ [0] 0).run (sampleEnv 60 [⟨6⟩]) s = .ok [] s ∧
    (s.subscription 0).map (·.prepaidBalance) = some 25 ∧
    ¬OperatorBatchAgrees (sampleEnv 60 []) s ⟨8⟩ ⟨7⟩ [0] ∧
    ¬OperatorBatchAgrees (sampleEnv 60 []) s ⟨8⟩ ⟨6⟩ [0] := by
  have hrun := run_transactions operatedVault_run
    (show allSucceed (afterCalls operatedVault) fundedCalls = true by decide +kernel)
  have hrunning : (stateAfter (afterCalls operatedVault) fundedCalls).emergencyStop = false := by
    decide +kernel
  have hop : (stateAfter (afterCalls operatedVault) fundedCalls).operator = some ⟨7⟩ := by
    decide +kernel
  refine ⟨_, _, sample_deployed 0, hrun, by decide +kernel, hop, by decide +kernel,
    run_operatorBatchCharge _ hrunning, run_operatorBatchCharge _ hrunning, by decide +kernel,
    fun hagrees => ?_, fun hagrees => ?_⟩
  · have hends := hagrees.operator hop
    rw [run_operatorBatchCharge _ hrunning] at hends
    generalize hadmins : (batchCharge [0] none _).run _ _ = o at hends
    cases hends with
    | ok hcounters =>
      obtain ⟨-, u, hbody, -⟩ := run_withLock_ok.mp (run_guardedBatch_ok.mp hadmins).2
      exact absurd (doBatchCharge_results hbody) (by simp)
  · exact (hagrees.others (by rw [hop]; decide) 0).1 _ _ (run_operatorBatchCharge _ hrunning)

end SubscriptionVault
