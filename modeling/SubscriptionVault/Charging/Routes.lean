import SubscriptionVault.Accounts.Rotation
import SubscriptionVault.Charging.Callers
import SubscriptionVault.Charging.Logging

/-!
# Single, batch and usage charges

The single entrypoint drops what a failing charge has written, a batch catches the error and
keeps it. The two leave the same record behind unless a charge writes the record and fails
afterwards.
-/

namespace SubscriptionVault

open Exec

/-! ## The call around a charge -/

section Wrapped

variable {α : Type} {env : Env} {s : State} {id : Nat} {key : Option BytesN32}

/-- The record a run leaves to the single entrypoint: an error drops what was written. -/
def Outcome.recordIfOk (o : Outcome Error State α) (s : State) (id : Nat) : Option Subscription :=
  match o with
  | .ok _ t => t.subscription id
  | _ => s.subscription id

/-- The record a run leaves to a batch: only a trap drops what was written. -/
def Outcome.recordUnlessTrap (o : Outcome Error State α) (s : State) (id : Nat) :
    Option Subscription :=
  match o with
  | .ok _ t => t.subscription id
  | .err _ t => t.subscription id
  | .trap => s.subscription id

/-- A locked call fails when its body does. -/
theorem guardedCall_refused {name : LockName} {body : Vault α} (hbody : IgnoresCall body)
    (hfails : ∀ a t, body.run env s ≠ .ok a t) :
    (effectOf (guardedCall name body)).after env s = s := by
  apply after_of_not_ok
  intro t hcall
  obtain ⟨a, hcall⟩ := run_effectOf_ok.mp hcall
  obtain ⟨-, u, hinner, -⟩ := run_withLock_ok.mp (run_guardedCall_ok.mp hcall).2
  have hmatch := hbody env s _ (.of_write s true (k := .lock name) rfl)
  rw [hinner] at hmatch
  generalize hrun : body.run env s = o at hmatch
  cases hmatch with
  | ok a hsame => exact hfails a _ hrun

theorem guardedCall_record {name : LockName} {body : Vault α} (hbody : IgnoresCall body)
    (hrunning : s.emergencyStop = false) (hfree : s.Unlocked) :
    ((effectOf (guardedCall name body)).after env s).subscription id =
      (body.run env s).recordIfOk s id := by
  cases hrun : body.run env s with
  | ok a t =>
    have hmatch := hbody env s _ (.of_write s true (k := .lock name) rfl)
    rw [hrun] at hmatch
    generalize hinner : body.run env (s.write (.lock name) true) = o at hmatch
    cases hmatch with
    | @ok _ _ t' hsame =>
      have hcall : (effectOf (guardedCall name body)).run env s = .ok () (t'.remove (.lock name)) :=
        run_effectOf_ok.mpr ⟨a, run_guardedCall_ok.mpr
          ⟨hrunning, run_withLock_ok.mpr ⟨hfree name, t', hinner, rfl⟩⟩⟩
      rw [after_of_ok hcall]
      exact ((SameButCall.of_remove t' rfl).subscription id).trans (hsame.subscription id)
  | err e t =>
    rw [guardedCall_refused hbody fun a t heq => by rw [hrun] at heq; cases heq]
    rfl
  | trap =>
    rw [guardedCall_refused hbody fun a t heq => by rw [hrun] at heq; cases heq]
    rfl

/-- A batch of one subscription with an optional key. -/
abbrev VaultCall.batchOfOne (id : Nat) (key : Option BytesN32) (nonce : Nat) : VaultCall :=
  .batchCharge [id] (key.map fun k => [k]) nonce

/-- The batch is the administrator's, with the nonce that is next. -/
structure BatchAccepted (env : Env) (s : State) (admin : Address) (nonce : Nat) : Prop where
  stored : s.admin = some admin
  signed : env.authorized admin
  outside : admin ≠ env.host.contract
  fresh : s.AcceptsNonce admin .batchCharge nonce

theorem batchItems_one (id : Nat) (key : Option BytesN32) :
    batchItems [id] (key.map fun k => [k]) = [(id, key)] := by
  cases key <;> rfl

/-- What a batch makes of its only item, errors included. -/
theorem chargeBatch_record {admin : Address} {nonce : Nat} {s' : State} (hsame : SameButCall s s')
    (hnonce : s.AcceptsNonce admin .batchCharge nonce)
    (hrun : (chargeOne id key none ∅).run env s ≠ .trap) :
    ∃ response t, (chargeBatch admin [(id, key)] nonce).run env s' = .ok response t ∧
      response.duplicateId = none ∧
      t.subscription id = ((chargeOne id key none ∅).run env s).recordUnlessTrap s id := by
  obtain ⟨next, hnext⟩ := hnonce
  obtain ⟨result, t, hcharge, hrecord⟩ : ∃ result t,
      (attempt (chargeOne id key none ∅)).run env s = .ok result t ∧
        t.subscription id = ((chargeOne id key none ∅).run env s).recordUnlessTrap s id := by
    cases hone : (chargeOne id key none ∅).run env s with
    | ok a t => exact ⟨.ok a, t, run_attempt_ok.mpr (.inl ⟨a, rfl, hone⟩), rfl⟩
    | err e t => exact ⟨.error e, t, run_attempt_ok.mpr (.inr ⟨e, rfl, hone⟩), rfl⟩
    | trap => exact absurd hone hrun
  have hwritten : SameButCall s (s'.write (.symbol .batchNonceCtx) nonce) :=
    hsame.trans (SameButCall.of_write _ _ rfl)
  have hmatch := (Respects.attempt (IgnoresCall.chargeOne id key)) env s _ hwritten
  rw [hcharge] at hmatch
  generalize hinner : (attempt (chargeOne id key none ∅)).run env
    (s'.write (.symbol .batchNonceCtx) nonce) = o at hmatch
  cases hmatch with
  | @ok _ _ t' hafter =>
    have hkept : FiniteStore.AgreeOff chargeSlots s t :=
      (Keeps.attempt (Modifies.chargeOne id key none ∅)).ok hcharge
    have hstored : t'.nonce admin .batchCharge = s.nonce admin .batchCharge := by
      rw [hafter.nonce, State.nonce, State.nonce, hkept.read (by simp [chargeSlots,
        Slot.isBookkeeping, Slot.isAccount])]
    obtain ⟨t'', hadvance, hsubscription⟩ : ∃ t'',
        (attempt (when ([batchResult id result].any (·.success) = true)
          (checkAndAdvance admin .batchCharge nonce))).run env t' = .ok (.ok ()) t'' ∧
          t''.subscription id = t'.subscription id := by
      by_cases hany : [batchResult id result].any (·.success) = true
      · refine ⟨_, run_attempt_ok.mpr (.inl ⟨(), rfl, run_when_ok.mpr (.inl ⟨hany,
          run_checkAndAdvance_ok.mpr ⟨next, by rw [hstored]; exact hnext, rfl⟩⟩)⟩), ?_⟩
        exact FiniteStore.read_write_of_ne _ _ (by simp)
      · exact ⟨t', run_attempt_ok.mpr (.inl ⟨(), rfl, run_when_ok.mpr (.inr ⟨hany, rfl⟩)⟩), rfl⟩
    have hbatch : (executeBatchCharge [(id, key)]).run env
        (s'.write (.symbol .batchNonceCtx) nonce) = .ok [batchResult id result] t' := by
      rw [run_executeBatchCharge]
      exact run_bind_ok.mpr ⟨result, t', hinner, run_bind_ok.mpr
        ⟨[], t', run_pure_ok.mpr ⟨rfl, rfl⟩, run_pure_ok.mpr ⟨rfl, rfl⟩⟩⟩
    have hvalid : (validateNonce admin .batchCharge nonce).run env s' = .ok () s' := by
      have hnonce' : s'.nonce admin .batchCharge = s.nonce admin .batchCharge := by
        rw [State.nonce, State.nonce, hsame.persistent _ rfl]
      refine run_bind_ok.mpr ⟨s', s', run_gets_ok.mpr ⟨rfl, rfl⟩, run_bind_ok.mpr
        ⟨next, s', run_lift_ok.mpr ⟨?_, rfl⟩, run_pure_ok.mpr ⟨rfl, rfl⟩⟩⟩
      exact hnonce' ▸ hnext
    refine ⟨⟨[batchResult id result], none⟩, t''.remove (.symbol .batchNonceCtx), ?_, rfl, ?_⟩
    · refine (run_seq_of_ok hvalid).trans ?_
      refine (run_seq_of_ok (run_store_ok.mpr rfl)).trans ?_
      refine (run_bind_of_ok hbatch).trans ?_
      refine (run_bind_of_ok hadvance).trans ?_
      refine (run_seq_of_ok (run_delete_ok.mpr rfl)).trans ?_
      rfl
    · rw [← hrecord, (SameButCall.of_remove t'' rfl).subscription, hsubscription,
        hafter.subscription]

/-- The administrator's batch of one comes down to its item. -/
theorem run_doBatchCharge_one {admin : Address} {nonce : Nat} (hstored : s.admin = some admin)
    (hsigned : env.authorized admin) (houtside : admin ≠ env.host.contract) :
    (doBatchCharge [id] (key.map fun k => [k]) nonce).run env s = (do
      let response ← chargeBatch admin [(id, key)] nonce
      failIf response.duplicateId.isSome .invalidInput
      pure response.results : Vault (List BatchChargeResult)).run env s := by
  apply run_bind_congr_left
  have hunique : firstDuplicate [] [id] = none := by simp [firstDuplicate]
  have hkeys : ¬(key.map fun k => [k]).any (·.length ≠ [id].length) = true := by
    cases key <;> simp
  refine (run_bind_of_ok (run_requireStoredAdminAuth_ok.mpr
    ⟨⟨hstored, hsigned, houtside⟩, rfl⟩)).trans ?_
  refine (run_seq_of_ok (run_failIf_ok.mpr ⟨by simp [batchMaxSize], rfl⟩)).trans ?_
  rw [if_neg (List.cons_ne_nil id [])]
  refine (run_seq_of_ok (run_failIf_ok.mpr ⟨hkeys, rfl⟩)).trans ?_
  rw [hunique, batchItems_one]

theorem batchOfOne_record {admin : Address} {nonce : Nat} (hrunning : s.emergencyStop = false)
    (hfree : s.Unlocked) (hbatch : BatchAccepted env s admin nonce) :
    ((VaultCall.batchOfOne id key nonce).exec.after env s).subscription id =
      ((chargeOne id key none ∅).run env s).recordUnlessTrap s id := by
  have hlocked : SameButCall s (s.write (.lock .batchCharge) true) := .of_write _ _ rfl
  have hbody : (doBatchCharge [id] (key.map fun k => [k]) nonce).run env
      (s.write (.lock .batchCharge) true) = _ := run_doBatchCharge_one ((hlocked.config _ rfl).trans
      hbatch.stored)
    hbatch.signed hbatch.outside
  by_cases htrap : (chargeOne id key none ∅).run env s = .trap
  · rw [after_of_not_ok, htrap]
    · rfl
    · intro t hcall
      obtain ⟨_, hcall⟩ := run_effectOf_ok.mp hcall
      obtain ⟨-, u, hinner, -⟩ := run_withLock_ok.mp (run_guardedBatch_ok.mp hcall).2
      rw [hbody] at hinner
      obtain ⟨_, _, hbatched, -⟩ := run_bind_ok.mp hinner
      obtain ⟨_, -, hrest⟩ := run_check_ok (Modifies.validateNonce _ _ _) hbatched
      obtain ⟨_, s₂, hctx, hrest⟩ := run_bind_ok.mp hrest
      obtain rfl := run_store_ok.mp hctx
      obtain ⟨_, _, hexecuted, -⟩ := run_bind_ok.mp hrest
      rw [run_executeBatchCharge] at hexecuted
      obtain ⟨_, _, hcharged, -⟩ := run_bind_ok.mp hexecuted
      have hmatch := (Respects.attempt (IgnoresCall.chargeOne id key)) env s _
        (hlocked.trans (SameButCall.of_write (k := .symbol .batchNonceCtx) _ nonce rfl))
      rw [hcharged] at hmatch
      have hnone : (attempt (chargeOne id key none ∅)).run env s = .trap := by
        simp only [attempt, htrap]
      rw [hnone] at hmatch
      cases hmatch
  · obtain ⟨response, t, hrun, hunique, hrecord⟩ := chargeBatch_record hlocked hbatch.fresh htrap
    have hinner := hbody.trans (run_bind_ok.mpr ⟨response, t, hrun, run_bind_ok.mpr
      ⟨(), t, run_failIf_ok.mpr ⟨by simp [hunique], rfl⟩, run_pure_ok.mpr ⟨rfl, rfl⟩⟩⟩)
    have hcall : (VaultCall.batchOfOne id key nonce).exec.run env s =
        .ok () (t.remove (.lock .batchCharge)) :=
      run_effectOf_ok.mpr ⟨response.results, run_guardedBatch_ok.mpr
        ⟨hrunning, run_withLock_ok.mpr ⟨hfree _, t, hinner, rfl⟩⟩⟩
    rw [after_of_ok hcall, ← hrecord]
    exact (SameButCall.of_remove t rfl).subscription id

end Wrapped

/-! ## What a charge leaves behind -/

/-- A charge that passes its checks on the parties marks the subscription as expired. -/
def ExpiryPending (env : Env) (s : State) (id : Nat) : Prop :=
  ∃ sub, Admitted env s id sub ∧ sub.isExpired env.now env.sequence = true ∧
    sub.status ≠ .expired ∧ canTransition sub.status .expired

/-- A charge cancels the subscription because its cap is used up. -/
def CapPending (env : Env) (s : State) (id : Nat) : Prop :=
  ∃ sub amount, Cleared env s id sub ∧ s.intervalAmount id env.now sub = .ok amount ∧
    sub.capReached = true ∧ sub.status ≠ .cancelled ∧ canTransition sub.status .cancelled

/-- Whenever a charge is due and funded, its log is accepted. -/
def LogReady (env : Env) (s : State) (id : Nat) (key : Option BytesN32) : Prop :=
  ∀ sub charge, DueCharge env s id key sub charge.amount charge.nextAllowed →
    safeSubBalance sub.prepaidBalance charge.amount = .ok charge.newBalance →
    charge.periodIndex = (env.now - sub.startTime) / sub.intervalSeconds →
    LogsAccepted env s id sub charge key

section Records

variable {env : Env} {s t : State} {id : Nat} {key : Option BytesN32} {sub : Subscription}
  {result : ChargeExecutionResult} {e : Error}

/-- A status that does not read as it is stored is not final. -/
theorem stored_status_ne (hfound : s.effectiveSubscription id env.now = some sub)
    {status : SubscriptionStatus} (hne : sub.status ≠ status) (hgrace : status ≠ .gracePeriod) :
    (s.subscription id).map (·.status) ≠ some status := by
  obtain ⟨stored, hstored, rfl⟩ := Option.map_eq_some_iff.mp hfound
  rw [hstored]
  intro heq
  have hstatus : stored.status = status := Option.some.inj heq
  apply hne
  rw [if_neg]
  · exact hstatus
  · rintro ⟨hstays, -⟩
    exact hgrace (hstatus.symm.trans hstays)

theorem run_chargeOne_of_admitted (h : Admitted env s id sub) :
    (chargeOne id key none ∅).run env s = (do
      failIfExpired id sub
      chargeChecked id sub key none : Vault ChargeExecutionResult).run env s :=
  run_parties_of_admitted h _

/-- A charge that succeeds has passed the checks on the parties. -/
theorem cleared_of_run (hfound : s.effectiveSubscription id env.now = some sub)
    (hrun : (chargeOne id key none ∅).run env s = .ok result t) :
    Cleared env s id sub ∧ (chargeChecked id sub key none).run env s = .ok result t := by
  obtain ⟨read, hcleared, hrun⟩ := run_parties_ok hrun
  obtain rfl := Option.some.inj (hfound.symm.trans hcleared.found)
  exact ⟨hcleared, hrun⟩

/-- Only the mark of an expiry outlives the error of a charge whose log is ready. -/
theorem chargeOne_err_record (hready : LogReady env s id key)
    (hrun : (chargeOne id key none ∅).run env s = .err e t) :
    t.subscription id = s.subscription id ∨ ExpiryPending env s id := by
  have houtcome := chargeOne_outcome env s id key
  rw [hrun] at houtcome
  cases houtcome with
  | refused e => exact .inl rfl
  | @expired sub t hadmitted hexpired =>
    by_cases hstatus : sub.status = .expired
    · left
      rcases run_check_err .ask hexpired with rfl | ⟨_, -, hexpired⟩
      · rfl
      · rcases run_bind_err.mp (run_when_err.mp hexpired).2 with hmark | ⟨_, u, hmark, hfail⟩
        · exact absurd hstatus (run_when_err.mp hmark).1
        · obtain ⟨-, rfl⟩ := run_fail_err.mp hfail
          rcases run_when_ok.mp hmark with ⟨hne, -⟩ | ⟨-, rfl⟩
          · exact absurd hstatus hne
          · rfl
    · rcases failIfExpired_book hexpired with hsame | ⟨hover, hmay, -⟩
      · exact .inl (congrArg (fun b : Book => b.record id) hsame)
      · exact .inr ⟨sub, hadmitted, hover, hstatus, hmay⟩
  | @unsettled sub charge e t hdue hbalance hperiod hsalt hsettle =>
    have hlast : charge.nextAllowed - sub.intervalSeconds < env.now := by
      have hnext := (nextChargeTime_ok.mp hdue.next).1
      have hinterval := hdue.interval
      have helapsed := hdue.elapsed
      omega
    have hbook := settleInterval_err_book (hready sub charge hdue hbalance hperiod) hlast hsettle
    exact .inl (congrArg (fun b : Book => b.record id) hbook)

/-- A pending expiry is written and then reported as an error. -/
theorem chargeOne_of_expiryPending (h : ExpiryPending env s id) :
    ∃ t, (chargeOne id key none ∅).run env s = .err .subscriptionExpired t ∧
      t.subscription id ≠ s.subscription id := by
  obtain ⟨sub, hadmitted, hexpired, hstatus, hmay⟩ := h
  refine ⟨s.write (.persistent (.sub id)) { sub with status := .expired }, ?_, ?_⟩
  · rw [run_chargeOne_of_admitted hadmitted]
    refine run_bind_of_err ((run_bind_of_ok (run_ask_ok.mpr ⟨rfl, rfl⟩)).trans ?_)
    refine run_when_err.mpr ⟨hexpired, run_bind_err.mpr (.inr ⟨(), _, ?_, run_fail_err.mpr
      ⟨rfl, rfl⟩⟩)⟩
    exact run_when_ok.mpr (.inl ⟨hstatus, run_bind_ok.mpr ⟨.expired, s,
      run_lift_ok.mpr ⟨transitionTo_ok.mpr ⟨hmay, rfl⟩, rfl⟩, run_store_ok.mpr rfl⟩⟩)
  · intro heq
    have hwritten : (s.subscription id).map (·.status) = some .expired := by
      rw [← heq]
      exact congrArg (Option.map _) (FiniteStore.read_write_self s _)
    exact stored_status_ne hadmitted.found hstatus (by decide) hwritten

/-- A subscription at its cap is left alone or cancelled. -/
theorem chargeOne_capped (hfound : s.effectiveSubscription id env.now = some sub)
    (hcap : sub.capReached = true)
    (hrun : (chargeOne id key none ∅).run env s = .ok result t) :
    t.subscription id = s.subscription id ∨ CapPending env s id := by
  obtain ⟨hcleared, hchecked⟩ := cleared_of_run hfound hrun
  obtain ⟨env', hask, hchecked⟩ := run_check_ok .ask hchecked
  obtain ⟨rfl, -⟩ := run_ask_ok.mp hask
  obtain ⟨priced, hpriced, hchecked⟩ := run_check_ok (.gets _) hchecked
  obtain ⟨amount, hamount, hchecked⟩ := run_check_ok (.lift _) hchecked
  rw [if_pos hcap] at hchecked
  obtain ⟨_, u, hcancel, hlast⟩ := run_bind_ok.mp hchecked
  obtain ⟨-, rfl⟩ := run_pure_ok.mp hlast
  rcases run_when_ok.mp hcancel with ⟨hstatus, hcancel⟩ | ⟨-, rfl⟩
  · have hprice := (run_gets_ok.mp hpriced).1.trans (run_lift_ok.mp hamount).1
    exact .inr ⟨sub, amount, hcleared, hprice, hcap, hstatus, (cancelCapped_book hcancel).1⟩
  · exact .inl rfl

theorem chargeOne_of_capPending (h : CapPending env s id) :
    ∃ t, (chargeOne id key none ∅).run env s = .ok .lifetimeCapReached t ∧
      (t.subscription id).map (·.status) = some .cancelled := by
  obtain ⟨sub, amount, hcleared, hpriced, hcap, hstatus, hmay⟩ := h
  refine ⟨s.write (.persistent (.sub id)) { sub with status := .cancelled }, ?_, ?_⟩
  · rw [run_chargeOne_of_admitted hcleared.admitted]
    refine (run_seq_of_ok (run_failIfExpired_ok.mpr ⟨hcleared.unexpired, rfl⟩)).trans ?_
    refine (run_bind_of_ok (run_ask_ok.mpr ⟨rfl, rfl⟩)).trans ?_
    have hread : (gets (·.intervalAmount id env.now sub) : Vault _).run env s =
        .ok (.ok amount) s := run_gets_ok.mpr ⟨hpriced, rfl⟩
    refine (run_bind_of_ok hread).trans ?_
    refine (run_bind_of_ok (run_lift_ok.mpr ⟨rfl, rfl⟩)).trans ?_
    rw [if_pos hcap]
    refine run_seq_of_ok (run_when_ok.mpr (.inl ⟨hstatus, run_bind_ok.mpr ⟨.cancelled, s, ?_,
      run_store_ok.mpr rfl⟩⟩))
    exact run_lift_ok.mpr ⟨transitionTo_ok.mpr ⟨hmay, rfl⟩, rfl⟩
  · exact congrArg (Option.map _) (FiniteStore.read_write_self s _)

/-- Usage is not charged to a subscription that has expired or used up its cap. -/
theorem chargeUsageOne_refuses {usageAmount : Int} {reference : Bytes} {outcome : UsageChargeResult}
    (hfound : s.effectiveSubscription id env.now = some sub)
    (hover : sub.isExpired env.now env.sequence = true ∨ sub.capReached = true) :
    (chargeUsageOne id usageAmount reference).run env s ≠ .ok outcome t := by
  intro hrun
  obtain ⟨_, -, hrun⟩ := run_check_ok Modifies.requireNotEmergencyStop hrun
  obtain ⟨read, hread, hrun⟩ := run_check_ok (Modifies.getSubscription id) hrun
  obtain rfl := Option.some.inj (hfound.symm.trans (run_getSubscription_ok.mp hread).1)
  obtain ⟨_, -, hrun⟩ := run_check_ok (Modifies.checkMerchantStatus _ _) hrun
  obtain ⟨_, -, hrun⟩ := run_check_ok (Modifies.requireNotBlocklisted _) hrun
  obtain ⟨_, -, hrun⟩ := run_check_ok (Modifies.requireNotBlocklisted _) hrun
  obtain ⟨_, -, hrun⟩ := run_check_ok (Modifies.checkSplitPayees id) hrun
  obtain ⟨_, u, hexpired, hrun⟩ := run_bind_ok.mp hrun
  obtain ⟨hunexpired, -⟩ := run_failIfExpired_ok.mp hexpired
  rcases hover with hexpired | hcap
  · rw [hunexpired] at hexpired
    cases hexpired
  · obtain ⟨_, -, hrun⟩ := run_check_ok .ask hrun
    obtain ⟨_, v, hcapped, -⟩ := run_bind_ok.mp hrun
    rcases run_when_ok.mp hcapped with ⟨-, hfails⟩ | ⟨hopen, -⟩
    · obtain ⟨_, _, -, hfails⟩ := run_bind_ok.mp hfails
      exact run_fail_ok.mp hfails
    · exact hopen hcap

end Records

/-! ## The routes compared -/

/-- The subscription a call charges usage to. -/
def VaultCall.usageOf : VaultCall → Option Nat
  | .chargeUsage id _ | .chargeUsageWithReference id _ _ => some id
  | _ => none

/-- Charged singly or in a batch of one, the subscription ends with the same record; where it
has expired or used up its cap, a usage charge leaves it the same status, too. -/
structure RoutesAgree (env : Env) (s : State) (id : Nat) (key : Option BytesN32) (nonce : Nat) :
    Prop where
  record : ((VaultCall.batchOfOne id key nonce).exec.after env s).subscription id =
    ((VaultCall.chargeSubscription id key).exec.after env s).subscription id
  status : ∀ (sub : Subscription) (usage : VaultCall), s.effectiveSubscription id env.now = some sub →
    sub.isExpired env.now env.sequence = true ∨ sub.capReached = true →
    usage.usageOf = some id →
    ((usage.exec.after env s).subscription id).map (·.status) =
      (((VaultCall.chargeSubscription id key).exec.after env s).subscription id).map (·.status)

section Agreement

variable {env : Env} {s start : State} {hist : History Transaction State} {id nonce : Nat}
  {key : Option BytesN32} {sub : Subscription} {admin : Address}

/-- A refused usage charge leaves nothing behind. -/
theorem usage_after (hfound : s.effectiveSubscription id env.now = some sub)
    (hover : sub.isExpired env.now env.sequence = true ∨ sub.capReached = true)
    {usage : VaultCall} (husage : usage.usageOf = some id) : usage.exec.after env s = s := by
  have hrefused {name : LockName} {usageAmount : Int} {reference : Bytes} :
      (effectOf (guardedCall name (chargeUsageOne id usageAmount reference))).after env s = s := by
    apply after_of_not_ok
    intro t hcall
    obtain ⟨_, hcall⟩ := run_effectOf_ok.mp hcall
    obtain ⟨-, u, hinner, -⟩ := run_withLock_ok.mp (run_guardedCall_ok.mp hcall).2
    have hlocked : SameButCall s (s.write (.lock name) true) := .of_write _ _ rfl
    exact chargeUsageOne_refuses ((hlocked.effectiveSubscription id env.now).trans hfound) hover
      hinner
  cases usage
  case chargeUsage other usageAmount =>
    obtain rfl : other = id := Option.some.inj husage
    exact hrefused
  case chargeUsageWithReference other usageAmount reference =>
    obtain rfl : other = id := Option.some.inj husage
    exact hrefused
  all_goals cases husage

theorem routesAgree_of_stopped (hstopped : s.emergencyStop ≠ false) :
    RoutesAgree env s id key nonce := by
  have hsingle : (VaultCall.chargeSubscription id key).exec.after env s = s := by
    apply after_of_not_ok
    intro t hcall
    obtain ⟨_, hcall⟩ := run_effectOf_ok.mp hcall
    exact hstopped (run_guardedCall_ok.mp hcall).1
  have hbatch : (VaultCall.batchOfOne id key nonce).exec.after env s = s := by
    apply after_of_not_ok
    intro t hcall
    obtain ⟨_, hcall⟩ := run_effectOf_ok.mp hcall
    exact hstopped (run_guardedBatch_ok.mp hcall).1
  constructor
  · rw [hsingle, hbatch]
  · intro sub usage hfound hover husage
    rw [hsingle, usage_after hfound hover husage]

/-- In every state reached, and wherever a due charge can be logged, the routes agree exactly
when the charge has neither an expiry nor a cap that is used up to mark. -/
theorem routes_agree_iff (hdeployed : Deployed start) (hrun : Run Transacts start hist s)
    (hbatch : BatchAccepted env s admin nonce) (hready : LogReady env s id key) :
    RoutesAgree env s id key nonce ↔ ¬ExpiryPending env s id ∧ ¬CapPending env s id := by
  have hfree : s.Unlocked := unlocked_of_run hdeployed.unlocked hrun
  by_cases hrunning : s.emergencyStop = false
  · have hsingle : ((VaultCall.chargeSubscription id key).exec.after env s).subscription id =
        ((chargeOne id key none ∅).run env s).recordIfOk s id :=
      guardedCall_record (IgnoresCall.chargeOne id key) hrunning hfree
    have hone : ((VaultCall.batchOfOne id key nonce).exec.after env s).subscription id =
        ((chargeOne id key none ∅).run env s).recordUnlessTrap s id :=
      batchOfOne_record hrunning hfree hbatch
    constructor
    · intro h
      refine ⟨fun hpending => ?_, fun hpending => ?_⟩
      · obtain ⟨t, hcharge, hne⟩ : ∃ t, (chargeOne id key none ∅).run env s =
            .err .subscriptionExpired t ∧ t.subscription id ≠ s.subscription id :=
          chargeOne_of_expiryPending hpending
        have hsame := h.record
        rw [hone, hsingle, hcharge] at hsame
        exact hne hsame
      · obtain ⟨t, hcharge, hcancelled⟩ : ∃ t, (chargeOne id key none ∅).run env s =
            .ok .lifetimeCapReached t ∧ (t.subscription id).map (·.status) = some .cancelled :=
          chargeOne_of_capPending hpending
        obtain ⟨sub, _, hcleared, -, hcap, hstatus, -⟩ := hpending
        have hsame := h.status sub (.chargeUsage id 0) hcleared.found (.inr hcap) rfl
        rw [usage_after hcleared.found (.inr hcap) rfl, hsingle, hcharge] at hsame
        exact stored_status_ne hcleared.found hstatus (by decide) (hsame.trans hcancelled)
    · rintro ⟨hexpiry, hcapped⟩
      constructor
      · rw [hone, hsingle]
        cases hcharge : (chargeOne id key none ∅).run env s with
        | ok _ t => rfl
        | err e t => exact (chargeOne_err_record hready hcharge).resolve_right hexpiry
        | trap => rfl
      · intro sub usage hfound hover husage
        rw [usage_after hfound hover husage, hsingle]
        cases hcharge : (chargeOne id key none ∅).run env s with
        | ok _ t =>
          rcases hover with hexpired | hcap
          · have hopen := (cleared_of_run hfound hcharge).1.unexpired
            rw [hexpired] at hopen
            cases hopen
          · have hsame := (chargeOne_capped hfound hcap hcharge).resolve_right hcapped
            exact congrArg (Option.map _) hsame.symm
        | err e t => rfl
        | trap => rfl
  · refine iff_of_true (routesAgree_of_stopped hrunning) ⟨?_, ?_⟩
    · rintro ⟨_, hadmitted, -⟩
      exact hrunning hadmitted.running
    · rintro ⟨_, _, hcleared, -⟩
      exact hrunning hcleared.running

end Agreement

/-- Fifty units for a subscription of ten a minute. -/
private def dueCalls : List (Env × VaultCall) :=
  [(sampleEnv 0 [⟨2⟩], .depositFunds 0 50 none),
   (sampleEnv 0 [⟨2⟩], .createSubscription sampleRequest)]

private def dueVault : State := stateAfter (afterCalls (sampleVault 0)) dueCalls

private def dueRecord : Subscription :=
  { sampleRequest.record none 0 0 with prepaidBalance := 50 }

theorem routes_agree_when_due : RoutesAgree (sampleEnv 60 [⟨8⟩]) dueVault 0 none 0 := by
  have hrun := run_transactions (sample_transacted 0)
    (show allSucceed (afterCalls (sampleVault 0)) dueCalls = true by decide +kernel)
  have hstored : dueVault.effectiveSubscription 0 60 = some dueRecord := by decide +kernel
  have hread {sub : Subscription} (hfound : dueVault.effectiveSubscription 0 60 = some sub) :
      dueRecord = sub := Option.some.inj (hstored.symm.trans hfound)
  have hready : LogReady (sampleEnv 60 [⟨8⟩]) dueVault 0 none := by
    intro sub charge hdue _ hperiod
    obtain rfl := hread hdue.found
    have hpriced : dueVault.intervalAmount 0 60 dueRecord = .ok 10 := by decide +kernel
    have hamount : charge.amount = 10 := Except.ok.inj (hdue.priced.symm.trans hpriced)
    have hfresh : dueVault.read (.persistent (.billingPeriodSnapshot 0 charge.periodIndex)) =
        none := by
      rw [hperiod]
      decide +kernel
    have hnumber : dueVault.statementSequence 0 + 1 ≤ u32Max := by decide +kernel
    refine ⟨hnumber, ⟨charge.snapshot 0 60 dueRecord, ?_, ?_⟩, nofun⟩
    · exact congrArg (Option.elim · _ _) hfresh
    · right
      rw [BillingPeriodSnapshot.markEmpty_totalCharged]
      show 0 < charge.amount
      rw [hamount]
      decide
  have hbatch : BatchAccepted (sampleEnv 60 [⟨8⟩]) dueVault ⟨8⟩ 0 :=
    ⟨by decide +kernel, by decide, by decide, 1, by decide +kernel⟩
  have hiff := routes_agree_iff (sample_deployed 0) hrun hbatch hready
  refine hiff.mpr ⟨?_, ?_⟩
  · rintro ⟨sub, hadmitted, hexpired, -⟩
    obtain rfl := hread hadmitted.found
    exact absurd hexpired (by decide)
  · rintro ⟨sub, _, hcleared, -, hcap, -⟩
    obtain rfl := hread hcleared.found
    exact absurd hcap (by decide)

/-- The subscription ends after a minute. -/
private def endingCalls : List (Env × VaultCall) :=
  [(sampleEnv 0 [⟨2⟩], .createSubscription { sampleRequest with expiresAt := some 60 })]

/-- An expired subscription is marked by a batch and left active by a single charge. -/
theorem batch_alone_marks_expiry : ∃ start hist s, Deployed start ∧ Run Transacts start hist s ∧
    BatchAccepted (sampleEnv 61 [⟨8⟩]) s ⟨8⟩ 0 ∧
    (((VaultCall.chargeSubscription 0 none).exec.after (sampleEnv 61 [⟨8⟩]) s).subscription 0).map
      (·.status) = some .active ∧
    (((VaultCall.batchOfOne 0 none 0).exec.after (sampleEnv 61 [⟨8⟩]) s).subscription 0).map
      (·.status) = some .expired ∧
    ¬RoutesAgree (sampleEnv 61 [⟨8⟩]) s 0 none 0 := by
  have hrun := run_transactions (sample_transacted 0)
    (show allSucceed (afterCalls (sampleVault 0)) endingCalls = true by decide +kernel)
  have hsingle : (((VaultCall.chargeSubscription 0 none).exec.after (sampleEnv 61 [⟨8⟩])
      (stateAfter (afterCalls (sampleVault 0)) endingCalls)).subscription 0).map (·.status) =
        some .active := by
    decide +kernel
  have hbatch : (((VaultCall.batchOfOne 0 none 0).exec.after (sampleEnv 61 [⟨8⟩])
      (stateAfter (afterCalls (sampleVault 0)) endingCalls)).subscription 0).map (·.status) =
        some .expired := by
    decide +kernel
  refine ⟨_, _, _, sample_deployed 0, hrun,
    ⟨by decide +kernel, by decide, by decide, 1, by decide +kernel⟩, hsingle, hbatch, ?_⟩
  intro h
  have hsame := congrArg (Option.map Subscription.status) h.record
  rw [hsingle, hbatch] at hsame
  cases hsame

end SubscriptionVault
