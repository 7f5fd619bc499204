import SubscriptionVault.Lifecycle.BulkResults
import SubscriptionVault.Lifecycle.Prepaid

/-!
# Bulk calls

The admin or the operator pauses or cancels a list of subscriptions under the caller's nonce. A
pause reports on the whole list. A cancellation does unless a refund is turned down, and then
nothing of it happens.
-/

namespace SubscriptionVault

open Exec

/-! ## Effect of the reports -/

section Effect

variable {env : Env} {s t : State} {target : SubscriptionStatus}
  {apply : Nat → Subscription → Vault Unit} {id : Nat} {ids : List Nat}

/-- One listed subscription, without the report. -/
private def changeOne (target : SubscriptionStatus) (apply : Nat → Subscription → Vault Unit)
    (id : Nat) : Vault Unit := do
  let env ← ask
  let sub ← getSubscription id
  failIf (sub.isExpired env.now env.sequence) .subscriptionExpired
  when (sub.status ≠ target) (apply id sub)

/-- What a run makes of storage, whatever it returns. -/
private theorem run_effectOf_of_ok {α : Type} {x : Vault α} {a : α}
    (h : x.run env s = .ok a t) : (effectOf x).run env s = .ok () t :=
  run_effectOf_ok.mpr ⟨a, h⟩

private theorem run_changeOne (target : SubscriptionStatus)
    (apply : Nat → Subscription → Vault Unit) {sub : Subscription}
    (hfound : s.effectiveSubscription id env.now = some sub)
    (hlive : sub.isExpired env.now env.sequence = false) :
    (changeOne target apply id).run env s =
      (when (sub.status ≠ target) (apply id sub)).run env s := by
  have hget : (getSubscription id).run env s = .ok sub s :=
    run_getSubscription_ok.mpr ⟨hfound, rfl⟩
  refine (run_bind_of_ok (run_ask_ok.mpr ⟨rfl, rfl⟩)).trans ?_
  refine (run_bind_of_ok hget).trans ?_
  exact run_seq_of_ok (run_failIf_ok.mpr ⟨by simp [hlive], rfl⟩)

theorem bulkOne_effect : (effectOf (bulkOne target apply id)).run env s =
    (do
      let _ ← attempt (changeOne target apply id)
      pure () : Vault Unit).run env s := by
  have houtcome := bulkOne_outcome env s target apply id
  -- an error is caught, so only the state it leaves matters
  have hcaught {e : Error} {t : State} (h : (changeOne target apply id).run env s = .err e t) :
      (do
        let _ ← attempt (changeOne target apply id)
        pure () : Vault Unit).run env s = .ok () t := run_bind_of_ok (run_attempt_of_err h)
  have hdone {t : State} (h : (changeOne target apply id).run env s = .ok () t) :
      (do
        let _ ← attempt (changeOne target apply id)
        pure () : Vault Unit).run env s = .ok () t := run_bind_of_ok (run_attempt_of_ok h)
  generalize hreport : (bulkOne target apply id).run env s = o at houtcome
  cases houtcome with
  | missing hnone =>
    have hrun : (changeOne target apply id).run env s = .err .notFound s :=
      (run_bind_of_ok (run_ask_ok.mpr ⟨rfl, rfl⟩)).trans
        (run_bind_of_err (run_getSubscription_none hnone))
    exact (run_effectOf_of_ok hreport).trans (hcaught hrun).symm
  | expired hfound hexpired =>
    have hget := run_getSubscription_ok.mpr ⟨hfound, rfl⟩
    have hrun : (changeOne target apply id).run env s = .err .subscriptionExpired s :=
      (run_bind_of_ok (run_ask_ok.mpr ⟨rfl, rfl⟩)).trans
        ((run_bind_of_ok hget).trans (run_bind_of_err (run_failIf_err.mpr ⟨hexpired, rfl, rfl⟩)))
    exact (run_effectOf_of_ok hreport).trans (hcaught hrun).symm
  | skipped hfound hlive hthere =>
    have hrun : (changeOne target apply id).run env s = .ok () s := by
      rw [run_changeOne _ _ hfound hlive, Exec.when, if_neg (by simp [hthere])]
      rfl
    exact (run_effectOf_of_ok hreport).trans (hdone hrun).symm
  | refused hfound hlive hopen hfail =>
    have hrun := run_changeOne target apply hfound hlive
    rw [Exec.when, if_pos hopen, hfail] at hrun
    exact (run_effectOf_of_ok hreport).trans (hcaught hrun).symm
  | changed hfound hlive hopen happlied =>
    have hrun := run_changeOne target apply hfound hlive
    rw [Exec.when, if_pos hopen, happlied] at hrun
    exact (run_effectOf_of_ok hreport).trans (hdone hrun).symm
  | aborted hfound hlive hopen htrap =>
    have hrun := run_changeOne target apply hfound hlive
    rw [Exec.when, if_pos hopen, htrap] at hrun
    have hattempt : (attempt (changeOne target apply id)).run env s = .trap := by
      simp only [attempt, hrun]
    have heffect : (effectOf (bulkOne target apply id)).run env s = .trap :=
      run_bind_of_trap hreport
    exact heffect.trans (run_bind_of_trap hattempt).symm

theorem bulkReports_effect :
    (∃ results, (bulkReports (bulkOne target apply) ids).run env s = .ok results t) ↔
      (forEach ids fun id => do
        let _ ← attempt (changeOne target apply id)
        pure () : Vault Unit).run env s = .ok () t := by
  induction ids generalizing s with
  | nil =>
    rw [run_forEach_nil_ok]
    refine ⟨fun ⟨results, hrun⟩ => (run_pure_ok.mp hrun).2, ?_⟩
    rintro rfl
    exact ⟨[], run_pure_ok.mpr ⟨rfl, rfl⟩⟩
  | cons id ids ih =>
    rw [run_forEach_cons_ok]
    constructor
    · rintro ⟨results, hrun⟩
      obtain ⟨result, u, hone, hrun⟩ := run_bind_ok.mp hrun
      obtain ⟨later, v, hrest, hlast⟩ := run_bind_ok.mp hrun
      obtain ⟨-, rfl⟩ := run_pure_ok.mp hlast
      exact ⟨u, bulkOne_effect.symm.trans (run_effectOf_of_ok hone), ih.mp ⟨later, hrest⟩⟩
    · rintro ⟨u, hone, hrest⟩
      obtain ⟨result, hone⟩ := run_effectOf_ok.mp (bulkOne_effect.trans hone)
      obtain ⟨later, hrest⟩ := ih.mpr hrest
      refine ⟨result :: later, run_bind_ok.mpr ⟨_, _, hone, ?_⟩⟩
      exact run_bind_ok.mpr ⟨_, _, hrest, run_pure_ok.mpr ⟨rfl, rfl⟩⟩

private theorem bulkCall_effect {caller : Address} {nonce : Nat} :
    (∃ results, (bulkCall (bulkOne target apply) caller ids nonce).run env s = .ok results t) ↔
      (do
        let proceed ← bulkPrecheck caller ids nonce
        when proceed (forEach ids fun id => do
          let _ ← attempt (changeOne target apply id)
          pure ()) : Vault Unit).run env s = .ok () t := by
  constructor
  · rintro ⟨results, hrun⟩
    obtain ⟨proceed, u, hcheck, hrun⟩ := run_bind_ok.mp hrun
    refine run_bind_ok.mpr ⟨proceed, u, hcheck, run_when_ok.mpr ?_⟩
    split at hrun
    · rename_i hproceed
      exact .inl ⟨hproceed, bulkReports_effect.mp ⟨results, hrun⟩⟩
    · rename_i hproceed
      exact .inr ⟨hproceed, (run_pure_ok.mp hrun).2⟩
  · intro hrun
    obtain ⟨proceed, u, hcheck, hrun⟩ := run_bind_ok.mp hrun
    rcases run_when_ok.mp hrun with ⟨hproceed, hrest⟩ | ⟨hproceed, rfl⟩
    · obtain ⟨results, hrest⟩ := bulkReports_effect.mpr hrest
      refine ⟨results, run_bind_ok.mpr ⟨proceed, u, hcheck, ?_⟩⟩
      rw [if_pos hproceed]
      exact hrest
    · refine ⟨[], run_bind_ok.mpr ⟨proceed, u, hcheck, ?_⟩⟩
      rw [if_neg hproceed]
      exact run_pure_ok.mpr ⟨rfl, rfl⟩

theorem bulkCancel_exec {caller : Address} {nonce : Nat} :
    (VaultCall.bulkCancelSubscriptions caller ids nonce).exec.run env s = .ok () t ↔
      ∃ results, (bulkCancelWithResults caller ids nonce).run env s = .ok results t := by
  have hexec : (VaultCall.bulkCancelSubscriptions caller ids nonce).exec =
      withLock .bulkCancelSubscriptions (doBulkCancelSubscriptions caller ids nonce) := rfl
  unfold bulkCancelWithResults
  rw [hexec, run_withLock_ok]
  simp only [run_withLock_ok]
  constructor
  · rintro ⟨hfree, u, hbody, hafter⟩
    obtain ⟨results, hbody⟩ := bulkCall_effect.mpr hbody
    exact ⟨results, hfree, u, hbody, hafter⟩
  · rintro ⟨results, hfree, u, hbody, hafter⟩
    exact ⟨hfree, u, bulkCall_effect.mp ⟨results, hbody⟩, hafter⟩

end Effect

/-! ## Who may call -/

/-- `caller` has signed and is the admin or the operator. -/
structure MayRunBulk (env : Env) (s : State) (caller : Address) : Prop where
  signed : env.authorized caller = true
  outside : caller ≠ env.host.contract
  governed : s.admin.isSome = true
  office : s.admin = some caller ∨ s.operator = some caller

/-- The nonce `caller` gives with the next bulk call. -/
def State.bulkNonce (s : State) (caller : Address) : Nat := s.nonce caller .operatorBatchCharge

/-- The state in which a bulk call comes to its list. -/
def State.bulkBegun (s : State) (caller : Address) : State :=
  s.write (.persistent (.adminNonce caller NonceDomain.operatorBatchCharge.asU32))
    (s.bulkNonce caller + 1)

section Precheck

variable {env : Env} {s t : State} {caller : Address} {ids : List Nat}
  {results : List BulkSubscriptionResult} {one : Nat → Vault BulkSubscriptionResult}

theorem MayRunBulk.of_lock {name : LockName} (h : MayRunBulk env s caller) :
    MayRunBulk env (s.write (.lock name) true) caller := by
  have hadmin : State.admin (s.write (.lock name) true) = s.admin :=
    State.config_write_of_ne s true (by simp [configSlots])
  have hoperator : State.operator (s.write (.lock name) true) = s.operator :=
    State.config_write_of_ne s true (by simp [configSlots])
  exact ⟨h.signed, h.outside, hadmin ▸ h.governed, hadmin ▸ hoperator ▸ h.office⟩

theorem State.bulkNonce_lock {name : LockName} :
    State.bulkNonce (s.write (.lock name) true) caller = s.bulkNonce caller := by
  unfold State.bulkNonce State.nonce
  rw [FiniteStore.read_write_of_ne s true (by simp)]

theorem State.bulkBegun_areas :
    FiniteStore.AgreeOff (areas [.nonces]) s (s.bulkBegun caller) := s.agreeOff_write _ rfl

/-- The checks let a caller with its next nonce pass, as long as there is one after it. -/
theorem run_bulkPrecheck_ok {proceed : Bool} (hcaller : MayRunBulk env s caller)
    (hids : ids ≠ []) (hsize : ids.length ≤ batchMaxSize) :
    (bulkPrecheck caller ids (s.bulkNonce caller)).run env s = .ok proceed t ↔
      s.bulkNonce caller < u64Max ∧ proceed = true ∧ s.bulkBegun caller = t := by
  have hoffice : (requireAdminOrOperatorAuth caller).run env s = .ok () s :=
    run_requireAdminOrOperatorAuth_ok.mpr
      ⟨⟨⟨hcaller.signed, hcaller.outside⟩, hcaller.governed, hcaller.office⟩, rfl⟩
  have hfits : (failIf (batchMaxSize < ids.length) .batchTooLarge : Vault Unit).run env s =
      .ok () s := run_failIf_ok.mpr ⟨Nat.not_lt.mpr hsize, rfl⟩
  have hnonce (next : Nat) : computeNextNonce (s.bulkNonce caller) (s.bulkNonce caller) =
      .ok next ↔ s.bulkNonce caller < u64Max ∧ s.bulkNonce caller + 1 = next := by
    unfold computeNextNonce checkedAddU64
    by_cases hbelow : s.bulkNonce caller + 1 ≤ u64Max
    · simp [hbelow, Nat.lt_iff_add_one_le]
    · simp [hbelow, Nat.lt_iff_add_one_le]
  have hstart : (bulkPrecheck caller ids (s.bulkNonce caller)).run env s = (do
      checkAndAdvance caller .operatorBatchCharge (s.bulkNonce caller)
      pure true : Vault Bool).run env s := by
    refine (run_seq_of_ok hoffice).trans ((run_seq_of_ok hfits).trans ?_)
    rw [if_neg hids]
  rw [hstart]
  constructor
  · intro hrun
    obtain ⟨_, u, hadvance, hlast⟩ := run_bind_ok.mp hrun
    obtain ⟨rfl, rfl⟩ := run_pure_ok.mp hlast
    obtain ⟨next, hnext, rfl⟩ := run_checkAndAdvance_ok.mp hadvance
    obtain ⟨hbelow, rfl⟩ := (hnonce next).mp hnext
    exact ⟨hbelow, rfl, rfl⟩
  · rintro ⟨hbelow, rfl, rfl⟩
    have hadvance : (checkAndAdvance caller .operatorBatchCharge (s.bulkNonce caller)).run env s =
        .ok () (s.bulkBegun caller) :=
      run_checkAndAdvance_ok.mpr ⟨_, (hnonce _).mpr ⟨hbelow, rfl⟩, rfl⟩
    refine run_bind_ok.mpr ⟨(), _, hadvance, ?_⟩
    exact run_pure_ok.mpr ⟨rfl, rfl⟩

theorem run_bulkCall_ok (hcaller : MayRunBulk env s caller) (hids : ids ≠ [])
    (hsize : ids.length ≤ batchMaxSize) :
    (bulkCall one caller ids (s.bulkNonce caller)).run env s = .ok results t ↔
      s.bulkNonce caller < u64Max ∧
        (bulkReports one ids).run env (s.bulkBegun caller) = .ok results t := by
  constructor
  · intro hrun
    obtain ⟨proceed, u, hcheck, hrun⟩ := run_bind_ok.mp hrun
    obtain ⟨hbelow, rfl, rfl⟩ := (run_bulkPrecheck_ok hcaller hids hsize).mp hcheck
    exact ⟨hbelow, hrun⟩
  · rintro ⟨hbelow, hrun⟩
    have hcheck := (run_bulkPrecheck_ok hcaller hids hsize).mpr ⟨hbelow, rfl, rfl⟩
    exact run_bind_ok.mpr ⟨true, _, hcheck, hrun⟩

end Precheck

/-! ## What a bulk call should do -/

/-- The list is worked through entry by entry, each as a party to the subscription would have it,
and reported on in order. -/
structure BulkWorks (env : Env) (one : Nat → Vault BulkSubscriptionResult)
    (single : Nat → Address → Vault Unit) (ids : List Nat) (s : State)
    (results : List BulkSubscriptionResult) (t : State) : Prop where
  reported : results.map BulkSubscriptionResult.subscriptionId = ids
  entries : ∃ entries began ended, entries.map BulkEntry.id = ids ∧
    entries.map BulkEntry.result = results ∧
    FiniteStore.AgreeOff (areas [.nonces, .locks]) s began ∧
    WorksThrough env one began entries ended ∧
    FiniteStore.AgreeOff (areas [.nonces, .locks]) ended t ∧
    ∀ entry ∈ entries,
      (∀ party, MayAct env entry.before entry.id party →
        (single entry.id party).after (env.calledBy party) entry.before = entry.after) ∧
      (entry.result.success = false → entry.after = entry.before)
  once : ((results.filter (·.changed)).map BulkSubscriptionResult.subscriptionId).Nodup

/-- What the record of a subscription says is prepaid in this token. -/
def State.heldIn (s : State) (token : Address) (id : Nat) : Int :=
  (s.subscription id).elim 0 fun sub => if sub.token = token then sub.prepaidBalance else 0

/-- What of it is `holder`'s. -/
def State.heldFor (s : State) (token holder : Address) (id : Nat) : Int :=
  (s.subscription id).elim 0 fun sub =>
    if sub.token = token ∧ sub.subscriber = holder then sub.prepaidBalance else 0

/-- Every subscription reported as changed has had its prepaid balance paid out, and no other
tokens have moved. -/
def PaysBack (contract : Address) (s : State) (results : List BulkSubscriptionResult)
    (t : State) : Prop :=
  let changed := ((results.filter (·.changed)).map BulkSubscriptionResult.subscriptionId).toFinset
  ∀ token holder, t.balanceOf token holder =
    s.balanceOf token holder + ∑ id ∈ changed, s.heldFor token holder id -
      if holder = contract then ∑ id ∈ changed, s.heldIn token id else 0

/-- No subscription that would be cancelled has a negative balance. -/
def State.NoneInDebt (s : State) (env : Env) (ids : List Nat) : Prop :=
  ∀ id ∈ ids, ∀ sub, s.changeable env .cancelled id = some sub →
    sub.subscriber ≠ env.host.contract → 0 ≤ sub.prepaidBalance

section Works

variable {env : Env} {s t : State} {target : SubscriptionStatus}
  {apply : Nat → Subscription → Vault Unit} {entries : List BulkEntry} {ids : List Nat}

/-- The subscriptions reported as changed are those that could be changed at the start. -/
theorem WorksThrough.changed_iff (hchange : BulkChange target apply)
    (h : WorksThrough env (bulkOne target apply) s entries t) (j : Nat) :
    j ∈ (entries.filter (·.result.changed)).map BulkEntry.id ↔
      j ∈ entries.map BulkEntry.id ∧ s.changeable env target j ≠ none := by
  constructor
  · intro hmem
    obtain ⟨entry, hentry, rfl⟩ := List.mem_map.mp hmem
    obtain ⟨hentry, hchanged⟩ := List.mem_filter.mp hentry
    exact ⟨List.mem_map_of_mem hentry, h.changeable_of_changed hchange hentry hchanged⟩
  · rintro ⟨hmem, hsome⟩
    induction h with
    | done => cases hmem
    | @entry s u t id result rest hone _ ih =>
      by_cases hself : j = id
      · subst hself
        rcases (hchange.step hone).2 with ⟨hchanged, -⟩ | ⟨-, hnone, -⟩
        · exact List.mem_map.mpr ⟨_, List.mem_filter.mpr ⟨List.mem_cons_self, hchanged⟩, rfl⟩
        · exact absurd hnone hsome
      · have hlater : j ∈ rest.map BulkEntry.id := by simpa [hself] using hmem
        have hsome' : u.changeable env target j ≠ none := by
          rwa [hchange.changeable hone, if_neg hself]
        obtain ⟨entry, hentry, hid⟩ := List.mem_map.mp (ih hlater hsome')
        obtain ⟨hentry, hchanged⟩ := List.mem_filter.mp hentry
        exact List.mem_map.mpr
          ⟨entry, List.mem_filter.mpr ⟨List.mem_cons_of_mem _ hentry, hchanged⟩, hid⟩

theorem WorksThrough.changed_ids (hchange : BulkChange target apply)
    (h : WorksThrough env (bulkOne target apply) s entries t) :
    ((entries.map BulkEntry.result).filter (·.changed)).map BulkSubscriptionResult.subscriptionId =
      (entries.filter (·.result.changed)).map BulkEntry.id := by
  rw [List.filter_map, List.map_map]
  refine List.map_congr_left fun entry hentry => ?_
  exact (hchange.step (h.of_mem (List.mem_filter.mp hentry).1)).1

/-- A list that is worked through is worked through as it should be. -/
theorem WorksThrough.works {single : Nat → Address → Vault Unit} {began ended : State}
    (hchange : BulkChange target apply)
    (hsingle : ∀ {s t : State} {id : Nat} {result : BulkSubscriptionResult} {party : Address},
      MayAct env s id party → (bulkOne target apply id).run env s = .ok result t →
      (single id party).after (env.calledBy party) s = t)
    (hbegan : FiniteStore.AgreeOff (areas [.nonces, .locks]) s began)
    (h : WorksThrough env (bulkOne target apply) began entries ended)
    (hended : FiniteStore.AgreeOff (areas [.nonces, .locks]) ended t) :
    BulkWorks env (bulkOne target apply) single (entries.map BulkEntry.id) s
      (entries.map BulkEntry.result) t where
  reported := by
    rw [List.map_map]
    exact List.map_congr_left fun entry hentry => (hchange.step (h.of_mem hentry)).1
  entries := by
    refine ⟨entries, began, ended, rfl, rfl, hbegan, h, hended, fun entry hentry => ?_⟩
    refine ⟨fun party hmay => hsingle hmay (h.of_mem hentry), fun hfailed => ?_⟩
    refine hchange.after_of_unchanged h hentry (Bool.eq_false_iff.mpr fun hchanged => ?_)
    rcases (hchange.step (h.of_mem hentry)).2 with ⟨-, hdone, -⟩ | ⟨hkept, -⟩
    · cases hdone.symm.trans hfailed
    · cases hkept.symm.trans hchanged
  once := by
    rw [h.changed_ids hchange]
    exact h.changed_nodup hchange

/-- Nonces and locks do not matter for what can be changed. -/
theorem State.changeable_of_quiet (h : FiniteStore.AgreeOff (areas [.nonces, .locks]) s t)
    (id : Nat) : t.changeable env target id = s.changeable env target id := by
  have hsub : t.subscription id = s.subscription id :=
    State.read_of_areas (k := .persistent (.sub id)) h rfl
  exact State.changeable_congr hsub (State.gracePeriod_of_areas h rfl rfl)

theorem State.refundsGoThrough_of_quiet
    (h : FiniteStore.AgreeOff (areas [.nonces, .locks]) s t) :
    t.RefundsGoThrough env ids ↔ s.RefundsGoThrough env ids := by
  have hbalances : t.balanceOf = s.balanceOf := State.balanceOf_of_areas h rfl
  unfold State.RefundsGoThrough State.balanceAfterRefunds State.refundTo State.refund
  simp only [hbalances, State.changeable_of_quiet h]

theorem State.noneInDebt_of_quiet (h : FiniteStore.AgreeOff (areas [.nonces, .locks]) s t) :
    t.NoneInDebt env ids ↔ s.NoneInDebt env ids := by
  unfold State.NoneInDebt
  simp only [State.changeable_of_quiet h]

theorem paysBack_of_quiet {contract : Address} {results : List BulkSubscriptionResult}
    {began ended : State} (hbegan : FiniteStore.AgreeOff (areas [.nonces, .locks]) s began)
    (hended : FiniteStore.AgreeOff (areas [.nonces, .locks]) ended t) :
    PaysBack contract s results t ↔ PaysBack contract began results ended := by
  have hbefore : began.balanceOf = s.balanceOf := State.balanceOf_of_areas hbegan rfl
  have hafter : t.balanceOf = ended.balanceOf := State.balanceOf_of_areas hended rfl
  have hsub (id : Nat) : began.subscription id = s.subscription id :=
    State.read_of_areas (k := .persistent (.sub id)) hbegan rfl
  unfold PaysBack State.heldFor State.heldIn
  simp only [hbefore, hafter, hsub]

end Works

/-! ## What a cancellation pays -/

section Pays

variable {env : Env} {s t : State} {entries : List BulkEntry} {id : Nat} {sub : Subscription}

/-- The record of a subscription that could be cancelled has its balance and its parties. -/
theorem State.changeable_stored {target : SubscriptionStatus}
    (h : s.changeable env target id = some sub) : ∃ stored, s.subscription id = some stored ∧
      stored.token = sub.token ∧ stored.subscriber = sub.subscriber ∧
      stored.prepaidBalance = sub.prepaidBalance := by
  obtain ⟨hfound, -⟩ := State.changeable_eq_some.mp h
  obtain ⟨stored, hstored, hsame⟩ := State.effectiveSubscription_eq_some hfound
  exact ⟨stored, hstored, (congrArg Subscription.token hsame).symm,
    (congrArg Subscription.subscriber hsame).symm,
    (congrArg Subscription.prepaidBalance hsame).symm⟩

/-- What is paid out for it, and what the record says. -/
theorem State.refunds_of_changeable (h : s.changeable env .cancelled id = some sub)
    (token holder : Address) :
    (s.refund env token id = if sub.token = token then max sub.prepaidBalance 0 else 0) ∧
    (s.refundTo env token holder id =
      if sub.token = token ∧ sub.subscriber = holder then max sub.prepaidBalance 0 else 0) ∧
    (s.heldIn token id = if sub.token = token then sub.prepaidBalance else 0) ∧
    (s.heldFor token holder id =
      if sub.token = token ∧ sub.subscriber = holder then sub.prepaidBalance else 0) := by
  obtain ⟨stored, hstored, htoken, hsubscriber, hbalance⟩ := State.changeable_stored h
  unfold State.refund State.refundTo State.heldIn State.heldFor
  rw [h, hstored]
  simp only [Option.elim_some, htoken, hsubscriber, hbalance]
  exact ⟨trivial, trivial, trivial, trivial⟩

/-- The records' balances are paid out unless one of them is negative. -/
theorem WorksThrough.paysBack_iff (h : WorksThrough env bulkCancelReport s entries t) :
    PaysBack env.host.contract s (entries.map BulkEntry.result) t ↔
      s.NoneInDebt env (entries.map BulkEntry.id) := by
  let changed := ((entries.filter (·.result.changed)).map BulkEntry.id).toFinset
  have hchanged (j : Nat) : j ∈ changed ↔
      j ∈ entries.map BulkEntry.id ∧ s.changeable env .cancelled j ≠ none :=
    List.mem_toFinset.trans (h.changed_iff applyCancellation_bulk j)
  have hsome (j : Nat) (hj : j ∈ changed) :
      ∃ sub, s.changeable env .cancelled j = some sub :=
    Option.ne_none_iff_exists'.mp ((hchanged j).mp hj).2
  -- what cannot be cancelled is refunded nothing
  have hlisted (f : Nat → Int) (hf : ∀ j, s.changeable env .cancelled j = none → f j = 0) :
      ∑ j ∈ (entries.map BulkEntry.id).toFinset, f j = ∑ j ∈ changed, f j := by
    refine (Finset.sum_subset (fun j hj => ?_) fun j hj hkept => hf j ?_).symm
    · exact List.mem_toFinset.mpr ((hchanged j).mp hj).1
    · by_contra hopen
      exact hkept ((hchanged j).mpr ⟨List.mem_toFinset.mp hj, hopen⟩)
  have hpaid (token holder : Address) : t.balanceOf token holder =
      s.balanceOf token holder + ∑ j ∈ changed, s.refundTo env token holder j -
        if holder = env.host.contract then ∑ j ∈ changed, s.refund env token j else 0 := by
    rw [h.balances token holder, State.balanceAfterRefunds, hlisted, hlisted]
    · intro j hnone
      rw [State.refund, hnone, Option.elim_none]
    · intro j hnone
      rw [State.refundTo, hnone, Option.elim_none]
  unfold PaysBack
  rw [h.changed_ids applyCancellation_bulk]
  change (∀ token holder, t.balanceOf token holder =
    s.balanceOf token holder + ∑ j ∈ changed, s.heldFor token holder j -
      if holder = env.host.contract then ∑ j ∈ changed, s.heldIn token j else 0) ↔ _
  constructor
  · intro hback id hid sub hsub houtside
    by_contra hdebt
    have hequal := (hpaid sub.token sub.subscriber).symm.trans (hback sub.token sub.subscriber)
    rw [if_neg houtside, if_neg houtside] at hequal
    have hmore : ∑ j ∈ changed, s.heldFor sub.token sub.subscriber j <
        ∑ j ∈ changed, s.refundTo env sub.token sub.subscriber j := by
      refine Finset.sum_lt_sum (fun j hj => ?_) ⟨id, ?_, ?_⟩
      · obtain ⟨other, hother⟩ := hsome j hj
        obtain ⟨-, hto, -, hof⟩ := State.refunds_of_changeable hother sub.token sub.subscriber
        rw [hto, hof]
        split
        · exact le_max_left _ _
        · exact le_refl 0
      · exact (hchanged id).mpr ⟨hid, by simp [hsub]⟩
      · obtain ⟨-, hto, -, hof⟩ := State.refunds_of_changeable hsub sub.token sub.subscriber
        rw [hto, hof, if_pos ⟨rfl, rfl⟩, if_pos ⟨rfl, rfl⟩]
        omega
    omega
  · intro hfunded token holder
    rw [hpaid token holder]
    by_cases hself : holder = env.host.contract
    · have hnet : ∑ j ∈ changed, (s.refundTo env token holder j - s.refund env token j) =
          ∑ j ∈ changed, (s.heldFor token holder j - s.heldIn token j) := by
        refine Finset.sum_congr rfl fun j hj => ?_
        obtain ⟨sub, hsub⟩ := hsome j hj
        obtain ⟨hpay, hto, hin, hof⟩ := State.refunds_of_changeable hsub token holder
        rw [hpay, hto, hin, hof]
        by_cases hparty : sub.subscriber = holder
        · simp [hparty]
        · have hcredit := hfunded j ((hchanged j).mp hj).1 sub hsub (hself ▸ hparty)
          rw [max_eq_left hcredit]
      rw [Finset.sum_sub_distrib, Finset.sum_sub_distrib] at hnet
      rw [if_pos hself, if_pos hself]
      omega
    · have hsame : ∑ j ∈ changed, s.refundTo env token holder j =
          ∑ j ∈ changed, s.heldFor token holder j := by
        refine Finset.sum_congr rfl fun j hj => ?_
        obtain ⟨sub, hsub⟩ := hsome j hj
        obtain ⟨-, hto, -, hof⟩ := State.refunds_of_changeable hsub token holder
        rw [hto, hof]
        split
        · rename_i hparty
          have houtside : sub.subscriber ≠ env.host.contract := fun heq =>
            hself (hparty.2.symm.trans heq)
          exact max_eq_left (hfunded j ((hchanged j).mp hj).1 sub hsub houtside)
        · rfl
      rw [if_neg hself, if_neg hself, hsame]

/-- Without restored snapshots no subscription is in debt. -/
theorem noneInDebt_of_run {start : State} {hist : History Transaction State} {ids : List Nat}
    (hdeployed : Deployed start) (hrun : Run Transacts start hist s)
    (hrestore : ∀ step ∈ hist, step.1.isRestore = false) : s.NoneInDebt env ids := by
  intro id _ sub hsub _
  obtain ⟨stored, hstored, -, -, hbalance⟩ := State.changeable_stored hsub
  exact hbalance ▸ (funded_of_run hdeployed hrun hrestore).1 id stored hstored

end Pays

/-! ## When bulk calls do it -/

theorem bulkReports_pause_returns (env : Env) (s : State) (ids : List Nat) :
    ∃ results t, (bulkReports bulkPauseReport ids).run env s = .ok results t := by
  induction ids generalizing s with
  | nil => exact ⟨[], s, run_pure_ok.mpr ⟨rfl, rfl⟩⟩
  | cons id ids ih =>
    have hone : ∃ result u, (bulkPauseReport id).run env s = .ok result u := by
      have houtcome := bulkOne_outcome env s .paused applyPause id
      unfold bulkPauseReport
      generalize (bulkOne .paused applyPause id).run env s = o at houtcome
      cases houtcome with
      | missing | expired | skipped | refused | changed => exact ⟨_, _, rfl⟩
      | aborted _ _ _ htrap => exact absurd htrap applyPause_returns
    obtain ⟨result, u, hone⟩ := hone
    obtain ⟨results, t, hrest⟩ := ih u
    refine ⟨result :: results, t, run_bind_ok.mpr ⟨_, _, hone, ?_⟩⟩
    exact run_bind_ok.mpr ⟨_, _, hrest, run_pure_ok.mpr ⟨rfl, rfl⟩⟩

private theorem agreeOff_bulkBegun {s : State} {caller : Address} :
    FiniteStore.AgreeOff (areas [.nonces, .locks]) s (s.bulkBegun caller) :=
  State.bulkBegun_areas.mono (areas_mono rfl)

theorem bulkPause_works_iff {env : Env} {s : State} {caller : Address}
    (hcaller : MayRunBulk env s caller) {ids : List Nat} (hids : ids ≠ [])
    (hsize : ids.length ≤ batchMaxSize) :
    (∃ results t,
      (bulkPauseWithResults caller ids (s.bulkNonce caller)).run env s = .ok results t ∧
        BulkWorks env bulkPauseReport doPauseSubscription ids s results t) ↔
      s.bulkNonce caller < u64Max := by
  unfold bulkPauseWithResults
  constructor
  · rintro ⟨results, t, hrun, -⟩
    exact ((run_bulkCall_ok hcaller hids hsize).mp hrun).1
  · intro hbelow
    obtain ⟨results, t, hreports⟩ := bulkReports_pause_returns env (s.bulkBegun caller) ids
    obtain ⟨entries, rfl, rfl, hworks⟩ := run_bulkReports_ok.mp hreports
    refine ⟨_, t, (run_bulkCall_ok hcaller hids hsize).mpr ⟨hbelow, hreports⟩, ?_⟩
    exact hworks.works applyPause_bulk bulkPause_single agreeOff_bulkBegun (Std.Refl.refl t)

theorem bulkCancel_works_iff {env : Env} {s : State} {caller : Address} (hfree : s.Unlocked)
    (hcaller : MayRunBulk env s caller) {ids : List Nat} (hids : ids ≠ [])
    (hsize : ids.length ≤ batchMaxSize) :
    (∃ results t,
      (bulkCancelWithResults caller ids (s.bulkNonce caller)).run env s = .ok results t ∧
        BulkWorks env bulkCancelReport doCancelSubscription ids s results t ∧
        PaysBack env.host.contract s results t) ↔
      s.bulkNonce caller < u64Max ∧ s.RefundsGoThrough env ids ∧ s.NoneInDebt env ids := by
  let locked : State := s.write (.lock .bulkCancelSubscriptions) true
  have hnonce : locked.bulkNonce caller = s.bulkNonce caller := State.bulkNonce_lock
  have hlocked : FiniteStore.AgreeOff (areas [.nonces, .locks]) s locked :=
    s.agreeOff_write true rfl
  have hbegan : FiniteStore.AgreeOff (areas [.nonces, .locks]) s (locked.bulkBegun caller) :=
    hlocked.trans agreeOff_bulkBegun
  have hdropped (u : State) : FiniteStore.AgreeOff (areas [.nonces, .locks]) u
      (u.remove (.lock .bulkCancelSubscriptions)) := u.agreeOff_remove rfl
  have hcall {results : List BulkSubscriptionResult} {u : State} :
      (bulkCall bulkCancelReport caller ids (s.bulkNonce caller)).run env locked =
        .ok results u ↔ s.bulkNonce caller < u64Max ∧
          (bulkReports bulkCancelReport ids).run env (locked.bulkBegun caller) = .ok results u := by
    rw [← hnonce]
    exact run_bulkCall_ok hcaller.of_lock hids hsize
  constructor
  · rintro ⟨results, t, hrun, -, hpays⟩
    obtain ⟨-, u, hbody, rfl⟩ := run_withLock_ok.mp hrun
    obtain ⟨hbelow, hreports⟩ := hcall.mp hbody
    have hrefunds := bulkReports_cancel_iff.mp ⟨results, u, hreports⟩
    obtain ⟨entries, rfl, rfl, hworks⟩ := run_bulkReports_ok.mp hreports
    have hpaid := (paysBack_of_quiet hbegan (hdropped u)).mp hpays
    exact ⟨hbelow, (State.refundsGoThrough_of_quiet hbegan).mp hrefunds,
      (State.noneInDebt_of_quiet hbegan).mp (hworks.paysBack_iff.mp hpaid)⟩
  · rintro ⟨hbelow, hrefunds, hfunded⟩
    obtain ⟨results, u, hreports⟩ :=
      bulkReports_cancel_iff.mpr ((State.refundsGoThrough_of_quiet hbegan).mpr hrefunds)
    obtain ⟨entries, rfl, rfl, hworks⟩ := run_bulkReports_ok.mp hreports
    have hpaid := hworks.paysBack_iff.mpr ((State.noneInDebt_of_quiet hbegan).mpr hfunded)
    refine ⟨_, _, run_withLock_ok.mpr ⟨hfree _, u, hcall.mpr ⟨hbelow, hreports⟩, rfl⟩, ?_, ?_⟩
    · exact hworks.works applyCancellation_bulk bulkCancel_single hbegan (hdropped u)
    · exact (paysBack_of_quiet hbegan (hdropped u)).mpr hpaid

/-- In every state a deployment can reach, a bulk pause does what it should whenever there is a
next nonce. A bulk cancellation does so just when, besides, every refund goes through and no
listed subscription is in debt. -/
theorem bulk_calls_work_iff {start s : State} {hist : History Transaction State}
    (hdeployed : Deployed start) (hrun : Run Transacts start hist s) {env : Env}
    {caller : Address} (hcaller : MayRunBulk env s caller) {ids : List Nat} (hids : ids ≠ [])
    (hsize : ids.length ≤ batchMaxSize) :
    ((∃ results t,
      (bulkPauseWithResults caller ids (s.bulkNonce caller)).run env s = .ok results t ∧
        BulkWorks env bulkPauseReport doPauseSubscription ids s results t) ↔
      s.bulkNonce caller < u64Max) ∧
    ((∃ results t,
      (bulkCancelWithResults caller ids (s.bulkNonce caller)).run env s = .ok results t ∧
        BulkWorks env bulkCancelReport doCancelSubscription ids s results t ∧
        PaysBack env.host.contract s results t) ↔
      s.bulkNonce caller < u64Max ∧ s.RefundsGoThrough env ids ∧ s.NoneInDebt env ids) :=
  ⟨bulkPause_works_iff hcaller hids hsize,
    bulkCancel_works_iff (unlocked_of_run hdeployed.unlocked hrun) hcaller hids hsize⟩

/-- Two subscriptions, one of them funded. -/
private def beforeBulk : List (Env × VaultCall) :=
  [(sampleEnv 1 [⟨2⟩], .depositFunds 1 50 none),
   (sampleEnv 0 [⟨2⟩], .createSubscription sampleRequest),
   (sampleEnv 0 [⟨2⟩], .createSubscription sampleRequest)]

/-- The merchant has charged once more and taken the tokens, which the vault needs for the
prepaid balance. -/
private def spentBulk : List (Env × VaultCall) :=
  [(sampleEnv 3 [⟨1⟩], .withdrawMerchantFunds ⟨1⟩ 20),
   (sampleEnv 2 [⟨1⟩], .chargeOneOff 1 ⟨1⟩ 20 none)] ++ beforeBulk

theorem bulk_calls_work_listed : ∃ start s hist, Deployed start ∧ Run Transacts start hist s ∧
    (∃ results t, (bulkPauseWithResults ⟨8⟩ [0, 7, 1, 0] (s.bulkNonce ⟨8⟩)).run
        (sampleEnv 10 [⟨8⟩]) s = .ok results t ∧
      BulkWorks (sampleEnv 10 [⟨8⟩]) bulkPauseReport doPauseSubscription [0, 7, 1, 0] s
        results t) ∧
    ∃ results t, (bulkCancelWithResults ⟨8⟩ [0, 7, 1, 0] (s.bulkNonce ⟨8⟩)).run
        (sampleEnv 10 [⟨8⟩]) s = .ok results t ∧
      BulkWorks (sampleEnv 10 [⟨8⟩]) bulkCancelReport doCancelSubscription [0, 7, 1, 0] s
        results t ∧
      PaysBack ⟨0⟩ s results t := by
  have hrun := run_transactions (sample_transacted 3600)
    (show allSucceed (afterCalls (sampleVault 3600)) beforeBulk = true by decide +kernel)
  have hadmin : (stateAfter (afterCalls (sampleVault 3600)) beforeBulk).admin = some ⟨8⟩ := by
    decide +kernel
  have hcaller : MayRunBulk (sampleEnv 10 [⟨8⟩])
      (stateAfter (afterCalls (sampleVault 3600)) beforeBulk) ⟨8⟩ :=
    ⟨by decide, by decide, Option.isSome_of_eq_some hadmin, .inl hadmin⟩
  have hnonce : (stateAfter (afterCalls (sampleVault 3600)) beforeBulk).bulkNonce ⟨8⟩ = 0 := by
    decide +kernel
  have hbelow : (stateAfter (afterCalls (sampleVault 3600)) beforeBulk).bulkNonce ⟨8⟩ < u64Max := by
    rw [hnonce]
    decide
  have hrefunds : (stateAfter (afterCalls (sampleVault 3600)) beforeBulk).RefundsGoThrough
      (sampleEnv 10 [⟨8⟩]) [0, 7, 1, 0] := by
    refine bulkReports_cancel_iff.mp
      ⟨[bulkChanged 0, bulkFailed 7 .notFound, bulkChanged 1, bulkSkipped 0], ?_⟩
    exact run_of_returns (by decide +kernel)
  have hfunded : (stateAfter (afterCalls (sampleVault 3600)) beforeBulk).NoneInDebt
      (sampleEnv 10 [⟨8⟩]) [0, 7, 1, 0] := by
    refine noneInDebt_of_run (sample_deployed 3600) hrun fun step hmem => ?_
    simp only [beforeBulk, transactionHistory, List.cons_append, List.nil_append, List.mem_cons,
      List.not_mem_nil, or_false] at hmem
    rcases hmem with rfl | rfl | rfl | rfl <;> rfl
  have hlisted : [0, 7, 1, 0] ≠ [] := by simp
  obtain ⟨hpauses, hcancels⟩ :=
    bulk_calls_work_iff (sample_deployed 3600) hrun hcaller hlisted (by decide)
  exact ⟨_, _, _, sample_deployed 3600, hrun, hpauses.mpr hbelow,
    hcancels.mpr ⟨hbelow, hrefunds, hfunded⟩⟩

/-- A vault short of tokens: the operator's list ends at the refund that does not go through, and
the subscription before it stays as it was. -/
theorem bulk_cancel_aborts : ∃ start s hist, Deployed start ∧ Run Transacts start hist s ∧
    MayRunBulk (sampleEnv 10 [⟨8⟩]) s ⟨8⟩ ∧ s.bulkNonce ⟨8⟩ = 0 ∧
    ¬∃ results t, (bulkCancelWithResults ⟨8⟩ [0, 1] 0).run (sampleEnv 10 [⟨8⟩]) s =
      .ok results t := by
  have hrun := run_transactions (sample_transacted 3600)
    (show allSucceed (afterCalls (sampleVault 3600)) spentBulk = true by decide +kernel)
  have hadmin : (stateAfter (afterCalls (sampleVault 3600)) spentBulk).admin = some ⟨8⟩ := by
    decide +kernel
  have hfails : (VaultCall.bulkCancelSubscriptions ⟨8⟩ [0, 1] 0).exec.succeeds
      (sampleEnv 10 [⟨8⟩]) (stateAfter (afterCalls (sampleVault 3600)) spentBulk) = false := by
    decide +kernel
  refine ⟨_, _, _, sample_deployed 3600, hrun,
    ⟨by decide, by decide, Option.isSome_of_eq_some hadmin, .inl hadmin⟩, by decide +kernel, ?_⟩
  rintro ⟨results, t, hok⟩
  unfold Exec.succeeds at hfails
  rw [bulkCancel_exec.mpr ⟨results, hok⟩] at hfails
  cases hfails

end SubscriptionVault
