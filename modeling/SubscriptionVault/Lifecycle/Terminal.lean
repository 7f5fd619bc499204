import SubscriptionVault.Lifecycle.OneRecord

/-!
# Finished subscriptions

A subscription that is cancelled, expired or archived stays finished: the only change left is
into the archive, and nothing charges it. The exception is a new subscription created under its
number. Numbers are not reused by themselves, but a restore puts records under numbers that the
counter of the persistent tier has not reached.
-/

namespace SubscriptionVault

open Exec

/-- The operation puts no other subscription in the place of `id`. -/
def Operation.Spares (s : State) (id : Nat) : Operation → Prop
  | .create => s.nextSubscriptionId ≠ id
  | .restore _ => False
  | _ => True

/-- What remains of a finished subscription. -/
def Book.Finished (b : Book) (id : Nat) (sub : Subscription) : Prop :=
  ∃ new, b.record id = some new ∧ new.status.isTerminal = true ∧
    (new.status = sub.status ∨ new.status = .archived) ∧
    new.lifetimeCharged = sub.lifetimeCharged

theorem Book.Reads.of_terminal {b : Book} {id : Nat} {stored sub : Subscription}
    (h : b.Reads id sub) (hstored : b.record id = some stored)
    (hterminal : stored.status.isTerminal = true) : sub = stored := by
  obtain ⟨stored', hstored', hsub⟩ := h
  rw [hstored] at hstored'
  obtain rfl := Option.some.inj hstored'
  rcases hsub with hsub | ⟨hgrace, -⟩
  · exact hsub
  · rw [hgrace] at hterminal
    cases hterminal

section Steps

variable {env : Env} {s t : State} {id : Nat} {sub : Subscription}

theorem finished_of_step {l : VaultAction} (h : s.book.Finished id sub) (hstep : VaultStep l s t)
    (hspares : l.operation.Spares s id) : t.book.Finished id sub := by
  obtain ⟨now, hnow, hterminal, hstatus, hlifetime⟩ := h
  have hview := hstep.view id
  generalize l.operation = op at hview hspares
  cases hview with
  | kept hsame =>
    exact ⟨now, hsame.record.trans hnow, hterminal, hstatus, hlifetime⟩
  | adjusted hreads hadjusted hnew _ =>
    obtain rfl := hreads.of_terminal hnow hterminal
    obtain ⟨hafter, hcharged⟩ := hadjusted.final hterminal
    rcases hafter with hafter | hafter
    · exact ⟨_, hnew, hafter ▸ hterminal, hafter ▸ hstatus, hcharged.trans hlifetime⟩
    · exact ⟨_, hnew, hafter ▸ rfl, .inr hafter, hcharged.trans hlifetime⟩
  | charged hreads hchargeable _ _ _ _ _ _ _ =>
    obtain rfl := hreads.of_terminal hnow hterminal
    rcases hchargeable with h | h | h <;> rw [h] at hterminal <;> cases hterminal
  | replanned _ hreads hchanged hnew _ =>
    obtain rfl := hreads.of_terminal hnow hterminal
    subst hchanged
    exact ⟨_, hnew, hterminal, hstatus, hlifetime⟩
  | created hid _ _ _ _ _ _ =>
    exact absurd hid.symm hspares
  | restored _ _ _ _ =>
    exact hspares.elim

/-! ## Charges -/

theorem effective_of_terminal (hsub : s.subscription id = some sub)
    (hterminal : sub.status.isTerminal = true) (now : Nat) :
    s.effectiveSubscription id now = some sub := by
  unfold State.effectiveSubscription
  rw [hsub, Option.map_some, if_neg]
  rintro ⟨hgrace, -⟩
  rw [hgrace] at hterminal
  cases hterminal

theorem failIfExpired_unchanged {e : Error} (hterminal : sub.status.isTerminal = true)
    (hrun : (failIfExpired id sub).run env s = .err e t) : t = s := by
  simp only [failIfExpired, run_bind_err, run_ask_err, run_ask_ok, false_or, run_when_err,
    run_when_ok, run_lift_err, run_bind_ok, run_lift_ok, transitionTo_ok, writeSubscription,
    run_store_err, run_store_ok, and_false, exists_false, or_false, run_fail_err] at hrun
  obtain ⟨_, _, ⟨rfl, rfl⟩, -, ⟨-, -, rfl⟩ | ⟨_, _, hmark, -, rfl⟩⟩ := hrun
  · rfl
  · rcases hmark with ⟨hother, _, _, ⟨⟨hcan, -⟩, -⟩, -⟩ | ⟨-, rfl⟩
    · have := archived_of_terminal hcan hother hterminal
      cases this
    · rfl

/-- An attempt to charge a finished subscription leaves no trace. -/
theorem chargeOne_unchanged (env : Env) (hsub : s.subscription id = some sub)
    (hterminal : sub.status.isTerminal = true) (key : Option BytesN32) :
    ((chargeOne id key none ∅).run env s).Leaves (s = ·) := by
  have hfound := effective_of_terminal hsub hterminal env.now
  have hsame {other : Subscription} (h : s.effectiveSubscription id env.now = some other) :
      other = sub := Option.some.inj (h.symm.trans hfound)
  have hnever {status : SubscriptionStatus} (hcan : canTransition sub.status status = true)
      (hother : sub.status ≠ status) (hlive : status ≠ .archived) : False :=
    hlive (archived_of_terminal hcan hother hterminal)
  have hidle {other : Subscription} {amount : Int} {next : Nat}
      (h : DueCharge env s id key other amount next) : False := by
    obtain rfl := hsame h.found
    rcases h.chargeable with h | h | h <;> rw [h] at hterminal <;> cases hterminal
  have houtcome := chargeOne_outcome env s id key
  generalize (chargeOne id key none ∅).run env s = outcome at houtcome ⊢
  cases houtcome with
  | trap => trivial
  | refused e => rfl
  | expired hadmitted hrun =>
    obtain rfl := hsame hadmitted.found
    exact (failIfExpired_unchanged hterminal hrun).symm
  | idle => rfl
  | capped hclear hother _ hrun =>
    obtain rfl := hsame hclear.found
    exact (hnever (cancelCapped_book hrun).1 hother (by simp)).elim
  | cancelled hclear hother _ hrun =>
    obtain rfl := hsame hclear.found
    exact (hnever (fireScheduledCancellation_book hother hrun).1 hother (by simp)).elim
  | short hdue _ _ => exact (hidle hdue).elim
  | settled hdue _ _ _ _ => exact (hidle hdue).elim
  | unsettled hdue _ _ _ _ => exact (hidle hdue).elim

theorem chargeUsageOne_fails (hsub : s.subscription id = some sub)
    (hterminal : sub.status.isTerminal = true) {usageAmount : Int} {reference : Bytes}
    {result : UsageChargeResult}
    (hrun : (chargeUsageOne id usageAmount reference).run env s = .ok result t) : False := by
  obtain ⟨_, -, hrun⟩ := run_check_ok Modifies.requireNotEmergencyStop hrun
  obtain ⟨other, hget, hrun⟩ := run_check_ok (Modifies.getSubscription id) hrun
  obtain rfl : sub = other := Option.some.inj
    ((effective_of_terminal hsub hterminal env.now).symm.trans (run_getSubscription_ok.mp hget).1)
  obtain ⟨_, -, hrun⟩ := run_check_ok (Modifies.checkMerchantStatus _ _) hrun
  obtain ⟨_, -, hrun⟩ := run_check_ok (Modifies.requireNotBlocklisted _) hrun
  obtain ⟨_, -, hrun⟩ := run_check_ok (Modifies.requireNotBlocklisted _) hrun
  obtain ⟨_, -, hrun⟩ := run_check_ok (Modifies.checkSplitPayees id) hrun
  obtain ⟨-, hrun⟩ := run_unexpired_ok hrun
  obtain ⟨_, -, hrun⟩ := run_check_ok .ask hrun
  obtain ⟨_, s₁, -, hrun⟩ := run_bind_ok.mp hrun
  obtain ⟨_, hactive, -⟩ := run_check_ok (.failIf _ _) hrun
  have hactive : sub.status = .active := by simpa using (run_failIf_ok.mp hactive).1
  rw [hactive] at hterminal
  cases hterminal

/-- Only the replay of an earlier charge succeeds. -/
theorem doChargeOneOff_unchanged (hsub : s.subscription id = some sub)
    (hterminal : sub.status.isTerminal = true) {merchant : Address} {amount : Int}
    {key : Option BytesN32} {u : Unit}
    (hrun : (doChargeOneOff id merchant amount key).run env s = .ok u t) : s = t := by
  obtain ⟨_, -, hrun⟩ := run_check_ok .ask hrun
  obtain ⟨_, -, hrun⟩ := run_check_ok (Modifies.requireAuth _) hrun
  obtain ⟨other, -, hfound, hrun⟩ := run_read_ok hrun
  obtain rfl : sub = other := Option.some.inj
    ((effective_of_terminal hsub hterminal env.now).symm.trans hfound)
  obtain ⟨_, -, hrun⟩ := run_check_ok (Modifies.requireNotBlocklisted _) hrun
  obtain ⟨_, -, hrun⟩ := run_check_ok (Modifies.requireNotBlocklisted _) hrun
  obtain ⟨_, -, hrun⟩ := run_check_ok (Modifies.checkSplitPayees id) hrun
  obtain ⟨-, hrun⟩ := run_unexpired_ok hrun
  obtain ⟨_, -, hrun⟩ := run_check_ok (.gets _) hrun
  rcases run_when_ok.mp hrun with ⟨-, hcharge⟩ | ⟨-, rfl⟩
  · obtain ⟨_, s₁, hcheck, -⟩ := run_bind_ok.mp hcharge
    obtain ⟨_, -, hcheck⟩ := run_check_ok (.failIf _ _) hcheck
    obtain ⟨_, s₂, -, hcheck⟩ := run_bind_ok.mp hcheck
    obtain ⟨_, hopen, -⟩ := run_check_ok (.failIf _ _) hcheck
    have hopen : sub.status = .active ∨ sub.status = .paused := by
      by_contra hclosed
      exact (run_failIf_ok.mp hopen).1 (not_or.mp hclosed)
    rcases hopen with h | h <;> rw [h] at hterminal <;> cases hterminal
  · rfl

theorem doGraceBuyout_fails (hsub : s.subscription id = some sub)
    (hterminal : sub.status.isTerminal = true) {subscriber : Address} {amount : Int}
    {key : Option BytesN32} {paid : Int × Int}
    (hrun : (doGraceBuyout id subscriber amount key).run env s = .ok paid t) : False := by
  obtain ⟨other, _, hreads, hgrace, _⟩ := doGraceBuyout_book hrun
  obtain rfl := hreads.of_terminal hsub hterminal
  rw [hgrace] at hterminal
  cases hterminal

end Steps

/-- Calls that charge the subscription. -/
def VaultCall.Charges (id : Nat) : VaultCall → Prop
  | .chargeSubscription id' _ | .operatorChargeSubscription _ id' | .chargeUsage id' _
  | .chargeUsageWithReference id' _ _ | .operatorChargeUsage _ id' _
  | .operatorChargeUsageWithRef _ id' _ _ | .chargeOneOff id' _ _ _
  | .graceBuyout id' _ _ _ => id' = id
  | _ => False

def VaultAction.Charges (id : Nat) : VaultAction → Prop
  | .call _ c => c.Charges id
  | .item _ (.charge id' _) => id' = id
  | _ => False

section Runs

variable {env : Env} {s t : State} {id : Nat} {sub : Subscription}

/-- The lock is taken and released around code that does nothing. -/
theorem agree_of_locked {α : Type} {name : LockName} {body : Vault α} {a : α}
    (hbody : ∀ u, body.run env (s.write (.lock name) true) = .ok a u →
      s.write (.lock name) true = u)
    (hrun : (withLock name body).run env s = .ok a t) : FiniteStore.AgreeOff ∅ s t := by
  obtain ⟨hfree, u, hlocked, rfl⟩ := run_withLock_ok.mp hrun
  obtain rfl := hbody u hlocked
  intro k _
  by_cases hk : k = .lock name
  · subst hk
    exact (FiniteStore.get_replace_self _ _ _).trans (show s.get (.lock name) = none from hfree).symm
  · exact (FiniteStore.get_replace_of_ne _ _ hk).trans (FiniteStore.get_replace_of_ne _ _ hk)

/-- A call or an entry that charges a finished subscription moves nothing. -/
theorem charge_of_finished {l : VaultAction} (hsub : s.subscription id = some sub)
    (hterminal : sub.status.isTerminal = true) (hstep : VaultStep l s t) (hcharges : l.Charges id) :
    FiniteStore.AgreeOff ∅ s t := by
  have hlocked (name : LockName) : State.subscription (s.write (.lock name) true) id = some sub := by
    simpa [State.subscription] using hsub
  have hcharge {env : Env} {u v : State} {key : Option BytesN32} {result : ChargeExecutionResult}
      (hsub : u.subscription id = some sub)
      (hrun : (chargeOne id key none ∅).run env u = .ok result v) : u = v := by
    have hleaves := chargeOne_unchanged env hsub hterminal key
    rw [hrun] at hleaves
    exact hleaves
  cases hstep with
  | @call env call _ _ hsingle hrun =>
    cases call
    case chargeSubscription =>
      obtain rfl := hcharges
      obtain ⟨_, hrun⟩ := run_effectOf_ok.mp hrun
      exact agree_of_locked (fun _ => hcharge (hlocked _)) (run_guardedCall_ok.mp hrun).2
    case operatorChargeSubscription op id' =>
      obtain rfl := hcharges
      obtain ⟨_, hrun⟩ := run_effectOf_ok.mp hrun
      refine agree_of_locked (fun u hbody => ?_) (run_guardedCall_ok.mp hrun).2
      obtain ⟨_, -, hbody⟩ := run_check_ok (keeps_requireOperatorAuth op) hbody
      exact hcharge (hlocked _) hbody
    case chargeUsage | chargeUsageWithReference =>
      obtain rfl := hcharges
      obtain ⟨_, hrun⟩ := run_effectOf_ok.mp hrun
      exact agree_of_locked (fun _ hbody => (chargeUsageOne_fails (hlocked _) hterminal hbody).elim)
        (run_guardedCall_ok.mp hrun).2
    case operatorChargeUsage op id' _ | operatorChargeUsageWithRef op id' _ _ =>
      obtain rfl := hcharges
      obtain ⟨_, hrun⟩ := run_effectOf_ok.mp hrun
      refine agree_of_locked (fun u hbody => ?_) (run_guardedCall_ok.mp hrun).2
      obtain ⟨_, -, hbody⟩ := run_check_ok (keeps_requireOperatorAuth op) hbody
      exact (chargeUsageOne_fails (hlocked _) hterminal hbody).elim
    case chargeOneOff =>
      obtain rfl := hcharges
      exact agree_of_locked (fun _ => doChargeOneOff_unchanged (hlocked _) hterminal)
        (run_guardedCall_ok.mp hrun).2
    case graceBuyout =>
      obtain rfl := hcharges
      obtain ⟨_, hrun⟩ := run_effectOf_ok.mp hrun
      exact agree_of_locked (fun _ hbody => (doGraceBuyout_fails (hlocked _) hterminal hbody).elim)
        (run_guardedCall_ok.mp hrun).2
    all_goals exact hcharges.elim
  | @item env item _ _ hrun =>
    cases item
    case charge =>
      obtain rfl := hcharges
      obtain ⟨_, hrun⟩ := run_effectOf_ok.mp hrun
      obtain rfl := hcharge hsub hrun
      exact Std.Refl.refl _
    all_goals exact hcharges.elim
  | @itemFailed env item _ _ e hrun =>
    cases item
    case charge id' key =>
      obtain rfl := hcharges
      have hleaves := chargeOne_unchanged env hsub hterminal key
      rw [run_effectOf_err.mp hrun] at hleaves
      obtain rfl : s = t := hleaves
      exact Std.Refl.refl _
    all_goals exact hcharges.elim
  | other => exact hcharges.elim

/-- In every run that puts no other subscription in its place, a finished subscription stays
finished, is charged nothing, and every attempt to charge it changes nothing at all. -/
theorem terminal_kept {start : State} {hist : History VaultAction State}
    (hsub : start.subscription id = some sub) (hterminal : sub.status.isTerminal = true)
    (hrun : Run VaultStep start hist s)
    (hspares : ∀ step ∈ hist, step.1.operation.Spares step.2 id) :
    (∃ new, s.subscription id = some new ∧ (new.status = sub.status ∨ new.status = .archived) ∧
      new.lifetimeCharged = sub.lifetimeCharged) ∧
    ∀ l t, VaultStep l s t → l.Charges id → FiniteStore.AgreeOff ∅ s t := by
  have hfinished : s.book.Finished id sub := by
    induction hrun with
    | start => exact ⟨sub, hsub, hterminal, .inl rfl, rfl⟩
    | next _ hlast ih =>
      exact finished_of_step (ih fun step hmem => hspares step (List.mem_cons_of_mem _ hmem)) hlast
        (hspares _ List.mem_cons_self)
  obtain ⟨new, hnew, hterminal', hstatus, hlifetime⟩ := hfinished
  exact ⟨⟨new, hnew, hstatus, hlifetime⟩, fun l t hstep => charge_of_finished hnew hterminal' hstep⟩

end Runs

section Examples

/-- Subscription 0 as it was exported after its cancellation. -/
private def exported : SubscriptionSummary where
  subscriptionId := 0
  subscriber := ⟨2⟩
  merchant := ⟨1⟩
  token := ⟨9⟩
  amount := 10
  intervalSeconds := 60
  lastPaymentTimestamp := 0
  status := .cancelled
  prepaidBalance := 0
  usageEnabled := false
  lifetimeCap := none
  lifetimeCharged := 30
  startTime := 0
  expiresAt := none
  expiresAtLedger := none

/-- A new vault into which the exported subscription has been restored. -/
private def restoredVault : List (Env × Vault Unit) :=
  [(sampleEnv 30000 [⟨8⟩], disableEmergencyStop ⟨8⟩),
   (sampleEnv 2 [⟨8⟩], VaultCall.exec (.restoreSnapshotPage ⟨8⟩ [exported] [])),
   (sampleEnv 1 [⟨8⟩], enableEmergencyStop ⟨8⟩)] ++ sampleVault 0

private def archiveCall : VaultCall := .cleanupSubscription 0 ⟨2⟩

private def archivedVault : List (Env × Vault Unit) :=
  (sampleEnv 30001 [⟨2⟩], archiveCall.exec) :: restoredVault

/-- The restored subscription after it has gone to the archive. -/
theorem terminal_kept_archived :
    (∃ new, (afterCalls archivedVault).subscription 0 = some new ∧
        (new.status = .cancelled ∨ new.status = .archived) ∧ new.lifetimeCharged = 30) ∧
      ∀ l t, VaultStep l (afterCalls archivedVault) t → l.Charges 0 →
        FiniteStore.AgreeOff ∅ (afterCalls archivedVault) t := by
  have hsub : (afterCalls restoredVault).subscription 0 = some exported.record := by
    decide +kernel
  have hrun : archiveCall.exec.run (sampleEnv 30001 [⟨2⟩]) (afterCalls restoredVault) =
      .ok () (afterCalls archivedVault) := run_eq_after (by decide +kernel)
  refine terminal_kept hsub rfl (Run.start.next (.call rfl hrun)) fun step hmem => ?_
  rw [List.mem_singleton.mp hmem]
  trivial

/-- The next subscription is created in the place of the cancelled one. -/
theorem cancelled_subscription_replaced :
    ((afterCalls restoredVault).subscription 0).map (·.status) = some .cancelled ∧
      (VaultCall.createSubscription sampleRequest).exec.succeeds (sampleEnv 30001 [⟨2⟩])
        (afterCalls restoredVault) = true ∧
      (((VaultCall.createSubscription sampleRequest).commit (sampleEnv 30001 [⟨2⟩])
        (afterCalls restoredVault)).subscription 0).map (·.status) = some .active :=
  ⟨by decide +kernel, by decide +kernel, by decide +kernel⟩

end Examples

end SubscriptionVault
