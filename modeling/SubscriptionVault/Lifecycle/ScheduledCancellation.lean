import SubscriptionVault.Charging.Callers
import SubscriptionVault.Lifecycle.Exit

/-!
# Cancelling on schedule

A charge that finds the date of a scheduled cancellation behind it cancels the subscription by
itself. It closes the record and pays the balance out, as a cancellation by hand does, and leaves
the counter, the indexes and the credential as they were.
-/

namespace SubscriptionVault

open Exec

/-! ## What is compared -/

/-- The states differ at most in when the subscription was to be cancelled. -/
def SameButSchedule (id : Nat) (t u : State) : Prop :=
  FiniteStore.AgreeOff {Slot.persistent (.sub id)} t u ∧
    (u.subscription id).map (fun sub => { sub with cancelAt := none }) =
      (t.subscription id).map fun sub => { sub with cancelAt := none }

/-- There is nothing to take back from the subscription: it is not counted as active, stands in
no index and has no valid credential. -/
structure Untracked (s : State) (id : Nat) (sub : Subscription) : Prop where
  uncounted : sub.status = .active →
    s.read (.instanced (.subscriberActiveCount sub.subscriber)) = some 0
  offMerchant : id ∉ s.merchantSubs sub.merchant
  offToken : id ∉ s.tokenSubs sub.token
  offSubscriber : id ∉ s.subscriberSubs sub.subscriber
  uncertified : ∀ badge, s.read (.persistent (.credential id)) = some badge → badge.revoked = true

/-- The record is replaced and the balance of `sub` paid out. -/
def State.paidOut (s : State) (contract : Address) (id : Nat) (sub record : Subscription) :
    State :=
  let written : State := s.write (.persistent (.sub id)) record
  if 0 < sub.prepaidBalance then
    written.transferred sub.token contract sub.subscriber sub.prepaidBalance
  else written

section Ends

variable {env : Env} {s s' t u : State} {id : Nat} {sub record record' : Subscription}
  {contract : Address} {key : Option BytesN32} {cfg : Option CachedAdminConfig}
  {cache : MerchantCache} {v : Unit}

/-! ## The two ways -/

theorem run_fireScheduledCancellation_ok (hopen : sub.status ≠ .cancelled)
    (hrun : (fireScheduledCancellation id sub).run env s = .ok v t) :
    t = s.paidOut env.host.contract id sub
      { sub with status := .cancelled, prepaidBalance := 0, cancelAt := none } := by
  simp only [fireScheduledCancellation, run_when_ok] at hrun
  rcases hrun with ⟨-, hrun⟩ | ⟨hcancelled, -⟩
  swap
  · exact absurd hopen hcancelled
  obtain ⟨status, hstatus, hrun⟩ := run_check_ok (.lift _) hrun
  obtain ⟨-, rfl⟩ := transitionTo_ok.mp (run_lift_ok.mp hstatus).1
  obtain ⟨_, w, hwrite, hrun⟩ := run_bind_ok.mp hrun
  obtain rfl := run_store_ok.mp hwrite
  unfold State.paidOut
  rcases run_when_ok.mp hrun with ⟨hfunds, hpay⟩ | ⟨hempty, rfl⟩
  · rw [if_pos hfunds]
    obtain ⟨_, hask, hpay⟩ := run_check_ok .ask hpay
    obtain ⟨rfl, -⟩ := run_ask_ok.mp hask
    obtain ⟨_, w', htransfer, hpay⟩ := run_bind_ok.mp hpay
    obtain rfl := run_subTotalAccounted_ok.mp hpay
    obtain ⟨-, -, -, -, rfl⟩ := run_transfer_ok.mp htransfer
    rfl
  · rw [if_neg hempty]

/-- A cancellation by hand does the same between counting down and tidying up. -/
theorem run_applyCancellation_ok (hrun : (applyCancellation id sub).run env s = .ok v t) :
    ∃ counted w, (when (sub.status = .active)
        (decrementSubscriberActiveCount sub.subscriber)).run env s = .ok () counted ∧
      (unindexSubscription id sub).run env (counted.paidOut env.host.contract id sub
        { sub with status := .cancelled, prepaidBalance := 0 }) = .ok () w ∧
      (revokeCredential id).run env w = .ok () t := by
  obtain ⟨status, hstatus, hrun⟩ := run_check_ok (.lift _) hrun
  obtain ⟨-, rfl⟩ := transitionTo_ok.mp (run_lift_ok.mp hstatus).1
  obtain ⟨_, counted, hcount, hrun⟩ := run_bind_ok.mp hrun
  obtain ⟨_, written, hwrite, hrun⟩ := run_bind_ok.mp hrun
  obtain rfl := run_store_ok.mp hwrite
  obtain ⟨_, paid, hpay, hrun⟩ := run_bind_ok.mp hrun
  obtain ⟨_, w, hunindex, hrevoke⟩ := run_bind_ok.mp hrun
  refine ⟨counted, w, hcount, ?_, hrevoke⟩
  have hpaid : paid = counted.paidOut env.host.contract id sub
      { sub with status := .cancelled, prepaidBalance := 0 } := by
    unfold State.paidOut
    rcases run_when_ok.mp hpay with ⟨hfunds, hpay⟩ | ⟨hempty, rfl⟩
    · rw [if_pos hfunds]
      obtain ⟨_, hask, hpay⟩ := run_check_ok .ask hpay
      obtain ⟨rfl, -⟩ := run_ask_ok.mp hask
      obtain ⟨_, -, hpay⟩ := run_check_ok (.pure _) hpay
      obtain ⟨-, -, -, -, rfl⟩ := run_transfer_ok.mp hpay
      rfl
    · rw [if_neg hempty]
  exact hpaid ▸ hunindex

theorem chargeInterval_ne_scheduled {amount : Int} {result : ChargeExecutionResult}
    (hrun : (chargeInterval id sub amount key cfg).run env s = .ok result t) :
    result ≠ .scheduledCancellation := by
  obtain ⟨ledger, -, hrun⟩ := run_check_ok .ask hrun
  obtain ⟨_, -, hrun⟩ := run_check_ok (.require _) hrun
  obtain ⟨_, -, hrun⟩ := run_check_ok Modifies.load hrun
  obtain ⟨_, -, hrun⟩ := run_check_ok (.failIf _ _) hrun
  obtain ⟨replayed, -, hrun⟩ := run_check_ok (.gets _) hrun
  split at hrun
  · rw [← (run_pure_ok.mp hrun).1]
    simp
  obtain ⟨_, -, hrun⟩ := run_check_ok Modifies.load hrun
  obtain ⟨_, -, hrun⟩ := run_check_ok (.failIf _ _) hrun
  obtain ⟨_, -, hrun⟩ := run_check_ok (.lift _) hrun
  obtain ⟨_, -, hrun⟩ := run_check_ok (.failIf _ _) hrun
  obtain ⟨_, -, hrun⟩ := run_check_ok (.lift _) hrun
  split at hrun
  · obtain ⟨_, _, -, hlast⟩ := run_bind_ok.mp hrun
    rw [← (run_pure_ok.mp hlast).1]
    simp
  split at hrun
  all_goals
    obtain ⟨_, _, -, hlast⟩ := run_bind_ok.mp hrun
    rw [← (run_pure_ok.mp hlast).1]
    simp

/-- The branch of the charge that cancels. -/
theorem fires_of_scheduled (hfound : s.effectiveSubscription id env.now = some sub)
    (hrun : (chargeOne id key cfg cache).run env s = .ok .scheduledCancellation t) :
    (fireScheduledCancellation id sub).run env s = .ok () t := by
  obtain ⟨_, -, hrun⟩ := run_check_ok Modifies.requireNotEmergencyStop hrun
  obtain ⟨found, hget, hrun⟩ := run_check_ok (Modifies.getSubscription id) hrun
  obtain rfl : found = sub :=
    Option.some.inj ((run_getSubscription_ok.mp hget).1.symm.trans hfound)
  obtain ⟨_, -, hrun⟩ := run_check_ok (Modifies.checkMerchantStatus _ _) hrun
  obtain ⟨_, -, hrun⟩ := run_check_ok (Modifies.requireNotBlocklisted _) hrun
  obtain ⟨_, -, hrun⟩ := run_check_ok (Modifies.requireNotBlocklisted _) hrun
  obtain ⟨_, -, hrun⟩ := run_check_ok (Modifies.checkSplitPayees _) hrun
  obtain ⟨-, hrun⟩ := run_unexpired_ok hrun
  obtain ⟨ledger, -, hrun⟩ := run_check_ok .ask hrun
  obtain ⟨_, -, hrun⟩ := run_check_ok (.gets _) hrun
  obtain ⟨amount, -, hrun⟩ := run_check_ok (.lift _) hrun
  split at hrun
  · obtain ⟨_, _, -, hlast⟩ := run_bind_ok.mp hrun
    cases (run_pure_ok.mp hlast).1
  split at hrun
  · obtain ⟨_, w, hfire, hlast⟩ := run_bind_ok.mp hrun
    obtain ⟨-, rfl⟩ := run_pure_ok.mp hlast
    exact hfire
  obtain ⟨_, w, -, hrun⟩ := run_bind_ok.mp hrun
  obtain ⟨closed, -, hrun⟩ := run_check_ok (.lift _) hrun
  split at hrun
  · cases (run_pure_ok.mp hrun).1
  · exact absurd rfl (chargeInterval_ne_scheduled hrun)

/-! ## What the second way writes besides -/

theorem State.paidOut_areas (s : State) (contract : Address) (id : Nat)
    (sub record : Subscription) :
    FiniteStore.AgreeOff (areas [.records, .tokens]) s (s.paidOut contract id sub record) := by
  have hwrite : FiniteStore.AgreeOff (areas [.records, .tokens]) s
      (s.write (.persistent (.sub id)) record) := s.agreeOff_write record rfl
  unfold State.paidOut
  split
  · exact hwrite.trans (State.agreeOff_transferred _ _ rfl rfl)
  · exact hwrite

theorem State.subscription_paidOut (s : State) (contract : Address) (id : Nat)
    (sub record : Subscription) : (s.paidOut contract id sub record).subscription id =
      some record := by
  let written : State := s.write (.persistent (.sub id)) record
  have hwritten : written.subscription id = some record := FiniteStore.read_write_self _ _
  unfold State.paidOut
  split
  · have hpaid : FiniteStore.AgreeOff (areas [.tokens]) written
        (written.transferred sub.token contract sub.subscriber sub.prepaidBalance) :=
      State.agreeOff_transferred _ _ rfl rfl
    exact (State.read_of_areas (k := .persistent (.sub id)) hpaid rfl).trans hwritten
  · exact hwritten

/-- The payment is the same whatever the record becomes. -/
theorem agreeOff_paidOut (h : FiniteStore.AgreeOff {Slot.persistent (.sub id)} s s') :
    FiniteStore.AgreeOff {Slot.persistent (.sub id)} (s.paidOut contract id sub record)
      (s'.paidOut contract id sub record') := by
  have hwritten : FiniteStore.AgreeOff {Slot.persistent (.sub id)}
      (s.write (.persistent (.sub id)) record) (s'.write (.persistent (.sub id)) record') := by
    intro k hk
    have hs := s.agreeOff_write record (Set.mem_singleton _) k hk
    have hs' := s'.agreeOff_write record' (Set.mem_singleton _) k hk
    exact hs'.trans ((h k hk).trans hs.symm)
  unfold State.paidOut
  split
  · exact hwritten.transferred (by simp) _ _ _ _
  · exact hwritten

theorem run_countDown {u : Unit}
    (hrun : (when (sub.status = .active)
      (decrementSubscriberActiveCount sub.subscriber)).run env s = .ok u t) :
    sub.status = .active ∧
        t = s.write (.instanced (.subscriberActiveCount sub.subscriber))
          (s.subscriberActiveCount sub.subscriber - 1) ∨
      sub.status ≠ .active ∧ t = s := by
  rcases run_when_ok.mp hrun with ⟨hactive, hdown⟩ | ⟨hother, rfl⟩
  · obtain ⟨count, hcount, hdown⟩ := run_check_ok (.gets _) hdown
    obtain ⟨rfl, -⟩ := run_gets_ok.mp hcount
    exact .inl ⟨hactive, (run_store_ok.mp hdown).symm⟩
  · exact .inr ⟨hother, rfl⟩

theorem run_revokeCredential {u : Unit} (hrun : (revokeCredential id).run env s = .ok u t) :
    (∃ badge, s.read (.persistent (.credential id)) = some badge ∧ badge.revoked = false ∧
        t = s.write (.persistent (.credential id)) { badge with revoked := true }) ∨
      (∀ badge, s.read (.persistent (.credential id)) = some badge → badge.revoked = true) ∧
        t = s := by
  simp only [revokeCredential, run_bind_ok, run_load_ok, run_whenSome_ok, run_when_ok,
    run_store_ok] at hrun
  obtain ⟨found, _, ⟨hfound, rfl⟩,
    ⟨badge, rfl, ⟨hvalid, rfl⟩ | ⟨hinvalid, rfl⟩⟩ | ⟨rfl, rfl⟩⟩ := hrun
  · exact .inl ⟨badge, hfound, hvalid, rfl⟩
  · refine .inr ⟨fun other hother => ?_, rfl⟩
    obtain rfl := Option.some.inj (hfound.symm.trans hother)
    simpa using hinvalid
  · refine .inr ⟨fun other hother => ?_, rfl⟩
    rw [hfound] at hother
    cases hother

theorem run_dropIndex_absent {index : DataKey} [Holds DataKey.Val index (List Nat)] {u : Unit}
    (habsent : id ∉ (s.read (.instanced index)).getD [])
    (hrun : (dropIndex index id).run env s = .ok u t) : t = s := by
  obtain ⟨found, hfound, hrun⟩ := run_check_ok Modifies.load hrun
  obtain ⟨rfl, -⟩ := run_load_ok.mp hfound
  cases hlist : s.read (.instanced index) with
  | none =>
    rw [hlist] at hrun
    exact (run_pure_ok.mp hrun).2.symm
  | some ids =>
    rw [hlist] at hrun habsent
    rcases run_when_ok.mp hrun with ⟨hmem, -⟩ | ⟨-, rfl⟩
    · exact absurd hmem habsent
    · rfl

/-- Without anything to take back the second way ends where the first does. -/
theorem sameButSchedule_of_untracked (huntracked : Untracked s id sub)
    (hrun : (applyCancellation id sub).run env s = .ok v u) :
    SameButSchedule id (s.paidOut env.host.contract id sub
      { sub with status := .cancelled, prepaidBalance := 0, cancelAt := none }) u := by
  obtain ⟨counted, w, hcount, hunindex, hrevoke⟩ := run_applyCancellation_ok hrun
  have hcounted : FiniteStore.AgreeOff {Slot.persistent (.sub id)} s counted := by
    rcases run_countDown hcount with ⟨hactive, rfl⟩ | ⟨-, rfl⟩
    · have hzero := huntracked.uncounted hactive
      have hnone : s.subscriberActiveCount sub.subscriber - 1 = 0 := by
        simp [State.subscriberActiveCount, hzero]
      rw [hnone]
      exact FiniteStore.agreeOff_write_same hzero
    · exact fun _ _ => rfl
  let paid := counted.paidOut env.host.contract id sub
    { sub with status := .cancelled, prepaidBalance := 0 }
  have hpaid {k : Slot} {α : Type} [Holds Slot.Val k α] (hk : k ≠ .persistent (.sub id))
      (harea : [Area.records, .tokens].contains k.area = false) :
      (paid.read k : Option α) = s.read k :=
    (State.read_of_areas (counted.paidOut_areas _ _ _ _) harea).trans (hcounted.read hk)
  have hlists : w = paid := by
    obtain ⟨_, w₁, hmerchant, hunindex⟩ := run_bind_ok.mp hunindex
    obtain rfl := run_dropIndex_absent
      (by rw [hpaid (by simp) rfl]; exact huntracked.offMerchant) hmerchant
    obtain ⟨_, w₂, htoken, hsubscriber⟩ := run_bind_ok.mp hunindex
    obtain rfl := run_dropIndex_absent
      (by rw [hpaid (by simp) rfl]; exact huntracked.offToken) htoken
    exact run_dropIndex_absent
      (by rw [hpaid (by simp) rfl]; exact huntracked.offSubscriber) hsubscriber
  have hcertified : u = paid := by
    rw [hlists] at hrevoke
    rcases run_revokeCredential hrevoke with ⟨badge, hbadge, hvalid, -⟩ | ⟨-, rfl⟩
    · rw [hpaid (by simp) rfl] at hbadge
      rw [huntracked.uncertified badge hbadge] at hvalid
      cases hvalid
    · rfl
  rw [hcertified]
  refine ⟨agreeOff_paidOut hcounted, ?_⟩
  rw [State.subscription_paidOut, State.subscription_paidOut]
  rfl

/-- What the second way takes back shows. -/
theorem untracked_of_sameButSchedule
    (hrun : (applyCancellation id sub).run env s = .ok v u)
    (hsame : SameButSchedule id (s.paidOut env.host.contract id sub record) u) :
    Untracked s id sub := by
  have hread {k : Slot} {α : Type} [Holds Slot.Val k α] (hk : k ≠ .persistent (.sub id))
      (harea : [Area.records, .tokens].contains k.area = false) :
      (u.read k : Option α) = s.read k :=
    (hsame.1.read hk).trans (State.read_of_areas (s.paidOut_areas _ _ _ _) harea)
  have hbook := (applyCancellation_book hrun).2
  obtain ⟨counted, w, hcount, hunindex, hrevoke⟩ := run_applyCancellation_ok hrun
  have hcounted : FiniteStore.AgreeOff (areas [.activeCounts]) s counted :=
    Keeps.ok (.when (decrementSubscriberActiveCount_areas _)) hcount
  have hunindexed := (unindexSubscription_areas id sub).ok hunindex
  have hpaid := counted.paidOut_areas env.host.contract id sub
    { sub with status := .cancelled, prepaidBalance := 0 }
  refine ⟨fun hactive => ?_, ?_, ?_, ?_, fun badge hbadge => ?_⟩
  · have hkept : u.read (.instanced (.subscriberActiveCount sub.subscriber)) =
        counted.read (.instanced (.subscriberActiveCount sub.subscriber)) :=
      (State.read_of_areas (k := .instanced (.subscriberActiveCount _))
        ((revokeCredential_areas id).ok hrevoke) rfl).trans
        ((State.read_of_areas (k := .instanced (.subscriberActiveCount _)) hunindexed rfl).trans
          (State.read_of_areas (k := .instanced (.subscriberActiveCount _)) hpaid rfl))
    rcases run_countDown hcount with ⟨-, rfl⟩ | ⟨hother, -⟩
    swap
    · exact absurd hactive hother
    rw [hread (by simp) rfl, FiniteStore.read_write_self] at hkept
    unfold State.subscriberActiveCount at hkept
    rw [hkept, Option.some.injEq]
    rw [hkept] at hkept
    simp only [Option.getD_some, Option.some.injEq] at hkept
    omega
  · have hlist : u.merchantSubs sub.merchant = (s.merchantSubs sub.merchant).erase id := by
      have hlisted := congrFun (congrArg Book.merchantSubs hbook) sub.merchant
      split at hlisted <;> exact hlisted.trans (Function.update_self ..)
    rw [State.merchantSubs, State.merchantSubs, hread (by simp) rfl] at hlist
    exact List.erase_eq_self_iff.mp hlist.symm
  · have hlist : u.tokenSubs sub.token = (s.tokenSubs sub.token).erase id := by
      have hlisted := congrFun (congrArg Book.tokenSubs hbook) sub.token
      split at hlisted <;> exact hlisted.trans (Function.update_self ..)
    rw [State.tokenSubs, State.tokenSubs, hread (by simp) rfl] at hlist
    exact List.erase_eq_self_iff.mp hlist.symm
  · have hlist : u.subscriberSubs sub.subscriber = (s.subscriberSubs sub.subscriber).erase id := by
      have hlisted := congrFun (congrArg Book.subscriberSubs hbook) sub.subscriber
      split at hlisted <;> exact hlisted.trans (Function.update_self ..)
    rw [State.subscriberSubs, State.subscriberSubs, hread (by simp) rfl] at hlist
    exact List.erase_eq_self_iff.mp hlist.symm
  · have hbefore : w.read (.persistent (.credential id)) = some badge :=
      (State.read_of_areas (k := .persistent (.credential id)) hunindexed rfl).trans
        ((State.read_of_areas (k := .persistent (.credential id)) hpaid rfl).trans
          ((State.read_of_areas (k := .persistent (.credential id)) hcounted rfl).trans hbadge))
    rcases run_revokeCredential hrevoke with ⟨valid, hvalid, -, rfl⟩ | ⟨hrevoked, -⟩
    · have hafter := hread (k := .persistent (.credential id)) (by simp) rfl
      rw [FiniteStore.read_write_self, hbadge] at hafter
      exact (congrArg CredentialBadge.revoked (Option.some.inj hafter)).symm
    · exact hrevoked badge hbefore

/-- What is left after both: a payment of the balance, and the tail of a cancellation. -/
theorem scheduled_and_cancelled (hfound : s.effectiveSubscription id env.now = some sub)
    (hscheduled : (chargeOne id key cfg cache).run env s = .ok .scheduledCancellation t)
    (hcancelled : (doCancelSubscription id sub.subscriber).run env s = .ok () u) :
    t = s.paidOut env.host.contract id sub
        { sub with status := .cancelled, prepaidBalance := 0, cancelAt := none } ∧
      (applyCancellation id sub).run env s = .ok () u := by
  have hfire := fires_of_scheduled hfound hscheduled
  obtain ⟨_, -, hrun⟩ := run_check_ok (Modifies.requireAuth _) hcancelled
  obtain ⟨found, hget, hrun⟩ := run_check_ok (Modifies.getSubscription id) hrun
  obtain rfl : found = sub :=
    Option.some.inj ((run_getSubscription_ok.mp hget).1.symm.trans hfound)
  obtain ⟨-, hrun⟩ := run_unexpired_ok hrun
  obtain ⟨_, -, hrun⟩ := run_check_ok (.failIf _ _) hrun
  obtain ⟨_, -, hrun⟩ := run_check_ok (.when (Modifies.requireNotBlocklisted _)) hrun
  obtain ⟨_, hopen, hrun⟩ := run_check_ok (.failIf _ _) hrun
  exact ⟨run_fireScheduledCancellation_ok (run_failIf_ok.mp hopen).1 hfire, hrun⟩

/-- A charge that cancels on schedule leaves what a cancellation by the subscriber leaves just
if there is nothing to take back from the subscription. -/
theorem scheduled_cancellation_matches_iff (hfound : s.effectiveSubscription id env.now = some sub)
    (hscheduled : (chargeOne id key cfg cache).run env s = .ok .scheduledCancellation t)
    (hcancelled : (doCancelSubscription id sub.subscriber).run env s = .ok () u) :
    SameButSchedule id t u ↔ Untracked s id sub := by
  obtain ⟨rfl, hrun⟩ := scheduled_and_cancelled hfound hscheduled hcancelled
  exact ⟨untracked_of_sameButSchedule hrun, fun h => sameButSchedule_of_untracked h hrun⟩

end Ends

/-! ## A restored and a created subscription -/

private def restoredEntry : SubscriptionSummary where
  subscriptionId := 0
  subscriber := ⟨2⟩
  merchant := ⟨1⟩
  token := ⟨9⟩
  amount := 10
  intervalSeconds := 60
  lastPaymentTimestamp := 0
  status := .paused
  prepaidBalance := 25
  usageEnabled := false
  lifetimeCap := none
  lifetimeCharged := 30
  startTime := 0
  expiresAt := none
  expiresAtLedger := none

/-- A paused subscription is restored and then scheduled to be cancelled. -/
private def restoredLeaving : State := afterCalls <|
  [(sampleEnv 90000 [⟨2⟩], doScheduleCancel 0 ⟨2⟩ 90060),
   (sampleEnv 90000 [⟨8⟩], disableEmergencyStop ⟨8⟩),
   (sampleEnv 2 [⟨8⟩], restoreSnapshotPage ⟨8⟩ [restoredEntry] []),
   (sampleEnv 1 [⟨8⟩], enableEmergencyStop ⟨8⟩),
   (sampleEnv 0 [], mint ⟨9⟩ ⟨0⟩ 25)] ++ sampleVault 0

/-- A restored subscription is in no index, so both ways of cancelling it end alike. -/
theorem restored_cancellation_matches : ∃ t u,
    (chargeOne 0 none none ∅).run (sampleEnv 90060 [⟨2⟩]) restoredLeaving =
      .ok .scheduledCancellation t ∧
    (doCancelSubscription 0 ⟨2⟩).run (sampleEnv 90060 [⟨2⟩]) restoredLeaving = .ok () u ∧
    SameButSchedule 0 t u := by
  let sub : Subscription := { restoredEntry.record with cancelAt := some 90060 }
  have hfound : restoredLeaving.effectiveSubscription 0 90060 = some sub := by decide +kernel
  obtain ⟨t, hscheduled⟩ := run_of_returns (show (chargeOne 0 none none ∅).returns
    (sampleEnv 90060 [⟨2⟩]) restoredLeaving .scheduledCancellation = true by decide +kernel)
  have hcancelled : (doCancelSubscription 0 sub.subscriber).run (sampleEnv 90060 [⟨2⟩])
      restoredLeaving = .ok () _ := run_eq_after (by decide +kernel)
  refine ⟨t, _, hscheduled, hcancelled,
    (scheduled_cancellation_matches_iff hfound hscheduled hcancelled).mpr
      ⟨fun hactive => ?_, by decide +kernel, by decide +kernel, by decide +kernel,
        fun badge hbadge => ?_⟩⟩
  · cases hactive
  · have hnone : restoredLeaving.read (.persistent (.credential 0)) = none := by decide +kernel
    rw [hnone] at hbadge
    cases hbadge

private def leavingCalls : List (Env × VaultCall) :=
  [(sampleEnv 2 [⟨2⟩], .scheduleCancel 0 ⟨2⟩ 5),
   (sampleEnv 1 [⟨2⟩], .depositFunds 0 100 none),
   (sampleEnv 0 [⟨2⟩], .createSubscription sampleRequest)]

private def leavingVault : State := stateAfter (afterCalls (sampleVault 0)) leavingCalls

private theorem leavingVault_run : Run Transacts (sampleStart 0)
    (transactionHistory (afterCalls (sampleVault 0)) leavingCalls ++
      [(.other (sampleEnv 0 []), sampleStart 0)]) leavingVault :=
  run_transactions (sample_transacted 0) (by decide +kernel)

/-- After the charge the merchant's index still lists a subscription that the cancellation by
hand takes out of it. -/
theorem scheduled_cancellation_differs : ∃ (start s t u : State)
    (hist : History Transaction State) (env : Env) (sub : Subscription),
    Deployed start ∧ Run Transacts start hist s ∧
      s.effectiveSubscription 0 env.now = some sub ∧
      (chargeOne 0 none none ∅).run env s = .ok .scheduledCancellation t ∧
      (doCancelSubscription 0 sub.subscriber).run env s = .ok () u ∧
      ¬SameButSchedule 0 t u := by
  obtain ⟨sub, hfound⟩ : ∃ sub, leavingVault.effectiveSubscription 0 6 = some sub :=
    Option.isSome_iff_exists.mp (by decide +kernel)
  have hread : (leavingVault.effectiveSubscription 0 6).map
      (fun sub => (sub.subscriber, sub.merchant)) = some (⟨2⟩, ⟨1⟩) := by decide +kernel
  rw [hfound] at hread
  obtain ⟨hsubscriber, hmerchant⟩ := Prod.mk.inj (Option.some.inj hread)
  obtain ⟨t, hscheduled⟩ := run_of_returns (show (chargeOne 0 none none ∅).returns
    (sampleEnv 6 [⟨2⟩]) leavingVault .scheduledCancellation = true by decide +kernel)
  obtain ⟨u, hcancelled⟩ : ∃ u, (doCancelSubscription 0 sub.subscriber).run
      (sampleEnv 6 [⟨2⟩]) leavingVault = .ok () u := by
    rw [hsubscriber]
    exact ⟨_, run_eq_after (by decide +kernel)⟩
  refine ⟨_, leavingVault, t, u, _, sampleEnv 6 [⟨2⟩], sub, sample_deployed 0,
    leavingVault_run, hfound, hscheduled, hcancelled, fun hsame => ?_⟩
  have hlisted : 0 ∈ leavingVault.merchantSubs ⟨1⟩ := by decide +kernel
  obtain ⟨hpaid, htail⟩ := scheduled_and_cancelled hfound hscheduled hcancelled
  rw [hpaid] at hsame
  have huntracked := untracked_of_sameButSchedule htail hsame
  exact huntracked.offMerchant (hmerchant ▸ hlisted)

end SubscriptionVault
