import SubscriptionVault.Charging.Logging
import SubscriptionVault.Charging.UsageReferences
import SubscriptionVault.Framework.Streak

/-!
# Pausing after failures in a row

An interval charge that leaves its subscription underfunded is counted, and the charge at which
the count reaches the threshold pauses the subscription. The count starts over with a charge that
is taken, with a deposit and with a resumption, or should: a deposit on behalf and a resumption
leave it as it is, and an entry of a batch that fails late clears it without a charge.
-/

namespace SubscriptionVault

open Exec

/-! ## Counters -/

/-- The shortfalls counted so far. -/
def State.failures (s : State) (id : Nat) : Nat :=
  (s.read (.instanced (.chargeFailureCounter id))).getD 0

/-- All slots but the counters of failures. -/
def uncounted : Set Slot := {k | k.area ≠ .failures}

section Footprints

variable {s t : State} {id : Nat} {sub : Subscription}

theorem areas_subset_uncounted {l : List Area} (hl : l.contains .failures = false) :
    areas l ⊆ uncounted := by
  intro k hk harea
  have hin : l.contains k.area = true := hk
  rw [harea, hl] at hin
  cases hin

theorem State.failures_of_agreeOff (h : FiniteStore.AgreeOff uncounted s t) :
    t.failures = s.failures := by
  funext i
  rw [State.failures, State.failures, h.read fun hmem => hmem rfl]

theorem State.failures_cleared {u : State} (hbefore : FiniteStore.AgreeOff uncounted s u)
    (hafter : FiniteStore.AgreeOff uncounted
      (u.remove (.instanced (.chargeFailureCounter id))) t) (i : Nat) :
    t.failures i = if id = i then 0 else s.failures i := by
  rw [State.failures_of_agreeOff hafter]
  by_cases hi : id = i
  · subst hi
    rw [if_pos rfl, State.failures, FiniteStore.read_remove_self]
    rfl
  · rw [if_neg hi, ← State.failures_of_agreeOff hbefore, State.failures, State.failures,
      FiniteStore.read_remove_of_ne _ (by simpa using fun h => hi h.symm)]

theorem Modifies.uncounted {α : Type} {l : List Area} {x : Vault α} (h : Modifies (areas l) x)
    (hl : l.contains .failures = false) : Modifies uncounted x :=
  h.weaken (areas_subset_uncounted hl)

theorem creditSlots_subset_uncounted : creditSlots ⊆ uncounted :=
  creditSlots_subset_areas.trans (areas_subset_uncounted rfl)

theorem creditChargePayees_uncounted (id : Nat) (sub : Subscription) (net : Int)
    (kind : BillingChargeKind) : Modifies uncounted (creditChargePayees id sub net kind) :=
  (Modifies.creditChargePayees _ _ _ _).weaken creditSlots_subset_uncounted

theorem routeToSubAccount_uncounted (sub : Subscription) (net : Int) :
    Modifies uncounted (routeToSubAccount sub net) :=
  (Modifies.routeToSubAccount _ _).weaken creditSlots_subset_uncounted

theorem creditProtocolFee_uncounted (token : Address) (fee : Int) (treasury : Option Address)
    (kind : BillingChargeKind) : Modifies uncounted (creditProtocolFee token fee treasury kind) :=
  (Modifies.creditProtocolFee _ _ _ _).weaken creditSlots_subset_uncounted

theorem settleUsage_uncounted (id : Nat) (sub : Subscription)
    (usageAmount pendingLifetime newBalance : Int) (reference : Bytes) : Modifies uncounted
      (settleUsage id sub usageAmount pendingLifetime newBalance reference) :=
  .bind .ask fun _ => .bind (.gets _) fun _ => .bind (.gets _) fun _ => .bind (.lift _) fun _ =>
    .bind (creditChargePayees_uncounted _ _ _ _) fun _ =>
    .bind (routeToSubAccount_uncounted _ _) fun _ =>
    .bind (creditProtocolFee_uncounted _ _ _ _) fun _ => .bind (.lift _) fun _ =>
    .bind ((writeSubscription_areas _ _).uncounted rfl) fun _ =>
    .bind (Modifies.store (by simp [uncounted, Slot.area, SymbolKey.area])) fun _ =>
    .bind (.require _) fun _ => .bind (.failIf _ _) fun _ => .bind (.okOr _ _) fun _ =>
    .bind ((writePeriodSnapshot_areas _).uncounted rfl) fun _ =>
    (appendStatement_areas _ _ _ _ _ _ _).uncounted rfl

theorem chargeUsageOne_uncounted (id : Nat) (usageAmount : Int) (reference : Bytes) :
    Modifies uncounted (chargeUsageOne id usageAmount reference) := by
  have hdue (sub : Subscription) :
      Modifies uncounted (chargeUsageDue id sub usageAmount reference) := by
    refine .bind (.lift _) fun _ =>
      .ite (.bind ((cancelCapped_areas _ _).uncounted rfl) fun _ => .pure _) ?_
    split
    · exact .bind (settleUsage_uncounted _ _ _ _ _ _) fun _ => .pure _
    · exact .bind (.lift _) fun _ =>
        .bind ((writeSubscription_areas _ _).uncounted rfl) fun _ => .pure _
  have hchecked (sub : Subscription) :
      Modifies uncounted (chargeUsageChecked id sub usageAmount reference) := by
    refine .bind .ask fun _ => .bind (.when <| .bind (.when
        ((cancelCapped_areas _ _).uncounted rfl)) fun _ => .fail _) fun _ =>
      .bind (.failIf _ _) fun _ => .bind (.failIf _ _) fun _ =>
      .bind (.lift _) fun _ => .bind (.failIf _ _) fun _ => .bind (.failIf _ _) fun _ =>
      .bind Modifies.load fun _ => .ite (.pure _) ?_
    refine .bind (.failIf _ _) fun _ => .bind Modifies.load fun _ => .ite (.pure _) ?_
    refine .bind ((applyUsageLimits_areas _ _ _).uncounted rfl) fun rejected => ?_
    cases rejected with
    | none => exact hdue _
    | some result => exact .pure _
  exact .bind Modifies.requireNotEmergencyStop fun _ => .bind (Modifies.getSubscription _)
    fun sub => .bind (Modifies.checkMerchantStatus _ _) fun _ =>
    .bind (Modifies.requireNotBlocklisted _) fun _ =>
    .bind (Modifies.requireNotBlocklisted _) fun _ => .bind (Modifies.checkSplitPayees _) fun _ =>
    .bind ((failIfExpired_areas _ _).uncounted rfl) fun _ => hchecked sub

/-- The slots that neither count failures nor keep snapshots. -/
def plainSlots : Set Slot := uncounted ∩ snapshotFree

theorem Modifies.plain {α : Type} {l : List Area} {x : Vault α} (h : Modifies (areas l) x)
    (hfailures : l.contains .failures = false) (hstatements : l.contains .statements = false) :
    Modifies plainSlots x :=
  h.weaken (Set.subset_inter (areas_subset_uncounted hfailures)
    (areas_subset_snapshotFree hstatements))

theorem creditSlots_subset_plainSlots : creditSlots ⊆ plainSlots :=
  Set.subset_inter creditSlots_subset_uncounted
    (creditSlots_subset_areas.trans (areas_subset_snapshotFree rfl))

theorem appendStatement_plain (id : Nat) (amount : Int) (merchant token : Address)
    (kind : BillingChargeKind) (periodStart timestamp : Nat) : Modifies plainSlots
      (appendStatement id amount merchant token kind periodStart timestamp) :=
  .bind (.gets _) fun _ => .bind (.okOr _ _) fun _ =>
    .bind (Modifies.store ⟨nofun, rfl⟩) fun _ => .bind (Modifies.store ⟨nofun, rfl⟩) fun _ =>
    .bind Modifies.load fun _ => Modifies.store ⟨nofun, rfl⟩

theorem settleOneOff_plain (id : Nat) (sub : Subscription) (charged amount : Int)
    (key : Option BytesN32) : Modifies plainSlots (settleOneOff id sub charged amount key) := by
  have hfee (fee : Int) (treasury : Option Address) :
      Modifies plainSlots (creditOneOffFee sub.token fee treasury) :=
    .when <| .whenSome fun _ =>
      (Modifies.creditMerchantBalanceForToken _ _ _ _).weaken creditSlots_subset_plainSlots
  exact .bind .ask fun _ => .bind (.lift _) fun _ => .bind (.gets _) fun _ => .bind (.gets _)
    fun _ => .bind (.lift _) fun _ =>
    .bind ((Modifies.creditChargePayees _ _ _ _).weaken creditSlots_subset_plainSlots) fun _ =>
    .bind ((Modifies.routeToSubAccount _ _).weaken creditSlots_subset_plainSlots) fun _ =>
    .bind (hfee _ _) fun _ =>
    .bind (.lift _) fun _ => .bind (appendStatement_plain _ _ _ _ _ _ _) fun _ =>
    (recordIdemKey_areas _ _ _).plain rfl rfl

theorem doChargeOneOff_plain (id : Nat) (merchant : Address) (amount : Int)
    (key : Option BytesN32) : Modifies plainSlots (doChargeOneOff id merchant amount key) := by
  have hcheck (sub : Subscription) : Modifies plainSlots (checkOneOff id sub merchant amount) :=
    .bind (.failIf _ _) fun _ => .bind (.when <| .bind (.when
        ((cancelCapped_areas _ _).plain rfl rfl)) fun _ => .fail _) fun _ =>
      .bind (.failIf _ _) fun _ => .bind (.failIf _ _) fun _ => .bind (.failIf _ _) fun _ =>
      .bind (.lift _) fun _ => .bind (.when <| .bind
        ((cancelCapped_areas _ _).plain rfl rfl) fun _ => .fail _) fun _ => .pure _
  exact .bind .ask fun _ => .bind (Modifies.requireAuth _) fun _ =>
    .bind (Modifies.getSubscription _) fun _ => .bind (Modifies.requireNotBlocklisted _) fun _ =>
    .bind (Modifies.requireNotBlocklisted _) fun _ => .bind (Modifies.checkSplitPayees _) fun _ =>
    .bind ((failIfExpired_areas _ _).plain rfl rfl) fun _ => .bind (.gets _) fun _ => .when <|
    .bind (hcheck _) fun _ => settleOneOff_plain _ _ _ _ _

theorem doGraceBuyout_plain (id : Nat) (subscriber : Address) (amount : Int)
    (key : Option BytesN32) : Modifies plainSlots (doGraceBuyout id subscriber amount key) :=
  .bind .ask fun _ => .bind (Modifies.requireAuth _) fun _ =>
    .bind (Modifies.getSubscription _) fun _ => .bind (.failIf _ _) fun _ =>
    .bind (.gets _) fun _ => .bind (.lift _) fun _ => .bind (.lift _) fun _ =>
    .bind (.failIf _ _) fun _ => .bind (.lift _) fun _ => .bind (.lift _) fun _ =>
    .bind (.lift _) fun _ => .bind ((writeSubscription_areas _ _).plain rfl rfl) fun _ =>
    .bind (.lift _) fun _ => .bind
      ((Modifies.creditMerchantBalanceForToken _ _ _ _).weaken creditSlots_subset_plainSlots)
    fun _ => .bind (.require _) fun _ =>
    .bind (Modifies.store ⟨nofun, rfl⟩) fun _ =>
    .bind (appendStatement_plain _ _ _ _ _ _ _) fun _ =>
    .bind ((recordIdemKey_areas _ _ _).plain rfl rfl) fun _ => .pure _

end Footprints

/-! ## Attempts -/

/-- The subscription is paused now, and was not before. -/
def GetsPaused (id : Nat) (s t : State) : Prop :=
  (s.subscription id).map (·.status) ≠ some .paused ∧
    (t.subscription id).map (·.status) = some .paused

/-- Where the balance covers a due charge, the charge can be logged. -/
def LogsFunded (env : Env) (s : State) (id : Nat) (key : Option BytesN32) : Prop :=
  ∀ sub charge, DueCharge env s id key sub charge.amount charge.nextAllowed →
    safeSubBalance sub.prepaidBalance charge.amount = .ok charge.newBalance →
    charge.periodIndex = (env.now - sub.startTime) / sub.intervalSeconds →
    LogsAccepted env s id sub charge key

/-- What an attempt did to the counter and to the status. -/
inductive Attempted (env : Env) (s : State) (id : Nat) (key : Option BytesN32) :
    Outcome Error State ChargeExecutionResult → Prop
  | trap : Attempted env s id key .trap
  | quiet {result : ChargeExecutionResult} {t : State} :
      result ≠ .insufficientBalance →
      (result = .charged → s.isReplayedKey env .chargeInterval id key = true) →
      t.failures id = s.failures id → ¬GetsPaused id s t → Attempted env s id key (.ok result t)
  | charged {t : State} :
      s.isReplayedKey env .chargeInterval id key = false → t.failures id = 0 →
      ¬GetsPaused id s t → Attempted env s id key (.ok .charged t)
  | short {short : Subscription} :
      (s.subscription id).map (·.status) ≠ some .paused →
      short.status = .gracePeriod ∨ short.status = .insufficientBalance →
      Attempted env s id key (.ok .insufficientBalance (s.withShortfall id short))
  | failed {e : Error} {t : State} :
      t.failures id = s.failures id ∨ (t.failures id = 0 ∧ ¬LogsFunded env s id key) →
      ¬GetsPaused id s t → Attempted env s id key (.err e t)

section Attempts

variable {env : Env} {s t : State} {id : Nat} {key : Option BytesN32} {sub : Subscription}
  {charge : IntervalCharge} {e : Error} {u : Unit}

theorem not_getsPaused_of_same (h : t.subscription id = s.subscription id) :
    ¬GetsPaused id s t := by
  rintro ⟨hbefore, hafter⟩
  rw [h] at hafter
  exact hbefore hafter

theorem not_getsPaused_of_set {b : Book} {new : Subscription} (hstatus : new.status ≠ .paused)
    (hrecord : t.book.record = (b.setRecord id new).record) : ¬GetsPaused id s t := by
  rintro ⟨-, hafter⟩
  have hnew : t.subscription id = some new := by
    show t.book.record id = some new
    rw [hrecord]
    exact Function.update_self _ _ _
  rw [hnew, Option.map_some] at hafter
  exact hstatus (Option.some.inj hafter)

theorem Subscription.SettledTo.ne_paused {new : Subscription} {amount : Int} {now : Nat}
    (h : sub.SettledTo new amount now) : new.status ≠ .paused := by
  rw [h.1]
  split <;> decide

/-- A stored status is the one that is read, but for a lapsed grace period. -/
theorem stored_ne_paused (hfound : s.effectiveSubscription id env.now = some sub)
    (hchargeable : sub.isChargeable) : (s.subscription id).map (·.status) ≠ some .paused := by
  obtain ⟨stored, hstored, hreads⟩ := Book.reads_of_effective hfound
  have hstored : s.subscription id = some stored := hstored
  rw [hstored, Option.map_some]
  intro hpaused
  have hpaused : stored.status = .paused := Option.some.inj hpaused
  rcases hreads with rfl | ⟨hgrace, -⟩
  · rcases hchargeable with h | h | h
    · rw [h] at hpaused
      cases hpaused
    · rw [h] at hpaused
      cases hpaused
    · rw [h] at hpaused
      cases hpaused
  · rw [hgrace] at hpaused
    cases hpaused

/-- What a charge writes once it has cleared the counter. -/
theorem settled_uncounted (booked : Subscription) (start now : Nat)
    (snapshot : BillingPeriodSnapshot) : Modifies uncounted (do
      let settled ← lift booked.cancelledWhenCapped
      writeSubscription id settled
      appendStatement id charge.amount sub.merchant sub.token .interval start now
      writePeriodSnapshot snapshot
      store (.instanced (.chargedPeriod id)) charge.periodIndex
      store (.instanced (.chargeSalt id)) charge.salt
      recordIdemKey .chargeInterval id key) :=
  .bind (.lift _) fun _ => .bind ((writeSubscription_areas _ _).uncounted rfl) fun _ =>
    .bind ((appendStatement_areas _ _ _ _ _ _ _).uncounted rfl) fun _ =>
    .bind ((writePeriodSnapshot_areas _).uncounted rfl) fun _ =>
    .bind (Modifies.store (by simp [uncounted, Slot.area, DataKey.area])) fun _ =>
    .bind (Modifies.store (by simp [uncounted, Slot.area, DataKey.area])) fun _ =>
    (recordIdemKey_areas _ _ _).uncounted rfl

/-- A settled charge clears the counter. -/
theorem settleInterval_failures
    (hrun : (settleInterval id sub charge key none).run env s = .ok u t) (i : Nat) :
    t.failures i = if id = i then 0 else s.failures i := by
  obtain ⟨_, hask, hrun⟩ := run_check_ok .ask hrun
  obtain ⟨rfl, -⟩ := run_ask_ok.mp hask
  obtain ⟨_, -, hrun⟩ := run_check_ok (.gets _) hrun
  obtain ⟨_, -, hrun⟩ := run_check_ok (.lift _) hrun
  obtain ⟨_, s₁, hcredit, hrun⟩ := run_bind_ok.mp hrun
  obtain ⟨_, s₂, hroute, hrun⟩ := run_bind_ok.mp hrun
  obtain ⟨_, s₃, hfee, hrun⟩ := run_bind_ok.mp hrun
  have hpaid : FiniteStore.AgreeOff uncounted s s₃ :=
    (((creditChargePayees_uncounted _ _ _ _).ok hcredit).trans
      ((routeToSubAccount_uncounted _ _).ok hroute)).trans
      ((creditProtocolFee_uncounted _ _ _ _).ok hfee)
  obtain ⟨booked, -, hrun⟩ := run_check_ok (.lift _) hrun
  obtain ⟨_, s₄, hclear, hrun⟩ := run_bind_ok.mp hrun
  obtain rfl := run_delete_ok.mp hclear
  exact State.failures_cleared hpaid ((settled_uncounted _ _ _ _).ok hrun) i

/-- A due charge is booked as active, so it may be cancelled at its cap. -/
theorem cancelledWhenCapped_succeeds {booked : Subscription} (h : booked.status = .active) :
    ∃ new, booked.cancelledWhenCapped = .ok new := by
  unfold Subscription.cancelledWhenCapped
  split
  · rw [h]
    exact ⟨_, rfl⟩
  · exact ⟨_, rfl⟩

theorem Subscription.booked_active {booked : Subscription} {amount newBalance : Int} {now : Nat}
    (hchargeable : sub.isChargeable) (hbooked : sub.booked amount newBalance now = .ok booked) :
    booked.status = .active := by
  obtain ⟨lifetime, -, hbooked⟩ := except_bind_ok.mp hbooked
  split at hbooked
  · obtain ⟨status, hstatus, hbooked⟩ := except_bind_ok.mp hbooked
    obtain ⟨-, rfl⟩ := transitionTo_ok.mp hstatus
    cases hbooked
    rfl
  · rename_i hbehind
    cases hbooked
    rcases hchargeable with h | h | h
    · exact h
    · exact absurd (.inl h) hbehind
    · exact absurd (.inr h) hbehind

/-- A charge that fails has not cleared the counter, unless it could not be logged. -/
theorem settleInterval_err_failures
    (hdue : DueCharge env s id key sub charge.amount charge.nextAllowed)
    (hrun : (settleInterval id sub charge key none).run env s = .err e t) :
    t.failures = s.failures ∨
      ((∀ i, t.failures i = if id = i then 0 else s.failures i) ∧
        ¬LogsAccepted env s id sub charge key) := by
  rcases run_check_err .ask hrun with rfl | ⟨_, hask, hrun⟩
  · exact .inl rfl
  obtain ⟨rfl, -⟩ := run_ask_ok.mp hask
  rcases run_check_err (.gets _) hrun with rfl | ⟨_, -, hrun⟩
  · exact .inl rfl
  rcases run_check_err (.lift _) hrun with rfl | ⟨_, -, hrun⟩
  · exact .inl rfl
  have hpaying {v : State} (h : FiniteStore.AgreeOff creditSlots s v) :
      v.failures = s.failures :=
    State.failures_of_agreeOff (h.mono creditSlots_subset_uncounted)
  rcases run_bind_err.mp hrun with hfail | ⟨_, s₁, hcredit, hrun⟩
  · exact .inl (hpaying ((Modifies.creditChargePayees _ _ _ _).err hfail))
  have h₁ := (Modifies.creditChargePayees _ _ _ _).ok hcredit
  rcases run_bind_err.mp hrun with hfail | ⟨_, s₂, hroute, hrun⟩
  · exact .inl (hpaying (h₁.trans ((Modifies.routeToSubAccount _ _).err hfail)))
  have h₂ := h₁.trans ((Modifies.routeToSubAccount _ _).ok hroute)
  rcases run_bind_err.mp hrun with hfail | ⟨_, s₃, hfee, hrun⟩
  · exact .inl (hpaying (h₂.trans ((Modifies.creditProtocolFee _ _ _ _).err hfail)))
  have h₃ := h₂.trans ((Modifies.creditProtocolFee _ _ _ _).ok hfee)
  rcases run_check_err (.lift _) hrun with rfl | ⟨booked, hbooked, hrun⟩
  · exact .inl (hpaying h₃)
  have hactive := Subscription.booked_active hdue.chargeable (run_lift_ok.mp hbooked).1
  -- the counter is cleared, and only the log can still fail
  rcases run_bind_err.mp hrun with hfail | ⟨_, s₄, hclear, hrun⟩
  · exact (run_delete_err.mp hfail).elim
  obtain rfl := run_delete_ok.mp hclear
  refine .inr ⟨State.failures_cleared (h₃.mono creditSlots_subset_uncounted)
    ((settled_uncounted _ _ _ _).err hrun), fun hlogs => ?_⟩
  obtain ⟨new, hnew⟩ := cancelledWhenCapped_succeeds hactive
  have hperiod : charge.nextAllowed - sub.intervalSeconds < env.now := by
    have hnext := (nextChargeTime_ok.mp hdue.next).1
    have hinterval := hdue.interval
    have helapsed := hdue.elapsed
    omega
  have hcounter : Slot.instanced (.chargeFailureCounter id) ∈ unlogged := ⟨rfl, nofun⟩
  have hrecord : Slot.persistent (.sub id) ∈ unlogged := ⟨rfl, nofun⟩
  have hagree : FiniteStore.AgreeOff unlogged s
      ((s₃.remove (.instanced (.chargeFailureCounter id))).write (.persistent (.sub id)) new) :=
    ((h₃.mono (creditSlots_subset_unlogged.trans Set.inter_subset_left)).trans
      (s₃.agreeOff_remove hcounter)).trans (FiniteStore.agreeOff_write _ _ hrecord)
  obtain ⟨w, hw⟩ := logs_succeed (hlogs.of_agreeOff hagree) hperiod
  rcases run_bind_err.mp hrun with hfail | ⟨_, _, hsettled, hrun⟩
  · rw [hnew] at hfail
    cases (run_lift_err.mp hfail).1
  obtain ⟨hsame, rfl⟩ := run_lift_ok.mp hsettled
  obtain rfl := Except.ok.inj (hnew.symm.trans hsame)
  rcases run_bind_err.mp hrun with hfail | ⟨_, _, hwrite, hrun⟩
  · exact (run_store_err.mp hfail).elim
  obtain rfl := run_store_ok.mp hwrite
  exact absurd (hw.symm.trans hrun) (by simp)

theorem chargeOne_attempted (env : Env) (s : State) (id : Nat) (key : Option BytesN32) :
    Attempted env s id key ((chargeOne id key none ∅).run env s) := by
  have hsame {t : State} (hbook : t.book = s.book) : ¬GetsPaused id s t :=
    not_getsPaused_of_same (congrFun (congrArg Book.record hbook) id)
  have hset {t : State} {new : Subscription} (hbook : t.book = s.book.setRecord id new)
      (hstatus : new.status ≠ .paused) : ¬GetsPaused id s t :=
    not_getsPaused_of_set hstatus (congrArg Book.record hbook)
  have hmarked {t : State} {new : Subscription} {period : Nat} {salt : BytesN32}
      (hbook : t.book = (s.book.setRecord id new).marked id period salt)
      (hstatus : new.status ≠ .paused) : ¬GetsPaused id s t :=
    not_getsPaused_of_set (b := s.book) hstatus (by rw [hbook]; rfl)
  have hkept {l : List Area} {t : State} (hl : l.contains .failures = false)
      (h : FiniteStore.AgreeOff (areas l) s t) : t.failures id = s.failures id :=
    congrFun (State.failures_of_agreeOff (h.mono (areas_subset_uncounted hl))) id
  have houtcome := chargeOne_outcome env s id key
  generalize (chargeOne id key none ∅).run env s = o at houtcome ⊢
  cases houtcome with
  | trap => exact .trap
  | refused e => exact .failed (.inl rfl) (hsame rfl)
  | expired _ hexpire =>
    refine .failed (.inl (hkept rfl ((failIfExpired_areas _ _).err hexpire))) ?_
    rcases failIfExpired_book hexpire with hbook | ⟨-, -, hbook⟩
    · exact hsame hbook
    · exact hset hbook nofun
  | idle _ hreplayed _ hresult => exact .quiet hresult hreplayed rfl (hsame rfl)
  | capped _ _ _ hcancel =>
    exact .quiet nofun nofun (hkept rfl ((cancelCapped_areas _ _).ok hcancel))
      (hset (cancelCapped_book hcancel).2 nofun)
  | cancelled _ hstatus _ hcancel =>
    exact .quiet nofun nofun
      (hkept rfl ((fireScheduledCancellation_areas _ _).ok hcancel))
      (hset (fireScheduledCancellation_book hstatus hcancel).2 nofun)
  | short hdue _ hshort =>
    obtain ⟨grace, short, hgrace, hbehind, rfl⟩ := run_recordShortfall_ok.mp hshort
    obtain ⟨-, rfl⟩ := (underfunded_ok hgrace hdue.found hdue.chargeable).mp hbehind
    refine .short (stored_ne_paused hdue.found hdue.chargeable) ?_
    rw [Subscription.fallenBehind_status]
    split
    · exact .inl rfl
    · exact .inr rfl
  | @settled sub charge t hdue hbalance _ _ hsettle =>
    have hends := settleInterval_ends env s id hdue.chargeable hbalance key
    rw [hsettle] at hends
    cases hends with
    | complete hsettled hbook =>
      exact .charged hdue.freshKey ((settleInterval_failures hsettle id).trans (if_pos rfl))
        (hmarked hbook hsettled.ne_paused)
  | @unsettled sub charge e t hdue hbalance hperiod _ hsettle =>
    have hcounter : t.failures id = s.failures id ∨
        (t.failures id = 0 ∧ ¬LogsFunded env s id key) :=
      (settleInterval_err_failures hdue hsettle).imp (congrFun · id) fun h =>
        ⟨(h.1 id).trans (if_pos rfl), fun hfunded => h.2 (hfunded sub charge hdue hbalance hperiod)⟩
    have hends := settleInterval_ends env s id hdue.chargeable hbalance key
    rw [hsettle] at hends
    cases hends with
    | unwritten _ hbook => exact .failed hcounter (hsame hbook)
    | unmarked _ hsettled hbook => exact .failed hcounter (hset hbook hsettled.ne_paused)
    | unkeyed _ hsettled hbook => exact .failed hcounter (hmarked hbook hsettled.ne_paused)

/-- An attempt leaves the counters of other subscriptions alone. -/
theorem chargeOne_elsewhere (id : Nat) (key : Option BytesN32) {i : Nat} (hi : id ≠ i) :
    (chargeOne id key none ∅).Keeps fun s t => t.failures i = s.failures i := by
  have hkept {l : List Area} {s t : State} (hl : l.contains .failures = false)
      (h : FiniteStore.AgreeOff (areas l) s t) : t.failures i = s.failures i :=
    congrFun (State.failures_of_agreeOff (h.mono (areas_subset_uncounted hl))) i
  have hends (env : Env) (s : State) := chargeOne_outcome env s id key
  refine .of_runs (fun env s result t hrun => ?_) fun env s e t hrun => ?_
  · have houtcome := hends env s
    rw [hrun] at houtcome
    cases houtcome with
    | idle => rfl
    | capped _ _ _ hcancel => exact hkept rfl ((cancelCapped_areas _ _).ok hcancel)
    | cancelled _ _ _ hcancel => exact hkept rfl ((fireScheduledCancellation_areas _ _).ok hcancel)
    | short _ _ hshort =>
      obtain ⟨grace, short, -, -, rfl⟩ := run_recordShortfall_ok.mp hshort
      rw [State.failures, State.failures, (s.withShortfall_agreeOff id short).read
        (by simpa [shortfallSlots] using fun h => hi h.symm)]
    | settled _ _ _ _ hsettle => exact (settleInterval_failures hsettle i).trans (if_neg hi)
  · have houtcome := hends env s
    rw [hrun] at houtcome
    cases houtcome with
    | refused => rfl
    | expired _ hexpire => exact hkept rfl ((failIfExpired_areas _ _).err hexpire)
    | unsettled hdue _ _ _ hsettle =>
      rcases settleInterval_err_failures hdue hsettle with hsame | ⟨hcleared, -⟩
      · exact congrFun hsame i
      · exact (hcleared i).trans (if_neg hi)

/-! ## One count -/

theorem State.failures_withShortfall (s : State) (id : Nat) (short : Subscription) :
    (s.withShortfall id short).failures id =
      if 0 < s.autoPauseThreshold ∧ short.status = .insufficientBalance then
        if s.autoPauseThreshold ≤ s.failuresNow id then 0 else s.failuresNow id
      else s.failures id := by
  unfold State.withShortfall
  by_cases hcounts : 0 < s.autoPauseThreshold ∧ short.status = .insufficientBalance
  · rw [if_pos hcounts, if_pos hcounts]
    by_cases hreached : s.autoPauseThreshold ≤ s.failuresNow id
    · rw [if_pos hreached, if_pos hreached, State.failures, FiniteStore.read_remove_self]
      rfl
    · rw [if_neg hreached, if_neg hreached, State.failures, FiniteStore.read_write_self]
      rfl
  · rw [if_neg hcounts, if_neg hcounts, State.failures, FiniteStore.read_write_of_ne _ _ (by simp)]
    rfl

/-- Below a threshold that fits its type the next failure is counted. -/
theorem State.failuresNow_eq {limit : Nat} (hfits : limit ≤ u32Max) (hbelow : s.failures id < limit) :
    s.failuresNow id = s.failures id + 1 := by
  unfold State.failuresNow saturatingAddU32
  unfold State.failures at hbelow ⊢
  omega

end Attempts

end SubscriptionVault
