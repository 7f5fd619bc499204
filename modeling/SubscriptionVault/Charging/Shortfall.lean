import SubscriptionVault.Charging.IntervalCharge
import SubscriptionVault.Contract.Entrypoints

/-!
# Underfunded charges

A due charge that the balance does not cover moves no money; it stores a status instead. Which
one is for the configuration to say: the grace period while its window is open, after that the
underfunded status, and the paused one at the auto-pause threshold. The code stores it unless
the window has already lapsed for a subscription that reads as underfunded: the matrix has no
way back into the grace period it then tries to start again.
-/

namespace SubscriptionVault

open Exec

/-! ## The prescribed status -/

/-- A shortfall at `now` starts a grace window, or falls into the one that was started. -/
def Subscription.graceWindowOpen (stored : Subscription) (grace now : Nat) : Prop :=
  0 < grace ∧ (stored.status = .active ∨ stored.status = .gracePeriod ∧
    stored.graceStartTimestamp.all fun start => now < saturatingAddU64 start grace)

instance (stored : Subscription) (grace now : Nat) :
    Decidable (stored.graceWindowOpen grace now) := inferInstanceAs (Decidable (_ ∧ _))

/-- The status after the `failures`-th shortfall in a row. -/
def Subscription.prescribedStatus (stored : Subscription) (grace threshold failures now : Nat) :
    SubscriptionStatus :=
  if stored.graceWindowOpen grace now then .gracePeriod
  else if 0 < threshold ∧ threshold ≤ failures then .paused
  else .insufficientBalance

/-- The number of shortfalls in a row with the present one. -/
def State.failuresNow (s : State) (id : Nat) : Nat :=
  saturatingAddU32 ((s.read (.instanced (.chargeFailureCounter id))).getD 0) 1

/-- What a shortfall may write. -/
def shortfallSlots (id : Nat) : Set Slot :=
  {.persistent (.sub id), .instanced (.chargeFailureCounter id)}

/-- The status is stored as prescribed, and nothing else but the start of the window and the
count of shortfalls changes. -/
def ShortfallRecorded (env : Env) (s : State) (id : Nat) (t : State) : Prop :=
  ∃ stored after grace, s.subscription id = some stored ∧ s.gracePeriod = .ok grace ∧
    t.subscription id = some after ∧
    after = { stored with
      status := stored.prescribedStatus grace s.autoPauseThreshold (s.failuresNow id) env.now
      graceStartTimestamp := after.graceStartTimestamp } ∧
    FiniteStore.AgreeOff (shortfallSlots id) s t

/-- No grace is configured and none is read, or grace is configured and the subscription does
not read as underfunded. -/
def State.ShortfallHandled (s : State) (sub : Subscription) : Prop :=
  ∃ grace, s.gracePeriod = .ok grace ∧
    (grace = 0 ∧ sub.status ≠ .gracePeriod ∨ 0 < grace ∧ sub.status ≠ .insufficientBalance)

/-! ## The recorded shortfall -/

/-- The state after a shortfall was recorded and counted. -/
def State.withShortfall (s : State) (id : Nat) (short : Subscription) : State :=
  let written := s.write (.persistent (.sub id)) short
  if 0 < s.autoPauseThreshold ∧ short.status = .insufficientBalance then
    let counted := written.write (.instanced (.chargeFailureCounter id)) (s.failuresNow id)
    if s.autoPauseThreshold ≤ s.failuresNow id then
      (counted.write (.persistent (.sub id)) { short with status := .paused }).remove
        (.instanced (.chargeFailureCounter id))
    else counted
  else written

section Recorded

variable {env : Env} {s t : State} {id : Nat} {sub : Subscription}

theorem run_recordShortfall_ok {u : Unit} :
    (recordShortfall id sub none).run env s = .ok u t ↔
      ∃ grace short, s.gracePeriod = .ok grace ∧ sub.underfunded env.now grace = .ok short ∧
        s.withShortfall id short = t := by
  have hthreshold (short : Subscription) :
      State.autoPauseThreshold (s.write (.persistent (.sub id)) short) = s.autoPauseThreshold := by
    unfold State.autoPauseThreshold
    rw [FiniteStore.read_write_of_ne _ _ (by simp)]
  have hcounter (short : Subscription) :
      FiniteStore.read (s.write (.persistent (.sub id)) short)
        (.instanced (.chargeFailureCounter id)) =
      s.read (.instanced (.chargeFailureCounter id)) :=
    FiniteStore.read_write_of_ne _ _ (by simp)
  simp only [recordShortfall, countChargeFailure, writeSubscription, run_bind_ok, run_ask_ok,
    run_gets_ok, run_lift_ok, run_store_ok, run_when_ok, run_load_ok, run_delete_ok,
    Option.elim_none]
  constructor
  · rintro ⟨_, _, ⟨rfl, rfl⟩, _, _, ⟨rfl, rfl⟩, grace, _, ⟨hgrace, rfl⟩, short, _,
      ⟨hshort, rfl⟩, _, _, rfl, _, _, ⟨rfl, rfl⟩, hcount⟩
    refine ⟨grace, short, hgrace, hshort, ?_⟩
    simp only [hthreshold] at hcount
    unfold State.withShortfall
    rcases hcount with ⟨hcounts, _, _, ⟨rfl, rfl⟩, _, _, rfl, hpause⟩ | ⟨hquiet, rfl⟩
    · rw [if_pos hcounts]
      simp only [hcounter] at hpause ⊢
      rcases hpause with ⟨hreached, _, _, rfl, rfl⟩ | ⟨hbelow, rfl⟩
      · exact if_pos hreached
      · exact if_neg hbelow
    · exact if_neg hquiet
  · rintro ⟨grace, short, hgrace, hshort, rfl⟩
    refine ⟨_, _, ⟨rfl, rfl⟩, _, _, ⟨rfl, rfl⟩, grace, _, ⟨hgrace, rfl⟩, short, _, ⟨hshort, rfl⟩,
      (), _, rfl, _, _, ⟨rfl, rfl⟩, ?_⟩
    simp only [hthreshold]
    unfold State.withShortfall
    split
    · rename_i hcounts
      refine .inl ⟨hcounts, _, _, ⟨rfl, rfl⟩, (), _, rfl, ?_⟩
      simp only [hcounter]
      split
      · rename_i hreached
        exact .inl ⟨hreached, (), _, rfl, rfl⟩
      · rename_i hbelow
        exact .inr ⟨hbelow, rfl⟩
    · rename_i hquiet
      exact .inr ⟨hquiet, rfl⟩

theorem State.withShortfall_agreeOff (s : State) (id : Nat) (short : Subscription) :
    FiniteStore.AgreeOff (shortfallSlots id) s (s.withShortfall id short) := by
  have hsub : .persistent (.sub id) ∈ shortfallSlots id := by simp [shortfallSlots]
  have hcounter : .instanced (.chargeFailureCounter id) ∈ shortfallSlots id := by
    simp [shortfallSlots]
  have hwritten := FiniteStore.agreeOff_write s short hsub
  unfold State.withShortfall
  split
  · have hcounted := hwritten.trans (FiniteStore.agreeOff_write _ (s.failuresNow id) hcounter)
    split
    · exact (hcounted.trans (FiniteStore.agreeOff_write _ _ hsub)).trans
        (FiniteStore.agreeOff_remove _ hcounter)
    · exact hcounted
  · exact hwritten

theorem State.subscription_withShortfall (s : State) (id : Nat) (short : Subscription) :
    (s.withShortfall id short).subscription id =
      some (if 0 < s.autoPauseThreshold ∧ short.status = .insufficientBalance ∧
          s.autoPauseThreshold ≤ s.failuresNow id then { short with status := .paused }
        else short) := by
  unfold State.withShortfall State.subscription
  by_cases hcounts : 0 < s.autoPauseThreshold ∧ short.status = .insufficientBalance
  · by_cases hreached : s.autoPauseThreshold ≤ s.failuresNow id
    · simp [hcounts, hreached]
    · simp [hcounts, hreached]
  · have hquiet : ¬(0 < s.autoPauseThreshold ∧ short.status = .insufficientBalance ∧
        s.autoPauseThreshold ≤ s.failuresNow id) := fun h => hcounts ⟨h.1, h.2.1⟩
    simp [hcounts, hquiet]

/-! ## When the prescribed status is stored -/

/-- A grace period that was started and has run out. -/
def Subscription.graceLapsed (stored : Subscription) (grace now : Nat) : Prop :=
  stored.status = .gracePeriod ∧ ∃ start, stored.graceStartTimestamp = some start ∧
    (grace = 0 ∨ saturatingAddU64 start grace ≤ now)

theorem effectiveSubscription_cases {grace now : Nat} (hgrace : s.gracePeriod = .ok grace)
    (hfound : s.effectiveSubscription id now = some sub) :
    ∃ stored, s.subscription id = some stored ∧
      (stored.graceLapsed grace now ∧ sub = { stored with status := .insufficientBalance } ∨
        ¬stored.graceLapsed grace now ∧ sub = stored) := by
  obtain ⟨stored, hstored, hsub⟩ := Option.map_eq_some_iff.mp hfound
  have hvalue : s.gracePeriod.toOption.getD 0 = grace := by
    rw [hgrace]
    rfl
  rw [hvalue] at hsub
  have hlapsed : (stored.status = .gracePeriod ∧ stored.graceStartTimestamp.any (fun start =>
      grace = 0 || saturatingAddU64 start grace ≤ now) = true) ↔ stored.graceLapsed grace now := by
    simp [Subscription.graceLapsed, Option.any_eq_true]
  refine ⟨stored, hstored, ?_⟩
  split at hsub
  · rename_i h
    exact .inl ⟨hlapsed.mp h, hsub.symm⟩
  · rename_i h
    exact .inr ⟨fun h' => h (hlapsed.mpr h'), hsub.symm⟩

/-- The window is open for what reads as active or in its grace period, and for nothing else. -/
theorem graceWindowOpen_iff {stored : Subscription} {grace now : Nat}
    (hgrace : s.gracePeriod = .ok grace) (hstored : s.subscription id = some stored)
    (hfound : s.effectiveSubscription id now = some sub) :
    stored.graceWindowOpen grace now ↔
      0 < grace ∧ (sub.status = .active ∨ sub.status = .gracePeriod) := by
  obtain ⟨stored', hstored', hcases⟩ := effectiveSubscription_cases hgrace hfound
  rw [hstored] at hstored'
  obtain rfl := Option.some.inj hstored'
  unfold Subscription.graceWindowOpen
  rcases hcases with ⟨⟨hstatus, start, hstart, hlapsed⟩, rfl⟩ | ⟨hopen, hsame⟩
  · simp only [hstatus, hstart, reduceCtorEq, false_or, true_and, Option.all_some,
      decide_eq_true_eq, or_self, and_false, iff_false, not_and]
    omega
  · rw [hsame]
    refine and_congr_right fun hpos => or_congr_right ⟨And.left, fun hstatus => ⟨hstatus, ?_⟩⟩
    cases hstart : stored.graceStartTimestamp with
    | none => rfl
    | some start =>
      have hrunning : ¬saturatingAddU64 start grace ≤ now := fun hle =>
        hopen ⟨hstatus, start, hstart, .inr hle⟩
      simpa using hrunning

/-- The status and the window a shortfall stores, before failures are counted. -/
def Subscription.fallenBehind (sub : Subscription) (grace now : Nat) : Subscription :=
  if sub.status = .gracePeriod then
    { sub with graceStartTimestamp := sub.graceStartTimestamp.or (some now) }
  else if 0 < grace then
    { sub with status := .gracePeriod, graceStartTimestamp := some now }
  else { sub with status := .insufficientBalance, graceStartTimestamp := none }

theorem underfunded_ok {short : Subscription} {grace now : Nat}
    (hgrace : s.gracePeriod = .ok grace) (hfound : s.effectiveSubscription id now = some sub)
    (hchargeable : sub.isChargeable) :
    sub.underfunded now grace = .ok short ↔
      (0 < grace → sub.status ≠ .insufficientBalance) ∧ sub.fallenBehind grace now = short := by
  unfold Subscription.underfunded Subscription.fallenBehind
  rcases hchargeable with hstatus | hstatus | hstatus
  · simp only [hstatus, reduceCtorEq, if_false, ne_eq, not_false_eq_true, implies_true, true_and]
    split <;> simp [transitionTo, canTransition, Except.map]
  · have hopen : ¬sub.graceLapsed grace now := by
      obtain ⟨stored, -, ⟨-, rfl⟩ | ⟨hopen, rfl⟩⟩ := effectiveSubscription_cases hgrace hfound
      · cases hstatus
      · exact hopen
    rw [if_pos hstatus, if_pos hstatus]
    simp only [hstatus, ne_eq, reduceCtorEq, not_false_eq_true, implies_true, true_and]
    cases hstart : sub.graceStartTimestamp with
    | none => simp
    | some start =>
      have hrunning : ¬(grace = 0 ∨ saturatingAddU64 start grace ≤ now) := fun h =>
        hopen ⟨hstatus, start, hstart, h⟩
      have hkept : { sub with
          status := .gracePeriod
          graceStartTimestamp := (some start).or (some now) } = sub := by
        cases sub
        simp_all
      simp only [hrunning, if_false, hkept, Except.ok.injEq]
  · simp only [hstatus, reduceCtorEq, if_false, ne_eq, not_true_eq_false, imp_false, Nat.not_lt]
    by_cases hpos : 0 < grace
    · have hnever : ¬grace ≤ 0 := by omega
      simp [hpos, hnever, transitionTo, canTransition, Except.map]
    · have hzero : grace ≤ 0 := by omega
      simp [hpos, hzero, transitionTo, canTransition, Except.map]

theorem Subscription.fallenBehind_status (sub : Subscription) (grace now : Nat) :
    (sub.fallenBehind grace now).status =
      if sub.status = .gracePeriod ∨ 0 < grace then .gracePeriod else .insufficientBalance := by
  unfold Subscription.fallenBehind
  by_cases hstatus : sub.status = .gracePeriod
  · simp [hstatus]
  · by_cases hpos : 0 < grace <;> simp [hstatus, hpos]

/-- Only the status of the record after the shortfall is in question. -/
theorem shortfallRecorded_withShortfall {stored : Subscription} {grace : Nat}
    (hgrace : s.gracePeriod = .ok grace) (hstored : s.subscription id = some stored)
    (hsame : sub = { stored with status := sub.status }) :
    ShortfallRecorded env s id (s.withShortfall id (sub.fallenBehind grace env.now)) ↔
      (if 0 < s.autoPauseThreshold ∧
          (sub.fallenBehind grace env.now).status = .insufficientBalance ∧
          s.autoPauseThreshold ≤ s.failuresNow id then .paused
        else (sub.fallenBehind grace env.now).status) =
      stored.prescribedStatus grace s.autoPauseThreshold (s.failuresNow id) env.now := by
  have hshape (status : SubscriptionStatus) :
      { sub.fallenBehind grace env.now with status } =
        { stored with
          status
          graceStartTimestamp := (sub.fallenBehind grace env.now).graceStartTimestamp } := by
    rw [hsame]
    unfold Subscription.fallenBehind
    split
    · rfl
    · split <;> rfl
  have hafter := s.subscription_withShortfall id (sub.fallenBehind grace env.now)
  constructor
  · rintro ⟨stored', after, grace', hstored', hgrace', hfinal, hprescribed, -⟩
    obtain rfl := Option.some.inj (hstored.symm.trans hstored')
    obtain rfl := Except.ok.inj (hgrace.symm.trans hgrace')
    obtain rfl := Option.some.inj (hafter.symm.trans hfinal)
    have hstatus := congrArg Subscription.status hprescribed
    refine Eq.trans ?_ hstatus
    split <;> rfl
  · intro hstatus
    refine ⟨stored, _, grace, hstored, hgrace, hafter, ?_, s.withShortfall_agreeOff id _⟩
    rw [← hstatus]
    split
    · exact hshape .paused
    · exact hshape (sub.fallenBehind grace env.now).status

/-- An underfunded charge stores the prescribed status and changes nothing else exactly when
grace is not configured and not read, or the subscription does not read as underfunded. -/
theorem shortfall_recorded_iff {key : Option BytesN32} {amount : Int} {nextAllowed : Nat}
    (hdue : DueCharge env s id key sub amount nextAllowed)
    (hshort : sub.prepaidBalance < amount) :
    (∃ t, (chargeOne id key none ∅).run env s = .ok .insufficientBalance t ∧
        ShortfallRecorded env s id t) ↔ s.ShortfallHandled sub := by
  obtain ⟨e, hbalance⟩ : ∃ e, safeSubBalance sub.prepaidBalance amount = .error e := by
    cases hresult : safeSubBalance sub.prepaidBalance amount with
    | ok left => exact absurd (safeSubBalance_ok.mp hresult).2.1 (Int.not_le.mpr hshort)
    | error e => exact ⟨e, rfl⟩
  have hcharge (t : State) :
      (chargeOne id key none ∅).run env s = .ok .insufficientBalance t ↔
        ∃ grace, s.gracePeriod = .ok grace ∧
          (0 < grace → sub.status ≠ .insufficientBalance) ∧
          s.withShortfall id (sub.fallenBehind grace env.now) = t := by
    rw [run_chargeOne_of_due hdue]
    simp only [payInterval, hbalance, run_bind_ok, run_pure_ok, true_and, run_recordShortfall_ok]
    constructor
    · rintro ⟨_, _, ⟨grace, short, hgrace, hfallen, rfl⟩, rfl⟩
      obtain ⟨hopen, rfl⟩ := (underfunded_ok hgrace hdue.found hdue.chargeable).mp hfallen
      exact ⟨grace, hgrace, hopen, rfl⟩
    · rintro ⟨grace, hgrace, hopen, rfl⟩
      exact ⟨(), _, ⟨grace, _, hgrace,
        (underfunded_ok hgrace hdue.found hdue.chargeable).mpr ⟨hopen, rfl⟩, rfl⟩, rfl⟩
  have hrecorded (grace : Nat) (hgrace : s.gracePeriod = .ok grace)
      (hopen : 0 < grace → sub.status ≠ .insufficientBalance) :
      ShortfallRecorded env s id (s.withShortfall id (sub.fallenBehind grace env.now)) ↔
        (grace = 0 → sub.status ≠ .gracePeriod) := by
    obtain ⟨stored, hstored, hsame⟩ := State.effectiveSubscription_eq_some hdue.found
    rw [shortfallRecorded_withShortfall hgrace hstored hsame, Subscription.fallenBehind_status,
      Subscription.prescribedStatus]
    simp only [graceWindowOpen_iff hgrace hstored hdue.found]
    rcases Nat.eq_zero_or_pos grace with rfl | hpos
    · -- without grace the window is closed, and only a grace period is kept
      by_cases hstatus : sub.status = .gracePeriod
      · by_cases hpaused : 0 < s.autoPauseThreshold ∧ s.autoPauseThreshold ≤ s.failuresNow id
        · simp [hstatus, hpaused]
        · simp [hstatus, hpaused]
      · simp [hstatus]
    · -- with grace every status but the underfunded one finds its window open
      have hreads : sub.status = .active ∨ sub.status = .gracePeriod := by
        rcases hdue.chargeable with h | h | h
        · exact .inl h
        · exact .inr h
        · exact absurd h (hopen hpos)
      simp [hpos, hpos.ne', hreads]
  constructor
  · rintro ⟨t, hrun, hrecord⟩
    obtain ⟨grace, hgrace, hopen, rfl⟩ := (hcharge t).mp hrun
    have hclosed := (hrecorded grace hgrace hopen).mp hrecord
    refine ⟨grace, hgrace, ?_⟩
    rcases Nat.eq_zero_or_pos grace with hzero | hpos
    · exact .inl ⟨hzero, hclosed hzero⟩
    · exact .inr ⟨hpos, hopen hpos⟩
  · rintro ⟨grace, hgrace, hcases⟩
    have hopen : 0 < grace → sub.status ≠ .insufficientBalance := fun hpos =>
      hcases.elim (fun h => absurd h.1 hpos.ne') And.right
    refine ⟨_, (hcharge _).mpr ⟨grace, hgrace, hopen, rfl⟩,
      (hrecorded grace hgrace hopen).mpr fun hzero => ?_⟩
    exact hcases.elim And.right fun h => absurd hzero h.1.ne'

end Recorded

section Examples

private def unfunded : List (Env × Vault Unit) :=
  (sampleEnv 0 [⟨2⟩], VaultCall.exec (.createSubscription sampleRequest)) :: sampleVault 300

/-- The first charge found nothing to take and started a grace period of 300 seconds. -/
private def lapsed : List (Env × Vault Unit) :=
  (sampleEnv 60 [], VaultCall.exec (.chargeSubscription 0 none)) :: unfunded

private def firstRecord : Subscription := sampleRequest.record none 0 0

private def lapsedRecord : Subscription :=
  { firstRecord with status := .insufficientBalance, graceStartTimestamp := some 60 }

private theorem firstCharge_due :
    DueCharge (sampleEnv 60 []) (afterCalls unfunded) 0 none firstRecord 10 60 where
  running := by decide +kernel
  found := by decide +kernel
  merchantOpen := by decide +kernel
  subscriberUnlisted := by decide +kernel
  merchantUnlisted := by decide +kernel
  payeesOpen := by
    have hnone : (afterCalls unfunded).splitPayees 0 = none := by decide +kernel
    simp [hnone]
  unexpired := by decide +kernel
  priced := by decide +kernel
  capLeft := by decide +kernel
  unscheduled := rfl
  chargeable := .inl rfl
  renewing := rfl
  interval := by decide
  freshSalt := by decide +kernel
  freshKey := by decide +kernel
  freshPeriod := by decide +kernel
  next := rfl
  elapsed := by decide
  fits := ⟨none, rfl, rfl⟩

theorem first_shortfall_recorded :
    ∃ t, (chargeOne 0 none none ∅).run (sampleEnv 60 []) (afterCalls unfunded) =
        .ok .insufficientBalance t ∧
      ShortfallRecorded (sampleEnv 60 []) (afterCalls unfunded) 0 t :=
  (shortfall_recorded_iff firstCharge_due (by decide)).mpr
    ⟨300, by decide +kernel, .inr ⟨by decide, by decide⟩⟩

private theorem lateCharge_due :
    DueCharge (sampleEnv 360 []) (afterCalls lapsed) 0 none lapsedRecord 10 60 where
  running := by decide +kernel
  found := by decide +kernel
  merchantOpen := by decide +kernel
  subscriberUnlisted := by decide +kernel
  merchantUnlisted := by decide +kernel
  payeesOpen := by
    have hnone : (afterCalls lapsed).splitPayees 0 = none := by decide +kernel
    simp [hnone]
  unexpired := by decide +kernel
  priced := by decide +kernel
  capLeft := by decide +kernel
  unscheduled := rfl
  chargeable := .inr (.inr rfl)
  renewing := rfl
  interval := by decide
  freshSalt := by decide +kernel
  freshKey := by decide +kernel
  freshPeriod := by decide +kernel
  next := rfl
  elapsed := by decide
  fits := ⟨none, rfl, rfl⟩

/-- The grace period is over, and the charge ends in an error. -/
theorem lapsed_shortfall_refused :
    DueCharge (sampleEnv 360 []) (afterCalls lapsed) 0 none lapsedRecord 10 60 ∧
      lapsedRecord.prepaidBalance < 10 ∧
      (chargeOne 0 none none ∅).run (sampleEnv 360 []) (afterCalls lapsed) =
        .err .invalidStatusTransition (afterCalls lapsed) := by
  refine ⟨lateCharge_due, by decide, ?_⟩
  have hgrace : (afterCalls lapsed).gracePeriod = .ok 300 := by decide +kernel
  rw [run_chargeOne_of_due lateCharge_due]
  refine run_bind_of_err ?_
  refine (run_bind_of_ok (run_ask_ok.mpr ⟨rfl, rfl⟩)).trans ?_
  refine (run_bind_of_ok (run_gets_ok.mpr ⟨hgrace, rfl⟩)).trans ?_
  refine (run_bind_of_ok (run_lift_ok.mpr ⟨rfl, rfl⟩)).trans ?_
  exact run_bind_of_err (run_lift_err.mpr ⟨rfl, rfl⟩)

end Examples

end SubscriptionVault
