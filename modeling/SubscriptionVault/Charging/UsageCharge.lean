import SubscriptionVault.Charging.IntervalCharge

/-!
# What a usage charge can do

A usage charge checks the parties and the subscription, the reference and the merchant's limits,
and looks at the lifetime cap and the balance last. Whatever a failed charge has written is
undone by its entrypoint, so only the ends without an error are listed.
-/

namespace SubscriptionVault

open Exec

/-! ## Limits -/

/-- The index of the billing period at `now`. -/
def Subscription.periodIndex (sub : Subscription) (now : Nat) : Nat :=
  (now - sub.startTime) / sub.intervalSeconds

/-- The counters with the current interval entered. -/
def UsageState.renew (state : UsageState) (limits : UsageLimits) (period : Nat) : UsageState :=
  if limits.usageCapUnits.isSome ∧ state.periodIndex < period then
    { state with periodIndex := period, currentPeriodUsageUnits := 0 }
  else state

/-- What keeps the units from being charged. -/
def UsageLimits.rejection (limits : UsageLimits) (state : UsageState) (period : Nat)
    (units : Int) (now : Nat) : Option UsageChargeResult :=
  let opened := state.enterWindow limits now
  if 0 < limits.burstMinIntervalSecs ∧
      now - state.lastUsageTimestamp < limits.burstMinIntervalSecs then
    some .burstLimitExceeded
  else if limits.rateLimitMaxCalls.any (· ≤ opened.windowCallCount) then
    some .rateLimitExceeded
  else if limits.usageCapUnits.any
      (· < clampI128 ((opened.renew limits period).currentPeriodUsageUnits + units)) then
    some .usageCapExceeded
  else none

namespace State

def usageState (s : State) (id : Nat) (sub : Subscription) (now : Nat) : UsageState :=
  (s.read (.instanced (.usageState id))).getD ⟨0, now, 0, 0, sub.periodIndex now⟩

def usageRejection (s : State) (id : Nat) (sub : Subscription) (units : Int) (now : Nat) :
    Option UsageChargeResult :=
  (s.read (.instanced (.usageLimits id))).bind fun limits =>
    limits.rejection (s.usageState id sub now) (sub.periodIndex now) units now

/-- The counters after the units have been let through. -/
def countedUsage (s : State) (id : Nat) (sub : Subscription) (units : Int) (now : Nat) :
    Option UsageState :=
  (s.read (.instanced (.usageLimits id))).elim (s.read (.instanced (.usageState id)))
    fun limits => some ((((s.usageState id sub now).enterWindow limits now).renew limits
      (sub.periodIndex now)).record units now)

/-- The counters after the cap has rejected units in a new interval. -/
def renewedUsage (s : State) (id : Nat) (sub : Subscription) (limits : UsageLimits) (now : Nat) :
    UsageState :=
  ((s.usageState id sub now).enterWindow limits now).renew limits (sub.periodIndex now)

/-- The usage cap counts units in an interval that the counters have not entered yet. -/
def entersUsagePeriod (s : State) (id : Nat) (sub : Subscription) (now : Nat) : Prop :=
  (s.read (.instanced (.usageLimits id))).any (·.usageCapUnits.isSome) = true ∧
    (s.usageState id sub now).periodIndex < sub.periodIndex now

end State

section Limits

variable {env : Env} {s t : State} {id : Nat} {sub : Subscription} {units : Int}
  {limits : UsageLimits} {state : UsageState} {rejected : Option UsageChargeResult}

theorem UsageState.enterWindow_periodIndex (state : UsageState) (limits : UsageLimits)
    (now : Nat) : (state.enterWindow limits now).periodIndex = state.periodIndex := by
  unfold UsageState.enterWindow
  split <;> rfl

theorem State.usageRejection_ne_charged {now : Nat} {result : UsageChargeResult}
    (h : s.usageRejection id sub units now = some result) : result ≠ .charged := by
  obtain ⟨limits, -, h⟩ := Option.bind_eq_some_iff.mp h
  unfold UsageLimits.rejection at h
  dsimp only at h
  split at h
  · cases h
    simp
  split at h
  · cases h
    simp
  split at h
  · cases h
    simp
  · cases h

/-- A rejection by the usage cap leaves nothing behind but the start of an interval. -/
theorem run_applyUsageCap_ok {period : Nat}
    (hrun : (applyUsageCap id limits state period units).run env s = .ok rejected t) :
    (rejected = some .usageCapExceeded ∧
      limits.usageCapUnits.any
        (· < clampI128 ((state.renew limits period).currentPeriodUsageUnits + units)) = true ∧
      (¬(limits.usageCapUnits.isSome ∧ state.periodIndex < period) ∧ t = s ∨
        (limits.usageCapUnits.isSome ∧ state.periodIndex < period) ∧
        t = s.write (.instanced (.usageState id)) (state.renew limits period))) ∨
    (rejected = none ∧ limits.usageCapUnits.any
      (· < clampI128 ((state.renew limits period).currentPeriodUsageUnits + units)) = false ∧
      t.read (.instanced (.usageState id)) =
        some ((state.renew limits period).record units env.now)) := by
  obtain ⟨_, hask, hrun⟩ := run_check_ok .ask hrun
  obtain ⟨rfl, -⟩ := run_ask_ok.mp hask
  obtain ⟨_, u, hstore, hrun⟩ := run_bind_ok.mp hrun
  have hrun : (if limits.usageCapUnits.any
      (· < clampI128 ((state.renew limits period).currentPeriodUsageUnits + units)) = true then
        pure (some .usageCapExceeded)
      else (do
        store (.instanced (.usageState id)) ((state.renew limits period).record units env.now)
        pure none) : Vault (Option UsageChargeResult)).run env u = .ok rejected t := hrun
  split at hrun
  · rename_i hexceeds
    obtain ⟨rfl, rfl⟩ := run_pure_ok.mp hrun
    refine .inl ⟨rfl, hexceeds, ?_⟩
    rcases run_when_ok.mp hstore with ⟨hrenewed, hstored⟩ | ⟨hkept, rfl⟩
    · exact .inr ⟨hrenewed, (run_store_ok.mp hstored).symm⟩
    · exact .inl ⟨hkept, rfl⟩
  · rename_i hfits
    obtain ⟨_, _, hrecord, hlast⟩ := run_bind_ok.mp hrun
    obtain ⟨rfl, rfl⟩ := run_pure_ok.mp hlast
    obtain rfl := run_store_ok.mp hrecord
    exact .inr ⟨rfl, by simpa using hfits, FiniteStore.read_write_self _ _⟩

theorem run_applyUsageLimits_ok
    (hrun : (applyUsageLimits id sub units).run env s = .ok rejected t) :
    rejected = s.usageRejection id sub units env.now ∧
      (rejected = none ∧
          t.read (.instanced (.usageState id)) = s.countedUsage id sub units env.now ∨
        rejected ≠ none ∧ t = s ∧
          (rejected = some .usageCapExceeded → ¬s.entersUsagePeriod id sub env.now) ∨
        rejected = some .usageCapExceeded ∧ s.entersUsagePeriod id sub env.now ∧
          ∃ limits, s.read (.instanced (.usageLimits id)) = some limits ∧
            t = s.write (.instanced (.usageState id)) (s.renewedUsage id sub limits env.now)) := by
  obtain ⟨_, hask, hrun⟩ := run_check_ok .ask hrun
  obtain ⟨rfl, -⟩ := run_ask_ok.mp hask
  obtain ⟨configured, hconfigured, hrun⟩ := run_check_ok Modifies.load hrun
  obtain rfl := (run_load_ok.mp hconfigured).1
  cases hlimits : s.read (.instanced (.usageLimits id)) with
  | none =>
    rw [hlimits] at hrun
    obtain ⟨rfl, rfl⟩ := run_pure_ok.mp hrun
    simp [State.usageRejection, State.countedUsage, hlimits]
  | some limits =>
    rw [hlimits] at hrun
    obtain ⟨_, -, hrun⟩ := run_check_ok (.require _) hrun
    obtain ⟨stored, hstored, hrun⟩ := run_check_ok Modifies.load hrun
    obtain rfl := (run_load_ok.mp hstored).1
    have hrejection : s.usageRejection id sub units env.now =
        limits.rejection (s.usageState id sub env.now) (sub.periodIndex env.now) units env.now := by
      simp [State.usageRejection, hlimits]
    have hperiod := (s.usageState id sub env.now).enterWindow_periodIndex limits env.now
    have hcounted : s.countedUsage id sub units env.now =
        some ((s.renewedUsage id sub limits env.now).record units env.now) := by
      simp [State.countedUsage, State.renewedUsage, hlimits]
    rw [hrejection, hcounted]
    unfold UsageLimits.rejection State.renewedUsage
    generalize hstate : s.usageState id sub env.now = state at hperiod ⊢
    have hrun : (if 0 < limits.burstMinIntervalSecs ∧
        env.now - state.lastUsageTimestamp < limits.burstMinIntervalSecs then
          pure (some .burstLimitExceeded)
        else if limits.rateLimitMaxCalls.any (· ≤ (state.enterWindow limits env.now).windowCallCount)
            = true then
          pure (some .rateLimitExceeded)
        else applyUsageCap id limits (state.enterWindow limits env.now) (sub.periodIndex env.now)
          units : Vault (Option UsageChargeResult)).run env s = .ok rejected t := by
      rw [← hstate]
      exact hrun
    split at hrun
    · rename_i hburst
      obtain ⟨rfl, rfl⟩ := run_pure_ok.mp hrun
      exact ⟨(if_pos hburst).symm, .inr (.inl ⟨by simp, rfl, nofun⟩)⟩
    rename_i hburst
    split at hrun
    · rename_i hrate
      obtain ⟨rfl, rfl⟩ := run_pure_ok.mp hrun
      exact ⟨((if_neg hburst).trans (if_pos hrate)).symm, .inr (.inl ⟨by simp, rfl, nofun⟩)⟩
    rename_i hrate
    rcases run_applyUsageCap_ok hrun with ⟨rfl, hexceeds, hleft⟩ | ⟨rfl, hfits, hrecorded⟩
    · refine ⟨((if_neg hburst).trans ((if_neg hrate).trans (if_pos hexceeds))).symm, .inr ?_⟩
      rcases hleft with ⟨hkept, rfl⟩ | ⟨⟨hcap, hearlier⟩, hwritten⟩
      · refine .inl ⟨by simp, rfl, fun _ henters => hkept ⟨?_, ?_⟩⟩
        · simpa [hlimits] using henters.1
        · rw [hperiod, ← hstate]
          exact henters.2
      · refine .inr ⟨rfl, ⟨by simpa [hlimits] using hcap, ?_⟩, limits, rfl, ?_⟩
        · rwa [hstate, ← hperiod]
        · exact hwritten
    · exact ⟨((if_neg hburst).trans ((if_neg hrate).trans (if_neg (by simp [hfits])))).symm,
        .inl ⟨rfl, hrecorded⟩⟩

/-- The limits of a period without seconds cannot be looked at. -/
def State.LimitsUsable (s : State) (id : Nat) (sub : Subscription) : Prop :=
  (s.read (.instanced (.usageLimits id))).isSome → sub.intervalSeconds ≠ 0

theorem run_applyUsageLimits_usable_iff :
    (∃ rejected t, (applyUsageLimits id sub units).run env s = .ok rejected t) ↔
      s.LimitsUsable id sub := by
  unfold State.LimitsUsable
  constructor
  · rintro ⟨rejected, t, hrun⟩ hconfigured
    obtain ⟨_, -, hrun⟩ := run_check_ok .ask hrun
    obtain ⟨configured, hload, hrun⟩ := run_check_ok Modifies.load hrun
    obtain rfl := (run_load_ok.mp hload).1
    obtain ⟨limits, hlimits⟩ := Option.isSome_iff_exists.mp hconfigured
    rw [hlimits] at hrun
    obtain ⟨_, hinterval, -⟩ := run_check_ok (.require _) hrun
    exact (run_require_ok.mp hinterval).1
  · intro husable
    have hcap (limits : UsageLimits) (state : UsageState) (period : Nat) :
        ∃ rejected t, (applyUsageCap id limits state period units).run env s = .ok rejected t := by
      have hends {p : Prop} [Decidable p] (u : State) (recorded : UsageState) :
          ∃ rejected t, (if p then pure (some .usageCapExceeded) else do
            store (.instanced (.usageState id)) recorded
            pure none : Vault (Option UsageChargeResult)).run env u = .ok rejected t := by
        split
        · exact ⟨_, u, rfl⟩
        · exact ⟨_, u.write _ recorded, rfl⟩
      refine exists_result_bind (run_ask_ok.mpr ⟨rfl, rfl⟩) ?_
      by_cases hrenewed : limits.usageCapUnits.isSome ∧ state.periodIndex < period
      · refine exists_result_bind (a := ()) (run_when_ok.mpr (.inl ⟨hrenewed, rfl⟩)) ?_
        exact hends _ _
      · refine exists_result_bind (a := ()) (run_when_ok.mpr (.inr ⟨hrenewed, rfl⟩)) ?_
        exact hends _ _
    refine exists_result_bind (run_ask_ok.mpr ⟨rfl, rfl⟩) ?_
    refine exists_result_bind (run_load_ok.mpr ⟨rfl, rfl⟩) ?_
    cases hlimits : s.read (.instanced (.usageLimits id)) with
    | none => exact ⟨none, s, rfl⟩
    | some limits =>
      have hinterval : sub.intervalSeconds ≠ 0 := husable (by rw [hlimits]; rfl)
      refine exists_result_bind (a := ()) (run_require_ok.mpr ⟨hinterval, rfl⟩) ?_
      refine exists_result_bind (run_load_ok.mpr ⟨rfl, rfl⟩) ?_
      dsimp only
      split
      · exact ⟨_, s, rfl⟩
      split
      · exact ⟨_, s, rfl⟩
      · exact hcap _ _ _

end Limits

/-! ## Due usage -/

/-- The usage passes every check in front of the merchant's limits. -/
structure UsageChecked (env : Env) (s : State) (id : Nat) (sub : Subscription) (usageAmount : Int)
    (reference : Bytes) : Prop extends Cleared env s id sub where
  capLeft : sub.capReached = false
  active : sub.status = .active
  enabled : sub.usageEnabled = true
  renewing : sub.renewalClosed env.now = .ok false
  positive : 0 < usageAmount
  within : (s.read (.instanced (.usageChargeCapOverride sub.merchant))).getD false = true ∨
    usageAmount ≤ sub.amount
  funded : usageAmount ≤ sub.prepaidBalance
  fresh : s.read (.symbol (.usageRef id reference)) = none

/-- The usage passes every check in front of the look at the lifetime cap. -/
structure UsageDue (env : Env) (s : State) (id : Nat) (sub : Subscription) (usageAmount : Int)
    (reference : Bytes) : Prop extends Cleared env s id sub where
  capLeft : sub.capReached = false
  active : sub.status = .active
  enabled : sub.usageEnabled = true
  renewing : sub.renewalClosed env.now = .ok false
  positive : 0 < usageAmount
  within : (s.read (.instanced (.usageChargeCapOverride sub.merchant))).getD false = true ∨
    usageAmount ≤ sub.amount
  funded : usageAmount ≤ sub.prepaidBalance
  fresh : s.read (.symbol (.usageRef id reference)) = none
  admitted : s.usageRejection id sub usageAmount env.now = none

theorem UsageDue.checked {env : Env} {s : State} {id : Nat} {sub : Subscription}
    {usageAmount : Int} {reference : Bytes} (h : UsageDue env s id sub usageAmount reference) :
    UsageChecked env s id sub usageAmount reference :=
  { h with }

theorem UsageChecked.due {env : Env} {s : State} {id : Nat} {sub : Subscription}
    {usageAmount : Int} {reference : Bytes} (h : UsageChecked env s id sub usageAmount reference)
    (hadmitted : s.usageRejection id sub usageAmount env.now = none) :
    UsageDue env s id sub usageAmount reference :=
  { h with admitted := hadmitted }

/-- A usage charge of `usageAmount` goes beyond the lifetime cap. -/
def Subscription.capExceededBy (sub : Subscription) (usageAmount : Int) : Bool :=
  sub.lifetimeCap.any (· < sub.lifetimeCharged + usageAmount)

/-- Everything a usage charge without an error can end in. -/
inductive UsageOutcome (env : Env) (s : State) (id : Nat) (usageAmount : Int)
    (reference : Bytes) : UsageChargeResult → State → Prop
  /-- A reference seen before, or a limit that is kept before anything is written. -/
  | refused {sub : Subscription} {result : UsageChargeResult} :
      s.effectiveSubscription id env.now = some sub → result ≠ .charged →
      UsageOutcome env s id usageAmount reference result s
  | rejected {sub : Subscription} {t : State} :
      Cleared env s id sub → sub.status = .active → 0 < usageAmount →
      s.usageRejection id sub usageAmount env.now = some .usageCapExceeded →
      s.entersUsagePeriod id sub env.now →
      (applyUsageLimits id sub usageAmount).run env s = .ok (some .usageCapExceeded) t →
      UsageOutcome env s id usageAmount reference .usageCapExceeded t
  /-- Beyond the cap nothing is charged, though the result says so. -/
  | capped {sub : Subscription} {u t : State} :
      UsageDue env s id sub usageAmount reference →
      (applyUsageLimits id sub usageAmount).run env s = .ok none u →
      sub.capExceededBy usageAmount = true → (cancelCapped id sub).run env u = .ok () t →
      UsageOutcome env s id usageAmount reference .charged t
  | settled {sub : Subscription} {balance : Int} {u t : State} :
      UsageDue env s id sub usageAmount reference →
      (applyUsageLimits id sub usageAmount).run env s = .ok none u →
      sub.capExceededBy usageAmount = false → InI128 (sub.lifetimeCharged + usageAmount) →
      safeSubBalance sub.prepaidBalance usageAmount = .ok balance →
      (settleUsage id sub usageAmount (sub.lifetimeCharged + usageAmount) balance reference).run
        env u = .ok () t →
      UsageOutcome env s id usageAmount reference .charged t
  /-- A balance that covers the amount but leaves none that fits its type. -/
  | unfit {sub : Subscription} {u : State} :
      UsageDue env s id sub usageAmount reference →
      (applyUsageLimits id sub usageAmount).run env s = .ok none u →
      sub.capExceededBy usageAmount = false →
      ¬InI128 (sub.prepaidBalance - usageAmount) →
      UsageOutcome env s id usageAmount reference .charged
        (u.write (.persistent (.sub id)) { sub with status := .insufficientBalance })

section Outcomes

variable {env : Env} {s t u : State} {id : Nat} {sub : Subscription} {usageAmount : Int}
  {reference : Bytes} {result : UsageChargeResult}

private theorem chargeUsageDue_outcome (hdue : UsageDue env s id sub usageAmount reference)
    (hlimits : (applyUsageLimits id sub usageAmount).run env s = .ok none u)
    (hrun : (chargeUsageDue id sub usageAmount reference).run env u = .ok result t) :
    UsageOutcome env s id usageAmount reference result t := by
  obtain ⟨pending, hpending, hrun⟩ := run_check_ok (.lift _) hrun
  obtain ⟨rfl, hfits⟩ := safeAdd_ok.mp (run_lift_ok.mp hpending).1
  split at hrun
  · rename_i hcap
    obtain ⟨_, t', hcancel, hlast⟩ := run_bind_ok.mp hrun
    obtain ⟨rfl, rfl⟩ := run_pure_ok.mp hlast
    exact .capped hdue hlimits hcap hcancel
  rename_i hcap
  have hwithin : sub.capExceededBy usageAmount = false := Bool.eq_false_iff.mpr hcap
  split at hrun
  · rename_i balance hbalance
    obtain ⟨_, t', hsettle, hlast⟩ := run_bind_ok.mp hrun
    obtain ⟨rfl, rfl⟩ := run_pure_ok.mp hlast
    exact .settled hdue hlimits hwithin hfits hbalance hsettle
  · rename_i e hbalance
    obtain ⟨status, hstatus, hrun⟩ := run_check_ok (.lift _) hrun
    obtain ⟨-, rfl⟩ := transitionTo_ok.mp (run_lift_ok.mp hstatus).1
    obtain ⟨_, t', hwrite, hlast⟩ := run_bind_ok.mp hrun
    obtain ⟨rfl, rfl⟩ := run_pure_ok.mp hlast
    obtain rfl := run_store_ok.mp hwrite
    refine .unfit hdue hlimits hwithin fun hfits => ?_
    have hok : safeSubBalance sub.prepaidBalance usageAmount =
        .ok (sub.prepaidBalance - usageAmount) :=
      safeSubBalance_ok.mpr ⟨by have := hdue.positive; omega, hdue.funded, rfl, hfits⟩
    rw [hok] at hbalance
    cases hbalance

/-- A charge without an error that does not come to the limits changes nothing. -/
theorem chargeUsageChecked_ok (hclear : Cleared env s id sub)
    (hrun : (chargeUsageChecked id sub usageAmount reference).run env s = .ok result t) :
    (s = t ∧ result ≠ .charged) ∨
      UsageChecked env s id sub usageAmount reference ∧ (do
        let rejected ← applyUsageLimits id sub usageAmount
        match rejected with
        | some result => pure result
        | none => chargeUsageDue id sub usageAmount reference :
        Vault UsageChargeResult).run env s = .ok result t := by
  obtain ⟨_, hask, hrun⟩ := run_check_ok .ask hrun
  obtain ⟨rfl, -⟩ := run_ask_ok.mp hask
  obtain ⟨_, s₁, hcap, hrun⟩ := run_bind_ok.mp hrun
  obtain ⟨hleft, rfl⟩ : sub.capReached = false ∧ s = s₁ := by
    rcases run_when_ok.mp hcap with ⟨-, hfail⟩ | ⟨hleft, rfl⟩
    · simp at hfail
    · exact ⟨by simpa using hleft, rfl⟩
  obtain ⟨_, hactive, hrun⟩ := run_check_ok (.failIf _ _) hrun
  obtain ⟨_, henabled, hrun⟩ := run_check_ok (.failIf _ _) hrun
  obtain ⟨closed, hclosed, hrun⟩ := run_check_ok (.lift _) hrun
  obtain ⟨_, hrenewing, hrun⟩ := run_check_ok (.failIf _ _) hrun
  obtain ⟨_, hpositive, hrun⟩ := run_check_ok (.failIf _ _) hrun
  obtain ⟨override, hoverride, hrun⟩ := run_check_ok Modifies.load hrun
  split at hrun
  · obtain ⟨rfl, rfl⟩ := run_pure_ok.mp hrun
    exact .inl ⟨rfl, by simp⟩
  rename_i hwithin
  obtain ⟨_, hfunded, hrun⟩ := run_check_ok (.failIf _ _) hrun
  obtain ⟨seen, hseen, hrun⟩ := run_check_ok Modifies.load hrun
  split at hrun
  · obtain ⟨rfl, rfl⟩ := run_pure_ok.mp hrun
    exact .inl ⟨rfl, by simp⟩
  rename_i hunseen
  refine .inr ⟨{ hclear with
    capLeft := hleft
    active := by simpa using (run_failIf_ok.mp hactive).1
    enabled := by simpa using (run_failIf_ok.mp henabled).1
    renewing := ?_
    positive := by simpa using (run_failIf_ok.mp hpositive).1
    within := ?_
    funded := by simpa using (run_failIf_ok.mp hfunded).1
    fresh := ?_ }, hrun⟩
  · rw [(run_lift_ok.mp hclosed).1]
    simpa using (run_failIf_ok.mp hrenewing).1
  · rw [(run_load_ok.mp hoverride).1]
    by_cases h : override.getD false = true
    · exact .inl h
    · exact .inr (by simpa [h] using hwithin)
  · rw [(run_load_ok.mp hseen).1]
    simpa using hunseen

private theorem chargeUsageChecked_outcome (hclear : Cleared env s id sub)
    (hrun : (chargeUsageChecked id sub usageAmount reference).run env s = .ok result t) :
    UsageOutcome env s id usageAmount reference result t := by
  rcases chargeUsageChecked_ok hclear hrun with ⟨rfl, hresult⟩ | ⟨hchecked, hrun⟩
  · exact .refused hclear.found hresult
  obtain ⟨rejected, s₁, hlimits, hrun⟩ := run_bind_ok.mp hrun
  obtain ⟨hrejected, hwritten⟩ := run_applyUsageLimits_ok hlimits
  cases rejected with
  | some rejected =>
    obtain ⟨rfl, rfl⟩ := run_pure_ok.mp hrun
    rcases hwritten with ⟨hnone, -⟩ | ⟨-, rfl, -⟩ | ⟨hexceeds, henters, -⟩
    · cases hnone
    · exact .refused hclear.found (State.usageRejection_ne_charged hrejected.symm)
    · obtain rfl := Option.some.inj hexceeds
      exact .rejected hclear hchecked.active hchecked.positive hrejected.symm henters hlimits
  | none => exact chargeUsageDue_outcome (hchecked.due hrejected.symm) hlimits hrun

/-- A charge without an error ends in one of the listed outcomes. -/
theorem chargeUsageOne_outcome
    (hrun : (chargeUsageOne id usageAmount reference).run env s = .ok result t) :
    UsageOutcome env s id usageAmount reference result t := by
  obtain ⟨sub, hcleared, hrun⟩ := run_parties_ok hrun
  exact chargeUsageChecked_outcome hcleared hrun

/-- A charge without an error changes nothing before it comes to the limits. -/
theorem chargeUsageOne_checked
    (hrun : (chargeUsageOne id usageAmount reference).run env s = .ok result t) :
    (s = t ∧ result ≠ .charged) ∨
      ∃ sub, UsageChecked env s id sub usageAmount reference := by
  obtain ⟨sub, hcleared, hrun⟩ := run_parties_ok hrun
  rcases chargeUsageChecked_ok hcleared hrun with hkept | ⟨hchecked, -⟩
  · exact .inl hkept
  · exact .inr ⟨sub, hchecked⟩

/-- Usage that passes every check comes to the merchant's limits. -/
theorem run_chargeUsageOne_of_checks (h : UsageChecked env s id sub usageAmount reference) :
    (chargeUsageOne id usageAmount reference).run env s =
      (do
        let rejected ← applyUsageLimits id sub usageAmount
        match rejected with
        | some result => pure result
        | none => chargeUsageDue id sub usageAmount reference :
        Vault UsageChargeResult).run env s := by
  refine (run_parties_of_admitted h.toCleared.admitted _).trans ?_
  refine (run_seq_of_ok (run_failIfExpired_of_live h.unexpired)).trans ?_
  refine (run_bind_of_ok (run_ask_ok.mpr ⟨rfl, rfl⟩)).trans ?_
  refine (run_seq_of_ok (run_when_ok.mpr (.inr ⟨by simp [h.capLeft], rfl⟩))).trans ?_
  refine (run_seq_of_ok (run_failIf_ok.mpr ⟨by simp [h.active], rfl⟩)).trans ?_
  refine (run_seq_of_ok (run_failIf_ok.mpr ⟨by simp [h.enabled], rfl⟩)).trans ?_
  refine (run_bind_of_ok (run_lift_ok.mpr ⟨h.renewing, rfl⟩)).trans ?_
  refine (run_seq_of_ok (run_failIf_ok.mpr ⟨by simp, rfl⟩)).trans ?_
  refine (run_seq_of_ok (run_failIf_ok.mpr ⟨Int.not_le.mpr h.positive, rfl⟩)).trans ?_
  refine (run_bind_of_ok (run_load_ok.mpr ⟨rfl, rfl⟩)).trans ?_
  rw [if_neg]
  · refine (run_seq_of_ok (run_failIf_ok.mpr ⟨Int.not_lt.mpr h.funded, rfl⟩)).trans ?_
    refine (run_bind_of_ok (run_load_ok.mpr ⟨h.fresh, rfl⟩)).trans ?_
    exact congrArg (fun x : Vault UsageChargeResult => x.run env s) (if_neg (by simp))
  · rintro ⟨hunset, hover⟩
    rcases h.within with hset | hwithin
    · rw [hset] at hunset
      cases hunset
    · omega

/-- Usage that the limits let through goes on with the lifetime cap. -/
theorem run_chargeUsageOne_of_due (h : UsageDue env s id sub usageAmount reference)
    (hlimits : (applyUsageLimits id sub usageAmount).run env s = .ok none u) :
    (chargeUsageOne id usageAmount reference).run env s =
      (chargeUsageDue id sub usageAmount reference).run env u :=
  (run_chargeUsageOne_of_checks h.checked).trans (run_bind_of_ok hlimits)

end Outcomes

end SubscriptionVault
