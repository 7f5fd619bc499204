import SubscriptionVault.Charging.UsageReferences
import SubscriptionVault.Framework.Quota

/-!
# Usage over a run

One record of counters enforces the three limits a merchant sets on usage. Charges are counted
in it before the lifetime cap is looked at, so it may count what was not taken in the end, and a
charge that the cap on units refuses may open a window and a period. The limits still hold for
what was taken, over any run in which they and the terms of the subscription stay the same.
-/

namespace SubscriptionVault

open Exec

/-! ## What was taken -/

/-- A usage charge that took its units, with the start of the window it was counted in. -/
structure UsageTaken where
  time : Nat
  units : Int
  opened : Nat
deriving DecidableEq

instance (s t : State) (id : Nat) (amount : Int) : Decidable (TakesUsage s t id amount) :=
  match hbefore : s.subscription id, hafter : t.subscription id with
  | some before, some after =>
    decidable_of_iff (0 < amount ∧ after.prepaidBalance = before.prepaidBalance - amount) (by
      simp [TakesUsage, hbefore, hafter])
  | none, _ => isFalse (by simp [TakesUsage, hbefore])
  | some _, none => isFalse (by simp [TakesUsage, hafter])

/-- The usage of the subscription that a transaction took. -/
def usageTaken (id : Nat) : Transaction × State × State → Option UsageTaken
  | (.call env call, s, t) =>
    call.usageCharge.bind fun (i, amount, _) =>
      if i = id ∧ TakesUsage s t id amount then
        some ⟨env.now, amount,
          (t.read (.instanced (.usageState id))).elim 0 (·.windowStartTimestamp)⟩
      else none
  | (.other _, _, _) => none

/-- What usage charges of the subscription took, latest first. -/
def usageLog (id : Nat) (hist : History Transaction State) (s : State) : List UsageTaken :=
  (transitions hist s).filterMap (usageTaken id)

theorem usageLog_cons (id : Nat) (l : Transaction) (s t : State)
    (hist : History Transaction State) :
    usageLog id ((l, s) :: hist) t = (usageTaken id (l, s, t)).toList ++ usageLog id hist s := by
  unfold usageLog
  rw [transitions, List.filterMap_cons]
  cases usageTaken id (l, s, t) <;> rfl

/-! ## What a charge does to the counters -/

/-- All slots but the counters of usage. -/
def counterFree : Set Slot := {k | ∀ id, k ≠ .instanced (.usageState id)}

/-- The counters before and after a transaction that takes `taken`. -/
inductive CountsUsage (now : Nat) (s t : State) (id : Nat) (taken : Option UsageTaken) : Prop
  | kept : t.read (.instanced (.usageState id)) = s.read (.instanced (.usageState id)) →
      (s.read (.instanced (.usageLimits id)) ≠ none → taken = none) →
      CountsUsage now s t id taken
  /-- The cap has refused the units, and a period has been entered. -/
  | entered {sub : Subscription} {limits : UsageLimits} : s.subscription id = some sub →
      s.read (.instanced (.usageLimits id)) = some limits →
      t.read (.instanced (.usageState id)) = some (s.renewedUsage id sub limits now) →
      taken = none → CountsUsage now s t id taken
  | counted {sub : Subscription} {limits : UsageLimits} {units : Int} :
      s.subscription id = some sub → s.read (.instanced (.usageLimits id)) = some limits →
      limits.rejection (s.usageState id sub now) (sub.periodIndex now) units now = none →
      0 < units →
      t.read (.instanced (.usageState id)) =
        some ((s.renewedUsage id sub limits now).record units now) →
      (∀ e ∈ taken, e = ⟨now, units, (s.renewedUsage id sub limits now).windowStartTimestamp⟩) →
      CountsUsage now s t id taken

section Charges

variable {env : Env} {s t : State} {id : Nat} {amount : Int} {reference : Bytes}
  {result : UsageChargeResult}

theorem areas_subset_counterFree {l : List Area} (hl : l.contains .usage = false) :
    areas l ⊆ counterFree := by
  rintro k hk id rfl
  have hin : l.contains .usage = true := hk
  rw [hl] at hin
  cases hin

theorem usageFree_subset_counterFree : usageFree ⊆ counterFree := by
  rintro k hk id rfl
  exact hk rfl

theorem State.usageState_of_counterFree (h : FiniteStore.AgreeOff counterFree s t) (id : Nat) :
    t.read (.instanced (.usageState id)) = s.read (.instanced (.usageState id)) :=
  h.read fun hmem => hmem id rfl

theorem Modifies.counterFree {α : Type} {l : List Area} {x : Vault α} (h : Modifies (areas l) x)
    (hl : l.contains .usage = false) : Modifies counterFree x :=
  h.weaken (areas_subset_counterFree hl)

theorem settleUsage_counterFree (id : Nat) (sub : Subscription)
    (usageAmount pendingLifetime newBalance : Int) (reference : Bytes) : Modifies counterFree
      (settleUsage id sub usageAmount pendingLifetime newBalance reference) :=
  have hcredits : creditSlots ⊆ SubscriptionVault.counterFree :=
    creditSlots_subset_areas.trans (areas_subset_counterFree rfl)
  .bind .ask fun _ => .bind (.gets _) fun _ => .bind (.gets _) fun _ => .bind (.lift _) fun _ =>
    .bind ((Modifies.creditChargePayees _ _ _ _).weaken hcredits) fun _ =>
    .bind ((Modifies.routeToSubAccount _ _).weaken hcredits) fun _ =>
    .bind ((Modifies.creditProtocolFee _ _ _ _).weaken hcredits) fun _ => .bind (.lift _) fun _ =>
    .bind ((writeSubscription_areas _ _).counterFree rfl) fun _ =>
    .bind (Modifies.store fun _ => by simp) fun _ =>
    .bind (.require _) fun _ => .bind (.failIf _ _) fun _ => .bind (.okOr _ _) fun _ =>
    .bind ((writePeriodSnapshot_areas _).counterFree rfl) fun _ =>
    (appendStatement_areas _ _ _ _ _ _ _).counterFree rfl

/-- The counters do not depend on the status. -/
theorem State.counters_of_terms (s : State) (id : Nat) (limits : UsageLimits) (now : Nat)
    {stored sub : Subscription} (hsub : sub = { stored with status := sub.status }) :
    stored.periodIndex now = sub.periodIndex now ∧
      s.usageState id stored now = s.usageState id sub now ∧
      s.renewedUsage id stored limits now = s.renewedUsage id sub limits now := by
  have hperiod : stored.periodIndex now = sub.periodIndex now := by
    rw [hsub]
    rfl
  have hstate : s.usageState id stored now = s.usageState id sub now := by
    rw [State.usageState, State.usageState, hperiod]
  refine ⟨hperiod, hstate, ?_⟩
  rw [State.renewedUsage, State.renewedUsage, hstate, hperiod]

/-- What the limits have let through is counted, whatever becomes of it. -/
theorem run_limits_counted {sub : Subscription} {u : State}
    (hfound : s.effectiveSubscription id env.now = some sub)
    (hpositive : 0 < amount)
    (hlimits : (applyUsageLimits id sub amount).run env s = .ok none u)
    (hkept : t.read (.instanced (.usageState id)) = u.read (.instanced (.usageState id)))
    {taken : Option UsageTaken}
    (htaken : ∀ e ∈ taken, e.time = env.now ∧ e.units = amount ∧
      e.opened = (t.read (.instanced (.usageState id))).elim 0 (·.windowStartTimestamp)) :
    CountsUsage env.now s t id taken := by
  obtain ⟨hrejection, hwritten⟩ := run_applyUsageLimits_ok hlimits
  obtain ⟨stored, hstored, hsub⟩ := State.effectiveSubscription_eq_some hfound
  have hcounted : u.read (.instanced (.usageState id)) =
      s.countedUsage id sub amount env.now := by
    rcases hwritten with ⟨-, hcounted⟩ | ⟨hrejected, -⟩ | ⟨hrejected, -⟩
    · exact hcounted
    · exact absurd rfl hrejected
    · cases hrejected
  cases hconfigured : s.read (.instanced (.usageLimits id)) with
  | none =>
    refine .kept ?_ fun hlimited => absurd hconfigured hlimited
    rw [hkept, hcounted, State.countedUsage, hconfigured]
    rfl
  | some limits =>
    obtain ⟨hperiod, hstate, hrenewed⟩ := State.counters_of_terms s id limits env.now hsub
    have hrecorded : t.read (.instanced (.usageState id)) =
        some ((s.renewedUsage id stored limits env.now).record amount env.now) := by
      rw [hkept, hcounted, hrenewed, State.countedUsage, hconfigured]
      rfl
    refine .counted hstored hconfigured ?_ hpositive hrecorded fun e he => ?_
    · rw [hstate, hperiod]
      rw [State.usageRejection, hconfigured] at hrejection
      exact hrejection.symm
    · obtain ⟨htime, hunits, hopened⟩ := htaken e he
      rw [hrecorded] at hopened
      cases e
      cases htime
      cases hunits
      cases hopened
      rfl

/-- The only counters a charge touches are its subscription's. -/
theorem chargeUsageOne_otherCounters
    (hrun : (chargeUsageOne id amount reference).run env s = .ok result t) {i : Nat}
    (hother : i ≠ id) :
    t.read (.instanced (.usageState i)) = s.read (.instanced (.usageState i)) := by
  have hcounters {sub : Subscription} {rejected : Option UsageChargeResult} {u : State}
      (hlimits : (applyUsageLimits id sub amount).run env s = .ok rejected u) :
      u.read (.instanced (.usageState i)) = s.read (.instanced (.usageState i)) :=
    FiniteStore.AgreeOff.read ((applyUsageLimits_counters _ _ _).ok hlimits)
      (by simp [counterSlots, hother])
  cases chargeUsageOne_outcome hrun with
  | refused => rfl
  | rejected _ _ _ _ _ hlimits => exact hcounters hlimits
  | capped _ hlimits _ hcancel =>
    rw [State.usageState_of_counterFree
      (((cancelCapped_areas _ _).counterFree rfl).ok hcancel), hcounters hlimits]
  | settled _ hlimits _ _ _ hsettle =>
    rw [State.usageState_of_counterFree ((settleUsage_counterFree _ _ _ _ _ _).ok hsettle),
      hcounters hlimits]
  | unfit _ hlimits _ _ =>
    rw [FiniteStore.read_write_of_ne _ _ (by simp), hcounters hlimits]

theorem chargeUsageOne_countsUsage
    (hrun : (chargeUsageOne id amount reference).run env s = .ok result t)
    {taken : Option UsageTaken} (hnone : ¬TakesUsage s t id amount → taken = none)
    (htaken : ∀ e ∈ taken, e.time = env.now ∧ e.units = amount ∧
      e.opened = (t.read (.instanced (.usageState id))).elim 0 (·.windowStartTimestamp)) :
    CountsUsage env.now s t id taken := by
  cases chargeUsageOne_outcome hrun with
  | refused hfound _ =>
    obtain ⟨stored, hstored, -⟩ := State.effectiveSubscription_eq_some hfound
    exact .kept rfl fun _ => hnone (not_takes_of_balance hstored hstored rfl)
  | rejected hclear _ _ _ _ hlimits =>
    obtain ⟨stored, hstored, hsub⟩ := State.effectiveSubscription_eq_some hclear.found
    have hsame : t.subscription id = s.subscription id :=
      FiniteStore.AgreeOff.read ((applyUsageLimits_counters _ _ _).ok hlimits)
        (by simp [counterSlots])
    have htakes := hnone (not_takes_of_balance hstored (hsame.trans hstored) rfl)
    rcases (run_applyUsageLimits_ok hlimits).2 with ⟨hrejected, -⟩ | ⟨-, rfl, -⟩ |
      ⟨-, -, limits, hconfigured, rfl⟩
    · cases hrejected
    · exact .kept rfl fun _ => htakes
    · obtain ⟨-, -, hrenewed⟩ := State.counters_of_terms s id limits env.now hsub
      refine .entered hstored hconfigured ?_ htakes
      rw [hrenewed]
      exact FiniteStore.read_write_self _ _
  | capped hdue hlimits _ hcancel =>
    exact run_limits_counted hdue.found hdue.positive hlimits (State.usageState_of_counterFree
      (((cancelCapped_areas _ _).counterFree rfl).ok hcancel) id) htaken
  | settled hdue hlimits _ _ _ hsettle =>
    exact run_limits_counted hdue.found hdue.positive hlimits (State.usageState_of_counterFree
      ((settleUsage_counterFree _ _ _ _ _ _).ok hsettle) id) htaken
  | unfit hdue hlimits _ _ =>
    exact run_limits_counted hdue.found hdue.positive hlimits
      (FiniteStore.read_write_of_ne _ _ (by simp)) htaken

end Charges

/-! ## What a transaction does to the counters -/

section Transactions

variable {env : Env} {s t v w : State} {id : Nat} {l : Transaction} {taken : Option UsageTaken}

theorem CountsUsage.of_locked {now : Nat} (h : CountsUsage now v w id taken)
    (hbefore : FiniteStore.AgreeOff (areas [.locks]) s v)
    (hafter : FiniteStore.AgreeOff (areas [.locks]) w t) : CountsUsage now s t id taken := by
  have hrecord : v.subscription id = s.subscription id :=
    State.read_of_areas (k := .persistent (.sub id)) hbefore rfl
  have hlimits : v.read (.instanced (.usageLimits id)) = s.read (.instanced (.usageLimits id)) :=
    State.read_of_areas hbefore rfl
  have hcounters : v.read (.instanced (.usageState id)) = s.read (.instanced (.usageState id)) :=
    State.read_of_areas hbefore rfl
  have hcounted : t.read (.instanced (.usageState id)) = w.read (.instanced (.usageState id)) :=
    State.read_of_areas hafter rfl
  have hstate (sub : Subscription) : v.usageState id sub now = s.usageState id sub now := by
    rw [State.usageState, State.usageState, hcounters]
  have hrenewed (sub : Subscription) (limits : UsageLimits) :
      v.renewedUsage id sub limits now = s.renewedUsage id sub limits now := by
    rw [State.renewedUsage, State.renewedUsage, hstate]
  cases h with
  | kept hkept htaken => exact .kept (by rw [hcounted, hkept, hcounters]) (by rwa [← hlimits])
  | entered hfound hconfigured hentered htaken =>
    refine .entered (hrecord ▸ hfound) (hlimits ▸ hconfigured) ?_ htaken
    rw [hcounted, hentered, hrenewed]
  | counted hfound hconfigured hadmitted hpositive hrecorded htaken =>
    rw [hstate] at hadmitted
    rw [hrenewed] at hrecorded
    simp only [hrenewed] at htaken
    exact .counted (hrecord ▸ hfound) (hlimits ▸ hconfigured) hadmitted hpositive
      (hcounted.trans hrecorded) htaken

/-- Only usage charges of the subscription touch its counters. -/
theorem Transacts.countsUsage (h : Transacts l s t) (id : Nat) :
    CountsUsage l.env.now s t id (usageTaken id (l, s, t)) := by
  cases h with
  | @call env call _ _ hrun =>
    cases hcall : call.usageCharge with
    | none =>
      have hnone : usageTaken id (.call env call, s, t) = none := by simp [usageTaken, hcall]
      refine .kept (State.usageState_of_counterFree ?_ id) fun _ => hnone
      cases hconfigures : call.configures with
      | none => exact (usage_kept_of_call hcall hconfigures hrun).mono usageFree_subset_counterFree
      | some configured =>
        cases call
        case configureUsageLimits id limits =>
          have hlimits : Modifies counterFree (doConfigureUsageLimits id limits) :=
            .bind (Modifies.requireAuth _) fun _ =>
              .bind (requireOwnUsageSubscription_keeps _ _) fun _ => .bind (.failIf _ _) fun _ =>
              Modifies.store fun i h => by cases h
          exact hlimits.ok hrun
        all_goals cases hconfigures
    | some charge =>
      obtain ⟨i, amount, reference⟩ := charge
      obtain ⟨result, v, w, hbody, hbefore, hafter⟩ := run_usageCall hcall hrun
      by_cases hi : i = id
      · obtain rfl := hi
        refine CountsUsage.of_locked (chargeUsageOne_countsUsage hbody (fun hnot => ?_)
          fun e he => ?_) hbefore hafter
        · rw [← takesUsage_of_locked hbefore hafter] at hnot
          simp [usageTaken, hcall, hnot]
        · have hcounted : t.read (.instanced (.usageState i)) =
              w.read (.instanced (.usageState i)) := State.read_of_areas hafter rfl
          simp only [usageTaken, hcall, Option.bind_some, true_and] at he
          split at he
          · cases he
            rw [hcounted]
            exact ⟨rfl, rfl, rfl⟩
          · cases he
      · have hkept := chargeUsageOne_otherCounters hbody (Ne.symm hi)
        have hread : t.read (.instanced (.usageState id)) =
            s.read (.instanced (.usageState id)) := by
          rw [State.read_of_areas (k := .instanced (.usageState id)) hafter rfl, hkept]
          exact State.read_of_areas hbefore rfl
        exact .kept hread fun _ => by simp [usageTaken, hcall, hi]
  | other hagree =>
    exact .kept (State.read_of_areas (k := .instanced (.usageState id)) hagree rfl) fun _ => rfl

end Transactions

/-! ## What the counters enforce -/

/-- The counters at `clock` cover what was taken. -/
structure UsageMetered (limits : UsageLimits) (period : Nat → Nat) (clock : Nat)
    (state : UsageState) (log : List UsageTaken) : Prop where
  past : ∀ e ∈ log, e.time ≤ clock
  spaced : SpacedBy UsageTaken.time limits.burstMinIntervalSecs log
  last : ∀ e ∈ log, e.time ≤ state.lastUsageTimestamp
  opened : state.windowStartTimestamp ≤ clock
  windows : ∀ m, limits.rateLimitMaxCalls = some m → m ≤ u32Max → 0 < limits.rateWindowSecs →
    WindowOpen UsageTaken.time UsageTaken.opened limits.rateWindowSecs m
      state.windowStartTimestamp state.windowCallCount log
  nonneg : 0 ≤ state.currentPeriodUsageUnits
  rationed : ∀ c, limits.usageCapUnits = some c → 0 ≤ c ∧ c < 2 ^ 127 - 1 →
    Rationed (period ·.time) UsageTaken.units state.periodIndex state.currentPeriodUsageUnits
      (period clock) log ∧
    ∀ p, periodUnits (period ·.time) UsageTaken.units log p ≤ c

/-- What the limits let through finds the last charge far enough behind, and room in the window
and the period. -/
structure UsageAdmitted (limits : UsageLimits) (period : Nat) (state : UsageState) (units : Int)
    (now : Nat) : Prop where
  apart : 0 < limits.burstMinIntervalSecs →
    state.lastUsageTimestamp + limits.burstMinIntervalSecs ≤ now
  room : ∀ m, limits.rateLimitMaxCalls = some m → state.windowCallCount < m
  within : ∀ m, limits.rateLimitMaxCalls = some m → 0 < limits.rateWindowSecs →
    now < state.windowStartTimestamp + limits.rateWindowSecs
  left : ∀ c, limits.usageCapUnits = some c → c < 2 ^ 127 - 1 →
    state.currentPeriodUsageUnits + units ≤ c
  entered : ∀ c, limits.usageCapUnits = some c → period ≤ state.periodIndex

theorem UsageAdmitted.clamp {limits : UsageLimits} {period now : Nat} {state : UsageState}
    {units c : Int} (h : UsageAdmitted limits period state units now)
    (hnonneg : 0 ≤ state.currentPeriodUsageUnits) (hunits : 0 < units)
    (hc : limits.usageCapUnits = some c) (hfits : c < 2 ^ 127 - 1) :
    clampI128 (state.currentPeriodUsageUnits + units) = state.currentPeriodUsageUnits + units := by
  have hleft := h.left c hc hfits
  unfold clampI128
  omega

theorem UsageLimits.rejection_eq_none {limits : UsageLimits} {state : UsageState} {period now : Nat}
    {units : Int} (h : limits.rejection state period units now = none) (hnow : now < u64Max) :
    UsageAdmitted limits period ((state.enterWindow limits now).renew limits period) units now := by
  unfold UsageLimits.rejection at h
  dsimp only at h
  split at h
  · cases h
  rename_i hburst
  split at h
  · cases h
  rename_i hrate
  split at h
  · cases h
  rename_i hcap
  have hlast : ((state.enterWindow limits now).renew limits period).lastUsageTimestamp =
      state.lastUsageTimestamp := by
    unfold UsageState.renew UsageState.enterWindow
    split <;> split <;> rfl
  have hkept : ((state.enterWindow limits now).renew limits period).windowStartTimestamp =
      (state.enterWindow limits now).windowStartTimestamp ∧
    ((state.enterWindow limits now).renew limits period).windowCallCount =
      (state.enterWindow limits now).windowCallCount := by
    unfold UsageState.renew
    split <;> exact ⟨rfl, rfl⟩
  refine ⟨fun hpositive => ?_, fun m hm => ?_, fun m hm hwidth => ?_, fun c hc hfits => ?_,
    fun c hc => ?_⟩
  · rw [hlast]
    omega
  · rw [hkept.2]
    rw [hm] at hrate
    simpa using hrate
  · rw [hkept.1]
    unfold UsageState.enterWindow
    split
    · show now < now + limits.rateWindowSecs
      omega
    · rename_i hopen
      have hstands : ¬min (state.windowStartTimestamp + limits.rateWindowSecs) u64Max ≤ now :=
        fun hover => hopen ⟨by simp [hm], hover⟩
      omega
  · rw [hc] at hcap
    have hwithin : ¬c < clampI128 (((state.enterWindow limits now).renew limits
        period).currentPeriodUsageUnits + units) := by simpa using hcap
    unfold clampI128 at hwithin
    omega
  · unfold UsageState.renew
    split
    · exact le_rfl
    · rename_i hentered
      exact Nat.not_lt.mp fun hlater => hentered ⟨by simp [hc], hlater⟩

namespace UsageMetered

variable {limits : UsageLimits} {period : Nat → Nat} {clock now : Nat} {state : UsageState}
  {log : List UsageTaken} {units : Int}

theorem wait (h : UsageMetered limits period clock state log) (hperiod : Monotone period)
    (hnow : clock ≤ now) : UsageMetered limits period now state log :=
  { h with
    past := fun e he => (h.past e he).trans hnow
    opened := h.opened.trans hnow
    rationed := fun c hc hfits =>
      ⟨(h.rationed c hc hfits).1.wait (hperiod hnow), (h.rationed c hc hfits).2⟩ }

theorem enterWindow (h : UsageMetered limits period now state log) (hnow : now < u64Max) :
    UsageMetered limits period now (state.enterWindow limits now) log := by
  unfold UsageState.enterWindow
  split
  · rename_i hover
    refine { h with opened := le_rfl, windows := fun m hm hfits hwidth => ?_ }
    have hended : min (state.windowStartTimestamp + limits.rateWindowSecs) u64Max ≤ now := hover.2
    have hover : state.windowStartTimestamp + limits.rateWindowSecs ≤ now := by omega
    exact (h.windows m hm hfits hwidth).restart hwidth hover
  · exact h

theorem renew (h : UsageMetered limits period now state log) :
    UsageMetered limits period now (state.renew limits (period now)) log := by
  unfold UsageState.renew
  split
  · rename_i hlater
    refine { h with nonneg := le_rfl, rationed := fun c hc hfits => ?_ }
    exact ⟨(h.rationed c hc hfits).1.renew hlater.2, (h.rationed c hc hfits).2⟩
  · exact h

theorem counted (h : UsageMetered limits period now state log)
    (hadmits : UsageAdmitted limits (period now) state units now) (hunits : 0 < units) :
    UsageMetered limits period now (state.record units now) log where
  past := h.past
  spaced := h.spaced
  last := h.past
  opened := h.opened
  windows m hm hfits hwidth := by
    apply (h.windows m hm hfits hwidth).count_up
    have hroom := hadmits.room m hm
    show state.windowCallCount ≤ min (state.windowCallCount + 1) u32Max
    omega
  nonneg := by
    have hnonneg := h.nonneg
    show 0 ≤ clampI128 (state.currentPeriodUsageUnits + units)
    unfold clampI128
    omega
  rationed c hc hfits := by
    obtain ⟨hrationed, hwithin⟩ := h.rationed c hc hfits
    have hclamp : (state.record units now).currentPeriodUsageUnits =
        state.currentPeriodUsageUnits + units := hadmits.clamp h.nonneg hunits hc hfits.2
    exact ⟨hrationed.use_up (by omega), hwithin⟩

theorem taken (h : UsageMetered limits period now state log)
    (hadmits : UsageAdmitted limits (period now) state units now) (hunits : 0 < units) :
    UsageMetered limits period now (state.record units now)
      (⟨now, units, state.windowStartTimestamp⟩ :: log) where
  past := List.forall_mem_cons.mpr ⟨le_rfl, h.past⟩
  spaced := by
    rcases Nat.eq_zero_or_pos limits.burstMinIntervalSecs with hzero | hpositive
    · exact h.spaced.cons h.past (by simp [hzero])
    · exact h.spaced.cons h.last (hadmits.apart hpositive)
  last := List.forall_mem_cons.mpr ⟨le_rfl, h.past⟩
  opened := h.opened
  windows m hm hfits hwidth := by
    have hroom := hadmits.room m hm
    have hcounted := (h.windows m hm hfits hwidth).cons
      (e := (⟨now, units, state.windowStartTimestamp⟩ : UsageTaken)) rfl
      ⟨h.opened, hadmits.within m hm hwidth⟩ hroom
    apply hcounted.count_up
    show state.windowCallCount + 1 ≤ min (state.windowCallCount + 1) u32Max
    omega
  nonneg := (h.counted hadmits hunits).nonneg
  rationed c hc hfits := by
    obtain ⟨hrationed, hwithin⟩ := h.rationed c hc hfits
    have hcovered := hrationed.covered (period now) le_rfl (hadmits.entered c hc)
    have hleft := hadmits.left c hc hfits.2
    have hclamp : (state.record units now).currentPeriodUsageUnits =
        state.currentPeriodUsageUnits + units := hadmits.clamp h.nonneg hunits hc hfits.2
    have hnonneg := h.nonneg
    refine ⟨hrationed.cons
      (e := (⟨now, units, state.windowStartTimestamp⟩ : UsageTaken)) le_rfl
      (hadmits.entered c hc) ?_ ?_, fun p => ?_⟩
    · omega
    · rw [hclamp]
      exact Int.add_le_add_right hcovered units
    · rw [periodUnits_cons]
      split
      · rename_i hp
        rw [← hp]
        show units + periodUnits (period ·.time) UsageTaken.units log (period now) ≤ c
        omega
      · have hp := hwithin p
        omega

end UsageMetered

/-! ## Runs -/

/-- The limits, the interval and the start are these in every state of the history. -/
def UsageTermsStay (limits : UsageLimits) (interval startTime id : Nat)
    (hist : History Transaction State) : Prop :=
  ∀ step ∈ hist, step.2.read (.instanced (.usageLimits id)) = some limits ∧
    ∀ sub, step.2.subscription id = some sub →
      sub.intervalSeconds = interval ∧ sub.startTime = startTime

/-- The limits hold for what was taken. -/
structure UsageWithin (limits : UsageLimits) (period : Nat → Nat) (log : List UsageTaken) :
    Prop where
  spaced : SpacedBy UsageTaken.time limits.burstMinIntervalSecs log
  windows : ∀ m, limits.rateLimitMaxCalls = some m → m ≤ u32Max → ∀ e ∈ log, e.opened = e.time →
    spanCount UsageTaken.time limits.rateWindowSecs e.time log ≤ m
  spans : ∀ m, limits.rateLimitMaxCalls = some m → m ≤ u32Max → ∀ first,
    spanCount UsageTaken.time limits.rateWindowSecs first log ≤ 2 * m
  capped : ∀ c, limits.usageCapUnits = some c → 0 ≤ c ∧ c < 2 ^ 127 - 1 → ∀ p,
    periodUnits (period ·.time) UsageTaken.units log p ≤ c

section Runs

variable {start s t : State} {id interval startTime clock now : Nat} {limits : UsageLimits}
  {l : Transaction} {hist recent old : History Transaction State} {period : Nat → Nat}
  {log : List UsageTaken} {taken : Option UsageTaken}

theorem UsageMetered.within {state : UsageState} (h : UsageMetered limits period clock state log) :
    UsageWithin limits period log where
  spaced := h.spaced
  windows m hm hfits e he hopens := by
    rcases Nat.eq_zero_or_pos limits.rateWindowSecs with hzero | hwidth
    · rw [hzero, spanCount_zero]
      exact Nat.zero_le _
    · exact (h.windows m hm hfits hwidth).window_le he hopens
  spans m hm hfits first := by
    rcases Nat.eq_zero_or_pos limits.rateWindowSecs with hzero | hwidth
    · rw [hzero, spanCount_zero]
      exact Nat.zero_le _
    · exact (h.windows m hm hfits hwidth).span_le first
  capped c hc hfits := (h.rationed c hc hfits).2

/-- Stored counters opened their window at a transaction of the run, and count no less than
nothing. -/
def CountersPast (id : Nat) (hist : History Transaction State) (s : State) : Prop :=
  ∀ state, s.read (.instanced (.usageState id)) = some state →
    0 ≤ state.currentPeriodUsageUnits ∧
      ∃ step ∈ hist, step.1.env.now = state.windowStartTimestamp

theorem State.renewedUsage_past {sub : Subscription} {now : Nat}
    (h : CountersPast id hist s) :
    0 ≤ (s.renewedUsage id sub limits now).currentPeriodUsageUnits ∧
      ((s.renewedUsage id sub limits now).windowStartTimestamp = now ∨
        ∃ step ∈ hist, step.1.env.now =
          (s.renewedUsage id sub limits now).windowStartTimestamp) := by
  have hbefore : 0 ≤ (s.usageState id sub now).currentPeriodUsageUnits ∧
      ((s.usageState id sub now).windowStartTimestamp = now ∨
        ∃ step ∈ hist, step.1.env.now = (s.usageState id sub now).windowStartTimestamp) := by
    unfold State.usageState
    cases hstored : s.read (.instanced (.usageState id)) with
    | none => exact ⟨le_rfl, .inl rfl⟩
    | some state => exact ⟨(h state hstored).1, .inr (h state hstored).2⟩
  unfold State.renewedUsage UsageState.renew UsageState.enterWindow
  split <;> split
  · exact ⟨le_rfl, .inl rfl⟩
  · exact ⟨hbefore.1, .inl rfl⟩
  · exact ⟨le_rfl, hbefore.2⟩
  · exact hbefore

theorem CountersPast.next (h : CountersPast id hist s) (hstep : Transacts l s t) :
    CountersPast id ((l, s) :: hist) t := by
  intro state hstate
  have hthen {first : Nat}
      (hpast : first = l.env.now ∨ ∃ step ∈ hist, step.1.env.now = first) :
      ∃ step ∈ (l, s) :: hist, step.1.env.now = first := by
    rcases hpast with rfl | ⟨step, hmem, hnow⟩
    · exact ⟨_, List.mem_cons_self, rfl⟩
    · exact ⟨step, List.mem_cons_of_mem _ hmem, hnow⟩
  cases hstep.countsUsage id with
  | kept hkept _ =>
    obtain ⟨hnonneg, hopened⟩ := h state (hkept ▸ hstate)
    exact ⟨hnonneg, hthen (.inr hopened)⟩
  | entered _ _ hentered _ =>
    obtain rfl := Option.some.inj (hentered.symm.trans hstate)
    obtain ⟨hnonneg, hopened⟩ := State.renewedUsage_past h
    exact ⟨hnonneg, hthen hopened⟩
  | @counted sub limits units _ _ _ hpositive hrecorded _ =>
    obtain rfl := Option.some.inj (hrecorded.symm.trans hstate)
    have hpast : 0 ≤ (s.renewedUsage id sub limits l.env.now).currentPeriodUsageUnits ∧ _ :=
      State.renewedUsage_past h
    refine ⟨?_, hthen hpast.2⟩
    show 0 ≤ clampI128 (_ + units)
    unfold clampI128
    omega

theorem countersPast_of_run (hstart : Deployed start) (hrun : Run Transacts start hist s) :
    CountersPast id hist s := by
  refine hrun.invariant (I := CountersPast id) (fun state hstate => ?_)
    fun _ _ _ _ hpast hstep => hpast.next hstep
  have hnone : start.read (.instanced (.usageState id)) = none :=
    State.read_of_areas (k := .instanced (.usageState id)) hstart.areas rfl
  rw [hnone] at hstate
  cases hstate

/-- Nothing has been counted yet, or the counters cover what was taken. -/
def UsageCovered (limits : UsageLimits) (period : Nat → Nat) (clock id : Nat) (s : State)
    (log : List UsageTaken) : Prop :=
  match s.read (.instanced (.usageState id)) with
  | none => log = []
  | some state => UsageMetered limits period clock state log

theorem UsageMetered.nil {state : UsageState} (hopened : state.windowStartTimestamp ≤ clock)
    (hnonneg : 0 ≤ state.currentPeriodUsageUnits) :
    UsageMetered limits period clock state [] where
  past := nofun
  spaced := List.Pairwise.nil
  last := nofun
  opened := hopened
  windows _ _ _ _ := WindowOpen.nil
  nonneg := hnonneg
  rationed _ _ hfits := ⟨⟨nofun, fun _ _ _ => hnonneg⟩, fun _ => hfits.1⟩

theorem UsageCovered.wait (h : UsageCovered limits period clock id s log)
    (hperiod : Monotone period) (hnow : clock ≤ now) :
    UsageCovered limits period now id s log := by
  unfold UsageCovered at h ⊢
  split
  · rename_i hnone
    rwa [hnone] at h
  · rename_i state hstored
    rw [hstored] at h
    exact UsageMetered.wait h hperiod hnow

/-- The counters that a charge starts from cover what was taken. -/
theorem UsageCovered.metered {sub : Subscription} {now : Nat}
    (h : UsageCovered limits period clock id s log) (hperiod : Monotone period)
    (hnow : clock ≤ now) : UsageMetered limits period now (s.usageState id sub now) log := by
  unfold UsageCovered at h
  unfold State.usageState
  cases hstored : s.read (.instanced (.usageState id)) with
  | none =>
    rw [hstored] at h
    obtain rfl : log = [] := h
    exact .nil le_rfl le_rfl
  | some state =>
    rw [hstored] at h
    exact UsageMetered.wait h hperiod hnow

theorem UsageCovered.renewed {sub : Subscription} (h : UsageCovered limits period clock id s log)
    (hperiod : Monotone period) (hnow : clock ≤ now) (hfits : now < u64Max)
    (hterms : sub.periodIndex now = period now) :
    UsageMetered limits period now (s.renewedUsage id sub limits now) log := by
  unfold State.renewedUsage
  rw [hterms]
  exact ((h.metered hperiod hnow).enterWindow hfits).renew

/-- The counters keep covering what is taken. -/
theorem UsageCovered.step (h : UsageCovered limits period clock id s log)
    (hcounts : CountsUsage now s t id taken) (hperiod : Monotone period) (hnow : clock ≤ now)
    (hfits : now < u64Max) (hlimits : s.read (.instanced (.usageLimits id)) = some limits)
    (hterms : ∀ sub, s.subscription id = some sub → sub.periodIndex now = period now) :
    UsageCovered limits period now id t (taken.toList ++ log) := by
  unfold UsageCovered
  cases hcounts with
  | kept hkept htaken =>
    obtain rfl := htaken (by simp [hlimits])
    rw [hkept]
    exact h.wait hperiod hnow
  | @entered sub configured hfound hconfigured hentered htaken =>
    obtain rfl := Option.some.inj (hlimits.symm.trans hconfigured)
    subst htaken
    rw [hentered]
    exact h.renewed hperiod hnow hfits (hterms sub hfound)
  | @counted sub configured units hfound hconfigured hadmitted hpositive hrecorded htaken =>
    obtain rfl := Option.some.inj (hlimits.symm.trans hconfigured)
    have hrenewed := h.renewed hperiod hnow hfits (hterms sub hfound)
    have hadmits :
        UsageAdmitted limits (period now) (s.renewedUsage id sub limits now) units now := by
      rw [← hterms sub hfound]
      exact UsageLimits.rejection_eq_none hadmitted hfits
    rw [hrecorded]
    cases taken with
    | none => exact hrenewed.counted hadmits hpositive
    | some e =>
      obtain rfl := htaken e rfl
      exact hrenewed.taken hadmits hpositive

/-- The counters cover what was taken in the recent part of a run. -/
theorem usageCovered_of_run (hstart : Deployed start)
    (hrun : Run Transacts start (recent ++ old) s)
    (horder : (recent ++ old).Pairwise fun later earlier => earlier.1.env.now ≤ later.1.env.now)
    (hfits : ∀ step ∈ recent, step.1.env.now < u64Max)
    (hstay : UsageTermsStay limits interval startTime id recent)
    (hclock : ∀ step ∈ recent ++ old, step.1.env.now ≤ clock) :
    UsageCovered limits (fun now => (now - startTime) / interval) clock id s
      (usageLog id recent s) := by
  have hperiod : Monotone fun now => (now - startTime) / interval := fun a b hab =>
    Nat.div_le_div_right (Nat.sub_le_sub_right hab startTime)
  induction recent generalizing s clock with
  | nil =>
    have hpast : CountersPast id old s := countersPast_of_run hstart hrun
    unfold UsageCovered
    cases hstored : s.read (.instanced (.usageState id)) with
    | none => rfl
    | some state =>
      obtain ⟨hnonneg, step, hmem, hopened⟩ := hpast state hstored
      exact .nil (hopened ▸ hclock step hmem) hnonneg
  | cons step recent ih =>
    obtain ⟨l, u⟩ := step
    cases hrun with
    | next hbefore hlast =>
      obtain ⟨hle, horder⟩ := List.pairwise_cons.mp horder
      have hcovered := ih hbefore horder
        (fun step hmem => hfits step (List.mem_cons_of_mem _ hmem))
        (fun step hmem => hstay step (List.mem_cons_of_mem _ hmem)) hle
      obtain ⟨hlimits, hterms⟩ := hstay (l, u) List.mem_cons_self
      have hnext := hcovered.step (hlast.countsUsage id) hperiod le_rfl
        (hfits (l, u) List.mem_cons_self) hlimits fun sub hsub => by
          obtain ⟨hinterval, hbegan⟩ := hterms sub hsub
          rw [Subscription.periodIndex, hinterval, hbegan]
      rw [usageLog_cons]
      exact hnext.wait hperiod (hclock (l, u) List.mem_cons_self)

/-! ## The limits -/

end Runs

private def limitedUsage : UsageLimits := ⟨⟨1⟩, some 2, 10, 3, some 20⟩

private def limitedSetup : List (Env × VaultCall) :=
  [(sampleEnv 1 [⟨2⟩], .depositFunds 0 100 none),
   (sampleEnv 0 [⟨2⟩], .createSubscription { sampleRequest with usageEnabled := true }),
   (sampleEnv 0 [⟨1⟩], .configureUsageLimits 0 limitedUsage)]

/-- The charge at 12 finds the window used up, and the one at 16 opens the next. -/
private def limitedCharges : List (Env × VaultCall) :=
  [(sampleEnv 16 [⟨8⟩], .chargeUsageWithReference 0 7 [4]),
   (sampleEnv 12 [⟨8⟩], .chargeUsageWithReference 0 5 [3]),
   (sampleEnv 8 [⟨8⟩], .chargeUsageWithReference 0 4 [2]),
   (sampleEnv 5 [⟨8⟩], .chargeUsageWithReference 0 3 [1])]

end SubscriptionVault
