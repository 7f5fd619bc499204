import SubscriptionVault.Charging.Callers
import SubscriptionVault.Lifecycle.Consents

/-!
# Usage without a reference

A usage charge is booked under a reference and the reference is kept for good. The entrypoints
that take none fill in a constant, so a subscription has one such charge for each of the two
constants; every later one is taken for a replay.
-/

namespace SubscriptionVault

open Exec

/-! ## References -/

def State.usageSeen (s : State) (id : Nat) (reference : Bytes) : Prop :=
  s.read (.symbol (.usageRef id reference)) ≠ none

instance (s : State) (id : Nat) (reference : Bytes) : Decidable (s.usageSeen id reference) :=
  inferInstanceAs (Decidable (_ ≠ _))

/-- The positive amount leaves the subscription's balance. -/
def TakesUsage (s t : State) (id : Nat) (amount : Int) : Prop :=
  0 < amount ∧ ∃ before after, s.subscription id = some before ∧ t.subscription id = some after ∧
    after.prepaidBalance = before.prepaidBalance - amount

/-- The subscription, the amount and the reference of a usage charge. -/
def VaultCall.usageCharge : VaultCall → Option (Nat × Int × Bytes)
  | .chargeUsage id amount => some (id, amount, usageReference)
  | .chargeUsageWithReference id amount reference => some (id, amount, reference)
  | .operatorChargeUsage _ id amount => some (id, amount, [])
  | .operatorChargeUsageWithRef _ id amount reference => some (id, amount, reference)
  | _ => none

/-- The entrypoints that take no reference, with one in place of the constant they fill in. -/
def VaultCall.under (reference : Bytes) : VaultCall → Vault Unit
  | .chargeUsage id amount =>
    effectOf (guardedCall .chargeUsage (chargeUsageOne id amount reference))
  | .operatorChargeUsage op id amount =>
    effectOf (guardedCall .operatorChargeUsage (doOperatorChargeUsage op id amount reference))
  | c => c.exec

/-- The entrypoints that take no reference. -/
def VaultCall.unreferenced : VaultCall → Bool
  | .chargeUsage _ _ | .operatorChargeUsage _ _ _ => true
  | _ => false

/-- Funds, cap and limits suffice: under some unused reference the amount would be taken. -/
def VaultCall.WouldTake (call : VaultCall) (env : Env) (s : State) (id : Nat) (amount : Int) :
    Prop :=
  ∃ reference t, (call.under reference).run env s = .ok () t ∧ TakesUsage s t id amount

/-- The call succeeds and takes the amount. -/
def VaultCall.Takes (call : VaultCall) (env : Env) (s : State) (id : Nat) (amount : Int) : Prop :=
  ∃ t, call.exec.run env s = .ok () t ∧ TakesUsage s t id amount

/-! ## One charge -/

/-- The subscription and the limits that the call configures for it. -/
def VaultCall.configures : VaultCall → Option (Nat × UsageLimits)
  | .configureUsageLimits id limits => some (id, limits)
  | _ => none

/-- All slots but those usage is counted with. -/
def usageFree : Set Slot := {k | k.area ≠ .usage}

theorem areas_subset_usageFree {l : List Area} (hl : l.contains .usage = false) :
    areas l ⊆ usageFree := by
  intro k hk harea
  have hin : l.contains k.area = true := hk
  rw [harea, hl] at hin
  cases hin

/-- All slots but the references. -/
def referenceFree : Set Slot := {k | ∀ id reference, k ≠ .symbol (.usageRef id reference)}

/-- The marks of the two references. -/
def referenceSlots (id : Nat) (first second : Bytes) : Set Slot :=
  {.symbol (.usageRef id first), .symbol (.usageRef id second)}

section Charges

variable {env : Env} {s t u : State} {id : Nat} {sub : Subscription} {amount : Int}
  {reference other : Bytes} {result : UsageChargeResult}

theorem State.usageSeen_of_agreeOff (h : FiniteStore.AgreeOff referenceFree s t) :
    t.usageSeen id reference ↔ s.usageSeen id reference := by
  unfold State.usageSeen
  rw [h.read fun hmem => hmem id reference rfl]

theorem areas_subset_referenceFree {l : List Area} (hl : l.contains .usage = false) :
    areas l ⊆ referenceFree := by
  rintro k hk id reference rfl
  have hin : l.contains .usage = true := hk
  rw [hl] at hin
  cases hin

theorem counterSlots_subset_referenceFree (id : Nat) : counterSlots id ⊆ referenceFree := by
  rintro k rfl i reference
  simp

theorem not_takes_of_balance {before after : Subscription}
    (hbefore : s.subscription id = some before) (hafter : t.subscription id = some after)
    (hsame : after.prepaidBalance = before.prepaidBalance) : ¬TakesUsage s t id amount := by
  rintro ⟨hpositive, b, a, hb, ha, htaken⟩
  obtain rfl := Option.some.inj (hbefore.symm.trans hb)
  obtain rfl := Option.some.inj (hafter.symm.trans ha)
  omega

/-- The mark is written when the charge is settled and the rest of it writes records and logs. -/
theorem settleUsage_marks {pendingLifetime newBalance : Int} {v : Unit}
    (hrun : (settleUsage id sub amount pendingLifetime newBalance reference).run env s = .ok v t) :
    ∀ i r, t.usageSeen i r ↔ s.usageSeen i r ∨ i = id ∧ r = reference := by
  obtain ⟨_, hask, hrun⟩ := run_check_ok .ask hrun
  obtain ⟨_, -, hrun⟩ := run_check_ok (.gets _) hrun
  obtain ⟨_, -, hrun⟩ := run_check_ok (.gets _) hrun
  obtain ⟨_, -, hrun⟩ := run_check_ok (.lift _) hrun
  obtain ⟨_, credited, hcredit, hrun⟩ := run_bind_ok.mp hrun
  obtain ⟨_, routed, hroute, hrun⟩ := run_bind_ok.mp hrun
  obtain ⟨_, paid, hpay, hrun⟩ := run_bind_ok.mp hrun
  obtain ⟨booked, -, hrun⟩ := run_check_ok (.lift _) hrun
  obtain ⟨_, w, hwrite, hrun⟩ := run_bind_ok.mp hrun
  obtain rfl := run_store_ok.mp hwrite
  obtain ⟨_, m, hmark, hrun⟩ := run_bind_ok.mp hrun
  obtain rfl := run_store_ok.mp hmark
  have hfree {α : Type} {x : Vault α} (hx : Modifies creditSlots x) : Modifies referenceFree x :=
    (hx.weaken creditSlots_subset_areas).weaken (areas_subset_referenceFree rfl)
  have hpaid : FiniteStore.AgreeOff referenceFree s paid :=
    ((hfree (Modifies.creditChargePayees _ _ _ _)).ok hcredit).trans
      (((hfree (Modifies.routeToSubAccount _ _)).ok hroute).trans
        ((hfree (Modifies.creditProtocolFee _ _ _ _)).ok hpay))
  have hlog : FiniteStore.AgreeOff (areas [.statements]) _ t :=
    Exec.Keeps.ok (R := FiniteStore.AgreeOff (areas [.statements]))
      (.bind (.require _) fun _ => .bind (.failIf _ _) fun _ => .bind (.okOr _ _) fun _ =>
        .bind (writePeriodSnapshot_areas _) fun _ => appendStatement_areas _ _ _ _ _ _ _) hrun
  intro i r
  unfold State.usageSeen
  rw [State.read_of_areas (k := .symbol (.usageRef i r)) hlog rfl]
  by_cases hself : i = id ∧ r = reference
  · obtain ⟨rfl, rfl⟩ := hself
    simp
  · rw [FiniteStore.read_write_of_ne _ _ (by simpa using hself),
      FiniteStore.read_write_of_ne _ _ (by simp), hpaid.read fun hmem => hmem i r rfl]
    simp [hself]

/-- A settled charge takes its amount. -/
theorem takesUsage_of_settled {balance : Int} {v : Unit}
    (hdue : UsageDue env s id sub amount other)
    (hbalance : safeSubBalance sub.prepaidBalance amount = .ok balance)
    (hsettle : (settleUsage id sub amount (sub.lifetimeCharged + amount) balance reference).run
      env u = .ok v t) : TakesUsage s t id amount := by
  obtain ⟨stored, hstored, hsub⟩ := State.effectiveSubscription_eq_some hdue.found
  obtain ⟨booked, hbooked, hbook⟩ := settleUsage_book hsettle
  have hsettled := Subscription.usageSettledTo_of_booked hdue.active hbalance hbooked
  have hafter : t.subscription id = some booked := by
    have hrecord : t.subscription id = (u.book.setRecord id booked).record id :=
      congrFun (congrArg Book.record hbook) id
    exact hrecord.trans (by simp [Book.setRecord])
  refine ⟨hdue.positive, stored, booked, hstored, hafter, ?_⟩
  rw [hsettled.2, hsub]

/-- The charge is settled after its checks. -/
def Settles (env : Env) (s t : State) (id : Nat) (amount : Int) (reference : Bytes) : Prop :=
  ∃ sub balance u, UsageDue env s id sub amount reference ∧
    (applyUsageLimits id sub amount).run env s = .ok none u ∧
    sub.capExceededBy amount = false ∧ InI128 (sub.lifetimeCharged + amount) ∧
    safeSubBalance sub.prepaidBalance amount = .ok balance ∧
    (settleUsage id sub amount (sub.lifetimeCharged + amount) balance reference).run env u =
      .ok () t

theorem Settles.takesUsage (h : Settles env s t id amount reference) :
    TakesUsage s t id amount := by
  obtain ⟨sub, balance, u, hdue, -, -, -, hbalance, hsettle⟩ := h
  exact takesUsage_of_settled hdue hbalance hsettle

/-- The amount is taken by a settled charge only, and any other leaves the marks alone. -/
theorem chargeUsageOne_settles
    (hrun : (chargeUsageOne id amount reference).run env s = .ok result t) :
    Settles env s t id amount reference ∨
      ¬TakesUsage s t id amount ∧ ∀ i r, t.usageSeen i r ↔ s.usageSeen i r := by
  have hcounters {limits : Option UsageChargeResult} {u : State} {sub : Subscription}
      (hlimits : (applyUsageLimits id sub amount).run env s = .ok limits u) :
      FiniteStore.AgreeOff (counterSlots id) s u := (applyUsageLimits_counters _ _ _).ok hlimits
  have hmarks {u : State} (hcount : FiniteStore.AgreeOff (counterSlots id) s u) (i : Nat)
      (r : Bytes) : u.usageSeen i r ↔ s.usageSeen i r :=
    State.usageSeen_of_agreeOff (hcount.mono (counterSlots_subset_referenceFree id))
  have hstatus {sub : Subscription} {u : State} {status : SubscriptionStatus}
      (hfound : s.effectiveSubscription id env.now = some sub)
      (hcount : FiniteStore.AgreeOff (counterSlots id) s u)
      (ht : t = u.write (.persistent (.sub id)) { sub with status }) :
      ¬TakesUsage s t id amount ∧ ∀ i r, t.usageSeen i r ↔ s.usageSeen i r := by
    subst ht
    obtain ⟨stored, hstored, hsub⟩ := State.effectiveSubscription_eq_some hfound
    refine ⟨not_takes_of_balance hstored (FiniteStore.read_write_self _ _) (by rw [hsub]), ?_⟩
    intro i r
    rw [← hmarks hcount i r]
    unfold State.usageSeen
    rw [FiniteStore.read_write_of_ne _ _ (by simp)]
  cases chargeUsageOne_outcome hrun with
  | refused hfound _ =>
    obtain ⟨stored, hstored, -⟩ := State.effectiveSubscription_eq_some hfound
    exact .inr ⟨not_takes_of_balance hstored hstored rfl, fun _ _ => .rfl⟩
  | rejected hclear _ _ _ _ hlimits =>
    have hcount := hcounters hlimits
    have hsame : t.subscription id = s.subscription id := hcount.read (by simp [counterSlots])
    obtain ⟨stored, hstored, -⟩ := State.effectiveSubscription_eq_some hclear.found
    exact .inr ⟨not_takes_of_balance hstored (hsame.trans hstored) rfl, hmarks hcount⟩
  | capped hdue hlimits _ hcancel =>
    obtain ⟨status, -, hcancel⟩ := run_check_ok (.lift _) hcancel
    obtain rfl := run_store_ok.mp hcancel
    exact .inr (hstatus hdue.found (hcounters hlimits) rfl)
  | settled hdue hlimits hcap hfits hbalance hsettle =>
    exact .inl ⟨_, _, _, hdue, hlimits, hcap, hfits, hbalance, hsettle⟩
  | unfit hdue hlimits _ _ => exact .inr (hstatus hdue.found (hcounters hlimits) rfl)

theorem Settles.marks (h : Settles env s t id amount reference) (i : Nat) (r : Bytes) :
    t.usageSeen i r ↔ s.usageSeen i r ∨ i = id ∧ r = reference := by
  obtain ⟨sub, balance, u, -, hlimits, -, -, -, hsettle⟩ := h
  have hcount : FiniteStore.AgreeOff (counterSlots id) s u :=
    (applyUsageLimits_counters _ _ _).ok hlimits
  rw [settleUsage_marks hsettle i r,
    State.usageSeen_of_agreeOff (hcount.mono (counterSlots_subset_referenceFree id))]

/-- A usage charge leaves a mark exactly where it takes its amount. -/
theorem chargeUsageOne_marks
    (hrun : (chargeUsageOne id amount reference).run env s = .ok result t) (i : Nat) (r : Bytes) :
    t.usageSeen i r ↔ s.usageSeen i r ∨ TakesUsage s t id amount ∧ i = id ∧ r = reference := by
  rcases chargeUsageOne_settles hrun with hsettles | ⟨hnot, hmarks⟩
  · simp [hsettles.marks i r, hsettles.takesUsage]
  · simp [hnot, hmarks i r]

theorem chargeUsageOne_unseen
    (hrun : (chargeUsageOne id amount reference).run env s = .ok result t)
    (htakes : TakesUsage s t id amount) : ¬s.usageSeen id reference := by
  rcases chargeUsageOne_settles hrun with ⟨sub, balance, u, hdue, -⟩ | ⟨hnot, -⟩
  · exact fun hseen => hseen hdue.fresh
  · exact absurd htakes hnot

/-! ## Another reference -/

theorem referenceSlots_not_statements (id : Nat) (first second : Bytes) :
    ∀ k ∈ referenceSlots id first second, k.area ≠ .statements := by
  rintro k (rfl | rfl)
  · simp [Slot.area, SymbolKey.area]
  · simp [Slot.area, SymbolKey.area]

theorem agreeOff_marks (w : State) (id : Nat) (first second : Bytes) :
    FiniteStore.AgreeOff (referenceSlots id first second)
      (w.write (.symbol (.usageRef id first)) true)
      (w.write (.symbol (.usageRef id second)) true) := by
  have hfirst : FiniteStore.AgreeOff (referenceSlots id first second) w
      (w.write (.symbol (.usageRef id first)) true) := w.agreeOff_write true (.inl rfl)
  have hsecond : FiniteStore.AgreeOff (referenceSlots id first second) w
      (w.write (.symbol (.usageRef id second)) true) := w.agreeOff_write true (.inr rfl)
  exact fun k hk => (hsecond k hk).trans (hfirst k hk).symm

/-- The reference only says where the mark is left. -/
theorem settleUsage_other {pendingLifetime newBalance : Int} {v : Unit}
    (hrun : (settleUsage id sub amount pendingLifetime newBalance other).run env s = .ok v t) :
    ∃ t', (settleUsage id sub amount pendingLifetime newBalance reference).run env s =
      .ok v t' := by
  obtain ⟨ledger, hask, hrun⟩ := run_check_ok .ask hrun
  refine exists_run_bind hask ?_
  obtain ⟨bps, hbps, hrun⟩ := run_check_ok (.gets _) hrun
  refine exists_run_bind hbps ?_
  obtain ⟨treasury, htreasury, hrun⟩ := run_check_ok (.gets _) hrun
  refine exists_run_bind htreasury ?_
  obtain ⟨split, hsplit, hrun⟩ := run_check_ok (.lift _) hrun
  refine exists_run_bind hsplit ?_
  obtain ⟨_, credited, hcredit, hrun⟩ := run_bind_ok.mp hrun
  refine exists_run_bind hcredit ?_
  obtain ⟨_, routed, hroute, hrun⟩ := run_bind_ok.mp hrun
  refine exists_run_bind hroute ?_
  obtain ⟨_, paid, hpay, hrun⟩ := run_bind_ok.mp hrun
  refine exists_run_bind hpay ?_
  obtain ⟨booked, hbooked, hrun⟩ := run_check_ok (.lift _) hrun
  refine exists_run_bind hbooked ?_
  obtain ⟨_, w, hwrite, hrun⟩ := run_bind_ok.mp hrun
  refine exists_run_bind hwrite ?_
  obtain ⟨_, m, hmark, hrun⟩ := run_bind_ok.mp hrun
  obtain rfl := run_store_ok.mp hmark
  refine exists_run_bind (a := ()) (run_store_ok.mpr rfl) ?_
  have hlogs := referenceSlots_not_statements id other reference
  have hrest (period : Nat) (snapshot : Nat → BillingPeriodSnapshot) : (do
      require (sub.intervalSeconds ≠ 0)
      failIf (u64Max < period * sub.intervalSeconds) .overflow
      let periodStart ← okOr (checkedAddU64 sub.startTime (period * sub.intervalSeconds)) .overflow
      writePeriodSnapshot (snapshot periodStart)
      appendStatement id amount sub.merchant sub.token .usage ledger.now ledger.now
        : Vault Unit).Respects (FiniteStore.AgreeOff (referenceSlots id other reference)) :=
    .bind (.require _) fun _ => .bind (.failIf _ _) fun _ => .bind (.okOr _ _) fun _ =>
      .bind (respects_writePeriodSnapshot hlogs _) fun _ =>
      respects_appendStatement hlogs _ _ _ _ _ _ _
  have hmatch := hrest ((ledger.now - sub.startTime) / sub.intervalSeconds) (fun periodStart =>
    { subscriptionId := id, periodIndex := (ledger.now - sub.startTime) / sub.intervalSeconds,
      periodStart, periodEnd := ledger.now, totalCharged := amount, totalUsageUnits := amount,
      statusFlags := snapshotFlagUsageCharged, finalizedAt := ledger.now }) env _ _
    (agreeOff_marks w id other reference)
  rw [hrun] at hmatch
  obtain ⟨t', hother, -⟩ := hmatch.of_ok
  exact ⟨t', hother⟩

/-- A charge that takes its amount under one reference takes it under any unseen one. -/
theorem chargeUsageOne_other
    (hrun : (chargeUsageOne id amount other).run env s = .ok result t)
    (htakes : TakesUsage s t id amount) (hunseen : ¬s.usageSeen id reference) :
    ∃ t', (chargeUsageOne id amount reference).run env s = .ok .charged t' ∧
      TakesUsage s t' id amount := by
  rcases chargeUsageOne_settles hrun with hsettles | ⟨hnot, -⟩
  swap
  · exact absurd htakes hnot
  obtain ⟨sub, balance, u, hdue, hlimits, hcap, hfits, hbalance, hsettle⟩ := hsettles
  have hdue' : UsageDue env s id sub amount reference :=
    { hdue with fresh := not_not.mp hunseen }
  obtain ⟨t', hsettle'⟩ : ∃ t', (settleUsage id sub amount (sub.lifetimeCharged + amount) balance
      reference).run env u = .ok () t' := settleUsage_other hsettle
  have hlifetime : safeAdd sub.lifetimeCharged amount = .ok (sub.lifetimeCharged + amount) :=
    safeAdd_ok.mpr ⟨rfl, hfits⟩
  have hcharge : (chargeUsageDue id sub amount reference).run env u = .ok .charged t' := by
    refine (run_bind_of_ok (run_lift_ok.mpr ⟨hlifetime, rfl⟩)).trans ?_
    have hopen : sub.lifetimeCap.any (· < sub.lifetimeCharged + amount) = false := hcap
    rw [if_neg (ne_true_of_eq_false hopen), hbalance]
    exact (run_seq_of_ok hsettle').trans rfl
  exact ⟨t', (run_chargeUsageOne_of_due hdue' hlimits).trans hcharge,
    takesUsage_of_settled hdue' hbalance hsettle'⟩

end Charges

/-! ## Calls -/

section Calls

variable {α : Type} {env : Env} {s t v w : State} {id : Nat} {amount : Int}
  {reference constant other : Bytes} {call : VaultCall} {l : Transaction} {body : Vault α}
  {name : LockName}

theorem takesUsage_of_locked (hbefore : FiniteStore.AgreeOff (areas [.locks]) s v)
    (hafter : FiniteStore.AgreeOff (areas [.locks]) w t) :
    TakesUsage s t id amount ↔ TakesUsage v w id amount := by
  have hs : v.subscription id = s.subscription id :=
    State.read_of_areas (k := .persistent (.sub id)) hbefore rfl
  have ht : t.subscription id = w.subscription id :=
    State.read_of_areas (k := .persistent (.sub id)) hafter rfl
  unfold TakesUsage
  rw [hs, ht]

/-- The charge behind the lock and the operator's signature. -/
theorem run_usageCall (hcall : call.usageCharge = some (id, amount, reference))
    (hrun : call.exec.run env s = .ok () t) :
    ∃ result v w, (chargeUsageOne id amount reference).run env v = .ok result w ∧
      FiniteStore.AgreeOff (areas [.locks]) s v ∧ FiniteStore.AgreeOff (areas [.locks]) w t := by
  cases call
  case chargeUsage | chargeUsageWithReference =>
    cases hcall
    obtain ⟨result, hrun⟩ := run_effectOf_ok.mp hrun
    obtain ⟨v, w, hbody, hlocked⟩ := run_withLock_areas (run_guardedCall_ok.mp hrun).2
    exact ⟨result, v, w, hbody, hlocked⟩
  case operatorChargeUsage | operatorChargeUsageWithRef =>
    cases hcall
    obtain ⟨result, hrun⟩ := run_effectOf_ok.mp hrun
    obtain ⟨v, w, hbody, hlocked⟩ := run_withLock_areas (run_guardedCall_ok.mp hrun).2
    obtain ⟨_, -, hbody⟩ := run_check_ok (keeps_requireOperatorAuth _) hbody
    exact ⟨result, v, w, hbody, hlocked⟩
  all_goals cases hcall

theorem usageCall_marks (hcall : call.usageCharge = some (id, amount, reference))
    (hrun : call.exec.run env s = .ok () t) (i : Nat) (r : Bytes) :
    t.usageSeen i r ↔ s.usageSeen i r ∨ TakesUsage s t id amount ∧ i = id ∧ r = reference := by
  obtain ⟨result, v, w, hbody, hbefore, hafter⟩ := run_usageCall hcall hrun
  have hfree : areas [.locks] ⊆ referenceFree := areas_subset_referenceFree rfl
  rw [State.usageSeen_of_agreeOff (hafter.mono hfree), chargeUsageOne_marks hbody i r,
    State.usageSeen_of_agreeOff (hbefore.mono hfree), takesUsage_of_locked hbefore hafter]

/-- Only usage charges and the configuration of limits write what usage is counted with. -/
theorem usage_kept_of_call (hcall : call.usageCharge = none) (hconfigures : call.configures = none)
    (hrun : call.exec.run env s = .ok () t) : FiniteStore.AgreeOff usageFree s t := by
  have hworks {l : List Area} (hl : (Area.locks :: l).contains .usage = false)
      (hkeeps : call.exec.Keeps (WorksIn l)) : FiniteStore.AgreeOff usageFree s t :=
    (hkeeps.ok hrun).1.mono (areas_subset_usageFree hl)
  have hown : call.areas.contains .usage = false → FiniteStore.AgreeOff usageFree s t :=
    fun hl => hworks (by simpa using hl) call.worksIn
  cases call
  case chargeUsage | chargeUsageWithReference | operatorChargeUsage | operatorChargeUsageWithRef =>
    cases hcall
  case chargeSubscription =>
    exact hworks (l := billingAreas) rfl
      (WorksIn.effectOf (WorksIn.guardedCall (chargeOne_areas _ _ _ _) rfl))
  case operatorChargeSubscription =>
    exact hworks (l := billingAreas) rfl (WorksIn.effectOf (WorksIn.guardedCall
      (.bind (keeps_requireOperatorAuth _) fun _ => chargeOne_areas _ _ _ _) rfl))
  case batchCharge =>
    exact hworks (l := .nonces :: billingAreas) rfl (WorksIn.effectOf (WorksIn.withLock
      (.bind Modifies.requireNotEmergencyStop fun _ => .bind (doBatchChargeDetailed_areas _ _ _)
        fun _ => .bind (.failIf _ _) fun _ => .pure _) rfl))
  case batchChargeDetailed =>
    exact hworks (l := .nonces :: billingAreas) rfl (WorksIn.effectOf (WorksIn.withLock
      (.bind Modifies.requireNotEmergencyStop fun _ => doBatchChargeDetailed_areas _ _ _) rfl))
  case chargeOneOff =>
    exact hworks (l := billingAreas) rfl (WorksIn.guardedCall (doChargeOneOff_areas _ _ _ _) rfl)
  case graceBuyout =>
    exact hworks (l := billingAreas) rfl
      (WorksIn.effectOf (WorksIn.guardedCall (doGraceBuyout_areas _ _ _ _) rfl))
  case configureUsageLimits => cases hconfigures
  all_goals exact hown rfl

theorem keeps_references_of_call (hcall : call.usageCharge = none)
    (hrun : call.exec.run env s = .ok () t) : FiniteStore.AgreeOff referenceFree s t := by
  cases hconfigures : call.configures with
  | none =>
    refine (usage_kept_of_call hcall hconfigures hrun).mono ?_
    rintro k hk id reference rfl
    exact hk rfl
  | some configured =>
    cases call
    case configureUsageLimits id limits =>
      have hlimits : Modifies referenceFree (doConfigureUsageLimits id limits) :=
        .bind (Modifies.requireAuth _) fun _ => .bind (requireOwnUsageSubscription_keeps _ _)
          fun _ => .bind (.failIf _ _) fun _ => Modifies.store fun i r h => by cases h
      exact hlimits.ok hrun
    all_goals cases hconfigures

/-- The constant in place of the reference is all that makes the call what it is. -/
theorem takes_of_wouldTake (hcall : call.usageCharge = some (id, amount, constant))
    (hplain : call.unreferenced = true) (hable : call.WouldTake env s id amount)
    (hunseen : ¬s.usageSeen id constant) : call.Takes env s id amount := by
  obtain ⟨other, t, hrun, htakes⟩ := hable
  have hfree : areas [.locks] ⊆ referenceFree := areas_subset_referenceFree rfl
  have hlock {name : LockName} :
      FiniteStore.AgreeOff (areas [.locks]) s (s.write (.lock name) true) :=
    s.agreeOff_write true rfl
  have hlocked {name : LockName} {w : State} :
      FiniteStore.AgreeOff (areas [.locks]) w (w.remove (.lock name)) := w.agreeOff_remove rfl
  cases call
  case chargeUsage =>
    cases hcall
    obtain ⟨result, hrun⟩ := run_effectOf_ok.mp hrun
    obtain ⟨hrunning, hrun⟩ := run_guardedCall_ok.mp hrun
    obtain ⟨hidle, w, hbody, rfl⟩ := run_withLock_ok.mp hrun
    rw [takesUsage_of_locked hlock hlocked] at htakes
    obtain ⟨w', hbody', htakes'⟩ := chargeUsageOne_other hbody htakes
      (by rwa [State.usageSeen_of_agreeOff (hlock.mono hfree)])
    refine ⟨_, run_effectOf_ok.mpr ⟨_, run_guardedCall_ok.mpr ⟨hrunning,
      run_withLock_ok.mpr ⟨hidle, w', hbody', rfl⟩⟩⟩, ?_⟩
    exact (takesUsage_of_locked hlock hlocked).mpr htakes'
  case operatorChargeUsage =>
    cases hcall
    obtain ⟨result, hrun⟩ := run_effectOf_ok.mp hrun
    obtain ⟨hrunning, hrun⟩ := run_guardedCall_ok.mp hrun
    obtain ⟨hidle, w, hbody, rfl⟩ := run_withLock_ok.mp hrun
    obtain ⟨_, hoperator, hbody⟩ := run_check_ok (keeps_requireOperatorAuth _) hbody
    rw [takesUsage_of_locked hlock hlocked] at htakes
    obtain ⟨w', hbody', htakes'⟩ := chargeUsageOne_other hbody htakes
      (by rwa [State.usageSeen_of_agreeOff (hlock.mono hfree)])
    refine ⟨_, run_effectOf_ok.mpr ⟨_, run_guardedCall_ok.mpr ⟨hrunning,
      run_withLock_ok.mpr ⟨hidle, w', (run_bind_of_ok hoperator).trans hbody', rfl⟩⟩⟩, ?_⟩
    exact (takesUsage_of_locked hlock hlocked).mpr htakes'
  all_goals cases hplain

theorem unseen_of_takes (hcall : call.usageCharge = some (id, amount, reference))
    (htakes : call.Takes env s id amount) : ¬s.usageSeen id reference := by
  obtain ⟨t, hrun, htakes⟩ := htakes
  obtain ⟨result, v, w, hbody, hbefore, hafter⟩ := run_usageCall hcall hrun
  rw [takesUsage_of_locked hbefore hafter] at htakes
  rw [← State.usageSeen_of_agreeOff (hbefore.mono (areas_subset_referenceFree rfl))]
  exact chargeUsageOne_unseen hbody htakes

/-! ## Runs -/

/-- The transaction is a usage charge of the subscription that takes its amount under the
reference. -/
def Transaction.BooksUsage (l : Transaction) (s : State) (id : Nat) (reference : Bytes) : Prop :=
  ∃ env call amount, l = .call env call ∧ call.usageCharge = some (id, amount, reference) ∧
    call.Takes env s id amount

theorem Transacts.usageSeen (h : Transacts l s t) (id : Nat) (reference : Bytes) :
    t.usageSeen id reference ↔ s.usageSeen id reference ∨ l.BooksUsage s id reference := by
  cases h with
  | @call env call _ _ hrun =>
    cases hcall : call.usageCharge with
    | none =>
      rw [State.usageSeen_of_agreeOff (keeps_references_of_call hcall hrun)]
      refine ⟨.inl, fun h => h.resolve_right ?_⟩
      rintro ⟨_, c, amount, heq, hother, -⟩
      obtain ⟨-, rfl⟩ := Transaction.call.inj heq
      rw [hcall] at hother
      cases hother
    | some charge =>
      obtain ⟨i, amount, r⟩ := charge
      rw [usageCall_marks hcall hrun]
      constructor
      · rintro (hseen | ⟨htakes, rfl, rfl⟩)
        · exact .inl hseen
        · exact .inr ⟨env, call, amount, rfl, hcall, t, hrun, htakes⟩
      · rintro (hseen | ⟨_, c, amount', heq, hother, t', hrun', htakes⟩)
        · exact .inl hseen
        · obtain ⟨rfl, rfl⟩ := Transaction.call.inj heq
          cases hcall.symm.trans hother
          cases hrun.symm.trans hrun'
          exact .inr ⟨htakes, rfl, rfl⟩
  | other hagree =>
    rw [State.usageSeen_of_agreeOff (hagree.mono (areas_subset_referenceFree rfl))]
    refine ⟨.inl, fun h => h.resolve_right ?_⟩
    rintro ⟨_, c, amount, heq, -⟩
    cases heq

/-- The marks tell which references have taken an amount. -/
theorem usageSeen_of_run {start : State} {hist : History Transaction State}
    (hstart : Deployed start) (hrun : Run Transacts start hist s) (id : Nat) (reference : Bytes) :
    s.usageSeen id reference ↔ ∃ step ∈ hist, step.1.BooksUsage step.2 id reference := by
  induction hrun with
  | start =>
    have hnone : start.read (.symbol (.usageRef id reference)) = none :=
      State.read_of_areas (k := .symbol (.usageRef id reference)) hstart.areas rfl
    simp [State.usageSeen, hnone]
  | next _ hstep ih => simp [hstep.usageSeen id reference, ih, or_comm]

/-- Where the amount could be taken, a charge without a reference takes it just if no charge has
been booked before under the constant that its entrypoint fills in. -/
theorem unreferenced_usage_taken_iff {start : State} {hist : History Transaction State}
    (hstart : Deployed start) (hrun : Run Transacts start hist s)
    (hcall : call.usageCharge = some (id, amount, constant)) (hplain : call.unreferenced = true)
    (hable : call.WouldTake env s id amount) :
    call.Takes env s id amount ↔ ∀ step ∈ hist, ¬step.1.BooksUsage step.2 id constant := by
  have hseen : ¬s.usageSeen id constant ↔ ∀ step ∈ hist, ¬step.1.BooksUsage step.2 id constant := by
    rw [usageSeen_of_run hstart hrun id constant]
    push Not
    rfl
  rw [← hseen]
  exact ⟨unseen_of_takes hcall, takes_of_wouldTake hcall hplain hable⟩

end Calls

/-! ## Two charges -/

theorem takesUsage_of_balances {s t : State} {id : Nat} {amount b : Int}
    (hpositive : 0 < amount) (hbefore : (s.subscription id).map (·.prepaidBalance) = some b)
    (hafter : (t.subscription id).map (·.prepaidBalance) = some (b - amount)) :
    TakesUsage s t id amount := by
  obtain ⟨before, hs, hbalance⟩ := Option.map_eq_some_iff.mp hbefore
  obtain ⟨after, ht, hrest⟩ := Option.map_eq_some_iff.mp hafter
  exact ⟨hpositive, before, after, hs, ht, by rw [hrest, hbalance]⟩

private def meteredCalls : List (Env × VaultCall) :=
  [(sampleEnv 2 [⟨1⟩], .chargeUsageWithReference 0 3 [1]),
   (sampleEnv 1 [⟨2⟩], .depositFunds 0 100 none),
   (sampleEnv 0 [⟨2⟩], .createSubscription { sampleRequest with usageEnabled := true }),
   (sampleEnv 0 [⟨1⟩], .configureUsageLimits 0 ⟨⟨1⟩, none, 0, 0, none⟩)]

private def meteredVault : State := stateAfter (afterCalls (sampleVault 0)) meteredCalls

private theorem meteredVault_run : Run Transacts (sampleStart 0)
    (transactionHistory (afterCalls (sampleVault 0)) meteredCalls ++
      [(.other (sampleEnv 0 []), sampleStart 0)]) meteredVault :=
  run_transactions (sample_transacted 0) (by decide +kernel)

/-- After a charge with a reference of its own the first one without is taken. -/
theorem first_unreferenced_usage_taken :
    (VaultCall.chargeUsage 0 5).Takes (sampleEnv 3 [⟨1⟩]) meteredVault 0 5 := by
  have htakes : (VaultCall.chargeUsage 0 5).WouldTake (sampleEnv 3 [⟨1⟩]) meteredVault 0 5 :=
    ⟨usageReference, _, run_eq_after (by decide +kernel),
      takesUsage_of_balances (b := 97) (by decide) (by decide +kernel) (by decide +kernel)⟩
  refine (unreferenced_usage_taken_iff (sample_deployed 0) meteredVault_run rfl rfl htakes).mpr ?_
  intro step hmem
  simp only [meteredCalls, transactionHistory, List.cons_append, List.nil_append,
    List.mem_cons, List.not_mem_nil, or_false] at hmem
  rintro ⟨env, call, amount, hcall, hcharge, -⟩
  rcases hmem with rfl | rfl | rfl | rfl | rfl <;> cases hcall <;> cases hcharge

/-- The second charge succeeds and takes nothing, though all but the reference allows it. -/
theorem second_unreferenced_usage_lost : ∃ (start s : State) (hist : History Transaction State)
    (env : Env), Deployed start ∧ Run Transacts start hist s ∧
      (VaultCall.chargeUsage 0 7).WouldTake env s 0 7 ∧
      (∃ t, (VaultCall.chargeUsage 0 7).exec.run env s = .ok () t) ∧
      ¬(VaultCall.chargeUsage 0 7).Takes env s 0 7 := by
  let u := VaultCall.exec (.chargeUsage 0 5) |>.after (sampleEnv 3 [⟨1⟩]) meteredVault
  have hcharge : Transacts (.call (sampleEnv 3 [⟨1⟩]) (.chargeUsage 0 5)) meteredVault u :=
    .call (run_eq_after (by decide +kernel))
  have hsecond : (VaultCall.chargeUsage 0 7).exec.run (sampleEnv 4 [⟨1⟩]) u = .ok () _ :=
    run_eq_after (by decide +kernel)
  refine ⟨_, u, _, sampleEnv 4 [⟨1⟩], sample_deployed 0, meteredVault_run.next hcharge,
    ⟨[2], _, run_eq_after (by decide +kernel), takesUsage_of_balances (b := 92) (by decide)
      (by decide +kernel) (by decide +kernel)⟩, ⟨_, hsecond⟩, ?_⟩
  rintro ⟨t, hrun, -, before, after, hbefore, hafter, htaken⟩
  obtain rfl := (Outcome.ok.inj (hsecond.symm.trans hrun)).2
  have hsame : (((VaultCall.chargeUsage 0 7).exec.after (sampleEnv 4 [⟨1⟩]) u).subscription 0).map
      (·.prepaidBalance) = (u.subscription 0).map (·.prepaidBalance) := by decide +kernel
  rw [hbefore, hafter] at hsame
  have hkept : after.prepaidBalance = before.prepaidBalance := Option.some.inj hsame
  omega

end SubscriptionVault
