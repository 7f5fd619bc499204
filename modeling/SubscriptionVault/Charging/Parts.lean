import SubscriptionVault.Charging.Footprints
import SubscriptionVault.Contract.Areas

/-!
# The parts of a charge

A charge pays merchants and otherwise writes to areas in which nobody's earnings are kept. A
relation that both parts keep is kept by every charge, whichever way it ends; where success and
failure differ, the ends of the parts are the ends of the charge.
-/

namespace SubscriptionVault

open Exec

/-! ## Areas of the parts -/

/-- Besides paying merchants, charges write to these areas only. -/
def chargeAreas : List Area :=
  [.records, .periods, .salts, .failures, .statements, .usage, .idemKeys, .tokens]

/-- Interval charges, one-off charges and buyouts count no usage. -/
def intervalAreas : List Area :=
  [.records, .periods, .salts, .failures, .statements, .idemKeys, .tokens]

/-- Where credits go. -/
def creditAreas : List Area := [.balances, .earnings, .merchantTokens, .subAccounts]

theorem statementSlots_subset_areas : statementSlots ⊆ areas [.statements] := by
  intro k hk
  have hk : k.isStatement = true := hk
  cases k with
  | persistent key => cases key <;> first | rfl | cases hk
  | _ => cases hk

theorem creditSlots_subset_areas : creditSlots ⊆ areas creditAreas := by
  intro k hk
  have hk : k.isCredit = true := hk
  cases k with
  | instanced key => cases key <;> first | rfl | cases hk
  | persistent key => cases key <;> cases hk
  | subAccountFunds merchant label token => rfl
  | _ => cases hk

theorem appendStatement_areas (id : Nat) (amount : Int) (merchant token : Address)
    (kind : BillingChargeKind) (periodStart timestamp : Nat) : Modifies (areas [.statements])
      (appendStatement id amount merchant token kind periodStart timestamp) :=
  (Modifies.statement_appended _ _ _ _ _ _ _).weaken statementSlots_subset_areas

theorem writePeriodSnapshot_areas (snapshot : BillingPeriodSnapshot) :
    Modifies (areas [.statements]) (writePeriodSnapshot snapshot) :=
  (Modifies.snapshot_written _).weaken statementSlots_subset_areas

def Slot.isSnapshot : Slot → Bool
  | .persistent (.billingPeriodSnapshot _ _) | .persistent (.billingPeriodSnapshotIndex _) => true
  | _ => false

/-- All slots but the period snapshots and their indices. -/
def snapshotFree : Set Slot := {k | k.isSnapshot = false}

theorem areas_subset_snapshotFree {l : List Area} (hl : l.contains .statements = false) :
    areas l ⊆ snapshotFree := by
  intro k hk
  have hin : l.contains k.area = true := hk
  show k.isSnapshot = false
  unfold Slot.isSnapshot
  split
  · exact absurd hin (by rw [Slot.area, DataKey.area, hl]; nofun)
  · exact absurd hin (by rw [Slot.area, DataKey.area, hl]; nofun)
  · rfl

theorem Modifies.snapshotFree {α : Type} {l : List Area} {x : Vault α} (h : Modifies (areas l) x)
    (hl : l.contains .statements = false) : Modifies snapshotFree x :=
  h.weaken (areas_subset_snapshotFree hl)

theorem recordIdemKey_areas (domain : NonceDomain) (id : Nat) (key : Option BytesN32) :
    Modifies (areas [.idemKeys]) (recordIdemKey domain id key) :=
  .bind .ask fun _ => .whenSome fun _ => .bind (.gets _) fun _ => .bind (.gets _) fun _ =>
    .bind (.failIf _ _) fun _ => Modifies.store rfl

/-- The slot where the usage of the subscription is counted. -/
def counterSlots (id : Nat) : Set Slot := {.instanced (.usageState id)}

theorem applyUsageLimits_counters (id : Nat) (sub : Subscription) (units : Int) :
    Modifies (counterSlots id) (applyUsageLimits id sub units) := by
  refine .bind .ask fun env => .bind Modifies.load fun configured => ?_
  cases configured with
  | none => exact .pure _
  | some limits =>
    refine .bind (.require _) fun _ => .bind Modifies.load fun _ =>
      .ite (.pure _) (.ite (.pure _) ?_)
    exact .bind .ask fun _ => .bind (.when (Modifies.store rfl)) fun _ =>
      .ite (.pure _) (.bind (Modifies.store rfl) fun _ => .pure _)

theorem applyUsageLimits_areas (id : Nat) (sub : Subscription) (units : Int) :
    Modifies (areas [.usage]) (applyUsageLimits id sub units) := by
  refine (applyUsageLimits_counters id sub units).weaken fun k hk => ?_
  obtain rfl : k = .instanced (.usageState id) := hk
  rfl

theorem writeSubscription_areas (id : Nat) (sub : Subscription) :
    Modifies (areas [.records]) (writeSubscription id sub) := Modifies.store rfl

theorem failIfExpired_areas (id : Nat) (sub : Subscription) :
    Modifies (areas [.records]) (failIfExpired id sub) :=
  .bind .ask fun _ => .when <| .bind
    (.when (.bind (.lift _) fun _ => writeSubscription_areas _ _)) fun _ => .fail _

theorem cancelCapped_areas (id : Nat) (sub : Subscription) :
    Modifies (areas [.records]) (cancelCapped id sub) :=
  .bind (.lift _) fun _ => writeSubscription_areas _ _

theorem fireScheduledCancellation_areas (id : Nat) (sub : Subscription) :
    Modifies (areas [.records, .tokens]) (fireScheduledCancellation id sub) :=
  .when <| .bind (.lift _) fun _ => .bind ((writeSubscription_areas _ _).widen rfl) fun _ =>
    .when <| .bind .ask fun _ => .bind (Modifies.transfer rfl rfl) fun _ => .pure _

theorem recordShortfall_areas (id : Nat) (sub : Subscription) (cfg : Option CachedAdminConfig) :
    Modifies (areas [.records, .failures]) (recordShortfall id sub cfg) :=
  .bind .ask fun _ => .bind (.gets _) fun _ => .bind (.lift _) fun _ => .bind (.lift _) fun _ =>
    .bind ((writeSubscription_areas _ _).widen rfl) fun _ => .bind (.gets _) fun _ => .when <|
      .bind Modifies.load fun _ => .bind (Modifies.store rfl) fun _ => .when <|
        .bind ((writeSubscription_areas _ _).widen rfl) fun _ => Modifies.delete rfl

/-! ## How a charge ends -/

/-- Paying for a charge of `sub` ends as `Q` and `E` say, and so does everything else a charge
for an interval writes. -/
structure PaymentEnds (Q : State → State → Prop) (E : Error → State → State → Prop) (id : Nat)
    (sub : Subscription) : Prop where
  quiet : ∀ s t, FiniteStore.AgreeOff (areas intervalAreas) s t → Q s t
  credit : ∀ merchant token amount kind,
    (creditMerchantBalanceForToken merchant token amount kind).Ends Q E
  payees : ∀ net kind, (do
    creditChargePayees id sub net kind
    routeToSubAccount sub net).Ends Q E

/-- The payment for usage also takes down its reference. -/
structure ReferredEnds (Q : State → State → Prop) (E : Error → State → State → Prop) (id : Nat)
    (sub : Subscription) : Prop extends PaymentEnds Q E id sub where
  refers : ∀ reference, (store (.symbol (.usageRef id reference)) true : Vault Unit).Ends Q E

/-- Before it the usage is counted. -/
structure UsageEnds (Q : State → State → Prop) (E : Error → State → State → Prop) (id : Nat)
    (sub : Subscription) : Prop extends ReferredEnds Q E id sub where
  counts : ∀ units, (applyUsageLimits id sub units).Ends Q E

/-- Paying for a charge of `sub` keeps `R`, and so does everything else a charge for an interval
writes. -/
structure PaymentKeeps (R : State → State → Prop) (id : Nat) (sub : Subscription) : Prop where
  quiet : ∀ s t, FiniteStore.AgreeOff (areas intervalAreas) s t → R s t
  credit : ∀ merchant token amount kind,
    (creditMerchantBalanceForToken merchant token amount kind).Keeps R
  payees : ∀ net kind, (do
    creditChargePayees id sub net kind
    routeToSubAccount sub net).Keeps R

theorem PaymentKeeps.ends {R : State → State → Prop} [Std.Refl R] [IsTrans State R] {id : Nat}
    {sub : Subscription} (h : PaymentKeeps R id sub) : PaymentEnds R (fun _ => R) id sub where
  quiet := h.quiet
  credit _ _ _ _ := .of_keeps (h.credit _ _ _ _) fun _ _ hr => hr
  payees _ _ := .of_keeps (h.payees _ _) fun _ _ hr => hr

namespace PaymentEnds

variable {Q : State → State → Prop} {E : Error → State → State → Prop} [EndRelation Q E]
  {id : Nat} {sub : Subscription}

theorem areas {α : Type} {l : List Area} {x : Vault α} (h : PaymentEnds Q E id sub)
    (hx : Modifies (SubscriptionVault.areas l) x) (hl : l.all intervalAreas.contains = true) :
    x.Ends Q E :=
  .of_keeps (hx.widen hl) h.quiet

/-- Where usage makes no difference it need not be looked at. -/
theorem withUsage (h : PaymentEnds Q E id sub)
    (husage : ∀ s t, FiniteStore.AgreeOff (SubscriptionVault.areas [.usage]) s t → Q s t) :
    UsageEnds Q E id sub where
  toPaymentEnds := h
  counts units := .of_keeps (applyUsageLimits_areas id sub units) husage
  refers _ := .of_keeps (Modifies.store (S := SubscriptionVault.areas [.usage]) rfl) husage

/-- The two parts of a payment stand in front of the rest of the charge. -/
theorem pay {β : Type} (h : PaymentEnds Q E id sub) {net : Int} {kind : BillingChargeKind}
    {rest : Vault β} (hrest : rest.Ends Q E) : (do
      creditChargePayees id sub net kind
      routeToSubAccount sub net
      rest).Ends Q E := by
  refine .of_runs (fun env s b t hrun => ?_) fun env s e t hrun => ?_
  · obtain ⟨_, s₁, hpayees, hrun⟩ := run_bind_ok.mp hrun
    obtain ⟨_, s₂, hroute, hrun⟩ := run_bind_ok.mp hrun
    exact EndRelation.trans E ((h.payees net kind).ok (run_bind_ok.mpr ⟨_, _, hpayees, hroute⟩))
      (hrest.ok hrun)
  · rcases run_bind_err.mp hrun with hpayees | ⟨_, s₁, hpayees, hrun⟩
    · exact (h.payees net kind).err (run_bind_err.mpr (.inl hpayees))
    · rcases run_bind_err.mp hrun with hroute | ⟨_, s₂, hroute, hrun⟩
      · exact (h.payees net kind).err (run_bind_err.mpr (.inr ⟨_, _, hpayees, hroute⟩))
      · exact EndRelation.extend
          ((h.payees net kind).ok (run_bind_ok.mpr ⟨_, _, hpayees, hroute⟩)) (hrest.err hrun)

theorem fee (h : PaymentEnds Q E id sub) (token : Address) (amount : Int)
    (treasury : Option Address) (kind : BillingChargeKind) :
    (creditProtocolFee token amount treasury kind).Ends Q E :=
  .when <| .bind .ask fun _ => .bind (.gets _) fun _ => .bind (.unwrap _) fun _ =>
    .whenSome fun _ => h.credit _ _ _ _

theorem oneOffFee (h : PaymentEnds Q E id sub) (token : Address) (amount : Int)
    (treasury : Option Address) : (creditOneOffFee token amount treasury).Ends Q E :=
  .when <| .whenSome fun _ => h.credit _ _ _ _

theorem settleInterval (h : PaymentEnds Q E id sub) (charge : IntervalCharge)
    (key : Option BytesN32) (cfg : Option CachedAdminConfig) :
    (settleInterval id sub charge key cfg).Ends Q E :=
  .bind .ask fun _ => .bind (.gets _) fun _ => .bind (.lift _) fun _ =>
    h.pay <| .bind (h.fee _ _ _ _) fun _ => .bind (.lift _) fun _ =>
    .bind (h.areas (Modifies.delete (S := SubscriptionVault.areas [.failures]) rfl) rfl) fun _ =>
    .bind (.lift _) fun _ => .bind (h.areas (writeSubscription_areas _ _) rfl) fun _ =>
    .bind (h.areas (appendStatement_areas _ _ _ _ _ _ _) rfl) fun _ =>
    .bind (h.areas (writePeriodSnapshot_areas _) rfl) fun _ =>
    .bind (h.areas (Modifies.store (S := SubscriptionVault.areas [.periods]) rfl) rfl) fun _ =>
    .bind (h.areas (Modifies.store (S := SubscriptionVault.areas [.salts]) rfl) rfl) fun _ =>
    h.areas (recordIdemKey_areas _ _ _) rfl

theorem chargeInterval (h : PaymentEnds Q E id sub) (amount : Int) (key : Option BytesN32)
    (cfg : Option CachedAdminConfig) : (chargeInterval id sub amount key cfg).Ends Q E := by
  refine .bind .ask fun env => .bind (.require _) fun _ => .bind (.check Modifies.load) fun _ =>
    .bind (.failIf _ _) fun _ => .bind (.gets _) fun _ => .ite (.pure _) ?_
  refine .bind (.check Modifies.load) fun _ => .bind (.failIf _ _) fun _ =>
    .bind (.lift _) fun _ => .bind (.failIf _ _) fun _ => .bind (.lift _) fun _ =>
    .ite (.bind (h.areas (cancelCapped_areas _ _) rfl) fun _ => .pure _) ?_
  split
  · exact .bind (h.settleInterval _ _ _) fun _ => .pure _
  · exact .bind (h.areas (recordShortfall_areas _ _ _) rfl) fun _ => .pure _

theorem chargeChecked (h : PaymentEnds Q E id sub) (key : Option BytesN32)
    (cfg : Option CachedAdminConfig) : (chargeChecked id sub key cfg).Ends Q E :=
  .bind .ask fun _ => .bind (.gets _) fun _ => .bind (.lift _) fun _ =>
    .ite (.bind (.when (h.areas (cancelCapped_areas _ _) rfl)) fun _ => .pure _) <|
    .ite (.bind (h.areas (fireScheduledCancellation_areas _ _) rfl) fun _ => .pure _) <|
    .bind (.check (Modifies.requireChargeable _)) fun _ => .bind (.lift _) fun _ =>
    .ite (.pure _) (h.chargeInterval _ _ _)

theorem checkOneOff (h : PaymentEnds Q E id sub) (merchant : Address) (amount : Int) :
    (checkOneOff id sub merchant amount).Ends Q E :=
  .bind (.failIf _ _) fun _ => .bind (.when <| .bind (.when
      (h.areas (cancelCapped_areas _ _) rfl)) fun _ => .fail _) fun _ =>
    .bind (.failIf _ _) fun _ => .bind (.failIf _ _) fun _ => .bind (.failIf _ _) fun _ =>
    .bind (.lift _) fun _ => .bind (.when <| .bind
      (h.areas (cancelCapped_areas _ _) rfl) fun _ => .fail _) fun _ => .pure _

/-- The payment of a one-off charge is made in the name of the debited record. -/
theorem settleOneOff {charged amount : Int}
    (h : ∀ prepaidBalance, PaymentEnds Q E id
      { sub with lifetimeCharged := charged, prepaidBalance }) (key : Option BytesN32) :
    (settleOneOff id sub charged amount key).Ends Q E :=
  .bind .ask fun _ => .bind (.lift _) fun _ => .bind (.gets _) fun _ => .bind (.gets _) fun _ =>
    .bind (.lift _) fun _ => (h _).pay <| .bind ((h 0).oneOffFee _ _ _) fun _ =>
    .bind (.lift _) fun _ => .bind ((h 0).areas (appendStatement_areas _ _ _ _ _ _ _) rfl) fun _ =>
    (h 0).areas (recordIdemKey_areas _ _ _) rfl

end PaymentEnds

namespace ReferredEnds

variable {Q : State → State → Prop} {E : Error → State → State → Prop} [EndRelation Q E]
  {id : Nat} {sub : Subscription}

theorem settleUsage (h : ReferredEnds Q E id sub) (usageAmount pendingLifetime newBalance : Int)
    (reference : Bytes) :
    (settleUsage id sub usageAmount pendingLifetime newBalance reference).Ends Q E :=
  .bind .ask fun _ => .bind (.gets _) fun _ => .bind (.gets _) fun _ => .bind (.lift _) fun _ =>
    h.pay <| .bind (h.fee _ _ _ _) fun _ => .bind (.lift _) fun _ =>
    .bind (h.areas (writeSubscription_areas _ _) rfl) fun _ =>
    .bind (h.refers _) fun _ => .bind (.require _) fun _ => .bind (.failIf _ _) fun _ => .bind (.okOr _ _) fun _ =>
    .bind (h.areas (writePeriodSnapshot_areas _) rfl) fun _ =>
    h.areas (appendStatement_areas _ _ _ _ _ _ _) rfl

theorem chargeUsageDue (h : ReferredEnds Q E id sub) (usageAmount : Int) (reference : Bytes) :
    (chargeUsageDue id sub usageAmount reference).Ends Q E := by
  refine .bind (.lift _) fun _ =>
    .ite (.bind (h.areas (cancelCapped_areas _ _) rfl) fun _ => .pure _) ?_
  split
  · exact .bind (h.settleUsage _ _ _ _) fun _ => .pure _
  · exact .bind (.lift _) fun _ => .bind (h.areas (writeSubscription_areas _ _) rfl) fun _ =>
      .pure _

end ReferredEnds

namespace UsageEnds

variable {Q : State → State → Prop} {E : Error → State → State → Prop} [EndRelation Q E]
  {id : Nat} {sub : Subscription}

theorem chargeUsageChecked (h : UsageEnds Q E id sub) (usageAmount : Int)
    (reference : Bytes) : (chargeUsageChecked id sub usageAmount reference).Ends Q E := by
  refine .bind .ask fun _ => .bind (.when <| .bind (.when
      (h.areas (cancelCapped_areas _ _) rfl)) fun _ => .fail _) fun _ =>
    .bind (.failIf _ _) fun _ => .bind (.failIf _ _) fun _ =>
    .bind (.lift _) fun _ => .bind (.failIf _ _) fun _ => .bind (.failIf _ _) fun _ =>
    .bind (.check Modifies.load) fun _ => .ite (.pure _) ?_
  refine .bind (.failIf _ _) fun _ => .bind (.check Modifies.load) fun _ => .ite (.pure _) ?_
  refine .bind (h.counts _) fun rejected => ?_
  cases rejected with
  | none => exact h.chargeUsageDue _ _
  | some result => exact .pure _

end UsageEnds

/-! ## Whole charges -/

section Charges

variable {Q : State → State → Prop} {E : Error → State → State → Prop} [EndRelation Q E]
  {α : Type} {env : Env} {s : State} {id : Nat}

/-- After a check that only reads, the rest of the code decides how the run ends. -/
theorem ends_of_check {β : Type} {x : Vault α} {f : α → Vault β} (hx : x.Keeps Eq)
    (hok : ∀ a, x.run env s = .ok a s → ((f a).run env s).Ends (Q s) (E · s)) :
    ((x >>= f).run env s).Ends (Q s) (E · s) :=
  Keeps.run_bind_cases (P := (·.Ends (Q s) (E · s))) hx trivial
    (fun e => EndRelation.failed (Q := Q) e (EndRelation.refl E s)) hok

/-- How a charge ends depends on how its payment is made. -/
theorem chargeOne_ends {key : Option BytesN32} {cfg : Option CachedAdminConfig}
    {cache : MerchantCache} (h : ∀ sub, s.effectiveSubscription id env.now = some sub →
      PaymentEnds Q E id sub) : ((chargeOne id key cfg cache).run env s).Ends (Q s) (E · s) := by
  refine ends_of_check Modifies.requireNotEmergencyStop fun _ _ => ?_
  refine ends_of_check (Modifies.getSubscription _) fun sub hget => ?_
  have hpay : PaymentEnds Q E id sub := h sub (run_getSubscription_ok.mp hget).1
  have hrest : (do
      checkMerchantStatus sub.merchant cache
      requireNotBlocklisted sub.subscriber
      requireNotBlocklisted sub.merchant
      checkSplitPayees id
      failIfExpired id sub
      chargeChecked id sub key cfg).Ends Q E :=
    .bind (.check (Modifies.checkMerchantStatus _ _)) fun _ =>
      .bind (.check (Modifies.requireNotBlocklisted _)) fun _ =>
      .bind (.check (Modifies.requireNotBlocklisted _)) fun _ =>
      .bind (.check (Modifies.checkSplitPayees _)) fun _ =>
      .bind (hpay.areas (failIfExpired_areas _ _) rfl) fun _ => hpay.chargeChecked _ _
  exact hrest env s

theorem chargeUsageOne_ends {usageAmount : Int} {reference : Bytes}
    (h : ∀ sub, s.effectiveSubscription id env.now = some sub → UsageEnds Q E id sub) :
    ((chargeUsageOne id usageAmount reference).run env s).Ends (Q s) (E · s) := by
  refine ends_of_check Modifies.requireNotEmergencyStop fun _ _ => ?_
  refine ends_of_check (Modifies.getSubscription _) fun sub hget => ?_
  have hpay : UsageEnds Q E id sub := h sub (run_getSubscription_ok.mp hget).1
  have hrest : (do
      checkMerchantStatus sub.merchant ∅
      requireNotBlocklisted sub.subscriber
      requireNotBlocklisted sub.merchant
      checkSplitPayees id
      failIfExpired id sub
      chargeUsageChecked id sub usageAmount reference).Ends Q E :=
    .bind (.check (Modifies.checkMerchantStatus _ _)) fun _ =>
      .bind (.check (Modifies.requireNotBlocklisted _)) fun _ =>
      .bind (.check (Modifies.requireNotBlocklisted _)) fun _ =>
      .bind (.check (Modifies.checkSplitPayees _)) fun _ =>
      .bind (hpay.areas (failIfExpired_areas _ _) rfl) fun _ => hpay.chargeUsageChecked _ _
  exact hrest env s

/-- The record a one-off charge is made for differs from the stored one in what was charged. -/
theorem doChargeOneOff_ends {merchant : Address} {amount : Int} {key : Option BytesN32}
    (h : ∀ sub charged prepaidBalance, s.effectiveSubscription id env.now = some sub →
      PaymentEnds Q E id { sub with lifetimeCharged := charged, prepaidBalance }) :
    ((doChargeOneOff id merchant amount key).run env s).Ends (Q s) (E · s) := by
  refine ends_of_check .ask fun _ _ => ?_
  refine ends_of_check (Modifies.requireAuth _) fun _ _ => ?_
  refine ends_of_check (Modifies.getSubscription _) fun sub hget => ?_
  have hpay (charged prepaidBalance : Int) : PaymentEnds Q E id
      { sub with lifetimeCharged := charged, prepaidBalance } :=
    h sub charged prepaidBalance (run_getSubscription_ok.mp hget).1
  have hsub : PaymentEnds Q E id sub := hpay sub.lifetimeCharged sub.prepaidBalance
  have hcharge : (do
      let charged ← checkOneOff id sub merchant amount
      settleOneOff id sub charged amount key).Ends Q E :=
    .bind (hsub.checkOneOff _ _) fun charged => PaymentEnds.settleOneOff (hpay charged) key
  refine ends_of_check (Modifies.requireNotBlocklisted _) fun _ _ => ?_
  refine ends_of_check (Modifies.requireNotBlocklisted _) fun _ _ => ?_
  refine ends_of_check (Modifies.checkSplitPayees _) fun _ _ => ?_
  have hrest (e : Env) : (do
      failIfExpired id sub
      let replayed ← gets (·.isReplayedKey e .chargeOneoff id key)
      when (replayed = false) do
        let charged ← checkOneOff id sub merchant amount
        settleOneOff id sub charged amount key : Vault Unit).Ends Q E :=
    .bind (hsub.areas (failIfExpired_areas _ _) rfl) fun _ => .bind (.gets _) fun _ =>
      .when hcharge
  exact hrest _ env s

end Charges

section Everywhere

variable {R : State → State → Prop} [Std.Refl R] [IsTrans State R] {id : Nat}
  (h : ∀ sub, PaymentKeeps R id sub)

include h

theorem chargeOne_keeps (key : Option BytesN32) (cfg : Option CachedAdminConfig)
    (cache : MerchantCache) : (chargeOne id key cfg cache).Keeps R :=
  Ends.keeps fun _ _ => chargeOne_ends fun sub _ => (h sub).ends

theorem doChargeOneOff_keeps (merchant : Address) (amount : Int) (key : Option BytesN32) :
    (doChargeOneOff id merchant amount key).Keeps R :=
  Ends.keeps fun _ _ => doChargeOneOff_ends fun _ _ _ _ => (h _).ends

omit h

theorem chargeUsageOne_keeps (h : ∀ sub, UsageEnds R (fun _ => R) id sub) (usageAmount : Int)
    (reference : Bytes) : (chargeUsageOne id usageAmount reference).Keeps R :=
  Ends.keeps fun _ _ => chargeUsageOne_ends fun sub _ => h sub

end Everywhere

end SubscriptionVault
