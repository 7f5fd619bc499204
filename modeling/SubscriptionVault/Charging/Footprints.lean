import SubscriptionVault.Contract.Funding

/-!
# What charges write

Charges write two kinds of slots: accounts, whose entries are amounts somebody owns, and
bookkeeping about the charge. Nothing that decides whether a merchant may charge is among
them, so what a batch has looked up about merchants stays right until its end.
-/

namespace SubscriptionVault

open Exec

/-- Slots holding an amount, or deciding whose amount it is. -/
def Slot.isAccount : Slot → Bool
  | .persistent (.sub _) | .persistent (.dispute _) | .persistent (.cancellationEscrow _)
  | .instanced (.merchantBalance _ _) | .instanced (.merchantSubAccount _ _)
  | .instanced (.disputeEscrow _) | .tokenBalance _ _ | .subAccountFunds _ _ _ => true
  | _ => false

/-- Slots in which charges record what they did. -/
def Slot.isBookkeeping : Slot → Bool
  | .persistent (.billingStatementSequence _) | .persistent (.billingStatement _ _)
  | .persistent (.billingStatementsBySubscription _)
  | .persistent (.billingPeriodSnapshot _ _) | .persistent (.billingPeriodSnapshotIndex _)
  | .persistent (.usageState _) | .instanced (.usageState _)
  | .instanced (.chargedPeriod _) | .instanced (.chargeSalt _) | .instanced (.idemKey _)
  | .instanced (.chargeFailureCounter _) | .instanced (.merchantEarnings _ _)
  | .instanced (.merchantTokens _) | .symbol (.usageRef _ _) => true
  | _ => false

def chargeSlots : Set Slot := {k | (k.isBookkeeping || k.isAccount) = true}

/-- Statements and snapshots. -/
def Slot.isStatement : Slot → Bool
  | .persistent (.billingStatementSequence _) | .persistent (.billingStatement _ _)
  | .persistent (.billingStatementsBySubscription _)
  | .persistent (.billingPeriodSnapshot _ _) | .persistent (.billingPeriodSnapshotIndex _) => true
  | _ => false

/-- What is logged about charges. -/
def Slot.isLog : Slot → Bool
  | .persistent (.billingStatementSequence _) | .persistent (.billingStatement _ _)
  | .persistent (.billingStatementsBySubscription _)
  | .persistent (.billingPeriodSnapshot _ _) | .persistent (.billingPeriodSnapshotIndex _)
  | .instanced (.usageState _) | .instanced (.idemKey _) | .symbol (.usageRef _ _) => true
  | _ => false

/-- What merchants have been credited with. -/
def Slot.isCredit : Slot → Bool
  | .instanced (.merchantBalance _ _) | .instanced (.merchantSubAccount _ _)
  | .instanced (.merchantEarnings _ _) | .instanced (.merchantTokens _)
  | .subAccountFunds _ _ _ => true
  | _ => false

def statementSlots : Set Slot := {k | k.isStatement = true}

def logSlots : Set Slot := {k | k.isLog = true}

def creditSlots : Set Slot := {k | k.isCredit = true}

theorem statementSlots_subset_logSlots : statementSlots ⊆ logSlots := by
  intro k hk
  have hk : k.isStatement = true := hk
  cases k with
  | persistent key => cases key <;> first | rfl | cases hk
  | _ => cases hk

theorem logSlots_subset_chargeSlots : logSlots ⊆ chargeSlots := by
  intro k hk
  have hk : k.isLog = true := hk
  show (k.isBookkeeping || k.isAccount) = true
  cases k with
  | persistent key => cases key <;> first | rfl | cases hk
  | instanced key => cases key <;> first | rfl | cases hk
  | symbol key => cases key <;> first | rfl | cases hk
  | lock name => cases hk
  | tokenBalance token holder => cases hk
  | subAccountFunds merchant label token => cases hk

theorem creditSlots_subset_chargeSlots : creditSlots ⊆ chargeSlots := by
  intro k hk
  have hk : k.isCredit = true := hk
  show (k.isBookkeeping || k.isAccount) = true
  cases k with
  | persistent key => cases key <;> cases hk
  | instanced key => cases key <;> first | rfl | cases hk
  | symbol key => cases hk
  | lock name => cases hk
  | tokenBalance token holder => cases hk
  | subAccountFunds merchant label token => rfl

namespace Modifies

/-! ## Logs -/

theorem statement_appended (id : Nat) (amount : Int) (merchant token : Address)
    (kind : BillingChargeKind) (periodStart timestamp : Nat) : Modifies statementSlots
      (SubscriptionVault.appendStatement id amount merchant token kind periodStart timestamp) :=
  .bind (.gets _) fun _ => .bind (.okOr _ _) fun _ => .bind (store rfl) fun _ =>
    .bind (store rfl) fun _ => .bind load fun _ => store rfl

theorem snapshot_written (snapshot : BillingPeriodSnapshot) :
    Modifies statementSlots (SubscriptionVault.writePeriodSnapshot snapshot) := by
  have hindex (id period : Nat) : Modifies statementSlots (indexPeriodSnapshot id period) :=
    .bind load fun _ => .bind (.forEach (fun _ => delete (S := statementSlots) rfl) _)
      fun _ => store rfl
  exact .bind (.failIf _ _) fun _ => .bind (.failIf _ _) fun _ => .bind load fun _ =>
    .bind (.lift _) fun _ => .bind (.failIf _ _) fun _ =>
    .bind (store (S := statementSlots) rfl) fun _ => .when (hindex _ _)

theorem appendStatement (id : Nat) (amount : Int) (merchant token : Address)
    (kind : BillingChargeKind) (periodStart timestamp : Nat) :
    Modifies logSlots (appendStatement id amount merchant token kind periodStart timestamp) :=
  (statement_appended _ _ _ _ _ _ _).weaken statementSlots_subset_logSlots

theorem writePeriodSnapshot (snapshot : BillingPeriodSnapshot) :
    Modifies logSlots (writePeriodSnapshot snapshot) :=
  (snapshot_written _).weaken statementSlots_subset_logSlots

theorem recordIdemKey (domain : NonceDomain) (id : Nat) (key : Option BytesN32) :
    Modifies logSlots (recordIdemKey domain id key) :=
  .bind .ask fun _ => .whenSome fun _ => .bind (.gets _) fun _ => .bind (.gets _) fun _ =>
    .bind (.failIf _ _) fun _ => store rfl

theorem applyUsageLimits (id : Nat) (sub : Subscription) (units : Int) :
    Modifies logSlots (applyUsageLimits id sub units) := by
  refine .bind .ask fun env => .bind load fun configured => ?_
  cases configured with
  | none => exact .pure _
  | some limits =>
    refine .bind (.require _) fun _ => .bind load fun _ => .ite (.pure _) (.ite (.pure _) ?_)
    exact .bind .ask fun _ => .bind (.when (store rfl)) fun _ =>
      .ite (.pure _) (.bind (store rfl) fun _ => .pure _)

/-! ## Checks -/

section Checks

variable {R : State → State → Prop} [Std.Refl R] [IsTrans State R]

theorem getSubscription (id : Nat) : (getSubscription id).Keeps R :=
  .bind .ask fun _ => .bind (.gets _) fun _ => .okOr _ _

theorem checkMerchantStatus (merchant : Address) (cache : MerchantCache) :
    (checkMerchantStatus merchant cache).Keeps R :=
  .bind .ask fun _ => .bind (.gets _) fun _ => .bind (.failIf _ _) fun _ => .failIf _ _

theorem checkPayee (payee : Address) : (checkPayee payee).Keeps R :=
  .bind (requireNotBlocklisted _) fun _ => checkMerchantStatus _ _

theorem checkSplitPayees (id : Nat) : (checkSplitPayees id).Keeps R :=
  .bind (.gets _) fun _ => .whenSome fun _ => .forEach (fun _ => checkPayee _) _

theorem requireChargeable (sub : Subscription) : (requireChargeable sub).Keeps R :=
  .bind .ask fun _ => .ite (.pure _)
    (.ite (.bind (.lift _) fun _ => .failIf _ _) (.fail _))

end Checks

/-! ## Credits -/

theorem creditMerchantBalanceForToken (merchant token : Address) (amount : Int)
    (kind : BillingChargeKind) :
    Modifies creditSlots (creditMerchantBalanceForToken merchant token amount kind) :=
  .bind (.failIf _ _) fun _ => .bind (.gets _) fun _ => .bind (.lift _) fun _ =>
    .bind (store rfl) fun _ => .bind (.gets _) fun _ => .bind (.lift _) fun _ =>
    .bind (store rfl) fun _ =>
    .bind (.bind (.gets _) fun _ => .when (store rfl)) fun _ => .pure _

theorem creditShares (token : Address) (net : Int) (kind : BillingChargeKind)
    (payees : List (Address × Nat)) (total : Int) :
    Modifies creditSlots (creditShares token net kind payees total) := by
  induction payees generalizing total with
  | nil => exact .pure _
  | cons payee payees ih =>
    exact .bind (.lift _) fun _ =>
      .bind (creditMerchantBalanceForToken _ _ _ _) fun _ => ih _

theorem creditChargePayees (id : Nat) (sub : Subscription) (net : Int)
    (kind : BillingChargeKind) : Modifies creditSlots (creditChargePayees id sub net kind) := by
  refine .bind (.gets _) fun split => ?_
  split
  · exact creditMerchantBalanceForToken _ _ _ _
  · exact .pure _
  · exact .bind (creditShares _ _ _ _ _) fun _ => creditMerchantBalanceForToken _ _ _ _

theorem creditSubAccount (merchant : Address) (label : Symbol) (token : Address)
    (amount : Int) : Modifies creditSlots (creditSubAccount merchant label token amount) :=
  .bind (.failIf _ _) fun _ => .bind (.bind load fun _ => .failIf _ _) fun _ =>
    .bind (.gets _) fun _ => .bind (.lift _) fun _ => .bind (store rfl) fun _ =>
    .bind (.gets _) fun _ => store rfl

theorem routeToSubAccount (sub : Subscription) (net : Int) :
    Modifies creditSlots (routeToSubAccount sub net) :=
  .whenSome fun _ => .bind (creditSubAccount _ _ _ _) fun _ => .bind (.gets _) fun _ =>
    .bind (.lift _) fun _ => store rfl

theorem creditProtocolFee (token : Address) (fee : Int) (treasury : Option Address)
    (kind : BillingChargeKind) :
    Modifies creditSlots (creditProtocolFee token fee treasury kind) :=
  .when <| .bind .ask fun _ => .bind (.gets _) fun _ => .bind (.unwrap _) fun _ =>
    .whenSome fun _ => creditMerchantBalanceForToken _ _ _ _

theorem creditOneOffFee (token : Address) (fee : Int) (treasury : Option Address) :
    Modifies creditSlots (creditOneOffFee token fee treasury) :=
  .when <| .whenSome fun _ => creditMerchantBalanceForToken _ _ _ _

/-! ## Subscriptions -/

theorem writeSubscription (id : Nat) (sub : Subscription) :
    Modifies chargeSlots (writeSubscription id sub) := store rfl

theorem failIfExpired (id : Nat) (sub : Subscription) :
    Modifies chargeSlots (failIfExpired id sub) :=
  .bind .ask fun _ => .when <| .bind
    (.when (.bind (.lift _) fun _ => writeSubscription _ _)) fun _ => .fail _

theorem cancelCapped (id : Nat) (sub : Subscription) :
    Modifies chargeSlots (cancelCapped id sub) :=
  .bind (.lift _) fun _ => writeSubscription _ _

/-! ## Charges -/

theorem settleInterval (id : Nat) (sub : Subscription) (charge : IntervalCharge)
    (key : Option BytesN32) (cfg : Option CachedAdminConfig) :
    Modifies chargeSlots (settleInterval id sub charge key cfg) :=
  .bind .ask fun _ => .bind (.gets _) fun _ => .bind (.lift _) fun _ =>
    .bind ((creditChargePayees _ _ _ _).weaken creditSlots_subset_chargeSlots) fun _ =>
    .bind ((routeToSubAccount _ _).weaken creditSlots_subset_chargeSlots) fun _ =>
    .bind ((creditProtocolFee _ _ _ _).weaken creditSlots_subset_chargeSlots) fun _ =>
    .bind (.lift _) fun _ =>
    .bind (delete rfl) fun _ => .bind (.lift _) fun _ => .bind (writeSubscription _ _) fun _ =>
    .bind ((appendStatement _ _ _ _ _ _ _).weaken logSlots_subset_chargeSlots) fun _ =>
    .bind ((writePeriodSnapshot _).weaken logSlots_subset_chargeSlots) fun _ =>
    .bind (store rfl) fun _ => .bind (store rfl) fun _ =>
    (recordIdemKey _ _ _).weaken logSlots_subset_chargeSlots

theorem recordShortfall (id : Nat) (sub : Subscription) (cfg : Option CachedAdminConfig) :
    Modifies chargeSlots (recordShortfall id sub cfg) :=
  .bind .ask fun _ => .bind (.gets _) fun _ => .bind (.lift _) fun _ => .bind (.lift _) fun _ =>
    .bind (writeSubscription _ _) fun _ => .bind (.gets _) fun _ => .when <|
      .bind load fun _ => .bind (store rfl) fun _ => .when <|
        .bind (writeSubscription _ _) fun _ => delete rfl

theorem chargeInterval (id : Nat) (sub : Subscription) (amount : Int) (key : Option BytesN32)
    (cfg : Option CachedAdminConfig) :
    Modifies chargeSlots (chargeInterval id sub amount key cfg) := by
  refine .bind .ask fun env => .bind (.require _) fun _ => .bind load fun _ =>
    .bind (.failIf _ _) fun _ => .bind (.gets _) fun _ => .ite (.pure _) ?_
  refine .bind load fun _ => .bind (.failIf _ _) fun _ => .bind (.lift _) fun _ =>
    .bind (.failIf _ _) fun _ => .bind (.lift _) fun _ =>
    .ite (.bind (cancelCapped _ _) fun _ => .pure _) ?_
  split
  · exact .bind (settleInterval _ _ _ _ _) fun _ => .pure _
  · exact .bind (recordShortfall _ _ _) fun _ => .pure _

theorem fireScheduledCancellation (id : Nat) (sub : Subscription) :
    Modifies chargeSlots (fireScheduledCancellation id sub) :=
  .when <| .bind (.lift _) fun _ => .bind (writeSubscription _ _) fun _ => .when <|
    .bind .ask fun _ => .bind (transfer rfl rfl) fun _ => .pure _

theorem chargeChecked (id : Nat) (sub : Subscription) (key : Option BytesN32)
    (cfg : Option CachedAdminConfig) : Modifies chargeSlots (chargeChecked id sub key cfg) :=
  .bind .ask fun _ => .bind (.gets _) fun _ => .bind (.lift _) fun _ =>
    .ite (.bind (.when (cancelCapped _ _)) fun _ => .pure _) <|
    .ite (.bind (fireScheduledCancellation _ _) fun _ => .pure _) <|
    .bind (requireChargeable _) fun _ => .bind (.lift _) fun _ =>
    .ite (.pure _) (chargeInterval _ _ _ _ _)

theorem chargeOne (id : Nat) (key : Option BytesN32) (cfg : Option CachedAdminConfig)
    (cache : MerchantCache) : Modifies chargeSlots (chargeOne id key cfg cache) :=
  .bind requireNotEmergencyStop fun _ => .bind (getSubscription _) fun _ =>
    .bind (checkMerchantStatus _ _) fun _ => .bind (requireNotBlocklisted _) fun _ =>
    .bind (requireNotBlocklisted _) fun _ => .bind (checkSplitPayees _) fun _ =>
    .bind (failIfExpired _ _) fun _ => chargeChecked _ _ _ _

theorem settleUsage (id : Nat) (sub : Subscription)
    (usageAmount pendingLifetime newBalance : Int) (reference : Bytes) :
    Modifies chargeSlots (settleUsage id sub usageAmount pendingLifetime newBalance reference) :=
  .bind .ask fun _ => .bind (.gets _) fun _ => .bind (.gets _) fun _ => .bind (.lift _) fun _ =>
    .bind ((creditChargePayees _ _ _ _).weaken creditSlots_subset_chargeSlots) fun _ =>
    .bind ((routeToSubAccount _ _).weaken creditSlots_subset_chargeSlots) fun _ =>
    .bind ((creditProtocolFee _ _ _ _).weaken creditSlots_subset_chargeSlots) fun _ =>
    .bind (.lift _) fun _ =>
    .bind (writeSubscription _ _) fun _ => .bind (store rfl) fun _ =>
    .bind (.require _) fun _ => .bind (.failIf _ _) fun _ => .bind (.okOr _ _) fun _ =>
    .bind ((writePeriodSnapshot _).weaken logSlots_subset_chargeSlots) fun _ =>
    (appendStatement _ _ _ _ _ _ _).weaken logSlots_subset_chargeSlots

end Modifies

/-! ## What charges leave alone -/

section Frame

variable {s t : State}

theorem State.config_of_chargeSlots {α : Type} (key : DataKey) [Holds DataKey.Val key α]
    (h : FiniteStore.AgreeOff chargeSlots s t) (hp : .persistent key ∉ chargeSlots)
    (hi : .instanced key ∉ chargeSlots) : t.config key = s.config key := by
  refine State.config_of_agreeOff h ?_
  rintro k (rfl | rfl | rfl | rfl)
  · exact hp
  · exact hi
  · exact Bool.false_ne_true
  · exact Bool.false_ne_true

theorem State.treasury_of_chargeSlots (h : FiniteStore.AgreeOff chargeSlots s t) :
    t.treasury = s.treasury :=
  State.config_of_chargeSlots .treasury h Bool.false_ne_true Bool.false_ne_true

theorem State.protocolFeeBps_of_chargeSlots (h : FiniteStore.AgreeOff chargeSlots s t) :
    t.protocolFeeBps = s.protocolFeeBps := by
  unfold State.protocolFeeBps
  rw [State.config_of_chargeSlots .feeBps h Bool.false_ne_true Bool.false_ne_true]

theorem State.convertFee_of_chargeSlots (h : FiniteStore.AgreeOff chargeSlots s t) (env : Env)
    (token : Address) (fee : Int) : t.convertFee env token fee = s.convertFee env token fee := by
  unfold State.convertFee State.feeToken State.oracleConfig
  rw [State.config_of_chargeSlots .feeToken h Bool.false_ne_true Bool.false_ne_true,
    State.config_of_chargeSlots .oracle h Bool.false_ne_true Bool.false_ne_true]

end Frame

end SubscriptionVault
