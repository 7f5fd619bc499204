import SubscriptionVault.Framework.Aborts
import SubscriptionVault.Lifecycle.Exit

/-!
# Charges that abort

The salt of a charge is the hash of a buffer of twenty bytes, whose last eight are meant for the
ledger sequence. The sequence is a `u32`, so four bytes are copied into eight, and the copy
aborts. Elsewhere the salt stands for the hash of what should be in the buffer; here the buffer
is filled as it is in the source, and every place where a charge can abort is found.
-/

namespace SubscriptionVault

open Exec

/-! ## The buffer of the salt -/

/-- `to_be_bytes` of a number of `width` bytes. -/
def toBeBytes (width n : Nat) : Bytes :=
  (List.range width).map fun i => UInt8.ofNat (n / 256 ^ (width - 1 - i))

/-- `buffer[start..stop].copy_from_slice(source)`, which aborts unless the lengths agree. -/
def copyFromSlice (buffer : Bytes) (start stop : Nat) (source : Bytes) : Option Bytes :=
  if source.length = stop - start then some (buffer.take start ++ source ++ buffer.drop stop)
  else none

def saltBuffer (id lastPayment sequence : Nat) : Option Bytes := do
  let first ← copyFromSlice (List.replicate 20 0) 0 4 (toBeBytes 4 id)
  let second ← copyFromSlice first 4 12 (toBeBytes 8 lastPayment)
  copyFromSlice second 12 20 (toBeBytes 4 sequence)

theorem saltBuffer_eq_none (id lastPayment sequence : Nat) :
    saltBuffer id lastPayment sequence = none := by
  have hlast (buffer : Bytes) : copyFromSlice buffer 12 20 (toBeBytes 4 sequence) = none := by
    simp [copyFromSlice, toBeBytes]
  simp [saltBuffer, hlast]

/-! ## The charges that fill it -/

/-- `charge_one` from the period computation on, with the buffer. -/
def chargeIntervalSalted (id : Nat) (sub : Subscription) (amount : Int) (key : Option BytesN32)
    (cfg : Option CachedAdminConfig) : Vault ChargeExecutionResult := do
  let env ← ask
  require (sub.intervalSeconds ≠ 0)
  let _ ← unwrap (saltBuffer id sub.lastPaymentTimestamp env.sequence)
  chargeInterval id sub amount key cfg

def chargeCheckedSalted (id : Nat) (sub : Subscription) (key : Option BytesN32)
    (cfg : Option CachedAdminConfig) : Vault ChargeExecutionResult := do
  let env ← ask
  let priced ← gets (·.intervalAmount id env.now sub)
  let amount ← lift priced
  if sub.capReached then do
    when (sub.status ≠ .cancelled) (cancelCapped id sub)
    pure .lifetimeCapReached
  else if sub.cancelAt.any (· ≤ env.now) then do
    fireScheduledCancellation id sub
    pure .scheduledCancellation
  else do
    requireChargeable sub
    let closed ← lift (sub.renewalClosed env.now)
    if closed then pure .skipped
    else chargeIntervalSalted id sub amount key cfg

/-- `charge_one`, with the buffer. -/
def chargeOneSalted (id : Nat) (key : Option BytesN32) (cfg : Option CachedAdminConfig)
    (cache : MerchantCache) : Vault ChargeExecutionResult := do
  requireNotEmergencyStop
  let sub ← getSubscription id
  checkMerchantStatus sub.merchant cache
  requireNotBlocklisted sub.subscriber
  requireNotBlocklisted sub.merchant
  checkSplitPayees id
  failIfExpired id sub
  chargeCheckedSalted id sub key cfg

/-- The loop of a batch over `charge_one`, with the buffer. -/
def chargeItemsSalted (cfg : Option CachedAdminConfig) :
    List BatchItem → MerchantCache → Vault (List BatchChargeResult)
  | [], _ => pure []
  | (id, key) :: rest, cache => do
    let env ← ask
    let nextCache ← gets (·.rememberMerchant cache id env.now)
    let result ← attempt (chargeOneSalted id key cfg cache)
    let results ← chargeItemsSalted cfg rest nextCache
    pure (batchResult id result :: results)

/-- A batch, with the buffer in each of its charges. -/
def executeBatchChargeSalted (items : List BatchItem) : Vault (List BatchChargeResult) := do
  let cfg ← gets (·.cachedAdminConfig.toOption)
  chargeItemsSalted cfg items ∅

/-- `do_grace_buyout`, with the buffer of the salt in its event. -/
def doGraceBuyoutSalted (id : Nat) (subscriber : Address) (amount : Int)
    (key : Option BytesN32) : Vault (Int × Int) := do
  let env ← ask
  requireAuth subscriber
  let sub ← getSubscription id
  failIf (sub.status ≠ .gracePeriod) .notInGracePeriod
  let charge := sub.amount
  let premiumBps ← gets (·.buyoutPremiumBps)
  let premium ← lift (buyoutPremium charge premiumBps)
  let required ← lift (safeAdd charge premium)
  failIf (amount < required) .insufficientBalance
  let funded ← lift (safeAdd sub.prepaidBalance amount)
  let prepaidBalance ← lift (safeSubBalance funded charge)
  let lifetimeCharged ← lift (safeAdd sub.lifetimeCharged charge)
  let lastPaymentTimestamp := max env.now sub.lastPaymentTimestamp
  writeSubscription id
    { sub with
      prepaidBalance
      lastPaymentTimestamp
      lifetimeCharged
      status := .active
      graceStartTimestamp := none }
  let credit ← lift (safeAdd charge premium)
  creditMerchantBalanceForToken sub.merchant sub.token credit .interval
  require (sub.intervalSeconds ≠ 0)
  store (.instanced (.chargedPeriod id)) ((env.now - sub.startTime) / sub.intervalSeconds)
  appendStatement id charge sub.merchant sub.token .interval (env.now - sub.intervalSeconds)
    env.now
  let _ ← unwrap (saltBuffer id lastPaymentTimestamp env.sequence)
  recordIdemKey .chargeInterval id key
  pure (charge, premium)

/-! ## Code without aborts -/

section Returns

theorem returns_load {α : Type} (k : Slot) [Holds Slot.Val k α] : (load k).Returns := .gets _

theorem returns_store {α : Type} (k : Slot) [Holds Slot.Val k α] (v : α) :
    (store k v).Returns := .update _

theorem returns_delete (k : Slot) : (delete k).Returns := .update _

theorem returns_getSubscription (id : Nat) : (getSubscription id).Returns :=
  .bind .ask fun _ => .bind (.gets _) fun _ => .okOr _ _

theorem returns_requireNotEmergencyStop : requireNotEmergencyStop.Returns :=
  .bind (.gets _) fun _ => .failIf _ _

theorem returns_requireNotBlocklisted (a : Address) : (requireNotBlocklisted a).Returns :=
  .bind (.gets _) fun _ => .failIf _ _

theorem returns_checkMerchantStatus (merchant : Address) (cache : MerchantCache) :
    (checkMerchantStatus merchant cache).Returns :=
  .bind .ask fun _ => .bind (.gets _) fun _ => .bind (.failIf _ _) fun _ => .failIf _ _

theorem returns_checkSplitPayees (id : Nat) : (checkSplitPayees id).Returns :=
  .bind (.gets _) fun _ => .whenSome fun _ => .forEach (fun _ =>
    .bind (returns_requireNotBlocklisted _) fun _ => returns_checkMerchantStatus _ _) _

theorem returns_cancelCapped (id : Nat) (sub : Subscription) : (cancelCapped id sub).Returns :=
  .bind (.lift _) fun _ => returns_store _ _

theorem returns_failIfExpired (id : Nat) (sub : Subscription) : (failIfExpired id sub).Returns :=
  .bind .ask fun _ => .when <| .bind
    (.when (.bind (.lift _) fun _ => returns_store _ _)) fun _ => .fail _

theorem returns_requireChargeable (sub : Subscription) : (requireChargeable sub).Returns :=
  .bind .ask fun _ => .ite (.pure ()) <|
    .ite (.bind (.lift _) fun _ => .failIf _ _) (.fail _)

theorem returns_creditMerchantBalanceForToken (merchant token : Address) (amount : Int)
    (kind : BillingChargeKind) :
    (creditMerchantBalanceForToken merchant token amount kind).Returns :=
  .bind (.failIf _ _) fun _ => .bind (.gets _) fun _ => .bind (.lift _) fun _ =>
    .bind (returns_store _ _) fun _ => .bind (.gets _) fun _ => .bind (.lift _) fun _ =>
    .bind (returns_store _ _) fun _ =>
    .bind (.bind (.gets _) fun _ => .when (returns_store _ _)) fun _ => .pure ()

theorem returns_creditShares (token : Address) (net : Int) (kind : BillingChargeKind)
    (entries : List (Address × Nat)) (total : Int) :
    (creditShares token net kind entries total).Returns := by
  induction entries generalizing total with
  | nil => exact .pure _
  | cons entry rest ih =>
    exact .bind (.lift _) fun _ =>
      .bind (returns_creditMerchantBalanceForToken _ _ _ _) fun _ => ih _

theorem returns_creditChargePayees (id : Nat) (sub : Subscription) (net : Int)
    (kind : BillingChargeKind) : (creditChargePayees id sub net kind).Returns := by
  refine .bind (.gets _) fun split => ?_
  split
  · exact returns_creditMerchantBalanceForToken _ _ _ _
  · exact .pure ()
  · exact .bind (returns_creditShares _ _ _ _ _) fun _ =>
      returns_creditMerchantBalanceForToken _ _ _ _

theorem returns_routeToSubAccount (sub : Subscription) (net : Int) :
    (routeToSubAccount sub net).Returns :=
  .whenSome fun _ => .bind
    (.bind (.failIf _ _) fun _ => .bind (.bind (returns_load _) fun _ => .failIf _ _) fun _ =>
      .bind (.gets _) fun _ => .bind (.lift _) fun _ => .bind (returns_store _ _) fun _ =>
      .bind (.gets _) fun _ => returns_store _ _) fun _ =>
    .bind (.gets _) fun _ => .bind (.lift _) fun _ => returns_store _ _

theorem returns_appendStatement (id : Nat) (amount : Int) (merchant token : Address)
    (kind : BillingChargeKind) (periodStart timestamp : Nat) :
    (appendStatement id amount merchant token kind periodStart timestamp).Returns :=
  .bind (.gets _) fun _ => .bind (.okOr _ _) fun _ => .bind (returns_store _ _) fun _ =>
    .bind (returns_store _ _) fun _ => .bind (returns_load _) fun _ => returns_store _ _

theorem returns_writePeriodSnapshot (snapshot : BillingPeriodSnapshot) :
    (writePeriodSnapshot snapshot).Returns :=
  .bind (.failIf _ _) fun _ => .bind (.failIf _ _) fun _ => .bind (returns_load _) fun _ =>
    .bind (.lift _) fun _ => .bind (.failIf _ _) fun _ => .bind (returns_store _ _) fun _ =>
    .when <| .bind (returns_load _) fun _ =>
      .bind (.forEach (fun _ => returns_delete _) _) fun _ => returns_store _ _

theorem returns_recordIdemKey (domain : NonceDomain) (id : Nat) (key : Option BytesN32) :
    (recordIdemKey domain id key).Returns :=
  .bind .ask fun _ => .whenSome fun _ => .bind (.gets _) fun _ => .bind (.gets _) fun _ =>
    .bind (.failIf _ _) fun _ => returns_store _ _

end Returns

/-! ## Where an interval charge aborts -/

/-- The status lets an interval be charged now. -/
def Subscription.chargeableAt (sub : Subscription) (now : Nat) : Prop :=
  sub.status = .active ∨ sub.status = .gracePeriod ∨ sub.status = .insufficientBalance ∧
    ∃ next, nextChargeTime sub.lastPaymentTimestamp sub.intervalSeconds = .ok next ∧ next ≤ now

/-- The parties may take part in a charge, by what the batch has looked up of the merchant. -/
structure ClearedBy (env : Env) (s : State) (id : Nat) (cache : MerchantCache)
    (sub : Subscription) : Prop where
  running : s.emergencyStop = false
  found : s.effectiveSubscription id env.now = some sub
  merchantOpen : s.cachedMerchantStatus cache sub.merchant env.now = (false, false)
  subscriberUnlisted : s.isBlocklisted sub.subscriber = false
  merchantUnlisted : s.isBlocklisted sub.merchant = false
  payeesOpen : ∀ split, s.splitPayees id = some split → ∀ entry ∈ split.entries,
    s.payeeOpen entry.1 env.now
  unexpired : sub.isExpired env.now env.sequence = false

/-- The charge gets as far as the salt. -/
def ReachesSalt (env : Env) (s : State) (id : Nat) (cache : MerchantCache) : Prop :=
  ∃ sub amount, ClearedBy env s id cache sub ∧ s.intervalAmount id env.now sub = .ok amount ∧
    sub.capReached = false ∧ sub.cancelAt.any (· ≤ env.now) = false ∧
    sub.chargeableAt env.now ∧ sub.renewalClosed env.now = .ok false

/-- A scheduled cancellation is due, and the refund cannot be transferred. -/
def RefundFails (env : Env) (s : State) (id : Nat) (cache : MerchantCache) : Prop :=
  ∃ sub amount, ClearedBy env s id cache sub ∧ s.intervalAmount id env.now sub = .ok amount ∧
    sub.capReached = false ∧ sub.cancelAt.any (· ≤ env.now) = true ∧
    sub.status ≠ .cancelled ∧ canTransition sub.status .cancelled ∧ 0 < sub.prepaidBalance ∧
    ¬Payable env s sub

section Interval

variable {env : Env} {s t : State} {u : Unit} {id : Nat} {sub : Subscription}
  {key : Option BytesN32} {cfg : Option CachedAdminConfig} {cache : MerchantCache}

theorem run_requireChargeable_ok : (requireChargeable sub).run env s = .ok u t ↔
    sub.chargeableAt env.now ∧ s = t := by
  unfold requireChargeable Subscription.chargeableAt
  by_cases hactive : sub.status = .active
  · simp [hactive]
  by_cases hgrace : sub.status = .gracePeriod
  · simp [hgrace]
  by_cases hshort : sub.status = .insufficientBalance
  · simp only [hshort, reduceCtorEq, false_or, true_and, run_bind_ok, run_ask_ok,
      if_false, if_true, run_lift_ok, run_failIf_ok, or_self]
    constructor
    · rintro ⟨_, _, ⟨rfl, rfl⟩, next, _, ⟨hnext, rfl⟩, hlate, rfl⟩
      exact ⟨⟨next, hnext, Nat.not_lt.mp hlate⟩, rfl⟩
    · rintro ⟨⟨next, hnext, hle⟩, rfl⟩
      exact ⟨_, _, ⟨rfl, rfl⟩, next, _, ⟨hnext, rfl⟩, Nat.not_lt.mpr hle, rfl⟩
  · simp [hactive, hgrace, hshort]

theorem run_transfer_trap {token sender receiver : Address} {amount : Int} :
    (transfer token sender receiver amount).run env s = .trap ↔
      ¬((sender = env.host.contract ∨ env.authorized sender) ∧ 0 ≤ amount ∧
        env.transferRefused token sender receiver amount = false ∧
        amount ≤ s.balanceOf token sender) := by
  have hok (t : State) : (transfer token sender receiver amount).run env s = .ok () t ↔ _ :=
    run_transfer_ok
  cases hrun : (transfer token sender receiver amount).run env s with
  | ok v t =>
    obtain ⟨hauth, hsign, haccepted, hcovered, -⟩ := (hok t).mp hrun
    simp [hauth, hsign, haccepted, hcovered]
  | err e t => exact (run_transfer_err.mp hrun).elim
  | trap =>
    refine ⟨fun _ hpays => ?_, fun _ => rfl⟩
    obtain ⟨hauth, hsign, haccepted, hcovered⟩ := hpays
    have hdone := (hok _).mpr ⟨hauth, hsign, haccepted, hcovered, rfl⟩
    rw [hrun] at hdone
    cases hdone

theorem run_fireScheduledCancellation_trap :
    (fireScheduledCancellation id sub).run env s = .trap ↔
      sub.status ≠ .cancelled ∧ canTransition sub.status .cancelled ∧ 0 < sub.prepaidBalance ∧
        ¬Payable env s sub := by
  unfold fireScheduledCancellation Exec.when
  by_cases hstatus : sub.status = .cancelled
  · rw [if_neg (not_not.mpr hstatus)]
    exact ⟨fun htrap => (Returns.pure () env s htrap).elim, fun h => absurd hstatus h.1⟩
  rw [if_pos hstatus, (Returns.lift _).run_bind_trap]
  have htransfer {status : SubscriptionStatus} :
      (transfer sub.token env.host.contract sub.subscriber sub.prepaidBalance).run env
        (s.write (.persistent (.sub id))
          { sub with status, prepaidBalance := 0, cancelAt := none }) = .trap ↔
        ¬(0 ≤ sub.prepaidBalance ∧ Payable env s sub) := by
    have hwrite : FiniteStore.AgreeOff (areas [.records]) s (s.write (.persistent (.sub id))
        { sub with status, prepaidBalance := 0, cancelAt := none }) := s.agreeOff_write _ rfl
    rw [run_transfer_trap, State.balanceOf_of_areas hwrite rfl]
    refine not_congr ⟨?_, ?_⟩
    · rintro ⟨-, hsign, haccepted, hcovered⟩
      exact ⟨hsign, hcovered, haccepted⟩
    · rintro ⟨hsign, hpayable⟩
      exact ⟨.inl rfl, hsign, hpayable.accepted, hpayable.solvent⟩
  constructor
  · rintro ⟨status, _, hlift, htrap⟩
    obtain ⟨hmove, rfl⟩ := run_lift_ok.mp hlift
    obtain ⟨_, _, hwritten, htrap⟩ := (returns_store _ _).run_bind_trap.mp htrap
    obtain rfl := run_store_ok.mp hwritten
    by_cases hfunds : 0 < sub.prepaidBalance
    · rw [if_pos hfunds] at htrap
      obtain ⟨_, _, henv, htrap⟩ := Returns.ask.run_bind_trap.mp htrap
      obtain ⟨rfl, rfl⟩ := run_ask_ok.mp henv
      rcases run_bind_trap.mp htrap with hrefused | ⟨_, _, -, hlast⟩
      · refine ⟨hstatus, (transitionTo_ok.mp hmove).1, hfunds, fun hpayable => ?_⟩
        exact htransfer.mp hrefused ⟨hfunds.le, hpayable⟩
      · exact (Returns.pure () _ _ hlast).elim
    · rw [if_neg hfunds] at htrap
      exact (Returns.pure () _ _ htrap).elim
  · rintro ⟨-, hmay, hfunds, hunpayable⟩
    refine ⟨.cancelled, s, run_lift_ok.mpr ⟨transitionTo_ok.mpr ⟨hmay, rfl⟩, rfl⟩, ?_⟩
    refine (run_seq_of_ok (run_store_ok.mpr rfl)).trans ?_
    rw [if_pos hfunds]
    refine (run_bind_of_ok (run_ask_ok.mpr ⟨rfl, rfl⟩)).trans (run_bind_of_trap ?_)
    exact htransfer.mpr fun h => hunpayable h.2

/-- Without the buffer the charge of an interval never goes on. -/
theorem run_chargeIntervalSalted (amount : Int) :
    (chargeIntervalSalted id sub amount key cfg).run env s = .trap := by
  refine (run_bind_of_ok (run_ask_ok.mpr ⟨rfl, rfl⟩)).trans ?_
  by_cases hinterval : sub.intervalSeconds = 0
  · refine run_bind_of_trap ?_
    unfold Exec.require
    rw [if_neg (not_not.mpr hinterval)]
    rfl
  · refine (run_seq_of_ok (run_require_ok.mpr ⟨hinterval, rfl⟩)).trans (run_bind_of_trap ?_)
    rw [saltBuffer_eq_none]
    rfl

theorem run_chargeCheckedSalted_trap : (chargeCheckedSalted id sub key cfg).run env s = .trap ↔
    ∃ amount, s.intervalAmount id env.now sub = .ok amount ∧ sub.capReached = false ∧
      (sub.cancelAt.any (· ≤ env.now) = true ∧
          (fireScheduledCancellation id sub).run env s = .trap ∨
        sub.cancelAt.any (· ≤ env.now) = false ∧ sub.chargeableAt env.now ∧
          sub.renewalClosed env.now = .ok false) := by
  constructor
  · intro htrap
    obtain ⟨_, _, henv, htrap⟩ := Returns.ask.run_bind_trap.mp htrap
    obtain ⟨rfl, rfl⟩ := run_ask_ok.mp henv
    obtain ⟨_, _, hpriced, htrap⟩ := (Returns.gets _).run_bind_trap.mp htrap
    obtain ⟨rfl, rfl⟩ := run_gets_ok.mp hpriced
    obtain ⟨amount, _, hpassed, htrap⟩ := (Returns.lift _).run_bind_trap.mp htrap
    obtain ⟨hamount, rfl⟩ := run_lift_ok.mp hpassed
    cases hcap : sub.capReached with
    | true =>
      rw [if_pos hcap] at htrap
      have hreturns : (when (sub.status ≠ .cancelled) (cancelCapped id sub)).Returns :=
        .when (returns_cancelCapped _ _)
      obtain ⟨_, _, -, hlast⟩ := hreturns.run_bind_trap.mp htrap
      exact (Returns.pure _ _ _ hlast).elim
    | false =>
      rw [if_neg (by simp [hcap])] at htrap
      refine ⟨amount, hamount, rfl, ?_⟩
      cases hscheduled : sub.cancelAt.any (· ≤ env.now) with
      | true =>
        rw [if_pos hscheduled] at htrap
        rcases run_bind_trap.mp htrap with hfires | ⟨_, _, -, hlast⟩
        · exact .inl ⟨rfl, hfires⟩
        · exact (Returns.pure _ _ _ hlast).elim
      | false =>
        rw [if_neg (by simp [hscheduled])] at htrap
        obtain ⟨_, _, hpassed, htrap⟩ := (returns_requireChargeable sub).run_bind_trap.mp htrap
        obtain ⟨hchargeable, rfl⟩ := run_requireChargeable_ok.mp hpassed
        obtain ⟨closed, _, hpassed, htrap⟩ := (Returns.lift _).run_bind_trap.mp htrap
        obtain ⟨hclosed, rfl⟩ := run_lift_ok.mp hpassed
        cases closed with
        | true => exact (Returns.pure _ _ _ htrap).elim
        | false => exact .inr ⟨rfl, hchargeable, hclosed⟩
  · rintro ⟨amount, hamount, hcap, hends⟩
    refine (run_bind_of_ok (run_ask_ok.mpr ⟨rfl, rfl⟩)).trans ?_
    have hread : (gets (·.intervalAmount id env.now sub) : Vault _).run env s =
        .ok (.ok amount) s := run_gets_ok.mpr ⟨hamount, rfl⟩
    refine (run_bind_of_ok hread).trans ?_
    refine (run_bind_of_ok (run_lift_ok.mpr ⟨rfl, rfl⟩)).trans ?_
    rw [if_neg (by simp [hcap])]
    rcases hends with ⟨hscheduled, hfires⟩ | ⟨hscheduled, hchargeable, hclosed⟩
    · rw [if_pos hscheduled]
      exact run_bind_of_trap hfires
    · rw [if_neg (by simp [hscheduled])]
      refine (run_seq_of_ok (run_requireChargeable_ok.mpr ⟨hchargeable, rfl⟩)).trans ?_
      refine (run_bind_of_ok (run_lift_ok.mpr ⟨hclosed, rfl⟩)).trans ?_
      exact run_chargeIntervalSalted amount

theorem run_chargeOneSalted_trap : (chargeOneSalted id key cfg cache).run env s = .trap ↔
    ∃ sub, ClearedBy env s id cache sub ∧
      (chargeCheckedSalted id sub key cfg).run env s = .trap := by
  constructor
  · intro htrap
    obtain ⟨_, _, hpassed, htrap⟩ := returns_requireNotEmergencyStop.run_bind_trap.mp htrap
    obtain ⟨hrunning, rfl⟩ := run_requireNotEmergencyStop_ok.mp hpassed
    obtain ⟨sub, _, hpassed, htrap⟩ := (returns_getSubscription id).run_bind_trap.mp htrap
    obtain ⟨hfound, rfl⟩ := run_getSubscription_ok.mp hpassed
    obtain ⟨_, _, hpassed, htrap⟩ := (returns_checkMerchantStatus _ _).run_bind_trap.mp htrap
    obtain ⟨hopen, rfl⟩ := run_checkMerchantStatus_ok.mp hpassed
    obtain ⟨_, _, hpassed, htrap⟩ :=
      (returns_requireNotBlocklisted _).run_bind_trap.mp htrap
    obtain ⟨hsubscriber, rfl⟩ := run_requireNotBlocklisted_ok.mp hpassed
    obtain ⟨_, _, hpassed, htrap⟩ := (returns_requireNotBlocklisted _).run_bind_trap.mp htrap
    obtain ⟨hmerchant, rfl⟩ := run_requireNotBlocklisted_ok.mp hpassed
    obtain ⟨_, _, hpassed, htrap⟩ := (returns_checkSplitPayees id).run_bind_trap.mp htrap
    obtain ⟨hpayees, rfl⟩ := run_checkSplitPayees_ok.mp hpassed
    obtain ⟨_, _, hpassed, htrap⟩ := (returns_failIfExpired id sub).run_bind_trap.mp htrap
    obtain ⟨hexpired, rfl⟩ := run_failIfExpired_ok.mp hpassed
    exact ⟨sub, ⟨hrunning, hfound, hopen, hsubscriber, hmerchant, hpayees, hexpired⟩, htrap⟩
  · rintro ⟨sub, h, htrap⟩
    refine (run_seq_of_ok (run_requireNotEmergencyStop_ok.mpr ⟨h.running, rfl⟩)).trans ?_
    refine (run_bind_of_ok (run_getSubscription_ok.mpr ⟨h.found, rfl⟩)).trans ?_
    refine (run_seq_of_ok (run_checkMerchantStatus_ok.mpr ⟨h.merchantOpen, rfl⟩)).trans ?_
    refine (run_seq_of_ok (run_requireNotBlocklisted_ok.mpr
      ⟨h.subscriberUnlisted, rfl⟩)).trans ?_
    refine (run_seq_of_ok (run_requireNotBlocklisted_ok.mpr ⟨h.merchantUnlisted, rfl⟩)).trans ?_
    refine (run_seq_of_ok (run_checkSplitPayees_ok.mpr ⟨h.payeesOpen, rfl⟩)).trans ?_
    exact (run_seq_of_ok (run_failIfExpired_ok.mpr ⟨h.unexpired, rfl⟩)).trans htrap

theorem chargeOneSalted_returns_iff : (chargeOneSalted id key cfg cache).run env s ≠ .trap ↔
    ¬ReachesSalt env s id cache ∧ ¬RefundFails env s id cache := by
  rw [← not_or, ne_eq, not_iff_not, run_chargeOneSalted_trap]
  constructor
  · rintro ⟨sub, hcleared, htrap⟩
    obtain ⟨amount, hamount, hcap, ⟨hscheduled, hfires⟩ | ⟨hscheduled, hrest⟩⟩ :=
      run_chargeCheckedSalted_trap.mp htrap
    · exact .inr ⟨sub, amount, hcleared, hamount, hcap, hscheduled,
        run_fireScheduledCancellation_trap.mp hfires⟩
    · exact .inl ⟨sub, amount, hcleared, hamount, hcap, hscheduled, hrest⟩
  · rintro (⟨sub, amount, hcleared, hamount, hcap, hscheduled, hrest⟩ |
      ⟨sub, amount, hcleared, hamount, hcap, hscheduled, hrest⟩)
    · exact ⟨sub, hcleared, run_chargeCheckedSalted_trap.mpr
        ⟨amount, hamount, hcap, .inr ⟨hscheduled, hrest⟩⟩⟩
    · exact ⟨sub, hcleared, run_chargeCheckedSalted_trap.mpr
        ⟨amount, hamount, hcap, .inl ⟨hscheduled,
          run_fireScheduledCancellation_trap.mpr hrest⟩⟩⟩

/-! ## Where a batch aborts -/

/-- Every charge of the batch returns where its predecessors leave it. -/
def ItemsClear (env : Env) (cfg : Option CachedAdminConfig) :
    List BatchItem → MerchantCache → State → Prop
  | [], _, _ => True
  | (id, key) :: rest, cache, s =>
    (¬ReachesSalt env s id cache ∧ ¬RefundFails env s id cache) ∧
      ∀ result t, (attempt (chargeOneSalted id key cfg cache)).run env s = .ok result t →
        ItemsClear env cfg rest (s.rememberMerchant cache id env.now) t

theorem chargeItemsSalted_returns_iff (items : List BatchItem) :
    (chargeItemsSalted cfg items cache).run env s ≠ .trap ↔
      ItemsClear env cfg items cache s := by
  induction items generalizing cache s with
  | nil => exact iff_of_true (Returns.pure _ env s) trivial
  | cons item rest ih =>
    obtain ⟨id, key⟩ := item
    have hread : (gets (·.rememberMerchant cache id env.now) : Vault _).run env s =
        .ok (s.rememberMerchant cache id env.now) s := run_gets_ok.mpr ⟨rfl, rfl⟩
    have hcons : (chargeItemsSalted cfg ((id, key) :: rest) cache).run env s = .trap ↔
        (chargeOneSalted id key cfg cache).run env s = .trap ∨
          ∃ result t, (attempt (chargeOneSalted id key cfg cache)).run env s = .ok result t ∧
            (chargeItemsSalted cfg rest (s.rememberMerchant cache id env.now)).run env t =
              .trap := by
      rw [chargeItemsSalted, run_bind_of_ok (run_ask_ok.mpr ⟨rfl, rfl⟩), run_bind_of_ok hread, run_bind_trap,
        run_attempt_trap]
      refine or_congr Iff.rfl (exists₂_congr fun result t => and_congr Iff.rfl ?_)
      rw [run_bind_trap]
      constructor
      · rintro (hrest | ⟨_, u, -, hlast⟩)
        · exact hrest
        · exact (Returns.pure _ env u hlast).elim
      · exact .inl
    rw [ne_eq, hcons, not_or, ← ne_eq, chargeOneSalted_returns_iff]
    refine and_congr Iff.rfl ?_
    simp only [not_exists, not_and]
    exact forall₂_congr fun result t => imp_congr Iff.rfl ih

end Interval

/-! ## The other charges -/

/-- No fee quoted for the token makes the oracle abort. -/
def Quoted (env : Env) (token : Address) (s : State) : Prop :=
  ∀ fee, s.convertFee env token fee ≠ none

section Usage

variable {α β : Type} {env : Env} {token : Address}

theorem staysIn_quoted {x : Vault α} (h : Modifies chargeSlots x) :
    x.StaysIn env (Quoted env token) := by
  intro s a t hquoted hrun fee
  rw [State.convertFee_of_chargeSlots (h.ok hrun)]
  exact hquoted fee

/-- Code without aborts in front of code that returns when fees are quoted. -/
theorem returnsFrom_bind {x : Vault α} {f : α → Vault β} (hx : x.Returns)
    (hmod : Modifies chargeSlots x) (hf : ∀ a, (f a).ReturnsFrom env (Quoted env token)) :
    (x >>= f).ReturnsFrom env (Quoted env token) :=
  .bind (.of_returns hx) (staysIn_quoted hmod) hf

theorem returns_creditProtocolFee (fee : Int) (treasury : Option Address)
    (kind : BillingChargeKind) :
    (creditProtocolFee token fee treasury kind).ReturnsFrom env (Quoted env token) := by
  intro s hquoted
  unfold creditProtocolFee Exec.when
  split
  · apply run_bind_ne_trap (Returns.ask env s)
    intro _ _ henv
    obtain ⟨rfl, rfl⟩ := run_ask_ok.mp henv
    apply run_bind_ne_trap (Returns.gets _ _ _)
    intro converted _ hconverted
    obtain ⟨rfl, rfl⟩ := run_gets_ok.mp hconverted
    apply run_bind_ne_trap (run_unwrap_ne_trap (hquoted fee))
    intro conversion t _
    exact Returns.whenSome (fun _ => returns_creditMerchantBalanceForToken _ _ _ _) env t
  · exact Returns.pure () env s

theorem returns_settleUsage {sub : Subscription} (id : Nat)
    (usageAmount pendingLifetime newBalance : Int) (reference : Bytes)
    (hinterval : sub.intervalSeconds ≠ 0) :
    (settleUsage id sub usageAmount pendingLifetime newBalance reference).ReturnsFrom env
      (Quoted env sub.token) := by
  refine returnsFrom_bind .ask .ask fun _ => returnsFrom_bind (.gets _) (.gets _) fun _ =>
    returnsFrom_bind (.gets _) (.gets _) fun _ => returnsFrom_bind (.lift _) (.lift _) fun _ => ?_
  refine returnsFrom_bind (returns_creditChargePayees _ _ _ _)
      ((Modifies.creditChargePayees _ _ _ _).weaken creditSlots_subset_chargeSlots) fun _ =>
    returnsFrom_bind (returns_routeToSubAccount _ _)
      ((Modifies.routeToSubAccount _ _).weaken creditSlots_subset_chargeSlots) fun _ => ?_
  refine .bind (returns_creditProtocolFee _ _ _) (staysIn_quoted
    ((Modifies.creditProtocolFee _ _ _ _).weaken creditSlots_subset_chargeSlots)) fun _ => ?_
  refine returnsFrom_bind (.lift _) (.lift _) fun _ =>
    returnsFrom_bind (returns_store _ _) (Modifies.writeSubscription _ _) fun _ =>
    returnsFrom_bind (returns_store _ _) (Modifies.store rfl) fun _ => ?_
  refine .bind (.require hinterval) (staysIn_quoted (.require _)) fun _ => ?_
  exact .of_returns <| .bind (.failIf _ _) fun _ => .bind (.okOr _ _) fun _ =>
    .bind (returns_writePeriodSnapshot _) fun _ => returns_appendStatement _ _ _ _ _ _ _

theorem returns_applyUsageLimits {sub : Subscription} (id : Nat) (units : Int)
    (hinterval : sub.intervalSeconds ≠ 0) :
    (applyUsageLimits id sub units).ReturnsFrom env (Quoted env sub.token) := by
  refine returnsFrom_bind .ask .ask fun _ => returnsFrom_bind (returns_load _) .load
    fun configured => ?_
  cases configured with
  | none => exact .of_returns (.pure _)
  | some limits =>
    refine .bind (.require hinterval) (staysIn_quoted (.require _)) fun _ => ?_
    refine .of_returns <| .bind (returns_load _) fun _ => .ite (.pure _) (.ite (.pure _) ?_)
    exact .bind .ask fun _ => .bind (.when (returns_store _ _)) fun _ =>
      .ite (.pure _) (.bind (returns_store _ _) fun _ => .pure _)

theorem returns_chargeUsageDue {sub : Subscription} (id : Nat) (usageAmount : Int)
    (reference : Bytes) (hinterval : sub.intervalSeconds ≠ 0) :
    (chargeUsageDue id sub usageAmount reference).ReturnsFrom env (Quoted env sub.token) := by
  refine returnsFrom_bind (.lift _) (.lift _) fun _ =>
    .ite (.of_returns (.bind (returns_cancelCapped _ _) fun _ => .pure _)) ?_
  split
  · exact .bind (returns_settleUsage id _ _ _ _ hinterval)
      (staysIn_quoted (Modifies.settleUsage _ _ _ _ _ _)) fun _ => .of_returns (.pure _)
  · exact .of_returns <| .bind (.lift _) fun _ => .bind (returns_store _ _) fun _ => .pure _

theorem returns_chargeUsageChecked {sub : Subscription} (id : Nat) (usageAmount : Int)
    (reference : Bytes) (hinterval : sub.intervalSeconds ≠ 0) :
    (chargeUsageChecked id sub usageAmount reference).ReturnsFrom env (Quoted env sub.token) := by
  refine returnsFrom_bind .ask .ask fun _ => returnsFrom_bind
    (.when (.bind (.when (returns_cancelCapped _ _)) fun _ => .fail _))
    (.when (.bind (.when (Modifies.cancelCapped _ _)) fun _ => .fail _)) fun _ => ?_
  refine returnsFrom_bind (.failIf _ _) (.failIf _ _) fun _ =>
    returnsFrom_bind (.failIf _ _) (.failIf _ _) fun _ =>
    returnsFrom_bind (.lift _) (.lift _) fun _ =>
    returnsFrom_bind (.failIf _ _) (.failIf _ _) fun _ =>
    returnsFrom_bind (.failIf _ _) (.failIf _ _) fun _ =>
    returnsFrom_bind (returns_load _) .load fun _ => .ite (.of_returns (.pure _)) ?_
  refine returnsFrom_bind (.failIf _ _) (.failIf _ _) fun _ =>
    returnsFrom_bind (returns_load _) .load fun _ => .ite (.of_returns (.pure _)) ?_
  refine .bind (returns_applyUsageLimits id _ hinterval) (staysIn_quoted
    ((Modifies.applyUsageLimits _ _ _).weaken logSlots_subset_chargeSlots)) fun rejected => ?_
  cases rejected with
  | none => exact returns_chargeUsageDue id _ _ hinterval
  | some result => exact .of_returns (.pure _)

/-- The interval divides, and a quote for the fee is to be had. -/
def UsageClear (env : Env) (s : State) (id : Nat) : Prop :=
  ∀ sub, s.effectiveSubscription id env.now = some sub →
    sub.intervalSeconds ≠ 0 ∧ Quoted env sub.token s

theorem chargeUsageOne_returns {s : State} {id : Nat} (hclear : UsageClear env s id)
    (usageAmount : Int) (reference : Bytes) :
    (chargeUsageOne id usageAmount reference).run env s ≠ .trap := by
  apply run_bind_ne_trap (returns_requireNotEmergencyStop env s)
  intro _ _ hpassed
  obtain ⟨-, rfl⟩ := run_requireNotEmergencyStop_ok.mp hpassed
  apply run_bind_ne_trap (returns_getSubscription id env _)
  intro sub _ hpassed
  obtain ⟨hfound, rfl⟩ := run_getSubscription_ok.mp hpassed
  obtain ⟨hinterval, hquoted⟩ := hclear sub hfound
  have hcharge : (chargeUsageChecked id sub usageAmount reference).ReturnsFrom env
      (Quoted env sub.token) := returns_chargeUsageChecked id usageAmount reference hinterval
  have hrest := returnsFrom_bind (returns_checkMerchantStatus sub.merchant ∅)
    (Modifies.checkMerchantStatus _ _) fun _ =>
    returnsFrom_bind (returns_requireNotBlocklisted sub.subscriber)
      (Modifies.requireNotBlocklisted _) fun _ =>
    returnsFrom_bind (returns_requireNotBlocklisted sub.merchant)
      (Modifies.requireNotBlocklisted _) fun _ =>
    returnsFrom_bind (returns_checkSplitPayees id) (Modifies.checkSplitPayees _) fun _ =>
    returnsFrom_bind (returns_failIfExpired id sub) (Modifies.failIfExpired _ _) fun _ => hcharge
  exact hrest _ hquoted

end Usage

section OneOff

variable {env : Env} {s : State} {id : Nat}

theorem returns_checkOneOff (id : Nat) (sub : Subscription) (merchant : Address) (amount : Int) :
    (checkOneOff id sub merchant amount).Returns :=
  .bind (.failIf _ _) fun _ => .bind (.when <| .bind (.when (returns_cancelCapped _ _)) fun _ =>
      .fail _) fun _ => .bind (.failIf _ _) fun _ => .bind (.failIf _ _) fun _ =>
    .bind (.failIf _ _) fun _ => .bind (.lift _) fun _ =>
    .bind (.when <| .bind (returns_cancelCapped _ _) fun _ => .fail _) fun _ => .pure _

theorem returns_settleOneOff (id : Nat) (sub : Subscription) (charged amount : Int)
    (key : Option BytesN32) : (settleOneOff id sub charged amount key).Returns :=
  .bind .ask fun _ => .bind (.lift _) fun _ => .bind (.gets _) fun _ => .bind (.gets _) fun _ =>
    .bind (.lift _) fun _ => .bind (returns_creditChargePayees _ _ _ _) fun _ =>
    .bind (returns_routeToSubAccount _ _) fun _ =>
    .bind (.when <| .whenSome fun _ => returns_creditMerchantBalanceForToken _ _ _ _) fun _ =>
    .bind (.lift _) fun _ => .bind (returns_appendStatement _ _ _ _ _ _ _) fun _ =>
    returns_recordIdemKey _ _ _

/-- Once the signature is checked, the charge itself does not abort. -/
theorem doChargeOneOff_returns_iff (merchant : Address) (amount : Int) (key : Option BytesN32) :
    (doChargeOneOff id merchant amount key).run env s ≠ .trap ↔
      env.authorized merchant ∧ merchant ≠ env.host.contract := by
  constructor
  · intro hreturns
    by_contra hunsigned
    apply hreturns
    refine (run_bind_of_ok (run_ask_ok.mpr ⟨rfl, rfl⟩)).trans (run_bind_of_trap ?_)
    refine (run_bind_of_ok (run_ask_ok.mpr ⟨rfl, rfl⟩)).trans ?_
    unfold Exec.require
    rw [if_neg hunsigned]
    rfl
  · intro hsigned
    apply run_bind_ne_trap (Returns.ask env s)
    intro _ t henv
    obtain ⟨rfl, rfl⟩ := run_ask_ok.mp henv
    apply run_bind_ne_trap
    · apply run_bind_ne_trap (Returns.ask env s)
      intro _ _ henv
      obtain ⟨rfl, rfl⟩ := run_ask_ok.mp henv
      exact run_require_ne_trap hsigned
    intro _ t _
    have hrest := Returns.bind (returns_getSubscription id) fun sub =>
      .bind (returns_requireNotBlocklisted sub.subscriber) fun _ =>
      .bind (returns_requireNotBlocklisted sub.merchant) fun _ =>
      .bind (returns_checkSplitPayees id) fun _ => .bind (returns_failIfExpired id sub) fun _ =>
      .bind (.gets (·.isReplayedKey env .chargeOneoff id key)) fun replayed =>
      .when (c := replayed = false) <| .bind (returns_checkOneOff id sub merchant amount)
        fun charged => returns_settleOneOff id sub charged amount key
    exact hrest env t

/-- The subscription is in its grace period, and the buyout is offered its price. -/
def BuyoutPriced (env : Env) (s : State) (id : Nat) (amount : Int) : Prop :=
  ∃ sub premium, s.effectiveSubscription id env.now = some sub ∧ sub.status = .gracePeriod ∧
    buyoutPremium sub.amount s.buyoutPremiumBps = .ok premium ∧ sub.amount + premium ≤ amount

theorem doGraceBuyoutSalted_returns {subscriber : Address} {amount : Int}
    (key : Option BytesN32) (hsigned : env.authorized subscriber ∧ subscriber ≠ env.host.contract)
    (hunpriced : ¬BuyoutPriced env s id amount) :
    (doGraceBuyoutSalted id subscriber amount key).run env s ≠ .trap := by
  intro htrap
  obtain ⟨_, _, henv, htrap⟩ := Returns.ask.run_bind_trap.mp htrap
  obtain ⟨rfl, rfl⟩ := run_ask_ok.mp henv
  rcases run_bind_trap.mp htrap with hrefused | ⟨_, _, hauth, htrap⟩
  · obtain ⟨_, _, henv, hrefused⟩ := Returns.ask.run_bind_trap.mp hrefused
    obtain ⟨rfl, rfl⟩ := run_ask_ok.mp henv
    exact run_require_ne_trap hsigned hrefused
  obtain ⟨-, rfl⟩ := run_requireAuth_ok.mp hauth
  obtain ⟨sub, _, hpassed, htrap⟩ := (returns_getSubscription id).run_bind_trap.mp htrap
  obtain ⟨hfound, rfl⟩ := run_getSubscription_ok.mp hpassed
  obtain ⟨_, _, hpassed, htrap⟩ := (Returns.failIf _ _).run_bind_trap.mp htrap
  obtain ⟨hgrace, rfl⟩ := run_failIf_ok.mp hpassed
  obtain ⟨_, _, hbps, htrap⟩ := (Returns.gets _).run_bind_trap.mp htrap
  obtain ⟨rfl, rfl⟩ := run_gets_ok.mp hbps
  obtain ⟨premium, _, hpassed, htrap⟩ := (Returns.lift _).run_bind_trap.mp htrap
  obtain ⟨hpremium, rfl⟩ := run_lift_ok.mp hpassed
  obtain ⟨required, _, hpassed, htrap⟩ := (Returns.lift _).run_bind_trap.mp htrap
  obtain ⟨hrequired, rfl⟩ := run_lift_ok.mp hpassed
  obtain ⟨rfl, -⟩ := safeAdd_ok.mp hrequired
  obtain ⟨_, _, hpassed, -⟩ := (Returns.failIf _ _).run_bind_trap.mp htrap
  obtain ⟨hoffered, -⟩ := run_failIf_ok.mp hpassed
  exact hunpriced ⟨sub, premium, hfound, not_not.mp hgrace, hpremium, not_lt.mp hoffered⟩

end OneOff

/-! ## All paths -/

/-- A subscription that is due beside a paused one. -/
private def besidePausedCalls : List (Env × VaultCall) :=
  [(sampleEnv 0 [⟨2⟩], .pauseSubscription 1 ⟨2⟩),
   (sampleEnv 0 [⟨2⟩], .createSubscription sampleRequest),
   (sampleEnv 0 [⟨2⟩], .depositFunds 0 50 none),
   (sampleEnv 0 [⟨2⟩], .createSubscription sampleRequest)]

end SubscriptionVault
