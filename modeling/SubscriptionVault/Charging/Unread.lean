import SubscriptionVault.Charging.Footprints
import SubscriptionVault.Contract.Areas
import SubscriptionVault.Contract.Payouts
import SubscriptionVault.Framework.Simulation

/-!
# What billing does not read

No charge and no deposit looks at which call is running, at the tokens the vault accepts, or at
the proposals and cooldowns of its administration. Started from states that differ only there, it
ends in the same way.
-/

namespace SubscriptionVault

open Exec

def DataKey.isUnread : DataKey → Bool
  | .tokenDecimals _ | .acceptedTokens | .adminConfigLastChangedAt _ | .proposal _ => true
  | _ => false

/-- Slots that no charge and no deposit reads. -/
def Slot.isUnread : Slot → Bool
  | .lock _ | .symbol .batchNonceCtx => true
  | .persistent key | .instanced key => key.isUnread
  | _ => false

/-- Slots of a set that billing does not read. -/
class Unread (S : Set Slot) : Prop where
  isUnread : ∀ k ∈ S, k.isUnread = true

/-- The states differ at most in `S`. -/
abbrev SameBut (S : Set Slot) : State → State → Prop := FiniteStore.AgreeOff S

/-- A transfer looks at balances only. -/
theorem FiniteStore.AgreeOff.transferred {S : Set Slot} {s s' : State}
    (h : FiniteStore.AgreeOff S s s') (hS : ∀ token holder, Slot.tokenBalance token holder ∉ S)
    (token sender receiver : Address) (amount : Int) :
    FiniteStore.AgreeOff S (s.transferred token sender receiver amount)
      (s'.transferred token sender receiver amount) := by
  have hbalance {v v' : State} (h : FiniteStore.AgreeOff S v v') (holder : Address) :
      v'.balanceOf token holder = v.balanceOf token holder := by
    rw [State.balanceOf, State.balanceOf, h.read (hS token holder)]
  have hdebited : FiniteStore.AgreeOff S
      (s.setBalance token sender (s.balanceOf token sender - amount))
      (s'.setBalance token sender (s'.balanceOf token sender - amount)) := by
    rw [hbalance h]
    exact h.replace _ _
  have hreceived := hbalance hdebited receiver
  unfold State.transferred
  dsimp only
  rw [hreceived]
  exact hdebited.replace _ _

namespace SameBut

variable {S : Set Slot} [Unread S] {s s' : State} {α : Type}

theorem read {k : Slot} [Holds Slot.Val k α] (h : SameBut S s s') (hk : k.isUnread = false) :
    (s'.read k : Option α) = s.read k := by
  apply FiniteStore.AgreeOff.read h
  intro hmem
  rw [Unread.isUnread k hmem] at hk
  cases hk

theorem persistent (h : SameBut S s s') (key : DataKey) [Holds DataKey.Val key α]
    (hkey : key.isUnread = false) :
    (s'.read (.persistent key) : Option α) = s.read (.persistent key) := h.read hkey

theorem instanced (h : SameBut S s s') (key : DataKey) [Holds DataKey.Val key α]
    (hkey : key.isUnread = false) :
    (s'.read (.instanced key) : Option α) = s.read (.instanced key) := h.read hkey

/-! ## What a charge looks at -/

section Reads

variable (h : SameBut S s s')

include h

theorem schemaVersion : s'.schemaVersion = s.schemaVersion := by
  rw [State.schemaVersion, State.schemaVersion, h.persistent .schemaVersion rfl,
    h.instanced .schemaVersion rfl]

theorem config (key : DataKey) [Holds DataKey.Val key α] (hkey : key.isUnread = false) :
    (s'.config key : Option α) = s.config key := by
  simp only [State.config, h.persistent key hkey, h.instanced key hkey, h.schemaVersion]

theorem emergencyStop : s'.emergencyStop = s.emergencyStop :=
  congrArg (·.getD false) (h.config _ rfl)

theorem isBlocklisted (a : Address) : s'.isBlocklisted a = s.isBlocklisted a :=
  congrArg (fun o : Option Bytes => o.isSome) (h.persistent _ rfl)

theorem gracePeriod : s'.gracePeriod = s.gracePeriod := by
  rw [State.gracePeriod, State.gracePeriod, h.config .gracePeriod rfl]

theorem subscription (id : Nat) : s'.subscription id = s.subscription id :=
  h.persistent (.sub id) rfl

theorem merchantConfig (merchant : Address) :
    s'.merchantConfig merchant = s.merchantConfig merchant :=
  h.instanced (.merchantConfig merchant) rfl

theorem merchantVacation (merchant : Address) :
    s'.merchantVacation merchant = s.merchantVacation merchant :=
  h.instanced (.merchantVacation merchant) rfl

theorem protocolFeeBps : s'.protocolFeeBps = s.protocolFeeBps :=
  congrArg (·.getD 0) (h.config .feeBps rfl)

theorem treasury : s'.treasury = s.treasury := h.config .treasury rfl

theorem autoPauseThreshold : s'.autoPauseThreshold = s.autoPauseThreshold :=
  congrArg (·.getD 0) (h.instanced .autoPauseThreshold rfl)

theorem merchantBalance (merchant token : Address) :
    s'.merchantBalance merchant token = s.merchantBalance merchant token :=
  congrArg (·.getD 0) (h.instanced (.merchantBalance merchant token) rfl)

theorem tokenEarnings (merchant token : Address) :
    s'.tokenEarnings merchant token = s.tokenEarnings merchant token :=
  congrArg (·.getD ⟨⟨0, 0, 0⟩, 0, 0⟩) (h.instanced (.merchantEarnings merchant token) rfl)

theorem merchantTokens (merchant : Address) :
    s'.merchantTokens merchant = s.merchantTokens merchant :=
  congrArg (·.getD []) (h.instanced (.merchantTokens merchant) rfl)

theorem subAccountBalance (merchant : Address) (label : Symbol) :
    s'.subAccountBalance merchant label = s.subAccountBalance merchant label :=
  congrArg (·.getD 0) (h.instanced (.merchantSubAccount merchant label) rfl)

theorem subAccountFunds (merchant : Address) (label : Symbol) (token : Address) :
    s'.subAccountFunds merchant label token = s.subAccountFunds merchant label token :=
  congrArg (·.getD 0) (h.read (k := .subAccountFunds merchant label token) rfl)

theorem routeFeeBps (merchant : Address) : s'.routeFeeBps merchant = s.routeFeeBps merchant := by
  rw [State.routeFeeBps, State.routeFeeBps, State.merchantFeeOverrideBps,
    State.merchantFeeOverrideBps, h.instanced (.merchantFeeBps merchant) rfl, h.protocolFeeBps]

theorem buyoutPremiumBps : s'.buyoutPremiumBps = s.buyoutPremiumBps :=
  congrArg (·.getD 0) (h.config .buyoutPremiumBps rfl)

theorem minTopup : s'.minTopup = s.minTopup := by
  rw [State.minTopup, State.minTopup, h.config .minTopup rfl]

theorem nonce (signer : Address) (domain : NonceDomain) :
    s'.nonce signer domain = s.nonce signer domain := by
  rw [State.nonce, State.nonce, h.persistent (.adminNonce signer domain.asU32) rfl]

theorem creditLimitForDelta (subscriber token : Address) (additional : Int) :
    s'.creditLimitForDelta subscriber token additional =
      s.creditLimitForDelta subscriber token additional := by
  have hnext : s'.nextSubscriptionId = s.nextSubscriptionId :=
    congrArg (·.getD 0) (h.config .nextId rfl)
  have hlimit : s'.creditLimit subscriber token = s.creditLimit subscriber token :=
    congrArg (·.getD 0) (h.instanced (.creditLimit subscriber token) rfl)
  have hadd : s'.addExposure subscriber token = s.addExposure subscriber token := by
    funext exposure id
    rw [State.addExposure, State.addExposure, h.subscription]
  rw [State.creditLimitForDelta, State.creditLimitForDelta, State.computeSubscriberExposure,
    State.computeSubscriberExposure, hnext, hlimit, hadd]

theorem effectiveSubscription (id now : Nat) :
    s'.effectiveSubscription id now = s.effectiveSubscription id now := by
  rw [State.effectiveSubscription, State.effectiveSubscription, h.subscription, h.gracePeriod]

theorem merchantPaused (merchant : Address) :
    s'.merchantPaused merchant = s.merchantPaused merchant := by
  rw [State.merchantPaused, State.merchantPaused, h.merchantConfig, h.schemaVersion,
    h.instanced (.merchantPaused merchant) rfl]

theorem cachedMerchantStatus (cache : MerchantCache) (merchant : Address) (now : Nat) :
    s'.cachedMerchantStatus cache merchant now = s.cachedMerchantStatus cache merchant now := by
  simp only [State.cachedMerchantStatus, State.merchantStatus, State.isMerchantInVacation,
    h.merchantPaused, h.merchantVacation]

theorem couponForCharge (id : Nat) : s'.couponForCharge id = s.couponForCharge id := by
  rw [State.couponForCharge, State.couponForCharge, h.persistent (.subCoupon id) rfl]
  exact congrArg _ (funext fun code => h.persistent (.coupon code) rfl)

theorem intervalAmount (id now : Nat) (sub : Subscription) :
    s'.intervalAmount id now sub = s.intervalAmount id now sub := by
  simp only [State.intervalAmount, State.payableAfterCoupon, h.couponForCharge]

theorem idemBuffer (id : Nat) : s'.idemBuffer id = s.idemBuffer id := by
  rw [State.idemBuffer, State.idemBuffer, h.instanced (.idemKey id) rfl]

theorem idemTtlSecs : s'.idemTtlSecs = s.idemTtlSecs := by
  rw [State.idemTtlSecs, State.idemTtlSecs, h.read (k := .symbol .idemTtl) rfl]

theorem isReplayedKey (env : Env) (domain : NonceDomain) (id : Nat) (key : Option BytesN32) :
    s'.isReplayedKey env domain id key = s.isReplayedKey env domain id key := by
  simp only [State.isReplayedKey, State.checkKey, h.idemBuffer, h.idemTtlSecs]

theorem intervalFeeTerms (cfg : Option CachedAdminConfig) :
    s'.intervalFeeTerms cfg = s.intervalFeeTerms cfg := by
  simp only [State.intervalFeeTerms, h.protocolFeeBps, h.treasury]

theorem convertFee (env : Env) (token : Address) (fee : Int) :
    s'.convertFee env token fee = s.convertFee env token fee := by
  have htarget : s'.feeToken = s.feeToken := h.config _ rfl
  have horacle : s'.oracleConfig = s.oracleConfig := by
    rw [State.oracleConfig, State.oracleConfig, h.config _ rfl]
  unfold State.convertFee
  rw [htarget, horacle]

theorem balanceOf (token holder : Address) :
    s'.balanceOf token holder = s.balanceOf token holder := by
  rw [State.balanceOf, State.balanceOf, h.read (k := .tokenBalance token holder) rfl]

theorem transferred (token sender receiver : Address) (amount : Int) :
    SameBut S (s.transferred token sender receiver amount)
      (s'.transferred token sender receiver amount) :=
  FiniteStore.AgreeOff.transferred h
    (fun _ _ hmem => Bool.noConfusion (Unread.isUnread (S := S) _ hmem)) token sender receiver
    amount

end Reads

end SameBut

/-! ## Code that reads other keys -/

section Elsewhere

variable {S : Set Slot} {α : Type} {k : Slot} [Holds Slot.Val k α]

theorem respects_load (hk : k ∉ S) :
    (load k : Vault (Option α)).Respects (FiniteStore.AgreeOff S) :=
  .gets fun _ _ h => h.read hk

theorem respects_store (v : α) : (store k v).Respects (FiniteStore.AgreeOff S) :=
  .update fun _ _ h => h.replace _ _

theorem respects_delete (k : Slot) : (delete k).Respects (FiniteStore.AgreeOff S) :=
  .update fun _ _ h => h.replace _ _

variable (hS : ∀ k ∈ S, k.area ≠ .statements)

include hS

theorem respects_appendStatement (id : Nat) (amount : Int) (merchant token : Address)
    (kind : BillingChargeKind) (periodStart timestamp : Nat) :
    (appendStatement id amount merchant token kind periodStart timestamp).Respects
      (FiniteStore.AgreeOff S) := by
  have hload {β : Type} {key : Slot} [Holds Slot.Val key β] (hkey : key.area = .statements) :
      (load key : Vault (Option β)).Respects (FiniteStore.AgreeOff S) :=
    respects_load fun hmem => hS _ hmem hkey
  exact .bind (.gets fun _ _ h => by
      rw [State.statementSequence, State.statementSequence, h.read fun hmem => hS _ hmem rfl])
    fun _ => .bind (.okOr _ _) fun _ => .bind (respects_store _) fun _ =>
    .bind (respects_store _) fun _ => .bind (hload rfl) fun _ => respects_store _

theorem respects_writePeriodSnapshot (snapshot : BillingPeriodSnapshot) :
    (writePeriodSnapshot snapshot).Respects (FiniteStore.AgreeOff S) := by
  have hload {β : Type} {key : Slot} [Holds Slot.Val key β] (hkey : key.area = .statements) :
      (load key : Vault (Option β)).Respects (FiniteStore.AgreeOff S) :=
    respects_load fun hmem => hS _ hmem hkey
  have hindex (id period : Nat) :
      (indexPeriodSnapshot id period).Respects (FiniteStore.AgreeOff S) :=
    .bind (hload rfl) fun _ => .bind (.forEach (fun _ => respects_delete _) _) fun _ =>
      respects_store _
  exact .bind (.failIf _ _) fun _ => .bind (.failIf _ _) fun _ => .bind (hload rfl) fun _ =>
    .bind (.lift _) fun _ => .bind (.failIf _ _) fun _ => .bind (respects_store _) fun _ =>
    .when (hindex _ _)

end Elsewhere

/-! ## Billing -/

/-- The code ends in the same way from states that differ in `S` only. -/
abbrev Ignores (S : Set Slot) {α : Type} (x : Vault α) : Prop := x.Respects (SameBut S)

namespace Ignores

variable {S : Set Slot} [Unread S]

theorem not_statements : ∀ k ∈ S, k.area ≠ .statements := by
  intro k hk harea
  have hunread := Unread.isUnread k hk
  have hkey (key : DataKey) (hkey : key.isUnread = true) : key.area ≠ .statements := by
    unfold DataKey.isUnread at hkey
    split at hkey
    · nofun
    · nofun
    · nofun
    · nofun
    · cases hkey
  unfold Slot.isUnread at hunread
  split at hunread
  · cases harea
  · cases harea
  · exact hkey _ hunread harea
  · exact hkey _ hunread harea
  · cases hunread

theorem load {α : Type} {k : Slot} [Holds Slot.Val k α] (hk : k.isUnread = false) :
    Ignores S (load k : Vault (Option α)) :=
  .gets fun _ _ h => h.read hk

omit [Unread S] in
theorem store {α : Type} {k : Slot} [Holds Slot.Val k α] (v : α) : Ignores S (store k v) :=
  respects_store v

omit [Unread S] in
theorem delete (k : Slot) : Ignores S (delete k) := respects_delete k

theorem transfer (token sender receiver : Address) (amount : Int) :
    Ignores S (transfer token sender receiver amount) :=
  .bind .ask fun _ => .bind (.require _) fun _ => .bind (.require _) fun _ =>
    .bind (.require _) fun _ => .bind (.gets fun _ _ h => h.balanceOf _ _) fun _ =>
    .bind (.require _) fun _ => .update fun _ _ h => h.transferred _ _ _ _

/-! ### Checks -/

theorem requireNotEmergencyStop : Ignores S requireNotEmergencyStop :=
  .bind_state (fun _ _ h => by rw [h.emergencyStop]) fun _ => .failIf _ _

theorem getSubscription (id : Nat) : Ignores S (getSubscription id) :=
  .bind .ask fun _ => .bind (.gets fun _ _ h => h.effectiveSubscription _ _) fun _ => .okOr _ _

theorem checkMerchantStatus (merchant : Address) (cache : MerchantCache) :
    Ignores S (checkMerchantStatus merchant cache) :=
  .bind .ask fun _ => .bind (.gets fun _ _ h => h.cachedMerchantStatus _ _ _) fun _ =>
    .bind (.failIf _ _) fun _ => .failIf _ _

theorem requireNotBlocklisted (a : Address) : Ignores S (requireNotBlocklisted a) :=
  .bind_state (fun _ _ h => by rw [h.isBlocklisted]) fun _ => .failIf _ _

theorem checkSplitPayees (id : Nat) : Ignores S (checkSplitPayees id) :=
  .bind (.gets fun _ _ h => h.read rfl) fun _ => .whenSome fun _ => .forEach
    (fun _ => .bind (requireNotBlocklisted _) fun _ => checkMerchantStatus _ _) _

omit [Unread S] in
theorem requireChargeable (sub : Subscription) : Ignores S (requireChargeable sub) :=
  .bind .ask fun _ => .ite (.pure _) (.ite (.bind (.lift _) fun _ => .failIf _ _) (.fail _))

/-! ### Records -/

omit [Unread S] in
theorem writeSubscription (id : Nat) (sub : Subscription) :
    Ignores S (writeSubscription id sub) := store _

omit [Unread S] in
theorem failIfExpired (id : Nat) (sub : Subscription) : Ignores S (failIfExpired id sub) :=
  .bind .ask fun _ => .when <| .bind
    (.when (.bind (.lift _) fun _ => writeSubscription _ _)) fun _ => .fail _

omit [Unread S] in
theorem cancelCapped (id : Nat) (sub : Subscription) : Ignores S (cancelCapped id sub) :=
  .bind (.lift _) fun _ => writeSubscription _ _

theorem fireScheduledCancellation (id : Nat) (sub : Subscription) :
    Ignores S (fireScheduledCancellation id sub) :=
  .when <| .bind (.lift _) fun _ => .bind (writeSubscription _ _) fun _ => .when <|
    .bind .ask fun _ => .bind (transfer _ _ _ _) fun _ => .pure _

theorem recordShortfall (id : Nat) (sub : Subscription) (cfg : Option CachedAdminConfig) :
    Ignores S (recordShortfall id sub cfg) :=
  .bind .ask fun _ => .bind (.gets fun _ _ h => by simp only [h.gracePeriod]) fun _ =>
    .bind (.lift _) fun _ => .bind (.lift _) fun _ => .bind (writeSubscription _ _) fun _ =>
    .bind (.gets fun _ _ h => by simp only [h.autoPauseThreshold])
      fun _ => .when <|
      .bind (load rfl) fun _ => .bind (store _) fun _ => .when <|
        .bind (writeSubscription _ _) fun _ => delete _

/-! ### Logs -/

theorem appendStatement (id : Nat) (amount : Int) (merchant token : Address)
    (kind : BillingChargeKind) (periodStart timestamp : Nat) :
    Ignores S (appendStatement id amount merchant token kind periodStart timestamp) :=
  respects_appendStatement not_statements _ _ _ _ _ _ _

theorem writePeriodSnapshot (snapshot : BillingPeriodSnapshot) :
    Ignores S (writePeriodSnapshot snapshot) :=
  respects_writePeriodSnapshot not_statements _

theorem recordIdemKey (domain : NonceDomain) (id : Nat) (key : Option BytesN32) :
    Ignores S (recordIdemKey domain id key) :=
  .bind .ask fun _ => .whenSome fun _ => .bind (.gets fun _ _ h => h.idemBuffer _) fun _ =>
    .bind (.gets fun _ _ h => h.idemTtlSecs) fun _ => .bind (.failIf _ _) fun _ => store _

/-! ### Credits -/

theorem creditMerchantBalanceForToken (merchant token : Address) (amount : Int)
    (kind : BillingChargeKind) :
    Ignores S (creditMerchantBalanceForToken merchant token amount kind) :=
  .bind (.failIf _ _) fun _ =>
    .bind (.gets fun _ _ h => h.merchantBalance _ _) fun _ =>
    .bind (.lift _) fun _ => .bind (store _) fun _ =>
    .bind (.gets fun _ _ h => h.tokenEarnings _ _) fun _ =>
    .bind (.lift _) fun _ => .bind (store _) fun _ =>
    .bind (.bind (.gets fun _ _ h => h.merchantTokens _) fun _ =>
      .when (store _)) fun _ => .pure _

theorem creditShares (token : Address) (net : Int) (kind : BillingChargeKind)
    (payees : List (Address × Nat)) (total : Int) :
    Ignores S (creditShares token net kind payees total) := by
  induction payees generalizing total with
  | nil => exact .pure _
  | cons payee payees ih =>
    exact .bind (.lift _) fun _ => .bind (creditMerchantBalanceForToken _ _ _ _) fun _ => ih _

theorem creditChargePayees (id : Nat) (sub : Subscription) (net : Int)
    (kind : BillingChargeKind) : Ignores S (creditChargePayees id sub net kind) := by
  refine .bind (.gets fun _ _ h => h.read rfl) fun split => ?_
  split
  · exact creditMerchantBalanceForToken _ _ _ _
  · exact .pure _
  · exact .bind (creditShares _ _ _ _ _) fun _ => creditMerchantBalanceForToken _ _ _ _

theorem routeToSubAccount (sub : Subscription) (net : Int) :
    Ignores S (routeToSubAccount sub net) := by
  have hcredit (merchant : Address) (label : Symbol) (token : Address) (amount : Int) :
      Ignores S (creditSubAccount merchant label token amount) :=
    .bind (.failIf _ _) fun _ => .bind (.bind (load rfl) fun _ => .failIf _ _) fun _ =>
      .bind (.gets fun _ _ h => h.subAccountBalance _ _) fun _ =>
      .bind (.lift _) fun _ => .bind (store _) fun _ =>
      .bind (.gets fun _ _ h => h.subAccountFunds _ _ _) fun _ => store _
  exact .whenSome fun _ => .bind (hcredit _ _ _ _) fun _ =>
    .bind (.gets fun _ _ h => h.merchantBalance _ _) fun _ =>
    .bind (.lift _) fun _ => store _

theorem creditProtocolFee (token : Address) (fee : Int) (treasury : Option Address)
    (kind : BillingChargeKind) : Ignores S (creditProtocolFee token fee treasury kind) :=
  .when <| .bind .ask fun _ => .bind (.gets fun _ _ h => h.convertFee _ _ _) fun _ =>
    .bind (.unwrap _) fun _ => .whenSome fun _ => creditMerchantBalanceForToken _ _ _ _

/-! ### The interval charge -/

theorem settleInterval (id : Nat) (sub : Subscription) (charge : IntervalCharge)
    (key : Option BytesN32) (cfg : Option CachedAdminConfig) :
    Ignores S (settleInterval id sub charge key cfg) :=
  .bind .ask fun _ => .bind (.gets fun _ _ h => h.intervalFeeTerms _) fun _ =>
    .bind (.lift _) fun _ => .bind (creditChargePayees _ _ _ _) fun _ =>
    .bind (routeToSubAccount _ _) fun _ => .bind (creditProtocolFee _ _ _ _) fun _ =>
    .bind (.lift _) fun _ => .bind (delete _) fun _ => .bind (.lift _) fun _ =>
    .bind (writeSubscription _ _) fun _ => .bind (appendStatement _ _ _ _ _ _ _) fun _ =>
    .bind (writePeriodSnapshot _) fun _ => .bind (store _) fun _ => .bind (store _) fun _ =>
    recordIdemKey _ _ _

theorem chargeInterval (id : Nat) (sub : Subscription) (amount : Int) (key : Option BytesN32)
    (cfg : Option CachedAdminConfig) : Ignores S (chargeInterval id sub amount key cfg) := by
  refine .bind .ask fun env => .bind (.require _) fun _ => .bind (load rfl) fun _ =>
    .bind (.failIf _ _) fun _ => .bind (.gets fun _ _ h => h.isReplayedKey _ _ _ _) fun _ =>
    .ite (.pure _) ?_
  refine .bind (load rfl) fun _ => .bind (.failIf _ _) fun _ => .bind (.lift _) fun _ =>
    .bind (.failIf _ _) fun _ => .bind (.lift _) fun _ =>
    .ite (.bind (cancelCapped _ _) fun _ => .pure _) ?_
  split
  · exact .bind (settleInterval _ _ _ _ _) fun _ => .pure _
  · exact .bind (recordShortfall _ _ _) fun _ => .pure _

theorem chargeOne (id : Nat) (key : Option BytesN32) (cfg : Option CachedAdminConfig)
    (cache : MerchantCache) : Ignores S (chargeOne id key cfg cache) :=
  .bind requireNotEmergencyStop fun _ => .bind (getSubscription _) fun _ =>
    .bind (checkMerchantStatus _ _) fun _ => .bind (requireNotBlocklisted _) fun _ =>
    .bind (requireNotBlocklisted _) fun _ => .bind (checkSplitPayees _) fun _ =>
    .bind (failIfExpired _ _) fun _ => .bind .ask fun _ =>
    .bind (.gets fun _ _ h => h.intervalAmount _ _ _) fun _ => .bind (.lift _) fun _ =>
    .ite (.bind (.when (cancelCapped _ _)) fun _ => .pure _) <|
    .ite (.bind (fireScheduledCancellation _ _) fun _ => .pure _) <|
    .bind (requireChargeable _) fun _ => .bind (.lift _) fun _ =>
    .ite (.pure _) (chargeInterval _ _ _ _ _)

/-! ### Usage charges -/

theorem settleUsage (id : Nat) (sub : Subscription) (usageAmount pending balance : Int)
    (reference : Bytes) :
    Ignores S (settleUsage id sub usageAmount pending balance reference) :=
  .bind .ask fun _ => .bind (.gets fun _ _ h => h.routeFeeBps _) fun _ =>
    .bind (.gets fun _ _ h => h.treasury) fun _ => .bind (.lift _) fun _ =>
    .bind (creditChargePayees _ _ _ _) fun _ => .bind (routeToSubAccount _ _) fun _ =>
    .bind (creditProtocolFee _ _ _ _) fun _ => .bind (.lift _) fun _ =>
    .bind (writeSubscription _ _) fun _ => .bind (store _) fun _ => .bind (.require _) fun _ =>
    .bind (.failIf _ _) fun _ => .bind (.okOr _ _) fun _ => .bind (writePeriodSnapshot _) fun _ =>
    appendStatement _ _ _ _ _ _ _

theorem chargeUsageDue (id : Nat) (sub : Subscription) (usageAmount : Int) (reference : Bytes) :
    Ignores S (chargeUsageDue id sub usageAmount reference) := by
  refine .bind (.lift _) fun _ => .ite (.bind (cancelCapped _ _) fun _ => .pure _) ?_
  split
  · exact .bind (settleUsage _ _ _ _ _ _) fun _ => .pure _
  · exact .bind (.lift _) fun _ => .bind (writeSubscription _ _) fun _ => .pure _

theorem applyUsageLimits (id : Nat) (sub : Subscription) (units : Int) :
    Ignores S (applyUsageLimits id sub units) := by
  refine .bind .ask fun _ => .bind (load rfl) fun configured => ?_
  split
  · exact .pure _
  · refine .bind (.require _) fun _ => .bind (load rfl) fun _ => .ite (.pure _) (.ite (.pure _) ?_)
    exact .bind .ask fun _ => .bind (.when (store _)) fun _ =>
      .ite (.pure _) (.bind (store _) fun _ => .pure _)

theorem chargeUsageChecked (id : Nat) (sub : Subscription) (usageAmount : Int)
    (reference : Bytes) : Ignores S (chargeUsageChecked id sub usageAmount reference) := by
  refine .bind .ask fun _ =>
    .bind (.when (.bind (.when (cancelCapped _ _)) fun _ => .fail _)) fun _ =>
    .bind (.failIf _ _) fun _ => .bind (.failIf _ _) fun _ => .bind (.lift _) fun _ =>
    .bind (.failIf _ _) fun _ => .bind (.failIf _ _) fun _ => .bind (load rfl) fun _ =>
    .ite (.pure _) ?_
  refine .bind (.failIf _ _) fun _ => .bind (load rfl) fun _ => .ite (.pure _) ?_
  refine .bind (applyUsageLimits _ _ _) fun rejected => ?_
  split
  · exact .pure _
  · exact chargeUsageDue _ _ _ _

theorem chargeUsageOne (id : Nat) (usageAmount : Int) (reference : Bytes) :
    Ignores S (chargeUsageOne id usageAmount reference) :=
  .bind requireNotEmergencyStop fun _ => .bind (getSubscription _) fun _ =>
    .bind (checkMerchantStatus _ _) fun _ => .bind (requireNotBlocklisted _) fun _ =>
    .bind (requireNotBlocklisted _) fun _ => .bind (checkSplitPayees _) fun _ =>
    .bind (failIfExpired _ _) fun _ => chargeUsageChecked _ _ _ _

/-! ### One-off charges and buyouts -/

omit [Unread S] in
theorem requireAuth (a : Address) : Ignores S (requireAuth a) := .bind .ask fun _ => .require _

omit [Unread S] in
theorem checkOneOff (id : Nat) (sub : Subscription) (merchant : Address) (amount : Int) :
    Ignores S (checkOneOff id sub merchant amount) :=
  .bind (.failIf _ _) fun _ =>
    .bind (.when (.bind (.when (cancelCapped _ _)) fun _ => .fail _)) fun _ =>
    .bind (.failIf _ _) fun _ => .bind (.failIf _ _) fun _ => .bind (.failIf _ _) fun _ =>
    .bind (.lift _) fun _ => .bind (.when (.bind (cancelCapped _ _) fun _ => .fail _)) fun _ =>
    .pure _

theorem settleOneOff (id : Nat) (sub : Subscription) (charged amount : Int)
    (key : Option BytesN32) : Ignores S (settleOneOff id sub charged amount key) :=
  .bind .ask fun _ => .bind (.lift _) fun _ => .bind (.gets fun _ _ h => h.protocolFeeBps) fun _ =>
    .bind (.gets fun _ _ h => h.treasury) fun _ => .bind (.lift _) fun _ =>
    .bind (creditChargePayees _ _ _ _) fun _ => .bind (routeToSubAccount _ _) fun _ =>
    .bind (.when (.whenSome fun _ => creditMerchantBalanceForToken _ _ _ _)) fun _ =>
    .bind (.lift _) fun _ => .bind (appendStatement _ _ _ _ _ _ _) fun _ => recordIdemKey _ _ _

theorem doChargeOneOff (id : Nat) (merchant : Address) (amount : Int) (key : Option BytesN32) :
    Ignores S (doChargeOneOff id merchant amount key) :=
  .bind .ask fun _ => .bind (requireAuth _) fun _ => .bind (getSubscription _) fun _ =>
    .bind (requireNotBlocklisted _) fun _ => .bind (requireNotBlocklisted _) fun _ =>
    .bind (checkSplitPayees _) fun _ => .bind (failIfExpired _ _) fun _ =>
    .bind (.gets fun _ _ h => h.isReplayedKey _ _ _ _) fun _ =>
    .when (.bind (checkOneOff _ _ _ _) fun _ => settleOneOff _ _ _ _ _)

theorem doGraceBuyout (id : Nat) (subscriber : Address) (amount : Int) (key : Option BytesN32) :
    Ignores S (doGraceBuyout id subscriber amount key) :=
  .bind .ask fun _ => .bind (requireAuth _) fun _ => .bind (getSubscription _) fun _ =>
    .bind (.failIf _ _) fun _ => .bind (.gets fun _ _ h => h.buyoutPremiumBps) fun _ =>
    .bind (.lift _) fun _ => .bind (.lift _) fun _ => .bind (.failIf _ _) fun _ =>
    .bind (.lift _) fun _ => .bind (.lift _) fun _ => .bind (.lift _) fun _ =>
    .bind (writeSubscription _ _) fun _ => .bind (.lift _) fun _ =>
    .bind (creditMerchantBalanceForToken _ _ _ _) fun _ => .bind (.require _) fun _ =>
    .bind (store _) fun _ => .bind (appendStatement _ _ _ _ _ _ _) fun _ =>
    .bind (recordIdemKey _ _ _) fun _ => .pure _

/-! ### Deposits -/

theorem checkAndAdvance (signer : Address) (domain : NonceDomain) (expected : Nat) :
    Ignores S (checkAndAdvance signer domain expected) :=
  .bind_state (fun _ _ h => by rw [h.nonce]) fun _ => .bind (.lift _) fun _ => store _

theorem enforceMinTopup (amount : Int) : Ignores S (enforceMinTopup amount) :=
  .bind (.gets fun _ _ h => h.minTopup) fun _ => .bind (.lift _) fun _ =>
    .bind (.failIf _ _) fun _ => .failIf _ _

theorem enforceCreditLimitForDelta (subscriber token : Address) (additional : Int) :
    Ignores S (enforceCreditLimitForDelta subscriber token additional) :=
  .bind (.gets fun _ _ h => h.creditLimitForDelta _ _ _) fun _ => .lift _

theorem doDepositFunds (id : Nat) (amount : Int) (nonce : Option Nat) :
    Ignores S (doDepositFunds id amount nonce) :=
  .bind .ask fun _ => .bind (getSubscription _) fun _ => .bind (requireAuth _) fun _ =>
    .bind (requireNotBlocklisted _) fun _ => .bind (.whenSome fun _ => checkAndAdvance _ _ _)
      fun _ => .bind (.failIf _ _) fun _ => .bind (enforceMinTopup _) fun _ =>
    .bind (requireNotBlocklisted _) fun _ => .bind (checkMerchantStatus _ _) fun _ =>
    .bind (failIfExpired _ _) fun _ => .bind (enforceCreditLimitForDelta _ _ _) fun _ =>
    .bind (.failIf _ _) fun _ => .bind (.lift _) fun _ => .bind (delete _) fun _ =>
    .bind (writeSubscription _ _) fun _ => .bind (transfer _ _ _ _) fun _ => .pure _

theorem doDepositFundsOnBehalf (id : Nat) (payer : Address) (amount : Int)
    (nonce : Option Nat) : Ignores S (doDepositFundsOnBehalf id payer amount nonce) :=
  .bind .ask fun _ => .bind (requireAuth _) fun _ =>
    .bind (.whenSome fun _ => checkAndAdvance _ _ _) fun _ => .bind (getSubscription _) fun _ =>
    .bind (load rfl) fun _ => .bind (.okOr _ _) fun _ => .bind (.failIf _ _) fun _ =>
    .bind (.failIf _ _) fun _ => .bind (enforceMinTopup _) fun _ =>
    .bind (requireNotBlocklisted _) fun _ => .bind (requireNotBlocklisted _) fun _ =>
    .bind (.gets fun _ _ h => h.merchantPaused _) fun _ => .bind (.failIf _ _) fun _ =>
    .bind (failIfExpired _ _) fun _ => .bind (enforceCreditLimitForDelta _ _ _) fun _ =>
    .bind (.failIf _ _) fun _ => .bind (.lift _) fun _ => .bind (writeSubscription _ _) fun _ =>
    .bind (delete _) fun _ => .bind (transfer _ _ _ _) fun _ => .bind (.pure _) fun _ =>
    writeSubscription _ _

theorem bulkDepositOne (caller : Address) (id : Nat) (amount : Int) :
    Ignores S (bulkDepositOne caller id amount) :=
  .bind .ask fun _ => .bind (getSubscription _) fun _ => .bind (.failIf _ _) fun _ =>
    .bind (enforceMinTopup _) fun _ => .bind (checkMerchantStatus _ _) fun _ =>
    .bind (.failIf _ _) fun _ => .bind (enforceCreditLimitForDelta _ _ _) fun _ =>
    .bind (.failIf _ _) fun _ => .bind (.lift _) fun _ => .bind (delete _) fun _ =>
    .bind (writeSubscription _ _) fun _ => .bind (transfer _ _ _ _) fun _ => .pure _

/-! ### Payouts -/

theorem requireMerchantApproved (merchant : Address) :
    Ignores S (requireMerchantApproved merchant) :=
  .bind (.gets fun _ _ h => by
    rw [State.whitelistMode, State.whitelistMode, State.isMerchantApproved,
      State.isMerchantApproved, h.instanced .merchantWhitelistMode rfl,
      h.instanced (.merchantApproved merchant) rfl]) fun _ => .failIf _ _

theorem recordWithdrawal (merchant token : Address) (amount : Int) :
    Ignores S (recordWithdrawal merchant token amount) :=
  .bind (.gets fun _ _ h => h.tokenEarnings _ _) fun _ => .bind (.lift _) fun _ => store _

theorem withdrawSubAccountFunds (merchant : Address) (label : Symbol) (token : Address)
    (amount : Int) : Ignores S (withdrawSubAccountFunds merchant label token amount) :=
  .bind .ask fun _ => .bind (requireAuth _) fun _ => .bind (requireMerchantApproved _) fun _ =>
    .bind (.failIf _ _) fun _ => .bind (.bind (load rfl) fun _ => .failIf _ _) fun _ =>
    .bind (.gets fun _ _ h => h.subAccountBalance _ _) fun _ => .bind (.failIf _ _) fun _ =>
    .bind (.failIf _ _) fun _ => .bind (.gets fun _ _ h => h.balanceOf _ _) fun _ =>
    .bind (.failIf _ _) fun _ => .bind (.lift _) fun _ => .bind (store _) fun _ =>
    .bind (.gets fun _ _ h => h.subAccountFunds _ _ _) fun _ => .bind (store _) fun _ =>
    .bind (recordWithdrawal _ _ _) fun _ => .bind (.pure _) fun _ => transfer _ _ _ _

theorem requireMerchantBalance (merchant token : Address) (amount : Int) :
    Ignores S (requireMerchantBalance merchant token amount) :=
  .bind (.gets fun _ _ h => h.merchantBalance _ _) fun _ => .bind (.failIf _ _) fun _ =>
    .bind (.failIf _ _) fun _ => .pure _

theorem merchantRefund (merchant subscriber token : Address) (amount : Int) :
    Ignores S (merchantRefund merchant subscriber token amount) :=
  .bind .ask fun _ => .bind (requireAuth _) fun _ => .bind (requireMerchantApproved _) fun _ =>
    .bind (.failIf _ _) fun _ => .bind (.gets fun _ _ h => h.merchantConfig _) fun _ =>
    .bind (.failIf _ _) fun _ => .bind (requireMerchantBalance _ _ _) fun _ =>
    .bind (.bind (.lift _) fun _ => store _) fun _ => .bind (.pure _) fun _ =>
    .bind (.bind (.gets fun _ _ h => h.tokenEarnings _ _) fun _ => .bind (.lift _) fun _ =>
      store _) fun _ => transfer _ _ _ _

theorem doFlushPayouts (merchant : Address) : Ignores S (doFlushPayouts merchant) := by
  have hflush (minPayout : Int) (token : Address) :
      Ignores S (flushMerchantToken merchant minPayout token) :=
    .bind .ask fun _ => .bind (.gets fun _ _ h => h.merchantBalance _ _) fun _ => .when <|
      .bind (.gets fun _ _ h => h.merchantConfig _) fun _ => .bind (.okOr _ _) fun _ =>
      .bind (store _) fun _ => .bind (recordWithdrawal _ _ _) fun _ => .bind (.pure _) fun _ =>
      transfer _ _ _ _
  exact .bind .ask fun _ => .bind (requireMerchantApproved _) fun _ =>
    .bind (.gets fun _ _ h => by
      rw [State.payoutSchedule, State.payoutSchedule, h.instanced (.payoutSchedule merchant) rfl])
      fun _ => .when <| .bind (.failIf _ _) fun _ =>
    .bind (.gets fun _ _ h => h.merchantTokens _) fun _ => .bind (.forEach (hflush _) _) fun _ =>
    store _

end Ignores

end SubscriptionVault
