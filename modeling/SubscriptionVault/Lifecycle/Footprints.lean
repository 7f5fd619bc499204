import SubscriptionVault.Charging.Parts
import SubscriptionVault.Lifecycle.Book

/-!
# What each operation writes

The checks that only read, and for every other operation the areas it may write to, whichever
way it ends. Areas outside the book leave the book as it is.
-/

namespace SubscriptionVault

open Exec

/-- The areas the book is read from. -/
def bookAreas : List Area :=
  [.records, .periods, .salts, .numbering, .activeCounts, .merchantIndex, .tokenIndex,
    .subscriberIndex]

theorem areas_subset_unbooked {l : List Area} (h : l.all (!bookAreas.contains ·) = true) :
    areas l ⊆ unbooked := by
  intro k hk
  have hmem : k.area ∈ l := List.contains_iff_mem.mp hk
  have houtside : (!bookAreas.contains k.area) = true := List.all_eq_true.mp h k.area hmem
  show k.bookPart = none
  cases k with
  | persistent key => cases key <;> first | rfl | cases houtside
  | instanced key => cases key <;> first | rfl | cases houtside
  | symbol key => rfl
  | lock name => rfl
  | tokenBalance token holder => rfl
  | subAccountFunds merchant label token => rfl

theorem State.config_of_areas {s t : State} {l : List Area} {k : DataKey} {α : Type} [Holds DataKey.Val k α]
    (h : FiniteStore.AgreeOff (areas l) s t) (hversion : t.schemaVersion = s.schemaVersion)
    (hp : l.contains (Slot.persistent k).area = false)
    (hi : l.contains (Slot.instanced k).area = false) : t.config k = s.config k := by
  have hpersistent : t.read (.persistent k) = s.read (.persistent k) :=
    State.read_of_areas h hp
  have hinstanced : t.read (.instanced k) = s.read (.instanced k) :=
    State.read_of_areas h hi
  unfold State.config
  rw [hpersistent, hinstanced, hversion]

theorem Modifies.unbooked {α : Type} {l : List Area} {x : Vault α} (h : Modifies (areas l) x)
    (houtside : l.all (!bookAreas.contains ·) = true) : Modifies SubscriptionVault.unbooked x :=
  h.weaken (areas_subset_unbooked houtside)

/-! ## Checks -/

namespace Modifies

section Checks

variable {R : State → State → Prop} [Std.Refl R] [IsTrans State R]

theorem enforceCreditLimitForDelta (subscriber token : Address) (additional : Int) :
    (enforceCreditLimitForDelta subscriber token additional).Keeps R :=
  .bind (.gets _) fun _ => .lift _

theorem enforceMinTopup (amount : Int) : (enforceMinTopup amount).Keeps R :=
  .bind (.gets _) fun _ => .bind (.lift _) fun _ => .bind (.failIf _ _) fun _ => .failIf _ _

theorem enforceSubscriptionCounts (subscriber merchant : Address) :
    (enforceSubscriptionCounts subscriber merchant).Keeps R :=
  .bind (.gets _) fun _ => .bind (.gets _) fun _ => .bind (.failIf _ _) fun _ =>
    .bind (.gets _) fun _ => .bind (.gets _) fun _ => .failIf _ _

theorem enforcePlanConcurrencyLimit (subscriber : Address) (planId : Nat) :
    (enforcePlanConcurrencyLimit subscriber planId).Keeps R :=
  .bind load fun _ => .when <| .bind (.gets _) fun _ => .bind (.lift _) fun _ => .failIf _ _

theorem requireUsageLimits (id : Nat) (merchant : Address) :
    (requireUsageLimits id merchant).Keeps R :=
  .bind load fun _ => .failIf _ _

theorem validateExpiry (expiresAt expiresAtLedger : Option Nat) :
    (validateExpiry expiresAt expiresAtLedger).Keeps R :=
  .bind .ask fun _ => .bind (.failIf _ _) fun _ => .failIf _ _

theorem validateCap (cap : Option Int) (amount : Int) : (validateCap cap amount).Keeps R :=
  .bind (.failIf _ _) fun _ => .failIf _ _

theorem checkSplitEntries (entries : List (Address × Nat)) (total : Nat) :
    (checkSplitEntries entries total).Keeps R := by
  induction entries generalizing total with
  | nil => exact .pure _
  | cons entry rest ih =>
    exact .bind (.failIf _ _) fun _ => .bind (.okOr _ _) fun _ =>
      .bind (requireNotBlocklisted _) fun _ => ih _

theorem validateSplit (entries : List (Address × Nat)) : (validateSplit entries).Keeps R :=
  .bind (.failIf _ _) fun _ => .bind (checkSplitEntries _ _) fun _ => .failIf _ _

theorem checkPlanMigration (sub : Subscription) (current new : PlanTemplate) :
    (checkPlanMigration sub current new).Keeps R :=
  .bind (.failIf _ _) fun _ => .bind (.failIf _ _) fun _ => .bind (.failIf _ _) fun _ =>
    .bind (.failIf _ _) fun _ => .failIf _ _

theorem requireReleasedEscrow (id : Nat) (escrow : CancellationEscrow) :
    (requireReleasedEscrow id escrow).Keeps R :=
  .bind .ask fun _ => .bind (.failIf _ _) fun _ => .bind load fun _ => .failIf _ _

theorem requirePlace («to» : Address) : (requirePlace «to»).Keeps R :=
  .bind (.gets _) fun _ => .bind (.gets _) fun _ => .failIf _ _

end Checks

end Modifies

section Checks

variable {R : State → State → Prop} [Std.Refl R] [IsTrans State R]

theorem requireMerchantApproved_keeps (merchant : Address) :
    (requireMerchantApproved merchant).Keeps R :=
  .bind (.gets _) fun _ => .failIf _ _

theorem requireMerchantSigners_keeps (merchant : Address) :
    (requireMerchantSigners merchant).Keeps R :=
  .bind (.gets _) fun _ => .whenSome fun _ => .forEach (fun _ => Modifies.requireAuth _) _

theorem requireMerchantBalance_keeps (merchant token : Address) (amount : Int) :
    (requireMerchantBalance merchant token amount).Keeps R :=
  .bind (.gets _) fun _ => .bind (.failIf _ _) fun _ => .bind (.failIf _ _) fun _ => .pure _

theorem requireOwnUsageSubscription_keeps (id : Nat) (merchant : Address) :
    (requireOwnUsageSubscription id merchant).Keeps R :=
  .bind .ask fun _ => .bind (.gets _) fun _ => .bind (.gets _) fun _ => .bind (.failIf _ _) fun _ =>
    .bind (.failIf _ _) fun _ => .failIf _ _

omit [IsTrans State R] in
theorem requireParty_keeps (authorizer : Address) (sub : Subscription) :
    (requireParty authorizer sub).Keeps R := .failIf _ _

end Checks

theorem bulkPrecheck_areas (caller : Address) (ids : List Nat) (nonce : Nat) :
    Modifies (areas [.nonces]) (bulkPrecheck caller ids nonce) :=
  .bind (Modifies.requireAdminOrOperatorAuth _) fun _ => .bind (.failIf _ _) fun _ =>
    .ite (.pure _) (.bind (Modifies.checkAndAdvance rfl) fun _ => .pure _)

/-! ## Merchants, plans and disputes -/

theorem debitMerchantBalance_areas (merchant token : Address) (current amount : Int) :
    Modifies (areas [.balances]) (debitMerchantBalance merchant token current amount) :=
  .bind (.lift _) fun _ => Modifies.store rfl

theorem recordWithdrawal_areas (merchant token : Address) (amount : Int) :
    Modifies (areas [.earnings]) (recordWithdrawal merchant token amount) :=
  .bind (.gets _) fun _ => .bind (.lift _) fun _ => Modifies.store rfl

theorem recordRefund_areas (merchant token : Address) (amount : Int) :
    Modifies (areas [.earnings]) (recordRefund merchant token amount) :=
  .bind (.gets _) fun _ => .bind (.lift _) fun _ => Modifies.store rfl

theorem withdrawMerchantFundsForToken_areas (merchant token : Address) (amount : Int) :
    Modifies (areas [.balances, .earnings, .tokens]) (withdrawMerchantFundsForToken merchant token amount) :=
  .bind .ask fun _ => .bind (Modifies.requireAuth _) fun _ =>
    .bind (requireMerchantApproved_keeps _) fun _ =>
    .bind (requireMerchantSigners_keeps _) fun _ =>
    .bind (Modifies.requireNotBlocklisted _) fun _ => .bind (.failIf _ _) fun _ =>
    .bind (.gets _) fun _ => .bind (.failIf _ _) fun _ => .bind (.gets _) fun _ =>
    .bind (.failIf _ _) fun _ => .bind (requireMerchantBalance_keeps _ _ _) fun _ =>
    .bind (Modifies.tokenBalance _ _) fun _ => .bind (.failIf _ _) fun _ =>
    .bind ((debitMerchantBalance_areas _ _ _ _).widen rfl) fun _ =>
    .bind ((recordRefund_areas _ _ _).widen rfl) fun _ => .bind (.pure ()) fun _ =>
    .bind ((recordWithdrawal_areas _ _ _).widen rfl) fun _ => Modifies.transfer rfl rfl

theorem withdrawMerchantFundsReported_areas (merchant : Address) (amount : Int) :
    Modifies (areas [.balances, .earnings, .tokens]) (withdrawMerchantFundsReported merchant amount) :=
  .bind (.bind (.gets _) fun _ => .bind (.lift _) fun _ =>
    withdrawMerchantFundsForToken_areas _ _ _) fun _ =>
    .bind (.gets _) fun _ => .bind (.lift _) fun _ => .pure ()

theorem merchantRefund_areas (merchant subscriber token : Address) (amount : Int) :
    Modifies (areas [.balances, .earnings, .tokens]) (merchantRefund merchant subscriber token amount) :=
  .bind .ask fun _ => .bind (Modifies.requireAuth _) fun _ =>
    .bind (requireMerchantApproved_keeps _) fun _ => .bind (.failIf _ _) fun _ =>
    .bind (.gets _) fun _ => .bind (.failIf _ _) fun _ =>
    .bind (requireMerchantBalance_keeps _ _ _) fun _ =>
    .bind ((debitMerchantBalance_areas _ _ _ _).widen rfl) fun _ => .bind (.pure ()) fun _ =>
    .bind ((recordRefund_areas _ _ _).widen rfl) fun _ => Modifies.transfer rfl rfl

theorem flushMerchantToken_areas (merchant : Address) (minPayout : Int) (token : Address) :
    Modifies (areas [.balances, .earnings, .tokens]) (flushMerchantToken merchant minPayout token) :=
  .bind .ask fun _ => .bind (.gets _) fun _ => .when <| .bind (.gets _) fun _ =>
    .bind (.okOr _ _) fun _ => .bind (Modifies.store rfl) fun _ =>
    .bind ((recordWithdrawal_areas _ _ _).widen rfl) fun _ => .bind (.pure ()) fun _ =>
    Modifies.transfer rfl rfl

theorem doFlushPayouts_areas (merchant : Address) :
    Modifies (areas [.balances, .earnings, .tokens, .schedules]) (doFlushPayouts merchant) :=
  .bind .ask fun _ => .bind (requireMerchantApproved_keeps _) fun _ => .bind (.gets _) fun _ =>
    .when <| .bind (.failIf _ _) fun _ => .bind (.gets _) fun _ =>
    .bind (.forEach (fun _ => (flushMerchantToken_areas _ _ _).widen rfl) _) fun _ => Modifies.store rfl

theorem registerSubAccount_areas (merchant : Address) (label : Symbol) :
    Modifies (areas [.subAccounts, .subAccountLabels]) (registerSubAccount merchant label) :=
  .bind (Modifies.requireAuth _) fun _ => .bind (.gets _) fun _ => .bind (.failIf _ _) fun _ =>
    .bind (.gets _) fun _ => .bind (.failIf _ _) fun _ =>
    .bind (Modifies.store (S := areas [.subAccounts, .subAccountLabels]) rfl) fun _ => Modifies.store rfl

theorem withdrawSubAccountFunds_areas (merchant : Address) (label : Symbol)
    (token : Address) (amount : Int) :
    Modifies (areas [.subAccounts, .earnings, .tokens]) (withdrawSubAccountFunds merchant label token amount) :=
  .bind .ask fun _ => .bind (Modifies.requireAuth _) fun _ =>
    .bind (requireMerchantApproved_keeps _) fun _ => .bind (.failIf _ _) fun _ =>
    .bind (.bind Modifies.load fun _ => .failIf _ _) fun _ => .bind (.gets _) fun _ =>
    .bind (.failIf _ _) fun _ => .bind (.failIf _ _) fun _ =>
    .bind (Modifies.tokenBalance _ _) fun _ => .bind (.failIf _ _) fun _ =>
    .bind (.lift _) fun _ => .bind (Modifies.store rfl) fun _ => .bind (.gets _) fun _ =>
    .bind (Modifies.store rfl) fun _ => .bind ((recordWithdrawal_areas _ _ _).widen rfl) fun _ =>
    .bind (.pure ()) fun _ => Modifies.transfer rfl rfl

theorem nextPlanId_areas : Modifies (areas [.plans]) nextPlanId :=
  .bind Modifies.load fun _ => .bind (Modifies.store rfl) fun _ => .pure _

theorem doCreatePlanTemplate_areas (merchant : Address) (amount : Int) (intervalSeconds : Nat)
    (usageEnabled : Bool) (lifetimeCap : Option Int) :
    Modifies (areas [.plans]) (doCreatePlanTemplate merchant amount intervalSeconds usageEnabled
      lifetimeCap) :=
  .bind (Modifies.requireAuth _) fun _ => .bind (.failIf _ _) fun _ => .bind (.failIf _ _) fun _ =>
    .bind (.failIf _ _) fun _ => .bind (.gets _) fun _ => .bind (.lift _) fun _ =>
    .bind nextPlanId_areas fun _ => .bind (Modifies.store rfl) fun _ => .pure _

theorem doRegisterPlan_areas (merchant : Address) (amount : Int)
    (intervalSeconds trialSeconds : Nat) (usageEnabled : Bool) (lifetimeCap : Option Int) :
    Modifies (areas [.plans]) (doRegisterPlan merchant amount intervalSeconds trialSeconds
      usageEnabled lifetimeCap) :=
  .bind (Modifies.requireAuth _) fun _ => .bind (.failIf _ _) fun _ => .bind (.failIf _ _) fun _ =>
    .bind (.failIf _ _) fun _ => .bind (.gets _) fun _ => .bind (.lift _) fun _ =>
    .bind nextPlanId_areas fun _ => .bind (Modifies.store rfl) fun _ => .pure _

theorem doDeprecatePlan_areas (merchant : Address) (planId : Nat) :
    Modifies (areas [.plans]) (doDeprecatePlan merchant planId) :=
  .bind (Modifies.requireAuth _) fun _ => .bind (.gets _) fun _ => .bind (.okOr _ _) fun _ =>
    .bind (.failIf _ _) fun _ => .when (Modifies.store rfl)

theorem doUpdatePlanTemplate_areas (merchant : Address) (planId : Nat) (amount : Int)
    (intervalSeconds : Nat) (usageEnabled : Bool) (lifetimeCap : Option Int) :
    Modifies (areas [.plans]) (doUpdatePlanTemplate merchant planId amount intervalSeconds usageEnabled
      lifetimeCap) :=
  .bind (Modifies.requireAuth _) fun _ => .bind (.failIf _ _) fun _ => .bind (.failIf _ _) fun _ =>
    .bind (.failIf _ _) fun _ => .bind (.gets _) fun _ => .bind (.okOr _ _) fun _ =>
    .bind (.failIf _ _) fun _ => .bind (.failIf _ _) fun _ => .bind nextPlanId_areas fun _ =>
    .bind (.okOr _ _) fun _ => .bind (Modifies.store rfl) fun _ => .pure _

theorem doSetPlanMaxActiveSubs_areas (merchant : Address) (planId maxActive : Nat) :
    Modifies (areas [.plans]) (doSetPlanMaxActiveSubs merchant planId maxActive) :=
  .bind (Modifies.requireAuth _) fun _ => .bind (.gets _) fun _ => .bind (.okOr _ _) fun _ =>
    .bind (.failIf _ _) fun _ => Modifies.store rfl

theorem doSetSubscriberCreditLimit_areas (admin subscriber token : Address) (limit : Int) :
    Modifies (areas [.settings]) (doSetSubscriberCreditLimit admin subscriber token limit) :=
  .bind (Modifies.requireAdminAuth _) fun _ => .bind (.failIf _ _) fun _ => Modifies.store rfl

theorem updateSplitPayees_areas (subscriber : Address) (id : Nat)
    (entries : Option (List (Address × Nat))) :
    Modifies (areas [.splits]) (updateSplitPayees subscriber id entries) := by
  refine .bind (Modifies.requireAuth _) fun _ =>
    .bind Modifies.requireNotEmergencyStop fun _ => .bind (Modifies.getSubscription _) fun _ =>
    .bind (.failIf _ _) fun _ => .bind (.failIf _ _) fun _ => ?_
  cases entries with
  | none => exact Modifies.delete rfl
  | some entries =>
    exact .bind (Modifies.validateSplit _) fun _ => .bind (.lift _) fun _ => Modifies.store rfl

theorem doConfigureUsageLimits_areas (id : Nat) (limits : UsageLimits) :
    Modifies (areas [.usage]) (doConfigureUsageLimits id limits) :=
  .bind (Modifies.requireAuth _) fun _ =>
    .bind (requireOwnUsageSubscription_keeps _ _) fun _ => .bind (.failIf _ _) fun _ =>
    Modifies.store rfl

theorem doVetoTransfer_areas (id : Nat) (merchant : Address) :
    Modifies (areas [.transfers]) (doVetoTransfer id merchant) :=
  .bind (Modifies.requireAuth _) fun _ => .bind (Modifies.getSubscription _) fun _ =>
    .bind (.failIf _ _) fun _ => .bind Modifies.load fun _ => .bind (.failIf _ _) fun _ =>
    Modifies.delete rfl

theorem doRequestEmergencyWithdraw_areas (id : Nat) (subscriber : Address) :
    Modifies (areas [.withdrawIntents]) (doRequestEmergencyWithdraw id subscriber) :=
  .bind .ask fun _ => .bind (Modifies.requireAuth _) fun _ =>
    .bind (Modifies.getSubscription _) fun _ => .bind (.failIf _ _) fun _ =>
    .bind (.failIf _ _) fun _ => .bind (.failIf _ _) fun _ => .bind Modifies.load fun _ =>
    .bind (.failIf _ _) fun _ => Modifies.store rfl

theorem payEscrow_areas (id : Nat) (escrow : CancellationEscrow) :
    Modifies (areas [.escrows, .tokens]) (payEscrow id escrow) :=
  .bind .ask fun _ => .bind (Modifies.delete rfl) fun _ =>
    .bind (Modifies.transfer rfl rfl) fun _ => .pure ()

theorem doClaimCancellationEscrow_areas (subscriber : Address) (id : Nat) :
    Modifies (areas [.escrows, .tokens]) (doClaimCancellationEscrow subscriber id) :=
  .bind (Modifies.requireAuth _) fun _ => .bind (.gets _) fun _ => .bind (.okOr _ _) fun _ =>
    .bind (.failIf _ _) fun _ => .bind (Modifies.requireReleasedEscrow _ _) fun _ =>
    payEscrow_areas _ _

theorem recordDispute_areas (id : Nat) (subscriber merchant : Address) (amount : Int)
    (evidenceHash : Option BytesN32) :
    Modifies (areas [.disputes]) (recordDispute id subscriber merchant amount evidenceHash) :=
  .bind .ask fun _ => .bind (.bind (.gets _) fun _ => .bind (Modifies.store rfl) fun _ =>
    .pure _) fun _ => .bind (Modifies.store rfl) fun _ => .bind (Modifies.store rfl) fun _ =>
    Modifies.store rfl

theorem doOpenDispute_areas (subscriber : Address) (id : Nat) (amount : Int)
    (evidenceHash : Option BytesN32) :
    Modifies (areas [.balances, .disputes]) (doOpenDispute subscriber id amount evidenceHash) :=
  .bind (Modifies.requireAuth _) fun _ => .bind (.failIf _ _) fun _ =>
    .bind (Modifies.getSubscription _) fun _ => .bind (.failIf _ _) fun _ =>
    .bind Modifies.load fun _ => .bind (.failIf _ _) fun _ => .bind (.gets _) fun _ =>
    .bind (.failIf _ _) fun _ => .bind (.lift _) fun _ => .bind (Modifies.store rfl) fun _ =>
    (recordDispute_areas _ _ _ _ _).widen rfl

theorem doRespondDispute_areas (admin : Address) (disputeId : Nat)
    (evidenceHash : Option BytesN32) :
    Modifies (areas [.disputes]) (doRespondDispute admin disputeId evidenceHash) :=
  .bind .ask fun _ => .bind (Modifies.requireAdminAuth _) fun _ => .bind (.gets _) fun _ =>
    .bind (.okOr _ _) fun _ => .bind (.failIf _ _) fun _ => .bind (Modifies.store rfl) fun _ =>
    .bind (Modifies.getSubscription _) fun _ => .pure ()

theorem payOutDispute_areas (dispute : Dispute) (token : Address) (remaining : Int)
    (resolution : DisputeStatus) :
    Modifies (areas [.balances, .tokens]) (payOutDispute dispute token remaining resolution) :=
  .ite (.bind (.gets _) fun _ => .bind (.lift _) fun _ => Modifies.store rfl) <|
    .bind .ask fun _ => .bind (.pure ()) fun _ => Modifies.transfer rfl rfl

theorem doResolveDispute_areas (admin : Address) (disputeId : Nat) (toSubscriber : Bool) :
    Modifies (areas [.disputes, .balances, .tokens]) (doResolveDispute admin disputeId toSubscriber) :=
  .bind .ask fun _ => .bind (Modifies.requireAdminAuth _) fun _ => .bind (.gets _) fun _ =>
    .bind (.okOr _ _) fun _ => .bind (.failIf _ _) fun _ => .bind (.gets _) fun _ =>
    .bind (.failIf _ _) fun _ => .bind (.gets _) fun _ => .bind (.okOr _ _) fun _ =>
    .bind (.lift _) fun _ => .bind (.failIf _ _) fun _ =>
    .bind (Modifies.getSubscription _) fun _ => .bind (Modifies.delete rfl) fun _ =>
    .bind ((payOutDispute_areas _ _ _ _).widen rfl) fun _ => .bind (Modifies.store rfl) fun _ =>
    Modifies.delete rfl

theorem doLodgeEscrowDispute_areas (merchant : Address) (id : Nat) :
    Modifies (areas [.escrows, .disputes]) (doLodgeEscrowDispute merchant id) :=
  .bind .ask fun _ => .bind (Modifies.requireAuth _) fun _ => .bind (.gets _) fun _ =>
    .bind (.okOr _ _) fun _ => .bind (.failIf _ _) fun _ => .bind (.failIf _ _) fun _ =>
    .bind Modifies.load fun _ => .bind (.failIf _ _) fun _ => .bind (Modifies.delete rfl) fun _ =>
    (recordDispute_areas _ _ _ _ _).widen rfl

theorem doGrantDelegatedPayer_areas (subscriber payer : Address) (expiresAt : Nat)
    (maxAmount : Int) :
    Modifies (areas [.grants]) (doGrantDelegatedPayer subscriber payer expiresAt maxAmount) :=
  .bind .ask fun _ => .bind (Modifies.requireAuth _) fun _ => .bind (.failIf _ _) fun _ =>
    .bind (.failIf _ _) fun _ => .bind (.failIf _ _) fun _ => Modifies.store rfl

theorem doRevokeDelegatedPayer_areas (subscriber payer : Address) :
    Modifies (areas [.grants]) (doRevokeDelegatedPayer subscriber payer) :=
  .bind (Modifies.requireAuth _) fun _ => .bind Modifies.load fun _ =>
    .bind (.failIf _ _) fun _ => Modifies.delete rfl

theorem doAddToBlocklist_areas (authorizer subscriber : Address) (reason : Bytes) :
    Modifies (areas [.blocklist]) (doAddToBlocklist authorizer subscriber reason) :=
  .bind (Modifies.requireAdminAuth _) fun _ => .bind (Modifies.requireNotBlocklisted _) fun _ =>
    Modifies.store rfl

/-! ## Subscriptions -/

def indexAreas : List Area := [.merchantIndex, .tokenIndex, .subscriberIndex]

theorem setSubscriberActiveCount_areas (subscriber : Address) (count : Nat) :
    Modifies (areas [.activeCounts]) (setSubscriberActiveCount subscriber count) :=
  Modifies.store rfl

theorem incrementSubscriberActiveCount_areas (subscriber : Address) :
    Modifies (areas [.activeCounts]) (incrementSubscriberActiveCount subscriber) :=
  .bind (.gets _) fun _ => setSubscriberActiveCount_areas _ _

theorem decrementSubscriberActiveCount_areas (subscriber : Address) :
    Modifies (areas [.activeCounts]) (decrementSubscriberActiveCount subscriber) :=
  .bind (.gets _) fun _ => setSubscriberActiveCount_areas _ _

theorem pushIndex_areas {l : List Area} {key : DataKey} [Holds DataKey.Val key (List Nat)]
    (hkey : l.contains key.area = true) (id : Nat) : Modifies (areas l) (pushIndex key id) :=
  .bind Modifies.load fun _ => Modifies.store hkey

theorem dropIndex_areas {l : List Area} {key : DataKey} [Holds DataKey.Val key (List Nat)]
    (hkey : l.contains key.area = true) (id : Nat) : Modifies (areas l) (dropIndex key id) :=
  .bind Modifies.load fun _ => .whenSome fun _ => .when (Modifies.store hkey)

theorem indexSubscription_areas (id : Nat) (sub : Subscription) :
    Modifies (areas indexAreas) (indexSubscription id sub) :=
  .bind (pushIndex_areas rfl _) fun _ => .bind (pushIndex_areas rfl _) fun _ =>
    pushIndex_areas rfl _

theorem unindexSubscription_areas (id : Nat) (sub : Subscription) :
    Modifies (areas indexAreas) (unindexSubscription id sub) :=
  .bind (dropIndex_areas rfl _) fun _ => .bind (dropIndex_areas rfl _) fun _ =>
    dropIndex_areas rfl _

theorem enforceCreationRateLimit_areas (subscriber : Address) :
    Modifies (areas [.createWindows]) (enforceCreationRateLimit subscriber) :=
  .bind .ask fun _ => .bind (.gets _) fun _ => .when <| .bind Modifies.load fun _ =>
    .bind (.failIf _ _) fun _ => .bind Modifies.load fun _ => .bind (.failIf _ _) fun _ =>
    Modifies.store rfl

/-- Everything a creation writes. -/
def creationAreas : List Area :=
  [.createWindows, .numbering, .records, .activeCounts, .planLinks, .splits, .credentials] ++
    indexAreas

/-- What a creation writes besides the link to a plan and the split. -/
def recordAreas : List Area :=
  [.createWindows, .numbering, .records, .activeCounts, .credentials] ++ indexAreas

theorem issueCredential_areas (id : Nat) : Modifies (areas [.credentials]) (issueCredential id) :=
  .bind .ask fun _ => Modifies.store rfl

theorem revokeCredential_areas (id : Nat) :
    Modifies (areas [.credentials]) (revokeCredential id) :=
  .bind Modifies.load fun _ => .whenSome fun _ => .when (Modifies.store rfl)

theorem doCreateSubscriptionWithToken_areas (new : NewSubscription) :
    Modifies (areas recordAreas) (doCreateSubscriptionWithToken new) :=
  .bind .ask fun _ => .bind (Modifies.requireAuth _) fun _ => .bind (.failIf _ _) fun _ =>
    .bind (Modifies.requireNotBlocklisted _) fun _ =>
    .bind (Modifies.requireNotBlocklisted _) fun _ =>
    .bind ((enforceCreationRateLimit_areas _).widen rfl) fun _ =>
    .bind (Modifies.enforceSubscriptionCounts _ _) fun _ => .bind (.failIf _ _) fun _ =>
    .bind (Modifies.validateExpiry _ _) fun _ => .bind (.gets _) fun _ =>
    .bind (.failIf _ _) fun _ => .bind (.gets _) fun _ => .bind (Modifies.validateCap _ _) fun _ =>
    .bind (Modifies.enforceCreditLimitForDelta _ _ _) fun _ => .bind (.gets _) fun _ =>
    .bind (.when (Modifies.requireUsageLimits _ _)) fun _ => .bind (.failIf _ _) fun _ =>
    .bind (Modifies.writeConfig rfl rfl) fun _ =>
    .bind ((writeSubscription_areas _ _).widen rfl) fun _ =>
    .bind ((incrementSubscriberActiveCount_areas _).widen rfl) fun _ =>
    .bind ((indexSubscription_areas _ _).widen rfl) fun _ =>
    .bind ((issueCredential_areas _).widen rfl) fun _ => .pure _

theorem doCreateSubscription_areas (new : NewSubscription) :
    Modifies (areas recordAreas) (doCreateSubscription new) :=
  .bind (.failIf _ _) fun _ => .bind (.gets _) fun _ => .bind (.lift _) fun _ =>
    .bind (Modifies.enforceCreditLimitForDelta _ _ _) fun _ =>
    doCreateSubscriptionWithToken_areas _

theorem createSubscriptionWithSplit_areas (new : NewSubscription)
    (entries : List (Address × Nat)) :
    Modifies (areas (.splits :: recordAreas)) (createSubscriptionWithSplit new entries) :=
  .bind (Modifies.validateSplit _) fun _ => .bind ((doCreateSubscription_areas _).widen rfl) fun _ =>
    .bind (.lift _) fun _ => .bind (Modifies.store rfl) fun _ => .pure _

theorem doCreateSubscriptionFromPlan_areas (subscriber : Address) (planId : Nat)
    (label : Option Symbol) :
    Modifies (areas (.planLinks :: recordAreas))
      (doCreateSubscriptionFromPlan subscriber planId label) :=
  .bind .ask fun _ => .bind (Modifies.requireAuth _) fun _ =>
    .bind (Modifies.requireNotBlocklisted _) fun _ =>
    .bind ((enforceCreationRateLimit_areas _).widen rfl) fun _ => .bind (.gets _) fun _ =>
    .bind (.okOr _ _) fun _ => .bind (.failIf _ _) fun _ => .bind (.failIf _ _) fun _ =>
    .bind (Modifies.enforceSubscriptionCounts _ _) fun _ =>
    .bind (Modifies.enforceCreditLimitForDelta _ _ _) fun _ =>
    .bind (Modifies.enforcePlanConcurrencyLimit _ _) fun _ => .bind (.gets _) fun _ =>
    .bind (.okOr _ _) fun _ => .bind (Modifies.writeConfig rfl rfl) fun _ =>
    .bind (.gets _) fun _ => .bind ((writeSubscription_areas _ _).widen rfl) fun _ =>
    .bind ((incrementSubscriberActiveCount_areas _).widen rfl) fun _ =>
    .bind (Modifies.store rfl) fun _ =>
    .bind ((indexSubscription_areas _ _).widen rfl) fun _ => .pure _

/-- Everything a deposit writes, besides the grant it uses. -/
def depositAreas : List Area := [.nonces, .records, .failures, .tokens]

theorem doDepositFunds_areas (id : Nat) (amount : Int) (nonce : Option Nat) :
    Modifies (areas depositAreas) (doDepositFunds id amount nonce) :=
  .bind .ask fun _ => .bind (Modifies.getSubscription _) fun _ =>
    .bind (Modifies.requireAuth _) fun _ => .bind (Modifies.requireNotBlocklisted _) fun _ =>
    .bind (.whenSome fun _ => Modifies.checkAndAdvance rfl) fun _ => .bind (.failIf _ _) fun _ =>
    .bind (Modifies.enforceMinTopup _) fun _ => .bind (Modifies.requireNotBlocklisted _) fun _ =>
    .bind (Modifies.checkMerchantStatus _ _) fun _ =>
    .bind ((failIfExpired_areas _ _).widen rfl) fun _ =>
    .bind (Modifies.enforceCreditLimitForDelta _ _ _) fun _ => .bind (.failIf _ _) fun _ =>
    .bind (.lift _) fun _ => .bind (Modifies.delete rfl) fun _ =>
    .bind ((writeSubscription_areas _ _).widen rfl) fun _ =>
    .bind (Modifies.transfer rfl rfl) fun _ => .pure ()

theorem doDepositFundsOnBehalf_areas (id : Nat) (payer : Address) (amount : Int)
    (nonce : Option Nat) :
    Modifies (areas [.grants, .nonces, .records, .tokens])
      (doDepositFundsOnBehalf id payer amount nonce) :=
  .bind .ask fun _ => .bind (Modifies.requireAuth _) fun _ =>
    .bind (.whenSome fun _ => Modifies.checkAndAdvance rfl) fun _ =>
    .bind (Modifies.getSubscription _) fun _ => .bind Modifies.load fun _ =>
    .bind (.okOr _ _) fun _ => .bind (.failIf _ _) fun _ => .bind (.failIf _ _) fun _ =>
    .bind (Modifies.enforceMinTopup _) fun _ => .bind (Modifies.requireNotBlocklisted _) fun _ =>
    .bind (Modifies.requireNotBlocklisted _) fun _ => .bind (.gets _) fun _ =>
    .bind (.failIf _ _) fun _ => .bind ((failIfExpired_areas _ _).widen rfl) fun _ =>
    .bind (Modifies.enforceCreditLimitForDelta _ _ _) fun _ => .bind (.failIf _ _) fun _ =>
    .bind (.lift _) fun _ => .bind ((writeSubscription_areas _ _).widen rfl) fun _ =>
    .bind (Modifies.delete rfl) fun _ => .bind (Modifies.transfer rfl rfl) fun _ =>
    .bind (.pure ()) fun _ => (writeSubscription_areas _ _).widen rfl

theorem bulkDepositOne_areas (caller : Address) (id : Nat) (amount : Int) :
    Modifies (areas depositAreas) (bulkDepositOne caller id amount) :=
  .bind .ask fun _ => .bind (Modifies.getSubscription _) fun _ => .bind (.failIf _ _) fun _ =>
    .bind (Modifies.enforceMinTopup _) fun _ => .bind (Modifies.checkMerchantStatus _ _) fun _ =>
    .bind (.failIf _ _) fun _ => .bind (Modifies.enforceCreditLimitForDelta _ _ _) fun _ =>
    .bind (.failIf _ _) fun _ => .bind (.lift _) fun _ => .bind (Modifies.delete rfl) fun _ =>
    .bind ((writeSubscription_areas _ _).widen rfl) fun _ =>
    .bind (Modifies.transfer rfl rfl) fun _ => .pure ()

/-- Of a payment a buyout makes only a credit, whatever the subscription looks like. -/
structure CreditEnds (Q : State → State → Prop) (E : Error → State → State → Prop) : Prop where
  quiet : ∀ s t, FiniteStore.AgreeOff (areas intervalAreas) s t → Q s t
  credit : ∀ merchant token amount kind,
    (creditMerchantBalanceForToken merchant token amount kind).Ends Q E

theorem PaymentEnds.credits {Q : State → State → Prop} {E : Error → State → State → Prop}
    {id : Nat} {sub : Subscription} (h : PaymentEnds Q E id sub) : CreditEnds Q E where
  quiet := h.quiet
  credit := h.credit

theorem doGraceBuyout_ends {Q : State → State → Prop} {E : Error → State → State → Prop}
    [EndRelation Q E] {id : Nat} (h : Subscription → CreditEnds Q E) (subscriber : Address)
    (amount : Int) (key : Option BytesN32) : (doGraceBuyout id subscriber amount key).Ends Q E := by
  have hquiet (sub : Subscription) {α : Type} {l : List Area} {x : Vault α}
      (hx : Modifies (areas l) x) (hl : l.all intervalAreas.contains = true) : x.Ends Q E :=
    .of_keeps (hx.widen hl) (h sub).quiet
  exact .bind .ask fun _ => .bind (.check (Modifies.requireAuth _)) fun _ =>
    .bind (.check (Modifies.getSubscription _)) fun sub => .bind (.failIf _ _) fun _ =>
    .bind (.gets _) fun _ => .bind (.lift _) fun _ => .bind (.lift _) fun _ =>
    .bind (.failIf _ _) fun _ => .bind (.lift _) fun _ => .bind (.lift _) fun _ =>
    .bind (.lift _) fun _ => .bind (hquiet sub (writeSubscription_areas _ _) rfl) fun _ =>
    .bind (.lift _) fun _ => .bind ((h sub).credit _ _ _ _) fun _ => .bind (.require _) fun _ =>
    .bind (hquiet sub (Modifies.store (S := areas [.periods]) rfl) rfl) fun _ =>
    .bind (hquiet sub (appendStatement_areas _ _ _ _ _ _ _) rfl) fun _ =>
    .bind (hquiet sub (recordIdemKey_areas _ _ _) rfl) fun _ => .pure _

theorem doGraceBuyout_keeps {R : State → State → Prop} [Std.Refl R] [IsTrans State R] {id : Nat}
    (h : ∀ sub, PaymentKeeps R id sub) (subscriber : Address) (amount : Int)
    (key : Option BytesN32) : (doGraceBuyout id subscriber amount key).Keeps R :=
  Ends.keeps (doGraceBuyout_ends (fun sub => (h sub).ends.credits) _ _ _)

/-- Everything a cancellation writes. -/
def cancellationAreas : List Area :=
  [.records, .activeCounts, .tokens, .credentials] ++ indexAreas

theorem applyCancellation_areas (id : Nat) (sub : Subscription) :
    Modifies (areas cancellationAreas) (applyCancellation id sub) :=
  .bind (.lift _) fun _ =>
    .bind (.when ((decrementSubscriberActiveCount_areas _).widen rfl)) fun _ =>
    .bind ((writeSubscription_areas _ _).widen rfl) fun _ =>
    .bind (.when (.bind .ask fun _ => .bind (.pure ()) fun _ =>
      Modifies.transfer rfl rfl)) fun _ =>
    .bind ((unindexSubscription_areas _ _).widen rfl) fun _ => (revokeCredential_areas _).widen rfl

theorem doCancelSubscription_areas (id : Nat) (authorizer : Address) :
    Modifies (areas cancellationAreas) (doCancelSubscription id authorizer) :=
  .bind (Modifies.requireAuth _) fun _ => .bind (Modifies.getSubscription _) fun _ =>
    .bind ((failIfExpired_areas _ _).widen rfl) fun _ => .bind (.failIf _ _) fun _ =>
    .bind (.when (Modifies.requireNotBlocklisted _)) fun _ => .bind (.failIf _ _) fun _ =>
    applyCancellation_areas _ _

theorem bulkCancelOne_areas (id : Nat) : Modifies (areas cancellationAreas) (bulkCancelOne id) :=
  .bind .ask fun _ => .bind (Modifies.getSubscription _) fun _ => .bind (.failIf _ _) fun _ =>
    .when (applyCancellation_areas _ _)

theorem doScheduleCancel_areas (id : Nat) (authorizer : Address) (cancelAt : Nat) :
    Modifies (areas [.records]) (doScheduleCancel id authorizer cancelAt) :=
  .bind .ask fun _ => .bind (Modifies.requireAuth _) fun _ => .bind (.failIf _ _) fun _ =>
    .bind (Modifies.getSubscription _) fun _ => .bind (.failIf _ _) fun _ =>
    .bind (.failIf _ _) fun _ => .bind (failIfExpired_areas _ _) fun _ =>
    writeSubscription_areas _ _

theorem doUnscheduleCancel_areas (id : Nat) (authorizer : Address) :
    Modifies (areas [.records]) (doUnscheduleCancel id authorizer) :=
  .bind (Modifies.requireAuth _) fun _ => .bind (Modifies.getSubscription _) fun _ =>
    .bind (requireParty_keeps _ _) fun _ => .bind (.failIf _ _) fun _ =>
    writeSubscription_areas _ _

theorem doSetAutoRenew_areas (id : Nat) (authorizer : Address) (enabled : Bool) :
    Modifies (areas [.records]) (doSetAutoRenew id authorizer enabled) :=
  .bind .ask fun _ => .bind (Modifies.requireAuth _) fun _ =>
    .bind (Modifies.getSubscription _) fun _ => .bind (.failIf _ _) fun _ =>
    .bind (.failIf _ _) fun _ => .bind (requireParty_keeps _ _) fun _ =>
    .bind (.failIf _ _) fun _ => writeSubscription_areas _ _

theorem doSetSubscriptionExpirationLedger_areas (id : Nat) (authorizer : Address)
    (expiresAtLedger : Option Nat) : Modifies (areas [.records])
      (doSetSubscriptionExpirationLedger id authorizer expiresAtLedger) :=
  .bind .ask fun _ => .bind (Modifies.requireAuth _) fun _ =>
    .bind (Modifies.getSubscription _) fun _ => .bind (requireParty_keeps _ _) fun _ =>
    .bind (.failIf _ _) fun _ => .bind (.failIf _ _) fun _ => writeSubscription_areas _ _

theorem doUpdateSubscriptionCap_areas (admin : Address) (id : Nat) (newCap : Option Int) :
    Modifies (areas [.records]) (doUpdateSubscriptionCap admin id newCap) :=
  .bind (Modifies.requireAdminAuth _) fun _ => .bind (.failIf _ _) fun _ =>
    .bind (Modifies.getSubscription _) fun _ => .bind (.failIf _ _) fun _ =>
    writeSubscription_areas _ _

theorem doMigrateSubscriptionToPlan_areas (subscriber : Address) (id newPlanId : Nat) :
    Modifies (areas [.records, .planLinks])
      (doMigrateSubscriptionToPlan subscriber id newPlanId) :=
  .bind (Modifies.requireAuth _) fun _ => .bind (Modifies.requireNotBlocklisted _) fun _ =>
    .bind (Modifies.getSubscription _) fun _ => .bind (.failIf _ _) fun _ =>
    .bind Modifies.load fun _ => .bind (.okOr _ _) fun _ => .bind (.gets _) fun _ =>
    .bind (.okOr _ _) fun _ => .bind (.gets _) fun _ => .bind (.okOr _ _) fun _ =>
    .bind (.failIf _ _) fun _ => .bind (Modifies.checkPlanMigration _ _ _) fun _ =>
    .bind ((writeSubscription_areas _ _).widen rfl) fun _ => Modifies.store rfl

theorem applyPause_areas (id : Nat) (sub : Subscription) :
    Modifies (areas [.records, .activeCounts]) (applyPause id sub) :=
  .bind (.lift _) fun _ => .bind ((writeSubscription_areas _ _).widen rfl) fun _ =>
    (decrementSubscriberActiveCount_areas _).widen rfl

theorem doPauseSubscription_areas (id : Nat) (authorizer : Address) :
    Modifies (areas [.records, .activeCounts]) (doPauseSubscription id authorizer) :=
  .bind (Modifies.requireAuth _) fun _ => .bind (Modifies.getSubscription _) fun _ =>
    .bind ((failIfExpired_areas _ _).widen rfl) fun _ => .bind (requireParty_keeps _ _) fun _ =>
    .when (applyPause_areas _ _)

theorem bulkPauseOne_areas (id : Nat) :
    Modifies (areas [.records, .activeCounts]) (bulkPauseOne id) :=
  .bind .ask fun _ => .bind (Modifies.getSubscription _) fun _ => .bind (.failIf _ _) fun _ =>
    .when (applyPause_areas _ _)

theorem applyResume_areas (id : Nat) (sub : Subscription) :
    Modifies (areas [.records, .activeCounts]) (applyResume id sub) :=
  .bind (.lift _) fun _ => .bind ((writeSubscription_areas _ _).widen rfl) fun _ =>
    .when ((incrementSubscriberActiveCount_areas _).widen rfl)

theorem doResumeSubscription_areas (id : Nat) (authorizer : Address) :
    Modifies (areas [.records, .activeCounts]) (doResumeSubscription id authorizer) :=
  .bind (Modifies.requireAuth _) fun _ => .bind (Modifies.getSubscription _) fun _ =>
    .bind ((failIfExpired_areas _ _).widen rfl) fun _ => .bind (requireParty_keeps _ _) fun _ =>
    .bind (.when (Modifies.requireNotBlocklisted _)) fun _ => .when <|
    .bind (.failIf _ _) fun _ => applyResume_areas _ _

theorem doCleanupSubscription_areas (id : Nat) (authorizer : Address) :
    Modifies (areas [.records]) (doCleanupSubscription id authorizer) :=
  .bind .ask fun _ => .bind (Modifies.requireAuth _) fun _ =>
    .bind (Modifies.getSubscription _) fun _ => .bind (.failIf _ _) fun _ => .when <|
    .bind (.lift _) fun _ => .bind (.lift _) fun _ => writeSubscription_areas _ _

theorem doInitiateTransfer_areas (id : Nat) («from» «to» : Address) (expiresAt : Nat) :
    Modifies (areas [.records, .transfers]) (doInitiateTransfer id «from» «to» expiresAt) :=
  .bind .ask fun _ => .bind (Modifies.requireAuth _) fun _ =>
    .bind (Modifies.getSubscription _) fun _ => .bind (.failIf _ _) fun _ =>
    .bind (.failIf _ _) fun _ => .bind ((failIfExpired_areas _ _).widen rfl) fun _ =>
    .bind (.failIf _ _) fun _ => .bind (.failIf _ _) fun _ => Modifies.store rfl

theorem doAcceptTransfer_areas (id : Nat) («to» : Address) :
    Modifies (areas [.records, .transfers, .activeCounts, .subscriberIndex])
      (doAcceptTransfer id «to») :=
  .bind .ask fun _ => .bind (Modifies.requireAuth _) fun _ => .bind Modifies.load fun _ =>
    .bind (.okOr _ _) fun _ => .bind (.failIf _ _) fun _ => .bind (.failIf _ _) fun _ =>
    .bind (Modifies.getSubscription _) fun _ => .bind (Modifies.delete rfl) fun _ =>
    .bind (.lift _) fun _ => .bind (Modifies.enforceCreditLimitForDelta _ _ _) fun _ =>
    .bind (.when (Modifies.requirePlace _)) fun _ => .bind (dropIndex_areas rfl _) fun _ =>
    .bind (pushIndex_areas rfl _) fun _ =>
    .bind (.when (.bind ((decrementSubscriberActiveCount_areas _).widen rfl) fun _ =>
      (incrementSubscriberActiveCount_areas _).widen rfl)) fun _ =>
    (writeSubscription_areas _ _).widen rfl

theorem resumeListed_areas (id : Nat) :
    Modifies (areas [.records, .activeCounts]) (resumeListed id) :=
  .bind (.gets _) fun _ => .whenSome fun _ => .when <|
    .bind (Modifies.getSubscription _) fun _ => .when (applyResume_areas _ _)

theorem doRemoveFromBlocklist_areas (admin subscriber : Address) :
    Modifies (areas [.blocklist, .records, .activeCounts])
      (doRemoveFromBlocklist admin subscriber) :=
  .bind (Modifies.requireAdminAuth _) fun _ => .bind (.gets _) fun _ =>
    .bind (.failIf _ _) fun _ => .bind (.gets _) fun _ => .bind (.gets _) fun _ =>
    .bind (.failIf _ _) fun _ => .bind (Modifies.delete rfl) fun _ =>
    .forEach (fun _ => (resumeListed_areas _).widen rfl) _

theorem refundPrepaid_areas (id : Nat) (sub : Subscription) :
    Modifies (areas [.records, .tokens]) (refundPrepaid id sub) :=
  .bind .ask fun _ => .bind ((writeSubscription_areas _ _).widen rfl) fun _ =>
    .bind (Modifies.transfer rfl rfl) fun _ => .pure ()

theorem doWithdrawSubscriberFunds_areas (id : Nat) (subscriber : Address) :
    Modifies (areas [.records, .tokens, .escrows]) (doWithdrawSubscriberFunds id subscriber) :=
  .bind .ask fun _ => .bind (Modifies.requireAuth _) fun _ =>
    .bind (Modifies.getSubscription _) fun _ => .bind (.failIf _ _) fun _ =>
    .bind (.failIf _ _) fun _ => .ite ((refundPrepaid_areas _ _).widen rfl) <|
    .bind (.gets _) fun _ => .bind (.okOr _ _) fun _ => .bind (.failIf _ _) fun _ =>
    .bind (Modifies.requireReleasedEscrow _ _) fun _ => .bind (.failIf _ _) fun _ =>
    (payEscrow_areas _ _).widen rfl

theorem doFinalizeEmergencyWithdraw_areas (id : Nat) (subscriber : Address) :
    Modifies (areas [.records, .tokens, .withdrawIntents])
      (doFinalizeEmergencyWithdraw id subscriber) :=
  .bind .ask fun _ => .bind (Modifies.requireAuth _) fun _ =>
    .bind (Modifies.getSubscription _) fun _ => .bind (.failIf _ _) fun _ =>
    .bind Modifies.load fun _ => .bind (.okOr _ _) fun _ => .bind (.failIf _ _) fun _ =>
    .bind (.failIf _ _) fun _ => .bind (.failIf _ _) fun _ => .bind (.failIf _ _) fun _ =>
    .bind (Modifies.delete rfl) fun _ => (refundPrepaid_areas _ _).widen rfl

theorem doPartialRefund_areas (admin : Address) (id : Nat) (subscriber : Address)
    (amount : Int) :
    Modifies (areas [.records, .tokens]) (doPartialRefund admin id subscriber amount) :=
  .bind .ask fun _ => .bind (Modifies.requireAdminAuth _) fun _ => .bind (.failIf _ _) fun _ =>
    .bind (Modifies.getSubscription _) fun _ => .bind (.failIf _ _) fun _ =>
    .bind (.failIf _ _) fun _ => .bind (.lift _) fun _ =>
    .bind ((writeSubscription_areas _ _).widen rfl) fun _ =>
    .bind (Modifies.transfer rfl rfl) fun _ => .pure ()

/-! ## The contract as a whole -/

theorem doInit_areas (token : Address) (tokenDecimals : Nat) (admin : Address)
    (minTopup : Int) (gracePeriod : Nat) : Modifies (areas [.numbering, .settings])
      (doInit token tokenDecimals admin minTopup gracePeriod) :=
  .bind .ask fun _ => .bind Modifies.getState fun _ => .bind (.failIf _ _) fun _ =>
    .bind (.failIf _ _) fun _ => .bind (.failIf _ _) fun _ => .bind (.failIf _ _) fun _ =>
    .bind (Modifies.store rfl) fun _ => .bind (Modifies.writeConfig rfl rfl) fun _ =>
    .bind (Modifies.store rfl) fun _ => .bind (Modifies.store rfl) fun _ =>
    .bind (Modifies.writeConfig rfl rfl) fun _ => .bind (Modifies.writeConfig rfl rfl) fun _ =>
    Modifies.writeConfig rfl rfl

theorem promoteConfig_areas {α : Type} {l : List Area} {key : DataKey}
    [Holds DataKey.Val key α] (hkey : l.contains key.area = true) :
    Modifies (areas l) (promoteConfig key) :=
  .bind Modifies.load fun _ => .whenSome fun _ => .bind (Modifies.store hkey) fun _ =>
    Modifies.delete hkey

theorem migrateInternal_areas :
    Modifies (areas [.numbering, .settings]) doMigrateConfigToPersistentInternal :=
  .bind (promoteConfig_areas rfl) fun _ => .bind (promoteConfig_areas rfl) fun _ =>
    .bind (promoteConfig_areas rfl) fun _ => .bind (promoteConfig_areas rfl) fun _ =>
    .bind (promoteConfig_areas rfl) fun _ => .bind (promoteConfig_areas rfl) fun _ =>
    .bind (promoteConfig_areas rfl) fun _ => .bind (promoteConfig_areas rfl) fun _ =>
    .bind (promoteConfig_areas rfl) fun _ => .bind (promoteConfig_areas rfl) fun _ =>
    .bind (Modifies.store rfl) fun _ => Modifies.delete rfl

theorem migrateConfigToPersistent_areas (admin : Address) :
    Modifies (areas [.numbering, .settings]) (migrateConfigToPersistent admin) :=
  .bind (Modifies.requireAdminAuth _) fun _ => .bind (.gets _) fun _ => .bind (.failIf _ _) fun _ =>
    .bind migrateInternal_areas fun _ => .bind (.gets _) fun _ => .failIf _ _

theorem doMigrate_areas (admin : Address) (dryRun : Bool) :
    Modifies (areas [.numbering, .settings]) (doMigrate admin dryRun) :=
  .bind (Modifies.requireAdminAuth _) fun _ => .bind (.gets _) fun _ => .bind (.failIf _ _) fun _ =>
    .when <| .bind (.when migrateInternal_areas) fun _ => .bind (Modifies.store rfl) fun _ =>
    .bind (Modifies.delete rfl) fun _ => .bind (.gets _) fun _ => .failIf _ _

theorem restoreSnapshotPage_areas (admin : Address) (summaries : List SubscriptionSummary)
    (balances : List MerchantBalanceEntry) :
    Modifies (areas [.records, .balances, .numbering])
      (restoreSnapshotPage admin summaries balances) :=
  .bind (Modifies.requireAdminAuth _) fun _ => .bind (.gets _) fun _ =>
    .bind (.failIf _ _) fun _ => .bind Modifies.load fun _ =>
    .bind (.forEach (fun _ => (writeSubscription_areas _ _).widen rfl) _) fun _ =>
    .bind (.forEach (fun _ => Modifies.store (S := areas [.records, .balances, .numbering]) rfl)
      _) fun _ =>
    .when (Modifies.store rfl)

/-! ## Merchant rotation -/

/-- Everything a rotation writes. -/
def rotationAreas : List Area :=
  [.nonces, .balances, .earnings, .merchantTokens, .merchants, .records, .merchantIndex]

theorem Modifies.moveEntry {α : Type} {S : Set Slot} («from» «to» : DataKey)
    [Holds DataKey.Val «from» α] [Holds DataKey.Val «to» α] (hfrom : .instanced «from» ∈ S)
    (hto : .instanced «to» ∈ S) : Modifies S (moveEntry «from» «to») :=
  .bind Modifies.load fun _ => .whenSome fun _ => .bind (Modifies.store hto) fun _ =>
    Modifies.delete hfrom

theorem moveEntry_areas {α : Type} {l : List Area} («from» «to» : DataKey)
    [Holds DataKey.Val «from» α] [Holds DataKey.Val «to» α]
    (hfrom : l.contains («from».area) = true) (hto : l.contains («to».area) = true) :
    Modifies (areas l) (moveEntry «from» «to») :=
  Modifies.moveEntry «from» «to» hfrom hto

theorem moveList_areas {α : Type} [DecidableEq α] {l : List Area} («from» «to» : DataKey)
    [Holds DataKey.Val «from» (List α)] [Holds DataKey.Val «to» (List α)] (moved : List α)
    (hfrom : l.contains («from».area) = true) (hto : l.contains («to».area) = true) :
    Modifies (areas l) (moveList «from» «to» moved) :=
  .bind (.when (.bind Modifies.load fun _ => Modifies.store hto)) fun _ => Modifies.delete hfrom

theorem moveMerchantToken_areas (oldMerchant newMerchant token : Address) :
    Modifies (areas [.balances, .earnings]) (moveMerchantToken oldMerchant newMerchant token) :=
  .bind (.gets _) fun _ => .bind (.when (.bind (.gets _) fun _ => Modifies.store rfl)) fun _ =>
    .bind (Modifies.delete rfl) fun _ => moveEntry_areas _ _ rfl rfl

theorem rewriteSubscriptionMerchant_areas (oldMerchant newMerchant : Address) (id : Nat) :
    Modifies (areas [.records]) (rewriteSubscriptionMerchant oldMerchant newMerchant id) :=
  .bind (.gets _) fun _ => .whenSome fun _ => .when (writeSubscription_areas _ _)

theorem doRotateMerchantAddress_areas (admin oldMerchant newMerchant : Address) (nonce : Nat) :
    Modifies (areas rotationAreas)
      (doRotateMerchantAddress admin oldMerchant newMerchant nonce) :=
  .bind (Modifies.requireAdminAuth _) fun _ => .bind (Modifies.checkAndAdvance rfl) fun _ =>
    .bind (.gets _) fun _ =>
    .bind (.forEach (fun _ => (moveMerchantToken_areas _ _ _).widen rfl) _) fun _ =>
    .bind (moveList_areas _ _ _ rfl rfl) fun _ => .bind (moveEntry_areas _ _ rfl rfl) fun _ =>
    .bind (moveEntry_areas _ _ rfl rfl) fun _ => .bind (moveEntry_areas _ _ rfl rfl) fun _ =>
    .bind (.gets _) fun _ =>
    .bind (.forEach (fun _ => (rewriteSubscriptionMerchant_areas _ _ _).widen rfl) _) fun _ =>
    moveList_areas _ _ _ rfl rfl

/-- The entries of the merchants' area that go to the new address. -/
def Slot.movesWithMerchant : Slot → Bool
  | .instanced (.merchantConfig _) | .instanced (.merchantPaused _)
  | .instanced (.merchantVacation _) => true
  | _ => false

def rotationSlots : Set Slot := {k | k.area = .merchants → k.movesWithMerchant = true}

theorem areas_subset_rotationSlots {l : List Area} (hl : l.contains .merchants = false) :
    areas l ⊆ rotationSlots := by
  intro k hk harea
  have hin : l.contains k.area = true := hk
  rw [harea, hl] at hin
  cases hin

/-- A rotation leaves the other entries of both addresses where they are. -/
theorem doRotateMerchantAddress_slots (admin oldMerchant newMerchant : Address) (nonce : Nat) :
    Modifies rotationSlots (doRotateMerchantAddress admin oldMerchant newMerchant nonce) :=
  have hwide {α : Type} {l : List Area} {x : Vault α} (hx : Modifies (areas l) x)
      (hl : l.contains .merchants = false) : Modifies rotationSlots x :=
    hx.weaken (areas_subset_rotationSlots hl)
  .bind (Modifies.requireAdminAuth _) fun _ =>
    .bind (hwide (l := [.nonces]) (Modifies.checkAndAdvance rfl) rfl) fun _ =>
    .bind (.gets _) fun _ =>
    .bind (.forEach (fun _ => hwide (moveMerchantToken_areas _ _ _) rfl) _) fun _ =>
    .bind (hwide (l := [.merchantTokens]) (moveList_areas _ _ _ rfl rfl) rfl) fun _ =>
    .bind (Modifies.moveEntry _ _ (fun _ => rfl) fun _ => rfl) fun _ =>
    .bind (Modifies.moveEntry _ _ (fun _ => rfl) fun _ => rfl) fun _ =>
    .bind (Modifies.moveEntry _ _ (fun _ => rfl) fun _ => rfl) fun _ =>
    .bind (.gets _) fun _ =>
    .bind (.forEach (fun _ => hwide (rewriteSubscriptionMerchant_areas _ _ _) rfl) _) fun _ =>
    hwide (l := [.merchantIndex]) (moveList_areas _ _ _ rfl rfl) rfl

end SubscriptionVault
