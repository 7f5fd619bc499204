import SubscriptionVault.Charging.Errors
import SubscriptionVault.Lifecycle.Exit

/-!
# The three ways to deposit

A subscriber, the admin or operator, and a payer with a grant deposit through code of their own.
Each copy makes its checks in an order of its own and leaves some of them out, and one of them
revives the subscription without clearing its failures.
-/

namespace SubscriptionVault

open Exec

/-! ## What is compared -/

/-- The error, or the stored subscription and its counted failures. -/
abbrev DepositResult := Option (Except Error (Option Subscription × Option Nat))

def depositResult (id : Nat) : Outcome Error State Unit → DepositResult
  | .ok _ t => some (.ok (t.subscription id, t.read (.instanced (.chargeFailureCounter id))))
  | .err e _ => some (.error e)
  | .trap => none

/-- The depositors are who they should be and have the tokens, and the grant covers the
amount. -/
structure DepositorsReady (env : Env) (s : State) (id : Nat) (amount : Int)
    (caller payer : Address) : Prop where
  callerSigned : env.authorized caller
  payerSigned : env.authorized payer ∧ payer ≠ env.host.contract
  subscriberSigned : ∀ sub, s.effectiveSubscription id env.now = some sub →
    env.authorized sub.subscriber ∧ sub.subscriber ≠ env.host.contract
  granted : ∀ sub, s.effectiveSubscription id env.now = some sub →
    ∃ grant, s.read (.persistent (.delegatedPayerGrant sub.subscriber payer)) = some grant ∧
      env.now < grant.expiresAt ∧ amount ≤ grant.maxAmount
  funded : ∀ sub, s.effectiveSubscription id env.now = some sub →
    ∀ holder ∈ [sub.subscriber, caller, payer], amount ≤ s.balanceOf sub.token holder ∧
      env.transferRefused sub.token holder env.host.contract amount = false

/-- The three paths end alike, and a batch goes on after a refused entry as without it. -/
structure DepositsAgree (env : Env) (s : State) (id : Nat) (amount : Int)
    (caller payer : Address) : Prop where
  bulk : depositResult id ((bulkDepositOne caller id amount).run env s) =
    depositResult id ((doDepositFunds id amount none).run env s)
  delegated : depositResult id ((doDepositFundsOnBehalf id payer amount none).run env s) =
    depositResult id ((doDepositFunds id amount none).run env s)
  skipped : ∀ e t rest, (bulkDepositOne caller id amount).run env s = .err e t →
    (bulkDepositItems caller ((id, amount) :: rest)).run env s =
      (bulkDepositItems caller rest).run env s

/-! ## Checks -/

/-- What a check refuses with, if it does. -/
def refusal (c : Prop) [Decidable c] (e : Error) : Option Error := if c then some e else none

def Except.refusal {α : Type} : Except Error α → Option Error
  | .ok _ => none
  | .error e => some e

namespace State

def topupRefusal (s : State) (amount : Int) : Option Error :=
  match s.minTopup with
  | .error e => some e
  | .ok minTopup =>
    if amount < 0 then some .invalidAmount
    else if amount < minTopup then some .belowMinimumTopup else none

def blocklistRefusal (s : State) (a : Address) : Option Error :=
  SubscriptionVault.refusal (s.isBlocklisted a) .subscriberBlocklisted

def merchantRefusal (s : State) (merchant : Address) (now : Nat) : Option Error :=
  if s.merchantPaused merchant then some .merchantPaused
  else SubscriptionVault.refusal (s.isMerchantInVacation merchant now) .vacationActive

/-- The last checks, which all three paths share. -/
def limitRefusals (s : State) (sub : Subscription) (amount : Int) : List (Option Error) :=
  [Except.refusal (s.creditLimitForDelta sub.subscriber sub.token amount),
   SubscriptionVault.refusal (sub.depositable.any (· < amount)) .lifetimeCapReached,
   Except.refusal (safeAddBalance sub.prepaidBalance amount)]

end State

/-- An expired subscription that cannot be marked as such is refused for that. -/
def Subscription.expiryRefusal (sub : Subscription) (now sequence : Nat) : Option Error :=
  if sub.isExpired now sequence then
    if sub.status = .expired ∨ canTransition sub.status .expired then some .subscriptionExpired
    else some .invalidStatusTransition
  else none

namespace State

def singleRefusals (s : State) (env : Env) (sub : Subscription) (amount : Int) :
    List (Option Error) :=
  [s.blocklistRefusal sub.subscriber,
    SubscriptionVault.refusal (sub.status = .cancelled) .invalidStatusTransition,
    s.topupRefusal amount, s.blocklistRefusal sub.merchant,
    s.merchantRefusal sub.merchant env.now, sub.expiryRefusal env.now env.sequence] ++
    s.limitRefusals sub amount

def bulkRefusals (s : State) (env : Env) (sub : Subscription) (amount : Int) :
    List (Option Error) :=
  [SubscriptionVault.refusal (amount < 0) .invalidAmount, s.topupRefusal amount,
    s.merchantRefusal sub.merchant env.now,
    SubscriptionVault.refusal (sub.isExpired env.now env.sequence = true) .subscriptionExpired] ++
    s.limitRefusals sub amount

def delegatedRefusals (s : State) (env : Env) (sub : Subscription) (amount : Int) :
    List (Option Error) :=
  [s.topupRefusal amount, s.blocklistRefusal sub.subscriber, s.blocklistRefusal sub.merchant,
    SubscriptionVault.refusal (s.merchantPaused sub.merchant = true) .merchantPaused,
    sub.expiryRefusal env.now env.sequence] ++ s.limitRefusals sub amount

end State

/-- The first refusal, or else the result. -/
def settle (refusals : List (Option Error)) (result : Option Subscription × Option Nat) :
    DepositResult :=
  (refusals.findSome? id).elim (some (.ok result)) fun e => some (.error e)

/-- The check leaves the state alone or refuses. -/
def Screens (x : Vault Unit) (env : Env) (s : State) : Option Error → Prop
  | none => x.run env s = .ok () s
  | some e => ∃ t, x.run env s = .err e t

section Checks

variable {env : Env} {s : State} {id : Nat} {sub : Subscription} {amount : Int} {o : Option Error}
  {l : List (Option Error)} {result : Option Subscription × Option Nat} {x : Vault Unit}

theorem refusal_eq_some {c : Prop} [Decidable c] {e e' : Error} :
    refusal c e = some e' ↔ c ∧ e = e' := by
  by_cases h : c <;> simp [refusal, h]

@[simp] theorem settle_none : settle (none :: l) result = settle l result := rfl

@[simp] theorem settle_some {e : Error} : settle (some e :: l) result = some (.error e) := rfl

@[simp] theorem settle_nil : settle [] result = some (.ok result) := rfl

theorem settle_ne_error {e : Error} (h : some e ∉ l) : settle l result ≠ some (.error e) := by
  induction l with
  | nil => simp
  | cons o l ih =>
    cases o with
    | none => exact ih fun hmem => h (List.mem_cons_of_mem _ hmem)
    | some e' =>
      have hne : e ≠ e' := fun heq => h (heq ▸ List.mem_cons_self)
      simpa using hne.symm

theorem depositResult_bind {α : Type} {x : Vault α} {f : α → Vault Unit} {a : α} {t : State}
    (h : x.run env s = .ok a t) :
    depositResult id ((x >>= f).run env s) = depositResult id ((f a).run env t) := by
  rw [run_bind_of_ok h]

theorem depositResult_seq {f : Unit → Vault Unit} {t : State} (h : x.run env s = .ok () t) :
    depositResult id ((x >>= f).run env s) = depositResult id ((f ()).run env t) :=
  depositResult_bind h

theorem Screens.bind {f : Unit → Vault Unit} (h : Screens x env s o)
    (hrest : o = none → depositResult id ((f ()).run env s) = settle l result) :
    depositResult id ((x >>= f).run env s) = settle (o :: l) result := by
  cases o with
  | none => exact (depositResult_bind h).trans (hrest rfl)
  | some e =>
    obtain ⟨t, herr⟩ := h
    rw [run_bind_of_err herr]
    rfl

theorem screens_failIf (c : Prop) [Decidable c] (e : Error) :
    Screens (failIf c e) env s (refusal c e) := by
  unfold refusal
  split
  · rename_i hc
    exact ⟨s, run_failIf_err.mpr ⟨hc, rfl, rfl⟩⟩
  · rename_i hc
    exact run_failIf_ok.mpr ⟨hc, rfl⟩

theorem Screens.of_run_eq {y : Vault Unit} (hrun : x.run env s = y.run env s)
    (h : Screens y env s o) : Screens x env s o := by
  unfold Screens at h ⊢
  rw [hrun]
  exact h

theorem screens_requireNotBlocklisted (a : Address) :
    Screens (requireNotBlocklisted a) env s (s.blocklistRefusal a) :=
  .of_run_eq rfl (screens_failIf _ _)

theorem screens_checkMerchantStatus (merchant : Address) :
    Screens (checkMerchantStatus merchant ∅) env s (s.merchantRefusal merchant env.now) := by
  have hrun : (checkMerchantStatus merchant ∅).run env s = (do
      failIf (s.merchantPaused merchant) .merchantPaused
      failIf (s.isMerchantInVacation merchant env.now) .vacationActive : Vault Unit).run env s :=
    rfl
  refine .of_run_eq hrun ?_
  unfold State.merchantRefusal refusal
  split
  · rename_i hpaused
    exact ⟨s, run_bind_of_err (run_failIf_err.mpr ⟨hpaused, rfl, rfl⟩)⟩
  · rename_i hopen
    exact .of_run_eq (run_seq_of_ok (run_failIf_ok.mpr ⟨hopen, rfl⟩)) (screens_failIf _ _)

theorem screens_enforceMinTopup :
    Screens (enforceMinTopup amount) env s (s.topupRefusal amount) := by
  have hrun : (enforceMinTopup amount).run env s = (do
      let minTopup ← lift s.minTopup
      failIf (amount < 0) .invalidAmount
      failIf (amount < minTopup) .belowMinimumTopup : Vault Unit).run env s := rfl
  refine .of_run_eq hrun ?_
  unfold State.topupRefusal
  cases s.minTopup with
  | error e => exact ⟨s, rfl⟩
  | ok minTopup =>
    dsimp only
    split
    · rename_i hnegative
      exact ⟨s, (run_bind_of_ok (run_lift_ok.mpr ⟨rfl, rfl⟩)).trans
        (run_bind_of_err (run_failIf_err.mpr ⟨hnegative, rfl, rfl⟩))⟩
    · rename_i hnonneg
      exact .of_run_eq ((run_bind_of_ok (run_lift_ok.mpr ⟨rfl, rfl⟩)).trans
        (run_seq_of_ok (run_failIf_ok.mpr ⟨hnonneg, rfl⟩))) (screens_failIf _ _)

theorem screens_lift {y : Except Error Unit} : Screens (lift y) env s (Except.refusal y) := by
  cases y with
  | ok u => exact run_lift_ok.mpr ⟨rfl, rfl⟩
  | error e => exact ⟨s, rfl⟩

theorem screens_enforceCreditLimitForDelta (subscriber token : Address) :
    Screens (enforceCreditLimitForDelta subscriber token amount) env s
      (Except.refusal (s.creditLimitForDelta subscriber token amount)) :=
  .of_run_eq rfl screens_lift

theorem screens_failIfExpired :
    Screens (failIfExpired id sub) env s (sub.expiryRefusal env.now env.sequence) := by
  unfold Subscription.expiryRefusal
  split
  swap
  · rename_i hlive
    exact run_failIfExpired_ok.mpr ⟨by simpa using hlive, rfl⟩
  rename_i hexpired
  have hrun : (failIfExpired id sub).run env s = (do
      when (sub.status ≠ .expired) do
        let status ← lift (transitionTo sub.status .expired)
        writeSubscription id { sub with status }
      fail .subscriptionExpired : Vault Unit).run env s := by
    refine (run_bind_of_ok (run_ask_ok.mpr ⟨rfl, rfl⟩)).trans ?_
    rw [when, if_pos hexpired]
  refine .of_run_eq hrun ?_
  by_cases hstatus : sub.status = .expired
  · rw [if_pos (.inl hstatus)]
    exact ⟨s, run_seq_of_ok (run_when_ok.mpr (.inr ⟨by simp [hstatus], rfl⟩))⟩
  by_cases hmarked : canTransition sub.status .expired
  · rw [if_pos (.inr hmarked)]
    exact ⟨_, run_seq_of_ok (run_when_ok.mpr (.inl ⟨hstatus,
      run_bind_ok.mpr ⟨_, _, run_lift_ok.mpr ⟨transitionTo_ok.mpr ⟨hmarked, rfl⟩, rfl⟩,
        run_store_ok.mpr rfl⟩⟩))⟩
  · rw [if_neg (not_or.mpr ⟨hstatus, hmarked⟩)]
    refine ⟨s, run_bind_of_err ?_⟩
    rw [when, if_pos hstatus, transitionTo, if_neg hmarked]
    rfl

/-! ## The paths -/

/-- A missing subscription is refused by all of them. -/
theorem depositResult_getSubscription_none {f : Subscription → Vault Unit}
    (hnone : s.effectiveSubscription id env.now = none) :
    depositResult id ((getSubscription id >>= f).run env s) = some (.error .notFound) := by
  have hrun : (getSubscription id).run env s = .err .notFound s := by
    show (okOr (s.effectiveSubscription id env.now) Error.notFound).run env s = _
    rw [hnone]
    rfl
  rw [run_bind_of_err hrun]
  rfl

theorem depositResult_getSubscription {f : Subscription → Vault Unit}
    (hfound : s.effectiveSubscription id env.now = some sub) :
    depositResult id ((getSubscription id >>= f).run env s) =
      depositResult id ((f sub).run env s) :=
  depositResult_bind (run_getSubscription_ok.mpr ⟨hfound, rfl⟩)

/-- What is left of a deposit once its balance has been computed. -/
theorem depositResult_lift {y : Except Error Int} {f : Int → Vault Unit}
    (hrest : ∀ b, y = .ok b → depositResult id ((f b).run env s) = some (.ok result)) :
    depositResult id ((lift y >>= f).run env s) = settle [Except.refusal y] result := by
  cases y with
  | ok b => exact (depositResult_bind (run_lift_ok.mpr ⟨rfl, rfl⟩)).trans (hrest b rfl)
  | error e => rfl

end Checks

section Paths

variable {env : Env} {s : State} {id : Nat} {sub : Subscription} {amount : Int}
  {caller payer : Address}

/-- The tokens are taken from the holder. -/
theorem DepositorsReady.run_transfer {holder : Address} {w : State}
    (hready : DepositorsReady env s id amount caller payer)
    (hfound : s.effectiveSubscription id env.now = some sub)
    (hholder : holder ∈ [sub.subscriber, caller, payer]) (hsigned : env.authorized holder)
    (hnonneg : 0 ≤ amount)
    (hw : FiniteStore.AgreeOff (areas [.records, .failures, .grants]) s w) :
    (transfer sub.token holder env.host.contract amount).run env w =
      .ok () (w.transferred sub.token holder env.host.contract amount) := by
  obtain ⟨hfunds, haccepted⟩ := hready.funded sub hfound holder hholder
  have hbalance : amount ≤ w.balanceOf sub.token holder := by
    rwa [State.balanceOf_of_areas hw rfl]
  exact run_transfer_ok.mpr ⟨.inr hsigned, hnonneg, haccepted, hbalance, rfl⟩

theorem transferred_areas (w : State) (token sender receiver : Address) (amount : Int) :
    FiniteStore.AgreeOff (areas [.tokens]) w (w.transferred token sender receiver amount) :=
  State.agreeOff_transferred _ _ rfl rfl

/-- The last steps of a deposit by the subscriber or in a batch. -/
theorem depositResult_topUp {holder : Address} {balance : Int}
    (hready : DepositorsReady env s id amount caller payer)
    (hfound : s.effectiveSubscription id env.now = some sub)
    (hholder : holder ∈ [sub.subscriber, caller, payer]) (hsigned : env.authorized holder)
    (hbalance : safeAddBalance sub.prepaidBalance amount = .ok balance) :
    depositResult id ((do
      delete (.instanced (.chargeFailureCounter id))
      writeSubscription id { sub with prepaidBalance := balance }
      transfer sub.token holder env.host.contract amount
      addTotalAccounted sub.token amount : Vault Unit).run env s) =
      some (.ok (some (sub.toppedUp amount), none)) := by
  obtain ⟨hnonneg, rfl, -⟩ := safeAddBalance_ok.mp hbalance
  let cleared : State := s.remove (.instanced (.chargeFailureCounter id))
  let recorded : State := cleared.write (.persistent (.sub id)) (sub.toppedUp amount)
  have hcleared : FiniteStore.AgreeOff (areas [.records, .failures, .grants]) s cleared :=
    s.agreeOff_remove rfl
  have hwritten : FiniteStore.AgreeOff (areas [.records, .failures, .grants]) s recorded :=
    hcleared.trans (cleared.agreeOff_write _ rfl)
  refine (depositResult_seq (run_delete_ok.mpr rfl)).trans ?_
  refine (depositResult_seq (run_store_ok.mpr rfl)).trans ?_
  refine (depositResult_seq
    (hready.run_transfer hfound hholder hsigned hnonneg hwritten)).trans ?_
  have hpaid := transferred_areas recorded sub.token holder env.host.contract amount
  show some (Except.ok (_, _)) = _
  rw [State.subscription, State.read_of_areas (k := .persistent (.sub id)) hpaid rfl,
    State.read_of_areas (k := .instanced (.chargeFailureCounter id)) hpaid rfl,
    FiniteStore.read_write_self, FiniteStore.read_write_of_ne _ _ (by simp),
    FiniteStore.read_remove_self]

theorem single_result (hready : DepositorsReady env s id amount caller payer)
    (hfound : s.effectiveSubscription id env.now = some sub) :
    depositResult id ((doDepositFunds id amount none).run env s) =
      settle (s.singleRefusals env sub amount) (some (sub.toppedUp amount), none) := by
  have hsigned := hready.subscriberSigned sub hfound
  refine (depositResult_bind (run_ask_ok.mpr ⟨rfl, rfl⟩)).trans ?_
  refine (depositResult_getSubscription hfound).trans ?_
  refine (depositResult_seq (run_requireAuth_ok.mpr ⟨hsigned, rfl⟩)).trans ?_
  refine Screens.bind (screens_requireNotBlocklisted _) fun _ => ?_
  refine (depositResult_seq (run_pure_ok.mpr ⟨rfl, rfl⟩)).trans ?_
  refine Screens.bind (screens_failIf _ _) fun _ => ?_
  refine Screens.bind screens_enforceMinTopup fun _ => ?_
  refine Screens.bind (screens_requireNotBlocklisted _) fun _ => ?_
  refine Screens.bind (screens_checkMerchantStatus _) fun _ => ?_
  refine Screens.bind screens_failIfExpired fun _ => ?_
  refine Screens.bind (screens_enforceCreditLimitForDelta _ _) fun _ => ?_
  refine Screens.bind (screens_failIf _ _) fun _ => ?_
  exact depositResult_lift fun b hb => depositResult_topUp hready hfound (by simp) hsigned.1 hb

theorem bulk_result (hready : DepositorsReady env s id amount caller payer)
    (hfound : s.effectiveSubscription id env.now = some sub) :
    depositResult id ((bulkDepositOne caller id amount).run env s) =
      settle (s.bulkRefusals env sub amount) (some (sub.toppedUp amount), none) := by
  refine (depositResult_bind (run_ask_ok.mpr ⟨rfl, rfl⟩)).trans ?_
  refine (depositResult_getSubscription hfound).trans ?_
  refine Screens.bind (screens_failIf _ _) fun _ => ?_
  refine Screens.bind screens_enforceMinTopup fun _ => ?_
  refine Screens.bind (screens_checkMerchantStatus _) fun _ => ?_
  refine Screens.bind (screens_failIf _ _) fun _ => ?_
  refine Screens.bind (screens_enforceCreditLimitForDelta _ _) fun _ => ?_
  refine Screens.bind (screens_failIf _ _) fun _ => ?_
  exact depositResult_lift fun b hb =>
    depositResult_topUp hready hfound (by simp) hready.callerSigned hb

theorem delegated_result (hready : DepositorsReady env s id amount caller payer)
    (hfound : s.effectiveSubscription id env.now = some sub) :
    depositResult id ((doDepositFundsOnBehalf id payer amount none).run env s) =
      settle (s.delegatedRefusals env sub amount)
        (some (sub.toppedUp amount).recovered,
          s.read (.instanced (.chargeFailureCounter id))) := by
  obtain ⟨grant, hgrant, hopen, hcovers⟩ := hready.granted sub hfound
  refine (depositResult_bind (run_ask_ok.mpr ⟨rfl, rfl⟩)).trans ?_
  refine (depositResult_seq (run_requireAuth_ok.mpr ⟨hready.payerSigned, rfl⟩)).trans ?_
  refine (depositResult_seq (run_pure_ok.mpr ⟨rfl, rfl⟩)).trans ?_
  refine (depositResult_getSubscription hfound).trans ?_
  refine (depositResult_bind (run_load_ok.mpr ⟨rfl, rfl⟩)).trans ?_
  refine (depositResult_bind (run_okOr_ok.mpr ⟨hgrant, rfl⟩)).trans ?_
  refine (depositResult_seq (run_failIf_ok.mpr ⟨Nat.not_le.mpr hopen, rfl⟩)).trans ?_
  refine (depositResult_seq (run_failIf_ok.mpr ⟨Int.not_lt.mpr hcovers, rfl⟩)).trans ?_
  refine Screens.bind screens_enforceMinTopup fun _ => ?_
  refine Screens.bind (screens_requireNotBlocklisted _) fun _ => ?_
  refine Screens.bind (screens_requireNotBlocklisted _) fun _ => ?_
  refine (depositResult_bind (run_gets_ok.mpr ⟨rfl, rfl⟩)).trans ?_
  refine Screens.bind (screens_failIf _ _) fun _ => ?_
  refine Screens.bind screens_failIfExpired fun _ => ?_
  refine Screens.bind (screens_enforceCreditLimitForDelta _ _) fun _ => ?_
  refine Screens.bind (screens_failIf _ _) fun _ => ?_
  refine depositResult_lift fun b hb => ?_
  obtain ⟨hnonneg, rfl, -⟩ := safeAddBalance_ok.mp hb
  let recorded : State := s.write (.persistent (.sub id)) (sub.toppedUp amount)
  let granted : State := recorded.remove (.persistent (.delegatedPayerGrant sub.subscriber payer))
  have hrecorded : FiniteStore.AgreeOff (areas [.records, .failures, .grants]) s recorded :=
    s.agreeOff_write _ rfl
  have hwritten : FiniteStore.AgreeOff (areas [.records, .failures, .grants]) s granted :=
    hrecorded.trans (recorded.agreeOff_remove rfl)
  refine (depositResult_seq (run_store_ok.mpr rfl)).trans ?_
  refine (depositResult_seq (run_delete_ok.mpr rfl)).trans ?_
  refine (depositResult_seq
    (hready.run_transfer hfound (by simp) hready.payerSigned.1 hnonneg hwritten)).trans ?_
  refine (depositResult_seq (run_pure_ok.mpr ⟨rfl, rfl⟩)).trans ?_
  have hpaid := transferred_areas granted sub.token payer env.host.contract amount
  have hcounter : granted.read (.instanced (.chargeFailureCounter id)) =
      s.read (.instanced (.chargeFailureCounter id)) :=
    (FiniteStore.read_remove_of_ne _ (by simp)).trans (FiniteStore.read_write_of_ne _ _ (by simp))
  show some (Except.ok (_, _)) = _
  rw [State.subscription, FiniteStore.read_write_self, FiniteStore.read_write_of_ne _ _ (by simp),
    State.read_of_areas (k := .instanced (.chargeFailureCounter id)) hpaid rfl, hcounter]
  rfl

/-! ## Where the paths meet -/

/-- Errors that the shared checks never end in. -/
def pathErrors : Set Error :=
  {e | e = .subscriberBlocklisted ∨ e = .invalidStatusTransition ∨ e = .vacationActive}

theorem not_pathErrors_of_limits {e : Error} (h : some e ∈ s.limitRefusals sub amount) :
    e ∉ pathErrors := by
  have hcredit : FailsIn pathErrorsᶜ (s.creditLimitForDelta sub.subscriber sub.token amount) :=
    fails_creditLimitForDelta (by simp [pathErrors]) (by simp [pathErrors]) (by simp [pathErrors])
      _ _ _ _
  have hbalance : FailsIn pathErrorsᶜ (safeAddBalance sub.prepaidBalance amount) :=
    .ite (.error (by simp [pathErrors])) (fails_checked (by simp [pathErrors]))
  have hof {α : Type} {y : Except Error α} (hy : FailsIn pathErrorsᶜ y)
      (hrefused : some e = Except.refusal y) : e ∉ pathErrors := by
    cases y with
    | ok _ => cases hrefused
    | error e' =>
      obtain rfl := Option.some.inj hrefused
      exact hy _ rfl
  simp only [State.limitRefusals, List.mem_cons, List.not_mem_nil, or_false] at h
  rcases h with h | h | h
  · exact hof hcredit h
  · unfold refusal at h
    split at h
    · cases h
      simp [pathErrors]
    · cases h
  · exact hof hbalance h

theorem minTopup_error {e : Error} (h : s.minTopup = .error e) : e = .notInitialized := by
  unfold State.minTopup at h
  cases hconfig : (s.config .minTopup : Option Int) with
  | none =>
    rw [hconfig] at h
    exact (Except.error.inj h).symm
  | some minTopup =>
    rw [hconfig] at h
    cases h

theorem not_pathErrors_of_topup {e : Error} (h : s.topupRefusal amount = some e) :
    e ∉ pathErrors := by
  unfold State.topupRefusal at h
  split at h
  · rename_i hunset
    obtain rfl := Option.some.inj h
    simp [minTopup_error hunset, pathErrors]
  · split at h
    · cases h
      simp [pathErrors]
    split at h
    · cases h
      simp [pathErrors]
    · cases h

/-- A deposit of the amount into the subscription fares alike on every path. -/
structure PathsMeet (env : Env) (s : State) (id : Nat) (sub : Subscription) (amount : Int) :
    Prop where
  subscriberUnlisted : s.isBlocklisted sub.subscriber = false
  notCancelled : sub.status ≠ .cancelled
  configured : amount < 0 → ∃ minTopup, s.minTopup = .ok minTopup
  merchantUnlisted : s.topupRefusal amount = none → s.isBlocklisted sub.merchant = false
  atWork : s.topupRefusal amount = none → s.merchantPaused sub.merchant = false →
    s.isMerchantInVacation sub.merchant env.now = false
  notArchived : s.topupRefusal amount = none → s.merchantPaused sub.merchant = false →
    sub.isExpired env.now env.sequence = true → sub.status ≠ .archived
  settled : s.topupRefusal amount = none → s.merchantPaused sub.merchant = false →
    sub.isExpired env.now env.sequence = false → (∀ o ∈ s.limitRefusals sub amount, o = none) →
      s.read (.instanced (.chargeFailureCounter id)) = none ∧
      (sub.status = .insufficientBalance ∨ sub.status = .gracePeriod →
        sub.prepaidBalance + amount < sub.amount)

theorem topupRefusal_of_neg {minTopup : Int} (hamount : amount < 0)
    (hset : s.minTopup = .ok minTopup) : s.topupRefusal amount = some .invalidAmount := by
  unfold State.topupRefusal
  rw [hset]
  exact if_pos hamount

theorem not_neg_of_topup (h : s.topupRefusal amount = none) : ¬amount < 0 := by
  intro hamount
  unfold State.topupRefusal at h
  split at h
  · cases h
  · rw [if_pos hamount] at h
    cases h

theorem settle_of_none {l : List (Option Error)} {result : Option Subscription × Option Nat}
    (h : ∀ o ∈ l, o = none) : settle l result = some (.ok result) := by
  induction l with
  | nil => rfl
  | cons o l ih =>
    obtain rfl := h o List.mem_cons_self
    exact ih fun o ho => h o (List.mem_cons_of_mem _ ho)

/-- Where it refuses, what would have been the result does not matter. -/
theorem settle_congr {l : List (Option Error)} {result result' : Option Subscription × Option Nat}
    (h : (∀ o ∈ l, o = none) → result = result') : settle l result = settle l result' := by
  induction l with
  | nil => rw [h (by simp)]
  | cons o l ih =>
    cases o with
    | some e => rfl
    | none => exact ih fun hl => h fun o ho => (List.mem_cons.mp ho).elim id (hl o)

theorem expiryRefusal_of_open (hcancelled : sub.status ≠ .cancelled) :
    sub.expiryRefusal env.now env.sequence =
      if sub.isExpired env.now env.sequence then
        if sub.status = .archived then some .invalidStatusTransition else some .subscriptionExpired
      else none := by
  unfold Subscription.expiryRefusal
  split
  · cases hstatus : sub.status <;> first | rfl | exact absurd hstatus hcancelled
  · rfl

/-- Under the condition the three lists of checks refuse alike. -/
theorem PathsMeet.results (h : PathsMeet env s id sub amount) :
    settle (s.bulkRefusals env sub amount) (some (sub.toppedUp amount), none) =
        settle (s.singleRefusals env sub amount) (some (sub.toppedUp amount), none) ∧
      settle (s.delegatedRefusals env sub amount)
          (some (sub.toppedUp amount).recovered,
            s.read (.instanced (.chargeFailureCounter id))) =
        settle (s.singleRefusals env sub amount) (some (sub.toppedUp amount), none) := by
  have hsubscriber : s.blocklistRefusal sub.subscriber = none :=
    if_neg (by simp [h.subscriberUnlisted])
  have hcancelled : refusal (sub.status = .cancelled) .invalidStatusTransition = none :=
    if_neg h.notCancelled
  unfold State.bulkRefusals State.singleRefusals State.delegatedRefusals
  rw [hsubscriber, hcancelled]
  cases htopup : s.topupRefusal amount with
  | some e =>
    have hnegative : refusal (amount < 0) .invalidAmount = none ∨
        refusal (amount < 0) .invalidAmount = some e := by
      by_cases hamount : amount < 0
      · obtain ⟨minTopup, hset⟩ := h.configured hamount
        rw [topupRefusal_of_neg hamount hset] at htopup
        exact .inr ((if_pos hamount).trans htopup)
      · exact .inl (if_neg hamount)
    rcases hnegative with hnegative | hnegative <;> simp [hnegative]
  | none =>
    have hnegative : refusal (amount < 0) .invalidAmount = none :=
      if_neg (not_neg_of_topup htopup)
    have hmerchant : s.blocklistRefusal sub.merchant = none :=
      if_neg (by simp [h.merchantUnlisted htopup])
    rw [hnegative, hmerchant]
    cases hpaused : s.merchantPaused sub.merchant with
    | true => simp [State.merchantRefusal, refusal, hpaused]
    | false =>
      have hvacation := h.atWork htopup hpaused
      rw [expiryRefusal_of_open h.notCancelled]
      cases hexpired : sub.isExpired env.now env.sequence with
      | true =>
        have harchived := h.notArchived htopup hpaused hexpired
        simp [State.merchantRefusal, refusal, hpaused, hvacation, harchived]
      | false =>
        have hsettled := h.settled htopup hpaused hexpired
        refine ⟨by simp [State.merchantRefusal, refusal, hpaused, hvacation], ?_⟩
        have hresult : settle (s.limitRefusals sub amount) (some (sub.toppedUp amount).recovered,
            s.read (.instanced (.chargeFailureCounter id))) =
              settle (s.limitRefusals sub amount) (some (sub.toppedUp amount), none) := by
          refine settle_congr fun hlimits => ?_
          obtain ⟨hcounter, hbehind⟩ := hsettled hlimits
          have hkept : (sub.toppedUp amount).recovered = sub.toppedUp amount :=
            if_neg fun hrevived => Int.not_le.mpr (hbehind hrevived.1) hrevived.2
          rw [hcounter, hkept]
        simpa [State.merchantRefusal, refusal, hpaused, hvacation] using hresult

/-- And only under the condition. -/
theorem PathsMeet.of_results
    (hbulk : settle (s.bulkRefusals env sub amount) (some (sub.toppedUp amount), none) =
      settle (s.singleRefusals env sub amount) (some (sub.toppedUp amount), none))
    (hdelegated : settle (s.delegatedRefusals env sub amount)
        (some (sub.toppedUp amount).recovered,
          s.read (.instanced (.chargeFailureCounter id))) =
      settle (s.singleRefusals env sub amount) (some (sub.toppedUp amount), none)) :
    PathsMeet env s id sub amount := by
  -- the batch refuses nobody for being listed and nothing for its status
  have hnever {e : Error} (he : e = .subscriberBlocklisted ∨ e = .invalidStatusTransition) :
      settle (s.singleRefusals env sub amount) (some (sub.toppedUp amount), none) ≠
        some (.error e) := by
    rw [← hbulk]
    refine settle_ne_error fun hmem => ?_
    have hpath : e ∈ pathErrors := he.elim .inl fun h => .inr (.inl h)
    simp only [State.bulkRefusals, List.mem_append, List.mem_cons, List.not_mem_nil,
      or_false] at hmem
    rcases hmem with (hmem | hmem | hmem | hmem) | hmem
    · obtain ⟨-, rfl⟩ := refusal_eq_some.mp hmem.symm
      rcases he with he | he <;> cases he
    · exact not_pathErrors_of_topup hmem.symm hpath
    · unfold State.merchantRefusal at hmem
      split at hmem
      · cases hmem
        rcases he with he | he <;> cases he
      · obtain ⟨-, rfl⟩ := refusal_eq_some.mp hmem.symm
        rcases he with he | he <;> cases he
    · obtain ⟨-, rfl⟩ := refusal_eq_some.mp hmem.symm
      rcases he with he | he <;> cases he
    · exact not_pathErrors_of_limits hmem hpath
  -- and a payer's deposit does not look at vacations
  have hworking : settle (s.singleRefusals env sub amount) (some (sub.toppedUp amount), none) ≠
      some (.error .vacationActive) := by
    rw [← hdelegated]
    refine settle_ne_error fun hmem => ?_
    have hpath : Error.vacationActive ∈ pathErrors := .inr (.inr rfl)
    simp only [State.delegatedRefusals, List.mem_append, List.mem_cons, List.not_mem_nil,
      or_false] at hmem
    rcases hmem with (hmem | hmem | hmem | hmem | hmem) | hmem
    · exact not_pathErrors_of_topup hmem.symm hpath
    · cases (refusal_eq_some.mp hmem.symm).2
    · cases (refusal_eq_some.mp hmem.symm).2
    · cases (refusal_eq_some.mp hmem.symm).2
    · unfold Subscription.expiryRefusal at hmem
      split at hmem
      · split at hmem <;> cases hmem
      · cases hmem
    · exact not_pathErrors_of_limits hmem hpath
  have hsubscriber : s.isBlocklisted sub.subscriber = false := by
    refine Bool.eq_false_iff.mpr fun hlisted => hnever (.inl rfl) ?_
    simp [State.singleRefusals, State.blocklistRefusal, refusal, hlisted]
  have hcancelled : sub.status ≠ .cancelled := by
    intro hcancelled
    refine hnever (.inr rfl) ?_
    simp [State.singleRefusals, State.blocklistRefusal, refusal, hsubscriber, hcancelled]
  have hheads : settle (s.singleRefusals env sub amount) (some (sub.toppedUp amount), none) =
      settle ([s.topupRefusal amount, s.blocklistRefusal sub.merchant,
        s.merchantRefusal sub.merchant env.now, sub.expiryRefusal env.now env.sequence] ++
          s.limitRefusals sub amount) (some (sub.toppedUp amount), none) := by
    simp [State.singleRefusals, State.blocklistRefusal, refusal, hsubscriber, hcancelled]
  rw [hheads] at hbulk hdelegated hnever hworking
  have hmerchant (htopup : s.topupRefusal amount = none) :
      s.isBlocklisted sub.merchant = false := by
    refine Bool.eq_false_iff.mpr fun hlisted => hnever (.inl rfl) ?_
    simp [State.blocklistRefusal, refusal, hlisted, htopup]
  have hwork (htopup : s.topupRefusal amount = none)
      (hpaused : s.merchantPaused sub.merchant = false) :
      s.isMerchantInVacation sub.merchant env.now = false := by
    refine Bool.eq_false_iff.mpr fun hvacation => hworking ?_
    simp [State.blocklistRefusal, refusal, hmerchant htopup, htopup, State.merchantRefusal, hpaused,
      hvacation]
  refine ⟨hsubscriber, hcancelled, fun hamount => ?_, hmerchant, hwork, ?_, ?_⟩
  · cases hset : s.minTopup with
    | ok minTopup => exact ⟨minTopup, rfl⟩
    | error e =>
      have htopup : s.topupRefusal amount = some e := by simp [State.topupRefusal, hset]
      rw [State.bulkRefusals, refusal, if_pos hamount, htopup] at hbulk
      have hsame : Error.invalidAmount = e := Except.error.inj (Option.some.inj hbulk)
      rw [minTopup_error hset] at hsame
      cases hsame
  · intro htopup hpaused hexpired harchived
    refine hnever (.inr rfl) ?_
    rw [expiryRefusal_of_open hcancelled]
    simp [State.blocklistRefusal, refusal, hmerchant htopup, htopup, State.merchantRefusal, hpaused,
      hwork htopup hpaused, hexpired, harchived]
  · intro htopup hpaused hlive hlimits
    have hopen : s.blocklistRefusal sub.merchant = none := if_neg (by simp [hmerchant htopup])
    have hmeets : s.merchantRefusal sub.merchant env.now = none := by
      simp [State.merchantRefusal, refusal, hpaused, hwork htopup hpaused]
    have hnotListed : s.blocklistRefusal sub.subscriber = none := if_neg (by simp [hsubscriber])
    have hunpaused : refusal (s.merchantPaused sub.merchant = true) .merchantPaused = none :=
      if_neg (by simp [hpaused])
    have hrunning : sub.expiryRefusal env.now env.sequence = none := by
      simp [Subscription.expiryRefusal, hlive]
    rw [State.delegatedRefusals, htopup, hopen, hmeets, hnotListed, hunpaused,
      hrunning] at hdelegated
    simp only [List.cons_append, List.nil_append, settle_none] at hdelegated
    rw [settle_of_none hlimits, settle_of_none hlimits] at hdelegated
    obtain ⟨hrecord, hcounter⟩ := Prod.mk.inj (Except.ok.inj (Option.some.inj hdelegated))
    refine ⟨hcounter, fun hbehind => Int.not_le.mp fun hcovered => ?_⟩
    have hrevived : (sub.toppedUp amount).recovered.status = .active := by
      rw [Subscription.recovered, if_pos ⟨hbehind, hcovered⟩]
    rw [Option.some.inj hrecord] at hrevived
    have hstatus : sub.status = .active := hrevived
    rcases hbehind with hbehind | hbehind <;> rw [hbehind] at hstatus <;> cases hstatus

/-- A refused entry of a batch leaves the batch where it was. -/
theorem bulkDepositItems_skips {e : Error} {t : State} (rest : List (Nat × Int))
    (hrefused : (bulkDepositOne caller id amount).run env s = .err e t) :
    (bulkDepositItems caller ((id, amount) :: rest)).run env s =
      (bulkDepositItems caller rest).run env s := by
  obtain rfl := bulkDepositOne_err hrefused
  have hentry : (do
      let _ ← attempt (bulkDepositOne caller id amount)
      pure () : Vault Unit).run env s = .ok () s := by
    have hattempt : (attempt (bulkDepositOne caller id amount)).run env s =
        .ok (Except.error e) s := run_attempt_ok.mpr (.inr ⟨e, rfl, hrefused⟩)
    exact (run_bind_of_ok hattempt).trans rfl
  exact run_seq_of_ok hentry

end Paths

/-! ## Two deposits -/

/-- The admin and a payer have tokens as well. -/
private def patronVault : State := afterCalls <|
  [(sampleEnv 0 [], mint ⟨9⟩ ⟨8⟩ 1000), (sampleEnv 0 [], mint ⟨9⟩ ⟨4⟩ 1000)] ++ sampleVault 0

private theorem patronVault_run : Run Transacts (sampleStart 0)
    [(.other (sampleEnv 0 []), afterCalls (sampleVault 0)),
      (.other (sampleEnv 0 []), sampleStart 0)] patronVault := by
  have hfirst : FiniteStore.AgreeOff (areas [.tokens]) _ _ :=
    (mint_areas ⟨9⟩ ⟨4⟩ 1000).after (sampleEnv 0 []) (afterCalls (sampleVault 0))
  have hsecond : FiniteStore.AgreeOff (areas [.tokens]) _ patronVault :=
    (mint_areas ⟨9⟩ ⟨8⟩ 1000).after (sampleEnv 0 [])
      (afterCalls ((sampleEnv 0 [], mint ⟨9⟩ ⟨4⟩ 1000) :: sampleVault 0))
  exact (sample_transacted 0).next (.other ((hfirst.trans hsecond).mono (areas_mono rfl)))

private def patronGrants : List (Env × VaultCall) :=
  [(sampleEnv 1 [⟨2⟩], .grantDelegatedPayer ⟨2⟩ ⟨4⟩ 1000 50),
   (sampleEnv 0 [⟨2⟩], .createSubscription sampleRequest)]

private def grantedVault : State := stateAfter patronVault patronGrants

private theorem grantedVault_run : Run Transacts (sampleStart 0)
    (transactionHistory patronVault patronGrants ++
      [(.other (sampleEnv 0 []), afterCalls (sampleVault 0)),
        (.other (sampleEnv 0 []), sampleStart 0)]) grantedVault :=
  run_transactions patronVault_run (by decide +kernel)

private theorem patrons_ready {s : State} {now : Nat} (hnow : now < 1000)
    (hfacts : (s.effectiveSubscription 0 now).map (fun sub => (sub.subscriber, sub.token)) =
      some (⟨2⟩, ⟨9⟩))
    (hgrant : s.read (.persistent (.delegatedPayerGrant ⟨2⟩ ⟨4⟩)) = some ⟨⟨2⟩, ⟨4⟩, 1000, 50⟩)
    (hfunds : ∀ holder ∈ [(⟨2⟩ : Address), ⟨8⟩, ⟨4⟩], 10 ≤ s.balanceOf ⟨9⟩ holder) :
    DepositorsReady (sampleEnv now [⟨2⟩, ⟨4⟩, ⟨8⟩]) s 0 10 ⟨8⟩ ⟨4⟩ := by
  have hparties {sub : Subscription} (hfound : s.effectiveSubscription 0 now = some sub) :
      sub.subscriber = ⟨2⟩ ∧ sub.token = ⟨9⟩ := by
    rw [hfound] at hfacts
    exact Prod.mk.inj (Option.some.inj hfacts)
  refine ⟨rfl, ⟨rfl, show (⟨4⟩ : Address) ≠ ⟨0⟩ by decide⟩, fun sub hfound => ?_,
    fun sub hfound => ?_, fun sub hfound => ?_⟩
  · rw [(hparties hfound).1]
    exact ⟨rfl, show (⟨2⟩ : Address) ≠ ⟨0⟩ by decide⟩
  · rw [(hparties hfound).1]
    exact ⟨_, hgrant, hnow, by decide⟩
  · rw [(hparties hfound).1, (hparties hfound).2]
    exact fun holder hholder => ⟨hfunds holder hholder, rfl⟩

private def behindVault : State :=
  (VaultCall.chargeSubscription 0 none).exec.after (sampleEnv 60 []) grantedVault

end SubscriptionVault
