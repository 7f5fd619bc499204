import SubscriptionVault.Charging.Errors
import SubscriptionVault.Lifecycle.Consents

/-!
# Vacations of merchants

While a merchant is on vacation nothing should be charged on its behalf or deposited for it.
Every charge and deposit has its own copy of the test. Some of the copies look at the merchant
only, some at the listed payees only, and two are missing.
-/

namespace SubscriptionVault

open Exec

/-! ## Charges and deposits -/

inductive BillingKind where
  | interval | usage | oneOff | buyout | deposit | bulkDeposit | delegatedDeposit

/-- A charge of a subscription or a deposit to it. -/
inductive Billing where
  | interval (id : Nat) (key : Option BytesN32)
  | usage (id : Nat) (usageAmount : Int) (reference : Bytes)
  | oneOff (id : Nat) (merchant : Address) (amount : Int) (key : Option BytesN32)
  | buyout (id : Nat) (subscriber : Address) (amount : Int) (key : Option BytesN32)
  | deposit (id : Nat) (amount : Int) (nonce : Option Nat)
  | bulkDeposit (caller : Address) (id : Nat) (amount : Int)
  | delegatedDeposit (id : Nat) (payer : Address) (amount : Int) (nonce : Option Nat)

namespace Billing

def exec : Billing → Vault Unit
  | interval id key => effectOf (chargeOne id key none ∅)
  | usage id usageAmount reference => effectOf (chargeUsageOne id usageAmount reference)
  | oneOff id merchant amount key => doChargeOneOff id merchant amount key
  | buyout id subscriber amount key => effectOf (doGraceBuyout id subscriber amount key)
  | deposit id amount nonce => doDepositFunds id amount nonce
  | bulkDeposit caller id amount => bulkDepositOne caller id amount
  | delegatedDeposit id payer amount nonce => doDepositFundsOnBehalf id payer amount nonce

def kind : Billing → BillingKind
  | interval .. => .interval
  | usage .. => .usage
  | oneOff .. => .oneOff
  | buyout .. => .buyout
  | deposit .. => .deposit
  | bulkDeposit .. => .bulkDeposit
  | delegatedDeposit .. => .delegatedDeposit

def id : Billing → Nat
  | interval id _ | usage id _ _ | oneOff id _ _ _ | buyout id _ _ _ | deposit id _ _
  | bulkDeposit _ id _ | delegatedDeposit id _ _ _ => id

end Billing

/-- What the action does, the error of an entry not caught. -/
def VaultAction.body : VaultAction → Vault Unit
  | .call _ c => c.exec
  | .item _ entry => entry.exec
  | .other _ => pure ()

/-- What is charged or deposited, if anything is. -/
def VaultAction.billing : VaultAction → Option Billing
  | .call _ (.chargeSubscription id key) => some (.interval id key)
  | .call _ (.operatorChargeSubscription _ id) => some (.interval id none)
  | .item _ (.charge id key) => some (.interval id key)
  | .call _ (.chargeUsage id usageAmount) => some (.usage id usageAmount usageReference)
  | .call _ (.chargeUsageWithReference id usageAmount reference) =>
    some (.usage id usageAmount reference)
  | .call _ (.operatorChargeUsage _ id usageAmount) => some (.usage id usageAmount [])
  | .call _ (.operatorChargeUsageWithRef _ id usageAmount reference) =>
    some (.usage id usageAmount reference)
  | .call _ (.chargeOneOff id merchant amount key) => some (.oneOff id merchant amount key)
  | .call _ (.graceBuyout id subscriber amount key) => some (.buyout id subscriber amount key)
  | .call _ (.depositFunds id amount nonce) => some (.deposit id amount nonce)
  | .item _ (.deposit caller id amount) => some (.bulkDeposit caller id amount)
  | .call _ (.depositFundsOnBehalf id payer amount nonce) =>
    some (.delegatedDeposit id payer amount nonce)
  | _ => none

/-- On whose behalf a subscription is charged. -/
inductive Party where
  | merchant | payee

/-- The address is the subscription's merchant, or one of its listed payees. -/
def State.bills (s : State) (id : Nat) : Party → Address → Prop
  | .merchant, m => ∃ sub, s.subscription id = some sub ∧ sub.merchant = m
  | .payee, m => ∃ split, s.splitPayees id = some split ∧ m ∈ split.entries.map Prod.fst

/-- Deposits are not divided among payees. -/
def BillingKind.concerns : BillingKind → Party → Bool
  | .deposit, .payee | .bulkDeposit, .payee | .delegatedDeposit, .payee => false
  | _, _ => true

/-- The vacations that are looked at. -/
def BillingKind.heeds : BillingKind → Party → Bool
  | .interval, _ | .usage, _ | .oneOff, .payee | .deposit, .merchant | .bulkDeposit, .merchant =>
    true
  | _, _ => false

section Bodies

variable {α : Type} {a : α} {env : Env} {s t v : State} {id : Nat} {party : Party}
  {m : Address} {b : Billing} {amount : Int} {nonce : Option Nat}

/-- Somebody the subscription is charged for is on vacation. -/
def State.Away (s : State) (kind : BillingKind) (id now : Nat) : Prop :=
  ∃ party m, kind.concerns party = true ∧ s.bills id party m ∧
    s.isMerchantInVacation m now = true

theorem State.bills_of_areas (h : FiniteStore.AgreeOff (areas [.locks]) s v) :
    v.bills id = s.bills id := by
  have hsub : v.subscription id = s.subscription id := State.read_of_areas h rfl
  have hsplit : v.splitPayees id = s.splitPayees id := State.read_of_areas h rfl
  funext party m
  cases party with
  | merchant => simp only [State.bills, hsub]
  | payee => simp only [State.bills, hsplit]

theorem State.isMerchantInVacation_of_areas (h : FiniteStore.AgreeOff (areas [.locks]) s v)
    (m : Address) (now : Nat) : v.isMerchantInVacation m now = s.isMerchantInVacation m now := by
  have hread : v.merchantVacation m = s.merchantVacation m := State.read_of_areas h rfl
  unfold State.isMerchantInVacation
  rw [hread]

theorem isMerchantInVacation_of_nonces {signer : Address} {domain : NonceDomain}
    {nonce : Option Nat} {u : Unit}
    (hrun : (whenSome nonce (checkAndAdvance signer domain)).run env s = .ok u v) (now : Nat) :
    v.isMerchantInVacation m now = s.isMerchantInVacation m now := by
  have hnonces : Modifies (areas [.nonces]) (whenSome nonce (checkAndAdvance signer domain)) :=
    .whenSome fun _ => Modifies.checkAndAdvance rfl
  have hread : v.merchantVacation m = s.merchantVacation m :=
    State.read_of_areas (hnonces.ok hrun) rfl
  unfold State.isMerchantInVacation
  rw [hread]

/-! ### Success -/

theorem State.present_of_status (h : s.merchantStatus m env.now = (false, false)) :
    s.isMerchantInVacation m env.now = false :=
  congrArg Prod.snd h

theorem State.bills_merchant_of_reads {sub : Subscription} (hreads : s.book.Reads id sub)
    (hbills : s.bills id .merchant m) : sub.merchant = m := by
  obtain ⟨stored, hstored, rfl⟩ := hbills
  obtain ⟨read, hread, hsame⟩ := hreads
  obtain rfl := Option.some.inj (hstored.symm.trans hread)
  rcases hsame with rfl | ⟨-, rfl⟩ <;> rfl

theorem present_of_payees (hpayees : ∀ split, s.splitPayees id = some split →
      ∀ entry ∈ split.entries, s.payeeOpen entry.1 env.now)
    (hbills : s.bills id .payee m) : s.isMerchantInVacation m env.now = false := by
  obtain ⟨split, hsplit, hmem⟩ := hbills
  obtain ⟨entry, hentry, rfl⟩ := List.mem_map.mp hmem
  exact State.present_of_status (hpayees split hsplit entry hentry).2

theorem present_of_cleared {sub : Subscription} (h : Cleared env s id sub)
    (hbills : s.bills id party m) : s.isMerchantInVacation m env.now = false := by
  cases party with
  | merchant =>
    obtain rfl := State.bills_merchant_of_reads (Book.reads_of_effective h.found) hbills
    exact State.present_of_status h.merchantOpen
  | payee => exact present_of_payees h.payeesOpen hbills

/-- A charge or deposit that succeeds has found everybody present whom it looks at. -/
theorem Billing.present (hrun : b.exec.run env s = .ok () t) (hheeds : b.kind.heeds party = true)
    (hbills : s.bills b.id party m) : s.isMerchantInVacation m env.now = false := by
  cases b with
  | interval id key =>
    obtain ⟨_, hrun⟩ := run_effectOf_ok.mp hrun
    obtain ⟨sub, hcleared, -⟩ := run_parties_ok hrun
    exact present_of_cleared hcleared hbills
  | usage id usageAmount reference =>
    obtain ⟨_, hrun⟩ := run_effectOf_ok.mp hrun
    obtain ⟨sub, hcleared, -⟩ := run_parties_ok hrun
    exact present_of_cleared hcleared hbills
  | oneOff id merchant amount key =>
    cases party with
    | merchant => cases hheeds
    | payee =>
      obtain ⟨_, -, hrun⟩ := run_check_ok .ask hrun
      obtain ⟨_, -, hrun⟩ := run_check_ok (Modifies.requireAuth _) hrun
      obtain ⟨sub, -, -, hrun⟩ := run_read_ok hrun
      obtain ⟨_, -, hrun⟩ := run_check_ok (Modifies.requireNotBlocklisted _) hrun
      obtain ⟨_, -, hrun⟩ := run_check_ok (Modifies.requireNotBlocklisted _) hrun
      obtain ⟨_, hpayees, -⟩ := run_check_ok (Modifies.checkSplitPayees id) hrun
      exact present_of_payees (run_checkSplitPayees_ok.mp hpayees).1 hbills
  | buyout => cases party <;> cases hheeds
  | delegatedDeposit => cases party <;> cases hheeds
  | bulkDeposit caller id amount =>
    cases party with
    | payee => cases hheeds
    | merchant =>
      obtain ⟨_, -, hrun⟩ := run_check_ok .ask hrun
      obtain ⟨sub, hreads, -, hrun⟩ := run_read_ok hrun
      obtain ⟨_, -, hrun⟩ := run_check_ok (.failIf _ _) hrun
      obtain ⟨_, -, hrun⟩ := run_check_ok (Modifies.enforceMinTopup _) hrun
      obtain ⟨_, hstatus, -⟩ := run_check_ok (Modifies.checkMerchantStatus _ _) hrun
      obtain rfl := State.bills_merchant_of_reads hreads hbills
      exact State.present_of_status (by simpa using (run_checkMerchantStatus_ok.mp hstatus).1)
  | deposit id amount nonce =>
    cases party with
    | payee => cases hheeds
    | merchant =>
      obtain ⟨_, -, hrun⟩ := run_check_ok .ask hrun
      obtain ⟨sub, hreads, -, hrun⟩ := run_read_ok hrun
      obtain ⟨_, -, hrun⟩ := run_check_ok (Modifies.requireAuth _) hrun
      obtain ⟨_, -, hrun⟩ := run_check_ok (Modifies.requireNotBlocklisted _) hrun
      obtain ⟨_, v, hnonce, hrun⟩ := run_bind_ok.mp hrun
      obtain ⟨_, -, hrun⟩ := run_check_ok (.failIf _ _) hrun
      obtain ⟨_, -, hrun⟩ := run_check_ok (Modifies.enforceMinTopup _) hrun
      obtain ⟨_, -, hrun⟩ := run_check_ok (Modifies.requireNotBlocklisted _) hrun
      obtain ⟨_, hstatus, -⟩ := run_check_ok (Modifies.checkMerchantStatus _ _) hrun
      have hpresent : v.isMerchantInVacation sub.merchant env.now = false :=
        State.present_of_status (by simpa using (run_checkMerchantStatus_ok.mp hstatus).1)
      obtain rfl := State.bills_merchant_of_reads hreads hbills
      rw [← isMerchantInVacation_of_nonces hnonce]
      exact hpresent

/-! ### Refusal -/

def notVacation : Set Error := {e | e ≠ .vacationActive}

theorem ordinary_notVacation : ordinary ⊆ notVacation := by
  rintro e he rfl
  cases he

private theorem vacation_not_mem : Error.vacationActive ∉ notVacation := fun h => h rfl

private theorem run_check_vacation {β : Type} {x : Vault α} {f : α → Vault β} (hx : x.Keeps Eq)
    (hraises : x.Raises notVacation) (hrun : (x >>= f).run env s = .err .vacationActive t) :
    ∃ a, x.run env s = .ok a s ∧ (f a).run env s = .err .vacationActive t :=
  hraises.run_check_err hx vacation_not_mem hrun

theorem run_checkMerchantStatus_vacation
    (hrun : (checkMerchantStatus m ∅).run env s = .err .vacationActive t) :
    s.isMerchantInVacation m env.now = true := by
  obtain ⟨_, hask, hrun⟩ := run_check_vacation .ask .ask hrun
  obtain ⟨rfl, -⟩ := run_ask_ok.mp hask
  obtain ⟨status, hstatus, hrun⟩ := run_check_vacation (.gets _) (.gets _) hrun
  obtain ⟨_, -, hrun⟩ := run_check_vacation (.failIf _ _)
    (.failIf (e := .merchantPaused) nofun) hrun
  have haway : status.2 = true := (run_failIf_err.mp hrun).1
  rw [(run_gets_ok.mp hstatus).1.symm] at haway
  simpa [State.merchantStatus] using haway

theorem run_checkSplitPayees_vacation
    (hrun : (checkSplitPayees id).run env s = .err .vacationActive t) :
    ∃ m, s.bills id .payee m ∧ s.isMerchantInVacation m env.now = true := by
  obtain ⟨found, hfound, hrun⟩ := run_check_vacation (.gets _) (.gets _) hrun
  cases found with
  | none => exact (run_pure_err.mp hrun).elim
  | some split =>
    obtain ⟨entry, hmem, hrun⟩ := Keeps.run_forEach_err (fun _ => Modifies.checkPayee _) hrun
    obtain ⟨_, -, hrun⟩ := run_check_vacation (Modifies.requireNotBlocklisted _)
      (raises_requireNotBlocklisted ordinary_notVacation _) hrun
    exact ⟨entry.1, ⟨split, (run_gets_ok.mp hfound).1, List.mem_map_of_mem hmem⟩,
      run_checkMerchantStatus_vacation hrun⟩

theorem State.bills_of_reads {sub : Subscription} (hreads : s.book.Reads id sub) :
    s.bills id .merchant sub.merchant := by
  obtain ⟨stored, hstored, hsame⟩ := hreads
  refine ⟨stored, hstored, ?_⟩
  rcases hsame with rfl | ⟨-, rfl⟩ <;> rfl

/-- The checks of interval and usage charges. -/
private theorem run_parties_vacation {rest : Subscription → Vault α}
    (hrest : ∀ sub, (rest sub).Raises notVacation)
    (hrun : (do
      requireNotEmergencyStop
      let sub ← getSubscription id
      checkMerchantStatus sub.merchant ∅
      requireNotBlocklisted sub.subscriber
      requireNotBlocklisted sub.merchant
      checkSplitPayees id
      failIfExpired id sub
      rest sub : Vault α).run env s = .err .vacationActive t) :
    ∃ party m, s.bills id party m ∧ s.isMerchantInVacation m env.now = true := by
  obtain ⟨_, -, hrun⟩ := run_check_vacation Modifies.requireNotEmergencyStop
    (raises_requireNotEmergencyStop ordinary_notVacation) hrun
  obtain ⟨sub, hget, hrun⟩ := run_check_vacation (Modifies.getSubscription id)
    (raises_getSubscription ordinary_notVacation id) hrun
  have hreads := Book.reads_of_effective (run_getSubscription_ok.mp hget).1
  rcases run_bind_err.mp hrun with haway | ⟨_, u, hopen, hrun⟩
  · exact ⟨.merchant, _, State.bills_of_reads hreads, run_checkMerchantStatus_vacation haway⟩
  obtain ⟨-, rfl⟩ := run_checkMerchantStatus_ok.mp hopen
  obtain ⟨_, -, hrun⟩ := run_check_vacation (Modifies.requireNotBlocklisted _)
    (raises_requireNotBlocklisted ordinary_notVacation _) hrun
  obtain ⟨_, -, hrun⟩ := run_check_vacation (Modifies.requireNotBlocklisted _)
    (raises_requireNotBlocklisted ordinary_notVacation _) hrun
  rcases run_bind_err.mp hrun with haway | ⟨_, u, hopen, hrun⟩
  · obtain ⟨m, hbills, hvacation⟩ := run_checkSplitPayees_vacation haway
    exact ⟨.payee, m, hbills, hvacation⟩
  · obtain ⟨_, _, -, hrun⟩ := (raises_failIfExpired ordinary_notVacation id sub).run_bind_err
      vacation_not_mem hrun
    exact absurd (hrest sub _ _ _ _ hrun) vacation_not_mem

private theorem deposit_vacation (hrun : (doDepositFunds id amount nonce).run env s =
      .err .vacationActive t) :
    ∃ m, s.bills id .merchant m ∧ s.isMerchantInVacation m env.now = true := by
  obtain ⟨_, -, hrun⟩ := run_check_vacation .ask .ask hrun
  obtain ⟨sub, hget, hrun⟩ := run_check_vacation (Modifies.getSubscription id)
    (raises_getSubscription ordinary_notVacation id) hrun
  obtain ⟨_, -, hrun⟩ := run_check_vacation (Modifies.requireAuth _) (raises_requireAuth _) hrun
  obtain ⟨_, -, hrun⟩ := run_check_vacation (Modifies.requireNotBlocklisted _)
    (raises_requireNotBlocklisted ordinary_notVacation _) hrun
  obtain ⟨_, v, hnonce, hrun⟩ := (Raises.whenSome fun _ => raises_checkAndAdvance
    ordinary_notVacation _ _ _).run_bind_err vacation_not_mem hrun
  obtain ⟨_, -, hrun⟩ := run_check_vacation (.failIf _ _)
    (.failIf (e := .invalidStatusTransition) nofun) hrun
  obtain ⟨_, -, hrun⟩ := run_check_vacation (Modifies.enforceMinTopup _)
    (raises_enforceMinTopup ordinary_notVacation _) hrun
  obtain ⟨_, -, hrun⟩ := run_check_vacation (Modifies.requireNotBlocklisted _)
    (raises_requireNotBlocklisted ordinary_notVacation _) hrun
  rcases run_bind_err.mp hrun with haway | ⟨_, u, hopen, hrun⟩
  · refine ⟨sub.merchant, State.bills_of_reads
      (Book.reads_of_effective (run_getSubscription_ok.mp hget).1), ?_⟩
    rw [← isMerchantInVacation_of_nonces hnonce]
    exact run_checkMerchantStatus_vacation haway
  · have hE := ordinary_notVacation
    refine absurd (Raises.bind (E := notVacation) (raises_failIfExpired hE _ _) (fun _ =>
      .bind (raises_enforceCreditLimitForDelta hE _ _ _) fun _ =>
      .bind (raises_enforceDepositCap hE _ _) fun _ =>
      .bind (.lift (fails_safeAddBalance hE _ _)) fun _ => .bind raises_delete fun _ =>
      .bind raises_store fun _ => .bind (raises_transfer _ _ _ _) fun _ => .pure _)
      _ _ _ _ hrun) vacation_not_mem

private theorem bulkDeposit_vacation {caller : Address}
    (hrun : (bulkDepositOne caller id amount).run env s = .err .vacationActive t) :
    ∃ m, s.bills id .merchant m ∧ s.isMerchantInVacation m env.now = true := by
  obtain ⟨_, -, hrun⟩ := run_check_vacation .ask .ask hrun
  obtain ⟨sub, hget, hrun⟩ := run_check_vacation (Modifies.getSubscription id)
    (raises_getSubscription ordinary_notVacation id) hrun
  obtain ⟨_, -, hrun⟩ := run_check_vacation (.failIf _ _)
    (.failIf (e := .invalidAmount) nofun) hrun
  obtain ⟨_, -, hrun⟩ := run_check_vacation (Modifies.enforceMinTopup _)
    (raises_enforceMinTopup ordinary_notVacation _) hrun
  rcases run_bind_err.mp hrun with haway | ⟨_, u, hopen, hrun⟩
  · exact ⟨sub.merchant, State.bills_of_reads
      (Book.reads_of_effective (run_getSubscription_ok.mp hget).1),
      run_checkMerchantStatus_vacation haway⟩
  · have hE := ordinary_notVacation
    refine absurd (Raises.bind (E := notVacation)
      (.failIf (e := .subscriptionExpired) (hE rfl)) (fun _ =>
      .bind (raises_enforceCreditLimitForDelta hE _ _ _) fun _ =>
      .bind (raises_enforceDepositCap hE _ _) fun _ =>
      .bind (.lift (fails_safeAddBalance hE _ _)) fun _ => .bind raises_delete fun _ =>
      .bind raises_store fun _ => .bind (raises_transfer _ _ _ _) fun _ => .pure _)
      _ _ _ _ hrun) vacation_not_mem

/-- A refusal for a vacation says that somebody is on vacation. -/
theorem Billing.away (hrun : b.exec.run env s = .err .vacationActive t) :
    s.Away b.kind b.id env.now := by
  have hE := ordinary_notVacation
  cases b with
  | interval id key =>
    obtain ⟨party, m, hbills, haway⟩ := run_parties_vacation
      (fun sub => raises_chargeChecked hE nofun id sub key) (run_effectOf_err.mp hrun)
    exact ⟨party, m, rfl, hbills, haway⟩
  | usage id usageAmount reference =>
    obtain ⟨party, m, hbills, haway⟩ := run_parties_vacation
      (fun sub => raises_chargeUsageChecked hE id sub usageAmount reference)
      (run_effectOf_err.mp hrun)
    exact ⟨party, m, rfl, hbills, haway⟩
  | oneOff id merchant amount key =>
    obtain ⟨_, -, hrun⟩ := run_check_vacation .ask .ask hrun
    obtain ⟨_, -, hrun⟩ := run_check_vacation (Modifies.requireAuth _) (raises_requireAuth _) hrun
    obtain ⟨sub, -, hrun⟩ := run_check_vacation (Modifies.getSubscription id)
      (raises_getSubscription hE id) hrun
    obtain ⟨_, -, hrun⟩ := run_check_vacation (Modifies.requireNotBlocklisted _)
      (raises_requireNotBlocklisted hE _) hrun
    obtain ⟨_, -, hrun⟩ := run_check_vacation (Modifies.requireNotBlocklisted _)
      (raises_requireNotBlocklisted hE _) hrun
    rcases run_bind_err.mp hrun with haway | ⟨_, u, hopen, hrun⟩
    · obtain ⟨m, hbills, hvacation⟩ := run_checkSplitPayees_vacation haway
      exact ⟨.payee, m, rfl, hbills, hvacation⟩
    · refine absurd (Raises.bind (E := notVacation) (raises_failIfExpired hE _ _) (fun _ =>
        .bind (.gets _) fun _ => .when (.bind (raises_checkOneOff hE _ _ _ _) fun _ =>
        raises_settleOneOff hE _ _ _ _ _)) _ _ _ _ hrun) vacation_not_mem
  | buyout id subscriber amount key =>
    exact absurd (raises_doGraceBuyout hE _ _ _ _ _ _ _ _ (run_effectOf_err.mp hrun))
      vacation_not_mem
  | delegatedDeposit id payer amount nonce =>
    exact absurd (raises_doDepositFundsOnBehalf hE _ _ _ _ _ _ _ _ hrun) vacation_not_mem
  | deposit id amount nonce =>
    obtain ⟨m, hbills, haway⟩ := deposit_vacation hrun
    exact ⟨.merchant, m, rfl, hbills, haway⟩
  | bulkDeposit caller id amount =>
    obtain ⟨m, hbills, haway⟩ := bulkDeposit_vacation hrun
    exact ⟨.merchant, m, rfl, hbills, haway⟩

end Bodies

/-! ## Calls -/

section Calls

variable {α : Type} {a : α} {env : Env} {s t : State} {name : LockName} {body : Vault α}
  {l : VaultAction} {b : Billing} {op : Address}

theorem run_guardedCall_areas (hrun : (guardedCall name body).run env s = .ok a t) :
    ∃ v w, body.run env v = .ok a w ∧ FiniteStore.AgreeOff (areas [.locks]) s v := by
  obtain ⟨v, w, hbody, hlocked, -⟩ := run_withLock_areas (run_guardedCall_ok.mp hrun).2
  exact ⟨v, w, hbody, hlocked⟩

theorem run_guardedCall_vacation
    (hrun : (guardedCall name body).run env s = .err .vacationActive t) :
    ∃ v w, body.run env v = .err .vacationActive w ∧
      FiniteStore.AgreeOff (areas [.locks]) s v := by
  obtain ⟨_, -, hrun⟩ := run_check_vacation Modifies.requireNotEmergencyStop
    (raises_requireNotEmergencyStop ordinary_notVacation) hrun
  rcases run_withLock_err hrun with ⟨hlocked, -⟩ | ⟨w, hbody, -⟩
  · cases hlocked
  · exact ⟨_, w, hbody, s.agreeOff_write true rfl⟩

theorem run_operated_ok
    (hrun : (do requireOperatorAuth op; body : Vault α).run env s = .ok a t) :
    body.run env s = .ok a t := by
  obtain ⟨_, -, hrun⟩ := run_check_ok (keeps_requireOperatorAuth op) hrun
  exact hrun

theorem run_operated_vacation
    (hrun : (do requireOperatorAuth op; body : Vault α).run env s = .err .vacationActive t) :
    body.run env s = .err .vacationActive t := by
  have hE := ordinary_notVacation
  obtain ⟨_, -, hrun⟩ := run_check_vacation (keeps_requireOperatorAuth op)
    (.bind (raises_requireAuth _) fun _ => .bind (.gets _) fun _ => .bind (.okOr (hE rfl)) fun _ =>
      .failIf (hE rfl)) hrun
  exact hrun

/-- A call or an entry that charges or deposits does so behind its lock. -/
theorem VaultAction.billing_ok (hb : l.billing = some b)
    (hrun : l.body.run l.env s = .ok () t) :
    ∃ v w, b.exec.run l.env v = .ok () w ∧ FiniteStore.AgreeOff (areas [.locks]) s v := by
  cases l with
  | other => cases hb
  | item env entry =>
    cases entry
    case charge | deposit =>
      cases hb
      exact ⟨s, t, hrun, Std.Refl.refl _⟩
    all_goals cases hb
  | call env c =>
    cases c
    case chargeSubscription | chargeUsage | chargeUsageWithReference | graceBuyout =>
      cases hb
      obtain ⟨_, hcall⟩ := run_effectOf_ok.mp hrun
      obtain ⟨v, w, hbody, hlocked⟩ := run_guardedCall_areas hcall
      exact ⟨v, w, run_effectOf_ok.mpr ⟨_, hbody⟩, hlocked⟩
    case operatorChargeSubscription | operatorChargeUsage | operatorChargeUsageWithRef =>
      cases hb
      obtain ⟨_, hcall⟩ := run_effectOf_ok.mp hrun
      obtain ⟨v, w, hbody, hlocked⟩ := run_guardedCall_areas hcall
      exact ⟨v, w, run_effectOf_ok.mpr ⟨_, run_operated_ok hbody⟩, hlocked⟩
    case chargeOneOff | depositFunds | depositFundsOnBehalf =>
      cases hb
      exact run_guardedCall_areas hrun
    all_goals cases hb

theorem VaultAction.billing_vacation (hb : l.billing = some b)
    (hrun : l.body.run l.env s = .err .vacationActive t) :
    ∃ v w, b.exec.run l.env v = .err .vacationActive w ∧
      FiniteStore.AgreeOff (areas [.locks]) s v := by
  cases l with
  | other => cases hb
  | item env entry =>
    cases entry
    case charge | deposit =>
      cases hb
      exact ⟨s, t, hrun, Std.Refl.refl _⟩
    all_goals cases hb
  | call env c =>
    cases c
    case chargeSubscription | chargeUsage | chargeUsageWithReference | graceBuyout =>
      cases hb
      obtain ⟨v, w, hbody, hlocked⟩ := run_guardedCall_vacation (run_effectOf_err.mp hrun)
      exact ⟨v, w, run_effectOf_err.mpr hbody, hlocked⟩
    case operatorChargeSubscription | operatorChargeUsage | operatorChargeUsageWithRef =>
      cases hb
      obtain ⟨v, w, hbody, hlocked⟩ := run_guardedCall_vacation (run_effectOf_err.mp hrun)
      exact ⟨v, w, run_effectOf_err.mpr (run_operated_vacation hbody), hlocked⟩
    case chargeOneOff | depositFunds | depositFundsOnBehalf =>
      cases hb
      exact run_guardedCall_vacation hrun
    all_goals cases hb

end Calls

/-! ## What vacations stop -/

/-- In every state that is reached, a vacation of the party stops the charges or deposits of the
kind. -/
def VacationBlocks (kind : BillingKind) (party : Party) : Prop :=
  ∀ (start s : State) (hist : History VaultAction State), Deployed start →
    Run VaultStep start hist s → ∀ (l : VaultAction) (b : Billing) (m : Address) (t : State),
      l.billing = some b → b.kind = kind → s.bills b.id party m →
        s.isMerchantInVacation m l.env.now = true → l.body.run l.env s ≠ .ok () t

theorem vacationBlocks_of_heeds {kind : BillingKind} {party : Party}
    (hheeds : kind.heeds party = true) : VacationBlocks kind party := by
  rintro start s hist - - l b m t hb rfl hbills haway hrun
  obtain ⟨v, w, hbody, hlocked⟩ := VaultAction.billing_ok hb hrun
  rw [← State.bills_of_areas hlocked] at hbills
  have hpresent := Billing.present hbody hheeds hbills
  rw [State.isMerchantInVacation_of_areas hlocked, haway] at hpresent
  cases hpresent

/-- Merchant 1 and payee 3 are on vacation from time 100 on. -/
private def onVacation : List (Env × Vault Unit) :=
  [(sampleEnv 0 [⟨3⟩], setMerchantVacation ⟨3⟩ 100 1000),
   (sampleEnv 0 [⟨1⟩], setMerchantVacation ⟨1⟩ 100 1000),
   (sampleEnv 0 [], mint ⟨9⟩ ⟨4⟩ 1000)] ++ sampleVault 3600

private def beforeVacation : List VaultAction :=
  [.call (sampleEnv 60 []) (.chargeSubscription 0 none),
   .call (sampleEnv 2 [⟨2⟩]) (.grantDelegatedPayer ⟨2⟩ ⟨4⟩ 1000 50),
   .call (sampleEnv 1 [⟨2⟩]) (.depositFunds 1 100 none),
   .call (sampleEnv 0 [⟨2⟩]) (.createSubscription sampleRequest),
   .call (sampleEnv 0 [⟨2⟩]) (.createSubscriptionWithSplit sampleRequest
     [(⟨1⟩, 5000), (⟨3⟩, 5000)])]

theorem setMerchantVacation_areas (merchant : Address) (startTs endTs : Nat) :
    Modifies (areas [.merchants]) (setMerchantVacation merchant startTs endTs) :=
  .bind (Modifies.requireAuth _) fun _ => .bind (.failIf _ _) fun _ => .bind .ask fun _ =>
    .bind (.failIf _ _) fun _ => Modifies.store rfl

/-- What is missing from the code: each of the three goes through during the vacation. -/
private theorem ignored_vacations : ∃ (hist : History VaultAction State) (s : State),
    Run VaultStep (sampleStart 3600) hist s ∧
    s.isMerchantInVacation ⟨1⟩ 200 = true ∧ s.isMerchantInVacation ⟨3⟩ 200 = true ∧
    s.bills 0 .merchant ⟨1⟩ ∧ s.bills 1 .merchant ⟨1⟩ ∧ s.bills 0 .payee ⟨3⟩ ∧
    (∃ t, (VaultCall.chargeOneOff 1 ⟨1⟩ 5 none).exec.run (sampleEnv 200 [⟨1⟩]) s = .ok () t) ∧
    (∃ t, (VaultCall.graceBuyout 0 ⟨2⟩ 10 none).exec.run (sampleEnv 200 [⟨2⟩]) s = .ok () t) ∧
    ∃ t, (VaultCall.depositFundsOnBehalf 1 ⟨4⟩ 40 none).exec.run (sampleEnv 200 [⟨4⟩]) s =
      .ok () t := by
  have hmint : Modifies (areas [.tokens]) (mint ⟨9⟩ ⟨4⟩ 1000) :=
    .update fun s => s.agreeOff_write _ rfl
  have hfirst := ((hmint.unbooked rfl).after (sampleEnv 0 []) (afterCalls (sampleVault 3600))).trans
    (((setMerchantVacation_areas ⟨1⟩ 100 1000).unbooked rfl).after (sampleEnv 0 [⟨1⟩]) _)
  have hsecond := hfirst.trans
    (((setMerchantVacation_areas ⟨3⟩ 100 1000).unbooked rfl).after (sampleEnv 0 [⟨3⟩]) _)
  have hstart : Run VaultStep (sampleStart 3600)
      [(.other (sampleEnv 0 []), sampleStart 3600)] (afterCalls onVacation) :=
    Run.start.next (.other ((sample_quiet 3600).trans hsecond))
  have hrun := run_actions hstart
    (show actionsSucceed (afterCalls onVacation) beforeVacation = true by decide +kernel)
  have hmerchant (id : Nat) (h : ((actionsAfter (afterCalls onVacation) beforeVacation).subscription
      id).map (·.merchant) = some ⟨1⟩) :
      (actionsAfter (afterCalls onVacation) beforeVacation).bills id .merchant ⟨1⟩ :=
    Option.map_eq_some_iff.mp h
  have hpayee : ((actionsAfter (afterCalls onVacation) beforeVacation).splitPayees 0).map
      (·.entries) = some [(⟨1⟩, 5000), (⟨3⟩, 5000)] := by decide +kernel
  obtain ⟨split, hsplit, hentries⟩ := Option.map_eq_some_iff.mp hpayee
  refine ⟨_, _, hrun, by decide +kernel, by decide +kernel, hmerchant 0 (by decide +kernel),
    hmerchant 1 (by decide +kernel), ⟨split, hsplit, ?_⟩, ⟨_, run_eq_after (by decide +kernel)⟩,
    ⟨_, run_eq_after (by decide +kernel)⟩, ⟨_, run_eq_after (by decide +kernel)⟩⟩
  rw [hentries]
  exact List.mem_cons_of_mem _ List.mem_cons_self

end SubscriptionVault
