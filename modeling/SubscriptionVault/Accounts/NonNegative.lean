import SubscriptionVault.Accounts.Operations
import SubscriptionVault.Lifecycle.FailuresInRow
import SubscriptionVault.Lifecycle.Lifetime

/-!
# Balances below zero

Whatever lowers a balance has compared it with the amount before, except for the payment of a
charge. It moves the merchant's amount on to the sub-account the subscription names, and takes it
from the merchant's balance also where split payees were paid instead. A rotation adds up two
balances without looking for an overflow.
-/

namespace SubscriptionVault

open Exec

/-! ## Accounts -/

structure Accounts.NonNegative (a : Accounts) : Prop where
  balance : ∀ merchant token, 0 ≤ a.balance merchant token
  subAccount : ∀ merchant label, 0 ≤ a.subAccount merchant label

/-- The posting takes from an account no more than it has put there or has found there. -/
def Posting.KeepsSign (a : Accounts) : Posting → Prop
  | .divert _ _ _ _ | .restore _ _ _ => False
  | .move oldMerchant newMerchant token _ =>
    InI128 (a.balance newMerchant token + a.balance oldMerchant token)
  | _ => True

namespace Accounts.NonNegative

variable {a : Accounts} {merchant token : Address} {label : Symbol} {amount : Int}

theorem setBalance (h : a.NonNegative) (hamount : 0 ≤ amount) :
    (a.setBalance merchant token amount).NonNegative := by
  refine ⟨fun m t => ?_, h.subAccount⟩
  simp only [Accounts.setBalance]
  split
  · exact hamount
  · exact h.balance m t

theorem setSubAccount (h : a.NonNegative) (hamount : 0 ≤ amount) :
    (a.setSubAccount merchant label amount).NonNegative := by
  refine ⟨h.balance, fun m l => ?_⟩
  simp only [Accounts.setSubAccount]
  split
  · exact hamount
  · exact h.subAccount m l

theorem setEarnings (h : a.NonNegative) (earnings : TokenEarnings) :
    (a.setEarnings merchant token earnings).NonNegative :=
  ⟨h.balance, h.subAccount⟩

theorem addFunds (h : a.NonNegative) (amount : Int) :
    (a.addFunds merchant token amount).NonNegative :=
  ⟨h.balance, h.subAccount⟩

theorem stash (h : a.NonNegative) (hamount : 0 < amount) :
    (a.stash merchant token label amount).NonNegative := by
  have hbefore := h.subAccount merchant label
  exact (h.setSubAccount (by omega)).addFunds _

end Accounts.NonNegative

theorem Posting.nonNegative {a : Accounts} {p : Posting} (hadmits : p.admits a)
    (hkeeps : p.KeepsSign a) (h : a.NonNegative) : (p.post a).NonNegative := by
  have hbalance := h.balance
  have hsub := h.subAccount
  cases p with
  | credit merchant token amount kind label =>
    have hbefore := hbalance merchant token
    cases label with
    | none =>
      have hsign : 0 ≤ amount := hadmits
      exact (h.setBalance (by omega)).setEarnings _
    | some label => exact (h.setEarnings _).stash hadmits
  | creditCut merchant token amount =>
    have hbefore := hbalance merchant token
    have hsign : 0 ≤ amount := hadmits
    exact h.setBalance (by omega)
  | release merchant token amount =>
    have hbefore := hbalance merchant token
    have hsign : 0 < amount := hadmits
    exact h.setBalance (by omega)
  | divert => exact hkeeps.elim
  | divertCut => exact h.stash hadmits
  | withdraw merchant token amount =>
    obtain ⟨-, henough⟩ := hadmits
    exact (h.setBalance (by omega)).setEarnings _
  | refund merchant token amount =>
    obtain ⟨-, henough⟩ := hadmits
    exact (h.setBalance (by omega)).setEarnings _
  | payOut => exact (h.setBalance (Int.le_refl 0)).setEarnings _
  | withdrawSub merchant token label amount =>
    obtain ⟨-, henough⟩ := hadmits
    exact ((h.setSubAccount (by omega)).addFunds _).setEarnings _
  | register => exact h.setSubAccount (Int.le_refl 0)
  | dispute merchant token amount =>
    obtain ⟨-, henough⟩ := hadmits
    exact h.setBalance (by omega)
  | move oldMerchant newMerchant token recorded =>
    have hfits : InI128 (a.balance newMerchant token + a.balance oldMerchant token) := hkeeps
    have hnew := hbalance newMerchant token
    have hold := hbalance oldMerchant token
    have hmerged : (if a.balance oldMerchant token = 0 then a else
        a.setBalance newMerchant token
          (wrapI128 (a.balance newMerchant token + a.balance oldMerchant token))).NonNegative := by
      split
      · exact h
      · rw [wrapI128_of_inI128 hfits]
        exact h.setBalance (by omega)
    cases recorded with
    | true => exact ((hmerged.setBalance (Int.le_refl 0)).setEarnings _).setEarnings _
    | false => exact hmerged.setBalance (Int.le_refl 0)
  | restore => exact hkeeps.elim

/-- What a rotation has to add up is no more after it has moved a token. -/
theorem Posting.move_fits {a : Accounts} {oldMerchant newMerchant token other : Address}
    {recorded : Bool}
    (hfits : InI128 (a.balance newMerchant token + a.balance oldMerchant token))
    (hother : InI128 (a.balance newMerchant other + a.balance oldMerchant other)) :
    InI128 (((move oldMerchant newMerchant token recorded).post a).balance newMerchant other +
      ((move oldMerchant newMerchant token recorded).post a).balance oldMerchant other) := by
  have hbalance : ((Posting.move oldMerchant newMerchant token recorded).post a).balance =
      (((if a.balance oldMerchant token = 0 then a else a.setBalance newMerchant token
        (wrapI128 (a.balance newMerchant token + a.balance oldMerchant token))).setBalance
          oldMerchant token 0)).balance := by
    cases recorded <;> rfl
  rw [hbalance, wrapI128_of_inI128 hfits]
  by_cases htoken : other = token
  · subst htoken
    by_cases hself : newMerchant = oldMerchant
    · subst hself
      simp [Accounts.setBalance, InI128]
    · by_cases hzero : a.balance oldMerchant other = 0 <;>
        simpa [Accounts.setBalance, hself, hzero] using hother
  · by_cases hzero : a.balance oldMerchant token = 0 <;>
      simpa [Accounts.setBalance, htoken, hzero] using hother

theorem PostsOf.nonNegative {P : Posting → Prop} {s t : State} (h : PostsOf P s t)
    (hkeeps : ∀ a p, P p → p.KeepsSign a) (hs : s.accounts.NonNegative) :
    t.accounts.NonNegative :=
  Posted.invariant h (fun a p hp hadmits ha => Posting.nonNegative hadmits (hkeeps a p hp) ha) hs

/-! ## Charges behind their locks -/

/-- Calls that pay a charge of the subscription to its payees. A buyout pays the merchant. -/
def VaultCall.PaysOut (id : Nat) : VaultCall → Prop
  | .chargeSubscription id' _ | .operatorChargeSubscription _ id' | .chargeUsage id' _
  | .chargeUsageWithReference id' _ _ | .operatorChargeUsage _ id' _
  | .operatorChargeUsageWithRef _ id' _ _ | .chargeOneOff id' _ _ _ => id' = id
  | _ => False

def VaultAction.PaysOut (id : Nat) : VaultAction → Prop
  | .call _ c => c.PaysOut id
  | .item _ (.charge id' _) => id' = id
  | _ => False

/-- What such a call does behind its lock. -/
inductive ChargeRuns (env : Env) (id : Nat) (s t : State) : Prop
  | interval {key : Option BytesN32} {result : ChargeExecutionResult} :
      (chargeOne id key none ∅).run env s = .ok result t → ChargeRuns env id s t
  | usage {amount : Int} {reference : Bytes} {result : UsageChargeResult} :
      (chargeUsageOne id amount reference).run env s = .ok result t → ChargeRuns env id s t
  | oneOff {merchant : Address} {amount : Int} {key : Option BytesN32} :
      (doChargeOneOff id merchant amount key).run env s = .ok () t → ChargeRuns env id s t

theorem VaultCall.chargeRuns {env : Env} {id : Nat} {s t : State} {call : VaultCall}
    (hpays : call.PaysOut id) (hrun : call.exec.run env s = .ok () t) :
    ∃ v w, FiniteStore.AgreeOff (SubscriptionVault.areas [.locks]) s v ∧ ChargeRuns env id v w ∧
      FiniteStore.AgreeOff (SubscriptionVault.areas [.locks]) w t := by
  have husage {amount : Int} {reference : Bytes}
      (hcall : call.usageCharge = some (id, amount, reference)) :
      ∃ v w, FiniteStore.AgreeOff (SubscriptionVault.areas [.locks]) s v ∧ ChargeRuns env id v w ∧
        FiniteStore.AgreeOff (SubscriptionVault.areas [.locks]) w t := by
    obtain ⟨result, v, w, hinner, hbefore, hafter⟩ := run_usageCall hcall hrun
    exact ⟨v, w, hbefore, .usage hinner, hafter⟩
  cases call
  case chargeSubscription =>
    obtain rfl := hpays
    obtain ⟨_, hrun⟩ := run_effectOf_ok.mp hrun
    obtain ⟨v, w, hinner, hbefore, hafter⟩ := run_withLock_areas (run_guardedCall_ok.mp hrun).2
    exact ⟨v, w, hbefore, .interval hinner, hafter⟩
  case operatorChargeSubscription op j =>
    obtain rfl := hpays
    obtain ⟨_, hrun⟩ := run_effectOf_ok.mp hrun
    obtain ⟨v, w, hinner, hbefore, hafter⟩ := run_withLock_areas (run_guardedCall_ok.mp hrun).2
    obtain ⟨_, -, hinner⟩ := run_check_ok (keeps_requireOperatorAuth op) hinner
    exact ⟨v, w, hbefore, .interval hinner, hafter⟩
  case chargeUsage | chargeUsageWithReference | operatorChargeUsage
      | operatorChargeUsageWithRef =>
    obtain rfl := hpays
    exact husage rfl
  case chargeOneOff =>
    obtain rfl := hpays
    obtain ⟨v, w, hinner, hbefore, hafter⟩ := run_withLock_areas (run_guardedCall_ok.mp hrun).2
    exact ⟨v, w, hbefore, .oneOff hinner, hafter⟩
  all_goals exact hpays.elim

/-! ## Charges -/

/-- The subscription has payees of its own and puts what it pays into a sub-account. -/
def State.SplitAndLabelled (s : State) (id : Nat) : Prop :=
  ∃ sub, s.subscription id = some sub ∧ sub.subAccountLabel ≠ none ∧ s.splitPayees id ≠ none

section Charges

variable {env : Env} {s t : State} {id : Nat}

theorem State.SplitAndLabelled.of_effective {sub : Subscription} {now : Nat}
    (hplain : ¬s.SplitAndLabelled id) (hsub : s.effectiveSubscription id now = some sub) :
    sub.subAccountLabel = none ∨ s.splitPayees id = none := by
  obtain ⟨stored, hstored, hsame⟩ := State.effectiveSubscription_eq_some hsub
  have hlabel : sub.subAccountLabel = stored.subAccountLabel := by rw [hsame]
  rw [hlabel]
  by_cases hnone : stored.subAccountLabel = none
  · exact .inl hnone
  · exact .inr (not_not.mp fun hsplit => hplain ⟨stored, hstored, hnone, hsplit⟩)

theorem State.SplitAndLabelled.of_areas {l : List Area}
    (hagree : FiniteStore.AgreeOff (areas l) s t) (hrecords : l.contains .records = false)
    (hsplits : l.contains .splits = false) (h : t.SplitAndLabelled id) : s.SplitAndLabelled id := by
  obtain ⟨sub, hsub, hlabel, hsplit⟩ := h
  have hread : t.subscription id = s.subscription id :=
    State.read_of_areas (k := .persistent (.sub id)) hagree hrecords
  rw [State.splitPayees_of_areas hagree hsplits] at hsplit
  exact ⟨sub, hread.symm.trans hsub, hlabel, hsplit⟩

/-- The payment of such a charge is made of credits. -/
theorem credits_of_pays {α : Type} {x : Vault α} (hplain : ¬s.SplitAndLabelled id)
    (hpays : ∀ sub, s.effectiveSubscription id env.now = some sub →
      (x.run env s).Ends (Pays id sub.subAccountLabel s)
        (FailsToPay id sub.subAccountLabel · s))
    (hmissing : s.effectiveSubscription id env.now = none →
      (x.run env s).Ends (PostsOf (·.isCredit) s) (FailedPosts (·.isCredit) · s)) :
    (x.run env s).Ends (PostsOf (·.isCredit) s) (FailedPosts (·.isCredit) · s) := by
  cases hsub : s.effectiveSubscription id env.now with
  | none => exact hmissing hsub
  | some sub =>
    have hends := hpays sub hsub
    have hpaid := State.SplitAndLabelled.of_effective hplain hsub
    cases hrun : x.run env s with
    | ok a t =>
      rw [hrun] at hends
      exact Pays.plain hends hpaid
    | err e t =>
      rw [hrun] at hends
      exact FailsToPay.plain hends hpaid
    | trap => trivial

theorem chargeOne_credits (env : Env) (hplain : ¬s.SplitAndLabelled id) (key : Option BytesN32)
    (cfg : Option CachedAdminConfig) (cache : MerchantCache) :
    ((chargeOne id key cfg cache).run env s).Ends (PostsOf (·.isCredit) s)
      (FailedPosts (·.isCredit) · s) := by
  refine credits_of_pays hplain (fun sub hsub => chargeOne_ends fun found hfound => ?_)
    fun hnone => chargeOne_ends fun found hfound => ?_
  · obtain rfl := Option.some.inj (hsub.symm.trans hfound)
    exact paymentEnds id sub
  · cases hnone.symm.trans hfound

theorem chargeUsageOne_credits (env : Env) (hplain : ¬s.SplitAndLabelled id) (usageAmount : Int)
    (reference : Bytes) : ((chargeUsageOne id usageAmount reference).run env s).Ends
      (PostsOf (·.isCredit) s) (FailedPosts (·.isCredit) · s) := by
  refine credits_of_pays hplain (fun sub hsub => chargeUsageOne_ends fun found hfound => ?_)
    fun hnone => chargeUsageOne_ends fun found hfound => ?_
  · obtain rfl := Option.some.inj (hsub.symm.trans hfound)
    refine (paymentEnds id sub).withUsage fun u v hagree => ?_
    refine ⟨State.splitPayees_of_areas hagree rfl id, ?_, fun _ => ?_⟩ <;>
      exact .of_areas hagree rfl
  · cases hnone.symm.trans hfound

theorem doChargeOneOff_credits (env : Env) (hplain : ¬s.SplitAndLabelled id) (merchant : Address)
    (amount : Int) (key : Option BytesN32) :
    ((doChargeOneOff id merchant amount key).run env s).Ends (PostsOf (·.isCredit) s)
      (FailedPosts (·.isCredit) · s) := by
  refine credits_of_pays hplain
    (fun sub hsub => doChargeOneOff_ends fun found charged prepaidBalance hfound => ?_)
    fun hnone => doChargeOneOff_ends fun found charged prepaidBalance hfound => ?_
  · obtain rfl := Option.some.inj (hsub.symm.trans hfound)
    exact paymentEnds id { sub with lifetimeCharged := charged, prepaidBalance }
  · cases hnone.symm.trans hfound

theorem ChargeRuns.credits (h : ChargeRuns env id s t) (hplain : ¬s.SplitAndLabelled id) :
    PostsOf (·.isCredit) s t := by
  cases h with
  | @interval key result hrun =>
    have hends := chargeOne_credits env hplain key none ∅
    rw [hrun] at hends
    exact hends
  | @usage amount reference result hrun =>
    have hends := chargeUsageOne_credits env hplain amount reference
    rw [hrun] at hends
    exact hends
  | @oneOff merchant amount key hrun =>
    have hends := doChargeOneOff_credits env hplain merchant amount key
    rw [hrun] at hends
    exact hends

/-- A buyout pays the merchant and no payee or sub-account. -/
theorem doGraceBuyout_credits (subscriber : Address) (amount : Int) (key : Option BytesN32) :
    (doGraceBuyout id subscriber amount key).Ends (PostsOf (·.isCredit))
      (FailedPosts (·.isCredit)) :=
  doGraceBuyout_ends (fun _ => ⟨fun _ _ hagree => .of_areas hagree rfl,
    creditMerchantBalanceForToken_ends⟩) subscriber amount key

end Charges

/-! ## Steps -/

/-- The step restores no snapshot, the balances a rotation adds up fit, and no charge is paid out
of a subscription with split payees and a sub-account. -/
def VaultAction.KeepsBalances : VaultAction → State → Prop
  | .call _ (.restoreSnapshotPage _ _ _), _ => False
  | .call _ (.rotateMerchantAddress _ oldMerchant newMerchant _), s =>
    ∀ token ∈ s.merchantTokens oldMerchant,
      InI128 (s.merchantBalance newMerchant token + s.merchantBalance oldMerchant token)
  | l, s => ∀ id, l.PaysOut id → ¬s.SplitAndLabelled id

section Steps

variable {env : Env} {s t : State} {l : VaultAction} {call : VaultCall} {id : Nat}

theorem Posting.keepsSign_of_isCredit {p : Posting} (hp : p.isCredit = true ∨ p.isCut = true)
    (a : Accounts) : p.KeepsSign a := by
  cases p with
  | credit | creditCut | divertCut => trivial
  | _ => rcases hp with hp | hp <;> cases hp

theorem nonNegative_of_credits (h : PostsOf (·.isCredit) s t) (hs : s.accounts.NonNegative) :
    t.accounts.NonNegative :=
  h.nonNegative (fun a _ hp => Posting.keepsSign_of_isCredit (.inl hp) a) hs

theorem nonNegative_of_areas {l : List Area} (h : FiniteStore.AgreeOff (areas l) s t)
    (hl : l.any accountAreas.contains = false) (hs : s.accounts.NonNegative) :
    t.accounts.NonNegative := by
  rw [State.accounts_of_areas h hl]
  exact hs

/-- The balances that are still to be added up stay small enough while others are. -/
theorem doRotateMerchantAddress_nonNegative {admin oldMerchant newMerchant : Address}
    {nonce : Nat} {u : Unit}
    (hrun : (doRotateMerchantAddress admin oldMerchant newMerchant nonce).run env s = .ok u t)
    (hfits : ∀ token ∈ s.merchantTokens oldMerchant,
      InI128 (s.merchantBalance newMerchant token + s.merchantBalance oldMerchant token))
    (hs : s.accounts.NonNegative) : t.accounts.NonNegative := by
  have hinv := Posted.invariant (I := fun a => a.NonNegative ∧
      ∀ token ∈ s.merchantTokens oldMerchant,
        InI128 (a.balance newMerchant token + a.balance oldMerchant token))
    (doRotateMerchantAddress_posts hrun) (fun a p hp hadmits ha => ?_) ⟨hs, hfits⟩
  · exact hinv.1
  obtain ⟨token, htoken, recorded, rfl⟩ := hp
  refine ⟨Posting.nonNegative hadmits (ha.2 token htoken) ha.1, fun other hother => ?_⟩
  exact Posting.move_fits (ha.2 token htoken) (ha.2 other hother)

theorem nonNegative_of_call (hsingle : call.isBulk = false)
    (hrun : call.exec.run env s = .ok () t)
    (hkeeps : (VaultAction.call env call).KeepsBalances s) (hs : s.accounts.NonNegative) :
    t.accounts.NonNegative := by
  have hposts := VaultCall.posts hrun
  have hplainly (hkind : ∀ p, call.mayPost s p → ∀ a, p.KeepsSign a) : t.accounts.NonNegative :=
    hposts.nonNegative (fun a p hp => hkind p hp a) hs
  have hpaid {j : Nat} (hpays : call.PaysOut j) (hplain : ¬s.SplitAndLabelled j) :
      t.accounts.NonNegative := by
    obtain ⟨v, w, hbefore, hruns, hafter⟩ := VaultCall.chargeRuns hpays hrun
    have hstart := nonNegative_of_areas hbefore rfl hs
    have hcredits := hruns.credits fun h => hplain (h.of_areas hbefore rfl rfl)
    exact nonNegative_of_areas hafter rfl (nonNegative_of_credits hcredits hstart)
  cases call
  case chargeSubscription j _ => exact hpaid rfl (hkeeps j rfl)
  case operatorChargeSubscription j => exact hpaid rfl (hkeeps j rfl)
  case chargeUsage j _ => exact hpaid rfl (hkeeps j rfl)
  case chargeUsageWithReference j _ _ => exact hpaid rfl (hkeeps j rfl)
  case operatorChargeUsage j _ => exact hpaid rfl (hkeeps j rfl)
  case operatorChargeUsageWithRef j _ _ => exact hpaid rfl (hkeeps j rfl)
  case chargeOneOff j _ _ _ => exact hpaid rfl (hkeeps j rfl)
  case graceBuyout j subscriber amount key =>
    obtain ⟨_, hrun⟩ := run_effectOf_ok.mp hrun
    obtain ⟨u, v, hbody, hbefore, hafter⟩ := run_withLock_areas (run_guardedCall_ok.mp hrun).2
    have hstart := nonNegative_of_areas hbefore rfl hs
    have hcredits := (doGraceBuyout_credits subscriber amount key).ok hbody
    exact nonNegative_of_areas hafter rfl (nonNegative_of_credits hcredits hstart)
  case rotateMerchantAddress => exact doRotateMerchantAddress_nonNegative hrun hkeeps hs
  case restoreSnapshotPage => exact hkeeps.elim
  case withdrawMerchantFunds | flushPayouts => exact hplainly fun p ⟨_, hp⟩ _ => hp ▸ trivial
  case withdrawMerchantTokenFunds | merchantRefund | registerSubAccount
      | withdrawSubAccountFunds => exact hplainly fun p hp _ => hp ▸ trivial
  case openDispute => exact hplainly fun p ⟨_, _, hp⟩ _ => hp ▸ trivial
  case resolveDispute => exact hplainly fun p ⟨_, _, _, hp⟩ _ => hp ▸ trivial
  case batchCharge | batchChargeDetailed => cases hsingle
  all_goals exact hplainly fun p hp => hp.elim

/-- An entry of a list charges a subscription, or leaves the accounts alone. -/
theorem nonNegative_of_item {item : BulkItem}
    (hkeeps : (VaultAction.item env item).KeepsBalances s) (hs : s.accounts.NonNegative) :
    (item.exec.run env s).Ends (·.accounts.NonNegative) fun _ t => t.accounts.NonNegative := by
  have hquiet {l : List Area} {x : Vault Unit} (hx : Modifies (areas l) x)
      (hl : l.any accountAreas.contains = false) :
      (x.run env s).Ends (·.accounts.NonNegative) fun _ t => t.accounts.NonNegative := by
    cases hrun : x.run env s with
    | ok a t => exact nonNegative_of_areas (hx.ok hrun) hl hs
    | err e t => exact nonNegative_of_areas (hx.err hrun) hl hs
    | trap => trivial
  cases item with
  | charge j key =>
    have hends := chargeOne_credits env (hkeeps j rfl) key none ∅
    cases hrun : (BulkItem.charge j key).exec.run env s with
    | ok a t =>
      obtain ⟨_, hrun⟩ := run_effectOf_ok.mp hrun
      rw [hrun] at hends
      exact nonNegative_of_credits hends hs
    | err e t =>
      rw [run_effectOf_err.mp hrun] at hends
      refine PostsOf.nonNegative hends.any (fun a p hp => ?_) hs
      exact Posting.keepsSign_of_isCredit hp a
    | trap => trivial
  | deposit caller j amount => exact hquiet (bulkDepositOne_areas caller j amount) rfl
  | cancel j => exact hquiet (bulkCancelOne_areas j) rfl
  | pause j => exact hquiet (bulkPauseOne_areas j) rfl

/-- What code outside the listed entrypoints may write, with the locks. -/
abbrev foreignSlots : Set Slot := areas (.locks :: foreignAreas)

theorem TidyStep.nonNegative (h : TidyStep foreignSlots l s t) (hkeeps : l.KeepsBalances s)
    (hs : s.accounts.NonNegative) : t.accounts.NonNegative := by
  obtain ⟨hstep, hother⟩ := h
  cases hstep with
  | call hsingle hrun => exact nonNegative_of_call hsingle hrun hkeeps hs
  | item hrun =>
    have hends := nonNegative_of_item hkeeps hs
    rw [hrun] at hends
    exact hends
  | itemFailed hrun =>
    have hends := nonNegative_of_item hkeeps hs
    rw [hrun] at hends
    exact hends
  | other => exact nonNegative_of_areas (hother _ rfl) rfl hs

end Steps

/-! ## Runs -/

/-- Nothing the vault keeps for anyone is negative. -/
structure State.NonNegative (s : State) : Prop where
  prepaid : ∀ id sub, s.subscription id = some sub → 0 ≤ sub.prepaidBalance
  charged : ∀ id sub, s.subscription id = some sub → 0 ≤ sub.lifetimeCharged
  balance : ∀ merchant token, 0 ≤ s.merchantBalance merchant token
  subAccount : ∀ merchant label, 0 ≤ s.subAccountBalance merchant label

section Runs

variable {start s t : State} {l : VaultAction} {hist : History VaultAction State}

theorem VaultAction.KeepsBalances.not_restore (h : l.KeepsBalances s)
    (summaries : List SubscriptionSummary) : l.operation ≠ .restore summaries := by
  intro hop
  cases l with
  | call env call =>
    cases call
    case restoreSnapshotPage => exact h
    all_goals cases hop
  | item env entry => cases entry <;> cases hop
  | other => cases hop

theorem Deployed.accounts (h : Deployed start) : start.accounts.NonNegative := by
  have hempty : (State.accounts FiniteStore.empty).NonNegative :=
    ⟨fun _ _ => Int.le_refl 0, fun _ _ => Int.le_refl 0⟩
  exact nonNegative_of_areas h.areas rfl hempty

end Runs

/-! ## A sub-account of split payees -/

theorem run_tidyActions {S : Set Slot} {start s : State} {hist : History VaultAction State}
    (hrun : Run (TidyStep S) start hist s) {actions : List VaultAction}
    (h : actionsSucceed s actions = true) :
    Run (TidyStep S) start (actionHistory s actions ++ hist) (actionsAfter s actions) := by
  induction actions with
  | nil => exact hrun
  | cons l earlier ih =>
    simp only [actionsSucceed, Bool.and_eq_true, Bool.not_eq_true'] at h
    obtain ⟨⟨hearlier, hsingle⟩, hsucceeds⟩ := h
    have hlast := run_eq_after hsucceeds
    refine (ih hearlier).next ⟨VaultAction.step_of_run hsingle hlast, ?_⟩
    rintro env rfl
    obtain ⟨-, hsame⟩ := run_pure_ok.mp hlast
    exact hsame ▸ Std.Refl.refl _

/-- The first step of a run: what the setup does after `init`. -/
theorem tidy_setup {start s : State} (h : FiniteStore.AgreeOff (areas foreignAreas) start s) :
    Run (TidyStep foreignSlots) start [(.other (sampleEnv 0 []), start)] s :=
  .next .start ⟨.other (h.mono (areas_subset_unbooked rfl)), fun _ _ => h.mono (areas_mono rfl)⟩

private def stashedActions : List VaultAction :=
  [.call (sampleEnv 61 [⟨1⟩]) (.withdrawSubAccountFunds ⟨1⟩ ⟨5⟩ ⟨9⟩ 4),
   .call (sampleEnv 60 []) (.chargeSubscription 0 none),
   .call (sampleEnv 0 [⟨2⟩]) (.depositFunds 0 20 none),
   .call (sampleEnv 0 [⟨1⟩]) (.registerSubAccount ⟨1⟩ ⟨5⟩),
   .call (sampleEnv 0 [⟨2⟩]) (.createSubscription
     { sampleRequest with subAccountLabel := some ⟨5⟩ })]

private def sharedActions : List VaultAction :=
  [.call (sampleEnv 60 []) (.chargeSubscription 0 none),
   .call (sampleEnv 0 [⟨2⟩]) (.depositFunds 0 20 none),
   .call (sampleEnv 0 [⟨1⟩]) (.registerSubAccount ⟨1⟩ ⟨5⟩),
   .call (sampleEnv 0 [⟨2⟩]) (.updateSplitPayees ⟨2⟩ 0 (some [(⟨3⟩, 10000)])),
   .call (sampleEnv 0 [⟨2⟩]) (.createSubscription
     { sampleRequest with subAccountLabel := some ⟨5⟩ })]

end SubscriptionVault
