import SubscriptionVault.Contract.Areas
import SubscriptionVault.Contract.Payouts
import SubscriptionVault.Framework.Ledger

/-!
# Merchant accounts

What the vault keeps for merchants is a balance and an earnings record per token, and
sub-accounts whose numbers have no token. Every operation changes these accounts by postings of
a few kinds. Some kinds only occur where code fails halfway and its error is caught.
-/

namespace SubscriptionVault

open Exec

/-! ## Accounts -/

structure Accounts where
  balance : Address → Address → Int
  earnings : Address → Address → TokenEarnings
  subAccount : Address → Symbol → Int
  /-- What is left in the sub-accounts of a merchant, by the token it came in. -/
  funds : Address → Address → Int

def TokenEarnings.none : TokenEarnings := ⟨⟨0, 0, 0⟩, 0, 0⟩

def AccruedTotals.plus (totals : AccruedTotals) (kind : BillingChargeKind) (amount : Int) :
    AccruedTotals :=
  match kind with
  | .interval => { totals with interval := totals.interval + amount }
  | .usage => { totals with usage := totals.usage + amount }
  | .oneOff => { totals with oneOff := totals.oneOff + amount }

namespace Accounts

variable (a : Accounts) (merchant token : Address) (label : Symbol)

def setBalance (balance : Int) : Accounts :=
  { a with balance := fun m t => if m = merchant ∧ t = token then balance else a.balance m t }

def setEarnings (earnings : TokenEarnings) : Accounts :=
  { a with earnings := fun m t => if m = merchant ∧ t = token then earnings else a.earnings m t }

def setSubAccount (balance : Int) : Accounts :=
  { a with subAccount := fun m l => if m = merchant ∧ l = label then balance else
      a.subAccount m l }

def addFunds (amount : Int) : Accounts :=
  { a with funds := fun m t => if m = merchant ∧ t = token then a.funds m t + amount else
      a.funds m t }

/-- The earnings record with an accrual. -/
def accrue (kind : BillingChargeKind) (amount : Int) : Accounts :=
  a.setEarnings merchant token { a.earnings merchant token with
    accruals := (a.earnings merchant token).accruals.plus kind amount }

/-- An amount is put into a sub-account. -/
def stash (amount : Int) : Accounts :=
  (a.setSubAccount merchant label (a.subAccount merchant label + amount)).addFunds merchant
    token amount

variable {a merchant token label}

theorem setBalance_setBalance (first last : Int) :
    (a.setBalance merchant token first).setBalance merchant token last =
      a.setBalance merchant token last := by
  simp only [setBalance]
  congr 1
  funext m t
  split <;> rfl

theorem setBalance_self : a.setBalance merchant token (a.balance merchant token) = a := by
  have hsame : (fun m t => if m = merchant ∧ t = token then a.balance merchant token else
      a.balance m t) = a.balance := by
    funext m t
    split
    · rename_i h
      rw [h.1, h.2]
    · rfl
  simp only [setBalance, hsame]

theorem setEarnings_setEarnings (first last : TokenEarnings) :
    (a.setEarnings merchant token first).setEarnings merchant token last =
      a.setEarnings merchant token last := by
  simp only [setEarnings]
  congr 1
  funext m t
  split <;> rfl

@[simp] theorem balance_setBalance_self (balance : Int) :
    (a.setBalance merchant token balance).balance merchant token = balance :=
  if_pos ⟨rfl, rfl⟩

@[simp] theorem earnings_setEarnings_self (earnings : TokenEarnings) :
    (a.setEarnings merchant token earnings).earnings merchant token = earnings :=
  if_pos ⟨rfl, rfl⟩

end Accounts

/-! ## Accounts of a state -/

/-- Sub-account funds of one merchant in one token. -/
def fundsWeight (merchant token : Address) : (k : Slot) → Slot.Val k → Int
  | .subAccountFunds m _ t, (funds : Int) => if m = merchant ∧ t = token then funds else 0
  | _, _ => 0

def State.fundsIn (s : State) (merchant token : Address) : Int :=
  s.total (fundsWeight merchant token)

def State.accounts (s : State) : Accounts where
  balance := s.merchantBalance
  earnings := s.tokenEarnings
  subAccount := s.subAccountBalance
  funds := s.fundsIn

def accountAreas : List Area := [.balances, .earnings, .subAccounts]

section Views

variable {s t : State} {l : List Area} {merchant token : Address} {label : Symbol}

theorem State.merchantBalance_of_areas (h : FiniteStore.AgreeOff (areas l) s t)
    (hl : l.contains .balances = false) : t.merchantBalance = s.merchantBalance := by
  funext m tok
  exact congrArg (·.getD 0)
    (State.read_of_areas (k := .instanced (.merchantBalance m tok)) h hl)

theorem State.tokenEarnings_of_areas (h : FiniteStore.AgreeOff (areas l) s t)
    (hl : l.contains .earnings = false) : t.tokenEarnings = s.tokenEarnings := by
  funext m tok
  exact congrArg (·.getD TokenEarnings.none)
    (State.read_of_areas (k := .instanced (.merchantEarnings m tok)) h hl)

theorem State.subAccountBalance_of_areas (h : FiniteStore.AgreeOff (areas l) s t)
    (hl : l.contains .subAccounts = false) : t.subAccountBalance = s.subAccountBalance := by
  funext m label
  exact congrArg (·.getD 0)
    (State.read_of_areas (k := .instanced (.merchantSubAccount m label)) h hl)

theorem State.fundsIn_of_areas (h : FiniteStore.AgreeOff (areas l) s t)
    (hl : l.contains .subAccounts = false) : t.fundsIn = s.fundsIn := by
  funext m tok
  refine FiniteStore.total_of_agreeOff h fun k hk v => ?_
  have hin : l.contains k.area = true := hk
  cases k with
  | subAccountFunds m' label t' => cases hl.symm.trans hin
  | _ => rfl

/-- Code that stays out of the areas of the accounts leaves them alone. -/
theorem State.accounts_of_areas (h : FiniteStore.AgreeOff (areas l) s t)
    (hl : l.any accountAreas.contains = false) : t.accounts = s.accounts := by
  have hout {area : Area} (harea : accountAreas.contains area = true) :
      l.contains area = false := by
    refine Bool.eq_false_iff.mpr fun hin => ?_
    exact List.any_eq_false.mp hl area (List.contains_iff_mem.mp hin) harea
  simp only [State.accounts, State.merchantBalance_of_areas h (hout rfl),
    State.tokenEarnings_of_areas h (hout rfl), State.subAccountBalance_of_areas h (hout rfl),
    State.fundsIn_of_areas h (hout rfl)]

theorem Modifies.accounts {α : Type} {x : Vault α} {env : Env} {a : α}
    (hx : Modifies (areas l) x) (hl : l.any accountAreas.contains = false)
    (hrun : x.run env s = .ok a t) : t.accounts = s.accounts :=
  State.accounts_of_areas (hx.ok hrun) hl

/-! Writing a slot of the accounts changes one entry. -/

/-- A family of entries, read with a default, after one of them was replaced. -/
private theorem read_replaced {κ β : Type} {s u : State} [DecidableEq κ]
    {k : Address → κ → Slot} [∀ m x, Holds Slot.Val (k m x) β] (default : β)
    (hk : ∀ {m x m' x'}, k m x = k m' x' → m = m' ∧ x = x') (m : Address) (x : κ)
    {o : Option β} (hself : u.read (k m x) = o) (hother : ∀ j, j ≠ k m x → u.get j = s.get j) :
    (fun m' x' => (u.read (k m' x')).getD default) = fun m' x' =>
      if m' = m ∧ x' = x then o.getD default else (s.read (k m' x')).getD default := by
  funext m' x'
  split
  · rename_i h
    obtain ⟨rfl, rfl⟩ := h
    rw [hself]
  · rename_i h
    rw [FiniteStore.read_congr (hother _ fun heq => h (hk heq))]

private theorem accounts_of_balance {u : State} {o : Option Int}
    (hself : u.read (.instanced (.merchantBalance merchant token)) = o)
    (hother : ∀ j, j ≠ .instanced (.merchantBalance merchant token) → u.get j = s.get j) :
    u.accounts = s.accounts.setBalance merchant token (o.getD 0) := by
  have hagree : FiniteStore.AgreeOff (areas [.balances]) s u := fun j hj =>
    hother j fun heq => hj (by rw [heq]; rfl)
  have hbalance : u.merchantBalance = (s.accounts.setBalance merchant token (o.getD 0)).balance :=
    read_replaced (k := fun m t => .instanced (.merchantBalance m t)) 0
      (fun h => by simpa using h) merchant token hself hother
  simp only [State.accounts, State.tokenEarnings_of_areas hagree rfl,
    State.subAccountBalance_of_areas hagree rfl, State.fundsIn_of_areas hagree rfl, hbalance]
  rfl

private theorem accounts_of_earnings {u : State} {o : Option TokenEarnings}
    (hself : u.read (.instanced (.merchantEarnings merchant token)) = o)
    (hother : ∀ j, j ≠ .instanced (.merchantEarnings merchant token) → u.get j = s.get j) :
    u.accounts = s.accounts.setEarnings merchant token (o.getD .none) := by
  have hagree : FiniteStore.AgreeOff (areas [.earnings]) s u := fun j hj =>
    hother j fun heq => hj (by rw [heq]; rfl)
  have hearnings : u.tokenEarnings =
      (s.accounts.setEarnings merchant token (o.getD .none)).earnings :=
    read_replaced (k := fun m t => .instanced (.merchantEarnings m t)) TokenEarnings.none
      (fun h => by simpa using h) merchant token hself hother
  simp only [State.accounts, State.merchantBalance_of_areas hagree rfl,
    State.subAccountBalance_of_areas hagree rfl, State.fundsIn_of_areas hagree rfl, hearnings]
  rfl

theorem State.accounts_setBalance (s : State) (merchant token : Address) (balance : Int) :
    State.accounts (s.write (.instanced (.merchantBalance merchant token)) balance) =
      s.accounts.setBalance merchant token balance :=
  accounts_of_balance (s.read_write_self balance) fun _ hj => s.get_replace_of_ne _ hj

theorem State.accounts_dropBalance (s : State) (merchant token : Address) :
    State.accounts (s.remove (.instanced (.merchantBalance merchant token))) =
      s.accounts.setBalance merchant token 0 :=
  accounts_of_balance s.read_remove_self fun _ hj => s.get_replace_of_ne _ hj

theorem State.accounts_setEarnings (s : State) (merchant token : Address)
    (earnings : TokenEarnings) :
    State.accounts (s.write (.instanced (.merchantEarnings merchant token)) earnings) =
      s.accounts.setEarnings merchant token earnings :=
  accounts_of_earnings (s.read_write_self earnings) fun _ hj => s.get_replace_of_ne _ hj

theorem State.accounts_dropEarnings (s : State) (merchant token : Address) :
    State.accounts (s.remove (.instanced (.merchantEarnings merchant token))) =
      s.accounts.setEarnings merchant token .none :=
  accounts_of_earnings s.read_remove_self fun _ hj => s.get_replace_of_ne _ hj

theorem State.accounts_setSubAccount (s : State) (merchant : Address) (label : Symbol)
    (balance : Int) :
    State.accounts (s.write (.instanced (.merchantSubAccount merchant label)) balance) =
      s.accounts.setSubAccount merchant label balance := by
  have hagree := s.agreeOff_write (S := areas [.subAccounts])
    (k := .instanced (.merchantSubAccount merchant label)) balance rfl
  have hsub : State.subAccountBalance
      (s.write (.instanced (.merchantSubAccount merchant label)) balance) =
        (s.accounts.setSubAccount merchant label balance).subAccount :=
    read_replaced (s := s) (k := fun m l => .instanced (.merchantSubAccount m l)) 0
      (fun h => by simpa using h) merchant label (s.read_write_self balance)
      fun _ hj => s.get_replace_of_ne _ hj
  have hfunds : State.fundsIn
      (s.write (.instanced (.merchantSubAccount merchant label)) balance) = s.fundsIn := by
    funext m tok
    exact FiniteStore.total_of_agreeOff (S := {.instanced (.merchantSubAccount merchant label)})
      (s.agreeOff_write balance rfl) fun k hk v => by
        obtain rfl := hk
        rfl
  simp only [State.accounts, State.merchantBalance_of_areas hagree rfl,
    State.tokenEarnings_of_areas hagree rfl, hfunds, hsub]
  rfl

theorem State.accounts_setFunds (s : State) (merchant : Address) (label : Symbol)
    (token : Address) (amount : Int) :
    State.accounts (s.write (.subAccountFunds merchant label token)
      (s.subAccountFunds merchant label token + amount)) =
        s.accounts.addFunds merchant token amount := by
  have hagree := s.agreeOff_write (S := areas [.subAccounts])
    (k := .subAccountFunds merchant label token)
    (s.subAccountFunds merchant label token + amount) rfl
  have hsub : State.subAccountBalance (s.write (.subAccountFunds merchant label token)
      (s.subAccountFunds merchant label token + amount)) = s.subAccountBalance := by
    funext m l
    simp [State.subAccountBalance]
  have hfunds : State.fundsIn (s.write (.subAccountFunds merchant label token)
      (s.subAccountFunds merchant label token + amount)) =
        (s.accounts.addFunds merchant token amount).funds := by
    funext m tok
    unfold State.fundsIn
    rw [FiniteStore.total_write]
    simp only [State.accounts, Accounts.addFunds, State.fundsIn, State.subAccountFunds,
      fundsWeight, eq_comm (a := merchant), eq_comm (a := token)]
    cases s.read (.subAccountFunds merchant label token) with
    | none => split <;> simp
    | some old =>
      simp only [Option.elim_some, Option.getD_some]
      split <;> omega
  simp only [State.accounts, State.merchantBalance_of_areas hagree rfl,
    State.tokenEarnings_of_areas hagree rfl, hfunds, hsub]
  rfl

end Views

/-! ## Postings -/

inductive Posting where
  /-- A payment to the balance, or straight on to a sub-account. -/
  | credit (merchant token : Address) (amount : Int) (kind : BillingChargeKind)
      (label : Option Symbol)
  /-- The earnings record of a payment overflowed. -/
  | creditCut (merchant token : Address) (amount : Int)
  /-- An amount leaves the balance for a sub-account, whoever was paid before. -/
  | divert (merchant token : Address) (label : Symbol) (amount : Int)
  /-- The sub-account got its amount, and the balance could not be lowered. -/
  | divertCut (merchant token : Address) (label : Symbol) (amount : Int)
  | withdraw (merchant token : Address) (amount : Int)
  | refund (merchant token : Address) (amount : Int)
  | payOut (merchant token : Address)
  | withdrawSub (merchant token : Address) (label : Symbol) (amount : Int)
  | register (merchant : Address) (label : Symbol)
  | dispute (merchant token : Address) (amount : Int)
  | release (merchant token : Address) (amount : Int)
  /-- `recorded` says whether there was an earnings record to move. -/
  | move (oldMerchant newMerchant token : Address) (recorded : Bool)
  | restore (merchant token : Address) (balance : Int)

namespace Posting

/-- What the code has checked when it makes the posting. -/
def admits (a : Accounts) : Posting → Prop
  | .credit _ _ amount _ none | .creditCut _ _ amount => 0 ≤ amount
  | .credit _ _ amount _ (some _) | .divert _ _ _ amount | .divertCut _ _ _ amount
  | .release _ _ amount => 0 < amount
  | .withdraw merchant token amount | .refund merchant token amount
  | .dispute merchant token amount => 0 < amount ∧ amount ≤ a.balance merchant token
  | .payOut merchant token => 0 < a.balance merchant token
  | .withdrawSub merchant _ label amount => 0 < amount ∧ amount ≤ a.subAccount merchant label
  | .move oldMerchant _ token recorded =>
    recorded = false → a.earnings oldMerchant token = .none
  | .register _ _ | .restore _ _ _ => True

def post (a : Accounts) : Posting → Accounts
  | .credit merchant token amount kind none =>
    (a.setBalance merchant token (a.balance merchant token + amount)).accrue merchant token kind
      amount
  | .credit merchant token amount kind (some label) =>
    (a.accrue merchant token kind amount).stash merchant token label amount
  | .creditCut merchant token amount | .release merchant token amount =>
    a.setBalance merchant token (a.balance merchant token + amount)
  | .divert merchant token label amount =>
    (a.stash merchant token label amount).setBalance merchant token
      (a.balance merchant token - amount)
  | .divertCut merchant token label amount => a.stash merchant token label amount
  | .withdraw merchant token amount =>
    (a.setBalance merchant token (a.balance merchant token - amount)).setEarnings merchant token
      { a.earnings merchant token with
        withdrawals := (a.earnings merchant token).withdrawals + amount
        refunds := (a.earnings merchant token).refunds + amount }
  | .refund merchant token amount =>
    (a.setBalance merchant token (a.balance merchant token - amount)).setEarnings merchant token
      { a.earnings merchant token with
        refunds := (a.earnings merchant token).refunds + amount }
  | .payOut merchant token =>
    (a.setBalance merchant token 0).setEarnings merchant token
      { a.earnings merchant token with
        withdrawals := (a.earnings merchant token).withdrawals + a.balance merchant token }
  | .withdrawSub merchant token label amount =>
    ((a.setSubAccount merchant label (a.subAccount merchant label - amount)).addFunds merchant
      token (-amount)).setEarnings merchant token
      { a.earnings merchant token with
        withdrawals := (a.earnings merchant token).withdrawals + amount }
  | .register merchant label => a.setSubAccount merchant label 0
  | .dispute merchant token amount =>
    a.setBalance merchant token (a.balance merchant token - amount)
  | .move oldMerchant newMerchant token recorded =>
    let merged := if a.balance oldMerchant token = 0 then a else
      a.setBalance newMerchant token
        (wrapI128 (a.balance newMerchant token + a.balance oldMerchant token))
    let moved := merged.setBalance oldMerchant token 0
    if recorded then
      (moved.setEarnings newMerchant token (a.earnings oldMerchant token)).setEarnings
        oldMerchant token .none
    else moved
  | .restore merchant token balance => a.setBalance merchant token balance

/-- Made by charges and buyouts when nothing overflows. -/
def isPayment : Posting → Bool
  | .credit _ _ _ _ _ | .divert _ _ _ _ => true
  | _ => false

def isCredit : Posting → Bool
  | .credit _ _ _ _ _ => true
  | _ => false

/-- Left behind by code that failed on an overflow. -/
def isCut : Posting → Bool
  | .creditCut _ _ _ | .divertCut _ _ _ _ => true
  | _ => false

end Posting

/-- `b` comes from `a` by postings that satisfy `P`. -/
def Posted (P : Posting → Prop) : Accounts → Accounts → Prop :=
  Relation.ReflTransGen fun a b => ∃ p : Posting, P p ∧ p.admits a ∧ p.post a = b

/-- From one state to the other the accounts change by postings that satisfy `P`. -/
def PostsOf (P : Posting → Prop) (s t : State) : Prop := Posted P s.accounts t.accounts

section Posted

variable {P P' : Posting → Prop} {a b : Accounts} {s t u : State}

theorem Posted.mono (h : Posted P a b) (himp : ∀ p, P p → P' p) : Posted P' a b := by
  induction h with
  | refl => exact .refl
  | tail _ hlast ih =>
    obtain ⟨p, hp, hrest⟩ := hlast
    exact ih.tail ⟨p, himp p hp, hrest⟩

/-- What every posting preserves. -/
theorem Posted.invariant {I : Accounts → Prop} (h : Posted P a b)
    (hstep : ∀ a p, P p → p.admits a → I a → I (p.post a)) (ha : I a) : I b := by
  induction h with
  | refl => exact ha
  | tail _ hlast ih =>
    obtain ⟨p, hp, hadmits, rfl⟩ := hlast
    exact hstep _ p hp hadmits ih

instance : Std.Refl (PostsOf P) where
  refl _ := .refl

instance : IsTrans State (PostsOf P) where
  trans _ _ _ h h' := h.trans h'

theorem PostsOf.of_eq (h : t.accounts = s.accounts) : PostsOf P s t := by
  rw [PostsOf, h]
  exact .refl

theorem PostsOf.of_areas {l : List Area} (h : FiniteStore.AgreeOff (areas l) s t)
    (hl : l.any accountAreas.contains = false) : PostsOf P s t :=
  .of_eq (State.accounts_of_areas h hl)

theorem PostsOf.mono (h : PostsOf P s t) (himp : ∀ p, P p → P' p) : PostsOf P' s t :=
  Posted.mono h himp

theorem PostsOf.one (p : Posting) (hp : P p) (hadmits : p.admits s.accounts)
    (hpost : t.accounts = p.post s.accounts) : PostsOf P s t :=
  .single ⟨p, hp, hadmits, hpost.symm⟩

end Posted

end SubscriptionVault
