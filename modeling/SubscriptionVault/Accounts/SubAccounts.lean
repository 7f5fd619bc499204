import SubscriptionVault.Accounts.NonNegative
import SubscriptionVault.Contract.Queries

/-!
# Sub-accounts and their tokens

A sub-account is one number, whatever the token of the charges that fill it and of the withdrawals
that empty it. As long as both are in one token, no more is paid out than came in. The balance a
merchant is told it has in a token counts all its sub-accounts, so it is right where they all hold
that token.
-/

namespace SubscriptionVault

open Exec

/-! ## One token each -/

/-- Every sub-account holds the token assigned to it, and is on its merchant's list. -/
structure State.OneToken (home : Address → Symbol → Address) (s : State) : Prop where
  funds : ∀ merchant label token, s.subAccountFunds merchant label token =
    if token = home merchant label then s.subAccountBalance merchant label else 0
  balance : ∀ merchant label, 0 ≤ s.subAccountBalance merchant label
  listed : ∀ merchant label, s.read (.instanced (.merchantSubAccount merchant label)) ≠ none →
    label ∈ s.subAccountList merchant

/-- What holds of the sub-accounts before holds of them after. -/
def KeepsOneToken (home : Address → Symbol → Address) (s t : State) : Prop :=
  s.OneToken home → t.OneToken home

section Sides

variable {home : Address → Symbol → Address} {env : Env} {s t u : State} {merchant : Address}
  {label : Symbol} {amount : Int}

instance : Std.Refl (KeepsOneToken home) where
  refl _ := id

instance : IsTrans State (KeepsOneToken home) where
  trans _ _ _ h h' := h' ∘ h

theorem KeepsOneToken.of_areas {l : List Area} (h : FiniteStore.AgreeOff (areas l) s t)
    (hl : l.any [Area.subAccounts, .subAccountLabels].contains = false) :
    KeepsOneToken home s t := by
  have hout {area : Area} (harea : [Area.subAccounts, .subAccountLabels].contains area = true) :
      l.contains area = false := by
    refine Bool.eq_false_iff.mpr fun hin => ?_
    exact List.any_eq_false.mp hl area (List.contains_iff_mem.mp hin) harea
  intro hs
  have hbalance : t.subAccountBalance = s.subAccountBalance :=
    State.subAccountBalance_of_areas h (hout rfl)
  have hfunds (m : Address) (l : Symbol) (tok : Address) :
      t.subAccountFunds m l tok = s.subAccountFunds m l tok :=
    congrArg (·.getD 0) (State.read_of_areas (k := .subAccountFunds m l tok) h (hout rfl))
  have hlist (m : Address) : t.subAccountList m = s.subAccountList m :=
    congrArg (·.getD []) (State.read_of_areas (k := .instanced (.merchantSubAccountList m)) h
      (hout rfl))
  refine ⟨fun m l tok => ?_, fun m l => ?_, fun m l hfound => ?_⟩
  · rw [hfunds, hbalance]
    exact hs.funds m l tok
  · rw [hbalance]
    exact hs.balance m l
  · rw [State.read_of_areas (k := .instanced (.merchantSubAccount m l)) h (hout rfl)] at hfound
    rw [hlist]
    exact hs.listed m l hfound

/-- A sub-account's number is written, and so is the history variable of a token. -/
theorem State.subAccount_written (s : State) (merchant : Address) (label : Symbol)
    (token : Address) (balance funds : Int) :
    let t : State := (s.write (.instanced (.merchantSubAccount merchant label)) balance).write
      (.subAccountFunds merchant label token) funds
    (∀ m l, t.subAccountBalance m l =
        if m = merchant ∧ l = label then balance else s.subAccountBalance m l) ∧
      (∀ m l tok, t.subAccountFunds m l tok =
        if m = merchant ∧ l = label ∧ tok = token then funds else s.subAccountFunds m l tok) ∧
      ∀ m, t.subAccountList m = s.subAccountList m := by
  refine ⟨fun m l => ?_, fun m l tok => ?_, fun m => ?_⟩
  · by_cases hsame : m = merchant ∧ l = label
    · obtain ⟨rfl, rfl⟩ := hsame
      simp [State.subAccountBalance]
    · have hkey : Slot.instanced (.merchantSubAccount m l) ≠
          .instanced (.merchantSubAccount merchant label) := by
        simpa using hsame
      simp [State.subAccountBalance, FiniteStore.read_write_of_ne _ _ hkey, hsame]
  · by_cases hsame : m = merchant ∧ l = label ∧ tok = token
    · obtain ⟨rfl, rfl, rfl⟩ := hsame
      simp [State.subAccountFunds]
    · have hkey : Slot.subAccountFunds m l tok ≠ .subAccountFunds merchant label token := by
        simpa using hsame
      simp [State.subAccountFunds, FiniteStore.read_write_of_ne _ _ hkey, hsame]
  · simp [State.subAccountList]

/-- The number of a sub-account and the funds in its token move together. -/
theorem State.OneToken.move (hs : s.OneToken home) (amount : Int)
    (hfound : s.read (.instanced (.merchantSubAccount merchant label)) ≠ none)
    (hsign : 0 ≤ s.subAccountBalance merchant label + amount) :
    State.OneToken home
      ((s.write (.instanced (.merchantSubAccount merchant label))
        (s.subAccountBalance merchant label + amount)).write
          (.subAccountFunds merchant label (home merchant label))
          (s.subAccountFunds merchant label (home merchant label) + amount)) := by
  obtain ⟨hbalance, hfunds, hlist⟩ := s.subAccount_written merchant label (home merchant label)
    (s.subAccountBalance merchant label + amount)
    (s.subAccountFunds merchant label (home merchant label) + amount)
  refine ⟨fun m l tok => ?_, fun m l => ?_, fun m l hread => ?_⟩
  · have hbefore := hs.funds m l tok
    rw [hbalance, hfunds]
    by_cases hsame : m = merchant ∧ l = label
    · obtain ⟨rfl, rfl⟩ := hsame
      have hown := hs.funds m l (home m l)
      by_cases htoken : tok = home m l <;> simp_all
    · have hother : ¬(m = merchant ∧ l = label ∧ tok = home merchant label) :=
        fun h => hsame ⟨h.1, h.2.1⟩
      rw [if_neg hsame, if_neg hother]
      exact hbefore
  · rw [hbalance]
    split
    · exact hsign
    · exact hs.balance m l
  · rw [hlist]
    by_cases hsame : m = merchant ∧ l = label
    · obtain ⟨rfl, rfl⟩ := hsame
      exact hs.listed m l hfound
    · have hkey : Slot.instanced (.merchantSubAccount m l) ≠
          .instanced (.merchantSubAccount merchant label) := by
        simpa using hsame
      refine hs.listed m l fun hnone => hread ?_
      simpa [FiniteStore.read_write_of_ne _ _ hkey] using hnone

theorem run_requireSubAccountExists_ok {t : State} {x : Unit}
    (hrun : (requireSubAccountExists merchant label).run env s = .ok x t) :
    s.read (.instanced (.merchantSubAccount merchant label)) ≠ none := by
  obtain ⟨found, hfound, hrun⟩ := run_check_ok Modifies.load hrun
  obtain rfl := (run_load_ok.mp hfound).1
  intro hnone
  exact (run_failIf_ok.mp hrun).1 (by rw [hnone]; rfl)

theorem requireSubAccountExists_keeps (merchant : Address) (label : Symbol) :
    (requireSubAccountExists merchant label).Keeps Eq :=
  .bind Modifies.load fun _ => .failIf _ _

/-- A credit in the token of the sub-account. -/
theorem creditSubAccount_oneToken :
    (creditSubAccount merchant label (home merchant label) amount).Keeps (KeepsOneToken home) := by
  refine .of_runs (fun env s x t hrun hs => ?_) fun env s e t hrun => ?_
  · obtain ⟨_, hsign, hrun⟩ := run_check_ok (.failIf _ _) hrun
    obtain ⟨_, hexists, hrun⟩ := run_check_ok (requireSubAccountExists_keeps _ _) hrun
    obtain ⟨current, hcurrent, hrun⟩ := run_check_ok (.gets _) hrun
    obtain rfl := (run_gets_ok.mp hcurrent).1
    obtain ⟨balance, hbalance, hrun⟩ := run_check_ok (.lift _) hrun
    obtain ⟨rfl, -⟩ := checkedI128_ok.mp (run_lift_ok.mp hbalance).1
    obtain ⟨_, s₁, hwrite, hrun⟩ := run_bind_ok.mp hrun
    obtain rfl := run_store_ok.mp hwrite
    obtain ⟨funds, hfunds, hrun⟩ := run_check_ok (.gets _) hrun
    obtain rfl := (run_gets_ok.mp hfunds).1
    obtain rfl := run_store_ok.mp hrun
    have hpositive : 0 < amount := Int.not_le.mp (run_failIf_ok.mp hsign).1
    have hbefore := hs.balance merchant label
    have hsame : State.subAccountFunds (s.write (.instanced (.merchantSubAccount merchant label))
        (s.subAccountBalance merchant label + amount)) merchant label (home merchant label) =
          s.subAccountFunds merchant label (home merchant label) := by
      simp [State.subAccountFunds]
    rw [hsame]
    exact hs.move amount (run_requireSubAccountExists_ok hexists) (by omega)
  · obtain rfl := creditSubAccount_fails hrun
    exact Std.Refl.refl _

end Sides

/-! ## Payments -/

section Payments

variable {home : Address → Symbol → Address} {env : Env} {s t u : State} {id : Nat}
  {sub : Subscription}

theorem Modifies.oneToken {α : Type} {l : List Area} {x : Vault α} (h : Modifies (areas l) x)
    (hl : l.any [Area.subAccounts, .subAccountLabels].contains = false) :
    x.Keeps (KeepsOneToken home) :=
  h.mono fun _ _ hagree => .of_areas hagree hl

theorem creditMerchantBalanceForToken_oneToken (merchant token : Address) (amount : Int)
    (kind : BillingChargeKind) :
    (creditMerchantBalanceForToken merchant token amount kind).Keeps (KeepsOneToken home) := by
  have hareas : Modifies (areas [.balances, .earnings, .merchantTokens])
      (creditMerchantBalanceForToken merchant token amount kind) :=
    .bind (.failIf _ _) fun _ => .bind (.gets _) fun _ => .bind (.lift _) fun _ =>
      .bind (Modifies.store rfl) fun _ => .bind (.gets _) fun _ => .bind (.lift _) fun _ =>
      .bind (Modifies.store rfl) fun _ =>
      .bind (.bind (.gets _) fun _ => .when (Modifies.store rfl)) fun _ => .pure _
  exact hareas.oneToken rfl

theorem creditChargePayees_oneToken (id : Nat) (sub : Subscription) (net : Int)
    (kind : BillingChargeKind) :
    (creditChargePayees id sub net kind).Keeps (KeepsOneToken home) := by
  have hshares (entries : List (Address × Nat)) (total : Int) :
      (creditShares sub.token net kind entries total).Keeps (KeepsOneToken home) := by
    induction entries generalizing total with
    | nil => exact .pure _
    | cons entry entries ih =>
      exact .bind (.lift _) fun _ =>
        .bind (creditMerchantBalanceForToken_oneToken _ _ _ _) fun _ => ih _
  refine .bind (.gets _) fun split => ?_
  cases split.map (·.entries) with
  | none => exact creditMerchantBalanceForToken_oneToken _ _ _ _
  | some entries =>
    cases entries with
    | nil => exact .pure _
    | cons entry entries =>
      exact .bind (hshares _ _) fun _ => creditMerchantBalanceForToken_oneToken _ _ _ _

/-- The subscription settles in the token of the sub-account it names. -/
def Subscription.UsesHome (home : Address → Symbol → Address) (sub : Subscription) : Prop :=
  ∀ label, sub.subAccountLabel = some label → sub.token = home sub.merchant label

theorem routeToSubAccount_oneToken (huses : sub.UsesHome home) (net : Int) :
    (routeToSubAccount sub net).Keeps (KeepsOneToken home) := by
  unfold routeToSubAccount
  cases hlabel : sub.subAccountLabel with
  | none => exact .pure _
  | some label =>
    have hcredit : (creditSubAccount sub.merchant label (home sub.merchant label) net).Keeps
        (KeepsOneToken home) := creditSubAccount_oneToken
    rw [← huses label hlabel] at hcredit
    exact .bind hcredit fun _ => .bind (.gets _) fun _ => .bind (.lift _) fun _ =>
      Modifies.oneToken (l := [.balances]) (Modifies.store rfl) rfl

theorem paymentOneToken (huses : sub.UsesHome home) :
    PaymentKeeps (KeepsOneToken home) id sub where
  quiet _ _ hagree := .of_areas hagree rfl
  credit := creditMerchantBalanceForToken_oneToken
  payees _ _ := .bind (creditChargePayees_oneToken _ _ _ _) fun _ =>
    routeToSubAccount_oneToken huses _

/-- A charge of the subscription would settle in the token of the sub-account. -/
def State.ChargesHome (home : Address → Symbol → Address) (s : State) (id : Nat) : Prop :=
  ∀ sub, s.subscription id = some sub → sub.UsesHome home

theorem State.ChargesHome.of_effective {now : Nat} (h : s.ChargesHome home id)
    (hsub : s.effectiveSubscription id now = some sub) : sub.UsesHome home := by
  obtain ⟨stored, hstored, hsame⟩ := State.effectiveSubscription_eq_some hsub
  rw [hsame]
  exact h stored hstored

theorem chargeOne_oneToken (env : Env) (h : s.ChargesHome home id) (key : Option BytesN32)
    (cfg : Option CachedAdminConfig) (cache : MerchantCache) :
    ((chargeOne id key cfg cache).run env s).Ends (KeepsOneToken home s)
      fun _ => KeepsOneToken home s :=
  chargeOne_ends fun _ hsub => (paymentOneToken (h.of_effective hsub)).ends

theorem ChargeRuns.oneToken (h : ChargeRuns env id s t) (hhome : s.ChargesHome home id) :
    KeepsOneToken home s t := by
  cases h with
  | @interval key result hrun =>
    have hends := chargeOne_oneToken env hhome key none ∅
    rw [hrun] at hends
    exact hends
  | @usage amount reference result hrun =>
    have hends : ((chargeUsageOne id amount reference).run env s).Ends (KeepsOneToken home s)
        fun _ => KeepsOneToken home s :=
      chargeUsageOne_ends fun _ hsub => (paymentOneToken (hhome.of_effective hsub)).ends.withUsage
        fun _ _ hagree => .of_areas hagree rfl
    rw [hrun] at hends
    exact hends
  | @oneOff merchant amount key hrun =>
    have hends : ((doChargeOneOff id merchant amount key).run env s).Ends (KeepsOneToken home s)
        fun _ => KeepsOneToken home s := by
      refine doChargeOneOff_ends fun sub charged prepaidBalance hsub => ?_
      have huses : { sub with lifetimeCharged := charged, prepaidBalance }.UsesHome home :=
        fun label hlabel => hhome.of_effective hsub label hlabel
      exact (paymentOneToken huses).ends
    rw [hrun] at hends
    exact hends

theorem doGraceBuyout_oneToken (subscriber : Address) (amount : Int) (key : Option BytesN32) :
    (doGraceBuyout id subscriber amount key).Keeps (KeepsOneToken home) :=
  Ends.keeps (doGraceBuyout_ends (fun _ => ⟨fun _ _ hagree => .of_areas hagree rfl,
    fun _ _ _ _ => .of_keeps (creditMerchantBalanceForToken_oneToken _ _ _ _) fun _ _ hr => hr⟩)
    subscriber amount key)

end Payments

/-! ## Registration and withdrawal -/

section Merchants

variable {home : Address → Symbol → Address} {env : Env} {s t : State} {merchant : Address}
  {label : Symbol} {amount : Int} {u : Unit}

/-- Nothing is lost by setting the number of a new sub-account to zero. -/
theorem registerSubAccount_oneToken
    (hrun : (registerSubAccount merchant label).run env s = .ok u t) : KeepsOneToken home s t := by
  intro hs
  obtain ⟨_, -, hrun⟩ := run_check_ok (Modifies.requireAuth _) hrun
  obtain ⟨_, -, hrun⟩ := run_check_ok (.gets _) hrun
  obtain ⟨_, -, hrun⟩ := run_check_ok (.failIf _ _) hrun
  obtain ⟨labels, hlabels, hrun⟩ := run_check_ok (.gets _) hrun
  obtain rfl := (run_gets_ok.mp hlabels).1
  obtain ⟨_, hnew, hrun⟩ := run_check_ok (.failIf _ _) hrun
  obtain ⟨_, s₁, hwrite, hrun⟩ := run_bind_ok.mp hrun
  obtain rfl := run_store_ok.mp hwrite
  obtain rfl := run_store_ok.mp hrun
  have hnone : s.read (.instanced (.merchantSubAccount merchant label)) = none :=
    not_not.mp fun hfound => (run_failIf_ok.mp hnew).1 (hs.listed merchant label hfound)
  have hzero : s.subAccountBalance merchant label = 0 := by
    rw [State.subAccountBalance, hnone]
    rfl
  let t : State := (s.write (.instanced (.merchantSubAccount merchant label)) 0).write
    (.instanced (.merchantSubAccountList merchant)) (s.subAccountList merchant ++ [label])
  have hbalance (m : Address) (l : Symbol) :
      t.subAccountBalance m l = s.subAccountBalance m l := by
    by_cases hsame : m = merchant ∧ l = label
    · obtain ⟨rfl, rfl⟩ := hsame
      rw [hzero]
      simp [t, State.subAccountBalance]
    · have hkey : Slot.instanced (.merchantSubAccount m l) ≠
          .instanced (.merchantSubAccount merchant label) := by
        simpa using hsame
      simp [t, State.subAccountBalance, FiniteStore.read_write_of_ne _ _ hkey]
  have hfunds (m : Address) (l : Symbol) (tok : Address) :
      t.subAccountFunds m l tok = s.subAccountFunds m l tok := by
    simp [t, State.subAccountFunds]
  have hlist (m : Address) (l : Symbol) (hmem : l ∈ s.subAccountList m ∨ m = merchant ∧ l = label) :
      l ∈ t.subAccountList m := by
    by_cases hm : m = merchant
    · subst hm
      have hmem' : l ∈ s.subAccountList m ∨ l = label := hmem.imp_right And.right
      simpa [t, State.subAccountList] using hmem'
    · have hkey : Slot.instanced (.merchantSubAccountList m) ≠
          .instanced (.merchantSubAccountList merchant) := by
        simpa using hm
      have hold : l ∈ s.subAccountList m := hmem.resolve_right fun h => hm h.1
      simpa [t, State.subAccountList, FiniteStore.read_write_of_ne _ _ hkey] using hold
  refine ⟨fun m l tok => ?_, fun m l => ?_, fun m l hread => hlist m l ?_⟩
  · rw [hfunds, hbalance]
    exact hs.funds m l tok
  · rw [hbalance]
    exact hs.balance m l
  · by_cases hsame : m = merchant ∧ l = label
    · exact .inr hsame
    · have hkey : Slot.instanced (.merchantSubAccount m l) ≠
          .instanced (.merchantSubAccount merchant label) := by
        simpa using hsame
      refine .inl (hs.listed m l fun habsent => hread ?_)
      simpa [FiniteStore.read_write_of_ne _ _ hkey] using habsent

theorem withdrawSubAccountFunds_oneToken
    (hrun : (withdrawSubAccountFunds merchant label (home merchant label) amount).run env s =
      .ok u t) : KeepsOneToken home s t := by
  intro hs
  obtain ⟨_, hask, hrun⟩ := run_check_ok .ask hrun
  obtain ⟨rfl, -⟩ := run_ask_ok.mp hask
  obtain ⟨_, -, hrun⟩ := run_check_ok (Modifies.requireAuth _) hrun
  obtain ⟨_, -, hrun⟩ := run_check_ok (requireMerchantApproved_keeps _) hrun
  obtain ⟨_, hsign, hrun⟩ := run_check_ok (.failIf _ _) hrun
  obtain ⟨_, hexists, hrun⟩ := run_check_ok (requireSubAccountExists_keeps _ _) hrun
  obtain ⟨current, hcurrent, hrun⟩ := run_check_ok (.gets _) hrun
  obtain rfl := (run_gets_ok.mp hcurrent).1
  obtain ⟨_, -, hrun⟩ := run_check_ok (.failIf _ _) hrun
  obtain ⟨_, hcovers, hrun⟩ := run_check_ok (.failIf _ _) hrun
  obtain ⟨_, -, hrun⟩ := run_check_ok (Modifies.tokenBalance _ _) hrun
  obtain ⟨_, -, hrun⟩ := run_check_ok (.failIf _ _) hrun
  obtain ⟨balance, hbalance, hrun⟩ := run_check_ok (.lift _) hrun
  obtain ⟨rfl, -⟩ := checkedI128_ok.mp (run_lift_ok.mp hbalance).1
  obtain ⟨_, s₁, hwrite, hrun⟩ := run_bind_ok.mp hrun
  obtain rfl := run_store_ok.mp hwrite
  obtain ⟨funds, hfunds, hrun⟩ := run_check_ok (.gets _) hrun
  obtain rfl := (run_gets_ok.mp hfunds).1
  obtain ⟨_, s₂, hwrite, hrun⟩ := run_bind_ok.mp hrun
  obtain rfl := run_store_ok.mp hwrite
  have hrest : Modifies (areas [.earnings, .tokens]) (do
      recordWithdrawal merchant (home merchant label) amount
      subTotalAccounted (home merchant label) amount
      transfer (home merchant label) env.host.contract merchant amount : Vault Unit) :=
    .bind ((recordWithdrawal_areas _ _ _).widen rfl) fun _ => .bind (.pure ()) fun _ =>
      Modifies.transfer rfl rfl
  have hcovers : amount ≤ s.subAccountBalance merchant label :=
    Int.not_lt.mp (run_failIf_ok.mp hcovers).1
  have hafter : KeepsOneToken home _ t := (hrest.oneToken rfl).ok hrun
  have hmoved := hs.move (-amount) (run_requireSubAccountExists_ok hexists) (by omega)
  have hsame : State.subAccountFunds (s.write (.instanced (.merchantSubAccount merchant label))
      (s.subAccountBalance merchant label - amount)) merchant label (home merchant label) =
        s.subAccountFunds merchant label (home merchant label) := by
    simp [State.subAccountFunds]
  rw [hsame] at hafter
  simp only [← Int.sub_eq_add_neg] at hmoved
  exact hafter hmoved

end Merchants

/-! ## Steps -/

/-- Charges and withdrawals of the step use sub-accounts in their own token only. -/
def VaultAction.UsesHome (home : Address → Symbol → Address) : VaultAction → State → Prop
  | .call _ (.withdrawSubAccountFunds merchant label token _), _ => token = home merchant label
  | l, s => ∀ id, l.PaysOut id → s.ChargesHome home id

section Steps

variable {home : Address → Symbol → Address} {env : Env} {s t : State} {l : VaultAction}
  {call : VaultCall}

theorem State.ChargesHome.of_areas {l : List Area} {id : Nat} (h : s.ChargesHome home id)
    (hagree : FiniteStore.AgreeOff (areas l) s t) (hl : l.contains .records = false) :
    t.ChargesHome home id := by
  have hread : t.subscription id = s.subscription id :=
    State.read_of_areas (k := .persistent (.sub id)) hagree hl
  intro sub hsub
  exact h sub (hread.symm.trans hsub)

/-- What happens behind a lock, seen from outside. -/
theorem oneToken_of_locks {v w : State} (hbefore : FiniteStore.AgreeOff (areas [.locks]) s v)
    (h : KeepsOneToken home v w) (hafter : FiniteStore.AgreeOff (areas [.locks]) w t) :
    KeepsOneToken home s t := by
  have hstart : KeepsOneToken home s v := .of_areas hbefore rfl
  have hend : KeepsOneToken home w t := .of_areas hafter rfl
  exact trans_of (KeepsOneToken home) (trans_of (KeepsOneToken home) hstart h) hend

theorem oneToken_of_call (hsingle : call.isBulk = false) (hrun : call.exec.run env s = .ok () t)
    (huses : (VaultAction.call env call).UsesHome home s) : KeepsOneToken home s t := by
  have hpaid {j : Nat} (hpays : call.PaysOut j) (hhome : s.ChargesHome home j) :
      KeepsOneToken home s t := by
    obtain ⟨v, w, hbefore, hruns, hafter⟩ := VaultCall.chargeRuns hpays hrun
    exact oneToken_of_locks hbefore (hruns.oneToken (hhome.of_areas hbefore rfl)) hafter
  by_cases hquiet :
      (.locks :: call.areas).any [Area.subAccounts, .subAccountLabels].contains = false
  · exact .of_areas (call.worksIn.ok hrun).1 hquiet
  cases call
  case chargeSubscription j _ => exact hpaid rfl (huses j rfl)
  case operatorChargeSubscription j => exact hpaid rfl (huses j rfl)
  case chargeUsage j _ => exact hpaid rfl (huses j rfl)
  case chargeUsageWithReference j _ _ => exact hpaid rfl (huses j rfl)
  case operatorChargeUsage j _ => exact hpaid rfl (huses j rfl)
  case operatorChargeUsageWithRef j _ _ => exact hpaid rfl (huses j rfl)
  case chargeOneOff j _ _ _ => exact hpaid rfl (huses j rfl)
  case graceBuyout =>
    obtain ⟨_, hrun⟩ := run_effectOf_ok.mp hrun
    obtain ⟨u, v, hbody, hbefore, hafter⟩ := run_withLock_areas (run_guardedCall_ok.mp hrun).2
    exact oneToken_of_locks hbefore ((doGraceBuyout_oneToken _ _ _).ok hbody) hafter
  case registerSubAccount => exact registerSubAccount_oneToken hrun
  case withdrawSubAccountFunds merchant label token amount =>
    obtain rfl : token = home merchant label := huses
    obtain ⟨u, v, hbody, hbefore, hafter⟩ := run_withLock_areas hrun
    exact oneToken_of_locks hbefore (withdrawSubAccountFunds_oneToken hbody) hafter
  case batchCharge | batchChargeDetailed => cases hsingle
  all_goals exact absurd rfl hquiet

theorem oneToken_of_item {item : BulkItem} (huses : (VaultAction.item env item).UsesHome home s) :
    (item.exec.run env s).Ends (KeepsOneToken home s) fun _ => KeepsOneToken home s := by
  have hquiet {l : List Area} {x : Vault Unit} (hx : Modifies (areas l) x)
      (hl : l.any [Area.subAccounts, .subAccountLabels].contains = false) :
      (x.run env s).Ends (KeepsOneToken home s) fun _ => KeepsOneToken home s := by
    have hends : x.Ends (KeepsOneToken home) fun _ => KeepsOneToken home :=
      .of_keeps (hx.oneToken hl) fun _ _ hr => hr
    exact hends env s
  cases item with
  | charge j key =>
    have hends := chargeOne_oneToken env (huses j rfl) key none ∅
    cases hrun : (BulkItem.charge j key).exec.run env s with
    | ok a t =>
      obtain ⟨_, hrun⟩ := run_effectOf_ok.mp hrun
      rw [hrun] at hends
      exact hends
    | err e t =>
      rw [run_effectOf_err.mp hrun] at hends
      exact hends
    | trap => trivial
  | deposit caller j amount => exact hquiet (bulkDepositOne_areas caller j amount) rfl
  | cancel j => exact hquiet (bulkCancelOne_areas j) rfl
  | pause j => exact hquiet (bulkPauseOne_areas j) rfl

theorem TidyStep.oneToken (h : TidyStep foreignSlots l s t) (huses : l.UsesHome home s) :
    KeepsOneToken home s t := by
  obtain ⟨hstep, hother⟩ := h
  cases hstep with
  | call hsingle hrun => exact oneToken_of_call hsingle hrun huses
  | item hrun =>
    have hends := oneToken_of_item huses
    rw [hrun] at hends
    exact hends
  | itemFailed hrun =>
    have hends := oneToken_of_item huses
    rw [hrun] at hends
    exact hends
  | other => exact .of_areas (hother _ rfl) rfl

end Steps

/-! ## Balances with sub-accounts -/

/-- What a merchant can take out in a token if each sub-account pays out what it took in. -/
def State.withdrawable (s : State) (merchant token : Address) : Int :=
  s.merchantBalance merchant token +
    ((s.subAccountList merchant).map (s.subAccountFunds merchant · token)).sum

def State.subAccountTotal (s : State) (merchant : Address) : Int :=
  ((s.subAccountList merchant).map (s.subAccountBalance merchant)).sum

section Aggregate

variable {home : Address → Symbol → Address} {s : State} {merchant token : Address}

theorem clampI128_of_inI128 {x : Int} (h : InI128 x) : clampI128 x = x := by
  have hlow : -2 ^ 127 ≤ x := h.1
  have hhigh : x ≤ 2 ^ 127 - 1 := Int.le_sub_one_of_lt h.2
  rw [clampI128, min_eq_left hhigh, max_eq_right hlow]

/-- The running total of the query, which leaves out empty sub-accounts. -/
theorem foldl_subAccounts (hsign : ∀ label, 0 ≤ s.subAccountBalance merchant label)
    (labels : List Symbol) (found : List SubAccountBalance) {total : Int} (hstart : 0 ≤ total)
    (hfits : total + (labels.map (s.subAccountBalance merchant)).sum < 2 ^ 127) :
    (labels.foldl (fun found label =>
      let balance := s.subAccountBalance merchant label
      if 0 < balance then (found.1 ++ [⟨label, balance⟩], clampI128 (found.2 + balance))
      else found) (found, total)).2 =
        total + (labels.map (s.subAccountBalance merchant)).sum := by
  induction labels generalizing found total with
  | nil => simp
  | cons label labels ih =>
    have hbalance := hsign label
    have hrest : 0 ≤ (labels.map (s.subAccountBalance merchant)).sum := by
      refine List.sum_nonneg fun x hx => ?_
      obtain ⟨other, -, rfl⟩ := List.mem_map.mp hx
      exact hsign other
    rw [List.map_cons, List.sum_cons] at hfits ⊢
    rw [List.foldl_cons]
    by_cases hempty : 0 < s.subAccountBalance merchant label
    · have hin : InI128 (total + s.subAccountBalance merchant label) :=
        ⟨by omega, by omega⟩
      simp only [if_pos hempty, clampI128_of_inI128 hin]
      rw [ih _ (by omega) (by omega)]
      omega
    · simp only [if_neg hempty]
      rw [ih _ hstart (by omega)]
      omega

/-- As long as the sums fit, the query adds up all sub-accounts. -/
theorem getMerchantBalanceAggregated_eq (hsign : ∀ label, 0 ≤ s.subAccountBalance merchant label)
    (htotal : InI128 (s.subAccountTotal merchant))
    (hsum : InI128 (s.merchantBalance merchant token + s.subAccountTotal merchant)) :
    getMerchantBalanceAggregated s merchant token =
      s.merchantBalance merchant token + s.subAccountTotal merchant := by
  have hfits : 0 + ((s.subAccountList merchant).map (s.subAccountBalance merchant)).sum <
      2 ^ 127 := by
    rw [zero_add]
    exact htotal.2
  have hfold := foldl_subAccounts hsign (s.subAccountList merchant) [] (Int.le_refl 0) hfits
  rw [zero_add] at hfold
  unfold getMerchantBalanceAggregated getMerchantTokenEarningsWithSubAccounts
  simp only [hfold]
  exact clampI128_of_inI128 hsum

/-- The query is right where every sub-account that holds anything holds the token. -/
theorem State.OneToken.aggregated_iff (hs : s.OneToken home)
    (htotal : InI128 (s.subAccountTotal merchant))
    (hsum : InI128 (s.merchantBalance merchant token + s.subAccountTotal merchant)) :
    getMerchantBalanceAggregated s merchant token = s.withdrawable merchant token ↔
      ∀ label ∈ s.subAccountList merchant, s.subAccountBalance merchant label ≠ 0 →
        home merchant label = token := by
  have hfunds : (s.subAccountFunds merchant · token) = fun label =>
      if token = home merchant label then s.subAccountBalance merchant label else 0 :=
    funext fun label => hs.funds merchant label token
  rw [getMerchantBalanceAggregated_eq (hs.balance merchant) htotal hsum, State.withdrawable,
    State.subAccountTotal, hfunds, Int.add_right_inj]
  generalize s.subAccountList merchant = labels
  have hpart (label : Symbol) :
      (if token = home merchant label then s.subAccountBalance merchant label else 0) ≤
        s.subAccountBalance merchant label := by
    split
    · exact Int.le_refl _
    · exact hs.balance merchant label
  induction labels with
  | nil => simp
  | cons label labels ih =>
    have hrest := List.sum_le_sum (l := labels) fun label _ => hpart label
    have hhead := hpart label
    have hown : s.subAccountBalance merchant label =
        (if token = home merchant label then s.subAccountBalance merchant label else 0) ↔
          (s.subAccountBalance merchant label ≠ 0 → home merchant label = token) := by
      by_cases htoken : token = home merchant label
      · simp [htoken]
      · simp [htoken, Ne.symm htoken]
    rw [List.map_cons, List.map_cons, List.sum_cons, List.sum_cons, List.forall_mem_cons]
    refine Iff.trans ⟨fun hsum => ⟨by omega, by omega⟩, fun ⟨hsame, htail⟩ => by omega⟩
      (and_congr hown ih)

end Aggregate

/-! ## Runs -/

/-- No sub-account pays out more of a token than charges in it brought in, and the balance told in
a token is right where the sub-accounts hold no other. -/
structure State.SubAccountsIsolated (home : Address → Symbol → Address) (s : State) : Prop where
  covered : ∀ merchant label token, 0 ≤ s.subAccountFunds merchant label token
  aggregated : ∀ merchant token, InI128 (s.subAccountTotal merchant) →
    InI128 (s.merchantBalance merchant token + s.subAccountTotal merchant) →
    (getMerchantBalanceAggregated s merchant token = s.withdrawable merchant token ↔
      ∀ label ∈ s.subAccountList merchant, s.subAccountBalance merchant label ≠ 0 →
        home merchant label = token)

section Runs

variable {start s : State} {hist : History VaultAction State}

theorem Deployed.oneToken {home : Address → Symbol → Address} (h : Deployed start) :
    start.OneToken home := by
  have hempty : State.OneToken home FiniteStore.empty :=
    ⟨fun _ _ _ => (ite_self _).symm, fun _ _ => Int.le_refl 0, fun _ _ h => absurd rfl h⟩
  exact KeepsOneToken.of_areas h.areas rfl hempty

end Runs

/-! ## A withdrawal in another token -/

private def stashedIncome : List VaultAction :=
  [.call (sampleEnv 60 []) (.chargeSubscription 0 none),
   .call (sampleEnv 0 [⟨2⟩]) (.depositFunds 0 20 none),
   .call (sampleEnv 0 [⟨1⟩]) (.registerSubAccount ⟨1⟩ ⟨5⟩),
   .call (sampleEnv 0 [⟨2⟩]) (.createSubscription
     { sampleRequest with subAccountLabel := some ⟨5⟩ })]

/-- Ten units of token 10 are in the vault, none of them for merchant 1. -/
private def otherToken : List (Env × Vault Unit) :=
  (sampleEnv 0 [], mint ⟨10⟩ ⟨0⟩ 10) :: sampleVault 0

end SubscriptionVault
