import SubscriptionVault.Charging.Footprints
import SubscriptionVault.Framework.Ledger

/-!
# Credits

What the vault owes its merchants, the treasury and the sub-accounts in one token, and by how
much each step of a charge raises it. Splitting a charge between payees loses nothing to
rounding, and a sub-account is only a transfer between two entries.
-/

namespace SubscriptionVault

open Exec

/-- Balances and sub-account funds count in their own token. -/
def creditWeight (token : Address) : (k : Slot) → Slot.Val k → Int
  | .instanced (.merchantBalance _ t), (balance : Int) => if t = token then balance else 0
  | .subAccountFunds _ _ t, (funds : Int) => if t = token then funds else 0
  | _, _ => 0

/-- Everything credited in the token. -/
def State.credited (s : State) (token : Address) : Int := s.total (creditWeight token)

/-- Slots that hold no credit in any token. -/
def uncredited : Set Slot := {k | ∀ token v, creditWeight token k v = 0}

/-- An amount of one token, looked at in another. -/
def inToken (token t : Address) (amount : Int) : Int := if t = token then amount else 0

section Credits

variable {env : Env} {s t : State} {α : Type} {a : α} {u : Unit} {token tok merchant : Address}
  {amount net : Int} {kind : BillingChargeKind}

theorem inToken_self (token : Address) (amount : Int) : inToken token token amount = amount :=
  if_pos rfl

theorem inToken_add (token t : Address) (a b : Int) :
    inToken token t (a + b) = inToken token t a + inToken token t b := by
  unfold inToken
  split <;> simp

@[simp] theorem inToken_zero (token t : Address) : inToken token t 0 = 0 :=
  ite_self _

theorem logSlots_subset_uncredited : logSlots ⊆ uncredited := by
  intro k hk token v
  have hk : k.isLog = true := hk
  cases k with
  | instanced key => cases key <;> first | rfl | cases hk
  | subAccountFunds => cases hk
  | _ => rfl

theorem Modifies.credited {x : Vault α} (hx : Modifies uncredited x)
    (hrun : x.run env s = .ok a t) (token : Address) : t.credited token = s.credited token := by
  have hposts : x.Posts (creditWeight token) 0 := Posts.quiet hx fun k hk v => hk token v
  rw [State.credited, hposts _ _ _ _ hrun, add_zero]
  rfl

/-- Writing an amount of `tok` adds what it adds to the entry. -/
theorem credited_write {k : Slot} [h : Holds Slot.Val k Int] (s : State) (value : Int)
    (hk : ∀ v : Int, creditWeight token k (h.type_eq ▸ v) = inToken token tok v) :
    State.credited (s.write k value) token =
      s.credited token + inToken token tok (value - (s.read k).getD 0) := by
  unfold State.credited
  rw [FiniteStore.total_write, hk]
  cases s.read k with
  | none => simp
  | some old =>
    have hsplit := inToken_add token tok (value - old) old
    rw [Int.sub_add_cancel] at hsplit
    simp only [Option.elim_some, Option.getD_some, hk]
    omega

theorem credited_setBalance (s : State) (merchant tok : Address) (balance : Int)
    (token : Address) :
    State.credited (s.write (.instanced (.merchantBalance merchant tok)) balance) token =
      s.credited token + inToken token tok (balance - s.merchantBalance merchant tok) :=
  credited_write s balance fun _ => rfl

theorem credited_setFunds (s : State) (merchant : Address) (label : Symbol) (tok : Address)
    (funds : Int) (token : Address) :
    State.credited (s.write (.subAccountFunds merchant label tok) funds) token =
      s.credited token + inToken token tok (funds - s.subAccountFunds merchant label tok) :=
  credited_write s funds fun _ => rfl

theorem creditMerchantBalanceForToken_credited
    (hrun : (creditMerchantBalanceForToken merchant tok amount kind).run env s = .ok u t) :
    0 ≤ amount ∧ ∀ token, t.credited token = s.credited token + inToken token tok amount := by
  obtain ⟨_, hsign, hrun⟩ := run_check_ok (.failIf _ _) hrun
  obtain ⟨current, hcurrent, hrun⟩ := run_check_ok (.gets _) hrun
  obtain rfl := (run_gets_ok.mp hcurrent).1
  obtain ⟨balance, hbalance, hrun⟩ := run_check_ok (.lift _) hrun
  obtain ⟨rfl, -⟩ := safeAdd_ok.mp (run_lift_ok.mp hbalance).1
  obtain ⟨_, s₁, hwrite, hrun⟩ := run_bind_ok.mp hrun
  obtain rfl := run_store_ok.mp hwrite
  refine ⟨by simpa using (run_failIf_ok.mp hsign).1, fun token => ?_⟩
  have hrest : Modifies uncredited (do
      let earnings ← gets (·.tokenEarnings merchant tok)
      let accruals ← lift (earnings.accruals.accrue kind amount)
      setMerchantTokenEarnings merchant tok { earnings with accruals }
      addMerchantToken merchant tok
      addTotalAccounted tok amount) :=
    .bind (.gets _) fun _ => .bind (.lift _) fun _ => .bind (Modifies.store fun _ _ => rfl)
      fun _ => .bind (.bind (.gets _) fun _ => .when (Modifies.store fun _ _ => rfl)) fun _ =>
      .pure _
  rw [hrest.credited hrun token, credited_setBalance]
  congr 2
  omega

theorem creditSubAccount_credited {label : Symbol}
    (hrun : (creditSubAccount merchant label tok amount).run env s = .ok u t) (token : Address) :
    t.credited token = s.credited token + inToken token tok amount := by
  obtain ⟨_, -, hrun⟩ := run_check_ok (.failIf _ _) hrun
  obtain ⟨_, -, hrun⟩ := run_check_ok (.bind Modifies.load fun _ => .failIf _ _) hrun
  obtain ⟨_, -, hrun⟩ := run_check_ok (.gets _) hrun
  obtain ⟨balance, -, hrun⟩ := run_check_ok (.lift _) hrun
  obtain ⟨_, s₁, hwrite, hrun⟩ := run_bind_ok.mp hrun
  have hkept : Modifies uncredited
      (store (.instanced (.merchantSubAccount merchant label)) balance : Vault Unit) :=
    Modifies.store fun _ _ => rfl
  obtain ⟨funds, hfunds, hrun⟩ := run_check_ok (.gets _) hrun
  obtain rfl := (run_gets_ok.mp hfunds).1
  obtain rfl := run_store_ok.mp hrun
  rw [credited_setFunds, hkept.credited hwrite token]
  congr 2
  omega

/-- The amount moves from one entry of the merchant to another. -/
theorem routeToSubAccount_credited {sub : Subscription}
    (hrun : (routeToSubAccount sub net).run env s = .ok u t) (token : Address) :
    t.credited token = s.credited token := by
  rcases run_whenSome_ok.mp hrun with ⟨label, -, hrun⟩ | ⟨-, rfl⟩
  · obtain ⟨_, s₁, hcredit, hrun⟩ := run_bind_ok.mp hrun
    obtain ⟨parent, hparent, hrun⟩ := run_check_ok (.gets _) hrun
    obtain rfl := (run_gets_ok.mp hparent).1
    obtain ⟨_, hbalance, hrun⟩ := run_check_ok (.lift _) hrun
    obtain ⟨rfl, -⟩ := safeSub_ok.mp (run_lift_ok.mp hbalance).1
    obtain rfl := run_store_ok.mp hrun
    have hsplit := inToken_add token sub.token net (-net)
    rw [credited_setBalance, creditSubAccount_credited hcredit]
    rw [Int.add_right_neg, inToken_zero] at hsplit
    rw [show s₁.merchantBalance sub.merchant sub.token - net -
      s₁.merchantBalance sub.merchant sub.token = -net by omega]
    omega
  · rfl

/-- The shares that were credited add up, none of them is negative. -/
theorem creditShares_credited {payees : List (Address × Nat)} {total distributed : Int}
    (hrun : (creditShares tok net kind payees total).run env s = .ok distributed t)
    (htotal : InI128 total) : total ≤ distributed ∧ InI128 distributed ∧
      ∀ token, t.credited token = s.credited token + inToken token tok (distributed - total) := by
  induction payees generalizing s total with
  | nil =>
    obtain ⟨rfl, rfl⟩ := run_pure_ok.mp hrun
    exact ⟨le_rfl, htotal, fun token => by simp⟩
  | cons payee payees ih =>
    obtain ⟨next, hnext, hrun⟩ := run_check_ok (.lift _) hrun
    obtain ⟨hnext, hfits⟩ := safeAdd_ok.mp (run_lift_ok.mp hnext).1
    obtain ⟨_, s₁, hcredit, hrun⟩ := run_bind_ok.mp hrun
    obtain ⟨hpositive, hcredited⟩ := creditMerchantBalanceForToken_credited hcredit
    obtain ⟨hle, hlast, hrest⟩ := ih hrun (hnext ▸ hfits)
    refine ⟨by omega, hlast, fun token => ?_⟩
    have hsplit := inToken_add token tok (splitShare net payee.2) (distributed - next)
    rw [show splitShare net payee.2 + (distributed - next) = distributed - total by omega] at hsplit
    rw [hrest, hcredited, hsplit]
    omega

/-- Split or not, the payees get exactly the net amount. -/
theorem creditChargePayees_credited {id : Nat} {sub : Subscription} (hnet : 0 ≤ net)
    (hmax : InI128 net) (hrun : (creditChargePayees id sub net kind).run env s = .ok u t)
    (token : Address) : t.credited token = s.credited token + inToken token sub.token net := by
  obtain ⟨split, -, hrun⟩ := run_check_ok (.gets _) hrun
  cases split with
  | none => exact (creditMerchantBalanceForToken_credited hrun).2 token
  | some split =>
    obtain ⟨_, entries, _, hweight⟩ := split
    cases entries with
    | nil => cases hweight
    | cons first others =>
      obtain ⟨distributed, s₁, hshares, hrun⟩ := run_bind_ok.mp hrun
      obtain ⟨hpositive, hfits, hshared⟩ := creditShares_credited hshares (by decide)
      obtain ⟨-, hfirst⟩ := creditMerchantBalanceForToken_credited hrun
      have hremainder : wrapI128 (net - distributed) = net - distributed := by
        refine wrapI128_of_inI128 ?_
        unfold InI128 at hfits hmax ⊢
        omega
      have hsplit := inToken_add token sub.token distributed (net - distributed)
      rw [show distributed + (net - distributed) = net by omega] at hsplit
      rw [hfirst, hshared, hremainder, Int.sub_zero, hsplit]
      omega

end Credits

/-! ## Fees -/

/-- A converted fee is credited in the fee token, any other in the token of the charge. -/
def State.FeeCredited (s : State) (env : Env) (token : Address) (fee : Int)
    (feeToken : Address) (feeCredit : Int) : Prop :=
  feeToken = token ∧ feeCredit = fee ∨
    s.convertFee env token fee = some ⟨feeCredit, some feeToken⟩

/-- The treasury is credited the fee of a charge, converted or not. -/
def PaysFee (env : Env) (token : Address) (treasury : Option Address) (kind : BillingChargeKind)
    (fee : Int) (s t : State) : Prop :=
  fee ≤ 0 ∧ s = t ∨
    ∃ payee feeToken feeCredit, treasury = some payee ∧
      s.FeeCredited env token fee feeToken feeCredit ∧
      (creditMerchantBalanceForToken payee feeToken feeCredit kind).run env s = .ok () t

section Fees

variable {env : Env} {s t : State} {u : Unit} {token : Address} {amount fee : Int}
  {feeBps : Nat} {treasury : Option Address}

/-- The fee is a part of the amount, even where the product wraps. -/
theorem protocolFee_bounds (hamount : 0 < amount) (hrate : feeBps ≤ 10000) :
    0 ≤ protocolFee amount feeBps treasury ∧ protocolFee amount feeBps treasury ≤ amount := by
  unfold protocolFee
  split
  · refine ⟨le_max_of_le_right (by omega), max_le ?_ (by omega)⟩
    have hproduct : amount * feeBps ≤ amount * 10000 :=
      Int.mul_le_mul_of_nonneg_left (by omega) (by omega)
    have hpositive : 0 ≤ amount * feeBps := Int.mul_nonneg (by omega) (by omega)
    have hwrapped : wrapI128 (amount * feeBps) ≤ amount * 10000 := by
      by_cases hfits : amount * feeBps < 2 ^ 127
      · rwa [wrapI128_of_inI128 ⟨by omega, hfits⟩]
      · have hbmod : wrapI128 (amount * feeBps) < (2 ^ 128 + 1) / 2 :=
          Int.bmod_lt (by decide)
        omega
    rw [Int.tdiv_eq_ediv, show Int.sign 10000 = 1 from rfl]
    split <;> omega
  · exact ⟨le_rfl, hamount.le⟩

theorem State.convertFee_unconverted {conversion : FeeConversion}
    (h : s.convertFee env token fee = some conversion) (hnone : conversion.targetToken = none) :
    conversion.effectiveAmount = fee := by
  unfold State.convertFee at h
  split at h
  · obtain rfl := Option.some.inj h
    rfl
  split at h
  · obtain rfl := Option.some.inj h
    rfl
  split at h
  · obtain rfl := Option.some.inj h
    rfl
  obtain ⟨price, -, rfl⟩ := Option.map_eq_some_iff.mp h
  cases price with
  | error => rfl
  | ok price =>
    dsimp only at hnone ⊢
    split at hnone
    · cases hnone
    · rename_i hzero
      rw [if_neg hzero]

theorem creditProtocolFee_pays {kind : BillingChargeKind} (htreasury : 0 < fee → treasury.isSome)
    (hrun : (creditProtocolFee token fee treasury kind).run env s = .ok u t) :
    PaysFee env token treasury kind fee s t := by
  rcases run_when_ok.mp hrun with ⟨hpositive, hrun⟩ | ⟨hnone, rfl⟩
  · obtain ⟨_, hask, hrun⟩ := run_check_ok .ask hrun
    obtain ⟨rfl, -⟩ := run_ask_ok.mp hask
    obtain ⟨converted, hconverted, hrun⟩ := run_check_ok (.gets _) hrun
    obtain rfl := (run_gets_ok.mp hconverted).1
    obtain ⟨conversion, hconversion, hrun⟩ := run_check_ok (.unwrap _) hrun
    have hconversion := (run_unwrap_ok.mp hconversion).1
    obtain ⟨payee, rfl⟩ := Option.isSome_iff_exists.mp (htreasury hpositive)
    refine .inr ⟨payee, _, _, rfl, ?_, hrun⟩
    cases htarget : conversion.targetToken with
    | none => exact .inl ⟨rfl, State.convertFee_unconverted hconversion htarget⟩
    | some target =>
      refine .inr (hconversion.trans ?_)
      rw [Option.getD_some, ← htarget]
  · exact .inl ⟨Int.not_lt.mp hnone, rfl⟩

theorem creditOneOffFee_pays (htreasury : 0 < fee → treasury.isSome)
    (hrun : (creditOneOffFee token fee treasury).run env s = .ok u t) :
    PaysFee env token treasury .oneOff fee s t := by
  rcases run_when_ok.mp hrun with ⟨hpositive, hrun⟩ | ⟨hnone, rfl⟩
  · obtain ⟨payee, rfl⟩ := Option.isSome_iff_exists.mp (htreasury hpositive)
    exact .inr ⟨payee, token, fee, rfl, .inl ⟨rfl, rfl⟩, hrun⟩
  · exact .inl ⟨Int.not_lt.mp hnone, rfl⟩

/-- A fee is only taken for a treasury. -/
theorem treasury_of_protocolFee (h : 0 < protocolFee amount feeBps treasury) :
    treasury.isSome := by
  unfold protocolFee at h
  split at h
  · rename_i hterms
    exact hterms.2
  · cases h

end Fees

end SubscriptionVault
