import SubscriptionVault.Accounts.Payments
import SubscriptionVault.Contract.Entrypoints

/-!
# Shares of split payees

A charge for several payees gives every payee but the first its rounded-down share and the first
what is left. The shares that go into the event are computed once more; they are the ones that
were credited.
-/

namespace SubscriptionVault

open Exec

/-! ## The event -/

/-- The payees of the `split_charge` event, from the total the loop has distributed. -/
def splitChargePayees (net distributed : Int) : List (Address × Nat) → List (Address × Int)
  | [] => []
  | (first, _) :: others => (first, wrapI128 (net - distributed)) ::
    others.map fun entry => (entry.1, splitShare net entry.2)

/-- `credit_charge_payees` with the payees of its event; without a split there is none. -/
def creditChargePayeesReported (id : Nat) (sub : Subscription) (net : Int)
    (kind : BillingChargeKind) : Vault (Option (List (Address × Int))) := do
  let split ← gets (·.splitPayees id)
  match split.map (·.entries) with
  | none => do
    creditMerchantBalanceForToken sub.merchant sub.token net kind
    pure none
  | some [] => pure (some [])
  | some ((first, weight) :: others) => do
    let distributed ← creditShares sub.token net kind others 0
    creditMerchantBalanceForToken first sub.token (wrapI128 (net - distributed)) kind
    pure (some (splitChargePayees net distributed ((first, weight) :: others)))

/-! ## The shares -/

def floorShare (net : Int) (weight : Nat) : Int := net * weight / 10000

/-- Every payee but the first has its rounded-down share, the first has the rest. -/
def shares (net : Int) : List (Address × Nat) → List (Address × Int)
  | [] => []
  | (first, _) :: others =>
    (first, net - (others.map fun entry => floorShare net entry.2).sum) ::
      others.map fun entry => (entry.1, floorShare net entry.2)

theorem shares_cons (net : Int) (first : Address) (weight : Nat)
    (others : List (Address × Nat)) : shares net ((first, weight) :: others) =
      (first, net - (others.map fun entry => floorShare net entry.2).sum) ::
        others.map fun entry => (entry.1, floorShare net entry.2) :=
  rfl

theorem splitChargePayees_cons (net distributed : Int) (first : Address) (weight : Nat)
    (others : List (Address × Nat)) :
    splitChargePayees net distributed ((first, weight) :: others) =
      (first, wrapI128 (net - distributed)) ::
        others.map fun entry => (entry.1, splitShare net entry.2) :=
  rfl

/-- What an address gets of the shares; it may be listed more than once. -/
def creditedTo (payee : Address) (credited : List (Address × Int)) : Int :=
  ((credited.filter (·.1 = payee)).map (·.2)).sum

section Arithmetic

variable {net : Int} {entries : List (Address × Nat)} {weight : Nat}

theorem floorShare_nonneg (hnet : 0 ≤ net) : 0 ≤ floorShare net weight :=
  Int.ediv_nonneg (Int.mul_nonneg hnet (Int.natCast_nonneg _)) (by decide)

/-- Within the largest subscription amount the unchecked product does not wrap. -/
theorem splitShare_eq (hnet : 0 ≤ net) (hmax : net ≤ maxSubscriptionAmount)
    (hweight : weight ≤ 10000) : splitShare net weight = floorShare net weight := by
  have hproduct : 0 ≤ net * (weight : Int) := Int.mul_nonneg hnet (Int.natCast_nonneg _)
  have hle : net * weight ≤ maxSubscriptionAmount * 10000 :=
    Int.mul_le_mul hmax (by omega) (by omega) (by decide)
  have hlarge : maxSubscriptionAmount * 10000 < 2 ^ 127 := by decide
  unfold splitShare floorShare
  rw [wrapI128_of_inI128 ⟨by omega, by omega⟩, Int.tdiv_eq_ediv_of_nonneg hproduct]

/-- Rounding down every share leaves less than one unit for each of them. -/
theorem floorShares_bounds (net : Int) (entries : List (Address × Nat)) :
    10000 * (entries.map fun entry => floorShare net entry.2).sum ≤
        net * (entries.map Prod.snd).sum ∧
      net * (entries.map Prod.snd).sum ≤
        10000 * (entries.map fun entry => floorShare net entry.2).sum + 9999 * entries.length := by
  induction entries with
  | nil => simp
  | cons entry rest ih =>
    have hdiv := Int.emod_add_mul_ediv (net * entry.2) 10000
    have hnonneg := Int.emod_nonneg (net * entry.2) (show (10000 : Int) ≠ 0 by decide)
    have hlt := Int.emod_lt_of_pos (net * entry.2) (show (0 : Int) < 10000 by decide)
    have hsplit : net * ((entry.2 + (rest.map Prod.snd).sum : Nat) : Int) =
        net * entry.2 + net * (rest.map Prod.snd).sum := by
      push_cast
      ring
    simp only [List.map_cons, List.sum_cons, List.length_cons, hsplit]
    have hshare : floorShare net entry.2 = net * entry.2 / 10000 := rfl
    omega

theorem floorShares_nonneg (hnet : 0 ≤ net) (entries : List (Address × Nat)) :
    0 ≤ (entries.map fun entry => floorShare net entry.2).sum := by
  refine List.sum_nonneg fun x hx => ?_
  obtain ⟨entry, -, rfl⟩ := List.mem_map.mp hx
  exact floorShare_nonneg hnet

theorem shares_sum (hentries : entries ≠ []) : ((shares net entries).map (·.2)).sum = net := by
  cases entries with
  | nil => exact absurd rfl hentries
  | cons first others =>
    simp only [shares, List.map_cons, List.sum_cons, List.map_map, Function.comp_def]
    omega

/-- The first share is at least its rounded-down part and less than one unit per payee above. -/
theorem first_share_bounds (net : Int) {first : Address × Nat} {others : List (Address × Nat)}
    (htotal : ((first :: others).map Prod.snd).sum = 10000) :
    floorShare net first.2 ≤ net - (others.map fun entry => floorShare net entry.2).sum ∧
      net - (others.map fun entry => floorShare net entry.2).sum <
        floorShare net first.2 + (first :: others).length := by
  obtain ⟨hlow, hhigh⟩ := floorShares_bounds net (first :: others)
  rw [htotal] at hlow hhigh
  simp only [List.map_cons, List.sum_cons, List.length_cons] at hlow hhigh ⊢
  push_cast at hlow hhigh ⊢
  omega

theorem shares_nonneg (hnet : 0 ≤ net) (htotal : (entries.map Prod.snd).sum = 10000) :
    ∀ share ∈ shares net entries, 0 ≤ share.2 := by
  cases entries with
  | nil => nofun
  | cons first others =>
    intro share hmem
    rcases List.mem_cons.mp hmem with rfl | hmem
    · exact (floorShare_nonneg hnet).trans (first_share_bounds net htotal).1
    · obtain ⟨entry, -, rfl⟩ := List.mem_map.mp hmem
      exact floorShare_nonneg hnet

end Arithmetic

/-! ## The credits -/

section Credits

variable {env : Env} {s t : State} {id : Nat} {sub : Subscription} {net : Int}
  {kind : BillingChargeKind} {u : Unit}

/-- A credit raises one balance. -/
theorem creditMerchantBalanceForToken_balance {merchant token : Address} {amount : Int}
    (hrun : (creditMerchantBalanceForToken merchant token amount kind).run env s = .ok u t)
    (payee tok : Address) : t.merchantBalance payee tok = s.merchantBalance payee tok +
      if tok = token then creditedTo payee [(merchant, amount)] else 0 := by
  obtain ⟨-, haccounts⟩ := creditMerchantBalanceForToken_posts hrun
  have hbalance := congrArg (fun a : Accounts => a.balance payee tok) haccounts
  refine hbalance.trans ?_
  show (if payee = merchant ∧ tok = token then s.merchantBalance merchant token + amount
    else s.merchantBalance payee tok) = _
  by_cases htoken : tok = token
  · by_cases hpayee : payee = merchant
    · simp [creditedTo, htoken, hpayee]
    · simp [creditedTo, htoken, hpayee, Ne.symm hpayee]
  · simp [htoken]

theorem creditedTo_cons (payee : Address) (share : Address × Int)
    (rest : List (Address × Int)) :
    creditedTo payee (share :: rest) = creditedTo payee [share] + creditedTo payee rest := by
  unfold creditedTo
  by_cases h : share.1 = payee <;> simp [h]

/-- The loop over the other payees credits the share of each and adds them up. -/
theorem creditShares_credits {token : Address} {others : List (Address × Nat)}
    {total distributed : Int}
    (hrun : (creditShares token net kind others total).run env s = .ok distributed t) :
    distributed = total + (others.map fun entry => splitShare net entry.2).sum ∧
      ∀ payee tok, t.merchantBalance payee tok = s.merchantBalance payee tok +
        if tok = token then
          creditedTo payee (others.map fun entry => (entry.1, splitShare net entry.2)) else 0 := by
  induction others generalizing s total with
  | nil =>
    obtain ⟨rfl, rfl⟩ := run_pure_ok.mp hrun
    exact ⟨by simp, fun payee tok => by simp [creditedTo]⟩
  | cons entry rest ih =>
    obtain ⟨payee, weight⟩ := entry
    obtain ⟨running, hadd, hrun⟩ := run_check_ok (.lift _) hrun
    obtain ⟨hrunning, -⟩ := safeAdd_ok.mp (run_lift_ok.mp hadd).1
    obtain ⟨_, s₁, hcredit, hrest⟩ := run_bind_ok.mp hrun
    obtain ⟨hdistributed, hbalances⟩ := ih hrest
    refine ⟨?_, fun holder tok => ?_⟩
    · simp only [List.map_cons, List.sum_cons]
      omega
    · have hcons := creditedTo_cons holder (payee, splitShare net weight)
        (rest.map fun entry => (entry.1, splitShare net entry.2))
      rw [hbalances, creditMerchantBalanceForToken_balance hcredit, List.map_cons, hcons]
      split <;> omega

theorem creditChargePayees_credits {split : SplitPayees} (hsplit : s.splitPayees id = some split)
    (hnet : 0 ≤ net) (hmax : net ≤ maxSubscriptionAmount)
    (hrun : (creditChargePayees id sub net kind).run env s = .ok () t) :
    (creditChargePayeesReported id sub net kind).run env s =
        .ok (some (shares net split.entries)) t ∧
      ∀ payee tok, t.merchantBalance payee tok = s.merchantBalance payee tok +
        if tok = sub.token then creditedTo payee (shares net split.entries) else 0 := by
  have hbounded : ∀ entry ∈ split.entries, entry.2 ≤ 10000 := fun entry hmem =>
    split.total_weight ▸ List.le_sum_of_mem (List.mem_map_of_mem hmem)
  have hfloor : ∀ entry ∈ split.entries, splitShare net entry.2 = floorShare net entry.2 :=
    fun entry hmem => splitShare_eq hnet hmax (hbounded entry hmem)
  have htotal := split.total_weight
  unfold creditChargePayees at hrun
  unfold creditChargePayeesReported
  obtain ⟨found, hfound, hrun⟩ := run_check_ok (.gets _) hrun
  obtain rfl := (run_gets_ok.mp hfound).1
  rw [run_bind_of_ok hfound]
  rw [hsplit] at hrun ⊢
  simp only [Option.map_some] at hrun ⊢
  clear hfound
  generalize split.entries = entries at *
  cases entries with
  | nil => cases htotal
  | cons entry others =>
    obtain ⟨first, weight⟩ := entry
    obtain ⟨distributed, s₁, hshares, hcredit⟩ := run_bind_ok.mp hrun
    obtain ⟨hdistributed, hbalances⟩ := creditShares_credits hshares
    have hmap : (others.map fun entry => splitShare net entry.2) =
        others.map fun entry => floorShare net entry.2 :=
      List.map_congr_left fun entry hmem => hfloor entry (List.mem_cons_of_mem _ hmem)
    have hpairs : (others.map fun entry => (entry.1, splitShare net entry.2)) =
        others.map fun entry => (entry.1, floorShare net entry.2) :=
      List.map_congr_left fun entry hmem => by rw [hfloor entry (List.mem_cons_of_mem _ hmem)]
    rw [hmap, zero_add] at hdistributed
    rw [hpairs] at hbalances
    have hrest : wrapI128 (net - distributed) =
        net - (others.map fun entry => floorShare net entry.2).sum := by
      have hbounds := first_share_bounds net htotal
      have hfirst : 0 ≤ floorShare net (first, weight).2 := floorShare_nonneg hnet
      have hothers := floorShares_nonneg hnet others
      have hlarge : maxSubscriptionAmount < 2 ^ 127 := by decide
      rw [hdistributed]
      exact wrapI128_of_inI128 ⟨by omega, by omega⟩
    rw [hrest] at hcredit
    refine ⟨?_, fun payee tok => ?_⟩
    · rw [run_bind_of_ok hshares, hrest, run_bind_of_ok hcredit, splitChargePayees_cons, hrest,
        hpairs, shares_cons]
      rfl
    · have hcons := creditedTo_cons payee
        (first, net - (others.map fun entry => floorShare net entry.2).sum)
        (others.map fun entry => (entry.1, floorShare net entry.2))
      rw [creditMerchantBalanceForToken_balance hcredit, hbalances, shares_cons, hcons]
      split <;> omega

end Credits

/-! ## Every share -/

/-- What the split payees of a charge receive: all of the net amount, the rounded-down share for
every payee after the first and the rest, less than one unit per payee more, for the first. -/
structure PaidExactly (net : Int) (entries : List (Address × Nat))
    (credited : List (Address × Int)) : Prop where
  payees : credited.map (·.1) = entries.map (·.1)
  total : (credited.map (·.2)).sum = net
  others : ∀ (i : Nat) (hi : i < entries.length), 0 < i →
    credited[i]?.map (·.2) = some (net * (entries[i].2 : Int) / 10000)
  first : ∀ (hi : 0 < entries.length), ∃ share, credited[0]?.map (·.2) = some share ∧
    net * (entries[0].2 : Int) / 10000 ≤ share ∧
      share < net * (entries[0].2 : Int) / 10000 + entries.length
  nonneg : ∀ share ∈ credited, 0 ≤ share.2

theorem shares_paidExactly {net : Int} {entries : List (Address × Nat)} (hnet : 0 ≤ net)
    (htotal : (entries.map Prod.snd).sum = 10000) :
    PaidExactly net entries (shares net entries) := by
  cases entries with
  | nil => cases htotal
  | cons first others =>
    constructor
    · simp [shares]
    · exact shares_sum (by simp)
    · intro i hi hpos
      obtain ⟨j, rfl⟩ : ∃ j, i = j + 1 := ⟨i - 1, by omega⟩
      simp only [List.length_cons, Nat.add_lt_add_iff_right] at hi
      simp [shares, floorShare, hi]
    · intro _
      exact ⟨_, by simp [shares], first_share_bounds net htotal⟩
    · exact shares_nonneg hnet htotal

/-- A charge that credits the payees of a split credits the shares its event lists, each address
with the sum of its shares, and pays them exactly. -/
theorem split_payees_exact {env : Env} {s t : State} {id : Nat} {sub : Subscription} {net : Int}
    {kind : BillingChargeKind} {split : SplitPayees} (hsplit : s.splitPayees id = some split)
    (hnet : 0 ≤ net) (hmax : net ≤ maxSubscriptionAmount)
    (hrun : (creditChargePayees id sub net kind).run env s = .ok () t) :
    ∃ credited : List (Address × Int),
      (creditChargePayeesReported id sub net kind).run env s = .ok (some credited) t ∧
      PaidExactly net split.entries credited ∧
      ∀ payee tok, t.merchantBalance payee tok = s.merchantBalance payee tok +
        if tok = sub.token then creditedTo payee credited else 0 := by
  obtain ⟨hreported, hbalances⟩ := creditChargePayees_credits hsplit hnet hmax hrun
  exact ⟨_, hreported, shares_paidExactly hnet split.total_weight, hbalances⟩

/-! ## An address listed twice -/

/-- The first and the last payee are the same address. -/
private def sharedSplit : List (Env × Vault Unit) :=
  [(sampleEnv 0 [⟨2⟩], do
      let _ ← createSubscriptionWithSplit sampleRequest
        [(⟨1⟩, 3333), (⟨2⟩, 3333), (⟨1⟩, 3334)])] ++ sampleVault 0

/-- Of 100 units the two other payees have 33 each and the first 34: address 1 gets 67. -/
theorem split_payees_shared_address : ∃ (sub : Subscription) (split : SplitPayees) (t : State)
    (credited : List (Address × Int)),
    (afterCalls sharedSplit).subscription 0 = some sub ∧
      (afterCalls sharedSplit).splitPayees 0 = some split ∧
      (creditChargePayeesReported 0 sub 100 .interval).run (sampleEnv 60 [])
        (afterCalls sharedSplit) = .ok (some credited) t ∧
      PaidExactly 100 split.entries credited ∧ t.merchantBalance ⟨1⟩ ⟨9⟩ = 67 := by
  have hstored : ((afterCalls sharedSplit).subscription 0).isSome := by decide +kernel
  have hlisted : ((afterCalls sharedSplit).splitPayees 0).isSome := by decide +kernel
  obtain ⟨sub, hsub⟩ := Option.isSome_iff_exists.mp hstored
  obtain ⟨split, hsplit⟩ := Option.isSome_iff_exists.mp hlisted
  have hsucceeds : ((afterCalls sharedSplit).subscription 0).all fun sub =>
      (creditChargePayees 0 sub 100 .interval).succeeds (sampleEnv 60 [])
        (afterCalls sharedSplit) := by decide +kernel
  have hbalance : ((afterCalls sharedSplit).subscription 0).all fun sub =>
      ((creditChargePayees 0 sub 100 .interval).after (sampleEnv 60 [])
        (afterCalls sharedSplit)).merchantBalance ⟨1⟩ ⟨9⟩ = 67 := by decide +kernel
  rw [hsub] at hsucceeds hbalance
  have hrun := run_eq_after (show (creditChargePayees 0 sub 100 .interval).succeeds _ _ = true
    from hsucceeds)
  obtain ⟨credited, hreported, hpaid, -⟩ :=
    split_payees_exact hsplit (by decide) (by decide) hrun
  exact ⟨sub, split, _, credited, hsub, hsplit, hreported, hpaid, of_decide_eq_true hbalance⟩

end SubscriptionVault
