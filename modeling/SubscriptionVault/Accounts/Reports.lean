import SubscriptionVault.Charging.Credits
import SubscriptionVault.Contract.Queries
import SubscriptionVault.Framework.Tally
import SubscriptionVault.Lifecycle.Prepaid

/-!
# Reconciliation reports

The prepaid total of a report is the sum over all subscriptions of the token. The liabilities
come from a counter that nothing maintains, so a report tells the truth exactly while nobody
but the subscribers is owed anything.
-/

namespace SubscriptionVault

/-! ## What a token is owed -/

/-- A prepaid balance counts in the token of its subscription. -/
def prepaidWeight (token : Address) : (k : Slot) → Slot.Val k → Int
  | .persistent (.sub _), (sub : Subscription) =>
    if sub.token = token then sub.prepaidBalance else 0
  | _, _ => 0

/-- All prepaid balances of the token. -/
def State.prepaid (s : State) (token : Address) : Int := s.total (prepaidWeight token)

/-- An unresolved dispute holds its amount in the token of its subscription. -/
def heldWeight (s : State) (token : Address) : (k : Slot) → Slot.Val k → Int
  | .persistent (.dispute _), (dispute : Dispute) =>
    if dispute.isResolved = false ∧
      (s.subscription dispute.subscriptionId).map (·.token) = some token then dispute.amount
    else 0
  | _, _ => 0

/-- What merchants and the sides of open disputes have a claim to. -/
def State.owed (s : State) (token : Address) : Int :=
  s.credited token + s.total (heldWeight s token)

/-! ## Truthful reports -/

/-- The figures of a report are those of the state. -/
structure State.ReportedTruly (s : State) (token : Address)
    (contractBalance totalPrepaid liabilities recoverable : Int) (balanced : Bool) : Prop where
  prepaid : totalPrepaid = s.prepaid token
  liabilities : liabilities = s.owed token
  recoverable : recoverable = max (contractBalance - s.prepaid token - s.owed token) 0
  balanced : balanced = true ↔ s.prepaid token + s.owed token ≤ contractBalance

/-- Both reports on the token. -/
def ReportsTruthful (env : Env) (s : State) (token : Address) : Prop :=
  (let report := getTokenReconciliation env s token
   s.ReportedTruly token (s.balanceOf token env.host.contract) report.totalPrepaid
    report.totalMerchantLiabilities report.recoverableAmount report.isBalanced) ∧
  (let proof := generateReconciliationProof env s token
   s.ReportedTruly token (s.balanceOf token env.host.contract) proof.totalPrepaid
    proof.totalMerchantLiabilities proof.computedRecoverable proof.isValid)

section Prepaid

variable {s : State} {token : Address}

/-- The balance of one subscription, if it is in the token. -/
def State.prepaidOf (s : State) (token : Address) (id : Nat) : Int :=
  s.contribution (prepaidWeight token) (.persistent (.sub id))

theorem State.prepaidOf_some {id : Nat} {sub : Subscription} (hsub : s.subscription id = some sub) :
    s.prepaidOf token id = if sub.token = token then sub.prepaidBalance else 0 := by
  have hget : s.get (.persistent (.sub id)) = some sub := hsub
  simp only [State.prepaidOf, FiniteStore.contribution, hget]
  rfl

theorem State.prepaidOf_none {id : Nat} (hsub : s.subscription id = none) :
    s.prepaidOf token id = 0 := by
  have hget : s.get (.persistent (.sub id)) = none := hsub
  simp only [State.prepaidOf, FiniteStore.contribution, hget]
  rfl

theorem State.prepaidOf_nonneg (hfunded : s.book.Funded) (id : Nat) :
    0 ≤ s.prepaidOf token id := by
  cases hsub : s.subscription id with
  | none => rw [prepaidOf_none hsub]
  | some sub =>
    rw [prepaidOf_some hsub]
    split
    · exact hfunded id sub hsub
    · exact Int.le_refl 0

/-- The numbers in use are the first. -/
theorem prepaid_eq_sum (hnumbered : s.book.Numbered) :
    s.prepaid token = ((List.range s.nextSubscriptionId).map (s.prepaidOf token)).sum := by
  apply FiniteStore.total_eq_sum_range s (prepaidWeight token)
    (fun id => Slot.persistent (.sub id))
  · intro i j heq
    cases heq
    rfl
  · intro k hk
    have hsub : ∃ id, k = .persistent (.sub id) := by
      by_contra hother
      apply hk
      unfold FiniteStore.contribution
      cases s.get k with
      | none => rfl
      | some v =>
        cases k with
        | persistent key =>
          cases key with
          | sub id => exact absurd ⟨id, rfl⟩ hother
          | _ => rfl
        | _ => rfl
    obtain ⟨id, rfl⟩ := hsub
    refine ⟨id, ?_, rfl⟩
    by_contra hlate
    have hnone : s.subscription id = none := hnumbered.unused id (Nat.le_of_not_lt hlate)
    exact hk (State.prepaidOf_none hnone)

theorem clampI128_of_nonneg {x : Int} (h : 0 ≤ x) : clampI128 x = min x (2 ^ 127 - 1) := by
  unfold clampI128
  omega

/-- An accumulator that takes in one balance after the other saturates at the largest `i128`. -/
theorem foldl_prepaid {step : Int → Nat → Int} (hfunded : s.book.Funded)
    (hnumbered : s.book.Numbered)
    (hstep : ∀ total, 0 ≤ total → total ≤ 2 ^ 127 - 1 → ∀ id,
      step total id = min (total + s.prepaidOf token id) (2 ^ 127 - 1)) :
    (List.range s.nextSubscriptionId).foldl step 0 = min (s.prepaid token) (2 ^ 127 - 1) := by
  have hfold := foldl_saturating (s.prepaidOf token) (2 ^ 127 - 1) (List.range s.nextSubscriptionId)
    (fun id _ => State.prepaidOf_nonneg hfunded id) (by norm_num)
    (fun total hnonneg hle id _ => hstep total hnonneg hle id) (Int.le_refl 0)
  rw [zero_add, ← prepaid_eq_sum hnumbered] at hfold
  exact hfold

theorem computeTotalPrepaid_eq (hfunded : s.book.Funded) (hnumbered : s.book.Numbered) :
    computeTotalPrepaid s token = min (s.prepaid token) (2 ^ 127 - 1) := by
  apply foldl_prepaid hfunded hnumbered
  intro total hnonneg hle id
  cases hsub : s.subscription id with
  | none => rw [State.prepaidOf_none hsub, add_zero, min_eq_left hle]
  | some sub =>
    have hfunds : 0 ≤ sub.prepaidBalance := hfunded id sub hsub
    rw [State.prepaidOf_some hsub]
    by_cases htoken : sub.token = token
    · simp only [htoken, if_true]
      exact clampI128_of_nonneg (by omega)
    · simp only [htoken, if_false]
      rw [add_zero, min_eq_left hle]

/-- Leaving out the empty subscriptions changes nothing. -/
theorem computeTotalPrepaidWithCount_eq (hfunded : s.book.Funded) (hnumbered : s.book.Numbered) :
    (computeTotalPrepaidWithCount s token).1 = min (s.prepaid token) (2 ^ 127 - 1) := by
  have hfirst : (computeTotalPrepaidWithCount s token).1 =
      (List.range s.nextSubscriptionId).foldl (fun total id =>
        (s.subscription id).elim total fun sub =>
          if sub.token = token ∧ 0 < sub.prepaidBalance then
            clampI128 (total + sub.prepaidBalance)
          else total) 0 := by
    refine (List.foldl_hom (Prod.fst : Int × Nat → Int) fun found id => ?_).symm
    cases s.subscription id with
    | none => rfl
    | some sub =>
      simp only [Option.elim_some]
      split <;> rfl
  rw [hfirst]
  apply foldl_prepaid hfunded hnumbered
  intro total hnonneg hle id
  cases hsub : s.subscription id with
  | none => rw [Option.elim_none, State.prepaidOf_none hsub, add_zero, min_eq_left hle]
  | some sub =>
    have hfunds : 0 ≤ sub.prepaidBalance := hfunded id sub hsub
    rw [Option.elim_some, State.prepaidOf_some hsub]
    by_cases hcounts : sub.token = token ∧ 0 < sub.prepaidBalance
    · rw [if_pos hcounts.1]
      simp only [hcounts, and_self, if_true]
      exact clampI128_of_nonneg (by omega)
    · simp only [hcounts, if_false]
      have hnothing : (if sub.token = token then sub.prepaidBalance else 0) = 0 := by
        by_cases htoken : sub.token = token
        · have hempty : ¬0 < sub.prepaidBalance := fun h => hcounts ⟨htoken, h⟩
          rw [if_pos htoken]
          omega
        · exact if_neg htoken
      rw [hnothing, add_zero, min_eq_left hle]

theorem prepaid_nonneg (hfunded : s.book.Funded) (hnumbered : s.book.Numbered) :
    0 ≤ s.prepaid token := by
  rw [prepaid_eq_sum hnumbered]
  apply List.sum_nonneg
  intro amount hamount
  obtain ⟨id, -, rfl⟩ := List.mem_map.mp hamount
  exact State.prepaidOf_nonneg hfunded id

end Prepaid

/-! ## When the reports are truthful -/

section Reports

variable {s : State} {token : Address} {contractBalance totalPrepaid : Int}

/-- The counter stands at zero, whatever is owed. -/
theorem computeTotalMerchantLiabilities_eq (h : 0 ≤ totalPrepaid) (hfits : totalPrepaid < 2 ^ 127) :
    computeTotalMerchantLiabilities s token totalPrepaid = 0 := by
  have hcounter : s.totalAccounted token = 0 := rfl
  rw [computeTotalMerchantLiabilities, hcounter, clampI128]
  omega

/-- What a report makes of a saturated total and no liabilities. -/
theorem reportedTruly_iff (hfunds : 0 ≤ s.prepaid token) (hbalance : InI128 contractBalance)
    (hprepaid : totalPrepaid = min (s.prepaid token) (2 ^ 127 - 1)) :
    s.ReportedTruly token contractBalance totalPrepaid 0
        (max (clampI128 (contractBalance - addOrZero totalPrepaid 0)) 0)
        (decide (contractBalance = addOrZero (addOrZero totalPrepaid 0)
          (max (clampI128 (contractBalance - addOrZero totalPrepaid 0)) 0))) ↔
      s.owed token = 0 ∧ s.prepaid token ≤ 2 ^ 127 - 1 := by
  obtain ⟨hlow, hhigh⟩ := hbalance
  have haccounted : addOrZero totalPrepaid 0 = totalPrepaid := by
    rw [addOrZero, add_zero, if_pos]
    exact ⟨by omega, by omega⟩
  rw [haccounted]
  constructor
  · intro h
    exact ⟨h.liabilities.symm, by have := h.prepaid; omega⟩
  · rintro ⟨howed, hfits⟩
    have hexact : totalPrepaid = s.prepaid token := by omega
    have hrecoverable : max (clampI128 (contractBalance - totalPrepaid)) 0 =
        max (contractBalance - s.prepaid token) 0 := by
      rw [clampI128, hexact]
      omega
    have htotal : addOrZero totalPrepaid (max (contractBalance - s.prepaid token) 0) =
        max contractBalance (s.prepaid token) := by
      rw [addOrZero, hexact, if_pos]
      · omega
      · exact ⟨by omega, by omega⟩
    rw [hrecoverable, htotal]
    constructor
    · exact hexact
    · exact howed.symm
    · rw [howed, sub_zero]
    · rw [howed, add_zero, decide_eq_true_iff]
      omega

end Reports

section Runs

variable {s start : State} {hist : History Transaction State}

end Runs

/-- Fifty units have been deposited, and nothing has been charged yet. -/
private def topUpOnly : List (Env × VaultCall) :=
  [(sampleEnv 0 [⟨2⟩], .depositFunds 0 50 none),
   (sampleEnv 0 [⟨2⟩], .createSubscription sampleRequest)]

/-- Then a charge pays the merchant ten of them. -/
private def topUpCharged : List (Env × VaultCall) :=
  (sampleEnv 60 [], .chargeSubscription 0 none) :: topUpOnly

end SubscriptionVault
