import SubscriptionVault.Lifecycle.Creation
import SubscriptionVault.Lifecycle.Prepaid
import SubscriptionVault.Lifecycle.Rewrites

/-!
# Exposure

A subscriber's exposure in a token is what lies in the prepaid balances there, plus the next
interval of every active subscription. The credit limit is held against it by creations,
deposits and transfers.
-/

namespace SubscriptionVault

open Exec

/-! ## The sum -/

/-- What the subscription adds to the exposure of the subscriber in the token. -/
def Subscription.exposureTo (sub : Subscription) (subscriber token : Address) : Int :=
  if sub.subscriber = subscriber ∧ sub.token = token then sub.liability else 0

def Book.exposureAt (b : Book) (subscriber token : Address) (id : Nat) : Int :=
  (b.record id).elim 0 (·.exposureTo subscriber token)

def Book.exposure (b : Book) (subscriber token : Address) : Int :=
  ∑ id ∈ Finset.range b.nextId, b.exposureAt subscriber token id

def State.exposure (s : State) (subscriber token : Address) : Int :=
  s.book.exposure subscriber token

section Sum

variable {s : State} {subscriber token : Address}

theorem State.addExposure_ok {exposure result : Int} {id : Nat}
    (h : s.addExposure subscriber token exposure id = .ok result) :
    result = exposure + s.book.exposureAt subscriber token id := by
  have hat : s.book.exposureAt subscriber token id =
      (s.subscription id).elim 0 (·.exposureTo subscriber token) := rfl
  rw [hat]
  unfold State.addExposure at h
  cases hsub : s.subscription id with
  | none =>
    simp only [hsub] at h
    injection h with h
    simp [h]
  | some sub =>
    simp only [hsub] at h
    simp only [Option.elim_some, Subscription.exposureTo, Subscription.liability]
    by_cases hmine : sub.subscriber = subscriber ∧ sub.token = token
    · rw [if_neg (by simp [hmine])] at h
      obtain ⟨withPrepaid, hprepaid, h⟩ := except_bind_ok.mp h
      obtain ⟨rfl, -⟩ := safeAdd_ok.mp hprepaid
      rw [if_pos hmine]
      split at h
      · rename_i hactive
        obtain ⟨rfl, -⟩ := safeAdd_ok.mp h
        rw [if_pos hactive, Int.add_assoc]
      · rename_i hidle
        injection h with h
        rw [if_neg hidle, Int.add_zero, h]
    · rw [if_pos (not_and_or.mp hmine)] at h
      injection h with h
      rw [if_neg hmine, h, Int.add_zero]

theorem State.foldlM_addExposure_ok {n : Nat} {exposure result : Int}
    (h : (List.range n).foldlM (s.addExposure subscriber token) exposure = .ok result) :
    result = exposure + ∑ id ∈ Finset.range n, s.book.exposureAt subscriber token id := by
  induction n generalizing result with
  | zero =>
    injection h with h
    simp [h]
  | succ n ih =>
    rw [List.range_succ, List.foldlM_append] at h
    obtain ⟨before, hbefore, h⟩ := except_bind_ok.mp h
    rw [List.foldlM_cons] at h
    obtain ⟨last, hlast, h⟩ := except_bind_ok.mp h
    injection h with h
    rw [← h, State.addExposure_ok hlast, ih hbefore, Finset.sum_range_succ, Int.add_assoc]

/-- What the code adds up is the exposure. -/
theorem State.computeSubscriberExposure_ok {exposure : Int}
    (h : s.computeSubscriberExposure subscriber token = .ok exposure) :
    exposure = s.exposure subscriber token := by
  unfold State.computeSubscriberExposure at h
  split at h
  · cases h
  · exact (State.foldlM_addExposure_ok h).trans (Int.zero_add _)

/-- A limit other than zero leaves room for what it has been asked about. -/
theorem State.exposure_of_affordable {delta : Int} (hlimit : s.creditLimit subscriber token ≠ 0)
    (hpositive : 0 < delta) (h : s.creditLimitForDelta subscriber token delta = .ok ()) :
    s.exposure subscriber token + delta ≤ s.creditLimit subscriber token := by
  unfold State.creditLimitForDelta at h
  rw [if_neg (fun hfree => hfree.elim (Int.not_le.mpr hpositive) hlimit)] at h
  obtain ⟨current, hcurrent, h⟩ := except_bind_ok.mp h
  obtain ⟨exposure, hexposure, h⟩ := except_bind_ok.mp h
  obtain ⟨rfl, -⟩ := safeAdd_ok.mp hexposure
  obtain rfl := State.computeSubscriberExposure_ok hcurrent
  split at h
  · cases h
  · rename_i hfits
    exact Int.not_lt.mp hfits

end Sum

/-! ## One record changes -/

section OneChange

variable {b b' : Book} {id : Nat} {sub new : Subscription} {subscriber token : Address}

/-- A grace period that has run out makes no difference. -/
theorem Book.Reads.exposureAt (h : b.Reads id sub) (subscriber token : Address) :
    b.exposureAt subscriber token id = sub.exposureTo subscriber token := by
  obtain ⟨stored, hstored, rfl | ⟨hgrace, rfl⟩⟩ := h
  · rw [Book.exposureAt, hstored, Option.elim_some]
  · rw [Book.exposureAt, hstored, Option.elim_some]
    simp [Subscription.exposureTo, Subscription.liability, hgrace]

theorem Book.exposureAt_setRecord (b : Book) (id : Nat) (new : Subscription) :
    (b.setRecord id new).exposureAt subscriber token =
      Function.update (b.exposureAt subscriber token) id (new.exposureTo subscriber token) := by
  funext j
  by_cases hj : j = id
  · subst hj
    simp [Book.exposureAt, Book.setRecord]
  · simp [Book.exposureAt, Book.setRecord, hj]

theorem Book.exposureAt_congr {id : Nat} (h : b'.record id = b.record id) :
    b'.exposureAt subscriber token id = b.exposureAt subscriber token id := by
  unfold Book.exposureAt
  rw [h]

/-- Numbers that have not been handed out add nothing. -/
theorem Book.exposure_eq_of_le (hnumbered : b.Numbered) {n : Nat} (hn : b.nextId ≤ n) :
    b.exposure subscriber token = ∑ id ∈ Finset.range n, b.exposureAt subscriber token id := by
  refine Finset.sum_subset (Finset.range_mono hn) fun id _ hunused => ?_
  have hnone : b.record id = none :=
    hnumbered.unused id (Nat.le_of_not_lt (mt Finset.mem_range.mpr hunused))
  rw [Book.exposureAt, hnone, Option.elim_none]

/-- The record that is written takes the place of the old one in the sum, if there was one. -/
theorem Book.exposure_setRecord (hnumbered : b.Numbered) (hnumbered' : b'.Numbered)
    (hrecord : b'.record = (b.setRecord id new).record) :
    b'.exposure subscriber token + b.exposureAt subscriber token id =
      b.exposure subscriber token + new.exposureTo subscriber token := by
  let n := max (max b.nextId b'.nextId) (id + 1)
  have hn : b.nextId ≤ n := (Nat.le_max_left _ _).trans (Nat.le_max_left _ _)
  have hn' : b'.nextId ≤ n := (Nat.le_max_right b.nextId _).trans (Nat.le_max_left _ _)
  have hmem : id ∈ Finset.range n := Finset.mem_range.mpr (Nat.le_max_right _ (id + 1))
  have hat : b'.exposureAt subscriber token =
      Function.update (b.exposureAt subscriber token) id (new.exposureTo subscriber token) := by
    rw [← b.exposureAt_setRecord]
    funext j
    exact Book.exposureAt_congr (b := b.setRecord id new) (congrFun hrecord j)
  have hrest := Finset.add_sum_erase (Finset.range n) (b.exposureAt subscriber token) hmem
  rw [b'.exposure_eq_of_le hnumbered' hn', b.exposure_eq_of_le hnumbered hn, hat,
    Finset.sum_update_of_mem hmem, Finset.sdiff_singleton_eq_erase]
  omega

theorem Book.exposure_le (hnumbered : b.Numbered) (hnumbered' : b'.Numbered) {added : Nat → Int}
    (hadded : ∀ id, b.nextId ≤ id → added id = 0)
    (h : ∀ id, b'.exposureAt subscriber token id ≤ b.exposureAt subscriber token id + added id) :
    b'.exposure subscriber token ≤
      b.exposure subscriber token + ∑ id ∈ Finset.range b.nextId, added id := by
  let n := max b.nextId b'.nextId
  have hsum : ∑ id ∈ Finset.range b.nextId, added id = ∑ id ∈ Finset.range n, added id := by
    refine Finset.sum_subset (Finset.range_mono (Nat.le_max_left _ _)) fun id _ hunused => ?_
    exact hadded id (Nat.le_of_not_lt (mt Finset.mem_range.mpr hunused))
  rw [b'.exposure_eq_of_le hnumbered' (Nat.le_max_right b.nextId _),
    b.exposure_eq_of_le hnumbered (Nat.le_max_left _ b'.nextId), hsum, ← Finset.sum_add_distrib]
  exact Finset.sum_le_sum fun id _ => h id

/-- Parties and token stay, and the liability grows by no more than `added`. -/
theorem Subscription.exposureTo_le {added : Int} (hsubscriber : new.subscriber = sub.subscriber)
    (htoken : new.token = sub.token) (hliable : new.liability ≤ sub.liability + added) :
    new.exposureTo subscriber token ≤ sub.exposureTo subscriber token +
      if sub.subscriber = subscriber ∧ sub.token = token then added else 0 := by
  unfold Subscription.exposureTo
  rw [hsubscriber, htoken]
  split
  · exact hliable
  · exact Int.le_refl 0

end OneChange

/-! ## What is added without asking -/

/-- What an operation adds to the liability of the record it reads as `sub`. -/
def Operation.adds (env : Env) (s : State) (id : Nat) (sub : Subscription) : Operation → Int
  | .resume j => if j = id ∧ sub.status ≠ .active then sub.amount else 0
  | .unblock => if sub.status = .paused then sub.amount else 0
  | .charge j => if j = id ∧ sub.status ≠ .active then
      max 0 (sub.amount - (s.intervalAmount id env.now sub).toOption.getD 0) else 0
  | .replan j planId => if j = id ∧ sub.status = .active then
      max 0 ((s.planTemplate planId).elim 0 (·.amount) - sub.amount) else 0
  | _ => 0

/-- The operations that ask for the limit, and the one that takes money from outside. -/
def Operation.paysIn : Operation → Bool
  | .create | .deposit _ | .buyOut _ | .transfer _ _ | .restore _ => true
  | _ => false

section Liability

variable {env : Env} {s : State} {id : Nat} {op : Operation} {sub new : Subscription}

theorem Subscription.liability_le_of_idle (hbalance : new.prepaidBalance ≤ sub.prepaidBalance)
    (hcosts : 0 ≤ sub.amount) (hidle : new.status ≠ .active) : new.liability ≤ sub.liability := by
  unfold Subscription.liability
  rw [if_neg hidle]
  split <;> omega

/-- A subscription on the same terms that is active as long as it was. -/
theorem Subscription.liability_le_of_same (hbalance : new.prepaidBalance ≤ sub.prepaidBalance)
    (hcosts : 0 ≤ sub.amount) (hamount : new.amount = sub.amount)
    (hactive : new.status = .active → sub.status = .active) : new.liability ≤ sub.liability := by
  by_cases hstatus : new.status = .active
  · unfold Subscription.liability
    rw [if_pos hstatus, if_pos (hactive hstatus), hamount]
    omega
  · exact Subscription.liability_le_of_idle hbalance hcosts hstatus

theorem Subscription.liability_le_of_woken (hbalance : new.prepaidBalance ≤ sub.prepaidBalance)
    (hcosts : 0 ≤ sub.amount) (hamount : new.amount = sub.amount) :
    new.liability ≤ sub.liability + sub.amount := by
  unfold Subscription.liability
  rw [hamount]
  split <;> split <;> omega

theorem Operation.adds_nonneg (op : Operation) (hcosts : 0 ≤ sub.amount) :
    0 ≤ op.adds env s id sub := by
  cases op with
  | resume | unblock =>
    simp only [Operation.adds]
    split
    · exact hcosts
    · exact Int.le_refl 0
  | charge | replan =>
    simp only [Operation.adds]
    split
    · exact Int.le_max_left _ _
    · exact Int.le_refl 0
  | _ => exact Int.le_refl 0

/-- Whether a grace period has run out makes no difference to what is added. -/
theorem Operation.adds_of_lapsed (op : Operation) (hgrace : sub.status = .gracePeriod) :
    op.adds env s id { sub with status := .insufficientBalance } = op.adds env s id sub := by
  cases op with
  | resume | unblock | replan => simp [Operation.adds, hgrace]
  | charge =>
    have hprice : s.intervalAmount id env.now { sub with status := .insufficientBalance } =
        s.intervalAmount id env.now sub := rfl
    simp [Operation.adds, hgrace, hprice]
  | _ => rfl

theorem Rewrites.liability_le (h : Rewrites env s id op sub new) (hop : op.paysIn = false)
    (hcosts : 0 ≤ sub.amount) (hdrawn : new.prepaidBalance ≤ sub.prepaidBalance) :
    new.liability ≤ sub.liability + op.adds env s id sub := by
  cases h with
  | edited hedit hnew =>
    rcases hedit with rfl | rfl
    · cases hop
    · refine (Subscription.liability_le_of_same hdrawn hcosts (by rw [hnew]) ?_).trans
        (Int.add_zero _).ge
      rw [hnew]
      exact fun hactive => hactive
  | revived hrevive hbehind hnew =>
    rcases hrevive with rfl | rfl
    · cases hop
    · have hidle : sub.status ≠ .active := by rcases hbehind with h | h <;> simp [h]
      have hadds : (Operation.resume id).adds env s id sub = sub.amount := if_pos ⟨rfl, hidle⟩
      rw [hadds]
      exact Subscription.liability_le_of_woken hdrawn hcosts (by rw [hnew])
  | resumed hresume hpaused =>
    have hadds : op.adds env s id sub = sub.amount := by
      rcases hresume with rfl | rfl
      · exact if_pos ⟨rfl, by simp [hpaused]⟩
      · exact if_pos hpaused
    rw [hadds]
    exact Subscription.liability_le_of_woken hdrawn hcosts rfl
  | paused | cancelled | archived =>
    exact (Subscription.liability_le_of_idle hdrawn hcosts (by simp)).trans (Int.add_zero _).ge
  | transferred => cases hop
  | @replanned _ planId plan hplan =>
    have hadds : (Operation.replan id planId).adds env s id sub =
        if sub.status = .active then max 0 (plan.amount - sub.amount) else 0 := by
      simp [Operation.adds, hplan]
    rw [hadds]
    unfold Subscription.liability
    dsimp only
    have hcost := Int.le_max_right 0 (plan.amount - sub.amount)
    split <;> omega
  | @rehomed _ oldMerchant newMerchant =>
    refine (Subscription.liability_le_of_same hdrawn hcosts ?_ ?_).trans (Int.add_zero _).ge
    · unfold Subscription.rehomed
      split <;> rfl
    · unfold Subscription.rehomed
      split <;> exact fun hactive => hactive
  | halted hhalts hidle _ _ =>
    have hadds : 0 ≤ op.adds env s id sub := op.adds_nonneg hcosts
    exact (Subscription.liability_le_of_idle hdrawn hcosts hidle).trans (by omega)
  | @settled _ _ amount hdue _ hsettled =>
    obtain ⟨-, hnew⟩ := hsettled
    have hbalance : new.prepaidBalance = sub.prepaidBalance - amount := by rw [hnew]
    have hamount : new.amount = sub.amount := by rw [hnew]
    by_cases hactive : sub.status = .active
    · refine (Subscription.liability_le_of_same hdrawn hcosts hamount fun _ => hactive).trans ?_
      have hadds : (Operation.charge id).adds env s id sub = 0 := if_neg fun h => h.2 hactive
      rw [hadds, Int.add_zero]
    · have hadds : (Operation.charge id).adds env s id sub = max 0 (sub.amount - amount) := by
        simp [Operation.adds, hactive, hdue.priced, Except.toOption]
      rw [hadds]
      unfold Subscription.liability
      rw [if_neg hactive, hbalance, hamount]
      have hcost := Int.le_max_right 0 (sub.amount - amount)
      split <;> omega
  | used hdue hsettled =>
    obtain ⟨-, hnew⟩ := hsettled
    refine (Subscription.liability_le_of_same hdrawn hcosts (by rw [hnew]) ?_).trans
      (Int.add_zero _).ge
    exact fun _ => hdue.active
  | boughtOut => cases hop

/-- Money comes in by deposits and buyouts only. The others take out what is there. -/
theorem Rewrites.drawn (h : Rewrites env s id op sub new) (hop : op.paysIn = false)
    (hedit : ∀ j, op ≠ .edit j) (hresume : ∀ j, op ≠ .resume j) (hfunds : 0 ≤ sub.prepaidBalance) :
    new.prepaidBalance ≤ sub.prepaidBalance := by
  cases h with
  | edited hop' _ =>
    rcases hop' with rfl | rfl
    · cases hop
    · exact absurd rfl (hedit id)
  | revived hop' _ _ =>
    rcases hop' with rfl | rfl
    · cases hop
    · exact absurd rfl (hresume id)
  | paused | resumed | archived | replanned => exact le_rfl
  | cancelled => exact hfunds
  | transferred | boughtOut => cases hop
  | rehomed =>
    unfold Subscription.rehomed
    split <;> exact le_rfl
  | halted _ _ hbalance _ => rcases hbalance with h | h <;> omega
  | settled _ hfunded hsettled =>
    rw [hsettled.2]
    exact Int.sub_le_self _ hfunded.1
  | used hdue hsettled =>
    rw [hsettled.2]
    exact Int.sub_le_self _ hdue.positive.le

end Liability

end SubscriptionVault
