import SubscriptionVault.Charging.SplitShares
import SubscriptionVault.Lifecycle.Exit

/-!
# What a buyout moves

A buyout raises the prepaid balance by the amount it was called with and credits the merchant,
but moves no token into the vault. It leaves the books in step only when nothing is paid.
-/

namespace SubscriptionVault

open Exec

/-- The vault has received what the buyout adds to the books, the merchant what the subscriber
paid, and the lifetime charges stay within the cap. -/
structure BuyoutConserves (env : Env) (s t : State) (id : Nat) (paid : Int × Int)
    (sub new : Subscription) : Prop where
  before : s.subscription id = some sub
  after : t.subscription id = some new
  received : t.balanceOf sub.token env.host.contract - s.balanceOf sub.token env.host.contract =
    new.prepaidBalance - sub.prepaidBalance +
      (t.merchantBalance sub.merchant sub.token - s.merchantBalance sub.merchant sub.token)
  others : ∀ merchant ≠ sub.merchant,
    t.merchantBalance merchant sub.token = s.merchantBalance merchant sub.token
  credited : t.merchantBalance sub.merchant sub.token =
    s.merchantBalance sub.merchant sub.token + (paid.1 + paid.2)
  charged : new.lifetimeCharged = sub.lifetimeCharged + paid.1
  capped : ∀ cap, sub.lifetimeCap = some cap → new.lifetimeCharged ≤ cap

section Buyout

variable {env : Env} {s t : State} {id : Nat} {subscriber : Address} {amount : Int}
  {key : Option BytesN32} {paid : Int × Int}

theorem buyoutPremium_nonneg {charge premium : Int} {premiumBps : Nat} (hcharge : 0 ≤ charge)
    (h : buyoutPremium charge premiumBps = .ok premium) : 0 ≤ premium := by
  unfold buyoutPremium at h
  split at h
  · obtain ⟨raw, hraw, rfl⟩ := except_map_ok.mp h
    obtain ⟨rfl, -⟩ := safeMul_ok.mp hraw
    exact Int.tdiv_nonneg (Int.mul_nonneg hcharge (Int.natCast_nonneg _)) (by norm_num)
  · cases h
    exact Int.le_refl 0

/-- Everything a buyout that goes through has done to the books. -/
theorem doGraceBuyout_books
    (hrun : (doGraceBuyout id subscriber amount key).run env s = .ok paid t) :
    ∃ sub new, s.subscription id = some sub ∧ t.subscription id = some new ∧
      new.prepaidBalance = sub.prepaidBalance + amount - paid.1 ∧
      new.lifetimeCharged = sub.lifetimeCharged + paid.1 ∧
      paid.1 = sub.amount ∧ 0 ≤ paid.1 ∧ 0 ≤ paid.2 ∧ paid.1 + paid.2 ≤ amount ∧
      t.balanceOf = s.balanceOf ∧ ∀ merchant token, t.merchantBalance merchant token =
        s.merchantBalance merchant token +
          if merchant = sub.merchant ∧ token = sub.token then paid.1 + paid.2 else 0 := by
  obtain ⟨_, hask, hrun⟩ := run_check_ok .ask hrun
  obtain ⟨rfl, -⟩ := run_ask_ok.mp hask
  obtain ⟨_, -, hrun⟩ := run_check_ok (Modifies.requireAuth _) hrun
  obtain ⟨sub, hget, hrun⟩ := run_check_ok (Modifies.getSubscription id) hrun
  obtain ⟨_, -, hrun⟩ := run_check_ok (.failIf _ _) hrun
  obtain ⟨premiumBps, -, hrun⟩ := run_check_ok (.gets _) hrun
  obtain ⟨premium, hpremium, hrun⟩ := run_check_ok (.lift _) hrun
  obtain ⟨required, hrequired, hrun⟩ := run_check_ok (.lift _) hrun
  obtain ⟨_, henough, hrun⟩ := run_check_ok (.failIf _ _) hrun
  obtain ⟨funded, hfunded, hrun⟩ := run_check_ok (.lift _) hrun
  obtain ⟨prepaidBalance, hprepaid, hrun⟩ := run_check_ok (.lift _) hrun
  obtain ⟨lifetimeCharged, hlifetime, hrun⟩ := run_check_ok (.lift _) hrun
  obtain ⟨_, s₁, hwrite, hrun⟩ := run_bind_ok.mp hrun
  obtain ⟨credit, hcredit, hrun⟩ := run_check_ok (.lift _) hrun
  obtain ⟨_, s₂, hcredited, hrun⟩ := run_bind_ok.mp hrun
  obtain ⟨_, -, hrun⟩ := run_check_ok (.require _) hrun
  have hrest : Modifies (areas [.periods, .statements, .idemKeys]) (do
      store (.instanced (.chargedPeriod id)) ((env.now - sub.startTime) / sub.intervalSeconds)
      appendStatement id sub.amount sub.merchant sub.token .interval
        (env.now - sub.intervalSeconds) env.now
      recordIdemKey .chargeInterval id key
      pure (sub.amount, premium)) :=
    .bind (Modifies.store rfl) fun _ => .bind ((appendStatement_areas _ _ _ _ _ _ _).widen rfl)
      fun _ => .bind ((recordIdemKey_areas _ _ _).widen rfl) fun _ => .pure _
  have hafter := hrest.ok hrun
  obtain ⟨_, _, -, hrun⟩ := run_bind_ok.mp hrun
  obtain ⟨_, _, -, hrun⟩ := run_bind_ok.mp hrun
  obtain ⟨_, _, -, hrun⟩ := run_bind_ok.mp hrun
  obtain ⟨rfl, -⟩ := run_pure_ok.mp hrun
  obtain rfl := run_store_ok.mp hwrite
  obtain ⟨rfl, -⟩ := safeAdd_ok.mp (run_lift_ok.mp hfunded).1
  obtain ⟨hcosts, -, rfl, -⟩ := safeSubBalance_ok.mp (run_lift_ok.mp hprepaid).1
  obtain ⟨rfl, -⟩ := safeAdd_ok.mp (run_lift_ok.mp hlifetime).1
  obtain ⟨rfl, -⟩ := safeAdd_ok.mp (run_lift_ok.mp hrequired).1
  obtain ⟨rfl, -⟩ := safeAdd_ok.mp (run_lift_ok.mp hcredit).1
  have hleast : sub.amount + premium ≤ amount := by
    have hnot := (run_failIf_ok.mp henough).1
    omega
  obtain ⟨stored, hstored, hsame⟩ :=
    State.effectiveSubscription_eq_some (run_getSubscription_ok.mp hget).1
  have hfields : sub.prepaidBalance = stored.prepaidBalance ∧
      sub.lifetimeCharged = stored.lifetimeCharged ∧ sub.amount = stored.amount ∧
      sub.merchant = stored.merchant ∧ sub.token = stored.token := by
    rw [hsame]
    exact ⟨rfl, rfl, rfl, rfl, rfl⟩
  obtain ⟨hfunds, hcharges, hprice, hmerchant, htoken⟩ := hfields
  have hpaid : FiniteStore.AgreeOff (areas creditAreas) _ s₂ :=
    ((Modifies.creditMerchantBalanceForToken _ _ _ _).weaken creditSlots_subset_areas).ok hcredited
  have hrecord (v : Subscription) :
      FiniteStore.AgreeOff (areas [.records]) s (s.write (.persistent (.sub id)) v) :=
    s.agreeOff_write v rfl
  have htokens : t.balanceOf = s.balanceOf := by
    rw [State.balanceOf_of_areas hafter rfl, State.balanceOf_of_areas hpaid rfl,
      State.balanceOf_of_areas (hrecord _) rfl]
  have hnew := ((State.read_of_areas (k := .persistent (.sub id)) hafter rfl).trans
    (State.read_of_areas (k := .persistent (.sub id)) hpaid rfl)).trans
    (FiniteStore.read_write_self _ _)
  refine ⟨stored, _, hstored, hnew, ?_, ?_, hprice, hcosts, ?_, hleast, htokens,
    fun payee tok => ?_⟩
  · show sub.prepaidBalance + amount - sub.amount = _
    rw [hfunds]
  · show sub.lifetimeCharged + sub.amount = _
    rw [hcharges]
  · exact buyoutPremium_nonneg hcosts (run_lift_ok.mp hpremium).1
  · rw [State.merchantBalance_of_areas hafter rfl,
      creditMerchantBalanceForToken_balance hcredited,
      State.merchantBalance_of_areas (hrecord _) rfl, hmerchant, htoken]
    by_cases htok : tok = stored.token
    · by_cases hpayee : payee = stored.merchant
      · simp [creditedTo, htok, hpayee]
      · simp [creditedTo, hpayee, Ne.symm hpayee]
    · simp [htok]

end Buyout

/-- A subscription that could not be charged, in its grace period. -/
private def behindCalls : List (Env × VaultCall) :=
  [(sampleEnv 61 [], .chargeSubscription 0 none),
   (sampleEnv 0 [⟨2⟩], .createSubscription sampleRequest)]

private def overdueVault : State := stateAfter (afterCalls (sampleVault 1000)) behindCalls

private theorem buyout_of_behind : ∃ t, (doGraceBuyout 0 ⟨2⟩ 10 none).run (sampleEnv 62 [⟨2⟩])
    overdueVault = .ok (10, 0) t :=
  run_of_returns (by decide +kernel)

end SubscriptionVault
