import SubscriptionVault.Lifecycle.Transactions

/-!
# One-off charges

A one-off charge compares its amount with the prepaid balance, pays the merchant and the
treasury, and computes the debited subscription. The subscription is not written back, so the
same balance pays for any number of one-off charges.
-/

namespace SubscriptionVault

open Exec

/-- The amount has been taken out of the subscription and counted towards its lifetime. -/
def OneOffDebited (s t : State) (id : Nat) (amount : Int) : Prop :=
  ∃ sub new, s.subscription id = some sub ∧ t.subscription id = some new ∧
    new.prepaidBalance = sub.prepaidBalance - amount ∧
    new.lifetimeCharged = sub.lifetimeCharged + amount

section OneOff

variable {env : Env} {s t : State} {id : Nat} {merchant : Address} {amount : Int}
  {key : Option BytesN32}

theorem doChargeOneOff_subscription (hrun : (doChargeOneOff id merchant amount key).run env s =
    .ok () t) : t.subscription = s.subscription :=
  congrArg Book.record (doChargeOneOff_book hrun)

/-- Nothing that is charged once is ever taken out of a subscription. -/
theorem one_off_never_debited (hamount : 0 < amount)
    (hrun : (doChargeOneOff id merchant amount key).run env s = .ok () t) :
    ¬OneOffDebited s t id amount := by
  rintro ⟨sub, new, hsub, hnew, hbalance, -⟩
  rw [doChargeOneOff_subscription hrun, hsub] at hnew
  obtain rfl := Option.some.inj hnew
  omega

end OneOff

private def toppedUp : List (Env × VaultCall) :=
  [(sampleEnv 1 [⟨2⟩], .depositFunds 0 100 none),
   (sampleEnv 0 [⟨2⟩], .createSubscription sampleRequest)]

private def toppedUpVault : State := stateAfter (afterCalls (sampleVault 0)) toppedUp

/-- A one-off charge of 60 from a balance of 100. -/
theorem one_off_never_debited_sixty : ∃ t,
    (doChargeOneOff 0 ⟨1⟩ 60 none).run (sampleEnv 2 [⟨1⟩]) toppedUpVault = .ok () t ∧
      ¬OneOffDebited toppedUpVault t 0 60 := by
  have hrun := run_eq_after (show (doChargeOneOff 0 ⟨1⟩ 60 none).succeeds (sampleEnv 2 [⟨1⟩])
    toppedUpVault = true by decide +kernel)
  exact ⟨_, hrun, one_off_never_debited (by decide) hrun⟩

private def chargedTwice : List (Env × VaultCall) :=
  [(sampleEnv 3 [⟨1⟩], .chargeOneOff 0 ⟨1⟩ 60 none),
   (sampleEnv 2 [⟨1⟩], .chargeOneOff 0 ⟨1⟩ 60 none)] ++ toppedUp

/-- Two one-off charges of 60 from a balance of 100 pay the merchant 120 and leave the 100. -/
theorem one_offs_overdraw : ∃ hist s, Run Transacts (sampleStart 0) hist s ∧
    (s.subscription 0).map (·.prepaidBalance) = some 100 ∧
    (s.subscription 0).map (·.lifetimeCharged) = some 0 ∧ s.merchantBalance ⟨1⟩ ⟨9⟩ = 120 :=
  ⟨_, _, run_transactions (sample_transacted 0) (show allSucceed (afterCalls (sampleVault 0))
    chargedTwice = true by decide +kernel), by decide +kernel, by decide +kernel,
    by decide +kernel⟩

end SubscriptionVault
