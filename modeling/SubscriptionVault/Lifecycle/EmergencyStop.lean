import SubscriptionVault.Contract.Entrypoints
import SubscriptionVault.Framework.Transition

/-!
# The emergency stop

While the flag is set no subscription may be created, nothing may be deposited or charged, and
nothing may be paid to merchants. Each entrypoint has to look at the flag itself; the merchant
refund and the withdrawal from a sub-account do not.
-/

namespace SubscriptionVault

open Exec

/-- Creations, deposits, charges and payments out of what merchants are owed. -/
def VaultCall.isHalted : VaultCall → Bool
  | .createSubscription _ | .createSubscriptionWithToken _ | .createSubscriptionWithSplit _ _
  | .createSubscriptionFromPlan _ _ _
  | .depositFunds _ _ _ | .depositFundsOnBehalf _ _ _ _ | .bulkDepositFunds _ _ _
  | .chargeSubscription _ _ | .operatorChargeSubscription _ _ | .batchCharge _ _ _
  | .batchChargeDetailed _ _ _ | .operatorBatchCharge _ _ _ | .chargeUsage _ _
  | .chargeUsageWithReference _ _ _ | .operatorChargeUsage _ _ _
  | .operatorChargeUsageWithRef _ _ _ _ | .chargeOneOff _ _ _ _ | .graceBuyout _ _ _ _
  | .withdrawMerchantFunds _ _ | .withdrawMerchantTokenFunds _ _ _ | .merchantRefund _ _ _ _
  | .flushPayouts _ | .withdrawSubAccountFunds _ _ _ _ => true
  | _ => false

/-- The calls among them without a look at the flag. -/
def VaultCall.ignoresStop : VaultCall → Bool
  | .merchantRefund _ _ _ _ | .withdrawSubAccountFunds _ _ _ _ => true
  | _ => false

/-- A halted call that looks at the flag succeeds only while it is not set. -/
theorem VaultCall.open_of_run {call : VaultCall} {env : Env} {s t : State}
    (hhalted : call.isHalted = true) (hlooks : call.ignoresStop = false)
    (hrun : call.exec.run env s = .ok () t) : s.emergencyStop = false := by
  cases call
  case createSubscription | createSubscriptionWithToken | createSubscriptionWithSplit
      | createSubscriptionFromPlan | operatorBatchCharge =>
    obtain ⟨_, hrun⟩ := run_effectOf_ok.mp hrun
    exact (run_stoppableCall_ok.mp hrun).1
  case depositFunds | depositFundsOnBehalf | bulkDepositFunds | chargeOneOff
      | withdrawMerchantFunds | withdrawMerchantTokenFunds | flushPayouts =>
    exact (run_guardedCall_ok.mp hrun).1
  case chargeSubscription | operatorChargeSubscription | chargeUsage
      | chargeUsageWithReference | operatorChargeUsage | operatorChargeUsageWithRef
      | graceBuyout =>
    obtain ⟨_, hrun⟩ := run_effectOf_ok.mp hrun
    exact (run_guardedCall_ok.mp hrun).1
  case batchCharge | batchChargeDetailed =>
    obtain ⟨_, hrun⟩ := run_effectOf_ok.mp hrun
    exact (run_guardedBatch_ok.mp hrun).1
  case merchantRefund | withdrawSubAccountFunds => cases hlooks
  all_goals cases hhalted

/-! ## Runs under the stop -/

inductive StopAction where
  | call (env : Env) (call : VaultCall)
  /-- Any other entrypoint. -/
  | other

/-- Calls are attempted; one that fails leaves the state as it is. -/
inductive StopStep : StopAction → State → State → Prop
  | call (env : Env) (call : VaultCall) (s : State) :
      StopStep (.call env call) s (call.commit env s)
  | other {s t : State} : StopStep .other s t

/-- The steps that do not clear the flag. -/
def StoppedStep (action : StopAction) (s t : State) : Prop :=
  StopStep action s t ∧ (s.emergencyStop = true → t.emergencyStop = true)

theorem emergencyStop_of_run {start s : State} {hist : History StopAction State}
    (hstopped : start.emergencyStop = true) (hrun : Run StoppedStep start hist s) :
    s.emergencyStop = true :=
  hrun.invariant_state (I := fun s => s.emergencyStop = true) hstopped
    fun _ _ _ hs hstep => hstep.2 hs

section Examples

private def earning : List (Env × Vault Unit) :=
  [(sampleEnv 60 [], VaultCall.exec (.chargeSubscription 0 none)),
   (sampleEnv 10 [⟨2⟩], VaultCall.exec (.depositFunds 0 100 none)),
   (sampleEnv 0 [⟨2⟩], VaultCall.exec (.createSubscription sampleRequest))] ++ sampleVault 0

private def stopped : List (Env × Vault Unit) :=
  (sampleEnv 61 [⟨8⟩], enableEmergencyStop ⟨8⟩) :: earning

private abbrev refundTen : VaultCall := .merchantRefund ⟨1⟩ ⟨2⟩ ⟨9⟩ 10

end Examples

end SubscriptionVault
