import SubscriptionVault.Charging.Conversion
import SubscriptionVault.Charging.FeeRates

/-!
# Charges and the oracle

A charge asks an oracle for nothing but the price of its fee. The answer decides in which token
the treasury is credited and how much, and is not meant to decide whether the charge goes
through. A contract that does not answer takes the charge down.
-/

namespace SubscriptionVault

open Exec

/-! ## Answers -/

/-- What the oracle contracts answer. -/
structure OracleAnswers where
  latestPrice : Address → Option OraclePrice
  observations : Address → Nat → Option (List OraclePrice)

def Env.answering (env : Env) (answers : OracleAnswers) : Env :=
  { env with latestPrice := answers.latestPrice, observations := answers.observations }

/-- No oracle contract answers. -/
def OracleAnswers.silent : OracleAnswers := ⟨fun _ => none, fun _ _ => none⟩

/-- Nothing an oracle answers changes how the execution ends. -/
def OracleFree {α : Type} (x : Vault α) : Prop :=
  ∀ env answers, SameIn env (env.answering answers) x

namespace OracleFree

variable {α β : Type} {x : Vault α}

theorem pure (a : α) : OracleFree (Pure.pure a : Vault α) := fun _ _ => .pure a

theorem gets (f : State → α) : OracleFree (Exec.gets f : Vault α) := fun _ _ => .gets f

theorem update (f : State → State) : OracleFree (Exec.update f : Vault Unit) :=
  fun _ _ => .update f

theorem fail (e : Error) : OracleFree (Exec.fail e : Vault α) := fun _ _ _ => rfl

theorem failIf (c : Prop) [Decidable c] (e : Error) :
    OracleFree (Exec.failIf c e : Vault Unit) := fun _ _ => .failIf c e

theorem require (c : Prop) [Decidable c] : OracleFree (Exec.require c : Vault Unit) :=
  fun _ _ => .require c

theorem okOr (o : Option α) (e : Error) : OracleFree (Exec.okOr o e : Vault α) :=
  fun _ _ => .okOr o e

theorem lift (y : Except Error α) : OracleFree (Exec.lift y : Vault α) := fun _ _ => .lift y

theorem bind {f : α → Vault β} (hx : OracleFree x) (hf : ∀ a, OracleFree (f a)) :
    OracleFree (x >>= f) := fun env answers => (hx env answers).bind fun a => hf a env answers

/-- The environment is read for something other than an answer. -/
theorem ask {f : Env → Vault β} (hsame : ∀ env answers, f (env.answering answers) = f env)
    (hf : ∀ env, OracleFree (f env)) : OracleFree (Exec.ask >>= f) :=
  fun env answers => .ask (hsame env answers) (hf env env answers)

theorem when {c : Prop} [Decidable c] {x : Vault Unit} (h : OracleFree x) :
    OracleFree (Exec.when c x) := fun env answers => .when (h env answers)

theorem whenSome {o : Option α} {f : α → Vault Unit} (h : ∀ a, OracleFree (f a)) :
    OracleFree (Exec.whenSome o f) := fun env answers => .whenSome fun a => h a env answers

theorem forEach {f : α → Vault Unit} (h : ∀ a, OracleFree (f a)) (as : List α) :
    OracleFree (Exec.forEach as f) := fun env answers => .forEach (fun a => h a env answers) as

theorem ite {c : Prop} [Decidable c] {x y : Vault α} (hx : OracleFree x) (hy : OracleFree y) :
    OracleFree (if c then x else y) := by
  split
  · exact hx
  · exact hy

/-! ## The parts of a charge -/

theorem requireNotEmergencyStop : OracleFree SubscriptionVault.requireNotEmergencyStop :=
  .bind (.gets _) fun _ => .failIf _ _

theorem requireNotBlocklisted (a : Address) :
    OracleFree (SubscriptionVault.requireNotBlocklisted a) :=
  .bind (.gets _) fun _ => .failIf _ _

theorem getSubscription (id : Nat) : OracleFree (SubscriptionVault.getSubscription id) :=
  .ask (fun _ _ => rfl) fun _ => .bind (.gets _) fun _ => .okOr _ _

theorem checkMerchantStatus (merchant : Address) (cache : MerchantCache) :
    OracleFree (SubscriptionVault.checkMerchantStatus merchant cache) :=
  .ask (fun _ _ => rfl) fun _ => .bind (.gets _) fun _ => .bind (.failIf _ _) fun _ => .failIf _ _

theorem checkPayee (payee : Address) : OracleFree (SubscriptionVault.checkPayee payee) :=
  .bind (requireNotBlocklisted _) fun _ => checkMerchantStatus _ _

theorem checkSplitPayees (id : Nat) : OracleFree (SubscriptionVault.checkSplitPayees id) :=
  .bind (.gets _) fun _ => .whenSome fun _ => .forEach (fun _ => checkPayee _) _

theorem writeSubscription (id : Nat) (sub : Subscription) :
    OracleFree (SubscriptionVault.writeSubscription id sub) := .update _

theorem failIfExpired (id : Nat) (sub : Subscription) :
    OracleFree (SubscriptionVault.failIfExpired id sub) :=
  .ask (fun _ _ => rfl) fun _ => .when (.bind (.when (.bind (.lift _) fun _ =>
    writeSubscription _ _)) fun _ => .fail _)

theorem cancelCapped (id : Nat) (sub : Subscription) :
    OracleFree (SubscriptionVault.cancelCapped id sub) :=
  .bind (.lift _) fun _ => writeSubscription _ _

theorem transfer (token sender receiver : Address) (amount : Int) :
    OracleFree (SubscriptionVault.transfer token sender receiver amount) :=
  .ask (fun _ _ => rfl) fun _ => .bind (.require _) fun _ => .bind (.require _) fun _ =>
    .bind (.require _) fun _ => .bind (.gets _) fun _ => .bind (.require _) fun _ => .update _

theorem fireScheduledCancellation (id : Nat) (sub : Subscription) :
    OracleFree (SubscriptionVault.fireScheduledCancellation id sub) :=
  .when (.bind (.lift _) fun _ => .bind (writeSubscription _ _) fun _ => .when
    (.ask (fun _ _ => rfl) fun _ => .bind (transfer _ _ _ _) fun _ => .pure ()))

theorem requireChargeable (sub : Subscription) :
    OracleFree (SubscriptionVault.requireChargeable sub) :=
  .ask (fun _ _ => rfl) fun _ => .ite (.pure ()) (.ite (.bind (.lift _) fun _ => .failIf _ _)
    (.fail _))

theorem countChargeFailure (id : Nat) (sub : Subscription) (threshold : Nat) :
    OracleFree (SubscriptionVault.countChargeFailure id sub threshold) :=
  .when (.bind (.gets _) fun _ => .bind (.update _) fun _ => .when
    (.bind (writeSubscription _ _) fun _ => .update _))

theorem recordShortfall (id : Nat) (sub : Subscription) (cfg : Option CachedAdminConfig) :
    OracleFree (SubscriptionVault.recordShortfall id sub cfg) :=
  .ask (fun _ _ => rfl) fun _ => .bind (.gets _) fun _ => .bind (.lift _) fun _ =>
    .bind (.lift _) fun _ => .bind (writeSubscription _ _) fun _ => .bind (.gets _) fun _ =>
    countChargeFailure _ _ _

theorem applyUsageCap (id : Nat) (limits : UsageLimits) (state : UsageState) (period : Nat)
    (units : Int) : OracleFree (SubscriptionVault.applyUsageCap id limits state period units) :=
  .ask (fun _ _ => rfl) fun _ => .bind (.when (.update _)) fun _ =>
    .ite (.pure _) (.bind (.update _) fun _ => .pure _)

theorem applyUsageLimits (id : Nat) (sub : Subscription) (units : Int) :
    OracleFree (SubscriptionVault.applyUsageLimits id sub units) :=
  .ask (fun _ _ => rfl) fun _ => .bind (.gets _) fun configured => by
    cases configured with
    | none => exact .pure _
    | some limits =>
      exact .bind (.require _) fun _ => .bind (.gets _) fun _ =>
        .ite (.pure _) (.ite (.pure _) (applyUsageCap _ _ _ _ _))

theorem creditMerchantBalanceForToken (merchant token : Address) (amount : Int)
    (kind : BillingChargeKind) :
    OracleFree (SubscriptionVault.creditMerchantBalanceForToken merchant token amount kind) :=
  .bind (.failIf _ _) fun _ => .bind (.gets _) fun _ => .bind (.lift _) fun _ =>
    .bind (.update _) fun _ => .bind (.gets _) fun _ => .bind (.lift _) fun _ =>
    .bind (.update _) fun _ => .bind (.bind (.gets _) fun _ => .when (.update _)) fun _ => .pure ()

theorem creditShares (token : Address) (net : Int) (kind : BillingChargeKind) :
    ∀ (entries : List (Address × Nat)) (total : Int),
      OracleFree (SubscriptionVault.creditShares token net kind entries total)
  | [], _ => .pure _
  | _ :: rest, _ => .bind (.lift _) fun _ => .bind (creditMerchantBalanceForToken _ _ _ _) fun _ =>
    creditShares token net kind rest _

theorem creditChargePayees (id : Nat) (sub : Subscription) (net : Int)
    (kind : BillingChargeKind) :
    OracleFree (SubscriptionVault.creditChargePayees id sub net kind) :=
  .bind (.gets _) fun split => by
    split
    · exact creditMerchantBalanceForToken _ _ _ _
    · exact .pure ()
    · exact .bind (creditShares _ _ _ _ _) fun _ => creditMerchantBalanceForToken _ _ _ _

theorem routeToSubAccount (sub : Subscription) (net : Int) :
    OracleFree (SubscriptionVault.routeToSubAccount sub net) :=
  .whenSome fun _ => .bind (.bind (.failIf _ _) fun _ => .bind (.bind (.gets _) fun _ =>
    .failIf _ _) fun _ => .bind (.gets _) fun _ => .bind (.lift _) fun _ =>
    .bind (.update _) fun _ => .bind (.gets _) fun _ => .update _) fun _ =>
    .bind (.gets _) fun _ => .bind (.lift _) fun _ => .update _

theorem appendStatement (id : Nat) (amount : Int) (merchant token : Address)
    (kind : BillingChargeKind) (periodStart timestamp : Nat) :
    OracleFree (SubscriptionVault.appendStatement id amount merchant token kind periodStart
      timestamp) :=
  .bind (.gets _) fun _ => .bind (.okOr _ _) fun _ => .bind (.update _) fun _ =>
    .bind (.update _) fun _ => .bind (.gets _) fun _ => .update _

theorem writePeriodSnapshot (snapshot : BillingPeriodSnapshot) :
    OracleFree (SubscriptionVault.writePeriodSnapshot snapshot) :=
  .bind (.failIf _ _) fun _ => .bind (.failIf _ _) fun _ => .bind (.gets _) fun _ =>
    .bind (.lift _) fun _ => .bind (.failIf _ _) fun _ => .bind (.update _) fun _ =>
    .when (.bind (.gets _) fun _ => .bind (.forEach (fun _ => .update _) _) fun _ => .update _)

theorem recordIdemKey (domain : NonceDomain) (id : Nat) (key : Option BytesN32) :
    OracleFree (SubscriptionVault.recordIdemKey domain id key) :=
  .ask (fun _ _ => rfl) fun _ => .whenSome fun _ => .bind (.gets _) fun _ =>
    .bind (.gets _) fun _ => .bind (.failIf _ _) fun _ => .update _

theorem unwrap (o : Option α) : OracleFree (Exec.unwrap o : Vault α) := by
  intro env answers s
  cases o <;> rfl

end OracleFree

/-! ## The fee -/

/-- The price of a fee in this token is read from a contract. -/
def State.asksOracle (s : State) (token : Address) : Prop :=
  (s.feeTarget token).isSome ∧ s.oracleConfig.asks

section Fee

variable {env : Env} {answers : OracleAnswers} {s t : State} {token : Address} {fee : Int}
  {treasury : Option Address} {kind : BillingChargeKind}

theorem dispatchPrice_unasked {config : OracleConfig} (h : ¬config.asks) :
    dispatchPrice (env.answering answers) config = dispatchPrice env config := by
  unfold OracleConfig.asks at h
  unfold dispatchPrice
  cases hkind : config.kind with
  | spot => simp only [hkind, not_true_eq_false] at h
  | twap =>
    simp only [hkind, Nat.not_le] at h
    simp only [if_pos h]
  | fixedRate => rfl

theorem State.convertFee_unasked (h : ¬s.asksOracle token) :
    s.convertFee (env.answering answers) token fee = s.convertFee env token fee := by
  cases htarget : s.feeTarget token with
  | none => rw [State.convertFee_untargeted htarget, State.convertFee_untargeted htarget]
  | some target =>
    have hasks : ¬s.oracleConfig.asks := fun hasks => h ⟨by simp [htarget], hasks⟩
    rw [State.convertFee_targeted htarget, State.convertFee_targeted htarget,
      dispatchPrice_unasked hasks]

theorem State.convertFee_silent (h : s.asksOracle token) :
    s.convertFee (env.answering .silent) token fee = none := by
  obtain ⟨target, htarget⟩ := Option.isSome_iff_exists.mp h.1
  obtain ⟨oracle, horacle⟩ := State.feeTarget_oracle htarget
  have hasks := h.2
  unfold OracleConfig.asks at hasks
  rw [State.convertFee_targeted htarget]
  unfold dispatchPrice
  cases hkind : s.oracleConfig.kind with
  | spot =>
    simp only [horacle]
    rfl
  | twap =>
    simp only [hkind] at hasks
    simp only [horacle, if_neg (Nat.not_lt.mpr hasks)]
    rfl
  | fixedRate =>
    simp only [hkind] at hasks

theorem State.asksOracle_of_agreeOff {S : Set Slot} (h : FiniteStore.AgreeOff S s t)
    (hfee : ∀ k ∈ configSlots .feeToken, k ∉ S) (horacle : ∀ k ∈ configSlots .oracle, k ∉ S) :
    t.asksOracle token ↔ s.asksOracle token := by
  have htoken : t.feeToken = s.feeToken := State.config_of_agreeOff h hfee
  have hstored : t.config .oracle = s.config .oracle := State.config_of_agreeOff h horacle
  have hconfig : t.oracleConfig = s.oracleConfig := congrArg (Option.getD · _) hstored
  unfold State.asksOracle State.feeTarget
  rw [htoken, hconfig]

theorem State.asksOracle_of_credit (h : FiniteStore.AgreeOff creditSlots s t) :
    t.asksOracle token ↔ s.asksOracle token :=
  State.asksOracle_of_agreeOff h
    (by simp [configSlots, creditSlots, Slot.isCredit])
    (by simp [configSlots, creditSlots, Slot.isCredit])

theorem run_creditProtocolFee_of_pos (hfee : 0 < fee) :
    (creditProtocolFee token fee treasury kind).run env s =
      (unwrap (s.convertFee env token fee) >>= fun conversion =>
        whenSome treasury fun treasury => creditMerchantBalanceForToken treasury
          (conversion.targetToken.getD token) conversion.effectiveAmount kind : Vault Unit).run
        env s := by
  unfold creditProtocolFee Exec.when
  rw [if_pos hfee]
  rfl

/-- Where no contract is asked for the price of a fee, no answer changes how the fee is taken. -/
theorem run_creditProtocolFee_unasked (h : 0 < fee → ¬s.asksOracle token) :
    (creditProtocolFee token fee treasury kind).run (env.answering answers) s =
      (creditProtocolFee token fee treasury kind).run env s := by
  by_cases hfee : 0 < fee
  · rw [run_creditProtocolFee_of_pos hfee, run_creditProtocolFee_of_pos hfee,
      State.convertFee_unasked (h hfee)]
    exact OracleFree.bind (.unwrap _) (fun _ => .whenSome fun _ =>
      .creditMerchantBalanceForToken _ _ _ _) env answers s
  · unfold creditProtocolFee Exec.when
    rw [if_neg hfee]
    rfl

/-- A contract that is asked and does not answer takes the fee down. -/
theorem creditProtocolFee_silent {u : Unit} (hfee : 0 < fee) (h : s.asksOracle token) :
    (creditProtocolFee token fee treasury kind).run (env.answering .silent) s ≠ .ok u t := by
  rw [run_creditProtocolFee_of_pos hfee, State.convertFee_silent h]
  nofun

end Fee

/-! ## Settling -/

/-- The charge comes to crediting the payees and the treasury. -/
inductive Charge.Settles (env : Env) (s : State) (sub : Subscription) (amount : Int) :
    Charge → Prop
  | interval {id nextAllowed : Nat} {key : Option BytesN32} {newBalance : Int} :
      DueCharge env s id key sub amount nextAllowed →
      safeSubBalance sub.prepaidBalance amount = .ok newBalance →
      Settles env s sub amount (.interval id key)
  | usage {id : Nat} {reference : Bytes} :
      UsageDue env s id sub amount reference → sub.capExceededBy amount = false →
      InI128 (sub.lifetimeCharged + amount) → InI128 (sub.prepaidBalance - amount) →
      Settles env s sub amount (.usage id amount reference)

/-- The charge takes a fee whose price is asked of a contract. -/
def Charge.AsksPrice (c : Charge) (env : Env) (s : State) : Prop :=
  ∃ sub amount, c.Settles env s sub amount ∧ 0 < s.feeTaken c.kind sub.merchant amount ∧
    s.asksOracle sub.token

section Settling

variable {env : Env} {answers : OracleAnswers} {s t u : State} {id : Nat} {sub : Subscription}
  {amount net fee : Int} {treasury : Option Address} {key : Option BytesN32}
  {kind : BillingChargeKind} {v : Unit} {rest : Vault Unit}

/-- Taking a fee at a rate, crediting both parts and booking. -/
private def settleAt (id : Nat) (sub : Subscription) (amount : Int) (rate : Nat)
    (treasury : Option Address) (kind : BillingChargeKind) (rest : Vault Unit) : Vault Unit :=
  lift (splitFee amount rate treasury) >>= fun split => do
    creditChargePayees id sub split.1 kind
    routeToSubAccount sub split.1
    creditProtocolFee sub.token split.2 treasury kind
    rest

/-- The credits of a charge and what is booked after them. -/
private theorem run_credits_unasked (hrest : OracleFree rest)
    (h : 0 < fee → ¬s.asksOracle sub.token) :
    (do
      creditChargePayees id sub net kind
      routeToSubAccount sub net
      creditProtocolFee sub.token fee treasury kind
      rest : Vault Unit).run (env.answering answers) s =
    (do
      creditChargePayees id sub net kind
      routeToSubAccount sub net
      creditProtocolFee sub.token fee treasury kind
      rest : Vault Unit).run env s := by
  refine SameIn.run_bind (OracleFree.creditChargePayees _ _ _ _ env answers s)
    fun _ credited hcredit => ?_
  refine SameIn.run_bind (OracleFree.routeToSubAccount _ _ env answers credited)
    fun _ routed hroute => ?_
  have hcredits : FiniteStore.AgreeOff creditSlots s routed :=
    ((Modifies.creditChargePayees _ _ _ _).ok hcredit).trans
      ((Modifies.routeToSubAccount _ _).ok hroute)
  refine SameIn.run_bind (run_creditProtocolFee_unasked fun hfee => ?_) fun _ paid _ =>
    hrest env answers paid
  rw [State.asksOracle_of_credit hcredits]
  exact h hfee

/-- A contract that is asked and does not answer takes the charge down. -/
private theorem credits_silent (hfee : 0 < fee) (h : s.asksOracle sub.token) :
    (do
      creditChargePayees id sub net kind
      routeToSubAccount sub net
      creditProtocolFee sub.token fee treasury kind
      rest : Vault Unit).run (env.answering .silent) s ≠ .ok v t := by
  intro hrun
  obtain ⟨_, credited, hcredit, hrun⟩ := run_bind_ok.mp hrun
  obtain ⟨_, routed, hroute, hrun⟩ := run_bind_ok.mp hrun
  obtain ⟨_, paid, hpay, -⟩ := run_bind_ok.mp hrun
  have hcredits : FiniteStore.AgreeOff creditSlots s routed :=
    ((Modifies.creditChargePayees _ _ _ _).ok hcredit).trans
      ((Modifies.routeToSubAccount _ _).ok hroute)
  exact creditProtocolFee_silent hfee ((State.asksOracle_of_credit hcredits).mpr h) hpay

/-- What an interval charge books once everyone is credited. -/
private def bookInterval (id : Nat) (sub : Subscription) (charge : IntervalCharge)
    (key : Option BytesN32) (now : Nat) : Vault Unit := do
  let booked ← lift (sub.booked charge.amount charge.newBalance now)
  delete (.instanced (.chargeFailureCounter id))
  let settled ← lift booked.cancelledWhenCapped
  writeSubscription id settled
  appendStatement id charge.amount sub.merchant sub.token .interval
    (charge.nextAllowed - sub.intervalSeconds) now
  writePeriodSnapshot
    { subscriptionId := id
      periodIndex := charge.periodIndex
      periodStart := charge.nextAllowed - sub.intervalSeconds
      periodEnd := now
      totalCharged := charge.amount
      totalUsageUnits := 0
      statusFlags := snapshotFlagClosed ||| snapshotFlagIntervalCharged
      finalizedAt := now }
  store (.instanced (.chargedPeriod id)) charge.periodIndex
  store (.instanced (.chargeSalt id)) charge.salt
  recordIdemKey .chargeInterval id key

private theorem bookInterval_free (id : Nat) (sub : Subscription) (charge : IntervalCharge)
    (key : Option BytesN32) (now : Nat) : OracleFree (bookInterval id sub charge key now) :=
  .bind (.lift _) fun _ => .bind (.update _) fun _ => .bind (.lift _) fun _ =>
    .bind (.writeSubscription _ _) fun _ => .bind (.appendStatement _ _ _ _ _ _ _) fun _ =>
    .bind (.writePeriodSnapshot _) fun _ => .bind (.update _) fun _ => .bind (.update _) fun _ =>
    .recordIdemKey _ _ _

/-- An interval charge splits the amount, credits both parts and books what it took. -/
private theorem run_settleInterval (charge : IntervalCharge) :
    (settleInterval id sub charge key none).run env s =
      (settleAt id sub charge.amount s.protocolFeeBps s.treasury .interval
        (bookInterval id sub charge key env.now)).run env s := rfl

/-- What a usage charge books once everyone is credited. -/
private def bookUsage (id : Nat) (sub : Subscription) (amount pendingLifetime newBalance : Int)
    (reference : Bytes) (now : Nat) : Vault Unit := do
  let booked ← lift (sub.usageBooked pendingLifetime newBalance)
  writeSubscription id booked
  store (.symbol (.usageRef id reference)) true
  require (sub.intervalSeconds ≠ 0)
  let periodIndex := (now - sub.startTime) / sub.intervalSeconds
  failIf (u64Max < periodIndex * sub.intervalSeconds) .overflow
  let periodStart ← okOr (checkedAddU64 sub.startTime (periodIndex * sub.intervalSeconds))
    .overflow
  writePeriodSnapshot
    { subscriptionId := id, periodIndex, periodStart, periodEnd := now,
      totalCharged := amount, totalUsageUnits := amount,
      statusFlags := snapshotFlagUsageCharged, finalizedAt := now }
  appendStatement id amount sub.merchant sub.token .usage now now

private theorem bookUsage_free (id : Nat) (sub : Subscription)
    (amount pendingLifetime newBalance : Int) (reference : Bytes) (now : Nat) :
    OracleFree (bookUsage id sub amount pendingLifetime newBalance reference now) :=
  .bind (.lift _) fun _ => .bind (.writeSubscription _ _) fun _ => .bind (.update _) fun _ =>
    .bind (.require _) fun _ => .bind (.failIf _ _) fun _ => .bind (.okOr _ _) fun _ =>
    .bind (.writePeriodSnapshot _) fun _ => .appendStatement _ _ _ _ _ _ _

private theorem run_settleUsage {pendingLifetime newBalance : Int} {reference : Bytes} :
    (settleUsage id sub amount pendingLifetime newBalance reference).run env s =
      (settleAt id sub amount (s.routeFeeBps sub.merchant) s.treasury .usage
        (bookUsage id sub amount pendingLifetime newBalance reference env.now)).run env s := rfl

private theorem run_settleAt_unasked {rate : Nat} (hrest : OracleFree rest)
    (h : 0 < protocolFee amount rate treasury → ¬s.asksOracle sub.token) :
    (settleAt id sub amount rate treasury kind rest).run (env.answering answers) s =
      (settleAt id sub amount rate treasury kind rest).run env s := by
  refine SameIn.run_check (.lift _) (.lift _) fun split hsplit => ?_
  obtain ⟨hfee, -⟩ := splitFee_ok (run_lift_ok.mp hsplit).1
  exact run_credits_unasked hrest (hfee ▸ h)

private theorem settleAt_silent {rate : Nat} (hfee : 0 < protocolFee amount rate treasury)
    (h : s.asksOracle sub.token) :
    (settleAt id sub amount rate treasury kind rest).run (env.answering .silent) s ≠ .ok v t := by
  intro hrun
  obtain ⟨split, hsplit, hrun⟩ := run_check_ok (.lift _) hrun
  obtain ⟨hsame, -⟩ := splitFee_ok (run_lift_ok.mp hsplit).1
  exact credits_silent (hsame ▸ hfee) h hrun

private theorem run_settleInterval_unasked {charge : IntervalCharge}
    (h : 0 < protocolFee charge.amount s.protocolFeeBps s.treasury → ¬s.asksOracle sub.token) :
    (settleInterval id sub charge key none).run (env.answering answers) s =
      (settleInterval id sub charge key none).run env s := by
  rw [run_settleInterval, run_settleInterval]
  exact run_settleAt_unasked (bookInterval_free _ _ _ _ _) h

private theorem run_settleUsage_unasked {pendingLifetime newBalance : Int} {reference : Bytes}
    (h : 0 < protocolFee amount (s.routeFeeBps sub.merchant) s.treasury →
      ¬s.asksOracle sub.token) :
    (settleUsage id sub amount pendingLifetime newBalance reference).run (env.answering answers) s =
      (settleUsage id sub amount pendingLifetime newBalance reference).run env s := by
  rw [run_settleUsage, run_settleUsage]
  exact run_settleAt_unasked (bookUsage_free _ _ _ _ _ _ _) h

end Settling

/-! ## Charges that ask for nothing -/

section Unasked

variable {env : Env} {answers : OracleAnswers} {s : State} {id : Nat} {sub : Subscription}
  {amount : Int} {key : Option BytesN32} {reference : Bytes}

/-- The checks on the parties, with which both charges begin, ask for nothing. -/
private theorem run_parties_unasked {α : Type} {rest : Subscription → Vault α}
    (h : ∀ sub, Cleared env s id sub →
      (rest sub).run (env.answering answers) s = (rest sub).run env s) :
    (do
      requireNotEmergencyStop
      let sub ← getSubscription id
      checkMerchantStatus sub.merchant ∅
      requireNotBlocklisted sub.subscriber
      requireNotBlocklisted sub.merchant
      checkSplitPayees id
      failIfExpired id sub
      rest sub : Vault α).run (env.answering answers) s =
    (do
      requireNotEmergencyStop
      let sub ← getSubscription id
      checkMerchantStatus sub.merchant ∅
      requireNotBlocklisted sub.subscriber
      requireNotBlocklisted sub.merchant
      checkSplitPayees id
      failIfExpired id sub
      rest sub : Vault α).run env s := by
  refine SameIn.run_check (OracleFree.requireNotEmergencyStop env answers)
    Modifies.requireNotEmergencyStop fun _ hopen => ?_
  refine SameIn.run_check (OracleFree.getSubscription id env answers)
    (Modifies.getSubscription id) fun sub hget => ?_
  refine SameIn.run_check (OracleFree.checkMerchantStatus _ _ env answers)
    (Modifies.checkMerchantStatus _ _) fun _ hmerchant => ?_
  refine SameIn.run_check (OracleFree.requireNotBlocklisted _ env answers)
    (Modifies.requireNotBlocklisted _) fun _ hsubscriber => ?_
  refine SameIn.run_check (OracleFree.requireNotBlocklisted _ env answers)
    (Modifies.requireNotBlocklisted _) fun _ hlisted => ?_
  refine SameIn.run_check (OracleFree.checkSplitPayees _ env answers)
    (Modifies.checkSplitPayees _) fun _ hpayees => ?_
  refine SameIn.run_bind (OracleFree.failIfExpired _ _ env answers s) fun _ t hexpired => ?_
  obtain ⟨hunexpired, rfl⟩ := run_failIfExpired_ok.mp hexpired
  exact h sub
    { running := (run_requireNotEmergencyStop_ok.mp hopen).1
      found := (run_getSubscription_ok.mp hget).1
      merchantOpen := by simpa using (run_checkMerchantStatus_ok.mp hmerchant).1
      subscriberUnlisted := (run_requireNotBlocklisted_ok.mp hsubscriber).1
      merchantUnlisted := (run_requireNotBlocklisted_ok.mp hlisted).1
      payeesOpen := (run_checkSplitPayees_ok.mp hpayees).1
      unexpired := hunexpired }

/-- An interval charge that asks for no price runs the same whatever the oracles answer. -/
theorem chargeOne_unasked (h : ¬(Charge.interval id key).AsksPrice env s) :
    (chargeOne id key none ∅).run (env.answering answers) s =
      (chargeOne id key none ∅).run env s := by
  have hfree {nextAllowed : Nat} {newBalance : Int} {sub : Subscription} {amount : Int}
      (hdue : DueCharge env s id key sub amount nextAllowed)
      (hbalance : safeSubBalance sub.prepaidBalance amount = .ok newBalance)
      (hfee : 0 < protocolFee amount s.protocolFeeBps s.treasury) : ¬s.asksOracle sub.token :=
    fun hasks => h ⟨sub, amount, .interval hdue hbalance, hfee, hasks⟩
  refine run_parties_unasked fun sub hclear => ?_
  refine SameIn.run_ask rfl ?_
  refine SameIn.run_check (.gets _) (.gets _) fun priced hpriced => ?_
  refine SameIn.run_check (.lift _) (.lift _) fun amount hamount => ?_
  obtain rfl := (run_gets_ok.mp hpriced).1
  split
  · exact OracleFree.bind (.when (.cancelCapped _ _)) (fun _ => .pure _) env answers s
  rename_i hcap
  split
  · exact OracleFree.bind (.fireScheduledCancellation _ _) (fun _ => .pure _) env answers s
  rename_i hscheduled
  refine SameIn.run_check (OracleFree.requireChargeable _ env answers)
    (Modifies.requireChargeable _) fun _ hchargeable => ?_
  refine SameIn.run_check (.lift _) (.lift _) fun closed hclosed => ?_
  split
  · exact OracleFree.pure _ env answers s
  rename_i hrenews
  refine SameIn.run_ask rfl ?_
  refine SameIn.run_check (.require _) (.require _) fun _ hinterval => ?_
  refine SameIn.run_check (.gets _) Modifies.load fun lastSalt hsalt => ?_
  refine SameIn.run_check (.failIf _ _) (.failIf _ _) fun _ hfresh => ?_
  refine SameIn.run_check (.gets _) (.gets _) fun replayed hreplayed => ?_
  split
  · exact OracleFree.pure _ env answers s
  rename_i hunseen
  refine SameIn.run_check (.gets _) Modifies.load fun period hperiod => ?_
  refine SameIn.run_check (.failIf _ _) (.failIf _ _) fun _ hnew => ?_
  refine SameIn.run_check (.lift _) (.lift _) fun next hnext => ?_
  refine SameIn.run_check (.failIf _ _) (.failIf _ _) fun _ helapsed => ?_
  refine SameIn.run_check (.lift _) (.lift _) fun remaining hremaining => ?_
  split
  · exact OracleFree.bind (.cancelCapped _ _) (fun _ => .pure _) env answers s
  rename_i hfits
  have hdue : DueCharge env s id key sub amount next :=
    { hclear with
      priced := (run_lift_ok.mp hamount).1
      capLeft := by simpa using hcap
      unscheduled := by simpa using hscheduled
      chargeable := isChargeable_of_run hchargeable
      renewing := by
        rw [(run_lift_ok.mp hclosed).1]
        simpa using hrenews
      interval := (run_require_ok.mp hinterval).1
      freshSalt := by
        rw [(run_load_ok.mp hsalt).1]
        exact (run_failIf_ok.mp hfresh).1
      freshKey := by
        rw [(run_gets_ok.mp hreplayed).1]
        simpa using hunseen
      freshPeriod := by
        rw [(run_load_ok.mp hperiod).1]
        simpa using (run_failIf_ok.mp hnew).1
      next := (run_lift_ok.mp hnext).1
      elapsed := Nat.not_lt.mp (run_failIf_ok.mp helapsed).1
      fits := ⟨remaining, (run_lift_ok.mp hremaining).1, by simpa using hfits⟩ }
  split
  · rename_i newBalance hbalance
    refine SameIn.run_bind ?_ fun _ t _ => OracleFree.pure _ env answers t
    exact run_settleInterval_unasked (hfree hdue hbalance)
  · exact OracleFree.bind (.recordShortfall _ _ _) (fun _ => .pure _) env answers s

/-- The same of a usage charge. -/
theorem chargeUsageOne_unasked (h : ¬(Charge.usage id amount reference).AsksPrice env s) :
    (chargeUsageOne id amount reference).run (env.answering answers) s =
      (chargeUsageOne id amount reference).run env s := by
  refine run_parties_unasked fun sub hclear => ?_
  refine SameIn.run_ask rfl ?_
  refine SameIn.run_bind (OracleFree.when (.bind (.when (.cancelCapped _ _)) fun _ => .fail _)
    env answers s) fun _ t hcap => ?_
  obtain ⟨hleft, rfl⟩ : sub.capReached = false ∧ s = t := by
    rcases run_when_ok.mp hcap with ⟨-, hfail⟩ | ⟨hleft, rfl⟩
    · simp at hfail
    · exact ⟨by simpa using hleft, rfl⟩
  refine SameIn.run_check (.failIf _ _) (.failIf _ _) fun _ hactive => ?_
  refine SameIn.run_check (.failIf _ _) (.failIf _ _) fun _ henabled => ?_
  refine SameIn.run_check (.lift _) (.lift _) fun closed hclosed => ?_
  refine SameIn.run_check (.failIf _ _) (.failIf _ _) fun _ hrenewing => ?_
  refine SameIn.run_check (.failIf _ _) (.failIf _ _) fun _ hpositive => ?_
  refine SameIn.run_check (.gets _) Modifies.load fun override hoverride => ?_
  split
  · exact OracleFree.pure _ env answers s
  rename_i hwithin
  refine SameIn.run_check (.failIf _ _) (.failIf _ _) fun _ hfunded => ?_
  refine SameIn.run_check (.gets _) Modifies.load fun seen hseen => ?_
  split
  · exact OracleFree.pure _ env answers s
  rename_i hunseen
  refine SameIn.run_bind (OracleFree.applyUsageLimits _ _ _ env answers s)
    fun rejected counted hlimits => ?_
  cases rejected with
  | some result => exact OracleFree.pure _ env answers counted
  | none =>
    have hdue : UsageDue env s id sub amount reference :=
      { hclear with
        capLeft := hleft
        active := by simpa using (run_failIf_ok.mp hactive).1
        enabled := by simpa using (run_failIf_ok.mp henabled).1
        renewing := by
          rw [(run_lift_ok.mp hclosed).1]
          simpa using (run_failIf_ok.mp hrenewing).1
        positive := by simpa using (run_failIf_ok.mp hpositive).1
        within := by
          rw [(run_load_ok.mp hoverride).1]
          by_cases hset : override.getD false = true
          · exact .inl hset
          · exact .inr (by simpa [hset] using hwithin)
        funded := by simpa using (run_failIf_ok.mp hfunded).1
        fresh := by
          rw [(run_load_ok.mp hseen).1]
          simpa using hunseen
        admitted := (run_applyUsageLimits_ok hlimits).1.symm }
    have hcounted := (applyUsageLimits_counters _ _ _).ok hlimits
    refine SameIn.run_check (.lift _) (.lift _) fun pending hpending => ?_
    obtain ⟨rfl, hfits⟩ := safeAdd_ok.mp (run_lift_ok.mp hpending).1
    split
    · exact OracleFree.bind (.cancelCapped _ _) (fun _ => .pure _) env answers counted
    rename_i hwithin
    split
    · rename_i newBalance hbalance
      have hremains := (safeSubBalance_ok.mp hbalance).2.2
      refine SameIn.run_bind ?_ fun _ t _ => OracleFree.pure _ env answers t
      obtain ⟨hrate, htreasury⟩ := usageTerms_of_counted hcounted sub.merchant
      refine run_settleUsage_unasked fun hfee hasks => h ⟨sub, amount, .usage hdue
        (Bool.eq_false_iff.mpr hwithin) hfits (hremains.1 ▸ hremains.2), ?_, ?_⟩
      · rwa [hrate, htreasury] at hfee
      · exact (State.asksOracle_of_agreeOff hcounted (by simp [configSlots, counterSlots])
          (by simp [configSlots, counterSlots])).mp hasks
    · exact OracleFree.bind (.lift _) (fun _ => .bind (.writeSubscription _ _) fun _ => .pure _)
        env answers counted

/-- No guard in front of the fee looks at what an oracle answers. -/
theorem Charge.Settles.answering {c : Charge} (h : c.Settles env s sub amount)
    (answers : OracleAnswers) : c.Settles (env.answering answers) s sub amount := by
  cases h with
  | interval hdue hbalance =>
    exact .interval
      { hdue with
        running := hdue.running
        found := hdue.found
        merchantOpen := hdue.merchantOpen
        subscriberUnlisted := hdue.subscriberUnlisted
        merchantUnlisted := hdue.merchantUnlisted
        payeesOpen := hdue.payeesOpen
        unexpired := hdue.unexpired } hbalance
  | usage hdue hwithin hfits hremains =>
    exact .usage
      { hdue with
        running := hdue.running
        found := hdue.found
        merchantOpen := hdue.merchantOpen
        subscriberUnlisted := hdue.subscriberUnlisted
        merchantUnlisted := hdue.merchantUnlisted
        payeesOpen := hdue.payeesOpen
        unexpired := hdue.unexpired } hwithin hfits hremains

/-- A charge that takes a fee at a price does not go through when no contract answers. -/
theorem Charge.fails_silent {c : Charge} {t : State} (h : c.AsksPrice env s) :
    c.exec.run (env.answering .silent) s ≠ .ok () t := by
  intro hrun
  obtain ⟨sub, amount, hsettles, hfee, hasks⟩ := h
  cases hsettles.answering .silent with
  | interval hdue hbalance =>
    obtain ⟨_, u, hcharge, -⟩ := run_bind_ok.mp hrun
    rw [run_chargeOne_of_due hdue] at hcharge
    unfold payInterval at hcharge
    rw [hbalance] at hcharge
    obtain ⟨_, settled, hsettle, -⟩ := run_bind_ok.mp hcharge
    rw [run_settleInterval] at hsettle
    exact settleAt_silent hfee hasks hsettle
  | @usage id reference hdue hwithin hfits hremains =>
    obtain ⟨_, u, hcharge, -⟩ := run_bind_ok.mp hrun
    rw [run_chargeUsageOne_of_checks hdue.checked] at hcharge
    obtain ⟨rejected, counted, hlimits, hcharge⟩ := run_bind_ok.mp hcharge
    have hcounted := (applyUsageLimits_counters _ _ _).ok hlimits
    obtain ⟨hrate, htreasury⟩ := usageTerms_of_counted hcounted sub.merchant
    obtain rfl := (run_applyUsageLimits_ok hlimits).1.trans hdue.admitted
    obtain ⟨pending, hpending, hcharge⟩ := run_check_ok (.lift _) hcharge
    obtain ⟨rfl, -⟩ := safeAdd_ok.mp (run_lift_ok.mp hpending).1
    have hbalance : safeSubBalance sub.prepaidBalance amount = .ok (sub.prepaidBalance - amount) :=
      safeSubBalance_ok.mpr ⟨hdue.positive.le, hdue.funded, rfl, hremains⟩
    have hnot : ¬sub.lifetimeCap.any (· < sub.lifetimeCharged + amount) = true :=
      Bool.eq_false_iff.mp hwithin
    rw [if_neg hnot, hbalance] at hcharge
    obtain ⟨_, settled, hsettle, -⟩ := run_bind_ok.mp hcharge
    rw [run_settleUsage, hrate, htreasury] at hsettle
    exact settleAt_silent hfee ((State.asksOracle_of_agreeOff hcounted
      (by simp [configSlots, counterSlots]) (by simp [configSlots, counterSlots])).mpr hasks)
      hsettle

private theorem checkOneOff_free (id : Nat) (sub : Subscription) (merchant : Address)
    (amount : Int) : OracleFree (checkOneOff id sub merchant amount) :=
  .bind (.failIf _ _) fun _ => .bind (.when (.bind (.when (.cancelCapped _ _)) fun _ =>
    .fail _)) fun _ => .bind (.failIf _ _) fun _ => .bind (.failIf _ _) fun _ =>
    .bind (.failIf _ _) fun _ => .bind (.lift _) fun _ =>
    .bind (.when (.bind (.cancelCapped _ _) fun _ => .fail _)) fun _ => .pure _

private theorem settleOneOff_free (id : Nat) (sub : Subscription) (charged amount : Int)
    (key : Option BytesN32) : OracleFree (settleOneOff id sub charged amount key) :=
  .ask (fun _ _ => rfl) fun _ => .bind (.lift _) fun _ => .bind (.gets _) fun _ =>
    .bind (.gets _) fun _ => .bind (.lift _) fun _ => .bind (.creditChargePayees _ _ _ _) fun _ =>
    .bind (.routeToSubAccount _ _) fun _ => .bind (.when (.whenSome fun _ =>
      .creditMerchantBalanceForToken _ _ _ _)) fun _ => .bind (.lift _) fun _ =>
    .bind (.appendStatement _ _ _ _ _ _ _) fun _ => .recordIdemKey _ _ _

/-- A one-off charge asks for no price. -/
private theorem doChargeOneOff_free (id : Nat) (merchant : Address) (amount : Int)
    (key : Option BytesN32) : OracleFree (doChargeOneOff id merchant amount key) :=
  .ask (fun _ _ => rfl) fun _ => .bind (.ask (fun _ _ => rfl) fun _ => .require _) fun _ =>
    .bind (.getSubscription _) fun _ => .bind (.requireNotBlocklisted _) fun _ =>
    .bind (.requireNotBlocklisted _) fun _ => .bind (.checkSplitPayees _) fun _ =>
    .bind (.failIfExpired _ _) fun _ => .bind (.gets _) fun _ =>
    .when (.bind (checkOneOff_free _ _ _ _) fun _ => settleOneOff_free _ _ _ _ _)

/-- A charge that asks for no price runs the same whatever the oracles answer. -/
theorem Charge.run_unasked {c : Charge} (h : ¬c.AsksPrice env s) :
    c.exec.run (env.answering answers) s = c.exec.run env s := by
  cases c with
  | interval id key => exact SameIn.run_bind (chargeOne_unasked h) fun _ _ _ => rfl
  | usage id amount reference =>
    exact SameIn.run_bind (chargeUsageOne_unasked h) fun _ _ _ => rfl
  | oneOff id merchant amount key => exact doChargeOneOff_free id merchant amount key env answers s

end Unasked

/-! ## The oracle and billing -/

/-- Whether the charge goes through, and what it takes from the subscriber, is the same whatever
the oracle contracts answer. -/
def Charge.UnaffectedByOracle (c : Charge) (env : Env) (s : State) : Prop :=
  ∀ (answers answers' : OracleAnswers) (t : State),
    c.exec.run (env.answering answers) s = .ok () t →
    ∃ t', c.exec.run (env.answering answers') s = .ok () t' ∧
      (t'.subscription c.id).map (·.prepaidBalance) = (t.subscription c.id).map (·.prepaidBalance)

theorem Charge.unaffectedByOracle_iff {c : Charge} {env : Env} {s : State} :
    c.UnaffectedByOracle env s ↔
      (c.AsksPrice env s → ∀ answers t, c.exec.run (env.answering answers) s ≠ .ok () t) := by
  constructor
  · intro h hasks answers t hrun
    obtain ⟨t', hsilent, -⟩ := h answers .silent t hrun
    exact Charge.fails_silent hasks hsilent
  · intro h answers answers' t hrun
    by_cases hasks : c.AsksPrice env s
    · exact absurd hrun (h hasks answers t)
    · rw [Charge.run_unasked hasks] at hrun ⊢
      exact ⟨t, hrun, rfl⟩

private def pricedBy (kind : OracleKind) (fixedNumerator : Nat) : OracleConfig :=
  { enabled := true, oracle := some ⟨21⟩, maxAgeSeconds := 100, kind, windowSecs := 60,
    fixedNumerator, fixedDenominator := 1 }

/-- A vault with a paid subscription and a protocol fee, which is to be converted into token 20. -/
private def pricedVault (kind : OracleKind) (fixedNumerator : Nat) : State :=
  ((stateAfter ((AdminCall.queueTreasuryChange ⟨8⟩ ⟨7⟩ 500).exec.after (sampleEnv 0 [⟨8⟩])
    (afterCalls (sampleVault 0)))
    [(sampleEnv 0 [⟨2⟩], .depositFunds 0 50 none),
     (sampleEnv 0 [⟨2⟩], .createSubscription sampleRequest)]).writeConfig
      .feeToken (⟨20⟩ : Address)).writeConfig .oracle (pricedBy kind fixedNumerator)

end SubscriptionVault
