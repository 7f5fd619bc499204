import SubscriptionVault.Accounts.Postings
import SubscriptionVault.Charging.Credits
import SubscriptionVault.Governance.Treasury

/-!
# One fee rate

A merchant with a fee override should pay that rate on every kind of charge, and no override
should exceed the protocol's own rate. Only usage charges look at the override. An override is
held against the protocol rate when it is set; what lowers the protocol rate later does not look
at the overrides.
-/

namespace SubscriptionVault

open Exec

/-! ## The rate of a charge -/

/-- The rate a charge of this kind takes its fee at. -/
def State.feeRate (s : State) (kind : BillingChargeKind) (merchant : Address) : Nat :=
  match kind with
  | .usage => s.routeFeeBps merchant
  | .interval | .oneOff => s.protocolFeeBps

def State.feeTaken (s : State) (kind : BillingChargeKind) (merchant : Address) (amount : Int) :
    Int :=
  protocolFee amount (s.feeRate kind merchant) s.treasury

/-- The fee a rate promises: its share rounded down, but at least one unit. -/
def promisedFee (amount : Int) (rate : Nat) : Int :=
  if rate = 0 then 0 else max 1 (amount * rate / 10000)

/-- Two products that make the same fee. -/
def RoundAlike (x y : Int) : Prop := x / 10000 = y / 10000 ∨ x < 20000 ∧ y < 20000

instance (x y : Int) : Decidable (RoundAlike x y) := inferInstanceAs (Decidable (_ ∨ _))

/-- The charge makes of its rate what the merchant's rate promises. -/
def State.KeepsPromise (s : State) (kind : BillingChargeKind) (merchant : Address)
    (amount : Int) : Prop :=
  match kind with
  | .usage => InI128 (amount * s.routeFeeBps merchant)
  | .interval | .oneOff =>
    (s.protocolFeeBps = 0 ↔ s.routeFeeBps merchant = 0) ∧
      RoundAlike (wrapI128 (amount * s.protocolFeeBps)) (amount * s.routeFeeBps merchant)

section Rounding

variable {x y amount : Int} {rate promised : Nat} {treasury : Option Address}

theorem roundAlike_iff (hy : 0 ≤ y) :
    max (x.tdiv 10000) 1 = max 1 (y / 10000) ↔ RoundAlike x y := by
  unfold RoundAlike
  by_cases hx : 0 ≤ x
  · rw [Int.tdiv_eq_ediv_of_nonneg hx]
    omega
  · have hneg : x.tdiv 10000 ≤ 0 := by
      rw [Int.tdiv_eq_ediv, show Int.sign 10000 = 1 from rfl]
      split <;> omega
    omega

/-- A product that does not fit loses a multiple of its range. -/
theorem wrapI128_of_large (hx : 2 ^ 127 ≤ x) : wrapI128 x + 2 ^ 128 ≤ x := by
  have hmod : wrapI128 x % 2 ^ 128 = x % 2 ^ 128 := Int.bmod_emod
  have hlt : wrapI128 x < (2 ^ 128 + 1) / 2 := Int.bmod_lt (by decide)
  omega

theorem wrap_roundAlike_iff (hx : 0 ≤ x) : RoundAlike (wrapI128 x) x ↔ InI128 x := by
  constructor
  · intro halike
    by_contra hout
    have hlarge : 2 ^ 127 ≤ x := by
      unfold InI128 at hout
      omega
    have hlost := wrapI128_of_large hlarge
    unfold RoundAlike at halike
    omega
  · intro hfits
    rw [wrapI128_of_inI128 hfits]
    exact .inl rfl

/-- When the rate in use makes the fee that another rate promises. -/
theorem protocolFee_eq_promised_iff (hamount : 0 < amount) (htreasury : treasury.isSome) :
    protocolFee amount rate treasury = promisedFee amount promised ↔
      (rate = 0 ↔ promised = 0) ∧
        RoundAlike (wrapI128 (amount * rate)) (amount * promised) := by
  have hpromised : 0 ≤ amount * (promised : Int) := Int.mul_nonneg (by omega) (by omega)
  unfold protocolFee promisedFee
  by_cases hrate : rate = 0
  · subst hrate
    rw [if_neg (by simp)]
    by_cases hzero : promised = 0
    · subst hzero
      simp [RoundAlike, wrapI128]
    · rw [if_neg hzero]
      constructor
      · intro hfee
        omega
      · intro h
        exact absurd (h.1.mp rfl) hzero
  · rw [if_pos ⟨Nat.pos_of_ne_zero hrate, htreasury⟩]
    by_cases hzero : promised = 0
    · rw [if_pos hzero]
      constructor
      · intro hfee
        omega
      · intro h
        exact absurd (h.1.mpr hzero) hrate
    · rw [if_neg hzero, roundAlike_iff hpromised]
      exact ⟨fun h => ⟨⟨fun h => absurd h hrate, fun h => absurd h hzero⟩, h⟩, fun h => h.2⟩

theorem State.feeTaken_eq_promised_iff {s : State} {kind : BillingChargeKind}
    {merchant : Address} (hamount : 0 < amount) (htreasury : s.treasury.isSome) :
    s.feeTaken kind merchant amount = promisedFee amount (s.routeFeeBps merchant) ↔
      s.KeepsPromise kind merchant amount := by
  unfold State.feeTaken
  rw [protocolFee_eq_promised_iff hamount htreasury]
  cases kind with
  | interval | oneOff => exact Iff.rfl
  | usage =>
    have hproduct : 0 ≤ amount * (s.routeFeeBps merchant : Int) :=
      Int.mul_nonneg (by omega) (by omega)
    have hwrap := wrap_roundAlike_iff hproduct
    exact ⟨fun h => hwrap.mp h.2, fun h => ⟨Iff.rfl, hwrap.mpr h⟩⟩

end Rounding

/-! ## What a charge takes -/

/-- The subscription's payees are credited what the fee leaves of the amount and the treasury is
credited the fee. -/
def TakesFee (env : Env) (s t : State) (id : Nat) (sub : Subscription)
    (kind : BillingChargeKind) (amount fee : Int) : Prop :=
  ∃ counted credited routed paid : State,
    FiniteStore.AgreeOff (counterSlots id) s counted ∧
    (creditChargePayees id sub (amount - fee) kind).run env counted = .ok () credited ∧
    (routeToSubAccount sub (amount - fee)).run env credited = .ok () routed ∧
    PaysFee env sub.token s.treasury kind fee routed paid ∧
    t.merchantBalance = paid.merchantBalance

inductive Charge where
  | interval (id : Nat) (key : Option BytesN32)
  | usage (id : Nat) (amount : Int) (reference : Bytes)
  | oneOff (id : Nat) (merchant : Address) (amount : Int) (key : Option BytesN32)

def Charge.kind : Charge → BillingChargeKind
  | .interval _ _ => .interval
  | .usage _ _ _ => .usage
  | .oneOff _ _ _ _ => .oneOff

def Charge.id : Charge → Nat
  | .interval id _ | .usage id _ _ | .oneOff id _ _ _ => id

def Charge.exec : Charge → Vault Unit
  | .interval id key => do
    let _ ← chargeOne id key none ∅
    pure ()
  | .usage id amount reference => do
    let _ ← chargeUsageOne id amount reference
    pure ()
  | .oneOff id merchant amount key => doChargeOneOff id merchant amount key

/-- The charge is for this amount. -/
def Charge.Costs (c : Charge) (env : Env) (s : State) (sub : Subscription) (amount : Int) : Prop :=
  match c with
  | .interval id _ => s.intervalAmount id env.now sub = .ok amount
  | .usage _ asked _ | .oneOff _ _ asked _ => asked = amount

/-- Either no merchant is credited anything, or the fee is taken. -/
def Charge.Takes (c : Charge) (env : Env) (s t : State) (fee : Address → Int → Int) : Prop :=
  t.merchantBalance = s.merchantBalance ∨
    ∃ sub amount, s.effectiveSubscription c.id env.now = some sub ∧ c.Costs env s sub amount ∧
      TakesFee env s t c.id sub c.kind amount (fee sub.merchant amount)

section Charges

variable {env : Env} {s t u : State} {id : Nat} {sub : Subscription} {amount net fee : Int}
  {key : Option BytesN32} {feeBps : Nat} {treasury : Option Address} {v : Unit}

theorem splitFee_ok (h : splitFee amount feeBps treasury = .ok (net, fee)) :
    protocolFee amount feeBps treasury = fee ∧ amount - fee = net := by
  obtain ⟨rest, hrest, h⟩ := except_bind_ok.mp h
  obtain ⟨rfl, rfl⟩ := Prod.mk.inj (Except.ok.inj h)
  exact ⟨rfl, (safeSub_ok.mp hrest).1⟩

theorem settleInterval_takes {charge : IntervalCharge}
    (hrun : (settleInterval id sub charge key none).run env s = .ok v t) :
    TakesFee env s t id sub .interval charge.amount
      (s.feeTaken .interval sub.merchant charge.amount) := by
  obtain ⟨_, hask, hrun⟩ := run_check_ok .ask hrun
  obtain ⟨rfl, -⟩ := run_ask_ok.mp hask
  obtain ⟨terms, hterms, hrun⟩ := run_check_ok (.gets _) hrun
  obtain rfl := (run_gets_ok.mp hterms).1
  obtain ⟨⟨net, fee⟩, hsplit, hrun⟩ := run_check_ok (.lift _) hrun
  obtain ⟨rfl, rfl⟩ := splitFee_ok (run_lift_ok.mp hsplit).1
  obtain ⟨_, credited, hcredit, hrun⟩ := run_bind_ok.mp hrun
  obtain ⟨_, routed, hroute, hrun⟩ := run_bind_ok.mp hrun
  obtain ⟨_, paid, hpay, hrun⟩ := run_bind_ok.mp hrun
  have hrest : FiniteStore.AgreeOff (areas chargeAreas) paid t :=
    Exec.Keeps.ok (R := FiniteStore.AgreeOff (areas chargeAreas))
      (.bind (.lift _) fun _ => .bind (Modifies.delete rfl) fun _ => .bind (.lift _) fun _ =>
        .bind ((writeSubscription_areas _ _).widen rfl) fun _ =>
        .bind ((appendStatement_areas _ _ _ _ _ _ _).widen rfl) fun _ =>
        .bind ((writePeriodSnapshot_areas _).widen rfl) fun _ =>
        .bind (Modifies.store rfl) fun _ => .bind (Modifies.store rfl) fun _ =>
        (recordIdemKey_areas _ _ _).widen rfl) hrun
  exact ⟨s, credited, routed, paid, Std.Refl.refl s, hcredit, hroute,
    creditProtocolFee_pays treasury_of_protocolFee hpay, State.merchantBalance_of_areas hrest rfl⟩

/-- Counting usage changes none of the terms of its fee. -/
theorem usageTerms_of_counted (h : FiniteStore.AgreeOff (counterSlots id) s u)
    (merchant : Address) :
    u.routeFeeBps merchant = s.routeFeeBps merchant ∧ u.treasury = s.treasury := by
  have hterms : u.feeTerms = s.feeTerms :=
    State.feeTerms_of_agreeOff h (by simp [configSlots, counterSlots])
      (by simp [configSlots, counterSlots])
  have hfee : u.protocolFeeBps = s.protocolFeeBps := congrArg FeeTerms.feeBps hterms
  have hoverride : u.merchantFeeOverrideBps merchant = s.merchantFeeOverrideBps merchant :=
    h.read (by simp [counterSlots])
  refine ⟨?_, congrArg FeeTerms.treasury hterms⟩
  unfold State.routeFeeBps
  rw [hoverride, hfee]

theorem settleUsage_takes {pendingLifetime newBalance : Int} {reference : Bytes}
    (hcounted : FiniteStore.AgreeOff (counterSlots id) s u)
    (hrun : (settleUsage id sub amount pendingLifetime newBalance reference).run env u = .ok v t) :
    TakesFee env s t id sub .usage amount (s.feeTaken .usage sub.merchant amount) := by
  obtain ⟨hrate, htreasury⟩ := usageTerms_of_counted hcounted sub.merchant
  obtain ⟨_, hask, hrun⟩ := run_check_ok .ask hrun
  obtain ⟨rfl, -⟩ := run_ask_ok.mp hask
  obtain ⟨feeBps, hfeeBps, hrun⟩ := run_check_ok (.gets _) hrun
  obtain rfl := (run_gets_ok.mp hfeeBps).1
  obtain ⟨treasury, hstored, hrun⟩ := run_check_ok (.gets _) hrun
  obtain rfl := (run_gets_ok.mp hstored).1
  rw [hrate, htreasury] at hrun
  obtain ⟨⟨net, fee⟩, hsplit, hrun⟩ := run_check_ok (.lift _) hrun
  obtain ⟨rfl, rfl⟩ := splitFee_ok (run_lift_ok.mp hsplit).1
  obtain ⟨_, credited, hcredit, hrun⟩ := run_bind_ok.mp hrun
  obtain ⟨_, routed, hroute, hrun⟩ := run_bind_ok.mp hrun
  obtain ⟨_, paid, hpay, hrun⟩ := run_bind_ok.mp hrun
  have hrest : FiniteStore.AgreeOff (areas chargeAreas) paid t :=
    Exec.Keeps.ok (R := FiniteStore.AgreeOff (areas chargeAreas))
      (.bind (.lift _) fun _ => .bind ((writeSubscription_areas _ _).widen rfl) fun _ =>
        .bind (Modifies.store rfl) fun _ => .bind (.require _) fun _ =>
        .bind (.failIf _ _) fun _ => .bind (.okOr _ _) fun _ =>
        .bind ((writePeriodSnapshot_areas _).widen rfl) fun _ =>
        (appendStatement_areas _ _ _ _ _ _ _).widen rfl) hrun
  exact ⟨u, credited, routed, paid, hcounted, hcredit, hroute,
    creditProtocolFee_pays treasury_of_protocolFee hpay,
    State.merchantBalance_of_areas hrest rfl⟩

theorem settleOneOff_takes {charged : Int}
    (hrun : (settleOneOff id sub charged amount key).run env s = .ok v t) :
    TakesFee env s t id sub .oneOff amount (s.feeTaken .oneOff sub.merchant amount) := by
  obtain ⟨_, hask, hrun⟩ := run_check_ok .ask hrun
  obtain ⟨rfl, -⟩ := run_ask_ok.mp hask
  obtain ⟨newBalance, -, hrun⟩ := run_check_ok (.lift _) hrun
  obtain ⟨feeBps, hfeeBps, hrun⟩ := run_check_ok (.gets _) hrun
  obtain rfl := (run_gets_ok.mp hfeeBps).1
  obtain ⟨treasury, hstored, hrun⟩ := run_check_ok (.gets _) hrun
  obtain rfl := (run_gets_ok.mp hstored).1
  obtain ⟨⟨net, fee⟩, hsplit, hrun⟩ := run_check_ok (.lift _) hrun
  obtain ⟨rfl, rfl⟩ := splitFee_ok (run_lift_ok.mp hsplit).1
  obtain ⟨_, credited, hcredit, hrun⟩ := run_bind_ok.mp hrun
  obtain ⟨_, routed, hroute, hrun⟩ := run_bind_ok.mp hrun
  obtain ⟨_, paid, hpay, hrun⟩ := run_bind_ok.mp hrun
  have hrest : FiniteStore.AgreeOff (areas chargeAreas) paid t :=
    Exec.Keeps.ok (R := FiniteStore.AgreeOff (areas chargeAreas))
      (.bind (.lift _) fun _ => .bind ((appendStatement_areas _ _ _ _ _ _ _).widen rfl) fun _ =>
        (recordIdemKey_areas _ _ _).widen rfl) hrun
  exact ⟨s, credited, routed, paid, Std.Refl.refl s, hcredit, hroute,
    creditOneOffFee_pays treasury_of_protocolFee hpay, State.merchantBalance_of_areas hrest rfl⟩

theorem chargeOne_takes {result : ChargeExecutionResult}
    (hrun : (chargeOne id key none ∅).run env s = .ok result t) :
    (Charge.interval id key).Takes env s t (s.feeTaken .interval) := by
  have houtcome := chargeOne_outcome env s id key
  rw [hrun] at houtcome
  cases houtcome with
  | idle => exact .inl rfl
  | capped _ _ _ hcancel =>
    exact .inl (State.merchantBalance_of_areas ((cancelCapped_areas _ _).ok hcancel) rfl)
  | cancelled _ _ _ hcancel =>
    have hagree := (fireScheduledCancellation_areas _ _).ok hcancel
    exact .inl (State.merchantBalance_of_areas hagree rfl)
  | short _ _ hshort =>
    exact .inl (State.merchantBalance_of_areas ((recordShortfall_areas _ _ _).ok hshort) rfl)
  | settled hdue _ _ _ hsettle =>
    exact .inr ⟨_, _, hdue.found, hdue.priced, settleInterval_takes hsettle⟩

theorem chargeUsageOne_takes {reference : Bytes} {result : UsageChargeResult}
    (hrun : (chargeUsageOne id amount reference).run env s = .ok result t) :
    (Charge.usage id amount reference).Takes env s t (s.feeTaken .usage) := by
  have hcounter {counted : State} {rejected : Option UsageChargeResult} {sub : Subscription}
      (hlimits : (applyUsageLimits id sub amount).run env s = .ok rejected counted) :
      counted.merchantBalance = s.merchantBalance :=
    State.merchantBalance_of_areas ((applyUsageLimits_areas _ _ _).ok hlimits) rfl
  cases chargeUsageOne_outcome hrun with
  | refused => exact .inl rfl
  | rejected _ _ _ _ _ hlimits => exact .inl (hcounter hlimits)
  | capped _ hlimits _ hcancel =>
    refine .inl (Eq.trans ?_ (hcounter hlimits))
    exact State.merchantBalance_of_areas ((cancelCapped_areas _ _).ok hcancel) rfl
  | settled hdue hlimits _ _ _ hsettle =>
    exact .inr ⟨_, _, hdue.found, rfl,
      settleUsage_takes ((applyUsageLimits_counters _ _ _).ok hlimits) hsettle⟩
  | @unfit sub counted _ hlimits =>
    refine .inl (Eq.trans ?_ (hcounter hlimits))
    exact State.merchantBalance_of_areas (l := [.records]) (counted.agreeOff_write _ rfl) rfl

theorem doChargeOneOff_takes {merchant : Address}
    (hrun : (doChargeOneOff id merchant amount key).run env s = .ok v t) :
    (Charge.oneOff id merchant amount key).Takes env s t (s.feeTaken .oneOff) := by
  obtain ⟨_, hask, hrun⟩ := run_check_ok .ask hrun
  obtain ⟨rfl, -⟩ := run_ask_ok.mp hask
  obtain ⟨_, -, hrun⟩ := run_check_ok (Modifies.requireAuth _) hrun
  obtain ⟨sub, hget, hrun⟩ := run_check_ok (Modifies.getSubscription id) hrun
  obtain ⟨_, -, hrun⟩ := run_check_ok (Modifies.requireNotBlocklisted _) hrun
  obtain ⟨_, -, hrun⟩ := run_check_ok (Modifies.requireNotBlocklisted _) hrun
  obtain ⟨_, -, hrun⟩ := run_check_ok (Modifies.checkSplitPayees id) hrun
  obtain ⟨_, _, hexpired, hrun⟩ := run_bind_ok.mp hrun
  obtain ⟨-, rfl⟩ := run_failIfExpired_ok.mp hexpired
  obtain ⟨replayed, -, hrun⟩ := run_check_ok (.gets _) hrun
  rcases run_when_ok.mp hrun with ⟨-, hrun⟩ | ⟨-, rfl⟩
  · obtain ⟨charged, checked, hcheck, hsettle⟩ := run_bind_ok.mp hrun
    obtain rfl := checkOneOff_same hcheck
    exact .inr ⟨sub, amount, (run_getSubscription_ok.mp hget).1, rfl, settleOneOff_takes hsettle⟩
  · exact .inl rfl

/-- Every charge that goes through takes the fee of its kind, or nothing. -/
theorem Charge.takes {c : Charge} (hrun : c.exec.run env s = .ok () t) :
    c.Takes env s t (s.feeTaken c.kind) := by
  cases c with
  | interval id key =>
    obtain ⟨result, _, hcharge, hdone⟩ := run_bind_ok.mp hrun
    obtain ⟨-, rfl⟩ := run_pure_ok.mp hdone
    exact chargeOne_takes hcharge
  | usage id amount reference =>
    obtain ⟨result, _, hcharge, hdone⟩ := run_bind_ok.mp hrun
    obtain ⟨-, rfl⟩ := run_pure_ok.mp hdone
    exact chargeUsageOne_takes hcharge
  | oneOff => exact doChargeOneOff_takes hrun

/-- The charges of a batch take the fee that a single charge before the batch would. -/
theorem Charges.takes {charged : List ChargedItem} {item : ChargedItem}
    {result : ChargeExecutionResult} (h : Charges env s charged t) (hmem : item ∈ charged)
    (hresult : item.result = .ok result) :
    (Charge.interval item.item.1 item.item.2).Takes env item.before item.after
      (s.feeTaken .interval) := by
  obtain ⟨hagree, hrun⟩ := h.of_mem hmem
  rw [hresult] at hrun
  have hfee : item.before.feeTaken .interval = s.feeTaken .interval := by
    funext merchant amount
    unfold State.feeTaken State.feeRate
    rw [State.protocolFeeBps_of_chargeSlots hagree, State.treasury_of_chargeSlots hagree]
  rw [← hfee]
  rcases run_attempt_ok.mp hrun with ⟨_, heq, hcharge⟩ | ⟨_, heq, -⟩
  · obtain rfl := Except.ok.inj heq
    exact chargeOne_takes hcharge
  · cases heq

end Charges

/-! ## The rate in force -/

/-- The rate that a call would put in force. -/
def AdminCall.PutsInForce (call : AdminCall) (s : State) (rate : Nat) : Prop :=
  match call with
  | .queueTreasuryChange _ _ feeBps => feeBps = rate
  | .executeTreasuryChange _ => ∃ p, s.pendingTreasuryChange = some p ∧ p.newFeeBps = rate
  | .executeProposal id =>
    ∃ p, s.proposal id = some p ∧ p.kind = .setProtocolFee ∧ p.target3 = rate
  | _ => False

section Governed

variable {env : Env} {s t : State} {call : AdminCall} {g g' : Registry} {id now : Nat}
  {p : Proposal} {request : Request}

/-- The one proposal that execution marks. -/
theorem Registry.Executes.marks (h : g.Executes now id g') {j : Nat}
    (hstored : g.proposals j = some p) (hfresh : p.executed = false)
    (hmarked : g'.proposals j = some { p with executed := true }) : j = id := by
  by_contra hne
  have hkept : g'.proposals j = g.proposals j := by
    obtain ⟨q, -, ⟨-, admin, -, rfl⟩ | ⟨-, rfl⟩⟩ := h
    · exact Function.update_of_ne hne _ _
    · exact Function.update_of_ne hne _ _
  rw [hkept, hstored] at hmarked
  have hflag := congrArg Proposal.executed (Option.some.inj hmarked)
  rw [hfresh] at hflag
  cases hflag

/-- What an approved call marks executed was asked for by the call. -/
theorem Registry.Consumes.requested {asked : Registry} (h : g.Consumes now id g')
    (happroves : asked.Approves now request id) (hsame : asked.proposals = g.proposals) {j : Nat}
    (hstored : g.proposals j = some p) (hfresh : p.executed = false)
    (hmarked : g'.proposals j = some { p with executed := true }) : p.request = request := by
  rcases h with ⟨-, rfl⟩ | ⟨hpos, hexec⟩
  · rw [hstored] at hmarked
    have hflag := congrArg Proposal.executed (Option.some.inj hmarked)
    rw [hfresh] at hflag
    cases hflag
  · obtain rfl := hexec.marks hstored hfresh hmarked
    rcases happroves with ⟨-, hzero⟩ | ⟨-, q, hmatching, -⟩
    · exact absurd hzero hpos
    · obtain ⟨hfound, hrequest, -⟩ := Registry.matching_spec hmatching
      rw [hsame, hstored] at hfound
      rw [Option.some.inj hfound]
      exact hrequest

/-- A fee proposal is only executed for its own sake or for the change it approves. -/
theorem AdminCall.Effect.putsInForce (h : call.Effect env s g)
    (hcall : call.isGovernance = false) (hstored : s.proposal id = some p)
    (hkind : p.kind = .setProtocolFee) (hfresh : p.executed = false)
    (hmarked : g.proposals id = some { p with executed := true }) :
    call.PutsInForce s p.target3 := by
  have hstored' : s.registry.proposals id = some p := hstored
  have hmarks {P : Prop} (hsame : g.proposals = s.registry.proposals) : P := by
    rw [hsame, hstored'] at hmarked
    have hflag := congrArg Proposal.executed (Option.some.inj hmarked)
    rw [hfresh] at hflag
    cases hflag
  cases call with
  | proposeAdmin | claimAdminRole | cancelAdminProposal | submitProposal | voteProposal
  | cancelProposal | addGuardian | removeGuardian => cases hcall
  | init =>
    refine hmarks ?_
    rw [h.2]
  | executeTreasuryChange | cancelTreasuryChange =>
    have hsame : g = s.registry := h
    exact hmarks (congrArg Registry.proposals hsame)
  | executeProposal j =>
    have hexec : s.registry.Executes env.now j g := h
    obtain rfl := hexec.marks hstored' hfresh hmarked
    exact ⟨p, hstored, hkind, rfl⟩
  | rotateAdmin =>
    obtain ⟨-, j, admin, happroves, -, hconsumes⟩ := h
    have hrequest := hconsumes.requested happroves rfl hstored' hfresh hmarked
    have hrotates := congrArg Request.kind hrequest
    exact nomatch hkind.symm.trans hrotates
  | recoverStrandedFunds | queueTreasuryChange | addAcceptedToken | removeAcceptedToken
  | enableEmergencyStop | disableEmergencyStop =>
    simp only [AdminCall.Effect] at h
    split at h
    · rename_i request hasked
      obtain ⟨-, j, happroves, hconsumes⟩ := h
      have hrequest := hconsumes.requested happroves rfl hstored' hfresh hmarked
      unfold AdminCall.request? at hasked
      grind [AdminCall.PutsInForce, Proposal.request]
    · exact hmarks (congrArg Registry.proposals h)

/-- A call keeps the rate or puts one in force that can be read off its arguments and the
state. -/
theorem AdminCall.rate_after (hs : s.Settled) (hrun : call.exec.run env s = .ok () t) :
    t.protocolFeeBps = s.protocolFeeBps ∨ call.PutsInForce s t.protocolFeeBps := by
  by_cases hcall : call.isGovernance = true
  · exact .inl (congrArg FeeTerms.feeBps
      (State.feeTerms_of_termsFree ((AdminCall.termsFree hcall).ok hrun)))
  have hgoverned (w : State) (hsame : w.proposal = s.proposal) (h : Governed env w t) :
      call.PutsInForce s t.protocolFeeBps := by
    obtain ⟨id, p, hstored, hkind, hfresh, -, hmarked, hterms⟩ := h
    have hrate : t.protocolFeeBps = p.target3 := congrArg FeeTerms.feeBps hterms
    rw [hrate]
    exact (adminCall_effect hrun).putsInForce (by simpa using hcall) (hsame ▸ hstored) hkind
      hfresh hmarked
  rcases AdminCall.fees hs hrun with ⟨hfollow, -⟩ |
    ⟨admin, treasury, feeBps, rfl, -, -, -, w, hfollow, hterms, hsame⟩ |
    ⟨admin, p, rfl, hpending, -, -, -, hterms⟩ | ⟨admin, rfl, -, -, hterms⟩
  · rcases hfollow.terms with hkept | h
    · exact .inl (congrArg FeeTerms.feeBps hkept)
    · exact .inr (hgoverned s rfl h)
  · rcases hfollow.terms with hkept | h
    · exact .inr (congrArg FeeTerms.feeBps (hkept.trans hterms)).symm
    · exact .inr (hgoverned w hsame h)
  · exact .inr ⟨p, hpending, (congrArg FeeTerms.feeBps hterms).symm⟩
  · exact .inl (congrArg FeeTerms.feeBps hterms)

end Governed

/-! ## Runs -/

/-- A call of the vault, an administration call, or a change of a fee override. -/
inductive RateAction where
  | call (env : Env) (call : VaultCall)
  | admin (env : Env) (call : AdminCall)
  | setOverride (env : Env) (admin merchant : Address) (feeBps : Nat)
  | clearOverride (env : Env) (admin merchant : Address)
  /-- An entrypoint that is not listed, a transfer of tokens outside the vault, or nothing. -/
  | other (env : Env)

/-- All slots but those the rates are read from. -/
def ratesFree : Set Slot :=
  {k | k.isFeeSlot = false ∧ ∀ merchant, k ≠ .instanced (.merchantFeeBps merchant)}

inductive RateStep : RateAction → State → State → Prop
  | call {env : Env} {call : VaultCall} {s t : State} :
      call.exec.run env s = .ok () t → RateStep (.call env call) s t
  | admin {env : Env} {call : AdminCall} {s t : State} :
      call.exec.run env s = .ok () t → RateStep (.admin env call) s t
  | setOverride {env : Env} {admin merchant : Address} {feeBps : Nat} {s t : State} :
      (setMerchantFeeOverride admin merchant feeBps).run env s = .ok () t →
      RateStep (.setOverride env admin merchant feeBps) s t
  | clearOverride {env : Env} {admin merchant : Address} {s t : State} :
      (clearMerchantFeeOverride admin merchant).run env s = .ok () t →
      RateStep (.clearOverride env admin merchant) s t
  | other {env : Env} {s t : State} :
      FiniteStore.AgreeOff (areas foreignAreas ∩ ratesFree) s t → RateStep (.other env) s t

/-- No merchant's override is above the rate. -/
def State.OverridesWithin (s : State) (rate : Nat) : Prop :=
  ∀ merchant override, s.merchantFeeOverrideBps merchant = some override → override ≤ rate

/-- The call puts no rate in force that is below an override. -/
def RateAction.SparesOverrides (l : RateAction) (s : State) : Prop :=
  match l with
  | .admin _ c => ∀ rate, c.PutsInForce s rate → s.OverridesWithin rate
  | _ => True

section Runs

variable {start s t : State} {hist : History RateAction State} {l : RateAction} {env : Env}

/-- Of the calls that may write settings, none succeeds on a settled vault and changes them. -/
theorem VaultCall.feesKept {call : VaultCall} (hs : s.Settled)
    (hrun : call.exec.run env s = .ok () t) : FeesKept s t := by
  by_cases hcall : call.areas.contains .settings = false
  · cases FeeStep.of_call hs hcall hrun with
    | other hkept => exact hkept
  · cases call
    case init => exact (doInit_settled hs hrun).elim
    case migrate =>
      obtain rfl := doMigrate_settled hs hrun
      exact ⟨rfl, rfl, rfl, rfl, rfl⟩
    case migrateConfigToPersistent => exact (migrateConfigToPersistent_settled hs hrun).elim
    all_goals exact absurd rfl hcall

theorem FeesKept.rate (h : FeesKept s t) : t.protocolFeeBps = s.protocolFeeBps :=
  congrArg FeeTerms.feeBps h.terms

theorem FeesKept.of_feeFree (h : FiniteStore.AgreeOff feeFree s t) : FeesKept s t where
  version := State.schemaVersion_of_agreeOff h (by simp [Slot.isFeeSlot, Slot.isTermSlot])
    (by simp [Slot.isFeeSlot, Slot.isTermSlot])
  token := State.config_of_agreeOff h (by simp [configSlots, Slot.isFeeSlot, Slot.isTermSlot])
  terms := State.feeTerms_of_feeFree h
  pending := State.pendingTreasuryChange_of_feeFree h
  proposals := State.proposal_of_feeFree h

/-- A write of an override is none of the protocol's terms. -/
theorem feesKept_of_override {merchant : Address}
    (h : FiniteStore.AgreeOff {.instanced (.merchantFeeBps merchant)} s t) : FeesKept s t := by
  refine .of_feeFree (h.mono ?_)
  rintro k rfl
  rfl

theorem setMerchantFeeOverride_modifies (admin merchant : Address) (feeBps : Nat) :
    Modifies {.instanced (.merchantFeeBps merchant)}
      (setMerchantFeeOverride admin merchant feeBps) :=
  .bind (Modifies.requireAdminAuth _) fun _ => .bind (.failIf _ _) fun _ => .bind (.gets _)
    fun _ => .bind (.failIf _ _) fun _ => Modifies.store rfl

theorem clearMerchantFeeOverride_modifies (admin merchant : Address) :
    Modifies {.instanced (.merchantFeeBps merchant)} (clearMerchantFeeOverride admin merchant) :=
  .bind (Modifies.requireAdminAuth _) fun _ => Modifies.delete rfl

theorem setMerchantFeeOverride_kept {admin merchant : Address} {feeBps : Nat} {u : Unit}
    (hrun : (setMerchantFeeOverride admin merchant feeBps).run env s = .ok u t) :
    FeesKept s t :=
  feesKept_of_override ((setMerchantFeeOverride_modifies _ _ _).ok hrun)

theorem clearMerchantFeeOverride_kept {admin merchant : Address} {u : Unit}
    (hrun : (clearMerchantFeeOverride admin merchant).run env s = .ok u t) : FeesKept s t :=
  feesKept_of_override ((clearMerchantFeeOverride_modifies _ _).ok hrun)

/-- The settings of the protocol's fee take the steps that administration takes. -/
theorem RateStep.feeStep (hs : s.Settled) (hstep : RateStep l s t) : ∃ fee, FeeStep fee s t := by
  cases hstep with
  | call hrun => exact ⟨_, .other (VaultCall.feesKept hs hrun)⟩
  | admin hrun => exact ⟨_, .call hrun⟩
  | setOverride hrun => exact ⟨_, .other (setMerchantFeeOverride_kept hrun)⟩
  | clearOverride hrun => exact ⟨_, .other (clearMerchantFeeOverride_kept hrun)⟩
  | other hagree => exact ⟨_, .other (.of_feeFree (hagree.mono fun _ hk => hk.2.1))⟩

theorem RateStep.settled (hs : s.Settled) (hstep : RateStep l s t) : t.Settled := by
  cases hstep with
  | call hrun => exact (VaultCall.feesKept hs hrun).settled hs
  | admin hrun =>
    rcases AdminCall.fees hs hrun with ⟨hfollow, -⟩ | ⟨_, _, _, _, _, hsettled, -⟩ |
      ⟨_, _, _, _, _, hsettled, -⟩ | ⟨_, _, hsettled, -⟩
    · exact hfollow.settled
    · exact hsettled
    · exact hsettled
    · exact hsettled
  | setOverride hrun => exact (setMerchantFeeOverride_kept hrun).settled hs
  | clearOverride hrun => exact (clearMerchantFeeOverride_kept hrun).settled hs
  | other hagree => exact hs.of_feeFree (hagree.mono fun _ hk => hk.2.1)

/-- An override found after a step was there before it or is held against the rate by it. -/
theorem RateStep.override_after (hstep : RateStep l s t) {merchant : Address} {override : Nat}
    (hset : t.merchantFeeOverrideBps merchant = some override) :
    s.merchantFeeOverrideBps merchant = some override ∨
      override ≤ s.protocolFeeBps ∧ override ≤ 10000 ∧ t.protocolFeeBps = s.protocolFeeBps := by
  cases hstep with
  | call hrun =>
    rw [← hset]
    exact .inl (VaultCall.read_merchants (k := .instanced (.merchantFeeBps merchant)) hrun rfl
      rfl).symm
  | @admin env call _ _ hrun =>
    rw [← hset]
    exact .inl (State.read_of_areas (k := .instanced (.merchantFeeBps merchant))
      ((AdminCall.modifies_areas call).ok hrun) rfl).symm
  | @setOverride env admin changed feeBps _ _ hrun =>
    have hterms := setMerchantFeeOverride_kept hrun
    obtain ⟨_, -, hrun⟩ := run_check_ok (Modifies.requireAdminAuth _) hrun
    obtain ⟨_, hwithinMax, hrun⟩ := run_check_ok (.failIf _ _) hrun
    obtain ⟨rate, hrate, hrun⟩ := run_check_ok (.gets _) hrun
    obtain rfl := (run_gets_ok.mp hrate).1
    obtain ⟨_, hwithinRate, hrun⟩ := run_check_ok (.failIf _ _) hrun
    have hmax : ¬maxFeeBips < (feeBps : Int) := (run_failIf_ok.mp hwithinMax).1
    have hle : feeBps ≤ s.protocolFeeBps := Nat.not_lt.mp (run_failIf_ok.mp hwithinRate).1
    obtain rfl := run_store_ok.mp hrun
    by_cases hself : merchant = changed
    · subst hself
      have hstored : some feeBps = some override :=
        (FiniteStore.read_write_self s _).symm.trans hset
      obtain rfl := Option.some.inj hstored
      refine .inr ⟨hle, ?_, hterms.rate⟩
      unfold maxFeeBips at hmax
      omega
    · exact .inl ((FiniteStore.read_write_of_ne s _ (by simp [hself])).symm.trans hset)
  | @clearOverride env admin changed _ _ hrun =>
    obtain ⟨_, -, hrun⟩ := run_check_ok (Modifies.requireAdminAuth _) hrun
    obtain rfl := run_delete_ok.mp hrun
    by_cases hself : merchant = changed
    · subst hself
      have hgone : none = some override := (FiniteStore.read_remove_self s).symm.trans hset
      cases hgone
    · exact .inl ((FiniteStore.read_remove_of_ne s (by simp [hself])).symm.trans hset)
  | other hagree =>
    have hkept : t.merchantFeeOverrideBps merchant = s.merchantFeeOverrideBps merchant :=
      hagree.read fun hk => hk.2.2 merchant rfl
    exact .inl (hkept.symm.trans hset)

/-- Only a call of the administration puts another rate in force. -/
theorem RateStep.rate_after (hs : s.Settled) (hstep : RateStep l s t) :
    t.protocolFeeBps = s.protocolFeeBps ∨
      ∃ env call, l = .admin env call ∧ call.PutsInForce s t.protocolFeeBps := by
  cases hstep with
  | call hrun => exact .inl (VaultCall.feesKept hs hrun).rate
  | admin hrun =>
    rcases AdminCall.rate_after hs hrun with hrate | hputs
    · exact .inl hrate
    · exact .inr ⟨_, _, rfl, hputs⟩
  | setOverride hrun => exact .inl (setMerchantFeeOverride_kept hrun).rate
  | clearOverride hrun => exact .inl (clearMerchantFeeOverride_kept hrun).rate
  | other hagree => exact .inl (FeesKept.of_feeFree (hagree.mono fun _ hk => hk.2.1)).rate

/-- One step keeps the overrides at or below the rate. -/
theorem RateStep.overridesWithin (hs : s.Settled) (hwithin : s.OverridesWithin s.protocolFeeBps)
    (hspares : l.SparesOverrides s) (hstep : RateStep l s t) :
    t.OverridesWithin t.protocolFeeBps := by
  intro merchant override hset
  rcases hstep.override_after hset with hold | ⟨hle, -, hrate⟩
  · rcases hstep.rate_after hs with hrate | ⟨env, call, rfl, hputs⟩
    · rw [hrate]
      exact hwithin merchant override hold
    · exact hspares _ hputs merchant override hold
  · rw [hrate]
    exact hle

theorem Deployed.overridesWithin (hdeployed : Deployed start) (rate : Nat) :
    start.OverridesWithin rate := by
  intro merchant override hset
  have hnone : start.merchantFeeOverrideBps merchant = none :=
    State.read_of_areas (k := .instanced (.merchantFeeBps merchant)) hdeployed.areas rfl
  rw [hnone] at hset
  cases hset

theorem overridesWithin_of_run (hdeployed : Deployed start) (hrun : Run RateStep start hist s)
    (hspares : ∀ step ∈ hist, step.1.SparesOverrides step.2) :
    s.OverridesWithin s.protocolFeeBps := by
  refine (hrun.invariant (I := fun hist s => s.Settled ∧
    ((∀ step ∈ hist, step.1.SparesOverrides step.2) → s.OverridesWithin s.protocolFeeBps))
    ⟨hdeployed.settled, fun _ => hdeployed.overridesWithin _⟩ fun hist s l t h hstep => ?_).2 hspares
  refine ⟨hstep.settled h.1, fun hall => ?_⟩
  have hearlier := h.2 fun step hmem => hall step (List.mem_cons_of_mem _ hmem)
  exact hstep.overridesWithin h.1 hearlier (hall _ List.mem_cons_self)

theorem sample_rates (gracePeriod : Nat) : Run RateStep (sampleStart gracePeriod)
    [(.other (sampleEnv 0 []), sampleStart gracePeriod)] (afterCalls (sampleVault gracePeriod)) := by
  refine Run.start.next (.other ((sample_slots gracePeriod).mono ?_))
  rintro k (rfl | rfl) <;> exact ⟨rfl, rfl, fun _ => by simp⟩

theorem run_rateCalls (hrun : Run RateStep start hist s) {calls : List (Env × VaultCall)}
    (h : allSucceed s calls = true) : ∃ later, Run RateStep start later (stateAfter s calls) := by
  induction calls with
  | nil => exact ⟨hist, hrun⟩
  | cons entry earlier ih =>
    simp only [allSucceed, Bool.and_eq_true] at h
    obtain ⟨later, hlater⟩ := ih h.1
    exact ⟨_, hlater.next (.call (run_eq_after h.2))⟩

private abbrev feeQueued : AdminCall := .queueTreasuryChange ⟨8⟩ ⟨7⟩ 500

/-- A protocol fee of five percent for treasury 7. -/
private def feeVault : State :=
  feeQueued.exec.after (sampleEnv 0 [⟨8⟩]) (afterCalls (sampleVault 0))

private theorem feeVault_run : Run RateStep (sampleStart 0)
    [(.admin (sampleEnv 0 [⟨8⟩]) feeQueued, afterCalls (sampleVault 0)),
      (.other (sampleEnv 0 []), sampleStart 0)] feeVault :=
  (sample_rates 0).next (.admin (run_eq_after (by decide +kernel)))

private def paidCalls : List (Env × VaultCall) :=
  [(sampleEnv 0 [⟨2⟩], .depositFunds 0 50 none),
   (sampleEnv 0 [⟨2⟩], .createSubscription sampleRequest)]

/-- Merchant 1 is to pay no fee, and has a subscription that is paid for. -/
private def feelessVault : State :=
  (setMerchantFeeOverride ⟨8⟩ ⟨1⟩ 0).after (sampleEnv 0 [⟨8⟩]) (stateAfter feeVault paidCalls)

/-- Merchant 1 pays two percent where everyone else now pays one. -/
private def loweredVault : State :=
  (AdminCall.queueTreasuryChange ⟨8⟩ ⟨7⟩ 100).exec.after (sampleEnv 30000 [⟨8⟩])
    ((AdminCall.cancelTreasuryChange ⟨8⟩).exec.after (sampleEnv 0 [⟨8⟩])
      ((setMerchantFeeOverride ⟨8⟩ ⟨1⟩ 200).after (sampleEnv 0 [⟨8⟩]) feeVault))

end Runs

end SubscriptionVault
