import SubscriptionVault.Charging.ChargeAccounting
import SubscriptionVault.Charging.OracleFees
import SubscriptionVault.Charging.UsageReferences

/-!
# What a usage charge reports

A usage charge that reports an amount as charged should have moved exactly that amount, and any
other should leave everything as it was. Three ends are different: usage beyond the lifetime cap
cancels the subscription and is reported as charged, usage beyond the cap of a period is rejected
after the counters have entered that period, and a fee that is converted is credited in another
token.
-/

namespace SubscriptionVault

open Exec

/-! ## What is moved -/

/-- The merchant, the payees it is split between, and the treasury. -/
def State.SharesIn (s : State) (id : Nat) (sub : Subscription) (holder : Address) : Prop :=
  s.IsPayee id sub holder ∨ holder = sub.merchant ∨ s.treasury = some holder

/-- All slots but the balances of others. -/
def ownSlots (id : Nat) (merchant : Address) (shares : Address → Prop) : Set Slot :=
  {k | match k with
    | .persistent (.sub i) => i = id
    | .instanced (.merchantBalance holder _) => shares holder
    | .instanced (.merchantSubAccount holder _) | .subAccountFunds holder _ _ => holder = merchant
    | .tokenBalance _ _ => False
    | _ => True}

/-- The usage leaves the prepaid balance, counts as charged, and is credited in the settlement
token to the merchant, its payees and the treasury. -/
structure MovesUsage (s t : State) (id : Nat) (amount : Int) (before after : Subscription) :
    Prop where
  found : s.subscription id = some before
  stored : t.subscription id = some after
  debited : after.prepaidBalance = before.prepaidBalance - amount
  counted : after.lifetimeCharged = before.lifetimeCharged + amount
  credited : ∀ token, t.credited token = s.credited token + inToken token before.token amount
  others : FiniteStore.AgreeOff (ownSlots id before.merchant (s.SharesIn id before)) s t

/-- The amount is reported as charged just if it is moved, under a new reference that is kept, and
nothing changes if it is not. -/
def HonestUsage (s t : State) (id : Nat) (amount : Int) (reference : Bytes)
    (result : UsageChargeResult) : Prop :=
  (result = .charged ↔ ∃ before after, MovesUsage s t id amount before after) ∧
  (result = .charged → ¬s.usageSeen id reference ∧ t.usageSeen id reference) ∧
  (result ≠ .charged → t = s)

/-! ## When it is -/

/-- Due usage goes beyond the lifetime cap. -/
def PassesLifetimeCap (env : Env) (s : State) (id : Nat) (amount : Int) (reference : Bytes) :
    Prop :=
  ∃ sub, UsageDue env s id sub amount reference ∧ s.LimitsUsable id sub ∧
    InI128 (sub.lifetimeCharged + amount) ∧ sub.capExceededBy amount = true

/-- Usage is the first in its period and goes beyond the cap of the period. -/
def PassesPeriodCap (env : Env) (s : State) (id : Nat) (amount : Int) (reference : Bytes) :
    Prop :=
  ∃ sub, UsageChecked env s id sub amount reference ∧ s.LimitsUsable id sub ∧
    s.usageRejection id sub amount env.now = some .usageCapExceeded ∧
    s.entersUsagePeriod id sub env.now

/-- The subscription is cancelled, and but for that only its usage is counted. -/
def CancelsUncharged (env : Env) (s t : State) (id : Nat) : Prop :=
  FiniteStore.AgreeOff {.instanced (.usageState id), .persistent (.sub id)} s t ∧
    ∃ sub, s.effectiveSubscription id env.now = some sub ∧
      t.subscription id = some { sub with status := .cancelled }

/-- The fee of due usage is not converted. -/
def FeeStays (env : Env) (s : State) (id : Nat) (amount : Int) (reference : Bytes) : Prop :=
  ∀ sub, UsageDue env s id sub amount reference →
    0 < s.feeTaken .usage sub.merchant amount →
    ∀ conversion, s.convertFee env sub.token (s.feeTaken .usage sub.merchant amount) =
      some conversion → conversion.targetToken = none

/-! ## Slots -/

section Slots

variable {env : Env} {s t u : State} {id : Nat} {sub : Subscription} {merchant tok : Address}
  {shares : Address → Prop} {amount net : Int} {kind : BillingChargeKind} {v : Unit}

theorem areas_subset_ownSlots {l : List Area} (hrecords : l.contains .records = false)
    (hbalances : l.contains .balances = false) (hsubAccounts : l.contains .subAccounts = false)
    (htokens : l.contains .tokens = false) : areas l ⊆ ownSlots id merchant shares := by
  intro k hk
  have hk : l.contains k.area = true := hk
  have hout {a : Area} (harea : k.area = a) (hnot : l.contains a = false) : False := by
    rw [harea, hnot] at hk
    cases hk
  cases k with
  | persistent key =>
    cases key
    case sub => exact (hout rfl hrecords).elim
    all_goals trivial
  | instanced key =>
    cases key
    case merchantBalance => exact (hout rfl hbalances).elim
    case merchantSubAccount => exact (hout rfl hsubAccounts).elim
    all_goals trivial
  | tokenBalance => exact (hout rfl htokens).elim
  | subAccountFunds => exact (hout rfl hsubAccounts).elim
  | _ => trivial

theorem creditMerchantBalanceForToken_own {payee : Address} (h : shares payee) :
    Modifies (ownSlots id merchant shares)
      (creditMerchantBalanceForToken payee tok amount kind) :=
  .bind (.failIf _ _) fun _ => .bind (.gets _) fun _ => .bind (.lift _) fun _ =>
    .bind (Modifies.store h) fun _ => .bind (.gets _) fun _ => .bind (.lift _) fun _ =>
    .bind (Modifies.store trivial) fun _ =>
    .bind (.bind (.gets _) fun _ => .when (Modifies.store trivial)) fun _ => .pure _

theorem creditShares_own {payees : List (Address × Nat)}
    (h : ∀ payee ∈ payees, shares payee.1) (total : Int) :
    Modifies (ownSlots id merchant shares) (creditShares tok net kind payees total) := by
  induction payees generalizing total with
  | nil => exact .pure _
  | cons payee payees ih =>
    have hfirst := h payee List.mem_cons_self
    have hothers := fun other hmem => h other (List.mem_cons_of_mem _ hmem)
    exact .bind (.lift _) fun _ => .bind (creditMerchantBalanceForToken_own hfirst) fun _ =>
      ih hothers _

theorem creditChargePayees_own (h : ∀ payee, s.IsPayee id sub payee → shares payee)
    (hrun : (creditChargePayees id sub net kind).run env s = .ok v t) :
    FiniteStore.AgreeOff (ownSlots id merchant shares) s t := by
  unfold State.IsPayee at h
  obtain ⟨split, hsplit, hrun⟩ := run_check_ok (.gets _) hrun
  obtain rfl := (run_gets_ok.mp hsplit).1
  cases hpayees : s.splitPayees id with
  | none =>
    rw [hpayees] at h hrun
    exact (creditMerchantBalanceForToken_own (h _ rfl)).ok hrun
  | some split =>
    rw [hpayees] at h hrun
    obtain ⟨_, entries, _, hweight⟩ := split
    cases entries with
    | nil => cases hweight
    | cons first others =>
      have hmember (entry : Address × Nat) (hmem : entry ∈ first :: others) : shares entry.1 :=
        h _ (List.mem_map_of_mem hmem)
      have hfirst := hmember first List.mem_cons_self
      have hothers := fun other hmem => hmember other (List.mem_cons_of_mem _ hmem)
      have hmod : Modifies (ownSlots id merchant shares) (do
          let distributed ← creditShares sub.token net kind others 0
          creditMerchantBalanceForToken first.1 sub.token (wrapI128 (net - distributed)) kind) :=
        .bind (creditShares_own hothers 0) fun _ => creditMerchantBalanceForToken_own hfirst
      exact hmod.ok hrun

theorem routeToSubAccount_own (h : shares sub.merchant) :
    Modifies (ownSlots id sub.merchant shares) (routeToSubAccount sub net) := by
  refine .whenSome fun label => .bind ?_ fun _ => .bind (.gets _) fun _ => .bind (.lift _)
    fun _ => Modifies.store h
  exact .bind (.failIf _ _) fun _ => .bind (.bind Modifies.load fun _ => .failIf _ _) fun _ =>
    .bind (.gets _) fun _ => .bind (.lift _) fun _ => .bind (Modifies.store rfl) fun _ =>
    .bind (.gets _) fun _ => Modifies.store rfl

theorem creditProtocolFee_own {fee : Int} {treasury : Option Address}
    (h : ∀ payee, treasury = some payee → shares payee) :
    Modifies (ownSlots id merchant shares) (creditProtocolFee tok fee treasury kind) := by
  refine .when (.bind .ask fun _ => .bind (.gets _) fun _ => .bind (.unwrap _) fun _ => ?_)
  cases treasury with
  | none => exact .pure _
  | some payee => exact creditMerchantBalanceForToken_own (h payee rfl)

/-- Settling usage changes the balances of those who share in it. -/
theorem settleUsage_own {pendingLifetime newBalance : Int} {reference : Bytes}
    (hrun : (settleUsage id sub amount pendingLifetime newBalance reference).run env s = .ok v t) :
    FiniteStore.AgreeOff (ownSlots id sub.merchant (s.SharesIn id sub)) s t := by
  obtain ⟨_, -, hrun⟩ := run_check_ok .ask hrun
  obtain ⟨_, -, hrun⟩ := run_check_ok (.gets _) hrun
  obtain ⟨treasury, hstored, hrun⟩ := run_check_ok (.gets _) hrun
  obtain rfl := (run_gets_ok.mp hstored).1
  obtain ⟨split, -, hrun⟩ := run_check_ok (.lift _) hrun
  obtain ⟨_, credited, hcredit, hrun⟩ := run_bind_ok.mp hrun
  have hcredited : FiniteStore.AgreeOff (ownSlots id sub.merchant (s.SharesIn id sub)) s credited :=
    creditChargePayees_own (fun payee hpayee => .inl hpayee) hcredit
  have hstatements : areas [.statements] ⊆ ownSlots id sub.merchant (s.SharesIn id sub) :=
    areas_subset_ownSlots rfl rfl rfl rfl
  have hmark : Slot.symbol (.usageRef id reference) ∈
      ownSlots id sub.merchant (s.SharesIn id sub) := trivial
  exact hcredited.trans <| Exec.Keeps.ok
    (R := FiniteStore.AgreeOff (ownSlots id sub.merchant (s.SharesIn id sub)))
    (.bind (routeToSubAccount_own (.inr (.inl rfl))) fun _ =>
      .bind (creditProtocolFee_own fun payee hpayee => .inr (.inr hpayee)) fun _ =>
      .bind (.lift _) fun _ => .bind (Modifies.store rfl) fun _ =>
      .bind (Modifies.store hmark) fun _ => .bind (.require _) fun _ =>
      .bind (.failIf _ _) fun _ => .bind (.okOr _ _) fun _ =>
      .bind ((writePeriodSnapshot_areas _).weaken hstatements) fun _ =>
      (appendStatement_areas _ _ _ _ _ _ _).weaken hstatements) hrun

end Slots

/-! ## Credits -/

section Credited

variable {env : Env} {s t u : State} {id : Nat} {sub : Subscription} {tok : Address}
  {amount fee : Int} {kind : BillingChargeKind} {treasury : Option Address} {v : Unit}

/-- A fee is converted into another token only. -/
theorem State.convertFee_target_ne {conversion : FeeConversion} {target : Address}
    (h : s.convertFee env tok fee = some conversion)
    (htarget : conversion.targetToken = some target) : target ≠ tok := by
  unfold State.convertFee at h
  split at h
  · obtain rfl := Option.some.inj h
    cases htarget
  rename_i configured hconfigured
  split at h
  · obtain rfl := Option.some.inj h
    cases htarget
  rename_i hdiffers
  split at h
  · obtain rfl := Option.some.inj h
    cases htarget
  obtain ⟨price, -, rfl⟩ := Option.map_eq_some_iff.mp h
  cases price with
  | error => cases htarget
  | ok price =>
    dsimp only at htarget
    split at htarget
    · obtain rfl := Option.some.inj htarget
      exact hdiffers
    · cases htarget

theorem creditProtocolFee_credited (hfee : 0 < fee) (htreasury : treasury.isSome)
    (hrun : (creditProtocolFee tok fee treasury kind).run env s = .ok v t) :
    ∃ conversion, s.convertFee env tok fee = some conversion ∧
      ∀ token, t.credited token = s.credited token +
        inToken token (conversion.targetToken.getD tok) conversion.effectiveAmount := by
  rw [run_creditProtocolFee_of_pos hfee] at hrun
  obtain ⟨conversion, hconversion, hrun⟩ := run_check_ok (.unwrap _) hrun
  have hconversion := (run_unwrap_ok.mp hconversion).1
  obtain ⟨payee, rfl⟩ := Option.isSome_iff_exists.mp htreasury
  exact ⟨conversion, hconversion, (creditMerchantBalanceForToken_credited hrun).2⟩

/-- What settling credits: the whole amount, or what the fee leaves of it and what the fee is
worth. -/
theorem settleUsage_credited {pendingLifetime newBalance : Int} {reference : Bytes}
    (hcounted : FiniteStore.AgreeOff (counterSlots id) s u) (hamount : 0 < amount)
    (hrate : s.routeFeeBps sub.merchant ≤ 10000)
    (hrun : (settleUsage id sub amount pendingLifetime newBalance reference).run env u = .ok v t) :
    s.feeTaken .usage sub.merchant amount = 0 ∧
        (∀ token, t.credited token = s.credited token + inToken token sub.token amount) ∨
      0 < s.feeTaken .usage sub.merchant amount ∧ ∃ conversion,
        s.convertFee env sub.token (s.feeTaken .usage sub.merchant amount) = some conversion ∧
        ∀ token, t.credited token = s.credited token +
          inToken token sub.token (amount - s.feeTaken .usage sub.merchant amount) +
          inToken token (conversion.targetToken.getD sub.token) conversion.effectiveAmount := by
  obtain ⟨hsameRate, hsameTreasury⟩ := usageTerms_of_counted hcounted sub.merchant
  have hlogged : counterSlots id ⊆ logSlots := by
    rintro k rfl
    rfl
  have hstart (token : Address) : u.credited token = s.credited token :=
    FiniteStore.total_of_agreeOff hcounted fun k hk w =>
      logSlots_subset_uncredited (hlogged hk) token w
  obtain ⟨_, -, hrun⟩ := run_check_ok .ask hrun
  obtain ⟨feeBps, hfeeBps, hrun⟩ := run_check_ok (.gets _) hrun
  obtain rfl := (run_gets_ok.mp hfeeBps).1
  obtain ⟨stored, hstored, hrun⟩ := run_check_ok (.gets _) hrun
  obtain rfl := (run_gets_ok.mp hstored).1
  rw [hsameRate, hsameTreasury] at hrun
  obtain ⟨⟨net, fee⟩, hsplit, hrun⟩ := run_check_ok (.lift _) hrun
  have hsplit := (run_lift_ok.mp hsplit).1
  obtain ⟨_, hsub, -⟩ := except_bind_ok.mp hsplit
  have hfits := (safeSub_ok.mp hsub).2
  obtain ⟨hfee, rfl⟩ := splitFee_ok hsplit
  obtain ⟨hnonneg, hle⟩ : 0 ≤ protocolFee amount (s.routeFeeBps sub.merchant) s.treasury ∧ _ :=
    protocolFee_bounds hamount hrate
  have htreasury : 0 < fee → s.treasury.isSome := fun hpositive =>
    treasury_of_protocolFee (hfee ▸ hpositive)
  rw [hfee] at hnonneg hle hfits
  have htaken : s.feeTaken .usage sub.merchant amount = fee := hfee
  rw [htaken]
  obtain ⟨_, credited, hcredit, hrun⟩ := run_bind_ok.mp hrun
  obtain ⟨_, routed, hroute, hrun⟩ := run_bind_ok.mp hrun
  obtain ⟨_, paid, hpay, hrun⟩ := run_bind_ok.mp hrun
  have hpayees (token : Address) : routed.credited token = s.credited token +
      inToken token sub.token (amount - fee) := by
    have hnet : 0 ≤ amount - fee := by omega
    rw [routeToSubAccount_credited hroute, creditChargePayees_credited hnet hfits hcredit, hstart]
  have hrest (token : Address) : t.credited token = paid.credited token :=
    Modifies.credited (.bind (.lift _) fun _ => .bind (Modifies.store fun _ _ => rfl) fun _ =>
      .bind (Modifies.store fun _ _ => rfl) fun _ => .bind (.require _) fun _ =>
      .bind (.failIf _ _) fun _ => .bind (.okOr _ _) fun _ =>
      .bind ((Modifies.writePeriodSnapshot _).weaken logSlots_subset_uncredited) fun _ =>
      (Modifies.appendStatement _ _ _ _ _ _ _).weaken logSlots_subset_uncredited) hrun token
  by_cases hpositive : 0 < fee
  · obtain ⟨conversion, hconversion, hconverted⟩ :=
      creditProtocolFee_credited hpositive (htreasury hpositive) hpay
    have hagree : FiniteStore.AgreeOff chargeSlots s routed :=
      (hcounted.mono (hlogged.trans logSlots_subset_chargeSlots)).trans
        ((((Modifies.creditChargePayees _ _ _ _).ok hcredit).trans
          ((Modifies.routeToSubAccount _ _).ok hroute)).mono creditSlots_subset_chargeSlots)
    rw [State.convertFee_of_chargeSlots hagree] at hconversion
    refine .inr ⟨hpositive, conversion, hconversion, fun token => ?_⟩
    rw [hrest, hconverted, hpayees]
  · have hzero : fee = 0 := by omega
    have hunpaid : paid = routed := by
      unfold creditProtocolFee Exec.when at hpay
      rw [if_neg hpositive] at hpay
      exact (run_pure_ok.mp hpay).2.symm
    refine .inl ⟨hzero, fun token => ?_⟩
    rw [hrest, hunpaid, hpayees, hzero, Int.sub_zero]

/-- All of the amount is credited in its own token unless the fee is converted. -/
theorem settleUsage_credited_iff {pendingLifetime newBalance : Int} {reference : Bytes}
    (hdue : UsageDue env s id sub amount reference)
    (hcounted : FiniteStore.AgreeOff (counterSlots id) s u)
    (hrate : s.routeFeeBps sub.merchant ≤ 10000)
    (hrun : (settleUsage id sub amount pendingLifetime newBalance reference).run env u = .ok v t) :
    (∀ token, t.credited token = s.credited token + inToken token sub.token amount) ↔
      FeeStays env s id amount reference := by
  have hcredits := settleUsage_credited hcounted hdue.positive hrate hrun
  constructor
  · intro hwhole found hfound hpositive conversion hconversion
    obtain rfl := Option.some.inj (hdue.found.symm.trans hfound.found)
    rcases hcredits with ⟨hzero, -⟩ | ⟨-, other, hother, h⟩
    · omega
    obtain rfl := Option.some.inj (hconversion.symm.trans hother)
    cases htarget : conversion.targetToken with
    | none => rfl
    | some target =>
      have hne : target ≠ sub.token := State.convertFee_target_ne hconversion htarget
      have hcredited := h sub.token
      rw [hwhole, htarget, Option.getD_some, inToken_self, inToken_self] at hcredited
      simp only [inToken, if_neg hne] at hcredited
      omega
  · intro hstays token
    rcases hcredits with ⟨-, h⟩ | ⟨hpositive, conversion, hconversion, h⟩
    · exact h token
    have hnone : conversion.targetToken = none := hstays sub hdue hpositive conversion hconversion
    have hsame := State.convertFee_unconverted hconversion hnone
    rw [h, hnone, Option.getD_none, hsame, Int.add_assoc, ← inToken_add, Int.sub_add_cancel]

end Credited

/-! ## Outcomes -/

section Outcomes

variable {env : Env} {s t u : State} {id : Nat} {sub before after : Subscription} {amount : Int}
  {reference : Bytes} {result : UsageChargeResult} {v : Unit}

theorem MovesUsage.takesUsage (hamount : 0 < amount)
    (h : MovesUsage s t id amount before after) : TakesUsage s t id amount :=
  ⟨hamount, before, after, h.found, h.stored, h.debited⟩

/-- A settled charge moves its amount just if the fee stays in its token. -/
theorem movesUsage_of_settled_iff {balance : Int}
    (hdue : UsageDue env s id sub amount reference)
    (hrate : s.routeFeeBps sub.merchant ≤ 10000)
    (hcounted : FiniteStore.AgreeOff (counterSlots id) s u)
    (hbalance : safeSubBalance sub.prepaidBalance amount = .ok balance)
    (hsettle : (settleUsage id sub amount (sub.lifetimeCharged + amount) balance reference).run
      env u = .ok v t) :
    (∃ before after, MovesUsage s t id amount before after) ↔
      FeeStays env s id amount reference := by
  obtain ⟨stored, hstored, hsub⟩ := State.effectiveSubscription_eq_some hdue.found
  have htoken : stored.token = sub.token := by rw [hsub]
  have hmerchant : stored.merchant = sub.merchant := by rw [hsub]
  rw [← settleUsage_credited_iff hdue hcounted hrate hsettle]
  constructor
  · rintro ⟨before, after, hmoves⟩
    obtain rfl := Option.some.inj (hstored.symm.trans hmoves.found)
    intro token
    rw [hmoves.credited, htoken]
  · intro hcredited
    obtain ⟨booked, hbooked, hbook⟩ := settleUsage_book hsettle
    have hsettled := Subscription.usageSettledTo_of_booked hdue.active hbalance hbooked
    have hafter : t.subscription id = some booked := by
      have hrecord : t.subscription id = (u.book.setRecord id booked).record id :=
        congrFun (congrArg Book.record hbook) id
      exact hrecord.trans (by simp [Book.setRecord])
    have hprepaid : stored.prepaidBalance = sub.prepaidBalance := by rw [hsub]
    have hlifetime : stored.lifetimeCharged = sub.lifetimeCharged := by rw [hsub]
    refine ⟨stored, booked, hstored, hafter, ?_, ?_, fun token => ?_, ?_⟩
    · rw [hsettled.2, hprepaid]
    · rw [hsettled.2, hlifetime]
    · rw [hcredited, htoken]
    · have hsplits : u.splitPayees id = s.splitPayees id :=
        State.splitPayees_of_areas (l := [.usage])
          (hcounted.mono (by rintro k rfl; rfl)) rfl id
      have htreasury := (usageTerms_of_counted hcounted sub.merchant).2
      have hshares : u.SharesIn id sub = s.SharesIn id stored := by
        unfold State.SharesIn State.IsPayee
        rw [hsplits, htreasury, hmerchant]
      have hown := settleUsage_own hsettle
      rw [hshares, ← hmerchant] at hown
      refine (hcounted.mono ?_).trans hown
      rintro k rfl
      trivial

theorem pendingLifetime_of_run (hdue : UsageDue env s id sub amount reference)
    (hlimits : (applyUsageLimits id sub amount).run env s = .ok none u)
    (hrun : (chargeUsageOne id amount reference).run env s = .ok result t) :
    InI128 (sub.lifetimeCharged + amount) := by
  rw [run_chargeUsageOne_of_due hdue hlimits] at hrun
  obtain ⟨pending, hpending, -⟩ := run_check_ok (.lift _) hrun
  exact (safeAdd_ok.mp (run_lift_ok.mp hpending).1).2

/-- Due usage that goes through is reported as charged. -/
theorem charged_of_due (hdue : UsageDue env s id sub amount reference)
    (hrun : (chargeUsageOne id amount reference).run env s = .ok result t) :
    result = .charged := by
  rw [run_chargeUsageOne_of_checks hdue.checked] at hrun
  obtain ⟨rejected, u, hlimits, hrun⟩ := run_bind_ok.mp hrun
  obtain rfl := (run_applyUsageLimits_ok hlimits).1.trans hdue.admitted
  obtain ⟨pending, -, hrun⟩ := run_check_ok (.lift _) hrun
  split at hrun
  · obtain ⟨_, w, -, hlast⟩ := run_bind_ok.mp hrun
    exact (run_pure_ok.mp hlast).1.symm
  split at hrun
  · obtain ⟨_, w, -, hlast⟩ := run_bind_ok.mp hrun
    exact (run_pure_ok.mp hlast).1.symm
  · obtain ⟨status, -, hrun⟩ := run_check_ok (.lift _) hrun
    obtain ⟨_, w, -, hlast⟩ := run_bind_ok.mp hrun
    exact (run_pure_ok.mp hlast).1.symm

theorem honestUsage_of_kept (hamount : 0 < amount) (hresult : result ≠ .charged) :
    HonestUsage s s id amount reference result := by
  refine ⟨⟨fun h => absurd h hresult, ?_⟩, fun h => absurd h hresult, fun _ => rfl⟩
  rintro ⟨before, after, hmoves⟩
  exact absurd (hmoves.takesUsage hamount) (not_takes_of_balance hmoves.found hmoves.found rfl)

theorem cancels_of_lifetimeCap (hpasses : PassesLifetimeCap env s id amount reference)
    (hrun : (chargeUsageOne id amount reference).run env s = .ok result t) :
    result = .charged ∧ CancelsUncharged env s t id := by
  obtain ⟨sub, hdue, husable, hpending, hexceeds⟩ := hpasses
  refine ⟨charged_of_due hdue hrun, ?_⟩
  obtain ⟨rejected, u, hlimits⟩ := run_applyUsageLimits_usable_iff.mpr husable
  obtain rfl := (run_applyUsageLimits_ok hlimits).1.trans hdue.admitted
  rw [run_chargeUsageOne_of_due hdue hlimits] at hrun
  obtain ⟨pending, hadded, hrun⟩ := run_check_ok (.lift _) hrun
  obtain ⟨rfl, -⟩ := safeAdd_ok.mp (run_lift_ok.mp hadded).1
  have hexceeds : sub.lifetimeCap.any (· < sub.lifetimeCharged + amount) = true := hexceeds
  rw [if_pos hexceeds] at hrun
  obtain ⟨_, w, hcancel, hlast⟩ := run_bind_ok.mp hrun
  obtain ⟨-, rfl⟩ := run_pure_ok.mp hlast
  obtain ⟨status, hstatus, hcancel⟩ := run_check_ok (.lift _) hcancel
  obtain ⟨-, rfl⟩ := transitionTo_ok.mp (run_lift_ok.mp hstatus).1
  obtain rfl := run_store_ok.mp hcancel
  have hcounted : FiniteStore.AgreeOff (counterSlots id) s u :=
    (applyUsageLimits_counters _ _ _).ok hlimits
  refine ⟨(hcounted.mono ?_).trans (u.agreeOff_write _ (.inr rfl)), sub, hdue.found,
    FiniteStore.read_write_self _ _⟩
  rintro k rfl
  exact .inl rfl

theorem not_honest_of_lifetimeCap (hamount : 0 < amount)
    (hpasses : PassesLifetimeCap env s id amount reference)
    (hrun : (chargeUsageOne id amount reference).run env s = .ok result t) :
    ¬HonestUsage s t id amount reference result := by
  intro hhonest
  obtain ⟨hcharged, -, sub, hfound, hcancelled⟩ := cancels_of_lifetimeCap hpasses hrun
  obtain ⟨before, after, hmoves⟩ := hhonest.1.mp hcharged
  obtain ⟨stored, hstored, hsub⟩ := State.effectiveSubscription_eq_some hfound
  have hprepaid : ({ sub with status := .cancelled } : Subscription).prepaidBalance =
      stored.prepaidBalance := by rw [hsub]
  exact absurd (hmoves.takesUsage hamount) (not_takes_of_balance hstored hcancelled hprepaid)

theorem counts_of_periodCap (hpasses : PassesPeriodCap env s id amount reference)
    (hrun : (chargeUsageOne id amount reference).run env s = .ok result t) :
    result = .usageCapExceeded ∧ FiniteStore.AgreeOff (counterSlots id) s t := by
  obtain ⟨sub, hchecked, -, hrejection, -⟩ := hpasses
  rw [run_chargeUsageOne_of_checks hchecked] at hrun
  obtain ⟨rejected, u, hlimits, hrun⟩ := run_bind_ok.mp hrun
  obtain rfl := (run_applyUsageLimits_ok hlimits).1.trans hrejection
  obtain ⟨rfl, rfl⟩ := run_pure_ok.mp hrun
  exact ⟨rfl, (applyUsageLimits_counters _ _ _).ok hlimits⟩

theorem not_honest_of_periodCap (hpasses : PassesPeriodCap env s id amount reference)
    (hrun : (chargeUsageOne id amount reference).run env s = .ok result t) :
    ¬HonestUsage s t id amount reference result := by
  intro hhonest
  obtain ⟨sub, hchecked, husable, hrejection, henters⟩ := hpasses
  rw [run_chargeUsageOne_of_checks hchecked] at hrun
  obtain ⟨rejected, u, hlimits, hrun⟩ := run_bind_ok.mp hrun
  obtain ⟨hrejected, hwritten⟩ := run_applyUsageLimits_ok hlimits
  obtain rfl := hrejected.trans hrejection
  obtain ⟨rfl, rfl⟩ := run_pure_ok.mp hrun
  obtain rfl : u = s := hhonest.2.2 (by simp)
  rcases hwritten with ⟨hnone, -⟩ | ⟨-, -, hkept⟩ | ⟨-, -, limits, hread, hstored⟩
  · cases hnone
  · exact hkept rfl henters
  · have hstored : u.read (.instanced (.usageState id)) =
        some (u.renewedUsage id sub limits env.now) :=
      (congrArg (FiniteStore.read · (.instanced (.usageState id))) hstored).trans
        (FiniteStore.read_write_self _ _)
    have hstate : u.usageState id sub env.now = u.renewedUsage id sub limits env.now := by
      unfold State.usageState
      rw [hstored]
      rfl
    have hcap : limits.usageCapUnits.isSome = true := by simpa [hread] using henters.1
    have hwindow := (u.usageState id sub env.now).enterWindow_periodIndex limits env.now
    have hperiod : (u.renewedUsage id sub limits env.now).periodIndex =
        sub.periodIndex env.now := by
      unfold State.renewedUsage UsageState.renew
      rw [if_pos ⟨hcap, hwindow ▸ henters.2⟩]
    have hearlier := henters.2
    rw [hstate, hperiod] at hearlier
    omega

theorem honestUsage_iff_of_kept (hamount : 0 < amount) (hresult : result ≠ .charged)
    (hrun : (chargeUsageOne id amount reference).run env s = .ok result s) :
    HonestUsage s s id amount reference result ↔
      ¬PassesLifetimeCap env s id amount reference ∧
      ¬PassesPeriodCap env s id amount reference ∧ FeeStays env s id amount reference := by
  have hundue (sub : Subscription) : ¬UsageDue env s id sub amount reference := fun hdue =>
    hresult (charged_of_due hdue hrun)
  refine ⟨fun hhonest => ⟨?_, ?_, ?_⟩, fun _ => honestUsage_of_kept hamount hresult⟩
  · rintro ⟨sub, hdue, -⟩
    exact hundue sub hdue
  · exact fun hpasses => not_honest_of_periodCap hpasses hrun hhonest
  · exact fun sub hdue => absurd hdue (hundue sub)

/-- A charge without an error is honest unless one of the caps is passed or the fee converted. -/
theorem honestUsage_iff (hamount : 0 < amount)
    (hrate : ∀ merchant, s.routeFeeBps merchant ≤ 10000)
    (hbalance : ∀ sub, s.subscription id = some sub → InI128 sub.prepaidBalance)
    (hrun : (chargeUsageOne id amount reference).run env s = .ok result t) :
    HonestUsage s t id amount reference result ↔
      ¬PassesLifetimeCap env s id amount reference ∧
      ¬PassesPeriodCap env s id amount reference ∧ FeeStays env s id amount reference := by
  cases chargeUsageOne_outcome hrun with
  | refused _ hresult => exact honestUsage_iff_of_kept hamount hresult hrun
  | rejected hclear _ _ hrejected henters hlimits =>
    rcases chargeUsageOne_checked hrun with ⟨rfl, hresult⟩ | ⟨sub, hchecked⟩
    · exact honestUsage_iff_of_kept hamount hresult hrun
    · obtain rfl := Option.some.inj (hclear.found.symm.trans hchecked.found)
      have husable := run_applyUsageLimits_usable_iff.mp ⟨_, _, hlimits⟩
      have hpasses : PassesPeriodCap env s id amount reference :=
        ⟨_, hchecked, husable, hrejected, henters⟩
      exact ⟨fun hhonest => absurd hhonest (not_honest_of_periodCap hpasses hrun),
        fun hkeeps => absurd hpasses hkeeps.2.1⟩
  | capped hdue hlimits hexceeds _ =>
    have husable := run_applyUsageLimits_usable_iff.mp ⟨_, _, hlimits⟩
    have hpasses : PassesLifetimeCap env s id amount reference :=
      ⟨_, hdue, husable, pendingLifetime_of_run hdue hlimits hrun, hexceeds⟩
    exact ⟨fun hhonest => absurd hhonest (not_honest_of_lifetimeCap hamount hpasses hrun),
      fun hkeeps => absurd hpasses hkeeps.1⟩
  | settled hdue hlimits hwithin hpending hdebit hsettle =>
    have hcounted := (applyUsageLimits_counters _ _ _).ok hlimits
    have hmoves := movesUsage_of_settled_iff hdue (hrate _) hcounted hdebit hsettle
    have hsettles : Settles env s t id amount reference :=
      ⟨_, _, _, hdue, hlimits, hwithin, hpending, hdebit, hsettle⟩
    have hmarked := (hsettles.marks id reference).mpr (.inr ⟨rfl, rfl⟩)
    constructor
    · intro hhonest
      exact ⟨fun hpasses => not_honest_of_lifetimeCap hamount hpasses hrun hhonest,
        fun hpasses => not_honest_of_periodCap hpasses hrun hhonest,
        hmoves.mp (hhonest.1.mp rfl)⟩
    · rintro ⟨-, -, hstays⟩
      exact ⟨⟨fun _ => hmoves.mpr hstays, fun _ => rfl⟩,
        fun _ => ⟨fun hseen => hseen hdue.fresh, hmarked⟩, fun hresult => absurd rfl hresult⟩
  | @unfit sub _ hdue _ _ hunfit =>
    obtain ⟨stored, hstored, hsub⟩ := State.effectiveSubscription_eq_some hdue.found
    have hsame : stored.prepaidBalance = sub.prepaidBalance := by rw [hsub]
    have hfits := hbalance stored hstored
    have hfunded := hdue.funded
    rw [hsame] at hfits
    unfold InI128 at hfits hunfit
    omega

end Outcomes

/-! ## Runs -/

section Runs

variable {env : Env} {start s t : State} {id : Nat} {amount : Int} {reference : Bytes}
  {hist : History RateAction State} {l : RateAction}

theorem routeFeeBps_le (hdeployed : Deployed start) (hrun : Run RateStep start hist s)
    (merchant : Address) : s.routeFeeBps merchant ≤ 10000 := by
  have hoverrides : s.OverridesWithin 10000 := by
    refine hrun.invariant_state (I := fun s => s.OverridesWithin 10000)
      (hdeployed.overridesWithin _) fun l s t hs hstep merchant override hset => ?_
    rcases hstep.override_after hset with hold | ⟨-, hle, -⟩
    · exact hs merchant override hold
    · exact hle
  obtain ⟨-, fees, hfees⟩ := RateStep.feeRun hdeployed hrun
  unfold State.routeFeeBps
  cases hset : s.merchantFeeOverrideBps merchant with
  | none => exact protocolFeeBps_le hdeployed hfees
  | some override => exact hoverrides merchant override hset

/-- No step forgets a reference. -/
theorem RateStep.usageSeen (hstep : RateStep l s t) (hseen : s.usageSeen id reference) :
    t.usageSeen id reference := by
  have hkept {l : List Area} (hl : l.contains .usage = false)
      (hagree : FiniteStore.AgreeOff (areas l) s t) : t.usageSeen id reference :=
    (State.usageSeen_of_agreeOff (hagree.mono (areas_subset_referenceFree hl))).mpr hseen
  cases hstep with
  | @call env call _ _ hrun =>
    cases hcall : call.usageCharge with
    | none =>
      exact (State.usageSeen_of_agreeOff (keeps_references_of_call hcall hrun)).mpr hseen
    | some charge => exact (usageCall_marks hcall hrun id reference).mpr (.inl hseen)
  | @admin env call _ _ hrun => exact hkept rfl ((AdminCall.modifies_areas call).ok hrun)
  | @setOverride env admin merchant feeBps _ _ hrun =>
    have hagree := (setMerchantFeeOverride_modifies admin merchant feeBps).ok hrun
    exact hkept (l := [.merchants]) rfl (hagree.mono (by rintro k rfl; rfl))
  | @clearOverride env admin merchant _ _ hrun =>
    have hagree := (clearMerchantFeeOverride_modifies admin merchant).ok hrun
    exact hkept (l := [.merchants]) rfl (hagree.mono (by rintro k rfl; rfl))
  | other hagree => exact hkept rfl (hagree.mono Set.inter_subset_left)

end Runs

/-! ## Beyond the lifetime cap -/

private def billedCalls : List (Env × VaultCall) :=
  [(sampleEnv 1 [⟨8⟩], .updateSubscriptionCap ⟨8⟩ 0 (some 15)),
   (sampleEnv 1 [⟨1⟩], .chargeUsageWithReference 0 10 [1]),
   (sampleEnv 0 [⟨2⟩], .depositFunds 0 100 none),
   (sampleEnv 0 [⟨2⟩], .createSubscription { sampleRequest with usageEnabled := true }),
   (sampleEnv 0 [⟨1⟩], .configureUsageLimits 0 ⟨⟨1⟩, none, 0, 0, none⟩)]

/-- Ten units are charged before a lifetime cap of fifteen is set. -/
private def billedVault : State := stateAfter (afterCalls (sampleVault 0)) billedCalls

private theorem billedVault_run : ∃ hist, Run RateStep (sampleStart 0) hist billedVault :=
  run_rateCalls (sample_rates 0) (by decide +kernel)

end SubscriptionVault
