import SubscriptionVault.Charging.CouponDiscounts
import SubscriptionVault.Charging.SplitShares

/-!
# What an interval charge books

The price of an interval leaves the prepaid balance, and every unit of it is credited: to the
merchant, its split payees or its sub-account, and to the treasury as the fee. Only the fee may be
credited in another token, at the oracle's price. Split payees are not looked at together with a
sub-account, where the same amount is credited twice and taken from the merchant.
-/

namespace SubscriptionVault

open Exec

/-! ## Entries -/

structure ChargeEntries where
  /-- To balances, in the token of the subscription. -/
  credits : List (Address × Int)
  /-- To the sub-account. -/
  stashed : Int
  fee : Int
  /-- What the treasury gets for the fee, and the token if it is another one. -/
  feeCredit : Int
  feeTarget : Option Address

namespace ChargeEntries

/-- Everything that is made of the price. -/
def total (entries : ChargeEntries) : Int :=
  (entries.credits.map Prod.snd).sum + entries.stashed + entries.fee

/-- What a balance rises by. -/
def creditOf (entries : ChargeEntries) (token : Address) (treasury : Option Address)
    (holder tok : Address) : Int :=
  inToken token tok (creditedTo holder entries.credits) +
    if treasury = some holder then inToken (entries.feeTarget.getD token) tok entries.feeCredit
    else 0

end ChargeEntries

/-- The merchant, or one of the payees it is split between. -/
def State.IsPayee (s : State) (id : Nat) (sub : Subscription) (payee : Address) : Prop :=
  match s.splitPayees id with
  | none => payee = sub.merchant
  | some split => payee ∈ split.entries.map Prod.fst

/-- The charge debits the price and makes the entries of it, and no other balance changes. -/
structure ChargedExactly (env : Env) (s t : State) (id : Nat) (sub : Subscription)
    (price : Int) (entries : ChargeEntries) : Prop where
  whole : entries.total = price
  payees : ∀ credit ∈ entries.credits, 0 ≤ credit.2 ∧ s.IsPayee id sub credit.1
  stashed : 0 ≤ entries.stashed ∧ (sub.subAccountLabel = none → entries.stashed = 0)
  fee : 0 ≤ entries.fee ∧ entries.fee = protocolFee price s.protocolFeeBps s.treasury
  converted : 0 < entries.fee →
    s.convertFee env sub.token entries.fee = some ⟨entries.feeCredit, entries.feeTarget⟩
  unconverted : entries.feeTarget = none → entries.feeCredit = entries.fee
  balances : ∀ holder tok, t.merchantBalance holder tok = s.merchantBalance holder tok +
    entries.creditOf sub.token s.treasury holder tok
  subAccounts : ∀ merchant label, t.subAccountBalance merchant label =
    s.subAccountBalance merchant label +
      if merchant = sub.merchant ∧ sub.subAccountLabel = some label then entries.stashed else 0
  record : ∃ new, t.subscription id = some new ∧
    new.prepaidBalance = sub.prepaidBalance - price ∧
    new.lifetimeCharged = sub.lifetimeCharged + price
  others : ∀ other ≠ id, t.subscription other = s.subscription other
  tokens : ∀ token holder, t.balanceOf token holder = s.balanceOf token holder

/-! ## The payees -/

section Payees

variable {env : Env} {s t : State} {id : Nat} {sub : Subscription} {net : Int}
  {kind : BillingChargeKind} {u : Unit}

theorem creditMerchantBalanceForToken_subAccounts {merchant token : Address} {amount : Int}
    (hrun : (creditMerchantBalanceForToken merchant token amount kind).run env s = .ok u t) :
    t.subAccountBalance = s.subAccountBalance :=
  congrArg Accounts.subAccount (creditMerchantBalanceForToken_posts hrun).2

/-- No share that was credited is negative, and none goes to a sub-account. -/
theorem creditShares_nonneg {token : Address} {others : List (Address × Nat)}
    {total distributed : Int}
    (hrun : (creditShares token net kind others total).run env s = .ok distributed t) :
    (∀ entry ∈ others, 0 ≤ splitShare net entry.2) ∧
      t.subAccountBalance = s.subAccountBalance := by
  induction others generalizing s total with
  | nil =>
    obtain ⟨-, rfl⟩ := run_pure_ok.mp hrun
    exact ⟨fun _ hmem => (nomatch hmem), rfl⟩
  | cons entry rest ih =>
    obtain ⟨_, -, hrun⟩ := run_check_ok (.lift _) hrun
    obtain ⟨_, s₁, hcredit, hrest⟩ := run_bind_ok.mp hrun
    obtain ⟨hshares, hkept⟩ := ih hrest
    refine ⟨fun other hmem => ?_,
      hkept.trans (creditMerchantBalanceForToken_subAccounts hcredit)⟩
    rcases List.mem_cons.mp hmem with rfl | hmem
    · exact (creditMerchantBalanceForToken_credited hcredit).1
    · exact hshares other hmem

/-- A net amount that is credited is not negative, and the credits make it up. -/
theorem creditChargePayees_books (hlow : -1 ≤ net) (hmax : InI128 net)
    (hrun : (creditChargePayees id sub net kind).run env s = .ok u t) :
    0 ≤ net ∧ t.subAccountBalance = s.subAccountBalance ∧
      ∃ credits : List (Address × Int), (credits.map Prod.snd).sum = net ∧
      (∀ credit ∈ credits, 0 ≤ credit.2 ∧ s.IsPayee id sub credit.1) ∧
      ∀ holder tok, t.merchantBalance holder tok = s.merchantBalance holder tok +
        inToken sub.token tok (creditedTo holder credits) := by
  obtain ⟨split, hsplit, hrun⟩ := run_check_ok (.gets _) hrun
  have hsplit : s.splitPayees id = split := (run_gets_ok.mp hsplit).1
  cases split with
  | none =>
    have hnet := (creditMerchantBalanceForToken_credited hrun).1
    refine ⟨hnet, creditMerchantBalanceForToken_subAccounts hrun, [(sub.merchant, net)], by simp,
      fun credit hmem => ?_, fun holder tok => ?_⟩
    · obtain rfl := List.mem_singleton.mp hmem
      refine ⟨hnet, ?_⟩
      unfold State.IsPayee
      rw [hsplit]
    · exact creditMerchantBalanceForToken_balance hrun holder tok
  | some split =>
    have hentries : ∀ entry ∈ split.entries, s.IsPayee id sub entry.1 := by
      intro entry hmem
      unfold State.IsPayee
      rw [hsplit]
      exact List.mem_map_of_mem hmem
    obtain ⟨_, entries, _, hweight⟩ := split
    cases entries with
    | nil => cases hweight
    | cons first others =>
      obtain ⟨distributed, s₁, hshares, hfirst⟩ := run_bind_ok.mp hrun
      obtain ⟨hdistributed, hbalances⟩ := creditShares_credits hshares
      obtain ⟨hpositive, hfits, -⟩ := creditShares_credited hshares (by decide)
      have hrest : 0 ≤ wrapI128 (net - distributed) :=
        (creditMerchantBalanceForToken_credited hfirst).1
      have hexact : wrapI128 (net - distributed) = net - distributed := by
        apply wrapI128_of_inI128
        unfold InI128 at hfits hmax ⊢
        omega
      rw [hexact] at hrest hfirst
      obtain ⟨hothers, hkept⟩ := creditShares_nonneg hshares
      have hstashed := (creditMerchantBalanceForToken_subAccounts hfirst).trans hkept
      refine ⟨by omega, hstashed, (first.1, net - distributed) ::
        others.map fun entry => (entry.1, splitShare net entry.2), ?_, fun credit hmem => ?_,
        fun holder tok => ?_⟩
      · rw [List.map_cons, List.sum_cons, List.map_map, hdistributed]
        show net - _ + (others.map fun entry => splitShare net entry.2).sum = net
        omega
      · rcases List.mem_cons.mp hmem with rfl | hmem
        · exact ⟨hrest, hentries first List.mem_cons_self⟩
        · obtain ⟨entry, hentry, rfl⟩ := List.mem_map.mp hmem
          exact ⟨hothers entry hentry, hentries entry (List.mem_cons_of_mem _ hentry)⟩
      · have hcons := creditedTo_cons holder (first.1, net - distributed)
          (others.map fun entry => (entry.1, splitShare net entry.2))
        rw [creditMerchantBalanceForToken_balance hfirst, hbalances, hcons]
        unfold inToken
        split <;> omega

/-- Without split payees a sub-account gets what the merchant was credited first. -/
theorem routePayees_books {w : State} {v : Unit} (hlow : -1 ≤ net) (hmax : InI128 net)
    (hroute : s.splitPayees id = none ∨ sub.subAccountLabel = none)
    (hcredit : (creditChargePayees id sub net kind).run env s = .ok u w)
    (hrun : (routeToSubAccount sub net).run env w = .ok v t) :
    0 ≤ net ∧ ∃ (credits : List (Address × Int)) (stashed : Int),
      (credits.map Prod.snd).sum + stashed = net ∧
      (∀ credit ∈ credits, 0 ≤ credit.2 ∧ s.IsPayee id sub credit.1) ∧
      (0 ≤ stashed ∧ (sub.subAccountLabel = none → stashed = 0)) ∧
      (∀ holder tok, t.merchantBalance holder tok = s.merchantBalance holder tok +
        inToken sub.token tok (creditedTo holder credits)) ∧
      ∀ merchant label, t.subAccountBalance merchant label =
        s.subAccountBalance merchant label +
          if merchant = sub.merchant ∧ sub.subAccountLabel = some label then stashed else 0 := by
  obtain ⟨hnet, hkept, credits, hsum, hpayees, hbalances⟩ :=
    creditChargePayees_books hlow hmax hcredit
  cases hlabel : sub.subAccountLabel with
  | none =>
    have hsame : t = w := by
      unfold routeToSubAccount at hrun
      rw [hlabel] at hrun
      exact (run_pure_ok.mp hrun).2.symm
    subst hsame
    exact ⟨hnet, credits, 0, by omega, hpayees, ⟨le_rfl, fun _ => rfl⟩, hbalances,
      fun merchant label => by simp [hkept]⟩
  | some label =>
    have hunsplit : s.splitPayees id = none := by
      rcases hroute with h | h
      · exact h
      · rw [hlabel] at h
        cases h
    rw [run_creditChargePayees_unsplit hunsplit] at hcredit
    obtain ⟨-, hcredited⟩ := creditMerchantBalanceForToken_posts hcredit
    obtain ⟨-, hposted⟩ := routeToSubAccount_posts hlabel hrun
    rw [hcredited, Accounts.credit_divert] at hposted
    have hstays (holder tok : Address) :
        t.merchantBalance holder tok = s.merchantBalance holder tok :=
      congrArg (fun a : Accounts => a.balance holder tok) hposted
    refine ⟨hnet, [], net, by simp, fun _ hmem => (nomatch hmem), ⟨hnet, nofun⟩,
      fun holder tok => ?_, fun merchant other => ?_⟩
    · rw [hstays]
      simp [creditedTo]
    · have hstash : t.subAccountBalance merchant other =
          if merchant = sub.merchant ∧ other = label then
            s.subAccountBalance sub.merchant label + net
          else s.subAccountBalance merchant other :=
        congrArg (fun a : Accounts => a.subAccount merchant other) hposted
      rw [hstash]
      by_cases hself : merchant = sub.merchant ∧ other = label
      · obtain ⟨rfl, rfl⟩ := hself
        simp
      · have hother : ¬(merchant = sub.merchant ∧ some label = some other) := by
          intro h
          exact hself ⟨h.1, (Option.some.inj h.2).symm⟩
        rw [if_neg hself, if_neg hother, add_zero]

/-- The treasury alone is credited for the fee. -/
theorem creditProtocolFee_books {token : Address} {fee : Int} {treasury : Option Address}
    (hfee : 0 ≤ fee) (htreasury : 0 < fee → treasury.isSome)
    (hrun : (creditProtocolFee token fee treasury kind).run env s = .ok u t) :
    t.subAccountBalance = s.subAccountBalance ∧
    ∃ (feeCredit : Int) (feeTarget : Option Address),
      (0 < fee → s.convertFee env token fee = some ⟨feeCredit, feeTarget⟩) ∧
      (feeTarget = none → feeCredit = fee) ∧
      ∀ holder tok, t.merchantBalance holder tok = s.merchantBalance holder tok +
        if treasury = some holder then inToken (feeTarget.getD token) tok feeCredit else 0 := by
  rcases run_when_ok.mp hrun with ⟨hpositive, hrun⟩ | ⟨hnone, rfl⟩
  · obtain ⟨_, hask, hrun⟩ := run_check_ok .ask hrun
    obtain ⟨rfl, -⟩ := run_ask_ok.mp hask
    obtain ⟨converted, hconverted, hrun⟩ := run_check_ok (.gets _) hrun
    obtain rfl := (run_gets_ok.mp hconverted).1
    obtain ⟨⟨feeCredit, feeTarget⟩, hconversion, hrun⟩ := run_check_ok (.unwrap _) hrun
    have hconversion := (run_unwrap_ok.mp hconversion).1
    obtain ⟨payee, rfl⟩ := Option.isSome_iff_exists.mp (htreasury hpositive)
    refine ⟨creditMerchantBalanceForToken_subAccounts hrun, feeCredit, feeTarget,
      fun _ => hconversion, fun hnone => State.convertFee_unconverted hconversion hnone,
      fun holder tok => ?_⟩
    rw [creditMerchantBalanceForToken_balance hrun]
    by_cases hholder : payee = holder
    · subst hholder
      simp [creditedTo, inToken]
    · simp [creditedTo, hholder]
  · have hzero : fee = 0 := by omega
    subst hzero
    exact ⟨rfl, 0, none, fun hpositive => absurd hpositive hnone, fun _ => rfl, fun _ _ => by simp⟩

end Payees

/-! ## The price -/

section Price

variable {env : Env} {s : State} {id : Nat} {sub : Subscription} {amount : Int} {feeBps : Nat}
  {treasury : Option Address}

/-- A fee of nothing is still one unit. -/
theorem protocolFee_le (hamount : 0 ≤ amount) (hrate : feeBps ≤ 10000) :
    0 ≤ protocolFee amount feeBps treasury ∧
      protocolFee amount feeBps treasury ≤ amount + 1 := by
  by_cases hpositive : 0 < amount
  · have hbounds : 0 ≤ protocolFee amount feeBps treasury ∧ _ :=
      protocolFee_bounds hpositive hrate
    omega
  · have hzero : amount = 0 := by omega
    subst hzero
    unfold protocolFee
    split
    · simp [wrapI128]
    · exact ⟨le_rfl, by omega⟩

theorem proratedFirstCharge_whole {price : Int} {interval elapsed : Nat} (hinterval : interval ≠ 0)
    (hover : interval ≤ elapsed)
    (h : calculateProratedFirstCharge amount interval elapsed = .ok price) : price = amount := by
  unfold calculateProratedFirstCharge at h
  by_cases hnegative : amount < 0
  · rw [if_pos hnegative] at h
    cases h
  · rw [if_neg hnegative, if_neg hinterval, if_neg (by omega), if_pos hover] at h
    exact (Except.ok.inj h).symm

/-- When an interval is over, a first one is not prorated any more. -/
theorem intervalAmount_of_due (h : IntervalDue env s id sub amount) :
    amount = s.payableAfterCoupon id env.now sub.token sub.amount := by
  have hpriced := h.priced
  have helapsed := h.elapsed
  unfold State.intervalAmount at hpriced
  split at hpriced
  · rename_i hprorated
    exact proratedFirstCharge_whole h.interval (by omega) hpriced
  · exact (Except.ok.inj hpriced).symm

end Price

/-! ## The charge -/

section Charge

variable {env : Env} {start s t : State} {id : Nat} {sub : Subscription}
  {key : Option BytesN32}

theorem settleInterval_books {charge : IntervalCharge} {u : Unit} (hchargeable : sub.isChargeable)
    (hrate : s.protocolFeeBps ≤ 10000)
    (hroute : s.splitPayees id = none ∨ sub.subAccountLabel = none)
    (hbalance : safeSubBalance sub.prepaidBalance charge.amount = .ok charge.newBalance)
    (hrun : (settleInterval id sub charge key none).run env s = .ok u t) :
    ∃ entries, ChargedExactly env s t id sub charge.amount entries := by
  have hends := settleInterval_ends env s id hchargeable hbalance key
  rw [hrun] at hends
  obtain ⟨new, ⟨-, hnew⟩, hbook⟩ : ∃ new, sub.SettledTo new charge.amount env.now ∧
      t.book = (s.book.setRecord id new).marked id charge.periodIndex charge.salt := by
    cases hends with
    | complete hsettled hbook => exact ⟨_, hsettled, hbook⟩
  have hrecords : t.subscription = Function.update s.subscription id (some new) :=
    congrArg Book.record hbook
  have hprice : 0 ≤ charge.amount := (safeSubBalance_ok.mp hbalance).1
  obtain ⟨hfee, hfeeLe⟩ : 0 ≤ protocolFee charge.amount s.protocolFeeBps s.treasury ∧ _ :=
    protocolFee_le hprice hrate
  obtain ⟨_, hask, hrun⟩ := run_check_ok .ask hrun
  obtain ⟨rfl, -⟩ := run_ask_ok.mp hask
  obtain ⟨terms, hterms, hrun⟩ := run_check_ok (.gets _) hrun
  obtain rfl := (run_gets_ok.mp hterms).1
  obtain ⟨⟨net, fee⟩, hsplit, hrun⟩ := run_check_ok (.lift _) hrun
  have hsplit : splitFee charge.amount s.protocolFeeBps s.treasury = .ok (net, fee) :=
    (run_lift_ok.mp hsplit).1
  obtain ⟨_, hsub, -⟩ := except_bind_ok.mp hsplit
  have hfits := (safeSub_ok.mp hsub).2
  obtain ⟨rfl, rfl⟩ := splitFee_ok hsplit
  obtain ⟨_, credited, hcredit, hrun⟩ := run_bind_ok.mp hrun
  obtain ⟨_, routed, hrouted, hrun⟩ := run_bind_ok.mp hrun
  obtain ⟨_, paid, hpay, hrun⟩ := run_bind_ok.mp hrun
  have hrest : FiniteStore.AgreeOff (areas (chargeAreas.erase .tokens)) paid t :=
    Exec.Keeps.ok (R := FiniteStore.AgreeOff (areas (chargeAreas.erase .tokens)))
      (.bind (.lift _) fun _ => .bind (Modifies.delete rfl) fun _ => .bind (.lift _) fun _ =>
        .bind ((writeSubscription_areas _ _).widen rfl) fun _ =>
        .bind ((appendStatement_areas _ _ _ _ _ _ _).widen rfl) fun _ =>
        .bind ((writePeriodSnapshot_areas _).widen rfl) fun _ =>
        .bind (Modifies.store rfl) fun _ => .bind (Modifies.store rfl) fun _ =>
        (recordIdemKey_areas _ _ _).widen rfl) hrun
  have hcredits : FiniteStore.AgreeOff creditSlots s routed :=
    ((Modifies.creditChargePayees _ _ _ _).ok hcredit).trans
      ((Modifies.routeToSubAccount _ _).ok hrouted)
  have hpaid : FiniteStore.AgreeOff creditSlots s paid :=
    hcredits.trans ((Modifies.creditProtocolFee _ _ _ _).ok hpay)
  obtain ⟨-, credits, stashed, hsum, hpayees, hstashed, hbalances, hsubAccounts⟩ :=
    routePayees_books (by omega) hfits hroute hcredit hrouted
  obtain ⟨hfeeSubAccounts, feeCredit, feeTarget, hconverted, hunconverted, hfeeBalances⟩ :=
    creditProtocolFee_books hfee treasury_of_protocolFee hpay
  refine ⟨⟨credits, stashed, protocolFee charge.amount s.protocolFeeBps s.treasury, feeCredit,
    feeTarget⟩, ?_⟩
  constructor
  case whole =>
    show (credits.map Prod.snd).sum + stashed +
      protocolFee charge.amount s.protocolFeeBps s.treasury = charge.amount
    omega
  case payees => exact hpayees
  case stashed => exact hstashed
  case fee => exact ⟨hfee, rfl⟩
  case converted =>
    intro hpositive
    rw [← State.convertFee_of_chargeSlots (hcredits.mono creditSlots_subset_chargeSlots)]
    exact hconverted hpositive
  case unconverted => exact hunconverted
  case balances =>
    intro holder tok
    rw [State.merchantBalance_of_areas hrest rfl, hfeeBalances, hbalances]
    unfold ChargeEntries.creditOf
    rw [add_assoc]
  case subAccounts =>
    intro merchant label
    rw [State.subAccountBalance_of_areas hrest rfl, hfeeSubAccounts, hsubAccounts]
  case record =>
    refine ⟨new, ?_, ?_, ?_⟩
    · rw [hrecords, Function.update_self]
    · rw [hnew]
    · rw [hnew]
  case others =>
    intro other hother
    rw [hrecords, Function.update_of_ne hother]
  case tokens =>
    intro token holder
    have hread : t.read (.tokenBalance token holder) = s.read (.tokenBalance token holder) :=
      (State.read_of_areas hrest rfl).trans (hpaid.read Bool.false_ne_true)
    exact congrArg (·.getD 0) hread

/-- What a run does to the settings of the fee is a run of these settings. -/
theorem RateStep.feeRun {hist : History RateAction State} (hdeployed : Deployed start)
    (hrun : Run RateStep start hist s) : s.Settled ∧ ∃ fees, Run FeeStep start fees s := by
  induction hrun with
  | start => exact ⟨hdeployed.settled, [], .start⟩
  | next _ hlast ih =>
    obtain ⟨hsettled, fees, hfees⟩ := ih
    obtain ⟨fee, hfee⟩ := hlast.feeStep hsettled
    exact ⟨hlast.settled hsettled, _, hfees.next hfee⟩

end Charge

/-! ## A converted fee -/

private abbrev fivePercent : AdminCall := .queueTreasuryChange ⟨8⟩ ⟨7⟩ 500

private def payingCalls : List (Env × VaultCall) :=
  [(sampleEnv 0 [⟨2⟩], .depositFunds 0 50 none),
   (sampleEnv 0 [⟨2⟩], .createSubscription sampleRequest)]

private def payingVault : State :=
  stateAfter (fivePercent.exec.after (sampleEnv 0 [⟨8⟩]) (afterCalls (sampleVault 0))) payingCalls

/-- The price of a unit of token 9 is asked for, and paid in token 20. -/
private def convertingVault : State :=
  (payingVault.writeConfig .feeToken (⟨20⟩ : Address)).writeConfig .oracle
    ({ enabled := true, oracle := some ⟨21⟩, maxAgeSeconds := 100, kind := .spot, windowSecs := 60,
       fixedNumerator := 0, fixedDenominator := 1 } : OracleConfig)

private def convertingEnv : Env :=
  { sampleEnv 60 [] with latestPrice := fun _ => some ⟨20000000, 60⟩ }

private theorem convertingVault_run :
    ∃ hist, Run RateStep (sampleStart 0) hist convertingVault := by
  have hrate := (sample_rates 0).next (.admin (run_eq_after
    (show fivePercent.exec.succeeds (sampleEnv 0 [⟨8⟩]) (afterCalls (sampleVault 0)) = true by
      decide +kernel)))
  have hcreated := hrate.next (.call (run_eq_after
    (show (VaultCall.createSubscription sampleRequest).exec.succeeds (sampleEnv 0 [⟨2⟩]) _ =
      true by decide +kernel)))
  have hfunded := hcreated.next (.call (run_eq_after
    (show (VaultCall.depositFunds 0 50 none).exec.succeeds (sampleEnv 0 [⟨2⟩]) _ = true by
      decide +kernel)))
  have htoken : FiniteStore.AgreeOff (areas foreignAreas ∩ ratesFree) payingVault
      (payingVault.writeConfig .feeToken (⟨20⟩ : Address)) :=
    State.agreeOff_writeConfig _ _ _ ⟨rfl, rfl, fun _ => by simp⟩ ⟨rfl, rfl, fun _ => by simp⟩
  have horacle : FiniteStore.AgreeOff (areas foreignAreas ∩ ratesFree)
      (payingVault.writeConfig .feeToken (⟨20⟩ : Address)) convertingVault :=
    State.agreeOff_writeConfig _ _ _ ⟨rfl, rfl, fun _ => by simp⟩ ⟨rfl, rfl, fun _ => by simp⟩
  have hfees : RateStep (.other (sampleEnv 0 [])) payingVault
      (payingVault.writeConfig .feeToken (⟨20⟩ : Address)) := .other htoken
  have hprices : RateStep (.other (sampleEnv 0 []))
      (payingVault.writeConfig .feeToken (⟨20⟩ : Address)) convertingVault := .other horacle
  exact ⟨_, (hfunded.next hfees).next hprices⟩

private theorem convertingVault_charge : ∃ t,
    (chargeOne 0 none none ∅).run convertingEnv convertingVault = .ok .charged t ∧
    t.merchantBalance ⟨7⟩ ⟨9⟩ = 0 ∧ t.merchantBalance ⟨7⟩ ⟨20⟩ = 2 := by
  have hreturns : (do
      let result ← chargeOne 0 none none ∅
      let own ← gets (·.merchantBalance ⟨7⟩ ⟨9⟩)
      let other ← gets (·.merchantBalance ⟨7⟩ ⟨20⟩)
      pure (result, own, other) : Vault (ChargeExecutionResult × Int × Int)).returns
        convertingEnv convertingVault (.charged, 0, 2) = true := by decide +kernel
  obtain ⟨t, hrun⟩ := run_of_returns hreturns
  obtain ⟨result, u, hcharge, hrun⟩ := run_bind_ok.mp hrun
  obtain ⟨own, hown, hrun⟩ := run_check_ok (.gets _) hrun
  obtain ⟨other, hother, hrun⟩ := run_check_ok (.gets _) hrun
  obtain ⟨hresult, rfl⟩ := run_pure_ok.mp hrun
  cases hresult
  exact ⟨u, hcharge, (run_gets_ok.mp hown).1, (run_gets_ok.mp hother).1⟩

end SubscriptionVault
