import SubscriptionVault.Lifecycle.CouponRedemptions
import SubscriptionVault.Lifecycle.Parties

/-!
# Who grants a discount

Anybody may create a coupon, and the subscriber binds it. Neither binding nor charging compares
the merchant of the coupon with the merchant of the subscription, so a discount is the
merchant's only if every binding already was.
-/

namespace SubscriptionVault

open Exec

/-! ## Coupons and their merchants -/

/-- A coupon bound to the subscription is the merchant's, or revoked. -/
def State.CouponSuits (s : State) (id : Nat) (merchant : Address) : Prop :=
  ∀ coupon, s.couponForCharge id = some coupon → coupon.revoked = false →
    coupon.merchant = merchant

/-- No live coupon of another merchant is bound to the subscription, or to one that the action
gives to a merchant. -/
def CouponAction.SuitsMerchant : CouponAction → State → Prop
  | .apply _ _ id code, s => ∀ coupon sub, s.coupon code = some coupon →
    s.subscription id = some sub → coupon.merchant = sub.merchant
  | .call _ (.createSubscription new), s => s.CouponSuits s.nextSubscriptionId new.merchant
  | .call _ (.createSubscriptionWithToken new), s =>
    s.CouponSuits s.nextSubscriptionId new.merchant
  | .call _ (.createSubscriptionWithSplit new _), s =>
    s.CouponSuits s.nextSubscriptionId new.merchant
  | .call _ (.createSubscriptionFromPlan _ planId _), s => ∀ plan,
    s.planTemplate planId = some plan → s.CouponSuits s.nextSubscriptionId plan.merchant
  | .call _ (.rotateMerchantAddress _ oldMerchant newMerchant _), s =>
    ∀ id ∈ s.merchantSubs oldMerchant, s.HasParty id oldMerchant .merchant →
      s.CouponSuits id newMerchant
  | .call _ (.restoreSnapshotPage _ summaries _), s => ∀ summary ∈ summaries,
    s.CouponSuits summary.subscriptionId summary.merchant
  | _, _ => True

/-- The coupon was created in a call of the merchant. -/
def CreatedBy (hist : History CouponAction State) (merchant : Address) (coupon : Coupon) : Prop :=
  ∃ env before, env.authorized merchant = true ∧ (CouponAction.create env merchant coupon.code
    coupon.token coupon.percentOffBps coupon.fixedOff coupon.maxRedemptions coupon.expiresAt,
    before) ∈ hist

/-- What the next interval costs without a coupon. -/
def Subscription.fullPrice (sub : Subscription) (now : Nat) : Except Error Int :=
  if sub.prorationEnabled ∧ sub.lastPaymentTimestamp = sub.startTime then
    calculateProratedFirstCharge sub.amount sub.intervalSeconds (now - sub.startTime)
  else .ok sub.amount

/-- Every discount is by a usable coupon that the merchant of the subscription created, also
after other charges of the same batch; without such a coupon the full price is due. -/
structure MerchantGrants (hist : History CouponAction State) (s : State) : Prop where
  discounts : ∀ env charged m, Charges env s charged m → ∀ id sub gross,
    m.subscription id = some sub → m.payableAfterCoupon id env.now sub.token gross ≠ gross →
    ∃ coupon, m.couponForCharge id = some coupon ∧ coupon.revoked = false ∧
      ¬coupon.isExpired env.now ∧ coupon.token = sub.token ∧ CreatedBy hist sub.merchant coupon
  fullPrice : ∀ env charged m, Charges env s charged m → ∀ id sub amount,
    IntervalDue env m id sub amount → (∀ coupon, ¬CreatedBy hist sub.merchant coupon) →
    sub.fullPrice env.now = .ok amount

/-! ## What is kept -/

/-- Coupons are where their creators put them, only they are bound, and every live one suits its
subscription. -/
structure GrantsKept (hist : History CouponAction State) (s : State) : Prop where
  created : ∀ code coupon, s.coupon code = some coupon →
    coupon.code = code ∧ CreatedBy hist coupon.merchant coupon
  issued : ∀ id code, s.boundCoupon id = some code → s.coupon code ≠ none
  suits : ∀ id sub, s.subscription id = some sub → s.CouponSuits id sub.merchant

section Steps

variable {env : Env} {s t m : State} {l : CouponAction} {hist : History CouponAction State}
  {id : Nat} {merchant : Address} {coupon : Coupon}

theorem CreatedBy.later (h : CreatedBy hist merchant coupon) :
    CreatedBy ((l, s) :: hist) merchant coupon := by
  obtain ⟨env, before, hsigned, hmem⟩ := h
  exact ⟨env, before, hsigned, List.mem_cons_of_mem _ hmem⟩

theorem couponForCharge_of_agreeOff (h : FiniteStore.AgreeOff couponFree s t) :
    t.couponForCharge = s.couponForCharge := by
  obtain ⟨hbound, -, hcoupon⟩ := coupons_of_agreeOff h
  funext id
  show (t.boundCoupon id).bind t.coupon = (s.boundCoupon id).bind s.coupon
  rw [hbound, hcoupon]

theorem CouponSuits.of_coupons {id : Nat} (hsame : t.couponForCharge = s.couponForCharge)
    (h : s.CouponSuits id merchant) : t.CouponSuits id merchant := by
  unfold State.CouponSuits
  rw [hsame]
  exact h

/-! ## Calls -/

theorem Installs.suits {created : Nat} {sub : Subscription} (h : Installs s t created sub)
    (hsame : t.couponForCharge = s.couponForCharge) (hkept : GrantsKept hist s)
    (hsuits : s.CouponSuits created sub.merchant) :
    ∀ id sub, t.subscription id = some sub → t.CouponSuits id sub.merchant := by
  intro id found hfound
  rw [h.record, Function.update_apply] at hfound
  refine CouponSuits.of_coupons hsame ?_
  split at hfound
  · rename_i hid
    obtain rfl := Option.some.inj hfound
    rw [hid]
    exact hsuits
  · exact hkept.suits id found hfound

theorem KeepsParties.suits (h : KeepsParties s t)
    (hsame : t.couponForCharge = s.couponForCharge) (hkept : GrantsKept hist s) :
    ∀ id sub, t.subscription id = some sub → t.CouponSuits id sub.merchant := by
  intro id new hnew
  obtain ⟨sub, hsub, -, hmerchant⟩ := h id new hnew
  rw [← hmerchant]
  exact CouponSuits.of_coupons hsame (hkept.suits id sub hsub)

/-- Whoever the call gives a subscription to, the coupon bound to it is theirs. -/
theorem VaultCall.suits {call : VaultCall} (hrun : call.exec.run env s = .ok () t)
    (hsame : t.couponForCharge = s.couponForCharge) (hkept : GrantsKept hist s)
    (hcond : (CouponAction.call env call).SuitsMerchant s) :
    ∀ id sub, t.subscription id = some sub → t.CouponSuits id sub.merchant := by
  have hquiet (hop : call.operation.keepsParties = true) :=
    (VaultCall.keepsParties hrun hop).suits hsame hkept
  cases call
  case createSubscription new =>
    obtain ⟨created, hrun⟩ := run_effectOf_ok.mp hrun
    obtain ⟨_, -, hrun⟩ := run_check_ok Modifies.requireNotEmergencyStop hrun
    obtain ⟨sub, hinstalls, -, hmerchant, -⟩ := doCreateSubscription_installs hrun
    refine hinstalls.suits hsame hkept ?_
    rw [hmerchant, (doCreateSubscription_book hrun).2.2.taken]
    exact hcond
  case createSubscriptionWithToken new =>
    obtain ⟨created, hrun⟩ := run_effectOf_ok.mp hrun
    obtain ⟨_, -, hrun⟩ := run_check_ok Modifies.requireNotEmergencyStop hrun
    obtain ⟨sub, hinstalls, -, hmerchant, -⟩ := doCreateSubscriptionWithToken_installs hrun
    refine hinstalls.suits hsame hkept ?_
    rw [hmerchant, (doCreateSubscriptionWithToken_book hrun).2.2.taken]
    exact hcond
  case createSubscriptionWithSplit new entries =>
    obtain ⟨created, hrun⟩ := run_effectOf_ok.mp hrun
    obtain ⟨_, -, hrun⟩ := run_check_ok Modifies.requireNotEmergencyStop hrun
    obtain ⟨⟨sub, hinstalls, -, hmerchant, -⟩, -⟩ := createSubscriptionWithSplit_installs hrun
    refine hinstalls.suits hsame hkept ?_
    rw [hmerchant, (createSubscriptionWithSplit_book hrun).2.2.taken]
    exact hcond
  case createSubscriptionFromPlan subscriber planId label =>
    obtain ⟨created, hrun⟩ := run_effectOf_ok.mp hrun
    obtain ⟨_, -, hrun⟩ := run_check_ok Modifies.requireNotEmergencyStop hrun
    obtain ⟨plan, sub, hplan, hinstalls, -, hmerchant, -⟩ :=
      doCreateSubscriptionFromPlan_installs hrun
    refine hinstalls.suits hsame hkept ?_
    rw [hmerchant, (doCreateSubscriptionFromPlan_book hrun).2.2.taken]
    exact hcond plan hplan
  case rotateMerchantAddress admin oldMerchant newMerchant nonce =>
    intro id new hnew
    refine CouponSuits.of_coupons hsame ?_
    have hrecord : t.subscription id = if id ∈ s.merchantSubs oldMerchant then
        (s.subscription id).map (·.rehomed oldMerchant newMerchant) else s.subscription id :=
      congrArg (fun b : Book => b.record id) (doRotateMerchantAddress_book hrun)
    rw [hrecord] at hnew
    split at hnew
    · rename_i hlisted
      obtain ⟨sub, hsub, rfl⟩ := Option.map_eq_some_iff.mp hnew
      unfold Subscription.rehomed
      split
      · rename_i hold
        exact hcond id hlisted ⟨sub, hsub, hold⟩
      · exact hkept.suits id sub hsub
    · exact hkept.suits id new hnew
  case restoreSnapshotPage admin summaries balances =>
    intro id new hnew
    refine CouponSuits.of_coupons hsame ?_
    have hbook := (restoreSnapshotPage_book hrun).1
    have hrecord : t.subscription id = (s.book.restored summaries).record id :=
      congrArg (fun b : Book => b.record id) hbook
    rw [hrecord] at hnew
    rcases s.book.restored_record summaries id with hold | ⟨summary, hmem, rfl, hrestored⟩
    · exact hkept.suits id new (hold.symm.trans hnew)
    · obtain rfl := Option.some.inj (hrestored.symm.trans hnew)
      exact hcond summary hmem
  case acceptTransfer id «to» =>
    intro j new hnew
    refine CouponSuits.of_coupons hsame ?_
    have hstep : VaultStep (.call env (.acceptTransfer id «to»)) s t := .call rfl hrun
    have hrecord : t.book.record j = some new := hnew
    cases hstep.at_record j with
    | kept hold => exact hkept.suits j new (hold.symm.trans hrecord)
    | rewritten hreads hrewrites hafter =>
      obtain ⟨stored, hstored, hmerchant, -⟩ := hreads.parties
      cases hrewrites with
      | edited hop _ => rcases hop with hop | hop <;> cases hop
      | revived hop _ _ => rcases hop with hop | hop <;> cases hop
      | resumed hop _ => rcases hop with hop | hop <;> cases hop
      | halted hop _ _ _ => rcases hop with hop | ⟨_, hop⟩ <;> cases hop
      | transferred =>
        obtain rfl := Option.some.inj (hafter.symm.trans hrecord)
        rw [← hmerchant]
        exact hkept.suits _ stored hstored
  all_goals exact hquiet rfl

/-! ## Steps -/

theorem GrantsKept.start {start : State} (hdeployed : Deployed start) : GrantsKept [] start := by
  obtain ⟨hbound, -, hcoupon⟩ :=
    coupons_of_agreeOff (hdeployed.areas.mono (areas_subset_couponFree rfl))
  refine ⟨fun code coupon hfound => ?_, fun id code hfound => ?_, fun id sub hsub => ?_⟩
  · rw [hcoupon] at hfound
    cases hfound
  · rw [hbound] at hfound
    cases hfound
  · have hnone : start.subscription id = none := congrArg (fun b : Book => b.record id)
      hdeployed.book
    rw [hnone] at hsub
    cases hsub

/-- A step that leaves the coupons alone. -/
theorem GrantsKept.uncouponed (hkept : GrantsKept hist s)
    (hagree : FiniteStore.AgreeOff couponFree s t)
    (hsuits : ∀ id sub, t.subscription id = some sub → t.CouponSuits id sub.merchant) :
    GrantsKept ((l, s) :: hist) t := by
  obtain ⟨hbound, -, hcoupon⟩ := coupons_of_agreeOff hagree
  refine ⟨fun code coupon hfound => ?_, fun id code hfound => ?_, hsuits⟩
  · rw [hcoupon] at hfound
    obtain ⟨hcode, hcreated⟩ := hkept.created code coupon hfound
    exact ⟨hcode, hcreated.later⟩
  · rw [hbound] at hfound
    rw [hcoupon]
    exact hkept.issued id code hfound

/-- A coupon is written under its code: a new one, or one that is revoked. -/
theorem GrantsKept.couponed (hkept : GrantsKept hist s) (new : Coupon)
    (hcreated : CreatedBy ((l, s) :: hist) new.merchant new)
    (hnew : new.revoked = true ∨ s.coupon new.code = none) :
    GrantsKept ((l, s) :: hist) (s.write (.persistent (.coupon new.code)) new) := by
  obtain ⟨hbound, -, hcoupon⟩ := s.coupon_written new.code new
  refine ⟨fun code coupon hfound => ?_, fun id code hfound => ?_,
    fun id sub hsub coupon hfound hlive => ?_⟩
  · rw [hcoupon code] at hfound
    split at hfound
    · rename_i hcode
      obtain rfl := Option.some.inj hfound
      exact ⟨hcode.symm, hcreated⟩
    · obtain ⟨hcode, hold⟩ := hkept.created code coupon hfound
      exact ⟨hcode, hold.later⟩
  · rw [hbound] at hfound
    rw [hcoupon code]
    split
    · simp
    · exact hkept.issued id code hfound
  · have hsame : s.subscription id = some sub :=
      (FiniteStore.read_write_of_ne s new (by simp)).symm.trans hsub
    obtain ⟨code, hcode, hstored⟩ := Option.bind_eq_some_iff.mp hfound
    have hbefore : s.boundCoupon id = some code := (congrFun hbound id).symm.trans hcode
    have hafter := (hcoupon code).symm.trans hstored
    split at hafter
    · rename_i heq
      obtain rfl := Option.some.inj hafter
      rcases hnew with hrevoked | hfree
      · rw [hrevoked] at hlive
        cases hlive
      · exact absurd (heq ▸ hfree) (hkept.issued id code hbefore)
    · exact hkept.suits id sub hsame coupon (Option.bind_eq_some_iff.mpr ⟨code, hbefore, hafter⟩)
        hlive

theorem GrantsKept.bind {subscriber : Address} {code : Symbol} (hkept : GrantsKept hist s)
    (hrun : (applyCoupon subscriber id code).run env s = .ok () t)
    (hcond : (CouponAction.apply env subscriber id code).SuitsMerchant s) :
    GrantsKept ((l, s) :: hist) t := by
  obtain ⟨⟨sub, coupon, hbind⟩, rfl⟩ := run_applyCoupon_ok.mp hrun
  obtain ⟨hbound, -, hcoupon⟩ := s.bindCoupon_reads id code
  refine ⟨fun c found hfound => ?_, fun j c hfound => ?_, fun j found hsub live hfound hlive => ?_⟩
  · rw [hcoupon c] at hfound
    obtain ⟨hcode, hcreated⟩ := hkept.created c found hfound
    exact ⟨hcode, hcreated.later⟩
  · rw [hcoupon c]
    rw [hbound j] at hfound
    split at hfound
    · obtain rfl := Option.some.inj hfound
      rw [hbind.issued]
      simp
    · exact hkept.issued j c hfound
  · have hsame : s.subscription j = some found := by
      refine Eq.trans ?_ hsub
      unfold State.bindCoupon State.subscription
      rw [FiniteStore.read_write_of_ne _ _ (by simp), FiniteStore.read_write_of_ne _ _ (by simp),
        FiniteStore.read_write_of_ne _ _ (by simp)]
    obtain ⟨c, hc, hstored⟩ := Option.bind_eq_some_iff.mp hfound
    have hnow := (hbound j).symm.trans hc
    have hstored' : s.coupon c = some live := (hcoupon c).symm.trans hstored
    split at hnow
    · rename_i hj
      obtain rfl := Option.some.inj hnow
      exact hcond live found hstored' (hj ▸ hsame)
    · exact hkept.suits j found hsame live (Option.bind_eq_some_iff.mpr ⟨c, hnow, hstored'⟩) hlive

theorem CouponStep.grantsKept (hstep : CouponStep l s t) (hkept : GrantsKept hist s)
    (hcond : l.SuitsMerchant s) : GrantsKept ((l, s) :: hist) t := by
  cases hstep with
  | call hrun =>
    have hagree : FiniteStore.AgreeOff couponFree s t := ((VaultCall.worksIn _).ok hrun).1.mono
      (areas_subset_couponFree (VaultCall.coupons_untouched _))
    exact hkept.uncouponed hagree
      (VaultCall.suits hrun (couponForCharge_of_agreeOff hagree) hkept hcond)
  | other hagree =>
    have hfree := hagree.mono (areas_subset_couponFree (l := foreignAreas.erase .coupons) rfl)
    refine hkept.uncouponed hfree fun id sub hsub => ?_
    have hbook : t.book = s.book := State.book_of_unbooked (hagree.mono (areas_subset_unbooked rfl))
    have hrecord : t.subscription id = s.subscription id :=
      congrArg (fun b : Book => b.record id) hbook
    exact CouponSuits.of_coupons (couponForCharge_of_agreeOff hfree)
      (hkept.suits id sub (hrecord ▸ hsub))
  | @create env merchant token code percentOffBps fixedOff maxRedemptions expiresAt _ _ hrun =>
    have hcall := (run_stoppableCall_ok.mp hrun).2
    obtain ⟨hnew, rfl⟩ := createCoupon_writes hcall
    obtain ⟨_, hsigned, -⟩ := run_check_ok (Modifies.requireAuth _) hcall
    refine hkept.couponed ⟨code, merchant, token, percentOffBps, fixedOff, maxRedemptions,
      expiresAt, false⟩ ?_ (.inr hnew)
    exact ⟨env, s, (run_requireAuth_ok.mp hsigned).1.1, List.mem_cons_self⟩
  | revoke hrun =>
    obtain ⟨coupon, hfound, rfl⟩ := revokeCoupon_writes (run_stoppableCall_ok.mp hrun).2
    obtain ⟨env, before, hsigned, hmem⟩ := (hkept.created _ _ hfound).2
    exact hkept.couponed { coupon with revoked := true }
      ⟨env, before, hsigned, List.mem_cons_of_mem _ hmem⟩ (.inl rfl)
  | apply hid hrun => exact hkept.bind (run_stoppableCall_ok.mp hrun).2 hcond

end Steps

/-! ## Charges -/

section Charging

variable {env : Env} {s t m : State} {hist : History CouponAction State} {id now : Nat}
  {charged : List ChargedItem}

theorem Charges.keepsParties (h : Charges env s charged m) : KeepsParties s m := by
  induction h with
  | done => exact .refl _
  | @charge u v w item result rest hrun _ ih =>
    have hfirst : VaultStep (.item env (.charge item.1 item.2)) u v := by
      rcases run_attempt_ok.mp hrun with ⟨_, -, hpassed⟩ | ⟨_, -, hfailed⟩
      · exact .item (run_effectOf_ok.mpr ⟨_, hpassed⟩)
      · exact .itemFailed (run_effectOf_err.mpr hfailed)
    intro id new hnew
    obtain ⟨between, hbetween, hsubscriber, hmerchant⟩ := ih id new hnew
    obtain ⟨old, hold, hsubscriber', hmerchant'⟩ := (hfirst.at_record id).parties rfl hbetween
    exact ⟨old, hold, hsubscriber'.trans hsubscriber, hmerchant'.trans hmerchant⟩

theorem Charges.couponForCharge (h : Charges env s charged m) :
    m.couponForCharge = s.couponForCharge :=
  couponForCharge_of_agreeOff <| h.rel fun _ _ _ _ hrun =>
    ((Keeps.attempt (chargeOne_areas _ _ _ _)).ok hrun).mono (areas_subset_couponFree rfl)

/-- A price differs from the full one only by a usable coupon. -/
theorem coupon_of_discounted {token : Address} {gross : Int}
    (h : s.payableAfterCoupon id now token gross ≠ gross) :
    ∃ coupon, s.couponForCharge id = some coupon ∧ coupon.revoked = false ∧
      ¬coupon.isExpired now ∧ coupon.token = token := by
  unfold State.payableAfterCoupon at h
  cases hcoupon : s.couponForCharge id with
  | none =>
    rw [hcoupon] at h
    exact absurd rfl h
  | some coupon =>
    rw [hcoupon] at h
    by_cases husable : coupon.isUsable now token = true
    · refine ⟨coupon, rfl, ?_⟩
      unfold Coupon.isUsable at husable
      simp only [Bool.and_eq_true, Bool.not_eq_true', decide_eq_true_eq, Bool.and_eq_false_iff,
        decide_eq_false_iff_not] at husable
      refine ⟨husable.1.1, fun hexpired => ?_, husable.2⟩
      rcases husable.1.2 with hnever | hlater
      · exact hnever hexpired.1
      · exact hlater hexpired.2
    · exact absurd (if_neg husable) h

theorem GrantsKept.grants (hkept : GrantsKept hist s) : MerchantGrants hist s := by
  have hdiscounts : ∀ env charged m, Charges env s charged m → ∀ id sub gross,
      m.subscription id = some sub → m.payableAfterCoupon id env.now sub.token gross ≠ gross →
      ∃ coupon, m.couponForCharge id = some coupon ∧ coupon.revoked = false ∧
        ¬coupon.isExpired env.now ∧ coupon.token = sub.token ∧
        CreatedBy hist sub.merchant coupon := by
    intro env charged m hcharges id sub gross hsub hless
    obtain ⟨coupon, hfound, hlive, htimely, htoken⟩ := coupon_of_discounted hless
    obtain ⟨old, hold, -, hmerchant⟩ := hcharges.keepsParties id sub hsub
    have hbefore := (congrFun hcharges.couponForCharge id).symm.trans hfound
    have hsuits := hkept.suits id old hold coupon hbefore hlive
    obtain ⟨code, -, hstored⟩ := Option.bind_eq_some_iff.mp hbefore
    have hcreated := (hkept.created code coupon hstored).2
    rw [hsuits, hmerchant] at hcreated
    exact ⟨coupon, hfound, hlive, htimely, htoken, hcreated⟩
  refine ⟨hdiscounts, fun env charged m hcharges id sub amount hdue hnone => ?_⟩
  obtain ⟨stored, hstored, hsame⟩ := State.effectiveSubscription_eq_some hdue.found
  have hpayable : m.payableAfterCoupon id env.now sub.token sub.amount = sub.amount := by
    by_contra hless
    rw [hsame] at hless hnone
    obtain ⟨coupon, -, -, -, -, hcreated⟩ := hdiscounts env charged m hcharges id stored
      stored.amount hstored hless
    exact hnone coupon hcreated
  have hpriced := hdue.priced
  unfold State.intervalAmount at hpriced
  rw [hpayable] at hpriced
  exact hpriced

/-- In a run whose bindings are all the merchant's, every discount is the merchant's. -/
theorem coupons_granted_by_merchants {start : State} (hdeployed : Deployed start)
    (hrun : Run CouponStep start hist s)
    (hsuits : ∀ l u v, (l, u, v) ∈ transitions hist s → l.SuitsMerchant u) :
    MerchantGrants hist s := by
  refine GrantsKept.grants ?_
  induction hrun with
  | start => exact .start hdeployed
  | next _ hstep ih =>
    have hbefore := ih fun l u v hmem => hsuits l u v (List.mem_cons_of_mem _ hmem)
    exact hstep.grantsKept hbefore (hsuits _ _ _ List.mem_cons_self)

end Charging

/-! ## Runs -/

private def joined : State :=
  (VaultCall.createSubscription sampleRequest).exec.after (sampleEnv 0 [⟨2⟩])
    (afterCalls (sampleVault 0))

/-- Half off, and one unit more. -/
private def issueBy (issuer : Address) : Vault Unit :=
  stoppableCall (createCoupon issuer ⟨5⟩ ⟨9⟩ 5000 1 0 0)

private def bindIssued : Vault Unit := stoppableCall (applyCoupon ⟨2⟩ 0 ⟨5⟩)

private def issued (issuer : Address) : State :=
  (issueBy issuer).after (sampleEnv 1 [issuer]) joined

private def discountedVault (issuer : Address) : State :=
  bindIssued.after (sampleEnv 2 [⟨2⟩]) (issued issuer)

private def discountHistory (issuer : Address) : History CouponAction State :=
  [(.apply (sampleEnv 2 [⟨2⟩]) ⟨2⟩ 0 ⟨5⟩, issued issuer),
   (.create (sampleEnv 1 [issuer]) issuer ⟨5⟩ ⟨9⟩ 5000 1 0 0, joined),
   (.call (sampleEnv 0 [⟨2⟩]) (.createSubscription sampleRequest), afterCalls (sampleVault 0)),
   (.other (sampleEnv 0 []), sampleStart 0)]

private theorem discounted_run (issuer : Address)
    (hcreate : (issueBy issuer).succeeds (sampleEnv 1 [issuer]) joined = true)
    (hbind : bindIssued.succeeds (sampleEnv 2 [⟨2⟩]) (issued issuer) = true) :
    Run CouponStep (sampleStart 0) (discountHistory issuer) (discountedVault issuer) := by
  have hprepared : CouponStep (.other (sampleEnv 0 [])) (sampleStart 0)
      (afterCalls (sampleVault 0)) := .other ((sample_areas 0).mono (areas_mono rfl))
  have hjoin := run_eq_after (show (VaultCall.createSubscription sampleRequest).exec.succeeds
    (sampleEnv 0 [⟨2⟩]) (afterCalls (sampleVault 0)) = true by decide +kernel)
  exact (((Run.start.next hprepared).next (.call hjoin)).next
    (.create (run_eq_after hcreate))).next (.apply (Nat.zero_le _) (run_eq_after hbind))

/-- The merchant creates a coupon and the subscriber binds it. -/
theorem merchants_coupon_discounts : ∃ hist s, Run CouponStep (sampleStart 0) hist s ∧
    s.payableAfterCoupon 0 2 ⟨9⟩ 10 = 4 ∧ MerchantGrants hist s := by
  have hrun := discounted_run ⟨1⟩ (by decide +kernel) (by decide +kernel)
  refine ⟨_, _, hrun, by decide +kernel,
    coupons_granted_by_merchants (sample_deployed 0) hrun fun l u v hmem => ?_⟩
  have hissued : ((issued ⟨1⟩).coupon ⟨5⟩).map (·.merchant) = some ⟨1⟩ := by decide +kernel
  have hjoined : ((issued ⟨1⟩).subscription 0).map (·.merchant) = some ⟨1⟩ := by decide +kernel
  have hfresh : (afterCalls (sampleVault 0)).couponForCharge
      (afterCalls (sampleVault 0)).nextSubscriptionId = none := by decide +kernel
  rcases List.mem_cons.mp hmem with heq | hmem
  · cases heq
    intro coupon sub hcoupon hsub
    rw [hcoupon, Option.map_some, Option.some.injEq] at hissued
    rw [hsub, Option.map_some, Option.some.injEq] at hjoined
    rw [hissued, hjoined]
  rcases List.mem_cons.mp hmem with heq | hmem
  · cases heq
    trivial
  rcases List.mem_cons.mp hmem with heq | hmem
  · cases heq
    intro coupon hcoupon
    rw [hfresh] at hcoupon
    cases hcoupon
  rcases List.mem_singleton.mp hmem with heq
  cases heq
  trivial

/-- A stranger creates a coupon and the subscriber binds it. -/
theorem strangers_coupon_discounts : ∃ hist s, Run CouponStep (sampleStart 0) hist s ∧
    (s.subscription 0).map (·.merchant) = some ⟨1⟩ ∧ s.payableAfterCoupon 0 2 ⟨9⟩ 10 = 4 ∧
    ¬MerchantGrants hist s := by
  have hrun := discounted_run ⟨7⟩ (by decide +kernel) (by decide +kernel)
  have hmerchant : ((discountedVault ⟨7⟩).subscription 0).map (·.merchant) = some ⟨1⟩ := by
    decide +kernel
  have hpayable : (discountedVault ⟨7⟩).payableAfterCoupon 0 2 ⟨9⟩ 10 = 4 := by decide +kernel
  have htoken : ((discountedVault ⟨7⟩).subscription 0).map (·.token) = some ⟨9⟩ := by decide +kernel
  refine ⟨_, _, hrun, hmerchant, hpayable, fun hgrants => ?_⟩
  obtain ⟨sub, hsub, howner⟩ := Option.map_eq_some_iff.mp hmerchant
  rw [hsub, Option.map_some, Option.some.injEq] at htoken
  have hless : (discountedVault ⟨7⟩).payableAfterCoupon 0 2 sub.token 10 ≠ 10 := by
    rw [htoken, hpayable]
    decide
  obtain ⟨coupon, -, -, -, -, env, before, -, hmem⟩ :=
    hgrants.discounts (sampleEnv 2 []) [] _ .done 0 sub 10 hsub hless
  rw [howner] at hmem
  simp [discountHistory] at hmem

end SubscriptionVault
