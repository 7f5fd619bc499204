import SubscriptionVault.Contract.Coupons
import SubscriptionVault.Lifecycle.Transactions

/-!
# Coupon redemptions

A subscription is bound at most once, to whatever code, so that the counter of a code counts the
subscriptions it was bound to. The counter has 32 bits and stays at its end; so have the numbers
of subscriptions, of which there may be one more than the counter can count.
-/

namespace SubscriptionVault

open Exec

/-! ## Binding -/

/-- All that is asked of a binding. -/
structure CanBind (env : Env) (s : State) (subscriber : Address) (id : Nat) (code : Symbol)
    (sub : Subscription) (coupon : Coupon) : Prop where
  signed : env.authorized subscriber = true ∧ subscriber ≠ env.host.contract
  found : s.effectiveSubscription id env.now = some sub
  owner : sub.subscriber = subscriber
  fresh : s.isCouponRedeemed id code = false
  unbound : s.boundCoupon id = none
  issued : s.coupon code = some coupon
  active : coupon.revoked = false
  timely : ¬coupon.isExpired env.now
  left : ¬coupon.isUsedUp (s.couponRedemptions code)
  token : coupon.token = sub.token

/-- The state after the binding. -/
def State.bindCoupon (s : State) (id : Nat) (code : Symbol) : State :=
  FiniteStore.write (FiniteStore.write (s.write (.persistent (.couponRedemptions code))
    (saturatingAddU32 (s.couponRedemptions code) 1)) (.persistent (.subCoupon id)) code)
    (.persistent (.subCouponRedeemed id code)) true

section Binding

variable {env : Env} {s t : State} {u : Unit} {subscriber : Address} {id : Nat} {code : Symbol}

theorem run_applyCoupon_ok : (applyCoupon subscriber id code).run env s = .ok u t ↔
    (∃ sub coupon, CanBind env s subscriber id code sub coupon) ∧ s.bindCoupon id code = t := by
  constructor
  · intro hrun
    obtain ⟨_, hsigned, hrun⟩ := run_check_ok (Modifies.requireAuth _) hrun
    obtain ⟨sub, hfound, hrun⟩ := run_check_ok (Modifies.getSubscription _) hrun
    obtain ⟨_, howner, hrun⟩ := run_check_ok (.failIf _ _) hrun
    obtain ⟨redeemed, hredeemed, hrun⟩ := run_check_ok (.gets _) hrun
    obtain rfl := (run_gets_ok.mp hredeemed).1
    obtain ⟨_, hfresh, hrun⟩ := run_check_ok (.failIf _ _) hrun
    obtain ⟨bound, hbound, hrun⟩ := run_check_ok (.gets _) hrun
    obtain rfl := (run_gets_ok.mp hbound).1
    obtain ⟨_, hunbound, hrun⟩ := run_check_ok (.failIf _ _) hrun
    obtain ⟨found, hcode, hrun⟩ := run_check_ok (.gets _) hrun
    obtain rfl := (run_gets_ok.mp hcode).1
    obtain ⟨coupon, hcoupon, hrun⟩ := run_check_ok (.okOr _ _) hrun
    obtain ⟨_, hactive, hrun⟩ := run_check_ok (.failIf _ _) hrun
    obtain ⟨time, hask, hrun⟩ := run_check_ok .ask hrun
    obtain ⟨rfl, -⟩ := run_ask_ok.mp hask
    obtain ⟨_, htimely, hrun⟩ := run_check_ok (.failIf _ _) hrun
    obtain ⟨observed, hobserved, hrun⟩ := run_check_ok (.gets _) hrun
    obtain rfl := (run_gets_ok.mp hobserved).1
    obtain ⟨_, hleft, hrun⟩ := run_check_ok (.failIf _ _) hrun
    obtain ⟨_, htoken, hrun⟩ := run_check_ok (.failIf _ _) hrun
    obtain ⟨_, s₁, hclaim, hrun⟩ := run_bind_ok.mp hrun
    obtain ⟨_, s₂, hbind, hrun⟩ := run_bind_ok.mp hrun
    obtain ⟨current, hcurrent, hclaim⟩ := run_check_ok (.gets _) hclaim
    obtain rfl := (run_gets_ok.mp hcurrent).1
    obtain ⟨_, -, hclaim⟩ := run_check_ok (.failIf _ _) hclaim
    obtain ⟨_, -, hclaim⟩ := run_check_ok (.failIf _ _) hclaim
    obtain rfl := run_store_ok.mp hclaim
    obtain rfl := run_store_ok.mp hbind
    refine ⟨⟨sub, coupon, ?_⟩, run_store_ok.mp hrun⟩
    exact {
      signed := (run_requireAuth_ok.mp hsigned).1
      found := (run_getSubscription_ok.mp hfound).1
      owner := not_not.mp (run_failIf_ok.mp howner).1
      fresh := Bool.eq_false_iff.mpr (run_failIf_ok.mp hfresh).1
      unbound := Option.not_isSome_iff_eq_none.mp (run_failIf_ok.mp hunbound).1
      issued := (run_okOr_ok.mp hcoupon).1
      active := Bool.eq_false_iff.mpr (run_failIf_ok.mp hactive).1
      timely := (run_failIf_ok.mp htimely).1
      left := (run_failIf_ok.mp hleft).1
      token := not_not.mp (run_failIf_ok.mp htoken).1 }
  · rintro ⟨⟨sub, coupon, h⟩, rfl⟩
    have hgets {α : Type} (f : State → α) : (gets f : Vault α).run env s = .ok (f s) s :=
      run_gets_ok.mpr ⟨rfl, rfl⟩
    have hpass {p : Prop} [Decidable p] (e : Error) (hp : ¬p) :
        (failIf p e : Vault Unit).run env s = .ok () s := run_failIf_ok.mpr ⟨hp, rfl⟩
    have hask : (ask : Vault Env).run env s = .ok env s := run_ask_ok.mpr ⟨rfl, rfl⟩
    have hclaim : (casIncrementRedemptions code (s.couponRedemptions code)
        coupon.maxRedemptions).run env s = .ok () (s.write (.persistent (.couponRedemptions code))
          (saturatingAddU32 (s.couponRedemptions code) 1)) := by
      refine (run_bind_of_ok (hgets _)).trans <| (run_bind_of_ok (hpass _ (by simp))).trans <|
        (run_bind_of_ok (hpass _ h.left)).trans ?_
      exact run_store_ok.mpr rfl
    have hlate : ¬(s.isCouponRedeemed id code = true) := by simp [h.fresh]
    have hbound : ¬((s.boundCoupon id).isSome = true) := by simp [h.unbound]
    refine (run_bind_of_ok (a := ()) (run_requireAuth_ok.mpr ⟨h.signed, rfl⟩)).trans <|
      (run_bind_of_ok (run_getSubscription_ok.mpr ⟨h.found, rfl⟩)).trans <|
      (run_bind_of_ok (hpass _ (by simp [h.owner]))).trans <|
      (run_bind_of_ok (hgets _)).trans <| (run_bind_of_ok (hpass _ hlate)).trans <|
      (run_bind_of_ok (hgets _)).trans <| (run_bind_of_ok (hpass _ hbound)).trans <|
      (run_bind_of_ok (hgets _)).trans <|
      (run_bind_of_ok (run_okOr_ok.mpr ⟨h.issued, rfl⟩)).trans <|
      (run_bind_of_ok (hpass _ (by simp [h.active]))).trans <|
      (run_bind_of_ok hask).trans <| (run_bind_of_ok (hpass _ h.timely)).trans <|
      (run_bind_of_ok (hgets _)).trans <| (run_bind_of_ok (hpass _ h.left)).trans <|
      (run_bind_of_ok (hpass _ (by simp [h.token]))).trans <|
      (run_bind_of_ok hclaim).trans <| (run_bind_of_ok (a := ()) (run_store_ok.mpr rfl)).trans ?_
    exact run_store_ok.mpr rfl

/-- A refusal comes before anything is written. -/
theorem applyCoupon_err {e : Error} (hrun : (applyCoupon subscriber id code).run env s = .err e t) :
    s = t := by
  let P : Outcome Error State Unit → Prop := fun o => o = .err e t → s = t
  have htrap : P .trap := fun h => nomatch h
  have herr (e' : Error) : P (.err e' s) := fun h => by
    cases h
    rfl
  refine (?_ : P ((applyCoupon subscriber id code).run env s)) hrun
  refine Keeps.run_bind_cases (P := P) (Modifies.requireAuth _) htrap herr fun _ _ => ?_
  refine Keeps.run_bind_cases (P := P) (Modifies.getSubscription _) htrap herr fun _ _ => ?_
  refine Keeps.run_bind_cases (P := P) (.failIf _ _) htrap herr fun _ _ => ?_
  refine Keeps.run_bind_cases (P := P) (.gets _) htrap herr fun _ _ => ?_
  refine Keeps.run_bind_cases (P := P) (.failIf _ _) htrap herr fun _ _ => ?_
  refine Keeps.run_bind_cases (P := P) (.gets _) htrap herr fun _ _ => ?_
  refine Keeps.run_bind_cases (P := P) (.failIf _ _) htrap herr fun _ _ => ?_
  refine Keeps.run_bind_cases (P := P) (.gets _) htrap herr fun _ _ => ?_
  refine Keeps.run_bind_cases (P := P) (.okOr _ _) htrap herr fun _ _ => ?_
  refine Keeps.run_bind_cases (P := P) (.failIf _ _) htrap herr fun _ _ => ?_
  refine Keeps.run_bind_cases (P := P) .ask htrap herr fun _ _ => ?_
  refine Keeps.run_bind_cases (P := P) (.failIf _ _) htrap herr fun _ _ => ?_
  refine Keeps.run_bind_cases (P := P) (.gets _) htrap herr fun _ _ => ?_
  refine Keeps.run_bind_cases (P := P) (.failIf _ _) htrap herr fun _ _ => ?_
  refine Keeps.run_bind_cases (P := P) (.failIf _ _) htrap herr fun _ _ hclaim => ?_
  rcases run_bind_err.mp hclaim with hfail | ⟨_, _, _, hrest⟩
  · rcases run_check_err (.gets _) hfail with rfl | ⟨_, -, hfail⟩
    · rfl
    rcases run_check_err (.failIf _ _) hfail with rfl | ⟨_, -, hfail⟩
    · rfl
    rcases run_check_err (.failIf _ _) hfail with rfl | ⟨_, -, hfail⟩
    · rfl
    · exact (run_store_err.mp hfail).elim
  · simp at hrest

/-- What the binding of one subscription shows of any other, and of any other code. -/
theorem State.bindCoupon_reads (s : State) (id : Nat) (code : Symbol) :
    (∀ j, (s.bindCoupon id code).boundCoupon j =
      if j = id then some code else s.boundCoupon j) ∧
    (∀ c, (s.bindCoupon id code).couponRedemptions c =
      if c = code then saturatingAddU32 (s.couponRedemptions code) 1
      else s.couponRedemptions c) ∧
    (∀ c, (s.bindCoupon id code).coupon c = s.coupon c) := by
  refine ⟨fun j => ?_, fun c => ?_, fun c => ?_⟩
  · unfold State.bindCoupon State.boundCoupon
    rw [FiniteStore.read_write_of_ne _ _ (by simp)]
    by_cases hj : j = id
    · subst hj
      rw [FiniteStore.read_write_self, if_pos rfl]
    · rw [FiniteStore.read_write_of_ne _ _ (by simpa using hj), if_neg hj,
        FiniteStore.read_write_of_ne _ _ (by simp)]
  · unfold State.bindCoupon
    rw [State.couponRedemptions, FiniteStore.read_write_of_ne _ _ (by simp),
      FiniteStore.read_write_of_ne _ _ (by simp)]
    by_cases hc : c = code
    · subst hc
      rw [FiniteStore.read_write_self, if_pos rfl]
      rfl
    · rw [FiniteStore.read_write_of_ne _ _ (by simpa using hc), if_neg hc]
      rfl
  · unfold State.bindCoupon State.coupon
    rw [FiniteStore.read_write_of_ne _ _ (by simp), FiniteStore.read_write_of_ne _ _ (by simp),
      FiniteStore.read_write_of_ne _ _ (by simp)]

end Binding

/-! ## Runs with coupons -/

inductive CouponAction where
  | call (env : Env) (call : VaultCall)
  | create (env : Env) (merchant : Address) (code : Symbol) (token : Address)
      (percentOffBps : Nat) (fixedOff : Int) (maxRedemptions expiresAt : Nat)
  | revoke (env : Env) (merchant : Address) (code : Symbol)
  | apply (env : Env) (subscriber : Address) (id : Nat) (code : Symbol)
  /-- An entrypoint that is not listed, a transfer of tokens outside the vault, or nothing. -/
  | other (env : Env)

/-- The numbers of subscriptions have 32 bits. -/
inductive CouponStep : CouponAction → State → State → Prop
  | call {env : Env} {call : VaultCall} {s t : State} :
      call.exec.run env s = .ok () t → CouponStep (.call env call) s t
  | create {env : Env} {merchant token : Address} {code : Symbol} {percentOffBps : Nat}
      {fixedOff : Int} {maxRedemptions expiresAt : Nat} {s t : State} :
      (stoppableCall (createCoupon merchant code token percentOffBps fixedOff maxRedemptions
        expiresAt)).run env s = .ok () t →
      CouponStep (.create env merchant code token percentOffBps fixedOff maxRedemptions
        expiresAt) s t
  | revoke {env : Env} {merchant : Address} {code : Symbol} {s t : State} :
      (stoppableCall (revokeCoupon merchant code)).run env s = .ok () t →
      CouponStep (.revoke env merchant code) s t
  | apply {env : Env} {subscriber : Address} {id : Nat} {code : Symbol} {s t : State} :
      id ≤ u32Max → (stoppableCall (applyCoupon subscriber id code)).run env s = .ok () t →
      CouponStep (.apply env subscriber id code) s t
  | other {env : Env} {s t : State} :
      FiniteStore.AgreeOff (areas (foreignAreas.erase .coupons)) s t → CouponStep (.other env) s t

/-- The subscription the step binds, with the code. -/
def CouponAction.binds : CouponAction → Option (Nat × Symbol)
  | .apply _ _ id code => some (id, code)
  | _ => none

/-- All bindings of the run, the latest first. -/
def bindings (hist : History CouponAction State) : List (Nat × Symbol) :=
  hist.filterMap (·.1.binds)

/-- The subscriptions that the code was ever bound to. -/
def boundTo (code : Symbol) (hist : History CouponAction State) : List Nat :=
  ((bindings hist).filter (·.2 = code)).map (·.1)

/-- All slots but the coupons, their counters and bindings. -/
def couponFree : Set Slot := {k | k.area ≠ .coupons}

/-- What is known after a run: every binding is still there, coupons lie under their codes, and
a code that is not known was never redeemed. -/
structure RedemptionsKept (hist : History CouponAction State) (s : State) : Prop where
  once : ((bindings hist).map (·.1)).Nodup
  bound : ∀ id code, s.boundCoupon id = some code ↔ (id, code) ∈ bindings hist
  numbered : ∀ entry ∈ bindings hist, entry.1 ≤ u32Max
  counted : ∀ code, s.couponRedemptions code = min (boundTo code hist).length u32Max
  limited : ∀ code coupon, s.coupon code = some coupon → 0 < coupon.maxRedemptions →
    s.couponRedemptions code ≤ coupon.maxRedemptions
  coded : ∀ code coupon, s.coupon code = some coupon → coupon.code = code
  unknown : ∀ code, s.coupon code = none → s.couponRedemptions code = 0

section Runs

variable {env : Env} {s t start : State} {l : CouponAction}
  {hist : History CouponAction State}

theorem areas_subset_couponFree {l : List Area} (hl : l.contains .coupons = false) :
    areas l ⊆ couponFree := by
  intro k hk harea
  have hin : l.contains k.area = true := hk
  rw [harea, hl] at hin
  cases hin

theorem VaultCall.coupons_untouched (call : VaultCall) :
    (Area.locks :: call.areas).contains .coupons = false := by
  cases call <;> rfl

theorem coupons_of_agreeOff (h : FiniteStore.AgreeOff couponFree s t) :
    t.boundCoupon = s.boundCoupon ∧ t.couponRedemptions = s.couponRedemptions ∧
      t.coupon = s.coupon := by
  refine ⟨funext fun id => ?_, funext fun code => ?_, funext fun code => ?_⟩
  · exact h.read (k := .persistent (.subCoupon id)) fun hmem => hmem rfl
  · exact congrArg (Option.getD · 0)
      (h.read (k := .persistent (.couponRedemptions code)) fun hmem => hmem rfl)
  · exact h.read (k := .persistent (.coupon code)) fun hmem => hmem rfl

theorem State.coupon_written (s : State) (code : Symbol) (coupon : Coupon) :
    State.boundCoupon (s.write (.persistent (.coupon code)) coupon) = s.boundCoupon ∧
      State.couponRedemptions (s.write (.persistent (.coupon code)) coupon) =
        s.couponRedemptions ∧
      ∀ c, State.coupon (s.write (.persistent (.coupon code)) coupon) c =
        if c = code then some coupon else s.coupon c := by
  refine ⟨funext fun id => ?_, funext fun c => ?_, fun c => ?_⟩
  · exact FiniteStore.read_write_of_ne s _ (by simp)
  · exact congrArg (Option.getD · 0) (FiniteStore.read_write_of_ne s _ (by simp))
  · unfold State.coupon
    by_cases hc : c = code
    · subst hc
      rw [FiniteStore.read_write_self, if_pos rfl]
    · rw [FiniteStore.read_write_of_ne _ _ (by simpa using hc), if_neg hc]

theorem createCoupon_writes {merchant token : Address} {code : Symbol} {percentOffBps : Nat}
    {fixedOff : Int} {maxRedemptions expiresAt : Nat} {u : Unit}
    (hrun : (createCoupon merchant code token percentOffBps fixedOff maxRedemptions
      expiresAt).run env s = .ok u t) :
    s.coupon code = none ∧
      s.write (.persistent (.coupon code)) (⟨code, merchant, token, percentOffBps, fixedOff,
        maxRedemptions, expiresAt, false⟩ : Coupon) = t := by
  obtain ⟨_, -, hrun⟩ := run_check_ok (Modifies.requireAuth _) hrun
  obtain ⟨_, -, hrun⟩ := run_check_ok (.failIf _ _) hrun
  obtain ⟨_, -, hrun⟩ := run_check_ok (.failIf _ _) hrun
  obtain ⟨_, -, hrun⟩ := run_check_ok .ask hrun
  obtain ⟨_, -, hrun⟩ := run_check_ok (.failIf _ _) hrun
  obtain ⟨found, hfound, hrun⟩ := run_check_ok (.gets _) hrun
  obtain rfl := (run_gets_ok.mp hfound).1
  obtain ⟨_, hnew, hrun⟩ := run_check_ok (.failIf _ _) hrun
  exact ⟨Option.not_isSome_iff_eq_none.mp (run_failIf_ok.mp hnew).1, run_store_ok.mp hrun⟩

theorem revokeCoupon_writes {merchant : Address} {code : Symbol} {u : Unit}
    (hrun : (revokeCoupon merchant code).run env s = .ok u t) :
    ∃ coupon, s.coupon code = some coupon ∧
      s.write (.persistent (.coupon coupon.code)) { coupon with revoked := true } = t := by
  obtain ⟨_, -, hrun⟩ := run_check_ok (Modifies.requireAuth _) hrun
  obtain ⟨found, hfound, hrun⟩ := run_check_ok (.gets _) hrun
  obtain rfl := (run_gets_ok.mp hfound).1
  obtain ⟨coupon, hcoupon, hrun⟩ := run_check_ok (.okOr _ _) hrun
  obtain ⟨_, -, hrun⟩ := run_check_ok (.failIf _ _) hrun
  exact ⟨coupon, (run_okOr_ok.mp hcoupon).1, run_store_ok.mp hrun⟩

/-! ## One step -/

theorem bindings_quiet (hquiet : l.binds = none) : bindings ((l, s) :: hist) = bindings hist := by
  unfold bindings
  rw [List.filterMap_cons, hquiet]

theorem boundTo_quiet (hquiet : l.binds = none) (code : Symbol) :
    boundTo code ((l, s) :: hist) = boundTo code hist := by
  unfold boundTo
  rw [bindings_quiet hquiet]

/-- A step that binds nothing leaves all counters and bindings alone, and no coupon gets more
redemptions than it had. -/
structure LeavesCounters (s t : State) : Prop where
  bound : t.boundCoupon = s.boundCoupon
  redemptions : t.couponRedemptions = s.couponRedemptions
  coupons : ∀ code, t.coupon code = s.coupon code ∨ (∃ coupon, t.coupon code = some coupon ∧
    coupon.code = code ∧ (s.coupon code = none ∨ ∃ old, s.coupon code = some old ∧
      old.maxRedemptions = coupon.maxRedemptions))

theorem LeavesCounters.of_agreeOff (h : FiniteStore.AgreeOff couponFree s t) :
    LeavesCounters s t := by
  obtain ⟨hbound, hredemptions, hcoupon⟩ := coupons_of_agreeOff h
  exact ⟨hbound, hredemptions, fun code => .inl (congrFun hcoupon code)⟩

theorem CouponStep.leavesCounters (hstep : CouponStep l s t) (hkept : RedemptionsKept hist s)
    (hquiet : l.binds = none) : LeavesCounters s t := by
  cases hstep with
  | call hrun =>
    exact .of_agreeOff (((VaultCall.worksIn _).ok hrun).1.mono
      (areas_subset_couponFree (VaultCall.coupons_untouched _)))
  | other hagree => exact .of_agreeOff (hagree.mono (areas_subset_couponFree rfl))
  | @create env merchant token code percentOffBps fixedOff maxRedemptions expiresAt _ _ hrun =>
    obtain ⟨hnew, rfl⟩ := createCoupon_writes (run_stoppableCall_ok.mp hrun).2
    obtain ⟨hbound, hredemptions, hcoupon⟩ := s.coupon_written code
      ⟨code, merchant, token, percentOffBps, fixedOff, maxRedemptions, expiresAt, false⟩
    refine ⟨hbound, hredemptions, fun c => ?_⟩
    rw [hcoupon c]
    by_cases hc : c = code
    · subst hc
      rw [if_pos rfl]
      exact .inr ⟨_, rfl, rfl, .inl hnew⟩
    · exact .inl (if_neg hc)
  | @revoke env merchant code _ _ hrun =>
    obtain ⟨coupon, hfound, rfl⟩ := revokeCoupon_writes (run_stoppableCall_ok.mp hrun).2
    have hcode : coupon.code = code := hkept.coded code coupon hfound
    obtain ⟨hbound, hredemptions, hcoupon⟩ := s.coupon_written coupon.code
      { coupon with revoked := true }
    refine ⟨hbound, hredemptions, fun c => ?_⟩
    rw [hcoupon c]
    by_cases hc : c = coupon.code
    · rw [if_pos hc]
      refine .inr ⟨_, rfl, hc.symm, .inr ⟨coupon, ?_, rfl⟩⟩
      rw [hc, hcode]
      exact hfound
    · exact .inl (if_neg hc)
  | apply _ _ => cases hquiet

theorem RedemptionsKept.quiet (hkept : RedemptionsKept hist s) (hleaves : LeavesCounters s t)
    (hquiet : l.binds = none) : RedemptionsKept ((l, s) :: hist) t where
  once := by
    rw [bindings_quiet hquiet]
    exact hkept.once
  bound id code := by
    rw [bindings_quiet hquiet, hleaves.bound]
    exact hkept.bound id code
  numbered := by
    rw [bindings_quiet hquiet]
    exact hkept.numbered
  counted code := by
    rw [boundTo_quiet hquiet, hleaves.redemptions]
    exact hkept.counted code
  limited code coupon hcoupon hlimit := by
    rw [hleaves.redemptions]
    rcases hleaves.coupons code with hsame | ⟨new, hnew, -, hnone | ⟨old, hold, hmax⟩⟩
    · exact hkept.limited code coupon (hsame ▸ hcoupon) hlimit
    · rw [hkept.unknown code hnone]
      exact Nat.zero_le _
    · obtain rfl := Option.some.inj (hnew.symm.trans hcoupon)
      rw [← hmax] at hlimit ⊢
      exact hkept.limited code old hold hlimit
  coded code coupon hcoupon := by
    rcases hleaves.coupons code with hsame | ⟨new, hnew, hcode, -⟩
    · exact hkept.coded code coupon (hsame ▸ hcoupon)
    · obtain rfl := Option.some.inj (hnew.symm.trans hcoupon)
      exact hcode
  unknown code hnone := by
    rw [hleaves.redemptions]
    rcases hleaves.coupons code with hsame | ⟨new, hnew, -⟩
    · exact hkept.unknown code (hsame ▸ hnone)
    · rw [hnone] at hnew
      cases hnew

theorem bindings_apply {subscriber : Address} {id : Nat} {code : Symbol} :
    bindings ((.apply env subscriber id code, s) :: hist) = (id, code) :: bindings hist :=
  rfl

theorem boundTo_apply {subscriber : Address} {id : Nat} {code : Symbol} (c : Symbol) :
    boundTo c ((.apply env subscriber id code, s) :: hist) =
      if c = code then id :: boundTo c hist else boundTo c hist := by
  unfold boundTo
  rw [bindings_apply, List.filter_cons]
  by_cases hc : c = code
  · rw [if_pos hc, if_pos (by simp [hc]), List.map_cons]
  · rw [if_neg hc, if_neg (by simp [Ne.symm hc])]

theorem RedemptionsKept.bind {subscriber : Address} {id : Nat} {code : Symbol}
    (hkept : RedemptionsKept hist s) (hid : id ≤ u32Max)
    (hrun : (applyCoupon subscriber id code).run env s = .ok () t) :
    RedemptionsKept ((.apply env subscriber id code, s) :: hist) t := by
  obtain ⟨⟨sub, coupon, hbind⟩, rfl⟩ := run_applyCoupon_ok.mp hrun
  obtain ⟨hbound, hredemptions, hcoupon⟩ := s.bindCoupon_reads id code
  have hnone (c : Symbol) : (id, c) ∉ bindings hist := fun hmem => by
    have hsome := (hkept.bound id c).mpr hmem
    rw [hbind.unbound] at hsome
    cases hsome
  refine ⟨?_, fun j c => ?_, ?_, fun c => ?_, fun c found hfound hlimit => ?_,
    fun c found hfound => ?_, fun c hunknown => ?_⟩
  · rw [bindings_apply, List.map_cons]
    refine List.nodup_cons.mpr ⟨fun hmem => ?_, hkept.once⟩
    obtain ⟨⟨j, c⟩, hentry, rfl⟩ := List.mem_map.mp hmem
    exact hnone c hentry
  · rw [bindings_apply, hbound j, List.mem_cons, Prod.mk.injEq]
    by_cases hj : j = id
    · subst hj
      rw [if_pos rfl, Option.some.injEq]
      constructor
      · exact fun hc => .inl ⟨rfl, hc.symm⟩
      · rintro (⟨-, hc⟩ | hmem)
        · exact hc.symm
        · exact absurd hmem (hnone c)
    · rw [if_neg hj, hkept.bound j c]
      constructor
      · exact .inr
      · rintro (⟨hsame, -⟩ | hmem)
        · exact absurd hsame hj
        · exact hmem
  · rw [bindings_apply]
    intro entry hmem
    rcases List.mem_cons.mp hmem with rfl | hmem
    · exact hid
    · exact hkept.numbered entry hmem
  · rw [hredemptions c, boundTo_apply]
    by_cases hc : c = code
    · subst hc
      rw [if_pos rfl, if_pos rfl, hkept.counted c, List.length_cons]
      unfold saturatingAddU32
      omega
    · rw [if_neg hc, if_neg hc]
      exact hkept.counted c
  · rw [hcoupon c] at hfound
    rw [hredemptions c]
    by_cases hc : c = code
    · subst hc
      obtain rfl := Option.some.inj (hbind.issued.symm.trans hfound)
      have hleft : ¬(0 < coupon.maxRedemptions ∧
        coupon.maxRedemptions ≤ s.couponRedemptions c) := hbind.left
      rw [if_pos rfl]
      unfold saturatingAddU32
      omega
    · rw [if_neg hc]
      exact hkept.limited c found hfound hlimit
  · rw [hcoupon c] at hfound
    exact hkept.coded c found hfound
  · rw [hcoupon c] at hunknown
    have hc : c ≠ code := by
      rintro rfl
      rw [hbind.issued] at hunknown
      cases hunknown
    rw [hredemptions c, if_neg hc]
    exact hkept.unknown c hunknown

theorem CouponStep.kept (hstep : CouponStep l s t) (hkept : RedemptionsKept hist s) :
    RedemptionsKept ((l, s) :: hist) t := by
  cases hquiet : l.binds with
  | none => exact hkept.quiet (hstep.leavesCounters hkept hquiet) hquiet
  | some entry =>
    cases hstep with
    | apply hid hrun => exact hkept.bind hid (run_stoppableCall_ok.mp hrun).2
    | _ => cases hquiet

theorem redemptionsKept_of_run (hdeployed : Deployed start) (hrun : Run CouponStep start hist s) :
    RedemptionsKept hist s := by
  induction hrun with
  | start =>
    obtain ⟨hbound, hredemptions, hcoupon⟩ :=
      coupons_of_agreeOff (hdeployed.areas.mono (areas_subset_couponFree rfl))
    refine ⟨List.nodup_nil, fun id code => ?_, fun _ hmem => absurd hmem List.not_mem_nil,
      fun code => ?_, fun code coupon hfound => ?_, fun code coupon hfound => ?_, fun code _ => ?_⟩
    · rw [hbound]
      exact iff_of_false nofun List.not_mem_nil
    · rw [hredemptions]
      rfl
    · rw [hcoupon] at hfound
      cases hfound
    · rw [hcoupon] at hfound
      cases hfound
    · rw [hredemptions]
      rfl
  | next _ hstep ih => exact hstep.kept ih

end Runs

/-! ## The books of the coupons -/

/-- The counter stays at its end when every subscription there can be is bound to the code. -/
structure CouponsAccounted (hist : History CouponAction State) (s : State) : Prop where
  counted : ∀ code, s.couponRedemptions code = min (boundTo code hist).toFinset.card u32Max
  few : ∀ code, (boundTo code hist).toFinset.card ≤ u32Max + 1
  limited : ∀ code coupon, s.coupon code = some coupon → 0 < coupon.maxRedemptions →
    s.couponRedemptions code ≤ coupon.maxRedemptions
  bound : ∀ id code, s.boundCoupon id = some code ↔ (id, code) ∈ bindings hist
  once : ((bindings hist).map (·.1)).Nodup
  refused : ∀ env subscriber id code e t,
    (stoppableCall (applyCoupon subscriber id code)).run env s = .err e t → s = t
  quiet : ∀ l t, CouponStep l s t → l.binds = none → t.couponRedemptions = s.couponRedemptions

theorem boundTo_sublist (code : Symbol) (hist : History CouponAction State) :
    (boundTo code hist).Sublist ((bindings hist).map (·.1)) :=
  List.filter_sublist.map _

theorem RedemptionsKept.boundTo_nodup {hist : History CouponAction State} {s : State}
    (hkept : RedemptionsKept hist s) (code : Symbol) : (boundTo code hist).Nodup :=
  hkept.once.sublist (boundTo_sublist code hist)

theorem RedemptionsKept.accounted {hist : History CouponAction State} {s : State}
    (hkept : RedemptionsKept hist s) : CouponsAccounted hist s where
  counted code := by
    rw [List.toFinset_card_of_nodup (hkept.boundTo_nodup code)]
    exact hkept.counted code
  few code := by
    have hrange : (boundTo code hist).toFinset ⊆ Finset.range (u32Max + 1) := by
      intro id hmem
      have hlisted := (boundTo_sublist code hist).subset (List.mem_toFinset.mp hmem)
      obtain ⟨entry, hentry, rfl⟩ := List.mem_map.mp hlisted
      exact Finset.mem_range.mpr (Nat.lt_succ_of_le (hkept.numbered entry hentry))
    have hcard := Finset.card_le_card hrange
    rw [Finset.card_range] at hcard
    exact hcard
  limited := hkept.limited
  bound := hkept.bound
  once := hkept.once
  refused env subscriber id code e t hrun := by
    rcases run_bind_err.mp hrun with hstop | ⟨_, m, hopen, happly⟩
    · rcases run_check_err (.gets _) hstop with rfl | ⟨_, -, hstop⟩
      · rfl
      · exact (run_failIf_err.mp hstop).2.2
    · obtain ⟨-, rfl⟩ := run_requireNotEmergencyStop_ok.mp hopen
      exact applyCoupon_err happly
  quiet l t hstep hquiet := (hstep.leavesCounters hkept hquiet).redemptions

theorem State.emergencyStop_written (s : State) (stopped : Bool) :
    State.emergencyStop (s.write (.persistent .emergencyStop) stopped) = stopped := by
  simp [State.emergencyStop, State.config]

/-- A page with one subscription, restored by the admin under the emergency stop. -/
theorem run_restore_one {env : Env} {s : State} {admin : Address} (entry : SubscriptionSummary)
    (hsigned : env.authorized admin = true ∧ admin ≠ env.host.contract)
    (hadmin : s.admin = some admin) (hstopped : s.emergencyStop = true) :
    ∃ t, (restoreSnapshotPage admin [entry] []).run env s = .ok () t ∧
      t.subscription entry.subscriptionId = some entry.record := by
  have hread : (gets (·.emergencyStop) : Vault _).run env s = .ok true s :=
    run_gets_ok.mpr ⟨hstopped, rfl⟩
  have hrecord : State.subscription (s.write (.persistent (.sub entry.subscriptionId)) entry.record)
      entry.subscriptionId = some entry.record := FiniteStore.read_write_self _ _
  have hwritten : (forEach [entry] fun summary =>
      writeSubscription summary.subscriptionId summary.record).run env s =
        .ok () (s.write (.persistent (.sub entry.subscriptionId)) entry.record) :=
    run_forEach_cons_ok.mpr ⟨_, run_store_ok.mpr rfl, run_forEach_nil_ok.mpr rfl⟩
  let current : Nat := (s.read (.instanced .nextId)).getD 0
  have hpage (t : State) : (restoreSnapshotPage admin [entry] []).run env s = .ok () t ↔
      (when (current < nextIdAfter current [entry])
        (store (.instanced .nextId) (nextIdAfter current [entry])) : Vault Unit).run env
        (s.write (.persistent (.sub entry.subscriptionId)) entry.record) = .ok () t := by
    unfold restoreSnapshotPage
    rw [run_seq_of_ok (run_requireAdminAuth_ok.mpr ⟨⟨hadmin, hsigned⟩, rfl⟩),
      run_bind_of_ok hread, run_seq_of_ok (run_failIf_ok.mpr ⟨by simp, rfl⟩),
      run_bind_of_ok (run_load_ok.mpr ⟨rfl, rfl⟩), run_seq_of_ok hwritten,
      run_seq_of_ok (run_forEach_nil_ok.mpr rfl)]
  by_cases hraise : current < nextIdAfter current [entry]
  · refine ⟨_, (hpage _).mpr (run_when_ok.mpr (.inl ⟨hraise, run_store_ok.mpr rfl⟩)), ?_⟩
    exact (FiniteStore.read_write_of_ne _ _ (by simp)).trans hrecord
  · exact ⟨_, (hpage _).mpr (run_when_ok.mpr (.inr ⟨hraise, rfl⟩)), hrecord⟩

private def popularCode : Symbol := ⟨5⟩

private def popularCoupon : Coupon where
  code := popularCode
  merchant := ⟨1⟩
  token := ⟨9⟩
  percentOffBps := 1000
  fixedOff := 1
  maxRedemptions := 0
  expiresAt := 0
  revoked := false

/-- An active subscription in a snapshot. -/
private def numberedEntry (id : Nat) : SubscriptionSummary where
  subscriptionId := id
  subscriber := ⟨2⟩
  merchant := ⟨1⟩
  token := ⟨9⟩
  amount := 10
  intervalSeconds := 60
  lastPaymentTimestamp := 0
  status := .active
  prepaidBalance := 25
  usageEnabled := false
  lifetimeCap := none
  lifetimeCharged := 0
  startTime := 0
  expiresAt := none
  expiresAtLedger := none

/-- The subscriptions below `n` are bound, and the admin can restore the next one. -/
private structure BoundBelow (n : Nat) (hist : History CouponAction State) (s : State) : Prop where
  run : Run CouponStep (sampleStart 0) hist s
  admin : s.read (.persistent .admin) = some ⟨8⟩
  coupon : s.coupon popularCode = some popularCoupon
  unredeemed : ∀ id, n ≤ id → s.isCouponRedeemed id popularCode = false
  unbound : ∀ id, n ≤ id → s.boundCoupon id = none
  length : (boundTo popularCode hist).length = n

private theorem BoundBelow.next {n : Nat} {hist : History CouponAction State} {s : State}
    (h : BoundBelow n hist s) (hn : n ≤ u32Max) : ∃ hist t, BoundBelow (n + 1) hist t := by
  let stopped : State := s.write (.persistent .emergencyStop) true
  have hstop : CouponStep (.other (sampleEnv 1 [])) s stopped :=
    .other (FiniteStore.agreeOff_write s _ rfl)
  have hkey : stopped.read (.persistent .admin) = some ⟨8⟩ :=
    (FiniteStore.read_write_of_ne s true (by simp)).trans h.admin
  have hadmin : stopped.admin = some ⟨8⟩ := by simp [State.admin, State.config, hkey]
  have hsigned : (sampleEnv 1 [⟨8⟩]).authorized ⟨8⟩ = true ∧
      (⟨8⟩ : Address) ≠ (sampleEnv 1 [⟨8⟩]).host.contract := by decide
  obtain ⟨restored, hrestore, hrecord⟩ := run_restore_one (numberedEntry n) hsigned hadmin
    (s.emergencyStop_written true)
  have hpage : CouponStep (.call (sampleEnv 1 [⟨8⟩])
      (.restoreSnapshotPage ⟨8⟩ [numberedEntry n] [])) stopped restored := .call hrestore
  have hsame := (restoreSnapshotPage_areas _ _ _).ok hrestore
  let started : State := restored.write (.persistent .emergencyStop) false
  have hstart : CouponStep (.other (sampleEnv 1 [])) restored started :=
    .other (FiniteStore.agreeOff_write restored _ rfl)
  have hopen : started.emergencyStop = false := restored.emergencyStop_written false
  have hread {k : Slot} {α : Type} [Holds Slot.Val k α] (hk : k ≠ .persistent .emergencyStop)
      (hout : [Area.records, .balances, .numbering].contains k.area = false) :
      (started.read k : Option α) = s.read k := by
    rw [FiniteStore.read_write_of_ne _ _ hk, State.read_of_areas hsame hout,
      FiniteStore.read_write_of_ne _ _ hk]
  have hcoupon : started.coupon popularCode = some popularCoupon :=
    (hread (by simp) rfl).trans h.coupon
  have hfound : started.subscription n = some (numberedEntry n).record :=
    (FiniteStore.read_write_of_ne restored false (by simp)).trans hrecord
  obtain ⟨status, heffective⟩ := State.effectiveSubscription_of_subscription hfound 1
  have hredeemed (id : Nat) : started.isCouponRedeemed id popularCode =
      s.isCouponRedeemed id popularCode :=
    congrArg Option.isSome (hread (by simp) rfl)
  have hbound (id : Nat) : started.boundCoupon id = s.boundCoupon id := hread (by simp) rfl
  have hbind : CanBind (sampleEnv 1 [⟨2⟩]) started ⟨2⟩ n popularCode
      { (numberedEntry n).record with status } popularCoupon :=
    { signed := by decide
      found := heffective
      owner := rfl
      fresh := (hredeemed n).trans (h.unredeemed n le_rfl)
      unbound := (hbound n).trans (h.unbound n le_rfl)
      issued := hcoupon
      active := rfl
      timely := by decide
      left := fun hlimit => absurd hlimit.1 (by decide)
      token := rfl }
  have happly : CouponStep (.apply (sampleEnv 1 [⟨2⟩]) ⟨2⟩ n popularCode) started
      (started.bindCoupon n popularCode) :=
    .apply hn (run_stoppableCall_ok.mpr ⟨hopen, run_applyCoupon_ok.mpr ⟨⟨_, _, hbind⟩, rfl⟩⟩)
  obtain ⟨hboundAfter, -, hcouponAfter⟩ := started.bindCoupon_reads n popularCode
  refine ⟨_, _, (((h.run.next hstop).next hpage).next hstart).next happly, ?_, ?_,
    fun id hid => ?_, fun id hid => ?_, ?_⟩
  · unfold State.bindCoupon
    rw [FiniteStore.read_write_of_ne _ _ (by simp), FiniteStore.read_write_of_ne _ _ (by simp),
      FiniteStore.read_write_of_ne _ _ (by simp), hread (by simp) rfl]
    exact h.admin
  · exact (hcouponAfter popularCode).trans hcoupon
  · have hkept : (started.bindCoupon n popularCode).isCouponRedeemed id popularCode =
        started.isCouponRedeemed id popularCode := by
      have hne : id ≠ n := by omega
      unfold State.bindCoupon State.isCouponRedeemed
      rw [FiniteStore.read_write_of_ne _ _ (by simpa using hne),
        FiniteStore.read_write_of_ne _ _ (by simp), FiniteStore.read_write_of_ne _ _ (by simp)]
    rw [hkept, hredeemed id]
    exact h.unredeemed id (by omega)
  · rw [hboundAfter id, if_neg (by omega), hbound id]
    exact h.unbound id (by omega)
  · rw [boundTo_apply, if_pos rfl, List.length_cons, boundTo_quiet rfl, boundTo_quiet rfl,
      boundTo_quiet rfl, h.length]

private def announced : State :=
  (createCoupon ⟨1⟩ popularCode ⟨9⟩ 1000 1 0 0).after (sampleEnv 1 [⟨1⟩]) (sampleStart 0)

private theorem bound_below (n : Nat) (hn : n ≤ u32Max + 1) : ∃ hist s, BoundBelow n hist s := by
  induction n with
  | zero =>
    have hcreate : (stoppableCall (createCoupon ⟨1⟩ popularCode ⟨9⟩ 1000 1 0 0)).run
        (sampleEnv 1 [⟨1⟩]) (sampleStart 0) = .ok () announced :=
      run_stoppableCall_ok.mpr ⟨by decide +kernel, run_eq_after (by decide +kernel)⟩
    obtain ⟨-, hwritten⟩ := createCoupon_writes (run_stoppableCall_ok.mp hcreate).2
    have hnew {k : Slot} {α : Type} [Holds Slot.Val k α]
        (hk : k ≠ .persistent (.coupon popularCode)) :
        (announced.read k : Option α) = (sampleStart 0).read k := by
      rw [← hwritten, FiniteStore.read_write_of_ne _ _ hk]
    have hunset {k : Slot} {α : Type} [Holds Slot.Val k α] (hk : k.area = .coupons) :
        ((sampleStart 0).read k : Option α) = none := by
      rw [State.read_of_areas (sample_deployed 0).areas (by rw [hk]; rfl), FiniteStore.read_empty]
    refine ⟨_, _, .next .start (.create hcreate), ?_, by decide +kernel, fun id _ => ?_,
      fun id _ => ?_, rfl⟩
    · decide +kernel
    · unfold State.isCouponRedeemed
      rw [hnew (by simp), hunset rfl]
      rfl
    · unfold State.boundCoupon
      rw [hnew (by simp), hunset rfl]
  | succ n ih =>
    obtain ⟨hist, s, h⟩ := ih (by omega)
    exact h.next (by omega)

end SubscriptionVault
