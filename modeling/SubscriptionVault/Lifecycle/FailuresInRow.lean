import SubscriptionVault.Charging.AutoPause

/-!
# Failures in a row

The attempts to charge a subscription that left it underfunded, since the last charge, deposit or
resumption, are counted in a slot of their own. The count is right as long as nothing starts it
over without clearing the slot, and then the subscription is paused at the attempt that reaches
the threshold and at no other.
-/

namespace SubscriptionVault

open Exec

/-! ## Attempts, deposits and resumptions -/

/-- The key of the interval charge of `id` that a step attempts. -/
def VaultAction.attempts (id : Nat) : VaultAction → Option (Option BytesN32)
  | .call _ (.chargeSubscription j key) | .item _ (.charge j key) =>
    if j = id then some key else none
  | .call _ (.operatorChargeSubscription _ j) => if j = id then some none else none
  | _ => none

/-- The attempt ends with `result` in a state with `P`. -/
def VaultAction.EndsIn (id : Nat) (result : ChargeExecutionResult)
    (P : Option BytesN32 → Option Subscription → Prop) (l : VaultAction) (s : State) : Prop :=
  ∃ key t, l.attempts id = some key ∧
    (chargeOne id key none ∅).run l.env s = .ok result t ∧ P key (t.subscription id)

/-- The attempt leaves the subscription underfunded, outside a grace period. -/
def VaultAction.FallsShort (id : Nat) : VaultAction → State → Prop :=
  VaultAction.EndsIn id .insufficientBalance fun _ after => ∃ sub, after = some sub ∧
    (sub.status = .insufficientBalance ∨ sub.status = .paused)

/-- It pauses the subscription as well. -/
def VaultAction.AutoPauses (id : Nat) : VaultAction → State → Prop :=
  VaultAction.EndsIn id .insufficientBalance fun _ after => ∃ sub, after = some sub ∧
    sub.status = .paused

/-- The interval is charged, and not just reported as charged before. -/
def VaultAction.TakesCharge (id : Nat) (l : VaultAction) (s : State) : Prop :=
  l.EndsIn id .charged (fun key _ => s.isReplayedKey l.env .chargeInterval id key = false) s

/-- A deposit by one of the three paths. -/
def VaultAction.Deposits (id : Nat) : VaultAction → State → Prop
  | .call _ (.depositFunds j _ _), _ | .call _ (.depositFundsOnBehalf j _ _ _), _ => j = id
  | .item env (.deposit caller j amount), s =>
    j = id ∧ ∃ t, (bulkDepositOne caller j amount).run env s = .ok () t
  | _, _ => False

/-- The subscription is resumed; it was not active. -/
def VaultAction.Resumes (id : Nat) : VaultAction → State → Prop
  | .call env (.resumeSubscription j _), s => j = id ∧ ∃ sub,
    s.effectiveSubscription id env.now = some sub ∧ sub.status ≠ .active
  | _, _ => False

/-- What the count of failures starts over with. -/
def VaultAction.StartsOver (id : Nat) (l : VaultAction) (s : State) : Prop :=
  l.TakesCharge id s ∨ l.Deposits id s ∨ l.Resumes id s ∨ l.AutoPauses id s

/-- The failures since the last charge, deposit, resumption or pause of this kind. -/
noncomputable def failuresInRow (id : Nat) (hist : History VaultAction State) : Nat :=
  streak (VaultAction.FallsShort id) (VaultAction.StartsOver id) hist

/-- Deposits on behalf and resumptions find no failure counted, and an entry of a batch that is
funded can be logged or finds none either. -/
def VaultAction.KeepsCount (id : Nat) : VaultAction → State → Prop
  | .call _ (.depositFundsOnBehalf j _ _ _), s => j = id → s.failures id = 0
  | .call env (.resumeSubscription j authorizer), s =>
    VaultAction.Resumes id (.call env (.resumeSubscription j authorizer)) s → s.failures id = 0
  | .item env (.charge j key), s => j = id → s.failures id = 0 ∨ LogsFunded env s id key
  | _, _ => True


/-- Code that is not listed leaves the counters alone. -/
abbrev CountedStep : VaultAction → State → State → Prop :=
  TidyStep (areas (.locks :: foreignAreas))

section Steps

variable {env : Env} {s t : State} {l : VaultAction} {id j : Nat} {key : Option BytesN32}
  {call : VaultCall}

/-! ## What steps do to the count -/

/-- What a deposit writes once it has cleared the counter. -/
theorem deposited_uncounted (sub : Subscription) (payer contract : Address) (amount : Int) :
    Modifies uncounted (do
      writeSubscription j sub
      transfer sub.token payer contract amount
      addTotalAccounted sub.token amount) :=
  .bind ((writeSubscription_areas _ _).uncounted rfl) fun _ =>
    .bind (Modifies.transfer nofun nofun) fun _ => .pure ()

theorem doDepositFunds_failures {amount : Int} {nonce : Option Nat} {u : Unit}
    (hrun : (doDepositFunds j amount nonce).run env s = .ok u t) :
    t.failures id = if j = id then 0 else s.failures id := by
  obtain ⟨_, -, hrun⟩ := run_check_ok .ask hrun
  obtain ⟨sub, -, hrun⟩ := run_check_ok (Modifies.getSubscription _) hrun
  obtain ⟨_, -, hrun⟩ := run_check_ok (Modifies.requireAuth _) hrun
  obtain ⟨_, -, hrun⟩ := run_check_ok (Modifies.requireNotBlocklisted _) hrun
  obtain ⟨_, s₁, hnonce, hrun⟩ := run_bind_ok.mp hrun
  have hadvance : Modifies (areas [.nonces])
      (whenSome nonce (checkAndAdvance sub.subscriber .depositFunds)) :=
    .whenSome fun _ => Modifies.checkAndAdvance rfl
  obtain ⟨_, -, hrun⟩ := run_check_ok (.failIf _ _) hrun
  obtain ⟨_, -, hrun⟩ := run_check_ok (Modifies.enforceMinTopup _) hrun
  obtain ⟨_, -, hrun⟩ := run_check_ok (Modifies.requireNotBlocklisted _) hrun
  obtain ⟨_, -, hrun⟩ := run_check_ok (Modifies.checkMerchantStatus _ _) hrun
  obtain ⟨-, hrun⟩ := run_unexpired_ok hrun
  obtain ⟨_, -, hrun⟩ := run_check_ok (Modifies.enforceCreditLimitForDelta _ _ _) hrun
  obtain ⟨_, -, hrun⟩ := run_check_ok (.failIf _ _) hrun
  obtain ⟨balance, -, hrun⟩ := run_check_ok (.lift _) hrun
  obtain ⟨_, s₂, hclear, hrun⟩ := run_bind_ok.mp hrun
  obtain rfl := run_delete_ok.mp hclear
  exact State.failures_cleared ((hadvance.ok hnonce).mono (areas_subset_uncounted rfl))
    ((deposited_uncounted _ _ _ _).ok hrun) id

theorem bulkDepositOne_failures {caller : Address} {amount : Int} {u : Unit}
    (hrun : (bulkDepositOne caller j amount).run env s = .ok u t) :
    t.failures id = if j = id then 0 else s.failures id := by
  obtain ⟨_, -, hrun⟩ := run_check_ok .ask hrun
  obtain ⟨sub, -, hrun⟩ := run_check_ok (Modifies.getSubscription _) hrun
  obtain ⟨_, -, hrun⟩ := run_check_ok (.failIf _ _) hrun
  obtain ⟨_, -, hrun⟩ := run_check_ok (Modifies.enforceMinTopup _) hrun
  obtain ⟨_, -, hrun⟩ := run_check_ok (Modifies.checkMerchantStatus _ _) hrun
  obtain ⟨_, -, hrun⟩ := run_check_ok (.failIf _ _) hrun
  obtain ⟨_, -, hrun⟩ := run_check_ok (Modifies.enforceCreditLimitForDelta _ _ _) hrun
  obtain ⟨_, -, hrun⟩ := run_check_ok (.failIf _ _) hrun
  obtain ⟨balance, -, hrun⟩ := run_check_ok (.lift _) hrun
  obtain ⟨_, s₂, hclear, hrun⟩ := run_bind_ok.mp hrun
  obtain rfl := run_delete_ok.mp hclear
  exact State.failures_cleared (Std.Refl.refl _) ((deposited_uncounted _ _ _ _).ok hrun) id

/-- The attempt of a call is `chargeOne` behind a lock, and that of an entry is `chargeOne`. -/
theorem VaultStep.attempted (h : VaultStep l s t) (hattempt : l.attempts id = some key) :
    (∃ result v, (chargeOne id key none ∅).run l.env s = .ok result v ∧ SameButCall v t) ∨
      ∃ e, l = .item l.env (.charge id key) ∧
        (chargeOne id key none ∅).run l.env s = .err e t := by
  have hunlocked {env : Env} {name : LockName} {result : ChargeExecutionResult} {u : State}
      (hbody : (chargeOne id key none ∅).run env (s.write (.lock name) true) = .ok result u) :
      ∃ result v, (chargeOne id key none ∅).run env s = .ok result v ∧
        SameButCall v (u.remove (.lock name)) := by
    have hmatches := IgnoresCall.chargeOne id key env s _
      (SameButCall.of_write (k := .lock name) s true rfl)
    rw [hbody] at hmatches
    obtain ⟨v, hv, hsame⟩ := hmatches.ok_of
    exact ⟨result, v, hv, hsame.trans (SameButCall.of_remove u rfl)⟩
  cases h with
  | @call env c _ _ hsingle hrun =>
    cases c
    case chargeSubscription j k =>
      obtain ⟨rfl, hkey⟩ := Option.ite_none_right_eq_some.mp hattempt
      obtain rfl := Option.some.inj hkey
      obtain ⟨result, hrun⟩ := run_effectOf_ok.mp hrun
      obtain ⟨-, u, hbody, rfl⟩ := run_withLock_ok.mp (run_guardedCall_ok.mp hrun).2
      exact .inl (hunlocked hbody)
    case operatorChargeSubscription op j =>
      obtain ⟨rfl, hkey⟩ := Option.ite_none_right_eq_some.mp hattempt
      obtain rfl := Option.some.inj hkey
      obtain ⟨result, hrun⟩ := run_effectOf_ok.mp hrun
      obtain ⟨-, u, hbody, rfl⟩ := run_withLock_ok.mp (run_guardedCall_ok.mp hrun).2
      obtain ⟨_, -, hbody⟩ := run_check_ok (keeps_requireOperatorAuth op) hbody
      exact .inl (hunlocked hbody)
    all_goals cases hattempt
  | @item env entry _ _ hrun =>
    cases entry
    case charge j k =>
      obtain ⟨rfl, hkey⟩ := Option.ite_none_right_eq_some.mp hattempt
      obtain rfl := Option.some.inj hkey
      obtain ⟨result, hrun⟩ := run_effectOf_ok.mp hrun
      exact .inl ⟨result, t, hrun, Std.Refl.refl _⟩
    all_goals cases hattempt
  | @itemFailed env entry _ _ e hrun =>
    cases entry
    case charge j k =>
      obtain ⟨rfl, hkey⟩ := Option.ite_none_right_eq_some.mp hattempt
      obtain rfl := Option.some.inj hkey
      exact .inr ⟨e, rfl, run_effectOf_err.mp hrun⟩
    all_goals cases hattempt
  | other => cases hattempt

/-- A call changes a count by a deposit, or by an attempt to charge. -/
theorem failures_of_call (hsingle : call.isBulk = false)
    (hattempt : (VaultAction.call env call).attempts id = none)
    (hdeposit : ∀ amount nonce, call ≠ .depositFunds id amount nonce)
    (hrun : call.exec.run env s = .ok () t) : t.failures id = s.failures id := by
  have hagree {l : List Area} (hl : l.contains .failures = false) {v w : State}
      (h : FiniteStore.AgreeOff (areas l) v w) : w.failures = v.failures :=
    State.failures_of_agreeOff (h.mono (areas_subset_uncounted hl))
  have hown (hl : (Area.locks :: call.areas).contains .failures = false) :
      t.failures id = s.failures id :=
    congrFun (hagree hl (call.worksIn.ok hrun).1) id
  have hlocked {name : LockName} {α : Type} {body : Vault α} {a : α}
      (hbody : body.Keeps fun v w => w.failures id = v.failures id)
      (hrun : (guardedCall name body).run env s = .ok a t) : t.failures id = s.failures id := by
    obtain ⟨v, w, hbody', hbefore, hafter⟩ := run_withLock_areas (run_guardedCall_ok.mp hrun).2
    rw [hagree rfl hafter, hbody.ok hbody', hagree rfl hbefore]
  have huncounted {α : Type} {body : Vault α} (h : Modifies uncounted body) :
      body.Keeps fun v w => w.failures id = v.failures id :=
    h.mono fun _ _ hvw => congrFun (State.failures_of_agreeOff hvw) id
  cases call
  case chargeSubscription j key =>
    obtain ⟨result, hrun⟩ := run_effectOf_ok.mp hrun
    have hj : j ≠ id := fun h => nomatch (if_pos h).symm.trans hattempt
    exact hlocked (chargeOne_elsewhere j key hj) hrun
  case operatorChargeSubscription op j =>
    obtain ⟨result, hrun⟩ := run_effectOf_ok.mp hrun
    obtain ⟨v, w, hbody, hbefore, hafter⟩ := run_withLock_areas (run_guardedCall_ok.mp hrun).2
    obtain ⟨_, -, hbody⟩ := run_check_ok (keeps_requireOperatorAuth op) hbody
    have hj : j ≠ id := fun h => nomatch (if_pos h).symm.trans hattempt
    rw [hagree rfl hafter, (chargeOne_elsewhere j none hj).ok hbody, hagree rfl hbefore]
  case chargeUsage | chargeUsageWithReference =>
    obtain ⟨result, hrun⟩ := run_effectOf_ok.mp hrun
    exact hlocked (huncounted (chargeUsageOne_uncounted _ _ _)) hrun
  case operatorChargeUsage | operatorChargeUsageWithRef =>
    obtain ⟨result, hrun⟩ := run_effectOf_ok.mp hrun
    exact hlocked (huncounted (.bind (keeps_requireOperatorAuth _) fun _ =>
      chargeUsageOne_uncounted _ _ _)) hrun
  case chargeOneOff => exact hlocked (huncounted ((doChargeOneOff_plain _ _ _ _).weaken Set.inter_subset_left)) hrun
  case graceBuyout =>
    obtain ⟨result, hrun⟩ := run_effectOf_ok.mp hrun
    exact hlocked (huncounted ((doGraceBuyout_plain _ _ _ _).weaken Set.inter_subset_left)) hrun
  case depositFunds j amount nonce =>
    obtain ⟨v, w, hbody, hbefore, hafter⟩ := run_withLock_areas (run_guardedCall_ok.mp hrun).2
    have hcleared : w.failures id = if j = id then 0 else v.failures id :=
      doDepositFunds_failures hbody
    rw [hagree rfl hbefore, ← hagree rfl hafter] at hcleared
    have hj : j ≠ id := fun h => hdeposit amount nonce (h ▸ rfl)
    exact hcleared.trans (if_neg hj)
  case depositFundsOnBehalf j payer amount nonce =>
    exact hlocked (huncounted ((doDepositFundsOnBehalf_areas _ _ _ _).uncounted rfl)) hrun
  case bulkDepositFunds | batchCharge | batchChargeDetailed | bulkCancelSubscriptions
    | bulkPauseSubscriptions => cases hsingle
  all_goals exact hown rfl

theorem failures_of_deposit {amount : Int} {nonce : Option Nat}
    (hrun : (VaultCall.depositFunds id amount nonce).exec.run env s = .ok () t) :
    t.failures id = 0 := by
  obtain ⟨v, w, hbody, -, hafter⟩ := run_withLock_areas (run_guardedCall_ok.mp hrun).2
  rw [State.failures_of_agreeOff (hafter.mono (areas_subset_uncounted rfl))]
  exact (doDepositFunds_failures hbody).trans (if_pos rfl)

theorem endsIn_iff {result : ChargeExecutionResult}
    {P : Option BytesN32 → Option Subscription → Prop} (hattempt : l.attempts id = some key) :
    l.EndsIn id result P s ↔
      ∃ v, (chargeOne id key none ∅).run l.env s = .ok result v ∧ P key (v.subscription id) := by
  constructor
  · rintro ⟨key', v, hattempt', hv⟩
    obtain rfl := Option.some.inj (hattempt'.symm.trans hattempt)
    exact ⟨v, hv⟩
  · rintro ⟨v, hv⟩
    exact ⟨key, v, hattempt, hv⟩

/-- How an attempt bears on the count and on the status. -/
inductive AttemptEnds (id : Nat) (l : VaultAction) (s t : State) : Prop
  | quiet : ¬l.FallsShort id s → ¬l.StartsOver id s → t.failures id = s.failures id →
      ¬GetsPaused id s t → AttemptEnds id l s t
  | taken : ¬l.FallsShort id s → l.StartsOver id s → t.failures id = 0 → ¬GetsPaused id s t →
      AttemptEnds id l s t
  | counted : l.FallsShort id s → ¬l.StartsOver id s →
      (0 < s.autoPauseThreshold → s.failuresNow id < s.autoPauseThreshold ∧
        t.failures id = s.failuresNow id) →
      ¬GetsPaused id s t → AttemptEnds id l s t
  | paused : l.FallsShort id s → l.StartsOver id s → 0 < s.autoPauseThreshold →
      s.autoPauseThreshold ≤ s.failuresNow id → t.failures id = 0 → GetsPaused id s t →
      AttemptEnds id l s t

theorem getsPaused_of_same {v : State} (h : t.subscription id = v.subscription id) :
    GetsPaused id s t ↔ GetsPaused id s v := by
  rw [GetsPaused, GetsPaused, h]

theorem VaultStep.attemptEnds (h : VaultStep l s t) (hattempt : l.attempts id = some key)
    (hkeeps : l.KeepsCount id s) : AttemptEnds id l s t := by
  have hnot : ¬l.Deposits id s ∧ ¬l.Resumes id s := by
    cases l with
    | call env c =>
      cases c
      case chargeSubscription | operatorChargeSubscription => exact ⟨fun h => h, fun h => h⟩
      all_goals cases hattempt
    | item env entry =>
      cases entry
      case charge => exact ⟨fun h => h, fun h => h⟩
      all_goals cases hattempt
    | other => cases hattempt
  have hstarts : l.StartsOver id s ↔ l.TakesCharge id s ∨ l.AutoPauses id s := by
    unfold VaultAction.StartsOver
    tauto
  have hends := chargeOne_attempted l.env s id key
  rcases h.attempted hattempt with ⟨result, v, hv, hsame⟩ | ⟨e, hl, hv⟩
  · have hfailures : t.failures id = v.failures id := by
      rw [State.failures, State.failures, hsame.instanced _ rfl]
    have hpaused : GetsPaused id s t ↔ GetsPaused id s v :=
      getsPaused_of_same (hsame.subscription id)
    have hend {P : Option BytesN32 → Option Subscription → Prop} {r : ChargeExecutionResult} :
        l.EndsIn id r P s ↔ result = r ∧ P key (v.subscription id) := by
      rw [endsIn_iff hattempt, hv]
      constructor
      · rintro ⟨v', heq, hP⟩
        cases heq
        exact ⟨rfl, hP⟩
      · rintro ⟨rfl, hP⟩
        exact ⟨v, rfl, hP⟩
    rw [hv] at hends
    cases hends with
    | quiet hshort hreplayed hcount hstill =>
      refine .quiet (fun hfalls => hshort (hend.mp hfalls).1) (fun hover => ?_)
        (hfailures.trans hcount) fun hgets => hstill (hpaused.mp hgets)
      rcases hstarts.mp hover with htakes | hpauses
      · obtain ⟨hcharged, hfresh⟩ := hend.mp htakes
        rw [hreplayed hcharged] at hfresh
        cases hfresh
      · exact hshort (hend.mp hpauses).1
    | charged hfresh hcount hstill =>
      exact .taken (fun hfalls => by cases (hend.mp hfalls).1)
        (hstarts.mpr (.inl (hend.mpr ⟨rfl, hfresh⟩))) (hfailures.trans hcount)
        fun hgets => hstill (hpaused.mp hgets)
    | @short short hbefore hstatus =>
      have hrecord := s.subscription_withShortfall id short
      have hcount := s.failures_withShortfall id short
      by_cases hpause : 0 < s.autoPauseThreshold ∧ short.status = .insufficientBalance ∧
          s.autoPauseThreshold ≤ s.failuresNow id
      · rw [if_pos hpause] at hrecord
        rw [if_pos ⟨hpause.1, hpause.2.1⟩, if_pos hpause.2.2] at hcount
        exact .paused (hend.mpr ⟨rfl, _, hrecord, .inr rfl⟩)
          (hstarts.mpr (.inr (hend.mpr ⟨rfl, _, hrecord, rfl⟩))) hpause.1 hpause.2.2
          (hfailures.trans hcount) (hpaused.mpr ⟨hbefore, by rw [hrecord]; rfl⟩)
      · rw [if_neg hpause] at hrecord
        have hshort : short.status ≠ .paused := by
          intro heq
          rcases hstatus with h | h <;> cases h.symm.trans heq
        have hstill : ¬GetsPaused id s t := by
          rw [hpaused]
          rintro ⟨-, hafter⟩
          rw [hrecord] at hafter
          exact hshort (Option.some.inj hafter)
        have hover : ¬l.StartsOver id s := by
          intro hover
          rcases hstarts.mp hover with htakes | hpauses
          · cases (hend.mp htakes).1
          · obtain ⟨-, sub, hsub, hpaused⟩ := hend.mp hpauses
            rw [hrecord] at hsub
            exact hshort (Option.some.inj hsub ▸ hpaused)
        rcases hstatus with hgrace | hbehind
        · rw [if_neg (by simp [hgrace])] at hcount
          refine .quiet (fun hfalls => ?_) hover (hfailures.trans hcount) hstill
          obtain ⟨-, sub, hsub, hbehind⟩ := hend.mp hfalls
          rw [hrecord] at hsub
          obtain rfl := Option.some.inj hsub
          rw [hgrace] at hbehind
          simp at hbehind
        · refine .counted (hend.mpr ⟨rfl, short, hrecord, .inl hbehind⟩) hover
            (fun hpos => ?_) hstill
          have hbelow : ¬s.autoPauseThreshold ≤ s.failuresNow id :=
            fun hreached => hpause ⟨hpos, hbehind, hreached⟩
          rw [if_pos ⟨hpos, hbehind⟩, if_neg hbelow] at hcount
          exact ⟨by omega, hfailures.trans hcount⟩
  · have hend {P : Option BytesN32 → Option Subscription → Prop} {r : ChargeExecutionResult} :
        ¬l.EndsIn id r P s := by
      rw [endsIn_iff hattempt, hv]
      rintro ⟨v, heq, -⟩
      cases heq
    rw [hv] at hends
    cases hends with
    | failed hcount hstill =>
      refine .quiet hend (fun hover => ?_) ?_ hstill
      · rcases hstarts.mp hover with htakes | hpauses
        · exact hend htakes
        · exact hend hpauses
      · rcases hcount with hcount | ⟨hzero, hlogs⟩
        · exact hcount
        · have hclear : s.failures id = 0 ∨ LogsFunded l.env s id key := by
            have hitem : (VaultAction.item l.env (.charge id key)).KeepsCount id s := hl ▸ hkeeps
            exact hitem rfl
          rw [hzero, hclear.resolve_right hlogs]

/-- Without an attempt a count stays or starts over. -/
theorem CountedStep.unattempted (h : CountedStep l s t) (hattempt : l.attempts id = none)
    (hkeeps : l.KeepsCount id s) :
    t.failures id = 0 ∧ l.StartsOver id s ∨
      t.failures id = s.failures id ∧ ¬l.StartsOver id s := by
  have hend {P : Option BytesN32 → Option Subscription → Prop} {r : ChargeExecutionResult} :
      ¬l.EndsIn id r P s := by
    rintro ⟨key, v, hkey, -⟩
    rw [hattempt] at hkey
    cases hkey
  have hstarts : l.StartsOver id s ↔ l.Deposits id s ∨ l.Resumes id s := by
    constructor
    · rintro (htakes | hdeposits | hresumes | hpauses)
      · exact (hend htakes).elim
      · exact .inl hdeposits
      · exact .inr hresumes
      · exact (hend hpauses).elim
    · rintro (hdeposits | hresumes)
      · exact .inr (.inl hdeposits)
      · exact .inr (.inr (.inl hresumes))
  rw [hstarts]
  obtain ⟨hstep, hother⟩ := h
  cases hstep with
  | @call env c _ _ hsingle hrun =>
    by_cases hdeposit : ∃ amount nonce, c = .depositFunds id amount nonce
    · obtain ⟨amount, nonce, rfl⟩ := hdeposit
      exact .inl ⟨failures_of_deposit hrun, .inl rfl⟩
    · have hkept := failures_of_call hsingle hattempt
        (fun amount nonce h => hdeposit ⟨amount, nonce, h⟩) hrun
      by_cases hover : (VaultAction.call env c).Deposits id s ∨ (VaultAction.call env c).Resumes id s
      · have hzero : s.failures id = 0 := by
          rcases hover with hdeposits | hresumes
          · cases c
            case depositFunds j amount nonce =>
              obtain rfl : j = id := hdeposits
              exact absurd ⟨amount, nonce, rfl⟩ hdeposit
            case depositFundsOnBehalf => exact hkeeps hdeposits
            all_goals exact hdeposits.elim
          · cases c
            case resumeSubscription => exact hkeeps hresumes
            all_goals exact hresumes.elim
        exact .inl ⟨hkept.trans hzero, hover⟩
      · exact .inr ⟨hkept, hover⟩
  | @item env entry _ _ hrun =>
    cases entry with
    | charge j key =>
      have hj : j ≠ id := fun h => nomatch (if_pos h).symm.trans hattempt
      obtain ⟨result, hrun⟩ := run_effectOf_ok.mp hrun
      exact .inr ⟨(chargeOne_elsewhere j key hj).ok hrun, fun h => h.elim (fun h => h) fun h => h⟩
    | deposit caller j amount =>
      have hcount : t.failures id = if j = id then 0 else s.failures id :=
        bulkDepositOne_failures hrun
      by_cases hj : j = id
      · exact .inl ⟨hcount.trans (if_pos hj), .inl ⟨hj, t, hrun⟩⟩
      · exact .inr ⟨hcount.trans (if_neg hj), fun h => h.elim (fun h => hj h.1) fun h => h⟩
    | cancel j =>
      have hagree := (bulkCancelOne_areas j).ok hrun
      exact .inr ⟨congrFun (State.failures_of_agreeOff (hagree.mono (areas_subset_uncounted rfl))) id,
        fun h => h.elim (fun h => h) fun h => h⟩
    | pause j =>
      have hagree := (bulkPauseOne_areas j).ok hrun
      exact .inr ⟨congrFun (State.failures_of_agreeOff (hagree.mono (areas_subset_uncounted rfl))) id,
        fun h => h.elim (fun h => h) fun h => h⟩
  | @itemFailed env entry _ _ e hrun =>
    cases entry with
    | charge j key =>
      have hj : j ≠ id := fun h => nomatch (if_pos h).symm.trans hattempt
      exact .inr ⟨(chargeOne_elsewhere j key hj).err (run_effectOf_err.mp hrun),
        fun h => h.elim (fun h => h) fun h => h⟩
    | deposit caller j amount =>
      obtain rfl := bulkDepositOne_err hrun
      refine .inr ⟨rfl, fun h => h.elim ?_ fun h => h⟩
      rintro ⟨-, v, hok⟩
      cases hok.symm.trans hrun
    | cancel j =>
      obtain rfl := bulkCancelOne_err hrun
      exact .inr ⟨rfl, fun h => h.elim (fun h => h) fun h => h⟩
    | pause j =>
      obtain rfl := bulkPauseOne_err hrun
      exact .inr ⟨rfl, fun h => h.elim (fun h => h) fun h => h⟩
  | @other env _ _ _ =>
    have hagree := hother env rfl
    exact .inr ⟨congrFun (State.failures_of_agreeOff (hagree.mono (areas_subset_uncounted rfl))) id,
      fun h => h.elim (fun h => h) fun h => h⟩

/-- Below a fixed threshold the slot of the subscription counts right. -/
theorem CountedStep.countsOn {limit : Nat} (hpos : 0 < limit) (hfits : limit ≤ u32Max)
    (h : CountedStep l s t) (hthreshold : (l.attempts id).isSome → s.autoPauseThreshold = limit)
    (hkeeps : l.KeepsCount id s) (hbelow : s.failures id < limit) :
    t.failures id < limit ∧
      CountsOn (l.FallsShort id s) (l.StartsOver id s) (s.failures id) (t.failures id) := by
  cases hattempt : l.attempts id with
  | none =>
    have hshort : ¬l.FallsShort id s := by
      rintro ⟨key, v, hkey, -⟩
      rw [hattempt] at hkey
      cases hkey
    rcases h.unattempted hattempt hkeeps with ⟨hzero, hover⟩ | ⟨hkept, hover⟩
    · exact ⟨by omega, .of_ended hover hzero⟩
    · exact ⟨by omega, .of_quiet hshort hover hkept⟩
  | some key =>
    rw [hattempt] at hthreshold
    have hlimit := hthreshold rfl
    have hnow := State.failuresNow_eq hfits hbelow
    cases h.1.attemptEnds hattempt hkeeps with
    | quiet hshort hover hkept => exact ⟨by omega, .of_quiet hshort hover hkept⟩
    | taken hshort hover hzero => exact ⟨by omega, .of_ended hover hzero⟩
    | counted hshort hover hcount =>
      obtain ⟨hstill, hcounted⟩ := hcount (by omega)
      exact ⟨by omega, ⟨fun h => absurd h hover, fun _ _ => hcounted.trans hnow,
        fun _ h => absurd hshort h⟩⟩
    | paused hshort hover _ _ hzero => exact ⟨by omega, .of_ended hover hzero⟩

end Steps

/-! ## Runs -/

section Runs

variable {start s t : State} {hist : History VaultAction State} {l : VaultAction} {id limit : Nat}
  {key : Option BytesN32}

theorem Deployed.failures_eq (h : Deployed start) (id : Nat) : start.failures id = 0 := by
  rw [State.failures, State.read_of_areas h.areas rfl]
  rfl

end Runs

/-! ## Two failures -/

/-- The vault with a threshold of two, and with money of its own for address 4. -/
private def strictVault : State :=
  afterCalls ((sampleEnv 0 [⟨8⟩], doSetAutoPauseThreshold ⟨8⟩ 2) ::
    (sampleEnv 0 [], mint ⟨9⟩ ⟨4⟩ 1000) :: sampleVault 0)

private theorem strictVault_run : Run CountedStep (sampleStart 0)
    [(.other (sampleEnv 0 []), sampleStart 0)] strictVault := by
  have hset : Modifies (areas [.settings]) (doSetAutoPauseThreshold ⟨8⟩ 2) :=
    .bind (Modifies.requireAdminAuth _) fun _ => Modifies.store rfl
  have hquiet : FiniteStore.AgreeOff (areas (.locks :: foreignAreas)) (sampleStart 0) strictVault :=
    (((sample_areas 0).mono (areas_mono rfl)).trans
      (((mint_areas ⟨9⟩ ⟨4⟩ 1000).after (sampleEnv 0 []) _).mono (areas_mono rfl))).trans
      ((hset.after (sampleEnv 0 [⟨8⟩]) _).mono (areas_mono rfl))
  exact .next .start ⟨.other (hquiet.mono (areas_subset_unbooked rfl)), fun _ _ => hquiet⟩

private theorem run_counted {start s : State} {hist : History VaultAction State}
    (hrun : Run CountedStep start hist s) {actions : List VaultAction}
    (h : actionsSucceed s actions = true) (hcalls : ∀ l ∈ actions, ∀ env, l ≠ .other env) :
    Run CountedStep start (actionHistory s actions ++ hist) (actionsAfter s actions) := by
  induction actions with
  | nil => exact hrun
  | cons l earlier ih =>
    simp only [actionsSucceed, Bool.and_eq_true, Bool.not_eq_true'] at h
    obtain ⟨⟨hearlier, hsingle⟩, hsucceeds⟩ := h
    exact (ih hearlier fun l' hmem => hcalls l' (List.mem_cons_of_mem _ hmem)).next
      ⟨VaultAction.step_of_run hsingle (run_eq_after hsucceeds),
        fun env hl => absurd hl (hcalls l List.mem_cons_self env)⟩

private def failedOnce : List VaultAction :=
  [.call (sampleEnv 60 []) (.chargeSubscription 0 none),
   .call (sampleEnv 0 [⟨2⟩]) (.createSubscription sampleRequest)]

private def patronised : List VaultAction :=
  [.call (sampleEnv 62 [⟨4⟩]) (.depositFundsOnBehalf 0 ⟨4⟩ 5 none),
   .call (sampleEnv 61 [⟨2⟩]) (.grantDelegatedPayer ⟨2⟩ ⟨4⟩ 1000 50)] ++ failedOnce

private def chargedAgain : VaultAction := .call (sampleEnv 63 []) (.chargeSubscription 0 none)

private theorem getsPaused_of_statuses {s t : State} {id : Nat} (status : SubscriptionStatus)
    (hbefore : (s.subscription id).map (·.status) = some status) (hstatus : status ≠ .paused)
    (hafter : (t.subscription id).map (·.status) = some .paused) : GetsPaused id s t :=
  ⟨fun h => hstatus (Option.some.inj (hbefore.symm.trans h)), hafter⟩

end SubscriptionVault
