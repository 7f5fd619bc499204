import SubscriptionVault.Framework.Secured
import SubscriptionVault.Lifecycle.FailuresInRow

/-!
# The grace clock

A charge that finds the balance too low may start a grace period, and its time is written down
next to the status. The two are read together with the configuration, so the time should be there
exactly while the status is. It stays behind when the grace period ends in another way than by a
payment: a resumption, a cancellation, an expiry, or any edit after the period has run out.
-/

namespace SubscriptionVault

open Exec

/-! ## Status and clock -/

/-- The clock is set exactly in a grace period. -/
def Subscription.ClockFits (sub : Subscription) : Prop :=
  sub.graceStartTimestamp.isSome = true ↔ sub.status = .gracePeriod

/-- The clock fits, and a grace period is not over. -/
structure Subscription.Ticks (sub : Subscription) (grace now : Nat) : Prop where
  fits : sub.ClockFits
  running : ¬sub.graceLapsed grace now

/-- There is neither a clock nor a grace period. -/
structure Subscription.Unclocked (sub : Subscription) : Prop where
  status : sub.status ≠ .gracePeriod
  clock : sub.graceStartTimestamp = none

theorem Subscription.Unclocked.fits {sub : Subscription} (h : sub.Unclocked) :
    sub.ClockFits := by
  constructor
  · intro hset
    rw [h.clock] at hset
    cases hset
  · exact fun hgrace => absurd hgrace h.status

theorem Subscription.Unclocked.not_lapsed {sub : Subscription} (h : sub.Unclocked)
    (grace now : Nat) : ¬sub.graceLapsed grace now :=
  fun hlapsed => h.status hlapsed.1

theorem Subscription.ClockFits.unclocked {sub : Subscription} (h : sub.ClockFits)
    (hstatus : sub.status ≠ .gracePeriod) : sub.Unclocked where
  status := hstatus
  clock := by
    cases hclock : sub.graceStartTimestamp with
    | none => rfl
    | some start => exact absurd (h.mp (by rw [hclock]; rfl)) hstatus

/-- The configured grace period, as `get_subscription` reads it. -/
def State.graceSeconds (s : State) : Nat := s.gracePeriod.toOption.getD 0

section Reading

variable {s t : State} {id now grace : Nat} {sub stored : Subscription}

theorem effectiveSubscription_of_running (hstored : s.subscription id = some stored)
    (hrunning : ¬stored.graceLapsed s.graceSeconds now) :
    s.effectiveSubscription id now = some stored := by
  unfold State.effectiveSubscription
  rw [hstored, Option.map_some, if_neg]
  rintro ⟨hgrace, hany⟩
  obtain ⟨start, hstart, hover⟩ := (Option.any_eq_true _ _).mp hany
  simp only [Bool.or_eq_true, decide_eq_true_eq] at hover
  exact hrunning ⟨hgrace, start, hstart, hover⟩

theorem effectiveSubscription_of_lapsed (hstored : s.subscription id = some stored)
    (hlapsed : stored.graceLapsed s.graceSeconds now) :
    s.effectiveSubscription id now = some { stored with status := .insufficientBalance } := by
  obtain ⟨hgrace, start, hstart, hover⟩ := hlapsed
  unfold State.effectiveSubscription
  rw [hstored, Option.map_some, if_pos]
  refine ⟨hgrace, ?_⟩
  rw [hstart, Option.any_some]
  simpa [State.graceSeconds] using hover

end Reading

/-! ## Operations that keep the clock -/

/-- Status and clock are as they were. -/
def Subscription.SameClock (sub new : Subscription) : Prop :=
  new.status = sub.status ∧ new.graceStartTimestamp = sub.graceStartTimestamp

/-- Status and clock are those of `old`, or there is no clock any more. -/
def Subscription.ClockedAs (old sub : Subscription) : Prop := old.SameClock sub ∨ sub.Unclocked

/-- The record is clocked as `old`, and the configuration is as given. -/
structure ClockedLike (old : Subscription) (grace id : Nat) (s : State) : Prop where
  seconds : s.graceSeconds = grace
  record : ∀ sub, s.subscription id = some sub → old.ClockedAs sub

theorem Subscription.ClockedAs.ticks {old sub : Subscription} {grace now : Nat}
    (h : old.ClockedAs sub) (hticks : old.Ticks grace now) : sub.Ticks grace now := by
  rcases h with ⟨hstatus, hclock⟩ | hfree
  · refine ⟨?_, ?_⟩
    · unfold Subscription.ClockFits
      rw [hstatus, hclock]
      exact hticks.fits
    · unfold Subscription.graceLapsed
      rw [hstatus, hclock]
      exact hticks.running
  · exact ⟨hfree.fits, hfree.not_lapsed grace now⟩

theorem Subscription.ClockedAs.fits {old sub : Subscription} (h : old.ClockedAs sub)
    (hold : old.ClockFits) : sub.ClockFits := by
  rcases h with ⟨hstatus, hclock⟩ | hfree
  · unfold Subscription.ClockFits
    rw [hstatus, hclock]
    exact hold
  · exact hfree.fits

theorem Subscription.ClockedAs.edited {old sub new : Subscription} (h : old.ClockedAs sub)
    (hnew : sub.SameClock new) : old.ClockedAs new := by
  rcases h with hsame | hfree
  · exact .inl ⟨hnew.1.trans hsame.1, hnew.2.trans hsame.2⟩
  · exact .inr ⟨hnew.1 ▸ hfree.status, hnew.2.trans hfree.clock⟩

theorem Subscription.ClockedAs.recovered {old sub new : Subscription} (h : old.ClockedAs sub)
    (hnew : sub.SameClock new) : old.ClockedAs new.recovered := by
  unfold Subscription.recovered
  split
  · exact .inr ⟨nofun, rfl⟩
  · exact h.edited hnew

section Keeping

variable {old : Subscription} {grace id : Nat} {env : Env} {sub : Subscription}

theorem State.graceSeconds_of_areas {s t : State} {l : List Area}
    (h : FiniteStore.AgreeOff (areas l) s t) (hnumbers : l.contains .numbering = false)
    (hsettings : l.contains .settings = false) : t.graceSeconds = s.graceSeconds := by
  have hversion : t.schemaVersion = s.schemaVersion := by
    unfold State.schemaVersion
    rw [State.read_of_areas (k := .persistent .schemaVersion) h hnumbers,
      State.read_of_areas (k := .instanced .schemaVersion) h hnumbers]
  unfold State.graceSeconds State.gracePeriod
  rw [State.config_of_areas (k := .gracePeriod) h hversion hsettings hsettings]

theorem ClockedLike.of_areas {s t : State} {l : List Area} (h : FiniteStore.AgreeOff (areas l) s t)
    (hl : (l.contains .numbering || l.contains .settings || l.contains .records) = false)
    (hs : ClockedLike old grace id s) : ClockedLike old grace id t := by
  simp only [Bool.or_eq_false_iff] at hl
  refine ⟨(State.graceSeconds_of_areas h hl.1.1 hl.1.2).trans hs.seconds, fun sub hsub => ?_⟩
  have hsame : t.subscription id = s.subscription id :=
    State.read_of_areas (k := .persistent (.sub id)) h hl.2
  exact hs.record sub (hsame ▸ hsub)

theorem ClockedLike.write {s : State} (hs : ClockedLike old grace id s) (hsub : old.ClockedAs sub) :
    ClockedLike old grace id (s.write (.persistent (.sub id)) sub) where
  seconds := by
    have hagree : FiniteStore.AgreeOff (areas [.records]) s
        (s.write (.persistent (.sub id)) sub) := s.agreeOff_write sub rfl
    exact (State.graceSeconds_of_areas hagree rfl rfl).trans hs.seconds
  record := by
    intro found hfound
    have hwritten : State.subscription (s.write (.persistent (.sub id)) sub) id = some sub :=
      FiniteStore.read_write_self s sub
    obtain rfl := Option.some.inj (hwritten.symm.trans hfound)
    exact hsub

/-- A success leaves a record clocked as `old` behind where it found one. -/
def KeepsClock (env : Env) (old : Subscription) (grace id : Nat) {α : Type} (x : Vault α) : Prop :=
  x.Secures env (ClockedLike old grace id) fun _ => True

namespace KeepsClock

variable {α β : Type} {l : List Area} {x : Vault α} {f : α → Vault β}

theorem write (hsub : old.ClockedAs sub) : KeepsClock env old grace id (writeSubscription id sub) := by
  intro s u t hs hrun
  obtain rfl := run_store_ok.mp hrun
  exact ⟨hs.write hsub, trivial⟩

theorem areas (hx : Modifies (areas l) x)
    (hl : (l.contains .numbering || l.contains .settings || l.contains .records) = false) :
    KeepsClock env old grace id x :=
  .of_keeps hx fun _ _ h hs => hs.of_areas h hl

theorem next (hx : KeepsClock env old grace id x) (hf : ∀ a, KeepsClock env old grace id (f a)) :
    KeepsClock env old grace id (x >>= f) :=
  Secures.bind hx fun a _ => hf a

theorem check (hx : x.Keeps Eq) (hf : ∀ a, KeepsClock env old grace id (f a)) :
    KeepsClock env old grace id (x >>= f) :=
  Secures.check hx hf

/-- What follows a computation is only run with its value. -/
theorem lifted {o : Except Error α} (hf : ∀ a, o = .ok a → KeepsClock env old grace id (f a)) :
    KeepsClock env old grace id (lift o >>= f) :=
  Secures.bind (Secures.lift fun _ h => h) hf

theorem pure (a : α) : KeepsClock env old grace id (Pure.pure a : Vault α) :=
  Secures.pure trivial

theorem when {c : Prop} [Decidable c] {x : Vault Unit} (h : c → KeepsClock env old grace id x) :
    KeepsClock env old grace id (when c x) :=
  Secures.when h

theorem ite {c : Prop} [Decidable c] {x y : Vault α} (hx : KeepsClock env old grace id x)
    (hy : KeepsClock env old grace id y) : KeepsClock env old grace id (if c then x else y) :=
  Secures.ite (fun _ => hx) fun _ => hy

theorem read (hticks : old.Ticks grace env.now) {f : Subscription → Vault β}
    (hf : ∀ sub, old.ClockedAs sub → KeepsClock env old grace id (f sub)) :
    KeepsClock env old grace id (getSubscription id >>= f) := by
  intro s b t hs hrun
  obtain ⟨sub, hreads, hfound, hrun⟩ := run_read_ok hrun
  obtain ⟨stored, hstored, -⟩ := hreads
  have hstored : s.subscription id = some stored := hstored
  have hclocked := hs.record stored hstored
  have hrunning : ¬stored.graceLapsed s.graceSeconds env.now :=
    hs.seconds ▸ (hclocked.ticks hticks).running
  obtain rfl := Option.some.inj ((effectiveSubscription_of_running hstored hrunning).symm.trans
    hfound)
  exact hf stored hclocked s b t hs hrun

theorem unexpired {sub : Subscription} {f : Unit → Vault β}
    (hf : KeepsClock env old grace id (f ())) :
    KeepsClock env old grace id (failIfExpired id sub >>= f) := by
  intro s b t hs hrun
  exact hf s b t hs (run_unexpired_ok hrun).2

theorem locked {name : LockName} (hx : KeepsClock env old grace id x) :
    KeepsClock env old grace id (withLock name x) := by
  intro s a t hs hrun
  obtain ⟨v, w, hbody, hbefore, hafter⟩ := run_withLock_areas hrun
  exact ⟨(hx v a w (hs.of_areas hbefore rfl) hbody).1.of_areas hafter rfl, trivial⟩

theorem guarded {name : LockName} (hx : KeepsClock env old grace id x) :
    KeepsClock env old grace id (guardedCall name x) :=
  fun s a t hs hrun => locked hx s a t hs (run_guardedCall_ok.mp hrun).2

theorem transferred (token sender receiver : Address) (amount : Int) :
    KeepsClock env old grace id (transfer token sender receiver amount) :=
  areas (l := [.tokens]) (Modifies.transfer rfl rfl) rfl

theorem advanced (nonce : Option Nat) (signer : Address) (domain : NonceDomain) :
    KeepsClock env old grace id (whenSome nonce (checkAndAdvance signer domain)) :=
  areas (l := [.nonces]) (.whenSome fun _ => Modifies.checkAndAdvance rfl) rfl

end KeepsClock

/-! ## Edits -/

section Edits

theorem refundPrepaid_clock (hsub : old.ClockedAs sub) :
    KeepsClock env old grace id (refundPrepaid id sub) :=
  .check .ask fun _ => .next (.write (hsub.edited ⟨rfl, rfl⟩)) fun _ =>
    .next (.transferred _ _ _ _) fun _ => .pure _

variable (hticks : old.Ticks grace env.now)

include hticks

theorem doDepositFunds_clock (amount : Int) (nonce : Option Nat) :
    KeepsClock env old grace id (doDepositFunds id amount nonce) :=
  .check .ask fun _ => .read hticks fun _ hsub => .check (Modifies.requireAuth _) fun _ =>
    .check (Modifies.requireNotBlocklisted _) fun _ => .next (.advanced _ _ _) fun _ =>
    .check (.failIf _ _) fun _ => .check (Modifies.enforceMinTopup _) fun _ =>
    .check (Modifies.requireNotBlocklisted _) fun _ =>
    .check (Modifies.checkMerchantStatus _ _) fun _ => .unexpired <|
    .check (Modifies.enforceCreditLimitForDelta _ _ _) fun _ => .check (.failIf _ _) fun _ =>
    .check (.lift _) fun _ => .next (.areas (l := [.failures]) (Modifies.delete rfl) rfl) fun _ =>
    .next (.write (hsub.edited ⟨rfl, rfl⟩)) fun _ => .next (.transferred _ _ _ _) fun _ =>
    .pure _

theorem bulkDepositOne_clock (caller : Address) (amount : Int) :
    KeepsClock env old grace id (bulkDepositOne caller id amount) :=
  .check .ask fun _ => .read hticks fun _ hsub => .check (.failIf _ _) fun _ =>
    .check (Modifies.enforceMinTopup _) fun _ => .check (Modifies.checkMerchantStatus _ _) fun _ =>
    .check (.failIf _ _) fun _ => .check (Modifies.enforceCreditLimitForDelta _ _ _) fun _ =>
    .check (.failIf _ _) fun _ => .check (.lift _) fun _ =>
    .next (.areas (l := [.failures]) (Modifies.delete rfl) rfl) fun _ =>
    .next (.write (hsub.edited ⟨rfl, rfl⟩)) fun _ => .next (.transferred _ _ _ _) fun _ =>
    .pure _

theorem doScheduleCancel_clock (authorizer : Address) (cancelAt : Nat) :
    KeepsClock env old grace id (doScheduleCancel id authorizer cancelAt) :=
  .check .ask fun _ => .check (Modifies.requireAuth _) fun _ => .check (.failIf _ _) fun _ =>
    .read hticks fun _ hsub => .check (.failIf _ _) fun _ => .check (.failIf _ _) fun _ =>
    .unexpired <| .write (hsub.edited ⟨rfl, rfl⟩)

theorem doUnscheduleCancel_clock (authorizer : Address) :
    KeepsClock env old grace id (doUnscheduleCancel id authorizer) :=
  .check (Modifies.requireAuth _) fun _ => .read hticks fun _ hsub =>
    .check (.failIf _ _) fun _ => .check (.failIf _ _) fun _ =>
    .write (hsub.edited ⟨rfl, rfl⟩)

theorem doSetAutoRenew_clock (authorizer : Address) (enabled : Bool) :
    KeepsClock env old grace id (doSetAutoRenew id authorizer enabled) :=
  .check .ask fun _ => .check (Modifies.requireAuth _) fun _ => .read hticks fun _ hsub =>
    .check (.failIf _ _) fun _ => .check (.failIf _ _) fun _ => .check (.failIf _ _) fun _ =>
    .check (.failIf _ _) fun _ => .write (hsub.edited ⟨rfl, rfl⟩)

theorem doSetSubscriptionExpirationLedger_clock (authorizer : Address)
    (expiresAtLedger : Option Nat) :
    KeepsClock env old grace id (doSetSubscriptionExpirationLedger id authorizer expiresAtLedger) :=
  .check .ask fun _ => .check (Modifies.requireAuth _) fun _ => .read hticks fun _ hsub =>
    .check (.failIf _ _) fun _ => .check (.failIf _ _) fun _ => .check (.failIf _ _) fun _ =>
    .write (hsub.edited ⟨rfl, rfl⟩)

theorem doUpdateSubscriptionCap_clock (admin : Address) (newCap : Option Int) :
    KeepsClock env old grace id (doUpdateSubscriptionCap admin id newCap) :=
  .check (Modifies.requireAdminAuth _) fun _ => .check (.failIf _ _) fun _ =>
    .read hticks fun _ hsub => .check (.failIf _ _) fun _ =>
    .write (hsub.edited ⟨rfl, rfl⟩)

theorem doMigrateSubscriptionToPlan_clock (subscriber : Address) (newPlanId : Nat) :
    KeepsClock env old grace id (doMigrateSubscriptionToPlan subscriber id newPlanId) :=
  .check (Modifies.requireAuth _) fun _ => .check (Modifies.requireNotBlocklisted _) fun _ =>
    .read hticks fun _ hsub => .check (.failIf _ _) fun _ => .check Modifies.load fun _ =>
    .check (.okOr _ _) fun _ => .check (.gets _) fun _ => .check (.okOr _ _) fun _ =>
    .check (.gets _) fun _ => .check (.okOr _ _) fun _ => .check (.failIf _ _) fun _ =>
    .check (Modifies.checkPlanMigration _ _ _) fun _ =>
    .next (.write (hsub.edited ⟨rfl, rfl⟩)) fun _ =>
    .areas (l := [.planLinks]) (Modifies.store rfl) rfl

theorem doAcceptTransfer_clock («to» : Address) :
    KeepsClock env old grace id (doAcceptTransfer id «to») := by
  have hplace («from» : Address) : Modifies (areas [.activeCounts]) (transferPlace «from» «to») :=
    .bind (decrementSubscriberActiveCount_areas _) fun _ => incrementSubscriberActiveCount_areas _
  exact .check .ask fun _ => .check (Modifies.requireAuth _) fun _ => .check Modifies.load fun _ =>
    .check (.okOr _ _) fun _ => .check (.failIf _ _) fun _ => .check (.failIf _ _) fun _ =>
    .read hticks fun _ hsub => .next (.areas (l := [.transfers]) (Modifies.delete rfl) rfl)
    fun _ => .check (.lift _) fun _ => .check (Modifies.enforceCreditLimitForDelta _ _ _) fun _ =>
    .check (.when (Modifies.requirePlace _)) fun _ =>
    .next (.areas (l := [.subscriberIndex]) (dropIndex_areas rfl _) rfl) fun _ =>
    .next (.areas (l := [.subscriberIndex]) (pushIndex_areas rfl _) rfl) fun _ =>
    .next (.areas (.when (hplace _)) rfl) fun _ =>
    .write (hsub.edited ⟨rfl, rfl⟩)

theorem doWithdrawSubscriberFunds_clock (subscriber : Address) :
    KeepsClock env old grace id (doWithdrawSubscriberFunds id subscriber) :=
  .check .ask fun _ => .check (Modifies.requireAuth _) fun _ => .read hticks fun _ hsub =>
    .check (.failIf _ _) fun _ => .check (.failIf _ _) fun _ =>
    .ite (refundPrepaid_clock hsub) <|
    .check (.gets _) fun _ => .check (.okOr _ _) fun _ => .check (.failIf _ _) fun _ =>
    .check (Modifies.requireReleasedEscrow _ _) fun _ => .check (.failIf _ _) fun _ =>
    .areas (payEscrow_areas _ _) rfl

theorem doFinalizeEmergencyWithdraw_clock (subscriber : Address) :
    KeepsClock env old grace id (doFinalizeEmergencyWithdraw id subscriber) :=
  .check .ask fun _ => .check (Modifies.requireAuth _) fun _ => .read hticks fun _ hsub =>
    .check (.failIf _ _) fun _ => .check Modifies.load fun _ => .check (.okOr _ _) fun _ =>
    .check (.failIf _ _) fun _ => .check (.failIf _ _) fun _ => .check (.failIf _ _) fun _ =>
    .check (.failIf _ _) fun _ =>
    .next (.areas (l := [.withdrawIntents]) (Modifies.delete rfl) rfl) fun _ =>
    refundPrepaid_clock hsub

theorem doPartialRefund_clock (admin subscriber : Address) (amount : Int) :
    KeepsClock env old grace id (doPartialRefund admin id subscriber amount) :=
  .check .ask fun _ => .check (Modifies.requireAdminAuth _) fun _ => .check (.failIf _ _) fun _ =>
    .read hticks fun _ hsub => .check (.failIf _ _) fun _ => .check (.failIf _ _) fun _ =>
    .check (.lift _) fun _ => .next (.write (hsub.edited ⟨rfl, rfl⟩)) fun _ =>
    .next (.transferred _ _ _ _) fun _ => .pure _

theorem doDepositFundsOnBehalf_clock (payer : Address) (amount : Int) (nonce : Option Nat) :
    KeepsClock env old grace id (doDepositFundsOnBehalf id payer amount nonce) :=
  .check .ask fun _ => .check (Modifies.requireAuth _) fun _ => .next (.advanced _ _ _) fun _ =>
    .read hticks fun _ hsub => .check Modifies.load fun _ => .check (.okOr _ _) fun _ =>
    .check (.failIf _ _) fun _ => .check (.failIf _ _) fun _ =>
    .check (Modifies.enforceMinTopup _) fun _ => .check (Modifies.requireNotBlocklisted _) fun _ =>
    .check (Modifies.requireNotBlocklisted _) fun _ => .check (.gets _) fun _ =>
    .check (.failIf _ _) fun _ => .unexpired <|
    .check (Modifies.enforceCreditLimitForDelta _ _ _) fun _ => .check (.failIf _ _) fun _ =>
    .check (.lift _) fun _ => .next (.write (hsub.edited ⟨rfl, rfl⟩)) fun _ =>
    .next (.areas (l := [.grants]) (Modifies.delete rfl) rfl) fun _ =>
    .next (.transferred _ _ _ _) fun _ => .next (.pure _) fun _ =>
    .write (hsub.recovered ⟨rfl, rfl⟩)

omit hticks in
theorem applyPause_clock (hsub : old.ClockedAs sub) (hold : old.ClockFits) :
    KeepsClock env old grace id (applyPause id sub) := by
  refine .lifted fun status h => ?_
  obtain ⟨hcan, rfl⟩ := transitionTo_ok.mp h
  have hfree : sub.Unclocked := (hsub.fits hold).unclocked fun hgrace => by
    rw [hgrace] at hcan
    cases hcan
  have hpaused : Subscription.Unclocked { sub with status := .paused } := ⟨nofun, hfree.clock⟩
  exact .next (.write (.inr hpaused)) fun _ =>
    .areas (decrementSubscriberActiveCount_areas _) rfl

theorem doPauseSubscription_clock (authorizer : Address) :
    KeepsClock env old grace id (doPauseSubscription id authorizer) :=
  .check (Modifies.requireAuth _) fun _ => .read hticks fun _ hsub => .unexpired <|
    .check (requireParty_keeps _ _) fun _ => .when fun _ => applyPause_clock hsub hticks.fits

theorem bulkPauseOne_clock : KeepsClock env old grace id (bulkPauseOne id) :=
  .check .ask fun _ => .read hticks fun _ hsub => .check (.failIf _ _) fun _ =>
    .when fun _ => applyPause_clock hsub hticks.fits

/-- Outside a grace period the clock is not touched either. -/
theorem doResumeSubscription_clock (hold : old.Unclocked) (authorizer : Address) :
    KeepsClock env old grace id (doResumeSubscription id authorizer) := by
  have hfree {sub : Subscription} (hsub : old.ClockedAs sub) : sub.graceStartTimestamp = none := by
    rcases hsub with ⟨-, hclock⟩ | hfree
    · exact hclock.trans hold.clock
    · exact hfree.clock
  have happly {sub : Subscription} (hsub : old.ClockedAs sub) :
      KeepsClock env old grace id (applyResume id sub) := by
    refine .lifted fun status h => ?_
    obtain ⟨-, rfl⟩ := transitionTo_ok.mp h
    have hclock := hfree hsub
    have hactive : Subscription.Unclocked { sub with status := .active } := ⟨nofun, hclock⟩
    exact .next (.write (.inr hactive)) fun _ =>
      .when fun _ => .areas (incrementSubscriberActiveCount_areas _) rfl
  exact .check (Modifies.requireAuth _) fun _ => .read hticks fun _ hsub => .unexpired <|
    .check (requireParty_keeps _ _) fun _ =>
    .check (.when (Modifies.requireNotBlocklisted _)) fun _ => .when fun _ =>
    .check (.failIf _ _) fun _ => happly hsub

end Edits

end Keeping

/-! ## Records without a clock -/

/-- A record that is not as before has neither clock nor grace period. -/
def WritesUnclocked (s t : State) : Prop :=
  ∀ id sub, t.subscription id = some sub → s.subscription id = some sub ∨ sub.Unclocked

instance : Std.Refl WritesUnclocked where
  refl _ _ _ := .inl

instance : IsTrans State WritesUnclocked where
  trans s t u hst htu id sub hsub := by
    rcases htu id sub hsub with hkept | hfree
    · exact hst id sub hkept
    · exact .inr hfree

section Unclocked

variable {id : Nat} {sub : Subscription} {charge : IntervalCharge} {key : Option BytesN32}

theorem keeps_unclocked {α : Type} {l : List Area} {x : Vault α} (hx : Modifies (areas l) x)
    (hl : l.contains .records = false) : x.Keeps WritesUnclocked := by
  refine hx.mono fun (s t : State) h j new hnew => .inl ?_
  have hsame : t.subscription j = s.subscription j :=
    State.read_of_areas (k := .persistent (.sub j)) h hl
  exact hsame ▸ hnew

theorem writeSubscription_unclocked (hsub : sub.Unclocked) :
    (writeSubscription id sub).Keeps WritesUnclocked := by
  have hwrite (s t : State) (h : s.write (.persistent (.sub id)) sub = t) :
      WritesUnclocked s t := by
    intro j new hnew
    subst h
    by_cases hj : j = id
    · subst hj
      have hwritten : State.subscription (s.write (.persistent (.sub j)) sub) j = some sub :=
        FiniteStore.read_write_self s sub
      obtain rfl := Option.some.inj (hwritten.symm.trans hnew)
      exact .inr hsub
    · left
      rw [← hnew]
      exact (FiniteStore.read_write_of_ne s sub (by simpa using hj)).symm
  exact .of_runs (fun _ s _ t hrun => hwrite s t (run_store_ok.mp hrun))
    fun _ s e t hrun => absurd hrun (by simp [writeSubscription])

theorem Subscription.booked_unclocked {booked new : Subscription} {amount newBalance : Int}
    {now : Nat} (hchargeable : sub.isChargeable)
    (hactive : sub.status = .active → sub.graceStartTimestamp = none)
    (hbooked : sub.booked amount newBalance now = .ok booked)
    (hnew : booked.cancelledWhenCapped = .ok new) : new.Unclocked := by
  have hclock : booked.graceStartTimestamp = none := by
    obtain ⟨lifetime, -, hrest⟩ := except_bind_ok.mp hbooked
    split at hrest
    · obtain ⟨status, -, hrest⟩ := except_bind_ok.mp hrest
      cases hrest
      rfl
    · rename_i hbehind
      cases hrest
      refine hactive ?_
      rcases hchargeable with h | h | h
      · exact h
      · exact absurd (.inl h) hbehind
      · exact absurd (.inr h) hbehind
  have hstatus := Subscription.booked_active hchargeable hbooked
  unfold Subscription.cancelledWhenCapped at hnew
  split at hnew
  · obtain ⟨status, hcancel, rfl⟩ := except_map_ok.mp hnew
    obtain ⟨-, rfl⟩ := transitionTo_ok.mp hcancel
    exact ⟨nofun, hclock⟩
  · obtain rfl := Except.ok.inj hnew
    refine ⟨?_, hclock⟩
    rw [hstatus]
    nofun

/-- A charge that is paid ends a grace period and clears its clock. -/
theorem settleInterval_unclocked (hchargeable : sub.isChargeable)
    (hactive : sub.status = .active → sub.graceStartTimestamp = none) :
    (settleInterval id sub charge key none).Keeps WritesUnclocked :=
  .bind .ask fun _ => .bind (.gets _) fun _ => .bind (.lift _) fun _ =>
    .bind (keeps_unclocked ((Modifies.creditChargePayees _ _ _ _).weaken
      creditSlots_subset_areas) rfl) fun _ =>
    .bind (keeps_unclocked ((Modifies.routeToSubAccount _ _).weaken
      creditSlots_subset_areas) rfl) fun _ =>
    .bind (keeps_unclocked ((Modifies.creditProtocolFee _ _ _ _).weaken
      creditSlots_subset_areas) rfl) fun _ =>
    .bind_lift fun _ hbooked =>
    .bind (keeps_unclocked (l := [.failures]) (Modifies.delete rfl) rfl) fun _ =>
    .bind_lift fun _ hnew => .bind (writeSubscription_unclocked
      (Subscription.booked_unclocked hchargeable hactive hbooked hnew)) fun _ =>
    .bind (keeps_unclocked (appendStatement_areas _ _ _ _ _ _ _) rfl) fun _ =>
    .bind (keeps_unclocked (writePeriodSnapshot_areas _) rfl) fun _ =>
    .bind (keeps_unclocked (l := [.periods]) (Modifies.store rfl) rfl) fun _ =>
    .bind (keeps_unclocked (l := [.salts]) (Modifies.store rfl) rfl) fun _ =>
    keeps_unclocked (recordIdemKey_areas _ _ _) rfl

theorem doGraceBuyout_unclocked (subscriber : Address) (amount : Int) :
    (doGraceBuyout id subscriber amount key).Keeps WritesUnclocked :=
  .bind .ask fun _ => .bind (Modifies.requireAuth _) fun _ =>
    .bind (Modifies.getSubscription _) fun _ => .bind (.failIf _ _) fun _ =>
    .bind (.gets _) fun _ => .bind (.lift _) fun _ => .bind (.lift _) fun _ =>
    .bind (.failIf _ _) fun _ => .bind (.lift _) fun _ => .bind (.lift _) fun _ =>
    .bind (.lift _) fun _ => .bind (writeSubscription_unclocked ⟨nofun, rfl⟩) fun _ =>
    .bind (.lift _) fun _ => .bind (keeps_unclocked
      ((Modifies.creditMerchantBalanceForToken _ _ _ _).weaken creditSlots_subset_areas) rfl)
    fun _ => .bind (.require _) fun _ =>
    .bind (keeps_unclocked (l := [.periods]) (Modifies.store rfl) rfl) fun _ =>
    .bind (keeps_unclocked (appendStatement_areas _ _ _ _ _ _ _) rfl) fun _ =>
    .bind (keeps_unclocked (recordIdemKey_areas _ _ _) rfl) fun _ => .pure _

theorem NewSubscription.record_unclocked (new : NewSubscription) (cap : Option Int)
    (now lastPayment : Nat) : (new.record cap now lastPayment).Unclocked :=
  ⟨nofun, rfl⟩

theorem doCreateSubscriptionWithToken_unclocked (new : NewSubscription) :
    (doCreateSubscriptionWithToken new).Keeps WritesUnclocked :=
  .bind .ask fun _ => .bind (Modifies.requireAuth _) fun _ => .bind (.failIf _ _) fun _ =>
    .bind (Modifies.requireNotBlocklisted _) fun _ =>
    .bind (Modifies.requireNotBlocklisted _) fun _ =>
    .bind (keeps_unclocked (enforceCreationRateLimit_areas _) rfl) fun _ =>
    .bind (Modifies.enforceSubscriptionCounts _ _) fun _ => .bind (.failIf _ _) fun _ =>
    .bind (Modifies.validateExpiry _ _) fun _ => .bind (.gets _) fun _ =>
    .bind (.failIf _ _) fun _ => .bind (.gets _) fun _ => .bind (Modifies.validateCap _ _) fun _ =>
    .bind (Modifies.enforceCreditLimitForDelta _ _ _) fun _ => .bind (.gets _) fun _ =>
    .bind (.when (Modifies.requireUsageLimits _ _)) fun _ => .bind (.failIf _ _) fun _ =>
    .bind (keeps_unclocked (l := [.numbering]) (Modifies.writeConfig rfl rfl) rfl) fun _ =>
    .bind (writeSubscription_unclocked (new.record_unclocked _ _ _)) fun _ =>
    .bind (keeps_unclocked (incrementSubscriberActiveCount_areas _) rfl) fun _ =>
    .bind (keeps_unclocked (indexSubscription_areas _ _) rfl) fun _ =>
    .bind (keeps_unclocked (issueCredential_areas _) rfl) fun _ => .pure _

theorem doCreateSubscription_unclocked (new : NewSubscription) :
    (doCreateSubscription new).Keeps WritesUnclocked :=
  .bind (.failIf _ _) fun _ => .bind (.gets _) fun _ => .bind (.lift _) fun _ =>
    .bind (Modifies.enforceCreditLimitForDelta _ _ _) fun _ =>
    doCreateSubscriptionWithToken_unclocked _

theorem createSubscriptionWithSplit_unclocked (new : NewSubscription)
    (entries : List (Address × Nat)) :
    (createSubscriptionWithSplit new entries).Keeps WritesUnclocked :=
  .bind (Modifies.validateSplit _) fun _ => .bind (doCreateSubscription_unclocked _) fun _ =>
    .bind (.lift _) fun _ =>
    .bind (keeps_unclocked (l := [.splits]) (Modifies.store rfl) rfl) fun _ => .pure _

theorem doCreateSubscriptionFromPlan_unclocked (subscriber : Address) (planId : Nat)
    (label : Option Symbol) :
    (doCreateSubscriptionFromPlan subscriber planId label).Keeps WritesUnclocked :=
  .bind .ask fun _ => .bind (Modifies.requireAuth _) fun _ =>
    .bind (Modifies.requireNotBlocklisted _) fun _ =>
    .bind (keeps_unclocked (enforceCreationRateLimit_areas _) rfl) fun _ => .bind (.gets _) fun _ =>
    .bind (.okOr _ _) fun _ => .bind (.failIf _ _) fun _ => .bind (.failIf _ _) fun _ =>
    .bind (Modifies.enforceSubscriptionCounts _ _) fun _ =>
    .bind (Modifies.enforceCreditLimitForDelta _ _ _) fun _ =>
    .bind (Modifies.enforcePlanConcurrencyLimit _ _) fun _ => .bind (.gets _) fun _ =>
    .bind (.okOr _ _) fun _ =>
    .bind (keeps_unclocked (l := [.numbering]) (Modifies.writeConfig rfl rfl) rfl) fun _ =>
    .bind (.gets _) fun _ =>
    .bind (writeSubscription_unclocked (NewSubscription.record_unclocked _ _ _ _)) fun _ =>
    .bind (keeps_unclocked (incrementSubscriberActiveCount_areas _) rfl) fun _ =>
    .bind (keeps_unclocked (l := [.planLinks]) (Modifies.store rfl) rfl) fun _ =>
    .bind (keeps_unclocked (indexSubscription_areas _ _) rfl) fun _ => .pure _

end Unclocked

end SubscriptionVault
