import SubscriptionVault.Charging.Errors
import SubscriptionVault.Charging.Spacing

/-!
# Replay errors

A charge is refused as a replay when its salt is the one of the last charge, or when its period
is not past the last one charged. The period is counted in the intervals the subscription has
now, while the stored one was counted in those it had then; a migration to longer intervals
moves the count back.
-/

namespace SubscriptionVault

open Exec

/-! ## Where the error comes from -/

/-- Every error but a replay. -/
def notReplay : Set Error := {e | e ≠ .replay}

section Errors

theorem ordinary_notReplay : ordinary ⊆ notReplay := by
  rintro e he rfl
  cases he

variable {env : Env} {s t : State} {id : Nat} {key : Option BytesN32} {sub : Subscription}
  {amount : Int}

private theorem replay_not_mem : Error.replay ∉ notReplay := fun h => h rfl

private theorem run_check_replay {α β : Type} {x : Vault α} {f : α → Vault β} (hx : x.Keeps Eq)
    (hraises : x.Raises notReplay) (hrun : (x >>= f).run env s = .err .replay t) :
    ∃ a, x.run env s = .ok a s ∧ (f a).run env s = .err .replay t :=
  hraises.run_check_err hx replay_not_mem hrun

/-- The marks of the last charge refuse one in this ledger. -/
def Book.Blocks (b : Book) (env : Env) (id : Nat) (sub : Subscription) : Prop :=
  b.chargeSalt id = some (env.host.chargeSalt id sub.lastPaymentTimestamp env.sequence) ∨
    ∃ period, b.chargedPeriod id = some period ∧ sub.periodIndex env.now ≤ period

private theorem chargeInterval_replay
    (hrun : (chargeInterval id sub amount key none).run env s = .err .replay t) :
    sub.intervalSeconds ≠ 0 ∧ s.book.Blocks env id sub := by
  obtain ⟨_, hask, hrun⟩ := run_check_replay .ask .ask hrun
  obtain ⟨rfl, -⟩ := run_ask_ok.mp hask
  obtain ⟨_, hinterval, hrun⟩ := run_check_replay (.require _) (.require _) hrun
  refine ⟨(run_require_ok.mp hinterval).1, ?_⟩
  obtain ⟨lastSalt, hsalt, hrun⟩ := run_check_replay Modifies.load raises_load hrun
  rcases run_bind_err.mp hrun with hrefused | ⟨_, _, hfresh, hrun⟩
  · have hsame := (run_failIf_err.mp hrefused).1
    exact .inl ((run_load_ok.mp hsalt).1.trans hsame)
  obtain ⟨-, rfl⟩ := run_failIf_ok.mp hfresh
  obtain ⟨replayed, -, hrun⟩ := run_check_replay (.gets _) (.gets _) hrun
  split at hrun
  · exact (run_pure_err.mp hrun).elim
  obtain ⟨storedPeriod, hperiod, hrun⟩ := run_check_replay Modifies.load raises_load hrun
  rcases run_bind_err.mp hrun with hrefused | ⟨_, _, hfresh, hrun⟩
  · obtain ⟨period, rfl, hlate⟩ := Option.any_eq_true _ _ |>.mp (run_failIf_err.mp hrefused).1
    exact .inr ⟨period, (run_load_ok.mp hperiod).1, of_decide_eq_true hlate⟩
  obtain ⟨-, rfl⟩ := run_failIf_ok.mp hfresh
  obtain ⟨next, -, hrun⟩ := run_check_replay (.lift _)
    (.lift (fails_nextChargeTime ordinary_notReplay _ _)) hrun
  obtain ⟨_, -, hrun⟩ := run_check_replay (.failIf _ _)
    (.failIf (e := .intervalNotElapsed) fun heq => by cases heq) hrun
  obtain ⟨remaining, -, hrun⟩ := run_check_replay (.lift _)
    (.lift (fails_capRemaining ordinary_notReplay _)) hrun
  refine absurd ?_ replay_not_mem
  refine Raises.ite (E := notReplay) ?_ ?_ _ _ _ _ hrun
  · exact .bind (raises_cancelCapped ordinary_notReplay _ _) fun _ => .pure _
  · split
    · exact .bind (raises_settleInterval ordinary_notReplay _ _ _ _ _) fun _ => .pure _
    · exact .bind (raises_recordShortfall ordinary_notReplay _ _) fun _ => .pure _

private theorem chargeChecked_replay
    (hrun : (chargeChecked id sub key none).run env s = .err .replay t) :
    sub.intervalSeconds ≠ 0 ∧ s.book.Blocks env id sub := by
  obtain ⟨_, hask, hrun⟩ := run_check_replay .ask .ask hrun
  obtain ⟨rfl, -⟩ := run_ask_ok.mp hask
  obtain ⟨priced, hpriced, hrun⟩ := run_check_replay (.gets _) (.gets _) hrun
  obtain ⟨rfl, -⟩ := run_gets_ok.mp hpriced
  obtain ⟨amount, -, hrun⟩ :=
    run_check_replay (.lift _) (.lift (fails_intervalAmount ordinary_notReplay _ _ _ _)) hrun
  split at hrun
  · have hraises : (do
        when (sub.status ≠ .cancelled) (cancelCapped id sub)
        pure .lifetimeCapReached : Vault ChargeExecutionResult).Raises notReplay :=
      .bind (.when (raises_cancelCapped ordinary_notReplay _ _)) fun _ => .pure _
    exact absurd (hraises _ _ _ _ hrun) replay_not_mem
  split at hrun
  · have hraises : (do
        fireScheduledCancellation id sub
        pure .scheduledCancellation : Vault ChargeExecutionResult).Raises notReplay :=
      .bind (raises_fireScheduledCancellation ordinary_notReplay _ _) fun _ => .pure _
    exact absurd (hraises _ _ _ _ hrun) replay_not_mem
  obtain ⟨_, -, hrun⟩ := run_check_replay (Modifies.requireChargeable sub)
    (raises_requireChargeable ordinary_notReplay sub) hrun
  obtain ⟨closed, -, hrun⟩ := run_check_replay (.lift _)
    (.lift (fails_renewalClosed ordinary_notReplay _ _)) hrun
  split at hrun
  · exact (run_pure_err.mp hrun).elim
  · exact chargeInterval_replay hrun

/-- A charge is refused as a replay by the marks of the last one only. -/
theorem chargeOne_replay (hrun : (chargeOne id key none ∅).run env s = .err .replay t) :
    ∃ sub, s.book.Reads id sub ∧ sub.intervalSeconds ≠ 0 ∧ s.book.Blocks env id sub := by
  obtain ⟨_, -, hrun⟩ := run_check_replay Modifies.requireNotEmergencyStop
    (raises_requireNotEmergencyStop ordinary_notReplay) hrun
  obtain ⟨sub, hget, hrun⟩ := run_check_replay (Modifies.getSubscription id)
    (raises_getSubscription ordinary_notReplay id) hrun
  obtain ⟨_, -, hrun⟩ := run_check_replay (Modifies.checkMerchantStatus _ _)
    (raises_checkMerchantStatus ordinary_notReplay nofun _ _) hrun
  obtain ⟨_, -, hrun⟩ := run_check_replay (Modifies.requireNotBlocklisted _)
    (raises_requireNotBlocklisted ordinary_notReplay _) hrun
  obtain ⟨_, -, hrun⟩ := run_check_replay (Modifies.requireNotBlocklisted _)
    (raises_requireNotBlocklisted ordinary_notReplay _) hrun
  obtain ⟨_, -, hrun⟩ := run_check_replay (Modifies.checkSplitPayees id)
    (.bind (.gets _) fun _ => .whenSome fun _ => .forEach (fun _ =>
      .bind (raises_requireNotBlocklisted ordinary_notReplay _) fun _ => raises_checkMerchantStatus ordinary_notReplay nofun _ _) _) hrun
  obtain ⟨_, _, hexpired, hrun⟩ :=
    (raises_failIfExpired ordinary_notReplay id sub).run_bind_err replay_not_mem hrun
  obtain ⟨-, rfl⟩ := run_failIfExpired_ok.mp hexpired
  exact ⟨sub, Book.reads_of_effective (run_getSubscription_ok.mp hget).1,
    chargeChecked_replay hrun⟩

end Errors

/-! ## Marks left behind -/

/-- Different charges have different salts. -/
def Host.SaltsInjective (host : Host) : Prop :=
  ∀ id last sequence id' last' sequence',
    host.chargeSalt id last sequence = host.chargeSalt id' last' sequence' →
      id = id' ∧ last = last' ∧ sequence = sequence'

/-- The period charged last is before that of the record's next charge. -/
def Book.PastPeriod (b : Book) (id : Nat) (sub : Subscription) : Prop :=
  ∀ period, b.chargedPeriod id = some period → sub.intervalSeconds ≠ 0 →
    period < sub.periodIndex (sub.lastPaymentTimestamp + sub.intervalSeconds)

/-- What the operation puts under `id` is not blocked by the marks it finds there. -/
def Operation.Unblocked (env : Env) (s : State) (id : Nat) : Operation → Prop
  | .replan id' planId => id' = id → ∀ plan sub, s.planTemplate planId = some plan →
      s.subscription id = some sub →
      s.book.PastPeriod id { sub with intervalSeconds := plan.intervalSeconds }
  | .create => s.nextSubscriptionId = id → ∀ period, s.book.chargedPeriod id = some period →
      period = 0
  | .restore summaries => ∀ summary ∈ summaries, summary.subscriptionId = id →
      summary.startTime ≤ summary.lastPaymentTimestamp ∧ s.book.PastPeriod id summary.record ∧
      s.book.chargeSalt id ≠
        some (env.host.chargeSalt id summary.lastPaymentTimestamp env.sequence)
  | _ => True

/-- The marks under `id` come from earlier steps and do not block an overdue charge. -/
structure Chargeable (id : Nat) (hist : History VaultAction State) (s : State) : Prop where
  started : ∀ sub, s.subscription id = some sub → sub.startTime ≤ sub.lastPaymentTimestamp
  period : ∀ sub, s.subscription id = some sub → s.book.PastPeriod id sub
  salt : ∀ salt, s.book.chargeSalt id = some salt → ∃ step ∈ hist, ∃ last,
    salt = step.1.env.host.chargeSalt id last step.1.env.sequence ∧ last < step.1.env.now ∧
      ∀ sub, s.subscription id = some sub → last ≠ sub.lastPaymentTimestamp ∨
        ∃ later ∈ hist, step.1.env.sequence < later.1.env.sequence

section Marks

variable {start s t : State} {id : Nat} {hist : History VaultAction State} {l : VaultAction}
  {sub new : Subscription} {b b' : Book}

theorem Book.PastPeriod.ages (h : b.PastPeriod id sub) (hages : sub.Ages new)
    (hkept : b'.chargedPeriod id = b.chargedPeriod id) : b'.PastPeriod id new := by
  intro period hperiod hinterval
  rw [hages.interval] at hinterval ⊢
  rw [hages.periodIndex]
  have hlast := hages.lastPayment
  exact (h period (hkept.symm.trans hperiod) hinterval).trans_le (periodIndex_mono (by omega))

/-- Older marks do not block what is paid for now. -/
theorem Chargeable.salt_of_paid (h : Chargeable id hist s) (horder : InOrder ((l, s) :: hist))
    {u : State} (hkept : u.book.chargeSalt id = s.book.chargeSalt id)
    (hpaid : ∀ sub, u.subscription id = some sub → l.env.now ≤ sub.lastPaymentTimestamp)
    (salt : BytesN32) (hsalt : u.book.chargeSalt id = some salt) :
    ∃ step ∈ (l, s) :: hist, ∃ last,
      salt = step.1.env.host.chargeSalt id last step.1.env.sequence ∧ last < step.1.env.now ∧
        ∀ sub, u.subscription id = some sub → last ≠ sub.lastPaymentTimestamp ∨
          ∃ later ∈ (l, s) :: hist, step.1.env.sequence < later.1.env.sequence := by
  obtain ⟨step, hmem, last, hsame, hbefore, -⟩ := h.salt salt (hkept.symm.trans hsalt)
  refine ⟨step, List.mem_cons_of_mem _ hmem, last, hsame, hbefore, fun sub hsub => .inl ?_⟩
  have hnow : step.1.env.now ≤ l.env.now := horder.le hmem
  have hlast := hpaid sub hsub
  omega

theorem Chargeable.of_same (h : Chargeable id hist s) {u : State}
    (hmarks : s.book.SameMarks id u.book)
    (hages : ∀ new, u.subscription id = some new → ∃ sub, s.subscription id = some sub ∧
      sub.Ages new ∧ new.lastPaymentTimestamp = sub.lastPaymentTimestamp) :
    Chargeable id ((l, s) :: hist) u where
  started new hnew := by
    obtain ⟨sub, hsub, haged, -⟩ := hages new hnew
    exact haged.start.trans_le ((h.started sub hsub).trans haged.lastPayment)
  period new hnew := by
    obtain ⟨sub, hsub, haged, -⟩ := hages new hnew
    exact (h.period sub hsub).ages haged hmarks.period
  salt salt hsalt := by
    obtain ⟨step, hmem, last, hsame, hbefore, hother⟩ := h.salt salt (hmarks.salt.symm.trans hsalt)
    refine ⟨step, List.mem_cons_of_mem _ hmem, last, hsame, hbefore, fun new hnew => ?_⟩
    obtain ⟨sub, hsub, -, hlast⟩ := hages new hnew
    rcases hother sub hsub with hne | ⟨later, hlater, hafter⟩
    · exact .inl (hlast ▸ hne)
    · exact .inr ⟨later, List.mem_cons_of_mem _ hlater, hafter⟩

theorem Chargeable.of_charged (h : Chargeable id hist s) (horder : InOrder ((l, s) :: hist))
    {u : State} (hreads : s.book.Reads id sub) (hcharged : sub.ChargedTo new l.env.now)
    (hnew : u.subscription id = some new)
    (hperiod : u.book.chargedPeriod id = s.book.chargedPeriod id ∨
      u.book.chargedPeriod id = some (sub.periodIndex l.env.now))
    (hsalt : u.book.chargeSalt id = s.book.chargeSalt id ∨ sub.lastPaymentTimestamp < l.env.now ∧
      u.book.chargeSalt id =
        some (l.env.host.chargeSalt id sub.lastPaymentTimestamp l.env.sequence)) :
    Chargeable id ((l, s) :: hist) u := by
  obtain ⟨stored, hstored, hages, -, -⟩ := hreads.stored
  have haged : stored.Ages new := hages.trans hcharged.ages.1
  have hpaid : l.env.now ≤ new.lastPaymentTimestamp := hcharged.ages.2
  have hstarted : new.startTime ≤ new.lastPaymentTimestamp :=
    haged.start.trans_le ((h.started stored hstored).trans haged.lastPayment)
  have hsame {other : Subscription} (hother : u.subscription id = some other) : new = other :=
    Option.some.inj (hnew.symm.trans hother)
  refine ⟨fun other hother => ?_, fun other hother => ?_, ?_⟩
  · obtain rfl := hsame hother
    exact hstarted
  · obtain rfl := hsame hother
    rcases hperiod with hkept | hmarked
    · exact (h.period stored hstored).ages haged hkept
    · intro period hstoredPeriod hinterval
      rw [hmarked] at hstoredPeriod
      obtain rfl := Option.some.inj hstoredPeriod
      rw [← hcharged.ages.1.periodIndex]
      exact periodIndex_lt hstarted hpaid hinterval
  · intro salt hstoredSalt
    rcases hsalt with hkept | ⟨hbefore, hmarked⟩
    · refine h.salt_of_paid horder hkept (fun other hother => ?_) salt hstoredSalt
      obtain rfl := hsame hother
      exact hpaid
    · rw [hmarked] at hstoredSalt
      refine ⟨(l, s), List.mem_cons_self, sub.lastPaymentTimestamp,
        (Option.some.inj hstoredSalt).symm, hbefore, fun other hother => .inl ?_⟩
      obtain rfl := hsame hother
      exact (hbefore.trans_le hpaid).ne

theorem Chargeable.step (h : Chargeable id hist s) (hstep : VaultStep l s t)
    (horder : InOrder ((l, s) :: hist)) (hclear : l.operation.Unblocked l.env s id) :
    Chargeable id ((l, s) :: hist) t := by
  have hview := hstep.view id
  generalize l.operation = op at hview hclear
  cases hview with
  | kept hsame =>
    exact h.of_same ⟨hsame.period, hsame.salt⟩ fun new hnew =>
      ⟨new, hsame.record.symm.trans hnew, .refl new, rfl⟩
  | @adjusted _ sub new hreads hadjusted hnew hmarks =>
    refine h.of_same hmarks fun other hother => ?_
    obtain rfl : new = other := Option.some.inj (hnew.symm.trans hother)
    obtain ⟨stored, hstored, hages, hback, -⟩ := hreads.stored
    have hlast : sub.lastPaymentTimestamp = stored.lastPaymentTimestamp :=
      hback.lastPayment.antisymm hages.lastPayment
    exact ⟨stored, hstored, hages.trans
      ⟨hadjusted.start, hadjusted.interval, hadjusted.lastPayment.ge⟩,
      hadjusted.lastPayment.trans hlast⟩
  | charged hreads _ hinterval _ hcharged _ hnew hperiod hsalt =>
    refine h.of_charged horder hreads hcharged hnew hperiod (hsalt.imp_right fun hmarked => ?_)
    exact ⟨by have := hmarked.1; omega, hmarked.2⟩
  | @replanned planId plan sub new hplan hreads hchanged hnew hmarks =>
    obtain ⟨stored, hstored, hages, hback, -⟩ := hreads.stored
    have hlast : new.lastPaymentTimestamp = stored.lastPaymentTimestamp := by
      rw [hchanged]
      exact hback.lastPayment.antisymm hages.lastPayment
    have hstart : new.startTime = stored.startTime := by
      rw [hchanged]
      exact hages.start
    have hsame {other : Subscription} (hother : t.subscription id = some other) : new = other :=
      Option.some.inj (hnew.symm.trans hother)
    refine ⟨fun other hother => ?_, fun other hother => ?_, fun salt hsalt => ?_⟩
    · obtain rfl := hsame hother
      rw [hstart, hlast]
      exact h.started stored hstored
    · obtain rfl := hsame hother
      have hpast := hclear rfl plan stored hplan hstored
      have hages : Subscription.Ages { stored with intervalSeconds := plan.intervalSeconds } new :=
        ⟨hstart, by rw [hchanged], hlast.ge⟩
      exact hpast.ages hages hmarks.period
    · obtain ⟨step, hmem, last, heq, hbefore, hother⟩ := h.salt salt (hmarks.salt.symm.trans hsalt)
      refine ⟨step, List.mem_cons_of_mem _ hmem, last, heq, hbefore, fun other hnew => ?_⟩
      obtain rfl := hsame hnew
      rcases hother stored hstored with hne | ⟨later, hlater, hafter⟩
      · exact .inl (hlast ▸ hne)
      · exact .inr ⟨later, List.mem_cons_of_mem _ hlater, hafter⟩
  | @created sub hid _ hstart hpaid _ hnew hmarks =>
    have hlate : l.env.now ≤ sub.lastPaymentTimestamp := by
      rcases hpaid with hpaid | ⟨trial, hpaid⟩
      · exact hpaid.ge
      · rw [hpaid]
        exact Nat.le_min.mpr ⟨Nat.le_add_right _ _, horder.fits _ List.mem_cons_self⟩
    have hsame {other : Subscription} (hother : t.subscription id = some other) : sub = other :=
      Option.some.inj (hnew.symm.trans hother)
    refine ⟨fun other hother => ?_, fun other hother => ?_,
      h.salt_of_paid horder hmarks.salt fun other hother => ?_⟩
    · obtain rfl := hsame hother
      rwa [hstart]
    · obtain rfl := hsame hother
      intro period hperiod hinterval
      obtain rfl := hclear hid.symm period (hmarks.period.symm.trans hperiod)
      exact (Nat.zero_le _).trans_lt
        (periodIndex_lt (hstart.trans_le hlate) hlate hinterval)
    · obtain rfl := hsame hother
      exact hlate
  | @restored _ summary hmem hid hnew hmarks =>
    obtain ⟨hstarted, hpast, hfresh⟩ := hclear summary hmem hid
    have hsame {other : Subscription} (hother : t.subscription id = some other) :
        summary.record = other := Option.some.inj (hnew.symm.trans hother)
    refine ⟨fun other hother => ?_, fun other hother => ?_, fun salt hsalt => ?_⟩
    · obtain rfl := hsame hother
      exact hstarted
    · obtain rfl := hsame hother
      exact hpast.ages (.refl _) hmarks.period
    · have hstored := hmarks.salt.symm.trans hsalt
      obtain ⟨step, hbefore, last, heq, hpaid, -⟩ := h.salt salt hstored
      refine ⟨step, List.mem_cons_of_mem _ hbefore, last, heq, hpaid, fun other hother => ?_⟩
      obtain rfl := hsame hother
      by_cases hlast : last = summary.record.lastPaymentTimestamp
      · -- the salt belongs to an earlier ledger, or the restore would have been excluded
        refine .inr ⟨(l, s), List.mem_cons_self, ?_⟩
        obtain ⟨-, hle, hhost⟩ := List.rel_of_pairwise_cons horder.pairwise hbefore
        refine lt_of_le_of_ne hle fun hsequence => hfresh ?_
        rw [hstored, heq, hlast, hsequence, hhost]
        rfl
      · exact .inl hlast

theorem chargeable_of_run (hstart : Deployed start) (hrun : Run VaultStep start hist s)
    (hclear : ∀ step ∈ hist, step.1.operation.Unblocked step.1.env step.2 id)
    (horder : InOrder hist) : Chargeable id hist s := by
  induction hrun with
  | start =>
    have hbook := hstart.book
    have hnone : start.subscription id = none := congrArg (Book.record · id) hbook
    have hsalt : start.book.chargeSalt id = none := congrArg (Book.chargeSalt · id) hbook
    refine ⟨fun sub hsub => ?_, fun sub hsub => ?_, fun salt hstored => ?_⟩
    · rw [hnone] at hsub
      cases hsub
    · rw [hnone] at hsub
      cases hsub
    · rw [hsalt] at hstored
      cases hstored
  | next _ hlast ih =>
    exact (ih (fun step hmem => hclear step (List.mem_cons_of_mem _ hmem)) horder.tail).step hlast
      horder (hclear _ List.mem_cons_self)

/-- When no operation puts a record under marks that block it, an overdue subscription is never
refused as a replay. -/
theorem overdue_not_replayed (hstart : Deployed start) (hrun : Run VaultStep start hist s)
    (hclear : ∀ step ∈ hist, step.1.operation.Unblocked step.1.env step.2 id) {env : Env}
    (horder : InOrder ((.other env, s) :: hist)) (hsalts : env.host.SaltsInjective)
    (hsub : s.subscription id = some sub)
    (hoverdue : sub.lastPaymentTimestamp + sub.intervalSeconds ≤ env.now)
    (key : Option BytesN32) (t : State) :
    (chargeOne id key none ∅).run env s ≠ .err .replay t := by
  intro hreplay
  have hchargeable : Chargeable id hist s := chargeable_of_run hstart hrun hclear horder.tail
  obtain ⟨read, hreads, hinterval, hblocks⟩ := chargeOne_replay hreplay
  obtain ⟨stored, hstored, hages, hback, -⟩ := hreads.stored
  obtain rfl : sub = stored := Option.some.inj (hsub.symm.trans hstored)
  have hlast : read.lastPaymentTimestamp = sub.lastPaymentTimestamp :=
    hback.lastPayment.antisymm hages.lastPayment
  rcases hblocks with hsalt | ⟨period, hperiod, hlate⟩
  · obtain ⟨step, hmem, last, heq, -, hother⟩ := hchargeable.salt _ hsalt
    obtain ⟨-, -, hhost⟩ := List.rel_of_pairwise_cons horder.pairwise hmem
    have hhost : step.1.env.host = env.host := hhost
    rw [hhost] at heq
    obtain ⟨-, hsame, hsequence⟩ := hsalts _ _ _ _ _ _ heq
    rcases hother sub hsub with hne | ⟨later, hlater, hafter⟩
    · exact hne (hsame.symm.trans hlast)
    · have hle : later.1.env.sequence ≤ env.sequence :=
        (List.rel_of_pairwise_cons horder.pairwise hlater).2.1
      omega
  · have hpast := hchargeable.period sub hsub period hperiod (hages.interval ▸ hinterval)
    have hindex := hages.periodIndex env.now
    have hmono : sub.periodIndex (sub.lastPaymentTimestamp + sub.intervalSeconds) ≤
        sub.periodIndex env.now := periodIndex_mono hoverdue
    omega

end Marks

section Examples

/-- A plan with intervals of a minute, and its next version with intervals of an hour. -/
private def planned : List (Env × Vault Unit) :=
  [(sampleEnv 0 [⟨1⟩], effectOf (doUpdatePlanTemplate ⟨1⟩ 0 10 3600 false none)),
   (sampleEnv 0 [⟨1⟩], effectOf (doCreatePlanTemplate ⟨1⟩ 10 60 false none))] ++ sampleVault 0

private def onPlan : List VaultAction :=
  [.call (sampleEnv 600 []) (.chargeSubscription 0 none),
   .call (sampleEnv 0 [⟨2⟩]) (.depositFunds 0 100 none),
   .call (sampleEnv 0 [⟨2⟩]) (.createSubscriptionFromPlan ⟨2⟩ 0 none)]

private def migration : VaultAction :=
  .call (sampleEnv 660 [⟨2⟩]) (.migrateSubscriptionToPlan ⟨2⟩ 0 1)

private theorem planned_run :
    Run VaultStep (sampleStart 0) [(.other (sampleEnv 0 []), sampleStart 0)] (afterCalls planned) := by
  have hcreate := ((doCreatePlanTemplate_areas ⟨1⟩ 10 60 false none).unbooked rfl).effectOf.after
    (sampleEnv 0 [⟨1⟩]) (afterCalls (sampleVault 0))
  have hupdate := ((doUpdatePlanTemplate_areas ⟨1⟩ 0 10 3600 false none).unbooked rfl).effectOf.after
    (sampleEnv 0 [⟨1⟩]) (afterCalls
      ((sampleEnv 0 [⟨1⟩], effectOf (doCreatePlanTemplate ⟨1⟩ 10 60 false none)) :: sampleVault 0))
  exact Run.start.next (.other (((sample_quiet 0).trans hcreate).trans hupdate))

theorem sampleHost_salts : sampleHost.SaltsInjective := by
  intro id last sequence id' last' sequence' h
  simpa [sampleHost, Nat.pair_eq_pair] using h

/-- The last charge was for the tenth minute. An hour later, after the migration, a charge for
the first hour is due. -/
theorem migrated_charge_replayed :
    ∃ start hist s env sub t, Deployed start ∧ Run VaultStep start hist s ∧
      InOrder ((.other env, s) :: hist) ∧ env.host.SaltsInjective ∧
      s.subscription 0 = some sub ∧
      sub.lastPaymentTimestamp + sub.intervalSeconds ≤ env.now ∧
      (chargeOne 0 none none ∅).run env s = .err .replay t := by
  have hrun := run_actions planned_run
    (show actionsSucceed (afterCalls planned) (migration :: onPlan) = true by decide +kernel)
  have hsub : ((actionsAfter (afterCalls planned) (migration :: onPlan)).subscription 0).any
      (fun sub => sub.lastPaymentTimestamp + sub.intervalSeconds ≤ 4200) = true := by
    decide +kernel
  obtain ⟨sub, hsub, hdue⟩ := Option.any_eq_true _ _ |>.mp hsub
  obtain ⟨t, hreplay⟩ : ∃ t, (chargeOne 0 none none ∅).run (sampleEnv 4200 [])
      (actionsAfter (afterCalls planned) (migration :: onPlan)) = .err .replay t :=
    run_of_failsWith (by decide +kernel)
  refine ⟨_, _, _, sampleEnv 4200 [], sub, t, sample_deployed 0, hrun, ⟨?_, ?_⟩, sampleHost_salts,
    hsub, of_decide_eq_true hdue, hreplay⟩
  · simp [actionHistory, migration, onPlan, VaultAction.env, sampleEnv]
  · simp [actionHistory, migration, onPlan, VaultAction.env, sampleEnv, u64Max]

/-- Before the migration the next charge is due after a minute. -/
theorem planned_charge_not_replayed :
    ¬∃ t, (chargeOne 0 none none ∅).run (sampleEnv 660 [])
      (actionsAfter (afterCalls planned) onPlan) = .err .replay t := by
  rintro ⟨t, hreplay⟩
  have hrun := run_actions planned_run
    (show actionsSucceed (afterCalls planned) onPlan = true by decide +kernel)
  have hsub : ((actionsAfter (afterCalls planned) onPlan).subscription 0).any
      (fun sub => sub.lastPaymentTimestamp + sub.intervalSeconds ≤ 660) = true := by
    decide +kernel
  obtain ⟨sub, hsub, hdue⟩ := Option.any_eq_true _ _ |>.mp hsub
  have hunmarked : (afterCalls planned).read (.instanced (.chargedPeriod 0)) = none := by
    decide +kernel
  refine overdue_not_replayed (sample_deployed 0) hrun (fun step hmem => ?_) ⟨?_, ?_⟩
    sampleHost_salts hsub (of_decide_eq_true hdue) none t hreplay
  · simp only [actionHistory, onPlan, List.cons_append, List.nil_append, List.mem_cons,
      List.not_mem_nil, or_false] at hmem
    rcases hmem with rfl | rfl | rfl | rfl
    · trivial
    · trivial
    · intro _ period hperiod
      cases hunmarked.symm.trans hperiod
    · trivial
  · simp [actionHistory, onPlan, VaultAction.env, sampleEnv]
  · simp [actionHistory, onPlan, VaultAction.env, sampleEnv, u64Max]

end Examples

end SubscriptionVault
