import SubscriptionVault.Lifecycle.OneRecord

/-!
# Spacing of interval charges

The time of the last payment alone keeps charges apart: it never moves back, a charge moves it
to the present, and none is made before an interval has passed since. A buyout does not look at
it, but needs a grace period, which starts only when a charge was due.
-/

namespace SubscriptionVault

open Exec

/-! ## Charges that move funds -/

/-- The step charges the subscription for an interval. A replayed key is no charge. -/
inductive ChargesInterval (id : Nat) : VaultAction → State → State → Prop
  | call {env : Env} {key : Option BytesN32} {s t : State} :
      s.isReplayedKey env .chargeInterval id key = false →
      (guardedCall .chargeSubscription (chargeOne id key none ∅)).run env s = .ok .charged t →
      ChargesInterval id (.call env (.chargeSubscription id key)) s t
  | operator {env : Env} {op : Address} {s t : State} :
      (guardedCall .operatorChargeSubscription (doOperatorChargeSubscription op id)).run env s =
        .ok .charged t →
      ChargesInterval id (.call env (.operatorChargeSubscription op id)) s t
  | item {env : Env} {key : Option BytesN32} {s t : State} :
      s.isReplayedKey env .chargeInterval id key = false →
      (chargeOne id key none ∅).run env s = .ok .charged t →
      ChargesInterval id (.item env (.charge id key)) s t
  | buyout {env : Env} {subscriber : Address} {amount : Int} {key : Option BytesN32}
      {paid : Int × Int} {s t : State} :
      (guardedCall .graceBuyout (doGraceBuyout id subscriber amount key)).run env s =
        .ok paid t →
      ChargesInterval id (.call env (.graceBuyout id subscriber amount key)) s t

/-- An interval is booked as paid. -/
def PaysInterval (env : Env) (b : Book) (id : Nat) (b' : Book) : Prop :=
  ∃ sub new, b.Reads id sub ∧ sub.intervalSeconds ≠ 0 ∧
    (sub.status = .gracePeriod ∨ sub.lastPaymentTimestamp + sub.intervalSeconds ≤ env.now) ∧
    sub.ChargedTo new env.now ∧ b'.record id = some new ∧
    b'.chargedPeriod id = some (sub.periodIndex env.now)

section Charges

variable {env : Env} {s t u : State} {id : Nat} {key : Option BytesN32}

theorem chargeOne_pays (hfresh : s.isReplayedKey env .chargeInterval id key = false)
    (hrun : (chargeOne id key none ∅).run env s = .ok .charged t) :
    PaysInterval env s.book id t.book := by
  obtain ⟨sub, new, amount, hdue, hsettled, hbook⟩ := chargeOne_charged hfresh hrun
  refine ⟨sub, new, hdue.reads, hdue.interval, .inr hdue.elapsed, hsettled.chargedTo, ?_, ?_⟩
  · rw [hbook]
    exact Function.update_self _ _ _
  · rw [hbook]
    exact Function.update_self _ _ _

theorem BuysOut.pays {b b' : Book} (h : BuysOut env b id b') : PaysInterval env b id b' := by
  obtain ⟨sub, new, hreads, hgrace, hinterval, hnew, -, rfl⟩ := h
  exact ⟨sub, new, hreads, hinterval, .inl hgrace, hnew, Function.update_self _ _ _,
    Function.update_self _ _ _⟩

theorem isReplayedKey_lock (name : LockName) (held : Bool) :
    State.isReplayedKey (s.write (.lock name) held) env .chargeInterval id key =
      s.isReplayedKey env .chargeInterval id key := by
  have hbuffer : State.idemBuffer (s.write (.lock name) held) id = s.idemBuffer id := by
    simp [State.idemBuffer]
  have httl : State.idemTtlSecs (s.write (.lock name) held) = s.idemTtlSecs := by
    simp [State.idemTtlSecs]
  unfold State.isReplayedKey State.checkKey
  rw [hbuffer, httl]

theorem ChargesInterval.pays {l : VaultAction} (h : ChargesInterval id l s t) :
    PaysInterval l.env s.book id t.book := by
  cases h with
  | call hfresh hrun =>
    obtain ⟨u, hbody, hbook⟩ := run_locked_ok (run_guardedCall_ok.mp hrun).2
    rw [hbook, ← s.book_lock .chargeSubscription true]
    exact chargeOne_pays ((isReplayedKey_lock _ _).trans hfresh) hbody
  | @operator env op _ _ hrun =>
    obtain ⟨u, hbody, hbook⟩ := run_locked_ok (run_guardedCall_ok.mp hrun).2
    obtain ⟨_, -, hbody⟩ := run_check_ok (keeps_requireOperatorAuth op) hbody
    rw [hbook, ← s.book_lock .operatorChargeSubscription true]
    exact chargeOne_pays rfl hbody
  | item hfresh hrun => exact chargeOne_pays hfresh hrun
  | buyout hrun =>
    exact run_locked_book (PaysInterval _ · id ·) (fun _ _ hbody => (doGraceBuyout_book hbody).pays)
      (run_guardedCall_ok.mp hrun).2

/-- The step of the run is the charge. -/
theorem ChargesInterval.result {l : VaultAction} (h : ChargesInterval id l s t)
    (hstep : VaultStep l s u) : u = t := by
  have hsame {body : Vault Unit} {env : Env} {u t : State} (hrun : body.run env s = .ok () t)
      (hother : body.run env s = .ok () u) : u = t := by
    rw [hrun] at hother
    cases hother
    rfl
  cases h with
  | call _ hrun =>
    cases hstep with
    | call _ hother => exact hsame (run_effectOf_ok.mpr ⟨_, hrun⟩) hother
  | operator hrun =>
    cases hstep with
    | call _ hother => exact hsame (run_effectOf_ok.mpr ⟨_, hrun⟩) hother
  | item _ hrun =>
    cases hstep with
    | item hother => exact hsame (run_effectOf_ok.mpr ⟨_, hrun⟩) hother
    | itemFailed hother =>
      have hfailed := run_effectOf_err.mp hother
      rw [hrun] at hfailed
      cases hfailed
  | buyout hrun =>
    cases hstep with
    | call _ hother => exact hsame (run_effectOf_ok.mpr ⟨_, hrun⟩) hother

end Charges

/-! ## Terms that stay -/

/-- The operation keeps the billing terms of every subscription. -/
def Operation.KeepsTerms : Operation → Prop
  | .replan _ _ | .restore _ => False
  | _ => True

/-- The terms are the same and the last payment has not moved back. -/
structure Subscription.Ages (sub new : Subscription) : Prop where
  start : new.startTime = sub.startTime
  interval : new.intervalSeconds = sub.intervalSeconds
  lastPayment : sub.lastPaymentTimestamp ≤ new.lastPaymentTimestamp

theorem Subscription.Ages.refl (sub : Subscription) : sub.Ages sub := ⟨rfl, rfl, le_rfl⟩

theorem Subscription.Ages.trans {first second third : Subscription} (h : first.Ages second)
    (h' : second.Ages third) : first.Ages third :=
  ⟨h'.start.trans h.start, h'.interval.trans h.interval, h.lastPayment.trans h'.lastPayment⟩

theorem Subscription.ChargedTo.ages {sub new : Subscription} {now : Nat}
    (h : sub.ChargedTo new now) : sub.Ages new ∧ now ≤ new.lastPaymentTimestamp := by
  rw [h]
  exact ⟨⟨rfl, rfl, Nat.le_max_right _ _⟩, Nat.le_max_left _ _⟩

theorem Subscription.Ages.periodIndex {sub new : Subscription} (h : sub.Ages new) (now : Nat) :
    new.periodIndex now = sub.periodIndex now := by
  unfold Subscription.periodIndex
  rw [h.start, h.interval]

theorem periodIndex_mono {sub : Subscription} {now later : Nat} (h : now ≤ later) :
    sub.periodIndex now ≤ sub.periodIndex later :=
  Nat.div_le_div_right (by omega)

/-- A period after the last payment has a later index. -/
theorem periodIndex_lt {sub : Subscription} {now last : Nat} (hstart : sub.startTime ≤ last) (hnow : now ≤ last)
    (hinterval : sub.intervalSeconds ≠ 0) :
    sub.periodIndex now < sub.periodIndex (last + sub.intervalSeconds) := by
  have hpositive : 0 < sub.intervalSeconds := Nat.pos_of_ne_zero hinterval
  calc (now - sub.startTime) / sub.intervalSeconds
    _ < (now - sub.startTime) / sub.intervalSeconds + 1 := Nat.lt_succ_self _
    _ = (now - sub.startTime + sub.intervalSeconds) / sub.intervalSeconds :=
      (Nat.add_div_right _ hpositive).symm
    _ ≤ (last + sub.intervalSeconds - sub.startTime) / sub.intervalSeconds :=
      Nat.div_le_div_right (by omega)

/-- What is read differs from what is stored by the end of a grace period only. -/
theorem Book.Reads.stored {b : Book} {id : Nat} {sub : Subscription} (h : b.Reads id sub) :
    ∃ stored, b.record id = some stored ∧ stored.Ages sub ∧ sub.Ages stored ∧
      (sub.status = .gracePeriod → stored = sub) := by
  obtain ⟨stored, hstored, rfl | ⟨-, rfl⟩⟩ := h
  · exact ⟨_, hstored, .refl _, .refl _, fun _ => rfl⟩
  · exact ⟨stored, hstored, ⟨rfl, rfl, le_rfl⟩, ⟨rfl, rfl, le_rfl⟩, fun h => nomatch h⟩

section Ageing

variable {env : Env} {s : State} {id : Nat} {b' : Book} {op : Operation} {sub : Subscription}

theorem RecordChange.ages (h : RecordChange env s id b' op) (hkeeps : op.KeepsTerms)
    (hnumbered : s.book.Numbered) (hsub : s.book.record id = some sub) :
    ∃ new, b'.record id = some new ∧ sub.Ages new := by
  have hread {other : Subscription} (hreads : s.book.Reads id other) : sub.Ages other := by
    obtain ⟨stored, hstored, hages, -⟩ := hreads.stored
    rw [hsub] at hstored
    obtain rfl := Option.some.inj hstored
    exact hages
  cases h with
  | kept hsame => exact ⟨sub, hsame.record.trans hsub, .refl sub⟩
  | adjusted hreads hadjusted hnew _ =>
    exact ⟨_, hnew, (hread hreads).trans
      ⟨hadjusted.start, hadjusted.interval, hadjusted.lastPayment.ge⟩⟩
  | charged hreads _ _ _ hcharged _ hnew _ _ =>
    exact ⟨_, hnew, (hread hreads).trans hcharged.ages.1⟩
  | replanned _ _ _ _ _ => exact hkeeps.elim
  | created hid _ _ _ _ _ _ =>
    have hfree := hnumbered.unused id hid.ge
    rw [hsub] at hfree
    cases hfree
  | restored _ _ _ _ => exact hkeeps.elim

/-- A payment is never dated before the start. -/
theorem RecordChange.started (h : RecordChange env s id b' op) (hkeeps : op.KeepsTerms)
    (hfits : env.now ≤ u64Max)
    (hstarted : ∀ sub, s.book.record id = some sub → sub.startTime ≤ sub.lastPaymentTimestamp)
    (hsub : b'.record id = some sub) : sub.startTime ≤ sub.lastPaymentTimestamp := by
  have hread {other : Subscription} (hreads : s.book.Reads id other) :
      other.startTime ≤ other.lastPaymentTimestamp := by
    obtain ⟨stored, hstored, hages, -⟩ := hreads.stored
    exact hages.start.trans_le ((hstarted stored hstored).trans hages.lastPayment)
  have hsame {new : Subscription} (hnew : b'.record id = some new) : new = sub :=
    Option.some.inj (hnew.symm.trans hsub)
  cases h with
  | kept hkept => exact hstarted sub (hkept.record.symm.trans hsub)
  | adjusted hreads hadjusted hnew _ =>
    obtain rfl := hsame hnew
    rw [hadjusted.start, hadjusted.lastPayment]
    exact hread hreads
  | charged hreads _ _ _ hcharged _ hnew _ _ =>
    obtain rfl := hsame hnew
    have hages := hcharged.ages.1
    exact hages.start.trans_le ((hread hreads).trans hages.lastPayment)
  | replanned _ _ _ _ _ => exact hkeeps.elim
  | created _ _ hstart hpaid _ hnew _ =>
    obtain rfl := hsame hnew
    rcases hpaid with hpaid | ⟨trial, hpaid⟩
    · exact (hstart.trans hpaid.symm).le
    · rw [hstart, hpaid]
      exact Nat.le_min.mpr ⟨Nat.le_add_right _ _, hfits⟩
  | restored _ _ _ _ => exact hkeeps.elim

/-- A grace period starts when a payment is due. -/
theorem RecordChange.overdue (h : RecordChange env s id b' op) (hkeeps : op.KeepsTerms)
    (hsub : b'.record id = some sub) (hgrace : sub.status = .gracePeriod) :
    (∃ old, s.book.record id = some old ∧ old.status = .gracePeriod ∧
      sub.lastPaymentTimestamp + sub.intervalSeconds =
        old.lastPaymentTimestamp + old.intervalSeconds) ∨
      sub.lastPaymentTimestamp + sub.intervalSeconds ≤ env.now := by
  have hsame {new : Subscription} (hnew : b'.record id = some new) : new = sub :=
    Option.some.inj (hnew.symm.trans hsub)
  cases h with
  | kept hkept => exact .inl ⟨sub, hkept.record.symm.trans hsub, hgrace, rfl⟩
  | @adjusted _ read _ hreads hadjusted hnew _ =>
    obtain rfl := hsame hnew
    rw [hadjusted.lastPayment, hadjusted.interval]
    rcases hadjusted.grace hgrace with hbefore | hdue
    · obtain ⟨stored, hstored, -, -, heq⟩ := hreads.stored
      obtain rfl := heq hbefore
      exact .inl ⟨stored, hstored, hbefore, rfl⟩
    · exact .inr hdue
  | charged _ _ _ _ _ hother hnew _ _ =>
    obtain rfl := hsame hnew
    exact absurd hgrace hother
  | replanned _ _ _ _ _ => exact hkeeps.elim
  | created _ hactive _ _ _ hnew _ =>
    obtain rfl := hsame hnew
    rw [hactive] at hgrace
    cases hgrace
  | restored _ _ _ _ => exact hkeeps.elim

end Ageing

/-! ## Runs -/

/-- What a run has left behind: every charge so far is dated no later than the last payment, and
a subscription in its grace period was due at some step. -/
structure Spaced (id : Nat) (hist : History VaultAction State) (s : State) : Prop where
  numbered : s.book.Numbered
  started : ∀ sub, s.subscription id = some sub → sub.startTime ≤ sub.lastPaymentTimestamp
  overdue : ∀ sub, s.subscription id = some sub → sub.status = .gracePeriod →
    ∃ step ∈ hist, sub.lastPaymentTimestamp + sub.intervalSeconds ≤ step.1.env.now
  charged : ∀ l₁ s₁ t₁, (l₁, s₁) ∈ hist → ChargesInterval id l₁ s₁ t₁ →
    ∃ sub₁ sub, s₁.subscription id = some sub₁ ∧ s.subscription id = some sub ∧
      sub₁.Ages sub ∧ sub₁.startTime ≤ l₁.env.now ∧ l₁.env.now ≤ sub.lastPaymentTimestamp ∧
      t₁.book.chargedPeriod id = some (sub₁.periodIndex l₁.env.now)

section Runs

variable {start s t : State} {id : Nat} {hist : History VaultAction State} {l : VaultAction}

/-- A charge is made on a subscription that is due. -/
theorem Spaced.due {b' : Book} (h : Spaced id hist s)
    (hlater : ∀ step ∈ hist, step.1.env.now ≤ l.env.now) (hpays : PaysInterval l.env s.book id b') :
    ∃ sub new, s.subscription id = some sub ∧ sub.intervalSeconds ≠ 0 ∧
      sub.lastPaymentTimestamp + sub.intervalSeconds ≤ l.env.now ∧
      b'.record id = some new ∧ sub.Ages new ∧ l.env.now ≤ new.lastPaymentTimestamp ∧
      b'.chargedPeriod id = some (sub.periodIndex l.env.now) := by
  obtain ⟨sub, new, hreads, hinterval, hdue, hcharged, hnew, hperiod⟩ := hpays
  obtain ⟨stored, hstored, hages, hback, hgrace⟩ := hreads.stored
  have hlast : stored.lastPaymentTimestamp = sub.lastPaymentTimestamp :=
    hages.lastPayment.antisymm hback.lastPayment
  refine ⟨stored, new, hstored, hages.interval ▸ hinterval, ?_, hnew,
    hages.trans hcharged.ages.1, hcharged.ages.2, ?_⟩
  · rcases hdue with hstatus | hdue
    · obtain rfl := hgrace hstatus
      obtain ⟨step, hmem, hpast⟩ := h.overdue stored hstored hstatus
      exact hpast.trans (hlater step hmem)
    · rwa [hlast, ← hages.interval]
  · rw [hperiod, hages.periodIndex]

theorem Spaced.step (h : Spaced id hist s) (hkeeps : l.operation.KeepsTerms)
    (horder : InOrder ((l, s) :: hist)) (hstep : VaultStep l s t) :
    Spaced id ((l, s) :: hist) t where
  numbered := by
    refine numbered_of_step h.numbered hstep fun summaries hrestore => ?_
    rw [hrestore] at hkeeps
    exact hkeeps
  started sub hsub :=
    (hstep.view id).started hkeeps (horder.fits _ List.mem_cons_self) h.started hsub
  overdue sub hsub hgrace := by
    rcases (hstep.view id).overdue hkeeps hsub hgrace with ⟨old, hold, hbefore, hsame⟩ | hdue
    · obtain ⟨step, hmem, hpast⟩ := h.overdue old hold hbefore
      exact ⟨step, List.mem_cons_of_mem _ hmem, hsame ▸ hpast⟩
    · exact ⟨_, List.mem_cons_self, hdue⟩
  charged l₁ s₁ t₁ hmem hcharges := by
    rcases List.mem_cons.mp hmem with heq | hmem
    · obtain ⟨rfl, rfl⟩ := Prod.mk.inj heq
      obtain rfl := hcharges.result hstep
      have hlater : ∀ step ∈ hist, step.1.env.now ≤ l₁.env.now := fun _ => horder.le
      obtain ⟨sub, new, hsub, -, hdue, hnew, hages, hpaid, hperiod⟩ := h.due hlater hcharges.pays
      have hstarted := h.started sub hsub
      exact ⟨sub, new, hsub, hnew, hages, by omega, hpaid, hperiod⟩
    · obtain ⟨sub₁, sub, hsub₁, hsub, hages, hbegun, hpaid, hperiod⟩ :=
        h.charged l₁ s₁ t₁ hmem hcharges
      obtain ⟨new, hnew, hages'⟩ := (hstep.view id).ages hkeeps h.numbered hsub
      exact ⟨sub₁, new, hsub₁, hnew, hages.trans hages', hbegun, hpaid.trans hages'.lastPayment,
        hperiod⟩

theorem spaced_of_run (hstart : Deployed start) (hrun : Run VaultStep start hist s)
    (hkeeps : ∀ step ∈ hist, step.1.operation.KeepsTerms) (horder : InOrder hist) :
    Spaced id hist s := by
  induction hrun with
  | start =>
    have hnone : start.subscription id = none := hstart.numbered.unused id (by
      rw [hstart.book]
      exact Nat.zero_le _)
    refine ⟨hstart.numbered, fun sub hsub => ?_, fun sub hsub => ?_, fun _ _ _ hmem => nomatch hmem⟩
    · rw [hnone] at hsub
      cases hsub
    · rw [hnone] at hsub
      cases hsub
  | next _ hlast ih =>
    exact (ih (fun step hmem => hkeeps step (List.mem_cons_of_mem _ hmem)) horder.tail).step
      (hkeeps _ List.mem_cons_self) horder hlast

/-- In every run without migrations and restores two charges of a subscription are an interval
apart, and the later one is for a later period. -/
theorem charges_spaced (hstart : Deployed start) (hrun : Run VaultStep start hist s)
    (hkeeps : ∀ step ∈ hist, step.1.operation.KeepsTerms) (horder : InOrder ((l, s) :: hist))
    (hcharge : ChargesInterval id l s t) {l₁ : VaultAction} {s₁ t₁ : State}
    (hmem : (l₁, s₁) ∈ hist) (hearlier : ChargesInterval id l₁ s₁ t₁) :
    (∃ sub₁ sub, s₁.subscription id = some sub₁ ∧ s.subscription id = some sub ∧
      sub.intervalSeconds = sub₁.intervalSeconds ∧
      l₁.env.now + sub.intervalSeconds ≤ l.env.now) ∧
    ∃ period₁ period, t₁.read (.instanced (.chargedPeriod id)) = some period₁ ∧
      t.read (.instanced (.chargedPeriod id)) = some period ∧ period₁ < period := by
  have hspaced : Spaced id hist s := spaced_of_run hstart hrun hkeeps horder.tail
  obtain ⟨sub₁, sub, hsub₁, hsub, hages, hbegun, hpaid, hperiod₁⟩ :=
    hspaced.charged l₁ s₁ t₁ hmem hearlier
  have hlater : ∀ step ∈ hist, step.1.env.now ≤ l.env.now := fun _ => horder.le
  obtain ⟨now, new, hnow, hinterval, hdue, -, -, -, hperiod⟩ := hspaced.due hlater hcharge.pays
  obtain rfl : sub = now := Option.some.inj (hsub.symm.trans hnow)
  have hapart : l₁.env.now + sub.intervalSeconds ≤ l.env.now := by omega
  refine ⟨⟨sub₁, sub, hsub₁, hsub, hages.interval, hapart⟩, _, _, hperiod₁, hperiod, ?_⟩
  have hstarted : sub.startTime ≤ sub.lastPaymentTimestamp :=
    hages.start.trans_le (hbegun.trans hpaid)
  calc sub₁.periodIndex l₁.env.now
    _ = sub.periodIndex l₁.env.now := (hages.periodIndex _).symm
    _ < sub.periodIndex (sub.lastPaymentTimestamp + sub.intervalSeconds) :=
      periodIndex_lt hstarted hpaid hinterval
    _ ≤ sub.periodIndex l.env.now := periodIndex_mono hdue

end Runs

section Examples

private def funded : List VaultAction :=
  [.call (sampleEnv 0 [⟨2⟩]) (.depositFunds 0 100 none),
   .call (sampleEnv 0 [⟨2⟩]) (.createSubscription sampleRequest)]

private def chargeAt (now : Nat) : VaultAction :=
  .call (sampleEnv now []) (.chargeSubscription 0 none)

/-- The interval is a minute; the charges are made at 60 and at 130. -/
theorem charged_twice :
    ∃ t₁ t : State, (∃ sub₁ sub,
      (actionsAfter (afterCalls (sampleVault 0)) funded).subscription 0 = some sub₁ ∧
        (actionsAfter (afterCalls (sampleVault 0)) (chargeAt 60 :: funded)).subscription 0 =
          some sub ∧
        sub.intervalSeconds = sub₁.intervalSeconds ∧ 60 + sub.intervalSeconds ≤ 130) ∧
      ∃ period₁ period, t₁.read (.instanced (.chargedPeriod 0)) = some period₁ ∧
        t.read (.instanced (.chargedPeriod 0)) = some period ∧ period₁ < period := by
  have hrun := run_actions (sample_prepared 0)
    (show actionsSucceed (afterCalls (sampleVault 0)) (chargeAt 60 :: funded) = true by
      decide +kernel)
  obtain ⟨t₁, hfirst⟩ : ∃ t, (guardedCall .chargeSubscription (chargeOne 0 none none ∅)).run
      (sampleEnv 60 []) (actionsAfter (afterCalls (sampleVault 0)) funded) = .ok .charged t :=
    run_of_returns (by decide +kernel)
  obtain ⟨t, hsecond⟩ : ∃ t, (guardedCall .chargeSubscription (chargeOne 0 none none ∅)).run
      (sampleEnv 130 []) (actionsAfter (afterCalls (sampleVault 0)) (chargeAt 60 :: funded)) =
        .ok .charged t := run_of_returns (by decide +kernel)
  refine ⟨t₁, t, charges_spaced (sample_deployed 0) hrun ?_ ⟨?_, ?_⟩ (.call rfl hsecond)
    List.mem_cons_self (.call rfl hfirst)⟩
  · simp [actionHistory, chargeAt, funded, VaultAction.operation, VaultCall.operation,
      Operation.KeepsTerms]
  · simp [actionHistory, chargeAt, funded, VaultAction.env, sampleEnv]
  · simp [actionHistory, chargeAt, funded, VaultAction.env, sampleEnv, u64Max]

end Examples

end SubscriptionVault
