import SubscriptionVault.Charging.BookChanges

/-!
# When a booked charge can be logged

A funded charge writes the debited record first and its statement, its period snapshot and its
idempotency key afterwards. Each of the three can be turned down. Where all are accepted, a
charge that fails has not touched the record.
-/

namespace SubscriptionVault

open Exec

namespace State

/-- There is a number left for the next statement. -/
def AcceptsStatement (s : State) (id : Nat) : Prop := s.statementSequence id + 1 ≤ u32Max

/-- The snapshot goes together with what is stored for its period, and is not about nothing. -/
def AcceptsSnapshot (s : State) (snapshot : BillingPeriodSnapshot) : Prop :=
  ∃ merged : BillingPeriodSnapshot,
    (s.read (.persistent (.billingPeriodSnapshot snapshot.subscriptionId snapshot.periodIndex))
      : Option BillingPeriodSnapshot).elim (.ok snapshot) snapshot.mergeOnto = .ok merged ∧
    (merged.markEmpty.hasFlag snapshotFlagEmpty ∨ 0 < merged.markEmpty.totalCharged)

/-- The buffer has room for the key, if one is given. -/
def AcceptsKey (s : State) (id now : Nat) (key : Option BytesN32) : Prop :=
  key.isSome → ((s.idemBuffer id).retained now s.idemTtlSecs).length < idemHistory

end State

theorem BillingPeriodSnapshot.markEmpty_totalCharged (snapshot : BillingPeriodSnapshot) :
    snapshot.markEmpty.totalCharged = snapshot.totalCharged := by
  unfold markEmpty
  split <;> rfl

/-- The snapshot a funded interval charge writes. -/
def IntervalCharge.snapshot (charge : IntervalCharge) (id now : Nat) (sub : Subscription) :
    BillingPeriodSnapshot where
  subscriptionId := id
  periodIndex := charge.periodIndex
  periodStart := charge.nextAllowed - sub.intervalSeconds
  periodEnd := now
  totalCharged := charge.amount
  totalUsageUnits := 0
  statusFlags := snapshotFlagClosed ||| snapshotFlagIntervalCharged
  finalizedAt := now

/-- Everything a charge logs is accepted. -/
structure LogsAccepted (env : Env) (s : State) (id : Nat) (sub : Subscription)
    (charge : IntervalCharge) (key : Option BytesN32) : Prop where
  statement : s.AcceptsStatement id
  snapshot : s.AcceptsSnapshot (charge.snapshot id env.now sub)
  key : s.AcceptsKey id env.now key

section Logs

variable {env : Env} {s t : State} {id : Nat} {sub : Subscription} {charge : IntervalCharge}
  {key : Option BytesN32} {snapshot : BillingPeriodSnapshot}

theorem appendStatement_succeeds (h : s.AcceptsStatement id) (amount : Int)
    (merchant token : Address) (kind : BillingChargeKind) (periodStart timestamp : Nat) :
    ∃ t, (appendStatement id amount merchant token kind periodStart timestamp).run env s =
      .ok () t := by
  have hnext : checkedAddU32 (s.statementSequence id) 1 = some (s.statementSequence id + 1) :=
    if_pos h
  refine exists_run_bind (run_gets_ok.mpr ⟨rfl, rfl⟩) ?_
  refine exists_run_bind (run_okOr_ok.mpr ⟨hnext, rfl⟩) ?_
  refine exists_run_seq (run_store_ok.mpr rfl) (exists_run_seq (run_store_ok.mpr rfl) ?_)
  refine exists_run_bind (run_load_ok.mpr ⟨rfl, rfl⟩) ?_
  exact ⟨_, run_store_ok.mpr rfl⟩

theorem writePeriodSnapshot_succeeds (h : s.AcceptsSnapshot snapshot)
    (hperiod : snapshot.periodStart < snapshot.periodEnd) :
    ∃ t, (writePeriodSnapshot snapshot).run env s = .ok () t := by
  obtain ⟨merged, hmerged, hcharged⟩ := h
  have hindex : ∀ id period, (indexPeriodSnapshot id period).Total := fun id period =>
    .bind (.gets _) fun _ => .bind (.forEach (fun _ => .update _) _) fun _ => .update _
  refine exists_run_seq (run_failIf_ok.mpr ⟨by omega, rfl⟩) ?_
  refine exists_run_seq (run_failIf_ok.mpr ⟨fun hlate => by omega, rfl⟩) ?_
  refine exists_run_bind (run_load_ok.mpr ⟨rfl, rfl⟩) ?_
  refine exists_run_bind (run_lift_ok.mpr ⟨hmerged, rfl⟩) ?_
  refine exists_run_seq (run_failIf_ok.mpr ⟨?_, rfl⟩) ?_
  · rintro ⟨hflag, hnothing⟩
    rcases hcharged with hempty | hpaid
    · exact hflag hempty
    · omega
  · refine exists_run_seq (run_store_ok.mpr rfl) ?_
    refine exists_run_when fun _ => ?_
    obtain ⟨_, t, hrun⟩ := hindex _ _ env _
    exact ⟨t, hrun⟩

theorem recordIdemKey_succeeds (h : s.AcceptsKey id env.now key) :
    ∃ t, (recordIdemKey .chargeInterval id key).run env s = .ok () t := by
  refine exists_run_bind (run_ask_ok.mpr ⟨rfl, rfl⟩) ?_
  cases key with
  | none => exact ⟨s, run_pure_ok.mpr ⟨rfl, rfl⟩⟩
  | some key =>
    refine exists_run_bind (run_gets_ok.mpr ⟨rfl, rfl⟩) ?_
    refine exists_run_bind (run_gets_ok.mpr ⟨rfl, rfl⟩) ?_
    exact exists_run_seq (run_failIf_ok.mpr ⟨Nat.not_le.mpr (h rfl), rfl⟩)
      ⟨_, run_store_ok.mpr rfl⟩

end Logs

/-! ## Where nothing has been logged -/

/-- Slots the log does not depend on. -/
def unlogged : Set Slot := {k | k.isLog = false ∧ k ≠ .symbol .idemTtl}

/-- Slots keys do not depend on. -/
def unkeyed : Set Slot := {k | (∀ id, k ≠ .instanced (.idemKey id)) ∧ k ≠ .symbol .idemTtl}

/-- Slots that hold no snapshot. -/
def unsnapped : Set Slot := {k | ∀ id period, k ≠ .persistent (.billingPeriodSnapshot id period)}

theorem unlogged_subset_unsnapped : unlogged ⊆ unsnapped := by
  rintro k ⟨hk, -⟩ id period rfl
  cases hk

theorem unlogged_subset_unkeyed : unlogged ⊆ unkeyed := by
  rintro k ⟨hk, httl⟩
  refine ⟨fun id heq => ?_, httl⟩
  rw [heq] at hk
  cases hk

theorem statementSlots_subset_unkeyed : statementSlots ⊆ unkeyed := by
  intro k hk
  have hk : k.isStatement = true := hk
  refine ⟨fun id heq => ?_, fun heq => ?_⟩
  · rw [heq] at hk
    cases hk
  · rw [heq] at hk
    cases hk

section Accepted

variable {env : Env} {s t : State} {id : Nat} {sub : Subscription} {charge : IntervalCharge}
  {key : Option BytesN32} {snapshot : BillingPeriodSnapshot}

theorem State.AcceptsSnapshot.of_agreeOff (h : s.AcceptsSnapshot snapshot)
    (hagree : FiniteStore.AgreeOff unsnapped s t) : t.AcceptsSnapshot snapshot := by
  obtain ⟨merged, hmerged, hcharged⟩ := h
  refine ⟨merged, ?_, hcharged⟩
  rw [hagree.read (fun hk => hk _ _ rfl)]
  exact hmerged

theorem State.AcceptsKey.of_agreeOff (h : s.AcceptsKey id env.now key)
    (hagree : FiniteStore.AgreeOff unkeyed s t) : t.AcceptsKey id env.now key := by
  intro hkey
  have hbuffer : t.read (.instanced (.idemKey id)) = s.read (.instanced (.idemKey id)) :=
    hagree.read fun hk => hk.1 id rfl
  have httl : t.read (.symbol .idemTtl) = s.read (.symbol .idemTtl) :=
    hagree.read fun hk => hk.2 rfl
  rw [State.idemBuffer, hbuffer, State.idemTtlSecs, httl]
  exact h hkey

theorem LogsAccepted.of_agreeOff (h : LogsAccepted env s id sub charge key)
    (hagree : FiniteStore.AgreeOff unlogged s t) : LogsAccepted env t id sub charge key where
  statement := by
    have hsequence : t.read (.persistent (.billingStatementSequence id)) =
        s.read (.persistent (.billingStatementSequence id)) := hagree.read (by simp [unlogged, Slot.isLog])
    rw [State.AcceptsStatement, State.statementSequence, hsequence]
    exact h.statement
  snapshot := h.snapshot.of_agreeOff (hagree.mono unlogged_subset_unsnapped)
  key := h.key.of_agreeOff (hagree.mono unlogged_subset_unkeyed)

/-- Code that leaves book and log alone may come first. -/
theorem outcome_of_unlogged {α β : Type} {s₀ s : State} {P : Outcome Error State β → Prop}
    {x : Vault α} {f : α → Vault β} (hx : Modifies (unlogged ∩ unbooked) x)
    (hs : FiniteStore.AgreeOff (unlogged ∩ unbooked) s₀ s) (htrap : P .trap)
    (herr : ∀ (e : Error) (t : State), FiniteStore.AgreeOff (unlogged ∩ unbooked) s₀ t →
      P (.err e t))
    (hok : ∀ a t, x.run env s = .ok a t → FiniteStore.AgreeOff (unlogged ∩ unbooked) s₀ t →
      P ((f a).run env t)) :
    P ((x >>= f).run env s) :=
  outcome_of_bind htrap (fun e t hrun => herr e t (hs.trans (hx.err hrun)))
    fun a t hrun => hok a t hrun (hs.trans (hx.ok hrun))

theorem creditSlots_subset_unlogged : creditSlots ⊆ unlogged ∩ unbooked := by
  intro k hk
  refine ⟨?_, creditSlots_subset_unbooked hk⟩
  have hk : k.isCredit = true := hk
  refine ⟨?_, fun heq => by rw [heq] at hk; cases hk⟩
  cases k with
  | persistent key => cases key <;> cases hk
  | instanced key => cases key <;> first | rfl | cases hk
  | symbol key => cases hk
  | lock name => cases hk
  | tokenBalance token holder => cases hk
  | subAccountFunds merchant label token => rfl

/-- What a charge logs last goes through. -/
theorem logs_succeed (h : LogsAccepted env s id sub charge key)
    (hperiod : charge.nextAllowed - sub.intervalSeconds < env.now) :
    ∃ t, (do
      appendStatement id charge.amount sub.merchant sub.token .interval
        (charge.nextAllowed - sub.intervalSeconds) env.now
      writePeriodSnapshot (charge.snapshot id env.now sub)
      store (.instanced (.chargedPeriod id)) charge.periodIndex
      store (.instanced (.chargeSalt id)) charge.salt
      recordIdemKey .chargeInterval id key : Vault Unit).run env s = .ok () t := by
  have happended (amount : Int) (merchant token : Address) (periodStart : Nat) :
      Modifies unsnapped
        (appendStatement id amount merchant token .interval periodStart env.now) :=
    .bind (.gets _) fun _ => .bind (.okOr _ _) fun _ => .bind (Modifies.store (by simp [unsnapped]))
      fun _ => .bind (Modifies.store (by simp [unsnapped])) fun _ =>
      .bind Modifies.load fun _ => Modifies.store (by simp [unsnapped])
  obtain ⟨s₁, h₁⟩ : ∃ s₁, (appendStatement id charge.amount sub.merchant sub.token .interval
      (charge.nextAllowed - sub.intervalSeconds) env.now).run env s = .ok () s₁ :=
    appendStatement_succeeds h.statement _ _ _ _ _ _
  have hsnapshot := h.snapshot.of_agreeOff ((happended _ _ _ _).ok h₁)
  obtain ⟨s₂, h₂⟩ : ∃ s₂, (writePeriodSnapshot (charge.snapshot id env.now sub)).run env s₁ =
      .ok () s₂ := writePeriodSnapshot_succeeds hsnapshot hperiod
  refine exists_run_seq h₁ (exists_run_seq h₂ ?_)
  refine exists_run_seq (run_store_ok.mpr rfl) (exists_run_seq (run_store_ok.mpr rfl) ?_)
  apply recordIdemKey_succeeds
  have hlogged : FiniteStore.AgreeOff unkeyed s s₂ :=
    (((Modifies.statement_appended _ _ _ _ _ _ _).ok h₁).trans
      ((Modifies.snapshot_written _).ok h₂)).mono statementSlots_subset_unkeyed
  have hperiod : FiniteStore.AgreeOff unkeyed s₂
      (s₂.write (.instanced (.chargedPeriod id)) charge.periodIndex) :=
    s₂.agreeOff_write _ (by simp [unkeyed])
  refine h.key.of_agreeOff ((hlogged.trans hperiod).trans ?_)
  exact FiniteStore.agreeOff_write _ _ (by simp [unkeyed])

/-- A charge whose log is accepted fails before it writes the record. -/
theorem settleInterval_err_book {e : Error} (h : LogsAccepted env s id sub charge key)
    (hperiod : charge.nextAllowed - sub.intervalSeconds < env.now)
    (hrun : (settleInterval id sub charge key none).run env s = .err e t) : t.book = s.book := by
  let P : Outcome Error State Unit → Prop := fun o => ∀ e t, o = .err e t → t.book = s.book
  suffices hend : P ((settleInterval id sub charge key none).run env s) from hend e t hrun
  have htrap : P .trap := fun _ _ heq => by cases heq
  have herr (e : Error) (t : State) (hagree : FiniteStore.AgreeOff (unlogged ∩ unbooked) s t) :
      P (.err e t) := by
    rintro _ _ ⟨⟩
    exact State.book_of_unbooked (hagree.mono Set.inter_subset_right)
  have hquiet {α : Type} {x : Vault α} (hx : Modifies creditSlots x) :
      Modifies (unlogged ∩ unbooked) x := hx.weaken creditSlots_subset_unlogged
  refine outcome_of_unlogged (P := P) .ask (Std.Refl.refl s) htrap herr fun env' s₁ hask h₁ => ?_
  obtain ⟨rfl, -⟩ := run_ask_ok.mp hask
  refine outcome_of_unlogged (P := P) (.gets _) h₁ htrap herr fun terms s₂ _ h₂ => ?_
  refine outcome_of_unlogged (P := P) (.lift _) h₂ htrap herr fun split s₃ _ h₃ => ?_
  refine outcome_of_unlogged (P := P) (hquiet (Modifies.creditChargePayees _ _ _ _)) h₃ htrap herr
    fun _ s₄ _ h₄ => ?_
  refine outcome_of_unlogged (P := P) (hquiet (Modifies.routeToSubAccount _ _)) h₄ htrap herr
    fun _ s₅ _ h₅ => ?_
  refine outcome_of_unlogged (P := P) (hquiet (Modifies.creditProtocolFee _ _ _ _)) h₅ htrap herr
    fun _ s₆ _ h₆ => ?_
  refine outcome_of_unlogged (P := P) (.lift _) h₆ htrap herr fun booked s₇ _ h₇ => ?_
  have hcounter : Slot.instanced (.chargeFailureCounter id) ∈ unlogged ∩ unbooked :=
    ⟨⟨rfl, fun heq => by cases heq⟩, rfl⟩
  refine outcome_of_unlogged (P := P) (Modifies.delete hcounter) h₇ htrap herr fun _ s₈ _ h₈ => ?_
  refine outcome_of_unlogged (P := P) (.lift _) h₈ htrap herr fun new s₉ _ h₉ => ?_
  refine outcome_of_bind (P := P) htrap (by simp [writeSubscription]) fun _ s₁₀ hwrite => ?_
  obtain rfl := run_store_ok.mp hwrite
  -- the record is written, and nothing after it can fail
  have hlogs : LogsAccepted env (s₉.write (.persistent (.sub id)) new) id sub charge key :=
    h.of_agreeOff ((h₉.mono Set.inter_subset_left).trans
      (s₉.agreeOff_write _ ⟨rfl, fun heq => by cases heq⟩))
  obtain ⟨u, hlast⟩ := logs_succeed hlogs hperiod
  intro e t heq
  exact absurd (hlast.symm.trans heq) (by simp)

end Accepted

end SubscriptionVault
