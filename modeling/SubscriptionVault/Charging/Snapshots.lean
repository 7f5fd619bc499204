import SubscriptionVault.Charging.AutoPause
import SubscriptionVault.Contract.Queries

/-!
# Snapshots of billing periods

The first write to a period stores a snapshot and puts the period at the end of the index of its
subscription; the oldest period then drops out, and its snapshot with it, once there are too many.
A later write is added onto the snapshot while that is open, and refused when it is closed.
-/

namespace SubscriptionVault

open Exec

/-! ## Reads -/

section Reads

variable {s t : State} {id : Nat}

theorem State.getPeriodSnapshot_of_agreeOff (h : FiniteStore.AgreeOff snapshotFree s t) :
    t.getPeriodSnapshot = s.getPeriodSnapshot := by
  funext i period
  exact h.read (k := .persistent (.billingPeriodSnapshot i period)) nofun

theorem State.periodSnapshotIndex_of_agreeOff (h : FiniteStore.AgreeOff snapshotFree s t) :
    t.periodSnapshotIndex = s.periodSnapshotIndex := by
  funext i
  rw [State.periodSnapshotIndex, State.periodSnapshotIndex,
    h.read (k := .persistent (.billingPeriodSnapshotIndex i)) nofun]

end Reads

/-! ## One write -/

section Flags

variable {snapshot existing merged : BillingPeriodSnapshot} {flag : Nat}

/-- Something was charged in the period. -/
def BillingPeriodSnapshot.Charged (snapshot : BillingPeriodSnapshot) : Prop :=
  snapshot.hasFlag (snapshotFlagIntervalCharged ||| snapshotFlagUsageCharged)

theorem BillingPeriodSnapshot.Charged.markEmpty_eq (h : snapshot.Charged) :
    snapshot.markEmpty = snapshot :=
  if_neg fun hempty => hempty.2 h

/-- The snapshot that a write makes of an open one. -/
structure MergesOnto (snapshot existing merged : BillingPeriodSnapshot) : Prop where
  opened : ¬existing.hasFlag snapshotFlagClosed
  totalCharged : merged.totalCharged = existing.totalCharged + snapshot.totalCharged
  totalUsageUnits : merged.totalUsageUnits = existing.totalUsageUnits + snapshot.totalUsageUnits
  statusFlags : merged.statusFlags = snapshot.statusFlags ||| existing.statusFlags
  periodStart : merged.periodStart = existing.periodStart
  periodEnd : existing.periodEnd ≤ merged.periodEnd
  subscriptionId : merged.subscriptionId = snapshot.subscriptionId
  periodIndex : merged.periodIndex = snapshot.periodIndex

theorem mergesOnto_of_ok (h : snapshot.mergeOnto existing = .ok merged) :
    MergesOnto snapshot existing merged := by
  unfold BillingPeriodSnapshot.mergeOnto at h
  split at h
  · cases h
  rename_i hopen
  obtain ⟨totalCharged, hcharged, h⟩ := except_bind_ok.mp h
  obtain ⟨totalUsageUnits, hunits, h⟩ := except_bind_ok.mp h
  obtain ⟨rfl, -⟩ := safeAdd_ok.mp hcharged
  obtain ⟨rfl, -⟩ := safeAdd_ok.mp hunits
  cases h
  exact ⟨hopen, rfl, rfl, rfl, rfl, Nat.le_max_right _ _, rfl, rfl⟩

theorem MergesOnto.charged (h : MergesOnto snapshot existing merged) (hcharged : snapshot.Charged) :
    merged.Charged := by
  intro hnone
  rw [h.statusFlags, Nat.and_or_distrib_right] at hnone
  exact hcharged (Nat.or_eq_zero_iff.mp hnone).1

end Flags

/-- What a write leaves in the slots of the snapshots. -/
inductive SnapshotWritten (snapshot : BillingPeriodSnapshot) (s t : State) : Prop
  | opened :
      s.getPeriodSnapshot snapshot.subscriptionId snapshot.periodIndex = none →
      (∀ periods, s.periodSnapshotIndex snapshot.subscriptionId ++ [snapshot.periodIndex] = periods →
        t.periodSnapshotIndex = Function.update s.periodSnapshotIndex snapshot.subscriptionId
          (periods.drop (excessPeriods periods)) ∧
        ∀ id period, t.getPeriodSnapshot id period =
          if id = snapshot.subscriptionId ∧ period ∈ periods.take (excessPeriods periods) then none
          else if id = snapshot.subscriptionId ∧ period = snapshot.periodIndex then some snapshot
          else s.getPeriodSnapshot id period) →
      SnapshotWritten snapshot s t
  | merged {existing merged : BillingPeriodSnapshot} :
      s.getPeriodSnapshot snapshot.subscriptionId snapshot.periodIndex = some existing →
      MergesOnto snapshot existing merged → t.periodSnapshotIndex = s.periodSnapshotIndex →
      (∀ id period, t.getPeriodSnapshot id period =
        if id = snapshot.subscriptionId ∧ period = snapshot.periodIndex then some merged
        else s.getPeriodSnapshot id period) →
      SnapshotWritten snapshot s t

section Writes

variable {env : Env} {s t : State} {id period : Nat} {snapshot : BillingPeriodSnapshot} {u : Unit}

theorem State.getPeriodSnapshot_write (s : State) (id period : Nat)
    (snapshot : BillingPeriodSnapshot) (i p : Nat) :
    State.getPeriodSnapshot (s.write (.persistent (.billingPeriodSnapshot id period)) snapshot) i p =
      if i = id ∧ p = period then some snapshot else s.getPeriodSnapshot i p := by
  by_cases hsame : i = id ∧ p = period
  · obtain ⟨rfl, rfl⟩ := hsame
    rw [if_pos ⟨rfl, rfl⟩, State.getPeriodSnapshot, FiniteStore.read_write_self]
  · rw [if_neg hsame, State.getPeriodSnapshot, FiniteStore.read_write_of_ne _ _ (by simpa using hsame)]
    rfl

theorem run_deleteSnapshots_ok {periods : List Nat}
    (hrun : (forEach periods fun oldest =>
      delete (.persistent (.billingPeriodSnapshot id oldest)) : Vault Unit).run env s = .ok u t) :
    t.periodSnapshotIndex = s.periodSnapshotIndex ∧ ∀ i p, t.getPeriodSnapshot i p =
      if i = id ∧ p ∈ periods then none else s.getPeriodSnapshot i p := by
  induction periods generalizing s with
  | nil =>
    obtain rfl := run_forEach_nil_ok.mp hrun
    exact ⟨rfl, fun i p => (if_neg (by simp)).symm⟩
  | cons oldest periods ih =>
    obtain ⟨v, hfirst, hrest⟩ := run_forEach_cons_ok.mp hrun
    obtain rfl := run_delete_ok.mp hfirst
    obtain ⟨hindex, hread⟩ := ih hrest
    refine ⟨hindex.trans ?_, fun i p => (hread i p).trans ?_⟩
    · funext i
      rw [State.periodSnapshotIndex, State.periodSnapshotIndex,
        FiniteStore.read_remove_of_ne _ (by simp)]
    · by_cases hoff : i = id ∧ p ∈ periods
      · rw [if_pos hoff, if_pos ⟨hoff.1, List.mem_cons_of_mem _ hoff.2⟩]
      rw [if_neg hoff, State.getPeriodSnapshot]
      by_cases hsame : i = id ∧ p = oldest
      · obtain ⟨rfl, rfl⟩ := hsame
        rw [if_pos ⟨rfl, List.mem_cons_self⟩, FiniteStore.read_remove_self]
      · rw [FiniteStore.read_remove_of_ne _ (by simpa using hsame), if_neg]
        · rfl
        · rintro ⟨hi, hp⟩
          rcases List.mem_cons.mp hp with hp | hp
          · exact hsame ⟨hi, hp⟩
          · exact hoff ⟨hi, hp⟩

theorem run_indexPeriodSnapshot_ok (hrun : (indexPeriodSnapshot id period).run env s = .ok u t)
    {periods : List Nat} (hperiods : s.periodSnapshotIndex id ++ [period] = periods) :
    t.periodSnapshotIndex = Function.update s.periodSnapshotIndex id
        (periods.drop (excessPeriods periods)) ∧
      ∀ i p, t.getPeriodSnapshot i p =
        if i = id ∧ p ∈ periods.take (excessPeriods periods) then none
        else s.getPeriodSnapshot i p := by
  subst hperiods
  obtain ⟨stored, hload, hrun⟩ := run_check_ok Modifies.load hrun
  obtain ⟨rfl, -⟩ := run_load_ok.mp hload
  obtain ⟨_, v, hdelete, hstore⟩ := run_bind_ok.mp hrun
  obtain rfl := run_store_ok.mp hstore
  obtain ⟨hindex, hread⟩ := run_deleteSnapshots_ok hdelete
  refine ⟨?_, fun i p => ?_⟩
  · funext i
    by_cases hi : i = id
    · subst hi
      rw [Function.update_self, State.periodSnapshotIndex, FiniteStore.read_write_self]
      rfl
    · rw [Function.update_of_ne hi, State.periodSnapshotIndex,
        FiniteStore.read_write_of_ne _ _ (by simpa using hi)]
      exact congrFun hindex i
  · rw [← State.periodSnapshotIndex] at hread
    rw [← hread i p, State.getPeriodSnapshot, FiniteStore.read_write_of_ne _ _ (by simp)]
    rfl

/-- A write of something charged stores it, merged with what was there. -/
theorem run_writePeriodSnapshot_ok (hcharged : snapshot.Charged)
    (hrun : (writePeriodSnapshot snapshot).run env s = .ok u t) :
    SnapshotWritten snapshot s t := by
  obtain ⟨_, -, hrun⟩ := run_check_ok (.failIf _ _) hrun
  obtain ⟨_, -, hrun⟩ := run_check_ok (.failIf _ _) hrun
  obtain ⟨existing, hload, hrun⟩ := run_check_ok Modifies.load hrun
  obtain ⟨hstored, -⟩ := run_load_ok.mp hload
  obtain ⟨merged, hmerged, hrun⟩ := run_check_ok (.lift _) hrun
  have hmerged := (run_lift_ok.mp hmerged).1
  obtain ⟨_, -, hrun⟩ := run_check_ok (.failIf _ _) hrun
  obtain ⟨_, v, hstore, hrun⟩ := run_bind_ok.mp hrun
  obtain rfl := run_store_ok.mp hstore
  have hkept (new : BillingPeriodSnapshot) : State.periodSnapshotIndex (s.write (.persistent
      (.billingPeriodSnapshot snapshot.subscriptionId snapshot.periodIndex)) new) =
        s.periodSnapshotIndex := by
    funext i
    rw [State.periodSnapshotIndex, State.periodSnapshotIndex,
      FiniteStore.read_write_of_ne _ _ (by simp)]
  cases existing with
  | none =>
    obtain rfl := Except.ok.inj hmerged
    rw [hcharged.markEmpty_eq] at hrun
    obtain ⟨-, hindex⟩ := (run_when_ok.mp hrun).resolve_right fun h => h.1 rfl
    refine .opened hstored fun periods hperiods => ?_
    rw [← hkept snapshot] at hperiods
    obtain ⟨hindexed, hread⟩ := run_indexPeriodSnapshot_ok hindex hperiods
    refine ⟨hindexed.trans (by rw [hkept]), fun id period => (hread id period).trans ?_⟩
    rw [State.getPeriodSnapshot_write]
  | some existing =>
    have hmerges := mergesOnto_of_ok hmerged
    rw [(hmerges.charged hcharged).markEmpty_eq] at hrun
    obtain ⟨-, rfl⟩ := (run_when_ok.mp hrun).resolve_left fun h => nomatch h.1
    exact .merged hstored hmerges (hkept merged) (s.getPeriodSnapshot_write _ _ _)

/-- A write that is refused changes nothing. -/
theorem writePeriodSnapshot_err {e : Error}
    (hrun : (writePeriodSnapshot snapshot).run env s = .err e t) : t = s := by
  rcases run_check_err (.failIf _ _) hrun with rfl | ⟨_, -, hrun⟩
  · rfl
  rcases run_check_err (.failIf _ _) hrun with rfl | ⟨_, -, hrun⟩
  · rfl
  rcases run_check_err Modifies.load hrun with rfl | ⟨_, -, hrun⟩
  · rfl
  rcases run_check_err (.lift _) hrun with rfl | ⟨_, -, hrun⟩
  · rfl
  rcases run_check_err (.failIf _ _) hrun with rfl | ⟨_, -, hrun⟩
  · rfl
  have hindex : ∀ id period, (indexPeriodSnapshot id period).Total := fun id period =>
    .bind (.gets _) fun _ => .bind (.forEach (fun _ => .update _) _) fun _ => .update _
  rcases run_bind_err.mp hrun with hfail | ⟨_, v, -, hlast⟩
  · exact (run_store_err.mp hfail).elim
  · obtain ⟨-, hfail⟩ := run_when_err.mp hlast
    obtain ⟨_, w, hok⟩ := hindex _ _ env v
    exact absurd (hok.symm.trans hfail) (by simp)

end Writes

/-! ## Writes in a row -/

inductive SnapshotAction where
  | write (env : Env) (snapshot : BillingPeriodSnapshot)
  | quiet

/-- Every write of the vault is about something charged. -/
inductive SnapshotStep : SnapshotAction → State → State → Prop
  | write {env : Env} {snapshot : BillingPeriodSnapshot} {s t : State} :
      snapshot.Charged → (writePeriodSnapshot snapshot).run env s = .ok () t →
      SnapshotStep (.write env snapshot) s t
  | quiet {s t : State} : FiniteStore.AgreeOff snapshotFree s t → SnapshotStep .quiet s t

/-- Nothing but writes of snapshots lies between the two states. -/
def WritesSnapshots (s t : State) : Prop := ∃ writes, Run SnapshotStep s writes t

instance : Std.Refl WritesSnapshots where
  refl _ := ⟨[], .start⟩

instance : IsTrans State WritesSnapshots where
  trans _ _ _ h h' := by
    obtain ⟨writes, hrun⟩ := h
    obtain ⟨later, hlater⟩ := h'
    exact ⟨later ++ writes, hrun.append hlater⟩

namespace WritesSnapshots

variable {env : Env} {s t : State} {id : Nat}

theorem of_agreeOff (h : FiniteStore.AgreeOff snapshotFree s t) : WritesSnapshots s t :=
  ⟨_, .next .start (.quiet h)⟩

theorem of_modifies {α : Type} {x : Vault α} (h : Modifies snapshotFree x) :
    x.Keeps WritesSnapshots :=
  Keeps.mono h fun _ _ => of_agreeOff

theorem of_areas {α : Type} {l : List Area} {x : Vault α} (h : Modifies (areas l) x)
    (hl : l.contains .statements = false) : x.Keeps WritesSnapshots :=
  of_modifies (h.snapshotFree hl)

theorem of_credits {α : Type} {x : Vault α} (h : Modifies creditSlots x) :
    x.Keeps WritesSnapshots :=
  of_areas (h.weaken creditSlots_subset_areas) rfl

theorem appendStatement (id : Nat) (amount : Int) (merchant token : Address)
    (kind : BillingChargeKind) (periodStart timestamp : Nat) :
    (appendStatement id amount merchant token kind periodStart timestamp).Keeps
      WritesSnapshots :=
  of_modifies ((appendStatement_plain _ _ _ _ _ _ _).weaken Set.inter_subset_right)

theorem writePeriodSnapshot {snapshot : BillingPeriodSnapshot} (hcharged : snapshot.Charged) :
    (writePeriodSnapshot snapshot).Keeps WritesSnapshots := by
  refine .of_runs (fun env s u t hrun => ⟨_, .next .start (.write hcharged hrun)⟩)
    fun env s e t hrun => ?_
  obtain rfl := writePeriodSnapshot_err hrun
  exact Std.Refl.refl _

theorem settleInterval (id : Nat) (sub : Subscription) (charge : IntervalCharge)
    (key : Option BytesN32) (cfg : Option CachedAdminConfig) :
    (settleInterval id sub charge key cfg).Keeps WritesSnapshots :=
  .bind .ask fun _ => .bind (.gets _) fun _ => .bind (.lift _) fun _ =>
    .bind (of_credits (Modifies.creditChargePayees _ _ _ _)) fun _ =>
    .bind (of_credits (Modifies.routeToSubAccount _ _)) fun _ =>
    .bind (of_credits (Modifies.creditProtocolFee _ _ _ _)) fun _ => .bind (.lift _) fun _ =>
    .bind (of_modifies (Modifies.delete rfl)) fun _ => .bind (.lift _) fun _ =>
    .bind (of_areas (writeSubscription_areas _ _) rfl) fun _ =>
    .bind (appendStatement _ _ _ _ _ _ _) fun _ =>
    .bind (writePeriodSnapshot (by simp [BillingPeriodSnapshot.Charged,
      BillingPeriodSnapshot.hasFlag, snapshotFlagClosed, snapshotFlagIntervalCharged,
      snapshotFlagUsageCharged])) fun _ =>
    .bind (of_modifies (Modifies.store rfl)) fun _ =>
    .bind (of_modifies (Modifies.store rfl)) fun _ =>
    of_areas (recordIdemKey_areas _ _ _) rfl

theorem settleUsage (id : Nat) (sub : Subscription) (usageAmount pending balance : Int)
    (reference : Bytes) :
    (settleUsage id sub usageAmount pending balance reference).Keeps WritesSnapshots :=
  .bind .ask fun _ => .bind (.gets _) fun _ => .bind (.gets _) fun _ => .bind (.lift _) fun _ =>
    .bind (of_credits (Modifies.creditChargePayees _ _ _ _)) fun _ =>
    .bind (of_credits (Modifies.routeToSubAccount _ _)) fun _ =>
    .bind (of_credits (Modifies.creditProtocolFee _ _ _ _)) fun _ => .bind (.lift _) fun _ =>
    .bind (of_areas (writeSubscription_areas _ _) rfl) fun _ =>
    .bind (of_modifies (Modifies.store rfl)) fun _ => .bind (.require _) fun _ =>
    .bind (.failIf _ _) fun _ => .bind (.okOr _ _) fun _ =>
    .bind (writePeriodSnapshot (by simp [BillingPeriodSnapshot.Charged,
      BillingPeriodSnapshot.hasFlag, snapshotFlagIntervalCharged, snapshotFlagUsageCharged]))
    fun _ => appendStatement _ _ _ _ _ _ _

theorem chargeOne (id : Nat) (key : Option BytesN32) :
    (chargeOne id key none ∅).Keeps WritesSnapshots := by
  have hquiet {l : List Area} {s t : State} (hl : l.contains .statements = false)
      (h : FiniteStore.AgreeOff (areas l) s t) : WritesSnapshots s t :=
    of_agreeOff (h.mono (areas_subset_snapshotFree hl))
  have hends (env : Env) (s : State) := chargeOne_outcome env s id key
  refine .of_runs (fun env s result t hrun => ?_) fun env s e t hrun => ?_
  · have houtcome := hends env s
    rw [hrun] at houtcome
    cases houtcome with
    | idle => exact Std.Refl.refl _
    | capped _ _ _ hcancel => exact hquiet rfl ((cancelCapped_areas _ _).ok hcancel)
    | cancelled _ _ _ hcancel =>
      exact hquiet rfl ((fireScheduledCancellation_areas _ _).ok hcancel)
    | short _ _ hshort => exact hquiet rfl ((recordShortfall_areas _ _ _).ok hshort)
    | settled _ _ _ _ hsettle => exact (settleInterval _ _ _ _ _).ok hsettle
  · have houtcome := hends env s
    rw [hrun] at houtcome
    cases houtcome with
    | refused => exact Std.Refl.refl _
    | expired _ hexpire => exact hquiet rfl ((failIfExpired_areas _ _).err hexpire)
    | unsettled _ _ _ _ hsettle => exact (settleInterval _ _ _ _ _).err hsettle

theorem of_chargeUsageOne {usageAmount : Int} {reference : Bytes} {result : UsageChargeResult}
    (hrun : (chargeUsageOne id usageAmount reference).run env s = .ok result t) :
    WritesSnapshots s t := by
  have hquiet {l : List Area} {s t : State} (hl : l.contains .statements = false)
      (h : FiniteStore.AgreeOff (areas l) s t) : WritesSnapshots s t :=
    of_agreeOff (h.mono (areas_subset_snapshotFree hl))
  cases chargeUsageOne_outcome hrun with
  | refused => exact Std.Refl.refl _
  | rejected _ _ _ _ _ hlimits => exact hquiet rfl ((applyUsageLimits_areas _ _ _).ok hlimits)
  | capped _ hlimits _ hcancel =>
    exact IsTrans.trans _ _ _ (hquiet rfl ((applyUsageLimits_areas _ _ _).ok hlimits))
      (hquiet rfl ((cancelCapped_areas _ _).ok hcancel))
  | settled _ hlimits _ _ _ hsettle =>
    exact IsTrans.trans _ _ _ (hquiet rfl ((applyUsageLimits_areas _ _ _).ok hlimits))
      ((settleUsage _ _ _ _ _ _).ok hsettle)
  | unfit _ hlimits =>
    exact IsTrans.trans _ _ _ (hquiet rfl ((applyUsageLimits_areas _ _ _).ok hlimits))
      (of_agreeOff (FiniteStore.agreeOff_write _ _ rfl))

end WritesSnapshots

end SubscriptionVault
