import SubscriptionVault.Charging.Snapshots
import SubscriptionVault.Lifecycle.FailuresInRow

/-!
# The index of snapshots

Whatever the vault does, its snapshots only change by writes to them. Over any row of writes the
index of a subscription lists the periods whose snapshots are stored, in the order in which they
were created, and the snapshot of a period stays until the period is the oldest of a full index.
-/

namespace SubscriptionVault

open Exec

/-! ## The last few of a list -/

/-- Adding an element at the end and dropping what is too much keeps the last ones. -/
theorem drop_excess_recent {α : Type} (created : List α) (a : α) (n : Nat) {l : List α}
    (hl : (created.take n).reverse ++ [a] = l) :
    l.drop (l.length - n) = ((a :: created).take n).reverse := by
  subst hl
  rw [← List.reverse_cons, List.drop_reverse, List.length_reverse, ← List.take_succ_cons,
    List.take_take, List.length_take, List.reverse_inj, List.take_eq_take_iff]
  omega

theorem filterMap_range_getElem? {α β : Type} (f : α → Option β) (l : List α) (n : Nat) :
    (List.range (min n l.length)).filterMap (fun i => l[i]?.bind f) = (l.take n).filterMap f := by
  induction l generalizing n with
  | nil => simp
  | cons a l ih =>
    cases n with
    | zero => simp
    | succ n =>
      rw [List.length_cons, Nat.succ_min_succ, List.range_succ_eq_map, List.take_succ_cons,
        List.filterMap_cons, List.filterMap_cons, List.filterMap_map, ← ih n]
      rfl

/-- Looking up distinct keys gives values that still know their keys. -/
theorem map_filterMap_of_keyed {α β : Type} {f : α → Option β} {key : β → α} {l : List α}
    (h : ∀ a ∈ l, ∃ b, f a = some b ∧ key b = a) : (l.filterMap f).map key = l := by
  induction l with
  | nil => rfl
  | cons a l ih =>
    obtain ⟨b, hb, hkey⟩ := h a List.mem_cons_self
    rw [List.filterMap_cons_some hb, List.map_cons, hkey,
      ih fun c hc => h c (List.mem_cons_of_mem _ hc)]

theorem excessPeriods_eq (periods : List Nat) :
    excessPeriods periods = periods.length - maxBillingPeriodSnapshots := by
  unfold excessPeriods
  rfl

/-! ## The index -/

/-- The periods of `id` for which a snapshot was created, latest first. -/
def createdPeriods (id : Nat) : History SnapshotAction State → List Nat
  | [] => []
  | (.quiet, _) :: earlier => createdPeriods id earlier
  | (.write _ snapshot, s) :: earlier =>
    if snapshot.subscriptionId = id ∧ s.getPeriodSnapshot id snapshot.periodIndex = none then
      snapshot.periodIndex :: createdPeriods id earlier
    else createdPeriods id earlier

/-- The index holds the last periods created, and exactly their snapshots are stored. -/
structure SnapshotsIndexed (id : Nat) (created : List Nat) (s : State) : Prop where
  index : s.periodSnapshotIndex id = (created.take maxBillingPeriodSnapshots).reverse
  nodup : (s.periodSnapshotIndex id).Nodup
  stored : ∀ period, period ∈ s.periodSnapshotIndex id ↔ (s.getPeriodSnapshot id period).isSome
  keyed : ∀ period snapshot, s.getPeriodSnapshot id period = some snapshot →
    snapshot.periodIndex = period

namespace SnapshotsIndexed

variable {s t : State} {id : Nat} {created : List Nat}

theorem of_same (h : SnapshotsIndexed id created s)
    (hindex : t.periodSnapshotIndex id = s.periodSnapshotIndex id)
    (hread : t.getPeriodSnapshot id = s.getPeriodSnapshot id) : SnapshotsIndexed id created t where
  index := hindex.trans h.index
  nodup := hindex.symm ▸ h.nodup
  stored := by
    intro period
    rw [hindex, hread]
    exact h.stored period
  keyed := by
    intro period snapshot
    rw [hread]
    exact h.keyed period snapshot

theorem length_le (h : SnapshotsIndexed id created s) :
    (s.periodSnapshotIndex id).length ≤ maxBillingPeriodSnapshots := by
  rw [h.index, List.length_reverse, List.length_take]
  exact Nat.min_le_left _ _

theorem opened (h : SnapshotsIndexed id created s) {snapshot : BillingPeriodSnapshot}
    {periods : List Nat} (hfresh : s.getPeriodSnapshot id snapshot.periodIndex = none)
    (hperiods : s.periodSnapshotIndex id ++ [snapshot.periodIndex] = periods)
    (hindex : t.periodSnapshotIndex id = periods.drop (excessPeriods periods))
    (hread : ∀ period, t.getPeriodSnapshot id period =
      if period ∈ periods.take (excessPeriods periods) then none
      else if period = snapshot.periodIndex then some snapshot
      else s.getPeriodSnapshot id period) :
    SnapshotsIndexed id (snapshot.periodIndex :: created) t := by
  have hnew : snapshot.periodIndex ∉ s.periodSnapshotIndex id := by
    rw [h.stored, hfresh]
    nofun
  have hdistinct : periods.Nodup := by
    rw [← hperiods]
    exact List.nodup_append.mpr ⟨h.nodup, List.nodup_singleton _, fun a ha b hb hab =>
      hnew (List.mem_singleton.mp hb ▸ hab ▸ ha)⟩
  have hsplit := List.take_append_drop (excessPeriods periods) periods
  have hapart := (List.nodup_append.mp (hsplit.symm ▸ hdistinct)).2.2
  have hmem (period : Nat) : period ∈ periods ↔
      period ∈ s.periodSnapshotIndex id ∨ period = snapshot.periodIndex := by
    rw [← hperiods, List.mem_append, List.mem_singleton]
  refine ⟨?_, hindex.symm ▸ hdistinct.sublist (List.drop_sublist _ _), fun period => ?_,
    fun period found hfound => ?_⟩
  · rw [hindex, excessPeriods_eq]
    exact drop_excess_recent created _ _ (h.index ▸ hperiods)
  · rw [hindex, hread]
    by_cases hdropped : period ∈ periods.take (excessPeriods periods)
    · rw [if_pos hdropped]
      exact ⟨fun hkept => absurd rfl (hapart _ hdropped _ hkept), nofun⟩
    have hkept : period ∈ periods.drop (excessPeriods periods) ↔ period ∈ periods := by
      conv_rhs => rw [← hsplit, List.mem_append]
      exact (or_iff_right hdropped).symm
    rw [if_neg hdropped, hkept, hmem]
    by_cases hself : period = snapshot.periodIndex
    · rw [if_pos hself]
      exact ⟨fun _ => rfl, fun _ => .inr hself⟩
    · rw [if_neg hself, or_iff_left hself]
      exact h.stored period
  · rw [hread] at hfound
    split at hfound
    · cases hfound
    split at hfound
    · rename_i hself
      cases hfound
      exact hself.symm
    · exact h.keyed period found hfound

theorem merged (h : SnapshotsIndexed id created s) {snapshot existing merged : BillingPeriodSnapshot}
    (hstored : s.getPeriodSnapshot id snapshot.periodIndex = some existing)
    (hmerged : merged.periodIndex = snapshot.periodIndex)
    (hindex : t.periodSnapshotIndex id = s.periodSnapshotIndex id)
    (hread : ∀ period, t.getPeriodSnapshot id period =
      if period = snapshot.periodIndex then some merged else s.getPeriodSnapshot id period) :
    SnapshotsIndexed id created t := by
  refine ⟨hindex.trans h.index, hindex.symm ▸ h.nodup, fun period => ?_,
    fun period found hfound => ?_⟩
  · rw [hindex, hread]
    by_cases hself : period = snapshot.periodIndex
    · rw [if_pos hself, h.stored, hself, hstored]
      exact ⟨fun _ => rfl, fun _ => rfl⟩
    · rw [if_neg hself]
      exact h.stored period
  · rw [hread] at hfound
    split at hfound
    · rename_i hself
      cases hfound
      exact hmerged.trans hself.symm
    · exact h.keyed period found hfound

end SnapshotsIndexed

section Steps

variable {start s t : State} {l : SnapshotAction} {writes : History SnapshotAction State} {id : Nat}

theorem SnapshotStep.indexed (h : SnapshotStep l s t)
    (hindexed : SnapshotsIndexed id (createdPeriods id writes) s) :
    SnapshotsIndexed id (createdPeriods id ((l, s) :: writes)) t := by
  cases h with
  | quiet hagree =>
    exact hindexed.of_same (congrFun (State.periodSnapshotIndex_of_agreeOff hagree) id)
      (congrFun (State.getPeriodSnapshot_of_agreeOff hagree) id)
  | @write env snapshot _ _ hcharged hrun =>
    by_cases hid : snapshot.subscriptionId = id
    · subst hid
      cases run_writePeriodSnapshot_ok hcharged hrun with
      | opened hfresh hopened =>
        obtain ⟨hindex, hread⟩ := hopened _ rfl
        rw [createdPeriods, if_pos ⟨rfl, hfresh⟩]
        refine hindexed.opened hfresh rfl (hindex ▸ Function.update_self _ _ _) fun period => ?_
        simpa using hread snapshot.subscriptionId period
      | merged hstored hmerges hindex hread =>
        rw [createdPeriods, if_neg fun h => Option.some_ne_none _ (hstored.symm.trans h.2)]
        refine hindexed.merged hstored hmerges.periodIndex (congrFun hindex _) fun period => ?_
        simpa using hread snapshot.subscriptionId period
    · rw [createdPeriods, if_neg fun h => hid h.1]
      have hother : id ≠ snapshot.subscriptionId := fun h => hid h.symm
      cases run_writePeriodSnapshot_ok hcharged hrun with
      | opened _ hopened =>
        obtain ⟨hindex, hread⟩ := hopened _ rfl
        refine hindexed.of_same (by rw [hindex, Function.update_of_ne hother]) ?_
        funext period
        rw [hread, if_neg fun h => hother h.1, if_neg fun h => hother h.1]
      | merged _ _ hindex hread =>
        refine hindexed.of_same (congrFun hindex id) ?_
        funext period
        rw [hread, if_neg fun h => hother h.1]

theorem snapshotsIndexed_of_run (hstart : ∀ id, SnapshotsIndexed id [] start)
    (hrun : Run SnapshotStep start writes s) (id : Nat) :
    SnapshotsIndexed id (createdPeriods id writes) s :=
  hrun.invariant (I := fun writes s => SnapshotsIndexed id (createdPeriods id writes) s)
    (hstart id) fun _ _ _ _ hindexed hstep => hstep.indexed hindexed

/-- What a step makes of a stored snapshot. -/
inductive SnapshotFate (id period : Nat) (old : BillingPeriodSnapshot) (s t : State) :
    SnapshotAction → Prop
  | unaltered {l : SnapshotAction} :
      (∀ env snapshot, l = .write env snapshot →
        ¬(snapshot.subscriptionId = id ∧ snapshot.periodIndex = period)) →
      t.getPeriodSnapshot id period = some old → SnapshotFate id period old s t l
  | merged {env : Env} {snapshot new : BillingPeriodSnapshot} :
      snapshot.subscriptionId = id → snapshot.periodIndex = period →
      MergesOnto snapshot old new → t.getPeriodSnapshot id period = some new →
      SnapshotFate id period old s t (.write env snapshot)
  /-- The index is full, and the period the oldest in it. -/
  | evicted {env : Env} {snapshot : BillingPeriodSnapshot} {rest : List Nat} :
      snapshot.subscriptionId = id → s.getPeriodSnapshot id snapshot.periodIndex = none →
      s.periodSnapshotIndex id = period :: rest →
      (s.periodSnapshotIndex id).length = maxBillingPeriodSnapshots →
      t.getPeriodSnapshot id period = none → SnapshotFate id period old s t (.write env snapshot)

/-- Of an index that is not too long only the oldest period can be dropped. -/
theorem oldest_of_dropped {index : List Nat} {fresh period : Nat}
    (hlength : index.length ≤ maxBillingPeriodSnapshots)
    (hdropped : period ∈ (index ++ [fresh]).take (excessPeriods (index ++ [fresh]))) :
    ∃ rest, index = period :: rest ∧ index.length = maxBillingPeriodSnapshots := by
  have hexcess : excessPeriods (index ++ [fresh]) = 1 := by
    by_contra hone
    have hnone : excessPeriods (index ++ [fresh]) = 0 := by
      rw [excessPeriods_eq, List.length_append, List.length_singleton] at hone ⊢
      omega
    rw [hnone, List.take_zero] at hdropped
    cases hdropped
  rw [hexcess] at hdropped
  have hfull : index.length = maxBillingPeriodSnapshots := by
    rw [excessPeriods_eq, List.length_append, List.length_singleton] at hexcess
    omega
  cases index with
  | nil => cases hfull
  | cons oldest rest =>
    rw [List.cons_append, List.take_succ_cons, List.take_zero] at hdropped
    obtain rfl := List.mem_singleton.mp hdropped
    exact ⟨rest, rfl, hfull⟩

theorem SnapshotStep.fate (h : SnapshotStep l s t) {created : List Nat}
    (hindexed : SnapshotsIndexed id created s) {period : Nat} {old : BillingPeriodSnapshot}
    (hold : s.getPeriodSnapshot id period = some old) : SnapshotFate id period old s t l := by
  cases h with
  | quiet hagree =>
    refine .unaltered nofun ?_
    rw [State.getPeriodSnapshot_of_agreeOff hagree]
    exact hold
  | @write env snapshot _ _ hcharged hrun =>
    cases run_writePeriodSnapshot_ok hcharged hrun with
    | opened hfresh hopened =>
      have hread := (hopened _ rfl).2 id period
      have hother : ¬(id = snapshot.subscriptionId ∧ period = snapshot.periodIndex) := by
        rintro ⟨rfl, rfl⟩
        cases hfresh.symm.trans hold
      rw [if_neg hother] at hread
      split at hread
      · rename_i hdropped
        obtain ⟨rfl, hdropped⟩ := hdropped
        obtain ⟨rest, hindex, hfull⟩ := oldest_of_dropped hindexed.length_le hdropped
        exact .evicted rfl hfresh hindex hfull hread
      · refine .unaltered (fun env' snapshot' heq hsame => ?_) (hread.trans hold)
        cases heq
        exact hother ⟨hsame.1.symm, hsame.2.symm⟩
    | merged hstored hmerges _ hread =>
      have hread := hread id period
      split at hread
      · rename_i hself
        obtain ⟨rfl, rfl⟩ := hself
        obtain rfl := Option.some.inj (hstored.symm.trans hold)
        exact .merged rfl rfl hmerges hread
      · rename_i hother
        refine .unaltered (fun env' snapshot' heq hsame => ?_) (hread.trans hold)
        cases heq
        exact hother ⟨hsame.1.symm, hsame.2.symm⟩

theorem SnapshotsIndexed.listed {created : List Nat} (h : SnapshotsIndexed id created s)
    (limit : Nat) :
    (s.listPeriodSnapshots id limit).map (·.periodIndex) =
        (created.take maxBillingPeriodSnapshots).take limit ∧
      ∀ snapshot ∈ s.listPeriodSnapshots id limit,
        s.getPeriodSnapshot id snapshot.periodIndex = some snapshot := by
  have hlist : s.listPeriodSnapshots id limit =
      ((created.take maxBillingPeriodSnapshots).take limit).filterMap (s.getPeriodSnapshot id) := by
    rw [← filterMap_range_getElem?]
    show (List.range (min limit (s.periodSnapshotIndex id).length)).filterMap _ = _
    rw [h.index, List.length_reverse]
    refine List.filterMap_congr fun i hi => ?_
    rw [List.mem_range] at hi
    have hget : (created.take maxBillingPeriodSnapshots).reverse[
        (created.take maxBillingPeriodSnapshots).length - 1 - i]? =
          (created.take maxBillingPeriodSnapshots)[i]? := List.getElem?_reverse' (by omega)
    rw [hget]
  have hfound : ∀ period ∈ (created.take maxBillingPeriodSnapshots).take limit,
      ∃ snapshot, s.getPeriodSnapshot id period = some snapshot ∧
        snapshot.periodIndex = period := by
    intro period hmem
    have hindex : period ∈ s.periodSnapshotIndex id := by
      rw [h.index, List.mem_reverse]
      exact List.mem_of_mem_take hmem
    obtain ⟨snapshot, hsnapshot⟩ := Option.isSome_iff_exists.mp ((h.stored period).mp hindex)
    exact ⟨snapshot, hsnapshot, h.keyed _ _ hsnapshot⟩
  refine ⟨hlist ▸ map_filterMap_of_keyed hfound, fun snapshot hmem => ?_⟩
  rw [hlist] at hmem
  obtain ⟨period, -, hperiod⟩ := List.mem_filterMap.mp hmem
  rw [h.keyed _ _ hperiod]
  exact hperiod

end Steps

/-! ## Runs of the vault -/

section Vault

variable {env : Env} {start s t : State} {call : VaultCall}

theorem VaultCall.writesSnapshots (hsingle : call.isBulk = false)
    (hrun : call.exec.run env s = .ok () t) : WritesSnapshots s t := by
  have hquiet {l : List Area} {v w : State}
      (hagree : FiniteStore.AgreeOff (SubscriptionVault.areas l) v w)
      (hl : l.contains .statements = false) : WritesSnapshots v w :=
    .of_agreeOff (hagree.mono (areas_subset_snapshotFree hl))
  have hown (hl : (Area.locks :: call.areas).contains .statements = false) :
      WritesSnapshots s t := hquiet (call.worksIn.ok hrun).1 hl
  have hlocked {name : LockName} {α : Type} {body : Vault α} {a : α}
      (hbody : ∀ v w, body.run env v = .ok a w → WritesSnapshots v w)
      (hrun : (guardedCall name body).run env s = .ok a t) : WritesSnapshots s t := by
    obtain ⟨v, w, hbody', hbefore, hafter⟩ := run_withLock_areas (run_guardedCall_ok.mp hrun).2
    have hinner : WritesSnapshots s w :=
      IsTrans.trans _ _ _ (hquiet hbefore rfl) (hbody v w hbody')
    exact IsTrans.trans _ _ _ hinner (hquiet hafter rfl)
  have hplain {α : Type} {body : Vault α} {a : α} (h : Modifies plainSlots body) (v w : State)
      (hrun : body.run env v = .ok a w) : WritesSnapshots v w :=
    .of_agreeOff ((h.weaken Set.inter_subset_right).ok hrun)
  cases call
  case chargeSubscription =>
    obtain ⟨_, hrun⟩ := run_effectOf_ok.mp hrun
    exact hlocked (fun _ _ h => (WritesSnapshots.chargeOne _ _).ok h) hrun
  case operatorChargeSubscription op id =>
    obtain ⟨_, hrun⟩ := run_effectOf_ok.mp hrun
    exact hlocked (fun _ _ h => (Keeps.bind (keeps_requireOperatorAuth op) fun _ =>
      WritesSnapshots.chargeOne id none).ok h) hrun
  case chargeUsage | chargeUsageWithReference =>
    obtain ⟨_, hrun⟩ := run_effectOf_ok.mp hrun
    exact hlocked (fun _ _ h => WritesSnapshots.of_chargeUsageOne h) hrun
  case operatorChargeUsage op _ _ | operatorChargeUsageWithRef op _ _ _ =>
    obtain ⟨_, hrun⟩ := run_effectOf_ok.mp hrun
    refine hlocked (fun _ _ h => ?_) hrun
    obtain ⟨_, -, h⟩ := run_check_ok (keeps_requireOperatorAuth op) h
    exact WritesSnapshots.of_chargeUsageOne h
  case chargeOneOff => exact hlocked (hplain (doChargeOneOff_plain _ _ _ _)) hrun
  case graceBuyout =>
    obtain ⟨_, hrun⟩ := run_effectOf_ok.mp hrun
    exact hlocked (hplain (doGraceBuyout_plain _ _ _ _)) hrun
  case batchCharge | batchChargeDetailed => cases hsingle
  all_goals exact hown rfl

theorem BulkItem.writesSnapshots (item : BulkItem) : item.exec.Keeps WritesSnapshots := by
  cases item with
  | charge id key =>
    exact .of_runs
      (fun _ _ _ _ h => (WritesSnapshots.chargeOne _ _).ok (run_effectOf_ok.mp h).choose_spec)
      fun _ _ _ _ h => (WritesSnapshots.chargeOne _ _).err (run_effectOf_err.mp h)
  | deposit caller id amount => exact WritesSnapshots.of_areas (bulkDepositOne_areas _ _ _) rfl
  | cancel id => exact WritesSnapshots.of_areas (bulkCancelOne_areas _) rfl
  | pause id => exact WritesSnapshots.of_areas (bulkPauseOne_areas _) rfl

theorem TidyStep.writesSnapshots {l : VaultAction} (h : TidyStep listSlots l s t) :
    WritesSnapshots s t := by
  obtain ⟨hstep, hother⟩ := h
  cases hstep with
  | call hsingle hrun => exact VaultCall.writesSnapshots hsingle hrun
  | item hrun => exact (BulkItem.writesSnapshots _).ok hrun
  | itemFailed hrun => exact (BulkItem.writesSnapshots _).err hrun
  | other =>
    exact .of_agreeOff ((hother _ rfl).mono (areas_subset_snapshotFree rfl))

/-- Of the entrypoints that are not listed none touches a snapshot. -/
def SnapshotTransacts (l : Transaction) (s t : State) : Prop :=
  Transacts l s t ∧ ∀ env, l = .other env → FiniteStore.AgreeOff snapshotFree s t

theorem SnapshotTransacts.writesSnapshots {l : Transaction} (h : SnapshotTransacts l s t) :
    WritesSnapshots s t := by
  obtain ⟨hstep, hother⟩ := h
  cases hstep with
  | @call env c _ _ hrun =>
    by_cases hbulk : c.isBulk = true
    · obtain ⟨steps, hsteps, -⟩ := VaultCall.workedIn hbulk hrun
      exact hsteps.invariant_state (I := WritesSnapshots s) (Std.Refl.refl s)
        fun _ _ _ h hstep => IsTrans.trans _ _ _ h hstep.writesSnapshots
    · exact VaultCall.writesSnapshots (Bool.eq_false_iff.mpr hbulk) hrun
  | other => exact .of_agreeOff (hother _ rfl)

/-- A run of the vault is a row of writes that passes through all its states. -/
theorem writes_of_run {hist : History Transaction State}
    (hrun : Run SnapshotTransacts start hist s) : ∃ writes, Run SnapshotStep start writes s ∧
      (hist.map Prod.snd).Sublist (writes.map Prod.snd) := by
  induction hrun with
  | start => exact ⟨[], .start, .slnil⟩
  | @next earlier u v l _ hstep ih =>
    obtain ⟨writes, hwrites, hpasses⟩ := ih
    obtain ⟨later, hlater⟩ := hstep.writesSnapshots
    have hpause : Run SnapshotStep start ((.quiet, u) :: writes) u :=
      hwrites.next (.quiet (Std.Refl.refl u))
    refine ⟨later ++ (.quiet, u) :: writes, hpause.append hlater, ?_⟩
    rw [List.map_append]
    exact (hpasses.cons_cons u).trans (List.sublist_append_right _ _)

theorem Deployed.snapshotsIndexed (h : Deployed s) (id : Nat) : SnapshotsIndexed id [] s := by
  have hempty : FiniteStore.AgreeOff snapshotFree FiniteStore.empty s :=
    h.areas.mono (areas_subset_snapshotFree rfl)
  have hindex : s.periodSnapshotIndex = fun _ => [] :=
    State.periodSnapshotIndex_of_agreeOff hempty
  have hread : s.getPeriodSnapshot = fun _ _ => none := State.getPeriodSnapshot_of_agreeOff hempty
  refine ⟨congrFun hindex id, ?_, fun period => ?_, fun period snapshot hfound => ?_⟩
  · rw [hindex]
    exact .nil
  · rw [hindex, hread]
    exact ⟨nofun, nofun⟩
  · rw [hread] at hfound
    cases hfound

end Vault

/-- Every run of the vault writes snapshots one after the other. In every state the index of a
subscription lists the periods with a stored snapshot, each once and not too many, and a listing
gives the last ones that were created, latest first. A write to an open snapshot adds to it; no
other step alters a snapshot, unless its period is the oldest of a full index. A refused write
changes nothing. -/
theorem snapshots_indexed {start s : State} {hist : History Transaction State}
    (hdeployed : Deployed start) (hrun : Run SnapshotTransacts start hist s) :
    (∃ writes, Run SnapshotStep start writes s ∧
      (hist.map Prod.snd).Sublist (writes.map Prod.snd)) ∧
    (∀ writes, Run SnapshotStep start writes s → ∀ id,
      (s.periodSnapshotIndex id).Nodup ∧
      (s.periodSnapshotIndex id).length ≤ maxBillingPeriodSnapshots ∧
      (∀ period, period ∈ s.periodSnapshotIndex id ↔ (s.getPeriodSnapshot id period).isSome) ∧
      (∀ limit, (s.listPeriodSnapshots id limit).map (·.periodIndex) =
          ((createdPeriods id writes).take maxBillingPeriodSnapshots).take limit ∧
        ∀ snapshot ∈ s.listPeriodSnapshots id limit,
          s.getPeriodSnapshot id snapshot.periodIndex = some snapshot) ∧
      ∀ l u v, (l, u, v) ∈ transitions writes s → ∀ period old,
        u.getPeriodSnapshot id period = some old → SnapshotFate id period old u v l) ∧
    ∀ env snapshot e t, (writePeriodSnapshot snapshot).run env s = .err e t → t = s := by
  refine ⟨writes_of_run hrun, fun writes hwrites id => ?_, fun env snapshot e t =>
    writePeriodSnapshot_err⟩
  have hindexed := snapshotsIndexed_of_run hdeployed.snapshotsIndexed hwrites id
  refine ⟨hindexed.nodup, hindexed.length_le, hindexed.stored, hindexed.listed, ?_⟩
  intro l u v hmem period old hold
  obtain ⟨earlier, hbefore, -, hstep⟩ := hwrites.before_transition hmem
  exact hstep.fate (snapshotsIndexed_of_run hdeployed.snapshotsIndexed hbefore id) hold

private def chargedOnce : List (Env × VaultCall) :=
  [(sampleEnv 60 [], .chargeSubscription 0 none),
   (sampleEnv 0 [⟨2⟩], .depositFunds 0 20 none),
   (sampleEnv 0 [⟨2⟩], .createSubscription sampleRequest)]

/-- The first interval charge is listed as the one snapshot there is. -/
theorem charge_listed : ∃ (hist : History Transaction State) (s : State),
    Run SnapshotTransacts (sampleStart 0) hist s ∧
    (s.periodSnapshotIndex 0).Nodup ∧
    (s.listPeriodSnapshots 0 5).map (fun snapshot =>
      (snapshot.periodIndex, snapshot.totalCharged)) = [(1, 10)] := by
  have hsetup : SnapshotTransacts (.other (sampleEnv 0 [])) (sampleStart 0)
      (afterCalls (sampleVault 0)) :=
    ⟨.other ((sample_areas 0).mono (areas_mono rfl)), fun _ _ =>
      (sample_areas 0).mono (areas_subset_snapshotFree rfl)⟩
  have hcalls : Run SnapshotTransacts (afterCalls (sampleVault 0))
      (transactionHistory (afterCalls (sampleVault 0)) chargedOnce)
      (stateAfter (afterCalls (sampleVault 0)) chargedOnce) := by
    have hcall {env : Env} {call : VaultCall} {u : State} (h : call.exec.succeeds env u = true) :
        SnapshotTransacts (.call env call) u (call.exec.after env u) :=
      ⟨.call (run_eq_after h), nofun⟩
    exact ((Run.start.next (hcall (by decide +kernel))).next (hcall (by decide +kernel))).next
      (hcall (by decide +kernel))
  have hrun := (Run.start.next hsetup).append hcalls
  obtain ⟨⟨writes, hwrites, -⟩, hall, -⟩ := snapshots_indexed (sample_deployed 0) hrun
  exact ⟨_, _, hrun, (hall writes hwrites 0).1, by decide +kernel⟩

end SubscriptionVault
