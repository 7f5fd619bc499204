import SubscriptionVault.Contract.MigrationPlan
import SubscriptionVault.Migration.Numbering

/-!
# Dry runs of a migration

A dry run plans from the versions and counts records by the counter it reads then; a real run
rewrites records by the counter it reads after the settings have moved. The two agree because
before version 3 no counter lies in the persistent tier, where it would be read first and be
replaced by the move.
-/

namespace SubscriptionVault

open Exec

/-! ## Rewriting -/

/-- The two states hold the same entries. -/
def SameEntries (s t : State) : Prop := FiniteStore.AgreeOff ∅ s t

section Rewriting

variable {env : Env} {s t : State} {touched count : Nat} {ids : List Nat}

instance : Std.Refl SameEntries where
  refl s := Std.Refl.refl (r := FiniteStore.AgreeOff ∅) s

instance : IsTrans State SameEntries where
  trans _ _ _ h h' := FiniteStore.AgreeOff.trans h h'

theorem SameEntries.read (h : SameEntries s t) (k : Slot) {α : Type} [Holds Slot.Val k α] :
    (t.read k : Option α) = s.read k :=
  FiniteStore.AgreeOff.read h (Set.notMem_empty k)

theorem SameEntries.subscription (h : SameEntries s t) : t.subscription = s.subscription :=
  funext fun id => h.read (.persistent (.sub id))

theorem SameEntries.nextSubscriptionId (h : SameEntries s t) :
    t.nextSubscriptionId = s.nextSubscriptionId := by
  obtain ⟨-, hnext, -⟩ := numbering_of_agreeOff (h.mono (Set.empty_subset outsideNumbering))
  exact hnext

theorem SameEntries.countRewriteable (h : SameEntries s t) :
    t.countRewriteableSubscriptions = s.countRewriteableSubscriptions := by
  unfold State.countRewriteableSubscriptions State.countSubscriptions
  rw [h.subscription, h.nextSubscriptionId]

/-- A pass writes back what it reads, and counts as a dry run counts. -/
theorem rewriteSubscriptions_spec
    (hrun : (rewriteSubscriptions ids touched).run env s = .ok count t) :
    SameEntries s t ∧ count = s.countSubscriptions ids touched := by
  induction ids generalizing s touched with
  | nil =>
    obtain ⟨rfl, rfl⟩ := run_pure_ok.mp hrun
    exact ⟨Std.Refl.refl _, rfl⟩
  | cons id ids ih =>
    obtain ⟨found, hfound, hrun⟩ := run_check_ok Modifies.load hrun
    obtain rfl := (run_load_ok.mp hfound).1
    unfold State.countSubscriptions
    rw [List.foldl_cons]
    cases hsub : s.subscription id with
    | none =>
      have hread : s.read (.persistent (.sub id)) = (none : Option Subscription) := hsub
      rw [hread] at hrun
      exact ih hrun
    | some sub =>
      have hread : s.read (.persistent (.sub id)) = some sub := hsub
      rw [hread] at hrun
      obtain ⟨_, s₁, hwrite, hrun⟩ := run_bind_ok.mp hrun
      have hback : SameEntries s s₁ :=
        run_store_ok.mp hwrite ▸ FiniteStore.agreeOff_write_same hread
      obtain ⟨hrest, hcount⟩ := ih hrun
      unfold State.countSubscriptions at hcount
      rw [hback.subscription] at hcount
      exact ⟨hback.trans hrest, hcount⟩

/-- Both passes are the same code. -/
theorem rewritePass_spec {pass : Vault Nat} (hpass : pass = do
      let nextId ← gets (·.nextSubscriptionId)
      rewriteSubscriptions (List.range nextId) 0)
    (hrun : pass.run env s = .ok count t) :
    SameEntries s t ∧ count = s.countRewriteableSubscriptions := by
  subst hpass
  obtain ⟨nextId, hnext, hrun⟩ := run_check_ok (.gets _) hrun
  obtain rfl := (run_gets_ok.mp hnext).1
  exact rewriteSubscriptions_spec hrun

theorem countSubscriptions_eq (hfits : count + ids.length ≤ u32Max) :
    s.countSubscriptions ids count =
      count + (ids.filter fun id => (s.subscription id).isSome).length := by
  induction ids generalizing count with
  | nil => rfl
  | cons id ids ih =>
    rw [List.length_cons] at hfits
    unfold State.countSubscriptions at ih ⊢
    rw [List.foldl_cons]
    by_cases hfound : (s.subscription id).isSome = true
    · have hstep : saturatingAddU32 count 1 = count + 1 := by
        unfold saturatingAddU32
        omega
      rw [if_pos hfound, hstep, ih (by omega), List.filter_cons, if_pos hfound, List.length_cons]
      omega
    · rw [if_neg hfound, ih (by omega), List.filter_cons, if_neg hfound]

/-- The records below the counter. -/
def State.recordIds (s : State) : Finset Nat :=
  ((List.range s.nextSubscriptionId).filter fun id => (s.subscription id).isSome).toFinset

theorem countRewriteable_eq (hfits : s.nextSubscriptionId ≤ u32Max) :
    s.countRewriteableSubscriptions = s.recordIds.card := by
  unfold State.countRewriteableSubscriptions
  rw [countSubscriptions_eq (by rwa [Nat.zero_add, List.length_range]), Nat.zero_add]
  exact (List.toFinset_card_of_nodup (List.nodup_range.filter _)).symm

end Rewriting

/-! ## The loop over the versions -/

/-- The state in which the passes are made. -/
def State.stepped (s : State) (current binaryVersion : Nat) : State :=
  if current ≤ 2 ∧ 3 ≤ binaryVersion then s.promoted 3 else s

/-- The summary with the numbers of the passes. -/
def State.executed (s : State) (current binaryVersion : Nat) (summary : SchemaMigrationSummary) :
    SchemaMigrationSummary :=
  { summary with
    subsForLedgerExpiry := if current ≤ 3 ∧ 4 ≤ binaryVersion then
      (s.stepped current binaryVersion).countRewriteableSubscriptions
      else summary.subsForLedgerExpiry
    subsForSubAccountLabel := if current ≤ 4 ∧ 5 ≤ binaryVersion then
      (s.stepped current binaryVersion).countRewriteableSubscriptions
      else summary.subsForSubAccountLabel }

section Steps

variable {env : Env} {s t : State} {current binaryVersion rounds : Nat}
  {summary summary' : SchemaMigrationSummary}

theorem migrationStep_spec
    (hrun : (migrationStep current summary).run env s = .ok summary' t) :
    (current = 2 ∧ s.promoted 3 = t ∧ summary' = summary) ∨
    (current = 3 ∧ SameEntries s t ∧
      summary' = { summary with subsForLedgerExpiry := s.countRewriteableSubscriptions }) ∨
    (current = 4 ∧ SameEntries s t ∧
      summary' = { summary with subsForSubAccountLabel := s.countRewriteableSubscriptions }) ∨
    ((current < 2 ∨ 4 < current) ∧ s = t ∧ summary' = summary) := by
  unfold migrationStep at hrun
  by_cases hfirst : current < 2
  · rw [if_pos hfirst] at hrun
    obtain ⟨rfl, rfl⟩ := run_pure_ok.mp hrun
    exact .inr (.inr (.inr ⟨.inl hfirst, rfl, rfl⟩))
  rw [if_neg hfirst] at hrun
  by_cases htiers : current = 2
  · rw [if_pos htiers, run_seq_of_ok run_migrateInternal] at hrun
    obtain ⟨rfl, rfl⟩ := run_pure_ok.mp hrun
    exact .inl ⟨htiers, rfl, rfl⟩
  rw [if_neg htiers] at hrun
  by_cases hexpiry : current = 3
  · rw [if_pos hexpiry] at hrun
    obtain ⟨touched, s₁, hpass, hrun⟩ := run_bind_ok.mp hrun
    obtain ⟨rfl, rfl⟩ := run_pure_ok.mp hrun
    obtain ⟨hsame, rfl⟩ := rewritePass_spec rfl hpass
    exact .inr (.inl ⟨hexpiry, hsame, rfl⟩)
  rw [if_neg hexpiry] at hrun
  by_cases hlabel : current = 4
  · rw [if_pos hlabel] at hrun
    obtain ⟨touched, s₁, hpass, hrun⟩ := run_bind_ok.mp hrun
    obtain ⟨rfl, rfl⟩ := run_pure_ok.mp hrun
    obtain ⟨hsame, rfl⟩ := rewritePass_spec rfl hpass
    exact .inr (.inr (.inl ⟨hlabel, hsame, rfl⟩))
  · rw [if_neg hlabel] at hrun
    obtain ⟨rfl, rfl⟩ := run_pure_ok.mp hrun
    exact .inr (.inr (.inr ⟨.inr (by omega), rfl, rfl⟩))

theorem State.stepped_late (hlate : 3 ≤ current) (s : State) (binaryVersion : Nat) :
    s.stepped current binaryVersion = s :=
  if_neg fun h => absurd h.1 (by omega)

theorem migrationSteps_spec (hrounds : binaryVersion - current ≤ rounds)
    (hrun : (migrationSteps binaryVersion rounds current summary).run env s = .ok summary' t) :
    SameEntries (s.stepped current binaryVersion) t ∧
      summary' = s.executed current binaryVersion summary := by
  induction rounds generalizing current s summary with
  | zero =>
    obtain ⟨rfl, rfl⟩ := run_pure_ok.mp hrun
    unfold State.executed State.stepped
    rw [if_neg (by omega), if_neg (by omega), if_neg (by omega)]
    exact ⟨Std.Refl.refl _, rfl⟩
  | succ rounds ih =>
    unfold migrationSteps at hrun
    by_cases hmore : current < binaryVersion
    · rw [if_pos hmore] at hrun
      obtain ⟨summary₁, s₁, hstep, hrun⟩ := run_bind_ok.mp hrun
      have hnext : binaryVersion - versionAfter current ≤ rounds := by
        unfold versionAfter
        split <;> omega
      obtain ⟨hsame, hsummary⟩ := ih hnext hrun
      rcases migrationStep_spec hstep with ⟨rfl, rfl, rfl⟩ | ⟨rfl, hback, rfl⟩ |
        ⟨rfl, hback, rfl⟩ | ⟨hother, rfl, rfl⟩
      · have hmoved : s.stepped 2 binaryVersion = s.promoted 3 := if_pos ⟨le_rfl, hmore⟩
        rw [show versionAfter 2 = 3 from rfl, State.stepped_late le_rfl] at hsame
        rw [hmoved]
        refine ⟨hsame, hsummary.trans ?_⟩
        unfold State.executed
        rw [hmoved, show versionAfter 2 = 3 from rfl, State.stepped_late le_rfl]
        congr 1 <;> simp
      · rw [show versionAfter 3 = 4 from rfl, State.stepped_late (by decide)] at hsame
        rw [State.stepped_late le_rfl]
        refine ⟨trans_of SameEntries hback hsame, hsummary.trans ?_⟩
        unfold State.executed
        rw [show versionAfter 3 = 4 from rfl, State.stepped_late (by decide),
          State.stepped_late le_rfl, hback.countRewriteable]
        have hreached : 4 ≤ binaryVersion := hmore
        congr 1 <;> simp [hreached]
      · rw [show versionAfter 4 = 5 from rfl, State.stepped_late (by decide)] at hsame
        rw [State.stepped_late (by decide)]
        refine ⟨trans_of SameEntries hback hsame, hsummary.trans ?_⟩
        unfold State.executed
        rw [show versionAfter 4 = 5 from rfl, State.stepped_late (by decide),
          State.stepped_late (by decide), hback.countRewriteable]
        have hreached : 5 ≤ binaryVersion := hmore
        congr 1
        simp [hreached]
      · have hstate : s.stepped (versionAfter current) binaryVersion =
            s.stepped current binaryVersion := by
          rcases hother with hfirst | hlast
          · unfold State.stepped versionAfter
            simp [hfirst, hfirst.le]
          · have hnext : versionAfter current = current + 1 := if_neg (by omega)
            rw [hnext, State.stepped_late (by omega), State.stepped_late (by omega)]
        rw [hstate] at hsame
        refine ⟨hsame, hsummary.trans ?_⟩
        unfold State.executed
        rw [hstate]
        unfold versionAfter
        congr 1
        · split_ifs <;> first | rfl | omega
        · split_ifs <;> first | rfl | omega
    · rw [if_neg hmore] at hrun
      obtain ⟨rfl, rfl⟩ := run_pure_ok.mp hrun
      unfold State.executed State.stepped
      rw [if_neg (by omega), if_neg (by omega), if_neg (by omega)]
      exact ⟨Std.Refl.refl _, rfl⟩

end Steps

/-! ## Where the entries lie -/

/-- The tiers as each version has them: before version 3 the counter is in the instance tier and
a recorded version belongs to a vault with a token, from then on the version has left that tier. -/
structure Tiered (s : State) : Prop where
  early : s.schemaVersion < 3 → s.read (.persistent .nextId) = none
  late : 3 ≤ s.schemaVersion → s.read (.instanced .schemaVersion) = none
  owned : s.read (.instanced .schemaVersion) ≠ none → s.config .token ≠ none

/-- Where the version, the counter and the token are kept. -/
def layoutSlots : Set Slot :=
  {.persistent .schemaVersion, .instanced .schemaVersion, .persistent .nextId,
    .persistent .token, .instanced .token}

/-- All slots but those. -/
def layoutFree : Set Slot := {k | k ∉ layoutSlots}

/-- The token of a vault is set when it is initialised and by nothing else that is not listed. -/
def defaultTokenFree : Set Slot := {k | k ≠ .persistent .token ∧ k ≠ .instanced .token}

inductive LayoutStep : Transaction → State → State → Prop
  | call {env : Env} {call : VaultCall} {s t : State} :
      call.exec.run env s = .ok () t → LayoutStep (.call env call) s t
  | other {env : Env} {s t : State} :
      FiniteStore.AgreeOff (areas foreignAreas ∩ defaultTokenFree) s t → LayoutStep (.other env) s t

section Tiers

variable {env : Env} {s t start : State} {l : Transaction} {hist : History Transaction State}

theorem config_congr {key : DataKey} {α : Type} [Holds DataKey.Val key α]
    (hversion : t.schemaVersion = s.schemaVersion)
    (hpersistent : (t.read (.persistent key) : Option α) = s.read (.persistent key))
    (hinstanced : (t.read (.instanced key) : Option α) = s.read (.instanced key)) :
    (t.config key : Option α) = s.config key := by
  unfold State.config
  rw [hpersistent, hinstanced, hversion]

theorem Tiered.of_reads (hs : Tiered s) (hversion : t.schemaVersion = s.schemaVersion)
    (hrecorded : t.read (.instanced .schemaVersion) = s.read (.instanced .schemaVersion))
    (hcounter : s.schemaVersion < 3 →
      t.read (.persistent .nextId) = s.read (.persistent .nextId))
    (htoken : (t.config .token : Option Address) = s.config .token) : Tiered t where
  early hold := by
    have hbefore : s.schemaVersion < 3 := hversion ▸ hold
    rw [hcounter hbefore]
    exact hs.early hbefore
  late hlate := by
    rw [hrecorded]
    exact hs.late (hversion ▸ hlate)
  owned hsome := by
    rw [htoken]
    exact hs.owned (hrecorded ▸ hsome)

theorem Tiered.of_late (hlate : 3 ≤ t.schemaVersion)
    (hnone : t.read (.instanced .schemaVersion) = none) : Tiered t where
  early hold := absurd hold (Nat.not_lt.mpr hlate)
  late _ := hnone
  owned hsome := absurd hnone hsome

theorem Tiered.of_agreeOff (hs : Tiered s) (h : FiniteStore.AgreeOff layoutFree s t) :
    Tiered t := by
  have hkept {k : Slot} {α : Type} [Holds Slot.Val k α] (hk : k ∈ layoutSlots) :
      (t.read k : Option α) = s.read k := h.read fun hmem => hmem hk
  have hversion : t.schemaVersion = s.schemaVersion :=
    State.schemaVersion_of_agreeOff h (fun hmem => hmem (by simp [layoutSlots]))
      fun hmem => hmem (by simp [layoutSlots])
  exact hs.of_reads hversion (hkept (by simp [layoutSlots]))
    (fun _ => hkept (by simp [layoutSlots]))
    (config_congr hversion (hkept (by simp [layoutSlots])) (hkept (by simp [layoutSlots])))

theorem areas_subset_layoutFree {l : List Area} (hnumbering : l.contains .numbering = false)
    (hsettings : l.contains .settings = false) : areas l ⊆ layoutFree := by
  intro k hk hmem
  have hin : l.contains k.area = true := hk
  rcases hmem with rfl | rfl | rfl | rfl | rfl
  all_goals first
    | exact Bool.noConfusion (hnumbering.symm.trans hin)
    | exact Bool.noConfusion (hsettings.symm.trans hin)

/-! ## Steps -/

theorem doInit_tiered {token admin : Address} {tokenDecimals gracePeriod : Nat} {minTopup : Int}
    {u : Unit} (hs : Tiered s)
    (hrun : (doInit token tokenDecimals admin minTopup gracePeriod).run env s = .ok u t) :
    Tiered t := by
  have hversion : t.schemaVersion = storageVersion := by
    refine (congrArg Book.schemaVersion (doInit_writes hrun)).trans ?_
    show State.schemaVersion (s.write (.persistent .schemaVersion) storageVersion) = _
    simp [State.schemaVersion]
  have hmodifies : Modifies {k | k ≠ .instanced .schemaVersion}
      (doInit token tokenDecimals admin minTopup gracePeriod) :=
    .bind .ask fun _ => .bind Modifies.getState fun _ => .bind (.failIf _ _) fun _ =>
      .bind (.failIf _ _) fun _ => .bind (.failIf _ _) fun _ => .bind (.failIf _ _) fun _ =>
      .bind (Modifies.store (by simp)) fun _ =>
      .bind (Modifies.writeConfig (by simp) (by simp)) fun _ =>
      .bind (Modifies.store (by simp)) fun _ => .bind (Modifies.store (by simp)) fun _ =>
      .bind (Modifies.writeConfig (by simp) (by simp)) fun _ =>
      .bind (Modifies.writeConfig (by simp) (by simp)) fun _ =>
      Modifies.writeConfig (by simp) (by simp)
  refine .of_late (hversion ▸ by decide) ?_
  rw [(hmodifies.ok hrun).read (k := .instanced .schemaVersion) fun h => h rfl]
  obtain ⟨_, -, hrun⟩ := run_check_ok .ask hrun
  obtain ⟨seen, hseen, hrun⟩ := run_check_ok Modifies.getState hrun
  obtain rfl := (run_gets_ok.mp hseen).1
  obtain ⟨_, hfresh, -⟩ := run_check_ok (.failIf _ _) hrun
  have hnoToken := not_or.mp (run_failIf_ok.mp hfresh).1
  by_contra hrecorded
  exact hs.owned hrecorded (Option.not_isSome_iff_eq_none.mp hnoToken.1)

theorem doMigrate_tiered {admin : Address} {dryRun : Bool} {u : Unit} (hs : Tiered s)
    (hrun : (doMigrate admin dryRun).run env s = .ok u t) : Tiered t := by
  obtain ⟨_, -, hrun⟩ := run_check_ok (Modifies.requireAdminAuth _) hrun
  obtain ⟨_, -, hrun⟩ := run_check_ok (.gets _) hrun
  obtain ⟨_, -, hrun⟩ := run_check_ok (.failIf _ _) hrun
  rcases run_when_ok.mp hrun with ⟨-, hrun⟩ | ⟨-, rfl⟩
  · obtain ⟨_, _, -, hrun⟩ := run_bind_ok.mp hrun
    obtain ⟨_, _, hversion, hrun⟩ := run_bind_ok.mp hrun
    obtain rfl := run_store_ok.mp hversion
    obtain ⟨_, _, hdropped, hrun⟩ := run_bind_ok.mp hrun
    obtain rfl := run_delete_ok.mp hdropped
    have hverify : (verifyMigration storageVersion).Keeps Eq :=
      .bind (.gets _) fun _ => .failIf _ _
    obtain rfl := hverify.ok hrun
    refine .of_late ?_ (FiniteStore.read_remove_self _)
    rw [State.schemaVersion_relabelled]
    decide
  · exact hs

theorem migrateConfigToPersistent_tiered {admin : Address} {u : Unit}
    (hrun : (migrateConfigToPersistent admin).run env s = .ok u t) : Tiered t := by
  have hlate := (migrateConfigToPersistent_promotes hrun).late
  obtain ⟨_, -, hrun⟩ := run_check_ok (Modifies.requireAdminAuth _) hrun
  obtain ⟨_, -, hrun⟩ := run_check_ok (.gets _) hrun
  obtain ⟨_, -, hrun⟩ := run_check_ok (.failIf _ _) hrun
  rw [run_seq_of_ok run_migrateInternal] at hrun
  have hverify : (verifyMigration 3).Keeps Eq := .bind (.gets _) fun _ => .failIf _ _
  obtain rfl := hverify.ok hrun
  exact .of_late hlate (FiniteStore.read_remove_self _)

theorem restoreSnapshotPage_layoutFree (admin : Address) (summaries : List SubscriptionSummary)
    (balances : List MerchantBalanceEntry) :
    Modifies layoutFree (restoreSnapshotPage admin summaries balances) := by
  have hwide {α : Type} {l : List Area} {x : Vault α} (hx : Modifies (areas l) x)
      (hnumbering : l.contains .numbering = false) (hsettings : l.contains .settings = false) :
      Modifies layoutFree x := hx.weaken (areas_subset_layoutFree hnumbering hsettings)
  refine .bind (Modifies.requireAdminAuth _) fun _ => .bind (.gets _) fun _ =>
    .bind (.failIf _ _) fun _ => .bind Modifies.load fun _ =>
    .bind (.forEach (fun _ => hwide (writeSubscription_areas _ _) rfl rfl) _) fun _ =>
    .bind (.forEach (fun _ => hwide (l := [.balances]) (Modifies.store rfl) rfl rfl) _) fun _ =>
    .when (Modifies.store ?_)
  simp [layoutFree, layoutSlots]

theorem Creation.tiered (creation : Creation) (hs : Tiered s)
    (hrun : creation.call.exec.run env s = .ok () t) : Tiered t := by
  have hagree := (creation.call.worksIn.ok hrun).1
  have hareas : (Area.locks :: creation.call.areas).contains .settings = false := by
    cases creation <;> rfl
  rw [creation.call_exec] at hrun
  obtain ⟨created, hrun⟩ := run_effectOf_ok.mp hrun
  have hcounter := (Creation.takes hrun).1.counter
  have hwritten : FiniteStore.AgreeOff {.persistent .nextId, .instanced .nextId} s
      (s.writeConfig .nextId (created + 1)) :=
    State.agreeOff_writeConfig s .nextId _ (by simp) (by simp)
  have hinstanced : t.read (.instanced .schemaVersion) = s.read (.instanced .schemaVersion) := by
    rw [hcounter.read (k := .instanced .schemaVersion) fun hout => hout rfl]
    exact hwritten.read (by simp)
  have hpersistent : t.read (.persistent .schemaVersion) =
      s.read (.persistent .schemaVersion) := by
    rw [hcounter.read (k := .persistent .schemaVersion) fun hout => hout rfl]
    exact hwritten.read (by simp)
  have hversion : t.schemaVersion = s.schemaVersion := by
    unfold State.schemaVersion
    rw [hinstanced, hpersistent]
  refine hs.of_reads hversion hinstanced (fun hold => ?_) (config_congr hversion
    (State.read_of_areas (k := .persistent .token) hagree hareas)
    (State.read_of_areas (k := .instanced .token) hagree hareas))
  rw [hcounter.read (k := .persistent .nextId) fun hout => hout rfl]
  unfold State.writeConfig
  rw [if_neg (Nat.not_le.mpr hold), FiniteStore.read_write_of_ne _ _ (by simp)]

theorem LayoutStep.tiered (hstep : LayoutStep l s t) (hs : Tiered s) : Tiered t := by
  cases hstep with
  | other hagree =>
    refine hs.of_agreeOff (hagree.mono ?_)
    rintro k ⟨harea, htoken⟩ hmem
    rcases hmem with rfl | rfl | rfl | rfl | rfl
    · cases harea
    · cases harea
    · cases harea
    · exact htoken.1 rfl
    · exact htoken.2 rfl
  | @call env call _ _ hrun =>
    by_cases hquiet : (Area.locks :: call.areas).contains .numbering = false ∧
        (Area.locks :: call.areas).contains .settings = false
    · exact hs.of_agreeOff ((call.worksIn.ok hrun).1.mono
        (areas_subset_layoutFree hquiet.1 hquiet.2))
    · cases call
      case init => exact doInit_tiered hs hrun
      case migrate => exact doMigrate_tiered hs hrun
      case migrateConfigToPersistent => exact migrateConfigToPersistent_tiered hrun
      case createSubscription new => exact Creation.tiered (.direct new) hs hrun
      case createSubscriptionWithToken new => exact Creation.tiered (.withToken new) hs hrun
      case createSubscriptionWithSplit new entries =>
        exact Creation.tiered (.withSplit new entries) hs hrun
      case createSubscriptionFromPlan subscriber planId label =>
        exact Creation.tiered (.fromPlan subscriber planId label) hs hrun
      case restoreSnapshotPage =>
        exact hs.of_agreeOff ((restoreSnapshotPage_layoutFree _ _ _).ok hrun)
      all_goals exact absurd ⟨rfl, rfl⟩ hquiet

theorem tiered_of_run (hstart : Tiered start) (hrun : Run LayoutStep start hist s) : Tiered s :=
  hrun.invariant_state hstart fun _ _ _ hs hstep => hstep.tiered hs

end Tiers

/-! ## The summary -/

/-- The entry has left the instance tier for the persistent one. -/
def Moved (s t : State) (key : DataKey) : Prop :=
  (s.get (.instanced key)).isSome = true ∧ t.get (.instanced key) = none ∧
    (t.get (.persistent key)).isSome = true

/-- A dry run writes nothing, and what it returns is what a real run returns and does. -/
structure DryRunPredicts (env : Env) (s : State) (admin : Address) (binaryVersion : Nat) :
    Prop where
  silent : (doMigrateTo admin binaryVersion true).Keeps Eq
  same : ∀ summary t, (doMigrateTo admin binaryVersion false).run env s = .ok summary t →
    summary.dryRun = false ∧
      (doMigrateTo admin binaryVersion true).run env s = .ok { summary with dryRun := true } s
  moved : ∀ summary t, (doMigrateTo admin binaryVersion false).run env s = .ok summary t →
    ∃ moved : Finset DataKey, (∀ key, key ∈ moved ↔ Moved s t key) ∧
      summary.configKeysToMigrate = moved.card
  /-- The counter is stored as 32 bits, like the counts. -/
  rewritten : ∀ summary t, (doMigrateTo admin binaryVersion false).run env s = .ok summary t →
    t.nextSubscriptionId ≤ u32Max →
      (summary.subsForLedgerExpiry =
        if s.schemaVersion ≤ 3 ∧ 4 ≤ binaryVersion then t.recordIds.card else 0) ∧
      summary.subsForSubAccountLabel =
        if s.schemaVersion ≤ 4 ∧ 5 ≤ binaryVersion then t.recordIds.card else 0

section Summary

variable {env : Env} {s t u start : State} {admin : Address} {binaryVersion : Nat}
  {summary : SchemaMigrationSummary} {hist : History Transaction State}

theorem doMigrateTo_silent : (doMigrateTo admin binaryVersion true).Keeps Eq := by
  refine .bind (Modifies.requireAdminAuth _) fun _ => .bind (.gets _) fun _ =>
    .bind (.failIf _ _) fun _ => .bind (.gets _) fun _ => ?_
  rw [if_pos (.inl rfl)]
  exact .pure _

/-- A real run that succeeds, and the dry run from the same state. -/
theorem doMigrateTo_spec
    (hrun : (doMigrateTo admin binaryVersion false).run env s = .ok summary t) :
    (doMigrateTo admin binaryVersion true).run env s =
        .ok (s.planSchemaMigration s.schemaVersion binaryVersion true) s ∧
      (s.schemaVersion = binaryVersion ∧ s = t ∧
          summary = s.planSchemaMigration s.schemaVersion binaryVersion false ∨
        s.schemaVersion < binaryVersion ∧
          summary = s.executed s.schemaVersion binaryVersion
            (s.planSchemaMigration s.schemaVersion binaryVersion false) ∧
          ∃ u, SameEntries (s.stepped s.schemaVersion binaryVersion) u ∧
            (setSchemaVersion binaryVersion).run env u = .ok () t) := by
  obtain ⟨_, hauth, hrun⟩ := run_check_ok (Modifies.requireAdminAuth _) hrun
  obtain ⟨stored, hstored, hrun⟩ := run_check_ok (.gets _) hrun
  obtain rfl := (run_gets_ok.mp hstored).1
  obtain ⟨_, hnewer, hrun⟩ := run_check_ok (.failIf _ _) hrun
  obtain ⟨plan, hplan, hrun⟩ := run_check_ok (.gets _) hrun
  obtain rfl := (run_gets_ok.mp hplan).1
  have hdry : (gets (·.planSchemaMigration s.schemaVersion binaryVersion true) :
      Vault SchemaMigrationSummary).run env s =
        .ok (s.planSchemaMigration s.schemaVersion binaryVersion true) s :=
    run_gets_ok.mpr ⟨rfl, rfl⟩
  have hle := Nat.not_lt.mp (run_failIf_ok.mp hnewer).1
  refine ⟨?_, ?_⟩
  · refine (run_bind_of_ok hauth).trans <| (run_bind_of_ok hstored).trans <|
      (run_bind_of_ok hnewer).trans <| (run_bind_of_ok hdry).trans ?_
    rw [if_pos (.inl rfl)]
    rfl
  · by_cases hcurrent : s.schemaVersion = binaryVersion
    · rw [if_pos (.inr hcurrent)] at hrun
      obtain ⟨rfl, rfl⟩ := run_pure_ok.mp hrun
      exact .inl ⟨hcurrent, rfl, rfl⟩
    · rw [if_neg (by simp [hcurrent])] at hrun
      obtain ⟨done, u, hsteps, hrun⟩ := run_bind_ok.mp hrun
      obtain ⟨_, v, hversion, hrun⟩ := run_bind_ok.mp hrun
      have hverify : (verifyMigrationAt binaryVersion).Keeps Eq :=
        .bind (.gets _) fun _ => .failIf _ _
      obtain ⟨_, -, hrun⟩ := run_check_ok hverify hrun
      obtain ⟨rfl, rfl⟩ := run_pure_ok.mp hrun
      obtain ⟨hsame, rfl⟩ := migrationSteps_spec le_rfl hsteps
      exact .inr ⟨by omega, rfl, u, hsame, hversion⟩

theorem Promotes.subscription (h : Promotes s t) : t.subscription = s.subscription :=
  funext fun id => (h.persistent (.sub id) (by simp)).trans (if_neg (by simp [promotedKeys]))

/-- Moving the settings does not change what the passes go through. -/
theorem Tiered.stepped (hs : Tiered s) (binaryVersion : Nat) :
    (s.stepped s.schemaVersion binaryVersion).subscription = s.subscription ∧
      (s.stepped s.schemaVersion binaryVersion).nextSubscriptionId = s.nextSubscriptionId := by
  unfold State.stepped
  split
  · rename_i hearly
    have hold : s.schemaVersion < 3 := by omega
    have hpromotes := s.promotes_promoted
    refine ⟨hpromotes.subscription, ?_⟩
    rw [State.nextId_of_late hpromotes.late, State.nextId_of_early hold (hs.early hold)]
    have hmoved := hpromotes.persistent .nextId (by simp)
    rw [if_pos (by decide)] at hmoved
    have hnone : s.read (.persistent .nextId) = none := hs.early hold
    refine congrArg (fun found : Option Nat => found.getD 0) (hmoved.trans ?_)
    show (s.read (.instanced .nextId)).or (s.read (.persistent .nextId)) = _
    rw [hnone, Option.or_none]
  · exact ⟨rfl, rfl⟩

theorem Tiered.countRewriteable_stepped (hs : Tiered s) (binaryVersion : Nat) :
    (s.stepped s.schemaVersion binaryVersion).countRewriteableSubscriptions =
      s.countRewriteableSubscriptions := by
  obtain ⟨hsubs, hnext⟩ := hs.stepped binaryVersion
  unfold State.countRewriteableSubscriptions State.countSubscriptions
  rw [hsubs, hnext]

/-- The planned numbers of a dry run are those of the passes. -/
theorem Tiered.executed_plan (hs : Tiered s) (binaryVersion : Nat) :
    { s.executed s.schemaVersion binaryVersion
        (s.planSchemaMigration s.schemaVersion binaryVersion false) with dryRun := true } =
      s.planSchemaMigration s.schemaVersion binaryVersion true := by
  unfold State.executed State.planSchemaMigration
  rw [hs.countRewriteable_stepped]
  simp only [SchemaMigrationSummary.mk.injEq, true_and, and_true]
  refine ⟨?_, ?_⟩
  · split_ifs <;> first | rfl | simp_all
  · split_ifs <;> first | rfl | simp_all

theorem setSchemaVersion_late (hlate : 3 ≤ binaryVersion)
    (hrun : (setSchemaVersion binaryVersion).run env u = .ok () t) :
    (u.write (.persistent .schemaVersion) binaryVersion).remove (.instanced .schemaVersion) =
      t := by
  unfold setSchemaVersion at hrun
  rw [if_pos hlate] at hrun
  obtain ⟨_, v, hwrite, hrun⟩ := run_bind_ok.mp hrun
  obtain rfl := run_store_ok.mp hwrite
  exact run_delete_ok.mp hrun

theorem setSchemaVersion_early (hearly : ¬3 ≤ binaryVersion)
    (hrun : (setSchemaVersion binaryVersion).run env u = .ok () t) :
    u.write (.instanced .schemaVersion) binaryVersion = t := by
  unfold setSchemaVersion at hrun
  rw [if_neg hearly] at hrun
  exact run_store_ok.mp hrun

/-- From version 3 on the last write moves no key but the version. -/
theorem get_relabelled (u : State) {key : DataKey} (hkey : key ≠ .schemaVersion) (version : Nat) :
    FiniteStore.get ((u.write (.persistent .schemaVersion) version).remove
        (.instanced .schemaVersion)) (.instanced key) = u.get (.instanced key) ∧
      FiniteStore.get ((u.write (.persistent .schemaVersion) version).remove
        (.instanced .schemaVersion)) (.persistent key) = u.get (.persistent key) := by
  constructor
  · exact (FiniteStore.get_replace_of_ne _ _ (by simpa using hkey)).trans
      (FiniteStore.get_replace_of_ne _ _ (by simp))
  · exact (FiniteStore.get_replace_of_ne _ _ (by simp)).trans
      (FiniteStore.get_replace_of_ne _ _ (by simpa using hkey))

/-- Moving the settings moves just the keys that were counted. -/
theorem moved_promoted (hlate : 3 ≤ binaryVersion) (hsame : SameEntries (s.promoted 3) u)
    (hrun : (setSchemaVersion binaryVersion).run env u = .ok () t) (key : DataKey) :
    Moved s t key ↔ key ∈ legacyConfigKeys ∧ (s.get (.instanced key)).isSome = true := by
  obtain rfl := setSchemaVersion_late hlate hrun
  unfold Moved
  by_cases hversion : key = .schemaVersion
  · subst hversion
    have hgone : FiniteStore.get ((u.write (.persistent .schemaVersion) binaryVersion).remove
        (.instanced .schemaVersion)) (.instanced .schemaVersion) = none :=
      FiniteStore.get_replace_self _ _ _
    have hwritten : FiniteStore.get ((u.write (.persistent .schemaVersion) binaryVersion).remove
        (.instanced .schemaVersion)) (.persistent .schemaVersion) = some binaryVersion :=
      (FiniteStore.get_replace_of_ne _ _ (by simp)).trans (FiniteStore.get_replace_self _ _ _)
    rw [hgone, hwritten]
    constructor
    · exact fun h => ⟨by decide, h.1⟩
    · exact fun h => ⟨h.2, rfl, rfl⟩
  · obtain ⟨hinstanced, hpersistent⟩ := get_relabelled u hversion binaryVersion
    have hleft : u.get (.instanced key) =
        if key ∈ promotedKeys then none else s.get (.instanced key) :=
      (hsame _ (Set.notMem_empty _)).trans (s.promotes_promoted.instanced key hversion)
    have hlisted : key ∈ legacyConfigKeys ↔ key ∈ promotedKeys := by
      simp [legacyConfigKeys, promotedKeys, hversion]
    rw [hinstanced, hpersistent, hleft, hlisted]
    by_cases hmem : key ∈ promotedKeys
    · have htaken : u.get (.persistent key) =
          Option.or (α := key.Val) (s.get (.instanced key)) (s.get (.persistent key)) :=
        ((hsame _ (Set.notMem_empty _)).trans (s.promotes_promoted.persistent key hversion)).trans
          (if_pos hmem)
      rw [if_pos hmem]
      constructor
      · exact fun h => ⟨hmem, h.1⟩
      · intro h
        refine ⟨h.2, rfl, ?_⟩
        rw [htaken]
        exact Option.isSome_or.trans (Bool.or_eq_true_iff.mpr (.inl h.2))
    · rw [if_neg hmem]
      constructor
      · intro h
        have hnone := h.2.1
        rw [hnone] at h
        exact Bool.noConfusion h.1
      · exact fun h => absurd h.1 hmem

/-- Without moving the settings no key is moved. -/
theorem Tiered.moved_nothing (hs : Tiered s)
    (hskips : ¬(s.schemaVersion ≤ 2 ∧ 3 ≤ binaryVersion)) (hsame : SameEntries s u)
    (hrun : (setSchemaVersion binaryVersion).run env u = .ok () t) (key : DataKey) :
    ¬Moved s t key := by
  rintro ⟨hbefore, hafter, -⟩
  have hkept : u.get (.instanced key) = s.get (.instanced key) := hsame _ (Set.notMem_empty _)
  by_cases hlate : 3 ≤ binaryVersion
  · have hmodern : 3 ≤ s.schemaVersion := by omega
    obtain rfl := setSchemaVersion_late hlate hrun
    by_cases hversion : key = .schemaVersion
    · subst hversion
      have hnone : s.get (.instanced .schemaVersion) = none := hs.late hmodern
      rw [hnone] at hbefore
      exact Bool.noConfusion hbefore
    · rw [(get_relabelled u hversion binaryVersion).1, hkept] at hafter
      rw [hafter] at hbefore
      exact Bool.noConfusion hbefore
  · obtain rfl := setSchemaVersion_early hlate hrun
    by_cases hversion : key = .schemaVersion
    · subst hversion
      have hwritten : FiniteStore.get (u.write (.instanced .schemaVersion) binaryVersion)
          (.instanced .schemaVersion) = some binaryVersion := FiniteStore.get_replace_self _ _ _
      rw [hwritten] at hafter
      cases hafter
    · have hother : FiniteStore.get (u.write (.instanced .schemaVersion) binaryVersion)
          (.instanced key) = u.get (.instanced key) :=
        FiniteStore.get_replace_of_ne _ _ (by simpa using hversion)
      rw [hother, hkept] at hafter
      rw [hafter] at hbefore
      exact Bool.noConfusion hbefore

theorem Tiered.moved_card (hs : Tiered s)
    (hrun : (doMigrateTo admin binaryVersion false).run env s = .ok summary t) :
    ∃ moved : Finset DataKey, (∀ key, key ∈ moved ↔ Moved s t key) ∧
      summary.configKeysToMigrate = moved.card := by
  have hcount {moved : DataKey → Prop} (hnone : ∀ key, ¬moved key) :
      ∃ keys : Finset DataKey, (∀ key, key ∈ keys ↔ moved key) ∧ 0 = keys.card :=
    ⟨∅, fun key => iff_of_false (Finset.notMem_empty key) (hnone key), rfl⟩
  obtain ⟨-, ⟨hcurrent, rfl, rfl⟩ | ⟨hless, rfl, u, hsame, hversion⟩⟩ := doMigrateTo_spec hrun
  · have hzero : (s.planSchemaMigration s.schemaVersion binaryVersion false).configKeysToMigrate =
        0 := if_neg (by omega)
    rw [hzero]
    refine hcount fun key hmoved => ?_
    have hbefore := hmoved.1
    rw [hmoved.2.1] at hbefore
    exact Bool.noConfusion hbefore
  · by_cases htiers : s.schemaVersion ≤ 2 ∧ 3 ≤ binaryVersion
    · have hstepped : s.stepped s.schemaVersion binaryVersion = s.promoted 3 := if_pos htiers
      rw [hstepped] at hsame
      refine ⟨(legacyConfigKeys.filter fun key => (s.get (.instanced key)).isSome).toFinset,
        fun key => ?_, ?_⟩
      · rw [moved_promoted htiers.2 hsame hversion, List.mem_toFinset, List.mem_filter]
      · rw [List.toFinset_card_of_nodup ((by decide : legacyConfigKeys.Nodup).filter _)]
        exact if_pos htiers
    · have hstepped : s.stepped s.schemaVersion binaryVersion = s := if_neg htiers
      rw [hstepped] at hsame
      have hzero : (s.executed s.schemaVersion binaryVersion
          (s.planSchemaMigration s.schemaVersion binaryVersion false)).configKeysToMigrate = 0 :=
        if_neg htiers
      rw [hzero]
      exact hcount fun key => hs.moved_nothing htiers hsame hversion key

/-- Afterwards the records below the counter are those the passes went through. -/
theorem recordIds_migrated (hlate : 3 ≤ binaryVersion)
    (hsame : SameEntries (s.stepped s.schemaVersion binaryVersion) u)
    (hrun : (setSchemaVersion binaryVersion).run env u = .ok () t) :
    t.nextSubscriptionId = (s.stepped s.schemaVersion binaryVersion).nextSubscriptionId ∧
      t.recordIds = (s.stepped s.schemaVersion binaryVersion).recordIds := by
  have hstepped : 3 ≤ (s.stepped s.schemaVersion binaryVersion).schemaVersion := by
    unfold State.stepped
    split
    · exact s.promotes_promoted.late
    · omega
  obtain rfl := setSchemaVersion_late hlate hrun
  have hread {k : Slot} {α : Type} [Holds Slot.Val k α] (hp : k ≠ .persistent .schemaVersion)
      (hi : k ≠ .instanced .schemaVersion) :
      (FiniteStore.read ((u.write (.persistent .schemaVersion) binaryVersion).remove
        (.instanced .schemaVersion)) k : Option α) =
          (s.stepped s.schemaVersion binaryVersion).read k := by
    rw [FiniteStore.read_remove_of_ne _ hi, FiniteStore.read_write_of_ne _ _ hp, hsame.read]
  have hnext : State.nextSubscriptionId ((u.write (.persistent .schemaVersion)
      binaryVersion).remove (.instanced .schemaVersion)) =
        (s.stepped s.schemaVersion binaryVersion).nextSubscriptionId := by
    rw [State.nextId_of_late hstepped, State.nextId_of_late
      ((State.schemaVersion_relabelled u binaryVersion).symm ▸ hlate),
      hread (k := .persistent .nextId) (by simp) (by simp)]
  have hsubs : State.subscription ((u.write (.persistent .schemaVersion)
      binaryVersion).remove (.instanced .schemaVersion)) =
        (s.stepped s.schemaVersion binaryVersion).subscription :=
    funext fun id => hread (k := .persistent (.sub id)) (by simp) (by simp)
  refine ⟨hnext, ?_⟩
  unfold State.recordIds
  rw [hnext, hsubs]

theorem rewritten_card
    (hrun : (doMigrateTo admin binaryVersion false).run env s = .ok summary t)
    (hfits : t.nextSubscriptionId ≤ u32Max) :
    (summary.subsForLedgerExpiry =
        if s.schemaVersion ≤ 3 ∧ 4 ≤ binaryVersion then t.recordIds.card else 0) ∧
      summary.subsForSubAccountLabel =
        if s.schemaVersion ≤ 4 ∧ 5 ≤ binaryVersion then t.recordIds.card else 0 := by
  obtain ⟨-, ⟨hcurrent, rfl, rfl⟩ | ⟨hless, rfl, u, hsame, hversion⟩⟩ := doMigrateTo_spec hrun
  · constructor
    · rw [if_neg (by omega)]
      exact if_neg (by omega)
    · rw [if_neg (by omega)]
      exact if_neg (by omega)
  · have hpass (hlate : 3 ≤ binaryVersion) :
        (s.stepped s.schemaVersion binaryVersion).countRewriteableSubscriptions =
          t.recordIds.card := by
      obtain ⟨hnext, hids⟩ := recordIds_migrated hlate hsame hversion
      rw [hids]
      exact countRewriteable_eq (hnext ▸ hfits)
    constructor
    · by_cases hexpiry : s.schemaVersion ≤ 3 ∧ 4 ≤ binaryVersion
      · rw [if_pos hexpiry, ← hpass (by omega)]
        exact if_pos hexpiry
      · rw [if_neg hexpiry]
        exact (if_neg hexpiry).trans (if_neg hexpiry)
    · by_cases hlabel : s.schemaVersion ≤ 4 ∧ 5 ≤ binaryVersion
      · rw [if_pos hlabel, ← hpass (by omega)]
        exact if_pos hlabel
      · rw [if_neg hlabel]
        exact (if_neg hlabel).trans (if_neg hlabel)

theorem executed_real (hrun : (doMigrateTo admin binaryVersion false).run env s = .ok summary t) :
    summary.dryRun = false := by
  obtain ⟨-, ⟨-, -, rfl⟩ | ⟨-, rfl, -⟩⟩ := doMigrateTo_spec hrun
  · rfl
  · rfl

/-- In every state of a run from a vault of any version, the dry run predicts the real run to
any target version. -/
theorem dry_run_predicts (hstart : Tiered start) (hrun : Run LayoutStep start hist s)
    (env : Env) (admin : Address) (binaryVersion : Nat) :
    DryRunPredicts env s admin binaryVersion := by
  have hs := tiered_of_run hstart hrun
  refine ⟨doMigrateTo_silent, fun summary t hreal => ⟨executed_real hreal, ?_⟩,
    fun _ _ hreal => hs.moved_card hreal, fun _ _ hreal hfits => rewritten_card hreal hfits⟩
  obtain ⟨hdry, ⟨hcurrent, -, rfl⟩ | ⟨-, rfl, -⟩⟩ := doMigrateTo_spec hreal
  · rw [hdry]
    congr 1
    unfold State.planSchemaMigration
    simp only [SchemaMigrationSummary.mk.injEq, true_and, and_true]
    constructor
    · rw [if_neg (by omega), if_neg (by omega)]
    · rw [if_neg (by omega), if_neg (by omega)]
  · rw [hdry, hs.executed_plan]

end Summary

/-- A vault of version 2, as an earlier release left it. -/
private def earlyVault : State :=
  let tiers : State := FiniteStore.write FiniteStore.empty (.instanced .schemaVersion) 2
  let named := ((tiers.writeConfig .token ⟨9⟩).writeConfig .admin ⟨8⟩).writeConfig .minTopup 1
  let accepting := (named.writeConfig .gracePeriod 0).write (.instanced (.tokenDecimals ⟨9⟩)) 7
  (initializeMerchantConfig ⟨1⟩ ⟨1⟩ 0 1 none []).after (sampleEnv 1 [⟨1⟩]) accepting

private def createEarly : VaultCall := .createSubscription sampleRequest

theorem dry_run_predicts_early : ∃ hist s summary t, Run LayoutStep earlyVault hist s ∧
    s.schemaVersion = 2 ∧
    (doMigrateTo ⟨8⟩ 5 false).run (sampleEnv 2 [⟨8⟩]) s = .ok summary t ∧
    summary = ⟨2, 5, 6, 1, 1, false, true⟩ ∧ DryRunPredicts (sampleEnv 2 [⟨8⟩]) s ⟨8⟩ 5 := by
  have hcreate : LayoutStep (.call (sampleEnv 1 [⟨2⟩]) createEarly) earlyVault _ :=
    .call (run_eq_after (by decide +kernel))
  have hrun := Run.start.next hcreate
  have htiered : Tiered earlyVault :=
    ⟨fun _ => by decide +kernel, fun hlate => absurd hlate (by decide +kernel),
      fun _ => by decide +kernel⟩
  have hpredicts := dry_run_predicts htiered hrun (sampleEnv 2 [⟨8⟩]) ⟨8⟩ 5
  obtain ⟨t, hreal⟩ := run_of_returns
    (show (doMigrateTo ⟨8⟩ 5 false).returns (sampleEnv 2 [⟨8⟩])
      (createEarly.exec.after (sampleEnv 1 [⟨2⟩]) earlyVault) ⟨2, 5, 6, 1, 1, false, true⟩ = true by
        decide +kernel)
  exact ⟨_, _, _, t, hrun, by decide +kernel, hreal, rfl, hpredicts⟩

end SubscriptionVault
