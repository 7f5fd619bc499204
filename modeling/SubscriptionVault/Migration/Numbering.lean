import SubscriptionVault.Lifecycle.Creation
import SubscriptionVault.Lifecycle.Prepaid
import SubscriptionVault.Migration.Settings

/-!
# Numbers of subscriptions

A creation takes the next number from the configuration, which lives in one of two tiers. The
number is fresh as long as the counter stays above the records. A restore raises the counter of
the instance tier only, and a migration may bring that older counter back.
-/

namespace SubscriptionVault

open Exec

/-! ## The counter -/

/-- Before version 3 the counter is only in the instance tier, and it is above every number
in use. -/
structure NumbersUsed (s : State) : Prop where
  placed : s.schemaVersion < 3 → s.read (.persistent .nextId) = none
  below : ∀ id sub, s.subscription id = some sub → id < s.nextSubscriptionId

/-- The counter stays where it belongs and only grows, and new records are below it. -/
structure Advances (s t : State) : Prop where
  placed : t.schemaVersion < 3 → t.read (.persistent .nextId) = none
  grows : s.nextSubscriptionId ≤ t.nextSubscriptionId
  records : ∀ id sub, t.subscription id = some sub →
    id < t.nextSubscriptionId ∨ (s.subscription id).isSome

theorem NumbersUsed.advance {s t : State} (h : NumbersUsed s) (hstep : Advances s t) :
    NumbersUsed t where
  placed := hstep.placed
  below id sub hsub := by
    rcases hstep.records id sub hsub with hlt | hold
    · exact hlt
    · obtain ⟨old, hold⟩ := Option.isSome_iff_exists.mp hold
      exact (h.below id old hold).trans_le hstep.grows

section Counter

variable {env : Env} {s t : State} {u : Unit}

theorem State.nextId_of_early (hold : s.schemaVersion < 3)
    (hplaced : s.read (.persistent .nextId) = none) :
    s.nextSubscriptionId = (s.read (.instanced .nextId)).getD 0 := by
  unfold State.nextSubscriptionId State.config
  rw [hplaced]
  simp only [hold, if_true]

theorem State.nextId_of_late (hlate : 3 ≤ s.schemaVersion) :
    s.nextSubscriptionId = (s.read (.persistent .nextId)).getD 0 := by
  have hconfig : (s.config .nextId : Option Nat) = s.read (.persistent .nextId) :=
    State.config_of_late hlate .nextId
  exact congrArg (Option.getD · 0) hconfig

theorem not_mem_outsideNumbering {k : Slot} (hk : k ∈ configSlots .nextId) :
    k ∉ outsideNumbering := by
  intro houtside
  apply houtside
  rcases hk with rfl | rfl | rfl | rfl <;> rfl

/-- Without the numbering being touched the counter and its place are as they were. -/
theorem numbering_of_agreeOff (h : FiniteStore.AgreeOff outsideNumbering s t) :
    t.schemaVersion = s.schemaVersion ∧ t.nextSubscriptionId = s.nextSubscriptionId ∧
      t.read (.persistent .nextId) = s.read (.persistent .nextId) := by
  refine ⟨?_, ?_, ?_⟩
  · exact State.schemaVersion_of_agreeOff h (not_mem_outsideNumbering (by simp [configSlots]))
      (not_mem_outsideNumbering (by simp [configSlots]))
  · have hconfig : (t.config .nextId : Option Nat) = s.config .nextId :=
      State.config_of_agreeOff h fun k hk => not_mem_outsideNumbering hk
    exact congrArg (Option.getD · 0) hconfig
  · exact h.read (not_mem_outsideNumbering (by simp [configSlots]))

theorem State.numbering_writeConfig (h : NumbersUsed s) (next : Nat) :
    (s.writeConfig .nextId next).schemaVersion = s.schemaVersion ∧
      (s.writeConfig .nextId next).nextSubscriptionId = next ∧
      (s.schemaVersion < 3 → (s.writeConfig .nextId next).read (.persistent .nextId) = none) := by
  have hversion : (s.writeConfig .nextId next).schemaVersion = s.schemaVersion :=
    State.schemaVersion_of_agreeOff (S := {.persistent .nextId, .instanced .nextId})
      (State.agreeOff_writeConfig s .nextId next (by simp) (by simp)) (by simp) (by simp)
  have hplaced (hold : s.schemaVersion < 3) :
      (s.writeConfig .nextId next).read (.persistent .nextId) = none := by
    unfold State.writeConfig
    rw [if_neg (Nat.not_le.mpr hold), FiniteStore.read_write_of_ne _ _ (by simp)]
    exact h.placed hold
  refine ⟨hversion, ?_, hplaced⟩
  by_cases hlate : 3 ≤ s.schemaVersion
  · exact congrArg (Option.getD · 0) (s.config_writeConfig_of_le .nextId next hlate)
  · have hold : s.schemaVersion < 3 := Nat.lt_of_not_le hlate
    rw [State.nextId_of_early (hversion ▸ hold) (hplaced hold)]
    unfold State.writeConfig
    rw [if_neg hlate, FiniteStore.read_write_self]
    rfl

theorem TakesNumber.advances {created : Nat} {sub : Subscription} (h : NumbersUsed s)
    (htakes : TakesNumber s t created)
    (hrecords : t.subscription = Function.update s.subscription created (some sub)) :
    Advances s t := by
  obtain ⟨hversion, hnext, hplaced⟩ := numbering_of_agreeOff htakes.counter
  obtain ⟨hversion', hnext', hplaced'⟩ := State.numbering_writeConfig h (created + 1)
  have hnumber : t.nextSubscriptionId = created + 1 := hnext.trans hnext'
  refine ⟨fun hold => ?_, ?_, fun id found hfound => ?_⟩
  · rw [hplaced]
    exact hplaced' (hversion' ▸ hversion ▸ hold)
  · rw [hnumber, htakes.taken]
    exact Nat.le_succ _
  · by_cases hid : id = created
    · subst hid
      left
      rw [hnumber]
      exact Nat.lt_succ_self _
    · right
      rw [hrecords, Function.update_of_ne hid] at hfound
      rw [hfound]
      rfl

end Counter

/-! ## Restores, migrations and initialisation -/

section Renumbering

variable {env : Env} {s t : State} {u : Unit}

theorem le_nextIdAfter (summaries : List SubscriptionSummary) (current : Nat) :
    current ≤ nextIdAfter current summaries ∧ ∀ summary ∈ summaries,
      saturatingAddU32 summary.subscriptionId 1 ≤ nextIdAfter current summaries := by
  induction summaries generalizing current with
  | nil => exact ⟨le_rfl, by simp⟩
  | cons summary summaries ih =>
    obtain ⟨hcurrent, hrest⟩ := ih (max current (saturatingAddU32 summary.subscriptionId 1))
    refine ⟨(le_max_left _ _).trans hcurrent, fun other hmem => ?_⟩
    rcases List.mem_cons.mp hmem with rfl | hmem
    · exact (le_max_right _ _).trans hcurrent
    · exact hrest other hmem

/-- A restore raises the counter of the instance tier and leaves the other one alone. -/
theorem restoreSnapshotPage_counter {admin : Address} {summaries : List SubscriptionSummary}
    {balances : List MerchantBalanceEntry}
    (hrun : (restoreSnapshotPage admin summaries balances).run env s = .ok u t) :
    t.read (.persistent .nextId) = s.read (.persistent .nextId) ∧
      (t.read (.instanced .nextId)).getD 0 =
        nextIdAfter ((s.read (.instanced .nextId)).getD 0) summaries := by
  obtain ⟨_, -, hrun⟩ := run_check_ok (Modifies.requireAdminAuth _) hrun
  obtain ⟨_, -, hrun⟩ := run_check_ok (.gets _) hrun
  obtain ⟨_, -, hrun⟩ := run_check_ok (.failIf _ _) hrun
  obtain ⟨stored, hstored, hrun⟩ := run_check_ok Modifies.load hrun
  obtain ⟨rfl, -⟩ := run_load_ok.mp hstored
  obtain ⟨_, s₁, hrecords, hrun⟩ := run_bind_ok.mp hrun
  obtain ⟨_, s₂, hbalances, hrun⟩ := run_bind_ok.mp hrun
  have hrecords : FiniteStore.AgreeOff (areas [.records, .balances]) s s₁ :=
    Keeps.ok (.forEach (fun _ => (writeSubscription_areas _ _).widen rfl) _) hrecords
  have hbalances : FiniteStore.AgreeOff (areas [.records, .balances]) s₁ s₂ :=
    Keeps.ok (.forEach (fun _ => Modifies.store (S := areas [.records, .balances]) rfl) _)
      hbalances
  have hagree := hrecords.trans hbalances
  have hhigh : s₂.read (.persistent .nextId) = s.read (.persistent .nextId) :=
    State.read_of_areas (k := .persistent .nextId) hagree rfl
  have hlow : s₂.read (.instanced .nextId) = s.read (.instanced .nextId) :=
    State.read_of_areas (k := .instanced .nextId) hagree rfl
  rcases run_when_ok.mp hrun with ⟨-, hraise⟩ | ⟨hdone, rfl⟩
  · obtain rfl := run_store_ok.mp hraise
    rw [FiniteStore.read_write_of_ne _ _ (by simp), FiniteStore.read_write_self]
    exact ⟨hhigh, rfl⟩
  · refine ⟨hhigh, ?_⟩
    rw [hlow]
    exact Nat.le_antisymm (le_nextIdAfter _ _).1 (Nat.le_of_not_lt hdone)

theorem restoreSnapshotPage_advances {admin : Address} {summaries : List SubscriptionSummary}
    {balances : List MerchantBalanceEntry} (h : NumbersUsed s)
    (hown : ∀ summary ∈ summaries, summary.subscriptionId <
      if s.schemaVersion < 3 then u32Max else s.nextSubscriptionId)
    (hrun : (restoreSnapshotPage admin summaries balances).run env s = .ok u t) :
    Advances s t := by
  obtain ⟨hbook, hnext⟩ := restoreSnapshotPage_book hrun
  obtain ⟨hhigh, hlow⟩ := restoreSnapshotPage_counter hrun
  have hversion : t.schemaVersion = s.schemaVersion := by
    have hsame : t.book.schemaVersion = s.book.schemaVersion := by
      rw [hbook, s.book.restored_rest summaries]
    exact hsame
  have hcounter : s.nextSubscriptionId ≤ t.nextSubscriptionId ∧ ∀ summary ∈ summaries,
      summary.subscriptionId < t.nextSubscriptionId := by
    by_cases hold : s.schemaVersion < 3
    · have hplaced := h.placed hold
      have hraised : t.nextSubscriptionId = nextIdAfter s.nextSubscriptionId summaries := by
        rw [State.nextId_of_early (hversion ▸ hold) (hhigh.trans hplaced), hlow,
          ← State.nextId_of_early hold hplaced]
      obtain ⟨hgrows, habove⟩ := le_nextIdAfter summaries s.nextSubscriptionId
      rw [hraised]
      refine ⟨hgrows, fun summary hmem => Nat.lt_of_lt_of_le ?_ (habove summary hmem)⟩
      have hbound := hown summary hmem
      rw [if_pos hold] at hbound
      exact lt_min (Nat.lt_succ_self _) hbound
    · have hkept : t.nextSubscriptionId = s.nextSubscriptionId := hnext (Nat.not_lt.mp hold)
      rw [hkept]
      refine ⟨le_rfl, fun summary hmem => ?_⟩
      have hbound := hown summary hmem
      rwa [if_neg hold] at hbound
  refine ⟨fun hold => ?_, hcounter.1, fun id sub hsub => ?_⟩
  · rw [hhigh]
    exact h.placed (hversion ▸ hold)
  · have hrecord : t.subscription id = (s.book.restored summaries).record id :=
      congrArg (fun b : Book => b.record id) hbook
    rcases s.book.restored_record summaries id with hkept | ⟨summary, hmem, rfl, -⟩
    · right
      have hstored : s.subscription id = some sub := (hrecord.trans hkept).symm.trans hsub
      rw [hstored]
      rfl
    · exact .inl (hcounter.2 summary hmem)

/-- A call that moves the counter over keeps every record. -/
theorem Advances.of_renumbering (hrecords : t.subscription = s.subscription)
    (hlate : 3 ≤ t.schemaVersion) (hgrows : s.nextSubscriptionId ≤ t.nextSubscriptionId) :
    Advances s t where
  placed hold := absurd hold (Nat.not_lt.mpr hlate)
  grows := hgrows
  records id sub hsub := by
    right
    rw [← hrecords, hsub]
    rfl

theorem subscription_of_renumbers {b' : Book} (h : RenumbersBook s.book b') :
    b'.record = s.subscription :=
  congrArg Book.record h.1

theorem doInit_advances {token admin : Address} {tokenDecimals gracePeriod : Nat}
    {minTopup : Int} (hfresh : s.schemaVersion < 3 → s.read (.instanced .nextId) = none)
    (h : NumbersUsed s)
    (hrun : (doInit token tokenDecimals admin minTopup gracePeriod).run env s = .ok u t) :
    Advances s t := by
  have hbook := doInit_writes hrun
  let v : State := s.write (.persistent .schemaVersion) storageVersion
  have hversion : v.schemaVersion = storageVersion := by
    simp [v, State.schemaVersion]
  have hread : v.read (.persistent .nextId) = s.read (.persistent .nextId) :=
    FiniteStore.read_write_of_ne _ _ (by simp)
  have hnext : t.nextSubscriptionId = (s.read (.persistent .nextId)).getD 0 := by
    have hsame : t.nextSubscriptionId = v.nextSubscriptionId := congrArg Book.nextId hbook
    rw [hsame, State.nextId_of_late (hversion ▸ by decide), hread]
  have hlate : t.schemaVersion = storageVersion :=
    (congrArg Book.schemaVersion hbook).trans hversion
  refine .of_renumbering (subscription_of_renumbers (doInit_book hrun)) (hlate ▸ by decide) ?_
  by_cases hold : s.schemaVersion < 3
  · rw [State.nextId_of_early hold (h.placed hold), hfresh hold]
    exact Nat.zero_le _
  · rw [hnext, State.nextId_of_late (Nat.not_lt.mp hold)]

theorem Promotes.advances (h : NumbersUsed s)
    (hlast : ∀ next, s.read (.instanced .nextId) = some next → s.nextSubscriptionId ≤ next)
    (hpromotes : Promotes s t) (hrecords : t.subscription = s.subscription) : Advances s t := by
  refine .of_renumbering hrecords hpromotes.late ?_
  have hmoved : t.read (.persistent .nextId) =
      (s.read (.instanced .nextId)).or (s.read (.persistent .nextId)) :=
    hpromotes.persistent .nextId (by simp)
  rw [State.nextId_of_late hpromotes.late, hmoved]
  cases hlow : s.read (.instanced .nextId) with
  | some next => exact hlast next hlow
  | none =>
    rw [Option.none_or]
    by_cases hold : s.schemaVersion < 3
    · rw [State.nextId_of_early hold (h.placed hold), hlow]
      exact Nat.zero_le _
    · rw [State.nextId_of_late (Nat.not_lt.mp hold)]

/-- A migration between two later versions moves nothing. -/
theorem doMigrate_late {admin : Address} (hlate : 3 ≤ s.schemaVersion)
    (hrun : (doMigrate admin false).run env s = .ok u t) :
    3 ≤ t.schemaVersion ∧ t.read (.persistent .nextId) = s.read (.persistent .nextId) := by
  obtain ⟨_, -, hrun⟩ := run_check_ok (Modifies.requireAdminAuth _) hrun
  obtain ⟨stored, hstored, hrun⟩ := run_check_ok (.gets _) hrun
  obtain rfl : s.schemaVersion = stored := (run_gets_ok.mp hstored).1
  obtain ⟨_, -, hrun⟩ := run_check_ok (.failIf _ _) hrun
  rcases run_when_ok.mp hrun with ⟨-, hrun⟩ | ⟨-, rfl⟩
  · obtain ⟨_, _, hmoved, hrun⟩ := run_bind_ok.mp hrun
    have hnot : ¬s.schemaVersion ≤ 2 := Nat.not_le.mpr hlate
    rcases run_when_ok.mp hmoved with ⟨hearly, -⟩ | ⟨-, rfl⟩
    · exact absurd hearly hnot
    obtain ⟨_, _, hversion, hrun⟩ := run_bind_ok.mp hrun
    obtain rfl := run_store_ok.mp hversion
    obtain ⟨_, _, hdropped, hrun⟩ := run_bind_ok.mp hrun
    obtain rfl := run_delete_ok.mp hdropped
    have hverify : (verifyMigration storageVersion).Keeps Eq :=
      .bind (.gets _) fun _ => .failIf _ _
    obtain rfl := hverify.ok hrun
    rw [State.schemaVersion_relabelled, FiniteStore.read_remove_of_ne _ (by simp),
      FiniteStore.read_write_of_ne _ _ (by simp)]
    exact ⟨by decide, rfl⟩
  · exact ⟨hlate, rfl⟩

theorem doMigrate_dry {admin : Address} (hrun : (doMigrate admin true).run env s = .ok u t) :
    t = s := by
  obtain ⟨_, -, hrun⟩ := run_check_ok (Modifies.requireAdminAuth _) hrun
  obtain ⟨_, -, hrun⟩ := run_check_ok (.gets _) hrun
  obtain ⟨_, -, hrun⟩ := run_check_ok (.failIf _ _) hrun
  rcases run_when_ok.mp hrun with ⟨⟨hdry, -⟩, -⟩ | ⟨-, rfl⟩
  · cases hdry
  · rfl

theorem NumbersUsed.advances_refl (h : NumbersUsed s) : Advances s s where
  placed := h.placed
  grows := le_rfl
  records id sub hsub := .inr (by rw [hsub]; rfl)

theorem doMigrate_advances {admin : Address} {dryRun : Bool} (h : NumbersUsed s)
    (hrun : (doMigrate admin dryRun).run env s = .ok u t) : Advances s t := by
  have hrecords : t.subscription = s.subscription := subscription_of_renumbers (doMigrate_book hrun)
  cases dryRun with
  | true =>
    rw [doMigrate_dry hrun]
    exact h.advances_refl
  | false =>
    by_cases hold : s.schemaVersion < 3
    · refine (doMigrate_promotes hold hrun).advances h (fun next hlow => ?_) hrecords
      rw [State.nextId_of_early hold (h.placed hold), hlow]
      rfl
    · have hlate := Nat.not_lt.mp hold
      obtain ⟨hstays, hkept⟩ := doMigrate_late hlate hrun
      refine .of_renumbering hrecords hstays ?_
      rw [State.nextId_of_late hlate, State.nextId_of_late hstays, hkept]

end Renumbering

/-! ## Runs -/

/-- An initialisation comes before any number is taken, a migration that asks for the tiers alone
finds no older counter in the instance tier, and a snapshot restores only numbers below the
counter, or before version 3 any number with a successor. -/
def Transaction.KeepsNumbers : Transaction → State → Prop
  | .call _ (.init _ _ _ _ _), s => s.schemaVersion < 3 → s.read (.instanced .nextId) = none
  | .call _ (.migrateConfigToPersistent _), s =>
    ∀ next, s.read (.instanced .nextId) = some next → s.nextSubscriptionId ≤ next
  | .call _ (.restoreSnapshotPage _ summaries _), s => ∀ summary ∈ summaries,
    summary.subscriptionId < if s.schemaVersion < 3 then u32Max else s.nextSubscriptionId
  | _, _ => True

/-- A vault without subscriptions, of whatever version. -/
structure Vacant (s : State) : Prop where
  placed : s.schemaVersion < 3 → s.read (.persistent .nextId) = none
  empty : ∀ id, s.subscription id = none

section Runs

variable {env : Env} {s t start : State} {l : Transaction} {hist : History Transaction State}

theorem Vacant.numbersUsed (h : Vacant s) : NumbersUsed s where
  placed := h.placed
  below id sub hsub := by
    rw [h.empty id] at hsub
    cases hsub

/-- What neither creates nor restores adds no record. -/
theorem Transacts.unused {id : Nat} (h : Transacts l s t)
    (hl : (Area.locks :: l.areas).contains .numbering = false) (hid : s.subscription id = none) :
    t.subscription id = none := by
  refine h.invariant_of (Q := fun op => op ≠ .create ∧ ∀ summaries, op ≠ .restore summaries)
    (I := fun s => s.subscription id = none) ?_ ⟨nofun, nofun⟩ ?_ ?_ hid
  · intro action u v hstep hplain hu
    rcases (hstep.view id).reads hu with hnone | ⟨hcreate, -⟩ | ⟨summaries, hrestore⟩
    · exact hnone
    · exact absurd hcreate hplain.1
    · exact absurd hrestore (hplain.2 summaries)
  · intro item
    cases item <;> exact ⟨nofun, nofun⟩
  · rintro env call rfl
    cases call
    case createSubscription => cases hl
    case createSubscriptionWithToken => cases hl
    case createSubscriptionWithSplit => cases hl
    case createSubscriptionFromPlan => cases hl
    case restoreSnapshotPage => cases hl
    all_goals exact ⟨nofun, nofun⟩

theorem Transacts.advances_of_areas (h : Transacts l s t) (hused : NumbersUsed s)
    (hl : (Area.locks :: l.areas).contains .numbering = false) : Advances s t := by
  have hagree : FiniteStore.AgreeOff outsideNumbering s t := by
    refine h.worksIn.1.mono fun k hk harea => ?_
    have hin : (Area.locks :: l.areas).contains k.area = true := hk
    rw [harea, hl] at hin
    cases hin
  obtain ⟨hversion, hnext, hplaced⟩ := numbering_of_agreeOff hagree
  refine ⟨fun hold => ?_, hnext.ge, fun id sub hsub => ?_⟩
  · rw [hplaced]
    exact hused.placed (hversion ▸ hold)
  · right
    cases hold : s.subscription id with
    | some old => rfl
    | none =>
      rw [h.unused hl hold] at hsub
      cases hsub

theorem Creation.advances (creation : Creation) (hused : NumbersUsed s)
    (hrun : creation.call.exec.run env s = .ok () t) : Advances s t := by
  rw [creation.call_exec] at hrun
  obtain ⟨created, hrun⟩ := run_effectOf_ok.mp hrun
  obtain ⟨htakes, sub, hrecords⟩ := Creation.takes hrun
  exact htakes.advances hused hrecords

theorem Transacts.advances (h : Transacts l s t) (hused : NumbersUsed s)
    (hkeeps : l.KeepsNumbers s) : Advances s t := by
  by_cases hquiet : (Area.locks :: l.areas).contains .numbering = false
  · exact h.advances_of_areas hused hquiet
  cases h with
  | other hagree => exact absurd rfl hquiet
  | @call env call _ _ hrun =>
    cases call
    case init token tokenDecimals admin minTopup gracePeriod =>
      exact doInit_advances hkeeps hused hrun
    case migrate admin dryRun => exact doMigrate_advances hused hrun
    case migrateConfigToPersistent admin =>
      exact (migrateConfigToPersistent_promotes hrun).advances hused hkeeps
        (subscription_of_renumbers (migrateConfigToPersistent_book hrun))
    case createSubscription new => exact Creation.advances (.direct new) hused hrun
    case createSubscriptionWithToken new =>
      exact Creation.advances (.withToken new) hused hrun
    case createSubscriptionWithSplit new entries =>
      exact Creation.advances (.withSplit new entries) hused hrun
    case createSubscriptionFromPlan subscriber planId label =>
      exact Creation.advances (.fromPlan subscriber planId label) hused hrun
    case restoreSnapshotPage admin summaries balances =>
      exact restoreSnapshotPage_advances hused hkeeps hrun
    all_goals exact absurd rfl hquiet

/-- The counter stays above every number that was ever in use. -/
theorem numbersUsed_of_run (hvacant : Vacant start) (hrun : Run Transacts start hist s)
    (hkeeps : ∀ step ∈ hist, step.1.KeepsNumbers step.2) :
    NumbersUsed s ∧ ∀ step ∈ hist, ∀ id sub, step.2.subscription id = some sub →
      id < s.nextSubscriptionId := by
  induction hrun with
  | start => exact ⟨hvacant.numbersUsed, by simp⟩
  | @next hist u v l _ hstep ih =>
    obtain ⟨hused, hpast⟩ := ih fun step hmem => hkeeps step (List.mem_cons_of_mem _ hmem)
    have hadvances := hstep.advances hused (hkeeps _ List.mem_cons_self)
    refine ⟨hused.advance hadvances, fun step hmem id sub hsub => ?_⟩
    refine Nat.lt_of_lt_of_le ?_ hadvances.grows
    rcases List.mem_cons.mp hmem with rfl | hmem
    · exact hused.below id sub hsub
    · exact hpast step hmem id sub hsub

end Runs

/-- In a run that keeps its numbers every record is below the counter, and a creation takes a
number that no subscription has or ever had, leaving all others as they are. -/
theorem creations_take_fresh_numbers {start s : State} {hist : History Transaction State}
    (hvacant : Vacant start) (hrun : Run Transacts start hist s)
    (hkeeps : ∀ step ∈ hist, step.1.KeepsNumbers step.2) :
    (∀ id sub, s.subscription id = some sub → id < s.nextSubscriptionId) ∧
      ∀ (creation : Creation) env created t, creation.exec.run env s = .ok created t →
        s.subscription created = none ∧
        (∀ step ∈ hist, step.2.subscription created = none) ∧
        (∃ sub, t.subscription created = some sub) ∧
        ∀ id ≠ created, t.subscription id = s.subscription id := by
  obtain ⟨hused, hpast⟩ := numbersUsed_of_run hvacant hrun hkeeps
  refine ⟨hused.below, fun creation env created t hcreate => ?_⟩
  obtain ⟨htakes, sub, hrecords⟩ := Creation.takes hcreate
  have hfresh {u : State} (h : ∀ id sub, u.subscription id = some sub →
      id < s.nextSubscriptionId) : u.subscription created = none := by
    cases hfound : u.subscription created with
    | none => rfl
    | some found => exact absurd (h created found hfound) (htakes.taken ▸ Nat.lt_irrefl _)
  refine ⟨hfresh hused.below, fun step hmem => hfresh (hpast step hmem), ⟨sub, ?_⟩,
    fun id hid => ?_⟩
  · rw [hrecords]
    exact Function.update_self _ _ _
  · rw [hrecords]
    exact Function.update_of_ne hid _ _

private def createFirst : List (Env × VaultCall) :=
  [(sampleEnv 0 [⟨2⟩], .createSubscription sampleRequest)]

private theorem sample_vacant : Vacant (sampleStart 0) := by
  refine ⟨fun hold => absurd hold (by decide +kernel), fun id => ?_⟩
  exact congrFun (congrArg Book.record (sample_deployed 0).book) id

/-- The number after the first is 1, and nothing was ever stored there. -/
theorem second_number_fresh : ∃ hist s t, Run Transacts (sampleStart 0) hist s ∧
    (Creation.direct sampleRequest).exec.run (sampleEnv 1 [⟨2⟩]) s = .ok 1 t ∧
      (s.subscription 0).isSome = true ∧ s.subscription 1 = none ∧
      ∀ step ∈ hist, step.2.subscription 1 = none := by
  have hrun := run_transactions (sample_transacted 0)
    (show allSucceed (afterCalls (sampleVault 0)) createFirst = true by decide +kernel)
  have hfresh := creations_take_fresh_numbers sample_vacant hrun fun step hmem => by
    simp only [createFirst, transactionHistory, List.cons_append, List.nil_append, List.mem_cons,
      List.not_mem_nil, or_false] at hmem
    rcases hmem with rfl | rfl <;> trivial
  have hcreate := run_eq_after (show (Creation.direct sampleRequest).call.exec.succeeds
    (sampleEnv 1 [⟨2⟩]) (stateAfter (afterCalls (sampleVault 0)) createFirst) = true by
      decide +kernel)
  have hnext : (stateAfter (afterCalls (sampleVault 0)) createFirst).nextSubscriptionId = 1 := by
    decide +kernel
  rw [Creation.call_exec] at hcreate
  obtain ⟨created, hcreated⟩ := run_effectOf_ok.mp hcreate
  obtain rfl : created = 1 := (Creation.takes hcreated).1.taken.trans hnext
  obtain ⟨hunused, hnever, -⟩ := hfresh.2 _ _ _ _ hcreated
  exact ⟨_, _, _, hrun, hcreated, by decide +kernel, hunused, hnever⟩

/-- A subscription in a snapshot, with 30 already charged. -/
private def snapshotEntry : SubscriptionSummary where
  subscriptionId := 0
  subscriber := ⟨2⟩
  merchant := ⟨1⟩
  token := ⟨9⟩
  amount := 10
  intervalSeconds := 60
  lastPaymentTimestamp := 0
  status := .active
  prepaidBalance := 25
  usageEnabled := false
  lifetimeCap := none
  lifetimeCharged := 30
  startTime := 0
  expiresAt := none
  expiresAtLedger := none

/-- The vault with the emergency stop on or off. -/
private def withStop (s : State) (stopped : Bool) : State := s.writeConfig .emergencyStop stopped

private theorem withStop_transacts (s : State) (stopped : Bool) :
    Transacts (.other (sampleEnv 1 [])) s (withStop s stopped) :=
  .other (State.agreeOff_writeConfig s .emergencyStop stopped rfl rfl)

private def restoreFirst : VaultCall := .restoreSnapshotPage ⟨8⟩ [snapshotEntry] []

private def restoredRunning : State :=
  withStop (restoreFirst.exec.after (sampleEnv 1 [⟨8⟩])
    (withStop (afterCalls (sampleVault 0)) true)) false

/-- After a restore the next creation returns the number of a restored subscription and writes
over it. -/
theorem restored_subscription_overwritten : ∃ hist s t, Vacant (sampleStart 0) ∧
    Run Transacts (sampleStart 0) hist s ∧ s.nextSubscriptionId = 0 ∧
      (s.subscription 0).map (·.lifetimeCharged) = some 30 ∧
      (Creation.direct sampleRequest).exec.run (sampleEnv 2 [⟨2⟩]) s = .ok 0 t ∧
      (t.subscription 0).map (·.lifetimeCharged) = some 0 := by
  have hrestore := run_eq_after (show restoreFirst.exec.succeeds (sampleEnv 1 [⟨8⟩])
    (withStop (afterCalls (sampleVault 0)) true) = true by decide +kernel)
  have hrun := (((sample_transacted 0).next (withStop_transacts _ true)).next
    (.call hrestore)).next (withStop_transacts _ false)
  have hcreate := run_eq_after (show (Creation.direct sampleRequest).call.exec.succeeds
    (sampleEnv 2 [⟨2⟩]) restoredRunning = true by decide +kernel)
  have hnext : restoredRunning.nextSubscriptionId = 0 := by decide +kernel
  have hlost : (((Creation.direct sampleRequest).call.exec.after (sampleEnv 2 [⟨2⟩])
      restoredRunning).subscription 0).map (·.lifetimeCharged) = some 0 := by decide +kernel
  rw [Creation.call_exec] at hcreate
  obtain ⟨created, hcreated⟩ := run_effectOf_ok.mp hcreate
  obtain rfl : created = 0 := (Creation.takes hcreated).1.taken.trans hnext
  exact ⟨_, restoredRunning, _, sample_vacant, hrun, hnext, by decide +kernel, hcreated, hlost⟩

end SubscriptionVault
