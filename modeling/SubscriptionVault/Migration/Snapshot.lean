import SubscriptionVault.Lifecycle.OneRecord
import SubscriptionVault.Lifecycle.Transactions
import SubscriptionVault.Migration.Settings

/-!
# Snapshots

A vault is exported page by page, and the pages are restored into a vault that has just been
initialised. Both sides keep to the instance tier for the next id. A vault of the current version
has it in the persistent tier, so that nothing is exported, and what is restored is not counted.
-/

namespace SubscriptionVault

open Exec

/-! ## Export -/

def maxExportLimit : Nat := 100

def Subscription.summary (sub : Subscription) (id : Nat) : SubscriptionSummary where
  subscriptionId := id
  subscriber := sub.subscriber
  merchant := sub.merchant
  token := sub.token
  amount := sub.amount
  intervalSeconds := sub.intervalSeconds
  lastPaymentTimestamp := sub.lastPaymentTimestamp
  status := sub.status
  prepaidBalance := sub.prepaidBalance
  usageEnabled := sub.usageEnabled
  lifetimeCap := sub.lifetimeCap
  lifetimeCharged := sub.lifetimeCharged
  startTime := sub.startTime
  expiresAt := sub.expiresAt
  expiresAtLedger := sub.expiresAtLedger

structure FullSnapshotPage where
  subscriptions : List SubscriptionSummary
  balances : List MerchantBalanceEntry
  nextStartId : Option Nat

/-- The next id of the instance tier, whatever the version. -/
def State.instancedNextId (s : State) : Nat := (s.read (.instanced .nextId)).getD 0

/-- The subscriptions from `startId` up to `endId`, each with its merchant's balance. -/
def State.snapshotPage (s : State) (startId endId : Nat) : FullSnapshotPage where
  subscriptions := (List.range' startId (endId - startId)).filterMap fun id =>
    (s.subscription id).map (·.summary id)
  balances := (List.range' startId (endId - startId)).filterMap fun id =>
    (s.subscription id).map fun sub =>
      ⟨sub.merchant, sub.token, s.merchantBalance sub.merchant sub.token⟩
  nextStartId := if endId < s.instancedNextId then some endId else none

def exportFullSnapshotPage (admin : Address) (startId size : Nat) : Vault FullSnapshotPage := do
  requireAdminAuth admin
  if size = 0 then pure ⟨[], [], none⟩
  else do
    let nextId ← gets (·.instancedNextId)
    if nextId ≤ startId then pure ⟨[], [], none⟩
    else do
      let endId := min (saturatingAddU32 startId (min size maxExportLimit)) nextId
      gets (·.snapshotPage startId endId)

/-- The pages from `startId` on, each found through the one before it. -/
inductive Exports (env : Env) (s : State) (admin : Address) (size : Nat) :
    Nat → List FullSnapshotPage → Prop
  | last {startId : Nat} {page : FullSnapshotPage} :
      (exportFullSnapshotPage admin startId size).run env s = .ok page s →
      page.nextStartId = none → Exports env s admin size startId [page]
  | next {startId next : Nat} {page : FullSnapshotPage} {pages : List FullSnapshotPage} :
      (exportFullSnapshotPage admin startId size).run env s = .ok page s →
      page.nextStartId = some next → Exports env s admin size next pages →
      Exports env s admin size startId (page :: pages)

/-! ## Restore -/

/-- The pages, restored one after the other. -/
def restorePages (admin : Address) (pages : List FullSnapshotPage) : Vault Unit :=
  forEach pages fun page => restoreSnapshotPage admin page.subscriptions page.balances

/-- A vault right after `init`, except for its settings. -/
def FreshlyInitialised (f : State) : Prop :=
  ∃ start, Deployed start ∧ FiniteStore.AgreeOff (areas [.settings]) start f

/-- The vault `f` after the pages, in an order of their own, holds what `s` holds. -/
structure RestoredFrom (s : State) (pages : List FullSnapshotPage) (t : State) : Prop where
  records : t.subscription = s.subscription
  balances : t.merchantBalance = s.merchantBalance
  numbered : ∀ page ∈ pages, ∀ summary ∈ page.subscriptions,
    summary.subscriptionId < t.nextSubscriptionId

/-- The export ends, lists every subscription once, and can be restored in any order. -/
def RoundTrips (env : Env) (s f : State) (admin : Address) (size : Nat) : Prop :=
  ∃ pages, Exports env s admin size 0 pages ∧
    (∀ id, (pages.flatMap (·.subscriptions)).filter (·.subscriptionId = id) =
      ((s.subscription id).map (·.summary id)).toList) ∧
    ∀ order, order.Perm pages →
      ∃ t, (restorePages admin order).run env f = .ok () t ∧ RestoredFrom s order t

section Fresh

variable {env : Env} {s f t : State} {admin : Address} {u : Unit}

theorem FreshlyInitialised.book (h : FreshlyInitialised f) : f.book = Book.blank := by
  obtain ⟨start, hdeployed, hsettings⟩ := h
  rw [← hdeployed.book]
  exact State.book_of_unbooked (hsettings.mono (areas_subset_unbooked rfl))

theorem FreshlyInitialised.merchantBalance (h : FreshlyInitialised f) (merchant token : Address) :
    f.merchantBalance merchant token = 0 := by
  obtain ⟨start, hdeployed, hsettings⟩ := h
  have hkept : f.merchantBalance merchant token = start.merchantBalance merchant token :=
    congrArg (Option.getD · 0) (State.read_of_areas hsettings rfl)
  have hunset : start.merchantBalance merchant token = 0 := by
    unfold State.merchantBalance
    rw [State.read_of_areas hdeployed.areas rfl, FiniteStore.read_empty]
    rfl
  rw [hkept, hunset]

/-- The next id of a fresh vault is out of the reach of a restore. -/
theorem restorePages_numbering {pages : List FullSnapshotPage} (hlate : 3 ≤ f.schemaVersion)
    (hrun : (restorePages admin pages).run env f = .ok u t) :
    t.nextSubscriptionId = f.nextSubscriptionId := by
  induction pages generalizing f with
  | nil =>
    obtain rfl := run_forEach_nil_ok.mp hrun
    rfl
  | cons page pages ih =>
    obtain ⟨m, hfirst, hrest⟩ := run_forEach_cons_ok.mp hrun
    obtain ⟨hbook, hnext⟩ := restoreSnapshotPage_book hfirst
    have hversion : m.schemaVersion = f.schemaVersion := by
      have hsame : m.book.schemaVersion = f.book.schemaVersion := by
        rw [hbook, f.book.restored_rest page.subscriptions]
      exact hsame
    have hkept : m.nextSubscriptionId = f.nextSubscriptionId := hnext hlate
    rw [ih (by rw [hversion]; exact hlate) hrest, hkept]

/-- Pages without subscriptions and balances restore nothing. -/
theorem run_restorePages_empty {pages : List FullSnapshotPage}
    (hsigned : env.authorized admin ∧ admin ≠ env.host.contract) (hadmin : f.admin = some admin)
    (hstopped : f.emergencyStop = true)
    (hempty : ∀ page ∈ pages, page.subscriptions = [] ∧ page.balances = []) :
    (restorePages admin pages).run env f = .ok () f := by
  induction pages with
  | nil => rfl
  | cons page pages ih =>
    refine (run_seq_of_ok ?_).trans (ih fun other hmem => hempty other (List.mem_cons_of_mem _ hmem))
    obtain ⟨hsubscriptions, hbalances⟩ := hempty page List.mem_cons_self
    show (restoreSnapshotPage admin page.subscriptions page.balances).run env f = _
    rw [hsubscriptions, hbalances]
    have hread : (gets (·.emergencyStop) : Vault _).run env f = .ok true f :=
      run_gets_ok.mpr ⟨hstopped, rfl⟩
    unfold restoreSnapshotPage
    rw [run_seq_of_ok (run_requireAdminAuth_ok.mpr ⟨⟨hadmin, hsigned⟩, rfl⟩),
      run_bind_of_ok hread, run_seq_of_ok (run_failIf_ok.mpr ⟨by simp, rfl⟩),
      run_bind_of_ok (run_load_ok.mpr ⟨rfl, rfl⟩)]
    exact run_when_ok.mpr (.inr ⟨Nat.lt_irrefl _, rfl⟩)

end Fresh

/-! ## What is exported -/

section Pages

variable {env : Env} {s t : State} {admin : Address} {size startId : Nat}
  {page : FullSnapshotPage} {pages : List FullSnapshotPage}

/-- A page is empty when nothing is stored. -/
theorem export_of_empty (hnone : ∀ id, s.subscription id = none)
    (hrun : (exportFullSnapshotPage admin startId size).run env s = .ok page t) :
    page.subscriptions = [] ∧ page.balances = [] := by
  obtain ⟨_, -, hrun⟩ := run_check_ok (Modifies.requireAdminAuth _) hrun
  split at hrun
  · obtain ⟨rfl, -⟩ := run_pure_ok.mp hrun
    exact ⟨rfl, rfl⟩
  obtain ⟨_, -, hrun⟩ := run_check_ok (.gets _) hrun
  split at hrun
  · obtain ⟨rfl, -⟩ := run_pure_ok.mp hrun
    exact ⟨rfl, rfl⟩
  obtain ⟨rfl, -⟩ := run_gets_ok.mp hrun
  simp [State.snapshotPage, hnone]

theorem Exports.empty (hnone : ∀ id, s.subscription id = none)
    (h : Exports env s admin size startId pages) :
    ∀ page ∈ pages, page.subscriptions = [] ∧ page.balances = [] := by
  induction h with
  | last hrun _ =>
    intro page hmem
    rw [List.mem_singleton.mp hmem]
    exact export_of_empty hnone hrun
  | next hrun _ _ ih =>
    intro page hmem
    rcases List.mem_cons.mp hmem with rfl | hmem
    · exact export_of_empty hnone hrun
    · exact ih page hmem

/-- The export ends: every page starts behind the one before. -/
theorem exists_exports (hsigned : env.authorized admin ∧ admin ≠ env.host.contract)
    (hadmin : s.admin = some admin) (hsize : 0 < size)
    (hfits : s.instancedNextId ≤ u32Max) (startId : Nat) :
    ∃ pages, Exports env s admin size startId pages := by
  induction hleft : s.instancedNextId - startId using Nat.strong_induction_on
    generalizing startId with
  | _ left ih =>
    have hauth : (requireAdminAuth admin).run env s = .ok () s :=
      run_requireAdminAuth_ok.mpr ⟨⟨hadmin, hsigned⟩, rfl⟩
    have hread : (gets (·.instancedNextId) : Vault _).run env s = .ok s.instancedNextId s :=
      run_gets_ok.mpr ⟨rfl, rfl⟩
    by_cases hdone : s.instancedNextId ≤ startId
    · refine ⟨[⟨[], [], none⟩], .last ?_ rfl⟩
      unfold exportFullSnapshotPage
      rw [run_seq_of_ok hauth, if_neg hsize.ne', run_bind_of_ok hread, if_pos hdone]
      rfl
    · let endId := min (saturatingAddU32 startId (min size maxExportLimit)) s.instancedNextId
      have hahead : startId < endId := by
        have hstep : 0 < min size maxExportLimit := by
          unfold maxExportLimit
          omega
        have hlt : startId < s.instancedNextId := Nat.lt_of_not_le hdone
        refine lt_min ?_ hlt
        unfold saturatingAddU32
        omega
      have hpage : (exportFullSnapshotPage admin startId size).run env s =
          .ok (s.snapshotPage startId endId) s := by
        unfold exportFullSnapshotPage
        rw [run_seq_of_ok hauth, if_neg hsize.ne', run_bind_of_ok hread, if_neg hdone]
        rfl
      by_cases hmore : endId < s.instancedNextId
      · obtain ⟨pages, hpages⟩ := ih (s.instancedNextId - endId) (by omega) endId rfl
        exact ⟨_, .next hpage (if_pos hmore) hpages⟩
      · exact ⟨_, .last hpage (if_neg hmore)⟩

end Pages

/-! ## Round trips -/

section RoundTrips

variable {env : Env} {s f t : State} {admin : Address} {size : Nat}

/-- Every stored subscription makes the round trip fail: it is not exported, or it is restored
under a number that the fresh vault will give away again. -/
theorem subscription_of_roundTrips (hfresh : FreshlyInitialised f)
    (h : RoundTrips env s f admin size) (id : Nat) : s.subscription id = none := by
  obtain ⟨pages, -, hlisted, horders⟩ := h
  obtain ⟨t, hrun, hrestored⟩ := horders pages (List.Perm.refl _)
  by_contra hstored
  obtain ⟨sub, hsub⟩ := Option.ne_none_iff_exists'.mp hstored
  have hmem : sub.summary id ∈ pages.flatMap (·.subscriptions) := by
    have hfiltered : sub.summary id ∈
        (pages.flatMap (·.subscriptions)).filter (·.subscriptionId = id) := by
      rw [hlisted id, hsub]
      exact List.mem_singleton_self _
    exact (List.mem_filter.mp hfiltered).1
  obtain ⟨page, hpage, hsummary⟩ := List.mem_flatMap.mp hmem
  have hbelow : id < t.nextSubscriptionId := hrestored.numbered page hpage _ hsummary
  have hversion : f.schemaVersion = storageVersion := congrArg Book.schemaVersion hfresh.book
  have hnext : f.nextSubscriptionId = 0 := congrArg Book.nextId hfresh.book
  rw [restorePages_numbering (by rw [hversion]; decide) hrun, hnext] at hbelow
  exact Nat.not_lt_zero _ hbelow

theorem merchantBalance_of_roundTrips (hsigned : env.authorized admin ∧ admin ≠ env.host.contract)
    (hadmin : f.admin = some admin) (hstopped : f.emergencyStop = true)
    (hfresh : FreshlyInitialised f) (h : RoundTrips env s f admin size)
    (merchant token : Address) : s.merchantBalance merchant token = 0 := by
  have hnone := subscription_of_roundTrips hfresh h
  obtain ⟨pages, hexports, -, horders⟩ := h
  obtain ⟨t, hrun, hrestored⟩ := horders pages (List.Perm.refl _)
  have hsame : Outcome.ok () f = .ok () t :=
    (run_restorePages_empty hsigned hadmin hstopped (hexports.empty hnone)).symm.trans hrun
  cases hsame
  rw [← hrestored.balances]
  exact hfresh.merchantBalance merchant token

theorem roundTrips_of_empty (hsigned : env.authorized admin ∧ admin ≠ env.host.contract)
    (hexporter : s.admin = some admin) (hadmin : f.admin = some admin)
    (hstopped : f.emergencyStop = true) (hfresh : FreshlyInitialised f) (hsize : 0 < size)
    (hfits : s.instancedNextId ≤ u32Max) (hnone : ∀ id, s.subscription id = none)
    (hbalances : ∀ merchant token, s.merchantBalance merchant token = 0) :
    RoundTrips env s f admin size := by
  obtain ⟨pages, hexports⟩ := exists_exports hsigned hexporter hsize hfits 0
  have hempty := hexports.empty hnone
  have hlists : pages.flatMap (·.subscriptions) = [] :=
    List.flatMap_eq_nil_iff.mpr fun page hmem => (hempty page hmem).1
  refine ⟨pages, hexports, fun id => ?_, fun order horder => ⟨f, ?_, ?_, ?_, ?_⟩⟩
  · rw [hlists, hnone id]
    rfl
  · exact run_restorePages_empty hsigned hadmin hstopped fun page hmem =>
      hempty page (horder.mem_iff.mp hmem)
  · funext id
    have hblank : f.subscription id = none := congrFun (congrArg Book.record hfresh.book) id
    rw [hblank, hnone id]
  · funext merchant token
    rw [hfresh.merchantBalance, hbalances]
  · intro page hmem summary hsummary
    rw [(hempty page (horder.mem_iff.mp hmem)).1] at hsummary
    cases hsummary

/-- A vault survives export and restore exactly when it holds no subscription and owes no
merchant anything. -/
theorem roundTrips_iff (hsigned : env.authorized admin ∧ admin ≠ env.host.contract)
    (hexporter : s.admin = some admin) (hadmin : f.admin = some admin)
    (hstopped : f.emergencyStop = true) (hfresh : FreshlyInitialised f)
    (hsize : 0 < size ∧ size ≤ maxExportLimit) (hfits : s.instancedNextId ≤ u32Max) :
    RoundTrips env s f admin size ↔ (∀ id, s.subscription id = none) ∧
      ∀ merchant token, s.merchantBalance merchant token = 0 := by
  constructor
  · intro h
    exact ⟨subscription_of_roundTrips hfresh h,
      merchantBalance_of_roundTrips hsigned hadmin hstopped hfresh h⟩
  · rintro ⟨hnone, hbalances⟩
    exact roundTrips_of_empty hsigned hexporter hadmin hstopped hfresh hsize.1 hfits hnone
      hbalances

end RoundTrips

/-- A vault that has just been initialised and stopped. -/
private def restoreTarget : State :=
  (sampleStart 0).writeConfig .emergencyStop true

private theorem restoreTarget_fresh : FreshlyInitialised restoreTarget := by
  refine ⟨sampleStart 0, sample_deployed 0, ?_⟩
  have hwrite : Modifies (areas [.settings]) (writeConfig .emergencyStop true) :=
    Modifies.writeConfig rfl rfl
  have hrun : (writeConfig .emergencyStop true).run (sampleEnv 0 []) (sampleStart 0) =
      .ok () restoreTarget := run_writeConfig_ok.mpr rfl
  exact hwrite.ok hrun

theorem roundTrips_of_fresh_vault :
    RoundTrips (sampleEnv 0 [⟨8⟩]) (sampleStart 0) restoreTarget ⟨8⟩ 100 := by
  have hblank := (sample_deployed 0).book
  refine (roundTrips_iff (by decide) (by decide +kernel) (by decide +kernel) (by decide +kernel)
    restoreTarget_fresh (by decide) (by decide +kernel)).mpr ⟨fun id => ?_, ?_⟩
  · exact congrFun (congrArg Book.record hblank) id
  · intro merchant token
    unfold State.merchantBalance
    rw [State.read_of_areas (sample_deployed 0).areas rfl, FiniteStore.read_empty]
    rfl

private def exportedCalls : List (Env × VaultCall) :=
  [(sampleEnv 0 [⟨2⟩], .createSubscription sampleRequest)]

/-- A vault with one subscription is exported without it. -/
theorem export_misses_subscription : ∃ hist s, Run Transacts (sampleStart 0) hist s ∧
    s.subscription 0 ≠ none ∧ FreshlyInitialised restoreTarget ∧
      ¬RoundTrips (sampleEnv 0 [⟨8⟩]) s restoreTarget ⟨8⟩ 100 := by
  have hrun := run_transactions (sample_transacted 0)
    (show allSucceed (afterCalls (sampleVault 0)) exportedCalls = true by decide +kernel)
  have hstored : (stateAfter (afterCalls (sampleVault 0)) exportedCalls).subscription 0 ≠ none := by
    decide +kernel
  exact ⟨_, _, hrun, hstored, restoreTarget_fresh,
    fun h => hstored (subscription_of_roundTrips restoreTarget_fresh h 0)⟩

end SubscriptionVault
