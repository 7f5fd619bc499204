import SubscriptionVault.Contract.Listings
import SubscriptionVault.Framework.Paging
import SubscriptionVault.Migration.Numbering

/-!
# The subscriptions of a merchant or a token, and stranded balances

The first two listings page through an index by places. The search for stranded balances goes
through all numbers below the counter, with a budget for each call, so it is as complete as the
counter is right.
-/

namespace SubscriptionVault

open Exec

/-! ## Pages of an index -/

section Index

variable {s : State} {merchant token : Address} {ids : List Nat} {limit : Nat} {reverse : Bool}

/-- The loop reads the subscriptions of the next places. -/
theorem readMerchantPositions_eq {steps position : Nat} (hwithin : steps ≤ ids.length - position) :
    s.readMerchantPositions ids reverse steps position =
      (((inOrder reverse ids).drop position).take steps).filterMap s.subscription := by
  induction steps generalizing position with
  | zero => rfl
  | succ steps ih =>
    have hposition : position < (inOrder reverse ids).length := by
      rw [length_inOrder]
      omega
    have hread : ids[if reverse then ids.length - 1 - position else position]? =
        some (inOrder reverse ids)[position] := by
      rw [← List.getElem?_eq_getElem hposition, getElem?_inOrder (by omega)]
      split <;> rfl
    unfold State.readMerchantPositions
    dsimp only
    rw [hread, ih (by omega), List.drop_eq_getElem_cons hposition, List.take_succ_cons,
      List.filterMap_cons, Option.bind_some]
    cases s.subscription (inOrder reverse ids)[position] <;> rfl

/-- A slice is not longer than what is left of the list. -/
theorem take_slice (xs : List Nat) (start limit : Nat) :
    (xs.drop start).take (min (start + limit) xs.length - start) = (xs.drop start).take limit := by
  rw [List.take_eq_take_iff, List.length_drop]
  omega

theorem getSubscriptionsByMerchantPaginated_eq {cursor : Option Nat}
    (hlimit : 0 < limit ∧ limit ≤ maxSubscriptionListPage)
    (hdepth : (s.merchantSubs merchant).length ≤ maxMerchantCursorDepth) :
    s.getSubscriptionsByMerchantPaginated merchant cursor limit reverse = .ok
      { subscriptions := (((inOrder reverse (s.merchantSubs merchant)).drop (cursor.getD 0)).take
          limit).filterMap s.subscription
        nextCursor := if cursor.getD 0 + limit < (s.merchantSubs merchant).length then
          some (cursor.getD 0 + limit) else none
        total := (s.merchantSubs merchant).length } := by
  unfold State.getSubscriptionsByMerchantPaginated
  rw [if_neg (by omega)]
  generalize s.merchantSubs merchant = ids at hdepth
  generalize cursor.getD 0 = start
  dsimp only
  by_cases hpast : ids.length ≤ start
  · have hnothing : (inOrder reverse ids).drop start = [] :=
      List.drop_eq_nil_of_le (by rwa [length_inOrder])
    rw [if_pos (.inl hpast), hnothing, List.take_nil, List.filterMap_nil, if_neg (by omega)]
  · have hstop : min (min (saturatingAddU32 start limit) ids.length) maxMerchantCursorDepth =
        min (start + limit) ids.length := by
      unfold saturatingAddU32 u32Max
      unfold maxMerchantCursorDepth at hdepth ⊢
      omega
    have hagain : min (saturatingAddU32 start (min (start + limit) ids.length - start))
        ids.length = min (start + limit) ids.length := by
      unfold saturatingAddU32 u32Max
      unfold maxMerchantCursorDepth at hdepth
      omega
    have hslice := take_slice (inOrder reverse ids) start limit
    rw [length_inOrder] at hslice
    rw [if_neg (by omega), hstop]
    unfold State.readMerchantPage
    dsimp only
    rw [hagain, readMerchantPositions_eq (by omega), hslice]
    by_cases hmore : start + limit < ids.length
    · rw [Nat.min_eq_left hmore.le, if_pos (by omega), if_pos hmore]
    · rw [Nat.min_eq_right (by omega), if_neg (by omega), if_neg hmore]

theorem listSubscriptionsByToken_eq {cursor : Option Nat}
    (hlimit : 0 < limit ∧ limit ≤ maxSubscriptionListPage)
    (hbounded : (s.tokenSubs token).length ≤ u32Max) :
    s.listSubscriptionsByToken token cursor limit = .ok
      { subscriptions := (((s.tokenSubs token).drop (cursor.getD 0)).take limit).filterMap
          s.subscription
        nextCursor := if cursor.getD 0 + limit < (s.tokenSubs token).length then
          some (cursor.getD 0 + limit) else none
        total := (s.tokenSubs token).length } := by
  unfold State.listSubscriptionsByToken
  rw [if_neg (by omega)]
  generalize s.tokenSubs token = ids at hbounded
  generalize cursor.getD 0 = start
  dsimp only
  by_cases hpast : ids.length ≤ start
  · rw [if_pos hpast, List.drop_eq_nil_of_le hpast, List.take_nil, List.filterMap_nil,
      if_neg (by omega)]
  · have hstop : min (saturatingAddU32 start limit) ids.length = min (start + limit) ids.length := by
      unfold saturatingAddU32
      omega
    rw [if_neg hpast, hstop, take_slice]
    by_cases hmore : start + limit < ids.length
    · rw [Nat.min_eq_left hmore.le, if_pos hmore]
    · rw [Nat.min_eq_right (by omega), if_neg (Nat.lt_irrefl _), if_neg hmore]

end Index

/-! ## The search for stranded balances -/

section Search

variable {s : State} {limit : Nat}

/-- A call gets past some of the numbers that are left, has found what is stranded among them, and
resumes behind them. It gets past one at least unless its budget or its page is used up. -/
theorem scanRecoverable_spec (s : State) (limit left cursorId scanned : Nat)
    (found : List RecoverableSubscription) : ∃ passed,
      s.scanRecoverable limit left cursorId scanned found =
        ⟨found ++ (List.range' cursorId passed).filterMap s.recoverable,
          if passed < left then some (cursorId + passed) else none⟩ ∧
      passed ≤ left ∧ (scanned < maxScanDepth → found.length < limit → 0 < left → 0 < passed) := by
  induction left generalizing cursorId scanned found with
  | zero =>
    refine ⟨0, ?_, le_rfl, fun _ _ h => h⟩
    rw [List.range'_zero, List.filterMap_nil, List.append_nil]
    rfl
  | succ left ih =>
    have hstopped : (⟨found, some cursorId⟩ : RecoverableSubscriptionsPage) =
        ⟨found ++ (List.range' cursorId 0).filterMap s.recoverable,
          if 0 < left + 1 then some (cursorId + 0) else none⟩ := by
      rw [List.range'_zero, List.filterMap_nil, List.append_nil, if_pos (Nat.succ_pos left),
        Nat.add_zero]
    -- what holds of the rest holds with the number in front of it
    have hpassed (entries : List RecoverableSubscription)
        (hentries : entries = found ++ (s.recoverable cursorId).toList) :
        ∃ passed, s.scanRecoverable limit left (cursorId + 1) (scanned + 1) entries =
          ⟨found ++ (List.range' cursorId passed).filterMap s.recoverable,
            if passed < left + 1 then some (cursorId + passed) else none⟩ ∧
          passed ≤ left + 1 ∧ 0 < passed := by
      obtain ⟨passed, hscan, hle, -⟩ := ih (cursorId + 1) (scanned + 1) entries
      have hitems : entries ++ (List.range' (cursorId + 1) passed).filterMap s.recoverable =
          found ++ (List.range' cursorId (passed + 1)).filterMap s.recoverable := by
        rw [hentries, List.range'_succ, List.filterMap_cons, List.append_assoc]
        cases s.recoverable cursorId <;> rfl
      refine ⟨passed + 1, ?_, Nat.succ_le_succ hle, Nat.succ_pos _⟩
      rw [hscan, hitems, Nat.add_assoc, Nat.add_comm 1 passed]
      simp only [Nat.add_lt_add_iff_right]
    unfold State.scanRecoverable
    by_cases hbudget : maxScanDepth ≤ scanned
    · rw [if_pos hbudget]
      exact ⟨0, hstopped, Nat.zero_le _, fun h => absurd hbudget (Nat.not_le.mpr h)⟩
    · rw [if_neg hbudget]
      cases hentry : s.recoverable cursorId with
      | none =>
        obtain ⟨passed, hscan, hle, hpos⟩ := hpassed found (by rw [hentry]; simp)
        exact ⟨passed, hscan, hle, fun _ _ _ => hpos⟩
      | some entry =>
        dsimp only
        by_cases hroom : found.length < limit
        · obtain ⟨passed, hscan, hle, hpos⟩ := hpassed (found ++ [entry]) (by rw [hentry]; rfl)
          rw [if_pos hroom]
          exact ⟨passed, hscan, hle, fun _ _ _ => hpos⟩
        · rw [if_neg hroom]
          exact ⟨0, hstopped, Nat.zero_le _, fun _ h => absurd h hroom⟩

theorem recoverable_id {id : Nat} {entry : RecoverableSubscription}
    (h : s.recoverable id = some entry) : entry.subscriptionId = id := by
  obtain ⟨sub, -, hsub⟩ := Option.bind_eq_some_iff.mp h
  split at hsub
  · cases hsub
    rfl
  · cases hsub

/-- All that is stranded below the counter, in the order of the numbers. -/
def State.stranded (s : State) : List RecoverableSubscription :=
  (List.range s.nextSubscriptionId).filterMap s.recoverable

theorem mem_stranded {entry : RecoverableSubscription} :
    entry ∈ s.stranded ↔ s.recoverable entry.subscriptionId = some entry ∧
      entry.subscriptionId < s.nextSubscriptionId := by
  unfold State.stranded
  rw [List.mem_filterMap]
  constructor
  · rintro ⟨id, hid, hentry⟩
    rw [recoverable_id hentry]
    exact ⟨hentry, List.mem_range.mp hid⟩
  · rintro ⟨hentry, hid⟩
    exact ⟨_, List.mem_range.mpr hid, hentry⟩

theorem stranded_sorted (s : State) :
    s.stranded.Pairwise fun a b => a.subscriptionId < b.subscriptionId := by
  refine List.Pairwise.filterMap s.recoverable (fun id id' hlt entry hentry entry' hentry' => ?_)
    List.pairwise_lt_range
  rwa [recoverable_id hentry, recoverable_id hentry']

theorem listRecoverable_complete (s : State) (hlimit : 0 < limit ∧ limit ≤ maxQueryResults) :
    ∃ pages, Traversal (fun c p => s.listRecoverableSubscriptions c limit = .ok p)
      (·.nextCursor.map some) none pages ∧ pages.flatMap (·.subscriptions) = s.stranded := by
  have hstep (c : Option Nat) : ∃ p, PagedFrom
      (fun c p => s.listRecoverableSubscriptions c limit = .ok p) (·.nextCursor.map some)
      (·.subscriptions)
      (fun c : Option Nat => (List.range' (c.getD 0)
        (s.nextSubscriptionId - c.getD 0)).filterMap s.recoverable)
      (fun c => s.nextSubscriptionId - c.getD 0) c p := by
    by_cases hpast : s.nextSubscriptionId ≤ c.getD 0
    · have hpage : s.listRecoverableSubscriptions c limit = .ok ⟨[], none⟩ := by
        unfold State.listRecoverableSubscriptions
        rw [if_neg (by omega)]
        exact if_pos (.inr hpast)
      refine ⟨_, hpage, fun _ => ?_, nofun⟩
      rw [Nat.sub_eq_zero_of_le hpast]
      rfl
    · obtain ⟨passed, hscan, hle, hpos⟩ := scanRecoverable_spec s limit
        (s.nextSubscriptionId - c.getD 0) (c.getD 0) 0 []
      have hpage : s.listRecoverableSubscriptions c limit = .ok
          ⟨(List.range' (c.getD 0) passed).filterMap s.recoverable,
            if passed < s.nextSubscriptionId - c.getD 0 then some (c.getD 0 + passed)
            else none⟩ := by
        unfold State.listRecoverableSubscriptions
        rw [if_neg (by omega)]
        dsimp only
        rw [if_neg (by omega), hscan, List.nil_append]
      have hprogress := hpos (by decide) hlimit.1 (by omega)
      refine ⟨_, hpage, fun hlast => ?_, fun c' hnext => ?_⟩
      · have hall : ¬passed < s.nextSubscriptionId - c.getD 0 := by
          intro hlt
          rw [if_pos hlt] at hlast
          cases hlast
        rw [show passed = s.nextSubscriptionId - c.getD 0 by omega]
      · have hmore : passed < s.nextSubscriptionId - c.getD 0 := by
          by_contra hall
          rw [if_neg hall] at hnext
          cases hnext
        rw [if_pos hmore] at hnext
        cases hnext
        have hsplit : s.nextSubscriptionId - c.getD 0 =
            passed + (s.nextSubscriptionId - (c.getD 0 + passed)) := by omega
        refine ⟨?_, ?_⟩
        · rw [Option.getD_some, ← List.filterMap_append, List.range'_append_1, ← hsplit]
        · rw [Option.getD_some]
          omega
  obtain ⟨pages, htraversal, hcollected, -⟩ := Traversal.complete _ _
    (I := fun _ => True) (P := fun _ => True) (c := none)
    (fun c _ => (hstep c).imp fun _ hp => ⟨hp, trivial, fun _ _ => trivial⟩) trivial
  refine ⟨pages, htraversal, hcollected.trans ?_⟩
  rw [Option.getD_none, Nat.sub_zero, ← List.range_eq_range']
  rfl

end Search

/-! ## All pages -/

/-- Whoever follows the cursors to the end gets every indexed subscription that has a record, in
the order of the index, and every stranded balance once, in the order of the numbers. -/
structure State.ListingsComplete (s : State) : Prop where
  merchant : ∀ merchant limit reverse, 0 < limit ∧ limit ≤ maxSubscriptionListPage →
    (s.merchantSubs merchant).length ≤ maxMerchantCursorDepth →
    ∃ pages, Traversal
      (fun c p => s.getSubscriptionsByMerchantPaginated merchant c limit reverse = .ok p)
      (·.nextCursor.map some) none pages ∧
      pages.flatMap (·.subscriptions) =
        inOrder reverse ((s.merchantSubs merchant).filterMap s.subscription)
  token : ∀ token limit, 0 < limit ∧ limit ≤ maxSubscriptionListPage →
    (s.tokenSubs token).length ≤ u32Max →
    ∃ pages, Traversal (fun c p => s.listSubscriptionsByToken token c limit = .ok p)
      (·.nextCursor.map some) none pages ∧
      pages.flatMap (·.subscriptions) = (s.tokenSubs token).filterMap s.subscription
  recoverable : ∀ limit, 0 < limit ∧ limit ≤ maxQueryResults →
    ∃ pages, Traversal (fun c p => s.listRecoverableSubscriptions c limit = .ok p)
      (·.nextCursor.map some) none pages ∧
      ((pages.flatMap (·.subscriptions)).Pairwise fun a b => a.subscriptionId < b.subscriptionId) ∧
      ∀ entry, entry ∈ pages.flatMap (·.subscriptions) ↔
        s.recoverable entry.subscriptionId = some entry

section Complete

variable {s : State}

/-- The search is deterministic and ends at the counter. -/
theorem State.ListingsComplete.below (h : s.ListingsComplete) {id : Nat}
    {entry : RecoverableSubscription} (hentry : s.recoverable id = some entry) :
    id < s.nextSubscriptionId := by
  obtain ⟨pages, htraversal, -, hmem⟩ := h.recoverable 1 (by decide)
  obtain ⟨pages', htraversal', hcollected⟩ := listRecoverable_complete s
    (show 0 < 1 ∧ 1 ≤ maxQueryResults by decide)
  obtain rfl := htraversal.unique (fun _ _ _ hp hq => Except.ok.inj (hp.symm.trans hq)) htraversal'
  obtain rfl := recoverable_id hentry
  have hfound := (hmem entry).mpr hentry
  rw [hcollected] at hfound
  exact (mem_stranded.mp hfound).2

/-- The listings are complete in just the states whose stranded balances are all in subscriptions
below the counter. -/
theorem index_listings_complete_iff (s : State) : s.ListingsComplete ↔
    ∀ id entry, s.recoverable id = some entry → id < s.nextSubscriptionId := by
  refine ⟨fun h _ _ hentry => h.below hentry, fun hbelow => ⟨?_, ?_, ?_⟩⟩
  · intro merchant limit reverse hlimit hdepth
    have hpages : ∃ pages, Traversal
        (fun c p => s.getSubscriptionsByMerchantPaginated merchant c limit reverse = .ok p)
        (·.nextCursor.map some) none pages ∧
        pages.flatMap (·.subscriptions) =
          (inOrder reverse (s.merchantSubs merchant)).filterMap s.subscription ∧
        ∀ p ∈ pages, p.total = (s.merchantSubs merchant).length :=
      Traversal.of_slices s.subscription hlimit.1 fun cursor =>
        ⟨_, getSubscriptionsByMerchantPaginated_eq hlimit hdepth, rfl, by rw [length_inOrder], rfl⟩
    obtain ⟨pages, htraversal, hcollected, -⟩ := hpages
    rw [filterMap_inOrder] at hcollected
    exact ⟨pages, htraversal, hcollected⟩
  · intro token limit hlimit hbounded
    have hpages : ∃ pages, Traversal
        (fun c p => s.listSubscriptionsByToken token c limit = .ok p)
        (·.nextCursor.map some) none pages ∧
        pages.flatMap (·.subscriptions) = (s.tokenSubs token).filterMap s.subscription ∧
        ∀ p ∈ pages, p.total = (s.tokenSubs token).length :=
      Traversal.of_slices s.subscription hlimit.1 fun cursor =>
        ⟨_, listSubscriptionsByToken_eq hlimit hbounded, rfl, rfl, rfl⟩
    obtain ⟨pages, htraversal, hcollected, -⟩ := hpages
    exact ⟨pages, htraversal, hcollected⟩
  · intro limit hlimit
    obtain ⟨pages, htraversal, hcollected⟩ := listRecoverable_complete s hlimit
    refine ⟨pages, htraversal, ?_, fun entry => ?_⟩
    · rw [hcollected]
      exact stranded_sorted s
    · rw [hcollected, mem_stranded]
      exact and_iff_left_of_imp fun hentry => hbelow _ _ hentry

end Complete

/-- A cancelled subscription in a snapshot that still held 25. -/
private def strandedEntry : SubscriptionSummary where
  subscriptionId := 0
  subscriber := ⟨2⟩
  merchant := ⟨1⟩
  token := ⟨9⟩
  amount := 10
  intervalSeconds := 60
  lastPaymentTimestamp := 0
  status := .cancelled
  prepaidBalance := 25
  usageEnabled := false
  lifetimeCap := none
  lifetimeCharged := 30
  startTime := 0
  expiresAt := none
  expiresAtLedger := none

private def halted : State := (afterCalls (sampleVault 0)).writeConfig .emergencyStop true

private def restoreStranded : VaultCall := .restoreSnapshotPage ⟨8⟩ [strandedEntry] []

/-- A restored subscription is not below the counter, so its balance is not found. -/
theorem restored_balance_unlisted : ∃ hist s, Run Transacts (sampleStart 0) hist s ∧
    (s.recoverable 0).map (·.prepaidBalance) = some 25 ∧ ¬s.ListingsComplete := by
  have hrestore := run_eq_after (show restoreStranded.exec.succeeds (sampleEnv 1 [⟨8⟩]) halted =
    true by decide +kernel)
  have hstop : Transacts (.other (sampleEnv 1 [])) (afterCalls (sampleVault 0)) halted :=
    .other (State.agreeOff_writeConfig _ .emergencyStop true rfl rfl)
  have hbalance : ((restoreStranded.exec.after (sampleEnv 1 [⟨8⟩]) halted).recoverable 0).map
      (·.prepaidBalance) = some 25 := by decide +kernel
  refine ⟨_, _, ((sample_transacted 0).next hstop).next (.call hrestore), hbalance, fun h => ?_⟩
  obtain ⟨entry, hentry, -⟩ := Option.map_eq_some_iff.mp hbalance
  have hbelow := h.below hentry
  have hnext : (restoreStranded.exec.after (sampleEnv 1 [⟨8⟩]) halted).nextSubscriptionId = 0 := by
    decide +kernel
  rw [hnext] at hbelow
  exact Nat.not_lt_zero 0 hbelow

end SubscriptionVault
