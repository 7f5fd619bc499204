import SubscriptionVault.Accounts.Reports
import SubscriptionVault.Contract.Listings
import SubscriptionVault.Framework.Paging

/-!
# The prepaid total in pages

An auditor adds up the prepaid balances of a token page by page. A page ends at its start plus the
scan limit, which the caller chooses; the pages add up to the full total unless that sum stands
still or goes round.
-/

namespace SubscriptionVault

open Exec

/-! ## One balance -/

section Balance

variable {s : State} {token : Address}

/-- What a subscription adds to the prepaid total of a token, and to the count. -/
def State.prepaidIn (s : State) (token : Address) (id : Nat) : Int × Nat :=
  match s.subscription id with
  | some sub => if sub.token = token ∧ 0 < sub.prepaidBalance then (sub.prepaidBalance, 1) else 0
  | none => 0

def State.prepaidOver (s : State) (token : Address) (ids : List Nat) : Int × Nat :=
  (ids.map (s.prepaidIn token)).sum

theorem prepaidIn_bounds (s : State) (token : Address) (id : Nat) :
    0 ≤ (s.prepaidIn token id).1 ∧ (s.prepaidIn token id).2 ≤ 1 := by
  unfold State.prepaidIn
  split
  · split
    · rename_i hfunded
      exact ⟨hfunded.2.le, le_rfl⟩
    · exact ⟨le_rfl, Nat.zero_le _⟩
  · exact ⟨le_rfl, Nat.zero_le _⟩

theorem prepaidOver_cons (id : Nat) (ids : List Nat) :
    s.prepaidOver token (id :: ids) = s.prepaidIn token id + s.prepaidOver token ids := by
  unfold State.prepaidOver
  rw [List.map_cons, List.sum_cons]

theorem prepaidOver_append (ids ids' : List Nat) :
    s.prepaidOver token (ids ++ ids') = s.prepaidOver token ids + s.prepaidOver token ids' := by
  unfold State.prepaidOver
  rw [List.map_append, List.sum_append]

theorem prepaidOver_bounds (s : State) (token : Address) (ids : List Nat) :
    0 ≤ (s.prepaidOver token ids).1 ∧ (s.prepaidOver token ids).2 ≤ ids.length := by
  induction ids with
  | nil => exact ⟨le_rfl, le_rfl⟩
  | cons id ids ih =>
    have hid := prepaidIn_bounds s token id
    rw [prepaidOver_cons, List.length_cons, Prod.fst_add, Prod.snd_add]
    omega

/-- The loop adds without saturating as long as the total fits. -/
theorem foldl_addPrepaid {ids : List Nat} {found : Int × Nat} (hfound : 0 ≤ found.1)
    (htotal : found.1 + (s.prepaidOver token ids).1 ≤ 2 ^ 127 - 1)
    (hcount : found.2 + ids.length ≤ u32Max) :
    ids.foldl (s.addPrepaid token) found = found + s.prepaidOver token ids := by
  induction ids generalizing found with
  | nil => exact (add_zero found).symm
  | cons id ids ih =>
    have hid := prepaidIn_bounds s token id
    have hrest := prepaidOver_bounds s token ids
    rw [prepaidOver_cons, Prod.fst_add] at htotal
    rw [List.length_cons] at hcount
    have hstep : s.addPrepaid token found id = found + s.prepaidIn token id := by
      unfold State.addPrepaid
      unfold State.prepaidIn at hid htotal ⊢
      cases hsub : s.subscription id with
      | none => exact (add_zero found).symm
      | some sub =>
        rw [hsub] at hid htotal
        dsimp only at hid htotal ⊢
        by_cases hfunded : sub.token = token ∧ 0 < sub.prepaidBalance
        · rw [if_pos hfunded] at hid htotal ⊢
          rw [if_pos hfunded, clampI128_of_nonneg (by omega), min_eq_left (by omega)]
          unfold saturatingAddU32
          rw [min_eq_left (by omega)]
          rfl
        · rw [if_neg hfunded, if_neg hfunded]
          exact (add_zero found).symm
    rw [List.foldl_cons, hstep, ih, prepaidOver_cons, add_assoc]
    · rw [Prod.fst_add]
      omega
    · rw [Prod.fst_add]
      omega
    · rw [Prod.snd_add]
      omega

end Balance

/-! ## One page -/

/-- The balances of a token add up to an `i128`. -/
def State.PrepaidFits (s : State) (token : Address) : Prop :=
  (s.prepaidOver token (List.range s.nextSubscriptionId)).1 ≤ 2 ^ 127 - 1

section Page

variable {s : State} {token : Address} {scanLimit start : Nat}

theorem computeTotalPrepaidWithCount_eq_over (hfits : s.PrepaidFits token)
    (hcounter : s.nextSubscriptionId ≤ u32Max) :
    computeTotalPrepaidWithCount s token =
      s.prepaidOver token (List.range s.nextSubscriptionId) := by
  have hfold : (List.range s.nextSubscriptionId).foldl (s.addPrepaid token) (0, 0) = _ :=
    foldl_addPrepaid le_rfl (by rw [zero_add]; exact hfits) (by rwa [zero_add, List.length_range])
  exact hfold.trans (zero_add _)

/-- The balances from a number on are part of the total. -/
theorem prepaidOver_range' {count : Nat} (hfits : s.PrepaidFits token)
    (hwithin : start + count ≤ s.nextSubscriptionId) :
    (s.prepaidOver token (List.range' start count)).1 ≤ 2 ^ 127 - 1 := by
  have hsplit : List.range s.nextSubscriptionId = List.range start ++ (List.range' start count ++
      List.range' (start + count) (s.nextSubscriptionId - (start + count))) := by
    rw [List.range'_append_1, List.range_eq_range', List.range_eq_range']
    have hjoin := List.range'_append_1 (s := 0) (m := start)
      (n := count + (s.nextSubscriptionId - (start + count)))
    rw [zero_add] at hjoin
    rw [hjoin]
    congr 1
    omega
  unfold State.PrepaidFits at hfits
  rw [hsplit, prepaidOver_append, prepaidOver_append, Prod.fst_add, Prod.fst_add] at hfits
  have hbefore := (prepaidOver_bounds s token (List.range start)).1
  have hafter := (prepaidOver_bounds s token
    (List.range' (start + count) (s.nextSubscriptionId - (start + count)))).1
  omega

/-- Where a page ends: an unchecked sum, but not behind the counter. -/
def State.scanEnd (s : State) (scanLimit start : Nat) : Nat :=
  min ((start + min scanLimit maxPrepaidScanDepth) % 2 ^ 32) s.nextSubscriptionId

theorem queryPrepaidBalancesPaginated_eq (hfits : s.PrepaidFits token)
    (hcounter : s.nextSubscriptionId ≤ u32Max) (hstart : start < s.nextSubscriptionId) :
    s.queryPrepaidBalancesPaginated ⟨token, start, scanLimit⟩ =
      { token
        partialTotal := (s.prepaidOver token
          (List.range' start (s.scanEnd scanLimit start - start))).1
        subscriptionsCount := (s.prepaidOver token
          (List.range' start (s.scanEnd scanLimit start - start))).2
        nextStartId := if s.scanEnd scanLimit start < s.nextSubscriptionId then
          some (s.scanEnd scanLimit start) else none
        hasMore := s.scanEnd scanLimit start < s.nextSubscriptionId } := by
  have hend : s.scanEnd scanLimit start ≤ s.nextSubscriptionId := Nat.min_le_right _ _
  have hpart : (s.prepaidOver token
      (List.range' start (s.scanEnd scanLimit start - start))).1 ≤ 2 ^ 127 - 1 := by
    by_cases hgoes : start ≤ s.scanEnd scanLimit start
    · exact prepaidOver_range' hfits (by omega)
    · rw [Nat.sub_eq_zero_of_le (by omega)]
      exact show (0 : Int) ≤ 2 ^ 127 - 1 by norm_num
  have hfold : (List.range' start (s.scanEnd scanLimit start - start)).foldl
      (s.addPrepaid token) (0, 0) = _ :=
    foldl_addPrepaid le_rfl (by rwa [zero_add]) (by rw [zero_add, List.length_range']; omega)
  rw [show ((0, 0) : Int × Nat) = 0 from rfl, zero_add] at hfold
  unfold State.scanEnd at hfold
  unfold State.queryPrepaidBalancesPaginated State.scanEnd
  dsimp only
  rw [if_neg (by omega), show ((0, 0) : Int × Nat) = 0 from rfl, hfold]

end Page

/-! ## All pages -/

/-- Where the next call starts. -/
def PrepaidQueryResult.following (p : PrepaidQueryResult) : Option Nat :=
  if p.hasMore then p.nextStartId else none

/-- Whoever starts at 0 and goes on while there is more gets to the end, and the pages add up to
the full total and count. -/
def State.PagesAddUp (s : State) (token : Address) (scanLimit : Nat) : Prop :=
  ∃ pages, Traversal
    (fun start p => s.queryPrepaidBalancesPaginated ⟨token, start, scanLimit⟩ = p)
    PrepaidQueryResult.following 0 pages ∧
    (pages.map fun p => (p.partialTotal, p.subscriptionsCount)).sum =
      computeTotalPrepaidWithCount s token

section Pages

variable {s : State} {token : Address} {scanLimit start : Nat}

/-- The next call starts at the end of the page, if that is not the end. -/
theorem following_eq (hfits : s.PrepaidFits token) (hcounter : s.nextSubscriptionId ≤ u32Max)
    (hstart : start < s.nextSubscriptionId) :
    (s.queryPrepaidBalancesPaginated ⟨token, start, scanLimit⟩).following =
      if s.scanEnd scanLimit start < s.nextSubscriptionId then some (s.scanEnd scanLimit start)
      else none := by
  rw [queryPrepaidBalancesPaginated_eq hfits hcounter hstart]
  unfold PrepaidQueryResult.following
  dsimp only
  by_cases hmore : s.scanEnd scanLimit start < s.nextSubscriptionId
  · rw [if_pos (decide_eq_true hmore)]
  · rw [if_neg hmore, ite_self]

/-- Where no page end goes round, every page starts where the one before ended. -/
theorem pagesAddUp_of_fits (hfits : s.PrepaidFits token) (hcounter : s.nextSubscriptionId ≤ u32Max)
    (hpos : 0 < s.nextSubscriptionId) (hstep : 0 < min scanLimit maxPrepaidScanDepth)
    (hfit : (s.nextSubscriptionId - 1) / min scanLimit maxPrepaidScanDepth *
      min scanLimit maxPrepaidScanDepth + min scanLimit maxPrepaidScanDepth ≤ u32Max) :
    s.PagesAddUp token scanLimit := by
  generalize hsize : min scanLimit maxPrepaidScanDepth = size at hstep hfit
  have hend (start : Nat) (hplace : ∃ j, start = j * size) (hstart : start < s.nextSubscriptionId) :
      s.scanEnd scanLimit start = min (start + size) s.nextSubscriptionId := by
    obtain ⟨j, rfl⟩ := hplace
    have hj : j ≤ (s.nextSubscriptionId - 1) / size :=
      (Nat.le_div_iff_mul_le hstep).mpr (by omega)
    have hlast : j * size ≤ (s.nextSubscriptionId - 1) / size * size :=
      Nat.mul_le_mul_right size hj
    unfold State.scanEnd
    unfold u32Max at hfit
    rw [hsize, Nat.mod_eq_of_lt (by omega)]
  have hnext (start : Nat) (h : (∃ j, start = j * size) ∧ start < s.nextSubscriptionId) (c : Nat)
      (hc : (s.queryPrepaidBalancesPaginated ⟨token, start, scanLimit⟩).following = some c) :
      ((∃ j, c = j * size) ∧ c < s.nextSubscriptionId) ∧ c = start + size ∧
        s.scanEnd scanLimit start = c := by
    rw [following_eq hfits hcounter h.2] at hc
    obtain ⟨hmore, hc⟩ := Option.ite_none_right_eq_some.mp hc
    obtain rfl := Option.some.inj hc
    have hsum := hend start h.1 h.2
    obtain ⟨j, hj⟩ := h.1
    have heq : s.scanEnd scanLimit start = start + size := by omega
    exact ⟨⟨⟨j + 1, by rw [heq, hj, Nat.succ_mul]⟩, hmore⟩, heq, rfl⟩
  have hzero : (∃ j, 0 = j * size) ∧ 0 < s.nextSubscriptionId := ⟨⟨0, (Nat.zero_mul _).symm⟩, hpos⟩
  have hends : ∃ pages, Traversal
      (fun start p => s.queryPrepaidBalancesPaginated ⟨token, start, scanLimit⟩ = p)
      PrepaidQueryResult.following 0 pages :=
    Traversal.ends (fun c => s.nextSubscriptionId - c)
      (fun start h => ⟨_, rfl, fun c hc => by
        obtain ⟨hplace, heq, -⟩ := hnext start h c hc
        exact ⟨hplace, by omega⟩⟩) hzero
  obtain ⟨pages, htraversal⟩ := hends
  refine ⟨pages, htraversal, ?_⟩
  rw [computeTotalPrepaidWithCount_eq_over hfits hcounter, List.range_eq_range']
  refine Traversal.sum_eq (I := fun start => (∃ j, start = j * size) ∧ start < s.nextSubscriptionId)
    (g := fun c => s.prepaidOver token (List.range' c (s.nextSubscriptionId - c))) ?_ ?_
    htraversal hzero
  · intro start p h hgiven hlast
    obtain rfl : _ = p := hgiven
    rw [following_eq hfits hcounter h.2] at hlast
    have hall : s.scanEnd scanLimit start = s.nextSubscriptionId := by
      refine le_antisymm (Nat.min_le_right _ _) (not_lt.mp fun hmore => ?_)
      rw [if_pos hmore] at hlast
      cases hlast
    rw [queryPrepaidBalancesPaginated_eq hfits hcounter h.2, hall]
  · intro start c p h hgiven hc
    obtain rfl : _ = p := hgiven
    obtain ⟨hplace, heq, hscan⟩ := hnext start h c hc
    refine ⟨?_, hplace⟩
    rw [queryPrepaidBalancesPaginated_eq hfits hcounter h.2, hscan]
    dsimp only
    have hjoin := List.range'_append_1 (s := start) (m := size) (n := s.nextSubscriptionId - c)
    rw [heq, Nat.add_sub_cancel_left]
    rw [← heq, show size + (s.nextSubscriptionId - c) = s.nextSubscriptionId - start by omega]
      at hjoin
    rw [← hjoin, heq]
    exact (prepaidOver_append _ _).symm

/-- With the scan limit 0 the calls stay at the first number. -/
theorem not_pagesAddUp_zero (hpos : 0 < s.nextSubscriptionId) : ¬s.PagesAddUp token 0 := by
  have hstays : (s.queryPrepaidBalancesPaginated ⟨token, 0, 0⟩).following = some 0 := by
    have hbegun : ¬(s.nextSubscriptionId = 0 ∨ s.nextSubscriptionId ≤ 0) := by omega
    have hend : min ((0 + min 0 maxPrepaidScanDepth) % 2 ^ 32) s.nextSubscriptionId = 0 := by
      rw [Nat.zero_min, Nat.add_zero, Nat.zero_mod, Nat.zero_min]
    unfold State.queryPrepaidBalancesPaginated PrepaidQueryResult.following
    dsimp only
    rw [if_neg hbegun, hend]
    dsimp only
    rw [if_pos (decide_eq_true hpos), if_pos hpos]
  have hendless (start : Nat) (hstart : start = 0) (pages : List PrepaidQueryResult)
      (h : Traversal (fun start p => s.queryPrepaidBalancesPaginated ⟨token, start, 0⟩ = p)
        PrepaidQueryResult.following start pages) : False := by
    induction h with
    | last hgiven hlast =>
      subst hstart
      rw [← hgiven, hstays] at hlast
      cases hlast
    | more hgiven hnext _ ih =>
      subst hstart
      rw [← hgiven, hstays] at hnext
      exact ih (Option.some.inj hnext).symm
  rintro ⟨pages, htraversal, -⟩
  exact hendless 0 rfl pages htraversal

/-! ### Going round -/

/-- The page before the one that goes round is followed by one in the middle of the first page:
what is there is added twice. -/
theorem total_of_round {size : Nat} {pages : List PrepaidQueryResult}
    (hfits : s.PrepaidFits token) (hcounter : s.nextSubscriptionId ≤ u32Max)
    (hsize : min scanLimit maxPrepaidScanDepth = size) (hstep : 0 < size) {last : Nat}
    (hlast : last * size < s.nextSubscriptionId) (hround : 2 ^ 32 ≤ last * size + size)
    (h : Traversal (fun start p => s.queryPrepaidBalancesPaginated ⟨token, start, scanLimit⟩ = p)
      PrepaidQueryResult.following start pages) {j : Nat} (hstart : start = j * size)
    (hj : j ≤ last) :
    ∃ pages', Traversal
      (fun start p => s.queryPrepaidBalancesPaginated ⟨token, start, scanLimit⟩ = p)
      PrepaidQueryResult.following (last * size + size - 2 ^ 32) pages' ∧
      (pages.map (·.partialTotal)).sum =
        (s.prepaidOver token (List.range' start (last * size - start))).1 +
          (pages'.map (·.partialTotal)).sum := by
  have hnext (start : Nat) (hstart : start < s.nextSubscriptionId) (p : PrepaidQueryResult)
      (hgiven : s.queryPrepaidBalancesPaginated ⟨token, start, scanLimit⟩ = p)
      (hend : s.scanEnd scanLimit start < s.nextSubscriptionId) :
      p.following = some (s.scanEnd scanLimit start) ∧ p.partialTotal =
        (s.prepaidOver token (List.range' start (s.scanEnd scanLimit start - start))).1 := by
    subst hgiven
    refine ⟨?_, ?_⟩
    · rw [following_eq hfits hcounter hstart, if_pos hend]
    · rw [queryPrepaidBalancesPaginated_eq hfits hcounter hstart]
  have hends (j : Nat) (hj : j < last) :
      s.scanEnd scanLimit (j * size) = (j + 1) * size ∧ (j + 1) * size ≤ last * size := by
    have hle : (j + 1) * size ≤ last * size := Nat.mul_le_mul_right size hj
    unfold u32Max at hcounter
    refine ⟨?_, hle⟩
    rw [Nat.succ_mul] at hle ⊢
    unfold State.scanEnd
    rw [hsize, Nat.mod_eq_of_lt (by omega), min_eq_left (by omega)]
  have hwraps : s.scanEnd scanLimit (last * size) = last * size + size - 2 ^ 32 ∧
      last * size + size - 2 ^ 32 < last * size := by
    have hsmall : size ≤ 500 := hsize ▸ Nat.min_le_right _ _
    unfold u32Max at hcounter
    have hrest : (last * size + size) % 2 ^ 32 = last * size + size - 2 ^ 32 := by
      rw [Nat.mod_eq_sub_mod hround, Nat.mod_eq_of_lt (by omega)]
    unfold State.scanEnd
    rw [hsize, hrest]
    exact ⟨min_eq_left (by omega), by omega⟩
  induction h generalizing j with
  | last hgiven hlastPage =>
    subst hstart
    exfalso
    have hless : s.scanEnd scanLimit (j * size) < s.nextSubscriptionId := by
      rcases Nat.lt_or_eq_of_le hj with hj | rfl
      · have := hends j hj
        omega
      · omega
    have hmul : j * size ≤ last * size := Nat.mul_le_mul_right size hj
    rw [(hnext _ (by omega) _ hgiven hless).1] at hlastPage
    cases hlastPage
  | @more _ c' p pages hgiven hcursor hrest ih =>
    subst hstart
    have hmul : j * size ≤ last * size := Nat.mul_le_mul_right size hj
    rcases Nat.lt_or_eq_of_le hj with hj | rfl
    · obtain ⟨hend, hle⟩ := hends j hj
      obtain ⟨hfollowing, hpart⟩ := hnext _ (by omega) _ hgiven (by omega)
      rw [hfollowing, hend] at hcursor
      obtain ⟨pages', htraversal', hsum⟩ := ih (Option.some.inj hcursor).symm hj
      refine ⟨pages', htraversal', ?_⟩
      have hjoin := List.range'_append_1 (s := j * size) (m := size)
        (n := last * size - (j + 1) * size)
      rw [← Nat.succ_mul, show size + (last * size - (j + 1) * size) = last * size - j * size by
        rw [Nat.succ_mul] at hle ⊢; omega] at hjoin
      rw [List.map_cons, List.sum_cons, hsum, hpart, hend, ← hjoin, prepaidOver_append,
        Prod.fst_add, ← Option.some.inj hcursor,
        show (j + 1) * size - j * size = size by rw [Nat.succ_mul]; omega, add_assoc]
    · obtain ⟨hend, hless⟩ := hwraps
      obtain ⟨hfollowing, hpart⟩ := hnext _ hlast _ hgiven (by omega)
      rw [hfollowing, hend] at hcursor
      obtain rfl := Option.some.inj hcursor
      refine ⟨pages, hrest, ?_⟩
      rw [List.map_cons, List.sum_cons, hpart, hend, Nat.sub_eq_zero_of_le hless.le,
        Nat.sub_self]

theorem partialTotal_nonneg (hfits : s.PrepaidFits token)
    (hcounter : s.nextSubscriptionId ≤ u32Max) (start : Nat) :
    0 ≤ (s.queryPrepaidBalancesPaginated ⟨token, start, scanLimit⟩).partialTotal := by
  by_cases hstart : start < s.nextSubscriptionId
  · rw [queryPrepaidBalancesPaginated_eq hfits hcounter hstart]
    exact (prepaidOver_bounds s token _).1
  · unfold State.queryPrepaidBalancesPaginated
    dsimp only
    rw [if_pos (.inr (by omega))]

end Pages

/-- A subscription with a balance of 1. -/
private def fundedSummary : SubscriptionSummary where
  subscriptionId := 0
  subscriber := ⟨2⟩
  merchant := ⟨1⟩
  token := ⟨9⟩
  amount := 10
  intervalSeconds := 60
  lastPaymentTimestamp := 0
  status := .active
  prepaidBalance := 1
  usageEnabled := false
  lifetimeCap := none
  lifetimeCharged := 0
  startTime := 0
  expiresAt := none
  expiresAtLedger := none

/-- A state with as many numbers given out and one subscription that holds money. -/
private def oneFunded (next id : Nat) : State :=
  FiniteStore.write (FiniteStore.write FiniteStore.empty (.persistent .nextId) next)
    (.persistent (.sub id)) fundedSummary.record

section OneFunded

variable {next id : Nat}

private theorem oneFunded_next (next id : Nat) : (oneFunded next id).nextSubscriptionId = next := by
  have hread : (oneFunded next id).read (.persistent .nextId) = some next := by
    unfold oneFunded
    rw [FiniteStore.read_write_of_ne _ _ (by simp), FiniteStore.read_write_self]
  unfold State.nextSubscriptionId State.config
  rw [hread]
  rfl

private theorem oneFunded_prepaidIn (j : Nat) :
    (oneFunded next id).prepaidIn ⟨9⟩ j = if j = id then (1, 1) else 0 := by
  unfold State.prepaidIn State.subscription oneFunded
  by_cases hj : j = id
  · subst hj
    rw [FiniteStore.read_write_self, if_pos rfl]
    rfl
  · rw [FiniteStore.read_write_of_ne _ _ (by simpa using hj),
      FiniteStore.read_write_of_ne _ _ (by simp), FiniteStore.read_empty, if_neg hj]

private theorem oneFunded_over {ids : List Nat} (hnodup : ids.Nodup) :
    (oneFunded next id).prepaidOver ⟨9⟩ ids = if id ∈ ids then (1, 1) else 0 := by
  induction ids with
  | nil => rfl
  | cons j ids ih =>
    obtain ⟨hfresh, hrest⟩ := List.nodup_cons.mp hnodup
    rw [prepaidOver_cons, ih hrest, oneFunded_prepaidIn]
    by_cases hj : j = id
    · subst hj
      rw [if_pos rfl, if_neg hfresh, if_pos List.mem_cons_self]
      rfl
    · rw [if_neg hj, zero_add]
      simp only [List.mem_cons, Ne.symm hj, false_or]

private theorem oneFunded_fits (next id : Nat) : (oneFunded next id).PrepaidFits ⟨9⟩ := by
  unfold State.PrepaidFits
  rw [oneFunded_over List.nodup_range]
  split <;> norm_num

/-- The money at the number where the search goes on after going round is added twice. -/
private theorem oneFunded_not_pagesAddUp {scanLimit size last : Nat} (hnext : next ≤ u32Max)
    (hsize : min scanLimit maxPrepaidScanDepth = size) (hstep : 0 < size)
    (hlast : last * size < next) (hround : 2 ^ 32 ≤ last * size + size)
    (hid : last * size + size - 2 ^ 32 = id) : ¬(oneFunded next id).PagesAddUp ⟨9⟩ scanLimit := by
  rintro ⟨pages, htraversal, hsum⟩
  have hsmall : size ≤ 500 := hsize ▸ Nat.min_le_right _ _
  have hcounter := oneFunded_next next id
  have hfits := oneFunded_fits next id
  have hbounded : (oneFunded next id).nextSubscriptionId ≤ u32Max := by rwa [hcounter]
  unfold u32Max at hnext
  rw [computeTotalPrepaidWithCount_eq_over hfits hbounded, oneFunded_over List.nodup_range,
    hcounter, if_pos (List.mem_range.mpr (by omega))] at hsum
  have htotal : (pages.map (·.partialTotal)).sum = 1 := by
    have hfirst := congrArg (AddMonoidHom.fst Int Nat) hsum
    rwa [map_list_sum, List.map_map] at hfirst
  obtain ⟨pages', htraversal', hsplit⟩ := total_of_round hfits hbounded hsize hstep
    (hcounter.symm ▸ hlast) hround htraversal (j := 0) (Nat.zero_mul size).symm (Nat.zero_le _)
  rw [hid] at htraversal'
  rw [htotal, oneFunded_over List.nodup_range', if_pos (List.mem_range'_1.mpr (by omega))] at hsplit
  have hpage (start : Nat) (p : PrepaidQueryResult)
      (hgiven : (oneFunded next id).queryPrepaidBalancesPaginated ⟨⟨9⟩, start, scanLimit⟩ = p) :
      0 ≤ p.partialTotal := hgiven ▸ partialTotal_nonneg hfits hbounded start
  have hagain : ((oneFunded next id).queryPrepaidBalancesPaginated
      ⟨⟨9⟩, id, scanLimit⟩).partialTotal = 1 := by
    have hend : id < (oneFunded next id).scanEnd scanLimit id := by
      unfold State.scanEnd
      rw [hsize, hcounter, Nat.mod_eq_of_lt (by omega)]
      omega
    rw [queryPrepaidBalancesPaginated_eq hfits hbounded (hcounter.symm ▸ by omega)]
    dsimp only
    rw [oneFunded_over List.nodup_range', if_pos (List.mem_range'_1.mpr (by omega))]
  have hrest {pages : List PrepaidQueryResult} (h : ∀ p ∈ pages, 0 ≤ p.partialTotal) :
      0 ≤ (pages.map (·.partialTotal)).sum := by
    refine List.sum_nonneg fun x hx => ?_
    obtain ⟨p, hp, rfl⟩ := List.mem_map.mp hx
    exact h p hp
  cases htraversal' with
  | last hgiven _ =>
    rw [List.map_singleton, List.sum_singleton, ← hgiven, hagain] at hsplit
    exact absurd hsplit (by decide)
  | more hgiven _ hmore =>
    have hnonneg := hrest (hmore.forall_pages hpage)
    rw [List.map_cons, List.sum_cons, ← hgiven, hagain] at hsplit
    dsimp only at hsplit
    omega

end OneFunded

private def onePrepaid : List VaultAction :=
  [.call (sampleEnv 0 [⟨2⟩]) (.createSubscription sampleRequest)]

end SubscriptionVault
