import SubscriptionVault.Lifecycle.OneRecord

/-!
# Places of a subscriber

A subscriber has a limited number of places. A subscription takes one while it is active, in its
grace period or behind with its payments, and a counter is kept of the places taken. What billing
does by itself leaves the counter alone: a subscription that a charge marks as expired, cancels or
pauses keeps its place.
-/

namespace SubscriptionVault

open Exec

/-! ## Counting -/

/-- What the subscription adds to the places `subscriber` has taken. -/
def Subscription.placeFor (sub : Subscription) (subscriber : Address) : Nat :=
  if sub.subscriber = subscriber ∧ sub.status.countsTowardActiveCap = true then 1 else 0

def Book.placeAt (b : Book) (subscriber : Address) (id : Nat) : Nat :=
  (b.record id).elim 0 (·.placeFor subscriber)

def Book.places (b : Book) (subscriber : Address) : Nat :=
  ∑ id ∈ Finset.range b.nextId, b.placeAt subscriber id

/-- The subscriptions of the subscriber that are active, in grace or underfunded. -/
def State.liveSubscriptions (s : State) (subscriber : Address) : Set Nat :=
  {id | ∃ sub, s.subscription id = some sub ∧ sub.subscriber = subscriber ∧
    sub.status.countsTowardActiveCap = true}

section Counting

variable {b b' : Book} {id : Nat} {sub new : Subscription} {a : Address}

/-- A sum after one of its terms has changed. -/
theorem sum_update_add {s : Finset Nat} {i : Nat} (hi : i ∈ s) (f : Nat → Nat) (v : Nat) :
    ∑ j ∈ s, Function.update f i v j + f i = ∑ j ∈ s, f j + v := by
  rw [Finset.sum_update_of_mem hi, ← Finset.add_sum_erase s f hi, Finset.sdiff_singleton_eq_erase]
  omega

theorem Subscription.placeFor_le (sub : Subscription) (a : Address) : sub.placeFor a ≤ 1 := by
  unfold Subscription.placeFor
  split
  · exact le_rfl
  · exact Nat.zero_le 1

theorem Subscription.placeFor_of_counts (hcounts : sub.status.countsTowardActiveCap = true) :
    sub.placeFor a = if sub.subscriber = a then 1 else 0 := by
  simp [Subscription.placeFor, hcounts]

theorem Subscription.placeFor_of_not_counts (hother : sub.status.countsTowardActiveCap = false) :
    sub.placeFor a = 0 := by
  simp [Subscription.placeFor, hother]

theorem Subscription.placeFor_congr (hsubscriber : new.subscriber = sub.subscriber)
    (hstatus : new.status.countsTowardActiveCap = sub.status.countsTowardActiveCap) :
    new.placeFor a = sub.placeFor a := by
  rw [Subscription.placeFor, Subscription.placeFor, hsubscriber, hstatus]

/-- A grace period that has run out takes a place like one that has not. -/
theorem Book.Reads.placeAt (h : b.Reads id sub) (a : Address) :
    b.placeAt a id = sub.placeFor a := by
  obtain ⟨stored, hstored, rfl | ⟨hgrace, rfl⟩⟩ := h
  · rw [Book.placeAt, hstored, Option.elim_some]
  · rw [Book.placeAt, hstored, Option.elim_some]
    exact Subscription.placeFor_congr rfl (by rw [hgrace]; rfl)

theorem Book.placeAt_setRecord (b : Book) (a : Address) (id : Nat) (new : Subscription) :
    (b.setRecord id new).placeAt a = Function.update (b.placeAt a) id (new.placeFor a) := by
  funext j
  by_cases hj : j = id
  · subst hj
    simp [Book.placeAt, Book.setRecord]
  · simp [Book.placeAt, Book.setRecord, hj]

theorem Book.places_congr (hnext : b'.nextId = b.nextId) (hrecord : b'.record = b.record)
    (a : Address) : b'.places a = b.places a := by
  simp [Book.places, Book.placeAt, hnext, hrecord]

theorem Book.places_le (b : Book) (a : Address) : b.places a ≤ b.nextId := by
  have hone (id : Nat) : b.placeAt a id ≤ 1 := by
    unfold Book.placeAt
    cases b.record id with
    | none => exact Nat.zero_le 1
    | some sub => exact sub.placeFor_le a
  have hsum := Finset.sum_le_card_nsmul (Finset.range b.nextId) (b.placeAt a) 1 fun id _ => hone id
  unfold Book.places
  simpa using hsum

theorem Book.placeAt_le_places {b : Book} (hid : id < b.nextId) (a : Address) :
    b.placeAt a id ≤ b.places a :=
  Finset.single_le_sum (fun _ _ => Nat.zero_le _) (Finset.mem_range.mpr hid)

/-- A record that changes gives up its old place and takes a new one. -/
theorem Book.places_setRecord (h : b.Numbered) (hreads : b.Reads id sub) (new : Subscription)
    (a : Address) : (b.setRecord id new).places a + sub.placeFor a = b.places a + new.placeFor a := by
  have hmem : id ∈ Finset.range b.nextId := Finset.mem_range.mpr (h.lt_of_reads hreads)
  have hsum := sum_update_add hmem (b.placeAt a) (new.placeFor a)
  rw [hreads.placeAt a] at hsum
  unfold Book.places
  rw [Book.placeAt_setRecord]
  exact hsum

theorem Book.activeCount_countUp (b : Book) (subscriber a : Address) :
    (b.countUp subscriber).activeCount a =
      if subscriber = a then saturatingAddU32 (b.activeCount a) 1 else b.activeCount a := by
  by_cases h : subscriber = a
  · subst h
    simp [Book.countUp, Book.setActiveCount]
  · simp [Book.countUp, Book.setActiveCount, h, Ne.symm h]

theorem Book.activeCount_countDown (b : Book) (subscriber a : Address) :
    (b.countDown subscriber).activeCount a =
      if subscriber = a then b.activeCount a - 1 else b.activeCount a := by
  by_cases h : subscriber = a
  · subst h
    simp [Book.countDown, Book.setActiveCount]
  · simp [Book.countDown, Book.setActiveCount, h, Ne.symm h]

end Counting

/-! ## Steps -/

/-- A subscription is charged. -/
def Operation.isBilling : Operation → Bool
  | .charge _ | .chargeUsage _ _ => true
  | _ => false

/-- How many subscriptions of the subscriber the charges of the run have taken out of the statuses
that take a place. -/
def placesKept (a : Address) : History VaultAction State → State → Nat
  | [], _ => 0
  | (l, s) :: earlier, t => placesKept a earlier s +
      if l.operation.isBilling then s.book.places a - t.book.places a else 0

/-- No subscription is cancelled while it is behind with its payments, or goes to the archive
without having been marked as expired. -/
def Operation.CountsExits (s : State) : Operation → Prop
  | .cancel id => ∀ sub, s.subscription id = some sub →
      sub.status ≠ .gracePeriod ∧ sub.status ≠ .insufficientBalance
  | .archive id => ∀ sub, s.subscription id = some sub →
      sub.status.countsTowardActiveCap = false
  | .restore _ => False
  | _ => True

/-- The counter is right, up to `kept` places of subscriptions that no longer take one. -/
def Book.Balanced (b : Book) (a : Address) (kept : Nat) : Prop :=
  b.nextId + kept ≤ u32Max → b.activeCount a = b.places a + kept

section Steps

variable {env : Env} {s : State} {b b' : Book} {id kept : Nat} {sub new : Subscription}
  {a : Address}

theorem Book.Balanced.congr (h : b.Balanced a kept) (hnext : b'.nextId = b.nextId)
    (hcount : b'.activeCount a = b.activeCount a) (hplaces : b'.places a = b.places a) :
    b'.Balanced a kept := by
  unfold Book.Balanced
  rw [hnext, hcount, hplaces]
  exact h

/-- One record changes, and the counter moves with its place. -/
theorem Book.Balanced.of_record (h : b.Balanced a kept) (hnumbered : b.Numbered)
    (hreads : b.Reads id sub) (new : Subscription) (hnext : b'.nextId = b.nextId)
    (hrecord : b'.record = (b.setRecord id new).record)
    (hmoves : sub.placeFor a ≤ b.activeCount a →
      b.activeCount a + new.placeFor a ≤ u32Max + sub.placeFor a →
      b'.activeCount a + sub.placeFor a = b.activeCount a + new.placeFor a) :
    b'.Balanced a kept := by
  intro hfits
  rw [hnext] at hfits
  have hcount := h hfits
  have hplaces : b'.places a = (b.setRecord id new).places a :=
    Book.places_congr (b := b.setRecord id new) hnext hrecord a
  have hmoved := Book.places_setRecord hnumbered hreads new a
  have hold := Book.placeAt_le_places (hnumbered.lt_of_reads hreads) a
  have hall := b'.places_le a
  rw [hreads.placeAt a] at hold
  rw [hnext] at hall
  have hnew := hmoves (by omega) (by omega)
  omega

/-- A charge leaves the counter alone, and no subscription gains a place by it. -/
theorem Book.Balanced.of_billing (h : b.Balanced a kept) (hnumbered : b.Numbered)
    (hreads : b.Reads id sub) (hnext : b'.nextId = b.nextId)
    (hrecord : b'.record = (b.setRecord id new).record)
    (hcount : b'.activeCount a = b.activeCount a) (hplace : new.placeFor a ≤ sub.placeFor a) :
    b'.Balanced a (kept + (b.places a - b'.places a)) := by
  intro hfits
  rw [hnext] at hfits
  have hbalanced := h (by omega)
  have hplaces : b'.places a = (b.setRecord id new).places a :=
    Book.places_congr (b := b.setRecord id new) hnext hrecord a
  have hmoved := Book.places_setRecord hnumbered hreads new a
  omega

theorem Subscription.placeFor_le_of_counts (hsubscriber : new.subscriber = sub.subscriber)
    (hcounts : sub.status.countsTowardActiveCap = true) : new.placeFor a ≤ sub.placeFor a := by
  rw [Subscription.placeFor_of_counts hcounts, Subscription.placeFor, hsubscriber]
  split
  · rename_i htakes
    rw [if_pos htakes.1]
  · exact Nat.zero_le _

theorem Subscription.isChargeable.counts (h : sub.isChargeable) :
    sub.status.countsTowardActiveCap = true := by
  rcases h with h | h | h <;> rw [h] <;> rfl

theorem CreatesRecord.balanced (h : CreatesRecord env s.book b') (hnumbered : s.book.Numbered)
    (hbalanced : s.book.Balanced a kept) : b'.Balanced a kept := by
  have hnext := h.nextId hnumbered.current
  obtain ⟨sub, hactive, -, -, -, -, hbook, -⟩ := h
  intro hfits
  rw [hnext] at hfits
  have hbefore := hbalanced (by omega)
  have hbound := s.book.places_le a
  have hcounts : sub.status.countsTowardActiveCap = true := by
    rw [hactive]
    rfl
  have hplace := Subscription.placeFor_of_counts hcounts (a := a)
  have hplaceAt : b'.placeAt a = (s.book.setRecord s.book.nextId sub).placeAt a := by
    rw [hbook]
    rfl
  have hplaces : b'.places a = s.book.places a + sub.placeFor a := by
    unfold Book.places
    rw [hnext, Finset.sum_range_succ, hplaceAt, Book.placeAt_setRecord,
      Finset.sum_update_of_notMem Finset.notMem_range_self, Function.update_self]
  have hcount : b'.activeCount a =
      if sub.subscriber = a then saturatingAddU32 (s.book.activeCount a) 1
      else s.book.activeCount a := by
    rw [hbook]
    exact Book.activeCount_countUp _ _ _
  rw [hcount, hplaces, hplace]
  split
  · rw [saturatingAddU32, Nat.min_eq_left (by omega), hbefore]
    exact Nat.add_right_comm _ _ _
  · exact hbefore

theorem EditsRecord.balanced (h : EditsRecord b id b') (hnumbered : b.Numbered)
    (hbalanced : b.Balanced a kept) : b'.Balanced a kept := by
  obtain ⟨sub, new, hreads, hnew, rfl⟩ := h
  have hplace : new.placeFor a = sub.placeFor a := by
    rw [hnew]
    rfl
  refine hbalanced.of_record hnumbered hreads _ rfl rfl fun _ _ => ?_
  rw [hplace]
  rfl

theorem RevivesRecord.balanced (h : RevivesRecord b id b') (hnumbered : b.Numbered)
    (hbalanced : b.Balanced a kept) : b'.Balanced a kept := by
  obtain ⟨sub, new, hreads, hbehind, hnew, rfl⟩ := h
  have hplace : new.placeFor a = sub.placeFor a := by
    refine Subscription.placeFor_congr (by rw [hnew]) ?_
    rw [hnew]
    rcases hbehind with hstatus | hstatus <;> rw [hstatus] <;> rfl
  refine hbalanced.of_record hnumbered hreads _ rfl rfl fun _ _ => ?_
  rw [hplace]
  rfl

theorem PausesRecord.balanced (h : PausesRecord b id b') (hnumbered : b.Numbered)
    (hbalanced : b.Balanced a kept) : b'.Balanced a kept := by
  obtain ⟨sub, hreads, hother, hcan, rfl⟩ := h
  have hcounts : sub.status.countsTowardActiveCap = true := by
    cases hstatus : sub.status <;> rw [hstatus] at hother hcan <;>
      simp_all [canTransition, SubscriptionStatus.countsTowardActiveCap]
  have hpaused : ({ sub with status := .paused } : Subscription).placeFor a = 0 :=
    Subscription.placeFor_of_not_counts rfl
  refine hbalanced.of_record hnumbered hreads { sub with status := .paused } rfl rfl
    fun hle _ => ?_
  rw [Subscription.placeFor_of_counts hcounts] at hle ⊢
  rw [hpaused, Book.activeCount_countDown]
  split at hle
  · rename_i heq
    rw [if_pos heq, if_pos heq]
    exact Nat.sub_add_cancel hle
  · rename_i hne
    rw [if_neg hne, if_neg hne]
    rfl

theorem ResumesRecord.balanced (h : ResumesRecord b id b') (hnumbered : b.Numbered)
    (hbalanced : b.Balanced a kept) : b'.Balanced a kept := by
  obtain ⟨sub, hreads, hpaused, rfl⟩ := h
  have hplace : sub.placeFor a = 0 := Subscription.placeFor_of_not_counts (by rw [hpaused]; rfl)
  have hactive : ({ sub with status := .active } : Subscription).placeFor a =
      if sub.subscriber = a then 1 else 0 := Subscription.placeFor_of_counts rfl
  refine hbalanced.of_record hnumbered hreads { sub with status := .active } rfl rfl
    fun _ hfits => ?_
  rw [hplace, hactive] at hfits ⊢
  rw [Book.activeCount_countUp]
  split at hfits
  · rename_i heq
    rw [if_pos heq, if_pos heq]
    exact Nat.min_eq_left hfits
  · rename_i hne
    rw [if_neg hne, if_neg hne]
    rfl

theorem CancelsRecord.balanced (h : CancelsRecord b id b') (hnumbered : b.Numbered)
    (hfunded : ∀ stored, b.record id = some stored →
      stored.status ≠ .gracePeriod ∧ stored.status ≠ .insufficientBalance)
    (hbalanced : b.Balanced a kept) : b'.Balanced a kept := by
  obtain ⟨sub, hreads, hother, hcan, rfl⟩ := h
  have hcancelled : ({ sub with status := .cancelled, prepaidBalance := 0 } :
      Subscription).placeFor a = 0 := Subscription.placeFor_of_not_counts rfl
  obtain ⟨stored, hstored, rfl | ⟨hgrace, -⟩⟩ := hreads
  · have hreads : b.Reads id sub := ⟨sub, hstored, .inl rfl⟩
    refine hbalanced.of_record hnumbered hreads
      { sub with status := .cancelled, prepaidBalance := 0 } (by split <;> rfl)
      (by split <;> rfl) fun hle _ => ?_
    rw [hcancelled]
    by_cases hactive : sub.status = .active
    · rw [if_pos hactive]
      have hcounts : sub.status.countsTowardActiveCap = true := by
        rw [hactive]
        rfl
      rw [Subscription.placeFor_of_counts hcounts] at hle ⊢
      have hcount : (b.countDown sub.subscriber).activeCount a +
          (if sub.subscriber = a then 1 else 0) = b.activeCount a := by
        rw [Book.activeCount_countDown]
        split at hle
        · rename_i heq
          rw [if_pos heq, if_pos heq]
          exact Nat.sub_add_cancel hle
        · rename_i hne
          rw [if_neg hne, if_neg hne]
          rfl
      exact hcount
    · rw [if_neg hactive]
      obtain ⟨hnograce, hnoshort⟩ := hfunded sub hstored
      have hplace : sub.placeFor a = 0 := by
        refine Subscription.placeFor_of_not_counts ?_
        cases hstatus : sub.status <;> simp_all [SubscriptionStatus.countsTowardActiveCap]
      rw [hplace]
      rfl
  · exact absurd hgrace (hfunded stored hstored).1

theorem ArchivesRecord.balanced (h : ArchivesRecord env b id b') (hnumbered : b.Numbered)
    (hmarked : ∀ stored, b.record id = some stored → stored.status.countsTowardActiveCap = false)
    (hbalanced : b.Balanced a kept) : b'.Balanced a kept := by
  obtain ⟨sub, hreads, -, -, rfl⟩ := h
  have hfound := hreads
  obtain ⟨stored, hstored, -⟩ := hfound
  have hplace : sub.placeFor a = 0 := by
    rw [← hreads.placeAt a, Book.placeAt, hstored]
    exact Subscription.placeFor_of_not_counts (hmarked stored hstored)
  have harchived : ({ sub with status := .archived } : Subscription).placeFor a = 0 :=
    Subscription.placeFor_of_not_counts rfl
  refine hbalanced.of_record hnumbered hreads { sub with status := .archived } rfl rfl
    fun _ _ => ?_
  rw [hplace, harchived]
  rfl

theorem ReplansRecord.balanced {plan : PlanTemplate} (h : ReplansRecord b id b' plan)
    (hnumbered : b.Numbered) (hbalanced : b.Balanced a kept) : b'.Balanced a kept := by
  obtain ⟨sub, hreads, rfl⟩ := h
  exact hbalanced.of_record hnumbered hreads _ rfl rfl fun _ _ => rfl

theorem BuysOut.balanced (h : BuysOut env b id b') (hnumbered : b.Numbered)
    (hbalanced : b.Balanced a kept) : b'.Balanced a kept := by
  obtain ⟨sub, new, hreads, hgrace, -, hnew, hactive, rfl⟩ := h
  have hplace : new.placeFor a = sub.placeFor a := by
    refine Subscription.placeFor_congr (by rw [hnew]) ?_
    rw [hgrace, hactive]
    rfl
  refine hbalanced.of_record hnumbered hreads _ rfl rfl fun _ _ => ?_
  rw [hplace]
  rfl

/-- The place goes from the old subscriber to the new one, who may be the same. -/
theorem TransfersRecord.balanced {«to» : Address} (h : TransfersRecord b id b' «to»)
    (hnumbered : b.Numbered) (hbalanced : b.Balanced a kept) : b'.Balanced a kept := by
  obtain ⟨sub, hreads, rfl⟩ := h
  refine hbalanced.of_record hnumbered hreads { sub with subscriber := «to» }
    (by dsimp only; split <;> rfl) (by dsimp only; split <;> rfl) fun hle hfits => ?_
  by_cases hcounts : sub.status.countsTowardActiveCap = true
  · have hnew : ({ sub with subscriber := «to» } : Subscription).placeFor a =
        if «to» = a then 1 else 0 := Subscription.placeFor_of_counts hcounts
    rw [hnew, Subscription.placeFor_of_counts hcounts] at hfits ⊢
    rw [Subscription.placeFor_of_counts hcounts] at hle
    dsimp only
    rw [if_pos hcounts]
    have hcount : ((b.countDown sub.subscriber).countUp «to»).activeCount a +
        (if sub.subscriber = a then 1 else 0) = b.activeCount a + if «to» = a then 1 else 0 := by
      rw [Book.activeCount_countUp, Book.activeCount_countDown]
      split at hle
      · rename_i hfrom
        rw [if_pos hfrom] at hfits ⊢
        rw [if_pos hfrom]
        split at hfits
        · rename_i hto
          rw [if_pos hto, if_pos hto, saturatingAddU32, Nat.min_eq_left (by omega)]
          omega
        · rename_i hto
          rw [if_neg hto, if_neg hto]
          omega
      · rename_i hfrom
        rw [if_neg hfrom] at hfits ⊢
        rw [if_neg hfrom]
        split at hfits
        · rename_i hto
          rw [if_pos hto, if_pos hto, saturatingAddU32, Nat.min_eq_left (by omega)]
        · rename_i hto
          rw [if_neg hto, if_neg hto]
    exact hcount
  · have hplace : sub.placeFor a = 0 :=
      Subscription.placeFor_of_not_counts (Bool.eq_false_iff.mpr hcounts)
    have hnew : ({ sub with subscriber := «to» } : Subscription).placeFor a = 0 :=
      Subscription.placeFor_of_not_counts (Bool.eq_false_iff.mpr hcounts)
    dsimp only
    rw [hplace, hnew, if_neg hcounts]
    rfl

theorem ResumesRecords.balanced (h : ResumesRecords b b') (hnumbered : b.Numbered)
    (hbalanced : b.Balanced a kept) : b'.Balanced a kept := by
  induction h with
  | done => exact hbalanced
  | @next b₀ b₁ b₂ id hfirst _ ih =>
    refine ih ?_ (hfirst.balanced hnumbered hbalanced)
    obtain ⟨sub, hreads, -, rfl⟩ := hfirst
    refine ⟨hnumbered.current, fun j hj => ?_⟩
    have hne : j ≠ id := by
      have hlt := hnumbered.lt_of_reads hreads
      have hle : b₀.nextId ≤ j := hj
      omega
    exact (Function.update_of_ne hne _ _).trans (hnumbered.unused j hj)

theorem IntervalChanges.balanced (h : IntervalChanges env s id b') (hnumbered : s.book.Numbered)
    (hbalanced : s.book.Balanced a kept) :
    b'.Balanced a (kept + (s.book.places a - b'.places a)) := by
  cases h with
  | unchanged => rwa [Nat.sub_self, Nat.add_zero]
  | @expired sub hadmitted _ _ =>
    refine hbalanced.of_billing hnumbered (Book.reads_of_effective hadmitted.found) rfl rfl rfl ?_
    exact (Subscription.placeFor_of_not_counts rfl).trans_le (Nat.zero_le _)
  | @capped sub hclear _ _ _ =>
    refine hbalanced.of_billing hnumbered (Book.reads_of_effective hclear.found) rfl rfl rfl ?_
    exact (Subscription.placeFor_of_not_counts rfl).trans_le (Nat.zero_le _)
  | @cancelled sub hclear _ _ _ =>
    refine hbalanced.of_billing hnumbered (Book.reads_of_effective hclear.found) rfl rfl rfl ?_
    exact (Subscription.placeFor_of_not_counts rfl).trans_le (Nat.zero_le _)
  | @short sub new amount e hdue _ _ hnew =>
    refine hbalanced.of_billing hnumbered hdue.reads rfl rfl rfl ?_
    exact Subscription.placeFor_le_of_counts (by rw [hnew]) hdue.chargeable.counts
  | booked hbooks =>
    obtain ⟨sub, new, amount, hdue, -, hsettled, hends⟩ := hbooks
    have hplace : new.placeFor a ≤ sub.placeFor a :=
      Subscription.placeFor_le_of_counts (by rw [hsettled.2]) hdue.chargeable.counts
    rcases hends with rfl | rfl
    · exact hbalanced.of_billing hnumbered hdue.reads rfl rfl rfl hplace
    · exact hbalanced.of_billing hnumbered hdue.reads rfl rfl rfl hplace

theorem UsageChanges.balanced {usageAmount : Int} (h : UsageChanges env s id usageAmount b')
    (hnumbered : s.book.Numbered) (hbalanced : s.book.Balanced a kept) :
    b'.Balanced a (kept + (s.book.places a - b'.places a)) := by
  have hlive {sub new : Subscription} {reference : Bytes}
      (hdue : UsageDue env s id sub usageAmount reference)
      (hsubscriber : new.subscriber = sub.subscriber) :
      (s.book.setRecord id new).Balanced a
        (kept + (s.book.places a - (s.book.setRecord id new).places a)) :=
    hbalanced.of_billing hnumbered hdue.reads rfl rfl rfl
      (Subscription.placeFor_le_of_counts hsubscriber (by rw [hdue.active]; rfl))
  cases h with
  | unchanged => rwa [Nat.sub_self, Nat.add_zero]
  | capped hdue _ => exact hlive hdue rfl
  | booked hdue _ hsettled => exact hlive hdue (by rw [hsettled.2])
  | unfit hdue => exact hlive hdue rfl

theorem Book.rotated_balanced (hbalanced : b.Balanced a kept) (oldMerchant newMerchant : Address) :
    (b.rotated oldMerchant newMerchant).Balanced a kept := by
  refine hbalanced.congr rfl rfl ?_
  have hplace (sub : Subscription) :
      (sub.rehomed oldMerchant newMerchant).placeFor a = sub.placeFor a := by
    unfold Subscription.rehomed
    split <;> rfl
  refine Finset.sum_congr rfl fun id _ => ?_
  have hrecord : (b.rotated oldMerchant newMerchant).record id =
      if id ∈ b.merchantSubs oldMerchant then
        (b.record id).map (·.rehomed oldMerchant newMerchant) else b.record id := rfl
  unfold Book.placeAt
  rw [hrecord]
  split
  · cases b.record id with
    | none => rfl
    | some sub => exact hplace sub
  · rfl

theorem Operation.Changes.balanced {op : Operation} (h : op.Changes env s b')
    (hnumbered : s.book.Numbered) (hexits : op.CountsExits s)
    (hbalanced : s.book.Balanced a kept) :
    b'.Balanced a (kept + if op.isBilling then s.book.places a - b'.places a else 0) := by
  cases op with
  | create => exact CreatesRecord.balanced h hnumbered hbalanced
  | deposit =>
    rcases h with h | h
    · exact EditsRecord.balanced h hnumbered hbalanced
    · exact RevivesRecord.balanced h hnumbered hbalanced
  | charge => exact IntervalChanges.balanced h hnumbered hbalanced
  | chargeUsage => exact UsageChanges.balanced h hnumbered hbalanced
  | buyOut => exact BuysOut.balanced h hnumbered hbalanced
  | cancel => exact CancelsRecord.balanced h hnumbered hexits hbalanced
  | pause => exact PausesRecord.balanced h hnumbered hbalanced
  | resume =>
    rcases h with h | h
    · exact ResumesRecord.balanced h hnumbered hbalanced
    · exact RevivesRecord.balanced h hnumbered hbalanced
  | edit => exact EditsRecord.balanced h hnumbered hbalanced
  | archive => exact ArchivesRecord.balanced h hnumbered hexits hbalanced
  | replan =>
    obtain ⟨plan, -, h⟩ := h
    exact ReplansRecord.balanced h hnumbered hbalanced
  | transfer => exact TransfersRecord.balanced h hnumbered hbalanced
  | unblock => exact ResumesRecords.balanced h hnumbered hbalanced
  | rotate oldMerchant newMerchant =>
    obtain rfl := h
    exact Book.rotated_balanced hbalanced oldMerchant newMerchant
  | restore => exact hexits.elim
  | renumber =>
    obtain rfl := h.2 hnumbered.current
    exact hbalanced
  | other => exact h.elim

end Steps

/-! ## Limits -/

section Limits

variable {env : Env} {s t : State} {u : Unit} {a merchant : Address}

theorem run_requirePlace_ok : (requirePlace a).run env s = .ok u t ↔
    s.subscriberActiveCount a < s.subscriberActiveCap a ∧ s = t := by
  simp only [requirePlace, run_bind_ok, run_gets_ok, run_failIf_ok]
  constructor
  · rintro ⟨_, _, ⟨rfl, rfl⟩, _, _, ⟨rfl, rfl⟩, hlt, rfl⟩
    exact ⟨Nat.not_le.mp hlt, rfl⟩
  · rintro ⟨hlt, rfl⟩
    exact ⟨_, _, ⟨rfl, rfl⟩, _, _, ⟨rfl, rfl⟩, Nat.not_le.mpr hlt, rfl⟩

theorem run_enforceSubscriptionCounts_ok :
    (enforceSubscriptionCounts a merchant).run env s = .ok u t ↔
      (s.merchantSubs merchant).length < s.merchantMaxSubs merchant ∧
        s.subscriberActiveCount a < s.subscriberActiveCap a ∧ s = t := by
  simp only [enforceSubscriptionCounts, run_bind_ok, run_gets_ok, run_failIf_ok]
  constructor
  · rintro ⟨_, _, ⟨rfl, rfl⟩, _, _, ⟨rfl, rfl⟩, _, _, ⟨hmerchant, rfl⟩, _, _, ⟨rfl, rfl⟩, _, _,
      ⟨rfl, rfl⟩, hlt, rfl⟩
    exact ⟨Nat.not_le.mp hmerchant, Nat.not_le.mp hlt, rfl⟩
  · rintro ⟨hmerchant, hlt, rfl⟩
    exact ⟨_, _, ⟨rfl, rfl⟩, _, _, ⟨rfl, rfl⟩, (), _, ⟨Nat.not_le.mpr hmerchant, rfl⟩, _, _,
      ⟨rfl, rfl⟩, _, _, ⟨rfl, rfl⟩, Nat.not_le.mpr hlt, rfl⟩

end Limits

/-! ## Runs -/

section Runs

variable {start s t : State} {hist : History VaultAction State} {a : Address}

theorem State.ncard_liveSubscriptions (h : s.book.Numbered) (a : Address) :
    (s.liveSubscriptions a).ncard = s.book.places a := by
  classical
  have hlive : s.liveSubscriptions a =
      ((Finset.range s.book.nextId).filter (· ∈ s.liveSubscriptions a) : Finset Nat) := by
    ext id
    simp only [Finset.coe_filter, Finset.mem_range, Set.mem_ofPred_eq, iff_and_self]
    rintro ⟨sub, hsub, -, -⟩
    exact h.lt_of_reads ⟨sub, hsub, .inl rfl⟩
  rw [hlive, Set.ncard_coe_finset, Finset.card_filter]
  refine Finset.sum_congr rfl fun id _ => ?_
  have hplace : s.book.placeAt a id = (s.subscription id).elim 0 (·.placeFor a) := rfl
  rw [hplace]
  cases hsub : s.subscription id with
  | none => simp [State.liveSubscriptions, hsub]
  | some sub => simp [State.liveSubscriptions, hsub, Subscription.placeFor]

theorem balanced_of_run (hstart : Deployed start) (hrun : Run VaultStep start hist s)
    (hexits : ∀ step ∈ hist, step.1.operation.CountsExits step.2) (a : Address) :
    s.book.Numbered ∧ s.book.Balanced a (placesKept a hist s) := by
  induction hrun with
  | start =>
    refine ⟨hstart.numbered, fun _ => ?_⟩
    rw [hstart.book]
    rfl
  | @next hist s t l _ hlast ih =>
    obtain ⟨hnumbered, hbalanced⟩ :=
      ih fun step hmem => hexits step (List.mem_cons_of_mem _ hmem)
    have hstep : l.operation.CountsExits s := hexits _ List.mem_cons_self
    refine ⟨numbered_of_step hnumbered hlast fun summaries hrestore => ?_, ?_⟩
    · rw [hrestore] at hstep
      exact hstep
    · rcases hlast.changes with hsame | hchanges
      · simp only [placesKept, hsame, Nat.sub_self, ite_self, Nat.add_zero]
        exact hbalanced
      · exact hchanges.balanced hnumbered hstep hbalanced

end Runs

section Examples

private def capped : NewSubscription := { sampleRequest with lifetimeCap := some 10 }

/-- A subscription whose first charge uses up its cap. -/
private def cappedActions : List VaultAction :=
  [.call (sampleEnv 60 []) (.chargeSubscription 0 none),
   .call (sampleEnv 0 [⟨2⟩]) (.depositFunds 0 10 none),
   .call (sampleEnv 0 [⟨2⟩]) (.createSubscription capped)]

private theorem capped_run : Run VaultStep (sampleStart 0)
    (actionHistory (afterCalls (sampleVault 0)) cappedActions ++
      [(.other (sampleEnv 0 []), sampleStart 0)])
    (actionsAfter (afterCalls (sampleVault 0)) cappedActions) :=
  run_actions (sample_prepared 0) (by decide +kernel)

private theorem capped_exits : ∀ step ∈ actionHistory (afterCalls (sampleVault 0)) cappedActions ++
    [(.other (sampleEnv 0 []), sampleStart 0)], step.1.operation.CountsExits step.2 := by
  intro step hmem
  simp only [actionHistory, cappedActions, List.cons_append, List.nil_append, List.mem_cons,
    List.not_mem_nil, or_false] at hmem
  rcases hmem with rfl | rfl | rfl | rfl <;> trivial

end Examples

end SubscriptionVault
