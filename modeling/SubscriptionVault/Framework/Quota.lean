import Mathlib

/-!
# Quotas over a log of events

A log lists events, latest first. Three quotas limit it: events keep a distance, a window counts
so many of them, and the units of a period add up to so much. For the last two there is an
invariant that ties the log to the counter which enforces the quota.
-/

namespace SubscriptionVault

universe u

variable {E : Type u}

/-! ## Distance -/

/-- Any two events are at least `gap` apart. -/
def SpacedBy (time : E → ℕ) (gap : ℕ) (log : List E) : Prop :=
  log.Pairwise fun later earlier => time earlier + gap ≤ time later

theorem SpacedBy.cons {time : E → ℕ} {gap last : ℕ} {e : E} {log : List E}
    (h : SpacedBy time gap log) (hlast : ∀ earlier ∈ log, time earlier ≤ last)
    (hgap : last + gap ≤ time e) : SpacedBy time gap (e :: log) :=
  List.pairwise_cons.mpr
    ⟨fun earlier hmem => (Nat.add_le_add_right (hlast earlier hmem) gap).trans hgap, h⟩

/-! ## Windows -/

section Windows

variable {time opened : E → ℕ} {width most start start' count count' first : ℕ} {e : E}
  {log : List E}

/-- How many events lie in the span of `width` from `first` on. -/
def spanCount (time : E → ℕ) (width first : ℕ) (log : List E) : ℕ :=
  log.countP fun e => first ≤ time e ∧ time e < first + width

theorem spanCount_zero : spanCount time 0 first log = 0 := by
  simp [spanCount]

/-- Every event lies in the window it is counted in, which opened when the one before was over,
and no window counts more than `most` of them. -/
structure Windowed (time opened : E → ℕ) (width most : ℕ) (log : List E) : Prop where
  within : ∀ e ∈ log, opened e ≤ time e ∧ time e < opened e + width
  apart : ∀ a ∈ log, ∀ b ∈ log,
    opened a = opened b ∨ opened a + width ≤ opened b ∨ opened b + width ≤ opened a
  few : ∀ first, (log.countP fun e => opened e = first) ≤ most

/-- The current window opened at `start`, and `count` covers the events in it. -/
structure WindowOpen (time opened : E → ℕ) (width most start count : ℕ) (log : List E) : Prop
    extends Windowed time opened width most log where
  current : ∀ e ∈ log, opened e = start ∨ opened e + width ≤ start
  counted : (log.countP fun e => opened e = start) ≤ count

namespace Windowed

/-- Events of one window only are few. -/
theorem countP_le (h : Windowed time opened width most log) {p : E → Bool}
    (hsame : ∀ a ∈ log, ∀ b ∈ log, p a = true → p b = true → opened a = opened b) :
    log.countP p ≤ most := by
  by_cases hsome : ∃ a ∈ log, p a = true
  · obtain ⟨a, ha, hpa⟩ := hsome
    refine le_trans (List.countP_mono_left fun b hb hpb => ?_) (h.few (opened a))
    exact decide_eq_true (hsame b hb a ha hpb hpa)
  · have hnone : log.countP p = 0 := List.countP_eq_zero.mpr fun a ha hpa => hsome ⟨a, ha, hpa⟩
    omega

/-- An event that opens its window is followed by few in that time. -/
theorem window_le (h : Windowed time opened width most log) (he : e ∈ log)
    (hopens : opened e = time e) : spanCount time width (time e) log ≤ most := by
  have halone : ∀ a ∈ log, time e ≤ time a ∧ time a < time e + width → opened a = opened e := by
    intro a ha hspan
    have hwithin := h.within a ha
    rcases h.apart a ha e he with hsame | hbefore | hafter
    · exact hsame
    · omega
    · omega
  apply h.countP_le
  intro a ha b hb hpa hpb
  rw [halone a ha (of_decide_eq_true hpa), halone b hb (of_decide_eq_true hpb)]

/-- Windows that open in a span as long as one of them are one. -/
theorem countP_le_of_near (h : Windowed time opened width most log) {p : E → Bool}
    (hnear : ∀ e ∈ log, p e = true → first ≤ opened e + width ∧ opened e < first) :
    log.countP p ≤ most := by
  apply h.countP_le
  intro a ha b hb hpa hpb
  have hneara := hnear a ha hpa
  have hnearb := hnear b hb hpb
  rcases h.apart a ha b hb with hsame | hbefore | hafter
  · exact hsame
  · omega
  · omega

/-- A span as long as a window meets two of them at most. -/
theorem span_le (h : Windowed time opened width most log) (first : ℕ) :
    spanCount time width first log ≤ 2 * most := by
  -- the windows that were open before the span, and those that open in it
  let early (e : E) : Bool := first ≤ time e ∧ time e < first + width ∧ opened e < first
  let late (e : E) : Bool := first ≤ time e ∧ time e < first + width ∧ first ≤ opened e
  have hearly : log.countP early ≤ most := h.countP_le_of_near fun e he hearly => by
    have hearly := of_decide_eq_true hearly
    have hwithin := h.within e he
    exact ⟨by omega, hearly.2.2⟩
  have hlate : log.countP late ≤ most := h.countP_le_of_near fun e he hlate => by
    have hlate := of_decide_eq_true hlate
    have hwithin := h.within e he
    exact ⟨Nat.add_le_add_right hlate.2.2 width, by omega⟩
  have hsplit : spanCount time width first log ≤ log.countP early + log.countP late := by
    unfold spanCount
    clear hearly hlate h
    induction log with
    | nil => simp
    | cons e log ih =>
      simp only [List.countP_cons]
      have hsides : (if decide (first ≤ time e ∧ time e < first + width) = true then 1 else 0) ≤
          (if early e = true then 1 else 0) + (if late e = true then 1 else 0) := by
        by_cases hspan : first ≤ time e ∧ time e < first + width
        · by_cases hopened : opened e < first
          · have he : early e = true := decide_eq_true ⟨hspan.1, hspan.2, hopened⟩
            rw [if_pos he]
            split <;> omega
          · have he : late e = true := decide_eq_true ⟨hspan.1, hspan.2, Nat.not_lt.mp hopened⟩
            rw [if_pos he]
            split <;> omega
        · rw [if_neg (by simpa using hspan)]
          omega
      omega
  omega

end Windowed

namespace WindowOpen

theorem nil : WindowOpen time opened width most start count [] where
  within := nofun
  apart := nofun
  few _ := Nat.zero_le most
  current := nofun
  counted := Nat.zero_le count

/-- The next window opens when the current one is over. -/
theorem restart (h : WindowOpen time opened width most start count log) (hwidth : 0 < width)
    (hover : start + width ≤ start') : WindowOpen time opened width most start' 0 log where
  toWindowed := h.toWindowed
  current e he := by
    rcases h.current e he with hsame | hbefore
    · exact .inr (by omega)
    · exact .inr (by omega)
  counted := by
    have hnone : (log.countP fun e => opened e = start') = 0 := by
      apply List.countP_eq_zero.mpr
      intro e he hopened
      have hopened := of_decide_eq_true hopened
      rcases h.current e he with hsame | hbefore
      · omega
      · omega
    omega

/-- What is counted need not have happened. -/
theorem count_up (h : WindowOpen time opened width most start count log) (hle : count ≤ count') :
    WindowOpen time opened width most start count' log :=
  { h with counted := h.counted.trans hle }

theorem cons (h : WindowOpen time opened width most start count log) (hopened : opened e = start)
    (hwithin : start ≤ time e ∧ time e < start + width) (hcount : count < most) :
    WindowOpen time opened width most start (count + 1) (e :: log) where
  within a ha := by
    rcases List.mem_cons.mp ha with rfl | ha
    · exact hopened ▸ hwithin
    · exact h.within a ha
  apart a ha b hb := by
    rcases List.mem_cons.mp ha with rfl | hina
    · rcases List.mem_cons.mp hb with rfl | hinb
      · exact .inl rfl
      · rcases h.current b hinb with hsame | hbefore
        · exact .inl (hopened.trans hsame.symm)
        · exact .inr (.inr (hopened ▸ hbefore))
    · rcases List.mem_cons.mp hb with rfl | hinb
      · rcases h.current a hina with hsame | hbefore
        · exact .inl (hsame.trans hopened.symm)
        · exact .inr (.inl (hopened ▸ hbefore))
      · exact h.apart a hina b hinb
  few first := by
    have hfew := h.few first
    rw [List.countP_cons]
    split
    · rename_i hfirst
      have hcounted := h.counted
      rw [← hopened.symm.trans (of_decide_eq_true hfirst)]
      omega
    · omega
  current a ha := by
    rcases List.mem_cons.mp ha with rfl | ha
    · exact .inl hopened
    · exact h.current a ha
  counted := by
    have hcounted := h.counted
    rw [List.countP_cons, if_pos (decide_eq_true hopened)]
    omega

end WindowOpen

end Windows

/-! ## Periods -/

section Periods

variable {period : E → ℕ} {units : E → ℤ} {index now p : ℕ} {used : ℤ} {e : E} {log : List E}

/-- The units of the events of a period. -/
def periodUnits (period : E → ℕ) (units : E → ℤ) (log : List E) (p : ℕ) : ℤ :=
  ((log.filter (period · = p)).map units).sum

/-- No event lies in a period to come, and the period that is counted has its units covered by
what has been used. -/
structure Rationed (period : E → ℕ) (units : E → ℤ) (index : ℕ) (used : ℤ) (now : ℕ)
    (log : List E) : Prop where
  past : ∀ e ∈ log, period e ≤ now ∧ period e ≤ index
  covered : ∀ p, now ≤ p → p ≤ index → periodUnits period units log p ≤ used

theorem periodUnits_cons (e : E) (log : List E) (p : ℕ) :
    periodUnits period units (e :: log) p =
      (if period e = p then units e else 0) + periodUnits period units log p := by
  unfold periodUnits
  by_cases h : period e = p <;> simp [h]

theorem periodUnits_of_none (h : ∀ e ∈ log, period e ≠ p) : periodUnits period units log p = 0 := by
  have hnone : log.filter (period · = p) = [] := by simpa [List.filter_eq_nil_iff] using h
  rw [periodUnits, hnone]
  rfl

theorem Rationed.wait {now' : ℕ} (h : Rationed period units index used now log)
    (hnow : now ≤ now') : Rationed period units index used now' log where
  past e hmem := ⟨(h.past e hmem).1.trans hnow, (h.past e hmem).2⟩
  covered p hp := h.covered p (hnow.trans hp)

/-- A period that has not been counted before starts with nothing used. -/
theorem Rationed.renew (h : Rationed period units index used now log) (hindex : index < p) :
    Rationed period units p 0 p log where
  past e hmem := ⟨((h.past e hmem).2.trans_lt hindex).le, ((h.past e hmem).2.trans_lt hindex).le⟩
  covered q hq hle := by
    obtain rfl := Nat.le_antisymm hq hle
    refine (periodUnits_of_none fun e hmem => ?_).le
    exact ((h.past e hmem).2.trans_lt hindex).ne

theorem Rationed.use_up {used' : ℤ} (h : Rationed period units index used now log)
    (hle : used ≤ used') : Rationed period units index used' now log :=
  ⟨h.past, fun p hp hindex => (h.covered p hp hindex).trans hle⟩

theorem Rationed.cons {used' : ℤ} (h : Rationed period units index used now log)
    (hnow : now ≤ period e) (hindex : period e ≤ index) (hused : 0 ≤ used')
    (hspent : periodUnits period units log (period e) + units e ≤ used') :
    Rationed period units index used' (period e) (e :: log) where
  past other hmem := by
    rcases List.mem_cons.mp hmem with rfl | hmem
    · exact ⟨le_rfl, hindex⟩
    · exact ⟨(h.past other hmem).1.trans hnow, (h.past other hmem).2⟩
  covered p hp _ := by
    rw [periodUnits_cons]
    rcases hp.eq_or_lt with rfl | hlater
    · rw [if_pos rfl]
      omega
    · have hnone : periodUnits period units log p = 0 :=
        periodUnits_of_none fun other hmem =>
          (((h.past other hmem).1.trans hnow).trans_lt hlater).ne
      rw [if_neg hlater.ne, hnone]
      omega

end Periods

end SubscriptionVault
