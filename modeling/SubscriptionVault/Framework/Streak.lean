import SubscriptionVault.Framework.Transition

/-!
# Counting in a row

How many steps of a run counted since the last one that ends the row, and when a counter kept in
the state holds that number.
-/

namespace SubscriptionVault

universe u v

variable {Label : Type u} {σ : Type v}

open Classical in
/-- The number of steps that count since the last one that ends the row. -/
noncomputable def streak (counts ends : Label → σ → Prop) : History Label σ → Nat
  | [] => 0
  | (l, s) :: earlier =>
    if ends l s then 0
    else if counts l s then streak counts ends earlier + 1
    else streak counts ends earlier

section Streaks

variable {counts ends : Label → σ → Prop} {hist : History Label σ} {l : Label} {s start : σ}

theorem streak_ends (h : ends l s) : streak counts ends ((l, s) :: hist) = 0 :=
  if_pos h

theorem streak_counts (hends : ¬ends l s) (h : counts l s) :
    streak counts ends ((l, s) :: hist) = streak counts ends hist + 1 :=
  (if_neg hends).trans (if_pos h)

theorem streak_quiet (hends : ¬ends l s) (h : ¬counts l s) :
    streak counts ends ((l, s) :: hist) = streak counts ends hist :=
  (if_neg hends).trans (if_neg h)

/-- A counter over one step, which may count and may end the row. -/
structure CountsOn (counts ends : Prop) (before after : Nat) : Prop where
  ended : ends → after = 0
  counted : ¬ends → counts → after = before + 1
  kept : ¬ends → ¬counts → after = before

/-- A step that neither counts nor ends the row leaves the counter. -/
theorem CountsOn.of_quiet {p q : Prop} {n m : Nat} (hcounts : ¬p) (hends : ¬q) (h : m = n) :
    CountsOn p q n m :=
  ⟨fun hq => absurd hq hends, fun _ hp => absurd hp hcounts, fun _ _ => h⟩

/-- A step that ends the row clears the counter, unless it was clear anyway. -/
theorem CountsOn.of_ended {p q : Prop} {n m : Nat} (hends : q) (h : m = 0) : CountsOn p q n m :=
  ⟨fun _ => h, fun hq => absurd hends hq, fun hq => absurd hends hq⟩

/-- A counter that every step keeps right holds the length of the row. -/
theorem Run.eq_streak {step : Label → σ → σ → Prop} {P : Label → σ → Prop} {cell : σ → Nat}
    {I : σ → Prop} (hzero : cell start = 0) (hstart : I start)
    (hstep : ∀ l s t, P l s → I s → step l s t →
      I t ∧ CountsOn (counts l s) (ends l s) (cell s) (cell t))
    (hrun : Run step start hist s) (hall : ∀ taken ∈ hist, P taken.1 taken.2) :
    I s ∧ cell s = streak counts ends hist := by
  induction hrun with
  | start => exact ⟨hstart, hzero⟩
  | @next earlier u t l _ hlast ih =>
    obtain ⟨hu, hcell⟩ := ih fun taken hmem => hall taken (List.mem_cons_of_mem _ hmem)
    obtain ⟨ht, hcounts⟩ := hstep l u t (hall _ List.mem_cons_self) hu hlast
    refine ⟨ht, ?_⟩
    by_cases hends : ends l u
    · rw [streak_ends hends]
      exact hcounts.ended hends
    · by_cases hcount : counts l u
      · rw [streak_counts hends hcount, ← hcell]
        exact hcounts.counted hends hcount
      · rw [streak_quiet hends hcount, ← hcell]
        exact hcounts.kept hends hcount

end Streaks

end SubscriptionVault
