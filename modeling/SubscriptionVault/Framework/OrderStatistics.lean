import Mathlib

/-!
# Order statistics

In a sorted list few entries below a bound keep the entry at a position at or above it, and few
entries above a bound keep it at or below. Sorting makes a function of the sorted list blind to
the order it was given.
-/

namespace SubscriptionVault

section Ranks

variable {α : Type} [LinearOrder α] {l : List α} {a b : α} {i : Nat}

/-- With at most `i` entries below `a`, the entry at position `i` is not below it. -/
theorem le_getElem_of_countP (hsorted : l.Pairwise (· ≤ ·)) (hi : i < l.length)
    (hfew : l.countP (· < a) ≤ i) : a ≤ l[i] := by
  by_contra hbelow
  have hbelow : l[i] < a := not_le.mp hbelow
  have hfront : (l.take (i + 1)).countP (· < a) = (l.take (i + 1)).length := by
    refine List.countP_eq_length.mpr fun x hx => ?_
    obtain ⟨j, hj, rfl⟩ := List.mem_iff_getElem.mp hx
    rw [List.length_take] at hj
    rw [List.getElem_take]
    have hle : l[j] ≤ l[i] := hsorted.rel_get_of_le (a := ⟨j, by omega⟩) (b := ⟨i, hi⟩)
      (Fin.mk_le_mk.mpr (by omega))
    exact decide_eq_true (hle.trans_lt hbelow)
  have hcount : (l.take (i + 1)).countP (· < a) ≤ l.countP (· < a) :=
    (List.take_sublist _ _).countP_le
  rw [hfront, List.length_take] at hcount
  omega

/-- With fewer entries above `b` than there are from position `i` on, the entry there is not
above it. -/
theorem getElem_le_of_countP (hsorted : l.Pairwise (· ≤ ·)) (hi : i < l.length)
    (hfew : l.countP (b < ·) < l.length - i) : l[i] ≤ b := by
  by_contra habove
  have habove : b < l[i] := not_le.mp habove
  have hsuffix : (l.drop i).countP (b < ·) = (l.drop i).length := by
    refine List.countP_eq_length.mpr fun x hx => ?_
    obtain ⟨j, hj, rfl⟩ := List.mem_iff_getElem.mp hx
    rw [List.length_drop] at hj
    rw [List.getElem_drop]
    have hle : l[i] ≤ l[i + j] := hsorted.rel_get_of_le (a := ⟨i, hi⟩) (b := ⟨i + j, by omega⟩)
      (Fin.mk_le_mk.mpr (by omega))
    exact decide_eq_true (habove.trans_le hle)
  have hcount : (l.drop i).countP (b < ·) ≤ l.countP (b < ·) :=
    (List.drop_sublist _ _).countP_le
  rw [hsuffix, List.length_drop] at hcount
  omega

/-- Fewer than half of the entries outside an interval leave both middle entries inside. -/
theorem middle_of_few_outside (hsorted : l.Pairwise (· ≤ ·)) (hi : i < l.length)
    (hlow : l.length ≤ 2 * (i + 1)) (hhigh : 2 * i ≤ l.length)
    (hfew : 2 * l.countP (fun x => x < a ∨ b < x) < l.length) : a ≤ l[i] ∧ l[i] ≤ b := by
  have hbelow : l.countP (· < a) ≤ l.countP (fun x => x < a ∨ b < x) :=
    List.countP_mono_left fun x _ hx => decide_eq_true (.inl (of_decide_eq_true hx))
  have habove : l.countP (b < ·) ≤ l.countP (fun x => x < a ∨ b < x) :=
    List.countP_mono_left fun x _ hx => decide_eq_true (.inr (of_decide_eq_true hx))
  exact ⟨le_getElem_of_countP hsorted hi (by omega), getElem_le_of_countP hsorted hi (by omega)⟩

theorem insertionSort_of_perm {l' : List α} (h : l.Perm l') :
    l.insertionSort (· ≤ ·) = l'.insertionSort (· ≤ ·) := by
  have hperm : (l.insertionSort (· ≤ ·)).Perm (l'.insertionSort (· ≤ ·)) :=
    ((List.perm_insertionSort _ _).trans h).trans (List.perm_insertionSort _ _).symm
  exact hperm.eq_of_pairwise' (List.pairwise_insertionSort _ _) (List.pairwise_insertionSort _ _)

end Ranks

end SubscriptionVault
