import Mathlib

/-!
# Tallies over association lists

A tally runs through one association list and looks each key up in another. The sum does not
depend on which of the two lists is run through. An accumulator that saturates at a bound ends
at the bound or at the sum.
-/

namespace SubscriptionVault

universe u v w z

variable {α : Type u} {β : Type v} {γ : Type w} {N : Type z}

section Lookup

variable [DecidableEq α] [AddCommMonoid N]

/-- Keys are unique: the terms of one key are the term of its entry. -/
theorem sum_entries_of_key (l : AList fun _ : α => β) (k : α) (f : β → N) :
    (l.entries.map fun e => if e.1 = k then f e.2 else 0).sum = (l.lookup k).elim 0 f := by
  have hlist (l : List (Sigma fun _ : α => β)) (hnodup : l.NodupKeys) :
      (l.map fun e => if e.1 = k then f e.2 else 0).sum = (l.dlookup k).elim 0 f := by
    induction l with
    | nil => rfl
    | cons e l ih =>
      obtain ⟨key, value⟩ := e
      have ⟨hnotMem, htail⟩ := List.nodupKeys_cons.mp hnodup
      have hrest := ih htail
      rw [List.map_cons, List.sum_cons, hrest]
      by_cases hkey : key = k
      · subst hkey
        rw [List.dlookup_eq_none.mpr hnotMem, List.dlookup_cons_eq]
        simp
      · have hhead : List.dlookup k (⟨key, value⟩ :: l) = List.dlookup k l :=
          List.dlookup_cons_ne l _ fun heq => hkey heq.symm
        rw [hhead]
        simp [hkey]
  exact hlist l.entries l.nodupKeys

theorem sum_map_sum_comm (a : List β) (b : List γ) (f : β → γ → N) :
    (a.map fun x => (b.map fun y => f x y).sum).sum =
      (b.map fun y => (a.map fun x => f x y).sum).sum := by
  induction a with
  | nil => simp
  | cons x a ih =>
    simp only [List.map_cons, List.sum_cons]
    rw [ih, ← List.sum_map_add]

/-- Summed over the entries of either list, the matching pairs give the same. -/
theorem sum_lookup_comm (a : AList fun _ : α => β) (b : AList fun _ : α => γ) (f : β → γ → N) :
    (a.entries.map fun e => (b.lookup e.1).elim 0 (f e.2)).sum =
      (b.entries.map fun e => (a.lookup e.1).elim 0 fun x => f x e.2).sum := by
  have hleft (e : Sigma fun _ : α => β) : (b.lookup e.1).elim 0 (f e.2) =
      (b.entries.map fun e' => if e'.1 = e.1 then f e.2 e'.2 else 0).sum :=
    (sum_entries_of_key b e.1 (f e.2)).symm
  have hright (e' : Sigma fun _ : α => γ) : ((a.lookup e'.1).elim 0 fun x => f x e'.2) =
      (a.entries.map fun e => if e'.1 = e.1 then f e.2 e'.2 else 0).sum := by
    rw [← sum_entries_of_key a e'.1 fun x => f x e'.2]
    simp only [eq_comm]
  simp only [hleft, hright]
  exact sum_map_sum_comm _ _ _

end Lookup

section Saturating

variable {M : Type z} [AddCommMonoid M] [LinearOrder M] [IsOrderedAddMonoid M]

/-- An accumulator that only grows and saturates at `bound`. -/
theorem foldl_saturating (weight : β → M) (bound : M) {step : M → β → M} (l : List β)
    (hweight : ∀ x ∈ l, 0 ≤ weight x) (hbound : 0 ≤ bound)
    (hstep : ∀ total, 0 ≤ total → total ≤ bound → ∀ x ∈ l,
      step total x = min (total + weight x) bound)
    {start : M} (hstart : 0 ≤ start) :
    l.foldl step (min start bound) = min (start + (l.map weight).sum) bound := by
  induction l generalizing start with
  | nil => rw [List.foldl_nil, List.map_nil, List.sum_nil, add_zero]
  | cons x l ih =>
    have hx : 0 ≤ weight x := hweight x List.mem_cons_self
    have hone : min (min start bound + weight x) bound = min (start + weight x) bound := by
      rw [← min_add_add_right, min_assoc, min_eq_right (le_add_of_nonneg_right hx)]
    have hfirst := hstep (min start bound) (le_min hstart hbound) (min_le_right _ _) x
      List.mem_cons_self
    have hrest := ih (fun y hy => hweight y (List.mem_cons_of_mem _ hy))
      (fun total hnonneg hle y hy => hstep total hnonneg hle y (List.mem_cons_of_mem _ hy))
      (add_nonneg hstart hx)
    rw [List.foldl_cons, hfirst, hone, hrest, List.map_cons, List.sum_cons, add_assoc]

end Saturating

end SubscriptionVault
