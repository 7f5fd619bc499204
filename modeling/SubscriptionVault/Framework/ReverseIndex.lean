import Mathlib

/-!
# Reverse indexes

A reverse index lists, for every key, the items that belong to the key. It is kept up by hand:
an item is appended to the list of its owner and erased from it again, and the list of one key
may be merged into that of another.
-/

namespace SubscriptionVault

universe u v

variable {K : Type u} {I : Type v}

/-- Every key lists exactly the items it owns, each of them once. -/
structure ListsOwned (ids : K → List I) (owner : I → Option K) : Prop where
  nodup : ∀ k, (ids k).Nodup
  mem : ∀ k i, i ∈ ids k ↔ owner i = some k

namespace ListsOwned

variable {ids : K → List I} {owner owner' : I → Option K} {i : I} {k k' : K}

theorem empty : ListsOwned (fun _ => [] : K → List I) fun _ => none where
  nodup _ := List.nodup_nil
  mem _ _ := by simp

theorem congr (h : ListsOwned ids owner) (howner : ∀ i, owner' i = owner i) :
    ListsOwned ids owner' := by
  rwa [funext howner]

variable [DecidableEq K]

/-- Everything one key owns goes to another key, whose list has taken it over. -/
theorem absorb (h : ListsOwned ids owner) (hne : k ≠ k') {merged : List I}
    (hnodup : merged.Nodup) (hmem : ∀ i, i ∈ merged ↔ i ∈ ids k' ∨ i ∈ ids k) :
    ListsOwned (Function.update (Function.update ids k' merged) k [])
      fun i => if owner i = some k then some k' else owner i where
  nodup j := by
    by_cases hj : j = k
    · subst hj
      simp
    · rw [Function.update_of_ne hj]
      by_cases hj' : j = k'
      · subst hj'
        simpa using hnodup
      · rw [Function.update_of_ne hj']
        exact h.nodup j
  mem j x := by
    by_cases hj : j = k
    · subst hj
      rw [Function.update_self]
      split
      · simp [Ne.symm hne]
      · rename_i hother
        simp [hother]
    · rw [Function.update_of_ne hj]
      by_cases hj' : j = k'
      · subst hj'
        rw [Function.update_self, hmem, h.mem, h.mem]
        split
        · rename_i hk
          simp [hk]
        · rename_i hk
          simp [hk]
      · rw [Function.update_of_ne hj', h.mem]
        split
        · rename_i hk
          simp [hk, Ne.symm hj, Ne.symm hj']
        · rfl

variable [DecidableEq I]

/-- An item without an owner is appended to the list of its new one. -/
theorem append (h : ListsOwned ids owner) (hfree : owner i = none) (k : K) :
    ListsOwned (Function.update ids k (ids k ++ [i])) (Function.update owner i (some k)) where
  nodup j := by
    by_cases hj : j = k
    · subst hj
      have hfresh : i ∉ ids j := by
        rw [h.mem, hfree]
        simp
      rw [Function.update_self]
      exact (h.nodup j).append (List.nodup_singleton i) (by simpa using hfresh)
    · rw [Function.update_of_ne hj]
      exact h.nodup j
  mem j x := by
    by_cases hx : x = i
    · subst hx
      have hunlisted : x ∉ ids j := by
        rw [h.mem, hfree]
        simp
      rw [Function.update_self]
      by_cases hj : j = k
      · subst hj
        simp
      · simp [hj, hunlisted, Ne.symm hj]
    · rw [Function.update_of_ne hx, ← h.mem]
      by_cases hj : j = k
      · subst hj
        simp [hx]
      · rw [Function.update_of_ne hj]

/-- An item is erased from the list of its owner, if it has one. -/
theorem erase (h : ListsOwned ids owner) (howner : ∀ k', owner i = some k' → k' = k) :
    ListsOwned (Function.update ids k ((ids k).erase i)) (Function.update owner i none) where
  nodup j := by
    by_cases hj : j = k
    · subst hj
      rw [Function.update_self]
      exact (h.nodup j).erase i
    · rw [Function.update_of_ne hj]
      exact h.nodup j
  mem j x := by
    have herased : x ∈ Function.update ids k ((ids k).erase i) j ↔ x ≠ i ∧ x ∈ ids j := by
      by_cases hj : j = k
      · subst hj
        rw [Function.update_self, (h.nodup j).mem_erase_iff]
      · rw [Function.update_of_ne hj]
        refine ⟨fun hmem => ⟨?_, hmem⟩, And.right⟩
        rintro rfl
        exact hj (howner j ((h.mem j x).mp hmem))
    rw [herased, h.mem]
    by_cases hx : x = i
    · subst hx
      simp
    · rw [Function.update_of_ne hx]
      simp [hx]

/-- An item goes from the list of its owner to that of another key, perhaps the same. -/
theorem move (h : ListsOwned ids owner) (howner : ∀ j, owner i = some j → j = k) (k' : K) :
    ListsOwned (Function.update (Function.update ids k ((ids k).erase i)) k'
      (Function.update ids k ((ids k).erase i) k' ++ [i])) (Function.update owner i (some k')) := by
  have hmoved := (h.erase howner).append (i := i) (Function.update_self _ _ _) k'
  rwa [Function.update_idem] at hmoved

end ListsOwned

end SubscriptionVault
