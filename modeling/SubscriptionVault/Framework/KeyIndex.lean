import Mathlib

/-!
# A map with a list of its keys

Where a map cannot be gone through, its keys are kept in a list beside it, which may be bounded. A
new key is appended to the list and a removed one taken out of it, so that the list and the map
stay in step.
-/

namespace SubscriptionVault

universe u v

variable {K : Type u} {V : Type v} {room : Nat} {keys : List K} {value : K → Option V} {k : K}

/-- The keys in the list are those with a value, each once, and there is room for them. -/
structure Indexes (room : Nat) (keys : List K) (value : K → Option V) : Prop where
  nodup : keys.Nodup
  fits : keys.length ≤ room
  listed : ∀ k, k ∈ keys ↔ (value k).isSome

theorem Indexes.value_of_notMem (h : Indexes room keys value) (hk : k ∉ keys) : value k = none :=
  Option.not_isSome_iff_eq_none.mp fun hsome => hk ((h.listed k).mpr hsome)

variable [DecidableEq K]

/-- The list once it has the key. -/
def listedWith (keys : List K) (k : K) : List K := if k ∈ keys then keys else keys ++ [k]

theorem mem_listedWith {j : K} : j ∈ listedWith keys k ↔ j ∈ keys ∨ j = k := by
  unfold listedWith
  split
  · refine ⟨.inl, fun h => h.elim id fun heq => ?_⟩
    rwa [heq]
  · rw [List.mem_append, List.mem_singleton]

namespace Indexes

/-- A key that is listed keeps its place; a new one needs room. -/
theorem set (h : Indexes room keys value) (hroom : k ∈ keys ∨ keys.length < room) (v : V) :
    Indexes room (listedWith keys k) (Function.update value k (some v)) := by
  refine ⟨?_, ?_, fun j => ?_⟩
  · unfold listedWith
    split
    · exact h.nodup
    · rename_i hnew
      refine List.nodup_append.mpr ⟨h.nodup, List.nodup_singleton k, fun a ha b hb heq => ?_⟩
      rw [heq, List.mem_singleton.mp hb] at ha
      exact hnew ha
  · unfold listedWith
    split
    · exact h.fits
    · rename_i hnew
      rw [List.length_append, List.length_singleton]
      exact hroom.resolve_left hnew
  · rw [mem_listedWith, h.listed]
    by_cases hj : j = k
    · subst hj
      simp
    · rw [Function.update_of_ne hj]
      simp [hj]

/-- A removed key leaves the list. -/
theorem unset (h : Indexes room keys value) :
    Indexes room (keys.erase k) (Function.update value k none) := by
  refine ⟨h.nodup.erase k, Nat.le_trans List.erase_sublist.length_le h.fits, fun j => ?_⟩
  rw [h.nodup.mem_erase_iff, h.listed]
  by_cases hj : j = k
  · subst hj
    simp
  · rw [Function.update_of_ne hj]
    exact and_iff_right hj

end Indexes

end SubscriptionVault
