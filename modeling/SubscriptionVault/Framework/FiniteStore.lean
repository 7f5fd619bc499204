import Mathlib

/-!
# Finite dependent stores

A store maps every key to at most one value, whose type may depend on the key, and carries a
list of keys outside which it is empty. Values are read and written through `Holds`, which
names the type found at a key, so that no statement mentions the dependent family.

The key list makes the total weight of all entries a finite sum that can be evaluated. The
update lemmas for that sum are what a conservation argument needs: a write moves the total by
the difference of the new and the old weight at its own key, and by nothing else.
-/

namespace SubscriptionVault

universe u v w

variable {K : Type u} {V : K → Type v}

/-- A key-value store without entries outside `keys`. -/
structure FiniteStore (K : Type u) (V : K → Type v) where
  get : (k : K) → Option (V k)
  keys : List K
  get_eq_none_of_notMem : ∀ k, k ∉ keys → get k = none

/-- The values held at `k` have type `α`. This is data, so that a definition keeps the instance it
was written with. -/
class Holds (V : K → Type v) (k : K) (α : outParam (Type v)) : Type where
  type_eq : V k = α

namespace FiniteStore

/-- The store without entries. -/
def empty : FiniteStore K V where
  get _ := none
  keys := []
  get_eq_none_of_notMem _ _ := rfl

section Update

variable {k j : K} {α β : Type v}

/-- Read the typed value at a key. -/
def read (s : FiniteStore K V) (k : K) [h : Holds V k α] : Option α :=
  h.type_eq ▸ s.get k

@[simp] theorem read_empty [h : Holds V k α] : (empty : FiniteStore K V).read k = none := by
  obtain ⟨rfl⟩ := h
  rfl

theorem read_congr [Holds V k α] {s t : FiniteStore K V} (h : s.get k = t.get k) :
    s.read k = t.read k := by
  simp [read, h]

variable [DecidableEq K]

/-- Replace whatever is held at one key. -/
def replace (s : FiniteStore K V) (k : K) (o : Option (V k)) : FiniteStore K V where
  get := Function.update s.get k o
  keys := k :: s.keys
  get_eq_none_of_notMem j hj := by
    obtain ⟨hne, hmem⟩ := List.ne_and_not_mem_of_not_mem_cons hj
    rw [Function.update_of_ne hne]
    exact s.get_eq_none_of_notMem j hmem

@[simp] theorem get_replace_self (s : FiniteStore K V) (k : K) (o : Option (V k)) :
    (s.replace k o).get k = o := by
  simp [replace]

theorem get_replace_of_ne (s : FiniteStore K V) {k j : K} (o : Option (V k)) (h : j ≠ k) :
    (s.replace k o).get j = s.get j := by
  simp [replace, h]

/-- Write a typed value at a key. -/
def write (s : FiniteStore K V) (k : K) [h : Holds V k α] (v : α) : FiniteStore K V :=
  s.replace k (some (h.type_eq ▸ v))

/-- Drop the entry at a key. -/
def remove (s : FiniteStore K V) (k : K) : FiniteStore K V :=
  s.replace k none

@[simp] theorem read_write_self [h : Holds V k α] (s : FiniteStore K V) (v : α) :
    (s.write k v).read k = some v := by
  obtain ⟨rfl⟩ := h
  simp [read, write]

@[simp] theorem read_write_of_ne [Holds V k α] [Holds V j β] (s : FiniteStore K V) (v : α)
    (h : j ≠ k) : (s.write k v).read j = s.read j := by
  simp [read, write, get_replace_of_ne _ _ h]

@[simp] theorem read_remove_self [h : Holds V k α] (s : FiniteStore K V) :
    (s.remove k).read k = none := by
  obtain ⟨rfl⟩ := h
  simp [read, remove]

@[simp] theorem read_remove_of_ne [Holds V j β] (s : FiniteStore K V) (h : j ≠ k) :
    (s.remove k).read j = s.read j := by
  simp [read, remove, get_replace_of_ne _ _ h]

/-! Entries of one type under the keys of a family, read as a function of the index. -/

section Family

variable {ι : Type*} [DecidableEq ι] {key : ι → K} [∀ i, Holds V (key i) α]

theorem read_write_family (s : FiniteStore K V) (hkey : Function.Injective key) (j : ι) (v : α) :
    (fun i => (s.write (key j) v).read (key i)) =
      Function.update (fun i => s.read (key i)) j (some v) := by
  funext i
  by_cases hi : i = j
  · subst hi
    rw [Function.update_self, read_write_self]
  · have hne : key i ≠ key j := hkey.ne hi
    rw [Function.update_of_ne hi, read_write_of_ne s v hne]

theorem read_remove_family (s : FiniteStore K V) (hkey : Function.Injective key) (j : ι) :
    (fun i => ((s.remove (key j)).read (key i) : Option α)) =
      Function.update (fun i => s.read (key i)) j none := by
  funext i
  by_cases hi : i = j
  · subst hi
    rw [Function.update_self, read_remove_self]
  · have hne : key i ≠ key j := hkey.ne hi
    rw [Function.update_of_ne hi, read_remove_of_ne s hne]

end Family

end Update

/-! ## Frames -/

section Frame

variable {S S' : Set K} {s t u : FiniteStore K V}

/-- The stores hold the same entries outside `S`. -/
def AgreeOff (S : Set K) (s t : FiniteStore K V) : Prop :=
  ∀ k, k ∉ S → t.get k = s.get k

instance : Std.Refl (AgreeOff S : FiniteStore K V → FiniteStore K V → Prop) where
  refl _ _ _ := rfl

instance : IsTrans (FiniteStore K V) (AgreeOff S) where
  trans _ _ _ h h' k hk := (h' k hk).trans (h k hk)

theorem AgreeOff.trans (h : AgreeOff S s t) (h' : AgreeOff S t u) : AgreeOff S s u :=
  trans_of (AgreeOff S) h h'

theorem AgreeOff.mono (h : AgreeOff S s t) (hsub : S ⊆ S') : AgreeOff S' s t :=
  fun k hk => h k fun hmem => hk (hsub hmem)

theorem AgreeOff.read {k : K} {α : Type v} [Holds V k α] (h : AgreeOff S s t) (hk : k ∉ S) :
    t.read k = s.read k :=
  read_congr (h k hk)

theorem agreeOff_replace [DecidableEq K] {k : K} (s : FiniteStore K V) (o : Option (V k))
    (hk : k ∈ S) : AgreeOff S s (s.replace k o) :=
  fun _ hj => get_replace_of_ne s o fun h => hj (h ▸ hk)

/-- The same entry put into both stores. -/
theorem AgreeOff.replace [DecidableEq K] (h : AgreeOff S s t) (k : K) (o : Option (V k)) :
    AgreeOff S (s.replace k o) (t.replace k o) := by
  intro j hj
  by_cases hjk : j = k
  · subst hjk
    rw [get_replace_self, get_replace_self]
  · rw [get_replace_of_ne s o hjk, get_replace_of_ne t o hjk]
    exact h j hj

theorem agreeOff_write [DecidableEq K] {k : K} {α : Type v} [Holds V k α]
    (s : FiniteStore K V) (v : α) (hk : k ∈ S) : AgreeOff S s (s.write k v) :=
  agreeOff_replace s _ hk

/-- Writing what is there already changes nothing. -/
theorem agreeOff_write_same [DecidableEq K] {k : K} {α : Type v} [h : Holds V k α]
    {s : FiniteStore K V} {v : α} (hread : s.read k = some v) : AgreeOff S s (s.write k v) := by
  obtain ⟨rfl⟩ := h
  intro j _
  by_cases hj : j = k
  · subst hj
    exact (get_replace_self _ _ _).trans hread.symm
  · exact get_replace_of_ne _ _ hj

theorem agreeOff_remove [DecidableEq K] {k : K} (s : FiniteStore K V) (hk : k ∈ S) :
    AgreeOff S s (s.remove k) :=
  agreeOff_replace s _ hk

end Frame

/-! ## Totals -/

section Total

variable {M : Type w} [AddCommGroup M] [DecidableEq K]

/-- What the entry at `k` contributes to a total; nothing when there is no entry. -/
def contribution (s : FiniteStore K V) (weight : (k : K) → V k → M) (k : K) : M :=
  (s.get k).elim 0 (weight k)

/-- The weight of all entries together. -/
def total (s : FiniteStore K V) (weight : (k : K) → V k → M) : M :=
  ∑ k ∈ s.keys.toFinset, s.contribution weight k

theorem contribution_support_subset (s : FiniteStore K V) (weight : (k : K) → V k → M) :
    Function.support (s.contribution weight) ⊆ s.keys.toFinset := by
  intro k hk
  by_contra hmem
  exact hk (by simp [contribution, s.get_eq_none_of_notMem k (by simpa using hmem)])

/-- The total does not depend on the key list. -/
theorem total_eq_finsum (s : FiniteStore K V) (weight : (k : K) → V k → M) :
    s.total weight = ∑ᶠ k, s.contribution weight k :=
  (finsum_eq_sum_of_support_subset _ (s.contribution_support_subset weight)).symm

/-- When only the first keys of an enumeration count, the total is a sum along it. -/
theorem total_eq_sum_range (s : FiniteStore K V) (weight : (k : K) → V k → M) (key : ℕ → K)
    (hkey : Function.Injective key) (n : ℕ)
    (h : ∀ k, s.contribution weight k ≠ 0 → ∃ i < n, k = key i) :
    s.total weight = ((List.range n).map fun i => s.contribution weight (key i)).sum := by
  have hsupport : Function.support (s.contribution weight) ⊆ (Finset.range n).image key := by
    intro k hk
    obtain ⟨i, hi, rfl⟩ := h k hk
    exact Finset.mem_coe.mpr (Finset.mem_image_of_mem key (Finset.mem_range.mpr hi))
  rw [total_eq_finsum, finsum_eq_sum_of_support_subset _ hsupport,
    Finset.sum_image fun i _ j _ heq => hkey heq]
  rfl

/-- Stores that agree on every weighty key have the same total. -/
theorem total_congr {s t : FiniteStore K V} {weight : (k : K) → V k → M}
    (h : ∀ k, t.get k = s.get k ∨ ∀ v, weight k v = 0) : t.total weight = s.total weight := by
  rw [total_eq_finsum, total_eq_finsum]
  refine finsum_congr fun k => ?_
  rcases h k with h | h
  · simp [contribution, h]
  · have hzero (o : Option (V k)) : o.elim 0 (weight k) = 0 := by cases o <;> simp [h]
    simp [contribution, hzero]

theorem total_of_agreeOff {S : Set K} {s t : FiniteStore K V} {weight : (k : K) → V k → M}
    (h : AgreeOff S s t) (hS : ∀ k ∈ S, ∀ v, weight k v = 0) :
    t.total weight = s.total weight :=
  total_congr fun k => (Classical.em (k ∈ S)).elim (fun hk => Or.inr (hS k hk))
    fun hk => Or.inl (h k hk)

theorem contribution_replace (s : FiniteStore K V) (weight : (k : K) → V k → M) (k : K)
    (o : Option (V k)) :
    (s.replace k o).contribution weight =
      s.contribution weight +
        Pi.single k (o.elim 0 (weight k) - s.contribution weight k) := by
  funext j
  by_cases h : j = k
  · subst j
    simp [contribution]
  · simp [contribution, get_replace_of_ne _ _ h, h]

/-- Replacing an entry moves the total by the change at that entry. -/
theorem total_replace (s : FiniteStore K V) (weight : (k : K) → V k → M) (k : K)
    (o : Option (V k)) :
    (s.replace k o).total weight =
      s.total weight - s.contribution weight k + o.elim 0 (weight k) := by
  have hsingle : (Function.support
      (Pi.single k (o.elim 0 (weight k) - s.contribution weight k) : K → M)).Finite :=
    (Set.finite_singleton k).subset Pi.support_single_subset
  have hvalue : ∑ᶠ j, (Pi.single k (o.elim 0 (weight k) - s.contribution weight k) : K → M) j =
      o.elim 0 (weight k) - s.contribution weight k := by
    rw [finsum_eq_single _ k fun j hj => Pi.single_eq_of_ne hj _, Pi.single_eq_same]
  have hsupport : (Function.support (s.contribution weight)).Finite :=
    s.keys.toFinset.finite_toSet.subset (s.contribution_support_subset weight)
  rw [total_eq_finsum, total_eq_finsum, contribution_replace]
  simp only [Pi.add_apply]
  rw [finsum_add_distrib hsupport hsingle, hvalue]
  abel

end Total

end FiniteStore

end SubscriptionVault
