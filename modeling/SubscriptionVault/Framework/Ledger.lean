import SubscriptionVault.Framework.Execution
import SubscriptionVault.Framework.FiniteStore

/-!
# Ledgers

Some entries of a store are amounts, and a weight picks those that count. Code posts an amount
when every successful run of it raises the total weight by that amount, whatever it writes
elsewhere. Postings add up along a program.
-/

namespace SubscriptionVault

universe u v w

variable {K : Type u} {V : K → Type v} {M : Type w} [AddCommGroup M] [DecidableEq K]

namespace FiniteStore

/-- A write moves the total by the change of one entry. -/
theorem total_write {k : K} {α : Type v} [h : Holds V k α] (s : FiniteStore K V)
    (weight : (k : K) → V k → M) (v : α) :
    (s.write k v).total weight = s.total weight -
      (s.read k).elim 0 (fun old => weight k (h.type_eq ▸ old)) + weight k (h.type_eq ▸ v) := by
  obtain ⟨rfl⟩ := h
  exact s.total_replace weight k (some v)

end FiniteStore

namespace Exec

variable {ρ ε α β : Type} {κ : Type} {W : κ → Type} {N : Type} [AddCommGroup N] [DecidableEq κ]
  {weight : (k : κ) → W k → N} {amount amount' : N} {x : Exec ρ ε (FiniteStore κ W) α}

/-- Successful runs raise the total weight by `amount`. -/
def Posts (weight : (k : κ) → W k → N) (amount : N) (x : Exec ρ ε (FiniteStore κ W) α) : Prop :=
  ∀ r s a t, x.run r s = .ok a t → t.total weight = s.total weight + amount

namespace Posts

/-- Nothing with a weight is written. -/
theorem quiet {S : Set κ} (h : x.Keeps (FiniteStore.AgreeOff S))
    (hS : ∀ k ∈ S, ∀ v, weight k v = 0) : x.Posts weight 0 := by
  intro r s a t hrun
  rw [add_zero]
  exact FiniteStore.total_of_agreeOff (h.ok hrun) hS

end Posts

end Exec

end SubscriptionVault
