import SubscriptionVault.Governance.Voting

/-!
# The search for an approved proposal

The approval check looks through the last ten numbers, newest first, and takes the first
unexecuted proposal that asks for the request. So a proposal is found as long as it is among
them and no newer one asks for the same.
-/

namespace SubscriptionVault

/-- Searching a sorted list finds the first hit. -/
theorem findSome?_eq_some_iff_first {α β : Type} [LinearOrder α] {l : List α}
    (hsorted : l.Pairwise (· < ·)) {f : α → Option β} {b : β} :
    l.findSome? f = some b ↔ ∃ a ∈ l, f a = some b ∧ ∀ x ∈ l, x < a → f x = none := by
  induction l with
  | nil => simp
  | cons x l ih =>
    obtain ⟨hfirst, htail⟩ := List.pairwise_cons.mp hsorted
    rw [List.findSome?_cons]
    cases hx : f x with
    | some c =>
      change some c = some b ↔ _
      constructor
      · intro heq
        refine ⟨x, List.mem_cons_self, by rw [hx, heq], ?_⟩
        intro y hy hlt
        rcases List.mem_cons.mp hy with rfl | hy
        · exact absurd hlt (lt_irrefl _)
        · exact absurd hlt (hfirst y hy).not_gt
      · rintro ⟨a, ha, hfa, hbefore⟩
        rcases List.mem_cons.mp ha with rfl | ha
        · rw [← hx, hfa]
        · have hnone := hbefore x List.mem_cons_self (hfirst a ha)
          rw [hx] at hnone
          cases hnone
    | none =>
      change l.findSome? f = some b ↔ _
      simp only [ih htail, List.mem_cons, exists_eq_or_imp, forall_eq_or_imp, hx, reduceCtorEq,
        false_and, false_or, implies_true, true_and]

namespace Registry

variable {g : Registry} {request : Request} {id : Nat} {p : Proposal}

/-- The proposal is unexecuted and asks for the request. -/
def Asks (g : Registry) (request : Request) (id : Nat) : Prop :=
  ∃ p, g.proposals id = some p ∧ p.request = request ∧ p.executed = false

/-- What the search takes at number `j`. -/
private def candidate (g : Registry) (request : Request) (j : Nat) : Option (Nat × Proposal) :=
  match g.proposals j with
  | some p => if p.request = request ∧ p.executed = false then some (j, p) else none
  | none => none

private theorem candidate_eq_some_iff {j : Nat} : candidate g request j = some (id, p) ↔
    j = id ∧ g.proposals j = some p ∧ p.request = request ∧ p.executed = false := by
  unfold candidate
  cases g.proposals j with
  | none => simp
  | some q =>
    by_cases hq : q.request = request ∧ q.executed = false
    · simp only [if_pos hq, Option.some.injEq, Prod.mk.injEq]
      constructor
      · rintro ⟨rfl, rfl⟩
        exact ⟨rfl, rfl, hq⟩
      · rintro ⟨rfl, rfl, -⟩
        exact ⟨rfl, rfl⟩
    · simp only [if_neg hq, reduceCtorEq, Option.some.injEq, false_iff]
      rintro ⟨-, rfl, hp⟩
      exact hq hp

private theorem candidate_eq_none_iff {j : Nat} :
    candidate g request j = none ↔ ¬g.Asks request j := by
  unfold candidate Asks
  cases g.proposals j <;> simp

theorem matching_eq_some_iff :
    g.matching request = some (id, p) ↔
      id ≤ g.nextProposalId ∧ g.nextProposalId < id + 10 ∧ g.proposals id = some p ∧
        p.request = request ∧ p.executed = false ∧
        ∀ j, id < j → j ≤ g.nextProposalId → ¬g.Asks request j := by
  have hsorted : ((List.range 10).filter (· ≤ g.nextProposalId)).Pairwise (· < ·) :=
    List.Pairwise.filter _ List.pairwise_lt_range
  have hmem (i : Nat) :
      i ∈ (List.range 10).filter (· ≤ g.nextProposalId) ↔ i < 10 ∧ i ≤ g.nextProposalId := by
    simp
  have hsearch : g.matching request = ((List.range 10).filter (· ≤ g.nextProposalId)).findSome?
      fun i => candidate g request (g.nextProposalId - i) := rfl
  rw [hsearch, findSome?_eq_some_iff_first hsorted]
  simp only [hmem, candidate_eq_some_iff, candidate_eq_none_iff]
  constructor
  · rintro ⟨i, ⟨hten, hle⟩, ⟨hid, hstored, hrequest, hfresh⟩, hbefore⟩
    refine ⟨by omega, by omega, hid ▸ hstored, hrequest, hfresh, ?_⟩
    intro j hlt hj
    have hmissed := hbefore (g.nextProposalId - j) ⟨by omega, by omega⟩ (by omega)
    rwa [Nat.sub_sub_self hj] at hmissed
  · rintro ⟨hle, hten, hstored, hrequest, hfresh, hnewest⟩
    have hid : g.nextProposalId - (g.nextProposalId - id) = id := Nat.sub_sub_self hle
    refine ⟨g.nextProposalId - id, ⟨by omega, by omega⟩, ⟨hid, ?_, hrequest, hfresh⟩, ?_⟩
    · rwa [hid]
    · rintro i ⟨-, hi⟩ hlt
      exact hnewest (g.nextProposalId - i) (by omega) (by omega)

end Registry

end SubscriptionVault
