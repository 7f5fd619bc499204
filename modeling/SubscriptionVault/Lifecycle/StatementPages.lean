import SubscriptionVault.Framework.Paging
import SubscriptionVault.Lifecycle.StatementHistory

/-!
# Pages of statements

The statements of a subscription are listed by their numbers, and a page is a slice of the list,
read from its start or from its end.
-/

namespace SubscriptionVault

open Exec

/-! ## One page -/

section Page

variable {env : Env} {s : State} {id offset limit : Nat} {newestFirst : Bool} {ids : List Nat}

/-- The loop reads the statements of the next places, none of which is out of reach. -/
theorem run_collectStatements {steps i : Nat} (hwithin : steps ≤ ids.length - i) :
    (collectStatements id ids newestFirst steps i).run env s = .ok
      ((((inOrder newestFirst ids).drop i).take steps).filterMap (s.billingStatement id)) s := by
  induction steps generalizing i with
  | zero =>
    rw [List.take_zero]
    rfl
  | succ steps ih =>
    have hi : i < (inOrder newestFirst ids).length := by
      rw [length_inOrder]
      omega
    have hseq : (if newestFirst then ids[ids.length - 1 - i]? else ids[i]?) =
        some (inOrder newestFirst ids)[i] := by
      rw [← getElem?_inOrder (by omega), List.getElem?_eq_getElem hi]
    have hfound : (load (.persistent (.billingStatement id (inOrder newestFirst ids)[i]))).run env s
        = .ok (s.billingStatement id (inOrder newestFirst ids)[i]) s := rfl
    unfold collectStatements
    rw [hseq]
    refine (run_bind_of_ok rfl).trans ((run_bind_of_ok hfound).trans
      ((run_bind_of_ok (ih (by omega))).trans ?_))
    rw [List.drop_eq_getElem_cons hi, List.take_succ_cons, List.filterMap_cons]
    cases s.billingStatement id (inOrder newestFirst ids)[i] <;> rfl

/-- A page is the slice at its offset. -/
theorem run_getStatements (hlimit : 0 < limit) (hbounded : (s.statementIds id).length ≤ u32Max) :
    (getStatementsBySubscriptionOffset id offset limit newestFirst).run env s = .ok
      { statements := (((inOrder newestFirst (s.statementIds id)).drop offset).take limit).filterMap
          (s.billingStatement id)
        nextCursor := if offset + limit < (s.statementIds id).length then some (offset + limit)
          else none
        total := (s.statementIds id).length } s := by
  have hstop : min (saturatingAddU32 offset limit) (s.statementIds id).length =
      min (offset + limit) (s.statementIds id).length := by
    unfold saturatingAddU32
    omega
  have hslice : ((inOrder newestFirst (s.statementIds id)).drop offset).take
      (min (offset + limit) (s.statementIds id).length - offset) =
        ((inOrder newestFirst (s.statementIds id)).drop offset).take limit := by
    rw [List.take_eq_take_iff, List.length_drop, length_inOrder]
    omega
  have hcheck : (failIf (limit = 0) .invalidInput : Vault Unit).run env s = .ok () s := by
    rw [failIf, if_neg (by omega)]
    rfl
  have hread : (gets (·.statementIds id) : Vault (List Nat)).run env s =
      .ok (s.statementIds id) s := rfl
  have hcollect : (collectStatements id (s.statementIds id) newestFirst
      (min (offset + limit) (s.statementIds id).length - offset) offset).run env s = .ok _ s :=
    run_collectStatements (by omega)
  unfold getStatementsBySubscriptionOffset
  refine (run_bind_of_ok hcheck).trans ((run_bind_of_ok hread).trans ?_)
  dsimp only
  rw [hstop]
  refine (run_bind_of_ok hcollect).trans ?_
  rw [hslice]
  by_cases hend : offset + limit < (s.statementIds id).length
  · rw [Nat.min_eq_left (by omega), if_pos hend]
    rfl
  · rw [Nat.min_eq_right (by omega), if_neg (Nat.lt_irrefl _), if_neg hend]
    rfl

end Page

/-! ## All pages -/

/-- In every state that appends and compactions lead to, the pages from the start on are the
retained statements in order, and every page is the slice at its offset. -/
theorem statement_paging_complete {start s : State} {hist : History StatementAction State}
    {id limit : Nat} (hstart : Archived id [] [] start) (hrun : Run StatementStep start hist s)
    (hlimit : 0 < limit) (newestFirst : Bool) (env : Env) :
    (∃ pages, Traversal
        (fun cursor p =>
          (getStatementsBySubscriptionCursor id cursor limit newestFirst).run env s = .ok p s)
        (·.nextCursor.map some) none pages ∧
      pages.flatMap (·.statements) = inOrder newestFirst (s.statements id) ∧
      ∀ p ∈ pages, p.total = (s.statements id).length) ∧
    (s.statements id).Nodup ∧
    ∀ offset, ∃ p,
      (getStatementsBySubscriptionOffset id offset limit newestFirst).run env s = .ok p s ∧
      p.statements = ((inOrder newestFirst (s.statements id)).drop offset).take limit ∧
      p.total = (s.statements id).length := by
  obtain ⟨pruned, retained, -, h⟩ := archived_of_run hstart hrun
  have hbounded : (s.statementIds id).length ≤ u32Max := by
    have hfits := h.bounded
    rw [List.length_append] at hfits
    rw [h.ids, List.length_map]
    omega
  have hlength : (s.statementIds id).length = (s.statements id).length := by
    rw [h.ids, h.statements, List.length_map]
  have hslice (offset : Nat) :
      (((inOrder newestFirst (s.statementIds id)).drop offset).take limit).filterMap
        (s.billingStatement id) =
          ((inOrder newestFirst (s.statements id)).drop offset).take limit := by
    rw [h.ids, h.statements, map_inOrder, ← List.map_drop, ← List.map_take]
    exact filterMap_stored fun stmt hmem =>
      h.stored stmt (mem_inOrder.mp (List.mem_of_mem_drop (List.mem_of_mem_take hmem)))
  have hpage (offset : Nat) :
      (getStatementsBySubscriptionOffset id offset limit newestFirst).run env s = .ok _ s :=
    run_getStatements hlimit hbounded
  refine ⟨?_, ?_, fun offset => ⟨_, hpage offset, hslice offset, hlength⟩⟩
  · have hids : (inOrder newestFirst (s.statementIds id)).filterMap (s.billingStatement id) =
        inOrder newestFirst (s.statements id) := filterMap_inOrder _
    rw [← hids]
    refine Traversal.of_slices (s.billingStatement id) hlimit fun cursor =>
      ⟨_, hpage (cursor.getD 0), rfl, ?_, hlength⟩
    rw [length_inOrder]
  · have hnodup := sequences_nodup h
    rw [List.map_append] at hnodup
    rw [h.statements]
    exact hnodup.of_append_right.of_map

/-- Two statements in pages of one, the newest first. -/
theorem statement_paging_two : ∃ pages, Traversal
    (fun cursor p => (getStatementsBySubscriptionCursor 0 cursor 1 true).run (sampleEnv 90 [])
      twoStatements = .ok p twoStatements) (·.nextCursor.map some) none pages ∧
    (pages.flatMap (·.statements)).map (·.amount) = [10, 7] := by
  obtain ⟨⟨pages, htraversal, hcollected, -⟩, -⟩ := statement_paging_complete
    (empty_archived 0) twoStatements_run (show 0 < 1 by decide) true (sampleEnv 90 [])
  refine ⟨pages, htraversal, ?_⟩
  rw [hcollected]
  decide +kernel

end SubscriptionVault
