import SubscriptionVault.Contract.Entrypoints
import SubscriptionVault.Contract.Statements
import SubscriptionVault.Framework.Transition

/-!
# Compacted statements

What a compaction deletes lives on in the aggregate: together with the statements that are kept
it accounts for everything that was ever appended. The statements of a subscription are a list
split in two, of which the first part is known by its totals only.
-/

namespace SubscriptionVault

open Exec

/-! ## Totals -/

def totalOf (stmts : List BillingStatement) : Int := (stmts.map (·.amount)).sum

/-- The statements of one kind of charge. -/
def ofKind (kind : BillingChargeKind) (stmts : List BillingStatement) : List BillingStatement :=
  stmts.filter (·.kind = kind)

def AccruedTotals.ofKind (totals : AccruedTotals) : BillingChargeKind → Int
  | .interval => totals.interval
  | .usage => totals.usage
  | .oneOff => totals.oneOff

def accruedBy (stmts : List BillingStatement) : AccruedTotals where
  interval := totalOf (ofKind .interval stmts)
  usage := totalOf (ofKind .usage stmts)
  oneOff := totalOf (ofKind .oneOff stmts)

def PrunedTotals.of (stmts : List BillingStatement) : PrunedTotals where
  amount := totalOf stmts
  totals := accruedBy stmts
  oldest := (stmts.map (·.periodStart)).min?
  newest := (stmts.map (·.periodEnd)).max?

/-- The aggregate of the statements that were pruned. -/
def aggregateOf (stmts : List BillingStatement) : BillingStatementAggregate where
  prunedCount := stmts.length
  totalAmount := totalOf stmts
  totals := accruedBy stmts
  oldestPeriodStart := (stmts.map (·.periodStart)).min?
  newestPeriodEnd := (stmts.map (·.periodEnd)).max?

section Totals

variable {stmts batch : List BillingStatement} {stmt : BillingStatement}
  {kind : BillingChargeKind}

theorem accruedBy_ofKind (stmts : List BillingStatement) (kind : BillingChargeKind) :
    (accruedBy stmts).ofKind kind = totalOf (ofKind kind stmts) := by
  cases kind <;> rfl

theorem totalOf_append : totalOf (stmts ++ batch) = totalOf stmts + totalOf batch := by
  unfold totalOf
  rw [List.map_append, List.sum_append]

theorem ofKind_append : ofKind kind (stmts ++ batch) = ofKind kind stmts ++ ofKind kind batch :=
  List.filter_append ..

theorem totalOf_ofKind_append : totalOf (ofKind kind (stmts ++ batch)) =
    totalOf (ofKind kind stmts) + totalOf (ofKind kind batch) := by
  rw [ofKind_append, totalOf_append]

theorem totalOf_ofKind_single : totalOf (ofKind kind [stmt]) =
    if stmt.kind = kind then stmt.amount else 0 := by
  unfold totalOf ofKind
  by_cases h : stmt.kind = kind <;> simp [h]

theorem min?_append (xs ys : List Nat) : (xs ++ ys).min? = xs.min?.merge min ys.min? := by
  induction xs with
  | nil =>
    rw [List.nil_append]
    cases ys.min? <;> rfl
  | cons x xs ih =>
    rw [List.cons_append, List.min?_cons, ih, List.min?_cons]
    cases xs.min? <;> cases ys.min? <;> simp [Option.merge, Nat.min_assoc]

theorem max?_append (xs ys : List Nat) : (xs ++ ys).max? = xs.max?.merge max ys.max? := by
  induction xs with
  | nil =>
    rw [List.nil_append]
    cases ys.max? <;> rfl
  | cons x xs ih =>
    rw [List.cons_append, List.max?_cons, ih, List.max?_cons]
    cases xs.max? <;> cases ys.max? <;> simp [Option.merge, Nat.max_assoc]

theorem accruedBy_append : accruedBy (stmts ++ batch) =
    { interval := (accruedBy stmts).interval + (accruedBy batch).interval
      usage := (accruedBy stmts).usage + (accruedBy batch).usage
      oneOff := (accruedBy stmts).oneOff + (accruedBy batch).oneOff } := by
  simp only [accruedBy, totalOf_ofKind_append]

theorem accruedBy_accrue {totals : AccruedTotals}
    (haccrue : (accruedBy stmts).accrue stmt.kind stmt.amount = .ok totals) :
    totals = accruedBy (stmts ++ [stmt]) := by
  unfold AccruedTotals.accrue at haccrue
  rw [accruedBy_append]
  cases hkind : stmt.kind <;>
  · rw [hkind] at haccrue
    obtain ⟨_, hsum, rfl⟩ := except_map_ok.mp haccrue
    obtain ⟨rfl, -⟩ := checkedI128_ok.mp hsum
    simp [accruedBy, totalOf_ofKind_single, hkind]

/-- The loop's totals are those of the statements it has passed. -/
theorem PrunedTotals.add_of {pruned : PrunedTotals}
    (hadd : (PrunedTotals.of stmts).add stmt = .ok pruned) :
    pruned = PrunedTotals.of (stmts ++ [stmt]) := by
  obtain ⟨amount, hamount, hadd⟩ := except_bind_ok.mp hadd
  obtain ⟨totals, htotals, hadd⟩ := except_bind_ok.mp hadd
  obtain ⟨rfl, -⟩ := checkedI128_ok.mp hamount
  obtain rfl := accruedBy_accrue htotals
  cases hadd
  simp only [PrunedTotals.of, List.map_append, List.map_cons, List.map_nil, min?_append,
    max?_append, PrunedTotals.mk.injEq, true_and]
  refine ⟨?_, ?_, ?_⟩
  · rw [totalOf_append]
    simp [totalOf]
  · cases (stmts.map (·.periodStart)).min? <;> rfl
  · cases (stmts.map (·.periodEnd)).max? <;> rfl

/-- Folding a batch into the aggregate gives the aggregate of both. -/
theorem aggregateOf_fold {agg : BillingStatementAggregate}
    (hfold : (aggregateOf stmts).fold batch.length (PrunedTotals.of batch) = .ok agg) :
    agg = aggregateOf (stmts ++ batch) := by
  obtain ⟨count, hcount, hfold⟩ := except_bind_ok.mp hfold
  obtain ⟨total, htotal, hfold⟩ := except_bind_ok.mp hfold
  obtain ⟨interval, hinterval, hfold⟩ := except_bind_ok.mp hfold
  obtain ⟨usage, husage, hfold⟩ := except_bind_ok.mp hfold
  obtain ⟨oneOff, honeOff, hfold⟩ := except_bind_ok.mp hfold
  obtain ⟨rfl, -⟩ := checkedI128_ok.mp htotal
  obtain ⟨rfl, -⟩ := checkedI128_ok.mp hinterval
  obtain ⟨rfl, -⟩ := checkedI128_ok.mp husage
  obtain ⟨rfl, -⟩ := checkedI128_ok.mp honeOff
  have hlength : count = stmts.length + batch.length := by
    unfold checkedAddU32 at hcount
    split at hcount <;> cases hcount
    rfl
  cases hfold
  unfold aggregateOf PrunedTotals.of
  rw [accruedBy_append, totalOf_append, List.length_append, List.map_append, List.map_append,
    min?_append, max?_append, hlength]

end Totals

/-! ## The ledger of one subscription -/

/-- Where the statements of a subscription are kept. -/
def statementRecords (id : Nat) : Set Slot :=
  {k | k = .persistent (.billingStatementsBySubscription id) ∨
    k = .persistent (.billingStatementSequence id) ∨
    k = .persistent (.billingStatementAggregate id) ∨
    ∃ seq, k = .persistent (.billingStatement id seq)}

theorem statementRecords_disjoint {id other : Nat} (hne : other ≠ id) {k : Slot}
    (hk : k ∈ statementRecords id) : k ∉ statementRecords other := by
  intro hother
  rcases hk with rfl | rfl | rfl | ⟨seq, rfl⟩ <;>
  · rcases hother with h | h | h | ⟨_, h⟩ <;> cases h
    exact hne rfl

/-- The statements of the subscription are `pruned`, known by their totals, and after them
`retained`, which are listed and stored under consecutive numbers. -/
structure Archived (id : Nat) (pruned retained : List BillingStatement) (s : State) : Prop where
  aggregate : s.getCompactedAggregate id = aggregateOf pruned
  ids : s.statementIds id = retained.map (·.sequence)
  stored : ∀ stmt ∈ retained, s.billingStatement id stmt.sequence = some stmt
  sequence : s.statementSequence id = (pruned ++ retained).length
  numbered : (pruned ++ retained).map (·.sequence) = List.range' 1 (pruned ++ retained).length
  bounded : (pruned ++ retained).length ≤ u32Max

section Ledger

variable {env : Env} {s t : State} {id other : Nat} {pruned retained todo : List BillingStatement}

theorem Archived.of_same (h : Archived id pruned retained s)
    (hsame : ∀ k ∈ statementRecords id, t.get k = s.get k) : Archived id pruned retained t := by
  have hread {α : Type} (k : Slot) [Holds Slot.Val k α] (hk : k ∈ statementRecords id) :
      t.read k = s.read k := FiniteStore.read_congr (hsame k hk)
  constructor
  · unfold State.getCompactedAggregate
    rw [hread _ (.inr (.inr (.inl rfl)))]
    exact h.aggregate
  · unfold State.statementIds
    rw [hread _ (.inl rfl)]
    exact h.ids
  · intro stmt hmem
    unfold State.billingStatement
    rw [hread _ (.inr (.inr (.inr ⟨_, rfl⟩)))]
    exact h.stored stmt hmem
  · unfold State.statementSequence
    rw [hread _ (.inr (.inl rfl))]
    exact h.sequence
  · exact h.numbered
  · exact h.bounded

theorem Archived.of_agree (h : Archived id pruned retained s) (hne : other ≠ id)
    (hagree : FiniteStore.AgreeOff (statementRecords other) s t) : Archived id pruned retained t :=
  h.of_same fun k hk => hagree k (statementRecords_disjoint hne hk)

theorem appendStatement_slots (id : Nat) (amount : Int) (merchant token : Address)
    (kind : BillingChargeKind) (periodStart timestamp : Nat) : Modifies (statementRecords id)
      (appendStatement id amount merchant token kind periodStart timestamp) :=
  .bind (.gets _) fun _ => .bind (.okOr _ _) fun _ =>
    .bind (Modifies.store (.inr (.inl rfl))) fun _ =>
    .bind (Modifies.store (.inr (.inr (.inr ⟨_, rfl⟩)))) fun _ => .bind Modifies.load fun _ =>
    Modifies.store (.inl rfl)

theorem pruneStatements_slots (id : Nat) (seqs : List Nat) (pruned : PrunedTotals) :
    Modifies (statementRecords id) (pruneStatements id seqs pruned) := by
  induction seqs generalizing pruned with
  | nil => exact .pure _
  | cons seq rest ih =>
    have hrest (added : PrunedTotals) : Modifies (statementRecords id) (do
        delete (.persistent (.billingStatement id seq))
        pruneStatements id rest added) :=
      .bind (Modifies.delete (.inr (.inr (.inr ⟨_, rfl⟩)))) fun _ => ih _
    refine .bind Modifies.load fun found => ?_
    cases found with
    | none => exact .bind (.pure _) fun _ => hrest _
    | some stmt => exact .bind (.lift _) fun _ => hrest _

theorem compactSubscriptionStatements_slots (id : Nat) (keep : Option Nat) :
    Modifies (statementRecords id) (compactSubscriptionStatements id keep) :=
  .bind (.gets _) fun _ => .bind (.gets _) fun _ => .ite (.pure _) <|
    .bind (pruneStatements_slots id _ _) fun _ => .bind (Modifies.store (.inl rfl)) fun _ =>
    .bind (.gets _) fun _ => .bind (.lift _) fun _ =>
    .bind (Modifies.store (.inr (.inr (.inl rfl)))) fun _ => .pure _

/-- The loop adds up the statements it deletes, and touches nothing else. -/
theorem pruneStatements_of {passed : List BillingStatement} {totals : PrunedTotals}
    (hstored : ∀ stmt ∈ todo, s.billingStatement id stmt.sequence = some stmt)
    (hnodup : (todo.map (·.sequence)).Nodup)
    (hrun : (pruneStatements id (todo.map (·.sequence)) (PrunedTotals.of passed)).run env s =
      .ok totals t) :
    totals = PrunedTotals.of (passed ++ todo) ∧ FiniteStore.AgreeOff
      {k | ∃ stmt ∈ todo, k = .persistent (.billingStatement id stmt.sequence)} s t := by
  induction todo generalizing passed s with
  | nil =>
    obtain ⟨rfl, rfl⟩ := run_pure_ok.mp hrun
    rw [List.append_nil]
    exact ⟨rfl, fun _ _ => rfl⟩
  | cons stmt rest ih =>
    obtain ⟨hfresh, hnodup⟩ := List.nodup_cons.mp hnodup
    obtain ⟨found, hfound, hrun⟩ := run_check_ok Modifies.load hrun
    obtain rfl := (run_load_ok.mp hfound).1
    have hread : s.read (.persistent (.billingStatement id stmt.sequence)) = some stmt :=
      hstored stmt List.mem_cons_self
    rw [hread] at hrun
    obtain ⟨added, hadd, hrun⟩ := run_check_ok (.lift _) hrun
    obtain rfl := PrunedTotals.add_of (run_lift_ok.mp hadd).1
    obtain ⟨_, s₁, hdelete, hrun⟩ := run_bind_ok.mp hrun
    have hdeleted := (Modifies.delete (S := {Slot.persistent (.billingStatement id stmt.sequence)})
      rfl).ok hdelete
    have hkept : ∀ later ∈ rest, s₁.billingStatement id later.sequence = some later := by
      intro later hmem
      refine (hdeleted.read ?_).trans (hstored later (List.mem_cons_of_mem _ hmem))
      intro heq
      obtain ⟨-, hseq⟩ := DataKey.billingStatement.inj (Slot.persistent.inj heq)
      exact hfresh (List.mem_map.mpr ⟨later, hmem, hseq⟩)
    obtain ⟨htotals, hagree⟩ := ih hkept hnodup hrun
    rw [List.append_assoc] at htotals
    refine ⟨htotals, (hdeleted.mono ?_).trans (hagree.mono ?_)⟩
    · rintro k rfl
      exact ⟨stmt, List.mem_cons_self, rfl⟩
    · rintro k ⟨later, hmem, rfl⟩
      exact ⟨later, List.mem_cons_of_mem _ hmem, rfl⟩

theorem sequences_nodup (h : Archived id pruned retained s) :
    ((pruned ++ retained).map (·.sequence)).Nodup := by
  rw [h.numbered]
  exact List.nodup_range'

/-- A compaction moves statements from the front of those retained to the end of those pruned. -/
theorem compactSubscriptionStatements_archived {keep : Option Nat}
    {summary : BillingCompactionSummary} (h : Archived id pruned retained s)
    (hrun : (compactSubscriptionStatements id keep).run env s = .ok summary t) :
    ∃ batch kept, retained = batch ++ kept ∧ Archived id (pruned ++ batch) kept t := by
  obtain ⟨config, hconfig, hrun⟩ := run_check_ok (.gets _) hrun
  obtain ⟨ids, hids, hrun⟩ := run_check_ok (.gets _) hrun
  obtain rfl := (run_gets_ok.mp hids).1
  dsimp only at hrun
  split at hrun
  · obtain ⟨-, rfl⟩ := run_pure_ok.mp hrun
    exact ⟨[], retained, rfl, by rwa [List.append_nil]⟩
  · rw [h.ids, List.length_map, ← List.map_take, ← List.map_drop] at hrun
    generalize hcount : retained.length - keep.getD config.keepRecent = count at hrun
    refine ⟨retained.take count, retained.drop count, (List.take_append_drop ..).symm, ?_⟩
    obtain ⟨totals, s₁, hprune, hrun⟩ := run_bind_ok.mp hrun
    obtain ⟨_, s₂, hindex, hrun⟩ := run_bind_ok.mp hrun
    obtain ⟨agg, hagg, hrun⟩ := run_check_ok (.gets _) hrun
    obtain rfl := (run_gets_ok.mp hagg).1
    obtain ⟨folded, hfolded, hrun⟩ := run_check_ok (.lift _) hrun
    obtain ⟨_, s₃, haggregate, hrun⟩ := run_bind_ok.mp hrun
    obtain ⟨-, rfl⟩ := run_pure_ok.mp hrun
    have hsplit : retained.take count ++ retained.drop count = retained :=
      List.take_append_drop ..
    have hnodup := sequences_nodup h
    rw [List.map_append] at hnodup
    have hbatch : ((retained.take count).map (·.sequence)).Nodup :=
      hnodup.of_append_right.sublist ((List.take_sublist ..).map _)
    obtain ⟨rfl, hpruned⟩ := @pruneStatements_of _ _ _ _ _ [] _
      (fun stmt hmem => h.stored stmt (List.mem_of_mem_take hmem)) hbatch hprune
    have hlength : (retained.take count).length = count := by
      rw [List.length_take]
      omega
    obtain rfl := run_store_ok.mp hindex
    obtain rfl := run_store_ok.mp haggregate
    have hread {α : Type} (k : Slot) [Holds Slot.Val k α]
        (hstatement : ∀ seq, k ≠ .persistent (.billingStatement id seq)) : s₁.read k = s.read k :=
      hpruned.read fun hmem => by
        obtain ⟨stmt, -, hk⟩ := hmem
        exact hstatement _ hk
    have hold (seqs : List Nat) : State.getCompactedAggregate
        (s₁.write (.persistent (.billingStatementsBySubscription id)) seqs) id =
          aggregateOf pruned := by
      unfold State.getCompactedAggregate
      rw [FiniteStore.read_write_of_ne _ _ (by nofun), hread _ (by nofun)]
      exact h.aggregate
    have hfold := (run_lift_ok.mp hfolded).1
    rw [hold, List.nil_append] at hfold
    nth_rewrite 1 [← hlength] at hfold
    obtain rfl := aggregateOf_fold hfold
    constructor
    · unfold State.getCompactedAggregate
      rw [FiniteStore.read_write_self]
      rfl
    · unfold State.statementIds
      rw [FiniteStore.read_write_of_ne _ _ (by nofun), FiniteStore.read_write_self]
      rfl
    · intro stmt hmem
      have hnew : stmt.sequence ∉ (retained.take count).map (·.sequence) := by
        intro hpast
        rw [← hsplit, List.map_append] at hnodup
        exact (List.disjoint_of_nodup_append hnodup.of_append_right) hpast
          (List.mem_map_of_mem hmem)
      unfold State.billingStatement
      rw [FiniteStore.read_write_of_ne _ _ (by nofun),
        FiniteStore.read_write_of_ne _ _ (by nofun)]
      refine (hpruned.read fun hslot => ?_).trans (h.stored stmt (List.mem_of_mem_drop hmem))
      obtain ⟨past, hpast, hk⟩ := hslot
      obtain ⟨-, hseq⟩ := DataKey.billingStatement.inj (Slot.persistent.inj hk)
      exact hnew (List.mem_map.mpr ⟨past, hpast, hseq.symm⟩)
    · unfold State.statementSequence
      rw [FiniteStore.read_write_of_ne _ _ (by nofun),
        FiniteStore.read_write_of_ne _ _ (by nofun), hread _ (by nofun), List.append_assoc, hsplit]
      exact h.sequence
    · rw [List.append_assoc, hsplit]
      exact h.numbered
    · rw [List.append_assoc, hsplit]
      exact h.bounded

end Ledger

/-! ## Runs -/

/-- What is handed over for a new statement. -/
structure NewStatement where
  subscriptionId : Nat
  amount : Int
  merchant : Address
  token : Address
  kind : BillingChargeKind
  periodStart : Nat
  timestamp : Nat

namespace NewStatement

def exec (new : NewStatement) : Vault Unit :=
  appendStatement new.subscriptionId new.amount new.merchant new.token new.kind new.periodStart
    new.timestamp

/-- The statement under its number. -/
def numbered (new : NewStatement) (sequence : Nat) : BillingStatement where
  subscriptionId := new.subscriptionId
  sequence := sequence
  chargedAt := new.timestamp
  periodStart := new.periodStart
  periodEnd := new.timestamp
  amount := new.amount
  merchant := new.merchant
  token := new.token
  kind := new.kind

/-- A new statement comes after all that are there. -/
theorem exec_archived {new : NewStatement} {env : Env} {s t : State}
    {pruned retained : List BillingStatement}
    (h : Archived new.subscriptionId pruned retained s) (hrun : new.exec.run env s = .ok () t) :
    Archived new.subscriptionId pruned
      (retained ++ [new.numbered (s.statementSequence new.subscriptionId + 1)]) t := by
  obtain ⟨seq, hseq, hrun⟩ := run_check_ok (.gets _) hrun
  obtain rfl := (run_gets_ok.mp hseq).1
  obtain ⟨next, hnext, hrun⟩ := run_check_ok (.okOr _ _) hrun
  obtain ⟨_, s₁, hsequence, hrun⟩ := run_bind_ok.mp hrun
  obtain ⟨_, s₂, hstatement, hrun⟩ := run_bind_ok.mp hrun
  obtain ⟨ids, hids, hindex⟩ := run_check_ok Modifies.load hrun
  obtain rfl := (run_load_ok.mp hids).1
  obtain rfl := run_store_ok.mp hsequence
  obtain rfl := run_store_ok.mp hstatement
  obtain rfl := run_store_ok.mp hindex
  obtain ⟨rfl, hfits⟩ : s.statementSequence new.subscriptionId + 1 = next ∧ next ≤ u32Max := by
    have hchecked := (run_okOr_ok.mp hnext).1
    unfold checkedAddU32 at hchecked
    split at hchecked <;> cases hchecked
    exact ⟨rfl, by assumption⟩
  have hlast : ∀ stmt ∈ retained, stmt.sequence ≠ s.statementSequence new.subscriptionId + 1 := by
    intro stmt hmem heq
    have hnumber : stmt.sequence ∈ (pruned ++ retained).map (·.sequence) :=
      List.mem_map_of_mem (List.mem_append_right pruned hmem)
    rw [h.numbered, List.mem_range'_1] at hnumber
    have hsequence := h.sequence
    omega
  have hlength (stmt : BillingStatement) :
      (pruned ++ (retained ++ [stmt])).length = (pruned ++ retained).length + 1 := by
    rw [← List.append_assoc, List.length_append, List.length_singleton]
  constructor
  · unfold State.getCompactedAggregate
    rw [FiniteStore.read_write_of_ne _ _ (by nofun), FiniteStore.read_write_of_ne _ _ (by nofun),
      FiniteStore.read_write_of_ne _ _ (by nofun)]
    exact h.aggregate
  · unfold State.statementIds
    rw [FiniteStore.read_write_self, FiniteStore.read_write_of_ne _ _ (by nofun),
      FiniteStore.read_write_of_ne _ _ (by nofun), List.map_append]
    exact congrArg (· ++ [s.statementSequence new.subscriptionId + 1]) h.ids
  · intro stmt hmem
    unfold State.billingStatement
    rw [FiniteStore.read_write_of_ne _ _ (by nofun)]
    rcases List.mem_append.mp hmem with hold | hnew
    · rw [FiniteStore.read_write_of_ne _ _ ?_, FiniteStore.read_write_of_ne _ _ (by nofun)]
      · exact h.stored stmt hold
      · intro heq
        exact hlast stmt hold (DataKey.billingStatement.inj (Slot.persistent.inj heq)).2
    · obtain rfl := List.mem_singleton.mp hnew
      exact FiniteStore.read_write_self _ _
  · unfold State.statementSequence
    rw [FiniteStore.read_write_of_ne _ _ (by nofun), FiniteStore.read_write_of_ne _ _ (by nofun),
      FiniteStore.read_write_self, hlength]
    exact congrArg (· + 1) h.sequence
  · rw [hlength, ← List.append_assoc, List.map_append, h.numbered, List.range'_1_concat,
      ← h.sequence]
    simp [numbered, Nat.add_comm]
  · rw [hlength, ← h.sequence]
    exact hfits

end NewStatement

inductive StatementAction where
  | append (env : Env) (new : NewStatement)
  | compact (env : Env) (id : Nat) (keepRecentOverride : Option Nat)
  | setRetention (env : Env) (keepRecent : Nat)
  | other

/-- A failed call leaves no trace; whatever else the vault does keeps off the statements. -/
def StatementStep : StatementAction → State → State → Prop
  | .append env new, s, t => t = new.exec.after env s
  | .compact env id keep, s, t => t = (effectOf (compactSubscriptionStatements id keep)).after env s
  | .setRetention env keep, s, t => t = (setRetentionConfig keep).after env s
  | .other, s, t => ∀ id, ∀ k ∈ statementRecords id, t.get k = s.get k

/-- All statements that were ever appended for the subscription, in that order. -/
def appendedTo (id : Nat) : History StatementAction State → List BillingStatement
  | [] => []
  | (.append env new, s) :: earlier => appendedTo id earlier ++
      if new.subscriptionId = id ∧ new.exec.succeeds env s then
        [new.numbered (s.statementSequence id + 1)]
      else []
  | _ :: earlier => appendedTo id earlier

/-- The retained statements, as they are listed. -/
def State.statements (s : State) (id : Nat) : List BillingStatement :=
  (s.statementIds id).filterMap (s.billingStatement id)

/-- The retained statements and the aggregate account for everything that was appended. -/
structure AccountsFor (id : Nat) (appended : List BillingStatement) (s : State) : Prop where
  total : totalOf (s.statements id) + (s.getCompactedAggregate id).totalAmount = totalOf appended
  kinds : ∀ kind, totalOf (ofKind kind (s.statements id)) +
    (s.getCompactedAggregate id).totals.ofKind kind = totalOf (ofKind kind appended)
  count : (s.getCompactedAggregate id).prunedCount + (s.statements id).length = appended.length
  recent : s.statements id = appended.drop (s.getCompactedAggregate id).prunedCount
  listed : s.statementIds id = (s.statements id).map (·.sequence)
  increasing : (s.statementIds id).Pairwise (· < ·)
  oldest : (s.getCompactedAggregate id).oldestPeriodStart =
    ((appended.take (s.getCompactedAggregate id).prunedCount).map (·.periodStart)).min?
  newest : (s.getCompactedAggregate id).newestPeriodEnd =
    ((appended.take (s.getCompactedAggregate id).prunedCount).map (·.periodEnd)).max?

section History

variable {start s t : State} {id : Nat} {pruned retained : List BillingStatement}
  {hist : History StatementAction State}

/-- Stored statements are found under their numbers. -/
theorem filterMap_stored {stmts : List BillingStatement}
    (hstored : ∀ stmt ∈ stmts, s.billingStatement id stmt.sequence = some stmt) :
    (stmts.map (·.sequence)).filterMap (s.billingStatement id) = stmts := by
  induction stmts with
  | nil => rfl
  | cons stmt rest ih =>
    rw [List.map_cons, List.filterMap_cons_some (hstored stmt List.mem_cons_self),
      ih fun later hmem => hstored later (List.mem_cons_of_mem _ hmem)]

theorem Archived.statements (h : Archived id pruned retained s) : s.statements id = retained := by
  unfold State.statements
  rw [h.ids, filterMap_stored h.stored]

theorem Archived.accountsFor (h : Archived id pruned retained s) :
    AccountsFor id (pruned ++ retained) s := by
  have hcount : (s.getCompactedAggregate id).prunedCount = pruned.length := by
    rw [h.aggregate]
    rfl
  have hincreasing : ((pruned ++ retained).map (·.sequence)).Pairwise (· < ·) := by
    rw [h.numbered]
    exact List.pairwise_lt_range'
  rw [List.map_append] at hincreasing
  constructor
  · rw [h.statements, h.aggregate, totalOf_append]
    exact Int.add_comm _ _
  · intro kind
    rw [h.statements, h.aggregate, totalOf_ofKind_append, ← accruedBy_ofKind pruned]
    exact Int.add_comm _ _
  · rw [hcount, h.statements, List.length_append]
  · rw [hcount, h.statements, List.drop_left]
  · rw [h.ids, h.statements]
  · rw [h.ids]
    exact (List.pairwise_append.mp hincreasing).2.1
  · rw [hcount, List.take_left, h.aggregate]
    rfl
  · rw [hcount, List.take_left, h.aggregate]
    rfl

/-- One step keeps the split of everything appended so far. -/
theorem StatementStep.archived {l : StatementAction} (hstep : StatementStep l s t)
    (h : ∃ pruned retained, appendedTo id hist = pruned ++ retained ∧
      Archived id pruned retained s) :
    ∃ pruned retained, appendedTo id ((l, s) :: hist) = pruned ++ retained ∧
      Archived id pruned retained t := by
  obtain ⟨pruned, retained, happended, h⟩ := h
  cases l with
  | append env new =>
    obtain rfl := hstep
    unfold appendedTo
    rw [happended]
    by_cases hok : new.exec.succeeds env s = true
    · have hrun := run_eq_after hok
      by_cases hid : new.subscriptionId = id
      · subst hid
        rw [if_pos ⟨rfl, hok⟩, List.append_assoc]
        exact ⟨_, _, rfl, NewStatement.exec_archived h hrun⟩
      · rw [if_neg fun hboth => hid hboth.1, List.append_nil]
        exact ⟨_, _, rfl, h.of_agree hid ((appendStatement_slots _ _ _ _ _ _ _).ok hrun)⟩
    · rw [if_neg fun hboth => hok hboth.2, List.append_nil,
        after_of_not_ok fun t hrun => hok (succeeds_of_ok hrun)]
      exact ⟨_, _, rfl, h⟩
  | compact env other keep =>
    obtain rfl := hstep
    unfold appendedTo
    rw [happended]
    by_cases hok : (effectOf (compactSubscriptionStatements other keep)).succeeds env s = true
    · obtain ⟨summary, hrun⟩ := run_effectOf_ok.mp (run_eq_after hok)
      by_cases hid : other = id
      · subst hid
        obtain ⟨batch, kept, rfl, hcompacted⟩ := compactSubscriptionStatements_archived h hrun
        exact ⟨_, _, (List.append_assoc ..).symm, hcompacted⟩
      · exact ⟨_, _, rfl, h.of_agree hid ((compactSubscriptionStatements_slots _ _).ok hrun)⟩
    · rw [after_of_not_ok fun t hrun => hok (succeeds_of_ok hrun)]
      exact ⟨_, _, rfl, h⟩
  | setRetention env keep =>
    obtain rfl := hstep
    refine ⟨_, _, happended, h.of_same fun k hk => ?_⟩
    refine (Modifies.store (S := {Slot.instanced .billingRetentionConfig}) rfl).ok
      (run_eq_after rfl) k fun heq => ?_
    obtain rfl := heq
    rcases hk with hk | hk | hk | ⟨_, hk⟩ <;> cases hk
  | other => exact ⟨_, _, happended, h.of_same (hstep id)⟩

theorem archived_of_run (hstart : Archived id [] [] start)
    (hrun : Run StatementStep start hist s) : ∃ pruned retained,
      appendedTo id hist = pruned ++ retained ∧ Archived id pruned retained s :=
  hrun.invariant (I := fun hist s => ∃ pruned retained, appendedTo id hist = pruned ++ retained ∧
    Archived id pruned retained s) ⟨[], [], rfl, hstart⟩ fun _ _ _ _ h hstep => hstep.archived h

/-- Compaction conserves history: where a subscription starts without statements, what is retained
and the aggregate account for everything appended, whatever was compacted in between. -/
theorem statement_history_conserved (hstart : Archived id [] [] start)
    (hrun : Run StatementStep start hist s) : AccountsFor id (appendedTo id hist) s := by
  obtain ⟨pruned, retained, happended, h⟩ := archived_of_run hstart hrun
  rw [happended]
  exact h.accountsFor

end History

/-! ## Two statements, one of them pruned -/

def usageStatement : NewStatement := ⟨0, 7, ⟨1⟩, ⟨9⟩, .usage, 0, 30⟩

def intervalStatement : NewStatement := ⟨0, 10, ⟨1⟩, ⟨9⟩, .interval, 0, 60⟩

def twoStatements : State :=
  intervalStatement.exec.after (sampleEnv 60 [])
    (usageStatement.exec.after (sampleEnv 30 []) FiniteStore.empty)

theorem empty_archived (id : Nat) : Archived id [] [] (FiniteStore.empty : State) :=
  ⟨rfl, rfl, nofun, rfl, rfl, by decide⟩

theorem twoStatements_run : Run StatementStep FiniteStore.empty
    [(.append (sampleEnv 60 []) intervalStatement,
        usageStatement.exec.after (sampleEnv 30 []) FiniteStore.empty),
      (.append (sampleEnv 30 []) usageStatement, FiniteStore.empty)] twoStatements := by
  apply Run.next
  · apply Run.next
    · exact Run.start
    · rfl
  · rfl

private def oneStatement : State :=
  (effectOf (compactSubscriptionStatements 0 (some 1))).after (sampleEnv 90 []) twoStatements

/-- After two charges and a compaction that keeps one statement, both are accounted for. -/
theorem two_statements_conserved : ∃ (hist : History StatementAction State) (s : State),
    Run StatementStep FiniteStore.empty hist s ∧ AccountsFor 0 (appendedTo 0 hist) s ∧
      (appendedTo 0 hist).map (·.amount) = [7, 10] ∧
      (s.statements 0).map (·.amount) = [10] ∧
      s.getCompactedAggregate 0 = ⟨1, 7, ⟨0, 7, 0⟩, some 0, some 30⟩ := by
  have hrun : Run StatementStep FiniteStore.empty
      ((.compact (sampleEnv 90 []) 0 (some 1), twoStatements) :: _) oneStatement :=
    twoStatements_run.next rfl
  exact ⟨_, _, hrun, statement_history_conserved (empty_archived 0) hrun, by decide +kernel,
    by decide +kernel, by decide +kernel⟩

end SubscriptionVault
