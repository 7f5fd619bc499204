import SubscriptionVault.Lifecycle.Transactions

/-!
# The dispute registry

A dispute has a record, an escrow and an entry in the index of its subscription. The registry is
these three and the counter that numbers disputes, and four events change it: a dispute is
opened, answered or resolved, or nothing happens.
-/

namespace SubscriptionVault

open Exec

/-! ## The registry and its events -/

/-- What the vault keeps about disputes. -/
@[ext] structure DisputeBook where
  dispute : Nat → Option Dispute
  escrow : Nat → Option DisputeEscrowLedger
  active : Nat → Option Nat
  nextId : Nat

inductive DisputeEvent where
  | quiet
  | opening
  | answer (disputeId : Nat)
  | resolution (disputeId : Nat)
deriving DecidableEq

/-- How many disputes the event opens. -/
def DisputeEvent.openings : DisputeEvent → Nat
  | .opening => 1
  | _ => 0

namespace DisputeBook

/-- A new dispute takes the next number. -/
def opened (b : DisputeBook) (x : Dispute) : DisputeBook where
  dispute := Function.update b.dispute b.nextId (some x)
  escrow := Function.update b.escrow b.nextId (some ⟨x.amount, 0⟩)
  active := Function.update b.active x.subscriptionId (some b.nextId)
  nextId := (b.nextId + 1) % (u64Max + 1)

/-- The record of a dispute is rewritten. -/
def answered (b : DisputeBook) (d : Nat) (x : Dispute) : DisputeBook :=
  { b with dispute := Function.update b.dispute d (some x) }

/-- A dispute gives up its escrow and its place in the index. -/
def closed (b : DisputeBook) (d : Nat) (x : Dispute) : DisputeBook where
  dispute := Function.update b.dispute d (some x)
  escrow := Function.update b.escrow d none
  active := Function.update b.active x.subscriptionId none
  nextId := b.nextId

/-- What an event does to the registry. -/
inductive Changes (b : DisputeBook) : DisputeEvent → DisputeBook → Prop
  | quiet : b.Changes .quiet b
  | opening {x : Dispute} : x.id = b.nextId → x.status = .opened →
      b.active x.subscriptionId = none → b.Changes .opening (b.opened x)
  | answer {d : Nat} {x : Dispute} {respondedAt : Option Nat} {evidence : Option BytesN32} :
      b.dispute d = some x → x.status = .opened → b.Changes (.answer d)
        (b.answered d { x with status := .responded, respondedAt, adminEvidenceHash := evidence })
  | resolution {d : Nat} {x : Dispute} {status : DisputeStatus} : b.dispute d = some x →
      x.isResolved = false → { x with status }.isResolved = true →
      b.Changes (.resolution d) (b.closed d { x with status })

/-! ## The invariant -/

/-- `n` disputes were opened, under the first numbers. -/
structure Numbered (b : DisputeBook) (n : Nat) : Prop where
  nextId : b.nextId = n
  exists_iff : ∀ d, (∃ x, b.dispute d = some x) ↔ d < n
  id_eq : ∀ d x, b.dispute d = some x → x.id = d

/-- The index and the escrows are those of the unresolved disputes. -/
structure Sound (b : DisputeBook) (n : Nat) : Prop extends b.Numbered n where
  escrow_of : ∀ d x, b.dispute d = some x →
    b.escrow d = if x.isResolved then none else some ⟨x.amount, 0⟩
  escrow_free : ∀ d, b.dispute d = none → b.escrow d = none
  active_iff : ∀ id d, b.active id = some d ↔
    ∃ x, b.dispute d = some x ∧ x.subscriptionId = id ∧ x.isResolved = false

section Numbers

variable {b b' : DisputeBook} {n d : Nat} {x y : Dispute}

theorem Numbered.lt (h : b.Numbered n) (hx : b.dispute d = some x) : d < n :=
  (h.exists_iff d).mp ⟨x, hx⟩

/-- Rewriting a record under its own number keeps the numbers. -/
theorem Numbered.rewritten (h : b.Numbered n) (hx : b.dispute d = some x) (hid : y.id = x.id)
    (hdispute : b'.dispute = Function.update b.dispute d (some y))
    (hnext : b'.nextId = b.nextId) : b'.Numbered n := by
  have hself : b'.dispute d = some y := by
    rw [hdispute]
    exact Function.update_self _ _ _
  have hother (j : Nat) (hj : j ≠ d) : b'.dispute j = b.dispute j := by
    rw [hdispute]
    exact Function.update_of_ne hj _ _
  constructor
  case nextId => exact hnext.trans h.nextId
  case exists_iff =>
    intro j
    by_cases hj : j = d
    · subst hj
      exact ⟨fun _ => h.lt hx, fun _ => ⟨y, hself⟩⟩
    · rw [hother j hj]
      exact h.exists_iff j
  case id_eq =>
    intro j z hz
    by_cases hj : j = d
    · subst hj
      obtain rfl := Option.some.inj (hself.symm.trans hz)
      rw [hid]
      exact h.id_eq j x hx
    · rw [hother j hj] at hz
      exact h.id_eq j z hz

end Numbers

namespace Sound

variable {b b' : DisputeBook} {n d : Nat} {x : Dispute}

theorem dispute_next (h : b.Sound n) : b.dispute b.nextId = none := by
  cases hx : b.dispute b.nextId with
  | none => rfl
  | some x =>
    have hlt := h.lt hx
    have hnext := h.nextId
    omega

theorem opened (h : b.Sound n) (hfew : n + 1 ≤ u64Max) (hid : x.id = b.nextId)
    (hstatus : x.status = .opened) (hfree : b.active x.subscriptionId = none) :
    (b.opened x).Sound (n + 1) := by
  have hfresh := h.dispute_next
  have hlast := h.nextId
  have hopen : x.isResolved = false := by
    unfold Dispute.isResolved
    rw [hstatus]
    rfl
  have hself : (b.opened x).dispute b.nextId = some x := Function.update_self _ _ _
  have hother (j : Nat) (hj : j ≠ b.nextId) : (b.opened x).dispute j = b.dispute j :=
    Function.update_of_ne hj _ _
  have hkept (j : Nat) (y : Dispute) (hy : b.dispute j = some y) : j ≠ b.nextId := by
    intro heq
    subst heq
    rw [hfresh] at hy
    cases hy
  constructor
  case toNumbered =>
    constructor
    case nextId =>
      have hmod : (n + 1) % (u64Max + 1) = n + 1 := Nat.mod_eq_of_lt (by omega)
      change (b.nextId + 1) % (u64Max + 1) = n + 1
      rw [hlast, hmod]
    case exists_iff =>
      intro j
      by_cases hj : j = b.nextId
      · subst hj
        have hlt : b.nextId < n + 1 := by omega
        exact ⟨fun _ => hlt, fun _ => ⟨x, hself⟩⟩
      · rw [hother j hj, h.exists_iff j]
        omega
    case id_eq =>
      intro j y hy
      by_cases hj : j = b.nextId
      · subst hj
        obtain rfl := Option.some.inj (hself.symm.trans hy)
        exact hid
      · rw [hother j hj] at hy
        exact h.id_eq j y hy
  case escrow_of =>
    intro j y hy
    by_cases hj : j = b.nextId
    · subst hj
      obtain rfl := Option.some.inj (hself.symm.trans hy)
      rw [hopen]
      exact Function.update_self _ _ _
    · rw [hother j hj] at hy
      exact (Function.update_of_ne hj _ _).trans (h.escrow_of j y hy)
  case escrow_free =>
    intro j hj
    have hne : j ≠ b.nextId := by
      intro heq
      subst heq
      rw [hself] at hj
      cases hj
    rw [hother j hne] at hj
    exact (Function.update_of_ne hne _ _).trans (h.escrow_free j hj)
  case active_iff =>
    intro id j
    by_cases hsub : id = x.subscriptionId
    · subst hsub
      have hactive : (b.opened x).active x.subscriptionId = some b.nextId :=
        Function.update_self _ _ _
      rw [hactive]
      constructor
      · intro heq
        obtain rfl := Option.some.inj heq
        exact ⟨x, hself, rfl, hopen⟩
      · rintro ⟨y, hy, hsub, hunresolved⟩
        by_cases hj : j = b.nextId
        · rw [hj]
        · -- the subscription had no unresolved dispute before
          rw [hother j hj] at hy
          have hactive := (h.active_iff x.subscriptionId j).mpr ⟨y, hy, hsub, hunresolved⟩
          rw [hfree] at hactive
          cases hactive
    · have hactive : (b.opened x).active id = b.active id := Function.update_of_ne hsub _ _
      rw [hactive, h.active_iff id j]
      constructor
      · rintro ⟨y, hy, hrest⟩
        exact ⟨y, (hother j (hkept j y hy)).trans hy, hrest⟩
      · rintro ⟨y, hy, heq, hunresolved⟩
        by_cases hj : j = b.nextId
        · subst hj
          obtain rfl := Option.some.inj (hself.symm.trans hy)
          exact absurd heq.symm hsub
        · exact ⟨y, (hother j hj).symm.trans hy, heq, hunresolved⟩

/-- A record may change, but not the number, the subscription or the amount of the dispute. -/
theorem answered {y : Dispute} (h : b.Sound n) (hx : b.dispute d = some x) (hid : y.id = x.id)
    (hsub : y.subscriptionId = x.subscriptionId) (hamount : y.amount = x.amount)
    (hresolved : y.isResolved = x.isResolved) : (b.answered d y).Sound n := by
  have hself : (b.answered d y).dispute d = some y := Function.update_self _ _ _
  have hother (j : Nat) (hj : j ≠ d) : (b.answered d y).dispute j = b.dispute j :=
    Function.update_of_ne hj _ _
  constructor
  case toNumbered => exact h.toNumbered.rewritten hx hid rfl rfl
  case escrow_of =>
    intro j z hz
    change b.escrow j = _
    by_cases hj : j = d
    · subst hj
      obtain rfl := Option.some.inj (hself.symm.trans hz)
      rw [hresolved, hamount]
      exact h.escrow_of j x hx
    · rw [hother j hj] at hz
      exact h.escrow_of j z hz
  case escrow_free =>
    intro j hj
    have hne : j ≠ d := by
      intro heq
      subst heq
      rw [hself] at hj
      cases hj
    rw [hother j hne] at hj
    exact h.escrow_free j hj
  case active_iff =>
    intro id j
    change b.active id = some j ↔ _
    rw [h.active_iff id j]
    by_cases hj : j = d
    · subst hj
      rw [hself, hx]
      constructor
      · rintro ⟨z, hz, heq, hunresolved⟩
        obtain rfl := Option.some.inj hz
        exact ⟨y, rfl, hsub.trans heq, hresolved.trans hunresolved⟩
      · rintro ⟨z, hz, heq, hunresolved⟩
        obtain rfl := Option.some.inj hz
        exact ⟨x, rfl, hsub.symm.trans heq, hresolved.symm.trans hunresolved⟩
    · rw [hother j hj]

theorem closed {status : DisputeStatus} (h : b.Sound n) (hx : b.dispute d = some x)
    (hunresolved : x.isResolved = false) (hresolved : { x with status }.isResolved = true) :
    (b.closed d { x with status }).Sound n := by
  have hself : (b.closed d { x with status }).dispute d = some { x with status } :=
    Function.update_self _ _ _
  have hother (j : Nat) (hj : j ≠ d) :
      (b.closed d { x with status }).dispute j = b.dispute j := Function.update_of_ne hj _ _
  constructor
  case toNumbered =>
    have hid : { x with status }.id = x.id := rfl
    exact h.toNumbered.rewritten hx hid rfl rfl
  case escrow_of =>
    intro j z hz
    by_cases hj : j = d
    · subst hj
      obtain rfl := Option.some.inj (hself.symm.trans hz)
      rw [hresolved]
      exact Function.update_self _ _ _
    · rw [hother j hj] at hz
      exact (Function.update_of_ne hj _ _).trans (h.escrow_of j z hz)
  case escrow_free =>
    intro j hj
    have hne : j ≠ d := by
      intro heq
      subst heq
      rw [hself] at hj
      cases hj
    rw [hother j hne] at hj
    exact (Function.update_of_ne hne _ _).trans (h.escrow_free j hj)
  case active_iff =>
    intro id j
    -- the dispute that is resolved was the one in the index
    have hindexed := (h.active_iff x.subscriptionId d).mpr ⟨x, hx, rfl, hunresolved⟩
    by_cases hsub : id = x.subscriptionId
    · subst hsub
      have hactive : (b.closed d { x with status }).active x.subscriptionId = none :=
        Function.update_self _ _ _
      rw [hactive]
      constructor
      · intro heq
        cases heq
      · rintro ⟨z, hz, heq, hopen⟩
        by_cases hj : j = d
        · subst hj
          obtain rfl := Option.some.inj (hself.symm.trans hz)
          rw [hresolved] at hopen
          cases hopen
        · rw [hother j hj] at hz
          have hactive := (h.active_iff x.subscriptionId j).mpr ⟨z, hz, heq, hopen⟩
          exact absurd (Option.some.inj (hactive.symm.trans hindexed)) hj
    · have hactive : (b.closed d { x with status }).active id = b.active id :=
        Function.update_of_ne hsub _ _
      rw [hactive, h.active_iff id j]
      by_cases hj : j = d
      · subst hj
        rw [hself, hx]
        constructor
        · rintro ⟨z, hz, heq, -⟩
          obtain rfl := Option.some.inj hz
          exact absurd heq.symm hsub
        · rintro ⟨z, hz, -, hopen⟩
          obtain rfl := Option.some.inj hz
          rw [hresolved] at hopen
          cases hopen
      · rw [hother j hj]

theorem changes {event : DisputeEvent} (h : b.Sound n) (hfew : n + event.openings ≤ u64Max)
    (hchange : b.Changes event b') : b'.Sound (n + event.openings) := by
  cases hchange with
  | quiet => exact h
  | opening hid hstatus hfree => exact h.opened hfew hid hstatus hfree
  | answer hx hstatus =>
    refine h.answered hx rfl rfl rfl ?_
    unfold Dispute.isResolved
    rw [hstatus]
    rfl
  | resolution hx hunresolved hresolved => exact h.closed hx hunresolved hresolved

end Sound

end DisputeBook

end SubscriptionVault
