import SubscriptionVault.Disputes.Events

/-!
# Disputes over a run

Every unresolved dispute is in the index of its subscription and has its amount in escrow, and
every resolved one was paid once.
-/

namespace SubscriptionVault

open Exec

namespace DisputeBook

/-- The dispute, once it is resolved. -/
def resolved (b : DisputeBook) (d : Nat) : Option Dispute := (b.dispute d).filter (·.isResolved)

variable {b b' : DisputeBook} {event : DisputeEvent} {n d : Nat} {x : Dispute}

theorem resolved_eq_some : b.resolved d = some x ↔ b.dispute d = some x ∧ x.isResolved = true :=
  Option.filter_eq_some_iff

theorem resolved_of_unresolved (hx : b.dispute d = some x) (h : x.isResolved = false) :
    b.resolved d = none := by
  unfold resolved
  rw [hx]
  simp [h]

theorem resolved_of_none (hnone : b.dispute d = none) : b.resolved d = none := by
  unfold resolved
  rw [hnone]
  rfl

/-- Only its own resolution settles a dispute, and nothing reopens it. -/
theorem Changes.resolved (h : b.Changes event b') (hsound : b.Sound n) (d : Nat) :
    event ≠ .resolution d ∧ b'.resolved d = b.resolved d ∨
      event = .resolution d ∧ b.resolved d = none := by
  cases h with
  | quiet => exact .inl ⟨by simp, rfl⟩
  | @opening x hid hstatus hfree =>
    refine .inl ⟨by simp, ?_⟩
    by_cases hd : d = b.nextId
    · have hself : (b.opened x).dispute d = some x := by
        rw [hd]
        exact Function.update_self _ _ _
      have hopen : x.isResolved = false := by
        unfold Dispute.isResolved
        rw [hstatus]
        rfl
      rw [resolved_of_unresolved hself hopen, hd, resolved_of_none hsound.dispute_next]
    · have hother : (b.opened x).dispute d = b.dispute d := Function.update_of_ne hd _ _
      unfold DisputeBook.resolved
      rw [hother]
  | @answer d' x respondedAt evidence hx hstatus =>
    refine .inl ⟨by simp, ?_⟩
    by_cases hd : d = d'
    · subst hd
      have hopen : x.isResolved = false := by
        unfold Dispute.isResolved
        rw [hstatus]
        rfl
      have hself : (b.answered d { x with
          status := .responded, respondedAt, adminEvidenceHash := evidence }).dispute d = some _ :=
        Function.update_self _ _ _
      rw [resolved_of_unresolved hx hopen, resolved_of_unresolved hself rfl]
    · unfold DisputeBook.resolved
      exact congrArg _ (Function.update_of_ne hd _ _)
  | @resolution d' x status hx hunresolved hresolved =>
    by_cases hd : d = d'
    · subst hd
      exact .inr ⟨rfl, resolved_of_unresolved hx hunresolved⟩
    · refine .inl ⟨fun heq => hd (DisputeEvent.resolution.inj heq).symm, ?_⟩
      unfold DisputeBook.resolved
      exact congrArg _ (Function.update_of_ne hd _ _)

end DisputeBook

/-! ## Runs -/

/-- The number of disputes opened in a run. -/
def disputesOpened (hist : History Transaction State) : Nat :=
  (hist.map fun step => step.1.disputeEvent.openings).sum

/-- The numbers given to the disputes of a run, latest first. -/
def disputeIds (hist : History Transaction State) : List Nat :=
  (hist.filter fun step => step.1.disputeEvent = .opening).map fun step => step.2.nextDisputeId

/-- How often a dispute was resolved. -/
def timesResolved (d : Nat) (hist : History Transaction State) : Nat :=
  hist.countP fun step => step.1.disputeEvent = .resolution d

/-- Every resolution of `d` in the run paid the dispute `x` in the token of its subscription. -/
def PaidInRun (hist : History Transaction State) (s : State) (d : Nat) (x : Dispute) : Prop :=
  ∀ l u v, (l, u, v) ∈ transitions hist s → l.disputeEvent = .resolution d →
    ∃ sub, u.subscription x.subscriptionId = some sub ∧
      x.PaidOut x.amount sub.token l.env.host.contract u v

section Runs

variable {s t start : State} {l : Transaction} {hist : History Transaction State} {d : Nat}

theorem Deployed.disputes (h : Deployed s) : s.disputes.Sound 0 := by
  have hnone (d : Nat) : s.disputes.dispute d = none :=
    State.read_of_areas (k := .persistent (.dispute d)) h.areas rfl
  have hescrow (d : Nat) : s.disputes.escrow d = none :=
    State.read_of_areas (k := .instanced (.disputeEscrow d)) h.areas rfl
  have hactive (id : Nat) : s.disputes.active id = none :=
    State.read_of_areas (k := .instanced (.subscriptionDispute id)) h.areas rfl
  have hnext : s.disputes.nextId = 0 :=
    congrArg (·.getD 0) (State.read_of_areas (k := .instanced .nextDisputeId) h.areas rfl)
  constructor
  case toNumbered => exact ⟨hnext, by simp [hnone], by simp [hnone]⟩
  case escrow_of => simp [hnone]
  case escrow_free => exact fun d _ => hescrow d
  case active_iff => simp [hnone, hactive]

theorem disputes_of_run (hdeployed : Deployed start) (hrun : Run Transacts start hist s)
    (hfew : disputesOpened hist < 2 ^ 64) : s.disputes.Sound (disputesOpened hist) := by
  induction hrun with
  | start => exact hdeployed.disputes
  | @next hist u v l _ hstep ih =>
    have hcount : disputesOpened ((l, u) :: hist) =
        l.disputeEvent.openings + disputesOpened hist := List.sum_cons
    have hbefore : u.disputes.Sound (disputesOpened hist) := ih (by omega)
    have hlast : disputesOpened hist + l.disputeEvent.openings ≤ u64Max := by
      unfold u64Max
      omega
    have hafter := hbefore.changes hlast hstep.disputes
    rw [hcount, Nat.add_comm]
    exact hafter

/-- Disputes are numbered one after the other. -/
theorem disputeIds_eq (hdeployed : Deployed start) (hrun : Run Transacts start hist s)
    (hfew : disputesOpened hist < 2 ^ 64) :
    disputeIds hist = (List.range (disputesOpened hist)).reverse := by
  induction hrun with
  | start => rfl
  | @next hist u v l hbefore hstep ih =>
    have hcount : disputesOpened ((l, u) :: hist) =
        l.disputeEvent.openings + disputesOpened hist := List.sum_cons
    have hids := ih (by omega)
    by_cases hl : l.disputeEvent = .opening
    · have hnext : u.nextDisputeId = disputesOpened hist :=
        (disputes_of_run hdeployed hbefore (by omega)).nextId
      have hmore : disputesOpened ((l, u) :: hist) = disputesOpened hist + 1 := by
        rw [hcount, hl]
        exact Nat.add_comm _ _
      have hcons : disputeIds ((l, u) :: hist) = disputesOpened hist :: disputeIds hist := by
        simp [disputeIds, hl, hnext]
      rw [hcons, hids, hmore, List.range_succ, List.reverse_append]
      rfl
    · have hnone : l.disputeEvent.openings = 0 := by
        cases hevent : l.disputeEvent with
        | opening => exact absurd hevent hl
        | quiet | answer d | resolution d => rfl
      have hsame : disputeIds ((l, u) :: hist) = disputeIds hist := by
        simp [disputeIds, hl]
      rw [hsame, hids, hcount, hnone, Nat.zero_add]

/-- A dispute counts as resolved once when it is, and was paid as it is recorded. -/
theorem settled_of_run (hdeployed : Deployed start) (hrun : Run Transacts start hist s)
    (hfew : disputesOpened hist < 2 ^ 64) (d : Nat) :
    timesResolved d hist = (s.disputes.resolved d).elim 0 (fun _ => 1) ∧
      ∀ x, s.disputes.resolved d = some x → PaidInRun hist s d x := by
  induction hrun with
  | start =>
    have hnone : start.disputes.resolved d = none :=
      DisputeBook.resolved_of_none
        (State.read_of_areas (k := .persistent (.dispute d)) hdeployed.areas rfl)
    rw [hnone]
    exact ⟨rfl, fun x hx => by cases hx⟩
  | @next hist u v l hbefore hstep ih =>
    have hcount : disputesOpened ((l, u) :: hist) =
        l.disputeEvent.openings + disputesOpened hist := List.sum_cons
    have hsound := disputes_of_run hdeployed hbefore (by omega)
    obtain ⟨htimes, hpaid⟩ := ih (by omega)
    rcases hstep.disputes.resolved hsound d with ⟨hl, hsame⟩ | ⟨hl, hunresolved⟩
    · have htail : timesResolved d ((l, u) :: hist) = timesResolved d hist :=
        List.countP_cons_of_neg (by simpa using hl)
      rw [htail, hsame]
      refine ⟨htimes, fun x hx m w z hmem hm => ?_⟩
      rcases List.mem_cons.mp hmem with heq | hmem
      · cases heq
        exact absurd hm hl
      · exact hpaid x hx m w z hmem hm
    · -- no step before resolved the dispute, and this one pays what it holds
      rw [hunresolved] at htimes
      have htail : timesResolved d ((l, u) :: hist) = timesResolved d hist + 1 :=
        List.countP_cons_of_pos (by simpa using hl)
      obtain ⟨x, status, ledger, sub, hx, hopen, hresolved, hledger, hsub, hclosed, hpays⟩ :=
        hstep.resolves hl
      have hafter : v.disputes.resolved d = some { x with status } := by
        rw [hclosed]
        exact DisputeBook.resolved_eq_some.mpr ⟨Function.update_self _ _ _, hresolved⟩
      have hheld : ledger = ⟨x.amount, 0⟩ := by
        have hescrow := hsound.escrow_of d x hx
        rw [hopen] at hescrow
        exact Option.some.inj (hledger.symm.trans hescrow)
      rw [htail, hafter, htimes]
      refine ⟨rfl, fun y hy m w z hmem hm => ?_⟩
      obtain rfl := Option.some.inj hy
      rcases List.mem_cons.mp hmem with heq | hmem
      · cases heq
        refine ⟨sub, hsub, ?_⟩
        have hremaining : ledger.remaining = x.amount := by
          rw [hheld]
          exact Int.sub_zero x.amount
        rw [hremaining] at hpays
        exact hpays
      · have hnever := List.countP_eq_zero.mp htimes (m, w) (mem_of_mem_transitions hmem)
        exact absurd hm (by simpa using hnever)

end Runs

/-! ## The registry of a reachable state -/

structure DisputesKept (hist : History Transaction State) (s : State) : Prop where
  /-- The index of a subscription is its unresolved dispute. -/
  indexed : ∀ id d, s.read (.instanced (.subscriptionDispute id)) = some d ↔
    ∃ x, s.dispute d = some x ∧ x.subscriptionId = id ∧ x.isResolved = false
  /-- An unresolved dispute has its whole amount in escrow. -/
  escrowed : ∀ d x, s.dispute d = some x → x.isResolved = false →
    s.disputeEscrow d = some ⟨x.amount, 0⟩
  escrow_of_unresolved : ∀ d ledger, s.disputeEscrow d = some ledger →
    ∃ x, s.dispute d = some x ∧ x.isResolved = false
  id_eq : ∀ d x, s.dispute d = some x → x.id = d
  ids_nodup : (disputeIds hist).Nodup
  /-- The disputes on record are those that were opened. -/
  recorded : ∀ d, d ∈ disputeIds hist ↔ ∃ x, s.dispute d = some x
  resolved_once : ∀ d x, s.dispute d = some x →
    timesResolved d hist = if x.isResolved then 1 else 0
  paid : ∀ d x, s.dispute d = some x → PaidInRun hist s d x

theorem disputes_kept {s start : State} {hist : History Transaction State}
    (hdeployed : Deployed start) (hrun : Run Transacts start hist s)
    (hfew : disputesOpened hist < 2 ^ 64) : DisputesKept hist s := by
  have hsound := disputes_of_run hdeployed hrun hfew
  have hsettled := settled_of_run hdeployed hrun hfew
  have hids := disputeIds_eq hdeployed hrun hfew
  constructor
  case indexed => exact hsound.active_iff
  case escrowed =>
    intro d x hx hopen
    have hescrow := hsound.escrow_of d x hx
    rw [hopen] at hescrow
    exact hescrow
  case escrow_of_unresolved =>
    intro d ledger hledger
    have hheld : s.disputes.escrow d = some ledger := hledger
    cases hx : s.disputes.dispute d with
    | none =>
      rw [hsound.escrow_free d hx] at hheld
      cases hheld
    | some x =>
      refine ⟨x, hx, ?_⟩
      rw [hsound.escrow_of d x hx] at hheld
      cases hresolved : x.isResolved with
      | false => rfl
      | true =>
        rw [hresolved] at hheld
        cases hheld
  case id_eq => exact hsound.id_eq
  case ids_nodup =>
    rw [hids]
    exact List.nodup_reverse.mpr List.nodup_range
  case recorded =>
    intro d
    rw [hids, List.mem_reverse, List.mem_range]
    exact (hsound.exists_iff d).symm
  case resolved_once =>
    intro d x hx
    rw [(hsettled d).1]
    cases hresolved : x.isResolved with
    | false =>
      rw [DisputeBook.resolved_of_unresolved hx hresolved]
      rfl
    | true =>
      rw [DisputeBook.resolved_eq_some.mpr ⟨hx, hresolved⟩]
      rfl
  case paid =>
    intro d x hx
    cases hresolved : x.isResolved with
    | true => exact (hsettled d).2 x (DisputeBook.resolved_eq_some.mpr ⟨hx, hresolved⟩)
    | false =>
      -- a dispute that is not resolved was resolved by no step
      intro m w z hmem hm
      have htimes := (hsettled d).1
      rw [DisputeBook.resolved_of_unresolved hx hresolved] at htimes
      have hnever := List.countP_eq_zero.mp htimes (m, w) (mem_of_mem_transitions hmem)
      exact absurd hm (by simpa using hnever)

/-- The merchant is paid ten units; four of them are disputed and go back. -/
private def disputedCalls : List (Env × VaultCall) :=
  [(sampleEnv 70 [⟨8⟩], .resolveDispute ⟨8⟩ 0 true),
   (sampleEnv 70 [⟨8⟩], .respondDispute ⟨8⟩ 0 none),
   (sampleEnv 61 [⟨2⟩], .openDispute ⟨2⟩ 0 4 none),
   (sampleEnv 60 [], .chargeSubscription 0 none),
   (sampleEnv 0 [⟨2⟩], .depositFunds 0 50 none),
   (sampleEnv 0 [⟨2⟩], .createSubscription sampleRequest)]

theorem disputes_kept_after_refund : ∃ hist s, Run Transacts (sampleStart 0) hist s ∧
    timesResolved 0 hist = 1 ∧ s.balanceOf ⟨9⟩ ⟨2⟩ = 954 ∧ s.merchantBalance ⟨1⟩ ⟨9⟩ = 6 ∧
    DisputesKept hist s := by
  have hrun := run_transactions (sample_transacted 0)
    (show allSucceed (afterCalls (sampleVault 0)) disputedCalls = true by decide +kernel)
  have hkept := disputes_kept (sample_deployed 0) hrun (by decide +kernel)
  exact ⟨_, _, hrun, by decide +kernel, by decide +kernel, by decide +kernel, hkept⟩

end SubscriptionVault
