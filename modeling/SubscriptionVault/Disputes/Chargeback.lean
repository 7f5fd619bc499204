import SubscriptionVault.Disputes.Settlement
import SubscriptionVault.Lifecycle.Lifetime

/-!
# Chargebacks

What a subscription claims by disputes is the sum of those that are unresolved or were resolved
to the subscriber. A dispute is compared with the balance of the merchant, into which all of its
subscribers pay, so claims are bounded by the charges of the subscription only when every
dispute asks for no more than is left of them.
-/

namespace SubscriptionVault

open Exec

/-! ## Claims -/

/-- What the dispute claims of the charges of the subscription. -/
def Dispute.claimOn (x : Dispute) (id : Nat) : Int :=
  if x.subscriptionId = id ∧ x.status ≠ .resolvedToMerchant then x.amount else 0

namespace DisputeBook

def claimed (b : DisputeBook) (id : Nat) : Int :=
  ∑ d ∈ Finset.range b.nextId, (b.dispute d).elim 0 (·.claimOn id)

variable {b b' : DisputeBook} {n d : Nat} {x y : Dispute}

theorem claimed_opened (h : b.Sound n) (hfew : n + 1 ≤ u64Max) (hstatus : x.status = .opened)
    (id : Nat) : (b.opened x).claimed id =
      b.claimed id + if x.subscriptionId = id then x.amount else 0 := by
  have hnext : (b.opened x).nextId = b.nextId + 1 := by
    have hmod : (b.nextId + 1) % (u64Max + 1) = b.nextId + 1 := by
      apply Nat.mod_eq_of_lt
      have hlast := h.nextId
      omega
    exact hmod
  have hself : (b.opened x).dispute b.nextId = some x := Function.update_self _ _ _
  have hold (d : Nat) (hd : d ∈ Finset.range b.nextId) :
      ((b.opened x).dispute d).elim 0 (·.claimOn id) =
        (b.dispute d).elim 0 (·.claimOn id) := by
    have hne : d ≠ b.nextId := Nat.ne_of_lt (Finset.mem_range.mp hd)
    rw [show (b.opened x).dispute d = b.dispute d from Function.update_of_ne hne _ _]
  have hnew : x.claimOn id = if x.subscriptionId = id then x.amount else 0 := by
    unfold Dispute.claimOn
    simp [hstatus]
  unfold claimed
  rw [hnext, Finset.sum_range_succ, Finset.sum_congr rfl hold, hself, Option.elim_some, hnew]

/-- Rewriting a record so that it claims no more raises no claim. -/
theorem claimed_rewritten (hx : b.dispute d = some x)
    (hdispute : b'.dispute = Function.update b.dispute d (some y)) (hnext : b'.nextId = b.nextId)
    (id : Nat) (hle : y.claimOn id ≤ x.claimOn id) : b'.claimed id ≤ b.claimed id := by
  unfold claimed
  rw [hnext]
  apply Finset.sum_le_sum
  intro j _
  by_cases hj : j = d
  · subst hj
    rw [hdispute, Function.update_self, hx]
    exact hle
  · rw [hdispute, Function.update_of_ne hj]

/-- Every dispute is about a positive amount. -/
def Positive (b : DisputeBook) : Prop := ∀ d x, b.dispute d = some x → 0 < x.amount

theorem Positive.rewritten (h : b.Positive) (hx : b.dispute d = some x)
    (hamount : y.amount = x.amount) (hdispute : b'.dispute = Function.update b.dispute d (some y)) :
    b'.Positive := by
  intro j z hz
  by_cases hj : j = d
  · subst hj
    rw [hdispute, Function.update_self] at hz
    obtain rfl := Option.some.inj hz
    rw [hamount]
    exact h j x hx
  · rw [hdispute, Function.update_of_ne hj] at hz
    exact h j z hz

/-- Answers and resolutions raise no claim. -/
theorem Changes.claims {event : DisputeEvent} (h : b.Changes event b') (hpositive : b.Positive)
    (hevent : event ≠ .opening) :
    b'.Positive ∧ ∀ id, b'.claimed id ≤ b.claimed id := by
  cases h with
  | quiet => exact ⟨hpositive, fun id => Int.le_refl _⟩
  | opening => exact absurd rfl hevent
  | @answer d x respondedAt evidence hx hstatus =>
    let y : Dispute := { x with
      status := .responded, respondedAt, adminEvidenceHash := evidence }
    have hdispute : (b.answered d y).dispute = Function.update b.dispute d (some y) := rfl
    refine ⟨hpositive.rewritten hx (show y.amount = x.amount from rfl) hdispute, fun id =>
      claimed_rewritten hx hdispute rfl id ?_⟩
    simp [y, Dispute.claimOn, hstatus]
  | @resolution d x status hx hunresolved hresolved =>
    let y : Dispute := { x with status }
    have hdispute : (b.closed d y).dispute = Function.update b.dispute d (some y) := rfl
    refine ⟨hpositive.rewritten hx (show y.amount = x.amount from rfl) hdispute, fun id =>
      claimed_rewritten hx hdispute rfl id ?_⟩
    have hamount := hpositive d x hx
    have hopen : x.status ≠ .resolvedToMerchant := by
      intro heq
      unfold Dispute.isResolved at hunresolved
      rw [heq] at hunresolved
      cases hunresolved
    simp only [y, Dispute.claimOn, hopen, ne_eq, not_false_eq_true, and_true]
    split
    · rename_i hclaims
      rw [if_pos hclaims.1]
    · split <;> omega

end DisputeBook

/-! ## Runs -/

/-- A dispute asks for no more than was charged and is not yet claimed, and a restore puts
records under numbers in use that leave the claims covered. -/
def Transaction.ClaimsOwn : Transaction → State → Prop
  | .call _ (.openDispute _ id amount _), s =>
    s.disputes.claimed id + amount ≤ s.lifetimeCharged id
  | .call _ (.restoreSnapshotPage _ summaries _), s => ∀ summary ∈ summaries,
    summary.subscriptionId < s.nextSubscriptionId ∧
      s.disputes.claimed summary.subscriptionId ≤ summary.lifetimeCharged
  | _, _ => True

section Runs

variable {env : Env} {s t start : State} {l : Transaction} {hist : History Transaction State}
  {n : Nat}

/-- A restore keeps every record or puts one of the snapshot in its place. -/
theorem Transacts.restores {admin : Address} {summaries : List SubscriptionSummary}
    {balances : List MerchantBalanceEntry} (hnumbered : s.book.Numbered)
    (h : Transacts (.call env (.restoreSnapshotPage admin summaries balances)) s t) :
    t.book.schemaVersion = s.book.schemaVersion ∧ t.book.nextId = s.book.nextId ∧
      ∀ id, t.subscription id = s.subscription id ∨ ∃ summary ∈ summaries,
        summary.subscriptionId = id ∧ t.subscription id = some summary.record := by
  cases h with
  | call hrun =>
    obtain ⟨hbook, hnext⟩ := restoreSnapshotPage_book hrun
    rw [s.book.restored_rest summaries] at hbook
    have hlate : 3 ≤ s.book.schemaVersion := hnumbered.current ▸ by decide
    have hrecord : t.book.record = (s.book.restored summaries).record := by rw [hbook]
    refine ⟨by rw [hbook], hnext hlate, fun id => ?_⟩
    have hsame : t.subscription id = (s.book.restored summaries).record id := congrFun hrecord id
    rw [hsame]
    exact s.book.restored_record summaries id

/-- What is known of disputes and records along a run. -/
structure ClaimsCovered (n : Nat) (s : State) : Prop where
  sound : s.disputes.Sound n
  positive : s.disputes.Positive
  numbered : s.book.Numbered
  covered : ∀ id, s.disputes.claimed id ≤ s.lifetimeCharged id

namespace ClaimsCovered

/-- A dispute that asks for what is left keeps the claims covered. -/
theorem opened {subscriber : Address} {id : Nat} {amount : Int} {evidence : Option BytesN32}
    (h : ClaimsCovered n s) (hfew : n + 1 ≤ u64Max)
    (hstep : Transacts (.call env (.openDispute subscriber id amount evidence)) s t)
    (hown : s.disputes.claimed id + amount ≤ s.lifetimeCharged id) :
    ClaimsCovered (n + 1) t := by
  obtain ⟨hsign, x, -, hid, hsub, hamount, hstatus, hfree, hopened⟩ := hstep.opens
  have hbook : t.book = s.book :=
    State.book_of_unbooked (hstep.worksIn.1.mono (areas_subset_unbooked rfl))
  have hcharged : t.lifetimeCharged = s.lifetimeCharged := by
    funext j
    exact congrArg (fun b : Book => (b.record j).elim 0 (·.lifetimeCharged)) hbook
  constructor
  case sound =>
    rw [hopened]
    exact h.sound.opened hfew hid hstatus (by rw [hsub]; exact hfree)
  case positive =>
    rw [hopened]
    intro d y hy
    by_cases hd : d = s.disputes.nextId
    · subst hd
      have hself : (s.disputes.opened x).dispute s.disputes.nextId = some x :=
        Function.update_self _ _ _
      obtain rfl := Option.some.inj (hself.symm.trans hy)
      rw [hamount]
      exact hsign
    · have hother : (s.disputes.opened x).dispute d = s.disputes.dispute d :=
        Function.update_of_ne hd _ _
      rw [hother] at hy
      exact h.positive d y hy
  case numbered =>
    rw [hbook]
    exact h.numbered
  case covered =>
    intro j
    rw [hopened, DisputeBook.claimed_opened h.sound hfew hstatus, hcharged]
    have hbefore := h.covered j
    split
    · rename_i hj
      obtain rfl : id = j := hsub.symm.trans hj
      rw [hamount]
      exact hown
    · rw [Int.add_zero]
      exact hbefore

/-- Nothing else raises a claim, and no charge is taken back. -/
theorem other (h : ClaimsCovered n s) (hfew : n ≤ u64Max) (hstep : Transacts l s t)
    (hevent : l.disputeEvent ≠ .opening) (hown : l.ClaimsOwn s) : ClaimsCovered n t := by
  have hchanges := hstep.disputes
  have hzero : l.disputeEvent.openings = 0 := by
    cases heq : l.disputeEvent with
    | opening => exact absurd heq hevent
    | quiet | answer d | resolution d => rfl
  have hsound := h.sound.changes (by omega) hchanges
  rw [hzero] at hsound
  obtain ⟨hpositive, hclaims⟩ := hchanges.claims h.positive hevent
  cases hrestore : l.isRestore with
  | false =>
    obtain ⟨hnumbered, hcharged⟩ := hstep.lifetimeCharged_le hrestore h.numbered
    exact ⟨hsound, hpositive, hnumbered, fun id =>
      (hclaims id).trans ((h.covered id).trans (hcharged id))⟩
  | true =>
    cases l with
    | other => cases hrestore
    | call env call =>
      cases call
      case restoreSnapshotPage admin summaries balances =>
        obtain ⟨hversion, hnext, hrecords⟩ := hstep.restores h.numbered
        refine ⟨hsound, hpositive, ⟨hversion.trans h.numbered.current, fun id hid => ?_⟩,
          fun id => (hclaims id).trans ?_⟩
        · rw [hnext] at hid
          rcases hrecords id with hkept | ⟨summary, hmem, rfl, -⟩
          · exact hkept.trans (h.numbered.unused id hid)
          · exact absurd (hown summary hmem).1 (Nat.not_lt.mpr hid)
        · rcases hrecords id with hkept | ⟨summary, hmem, rfl, hrestored⟩
          · unfold State.lifetimeCharged
            rw [hkept]
            exact h.covered id
          · unfold State.lifetimeCharged
            rw [hrestored]
            exact (hown summary hmem).2
      all_goals cases hrestore

end ClaimsCovered

theorem claimsCovered_of_run (hdeployed : Deployed start) (hrun : Run Transacts start hist s)
    (hfew : disputesOpened hist < 2 ^ 64)
    (hown : ∀ step ∈ hist, step.1.ClaimsOwn step.2) :
    ClaimsCovered (disputesOpened hist) s := by
  induction hrun with
  | start =>
    have hsound := hdeployed.disputes
    have hnone (d : Nat) : start.disputes.dispute d = none := by
      cases hd : start.disputes.dispute d with
      | none => rfl
      | some x => exact absurd (hsound.lt hd) (Nat.not_lt_zero d)
    refine ⟨hsound, fun d x hx => ?_, hdeployed.numbered, fun id => ?_⟩
    · rw [hnone] at hx
      cases hx
    · have hrecord : start.subscription id = none := congrArg (·.record id) hdeployed.book
      simp [DisputeBook.claimed, hnone, State.lifetimeCharged, hrecord]
  | @next hist u v l hbefore hstep ih =>
    have hcount : disputesOpened ((l, u) :: hist) =
        l.disputeEvent.openings + disputesOpened hist := List.sum_cons
    have hcovered := ih (by omega) fun step hmem => hown step (List.mem_cons_of_mem _ hmem)
    have hlast : l.ClaimsOwn u := hown _ List.mem_cons_self
    by_cases hevent : l.disputeEvent = .opening
    · have hmore : disputesOpened ((l, u) :: hist) = disputesOpened hist + 1 := by
        rw [hcount, hevent]
        exact Nat.add_comm _ _
      have hbound : disputesOpened hist + 1 ≤ u64Max := by
        unfold u64Max
        omega
      rw [hmore]
      cases l with
      | other => cases hevent
      | call env call =>
        cases call
        case openDispute => exact hcovered.opened hbound hstep hlast
        case lodgeEscrowDispute =>
          -- no cancellation ever puts money in escrow
          obtain ⟨escrow, hescrow, -⟩ := hstep.lodges
          rw [cancellationEscrow_of_run hdeployed hbefore] at hescrow
          cases hescrow
        all_goals cases hevent
    · have hsame : disputesOpened ((l, u) :: hist) = disputesOpened hist := by
        rw [hcount]
        cases heq : l.disputeEvent with
        | opening => exact absurd heq hevent
        | quiet | answer d | resolution d => exact Nat.zero_add _
      rw [hsame]
      refine hcovered.other ?_ hstep hevent hlast
      unfold u64Max
      omega

end Runs

/-- Subscription 0 pays the merchant ten units. -/
private def paidByOne : List (Env × VaultCall) :=
  [(sampleEnv 60 [], .chargeSubscription 0 none),
   (sampleEnv 0 [⟨2⟩], .depositFunds 0 50 none),
   (sampleEnv 0 [⟨2⟩], .createSubscription sampleRequest)]

/-- It gets four of them back. -/
private def refundedCalls : List (Env × VaultCall) :=
  (sampleEnv 70 [⟨8⟩], .resolveDispute ⟨8⟩ 0 true) ::
  (sampleEnv 70 [⟨8⟩], .respondDispute ⟨8⟩ 0 none) ::
  (sampleEnv 61 [⟨2⟩], .openDispute ⟨2⟩ 0 4 none) :: paidByOne

/-- Another subscriber, who was never charged, disputes them and wins by waiting. -/
private def foreignCalls : List (Env × VaultCall) :=
  (sampleEnv 2000000 [⟨8⟩], .resolveDispute ⟨8⟩ 0 false) ::
  (sampleEnv 61 [⟨3⟩], .openDispute ⟨3⟩ 1 10 none) ::
  (sampleEnv 61 [⟨3⟩], .createSubscription { sampleRequest with subscriber := ⟨3⟩ }) :: paidByOne

end SubscriptionVault
