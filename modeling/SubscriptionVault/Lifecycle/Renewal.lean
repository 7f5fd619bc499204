import SubscriptionVault.Lifecycle.Prepaid
import SubscriptionVault.Lifecycle.Rewrites

/-!
# Auto-renewal

Auto-renewal that has been disabled may be enabled again for one interval. The window is not
kept but worked out from the interval in force, so that a migration onto a plan with a longer
interval opens it anew. Charges do not look at the window: they go by the time of the last
payment.
-/

namespace SubscriptionVault

open Exec

/-! ## What touches auto-renewal -/

def VaultAction.setsRenewal (id : Nat) : VaultAction → Bool
  | .call _ (.setAutoRenew j _ _) => j = id
  | _ => false

section Records

variable {env : Env} {s t : State} {id : Nat} {op : Operation} {sub new : Subscription}
  {l : VaultAction}

theorem Rewrites.sameRenewal (h : Rewrites env s id op sub new) :
    (op = .deposit id ∨ op = .edit id) ∨ sub.SameRenewal new := by
  cases h with
  | edited hop _ => exact .inl hop
  | revived _ _ hnew =>
    rw [hnew]
    exact .inr ⟨rfl, rfl⟩
  | paused | resumed | cancelled | archived | transferred | replanned => exact .inr ⟨rfl, rfl⟩
  | rehomed =>
    unfold Subscription.rehomed
    split <;> exact .inr ⟨rfl, rfl⟩
  | halted _ _ _ hnew =>
    rw [hnew]
    exact .inr ⟨rfl, rfl⟩
  | settled _ _ hsettled =>
    rw [hsettled.2]
    exact .inr ⟨rfl, rfl⟩
  | used _ hsettled =>
    rw [hsettled.2]
    exact .inr ⟨rfl, rfl⟩
  | boughtOut _ hnew _ =>
    rw [hnew]
    exact .inr ⟨rfl, rfl⟩

/-- An edit or a deposit that is no call to set auto-renewal. -/
theorem VaultStep.sameRenewal_of_edit (h : VaultStep l s t)
    (hop : l.operation = .deposit id ∨ l.operation = .edit id) (hother : l.setsRenewal id = false) :
    s.book.Carries id t.book Subscription.SameRenewal := by
  cases h with
  | @call env call _ _ hsingle hrun =>
    rcases hop with hop | hop
    · exact (VaultCall.deposits hop hrun).2 id
    · by_cases hbound : ∃ authorizer bound, call = .setSubscriptionExpiryLedger id authorizer bound
      · obtain ⟨authorizer, bound, rfl⟩ := hbound
        obtain ⟨sub, hreads, hbook⟩ := doSetSubscriptionExpirationLedger_book hrun
        exact Book.SameRenewal.of_edit hreads (by exact ⟨rfl, rfl⟩)
          (congrArg Book.record hbook) id
      · refine (VaultCall.edits hop (fun authorizer bound heq => hbound ⟨authorizer, bound, heq⟩)
          (fun authorizer enabled heq => ?_) hrun).2 id
        subst heq
        simp [VaultAction.setsRenewal] at hother
  | @item env entry _ _ hrun =>
    cases entry with
    | deposit => exact (bulkDepositOne_book hrun).2.2 id
    | charge | cancel | pause => rcases hop with hop | hop <;> cases hop
  | @itemFailed env entry _ _ e hrun =>
    cases entry with
    | deposit =>
      obtain rfl := bulkDepositOne_err hrun
      exact .of_same (fun _ => ⟨rfl, rfl⟩) rfl
    | charge | cancel | pause => rcases hop with hop | hop <;> cases hop
  | other => rcases hop with hop | hop <;> cases hop

theorem VaultStep.sameRenewal (h : VaultStep l s t)
    (hrestore : ∀ summaries, l.operation ≠ .restore summaries)
    (hused : l.operation = .create → id ≠ s.book.nextId) (hother : l.setsRenewal id = false) :
    s.book.Carries id t.book Subscription.SameRenewal := by
  by_cases hop : l.operation = .deposit id ∨ l.operation = .edit id
  · exact h.sameRenewal_of_edit hop hother
  have hrecord := h.at_record id
  generalize hl : l.operation = op at hrecord
  cases hrecord with
  | kept hsame => exact .of_same (fun _ => ⟨rfl, rfl⟩) hsame
  | rewritten hreads hrewrites hafter =>
    have hsame := hrewrites.sameRenewal.resolve_left (hl ▸ hop)
    exact .of_read hreads (fun _ => ⟨hsame.flag, hsame.disabledAt⟩) hafter
  | created hid _ => exact absurd hid (hused hl)
  | restored => exact absurd hl (hrestore _)

/-- Only a migration changes the interval. -/
theorem Rewrites.intervalSeconds (h : Rewrites env s id op sub new) :
    new.intervalSeconds = sub.intervalSeconds ∨ ∃ planId plan, op = .replan id planId ∧
      s.planTemplate planId = some plan ∧ new.intervalSeconds = plan.intervalSeconds := by
  cases h with
  | edited _ hnew | revived _ _ hnew | halted _ _ _ hnew | boughtOut _ hnew _ =>
    rw [hnew]
    exact .inl rfl
  | paused | resumed | cancelled | archived | transferred => exact .inl rfl
  | replanned hplan => exact .inr ⟨_, _, rfl, hplan, rfl⟩
  | rehomed =>
    unfold Subscription.rehomed
    split <;> exact .inl rfl
  | settled _ _ hsettled =>
    rw [hsettled.2]
    exact .inl rfl
  | used _ hsettled =>
    rw [hsettled.2]
    exact .inl rfl

end Records

/-! ## The window -/

def State.renews (s : State) (id : Nat) : Option Bool := (s.subscription id).map (·.autoRenew)

/-- Auto-renewal is off, and was switched off at `d`. -/
def State.DisabledAt (s : State) (id d : Nat) : Prop :=
  ∃ sub, s.subscription id = some sub ∧ sub.autoRenew = false ∧ sub.autoRenewDisabledAt = some d

/-- Moreover the interval in force is over at `now`. -/
def State.WindowClosed (s : State) (id d now : Nat) : Prop :=
  ∃ sub, s.subscription id = some sub ∧ sub.autoRenew = false ∧
    sub.autoRenewDisabledAt = some d ∧ d + sub.intervalSeconds ≤ now

/-- The transaction switches auto-renewal off at `d`. -/
def Disables (id d : Nat) (l : Transaction) (s : State) : Prop :=
  ∃ env authorizer, l = .call env (.setAutoRenew id authorizer false) ∧ env.now = d ∧
    s.renews id = some true

/-- No plan is taken whose interval is still running since `d`. -/
def Transaction.KeepsWindow (id d : Nat) : Transaction → State → Prop
  | .call env (.migrateSubscriptionToPlan _ j planId), s =>
    j = id → ∀ plan, s.planTemplate planId = some plan → d + plan.intervalSeconds ≤ env.now
  | _, _ => True

section Window

variable {env : Env} {s t start : State} {id d now : Nat} {op : Operation} {sub : Subscription}
  {l : VaultAction} {u : Unit} {authorizer : Address} {enabled : Bool}

theorem State.renews_eq_some {flag : Bool} : s.renews id = some flag ↔
    ∃ sub, s.subscription id = some sub ∧ sub.autoRenew = flag :=
  Option.map_eq_some_iff

theorem State.WindowClosed.disabledAt (h : s.WindowClosed id d now) : s.DisabledAt id d := by
  obtain ⟨sub, hsub, hoff, hdisabled, -⟩ := h
  exact ⟨sub, hsub, hoff, hdisabled⟩

theorem State.WindowClosed.later {soon : Nat} (h : s.WindowClosed id d now)
    (hnow : now ≤ soon) : s.WindowClosed id d soon := by
  obtain ⟨sub, hsub, hoff, hdisabled, hover⟩ := h
  exact ⟨sub, hsub, hoff, hdisabled, hover.trans hnow⟩

theorem State.DisabledAt.renews (h : s.DisabledAt id d) : s.renews id = some false := by
  obtain ⟨sub, hsub, hoff, -⟩ := h
  exact State.renews_eq_some.mpr ⟨sub, hsub, hoff⟩

theorem Subscription.window_closed (hdisabled : sub.autoRenewDisabledAt = some d)
    (hover : d + sub.intervalSeconds ≤ now) : sub.isInRenewalWindow now = false := by
  have hsaturated : saturatingAddU64 d sub.intervalSeconds ≤ now := (Nat.min_le_left _ _).trans hover
  simp [Subscription.isInRenewalWindow, hdisabled, hsaturated]

/-- What the call leaves, in terms of the stored record. -/
theorem doSetAutoRenew_record (hrun : (doSetAutoRenew id authorizer enabled).run env s = .ok u t)
    (hsub : s.subscription id = some sub) : ∃ new, t.subscription id = some new ∧
      new.autoRenew = enabled ∧ new.autoRenewDisabledAt = sub.disabledAt enabled env.now ∧
      new.intervalSeconds = sub.intervalSeconds ∧
      ¬(enabled = true ∧ sub.autoRenew = false ∧ sub.isInRenewalWindow env.now = false) := by
  obtain ⟨read, ⟨stored, hstored, hread⟩, hopen, hbook⟩ := doSetAutoRenew_sets hrun
  obtain rfl := Option.some.inj (hsub.symm.trans hstored)
  have hnew : t.subscription id = some { read with
      autoRenew := enabled
      autoRenewDisabledAt := read.disabledAt enabled env.now } := by
    refine (congrArg (fun b : Book => b.record id) hbook).trans ?_
    exact Function.update_self _ _ _
  rcases hread with rfl | ⟨-, rfl⟩
  · exact ⟨_, hnew, rfl, rfl, rfl, hopen⟩
  · exact ⟨_, hnew, rfl, rfl, rfl, hopen⟩

theorem VaultStep.windowClosed (h : VaultStep l s t)
    (hrestore : ∀ summaries, l.operation ≠ .restore summaries) (hnumbered : s.book.Numbered)
    (hother : l.setsRenewal id = false)
    (hplan : ∀ planId plan, l.operation = .replan id planId → s.planTemplate planId = some plan →
      d + plan.intervalSeconds ≤ now)
    (hclosed : s.WindowClosed id d now) : t.WindowClosed id d now := by
  obtain ⟨sub, hsub, hoff, hdisabled, hover⟩ := hclosed
  have hused : l.operation = .create → id ≠ s.book.nextId := fun _ =>
    Nat.ne_of_lt (hnumbered.lt_of_reads ⟨sub, hsub, .inl rfl⟩)
  obtain ⟨new, hnew, hsame⟩ := h.sameRenewal hrestore hused hother sub hsub
  refine ⟨new, hnew, hsame.flag.trans hoff, hsame.disabledAt.trans hdisabled, ?_⟩
  have hrecord := h.at_record id
  generalize hl : l.operation = op at hrecord
  cases hrecord with
  | kept hkept =>
    obtain rfl := Option.some.inj (hnew.symm.trans (Eq.trans hkept hsub))
    exact hover
  | rewritten hreads hrewrites hafter =>
    obtain rfl := Option.some.inj (hnew.symm.trans hafter)
    obtain ⟨stored, hstored, hread⟩ := hreads
    obtain rfl := Option.some.inj (hsub.symm.trans hstored)
    rcases hrewrites.intervalSeconds with hinterval | ⟨planId, plan, rfl, hstored, hinterval⟩
    · rw [hinterval]
      rcases hread with rfl | ⟨-, rfl⟩ <;> exact hover
    · rw [hinterval]
      exact hplan planId plan hl hstored
  | created hid _ => exact absurd hid (hused hl)
  | restored => exact absurd hl (hrestore _)

end Window

section Transactions

variable {s t start : State} {id d now : Nat} {sub : Subscription} {l : Transaction}
  {hist : History Transaction State}

theorem Transaction.operation_ne_restore (hrestore : l.isRestore = false) {env : Env}
    {call : VaultCall} (hl : l = .call env call) (summaries : List SubscriptionSummary) :
    call.operation ≠ .restore summaries := by
  subst hl
  intro heq
  cases call
  case restoreSnapshotPage => cases hrestore
  all_goals cases heq

theorem setsRenewal_eq_false {env : Env} {call : VaultCall}
    (h : ∀ authorizer enabled, call ≠ .setAutoRenew id authorizer enabled) :
    VaultAction.setsRenewal id (.call env call) = false := by
  cases call
  case setAutoRenew j authorizer enabled =>
    refine decide_eq_false fun hj => ?_
    subst hj
    exact h authorizer enabled rfl
  all_goals rfl

/-- A transaction sets auto-renewal of the subscription or leaves it alone. -/
theorem Transacts.sameRenewal (h : Transacts l s t) (hrestore : l.isRestore = false)
    (hnumbered : s.book.Numbered)
    (hother : ∀ env authorizer enabled, l ≠ .call env (.setAutoRenew id authorizer enabled)) :
    s.book.Carries id t.book Subscription.SameRenewal := by
  intro sub hsub
  refine (h.invariant_at (I := fun v => v.book.Numbered ∧ ∃ new, v.book.record id = some new ∧
      sub.SameRenewal new)
    (Q := fun l => l.setsRenewal id = false ∧ ∀ summaries, l.operation ≠ .restore summaries)
    (fun l v w hstep hplain hv => ?_) (fun env => ⟨rfl, nofun⟩) (fun env call hl item hitem => ?_)
    (fun env call hl _ => ⟨setsRenewal_eq_false fun authorizer enabled heq => ?_,
      Transaction.operation_ne_restore hrestore hl⟩)
    ⟨hnumbered, sub, hsub, ⟨rfl, rfl⟩⟩).2
  · obtain ⟨hv, old, hold, hkept⟩ := hv
    have hused : l.operation = .create → id ≠ v.book.nextId := fun _ =>
      Nat.ne_of_lt (hv.lt_of_reads ⟨old, hold, .inl rfl⟩)
    obtain ⟨new, hnew, hsame⟩ := hstep.sameRenewal hplain.2 hused hplain.1 old hold
    exact ⟨numbered_of_step hv hstep hplain.2, new, hnew, hsame.flag.trans hkept.flag,
      hsame.disabledAt.trans hkept.disabledAt⟩
  · cases item <;> exact ⟨rfl, nofun⟩
  · subst heq
    exact hother env authorizer enabled hl

/-- Auto-renewal that stays off stays off since the same time. -/
theorem Transacts.disabledAt (h : Transacts l s t) (hrestore : l.isRestore = false)
    (hnumbered : s.book.Numbered) (hdisabled : s.DisabledAt id d)
    (hoff : t.renews id = some false) : t.DisabledAt id d := by
  obtain ⟨sub, hsub, hflag, hat⟩ := hdisabled
  by_cases hset : ∃ env authorizer enabled, l = .call env (.setAutoRenew id authorizer enabled)
  · obtain ⟨env, authorizer, enabled, rfl⟩ := hset
    cases h with
    | call hrun =>
      obtain ⟨new, hnew, hnewFlag, hnewAt, -⟩ := doSetAutoRenew_record hrun hsub
      obtain ⟨new', hnew', hkept⟩ := State.renews_eq_some.mp hoff
      obtain rfl := Option.some.inj (hnew.symm.trans hnew')
      have henabled : enabled = sub.autoRenew := hnewFlag.symm.trans (hkept.trans hflag.symm)
      refine ⟨new, hnew, hkept, ?_⟩
      rw [hnewAt, Subscription.disabledAt, if_pos henabled, hat]
  · obtain ⟨new, hnew, hsame⟩ := h.sameRenewal hrestore hnumbered
      (fun env authorizer enabled heq => hset ⟨env, authorizer, enabled, heq⟩) sub hsub
    exact ⟨new, hnew, hsame.flag.trans hflag, hsame.disabledAt.trans hat⟩

theorem Disables.disabledAt (h : Disables id d l s) (hstep : Transacts l s t) :
    t.DisabledAt id d := by
  obtain ⟨env, authorizer, rfl, rfl, hon⟩ := h
  obtain ⟨sub, hsub, hflag⟩ := State.renews_eq_some.mp hon
  cases hstep with
  | call hrun =>
    obtain ⟨new, hnew, hnewFlag, hnewAt, -⟩ := doSetAutoRenew_record hrun hsub
    refine ⟨new, hnew, hnewFlag, ?_⟩
    rw [hnewAt, Subscription.disabledAt, if_neg (by simp [hflag]), if_neg (by simp)]

/-- The record says when auto-renewal was switched off. -/
theorem disabledAt_of_run (hdeployed : Deployed start) (hrun : Run Transacts start hist s)
    (hrestore : ∀ step ∈ hist, step.1.isRestore = false)
    (hsince : Since (fun _ v => v.renews id = some false) (Disables id d) hist)
    (hoff : s.renews id = some false) : s.DisabledAt id d := by
  induction hrun with
  | start => exact hsince.elim
  | next hbefore hstep ih =>
    have hearlier := fun step hmem => hrestore step (List.mem_cons_of_mem _ hmem)
    rcases hsince with hmade | ⟨hstill, hsince⟩
    · exact hmade.disabledAt hstep
    · have hnumbered := (funded_of_run hdeployed hbefore hearlier).2
      exact hstep.disabledAt (hrestore _ List.mem_cons_self) hnumbered
        (ih hearlier hsince hstill) hoff

/-- A closed window stays closed through a transaction that takes no longer plan. -/
theorem Transacts.windowClosed (h : Transacts l s t) (hrestore : l.isRestore = false)
    (hnumbered : s.book.Numbered) (hnow : now ≤ l.env.now) (hkeeps : l.KeepsWindow id d s)
    (hclosed : s.WindowClosed id d now) : t.WindowClosed id d l.env.now := by
  have hlater := hclosed.later hnow
  by_cases hset : ∃ env authorizer enabled, l = .call env (.setAutoRenew id authorizer enabled)
  · obtain ⟨env, authorizer, enabled, rfl⟩ := hset
    obtain ⟨sub, hsub, hoff, hdisabled, hover⟩ := hlater
    cases h with
    | call hrun =>
      obtain ⟨new, hnew, hnewFlag, hnewAt, hinterval, hopen⟩ := doSetAutoRenew_record hrun hsub
      have henabled : enabled = false := by
        by_contra hon
        exact hopen ⟨Bool.eq_true_of_not_eq_false hon, hoff,
          Subscription.window_closed hdisabled hover⟩
      refine ⟨new, hnew, hnewFlag.trans henabled, ?_, hinterval ▸ hover⟩
      rw [hnewAt, Subscription.disabledAt, if_pos (henabled.trans hoff.symm), hdisabled]
  by_cases hplan : ∃ env authorizer planId,
      l = .call env (.migrateSubscriptionToPlan authorizer id planId)
  · obtain ⟨env, authorizer, planId, rfl⟩ := hplan
    cases h with
    | call hrun =>
      refine VaultStep.windowClosed (.call rfl hrun) nofun hnumbered rfl
        (fun planId' plan hop hstored => ?_) hlater
      cases hop
      exact hkeeps rfl plan hstored
  · refine (h.invariant_at (I := fun v => v.book.Numbered ∧ v.WindowClosed id d l.env.now)
      (Q := fun l => l.setsRenewal id = false ∧ (∀ summaries, l.operation ≠ .restore summaries) ∧
        ∀ planId, l.operation ≠ .replan id planId)
      (fun l v w hstep hplain hv => ?_) (fun env => ⟨rfl, nofun, nofun⟩)
      (fun env call hl item hitem => ?_) (fun env call hl _ => ?_) ⟨hnumbered, hlater⟩).2
    · exact ⟨numbered_of_step hv.1 hstep hplain.2.1, hstep.windowClosed hplain.2.1 hv.1 hplain.1
        (fun planId plan hop => absurd hop (hplain.2.2 planId)) hv.2⟩
    · cases item <;> exact ⟨rfl, nofun, nofun⟩
    · refine ⟨setsRenewal_eq_false fun authorizer enabled heq => ?_,
        Transaction.operation_ne_restore hrestore hl, fun planId heq => ?_⟩
      · subst heq
        exact hset ⟨env, authorizer, enabled, hl⟩
      · cases call
        case migrateSubscriptionToPlan =>
          cases heq
          exact hplan ⟨_, _, _, hl⟩
        all_goals cases heq

end Transactions

/-! ## Charges -/

def VaultCall.chargesInterval : VaultCall → Bool
  | .chargeSubscription _ _ | .operatorChargeSubscription _ _ | .batchCharge _ _ _
  | .batchChargeDetailed _ _ _ | .operatorBatchCharge _ _ _ => true
  | _ => false

def VaultCall.chargesUsage : VaultCall → Bool
  | .chargeUsage _ _ | .chargeUsageWithReference _ _ _ | .operatorChargeUsage _ _ _
  | .operatorChargeUsageWithRef _ _ _ _ => true
  | _ => false

/-- Nothing is charged. The balance stays where it is, or goes back as a whole where a cancellation
was due. -/
structure Subscription.Uncharged (sub new : Subscription) : Prop where
  lifetime : new.lifetimeCharged = sub.lifetimeCharged
  balance : new.prepaidBalance = sub.prepaidBalance ∨ new.prepaidBalance = 0

/-- The last payment was after `d`: the subscription is in its trial, or was bought out. -/
def State.PaidAfter (s : State) (id d : Nat) : Prop :=
  ∃ sub, s.subscription id = some sub ∧ d < sub.lastPaymentTimestamp

section Charges

variable {env : Env} {s t : State} {id d now : Nat} {op : Operation} {sub new mid : Subscription}
  {l : VaultAction}

theorem Subscription.Uncharged.refl (sub : Subscription) : sub.Uncharged sub :=
  ⟨rfl, .inl rfl⟩

theorem Subscription.Uncharged.trans (h : sub.Uncharged mid) (h' : mid.Uncharged new) :
    sub.Uncharged new where
  lifetime := h'.lifetime.trans h.lifetime
  balance := by
    rcases h'.balance with hsame | hzero
    · rw [hsame]
      exact h.balance
    · exact .inr hzero

theorem Subscription.renewalClosed_of_off (hoff : sub.autoRenew = false)
    (hopen : sub.renewalClosed now = .ok false) :
    now < sub.lastPaymentTimestamp + sub.intervalSeconds := by
  unfold Subscription.renewalClosed at hopen
  rw [if_neg (by simp [hoff])] at hopen
  obtain ⟨next, hnext, hlate⟩ := except_map_ok.mp hopen
  obtain ⟨rfl, -⟩ := nextChargeTime_ok.mp hnext
  simpa using hlate

theorem Rewrites.uncharged (h : Rewrites env s id op sub new) (hop : ∃ j, op = .charge j)
    (hoff : sub.autoRenew = false) : sub.Uncharged new := by
  obtain ⟨j, rfl⟩ := hop
  cases h with
  | edited hop _ | revived hop _ _ | resumed hop _ => rcases hop with hop | hop <;> cases hop
  | halted _ _ hbalance hnew => exact ⟨by rw [hnew], hbalance⟩
  | settled hdue _ _ =>
    have hopen := Subscription.renewalClosed_of_off hoff hdue.renewing
    exact absurd hdue.elapsed (Nat.not_le.mpr hopen)

theorem Rewrites.unused (h : Rewrites env s id op sub new)
    (hop : ∃ j usageAmount, op = .chargeUsage j usageAmount) (hoff : sub.autoRenew = false) :
    sub.Uncharged new ∨ env.now < sub.lastPaymentTimestamp + sub.intervalSeconds := by
  obtain ⟨j, usageAmount, rfl⟩ := hop
  cases h with
  | edited hop _ | revived hop _ _ | resumed hop _ => rcases hop with hop | hop <;> cases hop
  | halted _ _ hbalance hnew => exact .inl ⟨by rw [hnew], hbalance⟩
  | used hdue _ => exact .inr (Subscription.renewalClosed_of_off hoff hdue.renewing)

/-- Both kinds of charges, of any subscription, seen from one with auto-renewal off. -/
theorem VaultStep.uncharged (h : VaultStep l s t)
    (hop : l.operation = .other ∨ ∃ j, l.operation = .charge j)
    (hsub : s.subscription id = some sub) (hoff : sub.autoRenew = false) :
    ∃ new, t.subscription id = some new ∧ new.autoRenew = false ∧ sub.Uncharged new := by
  have hrecord := h.at_record id
  generalize l.operation = op at hrecord hop
  cases hrecord with
  | kept hsame => exact ⟨sub, Eq.trans hsame hsub, hoff, .refl sub⟩
  | rewritten hreads hrewrites hafter =>
    obtain ⟨stored, hstored, hread⟩ := hreads
    obtain rfl := Option.some.inj (hsub.symm.trans hstored)
    have hcharge : ∃ j, op = .charge j := by
      refine hop.resolve_left ?_
      rintro rfl
      cases hrewrites with
      | edited hop _ | revived hop _ _ | resumed hop _ => rcases hop with hop | hop <;> cases hop
      | halted hop _ _ _ => rcases hop with hop | ⟨_, hop⟩ <;> cases hop
    have hrenewal := hrewrites.sameRenewal.resolve_left (by
      obtain ⟨j, rfl⟩ := hcharge
      simp)
    rcases hread with rfl | ⟨-, rfl⟩
    · exact ⟨_, hafter, hrenewal.flag.trans hoff, hrewrites.uncharged hcharge hoff⟩
    · obtain ⟨hlifetime, hbalance⟩ := hrewrites.uncharged hcharge hoff
      exact ⟨_, hafter, hrenewal.flag.trans hoff, hlifetime, hbalance⟩
  | created => rcases hop with hop | ⟨_, hop⟩ <;> cases hop
  | restored => rcases hop with hop | ⟨_, hop⟩ <;> cases hop

theorem VaultStep.unused (h : VaultStep l s t)
    (hop : ∃ j usageAmount, l.operation = .chargeUsage j usageAmount)
    (hsub : s.subscription id = some sub) (hoff : sub.autoRenew = false) :
    (∃ new, t.subscription id = some new ∧ sub.Uncharged new) ∨
      l.env.now < sub.lastPaymentTimestamp + sub.intervalSeconds := by
  have hrecord := h.at_record id
  generalize l.operation = op at hrecord hop
  cases hrecord with
  | kept hsame => exact .inl ⟨sub, Eq.trans hsame hsub, .refl sub⟩
  | rewritten hreads hrewrites hafter =>
    obtain ⟨stored, hstored, hread⟩ := hreads
    obtain rfl := Option.some.inj (hsub.symm.trans hstored)
    rcases hread with rfl | ⟨-, rfl⟩
    · exact (hrewrites.unused hop hoff).imp_left fun h => ⟨_, hafter, h⟩
    · exact (hrewrites.unused hop hoff).imp_left fun h => ⟨_, hafter, h.lifetime, h.balance⟩
  | created => obtain ⟨_, _, hop⟩ := hop; cases hop
  | restored => obtain ⟨_, _, hop⟩ := hop; cases hop

/-- What a charge does while auto-renewal is off and its window closed. -/
def ChargesRefused (id d : Nat) (l : Transaction) (s t : State) : Prop :=
  ∀ env call, l = .call env call →
    (call.chargesInterval = true → s.book.Carries id t.book Subscription.Uncharged) ∧
    (call.chargesUsage = true → s.book.Carries id t.book Subscription.Uncharged ∨
      s.PaidAfter id d)

theorem Transacts.chargesRefused {l : Transaction} (h : Transacts l s t)
    (hclosed : s.WindowClosed id d l.env.now) : ChargesRefused id d l s t := by
  rintro env call rfl
  obtain ⟨sub, hsub, hoff, -, hover⟩ := hclosed
  refine ⟨fun hcharge old hold => ?_, fun husage => ?_⟩
  · obtain rfl := Option.some.inj (hsub.symm.trans hold)
    have hsteps := h.invariant_at (I := fun v => ∃ new, v.subscription id = some new ∧
        new.autoRenew = false ∧ sub.Uncharged new)
      (Q := fun l => l.operation = .other ∨ ∃ j, l.operation = .charge j)
      (fun l v w hstep hop ⟨mid, hmid, hmidOff, hkept⟩ => ?_) (fun _ => .inl rfl)
      (fun env' call' heq item hitem => ?_) (fun env' call' heq hsingle => ?_)
      ⟨sub, hsub, hoff, .refl sub⟩
    · obtain ⟨new, hnew, -, hkept⟩ := hsteps
      exact ⟨new, hnew, hkept⟩
    · obtain ⟨new, hnew, hnewOff, hsame⟩ := hstep.uncharged hop hmid hmidOff
      exact ⟨new, hnew, hnewOff, hkept.trans hsame⟩
    · cases heq
      cases call
      case batchCharge | batchChargeDetailed =>
        obtain ⟨entry, -, rfl⟩ := List.mem_map.mp hitem
        exact .inr ⟨entry.1, rfl⟩
      case chargeSubscription | operatorChargeSubscription | operatorBatchCharge => cases hitem
      all_goals cases hcharge
    · cases heq
      cases call
      case chargeSubscription | operatorChargeSubscription => exact .inr ⟨_, rfl⟩
      case operatorBatchCharge => exact .inl rfl
      case batchCharge | batchChargeDetailed => cases hsingle
      all_goals cases hcharge
  · have hop : ∃ j usageAmount, call.operation = .chargeUsage j usageAmount := by
      cases call
      case chargeUsage | chargeUsageWithReference | operatorChargeUsage
        | operatorChargeUsageWithRef => exact ⟨_, _, rfl⟩
      all_goals cases husage
    have hsingle : call.isBulk = false := by
      cases call
      case batchCharge | batchChargeDetailed | bulkDepositFunds | bulkCancelSubscriptions
        | bulkPauseSubscriptions => cases husage
      all_goals rfl
    cases h with
    | call hrun =>
      rcases VaultStep.unused (.call hsingle hrun) hop hsub hoff with hkept | hearly
      · refine .inl fun old hold => ?_
        obtain rfl := Option.some.inj (hsub.symm.trans hold)
        exact hkept
      · have hlate : d + sub.intervalSeconds < sub.lastPaymentTimestamp + sub.intervalSeconds :=
          Nat.lt_of_le_of_lt hover hearly
        exact .inr ⟨sub, hsub, Nat.lt_of_add_lt_add_right hlate⟩

end Charges

/-! ## Runs -/

/-- The time of the last transaction. -/
def clock (now : Nat) : History Transaction State → Nat
  | [] => now
  | (l, _) :: _ => l.env.now

/-- Time does not run backwards, from `now` on. -/
def OnTime (now : Nat) : History Transaction State → Prop
  | [] => True
  | (l, _) :: earlier => clock now earlier ≤ l.env.now ∧ OnTime now earlier

/-- Auto-renewal was switched off at `d` and has stayed off until `u`, where at `now` the interval
in force is over; `later` is what follows. -/
structure ClosedWindow (start u t : State) (hist later : History Transaction State)
    (id d now : Nat) : Prop where
  deployed : Deployed start
  run : Run Transacts start hist u
  plain : ∀ step ∈ later ++ hist, step.1.isRestore = false
  disabled : Since (fun _ v => v.renews id = some false) (Disables id d) hist
  off : u.renews id = some false
  passed : ∀ sub, u.subscription id = some sub → d + sub.intervalSeconds ≤ now
  continued : Run Transacts u later t
  onTime : OnTime now later

section Runs

variable {start u t : State} {hist later : History Transaction State} {id d now : Nat}

theorem ClosedWindow.windowClosed (h : ClosedWindow start u t hist later id d now) :
    u.WindowClosed id d now := by
  have hplain : ∀ step ∈ hist, step.1.isRestore = false := fun step hmem =>
    h.plain step (List.mem_append_right _ hmem)
  obtain ⟨sub, hsub, hoff, hat⟩ := disabledAt_of_run h.deployed h.run hplain h.disabled h.off
  exact ⟨sub, hsub, hoff, hat, h.passed sub hsub⟩

/-- Along the rest of the run the window is closed, by the induction on that rest. -/
theorem windowClosed_of_run (hdeployed : Deployed start) (hrun : Run Transacts start hist u)
    (hclosed : u.WindowClosed id d now) (hlater : Run Transacts u later t)
    (hplain : ∀ step ∈ later ++ hist, step.1.isRestore = false) (htime : OnTime now later)
    (hplans : ∀ step ∈ later, step.1.KeepsWindow id d step.2) :
    t.WindowClosed id d (clock now later) ∧ ∀ l v w, (l, v, w) ∈ transitions later t →
      w.renews id = some false ∧ ChargesRefused id d l v w := by
  induction hlater with
  | start =>
    refine ⟨hclosed, fun l v w hmem => ?_⟩
    cases hmem
  | @next earlier s t l hearlier hstep ih =>
    obtain ⟨hs, hbefore⟩ := ih (fun step hmem => hplain step (List.mem_cons_of_mem _ hmem)) htime.2
      fun step hmem => hplans step (List.mem_cons_of_mem _ hmem)
    have hnumbered : s.book.Numbered := (funded_of_run hdeployed (hrun.append hearlier)
      fun step hmem => hplain step (List.mem_cons_of_mem _ hmem)).2
    have hafter := hstep.windowClosed (hplain _ List.mem_cons_self) hnumbered htime.1
      (hplans _ List.mem_cons_self) hs
    refine ⟨hafter, fun l' v w hmem => ?_⟩
    rcases List.mem_cons.mp hmem with heq | hmem
    · cases heq
      exact ⟨hafter.disabledAt.renews, hstep.chargesRefused (hs.later htime.1)⟩
    · exact hbefore l' v w hmem

end Runs

/-- Once the window is closed, auto-renewal stays off while the subscription takes no plan with a
longer interval. Nothing is charged then, but for usage within a trial or a bought interval. -/
theorem closed_window_stays_closed {start u t : State} {hist later : History Transaction State}
    {id d now : Nat} (h : ClosedWindow start u t hist later id d now)
    (hplans : ∀ step ∈ later, step.1.KeepsWindow id d step.2) :
    ∀ l v w, (l, v, w) ∈ transitions later t →
      w.renews id = some false ∧ ChargesRefused id d l v w :=
  (windowClosed_of_run h.deployed h.run h.windowClosed h.continued h.plain h.onTime hplans).2

private def switchedOff : List (Env × VaultCall) :=
  [(sampleEnv 2 [⟨2⟩], .setAutoRenew 0 ⟨2⟩ false),
   (sampleEnv 1 [⟨2⟩], .depositFunds 0 100 none),
   (sampleEnv 0 [⟨2⟩], .createSubscription sampleRequest)]

/-- A charge two minutes later is skipped. -/
theorem switched_off_stays_off : ∃ (hist later : History Transaction State) (u t : State),
    ClosedWindow (sampleStart 0) u t hist later 0 2 62 ∧
    (∃ v w, (.call (sampleEnv 120 []) (.chargeSubscription 0 none), v, w) ∈ transitions later t) ∧
    ∀ l v w, (l, v, w) ∈ transitions later t →
      w.renews 0 = some false ∧ ChargesRefused 0 2 l v w := by
  let u := stateAfter (afterCalls (sampleVault 0)) switchedOff
  let charge : List (Env × VaultCall) := [(sampleEnv 120 [], .chargeSubscription 0 none)]
  have hrun := run_transactions (sample_transacted 0)
    (show allSucceed (afterCalls (sampleVault 0)) switchedOff = true by decide +kernel)
  have hcontinued : Run Transacts u (transactionHistory u charge) (stateAfter u charge) :=
    run_alone (by decide +kernel)
  have hinterval : (u.subscription 0).all (fun sub => 2 + sub.intervalSeconds ≤ 62) = true := by
    decide +kernel
  have hwindow : ClosedWindow (sampleStart 0) u (stateAfter u charge)
      (transactionHistory (afterCalls (sampleVault 0)) switchedOff ++
        [(.other (sampleEnv 0 []), sampleStart 0)]) (transactionHistory u charge) 0 2 62 :=
    { deployed := sample_deployed 0
      run := hrun
      plain := by
        intro step hmem
        simp only [charge, switchedOff, transactionHistory, List.cons_append, List.nil_append,
          List.mem_cons, List.not_mem_nil, or_false] at hmem
        rcases hmem with rfl | rfl | rfl | rfl | rfl <;> rfl
      disabled := .inl ⟨_, _, rfl, rfl, by decide +kernel⟩
      off := by decide +kernel
      passed := fun sub hsub => by
        rw [hsub] at hinterval
        exact of_decide_eq_true hinterval
      continued := hcontinued
      onTime := ⟨by decide, trivial⟩ }
  refine ⟨_, _, u, _, hwindow, ⟨_, _, List.mem_cons_self⟩, ?_⟩
  exact closed_window_stays_closed hwindow fun step hmem => by
    rcases List.mem_singleton.mp hmem with rfl
    trivial

/-! ## A trial and a longer plan -/

/-- A plan for usage with a trial, and its next version with intervals of an hour. -/
private def trialPlan : List (Env × Vault Unit) :=
  [(sampleEnv 0 [⟨1⟩], effectOf (doUpdatePlanTemplate ⟨1⟩ 0 10 3600 true none)),
   (sampleEnv 0 [⟨1⟩], effectOf (doRegisterPlan ⟨1⟩ 10 60 600 true none))] ++ sampleVault 0

private theorem trialPlan_run : Run Transacts (sampleStart 0)
    [(.other (sampleEnv 0 []), sampleStart 0)] (afterCalls trialPlan) := by
  have hregister := (doRegisterPlan_areas ⟨1⟩ 10 60 600 true none).effectOf.after
    (sampleEnv 0 [⟨1⟩]) (afterCalls (sampleVault 0))
  have hupdate := (doUpdatePlanTemplate_areas ⟨1⟩ 0 10 3600 true none).effectOf.after
    (sampleEnv 0 [⟨1⟩]) (afterCalls
      ((sampleEnv 0 [⟨1⟩], effectOf (doRegisterPlan ⟨1⟩ 10 60 600 true none)) :: sampleVault 0))
  have hquiet : FiniteStore.AgreeOff (areas foreignAreas) (sampleStart 0)
      (afterCalls trialPlan) :=
    ((sample_areas 0).mono (areas_mono rfl)).trans
      ((hregister.mono (areas_mono rfl)).trans (hupdate.mono (areas_mono rfl)))
  exact Run.start.next (.other hquiet)

private def trialOff : List (Env × VaultCall) :=
  [(sampleEnv 3 [⟨2⟩], .setAutoRenew 0 ⟨2⟩ false),
   (sampleEnv 2 [⟨1⟩], .configureUsageLimits 0 ⟨⟨1⟩, none, 0, 0, none⟩),
   (sampleEnv 1 [⟨2⟩], .depositFunds 0 100 none),
   (sampleEnv 0 [⟨2⟩], .createSubscriptionFromPlan ⟨2⟩ 0 none)]

private def reopened : List (Env × VaultCall) :=
  [(sampleEnv 102 [⟨2⟩], .setAutoRenew 0 ⟨2⟩ true),
   (sampleEnv 101 [⟨2⟩], .migrateSubscriptionToPlan ⟨2⟩ 0 1),
   (sampleEnv 100 [⟨1⟩], .chargeUsage 0 5)]

/-- After the window has closed usage is charged within the trial, and auto-renewal is enabled
again after a migration onto the longer plan. -/
theorem trial_charged_and_reopened : ∃ (start u t : State) (hist later : History Transaction State)
    (d now : Nat), ClosedWindow start u t hist later 0 d now ∧ t.renews 0 = some true ∧
    ∃ env v w, (.call env (.chargeUsage 0 5), v, w) ∈ transitions later t ∧
      (v.subscription 0).map (·.prepaidBalance) = some 100 ∧
      (w.subscription 0).map (·.prepaidBalance) = some 95 := by
  let u := stateAfter (afterCalls trialPlan) trialOff
  have hrun := run_transactions trialPlan_run
    (show allSucceed (afterCalls trialPlan) trialOff = true by decide +kernel)
  have hcontinued : Run Transacts u (transactionHistory u reopened) (stateAfter u reopened) :=
    run_alone (by decide +kernel)
  have hinterval : (u.subscription 0).all (fun sub => 3 + sub.intervalSeconds ≤ 63) = true := by
    decide +kernel
  refine ⟨_, u, _, _, _, 3, 63, ⟨sample_deployed 0, hrun, fun step hmem => ?_,
    .inl ⟨_, _, rfl, rfl, by decide +kernel⟩, by decide +kernel, fun sub hsub => ?_, hcontinued,
    by decide, by decide, by decide, trivial⟩, by decide +kernel, _, _, _,
    List.mem_cons_of_mem _ (List.mem_cons_of_mem _ List.mem_cons_self), by decide +kernel,
    by decide +kernel⟩
  · simp only [reopened, trialOff, transactionHistory, List.cons_append, List.nil_append,
      List.mem_cons, List.not_mem_nil, or_false] at hmem
    rcases hmem with rfl | rfl | rfl | rfl | rfl | rfl | rfl | rfl <;> rfl
  · rw [hsub] at hinterval
    exact of_decide_eq_true hinterval

end SubscriptionVault
