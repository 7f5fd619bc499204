import SubscriptionVault.Lifecycle.Consents
import SubscriptionVault.Lifecycle.Terminal

/-!
# Emergency withdrawals

A subscriber may empty a paused or cancelled subscription three days after asking for it. Only
the two ends of the three days are compared: a request outlives a resume and a transfer, and
nothing but its withdrawal takes it back.
-/

namespace SubscriptionVault

open Exec

/-! ## Requests -/

def State.withdrawIntent (s : State) (id : Nat) : Option EmergencyWithdrawIntent :=
  s.read (.persistent (.emergencyWithdrawIntent id))

/-- The owner of the subscription and its stored status. -/
def State.holding (s : State) (id : Nat) : Option (Address × SubscriptionStatus) :=
  (s.subscription id).map fun sub => (sub.subscriber, sub.status)

def SubscriptionStatus.admitsEmergency (status : SubscriptionStatus) : Prop :=
  status = .paused ∨ status = .cancelled

/-- The transaction makes the request, signed by the owner. -/
def Requests (id : Nat) (owner : Address) (intent : EmergencyWithdrawIntent) (l : Transaction)
    (s : State) : Prop :=
  ∃ env, l = .call env (.requestEmergencyWithdraw id owner) ∧ env.authorized owner = true ∧
    env.now = intent.requestedAt ∧ s.holding id = some (owner, intent.requestedStatus) ∧
    intent.requestedStatus.admitsEmergency

/-- The call does not make a request of the subscription stale. -/
def VaultCall.KeepsRequest (s : State) (id : Nat) : VaultCall → Prop
  | .acceptTransfer j _ | .resumeSubscription j _ => j ≠ id
  | .removeFromBlocklist _ subscriber =>
    (s.holding id).any (·.2 = .paused) = true → id ∉ s.subscriberSubs subscriber
  | .createSubscription _ | .createSubscriptionWithToken _ | .createSubscriptionWithSplit _ _
  | .createSubscriptionFromPlan _ _ _ => s.nextSubscriptionId ≠ id
  | .restoreSnapshotPage _ summaries _ => ∀ summary ∈ summaries, summary.subscriptionId = id →
    s.holding id = some (summary.subscriber, summary.status)
  | _ => True

/-- No request is made so late that its three days run over the end of time, and while there is
one no call makes it stale. -/
def Transaction.SparesRequest (id : Nat) : Transaction → State → Prop
  | .call env (.requestEmergencyWithdraw j _), _ =>
    j = id → env.now + emergencyWithdrawCooldown ≤ u64Max
  | .call _ c, s => (s.withdrawIntent id).isSome = true → c.KeepsRequest s id
  | .other _, _ => True

section Requests

variable {env : Env} {s t : State} {id : Nat} {u : Unit} {owner : Address}
  {sub : Subscription} {status : SubscriptionStatus}

theorem State.withdrawIntent_of_areas {l : List Area} (h : FiniteStore.AgreeOff (areas l) s t)
    (hl : l.contains .withdrawIntents = false) (j : Nat) :
    t.withdrawIntent j = s.withdrawIntent j :=
  State.read_of_areas (k := .persistent (.emergencyWithdrawIntent j)) h hl

/-- What a status of the two reads as is what is stored. -/
theorem State.holding_of_reads (h : s.book.Reads id sub) (hstatus : sub.status.admitsEmergency) :
    s.holding id = some (sub.subscriber, sub.status) := by
  obtain ⟨stored, hstored, rfl | ⟨-, rfl⟩⟩ := h
  · have hsub : s.subscription id = some sub := hstored
    rw [State.holding, hsub]
    rfl
  · rcases hstatus with h | h <;> cases h

theorem doRequestEmergencyWithdraw_intent
    (hrun : (doRequestEmergencyWithdraw id owner).run env s = .ok u t) :
    ∃ intent : EmergencyWithdrawIntent, Requests id owner intent
        (.call env (.requestEmergencyWithdraw id owner)) s ∧
      t = s.write (.persistent (.emergencyWithdrawIntent id)) intent := by
  obtain ⟨ledger, hledger, hrun⟩ := run_check_ok .ask hrun
  obtain ⟨rfl, -⟩ := run_ask_ok.mp hledger
  obtain ⟨_, hsigned, hrun⟩ := run_check_ok (Modifies.requireAuth _) hrun
  obtain ⟨sub, hreads, -, hrun⟩ := run_read_ok hrun
  obtain ⟨_, howner, hrun⟩ := run_check_ok (.failIf _ _) hrun
  obtain ⟨_, hstatus, hrun⟩ := run_check_ok (.failIf _ _) hrun
  obtain ⟨_, -, hrun⟩ := run_check_ok (.failIf _ _) hrun
  obtain ⟨_, -, hrun⟩ := run_check_ok Modifies.load hrun
  obtain ⟨_, -, hrun⟩ := run_check_ok (.failIf _ _) hrun
  have hadmits : sub.status.admitsEmergency := by
    have hopen := (run_failIf_ok.mp hstatus).1
    unfold SubscriptionStatus.admitsEmergency
    tauto
  have hsubscriber : owner = sub.subscriber := not_not.mp (run_failIf_ok.mp howner).1
  refine ⟨⟨id, env.now, sub.status⟩, ⟨env, rfl, (run_requireAuth_ok.mp hsigned).1.1, rfl, ?_,
    hadmits⟩, (run_store_ok.mp hrun).symm⟩
  rw [hsubscriber]
  exact State.holding_of_reads hreads hadmits

theorem doFinalizeEmergencyWithdraw_intent
    (hrun : (doFinalizeEmergencyWithdraw id owner).run env s = .ok u t) :
    (∃ intent, s.withdrawIntent id = some intent ∧
      s.holding id = some (owner, intent.requestedStatus) ∧
      wrapU64 (intent.requestedAt + emergencyWithdrawCooldown) ≤ env.now) ∧
    ∀ j, t.withdrawIntent j = if j = id then none else s.withdrawIntent j := by
  obtain ⟨ledger, hledger, hrun⟩ := run_check_ok .ask hrun
  obtain ⟨rfl, -⟩ := run_ask_ok.mp hledger
  obtain ⟨_, -, hrun⟩ := run_check_ok (Modifies.requireAuth _) hrun
  obtain ⟨sub, hreads, -, hrun⟩ := run_read_ok hrun
  obtain ⟨_, howner, hrun⟩ := run_check_ok (.failIf _ _) hrun
  obtain ⟨found, hfound, hrun⟩ := run_check_ok Modifies.load hrun
  obtain ⟨rfl, -⟩ := run_load_ok.mp hfound
  obtain ⟨intent, hintent, hrun⟩ := run_check_ok (.okOr _ _) hrun
  obtain ⟨_, hsame, hrun⟩ := run_check_ok (.failIf _ _) hrun
  obtain ⟨_, hstatus, hrun⟩ := run_check_ok (.failIf _ _) hrun
  obtain ⟨_, hcooled, hrun⟩ := run_check_ok (.failIf _ _) hrun
  obtain ⟨_, -, hrun⟩ := run_check_ok (.failIf _ _) hrun
  obtain ⟨_, s₁, hdeleted, hrun⟩ := run_bind_ok.mp hrun
  obtain rfl := run_delete_ok.mp hdeleted
  have hadmits : sub.status.admitsEmergency := by
    have hopen := (run_failIf_ok.mp hstatus).1
    unfold SubscriptionStatus.admitsEmergency
    tauto
  have hsubscriber : owner = sub.subscriber := not_not.mp (run_failIf_ok.mp howner).1
  have hrequested : sub.status = intent.requestedStatus := not_not.mp (run_failIf_ok.mp hsame).1
  refine ⟨⟨intent, (run_okOr_ok.mp hintent).1, ?_,
    Nat.le_of_not_lt (run_failIf_ok.mp hcooled).1⟩, fun j => ?_⟩
  · rw [hsubscriber, ← hrequested]
    exact State.holding_of_reads hreads hadmits
  · refine (State.withdrawIntent_of_areas ((refundPrepaid_areas _ _).ok hrun) rfl j).trans ?_
    split
    · rename_i hj
      subst hj
      exact FiniteStore.read_remove_self s
    · rename_i hj
      have hne : Slot.persistent (.emergencyWithdrawIntent j) ≠
          .persistent (.emergencyWithdrawIntent id) := by simpa using hj
      exact FiniteStore.read_remove_of_ne s hne

/-- A request that is there has just been made, or was there already. -/
theorem Transacts.withdrawIntent {l : Transaction} (h : Transacts l s t)
    {intent : EmergencyWithdrawIntent} (hintent : t.withdrawIntent id = some intent) :
    (∃ owner, Requests id owner intent l s) ∨ s.withdrawIntent id = some intent := by
  have hquiet (hl : (Area.locks :: l.areas).contains .withdrawIntents = false) :
      s.withdrawIntent id = some intent :=
    (h.read (k := .persistent (.emergencyWithdrawIntent id)) hl).symm.trans hintent
  cases h with
  | other => exact .inr (hquiet rfl)
  | @call env call _ _ hrun =>
    cases call
    case requestEmergencyWithdraw j owner =>
      obtain ⟨made, hmade, rfl⟩ := doRequestEmergencyWithdraw_intent hrun
      by_cases hj : j = id
      · subst hj
        have hsame := (FiniteStore.read_write_self s made).symm.trans hintent
        exact .inl ⟨owner, Option.some.inj hsame ▸ hmade⟩
      · have hne : Slot.persistent (.emergencyWithdrawIntent id) ≠
            .persistent (.emergencyWithdrawIntent j) := by simpa using Ne.symm hj
        exact .inr ((FiniteStore.read_write_of_ne s made hne).symm.trans hintent)
    case finalizeEmergencyWithdraw j owner =>
      obtain ⟨v, w, hbody, hbefore, hafter⟩ := run_withLock_areas hrun
      have hleft := (State.withdrawIntent_of_areas hafter rfl id).symm.trans hintent
      rw [(doFinalizeEmergencyWithdraw_intent hbody).2 id] at hleft
      split at hleft
      · cases hleft
      · exact .inr ((State.withdrawIntent_of_areas hbefore rfl id).symm.trans hleft)
    all_goals exact .inr (hquiet rfl)

end Requests

/-! ## What becomes of the subscription -/

/-- The subscription is one of the owners' and has the status, or is finished with another. -/
def State.Holds (s : State) (id : Nat) (owners : Set Address) (status : SubscriptionStatus) :
    Prop :=
  (∃ owner ∈ owners, s.holding id = some (owner, status)) ∨
    ∃ last, s.holding id = some last ∧ last.2.isTerminal = true ∧ last.2 ≠ status

/-- The operation neither wakes the subscription nor replaces its record or owner. -/
def Operation.keepsHolding (id : Nat) : Operation → Prop
  | .transfer j _ | .resume j => j ≠ id
  | .create | .unblock | .restore _ => False
  | _ => True

section Holdings

variable {env : Env} {s t : State} {b' : Book} {id : Nat} {op : Operation} {owner : Address}
  {owners : Set Address} {sub : Subscription} {status : SubscriptionStatus}

theorem IntervalChanges.of_paused (h : IntervalChanges env s id b')
    (hsub : s.book.record id = some sub) (hpaused : sub.status = .paused) :
    ∃ new, b'.record id = some new ∧ (new.status = .paused ∨ new.status.isTerminal = true) := by
  have hfound {read : Subscription} (hreads : s.book.Reads id read) : read.status = .paused := by
    obtain ⟨stored, hstored, hread⟩ := hreads
    rw [hsub] at hstored
    obtain rfl := Option.some.inj hstored
    rcases hread with rfl | ⟨hgrace, -⟩
    · exact hpaused
    · rw [hpaused] at hgrace
      cases hgrace
  have hidle {read : Subscription} {amount : Int} (hdue : IntervalDue env s id read amount) :
      False := by
    rcases hdue.chargeable with h | h | h <;> rw [hfound hdue.reads] at h <;> cases h
  cases h with
  | unchanged => exact ⟨sub, hsub, .inl hpaused⟩
  | expired | capped | cancelled => exact ⟨_, Function.update_self _ _ _, .inr rfl⟩
  | short hdue => exact (hidle hdue).elim
  | booked hbooks =>
    obtain ⟨_, _, _, hdue, -⟩ := hbooks
    exact (hidle hdue).elim

theorem UsageChanges.of_paused {usageAmount : Int} (h : UsageChanges env s id usageAmount b')
    (hsub : s.book.record id = some sub) (hpaused : sub.status = .paused) : b' = s.book := by
  have hidle {read : Subscription} {reference : Bytes}
      (hdue : UsageDue env s id read usageAmount reference) : False := by
    obtain ⟨stored, hstored, hread⟩ := hdue.reads
    rw [hsub] at hstored
    obtain rfl := Option.some.inj hstored
    have hactive := hdue.active
    rcases hread with rfl | ⟨hgrace, -⟩
    · rw [hpaused] at hactive
      cases hactive
    · rw [hpaused] at hgrace
      cases hgrace
  cases h with
  | unchanged => rfl
  | capped hdue _ | booked hdue _ _ | unfit hdue => exact (hidle hdue).elim

/-- A paused subscription that is not woken stays paused until it is finished. -/
theorem Operation.Changes.of_paused (h : op.Changes env s b') (hop : op.keepsHolding id)
    (hsub : s.book.record id = some sub) (hpaused : sub.status = .paused) :
    ∃ new, b'.record id = some new ∧ (new.status = .paused ∨ new.status.isTerminal = true) := by
  have hrecord := h.at_record id
  cases hrecord with
  | kept hsame => exact ⟨sub, hsame.trans hsub, .inl hpaused⟩
  | @rewritten _ old new hreads hrewrites hafter =>
    obtain ⟨stored, hstored, hread⟩ := hreads
    rw [hsub] at hstored
    obtain rfl := Option.some.inj hstored
    rcases hread with rfl | ⟨hgrace, -⟩
    swap
    · rw [hpaused] at hgrace
      cases hgrace
    cases hrewrites with
    | edited _ hnew =>
      rw [hnew] at hafter
      exact ⟨_, hafter, .inl hpaused⟩
    | revived _ hbehind _ =>
      rw [hpaused] at hbehind
      rcases hbehind with h | h <;> cases h
    | paused => exact ⟨_, hafter, .inl rfl⟩
    | resumed hcause _ =>
      rcases hcause with rfl | rfl
      · exact absurd rfl hop
      · exact hop.elim
    | cancelled | archived => exact ⟨_, hafter, .inr rfl⟩
    | transferred => exact absurd rfl hop
    | replanned => exact ⟨_, hafter, .inl hpaused⟩
    | rehomed =>
      refine ⟨_, hafter, .inl ?_⟩
      unfold Subscription.rehomed
      split <;> exact hpaused
    | halted hcause _ _ _ =>
      rcases hcause with rfl | ⟨usageAmount, rfl⟩
      · exact IntervalChanges.of_paused h hsub hpaused
      · rw [UsageChanges.of_paused h hsub hpaused]
        exact ⟨_, hsub, .inl hpaused⟩
    | settled hdue _ _ =>
      rcases hdue.chargeable with h | h | h <;> rw [hpaused] at h <;> cases h
    | used hdue _ => exact absurd hdue.active (by simp [hpaused])
    | boughtOut hgrace _ _ => exact absurd hgrace (by simp [hpaused])
  | created => exact hop.elim
  | restored => exact hop.elim

theorem State.holding_eq_some : s.holding id = some (owner, status) ↔
    ∃ sub, s.subscription id = some sub ∧ sub.subscriber = owner ∧ sub.status = status := by
  simp [State.holding]

theorem State.holding_of_record (h : t.book.record id = s.book.record id) :
    t.holding id = s.holding id :=
  congrArg (Option.map fun sub : Subscription => (sub.subscriber, sub.status)) h

theorem SubscriptionStatus.admitsEmergency.ne_archived (h : status.admitsEmergency) :
    SubscriptionStatus.archived ≠ status := by
  rcases h with rfl | rfl <;> simp

theorem Operation.keepsHolding.spares (hop : op.keepsHolding id) (s : State) :
    op.Spares s id := by
  cases op with
  | create | restore => exact hop.elim
  | _ => trivial

/-- A finished subscription keeps its status or goes to the archive. -/
theorem VaultStep.holding_of_terminal {l : VaultAction} (h : VaultStep l s t)
    (hspares : l.operation.Spares s id) (hsub : s.subscription id = some sub)
    (hterminal : sub.status.isTerminal = true) : ∃ new, t.subscription id = some new ∧
      new.status.isTerminal = true ∧ (new.status = sub.status ∨ new.status = .archived) := by
  obtain ⟨new, hnew, hfinal, hstatus, -⟩ :=
    finished_of_step ⟨sub, hsub, hterminal, .inl rfl, rfl⟩ h hspares
  exact ⟨new, hnew, hfinal, hstatus⟩

/-- What is left of the subscription after a step that does not wake it. -/
theorem VaultStep.status_of_holding {l : VaultAction} (h : VaultStep l s t)
    (hop : l.operation.keepsHolding id) (hsub : s.subscription id = some sub)
    (hadmits : sub.status.admitsEmergency) : ∃ new, t.subscription id = some new ∧
      (new.status = sub.status ∨ new.status.isTerminal = true) := by
  rcases hadmits with hpaused | hcancelled
  · rcases h.changes with hsame | hchanges
    · exact ⟨sub, (congrArg (fun b : Book => b.record id) hsame).trans hsub, .inl rfl⟩
    · rw [hpaused]
      exact hchanges.of_paused hop hsub hpaused
  · have hterminal : sub.status.isTerminal = true := by rw [hcancelled]; rfl
    obtain ⟨new, hnew, hfinal, -⟩ := h.holding_of_terminal (hop.spares s) hsub hterminal
    exact ⟨new, hnew, .inr hfinal⟩

theorem VaultStep.subscriber_of_kept {l : VaultAction} {new : Subscription} (h : VaultStep l s t)
    (hop : l.operation.keepsHolding id) (hsub : s.subscription id = some sub)
    (hnew : t.subscription id = some new) : new.subscriber = sub.subscriber := by
  have hrecord := h.at_record id
  generalize l.operation = op at hrecord hop
  cases hrecord with
  | kept hsame =>
    have hkept : t.subscription id = some sub := Eq.trans hsame hsub
    rw [hkept] at hnew
    rw [Option.some.inj hnew]
  | rewritten hreads hrewrites hafter =>
    obtain ⟨stored, hstored, -, -, hsubscriber, -⟩ := hreads.parties
    obtain rfl := Option.some.inj (hsub.symm.trans hstored)
    obtain rfl := Option.some.inj (hnew.symm.trans hafter)
    rcases hrewrites.subscriber with hsame | rfl
    · exact hsame.trans hsubscriber.symm
    · exact absurd rfl hop
  | created => exact hop.elim
  | restored => exact hop.elim

theorem VaultStep.holds {l : VaultAction} (h : VaultStep l s t)
    (hop : l.operation.keepsHolding id) (hadmits : status.admitsEmergency)
    (hholds : s.Holds id owners status) : t.Holds id owners status := by
  rcases hholds with ⟨owner, howner, hheld⟩ | ⟨⟨last, old⟩, hheld, hterminal, hother⟩
  · obtain ⟨sub, hsub, rfl, rfl⟩ := State.holding_eq_some.mp hheld
    obtain ⟨new, hnew, hstatus⟩ := h.status_of_holding hop hsub hadmits
    have hsubscriber := h.subscriber_of_kept hop hsub hnew
    by_cases hsame : new.status = sub.status
    · exact .inl ⟨_, howner, State.holding_eq_some.mpr ⟨new, hnew, hsubscriber, hsame⟩⟩
    · exact .inr ⟨_, State.holding_eq_some.mpr ⟨new, hnew, rfl, rfl⟩,
        hstatus.resolve_left hsame, hsame⟩
  · obtain ⟨sub, hsub, -, rfl⟩ := State.holding_eq_some.mp hheld
    obtain ⟨new, hnew, hfinal, hstatus⟩ := h.holding_of_terminal (hop.spares s) hsub hterminal
    refine .inr ⟨_, State.holding_eq_some.mpr ⟨new, hnew, rfl, rfl⟩, hfinal, ?_⟩
    rcases hstatus with hstatus | hstatus
    · rwa [hstatus]
    · rw [hstatus]
      exact hadmits.ne_archived

theorem State.Holds.of_holding (h : s.Holds id owners status) (hsame : t.holding id = s.holding id) :
    t.Holds id owners status := by
  unfold State.Holds
  rw [hsame]
  exact h

theorem holding_of_creation {call : VaultCall} (hcreate : call.operation = .create)
    (hsingle : call.isBulk = false) (hrun : call.exec.run env s = .ok () t)
    (hfree : s.nextSubscriptionId ≠ id) : t.holding id = s.holding id := by
  have hrecord := (VaultStep.call hsingle hrun).at_record id
  have hop : VaultAction.operation (.call env call) = .create := hcreate
  rw [hop] at hrecord
  cases hrecord with
  | kept hsame => exact State.holding_of_record hsame
  | rewritten _ hrewrites _ =>
    cases hrewrites with
    | edited hcause _ | revived hcause _ _ => rcases hcause with h | h <;> cases h
    | resumed hcause _ => rcases hcause with h | h <;> cases h
    | halted hcause _ _ _ => rcases hcause with h | ⟨_, h⟩ <;> cases h
  | created hid _ => exact absurd hid.symm hfree

theorem holding_of_removal {admin subscriber : Address}
    (hrun : (doRemoveFromBlocklist admin subscriber).run env s = .ok u t)
    (hunlisted : (s.holding id).any (·.2 = .paused) = true → id ∉ s.subscriberSubs subscriber) :
    t.holding id = s.holding id := by
  obtain ⟨hresumes, hkept⟩ := doRemoveFromBlocklist_book hrun
  rcases hresumes.at_record id with hsame | ⟨-, sub, hsub, hpaused, -⟩
  · exact State.holding_of_record hsame.record
  · have hheld : s.holding id = some (sub.subscriber, .paused) :=
      State.holding_eq_some.mpr ⟨sub, hsub, rfl, hpaused⟩
    exact State.holding_of_record (hkept id (hunlisted (by rw [hheld]; rfl)))

theorem holding_of_restore {admin : Address} {summaries : List SubscriptionSummary}
    {balances : List MerchantBalanceEntry}
    (hrun : (VaultCall.restoreSnapshotPage admin summaries balances).exec.run env s = .ok () t)
    (hkept : ∀ summary ∈ summaries, summary.subscriptionId = id →
      s.holding id = some (summary.subscriber, summary.status)) :
    t.holding id = s.holding id := by
  rcases VaultCall.changes rfl hrun with hsame | ⟨hbook, -⟩
  · exact State.holding_of_record (by rw [hsame])
  · have hrecord : t.book.record id = (s.book.restored summaries).record id := by rw [hbook]
    rcases s.book.restored_record summaries id with hsame | ⟨summary, hmem, hid, hrestored⟩
    · exact State.holding_of_record (hrecord.trans hsame)
    · rw [hkept summary hmem hid]
      exact State.holding_eq_some.mpr ⟨_, hrecord.trans hrestored, rfl, rfl⟩

/-- While nothing makes a request stale, the subscription stays what it was or is finished. -/
theorem Transacts.holds {l : Transaction} (h : Transacts l s t)
    (hkeeps : ∀ env call, l = .call env call → call.KeepsRequest s id)
    (hadmits : status.admitsEmergency) (hholds : s.Holds id owners status) :
    t.Holds id owners status := by
  have hplain (hcall : ∀ env call, l = .call env call → call.operation.keepsHolding id) :
      t.Holds id owners status :=
    h.invariant_of (I := fun v => v.Holds id owners status) (Q := Operation.keepsHolding id)
      (fun _ _ _ hstep hop => hstep.holds hop hadmits) trivial
      (fun item => by cases item <;> trivial) hcall hholds
  cases h with
  | other => exact hplain nofun
  | @call env call _ _ hrun =>
    have hcall := hkeeps env call rfl
    cases call
    case createSubscription | createSubscriptionWithToken | createSubscriptionWithSplit
      | createSubscriptionFromPlan =>
      exact hholds.of_holding (holding_of_creation rfl rfl hrun hcall)
    case removeFromBlocklist => exact hholds.of_holding (holding_of_removal hrun hcall)
    case restoreSnapshotPage => exact hholds.of_holding (holding_of_restore hrun hcall)
    all_goals
      refine hplain fun _ _ heq => ?_
      cases heq
      trivial

end Holdings

/-! ## Runs -/

/-- The request that may still be granted, with the owner it would be granted to. -/
def State.pendingWithdrawal (s : State) (id : Nat) : Option (Address × EmergencyWithdrawIntent) :=
  (s.withdrawIntent id).bind fun intent => (s.holding id).bind fun held =>
    if held.2 = intent.requestedStatus then some (held.1, intent) else none

/-- A subscription with a request is as the request says, or finished in another way. -/
def RequestsHeld (id : Nat) (s : State) : Prop :=
  ∀ intent, s.withdrawIntent id = some intent → intent.requestedStatus.admitsEmergency ∧
    s.Holds id Set.univ intent.requestedStatus

section Runs

variable {start s t : State} {hist : History Transaction State} {l : Transaction} {id : Nat}
  {owner : Address} {intent : EmergencyWithdrawIntent}

theorem State.pendingWithdrawal_eq_some : s.pendingWithdrawal id = some (owner, intent) ↔
    s.withdrawIntent id = some intent ∧ s.holding id = some (owner, intent.requestedStatus) := by
  constructor
  · intro h
    obtain ⟨found, hfound, h⟩ := Option.bind_eq_some_iff.mp h
    obtain ⟨held, hheld, h⟩ := Option.bind_eq_some_iff.mp h
    split at h
    · rename_i hsame
      cases h
      exact ⟨hfound, hsame ▸ hheld⟩
    · cases h
  · rintro ⟨hfound, hheld⟩
    rw [State.pendingWithdrawal, hfound, Option.bind_some, hheld, Option.bind_some, if_pos rfl]

theorem Transaction.SparesRequest.keeps (h : l.SparesRequest id s)
    (hpending : s.withdrawIntent id = some intent) (env : Env) (call : VaultCall)
    (hl : l = .call env call) : call.KeepsRequest s id := by
  subst hl
  have hsome : (s.withdrawIntent id).isSome = true := by
    rw [hpending]
    rfl
  cases call
  case requestEmergencyWithdraw => trivial
  all_goals exact h hsome

theorem Requests.holds (h : Requests id owner intent l s) (hstep : Transacts l s t) :
    t.Holds id {owner} intent.requestedStatus := by
  obtain ⟨env, rfl, -, -, hheld, hadmits⟩ := h
  refine hstep.holds (fun env call hl => ?_) hadmits (.inl ⟨owner, rfl, hheld⟩)
  cases hl
  trivial

theorem State.Holds.mem {owners : Set Address} {status : SubscriptionStatus}
    (h : s.Holds id owners status) (hheld : s.holding id = some (owner, status)) :
    owner ∈ owners := by
  rcases h with ⟨other, hother, hsame⟩ | ⟨last, hlast, -, hne⟩
  · cases hheld.symm.trans hsame
    exact hother
  · cases hheld.symm.trans hlast
    exact absurd rfl hne

theorem State.Holds.univ {owners : Set Address} {status : SubscriptionStatus}
    (h : s.Holds id owners status) : s.Holds id Set.univ status :=
  h.imp_left fun ⟨owner, _, hheld⟩ => ⟨owner, trivial, hheld⟩

/-- A request that may still be granted has just been made, or might have been granted before. -/
theorem Transacts.pendingWithdrawal (h : Transacts l s t) (hspares : l.SparesRequest id s)
    (hheld : RequestsHeld id s) : RequestsHeld id t ∧ ∀ pending : Address × EmergencyWithdrawIntent,
      t.pendingWithdrawal id = some pending → Requests id pending.1 pending.2 l s ∨
        s.holding id = some (pending.1, pending.2.requestedStatus) ∧
          s.pendingWithdrawal id = some pending := by
  have hkept {intent : EmergencyWithdrawIntent} (hold : s.withdrawIntent id = some intent)
      {owners : Set Address} (hholds : s.Holds id owners intent.requestedStatus) :
      t.Holds id owners intent.requestedStatus :=
    h.holds (hspares.keeps hold) (hheld intent hold).1 hholds
  refine ⟨fun intent hintent => ?_, fun ⟨owner, intent⟩ hpending => ?_⟩
  · rcases h.withdrawIntent hintent with ⟨owner, hmade⟩ | hold
    · have hholds := hmade.holds h
      obtain ⟨-, -, -, -, -, hadmits⟩ := hmade
      exact ⟨hadmits, hholds.univ⟩
    · obtain ⟨hadmits, hholds⟩ := hheld intent hold
      exact ⟨hadmits, hkept hold hholds⟩
  · obtain ⟨hintent, howns⟩ := State.pendingWithdrawal_eq_some.mp hpending
    rcases h.withdrawIntent hintent with ⟨signer, hmade⟩ | hold
    · obtain rfl : owner = signer := (hmade.holds h).mem howns
      exact .inl hmade
    · rcases (hheld intent hold).2 with ⟨before, -, hbefore⟩ | hpast
      · have hsame : t.Holds id {before} intent.requestedStatus :=
          hkept hold (.inl ⟨before, rfl, hbefore⟩)
        obtain rfl : owner = before := hsame.mem howns
        exact .inr ⟨hbefore, State.pendingWithdrawal_eq_some.mpr ⟨hold, hbefore⟩⟩
      · have hnobody : t.Holds id ∅ intent.requestedStatus := hkept hold (.inr hpast)
        exact (hnobody.mem howns).elim

theorem requests_of_run (hdeployed : Deployed start) (hrun : Run Transacts start hist s)
    (hspares : ∀ step ∈ hist, step.1.SparesRequest id step.2) :
    RequestsHeld id s ∧ ∀ pending : Address × EmergencyWithdrawIntent,
      s.pendingWithdrawal id = some pending →
        Since (fun _ u => u.holding id = some (pending.1, pending.2.requestedStatus))
          (Requests id pending.1 pending.2) hist := by
  have hnone : start.withdrawIntent id = none :=
    State.read_of_areas (k := .persistent (.emergencyWithdrawIntent id)) hdeployed.areas rfl
  have hempty : start.pendingWithdrawal id = none := by
    rw [State.pendingWithdrawal, hnone]
    rfl
  refine hrun.since_stored (fun u => u.pendingWithdrawal id) (I := RequestsHeld id)
    (P := fun l u => Transaction.SparesRequest id l u) hempty (fun intent hintent => ?_)
    (fun _ _ _ hplain hheld hstep => hstep.pendingWithdrawal hplain hheld) hspares
  rw [hnone] at hintent
  cases hintent

end Runs

/-- The owner asked for the withdrawal three days ago or earlier, and has kept the subscription
in the same status ever since. -/
def WaitedFor (id : Nat) (owner : Address) (hist : History Transaction State) (s : State)
    (now : Nat) : Prop :=
  ∃ intent : EmergencyWithdrawIntent, intent.requestedAt + emergencyWithdrawCooldown ≤ now ∧
    intent.requestedStatus.admitsEmergency ∧ s.holding id = some (owner, intent.requestedStatus) ∧
    Since (fun _ u => u.holding id = some (owner, intent.requestedStatus))
      (Requests id owner intent) hist

/-- In every run in which no call makes a request stale, an emergency withdrawal comes three days
after its request, and the subscription has not changed in the meantime. -/
theorem emergency_withdrawals_wait {start s t : State} {hist : History Transaction State}
    {id : Nat} (hdeployed : Deployed start) (hrun : Run Transacts start hist s)
    (hspares : ∀ step ∈ hist, step.1.SparesRequest id step.2) {env : Env} {owner : Address}
    (hstep : Transacts (.call env (.finalizeEmergencyWithdraw id owner)) s t) :
    WaitedFor id owner hist s env.now := by
  cases hstep with
  | call hcall =>
    obtain ⟨v, w, hbody, hbefore, -⟩ := run_withLock_areas hcall
    obtain ⟨⟨intent, hintent, hheld, hcooled⟩, -⟩ := doFinalizeEmergencyWithdraw_intent hbody
    have hbook : v.book = s.book :=
      State.book_of_unbooked (hbefore.mono (areas_subset_unbooked rfl))
    have hsame : v.holding id = s.holding id := State.holding_of_record (by rw [hbook])
    rw [State.withdrawIntent_of_areas hbefore rfl] at hintent
    rw [hsame] at hheld
    have hsince := (requests_of_run hdeployed hrun hspares).2 (owner, intent)
      (State.pendingWithdrawal_eq_some.mpr ⟨hintent, hheld⟩)
    obtain ⟨step, hmem, made, hl, -, hrequested, -, hadmits⟩ := hsince.exists_mem
    have hearly : intent.requestedAt + emergencyWithdrawCooldown ≤ u64Max := by
      have hspared := hspares step hmem
      rw [hl] at hspared
      rw [← hrequested]
      exact hspared rfl
    rw [wrapU64_of_le hearly] at hcooled
    exact ⟨intent, hcooled, hadmits, hheld, hsince⟩

private def requestedCalls : List (Env × VaultCall) :=
  [(sampleEnv 4 [⟨2⟩], .requestEmergencyWithdraw 0 ⟨2⟩),
   (sampleEnv 3 [⟨2⟩], .pauseSubscription 0 ⟨2⟩),
   (sampleEnv 2 [⟨2⟩], .depositFunds 0 100 none),
   (sampleEnv 0 [⟨2⟩], .createSubscription sampleRequest)]

private def resumedCalls : List (Env × VaultCall) :=
  [(sampleEnv 6 [⟨2⟩], .pauseSubscription 0 ⟨2⟩),
   (sampleEnv 5 [⟨2⟩], .resumeSubscription 0 ⟨2⟩)] ++ requestedCalls

private theorem withdrawal_succeeds (calls : List (Env × VaultCall))
    (h : allSucceed (afterCalls (sampleVault 0))
      ((sampleEnv 259204 [⟨2⟩], .finalizeEmergencyWithdraw 0 ⟨2⟩) :: calls) = true) :
    Run Transacts (sampleStart 0) (transactionHistory (afterCalls (sampleVault 0)) calls ++
      [(.other (sampleEnv 0 []), sampleStart 0)]) (stateAfter (afterCalls (sampleVault 0)) calls) ∧
    ∃ t, Transacts (.call (sampleEnv 259204 [⟨2⟩]) (.finalizeEmergencyWithdraw 0 ⟨2⟩))
      (stateAfter (afterCalls (sampleVault 0)) calls) t := by
  obtain ⟨hbefore, hlast⟩ := Bool.and_eq_true_iff.mp h
  exact ⟨run_transactions (sample_transacted 0) hbefore, _, .call (run_eq_after hlast)⟩

theorem withdrawal_after_three_days : ∃ (hist : History Transaction State) (s t : State),
    Run Transacts (sampleStart 0) hist s ∧
    Transacts (.call (sampleEnv 259204 [⟨2⟩]) (.finalizeEmergencyWithdraw 0 ⟨2⟩)) s t ∧
    WaitedFor 0 ⟨2⟩ hist s 259204 := by
  obtain ⟨hrun, t, hstep⟩ := withdrawal_succeeds requestedCalls (by decide +kernel)
  refine ⟨_, _, t, hrun, hstep, ?_⟩
  refine emergency_withdrawals_wait (sample_deployed 0) hrun (fun step hmem => ?_) hstep
  simp only [requestedCalls, transactionHistory, List.cons_append, List.nil_append,
    List.mem_cons, List.not_mem_nil, or_false] at hmem
  rcases hmem with rfl | rfl | rfl | rfl | rfl
  · exact fun _ => by decide
  · exact fun _ => trivial
  · exact fun _ => trivial
  · refine fun hsome => ?_
    have hnone : State.withdrawIntent (stateAfter (afterCalls (sampleVault 0)) []) 0 = none := by
      decide +kernel
    rw [hnone] at hsome
    cases hsome
  · trivial

/-- A request survives a resume: the subscription is emptied although it has been active. -/
theorem resumed_subscription_emptied : ∃ (start : State) (hist : History Transaction State)
    (s t : State) (env : Env) (id : Nat) (owner : Address),
    Deployed start ∧ Run Transacts start hist s ∧
    Transacts (.call env (.finalizeEmergencyWithdraw id owner)) s t ∧
    ¬WaitedFor id owner hist s env.now := by
  obtain ⟨hrun, t, hstep⟩ := withdrawal_succeeds resumedCalls (by decide +kernel)
  refine ⟨_, _, _, t, _, 0, ⟨2⟩, sample_deployed 0, hrun, hstep, ?_⟩
  rintro ⟨intent, -, hadmits, -, hsince⟩
  -- the last step is the second pause, which finds the subscription active
  rcases hsince with ⟨_, hl, -⟩ | ⟨hheld, -⟩
  · cases hl
  · have hactive : State.holding (stateAfter (afterCalls (sampleVault 0)) resumedCalls.tail) 0 =
        some (⟨2⟩, .active) := by decide +kernel
    have hsame : some (⟨2⟩, intent.requestedStatus) = some ((⟨2⟩ : Address), .active) :=
      hheld.symm.trans hactive
    have hrequested : intent.requestedStatus = .active := by injection hsame with h; injection h
    rw [hrequested] at hadmits
    rcases hadmits with h | h <;> cases h

end SubscriptionVault
