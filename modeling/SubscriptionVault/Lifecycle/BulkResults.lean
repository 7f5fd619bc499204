import SubscriptionVault.Charging.OperatorBatch
import SubscriptionVault.Contract.Bulk
import SubscriptionVault.Lifecycle.Exit

/-!
# Bulk pauses and cancellations

A bulk call works through its list one subscription after the other and reports on each. A
subscription is changed the first time it comes up, if it can be, and never again; what cannot be
changed is left alone. Pausing always gets to the end of the list. A cancellation pays the
prepaid balance out, and a transfer the token contract turns down takes the whole call with it.
-/

namespace SubscriptionVault

open Exec

/-! ## One subscription -/

/-- What a bulk call may do with one subscription. -/
inductive BulkOutcome (env : Env) (s : State) (target : SubscriptionStatus)
    (apply : Nat → Subscription → Vault Unit) (id : Nat) :
    Outcome Error State BulkSubscriptionResult → Prop
  | missing : s.effectiveSubscription id env.now = none →
      BulkOutcome env s target apply id (.ok (bulkFailed id .notFound) s)
  | expired {sub : Subscription} : s.effectiveSubscription id env.now = some sub →
      sub.isExpired env.now env.sequence = true →
      BulkOutcome env s target apply id (.ok (bulkFailed id .subscriptionExpired) s)
  | skipped {sub : Subscription} : s.effectiveSubscription id env.now = some sub →
      sub.isExpired env.now env.sequence = false → sub.status = target →
      BulkOutcome env s target apply id (.ok (bulkSkipped id) s)
  | refused {sub : Subscription} {e : Error} {t : State} :
      s.effectiveSubscription id env.now = some sub →
      sub.isExpired env.now env.sequence = false → sub.status ≠ target →
      (apply id sub).run env s = .err e t →
      BulkOutcome env s target apply id (.ok (bulkFailed id e) t)
  | changed {sub : Subscription} {t : State} : s.effectiveSubscription id env.now = some sub →
      sub.isExpired env.now env.sequence = false → sub.status ≠ target →
      (apply id sub).run env s = .ok () t →
      BulkOutcome env s target apply id (.ok (bulkChanged id) t)
  | aborted {sub : Subscription} : s.effectiveSubscription id env.now = some sub →
      sub.isExpired env.now env.sequence = false → sub.status ≠ target →
      (apply id sub).run env s = .trap → BulkOutcome env s target apply id .trap

section One

variable {env : Env} {s t : State} {target : SubscriptionStatus}
  {apply : Nat → Subscription → Vault Unit} {id : Nat} {sub : Subscription}

theorem run_getSubscription_none (h : s.effectiveSubscription id env.now = none) :
    (getSubscription id).run env s = .err .notFound s := by
  have hread : (gets (·.effectiveSubscription id env.now) : Vault _).run env s = .ok none s :=
    run_gets_ok.mpr ⟨h, rfl⟩
  exact (run_bind_of_ok (run_ask_ok.mpr ⟨rfl, rfl⟩)).trans (run_bind_of_ok hread)

theorem run_attempt_of_err {α : Type} {x : Vault α} {e : Error} (h : x.run env s = .err e t) :
    (attempt x).run env s = .ok (.error e) t :=
  run_attempt_ok.mpr (.inr ⟨e, rfl, h⟩)

theorem run_attempt_of_ok {α : Type} {x : Vault α} {a : α} (h : x.run env s = .ok a t) :
    (attempt x).run env s = .ok (.ok a) t :=
  run_attempt_ok.mpr (.inl ⟨a, rfl, h⟩)

theorem bulkOne_outcome (env : Env) (s : State) (target : SubscriptionStatus)
    (apply : Nat → Subscription → Vault Unit) (id : Nat) :
    BulkOutcome env s target apply id ((bulkOne target apply id).run env s) := by
  have hask : (ask : Vault Env).run env s = .ok env s := run_ask_ok.mpr ⟨rfl, rfl⟩
  cases hfound : s.effectiveSubscription id env.now with
  | none =>
    have hrun : (bulkOne target apply id).run env s = .ok (bulkFailed id .notFound) s :=
      (run_bind_of_ok hask).trans
        (run_bind_of_ok (run_attempt_of_err (run_getSubscription_none hfound)))
    exact hrun ▸ .missing hfound
  | some sub =>
    have hget : (getSubscription id).run env s = .ok sub s :=
      run_getSubscription_ok.mpr ⟨hfound, rfl⟩
    unfold bulkOne
    rw [run_bind_of_ok hask, run_bind_of_ok (run_attempt_of_ok hget)]
    dsimp only
    split
    · rename_i hexpired
      exact .expired hfound hexpired
    rename_i hlive
    have hlive : sub.isExpired env.now env.sequence = false := Bool.eq_false_iff.mpr hlive
    split
    · rename_i hthere
      exact .skipped hfound hlive hthere
    rename_i hopen
    cases happly : (apply id sub).run env s with
    | ok u t =>
      rw [run_bind_of_ok (run_attempt_of_ok happly)]
      exact .changed hfound hlive hopen happly
    | err e t =>
      rw [run_bind_of_ok (run_attempt_of_err happly)]
      exact .refused hfound hlive hopen happly
    | trap =>
      have htrap : (attempt (apply id sub)).run env s = .trap := by
        simp only [attempt, happly]
      rw [run_bind_of_trap htrap]
      exact .aborted hfound hlive hopen happly

/-- A subscription that a bulk call would change. -/
def State.changeable (s : State) (env : Env) (target : SubscriptionStatus) (id : Nat) :
    Option Subscription :=
  (s.effectiveSubscription id env.now).filter fun sub =>
    !sub.isExpired env.now env.sequence && decide (sub.status ≠ target) &&
      canTransition sub.status target

theorem State.changeable_eq_some : s.changeable env target id = some sub ↔
    s.effectiveSubscription id env.now = some sub ∧ sub.isExpired env.now env.sequence = false ∧
      sub.status ≠ target ∧ canTransition sub.status target = true := by
  unfold State.changeable
  rw [Option.filter_eq_some_iff]
  simp [and_assoc]

/-- The two things bulk calls do to a subscription: they move it to a status, fail before they
write and leave all other records alone. -/
structure BulkChange (target : SubscriptionStatus) (apply : Nat → Subscription → Vault Unit) :
    Prop where
  lasting : target ≠ .gracePeriod
  areas (id : Nat) (sub : Subscription) : Modifies (areas cancellationAreas) (apply id sub)
  changes {env : Env} {s t : State} {id : Nat} {sub : Subscription} :
    (apply id sub).run env s = .ok () t → canTransition sub.status target = true ∧
      ∃ new : Subscription, new.status = target ∧
        t.subscription = Function.update s.subscription id (some new)
  refuses {env : Env} {s t : State} {id : Nat} {sub : Subscription} {e : Error} :
    (apply id sub).run env s = .err e t → s = t ∧ canTransition sub.status target = false
  aborts {env : Env} {s : State} {id : Nat} {sub : Subscription} :
    (apply id sub).run env s = .trap → canTransition sub.status target = true

/-- The move to the status is the first thing that is tried, and the only one that fails. -/
private theorem stuck_of_err {α : Type} {current next : SubscriptionStatus}
    {rest : SubscriptionStatus → Vault α} {e : Error}
    (hquiet : ∀ status u v, (rest status).run env u ≠ .err e v)
    (hrun : (lift (transitionTo current next) >>= rest).run env s = .err e t) :
    s = t ∧ canTransition current next = false := by
  rcases run_bind_err.mp hrun with hfail | ⟨status, u, -, hrest⟩
  · obtain ⟨hmove, rfl⟩ := run_lift_err.mp hfail
    refine ⟨rfl, Bool.eq_false_iff.mpr fun hallowed => ?_⟩
    cases hmove.symm.trans (transitionTo_ok.mpr ⟨hallowed, rfl⟩)
  · exact absurd hrest (hquiet status u t)

private theorem moved_of_trap {α : Type} {current next : SubscriptionStatus}
    {rest : SubscriptionStatus → Vault α}
    (hrun : (lift (transitionTo current next) >>= rest).run env s = .trap) :
    canTransition current next = true := by
  by_contra hstuck
  have hmove : transitionTo current next = .error .invalidStatusTransition := by
    unfold transitionTo
    exact if_neg hstuck
  have hlift : (lift (transitionTo current next)).run env s = .err .invalidStatusTransition s :=
    run_lift_err.mpr ⟨hmove, rfl⟩
  cases (run_bind_of_err hlift).symm.trans hrun

theorem applyPause_bulk : BulkChange .paused applyPause where
  lasting := by simp
  areas id sub := (applyPause_areas id sub).widen rfl
  changes hrun := by
    obtain ⟨hpause, hbook⟩ := applyPause_book hrun
    exact ⟨hpause, _, rfl, congrArg Book.record hbook⟩
  refuses := stuck_of_err fun status u v hrest => by
    simp [decrementSubscriberActiveCount, setSubscriberActiveCount, writeSubscription] at hrest
  aborts := moved_of_trap

theorem applyCancellation_bulk : BulkChange .cancelled applyCancellation where
  lasting := by simp
  areas id sub := applyCancellation_areas id sub
  changes {env s t id sub} hrun := by
    obtain ⟨hcancel, hbook⟩ := applyCancellation_book hrun
    have hrecord : t.book.record = Function.update s.book.record id
        (some { sub with status := .cancelled, prepaidBalance := 0 }) := by
      rw [hbook]
      split <;> rfl
    exact ⟨hcancel, _, rfl, hrecord⟩
  refuses := stuck_of_err fun status u v hrest => by
    simp [decrementSubscriberActiveCount, setSubscriberActiveCount, writeSubscription,
      unindexSubscription, dropIndex, revokeCredential, subTotalAccounted, run_when_err,
      run_whenSome_err] at hrest
  aborts := moved_of_trap

/-- A pause that is allowed goes through. -/
theorem applyPause_returns : (applyPause id sub).run env s ≠ .trap := by
  intro htrap
  cases hmove : transitionTo sub.status .paused with
  | error e =>
    have hrun : (applyPause id sub).run env s = .err e s :=
      run_bind_of_err (run_lift_err.mpr ⟨hmove, rfl⟩)
    cases hrun.symm.trans htrap
  | ok status =>
    have hrun : (applyPause id sub).run env s = .ok () _ :=
      (run_bind_of_ok (run_lift_ok.mpr ⟨hmove, rfl⟩)).trans rfl
    cases hrun.symm.trans htrap

theorem State.gracePeriod_of_areas {l : List Area} (h : FiniteStore.AgreeOff (areas l) s t)
    (hnumbering : l.contains .numbering = false) (hsettings : l.contains .settings = false) :
    t.gracePeriod = s.gracePeriod := by
  have hpersistent : t.read (.persistent .schemaVersion) = s.read (.persistent .schemaVersion) :=
    State.read_of_areas h hnumbering
  have hinstanced : t.read (.instanced .schemaVersion) = s.read (.instanced .schemaVersion) :=
    State.read_of_areas h hnumbering
  have hversion : t.schemaVersion = s.schemaVersion := by
    unfold State.schemaVersion
    rw [hpersistent, hinstanced]
  unfold State.gracePeriod
  rw [State.config_of_areas (k := .gracePeriod) h hversion hsettings hsettings]

theorem State.changeable_congr {j : Nat} (hsub : t.subscription j = s.subscription j)
    (hgrace : t.gracePeriod = s.gracePeriod) :
    t.changeable env target j = s.changeable env target j := by
  unfold State.changeable State.effectiveSubscription
  rw [hsub, hgrace]

/-- A subscription that has arrived is not changed again. -/
theorem State.changeable_of_there {new : Subscription} (hsub : s.subscription id = some new)
    (hstatus : new.status = target) (hlasting : target ≠ .gracePeriod) :
    s.changeable env target id = none := by
  have hreads : s.effectiveSubscription id env.now = some new := by
    unfold State.effectiveSubscription
    rw [hsub, Option.map_some, if_neg]
    exact fun h => hlasting (hstatus ▸ h.1)
  unfold State.changeable
  rw [hreads]
  simp [hstatus]

/-- One step: the subscription is changed if it can be, and nothing happens otherwise. -/
theorem BulkChange.step {result : BulkSubscriptionResult} (h : BulkChange target apply)
    (hrun : (bulkOne target apply id).run env s = .ok result t) :
    result.subscriptionId = id ∧
      ((result.changed = true ∧ result.success = true ∧
          ∃ sub, s.changeable env target id = some sub ∧ (apply id sub).run env s = .ok () t) ∨
        (result.changed = false ∧ s.changeable env target id = none ∧ s = t)) := by
  have houtcome := bulkOne_outcome env s target apply id
  rw [hrun] at houtcome
  have hidle {sub : Subscription} (hfound : s.effectiveSubscription id env.now = some sub)
      (hkept : sub.isExpired env.now env.sequence = true ∨ sub.status = target ∨
        canTransition sub.status target = false) : s.changeable env target id = none := by
    refine Option.eq_none_iff_forall_ne_some.mpr fun found hsome => ?_
    obtain ⟨hfound', hlive, hopen, hallowed⟩ := State.changeable_eq_some.mp hsome
    obtain rfl := Option.some.inj (hfound'.symm.trans hfound)
    rcases hkept with hexpired | hthere | hstuck
    · cases hlive.symm.trans hexpired
    · exact hopen hthere
    · cases hallowed.symm.trans hstuck
  cases houtcome with
  | missing hnone =>
    refine ⟨rfl, .inr ⟨rfl, ?_, rfl⟩⟩
    unfold State.changeable
    rw [hnone]
    rfl
  | expired hfound hexpired => exact ⟨rfl, .inr ⟨rfl, hidle hfound (.inl hexpired), rfl⟩⟩
  | skipped hfound _ hthere => exact ⟨rfl, .inr ⟨rfl, hidle hfound (.inr (.inl hthere)), rfl⟩⟩
  | refused hfound _ _ hfail =>
    obtain ⟨rfl, hstuck⟩ := h.refuses hfail
    exact ⟨rfl, .inr ⟨rfl, hidle hfound (.inr (.inr hstuck)), rfl⟩⟩
  | changed hfound hlive hopen hdone =>
    exact ⟨rfl, .inl ⟨rfl, rfl, _, State.changeable_eq_some.mpr
      ⟨hfound, hlive, hopen, (h.changes hdone).1⟩, hdone⟩⟩

/-- After a step the subscription cannot be changed, and nothing else is different. -/
theorem BulkChange.changeable {result : BulkSubscriptionResult} (h : BulkChange target apply)
    (hrun : (bulkOne target apply id).run env s = .ok result t) (j : Nat) :
    t.changeable env target j = if j = id then none else s.changeable env target j := by
  rcases (h.step hrun).2 with ⟨-, -, sub, hsub, hdone⟩ | ⟨-, hnone, rfl⟩
  · obtain ⟨-, new, hstatus, hrecords⟩ := h.changes hdone
    split
    · rename_i hself
      subst hself
      have hnew : t.subscription j = some new := by rw [hrecords, Function.update_self]
      exact State.changeable_of_there hnew hstatus h.lasting
    · rename_i hother
      have hkept : t.subscription j = s.subscription j := by
        rw [hrecords, Function.update_of_ne hother]
      have hgrace := State.gracePeriod_of_areas ((h.areas _ _).ok hdone) rfl rfl
      exact State.changeable_congr hkept hgrace
  · split
    · rename_i hself
      rw [hself, hnone]
    · rfl

end One

/-! ## The list -/

/-- One listed subscription with the states around it. -/
structure BulkEntry where
  id : Nat
  before : State
  result : BulkSubscriptionResult
  after : State

/-- One subscription after the other, each in the state the one before it left. -/
inductive WorksThrough (env : Env) (one : Nat → Vault BulkSubscriptionResult) :
    State → List BulkEntry → State → Prop
  | done {s : State} : WorksThrough env one s [] s
  | entry {s u t : State} {id : Nat} {result : BulkSubscriptionResult} {rest : List BulkEntry} :
      (one id).run env s = .ok result u → WorksThrough env one u rest t →
      WorksThrough env one s (⟨id, s, result, u⟩ :: rest) t

theorem run_bulkReports_ok {env : Env} {one : Nat → Vault BulkSubscriptionResult} {s t : State}
    {ids : List Nat} {results : List BulkSubscriptionResult} :
    (bulkReports one ids).run env s = .ok results t ↔
      ∃ entries : List BulkEntry, entries.map BulkEntry.id = ids ∧
        entries.map BulkEntry.result = results ∧ WorksThrough env one s entries t := by
  induction ids generalizing s results with
  | nil =>
    constructor
    · intro hrun
      obtain ⟨rfl, rfl⟩ := run_pure_ok.mp hrun
      exact ⟨[], rfl, rfl, .done⟩
    · rintro ⟨entries, hids, rfl, hworks⟩
      obtain rfl := List.map_eq_nil_iff.mp hids
      cases hworks
      exact run_pure_ok.mpr ⟨rfl, rfl⟩
  | cons id ids ih =>
    constructor
    · intro hrun
      obtain ⟨result, u, hone, hrun⟩ := run_bind_ok.mp hrun
      obtain ⟨results', v, hrest, hlast⟩ := run_bind_ok.mp hrun
      obtain ⟨rfl, rfl⟩ := run_pure_ok.mp hlast
      obtain ⟨entries, rfl, rfl, hworks⟩ := ih.mp hrest
      exact ⟨⟨id, s, result, u⟩ :: entries, rfl, rfl, .entry hone hworks⟩
    · rintro ⟨entries, hids, rfl, hworks⟩
      cases hworks with
      | done => cases hids
      | entry hone hworks =>
        obtain ⟨rfl, rfl⟩ := List.cons_eq_cons.mp hids
        refine run_bind_ok.mpr ⟨_, _, hone, ?_⟩
        exact run_bind_ok.mpr ⟨_, _, ih.mpr ⟨_, rfl, rfl, hworks⟩, run_pure_ok.mpr ⟨rfl, rfl⟩⟩

section Through

variable {env : Env} {target : SubscriptionStatus} {apply : Nat → Subscription → Vault Unit}
  {s t : State} {entries : List BulkEntry}

/-- What an entry reports is what single code did. -/
theorem WorksThrough.of_mem {one : Nat → Vault BulkSubscriptionResult}
    (h : WorksThrough env one s entries t) {entry : BulkEntry} (hmem : entry ∈ entries) :
    (one entry.id).run env entry.before = .ok entry.result entry.after := by
  induction h with
  | done => cases hmem
  | entry hone _ ih =>
    rcases List.mem_cons.mp hmem with rfl | hmem
    · exact hone
    · exact ih hmem

/-- Only what could be changed at the start is changed on the way. -/
theorem WorksThrough.changeable_of_changed (hchange : BulkChange target apply)
    (h : WorksThrough env (bulkOne target apply) s entries t) {entry : BulkEntry}
    (hmem : entry ∈ entries) (hchanged : entry.result.changed = true) :
    s.changeable env target entry.id ≠ none := by
  induction h with
  | done => cases hmem
  | entry hone _ ih =>
    rcases List.mem_cons.mp hmem with rfl | hmem
    · rcases (hchange.step hone).2 with ⟨-, -, sub, hsub, -⟩ | ⟨hkept, -⟩
      · exact fun hnone => Option.some_ne_none _ (hsub.symm.trans hnone)
      · cases hkept.symm.trans hchanged
    · intro hnone
      refine ih hmem ?_
      rw [hchange.changeable hone]
      split
      · rfl
      · exact hnone

/-- Every subscription is changed at most once. -/
theorem WorksThrough.changed_nodup (hchange : BulkChange target apply)
    (h : WorksThrough env (bulkOne target apply) s entries t) :
    ((entries.filter (·.result.changed)).map BulkEntry.id).Nodup := by
  induction h with
  | done => exact List.nodup_nil
  | @entry s u t id result rest hone hrest ih =>
    cases hchanged : result.changed with
    | false => simpa [hchanged] using ih
    | true =>
      have hnew : id ∉ (rest.filter (·.result.changed)).map BulkEntry.id := by
        intro hmem
        obtain ⟨later, hlater, hid⟩ := List.mem_map.mp hmem
        obtain ⟨hlater, hagain⟩ := List.mem_filter.mp hlater
        refine hrest.changeable_of_changed hchange hlater hagain ?_
        rw [hchange.changeable hone, if_pos hid]
      simpa [hchanged] using ⟨fun later hlater hagain hid =>
        hnew (List.mem_map.mpr ⟨later, List.mem_filter.mpr ⟨hlater, hagain⟩, hid⟩), ih⟩

/-- What is not reported as done was left alone. -/
theorem BulkChange.after_of_unchanged (hchange : BulkChange target apply)
    (h : WorksThrough env (bulkOne target apply) s entries t) {entry : BulkEntry}
    (hmem : entry ∈ entries) (hkept : entry.result.changed = false) :
    entry.after = entry.before := by
  rcases (hchange.step (h.of_mem hmem)).2 with ⟨hchanged, -⟩ | ⟨-, -, hsame⟩
  · cases hkept.symm.trans hchanged
  · exact hsame.symm

end Through

/-! ## Single calls -/

/-- A party who may act for itself on every subscription this is. -/
structure MayAct (env : Env) (s : State) (id : Nat) (party : Address) : Prop where
  outside : party ≠ env.host.contract
  unlisted : s.isBlocklisted party = false
  party : ∀ sub, s.subscription id = some sub → party = sub.subscriber ∨ party = sub.merchant

section Single

variable {env : Env} {s t : State} {id : Nat} {sub : Subscription} {party : Address}

theorem applyPause_signed : SameIn env (env.calledBy party) (applyPause id sub) :=
  .bind (.lift _) fun _ => .bind (.update _) fun _ => .bind (.gets _) fun _ => .update _

/-- What the vault pays it pays without being asked. -/
theorem run_transfer_own {token receiver : Address} {amount : Int} :
    (transfer token env.host.contract receiver amount).run env s =
      (do
        require (0 ≤ amount)
        require (¬env.transferRefused token env.host.contract receiver amount)
        let held ← tokenBalance token env.host.contract
        require (amount ≤ held)
        update (·.transferred token env.host.contract receiver amount) : Vault Unit).run env s := by
  refine (run_bind_of_ok (run_ask_ok.mpr ⟨rfl, rfl⟩)).trans ?_
  exact run_seq_of_ok (run_require_ok.mpr ⟨.inl rfl, rfl⟩)

theorem applyCancellation_signed :
    SameIn env (env.calledBy party) (applyCancellation id sub) := by
  have hpay : SameIn env (env.calledBy party) (do
      let env ← ask
      subTotalAccounted sub.token sub.prepaidBalance
      transfer sub.token env.host.contract sub.subscriber sub.prepaidBalance : Vault Unit) := by
    intro u
    have howner : (transfer sub.token (env.calledBy party).host.contract sub.subscriber
        sub.prepaidBalance).run (env.calledBy party) u =
      (transfer sub.token env.host.contract sub.subscriber sub.prepaidBalance).run env u := by
      rw [run_transfer_own, run_transfer_own]
      exact SameIn.bind (.require _) (fun _ => .bind (.require _) fun _ => .bind (.gets _) fun _ =>
        .bind (.require _) fun _ => .update _) u
    exact howner
  have hdrop (key : DataKey) [Holds DataKey.Val key (List Nat)] :
      SameIn env (env.calledBy party) (dropIndex key id) :=
    .bind (.gets _) fun _ => .whenSome fun _ => .when (.update _)
  exact .bind (.lift _) fun _ => .bind (.when (.bind (.gets _) fun _ => .update _)) fun _ =>
    .bind (.update _) fun _ => .bind (.when hpay) fun _ =>
    .bind (.bind (hdrop _) fun _ => .bind (hdrop _) fun _ => hdrop _) fun _ =>
    .bind (.gets _) fun _ => .whenSome fun _ => .when (.update _)

/-- The checks of a pause or cancellation that a party asks for, in front of the rest of it. -/
def singleCall (id : Nat) (party : Address) (rest : Subscription → Vault Unit) : Vault Unit := do
  requireAuth party
  let sub ← getSubscription id
  failIfExpired id sub
  failIf (party ≠ sub.subscriber ∧ party ≠ sub.merchant) .forbidden
  rest sub

theorem run_singleCall {rest : Subscription → Vault Unit} (hmay : MayAct env s id party)
    (hfound : s.effectiveSubscription id env.now = some sub)
    (hlive : sub.isExpired env.now env.sequence = false) :
    (singleCall id party rest).run (env.calledBy party) s =
      (rest sub).run (env.calledBy party) s := by
  obtain ⟨stored, hstored, hsame⟩ := State.effectiveSubscription_eq_some hfound
  have hparty : ¬(party ≠ sub.subscriber ∧ party ≠ sub.merchant) := by
    rw [hsame]
    rintro ⟨hsubscriber, hmerchant⟩
    exact (hmay.party stored hstored).elim hsubscriber hmerchant
  have hsigned : (env.calledBy party).authorized party = true := decide_eq_true rfl
  have hget : (getSubscription id).run (env.calledBy party) s = .ok sub s :=
    run_getSubscription_ok.mpr ⟨hfound, rfl⟩
  have hunexpired : (failIfExpired id sub).run (env.calledBy party) s = .ok () s :=
    run_failIfExpired_ok.mpr ⟨hlive, rfl⟩
  refine (run_seq_of_ok (run_requireAuth_ok.mpr ⟨⟨hsigned, hmay.outside⟩, rfl⟩)).trans ?_
  refine (run_bind_of_ok hget).trans ?_
  refine (run_seq_of_ok hunexpired).trans ?_
  exact run_seq_of_ok (run_failIf_ok.mpr ⟨hparty, rfl⟩)

/-- A party gets nowhere with a subscription that is missing or has expired. -/
theorem singleCall_fails {rest : Subscription → Vault Unit}
    (hclosed : ∀ sub, s.effectiveSubscription id env.now = some sub →
      sub.isExpired env.now env.sequence = true) :
    (singleCall id party rest).run (env.calledBy party) s ≠ .ok () t := by
  intro hrun
  obtain ⟨_, -, hrun⟩ := run_check_ok (Modifies.requireAuth _) hrun
  obtain ⟨sub, hget, hrun⟩ := run_check_ok (Modifies.getSubscription _) hrun
  obtain ⟨hlive, -⟩ := run_unexpired_ok hrun
  cases hlive.symm.trans (hclosed sub (run_getSubscription_ok.mp hget).1)

/-- A listed subscription is paused just as a party that asks for it would have it paused. -/
theorem bulkPause_single {result : BulkSubscriptionResult} (hmay : MayAct env s id party)
    (hrun : (bulkPauseReport id).run env s = .ok result t) :
    (doPauseSubscription id party).after (env.calledBy party) s = t := by
  have houtcome := bulkOne_outcome env s .paused applyPause id
  have hsingle : doPauseSubscription id party =
      singleCall id party fun sub => when (sub.status ≠ .paused) (applyPause id sub) := rfl
  have hcall {sub : Subscription} (hfound : s.effectiveSubscription id env.now = some sub)
      (hlive : sub.isExpired env.now env.sequence = false) (hopen : sub.status ≠ .paused) :
      (doPauseSubscription id party).run (env.calledBy party) s =
        (applyPause id sub).run env s := by
    rw [hsingle, run_singleCall hmay hfound hlive, Exec.when, if_pos hopen]
    exact applyPause_signed s
  change (bulkOne .paused applyPause id).run env s = .ok result t at hrun
  rw [hrun] at houtcome
  cases houtcome with
  | missing hnone =>
    refine after_of_not_ok fun u => hsingle ▸ singleCall_fails fun sub hsome => ?_
    exact absurd (hnone.symm.trans hsome) (by simp)
  | expired hfound hexpired =>
    refine after_of_not_ok fun u => hsingle ▸ singleCall_fails fun sub hsome => ?_
    obtain rfl := Option.some.inj (hfound.symm.trans hsome)
    exact hexpired
  | skipped hfound hlive hthere =>
    refine after_of_ok ?_
    rw [hsingle, run_singleCall hmay hfound hlive, Exec.when, if_neg (by simp [hthere])]
    rfl
  | refused hfound hlive hopen hfail =>
    obtain ⟨rfl, -⟩ := applyPause_bulk.refuses hfail
    refine after_of_not_ok fun u hok => ?_
    rw [hcall hfound hlive hopen, hfail] at hok
    cases hok
  | changed hfound hlive hopen hdone =>
    exact after_of_ok ((hcall hfound hlive hopen).trans hdone)

/-- The rest of a cancellation that a party asks for. -/
private def cancelUnlisted (id : Nat) (party : Address) (sub : Subscription) : Vault Unit := do
  when (party = sub.subscriber) (requireNotBlocklisted sub.subscriber)
  failIf (sub.status = .cancelled) .invalidStatusTransition
  applyCancellation id sub

/-- And cancelled just as a party that asks for it would have it cancelled. -/
theorem bulkCancel_single {result : BulkSubscriptionResult} (hmay : MayAct env s id party)
    (hrun : (bulkCancelReport id).run env s = .ok result t) :
    (doCancelSubscription id party).after (env.calledBy party) s = t := by
  have houtcome := bulkOne_outcome env s .cancelled applyCancellation id
  have hsingle : doCancelSubscription id party = singleCall id party (cancelUnlisted id party) := rfl
  have hlisted {sub : Subscription} :
      (when (party = sub.subscriber) (requireNotBlocklisted sub.subscriber)).run
        (env.calledBy party) s = .ok () s := by
    refine run_when_ok.mpr ?_
    by_cases hself : party = sub.subscriber
    · exact .inl ⟨hself, run_requireNotBlocklisted_ok.mpr ⟨hself ▸ hmay.unlisted, rfl⟩⟩
    · exact .inr ⟨hself, rfl⟩
  have hcall {sub : Subscription} (hfound : s.effectiveSubscription id env.now = some sub)
      (hlive : sub.isExpired env.now env.sequence = false) (hopen : sub.status ≠ .cancelled) :
      (doCancelSubscription id party).run (env.calledBy party) s =
        (applyCancellation id sub).run env s := by
    rw [hsingle, run_singleCall hmay hfound hlive]
    refine (run_seq_of_ok hlisted).trans ?_
    refine (run_seq_of_ok (run_failIf_ok.mpr ⟨hopen, rfl⟩)).trans ?_
    exact applyCancellation_signed s
  change (bulkOne .cancelled applyCancellation id).run env s = .ok result t at hrun
  rw [hrun] at houtcome
  cases houtcome with
  | missing hnone =>
    refine after_of_not_ok fun u => hsingle ▸ singleCall_fails fun sub hsome => ?_
    exact absurd (hnone.symm.trans hsome) (by simp)
  | expired hfound hexpired =>
    refine after_of_not_ok fun u => hsingle ▸ singleCall_fails fun sub hsome => ?_
    obtain rfl := Option.some.inj (hfound.symm.trans hsome)
    exact hexpired
  | skipped hfound hlive hthere =>
    refine after_of_not_ok fun u hok => ?_
    rw [hsingle, run_singleCall hmay hfound hlive] at hok
    obtain ⟨_, -, hok⟩ := run_check_ok (.when (Modifies.requireNotBlocklisted _)) hok
    obtain ⟨_, hopen, -⟩ := run_check_ok (.failIf _ _) hok
    exact (run_failIf_ok.mp hopen).1 hthere
  | refused hfound hlive hopen hfail =>
    obtain ⟨rfl, -⟩ := applyCancellation_bulk.refuses hfail
    refine after_of_not_ok fun u hok => ?_
    rw [hcall hfound hlive hopen, hfail] at hok
    cases hok
  | changed hfound hlive hopen hdone =>
    exact after_of_ok ((hcall hfound hlive hopen).trans hdone)

end Single

/-! ## Refunds -/

/-- What a cancellation of the subscription would pay out in this token. A negative balance, which
only a restored record can hold, is not paid. -/
def State.refund (s : State) (env : Env) (token : Address) (id : Nat) : Int :=
  (s.changeable env .cancelled id).elim 0 fun sub =>
    if sub.token = token then max sub.prepaidBalance 0 else 0

/-- What of it goes to `holder`. -/
def State.refundTo (s : State) (env : Env) (token holder : Address) (id : Nat) : Int :=
  (s.changeable env .cancelled id).elim 0 fun sub =>
    if sub.token = token ∧ sub.subscriber = holder then max sub.prepaidBalance 0 else 0

/-- What `holder` has of the token once the refunds of some subscriptions are paid. -/
def State.balanceAfterRefunds (s : State) (env : Env) (ids : Finset Nat)
    (token holder : Address) : Int :=
  s.balanceOf token holder + ∑ id ∈ ids, s.refundTo env token holder id -
    if holder = env.host.contract then ∑ id ∈ ids, s.refund env token id else 0

/-- The token contract lets every refund through that comes up, and the vault has the tokens left
for it when it does. -/
def State.RefundsGoThrough (s : State) (env : Env) (ids : List Nat) : Prop :=
  ∀ earlier id later sub, ids = earlier ++ id :: later → id ∉ earlier →
    s.changeable env .cancelled id = some sub → 0 < sub.prepaidBalance →
    env.transferRefused sub.token env.host.contract sub.subscriber sub.prepaidBalance = false ∧
      sub.prepaidBalance ≤
        s.balanceAfterRefunds env earlier.toFinset sub.token env.host.contract

section Refunds

variable {env : Env} {s t : State} {id : Nat} {sub : Subscription} {ids : List Nat}
  {result : BulkSubscriptionResult}

theorem sum_insert_of_spent {f g : Nat → Int} (h : ∀ j, g j = if j = id then 0 else f j)
    (rest : Finset Nat) : ∑ j ∈ insert id rest, f j = f id + ∑ j ∈ rest, g j := by
  have hrest : ∑ j ∈ rest, g j = ∑ j ∈ rest.erase id, f j := by
    by_cases hmem : id ∈ rest
    · rw [← Finset.add_sum_erase rest g hmem, h id, if_pos rfl, zero_add]
      refine Finset.sum_congr rfl fun j hj => ?_
      rw [h j, if_neg (Finset.ne_of_mem_erase hj)]
    · rw [Finset.erase_eq_of_notMem hmem]
      refine Finset.sum_congr rfl fun j hj => ?_
      have hne : j ≠ id := fun heq => hmem (heq ▸ hj)
      rw [h j, if_neg hne]
  rw [hrest, ← Finset.add_sum_erase _ f (Finset.mem_insert_self id rest),
    Finset.erase_insert_eq_erase]

/-- The refunds a step leaves for the rest of the list. -/
theorem refundTo_after (hrun : (bulkCancelReport id).run env s = .ok result t)
    (token holder : Address) (j : Nat) :
    t.refundTo env token holder j = if j = id then 0 else s.refundTo env token holder j := by
  unfold State.refundTo
  rw [applyCancellation_bulk.changeable hrun]
  split <;> rfl

theorem refund_after (hrun : (bulkCancelReport id).run env s = .ok result t)
    (token : Address) (j : Nat) :
    t.refund env token j = if j = id then 0 else s.refund env token j := by
  unfold State.refund
  rw [applyCancellation_bulk.changeable hrun]
  split <;> rfl

/-- Balances after a transfer. -/
theorem State.balanceOf_transferred (s : State) (token sender receiver other holder : Address)
    (amount : Int) : (s.transferred token sender receiver amount).balanceOf other holder =
      s.balanceOf other holder + (if token = other ∧ receiver = holder then amount else 0) -
        if token = other ∧ sender = holder then amount else 0 := by
  simp only [State.transferred, State.balanceOf_setBalance]
  by_cases htoken : token = other
  · subst htoken
    by_cases hreceiver : receiver = holder
    · subst hreceiver
      by_cases hsender : sender = receiver
      · subst hsender
        simp
      · simp [hsender]
    · by_cases hsender : sender = holder
      · subst hsender
        simp [hreceiver]
      · simp [hreceiver, hsender]
  · simp [htoken]

/-- One step pays the refund of its subscription and moves no other tokens. -/
theorem balanceOf_after (hrun : (bulkCancelReport id).run env s = .ok result t)
    (token holder : Address) :
    t.balanceOf token holder = s.balanceAfterRefunds env {id} token holder := by
  unfold State.balanceAfterRefunds State.refundTo State.refund
  rw [Finset.sum_singleton, Finset.sum_singleton]
  rcases (applyCancellation_bulk.step hrun).2 with ⟨-, -, sub, hsub, hdone⟩ | ⟨-, hnone, rfl⟩
  · obtain ⟨-, hpaid⟩ := applyCancellation_pays hdone
    rw [hpaid, hsub]
    simp only [Option.elim_some]
    by_cases hfunds : 0 < sub.prepaidBalance
    · rw [if_pos hfunds, State.balanceOf_transferred, max_eq_left hfunds.le]
      by_cases htoken : sub.token = token
      · simp [htoken, eq_comm]
      · simp [htoken]
    · rw [if_neg hfunds, max_eq_right (not_lt.mp hfunds)]
      simp
  · rw [hnone]
    simp

/-- A step and the refunds of the rest of the list. -/
theorem balanceAfterRefunds_after (hrun : (bulkCancelReport id).run env s = .ok result t)
    (rest : Finset Nat) (token holder : Address) :
    t.balanceAfterRefunds env rest token holder =
      s.balanceAfterRefunds env (insert id rest) token holder := by
  have hpaid := balanceOf_after hrun token holder
  unfold State.balanceAfterRefunds at hpaid ⊢
  rw [sum_insert_of_spent (refundTo_after hrun token holder) rest,
    sum_insert_of_spent (refund_after hrun token) rest, hpaid, Finset.sum_singleton,
    Finset.sum_singleton]
  split <;> omega

theorem applyCancellation_payable (hrun : (applyCancellation id sub).run env s = .ok () t)
    (hfunds : 0 < sub.prepaidBalance) : Payable env s sub := by
  obtain ⟨status, -, hrun⟩ := run_check_ok (.lift _) hrun
  obtain ⟨_, s₁, hcount, hrun⟩ := run_bind_ok.mp hrun
  obtain ⟨_, s₂, hwrite, hrun⟩ := run_bind_ok.mp hrun
  obtain ⟨_, s₃, hrefund, -⟩ := run_bind_ok.mp hrun
  have hcounted : s₁.balanceOf = s.balanceOf := State.balanceOf_of_areas
    (Keeps.ok (.when (decrementSubscriberActiveCount_areas _)) hcount) rfl
  have hwritten : s₂.balanceOf = s₁.balanceOf :=
    State.balanceOf_of_areas ((writeSubscription_areas _ _).ok hwrite) rfl
  rw [Exec.when, if_pos hfunds] at hrefund
  obtain ⟨_, hask, hpay⟩ := run_check_ok .ask hrefund
  obtain ⟨rfl, -⟩ := run_ask_ok.mp hask
  obtain ⟨_, -, hpay⟩ := run_check_ok (.pure _) hpay
  obtain ⟨-, -, haccepted, hsolvent, -⟩ := run_transfer_ok.mp hpay
  exact ⟨(hwritten.trans hcounted) ▸ hsolvent, haccepted⟩

/-- A step returns unless it is to pay a refund that does not go through. -/
theorem bulkCancel_returns_iff :
    (∃ result t, (bulkCancelReport id).run env s = .ok result t) ↔
      ∀ sub, s.changeable env .cancelled id = some sub → 0 < sub.prepaidBalance →
        Payable env s sub := by
  constructor
  · rintro ⟨result, t, hrun⟩ sub hsub hfunds
    rcases (applyCancellation_bulk.step hrun).2 with ⟨-, -, found, hfound, hdone⟩ | ⟨-, hnone, -⟩
    · obtain rfl := Option.some.inj (hfound.symm.trans hsub)
      exact applyCancellation_payable hdone hfunds
    · exact absurd (hnone.symm.trans hsub) (by simp)
  · intro hpays
    have houtcome := bulkOne_outcome env s .cancelled applyCancellation id
    unfold bulkCancelReport
    generalize (bulkOne .cancelled applyCancellation id).run env s = o at houtcome
    cases houtcome with
    | missing | expired | skipped | refused | changed => exact ⟨_, _, rfl⟩
    | @aborted sub hfound hlive hopen htrap =>
      have hallowed := applyCancellation_bulk.aborts htrap
      have hsub : s.changeable env .cancelled id = some sub :=
        State.changeable_eq_some.mpr ⟨hfound, hlive, hopen, hallowed⟩
      have hruns : ∃ t, (applyCancellation id sub).run env s = .ok () t :=
        applyCancellation_succeeds (hpays sub hsub) hallowed
      obtain ⟨t, hdone⟩ := hruns
      cases hdone.symm.trans htrap

/-- The refunds of a list go through when the first does and those of the rest do after it. -/
theorem refundsGoThrough_cons (hrun : (bulkCancelReport id).run env s = .ok result t) :
    s.RefundsGoThrough env (id :: ids) ↔ t.RefundsGoThrough env ids := by
  have hchangeable := applyCancellation_bulk.changeable hrun
  constructor
  · intro h earlier j later sub hids hnew hsub hfunds
    rw [hchangeable] at hsub
    have hne : j ≠ id := by
      rintro rfl
      rw [if_pos rfl] at hsub
      cases hsub
    rw [if_neg hne] at hsub
    have hnew' : j ∉ id :: earlier := by simp [hne, hnew]
    obtain ⟨haccepted, hsolvent⟩ := h (id :: earlier) j later sub (by rw [hids]; rfl) hnew' hsub
      hfunds
    rw [balanceAfterRefunds_after hrun, ← List.toFinset_cons]
    exact ⟨haccepted, hsolvent⟩
  · intro h earlier j later sub hids hnew hsub hfunds
    cases earlier with
    | nil =>
      obtain ⟨rfl, rfl⟩ := List.cons_eq_cons.mp hids
      obtain ⟨hsolvent, haccepted⟩ := bulkCancel_returns_iff.mp ⟨_, _, hrun⟩ sub hsub hfunds
      refine ⟨haccepted, ?_⟩
      unfold State.balanceAfterRefunds
      simpa using hsolvent
    | cons first earlier =>
      obtain ⟨rfl, hrest⟩ := List.cons_eq_cons.mp hids
      obtain ⟨hne, hnew'⟩ : j ≠ id ∧ j ∉ earlier := by simpa using hnew
      have hsub' : t.changeable env .cancelled j = some sub := by
        rw [hchangeable, if_neg hne, hsub]
      have hlater := h earlier j later sub hrest hnew' hsub' hfunds
      rw [balanceAfterRefunds_after hrun, ← List.toFinset_cons] at hlater
      exact hlater

/-- A bulk cancellation gets to the end of its list just when all refunds go through. -/
theorem bulkReports_cancel_iff :
    (∃ results t, (bulkReports bulkCancelReport ids).run env s = .ok results t) ↔
      s.RefundsGoThrough env ids := by
  induction ids generalizing s with
  | nil =>
    refine ⟨fun _ earlier id later sub hids => ?_, fun _ => ⟨[], s, run_pure_ok.mpr ⟨rfl, rfl⟩⟩⟩
    exact absurd hids (by simp)
  | cons id ids ih =>
    constructor
    · rintro ⟨results, t, hrun⟩
      obtain ⟨result, u, hone, hrun⟩ := run_bind_ok.mp hrun
      obtain ⟨results', v, hrest, -⟩ := run_bind_ok.mp hrun
      exact (refundsGoThrough_cons hone).mpr (ih.mp ⟨_, _, hrest⟩)
    · intro h
      have hfirst (sub : Subscription) (hsub : s.changeable env .cancelled id = some sub)
          (hfunds : 0 < sub.prepaidBalance) : Payable env s sub := by
        obtain ⟨haccepted, hsolvent⟩ := h [] id ids sub rfl (by simp) hsub hfunds
        unfold State.balanceAfterRefunds at hsolvent
        exact ⟨by simpa using hsolvent, haccepted⟩
      obtain ⟨result, u, hone⟩ := bulkCancel_returns_iff.mpr hfirst
      obtain ⟨results, t, hrest⟩ := ih.mpr ((refundsGoThrough_cons hone).mp h)
      refine ⟨result :: results, t, run_bind_ok.mpr ⟨_, _, hone, ?_⟩⟩
      exact run_bind_ok.mpr ⟨_, _, hrest, run_pure_ok.mpr ⟨rfl, rfl⟩⟩

/-- What a bulk cancellation pays out is the refund of every subscription it lists, once. -/
theorem WorksThrough.balances {entries : List BulkEntry}
    (h : WorksThrough env bulkCancelReport s entries t) (token holder : Address) :
    t.balanceOf token holder =
      s.balanceAfterRefunds env (entries.map BulkEntry.id).toFinset token holder := by
  induction h with
  | done => simp [State.balanceAfterRefunds]
  | entry hone _ ih =>
    rw [ih, balanceAfterRefunds_after hone, List.map_cons, List.toFinset_cons]

end Refunds

end SubscriptionVault
