import SubscriptionVault.Lifecycle.Creation
import SubscriptionVault.Lifecycle.Prepaid
import SubscriptionVault.Lifecycle.Rewrites

/-!
# The limit of a plan

A plan may limit how many active subscriptions a subscriber has on it. Only a creation from the
plan asks for the limit. A subscription that becomes active again, changes hands or moves to the
plan counts from then on without anybody having asked.
-/

namespace SubscriptionVault

open Exec

/-! ## Counting -/

def State.onPlan (s : State) (planId : Nat) : Set Nat := {id | s.subPlan id = some planId}

/-- The subscriptions of the subscriber in one of the statuses. -/
def State.inStatus (s : State) (subscriber : Address) (among : Set SubscriptionStatus) : Set Nat :=
  {id | ∃ sub, s.subscription id = some sub ∧ sub.subscriber = subscriber ∧ sub.status ∈ among}

/-- What the limit of the plan is about. -/
def State.activeOnPlan (s : State) (subscriber : Address) (planId : Nat) : Set Nat :=
  s.onPlan planId ∩ s.inStatus subscriber {.active}

section Counting

variable {s : State} {subscriber : Address} {planId : Nat}

theorem State.finite_inStatus (h : s.book.Numbered) (subscriber : Address)
    (among : Set SubscriptionStatus) : (s.inStatus subscriber among).Finite := by
  refine (Finset.range s.book.nextId).finite_toSet.subset ?_
  rintro id ⟨sub, hsub, -, -⟩
  exact Finset.mem_coe.mpr (Finset.mem_range.mpr (h.lt_of_reads ⟨sub, hsub, .inl rfl⟩))

/-- The scan of a creation counts the active subscriptions on the plan. -/
theorem State.countActive_eq_ncard (h : s.book.Numbered) {count : Nat}
    (hcount : s.countActiveSubscriptionsForPlan subscriber planId = .ok count) :
    count = (s.activeOnPlan subscriber planId).ncard := by
  unfold State.countActiveSubscriptionsForPlan at hcount
  split at hcount
  · cases hcount
  · injection hcount with hcount
    set counts := fun id => decide (s.read (.instanced (.subPlan id)) = some planId) &&
      (s.subscription id).any fun sub => sub.subscriber = subscriber && sub.status = .active
      with hcounts
    have hcounted : s.activeOnPlan subscriber planId =
        ((List.range s.nextSubscriptionId).filter counts).toFinset := by
      ext id
      have hmem : id ∈ s.activeOnPlan subscriber planId ↔ counts id = true := by
        simp [State.activeOnPlan, State.onPlan, State.inStatus, State.subPlan, hcounts,
          Option.any_eq_true]
      have hbelow (hactive : counts id = true) : id < s.nextSubscriptionId := by
        obtain ⟨-, sub, hsub, -⟩ := hmem.mpr hactive
        exact h.lt_of_reads ⟨sub, hsub, .inl rfl⟩
      simp only [Finset.mem_coe, List.mem_toFinset, List.mem_filter, List.mem_range, hmem]
      exact ⟨fun hactive => ⟨hbelow hactive, hactive⟩, And.right⟩
    rw [hcounted, Set.ncard_coe_finset,
      List.toFinset_card_of_nodup (List.nodup_range.filter _), ← hcount,
      List.countP_eq_length_filter]

end Counting

/-! ## Coming to be active -/

/-- The statuses out of which the call may make the subscription active. -/
def VaultCall.wakes (s : State) (id : Nat) : VaultCall → Set SubscriptionStatus
  | .resumeSubscription j _ => {status | j = id ∧
      (status = .paused ∨ status = .gracePeriod ∨ status = .insufficientBalance)}
  | .removeFromBlocklist _ listed => {status | id ∈ s.subscriberSubs listed ∧ status = .paused}
  | .depositFundsOnBehalf j _ _ _ | .chargeSubscription j _ | .operatorChargeSubscription _ j =>
    {status | j = id ∧ (status = .gracePeriod ∨ status = .insufficientBalance)}
  | .batchCharge ids _ _ | .batchChargeDetailed ids _ _ =>
    {status | id ∈ ids ∧ (status = .gracePeriod ∨ status = .insufficientBalance)}
  | .graceBuyout j _ _ _ => {status | j = id ∧ status = .gracePeriod}
  | _ => ∅

/-- `Q` holds of every active subscription and of what it was before. -/
def Book.ActiveFrom (b b' : Book) (Q : Nat → Subscription → Subscription → Prop) : Prop :=
  ∀ id new, b'.record id = some new → new.status = .active →
    ∃ sub, b.record id = some sub ∧ Q id sub new

section Waking

variable {env : Env} {s t : State} {b b' b'' : Book} {id j : Nat} {op : Operation}
  {sub new : Subscription} {call : VaultCall}

/-- Nothing wakes up. -/
def Book.Sleeps (b b' : Book) : Prop :=
  b.ActiveFrom b' fun _ sub new => new.subscriber = sub.subscriber ∧ sub.status = .active

theorem Book.Sleeps.refl (b : Book) : b.Sleeps b :=
  fun _ new hnew hactive => ⟨new, hnew, rfl, hactive⟩

theorem Book.Sleeps.trans (h : b.Sleeps b') (h' : b'.Sleeps b'') : b.Sleeps b'' := by
  intro id new hnew hactive
  obtain ⟨mid, hmid, hsame', hmidActive⟩ := h' id new hnew hactive
  obtain ⟨sub, hsub, hsame, hsubActive⟩ := h id mid hmid hmidActive
  exact ⟨sub, hsub, hsame'.trans hsame, hsubActive⟩

theorem EditsRecord.sleeps (env : Env) (h : EditsRecord s.book id b') : s.book.Sleeps b' := by
  intro j new hnew hactive
  have hstep : RecordStep env s j b' (.edit id) := h.at_record (.inr rfl) j
  obtain ⟨sub, hsub, hsubscriber, hstatus⟩ := hstep.woken (by simp) (by simp) hnew hactive
  exact ⟨sub, hsub, hsubscriber.resolve_right (by simp), hstatus.resolve_right fun h => h⟩

/-- A status with which an interval may be charged was one before. -/
def Book.Bills (ids : Set Nat) (b b' : Book) : Prop :=
  ∀ id new, b'.record id = some new → new.isChargeable → ∃ sub, b.record id = some sub ∧
    new.subscriber = sub.subscriber ∧ sub.isChargeable ∧ (id ∈ ids ∨ sub.status = new.status)

theorem Book.Bills.refl (ids : Set Nat) (b : Book) : b.Bills ids b :=
  fun _ new hnew hchargeable => ⟨new, hnew, rfl, hchargeable, .inr rfl⟩

theorem Book.Bills.trans {ids : Set Nat} (h : b.Bills ids b') (h' : b'.Bills ids b'') :
    b.Bills ids b'' := by
  intro id new hnew hchargeable
  obtain ⟨mid, hmid, hsame', hmidChargeable, hstatus'⟩ := h' id new hnew hchargeable
  obtain ⟨sub, hsub, hsame, hsubChargeable, hstatus⟩ := h id mid hmid hmidChargeable
  refine ⟨sub, hsub, hsame'.trans hsame, hsubChargeable, ?_⟩
  rcases hstatus with hmem | hstatus
  · exact .inl hmem
  · exact hstatus'.imp_right hstatus.trans

theorem Book.Bills.of_set {ids : Set Nat} (hid : id ∈ ids) (hreads : b.Reads id sub)
    (hrecord : b'.record = (b.setRecord id new).record)
    (h : new.isChargeable → new.subscriber = sub.subscriber ∧ sub.isChargeable) :
    b.Bills ids b' := by
  intro j found hfound hchargeable
  rw [hrecord] at hfound
  by_cases hj : j = id
  · subst hj
    have hself : (b.setRecord j new).record j = some new := Function.update_self ..
    obtain rfl := Option.some.inj (hself.symm.trans hfound)
    obtain ⟨hsame, hsub⟩ := h hchargeable
    obtain ⟨stored, hstored, rfl | ⟨hgrace, rfl⟩⟩ := hreads
    · exact ⟨sub, hstored, hsame, hsub, .inl hid⟩
    · exact ⟨stored, hstored, hsame, .inr (.inl hgrace), .inl hid⟩
  · have hother : (b.setRecord id new).record j = b.record j := Function.update_of_ne hj ..
    exact Book.Bills.refl ids b j found (hother.symm.trans hfound) hchargeable

theorem IntervalChanges.bills {ids : Set Nat} (hid : id ∈ ids)
    (h : IntervalChanges env s id b') : s.book.Bills ids b' := by
  have hended {sub : Subscription} (h : sub.status = .expired ∨ sub.status = .cancelled) :
      ¬sub.isChargeable := by
    rcases h with h | h <;> simp [Subscription.isChargeable, h]
  cases h with
  | unchanged => exact .refl ids _
  | expired hadmitted =>
    exact .of_set hid (Book.reads_of_effective hadmitted.found) rfl
      fun hchargeable => absurd hchargeable (hended (.inl rfl))
  | capped hclear | cancelled hclear =>
    exact .of_set hid (Book.reads_of_effective hclear.found) rfl
      fun hchargeable => absurd hchargeable (hended (.inr rfl))
  | short hdue _ _ hnew =>
    exact .of_set hid hdue.reads rfl fun _ => ⟨by rw [hnew], hdue.chargeable⟩
  | booked hbooks =>
    obtain ⟨sub, new, amount, hdue, -, hsettled, hends⟩ := hbooks
    have hrecord : b'.record = (s.book.setRecord id new).record := by
      rcases hends with rfl | rfl <;> rfl
    exact .of_set hid hdue.reads hrecord fun _ => ⟨by rw [hsettled.2], hdue.chargeable⟩

end Waking

/-! ## Calls -/

section Calls

variable {env : Env} {s t : State} {id : Nat} {sub new : Subscription} {call : VaultCall}

/-- Batches of charges wake up what they charge; the other lists wake up nothing. -/
theorem Worked.sleeps {items : List BulkItem} (h : Worked env items s t)
    (hcharge : ∀ id key, .charge id key ∉ items) : s.book.Sleeps t.book := by
  obtain ⟨steps, hrun, hsteps⟩ := h
  induction hrun with
  | start => exact .refl _
  | @next hist u v l _ hlast ih =>
    refine (ih fun step hmem => hsteps step (List.mem_cons_of_mem _ hmem)).trans ?_
    have hedits {id : Nat} (hbook : v.book = u.book ∨ EditsRecord u.book id v.book) :
        u.book.Sleeps v.book := by
      rcases hbook with hsame | hedits
      · rw [hsame]
        exact .refl _
      · exact hedits.sleeps env
    have hquiet (hwakes : ∀ id, l.operation.wakes id = ∅) (hcreate : l.operation ≠ .create)
        (hrestore : ∀ summaries, l.operation ≠ .restore summaries)
        (htransfer : ∀ id «to», l.operation ≠ .transfer id «to») : u.book.Sleeps v.book := by
      intro id new hnew hactive
      obtain ⟨sub, hsub, hsubscriber, hstatus⟩ :=
        (hlast.at_record id).woken hcreate hrestore hnew hactive
      rw [hwakes id] at hstatus
      exact ⟨sub, hsub, hsubscriber.resolve_right (htransfer id _),
        hstatus.resolve_right fun h => h⟩
    rcases hsteps _ List.mem_cons_self with hl | ⟨item, hitem, hl⟩
    · obtain rfl : l = .other env := hl
      exact hquiet (fun _ => rfl) (by simp [VaultAction.operation])
        (by simp [VaultAction.operation]) (by simp [VaultAction.operation])
    · obtain rfl : l = .item env item := hl
      cases item with
      | charge id key => exact absurd hitem (hcharge id key)
      | cancel id | pause id =>
        exact hquiet (fun _ => rfl) (by simp [VaultAction.operation, BulkItem.operation])
          (by simp [VaultAction.operation, BulkItem.operation])
          (by simp [VaultAction.operation, BulkItem.operation])
      | deposit caller id amount =>
        refine @hedits id ?_
        cases hlast with
        | item hrun => exact .inr (bulkDepositOne_book hrun).1
        | itemFailed hrun =>
          obtain rfl := bulkDepositOne_err hrun
          exact .inl rfl

theorem Worked.bills {items : List BulkItem} {ids : Set Nat} (h : Worked env items s t)
    (hcharge : ∀ item ∈ items, ∃ id key, item = .charge id key ∧ id ∈ ids) :
    s.book.Bills ids t.book := by
  obtain ⟨steps, hrun, hsteps⟩ := h
  induction hrun with
  | start => exact .refl ids _
  | @next hist u v l _ hlast ih =>
    refine (ih fun step hmem => hsteps step (List.mem_cons_of_mem _ hmem)).trans ?_
    rcases hlast.changes with hsame | hchanges
    · rw [hsame]
      exact .refl ids _
    · rcases hsteps _ List.mem_cons_self with hl | ⟨item, hitem, hl⟩
      · obtain rfl : l = .other env := hl
        exact hchanges.elim
      · obtain rfl : l = .item env item := hl
        obtain ⟨id, key, rfl, hid⟩ := hcharge item hitem
        exact IntervalChanges.bills hid hchanges

theorem mem_of_batchItems {ids : List Nat} {keys : Option (List BytesN32)} {item : BatchItem}
    (h : item ∈ batchItems ids keys) : item.1 ∈ ids := by
  unfold batchItems at h
  obtain ⟨⟨id, i⟩, hmem, rfl⟩ := List.mem_map.mp h
  exact (List.mem_zipIdx' hmem).2 ▸ List.getElem_mem _

/-- What an active subscription was before the call. -/
def VaultCall.Woken (call : VaultCall) (s : State) (id : Nat) (sub new : Subscription) : Prop :=
  (new.subscriber = sub.subscriber ∨ call.operation = .transfer id new.subscriber) ∧
    (sub.status = .active ∨ sub.status ∈ call.wakes s id)

theorem VaultCall.woken (hrun : call.exec.run env s = .ok () t)
    (hcreate : call.operation ≠ .create)
    (hrestore : ∀ summaries, call.operation ≠ .restore summaries)
    (hnew : t.subscription id = some new) (hactive : new.status = .active) :
    ∃ sub, s.subscription id = some sub ∧ call.Woken s id sub new := by
  have hsleeps (h : s.book.Sleeps t.book) :
      ∃ sub, s.subscription id = some sub ∧ call.Woken s id sub new := by
    obtain ⟨sub, hsub, hsame, hwas⟩ := h id new hnew hactive
    exact ⟨sub, hsub, .inl hsame, .inl hwas⟩
  have hbills {ids : List Nat} (h : s.book.Bills {id | id ∈ ids} t.book)
      (hwakes : call.wakes s id = {status | id ∈ ids ∧
        (status = .gracePeriod ∨ status = .insufficientBalance)}) :
      ∃ sub, s.subscription id = some sub ∧ call.Woken s id sub new := by
    obtain ⟨sub, hsub, hsame, hchargeable, hstatus⟩ := h id new hnew (.inl hactive)
    refine ⟨sub, hsub, .inl hsame, ?_⟩
    rw [hwakes]
    rcases hstatus with hid | hstatus
    · exact hchargeable.imp_right fun hbehind => ⟨hid, hbehind⟩
    · exact .inl (hstatus.trans hactive)
  have hstep (hsingle : call.isBulk = false) (hwakes : call.operation.wakes id ⊆ call.wakes s id) :
      ∃ sub, s.subscription id = some sub ∧ call.Woken s id sub new := by
    have hone : VaultStep (.call env call) s t := .call hsingle hrun
    obtain ⟨sub, hsub, hsubscriber, hstatus⟩ :=
      (hone.at_record id).woken hcreate hrestore hnew hactive
    exact ⟨sub, hsub, hsubscriber, hstatus.imp_right fun h => hwakes h⟩
  have hcharges {ids : List Nat} {keys : Option (List BytesN32)} :
      ∀ item ∈ (batchItems ids keys).map fun item => BulkItem.charge item.1 item.2,
        ∃ id key, item = .charge id key ∧ id ∈ {id | id ∈ ids} := by
    intro item hitem
    obtain ⟨entry, hentry, rfl⟩ := List.mem_map.mp hitem
    exact ⟨entry.1, entry.2, rfl, mem_of_batchItems hentry⟩
  cases call
  case batchCharge | batchChargeDetailed =>
    exact hbills (Worked.bills (VaultCall.worked rfl hrun) hcharges) rfl
  case bulkDepositFunds | bulkCancelSubscriptions | bulkPauseSubscriptions =>
    refine hsleeps (Worked.sleeps (VaultCall.worked rfl hrun) fun id key hitem => ?_)
    obtain ⟨_, -, hitem⟩ := List.mem_map.mp hitem
    cases hitem
  case depositFunds =>
    exact hsleeps (run_locked_book (fun b b' => b.Sleeps b')
      (fun _ _ hbody => (doDepositFunds_book hbody).1.sleeps env) (run_guardedCall_ok.mp hrun).2)
  case removeFromBlocklist admin listed =>
    by_cases hid : id ∈ s.subscriberSubs listed
    · exact hstep rfl fun status hpaused => ⟨hid, hpaused⟩
    · have hsame := (doRemoveFromBlocklist_book hrun).2 _ hid
      exact ⟨new, hsame.symm.trans hnew, .inl rfl, .inl hactive⟩
  all_goals exact hstep rfl subset_rfl

end Calls

/-! ## Links -/

/-- Only numbers in use are linked to a plan. -/
def LinksUsed (s : State) : Prop := ∀ id, s.nextSubscriptionId ≤ id → s.subPlan id = none

section Links

variable {env : Env} {s t : State} {id : Nat} {l : Transaction}

theorem State.subPlan_of_areas {l : List Area} (h : FiniteStore.AgreeOff (areas l) s t)
    (hl : l.contains .planLinks = false) : t.subPlan = s.subPlan :=
  funext fun id => State.read_of_areas (k := .instanced (.subPlan id)) h hl

/-- The subscription is the caller's, and only its link changes. -/
theorem doMigrateSubscriptionToPlan_links {subscriber : Address} {newPlanId : Nat} {u : Unit}
    (hrun : (doMigrateSubscriptionToPlan subscriber id newPlanId).run env s = .ok u t) :
    (∃ sub, s.subscription id = some sub ∧ sub.subscriber = subscriber) ∧
      t.subPlan = Function.update s.subPlan id (some newPlanId) := by
  obtain ⟨sub, plan, m, hmigrates, -, hwrite, rfl⟩ := doMigrateSubscriptionToPlan_migrates hrun
  obtain ⟨stored, hstored, -, -, hsubscriber, -⟩ := hmigrates.reads.parties
  refine ⟨⟨stored, hstored, hsubscriber.trans hmigrates.owned⟩, ?_⟩
  have hlinks : m.subPlan = s.subPlan :=
    State.subPlan_of_areas ((writeSubscription_areas id _).ok hwrite) rfl
  rw [← hlinks]
  funext j
  by_cases hj : j = id
  · subst hj
    rw [Function.update_self]
    exact FiniteStore.read_write_self _ _
  · rw [Function.update_of_ne hj]
    have hother : Slot.instanced (.subPlan j) ≠ .instanced (.subPlan id) := by simpa using hj
    exact FiniteStore.read_write_of_ne m newPlanId hother

/-- What a transaction does to the links to plans. -/
inductive Links (s t : State) : Transaction → Prop
  | kept {l : Transaction} : t.subPlan = s.subPlan → Links s t l
  | made {env : Env} {subscriber : Address} {planId created : Nat} {label : Option Symbol}
      {sub : Subscription} :
      Installs s t created sub → sub.subscriber = subscriber → TakesNumber s t created →
      s.PlanAllows subscriber planId →
      t.subPlan = Function.update s.subPlan created (some planId) →
      Links s t (.call env (.createSubscriptionFromPlan subscriber planId label))
  | moved {env : Env} {subscriber : Address} {id newPlanId : Nat} {sub : Subscription} :
      s.subscription id = some sub → sub.subscriber = subscriber →
      t.subPlan = Function.update s.subPlan id (some newPlanId) →
      Links s t (.call env (.migrateSubscriptionToPlan subscriber id newPlanId))

theorem Transacts.links (h : Transacts l s t) : Links s t l := by
  have hquiet (hl : (Area.locks :: l.areas).contains .planLinks = false) : Links s t l :=
    .kept (State.subPlan_of_areas h.worksIn.1 hl)
  cases h with
  | other => exact hquiet rfl
  | @call env call _ _ hrun =>
    cases call
    case createSubscription new =>
      obtain ⟨created, hrun⟩ := run_effectOf_ok.mp hrun
      obtain ⟨_, -, hrun⟩ := run_check_ok Modifies.requireNotEmergencyStop hrun
      exact .kept (State.subPlan_of_areas ((doCreateSubscription_areas _).ok hrun) rfl)
    case createSubscriptionWithToken new =>
      obtain ⟨created, hrun⟩ := run_effectOf_ok.mp hrun
      obtain ⟨_, -, hrun⟩ := run_check_ok Modifies.requireNotEmergencyStop hrun
      exact .kept (State.subPlan_of_areas ((doCreateSubscriptionWithToken_areas _).ok hrun) rfl)
    case createSubscriptionWithSplit new entries =>
      obtain ⟨created, hrun⟩ := run_effectOf_ok.mp hrun
      obtain ⟨_, -, hrun⟩ := run_check_ok Modifies.requireNotEmergencyStop hrun
      exact .kept (State.subPlan_of_areas ((createSubscriptionWithSplit_areas _ _).ok hrun) rfl)
    case createSubscriptionFromPlan subscriber planId label =>
      obtain ⟨created, hrun⟩ := run_effectOf_ok.mp hrun
      obtain ⟨_, -, hrun⟩ := run_check_ok Modifies.requireNotEmergencyStop hrun
      obtain ⟨-, -, htakes⟩ := doCreateSubscriptionFromPlan_book hrun
      obtain ⟨plan, sub, -, hinstalls, hsubscriber, -, hallows, hlinks, -⟩ :=
        doCreateSubscriptionFromPlan_installs hrun
      refine .made hinstalls hsubscriber htakes hallows (funext fun id => ?_)
      rw [hlinks id, Function.update_apply]
    case migrateSubscriptionToPlan subscriber id newPlanId =>
      obtain ⟨⟨sub, hsub, howned⟩, hlinks⟩ := doMigrateSubscriptionToPlan_links hrun
      exact .moved hsub howned hlinks
    all_goals exact hquiet rfl

end Links

/-! ## Joining -/

/-- The subscriptions that the call may add to the active ones on the plan: those it makes
active, those it hands over and those it moves to the plan. -/
def VaultCall.joins (s : State) (subscriber : Address) (planId : Nat) : VaultCall → Set Nat
  | .acceptTransfer id «to» => {j | j = id ∧ «to» = subscriber ∧ j ∈ s.onPlan planId ∧
      (s.subscription j).any (·.status = .active)}
  | .migrateSubscriptionToPlan _ id newPlanId =>
    {j | j = id ∧ newPlanId = planId ∧ j ∈ s.inStatus subscriber {.active}}
  | call => {j | j ∈ s.onPlan planId ∧ j ∈ s.inStatus subscriber (call.wakes s j)}

def Transaction.joins (s : State) (subscriber : Address) (planId : Nat) : Transaction → Set Nat
  | .call _ c => c.joins s subscriber planId
  | .other _ => ∅

section Joining

variable {env : Env} {s t : State} {id planId : Nat} {subscriber : Address} {l : Transaction}
  {call : VaultCall}

theorem VaultCall.finite_joins (h : s.book.Numbered) (call : VaultCall) (subscriber : Address)
    (planId : Nat) : (call.joins s subscriber planId).Finite := by
  have hwoken : {j | j ∈ s.onPlan planId ∧ j ∈ s.inStatus subscriber (call.wakes s j)}.Finite := by
    refine (State.finite_inStatus h subscriber Set.univ).subset ?_
    rintro j ⟨-, sub, hsub, hsame, -⟩
    exact ⟨sub, hsub, hsame, trivial⟩
  cases call
  case acceptTransfer id «to» => exact (Set.finite_singleton id).subset fun j hj => hj.1
  case migrateSubscriptionToPlan _ id newPlanId =>
    exact (Set.finite_singleton id).subset fun j hj => hj.1
  all_goals exact hwoken

theorem Transaction.finite_joins (h : s.book.Numbered) (l : Transaction) (subscriber : Address)
    (planId : Nat) : (l.joins s subscriber planId).Finite := by
  cases l with
  | call env call => exact call.finite_joins h subscriber planId
  | other env => exact Set.finite_empty

/-- With its link as it was, an active subscription was active before or joins by the call. -/
theorem VaultCall.joins_of_kept (hrun : call.exec.run env s = .ok () t)
    (hrestore : ∀ summaries, call.operation ≠ .restore summaries) (hlinks : LinksUsed s)
    (hid : id ∈ t.activeOnPlan subscriber planId) (hkept : t.subPlan id = s.subPlan id) :
    id ∈ s.activeOnPlan subscriber planId ∨ id ∈ call.joins s subscriber planId := by
  obtain ⟨hlinked, new, hnew, hsubscriber, hactive⟩ := hid
  have hon : id ∈ s.onPlan planId := hkept.symm.trans hlinked
  by_cases hcreate : call.operation = .create
  · have hsingle : call.isBulk = false := by cases call <;> first | rfl | cases hcreate
    have hone : VaultStep (.call env call) s t := .call hsingle hrun
    have hstep : RecordStep env s id t.book call.operation := hone.at_record id
    rw [hcreate] at hstep
    cases hstep with
    | kept hsame => exact .inl ⟨hon, new, hsame.symm.trans hnew, hsubscriber, hactive⟩
    | rewritten _ hrewrites _ => exact (hrewrites.ne_create rfl).elim
    | created hnumber _ =>
      have hunlinked := hlinks id (Nat.le_of_eq hnumber.symm)
      cases hunlinked.symm.trans hon
  · obtain ⟨sub, hsub, howner, hstatus⟩ := VaultCall.woken hrun hcreate hrestore hnew hactive
    rcases howner with hsame | htransfer
    · have howned : sub.subscriber = subscriber := hsame.symm.trans hsubscriber
      rcases hstatus with hstatus | hstatus
      · exact .inl ⟨hon, sub, hsub, howned, hstatus⟩
      · refine .inr ?_
        cases call
        case acceptTransfer | migrateSubscriptionToPlan => exact hstatus.elim
        all_goals exact ⟨hon, sub, hsub, howned, hstatus⟩
    · cases call
      case acceptTransfer j «to» =>
        obtain ⟨rfl, rfl⟩ : j = id ∧ «to» = new.subscriber := by
          injection htransfer with hj hto
          exact ⟨hj, hto⟩
        have hwas : sub.status = .active := hstatus.resolve_right fun h => h
        exact .inr ⟨rfl, hsubscriber, hon, by simp [hsub, hwas]⟩
      all_goals cases htransfer

/-- A creation from the plan may add its subscription to the active ones; otherwise what is
active now was so before, or joins. -/
theorem Transacts.activeOnPlan (h : Transacts l s t) (hrestore : l.isRestore = false)
    (hlinks : LinksUsed s) (hid : id ∈ t.activeOnPlan subscriber planId) :
    id ∈ s.activeOnPlan subscriber planId ∨ id ∈ l.joins s subscriber planId ∨
      id = s.nextSubscriptionId ∧
        ∃ env label, l = .call env (.createSubscriptionFromPlan subscriber planId label) := by
  have hchange := h.links
  cases h with
  | other hagree =>
    have hbook : t.book = s.book := State.book_of_unbooked (hagree.mono (areas_subset_unbooked rfl))
    have hrecords : t.subscription = s.subscription := congrArg Book.record hbook
    cases hchange with
    | kept hsame =>
      obtain ⟨hlinked, sub, hsub, hparty⟩ := hid
      exact .inl ⟨(congrFun hsame id).symm.trans hlinked, sub, hrecords ▸ hsub, hparty⟩
  | @call env call _ _ hrun =>
    have hplain : ∀ summaries, call.operation ≠ .restore summaries := by
      intro summaries heq
      cases call
      case restoreSnapshotPage => cases hrestore
      all_goals cases heq
    have hkept (hsame : t.subPlan id = s.subPlan id) :
        id ∈ s.activeOnPlan subscriber planId ∨
          id ∈ (Transaction.call env call).joins s subscriber planId ∨
          id = s.nextSubscriptionId ∧ ∃ env' label, Transaction.call env call =
            .call env' (.createSubscriptionFromPlan subscriber planId label) := by
      rcases VaultCall.joins_of_kept hrun hplain hlinks hid hsame with hold | hjoins
      · exact .inl hold
      · exact .inr (.inl hjoins)
    cases hchange with
    | kept hsame => exact hkept (congrFun hsame id)
    | @made _ owner fromPlan created label sub hinstalls howner htakes hallows hlinked =>
      by_cases hcreated : id = created
      · subst hcreated
        obtain ⟨hon, new, hnew, hsubscriber, -⟩ := hid
        rw [hinstalls.record, Function.update_self] at hnew
        have hplan : t.subPlan id = some planId := hon
        rw [hlinked, Function.update_self] at hplan
        obtain rfl := Option.some.inj hnew
        obtain rfl := Option.some.inj hplan
        obtain rfl : owner = subscriber := howner.symm.trans hsubscriber
        exact .inr (.inr ⟨htakes.taken, env, label, rfl⟩)
      · exact hkept (by rw [hlinked, Function.update_of_ne hcreated])
    | @moved _ owner moving newPlanId sub hsub howned hlinked =>
      by_cases hmoved : id = moving
      · subst hmoved
        obtain ⟨hon, new, hnew, hsubscriber, hactive⟩ := hid
        have hplan : t.subPlan id = some planId := hon
        rw [hlinked, Function.update_self] at hplan
        obtain ⟨old, hold, hsame, hwas⟩ := VaultCall.woken hrun (by simp [VaultCall.operation])
          hplain hnew hactive
        have howns : old.subscriber = subscriber :=
          (hsame.resolve_right (by simp [VaultCall.operation])).symm.trans hsubscriber
        exact .inr (.inl ⟨rfl, Option.some.inj hplan, old, hold, howns,
          hwas.resolve_right fun h => h⟩)
      · exact hkept (by rw [hlinked, Function.update_of_ne hmoved])

/-- A creation from the plan is refused when the limit is reached. -/
theorem Transacts.allows {label : Option Symbol} (h : Transacts l s t)
    (hnumbered : s.book.Numbered) (hlimited : s.planMaxActive planId ≠ 0)
    (hl : l = .call env (.createSubscriptionFromPlan subscriber planId label)) :
    (s.activeOnPlan subscriber planId).ncard < s.planMaxActive planId := by
  subst hl
  have hchange := h.links
  have hallows : s.PlanAllows subscriber planId := by
    cases h with
    | call hrun =>
      obtain ⟨created, hrun⟩ := run_effectOf_ok.mp hrun
      obtain ⟨_, -, hrun⟩ := run_check_ok Modifies.requireNotEmergencyStop hrun
      obtain ⟨_, _, -, _, _, _, hallows, -⟩ := doCreateSubscriptionFromPlan_installs hrun
      exact hallows
  obtain ⟨current, hcount, hbelow⟩ := hallows hlimited
  rwa [State.countActive_eq_ncard hnumbered hcount] at hbelow

theorem Transacts.planLimit (h : Transacts l s t) (hrestore : l.isRestore = false)
    (hnumbered : s.book.Numbered) (hlinks : LinksUsed s) (hlimited : s.planMaxActive planId ≠ 0)
    (hroom : (s.activeOnPlan subscriber planId ∪ l.joins s subscriber planId).ncard ≤
      s.planMaxActive planId) :
    (t.activeOnPlan subscriber planId).ncard ≤ s.planMaxActive planId := by
  have hfinite : (s.activeOnPlan subscriber planId ∪ l.joins s subscriber planId).Finite :=
    ((State.finite_inStatus hnumbered _ _).subset Set.inter_subset_right).union
      (l.finite_joins hnumbered subscriber planId)
  by_cases hcreates : ∃ env label, l = .call env (.createSubscriptionFromPlan subscriber planId label)
  · obtain ⟨env, label, rfl⟩ := hcreates
    have hbelow := h.allows hnumbered hlimited rfl
    have hjoins : Transaction.joins s subscriber planId
        (.call env (.createSubscriptionFromPlan subscriber planId label)) = ∅ := by
      refine Set.eq_empty_of_forall_notMem fun j hj => ?_
      obtain ⟨-, sub, -, -, hwakes⟩ := hj
      exact hwakes
    rw [hjoins, Set.union_empty] at hfinite
    have hsubset : t.activeOnPlan subscriber planId ⊆
        insert s.nextSubscriptionId (s.activeOnPlan subscriber planId) := by
      intro j hj
      rcases h.activeOnPlan hrestore hlinks hj with hold | hjoined | ⟨rfl, -⟩
      · exact .inr hold
      · rw [hjoins] at hjoined
        exact hjoined.elim
      · exact .inl rfl
    have hle := Set.ncard_le_ncard hsubset (hfinite.insert _)
    have hinsert := Set.ncard_insert_le s.nextSubscriptionId (s.activeOnPlan subscriber planId)
    omega
  · have hsubset : t.activeOnPlan subscriber planId ⊆
        s.activeOnPlan subscriber planId ∪ l.joins s subscriber planId := by
      intro j hj
      rcases h.activeOnPlan hrestore hlinks hj with hold | hjoined | ⟨-, hcreated⟩
      · exact .inl hold
      · exact .inr hjoined
      · exact absurd hcreated hcreates
    exact (Set.ncard_le_ncard hsubset hfinite).trans hroom

end Joining

/-! ## Runs -/

section Runs

variable {start s t : State} {l : Transaction} {hist : History Transaction State}

theorem VaultStep.numbered_grows {l : VaultAction} (h : VaultStep l s t)
    (hrestore : ∀ summaries, l.operation ≠ .restore summaries) (hnumbered : s.book.Numbered) :
    t.book.Numbered ∧ s.nextSubscriptionId ≤ t.nextSubscriptionId := by
  refine ⟨numbered_of_step hnumbered h hrestore, ?_⟩
  rcases h.changes with hsame | hchanges
  · exact (congrArg Book.nextId hsame).ge
  · obtain ⟨-, hnext | ⟨-, hnext⟩⟩ := hchanges.numbering hnumbered.current
    · exact Nat.le_of_eq hnext.symm
    · exact Nat.le_of_lt (Nat.lt_of_succ_le (Nat.le_of_eq hnext.symm))

theorem Transacts.numbered_grows (h : Transacts l s t) (hrestore : l.isRestore = false)
    (hnumbered : s.book.Numbered) :
    t.book.Numbered ∧ s.nextSubscriptionId ≤ t.nextSubscriptionId := by
  refine h.invariant (I := fun u => u.book.Numbered ∧ s.nextSubscriptionId ≤ u.nextSubscriptionId)
    (fun l u v hlast hplain hu => ?_) hrestore ⟨hnumbered, Nat.le_refl _⟩
  obtain ⟨hv, hgrows⟩ := hlast.numbered_grows hplain hu.1
  exact ⟨hv, hu.2.trans hgrows⟩

theorem LinksUsed.step (hlinks : LinksUsed s) (h : Transacts l s t) (hnumbered : s.book.Numbered)
    (hnumbered' : t.book.Numbered) (hgrows : s.nextSubscriptionId ≤ t.nextSubscriptionId) :
    LinksUsed t := by
  intro id hid
  cases h.links with
  | kept hsame =>
    rw [hsame]
    exact hlinks id (hgrows.trans hid)
  | @made _ _ _ created _ sub hinstalls _ htakes _ hlinked =>
    have hrecord : t.subscription created = some sub := by
      rw [hinstalls.record]
      exact Function.update_self ..
    have hcreated : created < t.nextSubscriptionId :=
      hnumbered'.lt_of_reads ⟨sub, hrecord, .inl rfl⟩
    rw [hlinked, Function.update_of_ne (by omega)]
    exact hlinks id (hgrows.trans hid)
  | @moved _ _ moving _ sub hsub _ hlinked =>
    have hmoving : moving < s.nextSubscriptionId := hnumbered.lt_of_reads ⟨sub, hsub, .inl rfl⟩
    rw [hlinked, Function.update_of_ne (by omega)]
    exact hlinks id (hgrows.trans hid)

theorem linksUsed_of_run (hdeployed : Deployed start) (hrun : Run Transacts start hist s)
    (hrestore : ∀ step ∈ hist, step.1.isRestore = false) : s.book.Numbered ∧ LinksUsed s := by
  induction hrun with
  | start =>
    exact ⟨hdeployed.numbered, fun id _ =>
      State.read_of_areas (k := .instanced (.subPlan id)) hdeployed.areas rfl⟩
  | @next hist u v l _ hstep ih =>
    obtain ⟨hnumbered, hlinks⟩ := ih fun step hmem => hrestore step (List.mem_cons_of_mem _ hmem)
    obtain ⟨hnumbered', hgrows⟩ :=
      hstep.numbered_grows (hrestore _ List.mem_cons_self) hnumbered
    exact ⟨hnumbered', hlinks.step hstep hnumbered hnumbered' hgrows⟩

end Runs

/-- Without restored snapshots, a subscriber within the limit of a plan is within it after every
transaction that leaves room for the subscriptions joining by it, and at the limit no creation
from the plan succeeds. -/
theorem plan_limit_kept {start s : State} {hist : History Transaction State}
    (hdeployed : Deployed start) (hrun : Run Transacts start hist s)
    (hrestore : ∀ step ∈ hist, step.1.isRestore = false) :
    ∀ l u v, (l, u, v) ∈ transitions hist s → ∀ subscriber planId, u.planMaxActive planId ≠ 0 →
      (u.activeOnPlan subscriber planId ∪ l.joins u subscriber planId).ncard ≤
        u.planMaxActive planId →
      (v.activeOnPlan subscriber planId).ncard ≤ u.planMaxActive planId ∧
        ∀ env label, l = .call env (.createSubscriptionFromPlan subscriber planId label) →
          (u.activeOnPlan subscriber planId).ncard < u.planMaxActive planId := by
  intro l u v hmem subscriber planId hlimited hroom
  obtain ⟨earlier, hbefore, hsubset, hstep⟩ := hrun.before_transition hmem
  obtain ⟨hnumbered, hlinks⟩ :=
    linksUsed_of_run hdeployed hbefore fun step hearlier => hrestore step (hsubset hearlier)
  have hplain : l.isRestore = false := hrestore (l, u) (mem_of_mem_transitions hmem)
  exact ⟨hstep.planLimit hplain hnumbered hlinks hlimited hroom,
    fun env label hl => hstep.allows hnumbered hlimited hl⟩

/-- A vault with a plan that a subscriber may have on one active subscription. -/
private def limitedPlan : List (Env × Vault Unit) :=
  [(sampleEnv 0 [⟨1⟩], doSetPlanMaxActiveSubs ⟨1⟩ 0 1),
   (sampleEnv 0 [⟨1⟩], effectOf (doCreatePlanTemplate ⟨1⟩ 10 60 false none))] ++ sampleVault 0

private theorem limitedPlan_run : Run Transacts (sampleStart 0)
    [(.other (sampleEnv 0 []), sampleStart 0)] (afterCalls limitedPlan) := by
  have hcreate := (doCreatePlanTemplate_areas ⟨1⟩ 10 60 false none).effectOf.after
    (sampleEnv 0 [⟨1⟩]) (afterCalls (sampleVault 0))
  have hlimit := (doSetPlanMaxActiveSubs_areas ⟨1⟩ 0 1).after (sampleEnv 0 [⟨1⟩]) (afterCalls
    ((sampleEnv 0 [⟨1⟩], effectOf (doCreatePlanTemplate ⟨1⟩ 10 60 false none)) :: sampleVault 0))
  have hquiet : FiniteStore.AgreeOff (areas foreignAreas) (sampleStart 0)
      (afterCalls limitedPlan) :=
    ((sample_areas 0).mono (areas_mono rfl)).trans
      ((hcreate.mono (areas_mono rfl)).trans (hlimit.mono (areas_mono rfl)))
  exact Run.start.next (.other hquiet)

private def firstOnPlan : List (Env × VaultCall) :=
  [(sampleEnv 0 [⟨2⟩], .createSubscriptionFromPlan ⟨2⟩ 0 none)]

/-- The first creation from the plan leaves the subscriber within the limit of one. -/
theorem first_on_plan_within_limit : ∃ hist u s, Run Transacts (sampleStart 0) hist s ∧
    (.call (sampleEnv 0 [⟨2⟩]) (.createSubscriptionFromPlan ⟨2⟩ 0 none), u, s) ∈
      transitions hist s ∧
    u.planMaxActive 0 = 1 ∧ (s.subscription 0).isSome = true ∧
      (s.activeOnPlan ⟨2⟩ 0).ncard ≤ 1 := by
  have hrun := run_transactions limitedPlan_run
    (show allSucceed (afterCalls limitedPlan) firstOnPlan = true by decide +kernel)
  have hplain : ∀ step ∈ transactionHistory (afterCalls limitedPlan) firstOnPlan ++
      [(.other (sampleEnv 0 []), sampleStart 0)], step.1.isRestore = false := by
    intro step hmem
    simp only [firstOnPlan, transactionHistory, List.cons_append, List.nil_append, List.mem_cons,
      List.not_mem_nil, or_false] at hmem
    rcases hmem with rfl | rfl <;> rfl
  have hnumbered : (afterCalls limitedPlan).book.Numbered :=
    (linksUsed_of_run (sample_deployed 0) limitedPlan_run fun step hmem =>
      hplain step (List.mem_append_right _ hmem)).1
  have hnone : ((afterCalls limitedPlan).activeOnPlan ⟨2⟩ 0).ncard = 0 :=
    (State.countActive_eq_ncard hnumbered (show
      (afterCalls limitedPlan).countActiveSubscriptionsForPlan ⟨2⟩ 0 = .ok 0 by
        decide +kernel)).symm
  have hlimit : (afterCalls limitedPlan).planMaxActive 0 = 1 := by decide +kernel
  have hkept := plan_limit_kept (sample_deployed 0) hrun hplain _ _ _ List.mem_cons_self ⟨2⟩ 0
    (show (afterCalls limitedPlan).planMaxActive 0 ≠ 0 by decide +kernel) (by
      refine (Set.ncard_union_le _ _).trans ?_
      have hjoins : Transaction.joins (afterCalls limitedPlan) ⟨2⟩ 0
          (.call (sampleEnv 0 [⟨2⟩]) (.createSubscriptionFromPlan ⟨2⟩ 0 none)) = ∅ :=
        Set.eq_empty_of_forall_notMem fun j ⟨_, _, _, _, hwakes⟩ => hwakes
      exact (congrArg₂ (· + ·) hnone (congrArg Set.ncard hjoins)).le.trans (by simp))
  exact ⟨_, afterCalls limitedPlan, _, hrun, List.mem_cons_self, hlimit, by decide +kernel,
    hkept.1.trans hlimit.le⟩

/-- The only subscription on the plan is paused, replaced by another one and resumed. -/
private def resumedOnPlan : List (Env × VaultCall) :=
  [(sampleEnv 3 [⟨2⟩], .resumeSubscription 0 ⟨2⟩),
   (sampleEnv 2 [⟨2⟩], .createSubscriptionFromPlan ⟨2⟩ 0 none),
   (sampleEnv 1 [⟨2⟩], .pauseSubscription 0 ⟨2⟩),
   (sampleEnv 0 [⟨2⟩], .createSubscriptionFromPlan ⟨2⟩ 0 none)]

/-- Resuming the paused subscription makes two active ones where the plan allows one. -/
theorem resume_exceeds_plan_limit : ∃ hist u s, Deployed (sampleStart 0) ∧
    Run Transacts (sampleStart 0) hist s ∧
    (.call (sampleEnv 3 [⟨2⟩]) (.resumeSubscription 0 ⟨2⟩), u, s) ∈ transitions hist s ∧
    u.planMaxActive 0 = 1 ∧ s.planMaxActive 0 = 1 ∧ (u.activeOnPlan ⟨2⟩ 0).ncard = 1 ∧
      (s.activeOnPlan ⟨2⟩ 0).ncard = 2 := by
  have hrun := run_transactions limitedPlan_run
    (show allSucceed (afterCalls limitedPlan) resumedOnPlan = true by decide +kernel)
  have hplain : ∀ step ∈ transactionHistory (afterCalls limitedPlan) resumedOnPlan ++
      [(.other (sampleEnv 0 []), sampleStart 0)], step.1.isRestore = false := by
    intro step hmem
    simp only [resumedOnPlan, transactionHistory, List.cons_append, List.nil_append, List.mem_cons,
      List.not_mem_nil, or_false] at hmem
    rcases hmem with rfl | rfl | rfl | rfl | rfl <;> rfl
  have hafter := (linksUsed_of_run (sample_deployed 0) hrun hplain).1
  obtain ⟨earlier, hearlier, hsubset, -⟩ := hrun.before_transition List.mem_cons_self
  have hbefore := (linksUsed_of_run (sample_deployed 0) hearlier
    fun step hmem => hplain step (hsubset hmem)).1
  refine ⟨_, _, _, sample_deployed 0, hrun, List.mem_cons_self, by decide +kernel,
    by decide +kernel, ?_, ?_⟩
  · exact (State.countActive_eq_ncard hbefore (by decide +kernel)).symm
  · exact (State.countActive_eq_ncard hafter (by decide +kernel)).symm

end SubscriptionVault
