import SubscriptionVault.Lifecycle.Transactions

/-!
# Creations

The four ways to create a subscription, with the number each returns: what the new record says
and what has been checked before it was written.
-/

namespace SubscriptionVault

open Exec

/-! ## Creations -/

/-- The ways to create a subscription. -/
inductive Creation where
  | direct (new : NewSubscription)
  | withToken (new : NewSubscription)
  | withSplit (new : NewSubscription) (entries : List (Address × Nat))
  | fromPlan (subscriber : Address) (planId : Nat) (label : Option Symbol)

/-- The entrypoint, with the id it returns. -/
def Creation.exec : Creation → Vault Nat
  | .direct new => stoppableCall (doCreateSubscription new)
  | .withToken new =>
    stoppableCall (doCreateSubscriptionWithToken { new with prorationEnabled := false })
  | .withSplit new entries => stoppableCall (createSubscriptionWithSplit new entries)
  | .fromPlan subscriber planId label =>
    stoppableCall (doCreateSubscriptionFromPlan subscriber planId label)

def Creation.call : Creation → VaultCall
  | .direct new => .createSubscription new
  | .withToken new => .createSubscriptionWithToken new
  | .withSplit new entries => .createSubscriptionWithSplit new entries
  | .fromPlan subscriber planId label => .createSubscriptionFromPlan subscriber planId label

theorem Creation.call_exec (creation : Creation) :
    creation.call.exec = effectOf creation.exec := by
  cases creation <;> rfl

/-! ## What is written -/

/-- The new record, and what allows it. -/
structure Installs (s t : State) (created : Nat) (sub : Subscription) : Prop where
  record : t.subscription = Function.update s.subscription created (some sub)
  active : sub.status = .active
  empty : sub.prepaidBalance = 0
  costs : 0 ≤ sub.amount
  unlisted : s.isBlocklisted sub.subscriber = false
  affordable : s.creditLimitForDelta sub.subscriber sub.token sub.amount = .ok ()

def State.usageLimits (s : State) (id : Nat) : Option UsageLimits :=
  s.read (.instanced (.usageLimits id))

/-- If the subscription is charged for usage, the limits are those of its merchant. -/
def Subscription.LimitedBy (sub : Subscription) (limits : Option UsageLimits) : Prop :=
  sub.usageEnabled = true → ∃ l, limits = some l ∧ l.merchant = sub.merchant

section Installing

variable {env : Env} {s t : State} {created : Nat}

/-- The records after the writes of a creation. -/
theorem subscription_of_writes {s₁ s₂ s₃ s₄ : State} {sub : Subscription} {id next : Nat}
    {u₁ u₂ u₃ u₄ : Unit} (hid : (writeConfig .nextId next).run env s = .ok u₁ s₁)
    (hwrite : (writeSubscription id sub).run env s₁ = .ok u₂ s₂)
    (hcount : (incrementSubscriberActiveCount sub.subscriber).run env s₂ = .ok u₃ s₃)
    (hquiet : s₄.book = s₃.book) (hindex : (indexSubscription id sub).run env s₄ = .ok u₄ t) :
    t.subscription = Function.update s.subscription id (some sub) := by
  have hbook : t.book.record = (s.book.setRecord id sub).record := by
    rw [book_of_indexSubscription hindex, hquiet, book_of_countUp hcount,
      book_of_writeSubscription hwrite, (book_of_nextId hid).1]
    rfl
  exact hbook

theorem run_requireUsageLimits_ok {id : Nat} {merchant : Address} {u : Unit} :
    (requireUsageLimits id merchant).run env s = .ok u t ↔
      (∃ limits, s.read (.instanced (.usageLimits id)) = some limits ∧
        limits.merchant = merchant) ∧ s = t := by
  simp only [requireUsageLimits, run_bind_ok, run_load_ok, run_failIf_ok]
  constructor
  · rintro ⟨_, _, ⟨rfl, rfl⟩, hlimits, rfl⟩
    refine ⟨?_, rfl⟩
    cases hread : (s.read (.instanced (.usageLimits id)) : Option UsageLimits) with
    | none => simp [hread] at hlimits
    | some limits => exact ⟨limits, rfl, by simpa [hread] using hlimits⟩
  · rintro ⟨⟨limits, hread, hmerchant⟩, rfl⟩
    exact ⟨_, _, ⟨rfl, rfl⟩, by simp [hread, hmerchant], rfl⟩

theorem doCreateSubscriptionWithToken_installs {new : NewSubscription}
    (hrun : (doCreateSubscriptionWithToken new).run env s = .ok created t) :
    ∃ sub, Installs s t created sub ∧ sub.subscriber = new.subscriber ∧
      sub.merchant = new.merchant ∧ s.isBlocklisted new.merchant = false ∧
      sub.usageEnabled = new.usageEnabled ∧ sub.LimitedBy (s.usageLimits created) := by
  obtain ⟨ledger, -, hrun⟩ := run_check_ok .ask hrun
  obtain ⟨_, -, hrun⟩ := run_check_ok (Modifies.requireAuth _) hrun
  obtain ⟨_, hamount, hrun⟩ := run_check_ok (.failIf _ _) hrun
  obtain ⟨_, hsubscriber, hrun⟩ := run_check_ok (Modifies.requireNotBlocklisted _) hrun
  obtain ⟨_, hmerchant, hrun⟩ := run_check_ok (Modifies.requireNotBlocklisted _) hrun
  have hlimit := (enforceCreationRateLimit_areas new.subscriber).unbooked rfl
  obtain ⟨_, s₁, hlimited, h₁, hrun⟩ := run_quiet_ok hlimit hrun
  obtain ⟨_, -, hrun⟩ := run_check_ok (Modifies.enforceSubscriptionCounts _ _) hrun
  obtain ⟨_, -, hrun⟩ := run_check_ok (.failIf _ _) hrun
  obtain ⟨_, -, hrun⟩ := run_check_ok (Modifies.validateExpiry _ _) hrun
  obtain ⟨_, -, hrun⟩ := run_check_ok (.gets _) hrun
  obtain ⟨_, -, hrun⟩ := run_check_ok (.failIf _ _) hrun
  obtain ⟨cap, -, hrun⟩ := run_check_ok (.gets _) hrun
  obtain ⟨_, -, hrun⟩ := run_check_ok (Modifies.validateCap _ _) hrun
  obtain ⟨_, hcredit, hrun⟩ := run_check_ok (Modifies.enforceCreditLimitForDelta _ _ _) hrun
  obtain ⟨id, -, hrun⟩ := run_check_ok (.gets _) hrun
  obtain ⟨_, hlimits, hrun⟩ := run_check_ok (.when (Modifies.requireUsageLimits _ _)) hrun
  obtain ⟨_, -, hrun⟩ := run_check_ok (.failIf _ _) hrun
  obtain ⟨_, s₂, hnext, hrun⟩ := run_bind_ok.mp hrun
  obtain ⟨_, s₃, hwrite, hrun⟩ := run_bind_ok.mp hrun
  obtain ⟨_, s₄, hcount, hrun⟩ := run_bind_ok.mp hrun
  obtain ⟨_, s₅, hindex, hrun⟩ := run_bind_ok.mp hrun
  obtain ⟨_, s₆, -, h₆, hrun⟩ := run_quiet_ok ((issueCredential_areas id).unbooked rfl) hrun
  obtain ⟨rfl, rfl⟩ := run_pure_ok.mp hrun
  have hrecords : s₁.subscription = s.subscription := congrArg Book.record h₁
  have hissued : s₆.subscription = s₅.subscription := congrArg Book.record h₆
  have hallowed := run_enforceCreditLimit_ok hcredit
  rw [State.creditLimitForDelta_of_areas ((enforceCreationRateLimit_areas _).ok hlimited)
    (areas_subset_unbooked rfl) rfl] at hallowed
  have hpositive := (run_failIf_ok.mp hamount).1
  refine ⟨new.record cap ledger.now ledger.now, ⟨?_, rfl, rfl, ?_,
    (run_requireNotBlocklisted_ok.mp hsubscriber).1, hallowed⟩, rfl, rfl,
    (run_requireNotBlocklisted_ok.mp hmerchant).1, rfl, fun husage => ?_⟩
  · rw [hissued, subscription_of_writes hnext hwrite hcount rfl hindex, hrecords]
  · exact Int.not_lt.mp fun hneg => hpositive (.inl hneg)
  · rcases run_when_ok.mp hlimits with ⟨-, hchecked⟩ | ⟨hdisabled, -⟩
    · obtain ⟨⟨limits, hread, hmerchant⟩, -⟩ := run_requireUsageLimits_ok.mp hchecked
      have hsame : s₁.usageLimits id = s.usageLimits id :=
        State.read_of_areas (k := .instanced (.usageLimits id))
          ((enforceCreationRateLimit_areas _).ok hlimited) rfl
      exact ⟨limits, hsame.symm.trans hread, hmerchant⟩
    · exact absurd husage hdisabled

theorem doCreateSubscription_installs {new : NewSubscription}
    (hrun : (doCreateSubscription new).run env s = .ok created t) :
    ∃ sub, Installs s t created sub ∧ sub.subscriber = new.subscriber ∧
      sub.merchant = new.merchant ∧ s.isBlocklisted new.merchant = false ∧
      sub.usageEnabled = new.usageEnabled ∧ sub.LimitedBy (s.usageLimits created) := by
  obtain ⟨_, -, hrun⟩ := run_check_ok (.failIf _ _) hrun
  obtain ⟨_, -, hrun⟩ := run_check_ok (.gets _) hrun
  obtain ⟨token, -, hrun⟩ := run_check_ok (.lift _) hrun
  obtain ⟨_, -, hrun⟩ := run_check_ok (Modifies.enforceCreditLimitForDelta _ _ _) hrun
  have hinstalls := doCreateSubscriptionWithToken_installs hrun
  exact hinstalls

theorem run_checkSplitEntries_ok {entries : List (Address × Nat)} {total weight : Nat}
    (hrun : (checkSplitEntries entries total).run env s = .ok weight t) :
    ∀ entry ∈ entries, s.isBlocklisted entry.1 = false := by
  induction entries generalizing total with
  | nil => simp
  | cons entry entries ih =>
    obtain ⟨_, -, hrun⟩ := run_check_ok (.failIf _ _) hrun
    obtain ⟨_, -, hrun⟩ := run_check_ok (.okOr _ _) hrun
    obtain ⟨_, hlisted, hrun⟩ := run_check_ok (Modifies.requireNotBlocklisted _) hrun
    intro other hmem
    rcases List.mem_cons.mp hmem with rfl | hmem
    · exact (run_requireNotBlocklisted_ok.mp hlisted).1
    · exact ih hrun other hmem

theorem run_validateSplit_ok {entries : List (Address × Nat)} {u : Unit}
    (hrun : (validateSplit entries).run env s = .ok u t) :
    ∀ entry ∈ entries, s.isBlocklisted entry.1 = false := by
  obtain ⟨_, -, hrun⟩ := run_check_ok (.failIf _ _) hrun
  obtain ⟨_, hchecked, hrun⟩ := run_check_ok (Modifies.checkSplitEntries _ _) hrun
  exact run_checkSplitEntries_ok hchecked

theorem splitPayees_of_ok {id : Nat} {entries : List (Address × Nat)} {split : SplitPayees}
    (h : SplitPayees.of id entries = .ok split) : split.entries = entries := by
  unfold SplitPayees.of at h
  split at h
  · cases h
    rfl
  · cases h

theorem createSubscriptionWithSplit_installs {new : NewSubscription}
    {entries : List (Address × Nat)}
    (hrun : (createSubscriptionWithSplit new entries).run env s = .ok created t) :
    (∃ sub, Installs s t created sub ∧ sub.subscriber = new.subscriber ∧
      sub.merchant = new.merchant ∧ s.isBlocklisted new.merchant = false ∧
      sub.usageEnabled = new.usageEnabled ∧ sub.LimitedBy (s.usageLimits created)) ∧
    (∀ entry ∈ entries, s.isBlocklisted entry.1 = false) ∧
    (∃ split, t.splitPayees created = some split ∧ split.entries = entries) ∧
    ∀ id ≠ created, t.splitPayees id = s.splitPayees id := by
  obtain ⟨_, hvalid, hrun⟩ := run_check_ok (Modifies.validateSplit _) hrun
  obtain ⟨id, s₁, hcreate, hrun⟩ := run_bind_ok.mp hrun
  obtain ⟨split, hsplit, hrun⟩ := run_check_ok (.lift _) hrun
  obtain ⟨_, s₂, hstored, hrun⟩ := run_bind_ok.mp hrun
  obtain ⟨rfl, rfl⟩ := run_pure_ok.mp hrun
  obtain rfl := run_store_ok.mp hstored
  obtain ⟨sub, hinstalls, hparties⟩ := doCreateSubscription_installs hcreate
  have hkept (j : Nat) : s₁.splitPayees j = s.splitPayees j :=
    State.read_of_areas (k := .persistent (.splitPayees j))
      ((doCreateSubscription_areas _).ok hcreate) rfl
  have hrecords : State.subscription (s₁.write (.persistent (.splitPayees id)) split) =
      s₁.subscription := by
    funext j
    exact FiniteStore.read_write_of_ne s₁ split (by simp)
  refine ⟨⟨sub, { hinstalls with record := hrecords.trans hinstalls.record }, hparties⟩,
    run_validateSplit_ok hvalid, ⟨split, FiniteStore.read_write_self _ _,
    splitPayees_of_ok (run_lift_ok.mp hsplit).1⟩, fun j hj => ?_⟩
  rw [← hkept j]
  exact FiniteStore.read_write_of_ne s₁ split (by simpa using hj)

/-- `get_plan_max_active`: no limit is a limit of zero. -/
def State.planMaxActive (s : State) (planId : Nat) : Nat :=
  (s.read (.instanced (.planMaxActive planId))).getD 0

/-- The plan a subscription was made from or has moved to. -/
def State.subPlan (s : State) (id : Nat) : Option Nat := s.read (.instanced (.subPlan id))

/-- The plan has room for one more active subscription of the subscriber. -/
def State.PlanAllows (s : State) (subscriber : Address) (planId : Nat) : Prop :=
  s.planMaxActive planId ≠ 0 → ∃ current,
    s.countActiveSubscriptionsForPlan subscriber planId = .ok current ∧
      current < s.planMaxActive planId

theorem run_enforcePlanConcurrencyLimit_ok {subscriber : Address} {planId : Nat} {u : Unit}
    (hrun : (enforcePlanConcurrencyLimit subscriber planId).run env s = .ok u t) :
    s.PlanAllows subscriber planId := by
  obtain ⟨found, hfound, hrun⟩ := run_check_ok Modifies.load hrun
  obtain ⟨rfl, -⟩ := run_load_ok.mp hfound
  intro hlimited
  rcases run_when_ok.mp hrun with ⟨-, hrun⟩ | ⟨hnone, -⟩
  · obtain ⟨counted, hcounted, hrun⟩ := run_check_ok (.gets _) hrun
    obtain ⟨rfl, -⟩ := run_gets_ok.mp hcounted
    obtain ⟨current, hcurrent, hrun⟩ := run_check_ok (.lift _) hrun
    exact ⟨current, (run_lift_ok.mp hcurrent).1, Nat.lt_of_not_le (run_failIf_ok.mp hrun).1⟩
  · exact absurd hlimited hnone

theorem State.PlanAllows.of_window {subscriber : Address} {planId : Nat}
    (h : FiniteStore.AgreeOff (areas [.createWindows]) s t)
    (hallows : t.PlanAllows subscriber planId) : s.PlanAllows subscriber planId := by
  have hbook : t.book = s.book := State.book_of_unbooked (h.mono (areas_subset_unbooked rfl))
  have hrecords : t.subscription = s.subscription := congrArg Book.record hbook
  have hnext : t.nextSubscriptionId = s.nextSubscriptionId := congrArg Book.nextId hbook
  have hlinks (id : Nat) : t.read (.instanced (.subPlan id)) = s.read (.instanced (.subPlan id)) :=
    State.read_of_areas (k := .instanced (.subPlan id)) h rfl
  have hmax : t.planMaxActive planId = s.planMaxActive planId := by
    unfold State.planMaxActive
    rw [State.read_of_areas (k := .instanced (.planMaxActive planId)) h rfl]
  have hcount : t.countActiveSubscriptionsForPlan subscriber planId =
      s.countActiveSubscriptionsForPlan subscriber planId := by
    unfold State.countActiveSubscriptionsForPlan
    simp only [hrecords, hnext, hlinks]
  unfold State.PlanAllows at hallows ⊢
  rwa [hmax, hcount] at hallows

theorem doCreateSubscriptionFromPlan_installs {subscriber : Address} {planId : Nat}
    {label : Option Symbol}
    (hrun : (doCreateSubscriptionFromPlan subscriber planId label).run env s = .ok created t) :
    ∃ plan sub, s.planTemplate planId = some plan ∧ Installs s t created sub ∧
      sub.subscriber = subscriber ∧ sub.merchant = plan.merchant ∧
      s.PlanAllows subscriber planId ∧
      (∀ id, t.subPlan id = if id = created then some planId else s.subPlan id) ∧
      sub.usageEnabled = plan.usageEnabled ∧ plan.isDisabled = false := by
  obtain ⟨ledger, -, hrun⟩ := run_check_ok .ask hrun
  obtain ⟨_, -, hrun⟩ := run_check_ok (Modifies.requireAuth _) hrun
  obtain ⟨_, hsubscriber, hrun⟩ := run_check_ok (Modifies.requireNotBlocklisted _) hrun
  have hlimit := enforceCreationRateLimit_areas subscriber
  obtain ⟨_, s₁, hlimited, h₁, hrun⟩ := run_quiet_ok (hlimit.unbooked rfl) hrun
  have hwindow := hlimit.ok hlimited
  obtain ⟨found, hfound, hrun⟩ := run_check_ok (.gets _) hrun
  obtain ⟨rfl, -⟩ := run_gets_ok.mp hfound
  obtain ⟨plan, hplan, hrun⟩ := run_check_ok (.okOr _ _) hrun
  obtain ⟨_, hamount, hrun⟩ := run_check_ok (.failIf _ _) hrun
  obtain ⟨_, hopen, hrun⟩ := run_check_ok (.failIf _ _) hrun
  obtain ⟨_, -, hrun⟩ := run_check_ok (Modifies.enforceSubscriptionCounts _ _) hrun
  obtain ⟨_, hcredit, hrun⟩ := run_check_ok (Modifies.enforceCreditLimitForDelta _ _ _) hrun
  obtain ⟨_, hallows, hrun⟩ := run_check_ok (Modifies.enforcePlanConcurrencyLimit _ _) hrun
  obtain ⟨id, -, hrun⟩ := run_check_ok (.gets _) hrun
  obtain ⟨next, -, hrun⟩ := run_check_ok (.okOr _ _) hrun
  obtain ⟨_, s₂, hnext, hrun⟩ := run_bind_ok.mp hrun
  obtain ⟨cap, -, hrun⟩ := run_check_ok (.gets _) hrun
  obtain ⟨_, s₃, hwrite, hrun⟩ := run_bind_ok.mp hrun
  obtain ⟨_, s₄, hcount, hrun⟩ := run_bind_ok.mp hrun
  have hlink : Modifies unbooked (store (.instanced (.subPlan id)) planId) := Modifies.store rfl
  obtain ⟨_, s₅, hlinked, h₅, hrun⟩ := run_quiet_ok hlink hrun
  obtain ⟨_, s₆, hindex, hrun⟩ := run_bind_ok.mp hrun
  obtain ⟨rfl, rfl⟩ := run_pure_ok.mp hrun
  have htemplate : s.planTemplate planId = some plan := by
    have hsame : s₁.planTemplate planId = s.planTemplate planId :=
      State.read_of_areas (k := .instanced (.plan planId)) hwindow rfl
    rw [← hsame]
    exact (run_okOr_ok.mp hplan).1
  have hallowed := run_enforceCreditLimit_ok hcredit
  rw [State.creditLimitForDelta_of_areas hwindow (areas_subset_unbooked rfl) rfl] at hallowed
  have hrecords : s₁.subscription = s.subscription := congrArg Book.record h₁
  have hpositive := (run_failIf_ok.mp hamount).1
  let sub := (plan.subscription subscriber label).record cap ledger.now
    (saturatingAddU64 ledger.now plan.effectiveTrialPeriodSeconds)
  refine ⟨plan, sub, htemplate, ⟨?_, rfl, rfl, ?_,
    (run_requireNotBlocklisted_ok.mp hsubscriber).1, hallowed⟩, rfl, rfl,
    (run_enforcePlanConcurrencyLimit_ok hallows).of_window hwindow, fun j => ?_, rfl,
    Bool.eq_false_iff.mpr (run_failIf_ok.mp hopen).1⟩
  · rw [subscription_of_writes hnext hwrite hcount h₅ hindex, hrecords]
  · exact Int.not_lt.mp fun hneg => hpositive (.inl hneg.le)
  · have hnumbered : Modifies (areas recordAreas) (writeConfig .nextId next) :=
      Modifies.writeConfig rfl rfl
    have hbefore : FiniteStore.AgreeOff (areas recordAreas) s s₄ :=
      (((hlimit.widen rfl).ok hlimited).trans (hnumbered.ok hnext)).trans
        ((((writeSubscription_areas id _).widen rfl).ok hwrite).trans
          (((incrementSubscriberActiveCount_areas subscriber).widen rfl).ok hcount))
    have hafter : s₆.subPlan j = s₅.subPlan j :=
      State.read_of_areas (k := .instanced (.subPlan j)) ((indexSubscription_areas id _).ok hindex)
        rfl
    rw [hafter]
    obtain rfl := run_store_ok.mp hlinked
    split
    · rename_i hj
      subst hj
      exact FiniteStore.read_write_self _ _
    · rename_i hj
      have hother : Slot.instanced (.subPlan j) ≠ .instanced (.subPlan id) := by simpa using hj
      exact (FiniteStore.read_write_of_ne s₄ planId hother).trans
        (State.read_of_areas (k := .instanced (.subPlan j)) hbefore rfl)

end Installing

/-! ## All creations -/

section Creations

variable {env : Env} {s t : State} {created : Nat}

/-- Every creation installs one record, under the next number. -/
theorem Creation.installs {creation : Creation}
    (hrun : creation.exec.run env s = .ok created t) :
    ∃ sub, Installs s t created sub ∧ TakesNumber s t created := by
  cases creation with
  | direct new =>
    obtain ⟨_, -, hrun⟩ := run_check_ok Modifies.requireNotEmergencyStop hrun
    obtain ⟨sub, hinstalls, -⟩ := doCreateSubscription_installs hrun
    exact ⟨sub, hinstalls, (doCreateSubscription_book hrun).2.2⟩
  | withToken new =>
    obtain ⟨_, -, hrun⟩ := run_check_ok Modifies.requireNotEmergencyStop hrun
    obtain ⟨sub, hinstalls, -⟩ := doCreateSubscriptionWithToken_installs hrun
    exact ⟨sub, hinstalls, (doCreateSubscriptionWithToken_book hrun).2.2⟩
  | withSplit new entries =>
    obtain ⟨_, -, hrun⟩ := run_check_ok Modifies.requireNotEmergencyStop hrun
    obtain ⟨⟨sub, hinstalls, -⟩, -⟩ := createSubscriptionWithSplit_installs hrun
    exact ⟨sub, hinstalls, (createSubscriptionWithSplit_book hrun).2.2⟩
  | fromPlan subscriber planId label =>
    obtain ⟨_, -, hrun⟩ := run_check_ok Modifies.requireNotEmergencyStop hrun
    obtain ⟨plan, sub, -, hinstalls, -⟩ := doCreateSubscriptionFromPlan_installs hrun
    exact ⟨sub, hinstalls, (doCreateSubscriptionFromPlan_book hrun).2.2⟩

theorem Creation.takes {creation : Creation} (hrun : creation.exec.run env s = .ok created t) :
    TakesNumber s t created ∧ ∃ sub,
      t.subscription = Function.update s.subscription created (some sub) := by
  obtain ⟨sub, hinstalls, htakes⟩ := Creation.installs hrun
  exact ⟨htakes, sub, hinstalls.record⟩

/-- The calls that create are the four creations. -/
theorem VaultStep.installs {l : VaultAction} (h : VaultStep l s t)
    (hcreate : l.operation = .create) :
    ∃ created sub, Installs s t created sub ∧ TakesNumber s t created := by
  have hcreation (creation : Creation) {env : Env}
      (hrun : creation.call.exec.run env s = .ok () t) :
      ∃ created sub, Installs s t created sub ∧ TakesNumber s t created := by
    rw [creation.call_exec] at hrun
    obtain ⟨created, hrun⟩ := run_effectOf_ok.mp hrun
    exact ⟨created, Creation.installs hrun⟩
  cases h with
  | @call env call _ _ hsingle hrun =>
    clear hsingle
    cases call
    case createSubscription new => exact hcreation (.direct new) hrun
    case createSubscriptionWithToken new => exact hcreation (.withToken new) hrun
    case createSubscriptionWithSplit new entries => exact hcreation (.withSplit new entries) hrun
    case createSubscriptionFromPlan subscriber planId label =>
      exact hcreation (.fromPlan subscriber planId label) hrun
    all_goals cases hcreate
  | @item env entry => cases entry <;> cases hcreate
  | @itemFailed env entry => cases entry <;> cases hcreate
  | other => cases hcreate

end Creations

end SubscriptionVault
