import SubscriptionVault.Charging.UsageReferences
import SubscriptionVault.Lifecycle.PlanCreation

/-!
# Whose usage limits

The limits of a subscription that is charged for usage should be those its merchant configured.
A merchant prepares them under the number of the next subscription, and so may anybody else: the
last one to write wins, a direct creation then fails, and one from a plan takes what it finds.
A rotated address and a restored record come without limits of their own.
-/

namespace SubscriptionVault

open Exec

/-! ## What should hold -/

/-- The transaction configures the limits, with the merchant's signature. -/
def Transaction.Configures (id : Nat) (limits : UsageLimits) : Transaction → Prop
  | .call env (.configureUsageLimits j new) =>
    j = id ∧ new = limits ∧ env.authorized limits.merchant = true
  | _ => False

/-- Every subscription charged for usage has limits that its merchant configured. -/
structure State.LimitsOwned (s : State) (hist : History Transaction State) : Prop where
  limited : ∀ id sub, s.subscription id = some sub → sub.LimitedBy (s.usageLimits id)
  configured : ∀ id limits, s.usageLimits id = some limits →
    ∃ step ∈ hist, step.1.Configures id limits

/-- The merchant that a creation names. -/
def Creation.merchant (s : State) : Creation → Option Address
  | .direct new | .withToken new | .withSplit new _ => some new.merchant
  | .fromPlan _ planId _ => (s.planTemplate planId).map (·.merchant)

/-- Between `u` and `v` the intruder has spoiled no creation for another merchant. -/
def CreationsSpared (u v : State) (intruder : Address) : Prop :=
  ∀ env creation m, Creation.merchant u creation = some m → m ≠ intruder →
    ∀ created t, creation.exec.run env u = .ok created t →
      ∃ t', creation.exec.run env v = .ok created t' ∧
        ∀ sub, t'.subscription created = some sub → sub.usageEnabled = true →
          ∀ limits, t'.usageLimits created = some limits → limits.merchant ≠ intruder

/-- Limits are prepared only where no other merchant has prepared any or offers a plan with usage,
and creations from a plan, rotations and restored records find the right ones. -/
def Transaction.KeepsLimits : Transaction → State → Prop
  | .call _ (.configureUsageLimits id limits), s => s.subscription id = none →
    (∀ earlier, s.usageLimits id = some earlier → earlier.merchant = limits.merchant) ∧
    ∀ planId plan, s.planTemplate planId = some plan → plan.isDisabled = false →
      plan.usageEnabled = true → plan.merchant = limits.merchant
  | .call _ (.createSubscriptionFromPlan _ planId _), s => ∀ plan,
    s.planTemplate planId = some plan → plan.usageEnabled = true →
      ∃ limits, s.usageLimits s.nextSubscriptionId = some limits ∧ limits.merchant = plan.merchant
  | .call _ (.rotateMerchantAddress _ oldMerchant newMerchant _), s => oldMerchant = newMerchant ∨
    ∀ id ∈ s.merchantSubs oldMerchant, ∀ sub, s.subscription id = some sub →
      sub.merchant = oldMerchant → sub.usageEnabled = false
  | .call _ (.restoreSnapshotPage _ summaries _), s => ∀ summary ∈ summaries,
    summary.record.LimitedBy (s.usageLimits summary.subscriptionId)
  | _, _ => True

/-! ## Where limits are written -/

def limitFree : Set Slot := {k | ∀ id, k ≠ .instanced (.usageLimits id)}

section Kept

variable {env : Env} {s t : State} {call : VaultCall}

theorem State.usageLimits_of_agreeOff (h : FiniteStore.AgreeOff limitFree s t) :
    t.usageLimits = s.usageLimits := by
  funext id
  rw [State.usageLimits, State.usageLimits, h.read fun hmem => hmem id rfl]

theorem usageFree_subset_limitFree : usageFree ⊆ limitFree := by
  rintro k hk id rfl
  exact hk rfl

theorem chargeUsageOne_keepsLimits (id : Nat) (usageAmount : Int) (reference : Bytes) :
    Modifies limitFree (chargeUsageOne id usageAmount reference) := by
  refine chargeUsageOne_keeps (fun sub => ?_) usageAmount reference
  have hpays : PaymentKeeps (FiniteStore.AgreeOff limitFree) id sub :=
    paymentKeeps_areas ((areas_subset_usageFree rfl).trans usageFree_subset_limitFree) id sub
  exact
    { hpays.ends with
      refers := fun r => .of_keeps (Modifies.store (S := limitFree) fun i h => by cases h)
        fun _ _ hr => hr
      counts := fun units => .of_keeps ((applyUsageLimits_counters id sub units).weaken
        (by rintro k rfl i h; cases h)) fun _ _ hr => hr }

/-- Only the configuration writes limits. -/
theorem limits_kept_of_call (hconfigures : call.configures = none)
    (hrun : call.exec.run env s = .ok () t) : FiniteStore.AgreeOff limitFree s t := by
  cases hcall : call.usageCharge with
  | none => exact (usage_kept_of_call hcall hconfigures hrun).mono usageFree_subset_limitFree
  | some charge =>
    obtain ⟨id, amount, reference⟩ := charge
    obtain ⟨result, v, w, hbody, hbefore, hafter⟩ := run_usageCall hcall hrun
    have hlocks : areas [.locks] ⊆ limitFree :=
      (areas_subset_usageFree rfl).trans usageFree_subset_limitFree
    exact ((hbefore.mono hlocks).trans ((chargeUsageOne_keepsLimits _ _ _).ok hbody)).trans
      (hafter.mono hlocks)

end Kept

/-! ## Records -/

/-- The operations that leave the merchant and the mode of every subscription. -/
def Operation.keepsOwner : Operation → Bool
  | .create | .replan _ _ | .rotate _ _ | .restore _ => false
  | _ => true

/-- The subscriptions are limited by what `limits` has for them. -/
def State.LimitedUnder (s : State) (limits : Nat → Option UsageLimits) : Prop :=
  ∀ id sub, s.subscription id = some sub → sub.LimitedBy (limits id)

section Records

variable {env : Env} {s t : State} {op : Operation} {id : Nat} {sub new : Subscription}
  {limits : Nat → Option UsageLimits}

theorem Subscription.LimitedBy.of_same {found : Option UsageLimits} (h : sub.LimitedBy found)
    (hmerchant : new.merchant = sub.merchant) (husage : new.usageEnabled = sub.usageEnabled) :
    new.LimitedBy found := by
  intro henabled
  rw [husage] at henabled
  rw [hmerchant]
  exact h henabled

theorem Rewrites.owner (h : Rewrites env s id op sub new) (hop : op.keepsOwner = true) :
    new.merchant = sub.merchant ∧ new.usageEnabled = sub.usageEnabled := by
  cases h with
  | edited _ hnew => rw [hnew]; exact ⟨rfl, rfl⟩
  | revived _ _ hnew => rw [hnew]; exact ⟨rfl, rfl⟩
  | paused | resumed | cancelled | archived | transferred => exact ⟨rfl, rfl⟩
  | replanned | rehomed => cases hop
  | halted _ _ _ hnew => rw [hnew]; exact ⟨rfl, rfl⟩
  | settled _ _ hsettled => rw [hsettled.2]; exact ⟨rfl, rfl⟩
  | used _ hsettled => rw [hsettled.2]; exact ⟨rfl, rfl⟩
  | boughtOut _ hnew _ => rw [hnew]; exact ⟨rfl, rfl⟩

/-- What is read is limited as what is stored. -/
theorem State.LimitedUnder.reads (h : s.LimitedUnder limits) (hreads : s.book.Reads id sub) :
    sub.LimitedBy (limits id) := by
  obtain ⟨stored, hstored, rfl | ⟨-, rfl⟩⟩ := hreads
  · exact h id sub hstored
  · exact (h id stored hstored).of_same rfl rfl

theorem VaultStep.limitedUnder {l : VaultAction} (h : VaultStep l s t)
    (hop : l.operation.keepsOwner = true) (hs : s.LimitedUnder limits) :
    t.LimitedUnder limits := by
  intro id new hnew
  have hrecord := h.at_record id
  generalize l.operation = op at hrecord hop
  cases hrecord with
  | kept hkept => exact hs id new (hkept.symm.trans hnew)
  | @rewritten _ sub after hreads hrewrites hafter =>
    obtain rfl : after = new := Option.some.inj (hafter.symm.trans hnew)
    obtain ⟨hmerchant, husage⟩ := hrewrites.owner hop
    exact (hs.reads hreads).of_same hmerchant husage
  | created => cases hop
  | restored => cases hop

theorem Installs.limitedUnder {created : Nat} (h : Installs s t created sub)
    (hlimited : sub.LimitedBy (limits created)) (hs : s.LimitedUnder limits) :
    t.LimitedUnder limits := by
  intro id new hnew
  rw [h.record] at hnew
  by_cases hid : id = created
  · subst hid
    rw [Function.update_self] at hnew
    obtain rfl := Option.some.inj hnew
    exact hlimited
  · rw [Function.update_of_ne hid] at hnew
    exact hs id new hnew

/-- A creation from a plan is limited if the plan's merchant has prepared it. -/
theorem Creation.limitedUnder {creation : Creation} {created : Nat}
    (hrun : creation.exec.run env s = .ok created t)
    (hkeeps : (Transaction.call env creation.call).KeepsLimits s)
    (hs : s.LimitedUnder s.usageLimits) : t.LimitedUnder s.usageLimits := by
  obtain ⟨_, _, htakes⟩ := Creation.installs hrun
  cases creation with
  | direct new =>
    obtain ⟨_, -, hrun⟩ := run_check_ok Modifies.requireNotEmergencyStop hrun
    obtain ⟨sub, hinstalls, -, -, -, -, hlimited⟩ := doCreateSubscription_installs hrun
    exact hinstalls.limitedUnder hlimited hs
  | withToken new =>
    obtain ⟨_, -, hrun⟩ := run_check_ok Modifies.requireNotEmergencyStop hrun
    obtain ⟨sub, hinstalls, -, -, -, -, hlimited⟩ := doCreateSubscriptionWithToken_installs hrun
    exact hinstalls.limitedUnder hlimited hs
  | withSplit new entries =>
    obtain ⟨_, -, hrun⟩ := run_check_ok Modifies.requireNotEmergencyStop hrun
    obtain ⟨⟨sub, hinstalls, -, -, -, -, hlimited⟩, -⟩ := createSubscriptionWithSplit_installs hrun
    exact hinstalls.limitedUnder hlimited hs
  | fromPlan subscriber planId label =>
    obtain ⟨_, -, hrun⟩ := run_check_ok Modifies.requireNotEmergencyStop hrun
    obtain ⟨plan, sub, hplan, hinstalls, -, hmerchant, -, -, husage, -⟩ :=
      doCreateSubscriptionFromPlan_installs hrun
    refine hinstalls.limitedUnder (fun henabled => ?_) hs
    obtain ⟨found, hfound, howner⟩ := hkeeps plan hplan (husage ▸ henabled)
    exact ⟨found, htakes.taken ▸ hfound, howner.trans hmerchant.symm⟩

theorem doMigrateSubscriptionToPlan_limitedUnder {subscriber : Address} {newPlanId : Nat}
    {u : Unit} (hrun : (doMigrateSubscriptionToPlan subscriber id newPlanId).run env s = .ok u t)
    (hs : s.LimitedUnder limits) : t.LimitedUnder limits := by
  obtain ⟨sub, plan, m, hmigrates, husage, hwrite, rfl⟩ :=
    doMigrateSubscriptionToPlan_migrates hrun
  have hlink : State.book (m.write (.instanced (.subPlan id)) newPlanId) = m.book :=
    State.book_of_unbooked (m.agreeOff_write newPlanId rfl)
  have hbook := hlink.trans (book_of_writeSubscription hwrite)
  have hrecord := congrArg Book.record hbook
  intro j new hnew
  have hnew : Function.update s.book.record id (some (sub.onTerms plan)) j = some new :=
    (congrFun hrecord j).symm.trans hnew
  by_cases hj : j = id
  · subst hj
    rw [Function.update_self] at hnew
    obtain rfl := Option.some.inj hnew
    exact (hs.reads hmigrates.reads).of_same rfl husage
  · rw [Function.update_of_ne hj] at hnew
    exact hs j new hnew

theorem Book.rotated_limitedUnder {oldMerchant newMerchant : Address}
    (hbook : t.book = s.book.rotated oldMerchant newMerchant)
    (hkeeps : oldMerchant = newMerchant ∨ ∀ id ∈ s.merchantSubs oldMerchant, ∀ sub,
      s.subscription id = some sub → sub.merchant = oldMerchant → sub.usageEnabled = false)
    (hs : s.LimitedUnder limits) : t.LimitedUnder limits := by
  intro id new hnew
  have hrecord : t.subscription id = if id ∈ s.merchantSubs oldMerchant then
      (s.subscription id).map (·.rehomed oldMerchant newMerchant) else s.subscription id :=
    congrFun (congrArg Book.record hbook) id
  rw [hrecord] at hnew
  split at hnew
  · rename_i hlisted
    obtain ⟨sub, hsub, rfl⟩ := Option.map_eq_some_iff.mp hnew
    unfold Subscription.rehomed
    split
    · rename_i hmerchant
      rcases hkeeps with rfl | hunused
      · exact (hs id sub hsub).of_same hmerchant.symm rfl
      · intro henabled
        rw [show sub.usageEnabled = false from hunused id hlisted sub hsub hmerchant] at henabled
        cases henabled
    · exact hs id sub hsub
  · exact hs id new hnew

theorem Book.restored_limitedUnder {summaries : List SubscriptionSummary}
    (hrecord : t.book.record = (s.book.restored summaries).record)
    (hkeeps : ∀ summary ∈ summaries, summary.record.LimitedBy (limits summary.subscriptionId))
    (hs : s.LimitedUnder limits) : t.LimitedUnder limits := by
  intro id new hnew
  have hnew : (s.book.restored summaries).record id = some new := hrecord ▸ hnew
  rcases s.book.restored_record summaries id with hkept | ⟨summary, hmem, rfl, hrestored⟩
  · exact hs id new (hkept.symm.trans hnew)
  · obtain rfl := Option.some.inj (hrestored.symm.trans hnew)
    exact hkeeps summary hmem

end Records

/-! ## Transactions -/

section Transactions

variable {env : Env} {s t start : State} {l : Transaction} {id : Nat} {limits : UsageLimits}
  {hist : History Transaction State} {u : Unit}

/-- A merchant configures limits for a subscription of its own or for the next one. -/
theorem doConfigureUsageLimits_spec
    (hrun : (doConfigureUsageLimits id limits).run env s = .ok u t) :
    t = s.write (.instanced (.usageLimits id)) limits ∧ env.authorized limits.merchant = true ∧
      (∀ sub, s.subscription id = some sub → sub.merchant = limits.merchant) ∧
      (s.subscription id = none → id = s.nextSubscriptionId) := by
  obtain ⟨_, hauth, hrun⟩ := run_check_ok (Modifies.requireAuth _) hrun
  obtain ⟨_, hown, hrun⟩ := run_check_ok (requireOwnUsageSubscription_keeps _ _) hrun
  obtain ⟨_, -, hrun⟩ := run_check_ok (.failIf _ _) hrun
  obtain rfl := run_store_ok.mp hrun
  simp only [requireOwnUsageSubscription, run_bind_ok, run_ask_ok, run_gets_ok,
    run_failIf_ok] at hown
  obtain ⟨_, _, ⟨rfl, rfl⟩, _, _, ⟨rfl, rfl⟩, _, _, ⟨rfl, rfl⟩, _, _, ⟨hknown, rfl⟩, _, _,
    ⟨howner, rfl⟩, -⟩ := hown
  refine ⟨rfl, (run_requireAuth_ok.mp hauth).1.1, fun sub hsub => ?_, fun hnone => ?_⟩
  · rw [State.effectiveSubscription, hsub] at howner
    simp only [Option.map_some, Option.any_some, decide_eq_true_eq, not_not] at howner
    split at howner <;> exact howner
  · rw [State.effectiveSubscription, hnone] at hknown
    by_contra hother
    exact hknown ⟨rfl, hother⟩

theorem Transacts.limitedUnder (h : Transacts l s t) (hkeeps : l.KeepsLimits s)
    (hconfigures : ∀ env call, l = .call env call → call.configures = none)
    (hs : s.LimitedUnder s.usageLimits) : t.LimitedUnder s.usageLimits := by
  cases h with
  | @other env _ _ hagree =>
    have hstep : VaultStep (.other env) s t := .other (hagree.mono (areas_subset_unbooked rfl))
    exact hstep.limitedUnder rfl hs
  | @call env call _ _ hrun =>
    have hnone := hconfigures env call rfl
    by_cases hbulk : call.isBulk = true
    · refine invariant_of_worked (I := fun v => v.LimitedUnder s.usageLimits)
        (Q := fun action => action.operation.keepsOwner = true) (VaultCall.worked hbulk hrun)
        (fun _ _ _ hstep hop => hstep.limitedUnder hop) rfl (fun item _ => ?_) hs
      cases item <;> rfl
    have hsingle := Bool.eq_false_iff.mpr hbulk
    have hstep : VaultStep (.call env call) s t := .call hsingle hrun
    have hcreation (creation : Creation) (hcall : call = creation.call) :
        t.LimitedUnder s.usageLimits := by
      subst hcall
      rw [Creation.call_exec] at hrun
      obtain ⟨created, hcreate⟩ := run_effectOf_ok.mp hrun
      exact Creation.limitedUnder hcreate hkeeps hs
    cases call
    case createSubscription new => exact hcreation (.direct new) rfl
    case createSubscriptionWithToken new => exact hcreation (.withToken new) rfl
    case createSubscriptionWithSplit new entries => exact hcreation (.withSplit new entries) rfl
    case createSubscriptionFromPlan subscriber planId label =>
      exact hcreation (.fromPlan subscriber planId label) rfl
    case migrateSubscriptionToPlan => exact doMigrateSubscriptionToPlan_limitedUnder hrun hs
    case rotateMerchantAddress =>
      exact Book.rotated_limitedUnder (doRotateMerchantAddress_book hrun) hkeeps hs
    case restoreSnapshotPage =>
      refine Book.restored_limitedUnder ?_ hkeeps hs
      rw [(restoreSnapshotPage_book hrun).1]
    all_goals exact hstep.limitedUnder rfl hs

theorem Transacts.limitsOwned (h : Transacts l s t) (hkeeps : l.KeepsLimits s)
    (hs : s.LimitsOwned hist) : t.LimitsOwned ((l, s) :: hist) := by
  by_cases hconfigures : ∀ env call, l = .call env call → call.configures = none
  · have hlimits : t.usageLimits = s.usageLimits := by
      cases h with
      | call hrun =>
        exact State.usageLimits_of_agreeOff (limits_kept_of_call (hconfigures _ _ rfl) hrun)
      | other hagree =>
        exact State.usageLimits_of_agreeOff
          (hagree.mono ((areas_subset_usageFree rfl).trans usageFree_subset_limitFree))
    refine ⟨hlimits ▸ h.limitedUnder hkeeps hconfigures hs.limited, fun id limits hfound => ?_⟩
    rw [hlimits] at hfound
    obtain ⟨step, hmem, hstep⟩ := hs.configured id limits hfound
    exact ⟨step, List.mem_cons_of_mem _ hmem, hstep⟩
  · simp only [not_forall] at hconfigures
    obtain ⟨env, call, rfl, hsome⟩ := hconfigures
    cases h with
    | call hrun =>
    cases call
    case configureUsageLimits id limits =>
      obtain ⟨rfl, hsigned, howner, -⟩ := doConfigureUsageLimits_spec hrun
      have hrecords (j : Nat) : State.subscription
          (s.write (.instanced (.usageLimits id)) limits) j = s.subscription j :=
        FiniteStore.read_write_of_ne s limits (by simp)
      have hself : State.usageLimits (s.write (.instanced (.usageLimits id)) limits) id =
          some limits := FiniteStore.read_write_self _ _
      have hother {j : Nat} (hj : j ≠ id) : State.usageLimits
          (s.write (.instanced (.usageLimits id)) limits) j = s.usageLimits j :=
        FiniteStore.read_write_of_ne s limits (by simpa using hj)
      refine ⟨fun j sub hsub => ?_, fun j found hfound => ?_⟩
      · rw [hrecords] at hsub
        by_cases hj : j = id
        · subst hj
          exact fun _ => ⟨limits, hself, (howner sub hsub).symm⟩
        · rw [hother hj]
          exact hs.limited j sub hsub
      · by_cases hj : j = id
        · subst hj
          obtain rfl := Option.some.inj (hself.symm.trans hfound)
          exact ⟨_, List.mem_cons_self, rfl, rfl, hsigned⟩
        · rw [hother hj] at hfound
          obtain ⟨step, hmem, hstep⟩ := hs.configured j found hfound
          exact ⟨step, List.mem_cons_of_mem _ hmem, hstep⟩
    all_goals exact absurd rfl hsome

theorem limitsOwned_of_run (hdeployed : Deployed start) (hrun : Run Transacts start hist s)
    (hkeeps : ∀ step ∈ hist, step.1.KeepsLimits step.2) : s.LimitsOwned hist := by
  induction hrun with
  | start =>
    have hnone (id : Nat) : start.usageLimits id = none :=
      State.read_of_areas (k := .instanced (.usageLimits id)) hdeployed.areas rfl
    refine ⟨fun id sub hsub => ?_, fun id limits hfound => ?_⟩
    · have hblank : start.book.record id = some sub := hsub
      rw [hdeployed.book] at hblank
      cases hblank
    · rw [hnone] at hfound
      cases hfound
  | next _ hlast ih =>
    exact hlast.limitsOwned (hkeeps _ List.mem_cons_self)
      (ih fun step hmem => hkeeps step (List.mem_cons_of_mem _ hmem))

end Transactions

/-! ## Creations without usage -/

/-- The states differ at most in what usage is counted with. -/
abbrev SameButUsage : State → State → Prop := FiniteStore.AgreeOff (areas [.usage])

namespace SameButUsage

section Reads

variable {s w : State} (h : SameButUsage s w)

include h

theorem book : w.book = s.book := State.book_of_unbooked (h.mono (areas_subset_unbooked rfl))

theorem nextId : w.nextSubscriptionId = s.nextSubscriptionId := congrArg Book.nextId (book h)

theorem config {α : Type} (key : DataKey) [Holds DataKey.Val key α]
    (hp : [Area.usage].contains (Slot.persistent key).area = false)
    (hi : [Area.usage].contains (Slot.instanced key).area = false) :
    (w.config key : Option α) = s.config key :=
  State.config_of_areas h (congrArg Book.schemaVersion (book h)) hp hi

theorem isBlocklisted (a : Address) : w.isBlocklisted a = s.isBlocklisted a := by
  rw [State.isBlocklisted, State.isBlocklisted, State.read_of_areas (k := .persistent _) h rfl]

end Reads

end SameButUsage

section Unused

variable {α : Type}

/-- The code ends alike whatever usage is counted with. -/
abbrev IgnoresUsage (x : Vault α) : Prop := x.Respects SameButUsage

namespace IgnoresUsage

theorem store {k : Slot} [Holds Slot.Val k α] (v : α) : IgnoresUsage (store k v) :=
  respects_store v

theorem requireAuth (a : Address) : IgnoresUsage (requireAuth a) :=
  .bind .ask fun _ => .require _

theorem requireNotBlocklisted (a : Address) : IgnoresUsage (requireNotBlocklisted a) :=
  .bind_state (fun _ _ h => by rw [SameButUsage.isBlocklisted h]) fun _ => .failIf _ _

theorem requireNotEmergencyStop : IgnoresUsage requireNotEmergencyStop :=
  .bind_state (fun _ _ h => by
    rw [State.emergencyStop, State.emergencyStop, SameButUsage.config h .emergencyStop rfl rfl])
    fun _ => .failIf _ _

theorem enforceCreationRateLimit (subscriber : Address) :
    IgnoresUsage (enforceCreationRateLimit subscriber) :=
  .bind .ask fun _ => .bind (.gets fun _ _ h => SameButUsage.config h .admin rfl rfl) fun _ =>
    .when <| .bind (.gets fun _ _ h => State.read_of_areas h rfl) fun _ =>
    .bind (.failIf _ _) fun _ => .bind (.gets fun _ _ h => State.read_of_areas h rfl) fun _ =>
    .bind (.failIf _ _) fun _ => store _

theorem enforceSubscriptionCounts (subscriber merchant : Address) :
    IgnoresUsage (enforceSubscriptionCounts subscriber merchant) := by
  have hread {β : Type} {k : Slot} [Holds Slot.Val k β] (hk : [Area.usage].contains k.area = false)
      {s w : State} (h : SameButUsage s w) : (w.read k : Option β) = s.read k :=
    State.read_of_areas h hk
  refine .bind (.gets fun s w h => ?_) fun _ => .bind (.gets fun s w h => ?_) fun _ =>
    .bind (.failIf _ _) fun _ => .bind (.gets fun s w h => ?_) fun _ =>
    .bind (.gets fun s w h => ?_) fun _ => .failIf _ _
  · rw [State.merchantSubs, State.merchantSubs, hread (k := .instanced _) rfl h]
  · rw [State.merchantMaxSubs, State.merchantMaxSubs, hread (k := .instanced _) rfl h]
  · rw [State.subscriberActiveCount, State.subscriberActiveCount,
      hread (k := .instanced _) rfl h]
  · rw [State.subscriberActiveCap, State.subscriberActiveCap, hread (k := .instanced _) rfl h]

theorem enforceCreditLimitForDelta (subscriber token : Address) (additional : Int) :
    IgnoresUsage (enforceCreditLimitForDelta subscriber token additional) :=
  .bind (.gets fun _ _ h => by
    rw [State.creditLimitForDelta_of_areas h (areas_subset_unbooked rfl) rfl]) fun _ => .lift _

theorem nextSubscriptionId :
    IgnoresUsage (gets (·.nextSubscriptionId) : Vault Nat) :=
  .gets fun _ _ h => SameButUsage.nextId h

theorem resolveCap (merchant : Address) (explicit : Option Int) :
    IgnoresUsage (gets (·.resolveCap merchant explicit) : Vault (Option Int)) :=
  .gets fun _ _ h => by rw [State.resolveCap_of_areas h rfl]

theorem isTokenAccepted (token : Address) :
    IgnoresUsage (gets (·.isTokenAccepted token) : Vault Bool) :=
  .gets fun _ _ h => by
    rw [State.isTokenAccepted, State.isTokenAccepted, State.read_of_areas (k := .instanced _) h rfl]

theorem writeConfig (key : DataKey) [Holds DataKey.Val key α] (v : α) :
    IgnoresUsage (writeConfig key v) := by
  refine .update fun s w h => ?_
  have hversion : w.schemaVersion = s.schemaVersion :=
    congrArg Book.schemaVersion (SameButUsage.book h)
  rw [State.writeConfig, State.writeConfig, hversion]
  split
  · exact (h.replace _ _).replace _ _
  · exact h.replace _ _

theorem validateExpiry (expiresAt expiresAtLedger : Option Nat) :
    IgnoresUsage (validateExpiry expiresAt expiresAtLedger) :=
  .bind .ask fun _ => .bind (.failIf _ _) fun _ => .failIf _ _

theorem validateCap (cap : Option Int) (amount : Int) : IgnoresUsage (validateCap cap amount) :=
  .bind (.failIf _ _) fun _ => .failIf _ _

theorem incrementSubscriberActiveCount (subscriber : Address) :
    IgnoresUsage (incrementSubscriberActiveCount subscriber) :=
  .bind (.gets fun s w h => by
    rw [State.subscriberActiveCount, State.subscriberActiveCount,
      State.read_of_areas (k := .instanced _) h rfl]) fun _ => store _

theorem indexSubscription (id : Nat) (sub : Subscription) :
    IgnoresUsage (indexSubscription id sub) :=
  .bind (respects_pushIndex (by simp [areas, Slot.area, DataKey.area]) id) fun _ =>
    .bind (respects_pushIndex (by simp [areas, Slot.area, DataKey.area]) id) fun _ =>
      respects_pushIndex (by simp [areas, Slot.area, DataKey.area]) id

theorem doCreateSubscriptionWithToken {new : NewSubscription} (husage : new.usageEnabled = false) :
    IgnoresUsage (doCreateSubscriptionWithToken new) := by
  have hskipped (id : Nat) :
      when (new.usageEnabled = true) (requireUsageLimits id new.merchant) = pure () :=
    if_neg (by rw [husage]; nofun)
  refine .bind .ask fun env => .bind (requireAuth _) fun _ => .bind (.failIf _ _) fun _ => ?_
  refine .bind (requireNotBlocklisted _) fun _ => .bind (requireNotBlocklisted _) fun _ => ?_
  refine .bind (enforceCreationRateLimit _) fun _ => ?_
  refine .bind (enforceSubscriptionCounts _ _) fun _ => ?_
  refine .bind (.failIf _ _) fun _ => .bind (validateExpiry _ _) fun _ => ?_
  refine .bind (isTokenAccepted _) fun _ => .bind (.failIf _ _) fun _ => ?_
  refine .bind (resolveCap _ _) fun cap => .bind (validateCap _ _) fun _ => ?_
  refine .bind (enforceCreditLimitForDelta _ _ _) fun _ => .bind nextSubscriptionId fun id => ?_
  rw [hskipped]
  refine .bind (.pure _) fun _ => .bind (.failIf _ _) fun _ => .bind (writeConfig _ _) fun _ => ?_
  refine .bind (store _) fun _ => .bind (incrementSubscriberActiveCount _) fun _ => ?_
  exact .bind (indexSubscription _ _) fun _ => .bind (.bind .ask fun _ => store _) fun _ => .pure _

theorem doCreateSubscription {new : NewSubscription} (husage : new.usageEnabled = false) :
    IgnoresUsage (doCreateSubscription new) :=
  .bind (.failIf _ _) fun _ => .bind (.gets fun _ _ h => by
    rw [State.defaultToken, State.defaultToken, SameButUsage.config h .token rfl rfl]) fun _ =>
    .bind (.lift _) fun _ => .bind (enforceCreditLimitForDelta _ _ _) fun _ =>
    doCreateSubscriptionWithToken husage

theorem checkSplitEntries (entries : List (Address × Nat)) (total : Nat) :
    IgnoresUsage (checkSplitEntries entries total) := by
  induction entries generalizing total with
  | nil => exact .pure _
  | cons entry entries ih =>
    exact .bind (.failIf _ _) fun _ => .bind (.okOr _ _) fun _ =>
      .bind (requireNotBlocklisted _) fun _ => ih _

theorem createSubscriptionWithSplit {new : NewSubscription} (husage : new.usageEnabled = false)
    (entries : List (Address × Nat)) : IgnoresUsage (createSubscriptionWithSplit new entries) :=
  .bind (.bind (.failIf _ _) fun _ => .bind (checkSplitEntries _ _) fun _ => .failIf _ _) fun _ =>
    .bind (doCreateSubscription husage) fun _ => .bind (.lift _) fun _ => .bind (store _) fun _ =>
    .pure _

theorem doCreateSubscriptionFromPlan (subscriber : Address) (planId : Nat)
    (label : Option Symbol) :
    IgnoresUsage (doCreateSubscriptionFromPlan subscriber planId label) := by
  have hlimit : IgnoresUsage (enforcePlanConcurrencyLimit subscriber planId) := by
    refine .bind (.gets fun _ _ h => State.read_of_areas h rfl) fun _ => .when <|
      .bind (.gets fun s w h => ?_) fun _ => .bind (.lift _) fun _ => .failIf _ _
    have hrecords : w.subscription = s.subscription := congrArg Book.record (SameButUsage.book h)
    have hlinks (id : Nat) :
        w.read (.instanced (.subPlan id)) = s.read (.instanced (.subPlan id)) :=
      State.read_of_areas (k := .instanced (.subPlan id)) h rfl
    unfold State.countActiveSubscriptionsForPlan
    simp only [hrecords, SameButUsage.nextId h, hlinks]
  refine .bind .ask fun env => .bind (requireAuth _) fun _ =>
    .bind (requireNotBlocklisted _) fun _ => .bind (enforceCreationRateLimit _) fun _ => ?_
  refine .bind (.gets fun _ _ h => State.read_of_areas (k := .instanced (.plan planId)) h rfl)
    fun _ => .bind (.okOr _ _) fun plan => .bind (.failIf _ _) fun _ => ?_
  refine .bind (.failIf _ _) fun _ => .bind (enforceSubscriptionCounts _ _) fun _ => ?_
  refine .bind (enforceCreditLimitForDelta _ _ _) fun _ => .bind hlimit fun _ => ?_
  refine .bind nextSubscriptionId fun id => .bind (.okOr _ _) fun _ => ?_
  refine .bind (writeConfig _ _) fun _ => .bind (resolveCap _ _) fun cap => ?_
  refine .bind (store _) fun _ => .bind (incrementSubscriberActiveCount _) fun _ => ?_
  exact .bind (store _) fun _ => .bind (indexSubscription _ _) fun _ => .pure _

theorem stoppableCall {body : Vault α} (h : IgnoresUsage body) :
    IgnoresUsage (stoppableCall body) :=
  .bind requireNotEmergencyStop fun _ => h

end IgnoresUsage

end Unused

/-! ## Preparing for others -/

/-- The creation asks for charges by usage. -/
def Creation.usesUsage (s : State) : Creation → Bool
  | .direct new | .withToken new | .withSplit new _ => new.usageEnabled
  | .fromPlan _ planId _ => (s.planTemplate planId).any (·.usageEnabled)

section Creations

variable {env : Env} {s t start : State} {creation : Creation} {created : Nat}

theorem Creation.usage_of_ok (hrun : creation.exec.run env s = .ok created t) :
    ∃ sub, t.subscription created = some sub ∧ sub.usageEnabled = creation.usesUsage s := by
  have hstored {sub : Subscription} (h : Installs s t created sub) :
      t.subscription created = some sub := by
    rw [h.record, Function.update_self]
  cases creation with
  | direct new =>
    obtain ⟨_, -, hrun⟩ := run_check_ok Modifies.requireNotEmergencyStop hrun
    obtain ⟨sub, hinstalls, -, -, -, husage, -⟩ := doCreateSubscription_installs hrun
    exact ⟨sub, hstored hinstalls, husage⟩
  | withToken new =>
    obtain ⟨_, -, hrun⟩ := run_check_ok Modifies.requireNotEmergencyStop hrun
    obtain ⟨sub, hinstalls, -, -, -, husage, -⟩ := doCreateSubscriptionWithToken_installs hrun
    exact ⟨sub, hstored hinstalls, husage⟩
  | withSplit new entries =>
    obtain ⟨_, -, hrun⟩ := run_check_ok Modifies.requireNotEmergencyStop hrun
    obtain ⟨⟨sub, hinstalls, -, -, -, husage, -⟩, -⟩ := createSubscriptionWithSplit_installs hrun
    exact ⟨sub, hstored hinstalls, husage⟩
  | fromPlan subscriber planId label =>
    obtain ⟨_, -, hrun⟩ := run_check_ok Modifies.requireNotEmergencyStop hrun
    obtain ⟨plan, sub, hplan, hinstalls, -, -, -, -, husage, -⟩ :=
      doCreateSubscriptionFromPlan_installs hrun
    refine ⟨sub, hstored hinstalls, ?_⟩
    simp only [Creation.usesUsage, hplan, Option.any_some, husage]

/-- A creation that asks for usage names the merchant that prepared the limits, or that of an
open plan. -/
theorem Creation.usage_merchant (hrun : creation.exec.run env s = .ok created t)
    (husage : creation.usesUsage s = true) :
    (∃ limits, s.usageLimits created = some limits ∧
      creation.merchant s = some limits.merchant) ∨
    ∃ planId plan, s.planTemplate planId = some plan ∧ plan.isDisabled = false ∧
      plan.usageEnabled = true ∧ creation.merchant s = some plan.merchant := by
  have hprepared {sub : Subscription} (hlimited : sub.LimitedBy (s.usageLimits created))
      (henabled : sub.usageEnabled = true) (hmerchant : creation.merchant s = some sub.merchant) :
      ∃ limits, s.usageLimits created = some limits ∧
        creation.merchant s = some limits.merchant := by
    obtain ⟨limits, hfound, howner⟩ := hlimited henabled
    exact ⟨limits, hfound, howner ▸ hmerchant⟩
  cases creation with
  | direct new =>
    obtain ⟨_, -, hrun⟩ := run_check_ok Modifies.requireNotEmergencyStop hrun
    obtain ⟨sub, -, -, hmerchant, -, henabled, hlimited⟩ := doCreateSubscription_installs hrun
    exact .inl (hprepared hlimited (henabled.trans husage) (congrArg some hmerchant.symm))
  | withToken new =>
    obtain ⟨_, -, hrun⟩ := run_check_ok Modifies.requireNotEmergencyStop hrun
    obtain ⟨sub, -, -, hmerchant, -, henabled, hlimited⟩ :=
      doCreateSubscriptionWithToken_installs hrun
    exact .inl (hprepared hlimited (henabled.trans husage) (congrArg some hmerchant.symm))
  | withSplit new entries =>
    obtain ⟨_, -, hrun⟩ := run_check_ok Modifies.requireNotEmergencyStop hrun
    obtain ⟨⟨sub, -, -, hmerchant, -, henabled, hlimited⟩, -⟩ :=
      createSubscriptionWithSplit_installs hrun
    exact .inl (hprepared hlimited (henabled.trans husage) (congrArg some hmerchant.symm))
  | fromPlan subscriber planId label =>
    obtain ⟨_, -, hrun⟩ := run_check_ok Modifies.requireNotEmergencyStop hrun
    obtain ⟨plan, sub, hplan, -, -, -, -, -, -, hopen⟩ :=
      doCreateSubscriptionFromPlan_installs hrun
    simp only [Creation.usesUsage, hplan, Option.any_some] at husage
    refine .inr ⟨planId, plan, hplan, hopen, husage, ?_⟩
    simp only [Creation.merchant, hplan, Option.map_some]

/-- No creation from a plan looks at the limits, and no direct one that asks for no usage. -/
theorem Creation.ignoresUsage (hunused : creation.usesUsage s = false) :
    IgnoresUsage creation.exec := by
  cases creation with
  | direct new => exact .stoppableCall (.doCreateSubscription hunused)
  | withToken new => exact .stoppableCall (.doCreateSubscriptionWithToken hunused)
  | withSplit new entries => exact .stoppableCall (.createSubscriptionWithSplit hunused entries)
  | fromPlan subscriber planId label =>
    exact .stoppableCall (.doCreateSubscriptionFromPlan subscriber planId label)

theorem Creation.usesUsage_of_same (h : SameButUsage s t) :
    creation.usesUsage t = creation.usesUsage s := by
  cases creation with
  | direct | withToken | withSplit => rfl
  | fromPlan subscriber planId label =>
    have hplan : t.planTemplate planId = s.planTemplate planId :=
      State.read_of_areas (k := .instanced (.plan planId)) h rfl
    simp only [Creation.usesUsage, hplan]

variable {id : Nat} {limits : UsageLimits} {u : Unit}

theorem creationsSpared_of_configure
    (hrun : (doConfigureUsageLimits id limits).run env s = .ok u t)
    (hkeeps : (Transaction.call env (.configureUsageLimits id limits)).KeepsLimits s)
    (hnone : s.subscription id = none) : CreationsSpared s t limits.merchant := by
  obtain ⟨rfl, -, -, hnext⟩ := doConfigureUsageLimits_spec hrun
  obtain ⟨hearlier, hplans⟩ := hkeeps hnone
  intro env' creation m hmerchant hother created v hcreate
  have hsame : SameButUsage s (s.write (.instanced (.usageLimits id)) limits) :=
    s.agreeOff_write limits rfl
  cases husage : creation.usesUsage s with
  | false =>
    have hmatches := (Creation.ignoresUsage husage) env' _ _ hsame
    rw [hcreate] at hmatches
    obtain ⟨w, hw, -⟩ := hmatches.of_ok
    refine ⟨w, hw, fun sub hsub henabled => ?_⟩
    obtain ⟨new, hnew, hunused⟩ := Creation.usage_of_ok hw
    obtain rfl := Option.some.inj (hnew.symm.trans hsub)
    rw [hunused, Creation.usesUsage_of_same hsame, husage] at henabled
    cases henabled
  | true =>
    obtain ⟨-, -, htakes⟩ := Creation.installs hcreate
    have hid : created = id := htakes.taken.trans (hnext hnone).symm
    subst hid
    rcases Creation.usage_merchant hcreate husage with ⟨found, hfound, hnamed⟩ |
      ⟨planId, plan, hplan, hopen, henabled, hnamed⟩
    · have howner := Option.some.inj (hmerchant.symm.trans hnamed)
      exact absurd (howner.trans (hearlier found hfound)) hother
    · have howner := Option.some.inj (hmerchant.symm.trans hnamed)
      exact absurd (howner.trans (hplans planId plan hplan hopen henabled)) hother

/-- Where limits are prepared by the merchants that need them, everybody is charged for usage
within limits of the own merchant, and nobody spoils the creation of another. -/
theorem usage_limits_owned_of_run {hist : History Transaction State} (hdeployed : Deployed start)
    (hrun : Run Transacts start hist s) (hkeeps : ∀ step ∈ hist, step.1.KeepsLimits step.2) :
    s.LimitsOwned hist ∧ ∀ env id limits v w,
      (.call env (.configureUsageLimits id limits), v, w) ∈ transitions hist s →
      v.subscription id = none → CreationsSpared v w limits.merchant := by
  refine ⟨limitsOwned_of_run hdeployed hrun hkeeps, fun env id limits v w hmem hnone => ?_⟩
  obtain ⟨-, -, -, hstep⟩ := hrun.before_transition hmem
  cases hstep with
  | call hcall =>
    exact creationsSpared_of_configure hcall (hkeeps _ (mem_of_mem_transitions hmem)) hnone

end Creations

/-! ## Sample limits -/

private def limitsOf (merchant : Address) : UsageLimits := ⟨merchant, none, 0, 0, none⟩

private def preparedUsage : List (Env × VaultCall) :=
  [(sampleEnv 0 [⟨2⟩], .createSubscription { sampleRequest with usageEnabled := true }),
   (sampleEnv 0 [⟨1⟩], .configureUsageLimits 0 (limitsOf ⟨1⟩))]

private theorem sample_unplanned (planId : Nat) :
    State.planTemplate (afterCalls (sampleVault 0)) planId = none := by
  have hstart : (sampleStart 0).planTemplate planId = none :=
    State.read_of_areas (k := .instanced (.plan planId)) (sample_deployed 0).areas rfl
  rw [← hstart]
  exact State.read_of_areas (k := .instanced (.plan planId)) (sample_areas 0) rfl

/-- The merchant prepares limits, and the subscription created next is charged within them. -/
theorem prepared_usage_owned : ∃ (s : State) (hist : History Transaction State)
    (sub : Subscription), s.LimitsOwned hist ∧ s.subscription 0 = some sub ∧
      sub.usageEnabled = true ∧
      ∃ v w, (.call (sampleEnv 0 [⟨1⟩]) (.configureUsageLimits 0 (limitsOf ⟨1⟩)), v, w) ∈
        transitions hist s ∧ CreationsSpared v w ⟨1⟩ := by
  have hrun := run_transactions (sample_transacted 0)
    (show allSucceed (afterCalls (sampleVault 0)) preparedUsage = true by decide +kernel)
  have hfacts : ((stateAfter (afterCalls (sampleVault 0)) preparedUsage).subscription 0).map
      (·.usageEnabled) = some true := by
    decide +kernel
  obtain ⟨sub, hsub, husage⟩ := Option.map_eq_some_iff.mp hfacts
  have howned := usage_limits_owned_of_run (sample_deployed 0) hrun (by
    intro step hmem
    simp only [preparedUsage, transactionHistory, List.cons_append, List.nil_append,
      List.mem_cons, List.not_mem_nil, or_false] at hmem
    rcases hmem with rfl | rfl | rfl
    · trivial
    · refine fun _ => ⟨fun earlier hearlier => ?_, fun planId plan hplan => ?_⟩
      · have hnone : State.usageLimits (afterCalls (sampleVault 0)) 0 = none := by decide +kernel
        cases hnone.symm.trans hearlier
      · cases (sample_unplanned planId).symm.trans hplan
    · trivial)
  exact ⟨_, _, sub, howned.1, hsub, husage, _, _, List.mem_cons_of_mem _ List.mem_cons_self,
    howned.2 _ _ _ _ _ (List.mem_cons_of_mem _ List.mem_cons_self) (by decide +kernel)⟩

/-- A merchant with a plan for usage. -/
private def usagePlan : List (Env × Vault Unit) :=
  (sampleEnv 0 [⟨1⟩], effectOf (doCreatePlanTemplate ⟨1⟩ 10 60 true none)) :: sampleVault 0

private theorem usagePlan_run : Run Transacts (sampleStart 0)
    [(.other (sampleEnv 0 []), sampleStart 0)] (afterCalls usagePlan) :=
  Run.start.next (.other (((sample_areas 0).mono (areas_mono rfl)).trans
    (((doCreatePlanTemplate_areas ⟨1⟩ 10 60 true none).effectOf.after (sampleEnv 0 [⟨1⟩])
      (afterCalls (sampleVault 0))).mono (areas_mono rfl))))

/-- The merchant prepares the next subscription, and a stranger writes other limits over it. -/
private def overwrittenLimits : List (Env × VaultCall) :=
  [(sampleEnv 1 [⟨5⟩], .configureUsageLimits 0 (limitsOf ⟨5⟩)),
   (sampleEnv 0 [⟨1⟩], .configureUsageLimits 0 (limitsOf ⟨1⟩))]

/-- A stranger's limits make the merchant's next direct creation fail, and the next one from the
merchant's plan takes them. -/
theorem stranger_limits_spoil_creation : ∃ (start u v s : State)
    (hist later : History Transaction State) (sub : Subscription), Deployed start ∧
      Run Transacts start ((.call (sampleEnv 1 [⟨5⟩])
        (.configureUsageLimits 0 (limitsOf ⟨5⟩)), u) :: hist) v ∧ u.subscription 0 = none ∧
      ¬CreationsSpared u v ⟨5⟩ ∧ Run Transacts start later s ∧ s.subscription 0 = some sub ∧
      sub.usageEnabled = true ∧ sub.merchant = ⟨1⟩ ∧ s.usageLimits 0 = some (limitsOf ⟨5⟩) ∧
      ¬s.LimitsOwned later := by
  let u := stateAfter (afterCalls usagePlan) overwrittenLimits.tail
  let v := stateAfter (afterCalls usagePlan) overwrittenLimits
  let creation := Creation.direct { sampleRequest with usageEnabled := true }
  let taken := (sampleEnv 2 [⟨2⟩], VaultCall.createSubscriptionFromPlan ⟨2⟩ 0 none) ::
    overwrittenLimits
  have hrun := run_transactions usagePlan_run
    (show allSucceed (afterCalls usagePlan) overwrittenLimits = true by decide +kernel)
  have hlater := run_transactions usagePlan_run
    (show allSucceed (afterCalls usagePlan) taken = true by decide +kernel)
  have hfacts : ((stateAfter (afterCalls usagePlan) taken).subscription 0).map
      (fun sub => (sub.usageEnabled, sub.merchant)) = some (true, ⟨1⟩) := by
    decide +kernel
  obtain ⟨sub, hsub, hparties⟩ := Option.map_eq_some_iff.mp hfacts
  obtain ⟨husage, hmerchant⟩ : sub.usageEnabled = true ∧ sub.merchant = ⟨1⟩ :=
    Prod.ext_iff.mp hparties
  have hlimits : (stateAfter (afterCalls usagePlan) taken).usageLimits 0 =
      some (limitsOf ⟨5⟩) := by
    decide +kernel
  refine ⟨sampleStart 0, u, v, _, _, _, sub, sample_deployed 0, hrun, by decide +kernel,
    fun hspared => ?_, hlater, hsub, husage, hmerchant, hlimits, fun howned => ?_⟩
  · obtain ⟨t, ht⟩ := run_of_returns
      (show creation.exec.returns (sampleEnv 2 [⟨2⟩]) u 0 = true by decide +kernel)
    obtain ⟨t', ht'⟩ := run_of_failsWith (show creation.exec.failsWith (sampleEnv 2 [⟨2⟩]) v
      .usageLimitsRequired = true by decide +kernel)
    obtain ⟨w, hw, -⟩ := hspared (sampleEnv 2 [⟨2⟩]) creation ⟨1⟩ rfl (by decide) 0 t ht
    cases ht'.symm.trans hw
  · obtain ⟨limits, hfound, howner⟩ := howned.limited 0 sub hsub husage
    obtain rfl := Option.some.inj (hlimits.symm.trans hfound)
    rw [hmerchant] at howner
    exact absurd howner (by decide)

end SubscriptionVault
