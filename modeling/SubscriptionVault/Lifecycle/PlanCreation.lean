import SubscriptionVault.Framework.Simulation
import SubscriptionVault.Lifecycle.ActiveCount
import SubscriptionVault.Lifecycle.PlanLimit

/-!
# Creating from a plan and creating directly

A subscription can be created from a plan or directly with what the plan says. The two share half
of their checks and most of their writes. Each has checks of its own, and only the direct creation
issues a credential.
-/

namespace SubscriptionVault

open Exec

/-- What both creations ask for. -/
structure SharedChecks (env : Env) (s : State) (subscriber : Address) (plan : PlanTemplate) :
    Prop where
  signed : env.authorized subscriber = true ∧ subscriber ≠ env.host.contract
  unlisted : s.isBlocklisted subscriber = false
  paced : ∃ w, (enforceCreationRateLimit subscriber).run env s = .ok () w
  merchantRoom : (s.merchantSubs plan.merchant).length < s.merchantMaxSubs plan.merchant
  subscriberRoom : s.subscriberActiveCount subscriber < s.subscriberActiveCap subscriber
  affordable : s.creditLimitForDelta subscriber plan.token plan.amount = .ok ()
  numberLeft : s.nextSubscriptionId + 1 ≤ u32Max

/-- What a creation from the plan asks of its amount. -/
def PlanTemplate.chargesAmount (plan : PlanTemplate) : Prop :=
  0 < plan.amount ∧ plan.amount ≤ maxSubscriptionAmount

/-- What only a direct creation asks for. -/
structure DirectChecks (s : State) (plan : PlanTemplate) : Prop where
  amount : 0 ≤ plan.amount ∧ (plan.amount = 0 → plan.usageEnabled = true) ∧
    plan.amount ≤ maxSubscriptionAmount
  merchantUnlisted : s.isBlocklisted plan.merchant = false
  interval : minSubscriptionInterval ≤ plan.intervalSeconds ∧
    plan.intervalSeconds ≤ maxSubscriptionInterval
  accepted : s.isTokenAccepted plan.token = true
  capped : ∀ cap, s.resolveCap plan.merchant plan.lifetimeCap = some cap →
    0 < cap ∧ plan.amount ≤ cap
  configured : plan.usageEnabled = true → ∃ limits,
    s.read (.instanced (.usageLimits s.nextSubscriptionId)) = some limits ∧
      limits.merchant = plan.merchant

/-- The badge a direct creation issues. -/
def State.Badged (s : State) (id now : Nat) : Prop :=
  s.read (.persistent (.credential id)) =
    some { subscriptionId := id, tier := 1, issuedAt := now, revoked := false }

/-- Creating from the plan agrees with creating directly. -/
structure PlanCreationAgrees (env : Env) (s : State) (subscriber : Address) (planId : Nat)
    (label : Option Symbol) (plan : PlanTemplate) : Prop where
  succeeds : (∃ id t, (doCreateSubscriptionFromPlan subscriber planId label).run env s =
      .ok id t) ↔
    plan.isDisabled = false ∧ s.PlanAllows subscriber planId ∧ ∃ id t,
      (doCreateSubscriptionWithToken (plan.subscription subscriber label)).run env s = .ok id t
  same : ∀ id t id' t',
    (doCreateSubscriptionFromPlan subscriber planId label).run env s = .ok id t →
    (doCreateSubscriptionWithToken (plan.subscription subscriber label)).run env s = .ok id' t' →
      id' = id ∧ FiniteStore.AgreeOff (areas [.planLinks]) t t'

/-! ## Reads after the creation was counted -/

/-- The checks after the creation was counted see what was there before. -/
structure SameChecks (s w : State) : Prop where
  next : w.nextSubscriptionId = s.nextSubscriptionId
  merchantSubs : w.merchantSubs = s.merchantSubs
  maxSubs : w.merchantMaxSubs = s.merchantMaxSubs
  activeCount : w.subscriberActiveCount = s.subscriberActiveCount
  activeCap : w.subscriberActiveCap = s.subscriberActiveCap
  credit : w.creditLimitForDelta = s.creditLimitForDelta
  accepted : w.isTokenAccepted = s.isTokenAccepted
  cap : w.resolveCap = s.resolveCap
  usageLimits : ∀ id, (w.read (.instanced (.usageLimits id)) : Option UsageLimits) =
    s.read (.instanced (.usageLimits id))
  template : w.planTemplate = s.planTemplate
  allows : w.PlanAllows = s.PlanAllows

theorem State.resolveCap_of_areas {s t : State} {l : List Area}
    (h : FiniteStore.AgreeOff (areas l) s t) (hl : l.contains .settings = false) :
    t.resolveCap = s.resolveCap := by
  funext merchant explicit
  unfold State.resolveCap
  rw [State.read_of_areas (k := .symbol (.merchCap merchant)) h hl,
    State.read_of_areas (k := .symbol .capDefault) h hl]

theorem SameChecks.of_window {s w : State}
    (h : FiniteStore.AgreeOff (areas [.createWindows]) s w) : SameChecks s w where
  next := congrArg Book.nextId (State.book_of_unbooked (h.mono (areas_subset_unbooked rfl)))
  merchantSubs := by
    funext merchant
    unfold State.merchantSubs
    rw [State.read_of_areas (k := .instanced (.merchantSubs merchant)) h rfl]
  maxSubs := by
    funext merchant
    unfold State.merchantMaxSubs
    rw [State.read_of_areas (k := .instanced (.merchantMaxSubs merchant)) h rfl]
  activeCount := by
    funext a
    unfold State.subscriberActiveCount
    rw [State.read_of_areas (k := .instanced (.subscriberActiveCount a)) h rfl]
  activeCap := by
    funext a
    unfold State.subscriberActiveCap
    rw [State.read_of_areas (k := .instanced (.subscriberActiveCapOverride a)) h rfl]
  credit := State.creditLimitForDelta_of_areas h (areas_subset_unbooked rfl) rfl
  accepted := by
    funext token
    unfold State.isTokenAccepted
    rw [State.read_of_areas (k := .instanced (.tokenDecimals token)) h rfl]
  cap := State.resolveCap_of_areas h rfl
  usageLimits id := State.read_of_areas h rfl
  template := funext fun planId => State.read_of_areas (k := .instanced (.plan planId)) h rfl
  allows := by
    funext subscriber planId
    exact propext ⟨fun hallows => hallows.of_window h,
      fun hallows => hallows.of_window fun k hk => (h k hk).symm⟩

/-! ## Checks of a run -/

section Checks

variable {env : Env} {s t : State} {subscriber merchant : Address} {planId id : Nat}
  {label : Option Symbol} {plan : PlanTemplate}

theorem run_enforcePlanConcurrencyLimit_of_allows (h : s.PlanAllows subscriber planId) :
    (enforcePlanConcurrencyLimit subscriber planId).run env s = .ok () s := by
  refine (run_bind_of_ok (run_load_ok.mpr ⟨rfl, rfl⟩)).trans ?_
  by_cases hlimited : s.planMaxActive planId = 0
  · exact run_when_ok.mpr (.inr ⟨not_not.mpr hlimited, rfl⟩)
  · obtain ⟨current, hcurrent, hroom⟩ := h hlimited
    refine run_when_ok.mpr (.inl ⟨hlimited, ?_⟩)
    refine (run_bind_of_ok (run_gets_ok.mpr ⟨rfl, rfl⟩)).trans ?_
    refine (run_bind_of_ok (run_lift_ok.mpr ⟨hcurrent, rfl⟩)).trans ?_
    exact run_failIf_ok.mpr ⟨Nat.not_le.mpr hroom, rfl⟩

theorem run_enforceCreditLimit_of_affordable {token : Address} {amount : Int}
    (h : s.creditLimitForDelta subscriber token amount = .ok ()) :
    (enforceCreditLimitForDelta subscriber token amount).run env s = .ok () s :=
  (run_bind_of_ok (run_gets_ok.mpr ⟨rfl, rfl⟩)).trans (run_lift_ok.mpr ⟨h, rfl⟩)

theorem run_validateCap_ok {cap : Option Int} {amount : Int} {u : Unit} :
    (validateCap cap amount).run env s = .ok u t ↔
      (∀ c, cap = some c → 0 < c ∧ amount ≤ c) ∧ s = t := by
  simp only [validateCap, run_bind_ok, run_failIf_ok]
  cases cap with
  | none => simp
  | some c =>
    simp only [Option.any_some, decide_eq_true_eq, Option.some.injEq, forall_eq']
    constructor
    · rintro ⟨_, _, ⟨hpositive, rfl⟩, henough, rfl⟩
      exact ⟨⟨Int.not_le.mp hpositive, Int.not_lt.mp henough⟩, rfl⟩
    · rintro ⟨⟨hpositive, henough⟩, rfl⟩
      exact ⟨(), _, ⟨Int.not_le.mpr hpositive, rfl⟩, Int.not_lt.mpr henough, rfl⟩

/-! ## What a success says -/

theorem fromPlan_checks (hplan : s.planTemplate planId = some plan)
    (hrun : (doCreateSubscriptionFromPlan subscriber planId label).run env s = .ok id t) :
    SharedChecks env s subscriber plan ∧ plan.chargesAmount ∧ plan.isDisabled = false ∧
      s.PlanAllows subscriber planId := by
  obtain ⟨ledger, hledger, hrun⟩ := run_check_ok .ask hrun
  obtain ⟨rfl, -⟩ := run_ask_ok.mp hledger
  obtain ⟨_, hsigned, hrun⟩ := run_check_ok (Modifies.requireAuth _) hrun
  obtain ⟨_, hunlisted, hrun⟩ := run_check_ok (Modifies.requireNotBlocklisted _) hrun
  obtain ⟨_, w, hpaced, hrun⟩ := run_bind_ok.mp hrun
  have hsame := SameChecks.of_window ((enforceCreationRateLimit_areas subscriber).ok hpaced)
  obtain ⟨found, hfound, hrun⟩ := run_check_ok (.gets _) hrun
  obtain ⟨plan', hplan', hrun⟩ := run_check_ok (.okOr _ _) hrun
  obtain rfl : plan = plan' := by
    have hread := (run_gets_ok.mp hfound).1.trans (run_okOr_ok.mp hplan').1
    rw [hsame.template, hplan] at hread
    exact Option.some.inj hread
  obtain ⟨_, hamount, hrun⟩ := run_check_ok (.failIf _ _) hrun
  obtain ⟨_, hopen, hrun⟩ := run_check_ok (.failIf _ _) hrun
  obtain ⟨_, hcounts, hrun⟩ := run_check_ok (Modifies.enforceSubscriptionCounts _ _) hrun
  obtain ⟨_, hcredit, hrun⟩ := run_check_ok (Modifies.enforceCreditLimitForDelta _ _ _) hrun
  obtain ⟨_, hallows, hrun⟩ := run_check_ok (Modifies.enforcePlanConcurrencyLimit _ _) hrun
  obtain ⟨number, hnumber, hrun⟩ := run_check_ok (.gets _) hrun
  obtain ⟨rfl, -⟩ := run_gets_ok.mp hnumber
  obtain ⟨next, hnext, -⟩ := run_check_ok (.okOr _ _) hrun
  obtain ⟨hmerchant, hsubscriber, -⟩ := run_enforceSubscriptionCounts_ok.mp hcounts
  refine ⟨?_, ?_, by simpa using (run_failIf_ok.mp hopen).1, ?_⟩
  · exact
      { signed := (run_requireAuth_ok.mp hsigned).1
        unlisted := (run_requireNotBlocklisted_ok.mp hunlisted).1
        paced := ⟨w, hpaced⟩
        merchantRoom := by rwa [hsame.merchantSubs, hsame.maxSubs] at hmerchant
        subscriberRoom := by rwa [hsame.activeCount, hsame.activeCap] at hsubscriber
        affordable := by
          rw [← hsame.credit]
          exact run_enforceCreditLimit_ok hcredit
        numberLeft := by
          have hfits := (run_okOr_ok.mp hnext).1
          rw [hsame.next] at hfits
          unfold checkedAddU32 at hfits
          split at hfits
          · assumption
          · cases hfits }
  · have hbounds := (run_failIf_ok.mp hamount).1
    unfold PlanTemplate.chargesAmount
    omega
  · rw [← hsame.allows]
    exact run_enforcePlanConcurrencyLimit_ok hallows

theorem direct_checks (hfits : s.nextSubscriptionId ≤ u32Max)
    (hrun : (doCreateSubscriptionWithToken (plan.subscription subscriber label)).run env s =
      .ok id t) :
    SharedChecks env s subscriber plan ∧ DirectChecks s plan := by
  obtain ⟨ledger, hledger, hrun⟩ := run_check_ok .ask hrun
  obtain ⟨rfl, -⟩ := run_ask_ok.mp hledger
  obtain ⟨_, hsigned, hrun⟩ := run_check_ok (Modifies.requireAuth _) hrun
  obtain ⟨_, hamount, hrun⟩ := run_check_ok (.failIf _ _) hrun
  obtain ⟨_, hunlisted, hrun⟩ := run_check_ok (Modifies.requireNotBlocklisted _) hrun
  obtain ⟨_, hmerchantUnlisted, hrun⟩ := run_check_ok (Modifies.requireNotBlocklisted _) hrun
  obtain ⟨_, w, hpaced, hrun⟩ := run_bind_ok.mp hrun
  have hsame := SameChecks.of_window ((enforceCreationRateLimit_areas _).ok hpaced)
  obtain ⟨_, hcounts, hrun⟩ := run_check_ok (Modifies.enforceSubscriptionCounts _ _) hrun
  obtain ⟨_, hinterval, hrun⟩ := run_check_ok (.failIf _ _) hrun
  obtain ⟨_, -, hrun⟩ := run_check_ok (Modifies.validateExpiry _ _) hrun
  obtain ⟨accepted, haccepted, hrun⟩ := run_check_ok (.gets _) hrun
  obtain ⟨rfl, -⟩ := run_gets_ok.mp haccepted
  obtain ⟨_, htoken, hrun⟩ := run_check_ok (.failIf _ _) hrun
  obtain ⟨cap, hcap, hrun⟩ := run_check_ok (.gets _) hrun
  obtain ⟨rfl, -⟩ := run_gets_ok.mp hcap
  obtain ⟨_, hcapped, hrun⟩ := run_check_ok (Modifies.validateCap _ _) hrun
  obtain ⟨_, hcredit, hrun⟩ := run_check_ok (Modifies.enforceCreditLimitForDelta _ _ _) hrun
  obtain ⟨number, hnumber, hrun⟩ := run_check_ok (.gets _) hrun
  obtain ⟨rfl, -⟩ := run_gets_ok.mp hnumber
  obtain ⟨_, hlimits, hrun⟩ := run_check_ok (.when (Modifies.requireUsageLimits _ _)) hrun
  obtain ⟨_, hlast, -⟩ := run_check_ok (.failIf _ _) hrun
  obtain ⟨hmerchant, hsubscriber, -⟩ := run_enforceSubscriptionCounts_ok.mp hcounts
  have hbounds := (run_failIf_ok.mp hamount).1
  have hlength := (run_failIf_ok.mp hinterval).1
  have hnext := (run_failIf_ok.mp hlast).1
  rw [hsame.merchantSubs, hsame.maxSubs] at hmerchant
  rw [hsame.activeCount, hsame.activeCap] at hsubscriber
  rw [hsame.next] at hnext
  constructor
  · exact
      { signed := (run_requireAuth_ok.mp hsigned).1
        unlisted := (run_requireNotBlocklisted_ok.mp hunlisted).1
        paced := ⟨w, hpaced⟩
        merchantRoom := hmerchant
        subscriberRoom := hsubscriber
        affordable := by
          rw [← hsame.credit]
          exact run_enforceCreditLimit_ok hcredit
        numberLeft := by omega }
  · simp only [PlanTemplate.subscription, not_or, not_and, Int.not_lt, Bool.not_eq_false] at hbounds
    simp only [PlanTemplate.subscription, not_or, Nat.not_lt] at hlength
    exact
      { amount := hbounds
        merchantUnlisted := (run_requireNotBlocklisted_ok.mp hmerchantUnlisted).1
        interval := hlength
        accepted := by
          rw [← hsame.accepted]
          exact Bool.eq_true_of_not_eq_false (run_failIf_ok.mp htoken).1
        capped := by
          rw [← hsame.cap]
          exact (run_validateCap_ok.mp hcapped).1
        configured := by
          intro husage
          rcases run_when_ok.mp hlimits with ⟨-, hread⟩ | ⟨hfixed, -⟩
          · obtain ⟨⟨limits, hread, howner⟩, -⟩ := run_requireUsageLimits_ok.mp hread
            rw [hsame.next, hsame.usageLimits] at hread
            exact ⟨limits, hread, howner⟩
          · exact absurd husage hfixed }

/-! ## Creating from the plan -/

/-- The writes of a creation from the plan. -/
def enrolOnPlan (id planId : Nat) (sub : Subscription) : Vault Nat := do
  writeConfig .nextId (id + 1)
  writeSubscription id sub
  incrementSubscriberActiveCount sub.subscriber
  store (.instanced (.subPlan id)) planId
  indexSubscription id sub
  pure id

/-- The writes of a direct creation. -/
def enrol (id : Nat) (sub : Subscription) : Vault Nat := do
  writeConfig .nextId (id + 1)
  writeSubscription id sub
  incrementSubscriberActiveCount sub.subscriber
  indexSubscription id sub
  issueCredential id
  pure id

/-- The record both creations write when the plan has no trial. -/
def State.planRecord (s : State) (plan : PlanTemplate) (subscriber : Address)
    (label : Option Symbol) (now : Nat) : Subscription :=
  (plan.subscription subscriber label).record (s.resolveCap plan.merchant plan.lifetimeCap) now now

theorem run_fromPlan {w : State} (label : Option Symbol)
    (hshared : SharedChecks env s subscriber plan)
    (hplan : s.planTemplate planId = some plan) (hamount : plan.chargesAmount)
    (hopen : plan.isDisabled = false) (hallows : s.PlanAllows subscriber planId)
    (htrial : plan.effectiveTrialPeriodSeconds = 0) (hfits : env.now ≤ u64Max)
    (hpaced : (enforceCreationRateLimit subscriber).run env s = .ok () w) :
    (doCreateSubscriptionFromPlan subscriber planId label).run env s =
      (enrolOnPlan s.nextSubscriptionId planId
        (s.planRecord plan subscriber label env.now)).run env w := by
  have hsame := SameChecks.of_window ((enforceCreationRateLimit_areas subscriber).ok hpaced)
  have hnow : saturatingAddU64 env.now plan.effectiveTrialPeriodSeconds = env.now := by
    rw [htrial]
    exact Nat.min_eq_left hfits
  refine (run_bind_of_ok (run_ask_ok.mpr ⟨rfl, rfl⟩)).trans ?_
  refine (run_seq_of_ok (run_requireAuth_ok.mpr ⟨hshared.signed, rfl⟩)).trans ?_
  refine (run_seq_of_ok (run_requireNotBlocklisted_ok.mpr ⟨hshared.unlisted, rfl⟩)).trans ?_
  refine (run_seq_of_ok hpaced).trans ?_
  refine (run_bind_of_ok (run_gets_ok.mpr ⟨rfl, rfl⟩)).trans ?_
  refine (run_bind_of_ok (run_okOr_ok.mpr ⟨by rw [hsame.template]; exact hplan, rfl⟩)).trans ?_
  refine (run_seq_of_ok (run_failIf_ok.mpr ⟨?_, rfl⟩)).trans ?_
  · have := hamount
    unfold PlanTemplate.chargesAmount at this
    omega
  refine (run_seq_of_ok (run_failIf_ok.mpr ⟨by simp [hopen], rfl⟩)).trans ?_
  refine (run_seq_of_ok (run_enforceSubscriptionCounts_ok.mpr ⟨?_, ?_, rfl⟩)).trans ?_
  · rw [hsame.merchantSubs, hsame.maxSubs]
    exact hshared.merchantRoom
  · rw [hsame.activeCount, hsame.activeCap]
    exact hshared.subscriberRoom
  refine (run_seq_of_ok (run_enforceCreditLimit_of_affordable ?_)).trans ?_
  · rw [hsame.credit]
    exact hshared.affordable
  refine (run_seq_of_ok (run_enforcePlanConcurrencyLimit_of_allows ?_)).trans ?_
  · rw [hsame.allows]
    exact hallows
  refine (run_bind_of_ok (run_gets_ok.mpr ⟨hsame.next, rfl⟩)).trans ?_
  refine (run_bind_of_ok (run_okOr_ok.mpr ⟨if_pos hshared.numberLeft, rfl⟩)).trans ?_
  refine run_bind_congr fun _ m hnumbered => ?_
  have hwritten : Modifies (areas [.numbering])
      (writeConfig .nextId (s.nextSubscriptionId + 1)) := Modifies.writeConfig rfl rfl
  have hcap : (gets (·.resolveCap plan.merchant plan.lifetimeCap) : Vault _).run env m =
      .ok (s.resolveCap plan.merchant plan.lifetimeCap) m :=
    run_gets_ok.mpr ⟨by rw [State.resolveCap_of_areas (hwritten.ok hnumbered) rfl, hsame.cap], rfl⟩
  refine (run_bind_of_ok hcap).trans ?_
  rw [hnow]
  rfl

/-! ## Creating directly -/

theorem run_direct {w : State} (label : Option Symbol)
    (hshared : SharedChecks env s subscriber plan)
    (hdirect : DirectChecks s plan)
    (hpaced : (enforceCreationRateLimit subscriber).run env s = .ok () w) :
    (doCreateSubscriptionWithToken (plan.subscription subscriber label)).run env s =
      (enrol s.nextSubscriptionId (s.planRecord plan subscriber label env.now)).run env w := by
  have hsame := SameChecks.of_window ((enforceCreationRateLimit_areas subscriber).ok hpaced)
  have hamount := hdirect.amount
  have hinterval := hdirect.interval
  have hnumber := hshared.numberLeft
  refine (run_bind_of_ok (run_ask_ok.mpr ⟨rfl, rfl⟩)).trans ?_
  refine (run_seq_of_ok (run_requireAuth_ok.mpr ⟨hshared.signed, rfl⟩)).trans ?_
  refine (run_seq_of_ok (run_failIf_ok.mpr ⟨?_, rfl⟩)).trans ?_
  · rintro (hneg | ⟨hzero, hfixed⟩ | hlarge)
    · exact absurd hamount.1 (Int.not_le.mpr hneg)
    · exact absurd ((hamount.2.1 hzero).symm.trans hfixed) (by simp)
    · exact absurd hamount.2.2 (Int.not_le.mpr hlarge)
  refine (run_seq_of_ok (run_requireNotBlocklisted_ok.mpr ⟨hshared.unlisted, rfl⟩)).trans ?_
  refine (run_seq_of_ok
    (run_requireNotBlocklisted_ok.mpr ⟨hdirect.merchantUnlisted, rfl⟩)).trans ?_
  refine (run_seq_of_ok hpaced).trans ?_
  refine (run_seq_of_ok (run_enforceSubscriptionCounts_ok.mpr ⟨?_, ?_, rfl⟩)).trans ?_
  · rw [hsame.merchantSubs, hsame.maxSubs]
    exact hshared.merchantRoom
  · rw [hsame.activeCount, hsame.activeCap]
    exact hshared.subscriberRoom
  refine (run_seq_of_ok (run_failIf_ok.mpr ⟨?_, rfl⟩)).trans ?_
  · rintro (hshort | hlong)
    · exact absurd hinterval.1 (Nat.not_le.mpr hshort)
    · exact absurd hinterval.2 (Nat.not_le.mpr hlong)
  have hexpiry : (validateExpiry none none).run env w = .ok () w :=
    (run_bind_of_ok (run_ask_ok.mpr ⟨rfl, rfl⟩)).trans
      ((run_seq_of_ok (run_failIf_ok.mpr ⟨nofun, rfl⟩)).trans (run_failIf_ok.mpr ⟨nofun, rfl⟩))
  refine (run_seq_of_ok hexpiry).trans ?_
  have haccepted : (gets (·.isTokenAccepted plan.token) : Vault _).run env w = .ok true w :=
    run_gets_ok.mpr ⟨by rw [hsame.accepted, hdirect.accepted], rfl⟩
  refine (run_bind_of_ok haccepted).trans ?_
  refine (run_seq_of_ok (run_failIf_ok.mpr ⟨nofun, rfl⟩)).trans ?_
  have hcap : (gets (·.resolveCap plan.merchant plan.lifetimeCap) : Vault _).run env w =
      .ok (s.resolveCap plan.merchant plan.lifetimeCap) w :=
    run_gets_ok.mpr ⟨by rw [hsame.cap], rfl⟩
  refine (run_bind_of_ok hcap).trans ?_
  refine (run_seq_of_ok (run_validateCap_ok.mpr ⟨hdirect.capped, rfl⟩)).trans ?_
  refine (run_seq_of_ok (run_enforceCreditLimit_of_affordable ?_)).trans ?_
  · rw [hsame.credit]
    exact hshared.affordable
  refine (run_bind_of_ok (run_gets_ok.mpr ⟨hsame.next, rfl⟩)).trans ?_
  have hlimits : (when (plan.usageEnabled = true)
      (requireUsageLimits s.nextSubscriptionId plan.merchant)).run env w = .ok () w := by
    by_cases husage : plan.usageEnabled = true
    · obtain ⟨limits, hread, hmerchant⟩ := hdirect.configured husage
      refine run_when_ok.mpr (.inl ⟨husage, run_requireUsageLimits_ok.mpr ⟨⟨limits, ?_, hmerchant⟩,
        rfl⟩⟩)
      rw [hsame.usageLimits]
      exact hread
    · exact run_when_ok.mpr (.inr ⟨husage, rfl⟩)
  refine (run_seq_of_ok hlimits).trans ?_
  exact run_seq_of_ok (run_failIf_ok.mpr ⟨by omega, rfl⟩)

end Checks

/-! ## What the two leave behind -/

section Writes

variable {env : Env} {s w : State} {id planId : Nat} {sub : Subscription}

/-- Code that only reads and writes outside `S` ends alike in states that agree there. -/
theorem respects_pushIndex {S : Set Slot} {key : DataKey} [Holds DataKey.Val key (List Nat)]
    (hkey : Slot.instanced key ∉ S) (id : Nat) :
    (pushIndex key id).Respects (FiniteStore.AgreeOff S) :=
  .bind (.gets fun _ _ h => h.read hkey) fun _ => .update fun _ _ h => h.replace _ _

theorem respects_indexSubscription (id : Nat) (sub : Subscription) :
    (indexSubscription id sub).Respects (FiniteStore.AgreeOff (areas [.planLinks])) :=
  .bind (respects_pushIndex (by simp [areas, Slot.area, DataKey.area]) id) fun _ =>
    .bind (respects_pushIndex (by simp [areas, Slot.area, DataKey.area]) id) fun _ =>
      respects_pushIndex (by simp [areas, Slot.area, DataKey.area]) id

theorem total_pushIndex (key : DataKey) [Holds DataKey.Val key (List Nat)] (id : Nat) :
    (pushIndex key id).Total :=
  .bind (.gets _) fun _ => .update _

theorem total_indexSubscription (id : Nat) (sub : Subscription) :
    (indexSubscription id sub).Total :=
  .bind (total_pushIndex _ id) fun _ => .bind (total_pushIndex _ id) fun _ => total_pushIndex _ id

/-- The two kinds of writes succeed alike, and end alike but for the link and the badge. -/
theorem enrol_compare (env : Env) (w : State) (id planId : Nat) (sub : Subscription) :
    ∃ t t', (enrolOnPlan id planId sub).run env w = .ok id t ∧
      (enrol id sub).run env w = .ok id t' ∧
      (FiniteStore.AgreeOff (areas [.planLinks]) t t' ↔ w.Badged id env.now) := by
  let numbered := State.writeConfig w .nextId (id + 1)
  let recorded := numbered.write (.persistent (.sub id)) sub
  have hnumber : (writeConfig .nextId (id + 1)).run env w = .ok () numbered :=
    run_writeConfig_ok.mpr rfl
  have hrecord : (writeSubscription id sub).run env numbered = .ok () recorded :=
    run_store_ok.mpr rfl
  obtain ⟨⟨⟩, counted, hcount⟩ :
      ∃ u counted, (incrementSubscriberActiveCount sub.subscriber).run env recorded =
        .ok u counted :=
    Total.bind (.gets _) (fun _ => .update _) env recorded
  obtain ⟨⟨⟩, indexed, hindex⟩ := total_indexSubscription id sub env counted
  let linked := counted.write (.instanced (.subPlan id)) planId
  have hlinked : FiniteStore.AgreeOff (areas [.planLinks]) counted linked :=
    FiniteStore.agreeOff_write _ _ rfl
  have hmatch := respects_indexSubscription id sub env counted linked hlinked
  rw [hindex] at hmatch
  generalize ho : (indexSubscription id sub).run env linked = o at hmatch
  cases hmatch with
  | @ok _ _ t hagree =>
    let badge : CredentialBadge :=
      { subscriptionId := id, tier := 1, issuedAt := env.now, revoked := false }
    refine ⟨t, indexed.write (.persistent (.credential id)) badge, ?_, ?_, ?_⟩
    · exact (run_seq_of_ok hnumber).trans ((run_seq_of_ok hrecord).trans
        ((run_seq_of_ok hcount).trans ((run_seq_of_ok (run_store_ok.mpr rfl)).trans
          ((run_seq_of_ok ho).trans (run_pure_ok.mpr ⟨rfl, rfl⟩)))))
    · have hissue : (issueCredential id).run env indexed =
          .ok () (indexed.write (.persistent (.credential id)) badge) :=
        (run_bind_of_ok (run_ask_ok.mpr ⟨rfl, rfl⟩)).trans (run_store_ok.mpr rfl)
      exact (run_seq_of_ok hnumber).trans ((run_seq_of_ok hrecord).trans
        ((run_seq_of_ok hcount).trans ((run_seq_of_ok hindex).trans
          ((run_seq_of_ok hissue).trans (run_pure_ok.mpr ⟨rfl, rfl⟩)))))
    · have hwritten : Modifies (areas [.numbering]) (writeConfig .nextId (id + 1)) :=
        Modifies.writeConfig rfl rfl
      have hkept : (indexed.read (.persistent (.credential id)) : Option CredentialBadge) =
          w.read (.persistent (.credential id)) :=
        calc indexed.read (.persistent (.credential id))
          _ = counted.read (.persistent (.credential id)) :=
            State.read_of_areas ((indexSubscription_areas id sub).ok hindex) rfl
          _ = recorded.read (.persistent (.credential id)) :=
            State.read_of_areas ((incrementSubscriberActiveCount_areas _).ok hcount) rfl
          _ = numbered.read (.persistent (.credential id)) :=
            State.read_of_areas ((writeSubscription_areas id sub).ok hrecord) rfl
          _ = w.read (.persistent (.credential id)) :=
            State.read_of_areas (hwritten.ok hnumber) rfl
      constructor
      · intro hsame
        have hissued := State.read_of_areas (k := .persistent (.credential id)) hsame rfl
        have hunissued := State.read_of_areas (k := .persistent (.credential id)) hagree rfl
        rw [FiniteStore.read_write_self] at hissued
        exact (hissued.trans (hunissued.trans hkept)).symm
      · intro hbadged
        have hback : FiniteStore.AgreeOff (areas [.planLinks]) t indexed :=
          fun k hk => (hagree k hk).symm
        exact hback.trans (FiniteStore.agreeOff_write_same (hkept.trans hbadged))

end Writes

/-! ## Agreement -/

section Agreement

variable {env : Env} {s : State} {subscriber : Address} {planId : Nat} {label : Option Symbol}
  {plan : PlanTemplate}

/-- Creating from a plan without trial agrees with creating directly exactly when a check that both
make fails, or the plan is closed or full, or the checks of the two agree and the badge of the
direct creation is already there. -/
theorem plan_creation_agrees_iff (hplan : s.planTemplate planId = some plan)
    (htrial : plan.effectiveTrialPeriodSeconds = 0) (hnow : env.now ≤ u64Max)
    (hnext : s.nextSubscriptionId ≤ u32Max) :
    PlanCreationAgrees env s subscriber planId label plan ↔
      (SharedChecks env s subscriber plan → plan.isDisabled = false →
        s.PlanAllows subscriber planId →
        (plan.chargesAmount ↔ DirectChecks s plan) ∧
          (plan.chargesAmount → s.Badged s.nextSubscriptionId env.now)) := by
  have hfromPlan (hshared : SharedChecks env s subscriber plan) (hamount : plan.chargesAmount)
      (hopen : plan.isDisabled = false) (hallows : s.PlanAllows subscriber planId) {w : State}
      (hpaced : (enforceCreationRateLimit subscriber).run env s = .ok () w) :=
    run_fromPlan label hshared hplan hamount hopen hallows htrial hnow hpaced
  have hbadge {w : State} (hpaced : (enforceCreationRateLimit subscriber).run env s = .ok () w) :
      w.Badged s.nextSubscriptionId env.now ↔ s.Badged s.nextSubscriptionId env.now := by
    unfold State.Badged
    rw [State.read_of_areas (k := .persistent (.credential s.nextSubscriptionId))
      ((enforceCreationRateLimit_areas subscriber).ok hpaced) rfl]
  constructor
  · intro hagrees hshared hopen hallows
    obtain ⟨w, hpaced⟩ := hshared.paced
    obtain ⟨t, t', hplanned, hdirected, hsame⟩ := enrol_compare env w s.nextSubscriptionId planId
      (s.planRecord plan subscriber label env.now)
    have hforth (hamount : plan.chargesAmount) : DirectChecks s plan := by
      have hrun := (hfromPlan hshared hamount hopen hallows hpaced).trans hplanned
      obtain ⟨-, -, id, u, hdirect⟩ := hagrees.succeeds.mp ⟨_, _, hrun⟩
      exact (direct_checks hnext hdirect).2
    refine ⟨⟨hforth, fun hdirect => ?_⟩, fun hamount => ?_⟩
    · have hrun := (run_direct label hshared hdirect hpaced).trans hdirected
      obtain ⟨id, u, hcreate⟩ := hagrees.succeeds.mpr ⟨hopen, hallows, _, _, hrun⟩
      exact (fromPlan_checks hplan hcreate).2.1
    · have hrun := (hfromPlan hshared hamount hopen hallows hpaced).trans hplanned
      have hrun' := (run_direct label hshared (hforth hamount) hpaced).trans hdirected
      exact (hbadge hpaced).mp (hsame.mp (hagrees.same _ _ _ _ hrun hrun').2)
  · intro h
    constructor
    · constructor
      · rintro ⟨id, u, hcreate⟩
        obtain ⟨hshared, hamount, hopen, hallows⟩ := fromPlan_checks hplan hcreate
        obtain ⟨w, hpaced⟩ := hshared.paced
        have hdirect := (h hshared hopen hallows).1.mp hamount
        obtain ⟨-, t', -, hdirected, -⟩ := enrol_compare env w s.nextSubscriptionId planId
          (s.planRecord plan subscriber label env.now)
        exact ⟨hopen, hallows, _, _, (run_direct label hshared hdirect hpaced).trans hdirected⟩
      · rintro ⟨hopen, hallows, id, u, hcreate⟩
        obtain ⟨hshared, hdirect⟩ := direct_checks hnext hcreate
        obtain ⟨w, hpaced⟩ := hshared.paced
        have hamount := (h hshared hopen hallows).1.mpr hdirect
        obtain ⟨t, -, hplanned, -, -⟩ := enrol_compare env w s.nextSubscriptionId planId
          (s.planRecord plan subscriber label env.now)
        exact ⟨_, _, (hfromPlan hshared hamount hopen hallows hpaced).trans hplanned⟩
    · intro id u id' u' hcreate hcreate'
      obtain ⟨hshared, hamount, hopen, hallows⟩ := fromPlan_checks hplan hcreate
      obtain ⟨w, hpaced⟩ := hshared.paced
      obtain ⟨-, hdirect⟩ := direct_checks hnext hcreate'
      obtain ⟨t, t', hplanned, hdirected, hsame⟩ := enrol_compare env w s.nextSubscriptionId planId
        (s.planRecord plan subscriber label env.now)
      rw [hfromPlan hshared hamount hopen hallows hpaced, hplanned] at hcreate
      rw [run_direct label hshared hdirect hpaced, hdirected] at hcreate'
      cases hcreate
      cases hcreate'
      exact ⟨rfl, hsame.mpr ((hbadge hpaced).mpr ((h hshared hopen hallows).2 hamount))⟩

end Agreement

/-! ## Plans of a sample merchant -/

private def offeredPlan : PlanTemplate :=
  { merchant := ⟨1⟩, token := ⟨9⟩, amount := 10, intervalSeconds := 60, trialSeconds := 0
    trialPeriodSeconds := none, usageEnabled := false, lifetimeCap := none, templateKey := 0
    version := 1, isDisabled := false }

private def offered : List (Env × Vault Unit) :=
  (sampleEnv 0 [⟨1⟩], effectOf (doCreatePlanTemplate ⟨1⟩ 10 60 false none)) :: sampleVault 0

/-- The merchant withdraws the plan. -/
private def withdrawnOffer : List (Env × Vault Unit) :=
  (sampleEnv 1 [⟨1⟩], doDeprecatePlan ⟨1⟩ 0) :: offered

private theorem offered_quiet :
    FiniteStore.AgreeOff (areas foreignAreas) (sampleStart 0) (afterCalls offered) :=
  ((sample_areas 0).mono (areas_mono rfl)).trans
    (((doCreatePlanTemplate_areas ⟨1⟩ 10 60 false none).effectOf.after (sampleEnv 0 [⟨1⟩])
      (afterCalls (sampleVault 0))).mono (areas_mono rfl))

private theorem offered_run : Run Transacts (sampleStart 0)
    [(.other (sampleEnv 0 []), sampleStart 0)] (afterCalls offered) :=
  Run.start.next (.other offered_quiet)

private theorem withdrawnOffer_run : Run Transacts (sampleStart 0)
    [(.other (sampleEnv 0 []), sampleStart 0)] (afterCalls withdrawnOffer) :=
  Run.start.next (.other (offered_quiet.trans
    (((doDeprecatePlan_areas ⟨1⟩ 0).after (sampleEnv 1 [⟨1⟩]) (afterCalls offered)).mono
      (areas_mono rfl))))

theorem withdrawn_offer_agrees : ∃ (hist : History Transaction State) (s : State)
    (plan : PlanTemplate), Run Transacts (sampleStart 0) hist s ∧
    s.planTemplate 0 = some plan ∧ plan.isDisabled = true ∧
    PlanCreationAgrees (sampleEnv 2 [⟨2⟩]) s ⟨2⟩ 0 none plan := by
  have hplan : State.planTemplate (afterCalls withdrawnOffer) 0 =
      some { offeredPlan with isDisabled := true } := by
    decide +kernel
  refine ⟨_, _, _, withdrawnOffer_run, hplan, rfl, ?_⟩
  exact (plan_creation_agrees_iff hplan rfl (by decide) (by decide +kernel)).mpr
    fun _ hopen _ => absurd hopen (by decide)

/-- The merchant is put on the blocklist. -/
private def blockedMerchant : List (Env × VaultCall) :=
  [(sampleEnv 1 [⟨8⟩], .addToBlocklist ⟨8⟩ ⟨1⟩ [])]

/-- Only the direct creation issues a credential, and only it refuses a merchant on the
blocklist. -/
theorem plan_creations_differ : ∃ (hist hist' : History Transaction State) (s s' t t' : State)
    (plan : PlanTemplate),
    (Run Transacts (sampleStart 0) hist s ∧ s.planTemplate 0 = some plan ∧
      plan.effectiveTrialPeriodSeconds = 0 ∧
      (doCreateSubscriptionFromPlan ⟨2⟩ 0 none).run (sampleEnv 2 [⟨2⟩]) s = .ok 0 t ∧
      (doCreateSubscriptionWithToken (plan.subscription ⟨2⟩ none)).run (sampleEnv 2 [⟨2⟩]) s =
        .ok 0 t' ∧
      t.read (.persistent (.credential 0)) = none ∧ t'.Badged 0 2 ∧
      ¬PlanCreationAgrees (sampleEnv 2 [⟨2⟩]) s ⟨2⟩ 0 none plan) ∧
    Run Transacts (sampleStart 0) hist' s' ∧ s'.planTemplate 0 = some plan ∧
      (∃ t, (doCreateSubscriptionFromPlan ⟨2⟩ 0 none).run (sampleEnv 2 [⟨2⟩]) s' = .ok 0 t) ∧
      (∃ t, (doCreateSubscriptionWithToken (plan.subscription ⟨2⟩ none)).run
        (sampleEnv 2 [⟨2⟩]) s' = .err .subscriberBlocklisted t) ∧
      ¬PlanCreationAgrees (sampleEnv 2 [⟨2⟩]) s' ⟨2⟩ 0 none plan := by
  let fromPlan := doCreateSubscriptionFromPlan ⟨2⟩ 0 none
  let direct := doCreateSubscriptionWithToken (offeredPlan.subscription ⟨2⟩ none)
  let s' := stateAfter (afterCalls offered) blockedMerchant
  have hrun' := run_transactions offered_run
    (show allSucceed (afterCalls offered) blockedMerchant = true by decide +kernel)
  obtain ⟨t, ht⟩ := run_of_returns
    (show fromPlan.returns (sampleEnv 2 [⟨2⟩]) (afterCalls offered) 0 = true by decide +kernel)
  obtain ⟨t', ht'⟩ := run_of_returns
    (show direct.returns (sampleEnv 2 [⟨2⟩]) (afterCalls offered) 0 = true by decide +kernel)
  have hafter : (effectOf fromPlan).after (sampleEnv 2 [⟨2⟩]) (afterCalls offered) = t :=
    after_of_ok (run_effectOf_ok.mpr ⟨0, ht⟩)
  have hafter' : (effectOf direct).after (sampleEnv 2 [⟨2⟩]) (afterCalls offered) = t' :=
    after_of_ok (run_effectOf_ok.mpr ⟨0, ht'⟩)
  have hnone : (t.read (.persistent (.credential 0)) : Option CredentialBadge) = none := by
    rw [← hafter]
    decide +kernel
  have hbadged : t'.Badged 0 2 := by
    rw [← hafter']
    show _ = _
    decide +kernel
  obtain ⟨u, hu⟩ := run_of_returns
    (show fromPlan.returns (sampleEnv 2 [⟨2⟩]) s' 0 = true by decide +kernel)
  obtain ⟨u', hu'⟩ := run_of_failsWith
    (show direct.failsWith (sampleEnv 2 [⟨2⟩]) s' .subscriberBlocklisted = true by decide +kernel)
  refine ⟨_, _, afterCalls offered, s', t, t', offeredPlan, ⟨offered_run, by decide +kernel, rfl,
    ht, ht', hnone, hbadged, fun hagrees => ?_⟩, hrun', by decide +kernel, ⟨u, hu⟩, ⟨u', hu'⟩,
    fun hagrees => ?_⟩
  · have hsame := (hagrees.same _ _ _ _ ht ht').2
    have hread := State.read_of_areas (k := .persistent (.credential 0)) hsame rfl
    rw [hnone, hbadged] at hread
    cases hread
  · obtain ⟨-, -, id, v, hv⟩ := hagrees.succeeds.mp ⟨_, _, hu⟩
    rw [hu'] at hv
    cases hv

end SubscriptionVault
