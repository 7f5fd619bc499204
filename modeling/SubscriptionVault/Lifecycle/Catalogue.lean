import SubscriptionVault.Lifecycle.Creation

/-!
# The catalogue of plans

Merchants add plans, add versions of them and close them. Numbers of plans only grow, short of the
last one, so a plan that is marked as closed stays so. A creation looks at the mark; a migration
does not, it asks for an earlier version of the same plan instead.
-/

namespace SubscriptionVault

open Exec

/-! ## The catalogue -/

structure Catalogue where
  next : Nat
  plan : Nat → Option PlanTemplate

namespace Catalogue

/-- The next number is given out; the last one is given out again and again. -/
def add (c : Catalogue) (plan : PlanTemplate) : Catalogue where
  next := (checkedAddU32 c.next 1).getD c.next
  plan := Function.update c.plan c.next (some plan)

def close (c : Catalogue) (planId : Nat) (plan : PlanTemplate) : Catalogue where
  next := c.next
  plan := Function.update c.plan planId (some { plan with isDisabled := true })

/-- What a step may do to the catalogue. -/
inductive Moves (c : Catalogue) : Catalogue → Prop
  | kept : c.Moves c
  | added (plan : PlanTemplate) : c.Moves (c.add plan)
  | closed {planId : Nat} {plan : PlanTemplate} :
      c.plan planId = some plan → c.Moves (c.close planId plan)

/-- Every number in use was given out. -/
structure Sound (c : Catalogue) : Prop where
  bounded : c.next ≤ u32Max
  given : ∀ planId plan, c.plan planId = some plan → planId < c.next ∨ planId = u32Max

def IsClosed (c : Catalogue) (planId : Nat) : Prop :=
  ∃ plan, c.plan planId = some plan ∧ plan.isDisabled = true

variable {c c' : Catalogue} {planId : Nat} {plan : PlanTemplate}

/-- The next number moves on, short of the last one. -/
theorem next_add (c : Catalogue) (plan : PlanTemplate) :
    (c.add plan).next = if c.next + 1 ≤ u32Max then c.next + 1 else c.next := by
  show (checkedAddU32 c.next 1).getD c.next = _
  unfold checkedAddU32
  split <;> rfl

theorem Sound.add (h : c.Sound) (plan : PlanTemplate) : (c.add plan).Sound := by
  have hbounded := h.bounded
  have hnext := c.next_add plan
  refine ⟨?_, fun id found hfound => ?_⟩
  · split at hnext <;> omega
  · by_cases hid : id = c.next
    · split at hnext <;> omega
    · have hold : c.plan id = some found := (Function.update_of_ne hid _ _).symm.trans hfound
      have hgiven := h.given id found hold
      split at hnext <;> omega

theorem Sound.close (h : c.Sound) (hplan : c.plan planId = some plan) :
    (c.close planId plan).Sound := by
  refine ⟨h.bounded, fun id found hfound => ?_⟩
  by_cases hid : id = planId
  · subst hid
    exact h.given id plan hplan
  · exact h.given id found ((Function.update_of_ne hid _ _).symm.trans hfound)

theorem Moves.sound (h : c.Moves c') (hsound : c.Sound) : c'.Sound := by
  cases h with
  | kept => exact hsound
  | added plan => exact hsound.add plan
  | closed hplan => exact hsound.close hplan

/-- A closed plan stays closed, unless it has the last number. -/
theorem Moves.keeps_closed (h : c.Moves c') (hsound : c.Sound) (hclosed : c.IsClosed planId)
    (hlast : planId < u32Max) : c'.IsClosed planId := by
  obtain ⟨found, hfound, hdisabled⟩ := hclosed
  cases h with
  | kept => exact ⟨found, hfound, hdisabled⟩
  | added plan =>
    have hne : planId ≠ c.next := by
      have hgiven := hsound.given planId found hfound
      omega
    exact ⟨found, (Function.update_of_ne hne _ _).trans hfound, hdisabled⟩
  | @closed id plan hplan =>
    by_cases hid : planId = id
    · subst hid
      exact ⟨_, Function.update_self _ _ _, rfl⟩
    · exact ⟨found, (Function.update_of_ne hid _ _).trans hfound, hdisabled⟩

theorem isClosed_close (c : Catalogue) (planId : Nat) (plan : PlanTemplate) :
    (c.close planId plan).IsClosed planId :=
  ⟨_, Function.update_self _ _ _, rfl⟩

end Catalogue

def State.catalogue (s : State) : Catalogue where
  next := (s.read (.instanced .nextPlanId)).getD 0
  plan := s.planTemplate

/-! ## Calls -/

/-- The entrypoints that write plans. -/
inductive CatalogueCall where
  | createPlanTemplate (merchant : Address) (amount : Int) (intervalSeconds : Nat)
      (usageEnabled : Bool) (lifetimeCap : Option Int)
  | createPlanTemplateWithToken (merchant token : Address) (amount : Int) (intervalSeconds : Nat)
      (usageEnabled : Bool) (lifetimeCap : Option Int)
  | registerPlan (merchant : Address) (amount : Int) (intervalSeconds trialSeconds : Nat)
      (usageEnabled : Bool) (lifetimeCap : Option Int)
  | updatePlanTemplate (merchant : Address) (planId : Nat) (amount : Int) (intervalSeconds : Nat)
      (usageEnabled : Bool) (lifetimeCap : Option Int)
  | disablePlanTemplate (merchant : Address) (planId : Nat)
  | deprecatePlan (merchant : Address) (planId : Nat)
  | setPlanMaxActiveSubs (merchant : Address) (planId maxActive : Nat)

def CatalogueCall.exec : CatalogueCall → Vault Unit
  | .createPlanTemplate merchant amount intervalSeconds usageEnabled lifetimeCap =>
    effectOf (doCreatePlanTemplate merchant amount intervalSeconds usageEnabled lifetimeCap)
  | .createPlanTemplateWithToken merchant token amount intervalSeconds usageEnabled lifetimeCap =>
    effectOf (doCreatePlanTemplateWithToken merchant token amount intervalSeconds usageEnabled
      lifetimeCap)
  | .registerPlan merchant amount intervalSeconds trialSeconds usageEnabled lifetimeCap => do
    requireNotEmergencyStop
    effectOf (doRegisterPlan merchant amount intervalSeconds trialSeconds usageEnabled lifetimeCap)
  | .updatePlanTemplate merchant planId amount intervalSeconds usageEnabled lifetimeCap =>
    effectOf (doUpdatePlanTemplate merchant planId amount intervalSeconds usageEnabled lifetimeCap)
  | .disablePlanTemplate merchant planId => doDisablePlanTemplate merchant planId
  | .deprecatePlan merchant planId => doDeprecatePlan merchant planId
  | .setPlanMaxActiveSubs merchant planId maxActive =>
    doSetPlanMaxActiveSubs merchant planId maxActive

section Calls

variable {env : Env} {s t : State}

theorem State.catalogue_of_areas {l : List Area} (h : FiniteStore.AgreeOff (areas l) s t)
    (hl : l.contains .plans = false) : t.catalogue = s.catalogue := by
  have hplan : t.planTemplate = s.planTemplate :=
    funext fun planId => State.read_of_areas (k := .instanced (.plan planId)) h hl
  have hnext : (t.read (.instanced .nextPlanId) : Option Nat) = s.read (.instanced .nextPlanId) :=
    State.read_of_areas h hl
  unfold State.catalogue
  rw [hplan, hnext]

theorem State.catalogue_write_plan (s : State) (planId : Nat) (plan : PlanTemplate) :
    State.catalogue (s.write (.instanced (.plan planId)) plan) =
      ⟨s.catalogue.next, Function.update s.catalogue.plan planId (some plan)⟩ := by
  have hplan : State.planTemplate (s.write (.instanced (.plan planId)) plan) =
      Function.update s.planTemplate planId (some plan) := by
    funext id
    by_cases hid : id = planId
    · subst hid
      rw [Function.update_self]
      exact FiniteStore.read_write_self s plan
    · rw [Function.update_of_ne hid]
      exact FiniteStore.read_write_of_ne s plan (by simpa using hid)
  unfold State.catalogue
  rw [hplan, FiniteStore.read_write_of_ne s plan (by simp)]

theorem State.catalogue_write_elsewhere {k : Slot} {α : Type} [Holds Slot.Val k α] (s : State)
    (v : α) (hplan : ∀ planId, Slot.instanced (.plan planId) ≠ k)
    (hnext : Slot.instanced .nextPlanId ≠ k) : State.catalogue (s.write k v) = s.catalogue := by
  have hplans : State.planTemplate (s.write k v) = s.planTemplate :=
    funext fun planId => FiniteStore.read_write_of_ne s v (hplan planId)
  unfold State.catalogue
  rw [hplans, FiniteStore.read_write_of_ne s v hnext]

theorem State.catalogue_write_next (s : State) (next : Nat) :
    State.catalogue (s.write (.instanced .nextPlanId) next) = ⟨next, s.catalogue.plan⟩ := by
  have hplan : State.planTemplate (s.write (.instanced .nextPlanId) next) = s.planTemplate :=
    funext fun planId => FiniteStore.read_write_of_ne s next
      (show Slot.instanced (.plan planId) ≠ .instanced .nextPlanId by simp)
  unfold State.catalogue
  rw [hplan, FiniteStore.read_write_self, Option.getD_some]

theorem run_nextPlanId_ok {id : Nat} (hrun : nextPlanId.run env s = .ok id t) :
    id = s.catalogue.next ∧ t.catalogue =
      ⟨(checkedAddU32 s.catalogue.next 1).getD s.catalogue.next, s.catalogue.plan⟩ := by
  obtain ⟨found, hfound, hrun⟩ := run_check_ok Modifies.load hrun
  obtain ⟨_, m, hstore, hrun⟩ := run_bind_ok.mp hrun
  obtain ⟨hid, rfl⟩ := run_pure_ok.mp hrun
  obtain rfl := run_store_ok.mp hstore
  obtain rfl := (run_load_ok.mp hfound).1
  exact ⟨hid.symm, State.catalogue_write_next s _⟩

/-- A plan is stored under the next number. -/
theorem catalogue_of_added {plan : PlanTemplate} {id : Nat} {m : State}
    (hnext : nextPlanId.run env s = .ok id m)
    (hstore : (store (.instanced (.plan id)) plan).run env m = .ok () t) :
    t.catalogue = s.catalogue.add plan := by
  obtain ⟨rfl, hm⟩ := run_nextPlanId_ok hnext
  obtain rfl := run_store_ok.mp hstore
  rw [State.catalogue_write_plan, hm]
  rfl

theorem run_planAdded_ok {plan : Nat → PlanTemplate} {id : Nat}
    (hrun : (do
      let planId ← nextPlanId
      store (.instanced (.plan planId)) (plan planId)
      pure planId : Vault Nat).run env s = .ok id t) :
    s.catalogue.Moves t.catalogue := by
  obtain ⟨_, m, hnext, hrun⟩ := run_bind_ok.mp hrun
  obtain ⟨_, m', hstore, hrun⟩ := run_bind_ok.mp hrun
  obtain ⟨-, rfl⟩ := run_pure_ok.mp hrun
  rw [catalogue_of_added hnext hstore]
  exact .added _

theorem doDeprecatePlan_closes {merchant : Address} {planId : Nat} {u : Unit}
    (hrun : (doDeprecatePlan merchant planId).run env s = .ok u t) :
    s.catalogue.Moves t.catalogue ∧ t.catalogue.IsClosed planId := by
  obtain ⟨_, -, hrun⟩ := run_check_ok (Modifies.requireAuth _) hrun
  obtain ⟨found, hfound, hrun⟩ := run_check_ok (.gets _) hrun
  obtain ⟨plan, hplan, hrun⟩ := run_check_ok (.okOr _ _) hrun
  obtain ⟨_, -, hrun⟩ := run_check_ok (.failIf _ _) hrun
  have hstored : s.catalogue.plan planId = some plan :=
    (run_gets_ok.mp hfound).1.trans (run_okOr_ok.mp hplan).1
  rcases run_when_ok.mp hrun with ⟨-, hstore⟩ | ⟨hdisabled, rfl⟩
  · obtain rfl := run_store_ok.mp hstore
    rw [State.catalogue_write_plan]
    exact ⟨.closed hstored, Catalogue.isClosed_close _ _ _⟩
  · exact ⟨.kept, plan, hstored, by simpa using hdisabled⟩

theorem CatalogueCall.moves {call : CatalogueCall} {u : Unit}
    (hrun : call.exec.run env s = .ok u t) : s.catalogue.Moves t.catalogue := by
  cases call with
  | createPlanTemplate =>
    obtain ⟨_, hrun⟩ := run_effectOf_ok.mp hrun
    obtain ⟨_, -, hrun⟩ := run_check_ok (Modifies.requireAuth _) hrun
    obtain ⟨_, -, hrun⟩ := run_check_ok (.failIf _ _) hrun
    obtain ⟨_, -, hrun⟩ := run_check_ok (.failIf _ _) hrun
    obtain ⟨_, -, hrun⟩ := run_check_ok (.failIf _ _) hrun
    obtain ⟨_, -, hrun⟩ := run_check_ok (.gets _) hrun
    obtain ⟨_, -, hrun⟩ := run_check_ok (.lift _) hrun
    exact run_planAdded_ok hrun
  | createPlanTemplateWithToken =>
    obtain ⟨_, hrun⟩ := run_effectOf_ok.mp hrun
    obtain ⟨_, -, hrun⟩ := run_check_ok (Modifies.requireAuth _) hrun
    obtain ⟨_, -, hrun⟩ := run_check_ok (.failIf _ _) hrun
    obtain ⟨_, -, hrun⟩ := run_check_ok (.failIf _ _) hrun
    obtain ⟨_, -, hrun⟩ := run_check_ok (.gets _) hrun
    obtain ⟨_, -, hrun⟩ := run_check_ok (.failIf _ _) hrun
    obtain ⟨_, -, hrun⟩ := run_check_ok (.failIf _ _) hrun
    exact run_planAdded_ok hrun
  | registerPlan =>
    obtain ⟨_, -, hrun⟩ := run_check_ok Modifies.requireNotEmergencyStop hrun
    obtain ⟨_, hrun⟩ := run_effectOf_ok.mp hrun
    obtain ⟨_, -, hrun⟩ := run_check_ok (Modifies.requireAuth _) hrun
    obtain ⟨_, -, hrun⟩ := run_check_ok (.failIf _ _) hrun
    obtain ⟨_, -, hrun⟩ := run_check_ok (.failIf _ _) hrun
    obtain ⟨_, -, hrun⟩ := run_check_ok (.failIf _ _) hrun
    obtain ⟨_, -, hrun⟩ := run_check_ok (.gets _) hrun
    obtain ⟨_, -, hrun⟩ := run_check_ok (.lift _) hrun
    exact run_planAdded_ok hrun
  | updatePlanTemplate =>
    obtain ⟨_, hrun⟩ := run_effectOf_ok.mp hrun
    obtain ⟨_, -, hrun⟩ := run_check_ok (Modifies.requireAuth _) hrun
    obtain ⟨_, -, hrun⟩ := run_check_ok (.failIf _ _) hrun
    obtain ⟨_, -, hrun⟩ := run_check_ok (.failIf _ _) hrun
    obtain ⟨_, -, hrun⟩ := run_check_ok (.failIf _ _) hrun
    obtain ⟨_, -, hrun⟩ := run_check_ok (.gets _) hrun
    obtain ⟨_, -, hrun⟩ := run_check_ok (.okOr _ _) hrun
    obtain ⟨_, -, hrun⟩ := run_check_ok (.failIf _ _) hrun
    obtain ⟨_, -, hrun⟩ := run_check_ok (.failIf _ _) hrun
    obtain ⟨_, m, hnext, hrun⟩ := run_bind_ok.mp hrun
    obtain ⟨_, -, hrun⟩ := run_check_ok (.okOr _ _) hrun
    obtain ⟨_, m', hstore, hrun⟩ := run_bind_ok.mp hrun
    obtain ⟨-, rfl⟩ := run_pure_ok.mp hrun
    rw [catalogue_of_added hnext hstore]
    exact .added _
  | disablePlanTemplate =>
    obtain ⟨_, -, hrun⟩ := run_check_ok (Modifies.requireAuth _) hrun
    obtain ⟨_, -, hrun⟩ := run_check_ok (.gets _) hrun
    obtain ⟨_, -, hrun⟩ := run_check_ok (.okOr _ _) hrun
    obtain ⟨_, -, hrun⟩ := run_check_ok (.failIf _ _) hrun
    rcases run_when_ok.mp hrun with ⟨-, hstore⟩ | ⟨-, rfl⟩
    · obtain rfl := run_store_ok.mp hstore
      rw [State.catalogue_write_elsewhere _ _ (fun _ => by simp) (by simp)]
      exact .kept
    · exact .kept
  | deprecatePlan => exact (doDeprecatePlan_closes hrun).1
  | setPlanMaxActiveSubs =>
    obtain ⟨_, -, hrun⟩ := run_check_ok (Modifies.requireAuth _) hrun
    obtain ⟨_, -, hrun⟩ := run_check_ok (.gets _) hrun
    obtain ⟨_, -, hrun⟩ := run_check_ok (.okOr _ _) hrun
    obtain ⟨_, -, hrun⟩ := run_check_ok (.failIf _ _) hrun
    obtain rfl := run_store_ok.mp hrun
    rw [State.catalogue_write_elsewhere _ _ (fun _ => by simp) (by simp)]
    exact .kept

/-! ## What the mark and the versions are for -/

/-- The subscription is on an earlier version of the plan. -/
def State.OnEarlierVersion (s : State) (id planId : Nat) : Prop :=
  ∃ currentId current plan, s.subPlan id = some currentId ∧
    s.planTemplate currentId = some current ∧ s.planTemplate planId = some plan ∧
    current.templateKey = plan.templateKey ∧ current.version < plan.version

variable {subscriber : Address} {id planId : Nat}

/-- No subscription is created from a closed plan. -/
theorem doCreateSubscriptionFromPlan_open {label : Option Symbol}
    (hrun : (doCreateSubscriptionFromPlan subscriber planId label).run env s = .ok id t) :
    ¬s.catalogue.IsClosed planId := by
  obtain ⟨_, -, hrun⟩ := run_check_ok .ask hrun
  obtain ⟨_, -, hrun⟩ := run_check_ok (Modifies.requireAuth _) hrun
  obtain ⟨_, -, hrun⟩ := run_check_ok (Modifies.requireNotBlocklisted _) hrun
  obtain ⟨_, m, hlimit, hrun⟩ := run_bind_ok.mp hrun
  have hsame : m.catalogue = s.catalogue :=
    State.catalogue_of_areas ((enforceCreationRateLimit_areas subscriber).ok hlimit) rfl
  obtain ⟨found, hfound, hrun⟩ := run_check_ok (.gets _) hrun
  obtain ⟨plan, hplan, hrun⟩ := run_check_ok (.okOr _ _) hrun
  obtain ⟨_, -, hrun⟩ := run_check_ok (.failIf _ _) hrun
  obtain ⟨_, hopen, -⟩ := run_check_ok (.failIf _ _) hrun
  have hstored : m.catalogue.plan planId = some plan :=
    (run_gets_ok.mp hfound).1.trans (run_okOr_ok.mp hplan).1
  rintro ⟨plan', hplan', hclosed⟩
  rw [hsame, hplan'] at hstored
  obtain rfl := Option.some.inj hstored
  exact (run_failIf_ok.mp hopen).1 hclosed

theorem doMigrateSubscriptionToPlan_later {u : Unit}
    (hrun : (doMigrateSubscriptionToPlan subscriber id planId).run env s = .ok u t) :
    s.OnEarlierVersion id planId := by
  obtain ⟨_, -, hrun⟩ := run_check_ok (Modifies.requireAuth _) hrun
  obtain ⟨_, -, hrun⟩ := run_check_ok (Modifies.requireNotBlocklisted _) hrun
  obtain ⟨_, -, hrun⟩ := run_check_ok (Modifies.getSubscription id) hrun
  obtain ⟨_, -, hrun⟩ := run_check_ok (.failIf _ _) hrun
  obtain ⟨pinned, hpinned, hrun⟩ := run_check_ok Modifies.load hrun
  obtain ⟨currentId, hcurrentId, hrun⟩ := run_check_ok (.okOr _ _) hrun
  obtain ⟨found, hfound, hrun⟩ := run_check_ok (.gets _) hrun
  obtain ⟨current, hcurrent, hrun⟩ := run_check_ok (.okOr _ _) hrun
  obtain ⟨foundNew, hfoundNew, hrun⟩ := run_check_ok (.gets _) hrun
  obtain ⟨plan, hplan, hrun⟩ := run_check_ok (.okOr _ _) hrun
  obtain ⟨_, -, hrun⟩ := run_check_ok (.failIf _ _) hrun
  obtain ⟨_, hchecks, -⟩ := run_check_ok (Modifies.checkPlanMigration _ _ _) hrun
  obtain ⟨_, hfamily, hchecks⟩ := run_check_ok (.failIf _ _) hchecks
  obtain ⟨_, hversion, -⟩ := run_check_ok (.failIf _ _) hchecks
  refine ⟨currentId, current, plan, (run_load_ok.mp hpinned).1.trans (run_okOr_ok.mp hcurrentId).1,
    (run_gets_ok.mp hfound).1.trans (run_okOr_ok.mp hcurrent).1,
    (run_gets_ok.mp hfoundNew).1.trans (run_okOr_ok.mp hplan).1, ?_, ?_⟩
  · exact not_not.mp (run_failIf_ok.mp hfamily).1
  · exact Nat.lt_of_not_le (run_failIf_ok.mp hversion).1

end Calls

/-! ## Runs -/

inductive PlanAction where
  | call (env : Env) (call : VaultCall)
  | catalogue (env : Env) (call : CatalogueCall)
  /-- An entrypoint that is not listed, a transfer of tokens outside the vault, or nothing. -/
  | other (env : Env)

inductive PlanStep : PlanAction → State → State → Prop
  | call {env : Env} {call : VaultCall} {s t : State} :
      call.exec.run env s = .ok () t → PlanStep (.call env call) s t
  | catalogue {env : Env} {call : CatalogueCall} {s t : State} :
      call.exec.run env s = .ok () t → PlanStep (.catalogue env call) s t
  | other {env : Env} {s t : State} :
      FiniteStore.AgreeOff (areas (foreignAreas.erase .plans)) s t → PlanStep (.other env) s t

section Runs

variable {env : Env} {start s t u w : State} {l : PlanAction} {planId : Nat}
  {hist later : History PlanAction State}

theorem PlanStep.moves (h : PlanStep l s t) : s.catalogue.Moves t.catalogue := by
  cases h with
  | @call env call _ _ hrun =>
    have hquiet : (Area.locks :: call.areas).contains .plans = false := by cases call <;> rfl
    rw [State.catalogue_of_areas ((VaultCall.worksIn call).ok hrun).1 hquiet]
    exact .kept
  | catalogue hrun => exact CatalogueCall.moves hrun
  | other hagree =>
    rw [State.catalogue_of_areas hagree rfl]
    exact .kept

theorem Deployed.catalogue_sound (h : Deployed s) : s.catalogue.Sound := by
  have hempty : s.catalogue = State.catalogue FiniteStore.empty :=
    State.catalogue_of_areas h.areas rfl
  rw [hempty]
  exact ⟨Nat.zero_le _, nofun⟩

theorem catalogue_sound_of_run (hdeployed : Deployed start) (hrun : Run PlanStep start hist s) :
    s.catalogue.Sound :=
  hrun.invariant_state (I := fun s => s.catalogue.Sound) hdeployed.catalogue_sound
    fun _ _ _ hsound hstep => hstep.moves.sound hsound

theorem closed_of_run (hsound : w.catalogue.Sound) (hclosed : w.catalogue.IsClosed planId)
    (hlast : planId < u32Max) (hrun : Run PlanStep w later t) : t.catalogue.IsClosed planId :=
  (hrun.invariant_state (I := fun s => s.catalogue.Sound ∧ s.catalogue.IsClosed planId)
    ⟨hsound, hclosed⟩ fun _ _ _ h hstep =>
      ⟨hstep.moves.sound h.1, hstep.moves.keeps_closed h.1 h.2 hlast⟩).2

/-- After a plan was deprecated no subscription is created from it, and one is migrated onto it
only from an earlier version of the plan. -/
theorem deprecated_plan_stays_closed {merchant : Address} (hdeployed : Deployed start)
    (hrun : Run PlanStep start hist u)
    (hdeprecate : PlanStep (.catalogue env (.deprecatePlan merchant planId)) u w)
    (hlast : planId < u32Max) (hlater : Run PlanStep w later t) :
    ∀ l v v', (l, v, v') ∈ transitions later t →
      (∀ env' subscriber label,
        l ≠ .call env' (.createSubscriptionFromPlan subscriber planId label)) ∧
      ∀ env' subscriber id, l = .call env' (.migrateSubscriptionToPlan subscriber id planId) →
        v.OnEarlierVersion id planId := by
  intro l v v' hmem
  have hsound : w.catalogue.Sound :=
    hdeprecate.moves.sound (catalogue_sound_of_run hdeployed hrun)
  have hclosed : w.catalogue.IsClosed planId := by
    cases hdeprecate with
    | catalogue hcall => exact (doDeprecatePlan_closes hcall).2
  obtain ⟨earlier, hearlier, -, hstep⟩ := hlater.before_transition hmem
  constructor
  · rintro env' subscriber label rfl
    cases hstep with
    | call hcall =>
      obtain ⟨id, hcreate⟩ := run_effectOf_ok.mp hcall
      exact doCreateSubscriptionFromPlan_open (run_stoppableCall_ok.mp hcreate).2
        (closed_of_run hsound hclosed hlast hearlier)
  · rintro env' subscriber id rfl
    cases hstep with
    | call hcall => exact doMigrateSubscriptionToPlan_later hcall

end Runs

/-! ## A migration onto a closed plan -/

/-- A subscription is created from a plan, and the next version of the plan is deprecated. -/
private structure ClosedVersion (hist : History PlanAction State) (u w t : State) : Prop where
  run : Run PlanStep (sampleStart 0) hist u
  deprecated : PlanStep (.catalogue (sampleEnv 3 [⟨1⟩]) (.deprecatePlan ⟨1⟩ 1)) u w
  migrated : PlanStep (.call (sampleEnv 4 [⟨2⟩]) (.migrateSubscriptionToPlan ⟨2⟩ 0 1)) w t
  before : w.subPlan 0 = some 0
  after : t.subPlan 0 = some 1

private theorem closedVersion : ∃ hist u w t, ClosedVersion hist u w t := by
  have hvault : PlanStep (.other (sampleEnv 0 [])) (sampleStart 0) (afterCalls (sampleVault 0)) :=
    .other ((sample_areas 0).mono (areas_mono rfl))
  let plan := CatalogueCall.createPlanTemplate ⟨1⟩ 10 60 false none
  let subscribe := VaultCall.createSubscriptionFromPlan ⟨2⟩ 0 none
  let update := CatalogueCall.updatePlanTemplate ⟨1⟩ 0 20 60 false none
  let planned := plan.exec.after (sampleEnv 0 [⟨1⟩]) (afterCalls (sampleVault 0))
  let subscribed := subscribe.exec.after (sampleEnv 1 [⟨2⟩]) planned
  let updated := update.exec.after (sampleEnv 2 [⟨1⟩]) subscribed
  have hplan : PlanStep (.catalogue (sampleEnv 0 [⟨1⟩]) plan) (afterCalls (sampleVault 0))
      planned := .catalogue (run_eq_after (by decide +kernel))
  have hsubscribe : PlanStep (.call (sampleEnv 1 [⟨2⟩]) subscribe) planned subscribed :=
    .call (run_eq_after (by decide +kernel))
  have hupdate : PlanStep (.catalogue (sampleEnv 2 [⟨1⟩]) update) subscribed updated :=
    .catalogue (run_eq_after (by decide +kernel))
  exact ⟨_, updated, _, _,
    { run := (((Run.start.next hvault).next hplan).next hsubscribe).next hupdate
      deprecated := .catalogue (run_eq_after (by decide +kernel))
      migrated := .call (run_eq_after (by decide +kernel))
      before := by decide +kernel
      after := by decide +kernel }⟩

theorem migrates_from_earlier_version : ∃ (hist later : History PlanAction State) (u w t : State),
    Run PlanStep (sampleStart 0) hist u ∧
    PlanStep (.catalogue (sampleEnv 3 [⟨1⟩]) (.deprecatePlan ⟨1⟩ 1)) u w ∧
    Run PlanStep w later t ∧ later ≠ [] ∧ w.OnEarlierVersion 0 1 := by
  obtain ⟨hist, u, w, t, h⟩ := closedVersion
  have hlater : Run PlanStep w _ t := Run.start.next h.migrated
  refine ⟨hist, _, u, w, t, h.run, h.deprecated, hlater, by simp, ?_⟩
  exact (deprecated_plan_stays_closed (sample_deployed 0) h.run h.deprecated (by decide) hlater
    _ _ _ List.mem_cons_self).2 _ _ _ rfl

/-- The subscriber moves onto the deprecated version. -/
theorem migrated_onto_deprecated : ∃ (hist later : History PlanAction State) (u w t : State),
    Deployed (sampleStart 0) ∧ Run PlanStep (sampleStart 0) hist u ∧
    PlanStep (.catalogue (sampleEnv 3 [⟨1⟩]) (.deprecatePlan ⟨1⟩ 1)) u w ∧
    Run PlanStep w later t ∧
    (.call (sampleEnv 4 [⟨2⟩]) (.migrateSubscriptionToPlan ⟨2⟩ 0 1), w, t) ∈
      transitions later t ∧
    w.subPlan 0 = some 0 ∧ t.subPlan 0 = some 1 := by
  obtain ⟨hist, u, w, t, h⟩ := closedVersion
  exact ⟨hist, _, u, w, t, sample_deployed 0, h.run, h.deprecated, Run.start.next h.migrated,
    List.mem_cons_self, h.before, h.after⟩

end SubscriptionVault
