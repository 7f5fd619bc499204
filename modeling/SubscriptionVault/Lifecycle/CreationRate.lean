import SubscriptionVault.Charging.Errors
import SubscriptionVault.Framework.Aborts
import SubscriptionVault.Framework.RateWindow
import SubscriptionVault.Lifecycle.Transactions

/-!
# The rate of creations

Every way to create a subscription passes the same limiter: the first creation of a subscriber
opens a window of a day, and in it so many are let through. The limiter takes the number from
the instance entry, where the configuration is only kept before schema version 3.
-/

namespace SubscriptionVault

open Exec

/-! ## The limiter -/

/-- The number the limiter goes by. -/
def State.enforcedCreateCap (s : State) : Nat :=
  (s.read (.instanced .subscriberCreateCap)).getD 50

def State.createWindow (s : State) (subscriber : Address) : Option SubscriberCreateWindow :=
  s.read (.persistent (.subscriberCreateWindow subscriber))

/-- The stored window, or a new one where it is over. -/
def State.currentCreateWindow (s : State) (now : Nat) (subscriber : Address) :
    SubscriberCreateWindow :=
  let window := (s.createWindow subscriber).getD ⟨now, 0⟩
  if wrapU64 (window.startTs + secondsInDay) ≤ now then ⟨now, 0⟩ else window

section Limiter

variable {env : Env} {s t : State} {subscriber : Address}

/-- The limiter runs its course. -/
theorem enforceCreationRateLimit_returns (subscriber : Address) :
    (enforceCreationRateLimit subscriber).Returns :=
  .bind .ask fun _ => .bind (.gets _) fun _ => .when <| .bind (.gets _) fun _ =>
    .bind (.failIf _ _) fun _ => .bind (.gets _) fun _ => .bind (.failIf _ _) fun _ => .update _

/-- For anybody but the admin a creation is counted if there is room for it. -/
theorem run_enforceCreationRateLimit_ok (hadmin : s.admin ≠ some subscriber) {u : Unit}
    (hrun : (enforceCreationRateLimit subscriber).run env s = .ok u t) :
    (s.currentCreateWindow env.now subscriber).count < s.enforcedCreateCap ∧
      s.write (.persistent (.subscriberCreateWindow subscriber))
        { s.currentCreateWindow env.now subscriber with
          count := (s.currentCreateWindow env.now subscriber).count + 1 } = t := by
  obtain ⟨_, hask, hrun⟩ := run_check_ok .ask hrun
  obtain ⟨rfl, -⟩ := run_ask_ok.mp hask
  obtain ⟨admin, hget, hrun⟩ := run_check_ok (.gets _) hrun
  obtain ⟨rfl, -⟩ := run_gets_ok.mp hget
  rw [Exec.when, if_pos hadmin] at hrun
  obtain ⟨cap, hcap, hrun⟩ := run_check_ok Modifies.load hrun
  obtain ⟨rfl, -⟩ := run_load_ok.mp hcap
  obtain ⟨_, -, hrun⟩ := run_check_ok (.failIf _ _) hrun
  obtain ⟨found, hfound, hrun⟩ := run_check_ok Modifies.load hrun
  obtain ⟨rfl, -⟩ := run_load_ok.mp hfound
  obtain ⟨_, hroom, hrun⟩ := run_check_ok (.failIf _ _) hrun
  exact ⟨Nat.not_le.mp (run_failIf_ok.mp hroom).1, run_store_ok.mp hrun⟩

/-- Who is turned down has used up the window. -/
theorem run_enforceCreationRateLimit_err {e : Error}
    (hrun : (enforceCreationRateLimit subscriber).run env s = .err e t) :
    s.admin ≠ some subscriber ∧
      s.enforcedCreateCap ≤ (s.currentCreateWindow env.now subscriber).count := by
  have hquiet : e ∉ (∅ : Set Error) := Set.notMem_empty e
  obtain ⟨_, hask, hrun⟩ := Raises.ask.run_check_err .ask hquiet hrun
  obtain ⟨rfl, -⟩ := run_ask_ok.mp hask
  obtain ⟨admin, hget, hrun⟩ := (Raises.gets _).run_check_err (.gets _) hquiet hrun
  obtain ⟨rfl, -⟩ := run_gets_ok.mp hget
  obtain ⟨hadmin, hrun⟩ := run_when_err.mp hrun
  refine ⟨hadmin, ?_⟩
  obtain ⟨cap, hcap, hrun⟩ := raises_load.run_check_err Modifies.load hquiet hrun
  obtain ⟨rfl, -⟩ := run_load_ok.mp hcap
  rcases run_bind_err.mp hrun with hnone | ⟨_, u, hsome, hrun⟩
  · exact (run_failIf_err.mp hnone).1.trans_le (Nat.zero_le _)
  obtain ⟨-, rfl⟩ := run_failIf_ok.mp hsome
  obtain ⟨found, hfound, hrun⟩ := raises_load.run_check_err Modifies.load hquiet hrun
  obtain ⟨rfl, -⟩ := run_load_ok.mp hfound
  rcases run_bind_err.mp hrun with hfull | ⟨_, u, -, hrun⟩
  · exact (run_failIf_err.mp hfull).1
  · exact absurd hrun (by simp)

end Limiter

/-! ## Every creation passes it -/

/-- What a creation writes besides the window of its subscriber. -/
def afterLimitAreas : List Area :=
  [.numbering, .records, .activeCounts, .planLinks, .splits, .credentials] ++ indexAreas

/-- The errors of a creation that the limiter does not give. -/
def otherRefusals : Set Error := {e | e ≠ .subscriberRateLimited}

/-- The code asks the limiter once, before it writes anything, and nothing else turns it down for
its rate. -/
structure AsksLimiter {α : Type} (subscriber : Address) (x : Vault α) : Prop where
  passed : ∀ {env s a t}, x.run env s = .ok a t →
    ∃ u, (enforceCreationRateLimit subscriber).run env s = .ok () u ∧
      FiniteStore.AgreeOff (areas afterLimitAreas) u t
  refused : ∀ {env s t}, x.run env s = .err .subscriberRateLimited t →
    ∃ u, (enforceCreationRateLimit subscriber).run env s = .err .subscriberRateLimited u

namespace AsksLimiter

variable {α β : Type} {subscriber : Address} {x : Vault α} {f : α → Vault β}

theorem check (hx : x.Keeps Eq) (hraises : x.Raises otherRefusals)
    (hf : ∀ a, AsksLimiter subscriber (f a)) : AsksLimiter subscriber (x >>= f) where
  passed hrun := by
    obtain ⟨a, -, hrun⟩ := run_check_ok hx hrun
    exact (hf a).passed hrun
  refused hrun := by
    obtain ⟨a, -, hrun⟩ := hraises.run_check_err hx (fun h => h rfl) hrun
    exact (hf a).refused hrun

theorem bind_gets {g : State → α} (hf : ∀ s, AsksLimiter subscriber (f (g s))) :
    AsksLimiter subscriber (gets g >>= f) where
  passed hrun := by
    obtain ⟨a, hget, hrun⟩ := run_check_ok (.gets _) hrun
    obtain ⟨rfl, -⟩ := run_gets_ok.mp hget
    exact (hf _).passed hrun
  refused {env s t} hrun := by
    obtain ⟨a, hget, hrun⟩ :=
      (Raises.gets _).run_check_err (.gets _) (Set.notMem_empty Error.subscriberRateLimited) hrun
    obtain ⟨rfl, -⟩ := run_gets_ok.mp hget
    exact (hf _).refused hrun

theorem limit {rest : Unit → Vault α} (hrest : Modifies (areas afterLimitAreas) (rest ()))
    (hraises : (rest ()).Raises otherRefusals) :
    AsksLimiter subscriber (enforceCreationRateLimit subscriber >>= rest) where
  passed hrun := by
    obtain ⟨_, u, hlimit, hrun⟩ := run_bind_ok.mp hrun
    exact ⟨u, hlimit, hrest.ok hrun⟩
  refused hrun := by
    rcases run_bind_err.mp hrun with hlimit | ⟨_, u, -, hrun⟩
    · exact ⟨_, hlimit⟩
    · exact absurd rfl (hraises _ _ _ _ hrun)

theorem andThen (hx : AsksLimiter subscriber x) (hf : ∀ a, Modifies (areas afterLimitAreas) (f a))
    (hraises : ∀ a, (f a).Raises otherRefusals) : AsksLimiter subscriber (x >>= f) where
  passed hrun := by
    obtain ⟨a, v, hfirst, hrun⟩ := run_bind_ok.mp hrun
    obtain ⟨u, hlimit, hagree⟩ := hx.passed hfirst
    exact ⟨u, hlimit, hagree.trans ((hf a).ok hrun)⟩
  refused hrun := by
    rcases run_bind_err.mp hrun with hfirst | ⟨a, v, -, hrun⟩
    · exact hx.refused hfirst
    · exact absurd rfl (hraises a _ _ _ _ hrun)

theorem stoppable (hx : AsksLimiter subscriber x) : AsksLimiter subscriber (stoppableCall x) :=
  .check Modifies.requireNotEmergencyStop
    (.bind (.gets _) fun _ => .failIf (by simp [otherRefusals])) fun _ => hx

theorem effect (hx : AsksLimiter subscriber x) : AsksLimiter subscriber (effectOf x) where
  passed hrun := by
    obtain ⟨a, hrun⟩ := run_effectOf_ok.mp hrun
    exact hx.passed hrun
  refused hrun := hx.refused (run_effectOf_err.mp hrun)

end AsksLimiter

section Creations

private theorem raises_failIf {c : Prop} [Decidable c] {e : Error}
    (h : e ≠ .subscriberRateLimited) : (failIf c e : Vault Unit).Raises otherRefusals :=
  .failIf h

private theorem raises_unlisted (a : Address) :
    (requireNotBlocklisted a).Raises otherRefusals :=
  .bind (.gets _) fun _ => raises_failIf nofun

private theorem raises_counts (subscriber merchant : Address) :
    (enforceSubscriptionCounts subscriber merchant).Raises otherRefusals :=
  .bind (.gets _) fun _ => .bind (.gets _) fun _ => .bind (raises_failIf nofun) fun _ =>
    .bind (.gets _) fun _ => .bind (.gets _) fun _ => raises_failIf nofun

private theorem raises_creditLimit (subscriber token : Address) (amount : Int) :
    (enforceCreditLimitForDelta subscriber token amount).Raises otherRefusals :=
  .bind_gets fun _ => .lift
    (fails_creditLimitForDelta (E := otherRefusals) nofun nofun nofun _ _ _ _)

private theorem raises_push (key : DataKey) [Holds DataKey.Val key (List Nat)] (id : Nat) :
    (pushIndex key id).Raises otherRefusals :=
  .bind raises_load fun _ => raises_store

private theorem raises_index (id : Nat) (sub : Subscription) :
    (indexSubscription id sub).Raises otherRefusals :=
  .bind (raises_push _ _) fun _ => .bind (raises_push _ _) fun _ => raises_push _ _

private theorem raises_count (subscriber : Address) :
    (incrementSubscriberActiveCount subscriber).Raises otherRefusals :=
  .bind (.gets _) fun _ => raises_store

private theorem raises_defaultToken (s : State) : FailsIn otherRefusals s.defaultToken := by
  unfold State.defaultToken
  cases s.config .token with
  | none => exact .error nofun
  | some token => exact .ok token

private theorem raises_writeConfig {α : Type} (key : DataKey) [Holds DataKey.Val key α] (v : α) :
    (writeConfig key v).Raises otherRefusals :=
  .of_silent (by simp [writeConfig])

/-- The part of a creation behind the limiter. -/
private def createPaced (new : NewSubscription) (now : Nat) : Vault Nat := do
  enforceSubscriptionCounts new.subscriber new.merchant
  validateInterval new.intervalSeconds
  validateExpiry new.expiresAt new.expiresAtLedger
  let accepted ← gets (·.isTokenAccepted new.token)
  failIf (accepted = false) .invalidInput
  let cap ← gets (·.resolveCap new.merchant new.lifetimeCap)
  validateCap cap new.amount
  enforceCreditLimitForDelta new.subscriber new.token new.amount
  let id ← gets (·.nextSubscriptionId)
  when (new.usageEnabled = true) (requireUsageLimits id new.merchant)
  failIf (id = u32Max) .subscriptionLimitReached
  writeConfig .nextId (id + 1)
  writeSubscription id (new.record cap now now)
  incrementSubscriberActiveCount new.subscriber
  indexSubscription id (new.record cap now now)
  issueCredential id
  pure id

private theorem createPaced_areas (new : NewSubscription) (now : Nat) :
    Modifies (areas afterLimitAreas) (createPaced new now) :=
  .bind (Modifies.enforceSubscriptionCounts _ _) fun _ => .bind (.failIf _ _) fun _ =>
    .bind (Modifies.validateExpiry _ _) fun _ => .bind (.gets _) fun _ =>
    .bind (.failIf _ _) fun _ => .bind (.gets _) fun _ => .bind (Modifies.validateCap _ _) fun _ =>
    .bind (Modifies.enforceCreditLimitForDelta _ _ _) fun _ => .bind (.gets _) fun _ =>
    .bind (.when (Modifies.requireUsageLimits _ _)) fun _ => .bind (.failIf _ _) fun _ =>
    .bind (Modifies.writeConfig rfl rfl) fun _ =>
    .bind ((writeSubscription_areas _ _).widen rfl) fun _ =>
    .bind ((incrementSubscriberActiveCount_areas _).widen rfl) fun _ =>
    .bind ((indexSubscription_areas _ _).widen rfl) fun _ =>
    .bind ((issueCredential_areas _).widen rfl) fun _ => .pure _

private theorem raises_createPaced (new : NewSubscription) (now : Nat) :
    (createPaced new now).Raises otherRefusals :=
  .bind (raises_counts _ _) fun _ => .bind (raises_failIf nofun) fun _ =>
    .bind (.bind .ask fun _ => .bind (raises_failIf nofun) fun _ => raises_failIf nofun) fun _ =>
    .bind (.gets _) fun _ => .bind (raises_failIf nofun) fun _ => .bind (.gets _) fun _ =>
    .bind (.bind (raises_failIf nofun) fun _ => raises_failIf nofun) fun _ =>
    .bind (raises_creditLimit _ _ _) fun _ => .bind (.gets _) fun _ =>
    .bind (.when (.bind raises_load fun _ => raises_failIf nofun)) fun _ =>
    .bind (raises_failIf nofun) fun _ => .bind (raises_writeConfig _ _) fun _ =>
    .bind raises_store fun _ => .bind (raises_count _) fun _ => .bind (raises_index _ _) fun _ =>
    .bind (.bind .ask fun _ => raises_store) fun _ => .pure _

theorem doCreateSubscriptionWithToken_limited (new : NewSubscription) :
    AsksLimiter new.subscriber (doCreateSubscriptionWithToken new) := by
  refine .check .ask .ask fun env => ?_
  refine .check (Modifies.requireAuth _) (raises_requireAuth _) fun _ => ?_
  refine .check (.failIf _ _) (raises_failIf nofun) fun _ => ?_
  refine .check (Modifies.requireNotBlocklisted _) (raises_unlisted _) fun _ => ?_
  refine .check (Modifies.requireNotBlocklisted _) (raises_unlisted _) fun _ => ?_
  exact AsksLimiter.limit (createPaced_areas new env.now) (raises_createPaced new env.now)

theorem doCreateSubscription_limited (new : NewSubscription) :
    AsksLimiter new.subscriber (doCreateSubscription new) := by
  refine .check (.failIf _ _) (raises_failIf nofun) fun _ => .bind_gets fun s => ?_
  refine .check (.lift _) (.lift (raises_defaultToken s)) fun token => ?_
  refine .check (Modifies.enforceCreditLimitForDelta _ _ _) (raises_creditLimit _ _ _) fun _ => ?_
  exact doCreateSubscriptionWithToken_limited { new with token }

theorem createSubscriptionWithSplit_limited (new : NewSubscription)
    (entries : List (Address × Nat)) :
    AsksLimiter new.subscriber (createSubscriptionWithSplit new entries) := by
  have hentries (entries : List (Address × Nat)) (total : Nat) :
      (checkSplitEntries entries total).Raises otherRefusals := by
    induction entries generalizing total with
    | nil => exact .pure _
    | cons entry rest ih =>
      exact .bind (raises_failIf nofun) fun _ => .bind (.okOr nofun) fun _ =>
        .bind (raises_unlisted _) fun _ => ih _
  have hvalid : (validateSplit entries).Raises otherRefusals :=
    .bind (raises_failIf nofun) fun _ => .bind (hentries _ _) fun _ => raises_failIf nofun
  have hsplit (id : Nat) : FailsIn otherRefusals (SplitPayees.of id entries) := by
    unfold SplitPayees.of
    split
    · exact .ok _
    · exact .error nofun
  have hcreate : AsksLimiter new.subscriber
      (doCreateSubscription { new with expiresAtLedger := none, subAccountLabel := none }) :=
    doCreateSubscription_limited { new with expiresAtLedger := none, subAccountLabel := none }
  refine .check (Modifies.validateSplit _) hvalid fun _ => ?_
  refine hcreate.andThen (fun id => ?_) fun id => ?_
  · exact .bind (.lift _) fun _ => .bind (Modifies.store rfl) fun _ => .pure _
  · exact .bind (.lift (hsplit id)) fun _ => .bind raises_store fun _ => .pure _

/-- The part of a creation from a plan behind the limiter. -/
private def createPlanned (subscriber : Address) (planId : Nat) (label : Option Symbol)
    (now : Nat) : Vault Nat := do
  let found ← gets (·.planTemplate planId)
  let plan ← okOr found .notFound
  validateSubscriptionAmount plan.amount
  failIf plan.isDisabled .invalidInput
  enforceSubscriptionCounts subscriber plan.merchant
  enforceCreditLimitForDelta subscriber plan.token plan.amount
  enforcePlanConcurrencyLimit subscriber planId
  let id ← gets (·.nextSubscriptionId)
  let nextId ← okOr (checkedAddU32 id 1) .overflow
  writeConfig .nextId nextId
  let cap ← gets (·.resolveCap plan.merchant plan.lifetimeCap)
  let sub := (plan.subscription subscriber label).record cap now
    (saturatingAddU64 now plan.effectiveTrialPeriodSeconds)
  writeSubscription id sub
  incrementSubscriberActiveCount subscriber
  store (.instanced (.subPlan id)) planId
  indexSubscription id sub
  pure id

theorem doCreateSubscriptionFromPlan_limited (subscriber : Address) (planId : Nat)
    (label : Option Symbol) :
    AsksLimiter subscriber (doCreateSubscriptionFromPlan subscriber planId label) := by
  have hareas (now : Nat) :
      Modifies (areas afterLimitAreas) (createPlanned subscriber planId label now) :=
    .bind (.gets _) fun _ => .bind (.okOr _ _) fun _ => .bind (.failIf _ _) fun _ =>
      .bind (.failIf _ _) fun _ => .bind (Modifies.enforceSubscriptionCounts _ _) fun _ =>
      .bind (Modifies.enforceCreditLimitForDelta _ _ _) fun _ =>
      .bind (Modifies.enforcePlanConcurrencyLimit _ _) fun _ => .bind (.gets _) fun _ =>
      .bind (.okOr _ _) fun _ => .bind (Modifies.writeConfig rfl rfl) fun _ =>
      .bind (.gets _) fun _ => .bind ((writeSubscription_areas _ _).widen rfl) fun _ =>
      .bind ((incrementSubscriberActiveCount_areas _).widen rfl) fun _ =>
      .bind (Modifies.store rfl) fun _ =>
      .bind ((indexSubscription_areas _ _).widen rfl) fun _ => .pure _
  have hcounted (s : State) :
      FailsIn otherRefusals (s.countActiveSubscriptionsForPlan subscriber planId) :=
    .ite (.error nofun) (.ok _)
  have hplan : (enforcePlanConcurrencyLimit subscriber planId).Raises otherRefusals :=
    .bind raises_load fun _ => .when (.bind_gets fun s => .bind (.lift (hcounted s)) fun _ =>
      raises_failIf nofun)
  have hraises (now : Nat) :
      (createPlanned subscriber planId label now).Raises otherRefusals :=
    .bind (.gets _) fun _ => .bind (.okOr nofun) fun _ => .bind (raises_failIf nofun) fun _ =>
      .bind (raises_failIf nofun) fun _ => .bind (raises_counts _ _) fun _ =>
      .bind (raises_creditLimit _ _ _) fun _ => .bind hplan fun _ => .bind (.gets _) fun _ =>
      .bind (.okOr nofun) fun _ => .bind (raises_writeConfig _ _) fun _ => .bind (.gets _) fun _ =>
      .bind raises_store fun _ => .bind (raises_count _) fun _ => .bind raises_store fun _ =>
      .bind (raises_index _ _) fun _ => .pure _
  refine .check .ask .ask fun env => ?_
  refine .check (Modifies.requireAuth _) (raises_requireAuth _) fun _ => ?_
  refine .check (Modifies.requireNotBlocklisted _) (raises_unlisted _) fun _ => ?_
  exact AsksLimiter.limit (hareas env.now) (hraises env.now)

end Creations

/-- Whoever creates a subscription with the call. -/
def VaultCall.creator : VaultCall → Option Address
  | .createSubscription new | .createSubscriptionWithToken new
  | .createSubscriptionWithSplit new _ => some new.subscriber
  | .createSubscriptionFromPlan subscriber _ _ => some subscriber
  | _ => none

theorem VaultCall.asksLimiter {call : VaultCall} {subscriber : Address}
    (h : call.creator = some subscriber) : AsksLimiter subscriber call.exec := by
  cases call
  case createSubscription new =>
    obtain rfl := Option.some.inj h
    exact (doCreateSubscription_limited new).stoppable.effect
  case createSubscriptionWithToken new =>
    obtain rfl := Option.some.inj h
    exact (doCreateSubscriptionWithToken_limited
      { new with prorationEnabled := false }).stoppable.effect
  case createSubscriptionWithSplit new entries =>
    obtain rfl := Option.some.inj h
    exact (createSubscriptionWithSplit_limited new entries).stoppable.effect
  case createSubscriptionFromPlan creator planId label =>
    obtain rfl := Option.some.inj h
    exact (doCreateSubscriptionFromPlan_limited creator planId label).stoppable.effect
  all_goals cases h

/-- The other calls leave the windows alone. -/
theorem VaultCall.createWindow_of_none {call : VaultCall} {env : Env} {s t : State}
    {subscriber : Address} (h : call.creator = none) (hrun : call.exec.run env s = .ok () t) :
    t.createWindow subscriber = s.createWindow subscriber := by
  have hareas : (.locks :: call.areas).contains .createWindows = false := by
    cases call
    case createSubscription | createSubscriptionWithToken | createSubscriptionWithSplit
      | createSubscriptionFromPlan => cases h
    all_goals rfl
  exact State.read_of_areas (k := .persistent (.subscriberCreateWindow subscriber))
    (call.worksIn.ok hrun).1 hareas

/-! ## Windows of a run -/

/-- The time of a creation the limiter counts. The admin's are not counted. -/
def createdAt (subscriber : Address) (step : Transaction × State) : Option Nat :=
  match step.1 with
  | .call env call =>
    if call.creator = some subscriber ∧ step.2.admin ≠ some subscriber then some env.now else none
  | .other _ => none

theorem createdAt_time {subscriber : Address} {step : Transaction × State} {now : Nat}
    (h : createdAt subscriber step = some now) : step.1.env.now = now := by
  obtain ⟨l, s⟩ := step
  cases l with
  | other => cases h
  | call env call => exact Option.some.inj (Option.ite_none_right_eq_some.mp h).2

def creationTimes (subscriber : Address) (hist : History Transaction State) : List Nat :=
  hist.filterMap (createdAt subscriber)

theorem creationTimes_append (subscriber : Address) (recent old : History Transaction State) :
    creationTimes subscriber (recent ++ old) =
      creationTimes subscriber recent ++ creationTimes subscriber old :=
  List.filterMap_append

section Windows

variable {env : Env} {s t start : State} {l : Transaction} {subscriber : Address} {now : Nat}
  {hist : History Transaction State} {log : List Nat}

theorem enforceCreationRateLimit_slots (other : Address) :
    Modifies {.persistent (.subscriberCreateWindow other)} (enforceCreationRateLimit other) :=
  .bind .ask fun _ => .bind (.gets _) fun _ => .when <| .bind Modifies.load fun _ =>
    .bind (.failIf _ _) fun _ => .bind Modifies.load fun _ => .bind (.failIf _ _) fun _ =>
    Modifies.store rfl

/-- What is not a counted creation of the subscriber leaves the window. -/
theorem Transacts.createWindow_kept (h : Transacts l s t)
    (huncounted : createdAt subscriber (l, s) = none) :
    t.createWindow subscriber = s.createWindow subscriber := by
  cases h with
  | other hagree =>
    exact State.read_of_areas (k := .persistent (.subscriberCreateWindow subscriber)) hagree rfl
  | @call env call _ _ hrun =>
    cases hcreator : call.creator with
    | none => exact VaultCall.createWindow_of_none hcreator hrun
    | some creator =>
      obtain ⟨u, hlimit, hagree⟩ := (VaultCall.asksLimiter hcreator).passed hrun
      have hafter : t.createWindow subscriber = u.createWindow subscriber :=
        State.read_of_areas (k := .persistent (.subscriberCreateWindow subscriber)) hagree rfl
      rw [hafter]
      by_cases hself : creator = subscriber
      · subst hself
        have hadmin : s.admin = some creator := by
          by_contra hadmin
          have hcounted : createdAt creator (.call env call, s) = some env.now :=
            if_pos ⟨hcreator, hadmin⟩
          cases hcounted.symm.trans huncounted
        obtain ⟨_, -, hlimit⟩ := run_check_ok .ask hlimit
        obtain ⟨admin, hget, hlimit⟩ := run_check_ok (.gets _) hlimit
        obtain ⟨rfl, -⟩ := run_gets_ok.mp hget
        rw [Exec.when, if_neg (not_not.mpr hadmin)] at hlimit
        obtain ⟨-, rfl⟩ := run_pure_ok.mp hlimit
        rfl
      · have hother : Slot.persistent (.subscriberCreateWindow subscriber) ∉
            ({.persistent (.subscriberCreateWindow creator)} : Set Slot) := by
          simpa using fun h : subscriber = creator => hself h.symm
        exact ((enforceCreationRateLimit_slots creator).ok hlimit).read hother

/-- A counted creation finds room in the window and is counted there. -/
theorem Transacts.createWindow_counted (h : Transacts l s t)
    (hcounted : createdAt subscriber (l, s) = some now) :
    (s.currentCreateWindow now subscriber).count < s.enforcedCreateCap ∧
      t.createWindow subscriber = some
        { s.currentCreateWindow now subscriber with
          count := (s.currentCreateWindow now subscriber).count + 1 } := by
  cases h with
  | other => cases hcounted
  | @call env call _ _ hrun =>
    obtain ⟨⟨hcreator, hadmin⟩, hnow⟩ := Option.ite_none_right_eq_some.mp hcounted
    obtain rfl := Option.some.inj hnow
    obtain ⟨u, hlimit, hagree⟩ := (VaultCall.asksLimiter hcreator).passed hrun
    obtain ⟨hroom, rfl⟩ := run_enforceCreationRateLimit_ok hadmin hlimit
    refine ⟨hroom, ?_⟩
    have hafter := State.read_of_areas (k := .persistent (.subscriberCreateWindow subscriber))
      hagree rfl
    exact hafter.trans (FiniteStore.read_write_self _ _)

/-- The stored window is that of the counted creations. -/
def State.CountsCreations (s : State) (subscriber : Address) (log : List Nat) : Prop :=
  s.createWindow subscriber =
    (rateWindow secondsInDay log).map fun window => ⟨window.opened, window.count⟩

/-- A creation now is counted in the window that comes next, unless the clock runs out. -/
theorem State.CountsCreations.next (h : s.CountsCreations subscriber log)
    (hclock : ∀ time ∈ log, time + secondsInDay ≤ u64Max) (now : Nat) :
    RateWindow.next secondsInDay now (rateWindow secondsInDay log) =
      ⟨(s.currentCreateWindow now subscriber).startTs,
        (s.currentCreateWindow now subscriber).count + 1⟩ := by
  unfold State.currentCreateWindow
  rw [h]
  cases hwindow : rateWindow secondsInDay log with
  | none =>
    simp only [Option.map_none, Option.getD_none, ite_self]
    rfl
  | some window =>
    have hends := wrapU64_of_le (hclock _ (opened_mem hwindow))
    simp only [Option.map_some, Option.getD_some, hends]
    unfold RateWindow.next
    dsimp only
    split <;> rfl

theorem countsCreations_of_run (hdeployed : Deployed start) (hrun : Run Transacts start hist s)
    (hclock : ∀ time ∈ creationTimes subscriber hist, time + secondsInDay ≤ u64Max) :
    s.CountsCreations subscriber (creationTimes subscriber hist) := by
  induction hrun with
  | start =>
    exact State.read_of_areas (k := .persistent (.subscriberCreateWindow subscriber))
      hdeployed.areas rfl
  | @next earlier u t l _ hstep ih =>
    have hearlier : ∀ time ∈ creationTimes subscriber earlier, time + secondsInDay ≤ u64Max := by
      refine fun time hmem => hclock time ?_
      obtain ⟨step, hstep, htime⟩ := List.mem_filterMap.mp hmem
      exact List.mem_filterMap.mpr ⟨step, List.mem_cons_of_mem _ hstep, htime⟩
    have hbefore := ih hearlier
    unfold State.CountsCreations
    cases hcounted : createdAt subscriber (l, u) with
    | none =>
      rw [hstep.createWindow_kept hcounted, creationTimes, List.filterMap_cons_none hcounted]
      exact hbefore
    | some now =>
      rw [(hstep.createWindow_counted hcounted).2, creationTimes,
        List.filterMap_cons_some hcounted, rateWindow]
      have hnext := hbefore.next hearlier now
      unfold creationTimes at hnext
      rw [hnext]
      rfl

/-- Where the limiter goes by the configured number, it counts no further than that. -/
theorem counts_of_run {recent old : History Transaction State} {c : Nat}
    (hdeployed : Deployed start) (hrun : Run Transacts start (recent ++ old) s)
    (hclock : ∀ time ∈ creationTimes subscriber (recent ++ old), time + secondsInDay ≤ u64Max)
    (hcap : ∀ step ∈ recent, (createdAt subscriber step).isSome → step.2.enforcedCreateCap = c) :
    ∀ later time earlier, creationTimes subscriber recent = later ++ time :: earlier →
      (RateWindow.next secondsInDay time
        (rateWindow secondsInDay (earlier ++ creationTimes subscriber old))).count ≤ c := by
  induction recent generalizing s with
  | nil =>
    intro later time earlier hlog
    exact absurd hlog (by simp [creationTimes])
  | cons step recent ih =>
    cases hrun with
    | @next _ u _ l hbefore hstep =>
      have hbefore : Run Transacts start (recent ++ old) u := hbefore
      have hearlier : ∀ time ∈ creationTimes subscriber (recent ++ old),
          time + secondsInDay ≤ u64Max := by
        refine fun time hmem => hclock time ?_
        obtain ⟨taken, htaken, htime⟩ := List.mem_filterMap.mp hmem
        exact List.mem_filterMap.mpr ⟨taken, List.mem_cons_of_mem _ htaken, htime⟩
      have hrest := ih hbefore hearlier fun taken hmem => hcap taken (List.mem_cons_of_mem _ hmem)
      intro later time earlier hlog
      cases hcounted : createdAt subscriber (l, u) with
      | none =>
        rw [creationTimes, List.filterMap_cons_none hcounted] at hlog
        exact hrest later time earlier hlog
      | some now =>
        rw [creationTimes, List.filterMap_cons_some hcounted] at hlog
        cases later with
        | cons _ later => exact hrest later time earlier (List.cons_eq_cons.mp hlog).2
        | nil =>
          obtain ⟨rfl, rfl⟩ := List.cons_eq_cons.mp hlog
          have hroom := (hstep.createWindow_counted hcounted).1
          rw [hcap _ List.mem_cons_self (by rw [hcounted]; rfl)] at hroom
          have hnext := (countsCreations_of_run hdeployed hbefore hearlier).next hearlier now
          rw [creationTimes_append] at hnext
          unfold creationTimes at hnext ⊢
          rw [hnext]
          exact hroom

/-- Who is turned down for the rate has used up a window that is not over. -/
theorem refused_of_run {call : VaultCall} (hdeployed : Deployed start)
    (hrun : Run Transacts start hist s)
    (hclock : ∀ time ∈ creationTimes subscriber hist, time + secondsInDay ≤ u64Max)
    (hcreator : call.creator = some subscriber)
    (hrefused : call.exec.run env s = .err .subscriberRateLimited t) :
    s.enforcedCreateCap = 0 ∨
      ∃ window, rateWindow secondsInDay (creationTimes subscriber hist) = some window ∧
        env.now < window.opened + secondsInDay ∧ s.enforcedCreateCap ≤ window.count := by
  obtain ⟨u, hlimit⟩ := (VaultCall.asksLimiter hcreator).refused hrefused
  obtain ⟨-, hfull⟩ := run_enforceCreationRateLimit_err hlimit
  rcases Nat.eq_zero_or_pos s.enforcedCreateCap with hzero | hpos
  · exact .inl hzero
  right
  have hnext := (countsCreations_of_run hdeployed hrun hclock).next hclock env.now
  cases hwindow : rateWindow secondsInDay (creationTimes subscriber hist) with
  | none =>
    rw [hwindow] at hnext
    have hcount : 1 = (s.currentCreateWindow env.now subscriber).count + 1 :=
      congrArg RateWindow.count hnext
    omega
  | some window =>
    rw [hwindow] at hnext
    unfold RateWindow.next at hnext
    dsimp only at hnext
    split at hnext
    · have hcount : 1 = (s.currentCreateWindow env.now subscriber).count + 1 :=
        congrArg RateWindow.count hnext
      omega
    · rename_i hopen
      have hcount : window.count + 1 = (s.currentCreateWindow env.now subscriber).count + 1 :=
        congrArg RateWindow.count hnext
      exact ⟨window, rfl, Nat.not_le.mp hopen, by omega⟩

end Windows

/-! ## The rate limit -/

/-- What the limit promises a subscriber in a state, where it has stood at `c` in the recent
part of the run. -/
structure CreationsPaced (subscriber : Address) (c : Nat) (recent old : History Transaction State)
    (s : State) : Prop where
  windows : WindowsHold secondsInDay c (creationTimes subscriber recent)
    (creationTimes subscriber old)
  /-- Nobody is turned down before the window is used up. -/
  refused : ∀ (env : Env) (call : VaultCall) (t : State), call.creator = some subscriber →
    call.exec.run env s = .err .subscriberRateLimited t → c = 0 ∨
      ∃ window, rateWindow secondsInDay (creationTimes subscriber (recent ++ old)) = some window ∧
        env.now < window.opened + secondsInDay ∧ c ≤ window.count
  uncounted : ∀ (env : Env) (call : VaultCall), (∀ t, call.exec.run env s ≠ .ok () t) →
    call.commit env s = s
  returns : ∀ env u, (enforceCreationRateLimit subscriber).run env u ≠ .trap

/-- The limit keeps its promise as long as the limiter goes by the configured number whenever the
subscriber creates, and the clock is a day or more away from its end. -/
theorem creations_paced_of_run {start s : State} {recent old : History Transaction State}
    {subscriber : Address} {c : Nat} (hdeployed : Deployed start)
    (hrun : Run Transacts start (recent ++ old) s)
    (horder : (recent ++ old).Pairwise fun later earlier => earlier.1.env.now ≤ later.1.env.now)
    (hcap : (∀ step ∈ recent, step.2.subscriberCreateCap = c) ∧ s.subscriberCreateCap = c)
    (hreads : (∀ step ∈ recent, (createdAt subscriber step).isSome →
        step.2.enforcedCreateCap = step.2.subscriberCreateCap) ∧
      s.enforcedCreateCap = s.subscriberCreateCap)
    (hclock : ∀ time ∈ creationTimes subscriber (recent ++ old),
      time + secondsInDay ≤ u64Max) :
    CreationsPaced subscriber c recent old s where
  windows := by
    refine windows_hold ?_ (counts_of_run hdeployed hrun hclock fun step hmem hcreated => ?_)
    · rw [← creationTimes_append]
      refine List.pairwise_filterMap.mpr (horder.imp fun {later earlier} hle => ?_)
      intro late hlate early hearly
      rw [← createdAt_time hlate, ← createdAt_time hearly]
      exact hle
    · exact (hreads.1 step hmem hcreated).trans (hcap.1 step hmem)
  refused env call t hcreator hrefused := by
    have hused := refused_of_run hdeployed hrun hclock hcreator hrefused
    rwa [hreads.2, hcap.2] at hused
  uncounted env call hfailed := after_of_not_ok hfailed
  returns env u := enforceCreationRateLimit_returns subscriber env u

/-- The subscriber creates two subscriptions on one day. -/
private def twoCreations : List (Env × VaultCall) :=
  [(sampleEnv 5 [⟨2⟩], .createSubscription sampleRequest),
   (sampleEnv 0 [⟨2⟩], .createSubscription sampleRequest)]

/-- The number is the default one. -/
theorem creations_paced_by_default : ∃ recent old s,
    Run Transacts (sampleStart 60) (recent ++ old) s ∧ creationTimes ⟨2⟩ recent = [5, 0] ∧ CreationsPaced ⟨2⟩ 50 recent old s := by
  have hrun := run_transactions (sample_transacted 60)
    (show allSucceed (afterCalls (sampleVault 60)) twoCreations = true by decide +kernel)
  have htimes : creationTimes ⟨2⟩ (transactionHistory (afterCalls (sampleVault 60)) twoCreations) =
      [5, 0] := by decide +kernel
  refine ⟨_, _, _, hrun, htimes, creations_paced_of_run (sample_deployed 60) hrun ?_ ?_ ?_ ?_⟩
  · decide +kernel
  · refine ⟨fun step hmem => ?_, by decide +kernel⟩
    simp only [twoCreations, transactionHistory, List.mem_cons, List.not_mem_nil, or_false] at hmem
    rcases hmem with rfl | rfl <;> decide +kernel
  · refine ⟨fun step hmem _ => ?_, by decide +kernel⟩
    simp only [twoCreations, transactionHistory, List.mem_cons, List.not_mem_nil, or_false] at hmem
    rcases hmem with rfl | rfl <;> decide +kernel
  · rw [creationTimes_append, htimes]
    decide +kernel

theorem doSetSubscriberCreateCap_areas (admin : Address) (cap : Nat) :
    Modifies (areas [.settings]) (doSetSubscriberCreateCap admin cap) :=
  .bind (Modifies.requireAdminAuth _) fun _ => Modifies.writeConfig rfl rfl

private def afterCapOfOne : State :=
  (doSetSubscriberCreateCap ⟨8⟩ 1).after (sampleEnv 0 [⟨8⟩]) (afterCalls (sampleVault 60))

/-- The admin allows one creation a day, and two go through. -/
theorem two_creations_on_one_day : ∃ (start s : State) (recent old : History Transaction State),
    Deployed start ∧ Run Transacts start (recent ++ old) s ∧
      (recent ++ old).Pairwise (fun later earlier => earlier.1.env.now ≤ later.1.env.now) ∧
      ((∀ step ∈ recent, step.2.subscriberCreateCap = 1) ∧ s.subscriberCreateCap = 1) ∧
      (∀ step ∈ recent, step.2.admin ≠ some ⟨2⟩) ∧
      (∀ time ∈ creationTimes ⟨2⟩ (recent ++ old), time + secondsInDay ≤ u64Max) ∧
      ¬CreationsPaced ⟨2⟩ 1 recent old s := by
  have hset : FiniteStore.AgreeOff (areas foreignAreas) (afterCalls (sampleVault 60))
      afterCapOfOne :=
    ((doSetSubscriberCreateCap_areas ⟨8⟩ 1).after (sampleEnv 0 [⟨8⟩]) _).mono (areas_mono rfl)
  have hstep : Transacts (.other (sampleEnv 0 [])) (afterCalls (sampleVault 60)) afterCapOfOne :=
    .other hset
  have hrun := run_transactions ((sample_transacted 60).next hstep)
    (show allSucceed afterCapOfOne twoCreations = true by decide +kernel)
  have htimes : creationTimes ⟨2⟩ (transactionHistory afterCapOfOne twoCreations) = [5, 0] := by
    decide +kernel
  refine ⟨_, _, _, _, sample_deployed 60, hrun, by decide +kernel,
    ⟨fun step hmem => ?_, by decide +kernel⟩, fun step hmem => ?_, ?_, fun hpaced => ?_⟩
  · simp only [twoCreations, transactionHistory, List.mem_cons, List.not_mem_nil, or_false] at hmem
    rcases hmem with rfl | rfl <;> decide +kernel
  · simp only [twoCreations, transactionHistory, List.mem_cons, List.not_mem_nil, or_false] at hmem
    rcases hmem with rfl | rfl <;> decide +kernel
  · rw [creationTimes_append, htimes]
    decide +kernel
  · have hwindows := hpaced.windows
    rw [htimes] at hwindows
    have htwo := hwindows [5] 0 [] rfl fun window hwindow => by cases hwindow
    exact absurd htwo (by decide)

end SubscriptionVault
