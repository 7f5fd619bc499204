import SubscriptionVault.Lifecycle.Prepaid
import SubscriptionVault.Lifecycle.Rewrites

/-!
# What a removal from the blocklist resumes

The removal goes through the subscriptions filed under the address and makes every paused one
active. A pause carries no date and no reason, so those that were paused before the listing, and
those that have run out since, are resumed with the others.
-/

namespace SubscriptionVault

open Exec

/-- What the removal does to the record of a listed subscription. -/
def Subscription.resumed (sub : Subscription) : Subscription :=
  if sub.status = .paused then { sub with status := .active } else sub

/-- What `do_resume_subscription` asks of a subscription that is not active, whoever resumes it. -/
structure Subscription.Resumable (sub : Subscription) (env : Env) : Prop where
  unexpired : sub.isExpired env.now env.sequence = false
  allowed : canTransition sub.status .active
  funded : sub.status = .insufficientBalance ∨ sub.status = .gracePeriod →
    sub.amount ≤ sub.prepaidBalance

/-- A listing in the making: the address was put on the blocklist in the state `s₀`, and has been
there in every state since. -/
structure Listing (start s₀ s : State) (hist later : History Transaction State)
    (subscriber : Address) : Prop where
  deployed : Deployed start
  run : Run Transacts start hist s₀
  since : ∃ (env : Env) (authorizer : Address) (reason : Bytes) (s₁ : State),
    (VaultCall.addToBlocklist authorizer subscriber reason).exec.run env s₀ = .ok () s₁ ∧
      Run Transacts s₁ later s
  listed : ∀ step ∈ later, step.2.isBlocklisted subscriber = true

/-- It was stored and not paused in some state since the listing. -/
def UnpausedSince (later : History Transaction State) (id : Nat) : Prop :=
  ∃ step ∈ later, ∃ old, step.2.subscription id = some old ∧ old.status ≠ .paused

/-- A subscription of the address that was paused during the listing and has not run out. -/
structure Suspended (env : Env) (later : History Transaction State) (subscriber : Address)
    (id : Nat) (sub : Subscription) : Prop where
  owned : sub.subscriber = subscriber
  paused : sub.status = .paused
  since : UnpausedSince later id
  unexpired : sub.isExpired env.now env.sequence = false

/-- From `s` to `t` the suspended subscriptions are resumed and nothing else happens to any. -/
structure RestoresSuspended (env : Env) (later : History Transaction State)
    (subscriber : Address) (s t : State) : Prop where
  restored : ∀ id sub, s.subscription id = some sub → Suspended env later subscriber id sub →
    t.subscription id = some { sub with status := .active }
  kept : ∀ id sub, s.subscription id = some sub → ¬Suspended env later subscriber id sub →
    t.subscription id = some sub
  resumable : ∀ id sub, s.subscription id = some sub → t.subscription id ≠ some sub →
    sub.Resumable env

section Removal

variable {env : Env} {s t : State} {id : Nat} {u : Unit} {sub : Subscription}
  {admin subscriber : Address}

theorem Subscription.resumed_of_paused (h : sub.status = .paused) :
    sub.resumed = { sub with status := .active } := if_pos h

theorem Subscription.resumed_of_not (h : sub.status ≠ .paused) : sub.resumed = sub := if_neg h

/-- A second visit changes nothing. -/
theorem Subscription.resumed_resumed (sub : Subscription) : sub.resumed.resumed = sub.resumed := by
  apply Subscription.resumed_of_not
  by_cases hpaused : sub.status = .paused
  · rw [Subscription.resumed_of_paused hpaused]
    nofun
  · rw [Subscription.resumed_of_not hpaused]
    exact hpaused

theorem resumeListed_record (hrun : (resumeListed id).run env s = .ok u t) (j : Nat) :
    t.subscription j =
      if j = id then (s.subscription id).map Subscription.resumed else s.subscription j := by
  have hsame (hkept : (s.subscription id).map Subscription.resumed = s.subscription id) :
      s.subscription j =
        if j = id then (s.subscription id).map Subscription.resumed else s.subscription j := by
    split
    · rename_i hj
      rw [hj, hkept]
    · rfl
  obtain ⟨found, hfound, hrun⟩ := run_check_ok (.gets _) hrun
  obtain ⟨rfl, -⟩ := run_gets_ok.mp hfound
  rcases run_whenSome_ok.mp hrun with ⟨sub, hsub, hrun⟩ | ⟨hnone, rfl⟩
  · rcases run_when_ok.mp hrun with ⟨hpaused, hrun⟩ | ⟨hother, rfl⟩
    · obtain ⟨read, ⟨stored, hstored, hread⟩, -, hresume⟩ := run_read_ok hrun
      obtain rfl : stored = sub := Option.some.inj (hstored.symm.trans hsub)
      obtain rfl : read = stored := by
        rcases hread with heq | ⟨hgrace, -⟩
        · exact heq
        · rw [hpaused] at hgrace
          cases hgrace
      rcases run_when_ok.mp hresume with ⟨-, hresume⟩ | ⟨hother, -⟩
      · obtain ⟨-, hbook⟩ := applyResume_book hresume
        rw [if_pos hpaused] at hbook
        have hrecord : t.subscription = Function.update s.subscription id
            (some { read with status := .active }) := congrArg Book.record hbook
        rw [hrecord, Function.update_apply, hsub, Option.map_some,
          Subscription.resumed_of_paused hpaused]
      · exact absurd hpaused hother
    · refine hsame ?_
      rw [hsub, Option.map_some, Subscription.resumed_of_not hother]
  · refine hsame ?_
    rw [hnone]
    rfl

theorem resumeAll_record {ids : List Nat} (hrun : (forEach ids resumeListed).run env s = .ok u t)
    (j : Nat) : t.subscription j =
      if j ∈ ids then (s.subscription j).map Subscription.resumed else s.subscription j := by
  induction ids generalizing s with
  | nil =>
    obtain rfl := run_forEach_nil_ok.mp hrun
    rfl
  | cons first ids ih =>
    obtain ⟨m, hfirst, hrest⟩ := run_forEach_cons_ok.mp hrun
    rw [ih hrest, resumeListed_record hfirst j]
    by_cases hj : j = first
    · subst hj
      rw [if_pos rfl, if_pos List.mem_cons_self, Option.map_map]
      have hagain : Subscription.resumed ∘ Subscription.resumed = Subscription.resumed :=
        funext Subscription.resumed_resumed
      rw [hagain, ite_self]
    · rw [if_neg hj]
      simp only [List.mem_cons, hj, false_or]

theorem removal_record (hrun : (doRemoveFromBlocklist admin subscriber).run env s = .ok u t)
    (j : Nat) : t.subscription j =
      if j ∈ s.subscriberSubs subscriber then (s.subscription j).map Subscription.resumed
      else s.subscription j := by
  obtain ⟨_, -, hrun⟩ := run_check_ok (Modifies.requireAdminAuth _) hrun
  obtain ⟨_, -, hrun⟩ := run_check_ok (.gets _) hrun
  obtain ⟨_, -, hrun⟩ := run_check_ok (.failIf _ _) hrun
  obtain ⟨ids, hids, hrun⟩ := run_check_ok (.gets _) hrun
  obtain ⟨_, -, hrun⟩ := run_check_ok (.gets _) hrun
  obtain ⟨_, -, hrun⟩ := run_check_ok (.failIf _ _) hrun
  obtain ⟨_, s₁, -, hbook, hrun⟩ := run_quiet_ok (Modifies.delete rfl) hrun
  obtain ⟨rfl, -⟩ := run_gets_ok.mp hids
  have hsame : s₁.subscription = s.subscription := congrArg Book.record hbook
  rw [resumeAll_record hrun j, hsame]

/-- A listed subscription that was paused is active afterwards. -/
theorem removal_resumes (hrun : (doRemoveFromBlocklist admin subscriber).run env s = .ok u t)
    (hsub : s.subscription id = some sub) (hpaused : sub.status = .paused)
    (hlisted : id ∈ s.subscriberSubs subscriber) :
    t.subscription id = some { sub with status := .active } := by
  rw [removal_record hrun, if_pos hlisted, hsub, Option.map_some,
    Subscription.resumed_of_paused hpaused]

theorem removal_keeps (hrun : (doRemoveFromBlocklist admin subscriber).run env s = .ok u t)
    (hsub : s.subscription id = some sub)
    (hkept : sub.status = .paused → id ∉ s.subscriberSubs subscriber) :
    t.subscription id = some sub := by
  rw [removal_record hrun]
  split
  · rename_i hlisted
    rw [hsub, Option.map_some, Subscription.resumed_of_not fun hpaused => hkept hpaused hlisted]
  · exact hsub

theorem Subscription.active_ne (hpaused : sub.status = .paused) :
    ({ sub with status := .active } : Subscription) ≠ sub := by
  intro heq
  have hstatus : SubscriptionStatus.active = sub.status := congrArg Subscription.status heq
  rw [hpaused] at hstatus
  cases hstatus

theorem restores_suspended_iff {later : History Transaction State}
    (hrun : (doRemoveFromBlocklist admin subscriber).run env s = .ok u t) :
    RestoresSuspended env later subscriber s t ↔
      ∀ id sub, s.subscription id = some sub → sub.status = .paused →
        (id ∈ s.subscriberSubs subscriber ↔ Suspended env later subscriber id sub) := by
  constructor
  · intro hrestores id sub hsub hpaused
    constructor
    · intro hlisted
      by_contra hother
      have hactive := removal_resumes hrun hsub hpaused hlisted
      have hsame := hrestores.kept id sub hsub hother
      exact Subscription.active_ne hpaused (Option.some.inj (hactive.symm.trans hsame))
    · intro hsuspended
      by_contra hunlisted
      have hsame := removal_keeps hrun hsub fun _ => hunlisted
      have hactive := hrestores.restored id sub hsub hsuspended
      exact Subscription.active_ne hpaused (Option.some.inj (hactive.symm.trans hsame))
  · intro hexact
    have hkept (id : Nat) (sub : Subscription) (hsub : s.subscription id = some sub)
        (hother : ¬Suspended env later subscriber id sub) : t.subscription id = some sub :=
      removal_keeps hrun hsub fun hpaused hlisted =>
        hother ((hexact id sub hsub hpaused).mp hlisted)
    refine ⟨fun id sub hsub hsuspended => ?_, hkept, fun id sub hsub hchanged => ?_⟩
    · have hlisted := (hexact id sub hsub hsuspended.paused).mpr hsuspended
      exact removal_resumes hrun hsub hsuspended.paused hlisted
    · have hsuspended : Suspended env later subscriber id sub :=
        Classical.not_not.mp fun hother => hchanged (hkept id sub hsub hother)
      have hpaused := hsuspended.paused
      refine ⟨hsuspended.unexpired, by rw [hpaused]; rfl, fun hbehind => ?_⟩
      rw [hpaused] at hbehind
      rcases hbehind with h | h <;> cases h

end Removal

/-! ## A removal that ends a listing -/

/-- The removal restores what was suspended when the paused subscriptions in the index of the
address are the suspended ones. -/
theorem removal_restores_suspended_iff {start s₀ s t : State}
    {hist later : History Transaction State} {env : Env} {admin subscriber : Address}
    (_hlisting : Listing start s₀ s hist later subscriber)
    (hremove : (VaultCall.removeFromBlocklist admin subscriber).exec.run env s = .ok () t) :
    RestoresSuspended env later subscriber s t ↔
      ∀ id sub, s.subscription id = some sub → sub.status = .paused →
        (id ∈ s.subscriberSubs subscriber ↔ Suspended env later subscriber id sub) :=
  restores_suspended_iff hremove

private def createdCalls : List (Env × VaultCall) :=
  [(sampleEnv 0 [⟨2⟩], .createSubscription sampleRequest)]

private def createdVault : State := stateAfter (afterCalls (sampleVault 0)) createdCalls

private theorem createdVault_run : Run Transacts (sampleStart 0)
    (transactionHistory (afterCalls (sampleVault 0)) createdCalls ++
      [(.other (sampleEnv 0 []), sampleStart 0)]) createdVault :=
  run_transactions (sample_transacted 0) (by decide +kernel)

private def blockCall : VaultCall := .addToBlocklist ⟨8⟩ ⟨2⟩ []

private def barredVault : State := blockCall.exec.after (sampleEnv 1 [⟨8⟩]) createdVault

private def haltedCalls : List (Env × VaultCall) :=
  [(sampleEnv 2 [⟨1⟩], .pauseSubscription 0 ⟨1⟩)]

private def haltedVault : State := stateAfter barredVault haltedCalls

private theorem halted_listing : Listing (sampleStart 0) createdVault haltedVault
    (transactionHistory (afterCalls (sampleVault 0)) createdCalls ++
      [(.other (sampleEnv 0 []), sampleStart 0)])
    (transactionHistory barredVault haltedCalls) ⟨2⟩ where
  deployed := sample_deployed 0
  run := createdVault_run
  since := ⟨sampleEnv 1 [⟨8⟩], ⟨8⟩, [], barredVault, run_eq_after (by decide +kernel),
    run_alone (by decide +kernel)⟩
  listed := by
    intro step hmem
    simp only [haltedCalls, transactionHistory, List.mem_cons, List.not_mem_nil, or_false] at hmem
    subst hmem
    decide +kernel

private theorem halted_only {id : Nat} {sub : Subscription}
    (hsub : haltedVault.subscription id = some sub) : id = 0 := by
  have hblock : Transacts (.call (sampleEnv 1 [⟨8⟩]) blockCall) createdVault barredVault :=
    .call (run_eq_after (by decide +kernel))
  have hlater : Run Transacts barredVault (transactionHistory barredVault haltedCalls)
      haltedVault := run_alone (by decide +kernel)
  obtain ⟨-, hnumbered⟩ := funded_of_run (sample_deployed 0)
    ((createdVault_run.next hblock).append hlater) (by
      intro step hmem
      simp only [haltedCalls, createdCalls, transactionHistory, List.cons_append,
        List.nil_append, List.mem_cons, List.not_mem_nil, or_false] at hmem
      rcases hmem with rfl | rfl | rfl | rfl <;> rfl)
  have hbelow := hnumbered.lt_of_reads ⟨sub, hsub, .inl rfl⟩
  have hnext : haltedVault.book.nextId = 1 := by decide +kernel
  omega

/-- The merchant pauses while the subscriber is listed; the removal resumes. -/
theorem halted_subscription_restored : ∃ t,
    (VaultCall.removeFromBlocklist ⟨8⟩ ⟨2⟩).exec.run (sampleEnv 3 [⟨8⟩]) haltedVault = .ok () t ∧
      RestoresSuspended (sampleEnv 3 [⟨8⟩]) (transactionHistory barredVault haltedCalls) ⟨2⟩
        haltedVault t := by
  obtain ⟨t, hremove⟩ : ∃ t, (VaultCall.removeFromBlocklist ⟨8⟩ ⟨2⟩).exec.run
      (sampleEnv 3 [⟨8⟩]) haltedVault = .ok () t := ⟨_, run_eq_after (by decide +kernel)⟩
  refine ⟨t, hremove, (removal_restores_suspended_iff halted_listing hremove).mpr ?_⟩
  intro id sub hsub hpaused
  obtain rfl := halted_only hsub
  have hfacts : (haltedVault.subscription 0).map
      (fun sub => (sub.subscriber, sub.isExpired 3 3)) = some (⟨2⟩, false) := by decide +kernel
  rw [hsub] at hfacts
  obtain ⟨howned, hunexpired⟩ := Prod.mk.inj (Option.some.inj hfacts)
  have hbefore : (barredVault.subscription 0).map (·.status) = some .active := by decide +kernel
  obtain ⟨old, hold, hactive⟩ := Option.map_eq_some_iff.mp hbefore
  have hsince : UnpausedSince (transactionHistory barredVault haltedCalls) 0 :=
    ⟨_, List.mem_cons_self, old, hold, by rw [hactive]; nofun⟩
  have hlisted : 0 ∈ haltedVault.subscriberSubs ⟨2⟩ := by decide +kernel
  exact ⟨fun _ => ⟨howned, hpaused, hsince, hunexpired⟩, fun _ => hlisted⟩

private def restedCalls : List (Env × VaultCall) :=
  [(sampleEnv 1 [⟨2⟩], .pauseSubscription 0 ⟨2⟩),
   (sampleEnv 0 [⟨2⟩], .createSubscription sampleRequest)]

private def restedVault : State := stateAfter (afterCalls (sampleVault 0)) restedCalls

private theorem restedVault_run : Run Transacts (sampleStart 0)
    (transactionHistory (afterCalls (sampleVault 0)) restedCalls ++
      [(.other (sampleEnv 0 []), sampleStart 0)]) restedVault :=
  run_transactions (sample_transacted 0) (by decide +kernel)

private def restedBlocked : State := blockCall.exec.after (sampleEnv 2 [⟨8⟩]) restedVault

private theorem rested_listing : Listing (sampleStart 0) restedVault restedBlocked
    (transactionHistory (afterCalls (sampleVault 0)) restedCalls ++
      [(.other (sampleEnv 0 []), sampleStart 0)]) [] ⟨2⟩ where
  deployed := sample_deployed 0
  run := restedVault_run
  since := ⟨sampleEnv 2 [⟨8⟩], ⟨8⟩, [], restedBlocked, run_eq_after (by decide +kernel), .start⟩
  listed := nofun

/-- A subscription that its subscriber had paused is active after a listing that was taken back
at once. -/
theorem rested_subscription_resumed : ∃ (start s₀ s t : State)
    (hist : History Transaction State) (env : Env) (sub : Subscription),
    Listing start s₀ s hist [] ⟨2⟩ ∧ s.subscription 0 = some sub ∧ sub.status = .paused ∧
      (VaultCall.removeFromBlocklist ⟨8⟩ ⟨2⟩).exec.run env s = .ok () t ∧
      t.subscription 0 = some { sub with status := .active } ∧
      ¬RestoresSuspended env [] ⟨2⟩ s t := by
  obtain ⟨t, hremove⟩ : ∃ t, (VaultCall.removeFromBlocklist ⟨8⟩ ⟨2⟩).exec.run
      (sampleEnv 2 [⟨8⟩]) restedBlocked = .ok () t := ⟨_, run_eq_after (by decide +kernel)⟩
  have hstatus : (restedBlocked.subscription 0).map (·.status) = some .paused := by decide +kernel
  obtain ⟨sub, hsub, hpaused⟩ := Option.map_eq_some_iff.mp hstatus
  have hlisted : 0 ∈ restedBlocked.subscriberSubs ⟨2⟩ := by decide +kernel
  have hactive := removal_resumes hremove hsub hpaused hlisted
  refine ⟨_, restedVault, restedBlocked, t, _, sampleEnv 2 [⟨8⟩], sub, rested_listing, hsub,
    hpaused, hremove, hactive, fun hrestores => ?_⟩
  -- Nothing was suspended: no state lies between the two calls.
  have hkept := hrestores.kept 0 sub hsub fun hsuspended => by
    obtain ⟨_, hmem, -⟩ := hsuspended.since
    cases hmem
  exact Subscription.active_ne hpaused (Option.some.inj (hactive.symm.trans hkept))

end SubscriptionVault
