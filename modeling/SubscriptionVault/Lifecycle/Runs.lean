import SubscriptionVault.Charging.Batch
import SubscriptionVault.Lifecycle.Calls

/-!
# Runs of the vault

The steps of a run are calls, the entries of calls that work through a list, and everything
that leaves the book alone. A call that fails leaves no trace, so only successful calls are
steps; an entry that fails may leave something behind.
-/

namespace SubscriptionVault

open Exec

/-! ## Steps -/

inductive VaultAction where
  | call (env : Env) (call : VaultCall)
  | item (env : Env) (item : BulkItem)
  /-- Anything else at this time, or nothing. -/
  | other (env : Env)

def VaultAction.env : VaultAction → Env
  | .call env _ | .item env _ | .other env => env

def VaultAction.operation : VaultAction → Operation
  | .call _ c => c.operation
  | .item _ entry => entry.operation
  | .other _ => .other

inductive VaultStep : VaultAction → State → State → Prop
  | call {env : Env} {call : VaultCall} {s t : State} :
      call.isBulk = false → call.exec.run env s = .ok () t → VaultStep (.call env call) s t
  | item {env : Env} {item : BulkItem} {s t : State} :
      item.exec.run env s = .ok () t → VaultStep (.item env item) s t
  /-- The error of an entry is caught together with what the entry wrote. -/
  | itemFailed {env : Env} {item : BulkItem} {s t : State} {e : Error} :
      item.exec.run env s = .err e t → VaultStep (.item env item) s t
  | other {env : Env} {s t : State} : FiniteStore.AgreeOff unbooked s t → VaultStep (.other env) s t

section Items

variable {env : Env} {s t : State} {id : Nat} {e : Error}

theorem run_effectOf_err {α : Type} {body : Vault α} :
    (effectOf body).run env s = .err e t ↔ body.run env s = .err e t := by
  simp [effectOf]

theorem Modifies.effectOf {S : Set Slot} {α : Type} {body : Vault α} (h : Modifies S body) :
    Modifies S (effectOf body) :=
  .of_runs (fun _ _ _ _ hrun => h.ok (run_effectOf_ok.mp hrun).choose_spec)
    fun _ _ _ _ hrun => h.err (run_effectOf_err.mp hrun)

/-- A cancellation fails before it has written anything. -/
theorem applyCancellation_err {sub : Subscription}
    (hrun : (applyCancellation id sub).run env s = .err e t) : s = t := by
  rcases run_bind_err.mp hrun with hfail | ⟨_, _, _, hrest⟩
  · exact (run_lift_err.mp hfail).2
  · simp [decrementSubscriberActiveCount, setSubscriberActiveCount, writeSubscription,
      unindexSubscription, dropIndex, revokeCredential, subTotalAccounted, run_when_err,
      run_whenSome_err] at hrest

theorem applyPause_err {sub : Subscription} (hrun : (applyPause id sub).run env s = .err e t) :
    s = t := by
  rcases run_bind_err.mp hrun with hfail | ⟨_, _, _, hrest⟩
  · exact (run_lift_err.mp hfail).2
  · simp [decrementSubscriberActiveCount, setSubscriberActiveCount, writeSubscription] at hrest

theorem bulkCancelOne_err (hrun : (bulkCancelOne id).run env s = .err e t) : s = t := by
  let P : Outcome Error State Unit → Prop := fun o => o = .err e t → s = t
  have htrap : P .trap := fun h => nomatch h
  have herr (e' : Error) : P (.err e' s) := fun h => by
    cases h
    rfl
  refine (?_ : P ((bulkCancelOne id).run env s)) hrun
  refine Keeps.run_bind_cases (P := P) .ask htrap herr fun _ _ => ?_
  refine Keeps.run_bind_cases (P := P) (Modifies.getSubscription _) htrap herr fun _ _ => ?_
  refine Keeps.run_bind_cases (P := P) (.failIf _ _) htrap herr fun _ _ hlast => ?_
  exact applyCancellation_err (run_when_err.mp hlast).2

theorem bulkPauseOne_err (hrun : (bulkPauseOne id).run env s = .err e t) : s = t := by
  let P : Outcome Error State Unit → Prop := fun o => o = .err e t → s = t
  have htrap : P .trap := fun h => nomatch h
  have herr (e' : Error) : P (.err e' s) := fun h => by
    cases h
    rfl
  refine (?_ : P ((bulkPauseOne id).run env s)) hrun
  refine Keeps.run_bind_cases (P := P) .ask htrap herr fun _ _ => ?_
  refine Keeps.run_bind_cases (P := P) (Modifies.getSubscription _) htrap herr fun _ _ => ?_
  refine Keeps.run_bind_cases (P := P) (.failIf _ _) htrap herr fun _ _ hlast => ?_
  exact applyPause_err (run_when_err.mp hlast).2

theorem BulkItem.changes {item : BulkItem} (hrun : item.exec.run env s = .ok () t) :
    t.book = s.book ∨ item.operation.Changes env s t.book := by
  cases item with
  | charge id key =>
    obtain ⟨_, hcharge⟩ := run_effectOf_ok.mp hrun
    exact .inr (chargeOne_book hcharge)
  | deposit caller id amount => exact .inr (.inl (bulkDepositOne_book hrun).1)
  | cancel id => exact bulkCancelOne_book hrun
  | pause id => exact bulkPauseOne_book hrun

/-- Only a charge leaves something behind when it fails. -/
theorem BulkItem.changes_failed {item : BulkItem} (hrun : item.exec.run env s = .err e t) :
    t.book = s.book ∨ item.operation.Changes env s t.book := by
  cases item with
  | charge id key =>
    have hchanges := chargeOne_changes env s id key
    rw [run_effectOf_err.mp hrun] at hchanges
    exact .inr hchanges
  | deposit caller id amount =>
    obtain rfl := bulkDepositOne_err hrun
    exact .inl rfl
  | cancel id =>
    obtain rfl := bulkCancelOne_err hrun
    exact .inl rfl
  | pause id =>
    obtain rfl := bulkPauseOne_err hrun
    exact .inl rfl

theorem VaultStep.changes {l : VaultAction} (h : VaultStep l s t) :
    t.book = s.book ∨ l.operation.Changes l.env s t.book := by
  cases h with
  | call hsingle hrun => exact VaultCall.changes hsingle hrun
  | item hrun => exact BulkItem.changes hrun
  | itemFailed hrun => exact BulkItem.changes_failed hrun
  | other hagree => exact .inl (State.book_of_unbooked hagree)

end Items

/-! ## Calls with entries -/

/-- The steps are the listed entries, with quiet code around them. -/
def StepsOf (env : Env) (items : List BulkItem) (hist : History VaultAction State) : Prop :=
  ∀ step ∈ hist, step.1 = .other env ∨ ∃ item ∈ items, step.1 = .item env item

section Bulk

variable {env : Env} {s t : State} {u : Unit}

/-- There is a run of the entries from `s` to `t`. -/
def Worked (env : Env) (items : List BulkItem) (s t : State) : Prop :=
  ∃ hist, Run VaultStep s hist t ∧ StepsOf env items hist

/-- A step of the vault in which the code that is not listed keeps to `S`. -/
def TidyStep (S : Set Slot) (l : VaultAction) (s t : State) : Prop :=
  VaultStep l s t ∧ ∀ env, l = .other env → FiniteStore.AgreeOff S s t

/-- The run of the entries leaves everything between them within `S`. -/
def WorkedIn (S : Set Slot) (env : Env) (items : List BulkItem) (s t : State) : Prop :=
  ∃ hist, Run (TidyStep S) s hist t ∧ StepsOf env items hist

/-- What a call that works through a list writes besides its entries. -/
abbrev listSlots : Set Slot := areas [.nonces, .locks]

theorem listSlots_unbooked : listSlots ⊆ unbooked := areas_subset_unbooked rfl

namespace WorkedIn

variable {items : List BulkItem}

theorem worked {S : Set Slot} (h : WorkedIn S env items s t) : Worked env items s t := by
  obtain ⟨hist, hrun, hsteps⟩ := h
  exact ⟨hist, hrun.mono fun _ _ _ hstep => hstep.1, hsteps⟩

theorem of_quiet (hagree : FiniteStore.AgreeOff listSlots s t) :
    WorkedIn listSlots env items s t := by
  have hstep : TidyStep listSlots (.other env) s t :=
    ⟨.other (hagree.mono listSlots_unbooked), fun _ _ => hagree⟩
  refine ⟨[(.other env, s)], .next .start hstep, fun step hmem => ?_⟩
  rw [List.mem_singleton.mp hmem]
  exact .inl rfl

theorem trans {v : State} (h : WorkedIn listSlots env items s t)
    (h' : WorkedIn listSlots env items t v) : WorkedIn listSlots env items s v := by
  obtain ⟨hist, hrun, hsteps⟩ := h
  obtain ⟨later, hlater, hsteps'⟩ := h'
  refine ⟨later ++ hist, hrun.append hlater, fun step hmem => ?_⟩
  rcases List.mem_append.mp hmem with hmem | hmem
  · exact hsteps' step hmem
  · exact hsteps step hmem

theorem of_modifies {α : Type} {x : Vault α} {a : α} (hx : Modifies listSlots x)
    (hrun : x.run env s = .ok a t) : WorkedIn listSlots env items s t :=
  of_quiet (hx.ok hrun)

theorem of_entry {item : BulkItem} (hmem : item ∈ items) (hstep : VaultStep (.item env item) s t) :
    WorkedIn listSlots env items s t := by
  refine ⟨[(.item env item, s)], .next .start ⟨hstep, nofun⟩, fun step hlast => ?_⟩
  rw [List.mem_singleton.mp hlast]
  exact .inr ⟨item, hmem, rfl⟩

theorem of_item {item : BulkItem} (hmem : item ∈ items) {result : Except Error Unit}
    (hrun : (attempt item.exec).run env s = .ok result t) : WorkedIn listSlots env items s t := by
  refine of_entry hmem ?_
  rcases run_attempt_ok.mp hrun with ⟨_, -, hok⟩ | ⟨e, -, herr⟩
  · exact .item hok
  · exact .itemFailed herr

theorem of_forEach {α : Type} (f : α → BulkItem) {as : List α} (hmem : ∀ a ∈ as, f a ∈ items)
    (hrun : (forEach as fun a => do
      let _ ← attempt (f a).exec
      pure ()).run env s = .ok u t) : WorkedIn listSlots env items s t := by
  induction as generalizing s with
  | nil =>
    obtain rfl := run_forEach_nil_ok.mp hrun
    exact ⟨[], .start, fun _ h => nomatch h⟩
  | cons a as ih =>
    obtain ⟨m, hfirst, hrest⟩ := run_forEach_cons_ok.mp hrun
    obtain ⟨_, m', hitem, hlast⟩ := run_bind_ok.mp hfirst
    obtain ⟨-, rfl⟩ := run_pure_ok.mp hlast
    exact (of_item (hmem a List.mem_cons_self) hitem).trans
      (ih (fun b hb => hmem b (List.mem_cons_of_mem _ hb)) hrest)

theorem of_charges {charged : List ChargedItem} (h : Charges env s charged t)
    (hmem : ∀ item ∈ charged.map ChargedItem.item, .charge item.1 item.2 ∈ items) :
    WorkedIn listSlots env items s t := by
  induction h with
  | done => exact ⟨[], .start, fun _ h => nomatch h⟩
  | @charge s v t item result rest hrun _ ih =>
    have hlisted : .charge item.1 item.2 ∈ items := hmem item (List.mem_cons_self)
    have hstep : VaultStep (.item env (.charge item.1 item.2)) s v := by
      rcases run_attempt_ok.mp hrun with ⟨_, -, hok⟩ | ⟨e, -, herr⟩
      · exact .item (run_effectOf_ok.mpr ⟨_, hok⟩)
      · exact .itemFailed (run_effectOf_err.mpr herr)
    exact (of_entry hlisted hstep).trans
      (ih fun item hitem => hmem item (List.mem_cons_of_mem _ hitem))

theorem of_locked {α : Type} {name : LockName} {body : Vault α} {a : α}
    (hbody : ∀ v, body.run env (s.write (.lock name) true) = .ok a v →
      WorkedIn listSlots env items (s.write (.lock name) true) v)
    (hrun : (withLock name body).run env s = .ok a t) : WorkedIn listSlots env items s t := by
  obtain ⟨-, v, hlocked, rfl⟩ := run_withLock_ok.mp hrun
  exact ((of_quiet (s.agreeOff_write true rfl)).trans (hbody v hlocked)).trans
    (of_quiet (v.agreeOff_remove rfl))

end WorkedIn

theorem chargeBatch_worked {admin : Address} {items : List BatchItem} {nonce : Nat}
    {response : BatchChargeResponse}
    (hrun : (chargeBatch admin items nonce).run env s = .ok response t) :
    WorkedIn listSlots env (items.map fun item => .charge item.1 item.2) s t := by
  obtain ⟨_, -, hrun⟩ := run_check_ok (Modifies.validateNonce _ _ _) hrun
  obtain ⟨_, s₁, hctx, hrun⟩ := run_bind_ok.mp hrun
  obtain ⟨results, s₂, hcharges, hrun⟩ := run_bind_ok.mp hrun
  obtain ⟨charged, hitems, -, hcharged⟩ := run_executeBatchCharge_ok.mp hcharges
  have hrest : Modifies listSlots (do
      let advanced ← attempt
        (when (results.any (·.success) = true) (checkAndAdvance admin .batchCharge nonce))
      delete (.symbol .batchNonceCtx)
      lift advanced
      pure ⟨results, none⟩ : Vault BatchChargeResponse) :=
    .bind (.attempt (.when (Modifies.checkAndAdvance rfl))) fun _ =>
      .bind (Modifies.delete rfl) fun _ => .bind (.lift _) fun _ => .pure _
  have hstore : Modifies listSlots (store (.symbol .batchNonceCtx) nonce) := Modifies.store rfl
  refine ((WorkedIn.of_modifies hstore hctx).trans (WorkedIn.of_charges hcharged ?_)).trans
    (WorkedIn.of_modifies hrest hrun)
  intro item hmem
  rw [hitems] at hmem
  exact List.mem_map_of_mem hmem

theorem doBatchChargeDetailed_worked {ids : List Nat} {keys : Option (List BytesN32)}
    {nonce : Nat} {response : BatchChargeResponse}
    (hrun : (doBatchChargeDetailed ids keys nonce).run env s = .ok response t) :
    WorkedIn listSlots env ((batchItems ids keys).map fun item => .charge item.1 item.2) s t := by
  have hadmin : requireStoredAdminAuth.Keeps Eq :=
    .bind Modifies.requireAdmin fun _ => .bind (Modifies.requireAuth _) fun _ => .pure _
  obtain ⟨admin, -, hrun⟩ := run_check_ok hadmin hrun
  obtain ⟨_, -, hrun⟩ := run_check_ok (.failIf _ _) hrun
  split at hrun
  · obtain ⟨-, rfl⟩ := run_pure_ok.mp hrun
    exact WorkedIn.of_quiet (Std.Refl.refl _)
  obtain ⟨_, -, hrun⟩ := run_check_ok (.failIf _ _) hrun
  split at hrun
  · obtain ⟨-, rfl⟩ := run_pure_ok.mp hrun
    exact WorkedIn.of_quiet (Std.Refl.refl _)
  · exact chargeBatch_worked hrun

theorem bulkItems_worked {α : Type} (f : α → BulkItem) (as : List α) (caller : Address)
    (ids : List Nat) (nonce : Nat)
    (hrun : (do
      let proceed ← bulkPrecheck caller ids nonce
      when proceed (forEach as fun a => do
        let _ ← attempt (f a).exec
        pure ()) : Vault Unit).run env s = .ok u t) : WorkedIn listSlots env (as.map f) s t := by
  obtain ⟨proceed, s₁, hcheck, hrun⟩ := run_bind_ok.mp hrun
  refine (WorkedIn.of_modifies ((bulkPrecheck_areas _ _ _).widen rfl) hcheck).trans ?_
  rcases run_when_ok.mp hrun with ⟨-, hrun⟩ | ⟨-, rfl⟩
  · exact WorkedIn.of_forEach f (fun a ha => List.mem_map_of_mem ha) hrun
  · exact WorkedIn.of_quiet (Std.Refl.refl _)

/-- A call that works through a list is a run of its entries. -/
theorem VaultCall.workedIn {call : VaultCall} (hbulk : call.isBulk = true)
    (hrun : call.exec.run env s = .ok () t) : WorkedIn listSlots env call.items s t := by
  cases call
  case batchCharge ids keys nonce =>
    obtain ⟨_, hrun⟩ := run_effectOf_ok.mp hrun
    refine WorkedIn.of_locked (fun v hbody => ?_) (run_guardedBatch_ok.mp hrun).2
    obtain ⟨response, v', hdetailed, hrest⟩ := run_bind_ok.mp hbody
    obtain ⟨_, -, hlast⟩ := run_check_ok (.failIf _ _) hrest
    obtain ⟨-, rfl⟩ := run_pure_ok.mp hlast
    exact doBatchChargeDetailed_worked hdetailed
  case batchChargeDetailed ids keys nonce =>
    obtain ⟨_, hrun⟩ := run_effectOf_ok.mp hrun
    exact WorkedIn.of_locked (fun v hbody => doBatchChargeDetailed_worked hbody)
      (run_guardedBatch_ok.mp hrun).2
  case bulkDepositFunds caller entries nonce =>
    exact WorkedIn.of_locked (fun v hbody => bulkItems_worked
      (fun entry => .deposit caller entry.1 entry.2) entries caller (entries.map Prod.fst) nonce
      hbody) (run_guardedCall_ok.mp hrun).2
  case bulkCancelSubscriptions caller ids nonce =>
    exact WorkedIn.of_locked (fun v hbody =>
      bulkItems_worked .cancel ids caller ids nonce hbody) hrun
  case bulkPauseSubscriptions caller ids nonce =>
    exact bulkItems_worked .pause ids caller ids nonce hrun
  all_goals cases hbulk

theorem VaultCall.worked {call : VaultCall} (hbulk : call.isBulk = true)
    (hrun : call.exec.run env s = .ok () t) : Worked env call.items s t :=
  (VaultCall.workedIn hbulk hrun).worked

end Bulk

/-! ## Starts -/

/-- The vault is as `init` leaves it. -/
def Deployed (s : State) : Prop :=
  ∃ env token tokenDecimals admin minTopup gracePeriod,
    (doInit token tokenDecimals admin minTopup gracePeriod).run env FiniteStore.empty = .ok () s

/-! ## Time -/

/-- The clock of the ledger never runs backwards, and all calls are made to one deployment. -/
structure InOrder (hist : History VaultAction State) : Prop where
  pairwise : hist.Pairwise fun later earlier =>
    earlier.1.env.now ≤ later.1.env.now ∧ earlier.1.env.sequence ≤ later.1.env.sequence ∧
      earlier.1.env.host = later.1.env.host
  fits : ∀ step ∈ hist, step.1.env.now ≤ u64Max

theorem InOrder.tail {step : VaultAction × State} {hist : History VaultAction State}
    (h : InOrder (step :: hist)) : InOrder hist where
  pairwise := h.pairwise.of_cons
  fits earlier hmem := h.fits earlier (List.mem_cons_of_mem _ hmem)

theorem InOrder.le {step earlier : VaultAction × State} {hist : History VaultAction State}
    (h : InOrder (step :: hist)) (hmem : earlier ∈ hist) :
    earlier.1.env.now ≤ step.1.env.now :=
  (List.rel_of_pairwise_cons h.pairwise hmem).1

/-! ## Concrete runs -/

def VaultAction.exec : VaultAction → Vault Unit
  | .call _ c => c.exec
  | .item _ entry => effectOf (attempt entry.exec)
  | .other _ => pure ()

def VaultAction.isBulk : VaultAction → Bool
  | .call _ c => c.isBulk
  | _ => false

/-- The state after the actions, latest first. -/
def actionsAfter (s : State) : List VaultAction → State
  | [] => s
  | l :: earlier => l.exec.after l.env (actionsAfter s earlier)

def actionHistory (s : State) : List VaultAction → History VaultAction State
  | [] => []
  | l :: earlier => (l, actionsAfter s earlier) :: actionHistory s earlier

def actionsSucceed (s : State) : List VaultAction → Bool
  | [] => true
  | l :: earlier => actionsSucceed s earlier && !l.isBulk &&
    l.exec.succeeds l.env (actionsAfter s earlier)

section Concrete

variable {start s t : State}

theorem VaultAction.step_of_run {l : VaultAction} (hsingle : l.isBulk = false)
    (hrun : l.exec.run l.env s = .ok () t) : VaultStep l s t := by
  cases l with
  | call env c => exact .call hsingle hrun
  | item env entry =>
    obtain ⟨_, hitem⟩ := run_effectOf_ok.mp hrun
    rcases run_attempt_ok.mp hitem with ⟨_, -, hok⟩ | ⟨_, -, herr⟩
    · exact .item hok
    · exact .itemFailed herr
  | other env =>
    obtain ⟨-, rfl⟩ := run_pure_ok.mp hrun
    exact .other (Std.Refl.refl _)

theorem run_actions {hist : History VaultAction State} (hrun : Run VaultStep start hist s)
    {actions : List VaultAction} (h : actionsSucceed s actions = true) :
    Run VaultStep start (actionHistory s actions ++ hist) (actionsAfter s actions) := by
  induction actions with
  | nil => exact hrun
  | cons l earlier ih =>
    simp only [actionsSucceed, Bool.and_eq_true, Bool.not_eq_true'] at h
    obtain ⟨⟨hearlier, hsingle⟩, hsucceeds⟩ := h
    exact (ih hearlier).next (VaultAction.step_of_run hsingle (run_eq_after hsucceeds))

/-- The vault of the sample deployment right after `init`. -/
def sampleStart (gracePeriod : Nat) : State :=
  afterCalls [(sampleEnv 0 [], doInit ⟨9⟩ 7 ⟨8⟩ 1 gracePeriod)]

theorem sample_deployed (gracePeriod : Nat) : Deployed (sampleStart gracePeriod) := by
  exact ⟨sampleEnv 0 [], ⟨9⟩, 7, ⟨8⟩, 1, gracePeriod, run_eq_after rfl⟩

theorem mint_slots (token holder : Address) (amount : Int) :
    Modifies {.tokenBalance token holder} (mint token holder amount) :=
  .update fun s => s.agreeOff_write _ rfl

theorem mint_areas (token holder : Address) (amount : Int) :
    Modifies (areas [.tokens]) (mint token holder amount) :=
  .update fun s => s.agreeOff_write _ rfl

theorem initializeMerchantConfig_slots (merchant payoutAddress : Address)
    (feeBips allowedOperations : Int) (feeAddress : Option Address) (redirectUrl : Bytes) :
    Modifies {.instanced (.merchantConfig merchant)} (initializeMerchantConfig merchant
      payoutAddress feeBips allowedOperations feeAddress redirectUrl) :=
  .bind (Modifies.requireAuth _) fun _ => .bind (.bind (.gets _) fun _ => .failIf _ _) fun _ =>
    .bind (.bind (.failIf _ _) fun _ => .bind (.failIf _ _) fun _ => .failIf _ _) fun _ =>
    .bind .ask fun _ => Modifies.store rfl

theorem Modifies.after {S : Set Slot} {x : Vault Unit} (hx : Modifies S x) (env : Env)
    (s : State) : FiniteStore.AgreeOff S s (x.after env s) := by
  unfold Exec.after
  split
  · rename_i hrun
    exact hx.ok hrun
  · exact Std.Refl.refl _

/-- The sample deployment gets its merchant and a funded subscriber. -/
theorem sample_slots (gracePeriod : Nat) :
    FiniteStore.AgreeOff {.tokenBalance ⟨9⟩ ⟨2⟩, .instanced (.merchantConfig ⟨1⟩)}
      (sampleStart gracePeriod) (afterCalls (sampleVault gracePeriod)) :=
  (((mint_slots ⟨9⟩ ⟨2⟩ 1000).weaken (by simp)).after (sampleEnv 0 []) _).trans
    (((initializeMerchantConfig_slots ⟨1⟩ ⟨1⟩ 0 1 none []).weaken (by simp)).after
      (sampleEnv 0 [⟨1⟩]) _)

theorem sample_areas (gracePeriod : Nat) :
    FiniteStore.AgreeOff (areas [.tokens, .merchants]) (sampleStart gracePeriod)
      (afterCalls (sampleVault gracePeriod)) :=
  (sample_slots gracePeriod).mono (by rintro k (rfl | rfl) <;> rfl)

theorem sample_quiet (gracePeriod : Nat) : FiniteStore.AgreeOff unbooked (sampleStart gracePeriod)
    (afterCalls (sampleVault gracePeriod)) :=
  (sample_areas gracePeriod).mono (areas_subset_unbooked rfl)

theorem sample_prepared (gracePeriod : Nat) : Run VaultStep (sampleStart gracePeriod)
    [(.other (sampleEnv 0 []), sampleStart gracePeriod)] (afterCalls (sampleVault gracePeriod)) :=
  Run.start.next (.other (sample_quiet gracePeriod))

end Concrete

end SubscriptionVault
