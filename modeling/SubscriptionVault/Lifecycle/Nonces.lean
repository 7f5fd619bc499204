import SubscriptionVault.Framework.Counters
import SubscriptionVault.Lifecycle.Consents

/-!
# Nonces

Every signer has a counter for each kind of operation. A call that carries a nonce uses up the
next number of one of them and leaves the others alone, so no counter is ever set back: a nonce
that was used up is never the next one again.
-/

namespace SubscriptionVault

open Exec

/-- The next nonce of a signer, by the number of the domain. -/
def State.nonceAt (s : State) (signer : Address) (domain : Nat) : Nat :=
  (s.read (.persistent (.adminNonce signer domain))).getD 0

def NoncesGrow (s t : State) : Prop :=
  ∀ signer domain, s.nonceAt signer domain ≤ t.nonceAt signer domain

instance : Std.Refl NoncesGrow where
  refl _ _ _ := Nat.le_refl _

instance : IsTrans State NoncesGrow where
  trans _ _ _ h h' signer domain := (h signer domain).trans (h' signer domain)

/-- All slots but the counters. -/
def nonceFree : Set Slot := {k | ∀ signer domain, k ≠ .persistent (.adminNonce signer domain)}

theorem areas_subset_nonceFree {l : List Area} (hl : l.contains .nonces = false) :
    areas l ⊆ nonceFree := by
  rintro k hk signer domain rfl
  have hin : l.contains Area.nonces = true := hk
  rw [hl] at hin
  cases hin

namespace NoncesGrow

variable {s t : State} {α : Type} {x : Vault α}

theorem of_agreeOff (h : FiniteStore.AgreeOff nonceFree s t) : NoncesGrow s t := by
  intro signer domain
  rw [State.nonceAt, State.nonceAt, h.read fun hmem => hmem signer domain rfl]

theorem of_modifies (h : Modifies nonceFree x) : x.Keeps NoncesGrow :=
  Keeps.mono h fun _ _ hagree => of_agreeOff hagree

end NoncesGrow

theorem computeNextNonce_ok {stored expected next : Nat} :
    computeNextNonce stored expected = .ok next ↔
      expected = stored ∧ next = stored + 1 ∧ stored + 1 ≤ u64Max := by
  unfold computeNextNonce checkedAddU64
  by_cases hsame : expected = stored
  · rw [if_neg (by simpa using hsame)]
    by_cases hfits : stored + 1 ≤ u64Max
    · simp [hsame, hfits, eq_comm]
    · simp [hsame, hfits]
  · simp [hsame]

section Advance

variable {env : Env} {s t : State}

/-- The nonce that is used up is the next one, and the one after it is next. -/
theorem run_checkAndAdvance_nonce {signer : Address} {domain : NonceDomain} {expected : Nat}
    {u : Unit} (hrun : (checkAndAdvance signer domain expected).run env s = .ok u t) :
    expected = s.nonceAt signer domain.asU32 ∧
      t = s.write (.persistent (.adminNonce signer domain.asU32)) (expected + 1) := by
  obtain ⟨next, hnext, rfl⟩ := run_checkAndAdvance_ok.mp hrun
  obtain ⟨hexpected, rfl, -⟩ := computeNextNonce_ok.mp hnext
  exact ⟨hexpected, by rw [hexpected]⟩

theorem State.nonceAt_write (s : State) (signer : Address) (domain n : Nat) :
    State.nonceAt (s.write (.persistent (.adminNonce signer domain)) n) signer domain = n := by
  rw [State.nonceAt, FiniteStore.read_write_self]
  rfl

end Advance

/-! ## Uses -/

/-- A counter belongs to a signer and a kind of operation. -/
abbrev NonceKey := Address × Nat

/-- All counters of a state. -/
def State.counters (s : State) (key : NonceKey) : Nat := s.nonceAt key.1 key.2

def nonceKey (signer : Address) (domain : NonceDomain) : NonceKey := (signer, domain.asU32)

abbrev NonceUse := NonceKey × Nat

section Uses

variable {env : Env} {s t : State} {α : Type} {a : α} {signer : Address} {domain : NonceDomain}
  {n : Nat} {use : Option NonceUse}

theorem State.counters_of_agreeOff (h : FiniteStore.AgreeOff nonceFree s t) :
    t.counters = s.counters := by
  funext key
  show (t.read (.persistent (.adminNonce key.1 key.2))).getD 0 = _
  rw [h.read fun hmem => hmem key.1 key.2 rfl]
  rfl

theorem State.counters_of_areas {l : List Area} (h : FiniteStore.AgreeOff (areas l) s t)
    (hl : l.contains .nonces = false) : t.counters = s.counters :=
  State.counters_of_agreeOff (h.mono (areas_subset_nonceFree hl))

theorem Uses.of_agreeOff (h : FiniteStore.AgreeOff nonceFree s t) :
    Uses s.counters t.counters none :=
  .idle (State.counters_of_agreeOff h)

theorem Uses.noncesGrow (h : Uses s.counters t.counters use) : NoncesGrow s t :=
  fun signer domain => h.le (signer, domain)

/-- The accepted nonce is the next one of its own counter, and no other counter moves. -/
theorem checkAndAdvance_uses {v : Unit}
    (hrun : (checkAndAdvance signer domain n).run env s = .ok v t) :
    Uses s.counters t.counters (some (nonceKey signer domain, n)) := by
  obtain ⟨hnext, rfl⟩ := run_checkAndAdvance_nonce hrun
  have hcounters :
      State.counters (s.write (.persistent (.adminNonce signer domain.asU32)) (n + 1)) =
        Function.update s.counters (nonceKey signer domain) (n + 1) := by
    funext key
    by_cases hkey : key = nonceKey signer domain
    · subst hkey
      rw [Function.update_self]
      exact State.nonceAt_write _ _ _ _
    · rw [Function.update_of_ne hkey]
      have hslot : Slot.persistent (.adminNonce key.1 key.2) ≠
          .persistent (.adminNonce signer domain.asU32) := by
        intro hsame
        obtain ⟨hsigner, hdomain⟩ : key.1 = signer ∧ key.2 = domain.asU32 := by simpa using hsame
        exact hkey (Prod.ext hsigner hdomain)
      show State.nonceAt _ key.1 key.2 = _
      rw [State.nonceAt, FiniteStore.read_write_of_ne _ _ hslot]
      rfl
  rw [hcounters]
  exact .one hnext

/-- What follows the check leaves the counters alone. -/
theorem advance_uses {f : Unit → Vault α} (hrest : ∀ v, Modifies nonceFree (f v))
    (hrun : (checkAndAdvance signer domain n >>= f).run env s = .ok a t) :
    Uses s.counters t.counters (some (nonceKey signer domain, n)) := by
  obtain ⟨v, w, hadvance, hrun⟩ := run_bind_ok.mp hrun
  exact (checkAndAdvance_uses hadvance).after_idle
    (State.counters_of_agreeOff ((hrest v).ok hrun))

/-- A nonce that need not be given. -/
theorem optional_consumes {nonce : Option Nat} {f : Unit → Vault α}
    (hrest : ∀ v, Modifies nonceFree (f v))
    (hrun : (whenSome nonce (checkAndAdvance signer domain) >>= f).run env s = .ok a t) :
    Consumes nonce (some (nonceKey signer domain)) false s.counters t.counters := by
  obtain ⟨v, w, hadvance, hrun⟩ := run_bind_ok.mp hrun
  have hafter := State.counters_of_agreeOff ((hrest v).ok hrun)
  cases nonce with
  | none =>
    obtain ⟨-, rfl⟩ := run_pure_ok.mp hadvance
    exact .of_quiet (.inl rfl) hafter
  | some n => exact .of_uses ((checkAndAdvance_uses hadvance).after_idle hafter)

end Uses

/-! ## Operations of the vault -/

section Operations

variable {env : Env} {s t : State} {v : Unit} {id n : Nat} {amount : Int} {nonce : Option Nat}
  {payer caller : Address} {ids : List Nat} {keys : Option (List BytesN32)}

theorem Modifies.nonceFree_of_areas {α : Type} {l : List Area} {x : Vault α}
    (h : Modifies (areas l) x) (hl : l.contains .nonces = false) : Modifies nonceFree x :=
  h.weaken (areas_subset_nonceFree hl)

theorem doDepositFunds_consumes (hrun : (doDepositFunds id amount nonce).run env s = .ok v t) :
    Consumes nonce ((s.subscription id).map fun sub => nonceKey sub.subscriber .depositFunds) false
      s.counters t.counters := by
  obtain ⟨_, hask, hrun⟩ := run_check_ok .ask hrun
  obtain ⟨rfl, -⟩ := run_ask_ok.mp hask
  obtain ⟨sub, hget, hrun⟩ := run_check_ok (Modifies.getSubscription id) hrun
  obtain ⟨_, -, hrun⟩ := run_check_ok (Modifies.requireAuth _) hrun
  obtain ⟨_, -, hrun⟩ := run_check_ok (Modifies.requireNotBlocklisted _) hrun
  obtain ⟨stored, hstored, hsame⟩ :=
    State.effectiveSubscription_eq_some (run_getSubscription_ok.mp hget).1
  have hsubscriber : stored.subscriber = sub.subscriber := by rw [hsame]
  have hdeposit : Modifies (areas [.failures, .records, .tokens]) (do
      let prepaidBalance ← lift (safeAddBalance sub.prepaidBalance amount)
      delete (.instanced (.chargeFailureCounter id))
      writeSubscription id { sub with prepaidBalance }
      transfer sub.token sub.subscriber env.host.contract amount
      addTotalAccounted sub.token amount) :=
    .bind (.lift _) fun _ => .bind (Modifies.delete rfl) fun _ =>
      .bind ((writeSubscription_areas _ _).widen rfl) fun _ =>
      .bind (Modifies.transfer rfl rfl) fun _ => .pure ()
  rw [hstored, Option.map_some, hsubscriber]
  refine optional_consumes (fun _ => ?_) hrun
  exact .bind (.failIf _ _) fun _ => .bind (Modifies.enforceMinTopup _) fun _ =>
    .bind (Modifies.requireNotBlocklisted _) fun _ => .bind (Modifies.checkMerchantStatus _ _)
      fun _ => .bind ((failIfExpired_areas _ _).nonceFree_of_areas rfl) fun _ =>
    .bind (Modifies.enforceCreditLimitForDelta _ _ _) fun _ => .bind (.failIf _ _) fun _ =>
    hdeposit.nonceFree_of_areas rfl

theorem doDepositFundsOnBehalf_consumes
    (hrun : (doDepositFundsOnBehalf id payer amount nonce).run env s = .ok v t) :
    Consumes nonce (some (nonceKey payer .depositFunds)) false s.counters t.counters := by
  obtain ⟨_, hask, hrun⟩ := run_check_ok .ask hrun
  obtain ⟨rfl, -⟩ := run_ask_ok.mp hask
  obtain ⟨_, -, hrun⟩ := run_check_ok (Modifies.requireAuth _) hrun
  have hdeposit (sub : Subscription) : Modifies (areas [.grants, .records, .tokens]) (do
      let prepaidBalance ← lift (safeAddBalance sub.prepaidBalance amount)
      writeSubscription id { sub with prepaidBalance }
      delete (.persistent (.delegatedPayerGrant sub.subscriber payer))
      transfer sub.token payer env.host.contract amount
      addTotalAccounted sub.token amount
      writeSubscription id (Subscription.recovered { sub with prepaidBalance })) :=
    .bind (.lift _) fun _ => .bind ((writeSubscription_areas _ _).widen rfl) fun _ =>
      .bind (Modifies.delete rfl) fun _ => .bind (Modifies.transfer rfl rfl) fun _ =>
      .bind (.pure ()) fun _ => (writeSubscription_areas _ _).widen rfl
  refine optional_consumes (fun _ => ?_) hrun
  exact .bind (Modifies.getSubscription _) fun sub => .bind Modifies.load fun _ =>
    .bind (.okOr _ _) fun _ => .bind (.failIf _ _) fun _ => .bind (.failIf _ _) fun _ =>
    .bind (Modifies.enforceMinTopup _) fun _ => .bind (Modifies.requireNotBlocklisted _) fun _ =>
    .bind (Modifies.requireNotBlocklisted _) fun _ => .bind (.gets _) fun _ =>
    .bind (.failIf _ _) fun _ => .bind ((failIfExpired_areas _ _).nonceFree_of_areas rfl) fun _ =>
    .bind (Modifies.enforceCreditLimitForDelta _ _ _) fun _ => .bind (.failIf _ _) fun _ =>
    (hdeposit sub).nonceFree_of_areas rfl

theorem bulkDepositOne_nonceFree (caller : Address) (id : Nat) (amount : Int) :
    Modifies nonceFree (bulkDepositOne caller id amount) := by
  have hdeposit : Modifies (areas [.failures, .records, .tokens])
      (bulkDepositOne caller id amount) :=
    .bind .ask fun _ => .bind (Modifies.getSubscription _) fun _ => .bind (.failIf _ _) fun _ =>
      .bind (Modifies.enforceMinTopup _) fun _ => .bind (Modifies.checkMerchantStatus _ _) fun _ =>
      .bind (.failIf _ _) fun _ => .bind (Modifies.enforceCreditLimitForDelta _ _ _) fun _ =>
      .bind (.failIf _ _) fun _ => .bind (.lift _) fun _ => .bind (Modifies.delete rfl) fun _ =>
      .bind ((writeSubscription_areas _ _).widen rfl) fun _ =>
      .bind (Modifies.transfer rfl rfl) fun _ => .pure ()
  exact hdeposit.nonceFree_of_areas rfl

/-- A list is worked through under the caller's nonce, unless it is empty. -/
theorem bulkItems_consumes {α : Type} {f : α → Vault Unit} (hf : ∀ a, Modifies nonceFree (f a))
    {as : List α} (hrun : (do
      let proceed ← bulkPrecheck caller ids n
      when proceed (forEach as fun a => do
        let _ ← attempt (f a)
        pure ()) : Vault Unit).run env s = .ok v t) :
    Consumes (some n) (some (nonceKey caller .operatorBatchCharge)) ids.isEmpty
      s.counters t.counters := by
  obtain ⟨proceed, w, hcheck, hitems⟩ := run_bind_ok.mp hrun
  have hafter : t.counters = w.counters := by
    have hfree : Modifies nonceFree (when proceed (forEach as fun a => do
        let _ ← attempt (f a)
        pure ())) :=
      .when <| .forEach (fun a => .bind (.attempt (hf a)) fun _ => .pure ()) _
    exact State.counters_of_agreeOff (hfree.ok hitems)
  obtain ⟨_, -, hcheck⟩ := run_check_ok (Modifies.requireAdminOrOperatorAuth _) hcheck
  obtain ⟨_, -, hcheck⟩ := run_check_ok (.failIf _ _) hcheck
  cases ids with
  | nil =>
    obtain ⟨-, rfl⟩ := run_pure_ok.mp hcheck
    exact .of_quiet (.inr rfl) hafter
  | cons id rest => exact .of_uses ((advance_uses (fun _ => .pure _) hcheck).after_idle hafter)

/-- A batch of charges uses the admin's nonce when one of its items has succeeded. -/
theorem chargeBatch_consumes {admin : Address} {items : List BatchItem}
    {response : BatchChargeResponse}
    (hrun : (chargeBatch admin items n).run env s = .ok response t) :
    Consumes (some n) (some (nonceKey admin .batchCharge)) (!response.results.any (·.success))
      s.counters t.counters := by
  have hcontext : .symbol .batchNonceCtx ∈ nonceFree := fun _ _ => nofun
  obtain ⟨_, -, hrun⟩ := run_check_ok (Modifies.validateNonce _ _ _) hrun
  obtain ⟨_, s₁, hstore, hrun⟩ := run_bind_ok.mp hrun
  obtain ⟨results, s₂, hcharge, hrun⟩ := run_bind_ok.mp hrun
  obtain ⟨advanced, s₃, hadvance, hrun⟩ := run_bind_ok.mp hrun
  obtain ⟨_, s₄, hdelete, hrun⟩ := run_bind_ok.mp hrun
  obtain ⟨_, hadvanced, hrun⟩ := run_check_ok (.lift _) hrun
  obtain ⟨rfl, rfl⟩ := run_pure_ok.mp hrun
  have hbatch : Modifies nonceFree (executeBatchCharge items) :=
    .bind (.gets _) fun _ => chargeItems_keeps
      (fun _ _ _ _ => (chargeOne_areas _ _ _ _).nonceFree_of_areas rfl) _ _ _
  have hbefore : s₂.counters = s.counters :=
    State.counters_of_agreeOff
      ((Exec.Keeps.ok (Modifies.store hcontext) hstore).trans (hbatch.ok hcharge))
  have hafter : s₄.counters = s₃.counters :=
    State.counters_of_agreeOff (Exec.Keeps.ok (Modifies.delete hcontext) hdelete)
  have hok := (run_lift_ok.mp hadvanced).1
  show Consumes _ _ (!results.any (·.success)) _ _
  rcases run_attempt_ok.mp hadvance with ⟨_, -, hadvance⟩ | ⟨_, rfl, -⟩
  · rcases run_when_ok.mp hadvance with ⟨hany, hadvance⟩ | ⟨hnone, rfl⟩
    · rw [hany, ← hbefore]
      exact .of_uses ((checkAndAdvance_uses hadvance).after_idle hafter)
    · rw [Bool.not_eq_true] at hnone
      rw [hnone]
      exact .of_quiet (.inr rfl) (hafter.trans hbefore)
  · cases hok

theorem nodup_of_firstDuplicate {seen : List Nat} (h : firstDuplicate seen ids = none) :
    ids.Nodup ∧ ∀ id ∈ ids, id ∉ seen := by
  induction ids generalizing seen with
  | nil => exact ⟨.nil, fun _ hmem => nomatch hmem⟩
  | cons id rest ih =>
    have hnew : id ∉ seen := by
      intro hseen
      rw [firstDuplicate, if_pos hseen] at h
      cases h
    rw [firstDuplicate, if_neg hnew] at h
    obtain ⟨hrest, hfresh⟩ := ih h
    have hother : ∀ other ∈ rest, other ≠ id := by
      intro other hmem hsame
      exact hfresh other hmem (by simp [hsame])
    refine ⟨List.nodup_cons.mpr ⟨fun hmem => hother id hmem rfl, hrest⟩, fun other hmem => ?_⟩
    rcases List.mem_cons.mp hmem with rfl | hmem
    · exact hnew
    · intro hseen
      exact hfresh other hmem (by simp [hseen])

/-- The batch does not use its nonce: it is empty, an id is in it twice or nothing succeeded. -/
def batchIsIdle (ids : List Nat) (results : List BatchChargeResult) : Bool :=
  ids.isEmpty || decide (¬ids.Nodup) || !results.any (·.success)

/-- The admin of a batch is the stored one. -/
theorem doBatchChargeDetailed_consumes {response : BatchChargeResponse}
    (hrun : (doBatchChargeDetailed ids keys n).run env s = .ok response t) :
    Consumes (some n) (s.admin.map (nonceKey · .batchCharge)) (batchIsIdle ids response.results)
      s.counters t.counters := by
  obtain ⟨admin, hadmin, hrun⟩ := run_check_ok Modifies.requireStoredAdminAuth hrun
  obtain ⟨⟨hstored, -⟩, -⟩ := run_requireStoredAdminAuth_ok.mp hadmin
  obtain ⟨_, -, hrun⟩ := run_check_ok (.failIf _ _) hrun
  by_cases hempty : ids = []
  · rw [if_pos hempty] at hrun
    obtain ⟨rfl, rfl⟩ := run_pure_ok.mp hrun
    exact .of_quiet (.inr (by simp [batchIsIdle])) rfl
  rw [if_neg hempty] at hrun
  obtain ⟨_, -, hrun⟩ := run_check_ok (.failIf _ _) hrun
  cases hfirst : firstDuplicate [] ids with
  | some id =>
    rw [hfirst] at hrun
    obtain ⟨rfl, rfl⟩ := run_pure_ok.mp hrun
    exact .of_quiet (.inr (by simp [batchIsIdle])) rfl
  | none =>
    rw [hfirst] at hrun
    have hidle : batchIsIdle ids response.results = !response.results.any (·.success) := by
      have hnodup := (nodup_of_firstDuplicate hfirst).1
      simp [batchIsIdle, hempty, hnodup]
    rw [hidle, hstored]
    exact chargeBatch_consumes hrun

theorem doRotateMerchantAddress_uses {admin oldMerchant newMerchant : Address}
    (hrun : (doRotateMerchantAddress admin oldMerchant newMerchant n).run env s = .ok v t) :
    Uses s.counters t.counters (some (nonceKey admin .merchantRotation, n)) := by
  obtain ⟨_, -, hrun⟩ := run_check_ok (Modifies.requireAdminAuth _) hrun
  have hmoves : Modifies (areas (rotationAreas.erase .nonces)) (do
      let tokens ← gets (·.merchantTokens oldMerchant)
      forEach tokens (moveMerchantToken oldMerchant newMerchant)
      moveList (.merchantTokens oldMerchant) (.merchantTokens newMerchant) tokens
      moveEntry (.merchantConfig oldMerchant) (.merchantConfig newMerchant)
      moveEntry (.merchantPaused oldMerchant) (.merchantPaused newMerchant)
      moveEntry (.merchantVacation oldMerchant) (.merchantVacation newMerchant)
      let ids ← gets (·.merchantSubs oldMerchant)
      forEach ids (rewriteSubscriptionMerchant oldMerchant newMerchant)
      moveList (.merchantSubs oldMerchant) (.merchantSubs newMerchant) ids) :=
    .bind (.gets _) fun _ =>
      .bind (.forEach (fun _ => (moveMerchantToken_areas _ _ _).widen rfl) _) fun _ =>
      .bind (moveList_areas _ _ _ rfl rfl) fun _ => .bind (moveEntry_areas _ _ rfl rfl) fun _ =>
      .bind (moveEntry_areas _ _ rfl rfl) fun _ => .bind (moveEntry_areas _ _ rfl rfl) fun _ =>
      .bind (.gets _) fun _ =>
      .bind (.forEach (fun _ => (rewriteSubscriptionMerchant_areas _ _ _).widen rfl) _) fun _ =>
      moveList_areas _ _ _ rfl rfl
  exact advance_uses (fun _ => hmoves.nonceFree_of_areas rfl) hrun

end Operations

/-! ## Calls of the vault -/

/-- The operator's batch takes a nonce as well, and does nothing. -/
def VaultCall.nonce : VaultCall → Option Nat
  | .depositFunds _ _ nonce | .depositFundsOnBehalf _ _ _ nonce => nonce
  | .bulkDepositFunds _ _ nonce | .bulkCancelSubscriptions _ _ nonce
  | .bulkPauseSubscriptions _ _ nonce | .batchCharge _ _ nonce | .batchChargeDetailed _ _ nonce
  | .operatorBatchCharge _ _ nonce | .rotateMerchantAddress _ _ _ nonce => some nonce
  | _ => none

def VaultCall.counter (s : State) : VaultCall → Option NonceKey
  | .depositFunds id _ _ =>
    (s.subscription id).map fun sub => nonceKey sub.subscriber .depositFunds
  | .depositFundsOnBehalf _ payer _ _ => some (nonceKey payer .depositFunds)
  | .bulkDepositFunds caller _ _ | .bulkCancelSubscriptions caller _ _
  | .bulkPauseSubscriptions caller _ _ | .operatorBatchCharge caller _ _ =>
    some (nonceKey caller .operatorBatchCharge)
  | .batchCharge _ _ _ | .batchChargeDetailed _ _ _ => s.admin.map (nonceKey · .batchCharge)
  | .rotateMerchantAddress admin _ _ _ => some (nonceKey admin .merchantRotation)
  | _ => none

/-- The results a batch charge reports. -/
def VaultCall.chargeResults (env : Env) (s : State) : VaultCall → List BatchChargeResult
  | .batchCharge ids keys nonce =>
    match (guardedBatch (doBatchCharge ids keys nonce)).run env s with
    | .ok results _ => results
    | _ => []
  | .batchChargeDetailed ids keys nonce =>
    match (guardedBatch (doBatchChargeDetailed ids keys nonce)).run env s with
    | .ok response _ => response.results
    | _ => []
  | _ => []

/-- An empty batch, or a batch charge with a duplicate or without a success. -/
def VaultCall.isIdle (env : Env) (s : State) (call : VaultCall) : Bool :=
  match call with
  | .bulkDepositFunds _ entries _ => entries.isEmpty
  | .bulkCancelSubscriptions _ ids _ | .bulkPauseSubscriptions _ ids _ => ids.isEmpty
  | .batchCharge ids _ _ | .batchChargeDetailed ids _ _ | .operatorBatchCharge _ ids _ =>
    batchIsIdle ids (call.chargeResults env s)
  | _ => false

section Calls

variable {env : Env} {s t : State}

/-- Around the code of a call are writes to its lock. -/
theorem run_withLock_counters {name : LockName} {α : Type} {body : Vault α} {a : α}
    (hrun : (withLock name body).run env s = .ok a t) :
    ∃ v w, body.run env v = .ok a w ∧ v.counters = s.counters ∧ t.counters = w.counters ∧
      v.admin = s.admin ∧ ∀ id, v.subscription id = s.subscription id := by
  obtain ⟨v, w, hbody, hbefore, hafter⟩ := run_withLock_areas hrun
  exact ⟨v, w, hbody, State.counters_of_areas hbefore rfl, State.counters_of_areas hafter rfl,
    State.config_of_areas hbefore
      (State.schemaVersion_of_agreeOff hbefore Bool.false_ne_true Bool.false_ne_true) rfl rfl,
    fun id => State.read_of_areas hbefore rfl⟩

theorem VaultCall.consumes {call : VaultCall} (hrun : call.exec.run env s = .ok () t) :
    Consumes call.nonce (call.counter s) (call.isIdle env s) s.counters t.counters := by
  have hown (hl : (Area.locks :: call.areas).contains .nonces = false) :
      t.counters = s.counters := State.counters_of_areas (call.worksIn.ok hrun).1 hl
  cases call
  case depositFunds id amount nonce =>
    obtain ⟨v, w, hbody, hbefore, hafter, -, hrecords⟩ :=
      run_withLock_counters (run_guardedCall_ok.mp hrun).2
    have hconsumes := doDepositFunds_consumes hbody
    rw [hrecords, hbefore, ← hafter] at hconsumes
    exact hconsumes
  case depositFundsOnBehalf id payer amount nonce =>
    obtain ⟨v, w, hbody, hbefore, hafter, -⟩ :=
      run_withLock_counters (run_guardedCall_ok.mp hrun).2
    have hconsumes := doDepositFundsOnBehalf_consumes hbody
    rw [hbefore, ← hafter] at hconsumes
    exact hconsumes
  case bulkDepositFunds caller entries nonce =>
    obtain ⟨v, w, hbody, hbefore, hafter, -⟩ :=
      run_withLock_counters (run_guardedCall_ok.mp hrun).2
    have hconsumes := bulkItems_consumes (fun _ => bulkDepositOne_nonceFree _ _ _) hbody
    rw [hbefore, ← hafter, List.isEmpty_map] at hconsumes
    exact hconsumes
  case batchCharge ids keys nonce =>
    obtain ⟨results, hreported⟩ := run_effectOf_ok.mp hrun
    obtain ⟨v, w, hbody, hbefore, hafter, hadmin, -⟩ :=
      run_withLock_counters (run_guardedBatch_ok.mp hreported).2
    obtain ⟨response, u, hbatch, hrest⟩ := run_bind_ok.mp hbody
    obtain ⟨_, -, hrest⟩ := run_check_ok (.failIf _ _) hrest
    obtain ⟨rfl, rfl⟩ := run_pure_ok.mp hrest
    have hconsumes := doBatchChargeDetailed_consumes hbatch
    rw [hadmin, hbefore, ← hafter] at hconsumes
    rw [VaultCall.isIdle, VaultCall.chargeResults, hreported]
    exact hconsumes
  case batchChargeDetailed ids keys nonce =>
    obtain ⟨response, hreported⟩ := run_effectOf_ok.mp hrun
    obtain ⟨v, w, hbody, hbefore, hafter, hadmin, -⟩ :=
      run_withLock_counters (run_guardedBatch_ok.mp hreported).2
    have hconsumes := doBatchChargeDetailed_consumes hbody
    rw [hadmin, hbefore, ← hafter] at hconsumes
    rw [VaultCall.isIdle, VaultCall.chargeResults, hreported]
    exact hconsumes
  case operatorBatchCharge op ids nonce =>
    exact .of_quiet (.inr (by simp [VaultCall.isIdle, VaultCall.chargeResults, batchIsIdle]))
      (hown rfl)
  case bulkCancelSubscriptions caller ids nonce =>
    obtain ⟨v, w, hbody, hbefore, hafter, -⟩ := run_withLock_counters hrun
    have hconsumes := bulkItems_consumes
      (fun _ => (bulkCancelOne_areas _).nonceFree_of_areas rfl) hbody
    rw [hbefore, ← hafter] at hconsumes
    exact hconsumes
  case bulkPauseSubscriptions caller ids nonce =>
    exact bulkItems_consumes (fun _ => (bulkPauseOne_areas _).nonceFree_of_areas rfl) hrun
  case rotateMerchantAddress => exact .of_uses (doRotateMerchantAddress_uses hrun)
  all_goals exact .of_quiet (.inl rfl) (hown rfl)

/-- No call sets a counter back. -/
theorem VaultCall.noncesGrow {call : VaultCall} (hrun : call.exec.run env s = .ok () t) :
    NoncesGrow s t :=
  (VaultCall.consumes hrun).uses.noncesGrow

end Calls

end SubscriptionVault
