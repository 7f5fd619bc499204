import SubscriptionVault.Accounts.Operations
import SubscriptionVault.Lifecycle.Consents
import SubscriptionVault.Lifecycle.Indexes

/-!
# The tokens of a merchant

A merchant's list of tokens is written by the two things that give it earnings: payments, which
append the token when it is new, and rotations to its address, which merge the other list in.
Only a rotation away from the address empties the list.
-/

namespace SubscriptionVault

open Exec

/-- The list keeps what is on it, and a token with new earnings is on it. -/
structure TokensKept (merchant : Address) (s t : State) : Prop where
  grown : ∀ token ∈ s.merchantTokens merchant, token ∈ t.merchantTokens merchant
  listed : ∀ token, token ∉ t.merchantTokens merchant →
    (t.tokenEarnings merchant token).accruals = (s.tokenEarnings merchant token).accruals

namespace TokensKept

variable {merchant : Address}

instance : Std.Refl (TokensKept merchant) where
  refl _ := ⟨fun _ hmem => hmem, fun _ _ => rfl⟩

instance : IsTrans State (TokensKept merchant) where
  trans _ _ _ h h' := by
    refine ⟨fun token hmem => h'.grown token (h.grown token hmem), fun token hnot => ?_⟩
    have hbefore := h.listed token fun hmem => hnot (h'.grown token hmem)
    exact (h'.listed token hnot).trans hbefore

theorem of_areas {l : List Area} {s t : State} (h : FiniteStore.AgreeOff (areas l) s t)
    (hl : l.any [Area.earnings, .merchantTokens].contains = false) : TokensKept merchant s t := by
  have hout {area : Area} (harea : [Area.earnings, .merchantTokens].contains area = true) :
      l.contains area = false := by
    refine Bool.eq_false_iff.mpr fun hin => ?_
    exact List.any_eq_false.mp hl area (List.contains_iff_mem.mp hin) harea
  have htokens : t.merchantTokens merchant = s.merchantTokens merchant :=
    congrArg (·.getD [])
      (State.read_of_areas (k := .instanced (.merchantTokens merchant)) h (hout rfl))
  refine ⟨fun token hmem => htokens.symm ▸ hmem, fun token _ => ?_⟩
  rw [State.tokenEarnings_of_areas h (hout rfl)]

end TokensKept

theorem Modifies.tokensKept {α : Type} {l : List Area} {x : Vault α} {merchant : Address}
    (h : Modifies (areas l) x) (hl : l.any [Area.earnings, .merchantTokens].contains = false) :
    x.Keeps (TokensKept merchant) :=
  h.mono fun _ _ hagree => .of_areas hagree hl

/-! ## Payments -/

section Payments

variable {merchant : Address}

theorem addMerchantToken_lists {env : Env} {s t : State} {u : Unit} {paid token : Address}
    (hrun : (addMerchantToken paid token).run env s = .ok u t) :
    token ∈ t.merchantTokens paid ∧
      ∀ m, ∀ tok ∈ s.merchantTokens m, tok ∈ t.merchantTokens m := by
  obtain ⟨tokens, htokens, hrun⟩ := run_check_ok (.gets _) hrun
  obtain rfl := (run_gets_ok.mp htokens).1
  rcases run_when_ok.mp hrun with ⟨-, hwrite⟩ | ⟨hold, rfl⟩
  · obtain rfl := run_store_ok.mp hwrite
    have hself : State.merchantTokens (s.write (.instanced (.merchantTokens paid))
        (s.merchantTokens paid ++ [token])) paid = s.merchantTokens paid ++ [token] := by
      unfold State.merchantTokens
      rw [FiniteStore.read_write_self]
      rfl
    refine ⟨by simp [hself], fun m tok hmem => ?_⟩
    by_cases hm : m = paid
    · subst hm
      rw [hself]
      exact List.mem_append_left _ hmem
    · have hkey : Slot.instanced (.merchantTokens m) ≠ .instanced (.merchantTokens paid) := by
        simp only [ne_eq, Slot.instanced.injEq, DataKey.merchantTokens.injEq]
        exact hm
      have hother : State.merchantTokens (s.write (.instanced (.merchantTokens paid))
          (s.merchantTokens paid ++ [token])) m = s.merchantTokens m :=
        congrArg (·.getD []) (FiniteStore.read_write_of_ne s _ hkey)
      rwa [hother]
  · exact ⟨not_not.mp hold, fun _ _ hmem => hmem⟩

/-- The earnings record is written first, but nothing can fail between it and the list. -/
theorem recordEarnings_tokens (paid token : Address) (earnings : TokenEarnings) (amount : Int) :
    (do
      setMerchantTokenEarnings paid token earnings
      addMerchantToken paid token
      addTotalAccounted token amount).Keeps (TokensKept merchant) := by
  refine .of_runs (fun env s _ t hrun => ?_) fun env s e t hrun => ?_
  · obtain ⟨_, s₁, hrecord, hrun⟩ := run_bind_ok.mp hrun
    obtain ⟨_, s₂, hadd, hrun⟩ := run_bind_ok.mp hrun
    obtain rfl := (run_pure_ok.mp hrun).2
    have hrecorded : FiniteStore.AgreeOff (areas [.earnings]) s s₁ :=
      run_store_ok.mp hrecord ▸ s.agreeOff_write _ rfl
    have hmodifies : Modifies (areas [.merchantTokens]) (addMerchantToken paid token) :=
      .bind (.gets _) fun _ => .when (Modifies.store rfl)
    have hlists := hmodifies.ok hadd
    obtain ⟨hlisted, hgrown⟩ := addMerchantToken_lists hadd
    refine ⟨fun tok hmem => hgrown merchant tok ?_, fun tok hnot => ?_⟩
    · have hsame : s₁.merchantTokens merchant = s.merchantTokens merchant :=
        congrArg (·.getD [])
          (State.read_of_areas (k := .instanced (.merchantTokens merchant)) hrecorded rfl)
      rwa [hsame]
    · rw [State.tokenEarnings_of_areas hlists rfl]
      have hkey : Slot.instanced (.merchantEarnings merchant tok) ≠
          .instanced (.merchantEarnings paid token) := by
        intro hsame
        cases hsame
        exact hnot hlisted
      obtain rfl := run_store_ok.mp hrecord
      exact congrArg (TokenEarnings.accruals <| ·.getD TokenEarnings.none)
        (FiniteStore.read_write_of_ne s _ hkey)
  · simp [setMerchantTokenEarnings, addMerchantToken, addTotalAccounted, run_when_err] at hrun

theorem creditMerchantBalanceForToken_tokens (paid token : Address) (amount : Int)
    (kind : BillingChargeKind) :
    (creditMerchantBalanceForToken paid token amount kind).Keeps (TokensKept merchant) :=
  .bind (.failIf _ _) fun _ => .bind (.gets _) fun _ => .bind (.lift _) fun _ =>
    .bind (Modifies.tokensKept (l := [.balances]) (Modifies.store rfl) rfl) fun _ =>
    .bind (.gets _) fun _ => .bind (.lift _) fun _ => recordEarnings_tokens _ _ _ _

theorem creditShares_tokens (token : Address) (net : Int) (kind : BillingChargeKind)
    (entries : List (Address × Nat)) (total : Int) :
    (creditShares token net kind entries total).Keeps (TokensKept merchant) := by
  induction entries generalizing total with
  | nil => exact .pure _
  | cons entry entries ih =>
    exact .bind (.lift _) fun _ =>
      .bind (creditMerchantBalanceForToken_tokens _ _ _ _) fun _ => ih _

theorem creditChargePayees_tokens (id : Nat) (sub : Subscription) (net : Int)
    (kind : BillingChargeKind) :
    (creditChargePayees id sub net kind).Keeps (TokensKept merchant) := by
  refine .bind (.gets _) fun split => ?_
  cases split.map (·.entries) with
  | none => exact creditMerchantBalanceForToken_tokens _ _ _ _
  | some entries =>
    cases entries with
    | nil => exact .pure _
    | cons entry entries =>
      exact .bind (creditShares_tokens _ _ _ _ _) fun _ =>
        creditMerchantBalanceForToken_tokens _ _ _ _

theorem routeToSubAccount_tokens (sub : Subscription) (net : Int) :
    (routeToSubAccount sub net).Keeps (TokensKept merchant) := by
  unfold routeToSubAccount
  cases sub.subAccountLabel with
  | none => exact .pure _
  | some label =>
    have hcredit : Modifies (areas [.subAccounts])
        (creditSubAccount sub.merchant label sub.token net) :=
      .bind (.failIf _ _) fun _ => .bind (.bind Modifies.load fun _ => .failIf _ _) fun _ =>
        .bind (.gets _) fun _ => .bind (.lift _) fun _ => .bind (Modifies.store rfl) fun _ =>
        .bind (.gets _) fun _ => Modifies.store rfl
    exact .bind (hcredit.tokensKept rfl) fun _ => .bind (.gets _) fun _ =>
      .bind (.lift _) fun _ => Modifies.tokensKept (l := [.balances]) (Modifies.store rfl) rfl

theorem paymentTokens (id : Nat) (sub : Subscription) :
    PaymentKeeps (TokensKept merchant) id sub where
  quiet _ _ hagree := .of_areas hagree rfl
  credit _ _ _ _ := creditMerchantBalanceForToken_tokens _ _ _ _
  payees _ _ := .bind (creditChargePayees_tokens _ _ _ _) fun _ => routeToSubAccount_tokens _ _

theorem chargeUsageOne_tokens (id : Nat) (usageAmount : Int) (reference : Bytes) :
    (chargeUsageOne id usageAmount reference).Keeps (TokensKept merchant) :=
  chargeUsageOne_keeps (fun sub => (paymentTokens id sub).ends.withUsage
    fun _ _ hagree => .of_areas hagree rfl) usageAmount reference

theorem chargeOne_tokens (id : Nat) (key : Option BytesN32) (cfg : Option CachedAdminConfig)
    (cache : MerchantCache) : (chargeOne id key cfg cache).Keeps (TokensKept merchant) :=
  chargeOne_keeps (paymentTokens id) key cfg cache

end Payments

/-! ## Rotations -/

section Rotation

variable {env : Env} {s t : State} {u : Unit} {oldMerchant newMerchant merchant : Address}

theorem moveMerchantTokens_lists {tokens : List Address} (hkept : merchant ≠ oldMerchant)
    (hrun : (moveList (.merchantTokens oldMerchant) (.merchantTokens newMerchant) tokens).run
      env s = .ok u t) :
    (∀ token ∈ s.merchantTokens merchant, token ∈ t.merchantTokens merchant) ∧
      (merchant = newMerchant → ∀ token ∈ tokens, token ∈ t.merchantTokens merchant) := by
  obtain ⟨_, s₁, hmerge, hrun⟩ := run_bind_ok.mp hrun
  have hdropped : t.merchantTokens merchant = s₁.merchantTokens merchant := by
    have hkey : Slot.instanced (.merchantTokens merchant) ≠
        .instanced (.merchantTokens oldMerchant) := by
      simp only [ne_eq, Slot.instanced.injEq, DataKey.merchantTokens.injEq]
      exact hkept
    obtain rfl := run_delete_ok.mp hrun
    exact congrArg (·.getD []) (FiniteStore.read_remove_of_ne s₁ hkey)
  rw [hdropped]
  rcases run_when_ok.mp hmerge with ⟨-, hwrite⟩ | ⟨hempty, rfl⟩
  · obtain ⟨existing, hload, hwrite⟩ := run_check_ok Modifies.load hwrite
    obtain rfl := (run_load_ok.mp hload).1
    obtain rfl := run_store_ok.mp hwrite
    by_cases hnew : merchant = newMerchant
    · subst hnew
      have hmerged : State.merchantTokens (s.write (.instanced (.merchantTokens merchant))
          (mergeInto (s.merchantTokens merchant) tokens)) merchant =
            mergeInto (s.merchantTokens merchant) tokens := by
        unfold State.merchantTokens
        rw [FiniteStore.read_write_self]
        rfl
      refine ⟨fun token hmem => ?_, fun _ token hmem => ?_⟩
      · exact hmerged.symm ▸ (mem_mergeInto _ _ token).mpr (.inl hmem)
      · exact hmerged.symm ▸ (mem_mergeInto _ _ token).mpr (.inr hmem)
    · have hkey : Slot.instanced (.merchantTokens merchant) ≠
          .instanced (.merchantTokens newMerchant) := by
        simp only [ne_eq, Slot.instanced.injEq, DataKey.merchantTokens.injEq]
        exact hnew
      refine ⟨fun token hmem => ?_, fun h => absurd h hnew⟩
      unfold State.merchantTokens
      rwa [FiniteStore.read_write_of_ne s _ hkey]
  · obtain rfl := not_not.mp hempty
    exact ⟨fun _ hmem => hmem, fun _ _ hmem => absurd hmem List.not_mem_nil⟩

/-- The list of another address only takes up what is moved there. -/
theorem doRotateMerchantAddress_lists {admin : Address} {nonce : Nat}
    (hkept : merchant ≠ oldMerchant)
    (hrun : (doRotateMerchantAddress admin oldMerchant newMerchant nonce).run env s = .ok u t) :
    (∀ token ∈ s.merchantTokens merchant, token ∈ t.merchantTokens merchant) ∧
      (merchant = newMerchant →
        ∀ token ∈ s.merchantTokens oldMerchant, token ∈ t.merchantTokens merchant) := by
  obtain ⟨_, -, hrun⟩ := run_check_ok (Modifies.requireAdminAuth _) hrun
  obtain ⟨_, s₁, hnonce, hrun⟩ := run_bind_ok.mp hrun
  obtain ⟨tokens, htokens, hrun⟩ := run_check_ok (.gets _) hrun
  obtain rfl := (run_gets_ok.mp htokens).1
  obtain ⟨_, s₂, hmoved, hrun⟩ := run_bind_ok.mp hrun
  obtain ⟨_, s₃, hlists, hrun⟩ := run_bind_ok.mp hrun
  have hnonces : Modifies (areas [.nonces]) (checkAndAdvance admin .merchantRotation nonce) :=
    Modifies.checkAndAdvance rfl
  have hmoves : Modifies (areas [.balances, .earnings])
      (forEach (s₁.merchantTokens oldMerchant) (moveMerchantToken oldMerchant newMerchant)) :=
    .forEach (fun _ => moveMerchantToken_areas _ _ _) _
  have hrest : Modifies (areas [.merchants, .records, .merchantIndex]) (do
      moveEntry (.merchantConfig oldMerchant) (.merchantConfig newMerchant)
      moveEntry (.merchantPaused oldMerchant) (.merchantPaused newMerchant)
      moveEntry (.merchantVacation oldMerchant) (.merchantVacation newMerchant)
      let ids ← gets (·.merchantSubs oldMerchant)
      forEach ids (rewriteSubscriptionMerchant oldMerchant newMerchant)
      moveList (.merchantSubs oldMerchant) (.merchantSubs newMerchant) ids : Vault Unit) :=
    .bind (moveEntry_areas _ _ rfl rfl) fun _ => .bind (moveEntry_areas _ _ rfl rfl) fun _ =>
      .bind (moveEntry_areas _ _ rfl rfl) fun _ => .bind (.gets _) fun _ =>
      .bind (.forEach (fun _ => (rewriteSubscriptionMerchant_areas _ _ _).widen rfl) _) fun _ =>
      moveList_areas _ _ _ rfl rfl
  have hsame {l : List Area} {v w : State} (h : FiniteStore.AgreeOff (areas l) v w)
      (hl : l.contains .merchantTokens = false) (m : Address) :
      w.merchantTokens m = v.merchantTokens m :=
    congrArg (·.getD []) (State.read_of_areas (k := .instanced (.merchantTokens m)) h hl)
  obtain ⟨hgrown, htaken⟩ := moveMerchantTokens_lists hkept hlists
  rw [hsame (hrest.ok hrun) rfl]
  rw [hsame (hmoves.ok hmoved) rfl, hsame (hnonces.ok hnonce) rfl] at hgrown
  rw [hsame (hnonces.ok hnonce) rfl] at htaken
  exact ⟨hgrown, htaken⟩

end Rotation

/-! ## Calls -/

/-- The posting may change what has been earned. -/
def Posting.accrues : Posting → Bool
  | .credit _ _ _ _ _ | .move _ _ _ _ => true
  | _ => false

theorem Posting.post_accruals (p : Posting) (hp : p.accrues = false) (a : Accounts)
    (merchant token : Address) : ((p.post a).earnings merchant token).accruals =
      (a.earnings merchant token).accruals := by
  cases p with
  | credit => cases hp
  | move => cases hp
  | withdraw m tok amount =>
    simp only [Posting.post, Accounts.setEarnings, Accounts.setBalance]
    split
    · rename_i h
      rw [h.1, h.2]
    · rfl
  | refund m tok amount =>
    simp only [Posting.post, Accounts.setEarnings, Accounts.setBalance]
    split
    · rename_i h
      rw [h.1, h.2]
    · rfl
  | payOut m tok =>
    simp only [Posting.post, Accounts.setEarnings, Accounts.setBalance]
    split
    · rename_i h
      rw [h.1, h.2]
    · rfl
  | withdrawSub m tok label amount =>
    simp only [Posting.post, Accounts.setEarnings, Accounts.addFunds, Accounts.setSubAccount]
    split
    · rename_i h
      rw [h.1, h.2]
    · rfl
  | _ => rfl

/-- A rotation touches the earnings of another address only in the token it moves there. -/
theorem Posting.move_accruals {a : Accounts}
    {oldMerchant newMerchant moved merchant token : Address}
    {recorded : Bool} (hold : merchant ≠ oldMerchant)
    (hnew : ¬(merchant = newMerchant ∧ token = moved)) :
    ((Posting.move oldMerchant newMerchant moved recorded).post a).earnings merchant token =
      a.earnings merchant token := by
  have hmerged : (if a.balance oldMerchant moved = 0 then a else
      a.setBalance newMerchant moved (wrapI128 (a.balance newMerchant moved +
        a.balance oldMerchant moved))).earnings = a.earnings := by
    split <;> rfl
  cases recorded with
  | false => exact congrFun (congrFun hmerged _) _
  | true =>
    have hfrom : ¬(merchant = oldMerchant ∧ token = moved) := fun h => hold h.1
    simp only [Posting.post, Accounts.setEarnings, if_true, if_neg hfrom, if_neg hnew]
    exact congrFun (congrFun hmerged _) _

section Calls

variable {env : Env} {s t : State} {merchant : Address}

theorem PostsOf.accruals {P : Posting → Prop} (h : PostsOf P s t)
    (hquiet : ∀ p, P p → p.accrues = false) (merchant token : Address) :
    (t.tokenEarnings merchant token).accruals = (s.tokenEarnings merchant token).accruals := by
  refine Posted.invariant (I := fun a => (a.earnings merchant token).accruals =
    (s.tokenEarnings merchant token).accruals) h (fun a p hp _ hsame => ?_) rfl
  exact (p.post_accruals (hquiet p hp) a merchant token).trans hsame

/-- A call that leaves the lists alone leaves alone what has been earned. -/
theorem VaultCall.accruals {call : VaultCall} (hcall : call.areas.contains .merchantTokens = false)
    (hrun : call.exec.run env s = .ok () t) (merchant token : Address) :
    (t.tokenEarnings merchant token).accruals = (s.tokenEarnings merchant token).accruals := by
  refine (VaultCall.posts hrun).accruals (fun p hp => ?_) merchant token
  cases call
  case withdrawMerchantFunds =>
    obtain ⟨_, rfl⟩ := hp
    rfl
  case withdrawMerchantTokenFunds =>
    obtain rfl := hp
    rfl
  case merchantRefund =>
    obtain rfl := hp
    rfl
  case flushPayouts =>
    obtain ⟨_, rfl⟩ := hp
    rfl
  case registerSubAccount =>
    obtain rfl := hp
    rfl
  case withdrawSubAccountFunds =>
    obtain rfl := hp
    rfl
  case openDispute =>
    obtain ⟨_, _, rfl⟩ := hp
    rfl
  case resolveDispute =>
    obtain ⟨_, _, _, rfl⟩ := hp
    rfl
  case restoreSnapshotPage =>
    obtain ⟨_, _, _, rfl⟩ := hp
    rfl
  all_goals first | exact hp.elim | cases hcall

theorem doRotateMerchantAddress_tokens {admin oldMerchant newMerchant : Address} {nonce : Nat}
    {u : Unit} (hkept : merchant ≠ oldMerchant)
    (hrun : (doRotateMerchantAddress admin oldMerchant newMerchant nonce).run env s = .ok u t) :
    TokensKept merchant s t := by
  obtain ⟨hgrown, htaken⟩ := doRotateMerchantAddress_lists hkept hrun
  refine ⟨hgrown, fun token hnot => ?_⟩
  refine Posted.invariant (I := fun a => (a.earnings merchant token).accruals =
    (s.tokenEarnings merchant token).accruals) (doRotateMerchantAddress_posts hrun)
    (fun a p hp _ hsame => ?_) rfl
  obtain ⟨moved, hmoved, recorded, rfl⟩ := hp
  have hnew : ¬(merchant = newMerchant ∧ token = moved) := by
    rintro ⟨hto, rfl⟩
    exact hnot (htaken hto token hmoved)
  exact (congrArg TokenEarnings.accruals (Posting.move_accruals hkept hnew)).trans hsame

/-- The call takes everything the address owns to another one. -/
def VaultCall.rotatesAway (merchant : Address) : VaultCall → Prop
  | .rotateMerchantAddress _ oldMerchant _ _ => oldMerchant = merchant
  | _ => False

/-- What a merchant earns in a call is on its list afterwards. -/
theorem VaultCall.tokensKept {call : VaultCall} (hstays : ¬call.rotatesAway merchant)
    (hrun : call.exec.run env s = .ok () t) : TokensKept merchant s t := by
  have hlocked {name : LockName} {α : Type} {body : Vault α} {a : α}
      (hbody : body.Keeps (TokensKept merchant))
      (hrun : (withLock name body).run env s = .ok a t) : TokensKept merchant s t := by
    obtain ⟨v, w, hbody', hbefore, hafter⟩ := run_withLock_areas hrun
    exact IsTrans.trans _ _ _ (IsTrans.trans _ _ _ (.of_areas hbefore rfl) (hbody.ok hbody'))
      (.of_areas hafter rfl)
  have hpays {β : Type} {x : Vault β} {name : LockName} (hx : x.Keeps (TokensKept merchant))
      (hcall : (effectOf (guardedCall name x)).run env s = .ok () t) :
      TokensKept merchant s t := by
    obtain ⟨b, hcall⟩ := run_effectOf_ok.mp hcall
    exact hlocked hx (run_guardedCall_ok.mp hcall).2
  have hbatch (ids : List Nat) (keys : Option (List BytesN32)) (nonce : Nat) :
      (doBatchChargeDetailed ids keys nonce).Keeps (TokensKept merchant) :=
    doBatchChargeDetailed_keeps chargeOne_tokens (fun _ _ hagree => .of_areas hagree rfl) ids keys
      nonce
  by_cases hlist : call.areas.contains .merchantTokens = false
  · have hsame : t.merchantTokens merchant = s.merchantTokens merchant :=
      congrArg (·.getD []) (State.read_of_areas (k := .instanced (.merchantTokens merchant))
        (call.worksIn.ok hrun).1 hlist)
    refine ⟨fun token hmem => hsame.symm ▸ hmem, fun token _ => ?_⟩
    exact VaultCall.accruals hlist hrun merchant token
  cases call
  case chargeSubscription => exact hpays (chargeOne_tokens _ _ _ _) hrun
  case operatorChargeSubscription =>
    exact hpays (.bind (keeps_requireOperatorAuth _) fun _ => chargeOne_tokens _ _ _ _)
      hrun
  case batchCharge =>
    obtain ⟨_, hrun⟩ := run_effectOf_ok.mp hrun
    exact hlocked (.bind (hbatch _ _ _) fun _ => .bind (.failIf _ _) fun _ => .pure _)
      (run_guardedBatch_ok.mp hrun).2
  case batchChargeDetailed =>
    obtain ⟨_, hrun⟩ := run_effectOf_ok.mp hrun
    exact hlocked (hbatch _ _ _) (run_guardedBatch_ok.mp hrun).2
  case chargeUsage => exact hpays (chargeUsageOne_tokens _ _ _) hrun
  case chargeUsageWithReference => exact hpays (chargeUsageOne_tokens _ _ _) hrun
  case operatorChargeUsage =>
    exact hpays (.bind (keeps_requireOperatorAuth _) fun _ =>
      chargeUsageOne_tokens _ _ _) hrun
  case operatorChargeUsageWithRef =>
    exact hpays (.bind (keeps_requireOperatorAuth _) fun _ =>
      chargeUsageOne_tokens _ _ _) hrun
  case chargeOneOff =>
    exact hlocked (doChargeOneOff_keeps (paymentTokens _) _ _ _) (run_guardedCall_ok.mp hrun).2
  case graceBuyout =>
    exact hpays (doGraceBuyout_keeps (paymentTokens _) _ _ _) hrun
  case rotateMerchantAddress => exact doRotateMerchantAddress_tokens (Ne.symm hstays) hrun
  all_goals exact absurd rfl hlist

end Calls

end SubscriptionVault
