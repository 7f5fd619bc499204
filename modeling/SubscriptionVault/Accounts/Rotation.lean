import SubscriptionVault.Accounts.Operations
import SubscriptionVault.Lifecycle.Indexes

/-!
# Merchant rotation

A rotation moves balances and earnings one token at a time, for the tokens listed under the old
address. Per token the effect is a function of what the two addresses hold, and it is the same
however often the token is listed.
-/

namespace SubscriptionVault

open Exec

/-! ## Holdings -/

/-- What the two addresses of a rotation hold in one token. -/
structure Holdings where
  oldBalance : Int
  newBalance : Int
  oldEarnings : Option TokenEarnings
  newEarnings : Option TokenEarnings

/-- Balances are added as the machine adds them, earnings are replaced. -/
def Holdings.rotated (h : Holdings) : Holdings where
  oldBalance := 0
  newBalance := if h.oldBalance = 0 then h.newBalance else wrapI128 (h.newBalance + h.oldBalance)
  oldEarnings := none
  newEarnings := h.oldEarnings.or h.newEarnings

theorem Holdings.rotated_rotated (h : Holdings) : h.rotated.rotated = h.rotated := by
  simp [Holdings.rotated]

def State.earningsEntry (s : State) (merchant token : Address) : Option TokenEarnings :=
  s.read (.instanced (.merchantEarnings merchant token))

def State.holdings (s : State) (oldMerchant newMerchant token : Address) : Holdings where
  oldBalance := s.merchantBalance oldMerchant token
  newBalance := s.merchantBalance newMerchant token
  oldEarnings := s.earningsEntry oldMerchant token
  newEarnings := s.earningsEntry newMerchant token

theorem State.tokenEarnings_eq (s : State) (merchant token : Address) :
    s.tokenEarnings merchant token = (s.earningsEntry merchant token).getD .none := rfl

section Holdings

variable {s t : State} {oldMerchant newMerchant token : Address} {l : List Area}

theorem State.earningsEntry_of_areas (h : FiniteStore.AgreeOff (areas l) s t)
    (hl : l.contains .earnings = false) (merchant token : Address) :
    t.earningsEntry merchant token = s.earningsEntry merchant token :=
  State.read_of_areas (k := .instanced (.merchantEarnings merchant token)) h hl

theorem State.holdings_of_areas (h : FiniteStore.AgreeOff (areas l) s t)
    (hbalances : l.contains .balances = false) (hearnings : l.contains .earnings = false) :
    t.holdings oldMerchant newMerchant token = s.holdings oldMerchant newMerchant token := by
  simp only [State.holdings, State.merchantBalance_of_areas h hbalances,
    State.earningsEntry_of_areas h hearnings]

end Holdings

/-! ## The moves of a rotation -/

theorem moveEntry_total {α : Type} («from» «to» : DataKey) [Holds DataKey.Val «from» α]
    [Holds DataKey.Val «to» α] : (moveEntry «from» «to»).Total :=
  .bind (.gets _) fun _ => .whenSome fun _ => .bind (.update _) fun _ => .update _

theorem moveList_total {α : Type} [DecidableEq α] («from» «to» : DataKey)
    [Holds DataKey.Val «from» (List α)] [Holds DataKey.Val «to» (List α)] (moved : List α) :
    (moveList «from» «to» moved).Total :=
  .bind (.when (.bind (.gets _) fun _ => .update _)) fun _ => .update _

theorem moveMerchantToken_total (oldMerchant newMerchant token : Address) :
    (moveMerchantToken oldMerchant newMerchant token).Total :=
  .bind (.gets _) fun _ => .bind (.when (.bind (.gets _) fun _ => .update _)) fun _ =>
    .bind (.update _) fun _ => moveEntry_total _ _

theorem rewriteSubscriptionMerchant_total (oldMerchant newMerchant : Address) (id : Nat) :
    (rewriteSubscriptionMerchant oldMerchant newMerchant id).Total :=
  .bind (.gets _) fun _ => .whenSome fun _ => .when (.update _)

/-- Nothing after the nonce can fail. -/
theorem rotationMoves_total (oldMerchant newMerchant : Address) :
    (do
      let tokens ← gets (·.merchantTokens oldMerchant)
      forEach tokens (moveMerchantToken oldMerchant newMerchant)
      moveList (.merchantTokens oldMerchant) (.merchantTokens newMerchant) tokens
      moveEntry (.merchantConfig oldMerchant) (.merchantConfig newMerchant)
      moveEntry (.merchantPaused oldMerchant) (.merchantPaused newMerchant)
      moveEntry (.merchantVacation oldMerchant) (.merchantVacation newMerchant)
      let ids ← gets (·.merchantSubs oldMerchant)
      forEach ids (rewriteSubscriptionMerchant oldMerchant newMerchant)
      moveList (.merchantSubs oldMerchant) (.merchantSubs newMerchant) ids :
      Vault Unit).Total :=
  .bind (.gets _) fun _ => .bind (.forEach (fun _ => moveMerchantToken_total _ _ _) _) fun _ =>
    .bind (moveList_total _ _ _) fun _ => .bind (moveEntry_total _ _) fun _ =>
    .bind (moveEntry_total _ _) fun _ => .bind (moveEntry_total _ _) fun _ =>
    .bind (.gets _) fun _ =>
    .bind (.forEach (fun _ => rewriteSubscriptionMerchant_total _ _ _) _) fun _ =>
    moveList_total _ _ _

/-! ## Moving one token -/

section Steps

variable {env : Env} {s t : State} {u : Unit} {oldMerchant newMerchant token listed : Address}

/-- What moving an earnings record does to the records of the two addresses. -/
theorem moveEarnings_entries (hne : oldMerchant ≠ newMerchant)
    (hrun : (moveEntry (.merchantEarnings oldMerchant listed)
      (.merchantEarnings newMerchant listed)).run env s = .ok u t) :
    t.earningsEntry oldMerchant token =
        (if token = listed then none else s.earningsEntry oldMerchant token) ∧
      t.earningsEntry newMerchant token =
        (if token = listed then
          (s.earningsEntry oldMerchant token).or (s.earningsEntry newMerchant token)
        else s.earningsEntry newMerchant token) := by
  obtain ⟨found, hfound, hrun⟩ := run_check_ok Modifies.load hrun
  have hfound : s.earningsEntry oldMerchant listed = found := (run_load_ok.mp hfound).1
  rcases run_whenSome_ok.mp hrun with ⟨earnings, rfl, hrun⟩ | ⟨rfl, rfl⟩
  · obtain ⟨_, s₁, hwrite, hrun⟩ := run_bind_ok.mp hrun
    obtain rfl := run_store_ok.mp hwrite
    obtain rfl := run_delete_ok.mp hrun
    by_cases htoken : token = listed
    · subst htoken
      rw [if_pos rfl, if_pos rfl, hfound]
      refine ⟨FiniteStore.read_remove_self _, ?_⟩
      have hkey : Slot.instanced (.merchantEarnings newMerchant token) ≠
          .instanced (.merchantEarnings oldMerchant token) := by simp [hne.symm]
      unfold State.earningsEntry
      rw [FiniteStore.read_remove_of_ne _ hkey, FiniteStore.read_write_self]
      rfl
    · have hkey (m m' : Address) : Slot.instanced (.merchantEarnings m token) ≠
          .instanced (.merchantEarnings m' listed) := by simp [htoken]
      unfold State.earningsEntry
      simp only [if_neg htoken, FiniteStore.read_remove_of_ne _ (hkey _ _),
        FiniteStore.read_write_of_ne _ _ (hkey _ _), and_self]
  · by_cases htoken : token = listed
    · subst htoken
      simp [hfound]
    · simp [htoken]

theorem moveMerchantToken_holdings (hne : oldMerchant ≠ newMerchant)
    (hrun : (moveMerchantToken oldMerchant newMerchant listed).run env s = .ok u t) :
    t.holdings oldMerchant newMerchant token =
      if token = listed then (s.holdings oldMerchant newMerchant token).rotated
      else s.holdings oldMerchant newMerchant token := by
  obtain ⟨balance, hbalance, hrun⟩ := run_check_ok (.gets _) hrun
  obtain rfl := (run_gets_ok.mp hbalance).1
  obtain ⟨_, s₁, hmerge, hrun⟩ := run_bind_ok.mp hrun
  obtain ⟨_, s₂, hdrop, hrun⟩ := run_bind_ok.mp hrun
  have hfirst : Modifies (areas [.balances]) (do
      when (s.merchantBalance oldMerchant listed ≠ 0) do
        let existing ← gets (·.merchantBalance newMerchant listed)
        setMerchantBalance newMerchant listed
          (wrapI128 (existing + s.merchantBalance oldMerchant listed))
      delete (.instanced (.merchantBalance oldMerchant listed)) : Vault Unit) :=
    .bind (.when (.bind (.gets _) fun _ => Modifies.store rfl)) fun _ => Modifies.delete rfl
  have hkept := State.earningsEntry_of_areas (hfirst.ok (run_bind_ok.mpr ⟨_, s₁, hmerge, hdrop⟩))
    rfl
  obtain rfl := run_delete_ok.mp hdrop
  have hbalances : t.accounts.balance =
      ((State.accounts s₁).setBalance oldMerchant listed 0).balance := by
    have hlast := (moveEntry_areas (l := [.earnings]) (.merchantEarnings oldMerchant listed)
      (.merchantEarnings newMerchant listed) rfl rfl).ok hrun
    rw [← State.accounts_dropBalance]
    exact State.merchantBalance_of_areas hlast rfl
  rw [mergeBalance_accounts hmerge] at hbalances
  have hbalance (m : Address) : t.merchantBalance m token =
      if m = oldMerchant ∧ token = listed then 0
      else if m = newMerchant ∧ token = listed ∧ s.merchantBalance oldMerchant listed ≠ 0 then
        wrapI128 (s.merchantBalance newMerchant listed + s.merchantBalance oldMerchant listed)
      else s.merchantBalance m token := by
    have hread : t.merchantBalance m token = _ := congrFun (congrFun hbalances m) token
    rw [hread]
    by_cases hzero : s.merchantBalance oldMerchant listed = 0
    · simp [Accounts.setBalance, State.accounts, hzero]
    · simp [Accounts.setBalance, State.accounts, hzero]
  obtain ⟨hold, hnew⟩ : _ ∧ t.earningsEntry newMerchant token = _ :=
    moveEarnings_entries hne hrun
  rw [hkept] at hold
  rw [hkept, hkept] at hnew
  unfold State.holdings
  rw [hold, hnew, hbalance, hbalance]
  by_cases htoken : token = listed
  · subst htoken
    by_cases hzero : s.merchantBalance oldMerchant token = 0
    · simp [Holdings.rotated, hne.symm, hzero]
    · simp [Holdings.rotated, hne.symm, hzero]
  · simp [htoken]

/-- Listing a token twice makes no difference. -/
theorem moveTokens_holdings (hne : oldMerchant ≠ newMerchant) {tokens : List Address}
    (hrun : (forEach tokens (moveMerchantToken oldMerchant newMerchant)).run env s = .ok u t) :
    t.holdings oldMerchant newMerchant token =
      if token ∈ tokens then (s.holdings oldMerchant newMerchant token).rotated
      else s.holdings oldMerchant newMerchant token := by
  induction tokens generalizing s with
  | nil =>
    obtain rfl := run_forEach_nil_ok.mp hrun
    rfl
  | cons first rest ih =>
    obtain ⟨m, hfirst, hrest⟩ := run_forEach_cons_ok.mp hrun
    rw [ih hrest, moveMerchantToken_holdings hne hfirst]
    by_cases htoken : token = first
    · simp [htoken, Holdings.rotated_rotated]
    · simp [htoken]

/-! ## The whole rotation -/

theorem doRotateMerchantAddress_holdings {admin : Address} {nonce : Nat}
    (hne : oldMerchant ≠ newMerchant)
    (hrun : (doRotateMerchantAddress admin oldMerchant newMerchant nonce).run env s = .ok u t) :
    t.holdings oldMerchant newMerchant token =
      if token ∈ s.merchantTokens oldMerchant then
        (s.holdings oldMerchant newMerchant token).rotated
      else s.holdings oldMerchant newMerchant token := by
  obtain ⟨_, -, hrun⟩ := run_check_ok (Modifies.requireAdminAuth _) hrun
  obtain ⟨_, s₁, hnonce, hrun⟩ := run_bind_ok.mp hrun
  obtain ⟨tokens, htokens, hrun⟩ := run_check_ok (.gets _) hrun
  obtain rfl := (run_gets_ok.mp htokens).1
  obtain ⟨_, s₂, hmoved, hrun⟩ := run_bind_ok.mp hrun
  have hadvance : Modifies (areas [.nonces]) (checkAndAdvance admin .merchantRotation nonce) :=
    Modifies.checkAndAdvance rfl
  have hnonces := hadvance.ok hnonce
  have htokens : s₁.merchantTokens oldMerchant = s.merchantTokens oldMerchant :=
    congrArg (·.getD []) (State.read_of_areas
      (k := .instanced (.merchantTokens oldMerchant)) hnonces rfl)
  have hrest := (rotationRest_areas oldMerchant newMerchant _).ok hrun
  rw [State.holdings_of_areas hrest rfl rfl, moveTokens_holdings hne hmoved,
    State.holdings_of_areas hnonces rfl rfl, htokens]

/-- A rotation with a good signature and nonce goes through, whatever it overwrites. -/
theorem doRotateMerchantAddress_succeeds {admin : Address} {nonce next : Nat}
    (hadmin : s.admin = some admin) (hauth : env.authorized admin)
    (hself : admin ≠ env.host.contract)
    (hnonce : computeNextNonce (s.nonce admin .merchantRotation) nonce = .ok next) :
    ∃ t, (doRotateMerchantAddress admin oldMerchant newMerchant nonce).run env s = .ok () t := by
  refine exists_run_seq (run_requireAdminAuth_ok.mpr ⟨⟨hadmin, hauth, hself⟩, rfl⟩) ?_
  refine exists_run_seq (run_checkAndAdvance_ok.mpr ⟨next, hnonce, rfl⟩) ?_
  obtain ⟨_, t, hrun⟩ := rotationMoves_total oldMerchant newMerchant env _
  exact ⟨t, hrun⟩

end Steps

/-! ## Conservation -/

def TokenEarnings.plus (e e' : TokenEarnings) : TokenEarnings where
  accruals.interval := e.accruals.interval + e'.accruals.interval
  accruals.usage := e.accruals.usage + e'.accruals.usage
  accruals.oneOff := e.accruals.oneOff + e'.accruals.oneOff
  withdrawals := e.withdrawals + e'.withdrawals
  refunds := e.refunds + e'.refunds

/-- All that was kept for the two addresses in the token is kept for the new one. -/
structure MergedInto (oldMerchant newMerchant token : Address) (s t : State) : Prop where
  balance : t.merchantBalance newMerchant token =
    s.merchantBalance newMerchant token + s.merchantBalance oldMerchant token
  emptied : t.merchantBalance oldMerchant token = 0
  earnings : t.tokenEarnings newMerchant token =
    (s.tokenEarnings newMerchant token).plus (s.tokenEarnings oldMerchant token)
  others : ∀ merchant, merchant ≠ oldMerchant → merchant ≠ newMerchant →
    t.merchantBalance merchant token = s.merchantBalance merchant token ∧
      t.tokenEarnings merchant token = s.tokenEarnings merchant token
  prepaid : ∀ id, (t.subscription id).map (·.prepaidBalance) =
    (s.subscription id).map (·.prepaidBalance)

/-- The call rejects a rotation of an address to itself and merges everything else. -/
def RotationConserves (env : Env) (s : State) (admin oldMerchant newMerchant : Address)
    (nonce : Nat) (token : Address) : Prop :=
  let call := VaultCall.rotateMerchantAddress admin oldMerchant newMerchant nonce
  (oldMerchant = newMerchant → ∀ t, ¬call.exec.run env s = .ok () t) ∧
    (oldMerchant ≠ newMerchant → ∀ t, call.exec.run env s = .ok () t →
      MergedInto oldMerchant newMerchant token s t)

/-- A listed token has room for both balances and no earnings to overwrite; there is nothing
to move in a token that is not listed. -/
def State.Mergeable (s : State) (oldMerchant newMerchant token : Address) : Prop :=
  if token ∈ s.merchantTokens oldMerchant then
    (s.merchantBalance oldMerchant token ≠ 0 →
      InI128 (s.merchantBalance newMerchant token + s.merchantBalance oldMerchant token)) ∧
    (s.earningsEntry oldMerchant token ≠ none → s.tokenEarnings newMerchant token = .none)
  else s.merchantBalance oldMerchant token = 0 ∧ s.tokenEarnings oldMerchant token = .none

def State.AcceptsNonce (s : State) (signer : Address) (domain : NonceDomain) (nonce : Nat) :
    Prop := ∃ next, computeNextNonce (s.nonce signer domain) nonce = .ok next

section Conservation

variable {env : Env} {s t : State} {u : Unit} {admin oldMerchant newMerchant token : Address}
  {nonce : Nat}

theorem TokenEarnings.plus_none (e : TokenEarnings) : e.plus .none = e := by
  simp [TokenEarnings.plus, TokenEarnings.none]

theorem TokenEarnings.none_plus (e : TokenEarnings) : TokenEarnings.none.plus e = e := by
  simp [TokenEarnings.plus, TokenEarnings.none]

theorem TokenEarnings.eq_plus_self {e e' : TokenEarnings} : e = e'.plus e ↔ e' = .none := by
  constructor
  · intro h
    rcases e' with ⟨⟨interval, usage, oneOff⟩, withdrawals, refunds⟩
    rcases e with ⟨⟨_, _, _⟩, _, _⟩
    simp only [TokenEarnings.plus, TokenEarnings.mk.injEq, AccruedTotals.mk.injEq] at h
    obtain ⟨⟨hinterval, husage, honeOff⟩, hwithdrawals, hrefunds⟩ := h
    simp only [TokenEarnings.none, TokenEarnings.mk.injEq, AccruedTotals.mk.injEq]
    omega
  · rintro rfl
    exact (TokenEarnings.none_plus e).symm

theorem TokenEarnings.eq_self_plus {e e' : TokenEarnings} : e = e.plus e' ↔ e' = .none := by
  have hcomm : e.plus e' = e'.plus e := by
    simp only [TokenEarnings.plus, Int.add_comm]
  rw [hcomm]
  exact TokenEarnings.eq_plus_self

theorem wrapI128_eq_self {x : Int} : wrapI128 x = x ↔ InI128 x := by
  constructor
  · intro h
    unfold wrapI128 at h
    unfold InI128
    have hlow := Int.le_bmod (x := x) (m := 2 ^ 128) (by decide)
    have hhigh := Int.bmod_lt (x := x) (m := 2 ^ 128) (by decide)
    omega
  · exact wrapI128_of_inI128

/-- Nobody else's account is touched. -/
theorem doRotateMerchantAddress_others
    (hrun : (doRotateMerchantAddress admin oldMerchant newMerchant nonce).run env s = .ok u t)
    {merchant : Address} (hold : merchant ≠ oldMerchant) (hnew : merchant ≠ newMerchant) :
    t.merchantBalance merchant token = s.merchantBalance merchant token ∧
      t.tokenEarnings merchant token = s.tokenEarnings merchant token := by
  refine Posted.invariant (doRotateMerchantAddress_posts hrun)
    (I := fun a => a.balance merchant token = s.merchantBalance merchant token ∧
      a.earnings merchant token = s.tokenEarnings merchant token) ?_ ⟨rfl, rfl⟩
  rintro a _ ⟨listed, -, recorded, rfl⟩ - ⟨hbalance, hearnings⟩
  have hkept : (Posting.post a (.move oldMerchant newMerchant listed recorded)).balance merchant
      token = a.balance merchant token ∧
      (Posting.post a (.move oldMerchant newMerchant listed recorded)).earnings merchant token =
        a.earnings merchant token := by
    simp only [Posting.post]
    split <;> split <;> simp [Accounts.setBalance, Accounts.setEarnings, hold, hnew]
  exact ⟨hkept.1.trans hbalance, hkept.2.trans hearnings⟩

theorem doRotateMerchantAddress_prepaid
    (hrun : (doRotateMerchantAddress admin oldMerchant newMerchant nonce).run env s = .ok u t)
    (id : Nat) : (t.subscription id).map (·.prepaidBalance) =
      (s.subscription id).map (·.prepaidBalance) := by
  have hrecord : t.subscription id = (s.book.rotated oldMerchant newMerchant).record id :=
    congrArg (fun b : Book => b.record id) (doRotateMerchantAddress_book hrun)
  rw [hrecord]
  refine Book.rotated_party (fun sub => ?_) id
  unfold Subscription.rehomed
  split <;> rfl

/-- A rotation merges what the two addresses hold exactly when nothing is in the way. -/
theorem doRotateMerchantAddress_merges (hne : oldMerchant ≠ newMerchant)
    (hrun : (doRotateMerchantAddress admin oldMerchant newMerchant nonce).run env s = .ok u t) :
    MergedInto oldMerchant newMerchant token s t ↔
      s.Mergeable oldMerchant newMerchant token := by
  have hrest : MergedInto oldMerchant newMerchant token s t ↔
      (t.merchantBalance newMerchant token =
          s.merchantBalance newMerchant token + s.merchantBalance oldMerchant token ∧
        t.merchantBalance oldMerchant token = 0) ∧
      t.tokenEarnings newMerchant token =
        (s.tokenEarnings newMerchant token).plus (s.tokenEarnings oldMerchant token) := by
    constructor
    · intro h
      exact ⟨⟨h.balance, h.emptied⟩, h.earnings⟩
    · intro h
      exact ⟨h.1.1, h.1.2, h.2, fun _ => doRotateMerchantAddress_others hrun,
        doRotateMerchantAddress_prepaid hrun⟩
  have hholdings : t.holdings oldMerchant newMerchant token = _ :=
    doRotateMerchantAddress_holdings hne hrun
  rw [hrest]
  unfold State.Mergeable
  split at hholdings
  · rename_i hlisted
    obtain ⟨hold, hnew, -, hentry⟩ := Holdings.mk.inj hholdings
    have hold : t.merchantBalance oldMerchant token = 0 := hold
    have hearnings : t.tokenEarnings newMerchant token =
        ((s.earningsEntry oldMerchant token).or (s.earningsEntry newMerchant token)).getD
          .none := congrArg (·.getD .none) hentry
    rw [if_pos hlisted, hnew, hold, hearnings]
    refine and_congr ?_ ?_
    · simp only [State.holdings, and_true]
      by_cases hzero : s.merchantBalance oldMerchant token = 0
      · simp [hzero]
      · simp only [hzero, if_false, ne_eq, not_false_eq_true, true_implies]
        exact wrapI128_eq_self
    · rw [State.tokenEarnings_eq s oldMerchant]
      cases s.earningsEntry oldMerchant token with
      | none => simp [TokenEarnings.plus_none, State.tokenEarnings_eq]
      | some earnings => simp [TokenEarnings.eq_plus_self]
  · rename_i hunlisted
    obtain ⟨hold, hnew, -, hentry⟩ := Holdings.mk.inj hholdings
    have hold : t.merchantBalance oldMerchant token = s.merchantBalance oldMerchant token := hold
    have hnew : t.merchantBalance newMerchant token = s.merchantBalance newMerchant token := hnew
    have hearnings : t.tokenEarnings newMerchant token = s.tokenEarnings newMerchant token :=
      congrArg (·.getD .none) hentry
    rw [if_neg hunlisted, hnew, hold, hearnings]
    refine and_congr ?_ TokenEarnings.eq_self_plus
    omega

/-- Rotations conserve value exactly where a call that passes the nonce check has two different
addresses with nothing in the way of the merge. -/
theorem rotation_conserves_iff (hadmin : s.admin = some admin) (hauth : env.authorized admin)
    (hself : admin ≠ env.host.contract) :
    RotationConserves env s admin oldMerchant newMerchant nonce token ↔
      (s.AcceptsNonce admin .merchantRotation nonce →
        oldMerchant ≠ newMerchant ∧ s.Mergeable oldMerchant newMerchant token) := by
  constructor
  · rintro ⟨hreject, hmerges⟩ ⟨next, hnonce⟩
    obtain ⟨t, hrun⟩ : ∃ t, (doRotateMerchantAddress admin oldMerchant newMerchant nonce).run
        env s = .ok () t := doRotateMerchantAddress_succeeds hadmin hauth hself hnonce
    have hne : oldMerchant ≠ newMerchant := fun heq => hreject heq t hrun
    exact ⟨hne, (doRotateMerchantAddress_merges hne hrun).mp (hmerges hne t hrun)⟩
  · intro h
    have haccepted (t : State)
        (hrun : (doRotateMerchantAddress admin oldMerchant newMerchant nonce).run env s =
          .ok () t) : s.AcceptsNonce admin .merchantRotation nonce := by
      obtain ⟨_, -, hrun⟩ := run_check_ok (Modifies.requireAdminAuth _) hrun
      obtain ⟨_, _, hadvance, -⟩ := run_bind_ok.mp hrun
      obtain ⟨next, hnext, -⟩ := run_checkAndAdvance_ok.mp hadvance
      exact ⟨next, hnext⟩
    refine ⟨fun heq t hrun => (h (haccepted t hrun)).1 heq, fun hne t hrun => ?_⟩
    exact (doRotateMerchantAddress_merges hne hrun).mpr (h (haccepted t hrun)).2

end Conservation

/-- Merchant 1 has been paid ten units. -/
private def paidOnce : List (Env × VaultCall) :=
  [(sampleEnv 60 [], .chargeSubscription 0 none),
   (sampleEnv 0 [⟨2⟩], .depositFunds 0 50 none),
   (sampleEnv 0 [⟨2⟩], .createSubscription sampleRequest)]

private def paidVault : State := stateAfter (afterCalls (sampleVault 0)) paidOnce

theorem rotation_conserves_paid :
    RotationConserves (sampleEnv 61 [⟨8⟩]) paidVault ⟨8⟩ ⟨1⟩ ⟨3⟩ 0 ⟨9⟩ := by
  refine (rotation_conserves_iff (by decide +kernel) (by decide) (by decide)).mpr fun _ => ?_
  refine ⟨by decide, ?_⟩
  have hlisted : (⟨9⟩ : Address) ∈ paidVault.merchantTokens ⟨1⟩ := by decide +kernel
  unfold State.Mergeable
  rw [if_pos hlisted]
  have hfits : InI128 (paidVault.merchantBalance ⟨3⟩ ⟨9⟩ + paidVault.merchantBalance ⟨1⟩ ⟨9⟩) := by
    decide +kernel
  have hempty : paidVault.tokenEarnings ⟨3⟩ ⟨9⟩ = .none := by decide +kernel
  exact ⟨fun _ => hfits, fun _ => hempty⟩

/-- A merchant rotated to its own address loses its balance. -/
theorem self_rotation_accepted : ∃ start hist s, Deployed start ∧ Run Transacts start hist s ∧
    s.admin = some ⟨8⟩ ∧ s.merchantBalance ⟨1⟩ ⟨9⟩ = 10 ∧
    (∃ t, (VaultCall.rotateMerchantAddress ⟨8⟩ ⟨1⟩ ⟨1⟩ 0).exec.run (sampleEnv 61 [⟨8⟩]) s =
      .ok () t ∧ t.merchantBalance ⟨1⟩ ⟨9⟩ = 0) ∧
    ¬RotationConserves (sampleEnv 61 [⟨8⟩]) s ⟨8⟩ ⟨1⟩ ⟨1⟩ 0 ⟨9⟩ := by
  have hrun := run_transactions (sample_transacted 0)
    (show allSucceed (afterCalls (sampleVault 0)) paidOnce = true by decide +kernel)
  have hrotated : (VaultCall.rotateMerchantAddress ⟨8⟩ ⟨1⟩ ⟨1⟩ 0).exec.run (sampleEnv 61 [⟨8⟩])
      paidVault = .ok () _ := run_eq_after (by decide +kernel)
  refine ⟨_, _, paidVault, sample_deployed 0, hrun, by decide +kernel, by decide +kernel,
    ⟨_, hrotated, by decide +kernel⟩, ?_⟩
  rintro ⟨hreject, -⟩
  exact hreject rfl _ hrotated

end SubscriptionVault
