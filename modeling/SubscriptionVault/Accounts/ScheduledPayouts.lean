import SubscriptionVault.Accounts.Operations
import SubscriptionVault.Lifecycle.BulkResults

/-!
# Scheduled payouts

Anybody may flush the balances of a merchant that has a payout schedule. A flush goes through
the merchant's token list and empties every balance that reaches the minimum. The list holds
what the address has earned since it was last rotated away; balances that a dispute or a restore
puts back later are not found through it.
-/

namespace SubscriptionVault

open Exec

/-! ## Flushes with their count -/

/-- `flush_merchant_token`: the amount paid out. -/
def flushMerchantTokenPaid (merchant : Address) (minPayout : Int) (token : Address) :
    Vault Int := do
  let env ← ask
  let balance ← gets (·.merchantBalance merchant token)
  if balance < minPayout ∨ balance ≤ 0 then pure 0
  else do
    let config ← gets (·.merchantConfig merchant)
    let config ← okOr config .notFound
    setMerchantBalance merchant token 0
    recordWithdrawal merchant token balance
    subTotalAccounted token balance
    transfer token env.host.contract config.payoutAddress balance
    pure balance

def flushTokens (merchant : Address) (minPayout : Int) : List Address → Nat → Vault Nat
  | [], tokensPaid => pure tokensPaid
  | token :: rest, tokensPaid => do
    let amount ← flushMerchantTokenPaid merchant minPayout token
    flushTokens merchant minPayout rest
      (if 0 < amount then saturatingAddU32 tokensPaid 1 else tokensPaid)

/-- `do_flush_payouts`: the number of tokens paid out. -/
def doFlushPayoutsCounted (merchant : Address) : Vault Nat := do
  let env ← ask
  requireMerchantApproved merchant
  let schedule ← gets (·.payoutSchedule merchant)
  if schedule.cadenceSeconds = 0 ∧ schedule.minPayout = 0 then pure 0
  else do
    failIf (0 < schedule.lastPayoutAt ∧
      env.now - schedule.lastPayoutAt < schedule.cadenceSeconds) .intervalNotElapsed
    let tokens ← gets (·.merchantTokens merchant)
    let tokensPaid ← flushTokens merchant schedule.minPayout tokens 0
    store (.instanced (.payoutSchedule merchant)) { schedule with lastPayoutAt := env.now }
    pure tokensPaid

/-- `flush_payouts`. -/
def flushPayoutsCounted (merchant : Address) : Vault Nat :=
  guardedCall .flushPayouts (doFlushPayoutsCounted merchant)

/-! ## One token -/

/-- What a payout in one token changes. -/
structure PayoutView where
  balance : Int
  earnings : TokenEarnings
  held : Address → Int

def State.payoutView (s : State) (merchant token : Address) : PayoutView where
  balance := s.merchantBalance merchant token
  earnings := s.tokenEarnings merchant token
  held := s.balanceOf token

/-- The balance reaches the minimum. -/
def State.IsDue (s : State) (merchant : Address) (minPayout : Int) (token : Address) : Prop :=
  minPayout ≤ s.merchantBalance merchant token ∧ 0 < s.merchantBalance merchant token

instance (s : State) (merchant : Address) (minPayout : Int) (token : Address) :
    Decidable (s.IsDue merchant minPayout token) := inferInstanceAs (Decidable (_ ∧ _))

/-- A balance that reaches the minimum goes to the payout address, any other stays. -/
structure Flushed (env : Env) (merchant : Address) (minPayout : Int) (token : Address)
    (s t : State) : Prop where
  paid : s.IsDue merchant minPayout token →
    ∃ config, s.merchantConfig merchant = some config ∧
      t.merchantBalance merchant token = 0 ∧
      t.tokenEarnings merchant token = { s.tokenEarnings merchant token with
        withdrawals := (s.tokenEarnings merchant token).withdrawals +
          s.merchantBalance merchant token } ∧
      ∀ holder, t.balanceOf token holder = s.balanceOf token holder +
        (if config.payoutAddress = holder then s.merchantBalance merchant token else 0) -
        if env.host.contract = holder then s.merchantBalance merchant token else 0
  left : ¬s.IsDue merchant minPayout token →
    t.payoutView merchant token = s.payoutView merchant token

section Token

variable {env : Env} {s t : State} {merchant token : Address} {minPayout : Int} {l : List Area}

theorem State.payoutView_of_areas (h : FiniteStore.AgreeOff (areas l) s t)
    (hl : l.any [Area.balances, .earnings, .tokens].contains = false) :
    t.payoutView = s.payoutView := by
  have hout {area : Area} (harea : [Area.balances, .earnings, .tokens].contains area = true) :
      l.contains area = false := by
    refine Bool.eq_false_iff.mpr fun hin => ?_
    exact List.any_eq_false.mp hl area (List.contains_iff_mem.mp hin) harea
  funext m tok
  have hheld : t.balanceOf = s.balanceOf := State.balanceOf_of_areas h (hout rfl)
  simp only [State.payoutView, State.merchantBalance_of_areas h (hout rfl),
    State.tokenEarnings_of_areas h (hout rfl), hheld]

theorem State.isDue_of_view (h : t.payoutView merchant token = s.payoutView merchant token) :
    t.IsDue merchant minPayout token ↔ s.IsDue merchant minPayout token := by
  have hbalance : t.merchantBalance merchant token = s.merchantBalance merchant token :=
    congrArg PayoutView.balance h
  unfold State.IsDue
  rw [hbalance]

theorem Flushed.of_views {s' t' : State} (h : Flushed env merchant minPayout token s t)
    (hs : s'.payoutView merchant token = s.payoutView merchant token)
    (ht : t'.payoutView merchant token = t.payoutView merchant token)
    (hconfig : s'.merchantConfig merchant = s.merchantConfig merchant) :
    Flushed env merchant minPayout token s' t' := by
  refine ⟨fun hdue => ?_, fun hdue => ?_⟩
  · have hbalance : s'.merchantBalance merchant token = s.merchantBalance merchant token :=
      congrArg PayoutView.balance hs
    have hearnings : s'.tokenEarnings merchant token = s.tokenEarnings merchant token :=
      congrArg PayoutView.earnings hs
    have hheld : s'.balanceOf token = s.balanceOf token := congrArg PayoutView.held hs
    have hbalance' : t'.merchantBalance merchant token = t.merchantBalance merchant token :=
      congrArg PayoutView.balance ht
    have hearnings' : t'.tokenEarnings merchant token = t.tokenEarnings merchant token :=
      congrArg PayoutView.earnings ht
    have hheld' : t'.balanceOf token = t.balanceOf token := congrArg PayoutView.held ht
    rw [hbalance, hearnings, hheld, hbalance', hearnings', hheld', hconfig]
    exact h.paid ((State.isDue_of_view hs).mp hdue)
  · rw [hs, ht]
    exact h.left (mt (State.isDue_of_view hs).mpr hdue)

/-- After a flush nothing is due in the token. -/
theorem Flushed.settled (h : Flushed env merchant minPayout token s t) :
    ¬t.IsDue merchant minPayout token := by
  by_cases hdue : s.IsDue merchant minPayout token
  · obtain ⟨_, -, hbalance, -⟩ := h.paid hdue
    intro hagain
    have hpos := hagain.2
    omega
  · exact mt (State.isDue_of_view (h.left hdue)).mp hdue

/-- What is no longer due stays as it is through a second flush. -/
theorem Flushed.again {u : State} (h : Flushed env merchant minPayout token s t)
    (h' : Flushed env merchant minPayout token t u) : Flushed env merchant minPayout token s u :=
  h.of_views rfl (h'.left h.settled) rfl

/-- A payout is one posting and one transfer. -/
theorem flushMerchantToken_paid (hdue : s.IsDue merchant minPayout token)
    (hrun : (flushMerchantToken merchant minPayout token).run env s = .ok () t) :
    ∃ (config : MerchantConfig) (u : State), s.merchantConfig merchant = some config ∧
      FiniteStore.AgreeOff (areas [.balances, .earnings]) s u ∧
      u.transferred token env.host.contract config.payoutAddress
        (s.merchantBalance merchant token) = t ∧
      t.accounts = (Posting.payOut merchant token).post s.accounts ∧
      (flushMerchantTokenPaid merchant minPayout token).run env s =
        .ok (s.merchantBalance merchant token) t := by
  have hopen : ¬(s.merchantBalance merchant token < minPayout ∨
      s.merchantBalance merchant token ≤ 0) := by
    have hreaches := hdue.1
    have hpos := hdue.2
    omega
  unfold flushMerchantToken at hrun
  unfold flushMerchantTokenPaid
  obtain ⟨time, hask, hrun⟩ := run_check_ok .ask hrun
  obtain ⟨rfl, -⟩ := run_ask_ok.mp hask
  obtain ⟨balance, hbalance, hrun⟩ := run_check_ok (.gets _) hrun
  obtain rfl := (run_gets_ok.mp hbalance).1
  rcases run_when_ok.mp hrun with ⟨-, hrun⟩ | ⟨hnot, -⟩
  swap
  · exact absurd hdue hnot
  obtain ⟨found, hfound, hrun⟩ := run_check_ok (.gets _) hrun
  obtain rfl := (run_gets_ok.mp hfound).1
  obtain ⟨config, hconfig, hrun⟩ := run_check_ok (.okOr _ _) hrun
  obtain ⟨_, s₁, hwrite, hrun⟩ := run_bind_ok.mp hrun
  obtain ⟨_, s₂, hwithdrawal, hrun⟩ := run_bind_ok.mp hrun
  obtain ⟨_, htotal, hrun⟩ := run_check_ok (.pure ()) hrun
  refine ⟨config, s₂, (run_okOr_ok.mp hconfig).1, ?_, (run_transfer_ok.mp hrun).2.2.2.2, ?_, ?_⟩
  · have hbalances : Modifies (areas [.balances]) (setMerchantBalance merchant token 0) :=
      Modifies.store rfl
    exact ((hbalances.ok hwrite).mono (areas_mono rfl)).trans
      (((recordWithdrawal_areas _ _ _).ok hwithdrawal).mono (areas_mono rfl))
  · rw [transfer_accounts hrun, recordWithdrawal_accounts hwithdrawal]
    obtain rfl := run_store_ok.mp hwrite
    rw [State.accounts_setBalance]
    rfl
  · refine (run_bind_of_ok hask).trans <| (run_bind_of_ok hbalance).trans ?_
    rw [if_neg hopen]
    exact (run_bind_of_ok hfound).trans <| (run_bind_of_ok hconfig).trans <|
      (run_bind_of_ok hwrite).trans <| (run_bind_of_ok hwithdrawal).trans <|
      (run_bind_of_ok htotal).trans <| run_bind_of_ok hrun

theorem flushMerchantToken_left (hdue : ¬s.IsDue merchant minPayout token)
    (hrun : (flushMerchantToken merchant minPayout token).run env s = .ok () t) :
    s = t ∧ (flushMerchantTokenPaid merchant minPayout token).run env s = .ok 0 t := by
  have hclosed : s.merchantBalance merchant token < minPayout ∨
      s.merchantBalance merchant token ≤ 0 := by
    unfold State.IsDue at hdue
    omega
  unfold flushMerchantToken at hrun
  unfold flushMerchantTokenPaid
  obtain ⟨time, hask, hrun⟩ := run_check_ok .ask hrun
  obtain ⟨balance, hbalance, hrun⟩ := run_check_ok (.gets _) hrun
  obtain rfl := (run_gets_ok.mp hbalance).1
  rcases run_when_ok.mp hrun with ⟨hagain, -⟩ | ⟨-, rfl⟩
  · exact absurd hagain hdue
  refine ⟨rfl, (run_bind_of_ok hask).trans <| (run_bind_of_ok hbalance).trans ?_⟩
  rw [if_pos hclosed]
  rfl

/-- The amount paid out in the token. -/
def State.dueAmount (s : State) (merchant : Address) (minPayout : Int) (token : Address) : Int :=
  if s.IsDue merchant minPayout token then s.merchantBalance merchant token else 0

/-- The token's part of a flush, and what the counted version returns for it. -/
theorem flushMerchantToken_flushed
    (hrun : (flushMerchantToken merchant minPayout token).run env s = .ok () t) :
    Flushed env merchant minPayout token s t ∧
      (∀ other, other ≠ token → t.payoutView merchant other = s.payoutView merchant other) ∧
      (flushMerchantTokenPaid merchant minPayout token).run env s =
        .ok (s.dueAmount merchant minPayout token) t := by
  unfold State.dueAmount
  by_cases hdue : s.IsDue merchant minPayout token
  · obtain ⟨config, u, hconfig, hagree, rfl, haccounts, hcounted⟩ :=
      flushMerchantToken_paid hdue hrun
    have hheld : u.balanceOf = s.balanceOf := State.balanceOf_of_areas hagree rfl
    rw [if_pos hdue]
    refine ⟨⟨fun _ => ⟨config, hconfig, ?_, ?_, fun holder => ?_⟩, fun h => absurd hdue h⟩,
      fun other hother => ?_, hcounted⟩
    · have hbalance := congrArg (fun a : Accounts => a.balance merchant token) haccounts
      exact hbalance.trans (Accounts.balance_setBalance_self 0)
    · have hearnings := congrArg (fun a : Accounts => a.earnings merchant token) haccounts
      exact hearnings.trans (Accounts.earnings_setEarnings_self _)
    · rw [State.balanceOf_transferred, hheld]
      simp
    · have hbalance := congrArg (fun a : Accounts => a.balance merchant other) haccounts
      have hearnings := congrArg (fun a : Accounts => a.earnings merchant other) haccounts
      have hfunds : (u.transferred token env.host.contract config.payoutAddress
          (s.merchantBalance merchant token)).balanceOf other = s.balanceOf other := by
        funext holder
        rw [State.balanceOf_transferred, hheld]
        simp [Ne.symm hother]
      simp only [Posting.post, Accounts.setBalance, Accounts.setEarnings, hother, and_false,
        if_false] at hbalance hearnings
      simp only [State.payoutView, hfunds, PayoutView.mk.injEq, and_true]
      exact ⟨hbalance, hearnings⟩
  · obtain ⟨rfl, hcounted⟩ := flushMerchantToken_left hdue hrun
    rw [if_neg hdue]
    exact ⟨⟨fun h => absurd h hdue, fun _ => rfl⟩, fun _ _ => rfl, hcounted⟩

end Token

/-! ## The whole list -/

section Loop

variable {env : Env} {s t : State} {merchant : Address} {minPayout : Int} {tokens : List Address}

/-- The listed tokens that are paid out. -/
def State.dueTokens (s : State) (merchant : Address) (minPayout : Int) (tokens : List Address) :
    Finset Address :=
  tokens.toFinset.filter (s.IsDue merchant minPayout)

theorem flushMerchantToken_config {token : Address}
    (hrun : (flushMerchantToken merchant minPayout token).run env s = .ok () t) :
    t.merchantConfig = s.merchantConfig :=
  funext fun m => State.read_of_areas (k := .instanced (.merchantConfig m))
    ((flushMerchantToken_areas merchant minPayout token).ok hrun) rfl

/-- A token further up the list that comes up again is not paid twice. -/
theorem flushTokens_flushed (hrun : (forEach tokens (flushMerchantToken merchant minPayout)).run
    env s = .ok () t) :
    (∀ token ∈ tokens, Flushed env merchant minPayout token s t) ∧
      ∀ token, token ∉ tokens → t.payoutView merchant token = s.payoutView merchant token := by
  induction tokens generalizing s with
  | nil =>
    obtain rfl := run_forEach_nil_ok.mp hrun
    exact ⟨nofun, fun _ _ => rfl⟩
  | cons first rest ih =>
    obtain ⟨u, hfirst, hrest⟩ := run_forEach_cons_ok.mp hrun
    obtain ⟨hflushed, hothers, -⟩ := flushMerchantToken_flushed hfirst
    obtain ⟨hlisted, hunlisted⟩ := ih hrest
    have hconfig : s.merchantConfig merchant = u.merchantConfig merchant :=
      (congrFun (flushMerchantToken_config hfirst) merchant).symm
    refine ⟨fun token hmem => ?_, fun token hnot => ?_⟩
    · by_cases hin : token ∈ rest
      · by_cases hsame : token = first
        · subst hsame
          exact hflushed.again (hlisted token hin)
        · exact (hlisted token hin).of_views (hothers token hsame).symm rfl hconfig
      · obtain rfl : token = first := (List.mem_cons.mp hmem).resolve_right hin
        exact hflushed.of_views rfl (hunlisted token hin) rfl
    · obtain ⟨hne, hin⟩ := not_or.mp (mt List.mem_cons.mpr hnot)
      exact (hunlisted token hin).trans (hothers token hne)

theorem dueTokens_cons {first : Address} {rest : List Address} {u : State}
    (hothers : ∀ other, other ≠ first →
      u.payoutView merchant other = s.payoutView merchant other)
    (hsettled : ¬u.IsDue merchant minPayout first) :
    s.dueTokens merchant minPayout (first :: rest) =
      if s.IsDue merchant minPayout first then
        insert first (u.dueTokens merchant minPayout rest)
      else u.dueTokens merchant minPayout rest := by
  unfold State.dueTokens
  ext token
  by_cases hfirst : token = first
  · subst hfirst
    by_cases hdue : s.IsDue merchant minPayout token
    · simp [hdue]
    · simp [hdue, hsettled]
  · have hsame : u.IsDue merchant minPayout token ↔ s.IsDue merchant minPayout token :=
      State.isDue_of_view (hothers token hfirst)
    split <;> simp [hfirst, hsame]

/-- The counter does not reach its end on a list that fits into a vector. -/
theorem run_flushTokens {tokensPaid : Nat} (hfits : tokensPaid + tokens.length ≤ u32Max)
    (hrun : (forEach tokens (flushMerchantToken merchant minPayout)).run env s = .ok () t) :
    (flushTokens merchant minPayout tokens tokensPaid).run env s =
      .ok (tokensPaid + (s.dueTokens merchant minPayout tokens).card) t := by
  induction tokens generalizing s tokensPaid with
  | nil =>
    obtain rfl := run_forEach_nil_ok.mp hrun
    rfl
  | cons first rest ih =>
    obtain ⟨u, hfirst, hrest⟩ := run_forEach_cons_ok.mp hrun
    obtain ⟨hflushed, hothers, hpaid⟩ := flushMerchantToken_flushed hfirst
    rw [List.length_cons] at hfits
    refine (run_bind_of_ok hpaid).trans ?_
    rw [dueTokens_cons hothers hflushed.settled]
    unfold State.dueAmount
    by_cases hdue : s.IsDue merchant minPayout first
    · have hnew : first ∉ u.dueTokens merchant minPayout rest := fun hmem =>
        hflushed.settled (Finset.mem_filter.mp hmem).2
      have hstep : saturatingAddU32 tokensPaid 1 = tokensPaid + 1 := by
        unfold saturatingAddU32
        omega
      rw [if_pos hdue, if_pos hdue.2, if_pos hdue, hstep, Finset.card_insert_of_notMem hnew,
        ih (by omega) hrest]
      congr 1
      omega
    · rw [if_neg hdue, if_neg (lt_irrefl 0), if_neg hdue]
      exact ih (by omega) hrest

end Loop

/-! ## A flush -/

/-- A schedule with neither a cadence nor a minimum is none. -/
def PayoutSchedule.IsSet (schedule : PayoutSchedule) : Prop :=
  schedule.cadenceSeconds ≠ 0 ∨ schedule.minPayout ≠ 0

instance (schedule : PayoutSchedule) : Decidable schedule.IsSet :=
  inferInstanceAs (Decidable (_ ∨ _))

/-- What a flush under a schedule does. -/
structure FlushSpec (env : Env) (merchant : Address) (s t : State) : Prop where
  elapsed : ¬(0 < (s.payoutSchedule merchant).lastPayoutAt ∧
    env.now - (s.payoutSchedule merchant).lastPayoutAt <
      (s.payoutSchedule merchant).cadenceSeconds)
  listed : ∀ token ∈ s.merchantTokens merchant,
    Flushed env merchant (s.payoutSchedule merchant).minPayout token s t
  unlisted : ∀ token, token ∉ s.merchantTokens merchant →
    t.payoutView merchant token = s.payoutView merchant token
  stamped : t.payoutSchedule merchant =
    { s.payoutSchedule merchant with lastPayoutAt := env.now }

/-- The tokens a flush of the merchant pays out. -/
def State.paidTokens (s : State) (merchant : Address) : Finset Address :=
  s.dueTokens merchant (s.payoutSchedule merchant).minPayout (s.merchantTokens merchant)

section Flush

variable {env : Env} {s t : State} {merchant : Address}

theorem doFlushPayouts_spec (hset : (s.payoutSchedule merchant).IsSet)
    (hrun : (doFlushPayouts merchant).run env s = .ok () t) :
    FlushSpec env merchant s t ∧ ((s.merchantTokens merchant).length ≤ u32Max →
      (doFlushPayoutsCounted merchant).run env s = .ok (s.paidTokens merchant).card t) := by
  have hopen : ¬((s.payoutSchedule merchant).cadenceSeconds = 0 ∧
      (s.payoutSchedule merchant).minPayout = 0) := by
    rintro ⟨hcadence, hminimum⟩
    rcases hset with hset | hset
    · exact hset hcadence
    · exact hset hminimum
  unfold doFlushPayouts at hrun
  obtain ⟨time, hask, hrun⟩ := run_check_ok .ask hrun
  obtain ⟨rfl, -⟩ := run_ask_ok.mp hask
  obtain ⟨_, happroved, hrun⟩ := run_check_ok (requireMerchantApproved_keeps _) hrun
  obtain ⟨schedule, hschedule, hrun⟩ := run_check_ok (.gets _) hrun
  obtain rfl := (run_gets_ok.mp hschedule).1
  rcases run_when_ok.mp hrun with ⟨-, hrun⟩ | ⟨hnone, -⟩
  swap
  · exact absurd hset hnone
  obtain ⟨_, helapsed, hrun⟩ := run_check_ok (.failIf _ _) hrun
  obtain ⟨tokens, htokens, hrun⟩ := run_check_ok (.gets _) hrun
  obtain rfl := (run_gets_ok.mp htokens).1
  obtain ⟨_, u, hflush, hrun⟩ := run_bind_ok.mp hrun
  have hstamp := run_store_ok.mp hrun
  have hview : t.payoutView = u.payoutView :=
    State.payoutView_of_areas (l := [.schedules])
      (hstamp ▸ u.agreeOff_write _ rfl) rfl
  obtain ⟨hlisted, hunlisted⟩ := flushTokens_flushed hflush
  refine ⟨⟨(run_failIf_ok.mp helapsed).1, fun token hmem => ?_, fun token hnot => ?_, ?_⟩,
    fun hfits => ?_⟩
  · exact (hlisted token hmem).of_views rfl (congrFun (congrFun hview _) _) rfl
  · exact (congrFun (congrFun hview _) _).trans (hunlisted token hnot)
  · rw [← hstamp]
    unfold State.payoutSchedule
    rw [FiniteStore.read_write_self]
    rfl
  · unfold doFlushPayoutsCounted
    refine (run_bind_of_ok hask).trans <| (run_bind_of_ok happroved).trans <|
      (run_bind_of_ok hschedule).trans ?_
    rw [if_neg hopen]
    have hcount := run_flushTokens (show 0 + _ ≤ u32Max by simpa using hfits) hflush
    rw [Nat.zero_add] at hcount
    exact (run_bind_of_ok helapsed).trans <| (run_bind_of_ok htokens).trans <|
      (run_bind_of_ok hcount).trans <| run_bind_of_ok hrun

theorem State.payoutSchedule_of_areas {l : List Area} (h : FiniteStore.AgreeOff (areas l) s t)
    (hl : l.contains .schedules = false) : t.payoutSchedule = s.payoutSchedule := by
  funext m
  unfold State.payoutSchedule
  rw [State.read_of_areas (k := .instanced (.payoutSchedule m)) h hl]

/-- Taking the lock shows in nothing a flush looks at. -/
theorem State.locked_views (s : State) (name : LockName) :
    State.payoutView (s.write (.lock name) true) = s.payoutView ∧
      State.merchantConfig (s.write (.lock name) true) = s.merchantConfig ∧
      State.payoutSchedule (s.write (.lock name) true) = s.payoutSchedule ∧
      State.merchantTokens (s.write (.lock name) true) = s.merchantTokens := by
  have htaken : FiniteStore.AgreeOff (areas [.locks]) s (s.write (.lock name) true) :=
    s.agreeOff_write _ rfl
  refine ⟨State.payoutView_of_areas htaken rfl, funext fun m => ?_,
    State.payoutSchedule_of_areas htaken rfl, funext fun m => ?_⟩
  · exact State.read_of_areas (k := .instanced (.merchantConfig m)) htaken rfl
  · exact congrArg (·.getD [])
      (State.read_of_areas (k := .instanced (.merchantTokens m)) htaken rfl)

theorem State.locked_paidTokens (s : State) (name : LockName) (merchant : Address) :
    State.paidTokens (s.write (.lock name) true) merchant = s.paidTokens merchant := by
  obtain ⟨hview, -, hschedule, htokens⟩ := s.locked_views name
  unfold State.paidTokens State.dueTokens
  rw [hschedule, htokens]
  refine Finset.filter_congr fun token _ => ?_
  exact State.isDue_of_view (congrFun (congrFun hview merchant) token)

theorem flushPayouts_spec (hset : (s.payoutSchedule merchant).IsSet)
    (hrun : (VaultCall.flushPayouts merchant).exec.run env s = .ok () t) :
    FlushSpec env merchant s t ∧ ((s.merchantTokens merchant).length ≤ u32Max →
      (flushPayoutsCounted merchant).run env s = .ok (s.paidTokens merchant).card t) := by
  obtain ⟨hrunning, hlocked⟩ := run_guardedCall_ok.mp hrun
  obtain ⟨hfree, v, hbody, hdrop⟩ := run_withLock_ok.mp hlocked
  obtain ⟨hbefore, hconfig, hschedule, htokens⟩ := s.locked_views .flushPayouts
  obtain ⟨hspec, hcount⟩ := doFlushPayouts_spec (by rwa [hschedule]) hbody
  have hdropped : FiniteStore.AgreeOff (areas [.locks]) v t := hdrop ▸ v.agreeOff_remove rfl
  have hview : t.payoutView = v.payoutView := State.payoutView_of_areas hdropped rfl
  have hstamped := hspec.stamped
  have helapsed := hspec.elapsed
  have hlisted := hspec.listed
  have hunlisted := hspec.unlisted
  rw [hschedule] at hstamped helapsed
  rw [htokens, hschedule] at hlisted
  rw [htokens] at hunlisted
  refine ⟨⟨helapsed, fun token hmem => ?_, fun token hnot => ?_, ?_⟩, fun hfits => ?_⟩
  · exact (hlisted token hmem).of_views (congrFun (congrFun hbefore _) _).symm
      (congrFun (congrFun hview _) _) (congrFun hconfig _).symm
  · exact ((congrFun (congrFun hview _) _).trans (hunlisted token hnot)).trans
      (congrFun (congrFun hbefore _) _)
  · exact (congrFun (State.payoutSchedule_of_areas hdropped rfl) merchant).trans hstamped
  · rw [htokens, s.locked_paidTokens] at hcount
    exact run_guardedCall_ok.mpr ⟨hrunning, run_withLock_ok.mpr ⟨hfree, v, hcount hfits, hdrop⟩⟩

end Flush

end SubscriptionVault
