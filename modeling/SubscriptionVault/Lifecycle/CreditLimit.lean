import SubscriptionVault.Lifecycle.Exposure

/-!
# The credit limit

Creations, deposits and transfers ask for the limit. A subscription that becomes active again or
moves to a dearer plan adds its next interval without asking, and a buyout pays in unasked. As
long as every action leaves room for what it adds in this way, the exposure stays within the limit.
-/

namespace SubscriptionVault

open Exec

/-! ## Room -/

/-- What the action adds to the liability of the record `sub` without asking for the limit. -/
def VaultAction.adds (s : State) (id : Nat) (sub : Subscription) : VaultAction → Int
  | .call _ (.removeFromBlocklist _ listed) =>
    if id ∈ s.subscriberSubs listed ∧ sub.status = .paused then sub.amount else 0
  | .call _ (.depositFundsOnBehalf j _ amount _) =>
    if j = id ∧ (sub.status = .insufficientBalance ∨ sub.status = .gracePeriod) ∧
      sub.amount ≤ sub.prepaidBalance + amount then max 0 amount + sub.amount else 0
  | .call _ (.graceBuyout j _ amount _) => if j = id then max 0 amount else 0
  | l => l.operation.adds l.env s id sub

/-- What it adds to the exposure by that subscription. -/
def VaultAction.raises (s : State) (subscriber token : Address) (l : VaultAction) (id : Nat) :
    Int :=
  (s.subscription id).elim 0 fun sub =>
    if sub.subscriber = subscriber ∧ sub.token = token then l.adds s id sub else 0

/-- All that is added unasked fits below the limit. -/
def VaultAction.LeavesRoom (s : State) (subscriber token : Address) (l : VaultAction) : Prop :=
  s.exposure subscriber token + ∑ id ∈ Finset.range s.nextSubscriptionId,
    l.raises s subscriber token id ≤ s.creditLimit subscriber token

/-- No price is negative. -/
def Book.Priced (b : Book) : Prop := ∀ j sub, b.record j = some sub → 0 ≤ sub.amount

/-- Numbers, balances and prices are as the vault itself leaves them. -/
structure State.Sound (s : State) : Prop where
  numbered : s.book.Numbered
  funded : s.book.Funded
  priced : s.book.Priced

section Room

variable {env : Env} {s t : State} {id : Nat} {sub new : Subscription} {l : VaultAction}
  {subscriber token : Address}

theorem Book.Reads.funds (h : s.book.Reads id sub) (hfunded : s.book.Funded) :
    0 ≤ sub.prepaidBalance := by
  obtain ⟨stored, hstored, rfl | ⟨-, rfl⟩⟩ := h
  · exact hfunded id sub hstored
  · exact hfunded id stored hstored

theorem Book.Reads.costs (h : s.book.Reads id sub) (hpriced : s.book.Priced) :
    0 ≤ sub.amount := by
  obtain ⟨stored, hstored, rfl | ⟨-, rfl⟩⟩ := h
  · exact hpriced id sub hstored
  · exact hpriced id stored hstored

/-- A subscription that is read again has the same balance. -/
theorem Book.Reads.balance_eq {other : Subscription} (h : s.book.Reads id sub)
    (h' : s.book.Reads id other) : sub.prepaidBalance = other.prepaidBalance := by
  have hstored {found : Subscription} (h : s.book.Reads id found) :
      (s.book.record id).map (·.prepaidBalance) = some found.prepaidBalance := by
    obtain ⟨stored, hstored, rfl | ⟨-, rfl⟩⟩ := h
    · rw [hstored, Option.map_some]
    · rw [hstored, Option.map_some]
  exact Option.some.inj ((hstored h).symm.trans (hstored h'))

theorem State.Sound.liability_nonneg (h : s.Sound) (hreads : s.book.Reads id sub) :
    0 ≤ sub.liability := by
  have hfunds := hreads.funds h.funded
  have hcosts := hreads.costs h.priced
  unfold Subscription.liability
  split <;> omega

theorem VaultAction.adds_nonneg (l : VaultAction) (hcosts : 0 ≤ sub.amount) :
    0 ≤ l.adds s id sub := by
  unfold VaultAction.adds
  split
  · split
    · exact hcosts
    · exact Int.le_refl 0
  · split
    · exact Int.add_nonneg (Int.le_max_left _ _) hcosts
    · exact Int.le_refl 0
  · split
    · exact Int.le_max_left _ _
    · exact Int.le_refl 0
  · exact Operation.adds_nonneg _ hcosts

theorem VaultAction.raises_nonneg (l : VaultAction) (hsound : s.Sound) (id : Nat) :
    0 ≤ l.raises s subscriber token id := by
  unfold VaultAction.raises
  cases hsub : s.subscription id with
  | none => exact Int.le_refl 0
  | some sub =>
    rw [Option.elim_some]
    split
    · exact l.adds_nonneg (hsound.priced id sub hsub)
    · exact Int.le_refl 0

theorem VaultAction.adds_of_lapsed (l : VaultAction) (hgrace : sub.status = .gracePeriod) :
    l.adds s id { sub with status := .insufficientBalance } = l.adds s id sub := by
  unfold VaultAction.adds
  split
  · simp [hgrace]
  · simp [hgrace]
  · rfl
  · exact Operation.adds_of_lapsed _ hgrace

/-- The subscription that is read raises the exposure like the one that is stored. -/
theorem VaultAction.raises_of_reads (l : VaultAction) (hreads : s.book.Reads id sub) :
    l.raises s subscriber token id =
      if sub.subscriber = subscriber ∧ sub.token = token then l.adds s id sub else 0 := by
  obtain ⟨stored, hstored, hread⟩ := hreads
  have hsub : s.subscription id = some stored := hstored
  rw [VaultAction.raises, hsub, Option.elim_some]
  rcases hread with rfl | ⟨hgrace, rfl⟩
  · rfl
  · rw [l.adds_of_lapsed hgrace]

theorem VaultAction.raises_of_unused (l : VaultAction) (hsound : s.Sound)
    (hid : s.nextSubscriptionId ≤ id) : l.raises s subscriber token id = 0 := by
  have hnone : s.subscription id = none := hsound.numbered.unused id hid
  rw [VaultAction.raises, hnone, Option.elim_none]

/-- What one subscription adds fits below the limit with the rest. -/
theorem VaultAction.LeavesRoom.at_record (h : l.LeavesRoom s subscriber token)
    (hsound : s.Sound) (id : Nat) :
    s.exposure subscriber token + l.raises s subscriber token id ≤
      s.creditLimit subscriber token := by
  refine Int.le_trans (Int.add_le_add_left ?_ _) h
  by_cases hid : id < s.nextSubscriptionId
  · exact Finset.single_le_sum (fun j _ => l.raises_nonneg hsound j) (Finset.mem_range.mpr hid)
  · rw [l.raises_of_unused hsound (Nat.le_of_not_lt hid)]
    exact Finset.sum_nonneg fun j _ => l.raises_nonneg hsound j

end Room

/-! ## Steps that do not ask -/

section Unasked

variable {s t : State} {id : Nat} {sub new : Subscription} {l : VaultAction}
  {subscriber token : Address}

/-- The balance does not grow without a payment. -/
theorem VaultStep.drawn (h : VaultStep l s t) (hop : l.operation.paysIn = false)
    (hreads : s.book.Reads id sub) (hnew : t.book.record id = some new)
    (hrewrites : Rewrites l.env s id l.operation sub new) (hfunds : 0 ≤ sub.prepaidBalance) :
    new.prepaidBalance ≤ sub.prepaidBalance := by
  have hdraws (hdraws : s.book.Draws t.book) : new.prepaidBalance ≤ sub.prepaidBalance := by
    have ⟨stored, hstored, _⟩ := hreads
    have hsame := hreads.balance_eq ⟨stored, hstored, .inl rfl⟩
    obtain ⟨found, hfound, hdrawn⟩ := hdraws id stored hstored
    obtain rfl := Option.some.inj (hfound.symm.trans hnew)
    rw [hsame] at hfunds ⊢
    exact hdrawn.drawn hfunds
  by_cases hedit : ∃ j, l.operation = .edit j
  · obtain ⟨j, hedit⟩ := hedit
    cases h with
    | @call env call _ _ _ hrun =>
      by_cases hset : ∃ authorizer bound, call = .setSubscriptionExpiryLedger j authorizer bound
      · obtain ⟨authorizer, bound, rfl⟩ := hset
        obtain ⟨old, hold, hbook⟩ := doSetSubscriptionExpirationLedger_book hrun
        rw [hbook] at hnew
        by_cases hid : id = j
        · subst hid
          have hself := (Function.update_self ..).symm.trans hnew
          obtain rfl := Option.some.inj hself
          exact (hold.balance_eq hreads).le
        · have hsame : s.book.record id = some new := (Function.update_of_ne hid ..).symm.trans hnew
          exact (hreads.balance_eq ⟨new, hsame, .inl rfl⟩).ge
      · refine hdraws (VaultCall.draws hedit (fun authorizer bound heq => ?_) hrun)
        exact hset ⟨authorizer, bound, heq⟩
    | @item env entry | @itemFailed env entry => cases entry <;> cases hedit
    | other => cases hedit
  · by_cases hresume : ∃ j, l.operation = .resume j
    · obtain ⟨j, hresume⟩ := hresume
      cases h with
      | @call env call _ _ _ hrun =>
        cases call
        case resumeSubscription => exact hdraws (resumeSubscriptionReported_book hrun).2
        all_goals cases hresume
      | @item env entry | @itemFailed env entry => cases entry <;> cases hresume
      | other => cases hresume
    · exact hrewrites.drawn hop (fun j heq => hedit ⟨j, heq⟩) (fun j heq => hresume ⟨j, heq⟩) hfunds

/-- Apart from the payments only the end of a blocking looks at more than the operation. -/
theorem VaultAction.adds_eq (hop : l.operation.paysIn = false)
    (hlisted : ∀ env admin listed, l = .call env (.removeFromBlocklist admin listed) →
      id ∈ s.subscriberSubs listed) :
    l.adds s id sub = l.operation.adds l.env s id sub := by
  unfold VaultAction.adds
  split
  · rename_i env admin listed
    have hid := hlisted env admin listed rfl
    simp [VaultAction.operation, VaultCall.operation, Operation.adds, hid]
  · cases hop
  · cases hop
  · rfl

theorem VaultStep.exposureAt_le (h : VaultStep l s t) (hsound : s.Sound)
    (hop : l.operation.paysIn = false) (id : Nat) :
    t.book.exposureAt subscriber token id ≤
      s.book.exposureAt subscriber token id + l.raises s subscriber token id := by
  have hraises : 0 ≤ l.raises s subscriber token id := l.raises_nonneg hsound id
  have hkept (hsame : t.book.record id = s.book.record id) :
      t.book.exposureAt subscriber token id ≤
        s.book.exposureAt subscriber token id + l.raises s subscriber token id := by
    rw [Book.exposureAt_congr hsame]
    omega
  by_cases hother : ∃ env admin listed, l = .call env (.removeFromBlocklist admin listed) ∧
      id ∉ s.subscriberSubs listed
  · obtain ⟨env, admin, listed, rfl, hid⟩ := hother
    cases h with
    | call _ hrun => exact hkept ((doRemoveFromBlocklist_book hrun).2 id hid)
  have hrecord := h.at_record id
  generalize hl : l.operation = op at hrecord
  cases hrecord with
  | kept hsame => exact hkept hsame
  | @rewritten _ sub new hreads hrewrites hafter =>
    subst hl
    have hcosts := hreads.costs hsound.priced
    have hdrawn := h.drawn hop hreads hafter hrewrites (hreads.funds hsound.funded)
    have hliable := hrewrites.liability_le hop hcosts hdrawn
    have hsubscriber : new.subscriber = sub.subscriber := by
      rcases hrewrites.subscriber with hsame | htransfer
      · exact hsame
      · rw [htransfer] at hop
        cases hop
    rw [Book.exposureAt, hafter, Option.elim_some, hreads.exposureAt, l.raises_of_reads hreads,
      VaultAction.adds_eq hop fun env admin listed heq =>
        not_not.mp fun hid => hother ⟨env, admin, listed, heq, hid⟩]
    exact Subscription.exposureTo_le hsubscriber hrewrites.token hliable
  | created | restored =>
    rw [hl] at hop
    cases hop

end Unasked

/-! ## Prices -/

section Prices

variable {s t : State} {id : Nat} {op : Operation} {env : Env} {sub new : Subscription}
  {l : VaultAction}

/-- A subscription costs what it did, unless it moves to a plan. -/
theorem Rewrites.amount (h : Rewrites env s id op sub new) :
    new.amount = sub.amount ∨ ∃ planId plan, op = .replan id planId ∧
      s.planTemplate planId = some plan ∧ new.amount = plan.amount := by
  cases h with
  | edited _ hnew => rw [hnew]; exact .inl rfl
  | revived _ _ hnew => rw [hnew]; exact .inl rfl
  | paused | resumed | cancelled | archived | transferred => exact .inl rfl
  | @replanned _ planId plan hplan => exact .inr ⟨planId, plan, rfl, hplan, rfl⟩
  | rehomed =>
    unfold Subscription.rehomed
    split <;> exact .inl rfl
  | halted _ _ _ hnew => rw [hnew]; exact .inl rfl
  | settled _ _ hsettled => rw [hsettled.2]; exact .inl rfl
  | used _ hsettled => rw [hsettled.2]; exact .inl rfl
  | boughtOut _ hnew _ => rw [hnew]; exact .inl rfl

theorem priced_of_step (hpriced : s.book.Priced) (h : VaultStep l s t)
    (hrestore : ∀ summaries, l.operation ≠ .restore summaries) : t.book.Priced := by
  intro id new hnew
  have hrecord := h.at_record id
  generalize hl : l.operation = op at hrecord
  cases hrecord with
  | kept hsame => exact hpriced id new (hsame.symm.trans hnew)
  | @rewritten _ sub _ hreads hrewrites hafter =>
    obtain rfl := Option.some.inj (hafter.symm.trans hnew)
    rcases hrewrites.amount with hsame | ⟨planId, plan, rfl, hplan, hamount⟩
    · rw [hsame]
      exact hreads.costs hpriced
    · cases h with
      | @call env call _ _ hsingle hrun =>
        clear hsingle
        cases call
        case migrateSubscriptionToPlan subscriber moving newPlanId =>
          obtain ⟨rfl, rfl⟩ : moving = id ∧ newPlanId = planId := by
            injection hl with hid hplanId
            exact ⟨hid, hplanId⟩
          obtain ⟨_, found, _, hmigrates, -⟩ := doMigrateSubscriptionToPlan_migrates hrun
          obtain rfl := Option.some.inj (hmigrates.offered.symm.trans hplan)
          rw [hamount]
          exact hmigrates.costs.le
        all_goals cases hl
      | @item env entry | @itemFailed env entry => cases entry <;> cases hl
      | other => cases hl
  | @created sub hnumber hcreated =>
    obtain ⟨created, made, hinstalls, htakes⟩ := h.installs hl
    have hrecords : t.subscription created = some made := by
      rw [hinstalls.record]
      exact Function.update_self ..
    obtain rfl : id = created := hnumber.trans htakes.taken.symm
    obtain rfl : made = new := Option.some.inj (hrecords.symm.trans hnew)
    exact hinstalls.costs
  | restored => exact absurd hl (hrestore _)

theorem State.Sound.of_step (hsound : s.Sound) (h : VaultStep l s t)
    (hrestore : ∀ summaries, l.operation ≠ .restore summaries) : t.Sound where
  numbered := numbered_of_step hsound.numbered h hrestore
  funded := funded_of_step hsound.funded h hrestore
  priced := priced_of_step hsound.priced h hrestore

end Prices

/-! ## Steps that pay in -/

section Asked

variable {env : Env} {s t : State} {id : Nat} {sub new : Subscription} {l : VaultAction}
  {subscriber token : Address}

theorem State.exposure_of_asked {delta : Int} (hlimit : s.creditLimit subscriber token ≠ 0)
    (hwithin : s.exposure subscriber token ≤ s.creditLimit subscriber token) (hdelta : 0 ≤ delta)
    (h : s.creditLimitForDelta subscriber token delta = .ok ()) :
    s.exposure subscriber token + delta ≤ s.creditLimit subscriber token := by
  rcases hdelta.eq_or_lt with rfl | hpositive
  · rwa [Int.add_zero]
  · exact State.exposure_of_affordable hlimit hpositive h

/-- One subscription becomes liable for more, and what is added fits. -/
theorem State.exposure_le_of_set {added : Int} (hsound : s.Sound) (hsound' : t.Sound)
    (hwithin : s.exposure subscriber token ≤ s.creditLimit subscriber token)
    (hreads : s.book.Reads id sub) (hrecord : t.book.record = (s.book.setRecord id new).record)
    (hsubscriber : new.subscriber = sub.subscriber) (htoken : new.token = sub.token)
    (hliable : new.liability ≤ sub.liability + added)
    (hfits : sub.subscriber = subscriber ∧ sub.token = token →
      s.exposure subscriber token + added ≤ s.creditLimit subscriber token) :
    t.exposure subscriber token ≤ s.creditLimit subscriber token := by
  have hmoved : t.exposure subscriber token + s.book.exposureAt subscriber token id =
      s.exposure subscriber token + new.exposureTo subscriber token :=
    Book.exposure_setRecord hsound.numbered hsound'.numbered hrecord
  rw [hreads.exposureAt] at hmoved
  have hgrows : new.exposureTo subscriber token ≤ sub.exposureTo subscriber token +
      if sub.subscriber = subscriber ∧ sub.token = token then added else 0 :=
    Subscription.exposureTo_le hsubscriber htoken hliable
  split at hgrows
  · rename_i hmine
    have hfit := hfits hmine
    omega
  · omega

theorem Deposits.fits {amount : Int} (hdeposits : Deposits s id sub amount)
    (hlimit : s.creditLimit subscriber token ≠ 0)
    (hwithin : s.exposure subscriber token ≤ s.creditLimit subscriber token)
    (hmine : sub.subscriber = subscriber ∧ sub.token = token) :
    s.exposure subscriber token + amount ≤ s.creditLimit subscriber token := by
  obtain ⟨rfl, rfl⟩ := hmine
  exact State.exposure_of_asked hlimit hwithin hdeposits.nonneg hdeposits.affordable

theorem Subscription.toppedUp_liability (sub : Subscription) (amount : Int) :
    (sub.toppedUp amount).liability = sub.liability + amount := by
  unfold Subscription.liability Subscription.toppedUp
  dsimp only
  omega

/-- A deposit that leaves the status alone has asked for all it adds. -/
theorem Deposits.exposure_le {amount : Int} (hdeposits : Deposits s id sub amount)
    (hsound : s.Sound) (hsound' : t.Sound) (hlimit : s.creditLimit subscriber token ≠ 0)
    (hwithin : s.exposure subscriber token ≤ s.creditLimit subscriber token)
    (hbook : t.book = s.book.setRecord id (sub.toppedUp amount)) :
    t.exposure subscriber token ≤ s.creditLimit subscriber token := by
  exact State.exposure_le_of_set hsound hsound' hwithin hdeposits.reads
    (congrArg Book.record hbook) rfl rfl
    (sub.toppedUp_liability amount).le (hdeposits.fits hlimit hwithin)

theorem Subscription.recovered_parties (sub : Subscription) :
    sub.recovered.subscriber = sub.subscriber ∧ sub.recovered.token = sub.token := by
  unfold Subscription.recovered
  split <;> exact ⟨rfl, rfl⟩

theorem Subscription.recovered_liability (hcosts : 0 ≤ sub.amount) :
    sub.recovered.liability ≤ sub.liability + sub.amount := by
  unfold Subscription.recovered
  split
  · exact Subscription.liability_le_of_woken le_rfl hcosts rfl
  · omega

/-- A delegated deposit may in addition make the subscription active again. -/
theorem Deposits.exposure_le_of_recovered {payer : Address} {amount : Int} {nonce : Option Nat}
    (hdeposits : Deposits s id sub amount) (hsound : s.Sound) (hsound' : t.Sound)
    (hlimit : s.creditLimit subscriber token ≠ 0)
    (hroom : (VaultAction.call env (.depositFundsOnBehalf id payer amount nonce)).LeavesRoom s
      subscriber token)
    (hwithin : s.exposure subscriber token ≤ s.creditLimit subscriber token)
    (hbook : t.book = s.book.setRecord id (sub.toppedUp amount).recovered) :
    t.exposure subscriber token ≤ s.creditLimit subscriber token := by
  by_cases hbehind : (sub.status = .insufficientBalance ∨ sub.status = .gracePeriod) ∧
      sub.amount ≤ sub.prepaidBalance + amount
  · have hadds : (VaultAction.call env (.depositFundsOnBehalf id payer amount nonce)).adds s id
        sub = max 0 amount + sub.amount := if_pos ⟨rfl, hbehind⟩
    have hfits := hroom.at_record hsound id
    rw [VaultAction.raises_of_reads _ hdeposits.reads, hadds, max_eq_right hdeposits.nonneg]
      at hfits
    have hliable : (sub.toppedUp amount).recovered.liability ≤
        sub.liability + (amount + sub.amount) := by
      rw [← Int.add_assoc, ← sub.toppedUp_liability]
      exact Subscription.recovered_liability (hdeposits.reads.costs hsound.priced)
    obtain ⟨hsubscriber, htoken⟩ := (sub.toppedUp amount).recovered_parties
    refine State.exposure_le_of_set hsound hsound' hwithin hdeposits.reads
      (congrArg Book.record hbook) hsubscriber htoken hliable fun hmine => ?_
    rwa [if_pos hmine] at hfits
  · have hkept : (sub.toppedUp amount).recovered = sub.toppedUp amount := if_neg hbehind
    rw [hkept] at hbook
    exact hdeposits.exposure_le hsound hsound' hlimit hwithin hbook

theorem Affords.exposure_le {owner : Address} {amount : Int} {key : Option BytesN32} {period : Nat}
    (haffords : Affords s id sub amount) (hsound : s.Sound) (hsound' : t.Sound)
    (hroom : (VaultAction.call env (.graceBuyout id owner amount key)).LeavesRoom s subscriber
      token)
    (hwithin : s.exposure subscriber token ≤ s.creditLimit subscriber token)
    (hbook : t.book = (s.book.setRecord id (sub.boughtOut amount env.now)).setPeriod id period) :
    t.exposure subscriber token ≤ s.creditLimit subscriber token := by
  have hrecord : t.book.record = (s.book.setRecord id (sub.boughtOut amount env.now)).record := by
    rw [hbook]
    rfl
  have hadds : (VaultAction.call env (.graceBuyout id owner amount key)).adds s id sub =
      max 0 amount := if_pos rfl
  have hfits := hroom.at_record hsound id
  rw [VaultAction.raises_of_reads _ haffords.reads, hadds] at hfits
  have hliable : (sub.boughtOut amount env.now).liability ≤ sub.liability + max 0 amount := by
    have hactive : sub.status ≠ .active := by simp [haffords.grace]
    have hpaid := Int.le_max_right 0 amount
    unfold Subscription.liability Subscription.boughtOut
    rw [if_neg hactive, if_pos rfl]
    dsimp only
    omega
  refine State.exposure_le_of_set hsound hsound' hwithin haffords.reads hrecord rfl rfl hliable
    fun hmine => ?_
  rwa [if_pos hmine] at hfits

/-- The receiver has been asked about all the subscription makes it liable for. -/
theorem exposure_le_of_transfer {«to» : Address} (hsound : s.Sound) (hsound' : t.Sound)
    (hlimit : s.creditLimit subscriber token ≠ 0)
    (hwithin : s.exposure subscriber token ≤ s.creditLimit subscriber token)
    (hreads : s.book.Reads id sub)
    (hasked : s.creditLimitForDelta «to» sub.token sub.liability = .ok ())
    (hbook : t.book = s.book.handedOver id sub «to») :
    t.exposure subscriber token ≤ s.creditLimit subscriber token := by
  have hrecord : t.book.record =
      (s.book.setRecord id { sub with subscriber := «to» }).record := by
    rw [hbook]
    unfold Book.handedOver
    dsimp only
    split <;> rfl
  have hliable := hsound.liability_nonneg hreads
  have hmoved : t.exposure subscriber token + s.book.exposureAt subscriber token id =
      s.exposure subscriber token +
        Subscription.exposureTo { sub with subscriber := «to» } subscriber token :=
    Book.exposure_setRecord hsound.numbered hsound'.numbered hrecord
  rw [hreads.exposureAt] at hmoved
  have hleft : 0 ≤ sub.exposureTo subscriber token := by
    unfold Subscription.exposureTo
    split
    · exact hliable
    · exact Int.le_refl 0
  by_cases hmine : «to» = subscriber ∧ sub.token = token
  · obtain ⟨rfl, rfl⟩ := hmine
    have hreceived : Subscription.exposureTo { sub with subscriber := «to» } «to» sub.token =
        sub.liability := if_pos ⟨rfl, rfl⟩
    have hfits := State.exposure_of_asked hlimit hwithin hliable hasked
    omega
  · have hnone : Subscription.exposureTo { sub with subscriber := «to» } subscriber token = 0 :=
      if_neg hmine
    omega

theorem Installs.exposure_le {created : Nat} (hinstalls : Installs s t created sub)
    (htaken : created = s.nextSubscriptionId) (hsound : s.Sound) (hsound' : t.Sound)
    (hlimit : s.creditLimit subscriber token ≠ 0)
    (hwithin : s.exposure subscriber token ≤ s.creditLimit subscriber token) :
    t.exposure subscriber token ≤ s.creditLimit subscriber token := by
  have hmoved : t.exposure subscriber token + s.book.exposureAt subscriber token created =
      s.exposure subscriber token + sub.exposureTo subscriber token :=
    Book.exposure_setRecord hsound.numbered hsound'.numbered hinstalls.record
  have hnone : s.book.exposureAt subscriber token created = 0 := by
    rw [Book.exposureAt, hsound.numbered.unused created htaken.ge, Option.elim_none]
  have hliable : sub.liability = sub.amount := by
    rw [Subscription.liability, if_pos hinstalls.active, hinstalls.empty, Int.zero_add]
  by_cases hmine : sub.subscriber = subscriber ∧ sub.token = token
  · obtain ⟨rfl, rfl⟩ := hmine
    have hadded : sub.exposureTo sub.subscriber sub.token = sub.liability := if_pos ⟨rfl, rfl⟩
    have hfits := State.exposure_of_asked hlimit hwithin hinstalls.costs hinstalls.affordable
    omega
  · have hadded : sub.exposureTo subscriber token = 0 := if_neg hmine
    omega

end Asked

/-! ## Runs -/

section Runs

variable {start u s t : State} {l : VaultAction} {subscriber token : Address}
  {earlier later : History VaultAction State}

theorem VaultStep.exposure_le (h : VaultStep l s t) (hsound : s.Sound)
    (hrestore : ∀ summaries, l.operation ≠ .restore summaries)
    (hlimit : s.creditLimit subscriber token ≠ 0)
    (hwithin : s.exposure subscriber token ≤ s.creditLimit subscriber token)
    (hroom : l.LeavesRoom s subscriber token) :
    t.exposure subscriber token ≤ s.creditLimit subscriber token := by
  have hsound' := hsound.of_step h hrestore
  by_cases hop : l.operation.paysIn = false
  · have hgrows : t.exposure subscriber token ≤ s.exposure subscriber token +
        ∑ id ∈ Finset.range s.nextSubscriptionId, l.raises s subscriber token id :=
      Book.exposure_le hsound.numbered hsound'.numbered
        (fun id hid => l.raises_of_unused hsound hid) fun id => h.exposureAt_le hsound hop id
    exact hgrows.trans hroom
  have hpays := Bool.of_not_eq_false hop
  by_cases hcreate : l.operation = .create
  · obtain ⟨created, sub, hinstalls, htakes⟩ := h.installs hcreate
    exact hinstalls.exposure_le htakes.taken hsound hsound' hlimit hwithin
  cases h with
  | @call env call _ _ _ hrun =>
    cases call
    case depositFunds =>
      obtain ⟨m, hbody, hbook⟩ := run_locked_ok (run_guardedCall_ok.mp hrun).2
      obtain ⟨sub, hdeposits, hafter⟩ := doDepositFunds_deposits hbody
      rw [State.book_lock, ← hbook] at hafter
      exact hdeposits.of_lock.exposure_le hsound hsound' hlimit hwithin hafter
    case depositFundsOnBehalf =>
      obtain ⟨m, hbody, hbook⟩ := run_locked_ok (run_guardedCall_ok.mp hrun).2
      obtain ⟨sub, hdeposits, hafter⟩ := doDepositFundsOnBehalf_deposits hbody
      rw [State.book_lock, ← hbook] at hafter
      exact hdeposits.of_lock.exposure_le_of_recovered hsound hsound' hlimit hroom hwithin hafter
    case graceBuyout =>
      obtain ⟨_, hrun⟩ := run_effectOf_ok.mp hrun
      obtain ⟨m, hbody, hbook⟩ := run_locked_ok (run_guardedCall_ok.mp hrun).2
      obtain ⟨sub, haffords, hafter⟩ := doGraceBuyout_settles hbody
      rw [State.book_lock, ← hbook] at hafter
      exact haffords.of_lock.exposure_le hsound hsound' hroom hwithin hafter
    case acceptTransfer =>
      obtain ⟨m, hbody, hbook⟩ := run_locked_ok hrun
      obtain ⟨sub, hreads, hasked, hafter⟩ := doAcceptTransfer_accepts hbody
      rw [State.book_lock] at hreads
      rw [State.creditLimitForDelta_lock] at hasked
      rw [State.book_lock, ← hbook] at hafter
      exact exposure_le_of_transfer hsound hsound' hlimit hwithin hreads hasked hafter
    case restoreSnapshotPage => exact absurd rfl (hrestore _)
    all_goals first | exact absurd rfl hcreate | cases hpays
  | @item env entry _ _ hrun =>
    cases entry with
    | deposit =>
      obtain ⟨sub, hdeposits, hbook⟩ := bulkDepositOne_deposits hrun
      exact hdeposits.exposure_le hsound hsound' hlimit hwithin hbook
    | charge | cancel | pause => cases hpays
  | @itemFailed env entry _ _ e hrun =>
    cases entry with
    | deposit =>
      obtain rfl := bulkDepositOne_err hrun
      exact hwithin
    | charge | cancel | pause => cases hpays
  | other => cases hpays

theorem Deployed.sound (h : Deployed start) : start.Sound := by
  have hnone (j : Nat) : start.book.record j = none := by
    rw [h.book]
    rfl
  exact ⟨h.numbered, fun j sub hsub => (by cases (hnone j).symm.trans hsub),
    fun j sub hsub => (by cases (hnone j).symm.trans hsub)⟩

theorem sound_of_run (hsound : start.Sound) (hrun : Run VaultStep start earlier s)
    (hrestore : ∀ step ∈ earlier, ∀ summaries, step.1.operation ≠ .restore summaries) :
    s.Sound := by
  induction hrun with
  | start => exact hsound
  | next _ hlast ih =>
    exact (ih fun step hmem => hrestore step (List.mem_cons_of_mem _ hmem)).of_step hlast
      (hrestore _ List.mem_cons_self)

end Runs

/-- Without restored snapshots, a subscriber within a limit that stays is within it as long as
every step leaves room for what it adds without asking. -/
theorem credit_limit_kept {start u s : State} {earlier later : History VaultAction State}
    {subscriber token : Address} {limit : Int} (hdeployed : Deployed start)
    (hearlier : Run VaultStep start earlier u) (hlater : Run VaultStep u later s)
    (hrestore : ∀ step ∈ earlier ++ later, ∀ summaries, step.1.operation ≠ .restore summaries)
    (hlimit : limit ≠ 0) (hwithin : u.exposure subscriber token ≤ limit)
    (hfixed : ∀ step ∈ later, step.2.creditLimit subscriber token = limit)
    (hroom : ∀ step ∈ later, step.1.LeavesRoom step.2 subscriber token) :
    s.exposure subscriber token ≤ limit := by
  have hsound := sound_of_run hdeployed.sound hearlier
    fun step hmem => hrestore step (List.mem_append_left _ hmem)
  induction hlater with
  | start => exact hwithin
  | @next hist v w l hbefore hlast ih =>
    have hsub {step : VaultAction × State} (hmem : step ∈ hist) : step ∈ (l, v) :: hist :=
      List.mem_cons_of_mem _ hmem
    have hplain (step : VaultAction × State) (hmem : step ∈ (l, v) :: hist) :
        ∀ summaries, step.1.operation ≠ .restore summaries :=
      hrestore step (List.mem_append_right _ hmem)
    have hlimited : v.creditLimit subscriber token = limit := hfixed _ List.mem_cons_self
    have hbound : v.exposure subscriber token ≤ limit :=
      ih (fun step hmem => (List.mem_append.mp hmem).elim
          (fun h => hrestore step (List.mem_append_left _ h)) fun h => hplain step (hsub h))
        (fun step hmem => hfixed step (hsub hmem)) fun step hmem => hroom step (hsub hmem)
    rw [← hlimited] at hlimit hbound ⊢
    exact hlast.exposure_le (sound_of_run hsound hbefore fun step hmem => hplain step (hsub hmem))
      (hplain _ List.mem_cons_self) hlimit hbound (hroom _ List.mem_cons_self)

section Examples

/-- A vault where the subscriber may be exposed to one interval. -/
private def cappedVault : List (Env × Vault Unit) :=
  (sampleEnv 0 [⟨8⟩], doSetSubscriberCreditLimit ⟨8⟩ ⟨2⟩ ⟨9⟩ 10) :: sampleVault 0

private theorem cappedVault_run : Run VaultStep (sampleStart 0)
    [(.other (sampleEnv 0 []), sampleStart 0)] (afterCalls cappedVault) := by
  have hlimit := (doSetSubscriberCreditLimit_areas ⟨8⟩ ⟨2⟩ ⟨9⟩ 10).after (sampleEnv 0 [⟨8⟩])
    (afterCalls (sampleVault 0))
  exact Run.start.next
    (.other ((sample_quiet 0).trans (hlimit.mono (areas_subset_unbooked rfl))))

private def resumedWithinLimit : List VaultAction :=
  [.call (sampleEnv 2 [⟨2⟩]) (.resumeSubscription 0 ⟨2⟩),
   .call (sampleEnv 1 [⟨2⟩]) (.pauseSubscription 0 ⟨2⟩),
   .call (sampleEnv 0 [⟨2⟩]) (.createSubscription sampleRequest)]

/-- Resuming the only subscription leaves the subscriber within the limit. -/
theorem resume_within_credit_limit : ∃ later s,
    Run VaultStep (afterCalls cappedVault) later s ∧ later.length = 3 ∧
      s.exposure ⟨2⟩ ⟨9⟩ ≤ 10 := by
  have hstart : Run VaultStep (afterCalls cappedVault) [] (afterCalls cappedVault) := .start
  have hlater := run_actions hstart
    (show actionsSucceed (afterCalls cappedVault) resumedWithinLimit = true by decide +kernel)
  refine ⟨_, _, hlater, rfl, credit_limit_kept (sample_deployed 0) cappedVault_run hlater
    (fun step hmem summaries => ?_) (by decide) (by decide +kernel) (fun step hmem => ?_)
    fun step hmem => ?_⟩
  all_goals
    simp only [resumedWithinLimit, actionHistory, List.cons_append, List.nil_append, List.mem_cons,
      List.not_mem_nil, or_false] at hmem
  · rcases hmem with rfl | rfl | rfl | rfl <;> exact nofun
  · rcases hmem with rfl | rfl | rfl <;> decide +kernel
  · rcases hmem with rfl | rfl | rfl <;> unfold VaultAction.LeavesRoom <;> decide +kernel

private def resumedBeyondLimit : List VaultAction :=
  [.call (sampleEnv 2 [⟨2⟩]) (.createSubscription sampleRequest),
   .call (sampleEnv 1 [⟨2⟩]) (.pauseSubscription 0 ⟨2⟩),
   .call (sampleEnv 0 [⟨2⟩]) (.createSubscription sampleRequest)]

/-- With another one in its place, resuming it makes the exposure twice the limit. -/
theorem resume_exceeds_credit_limit : ∃ hist u s, Deployed (sampleStart 0) ∧
    Run VaultStep (sampleStart 0) hist u ∧
    (VaultCall.resumeSubscription 0 ⟨2⟩).exec.run (sampleEnv 3 [⟨2⟩]) u = .ok () s ∧
    u.creditLimit ⟨2⟩ ⟨9⟩ = 10 ∧ s.creditLimit ⟨2⟩ ⟨9⟩ = 10 ∧
    u.exposure ⟨2⟩ ⟨9⟩ = 10 ∧ s.exposure ⟨2⟩ ⟨9⟩ = 20 := by
  have hrun := run_actions cappedVault_run
    (show actionsSucceed (afterCalls cappedVault) resumedBeyondLimit = true by decide +kernel)
  exact ⟨_, _, _, sample_deployed 0, hrun, run_eq_after (by decide +kernel), by decide +kernel,
    by decide +kernel, by decide +kernel, by decide +kernel⟩

end Examples

end SubscriptionVault
