import SubscriptionVault.Charging.BookChanges
import SubscriptionVault.Lifecycle.Footprints

/-!
# Operations and the book

One theorem per operation on subscriptions, saying how a successful run changes the book. They
all follow the operation statement by statement: checks first, then the one or two writes that
the book records.
-/

namespace SubscriptionVault

open Exec

/-! ## Limits -/

section Limits

variable {s t : State}

theorem State.computeSubscriberExposure_congr (hrecords : t.subscription = s.subscription)
    (hnext : t.nextSubscriptionId = s.nextSubscriptionId) :
    t.computeSubscriberExposure = s.computeSubscriberExposure := by
  funext subscriber token
  have hadd : t.addExposure subscriber token = s.addExposure subscriber token := by
    funext exposure id
    unfold State.addExposure
    rw [hrecords]
  unfold State.computeSubscriberExposure
  rw [hnext, hadd]

theorem State.creditLimitForDelta_congr (hrecords : t.subscription = s.subscription)
    (hnext : t.nextSubscriptionId = s.nextSubscriptionId)
    (hlimit : t.creditLimit = s.creditLimit) : t.creditLimitForDelta = s.creditLimitForDelta := by
  funext subscriber token delta
  unfold State.creditLimitForDelta
  rw [State.computeSubscriberExposure_congr hrecords hnext, hlimit]

theorem State.creditLimit_of_areas {l : List Area} (h : FiniteStore.AgreeOff (areas l) s t)
    (hl : l.contains .settings = false) : t.creditLimit = s.creditLimit := by
  funext subscriber token
  unfold State.creditLimit
  rw [State.read_of_areas (k := .instanced (.creditLimit subscriber token)) h hl]

/-- What is written outside the book and the settings does not move the limit. -/
theorem State.creditLimitForDelta_of_areas {l : List Area} (h : FiniteStore.AgreeOff (areas l) s t)
    (hbook : areas l ⊆ unbooked) (hl : l.contains .settings = false) :
    t.creditLimitForDelta = s.creditLimitForDelta := by
  have hsame : t.book = s.book := State.book_of_unbooked (h.mono hbook)
  exact State.creditLimitForDelta_congr (congrArg Book.record hsame)
    (congrArg Book.nextId hsame) (State.creditLimit_of_areas h hl)

theorem run_enforceCreditLimit_ok {env : Env} {u : Unit} {subscriber token : Address}
    {delta : Int} (hrun : (enforceCreditLimitForDelta subscriber token delta).run env s = .ok u t) :
    s.creditLimitForDelta subscriber token delta = .ok () := by
  obtain ⟨checked, hchecked, hrun⟩ := run_check_ok (.gets _) hrun
  obtain ⟨rfl, -⟩ := run_gets_ok.mp hchecked
  exact (run_lift_ok.mp hrun).1

end Limits

section Operations

variable {env : Env} {s t : State} {id : Nat} {u : Unit}

/-- An expired subscription goes no further. -/
theorem run_unexpired_ok {β : Type} {b : β} {sub : Subscription} {f : Unit → Vault β}
    (hrun : (failIfExpired id sub >>= f).run env s = .ok b t) :
    sub.isExpired env.now env.sequence = false ∧ (f ()).run env s = .ok b t := by
  obtain ⟨_, s₁, hexpired, hrun⟩ := run_bind_ok.mp hrun
  obtain ⟨hunexpired, rfl⟩ := run_failIfExpired_ok.mp hexpired
  exact ⟨hunexpired, hrun⟩

theorem run_read_ok {β : Type} {b : β} {f : Subscription → Vault β}
    (hrun : (getSubscription id >>= f).run env s = .ok b t) :
    ∃ sub, s.book.Reads id sub ∧ s.effectiveSubscription id env.now = some sub ∧
      (f sub).run env s = .ok b t := by
  obtain ⟨sub, s₁, hget, hrun⟩ := run_bind_ok.mp hrun
  obtain ⟨hfound, rfl⟩ := run_getSubscription_ok.mp hget
  exact ⟨sub, Book.reads_of_effective hfound, hfound, hrun⟩

@[simp] theorem run_addTotalAccounted_ok {token : Address} {amount : Int} :
    (addTotalAccounted token amount).run env s = .ok u t ↔ s = t := by
  simp [addTotalAccounted]

@[simp] theorem run_subTotalAccounted_ok {token : Address} {amount : Int} :
    (subTotalAccounted token amount).run env s = .ok u t ↔ s = t := by
  simp [subTotalAccounted]

/-! ## Deposits -/

/-- The limit has been asked about the deposit, which goes to the subscription read as `sub`. -/
structure Deposits (s : State) (id : Nat) (sub : Subscription) (amount : Int) : Prop where
  reads : s.book.Reads id sub
  nonneg : 0 ≤ amount
  affordable : s.creditLimitForDelta sub.subscriber sub.token amount = .ok ()

/-- The subscription with a deposit added to its balance. -/
def Subscription.toppedUp (sub : Subscription) (amount : Int) : Subscription :=
  { sub with prepaidBalance := sub.prepaidBalance + amount }

theorem Subscription.steady_of_deposit (sub : Subscription) {amount : Int} (hamount : 0 ≤ amount) :
    sub.Steady (sub.toppedUp amount) :=
  ⟨rfl, fun hfunds => Int.add_nonneg hfunds hamount⟩

theorem doDepositFunds_deposits {amount : Int} {nonce : Option Nat}
    (hrun : (doDepositFunds id amount nonce).run env s = .ok u t) :
    ∃ sub, Deposits s id sub amount ∧ t.book = s.book.setRecord id (sub.toppedUp amount) := by
  obtain ⟨_, -, hrun⟩ := run_check_ok .ask hrun
  obtain ⟨sub, hreads, -, hrun⟩ := run_read_ok hrun
  obtain ⟨_, -, hrun⟩ := run_check_ok (Modifies.requireAuth _) hrun
  obtain ⟨_, -, hrun⟩ := run_check_ok (Modifies.requireNotBlocklisted _) hrun
  have hnonces : Modifies (areas [.nonces])
      (whenSome nonce (checkAndAdvance sub.subscriber .depositFunds)) :=
    .whenSome fun _ => Modifies.checkAndAdvance rfl
  obtain ⟨_, s₁, hnonce, h₁, hrun⟩ := run_quiet_ok (hnonces.unbooked rfl) hrun
  obtain ⟨_, -, hrun⟩ := run_check_ok (.failIf _ _) hrun
  obtain ⟨_, -, hrun⟩ := run_check_ok (Modifies.enforceMinTopup _) hrun
  obtain ⟨_, -, hrun⟩ := run_check_ok (Modifies.requireNotBlocklisted _) hrun
  obtain ⟨_, -, hrun⟩ := run_check_ok (Modifies.checkMerchantStatus _ _) hrun
  obtain ⟨-, hrun⟩ := run_unexpired_ok hrun
  obtain ⟨_, hcredit, hrun⟩ := run_check_ok (Modifies.enforceCreditLimitForDelta _ _ _) hrun
  obtain ⟨_, -, hrun⟩ := run_check_ok (.failIf _ _) hrun
  obtain ⟨prepaidBalance, hadd, hrun⟩ := run_check_ok (.lift _) hrun
  obtain ⟨_, s₂, -, h₂, hrun⟩ := run_quiet_ok (Modifies.delete rfl) hrun
  obtain ⟨_, s₃, hwrite, hrun⟩ := run_bind_ok.mp hrun
  obtain ⟨_, s₄, -, h₄, hrun⟩ := run_quiet_ok (Modifies.transfer rfl rfl) hrun
  obtain rfl := run_addTotalAccounted_ok.mp hrun
  obtain ⟨hamount, rfl, -⟩ := safeAddBalance_ok.mp (run_lift_ok.mp hadd).1
  have hallowed := run_enforceCreditLimit_ok hcredit
  rw [State.creditLimitForDelta_of_areas (hnonces.ok hnonce) (areas_subset_unbooked rfl) rfl]
    at hallowed
  refine ⟨sub, ⟨hreads, hamount, hallowed⟩, ?_⟩
  rw [h₄, book_of_writeSubscription hwrite, h₂, h₁]
  rfl

theorem doDepositFunds_book {amount : Int} {nonce : Option Nat}
    (hrun : (doDepositFunds id amount nonce).run env s = .ok u t) :
    EditsRecord s.book id t.book ∧ s.book.Steady t.book ∧ s.book.SameRenewal t.book := by
  obtain ⟨sub, hdeposits, hbook⟩ := doDepositFunds_deposits hrun
  exact EditsRecord.steadily hdeposits.reads hbook rfl (sub.steady_of_deposit hdeposits.nonneg)
    ⟨rfl, rfl⟩

theorem Book.setRecord_setRecord (b : Book) (id : Nat) (old new : Subscription) :
    (b.setRecord id old).setRecord id new = b.setRecord id new := by
  simp [Book.setRecord]

theorem doDepositFundsOnBehalf_deposits {payer : Address} {amount : Int} {nonce : Option Nat}
    (hrun : (doDepositFundsOnBehalf id payer amount nonce).run env s = .ok u t) :
    ∃ sub, Deposits s id sub amount ∧
      t.book = s.book.setRecord id (sub.toppedUp amount).recovered := by
  obtain ⟨_, -, hrun⟩ := run_check_ok .ask hrun
  obtain ⟨_, -, hrun⟩ := run_check_ok (Modifies.requireAuth _) hrun
  have hnonces : Modifies (areas [.nonces])
      (whenSome nonce (checkAndAdvance payer .depositFunds)) :=
    .whenSome fun _ => Modifies.checkAndAdvance rfl
  obtain ⟨_, s₁, hnonce, h₁, hrun⟩ := run_quiet_ok (hnonces.unbooked rfl) hrun
  obtain ⟨sub, hreads, -, hrun⟩ := run_read_ok hrun
  obtain ⟨_, -, hrun⟩ := run_check_ok Modifies.load hrun
  obtain ⟨grant, -, hrun⟩ := run_check_ok (.okOr _ _) hrun
  obtain ⟨_, -, hrun⟩ := run_check_ok (.failIf _ _) hrun
  obtain ⟨_, -, hrun⟩ := run_check_ok (.failIf _ _) hrun
  obtain ⟨_, -, hrun⟩ := run_check_ok (Modifies.enforceMinTopup _) hrun
  obtain ⟨_, -, hrun⟩ := run_check_ok (Modifies.requireNotBlocklisted _) hrun
  obtain ⟨_, -, hrun⟩ := run_check_ok (Modifies.requireNotBlocklisted _) hrun
  obtain ⟨_, -, hrun⟩ := run_check_ok (.gets _) hrun
  obtain ⟨_, -, hrun⟩ := run_check_ok (.failIf _ _) hrun
  obtain ⟨-, hrun⟩ := run_unexpired_ok hrun
  obtain ⟨_, hcredit, hrun⟩ := run_check_ok (Modifies.enforceCreditLimitForDelta _ _ _) hrun
  obtain ⟨_, -, hrun⟩ := run_check_ok (.failIf _ _) hrun
  obtain ⟨prepaidBalance, hadd, hrun⟩ := run_check_ok (.lift _) hrun
  obtain ⟨_, s₂, hwrite, hrun⟩ := run_bind_ok.mp hrun
  obtain ⟨_, s₃, -, h₃, hrun⟩ := run_quiet_ok (Modifies.delete rfl) hrun
  obtain ⟨_, s₄, -, h₄, hrun⟩ := run_quiet_ok (Modifies.transfer rfl rfl) hrun
  obtain ⟨_, s₅, htotal, hrun⟩ := run_bind_ok.mp hrun
  obtain rfl := run_addTotalAccounted_ok.mp htotal
  obtain ⟨hamount, rfl, -⟩ := safeAddBalance_ok.mp (run_lift_ok.mp hadd).1
  have hallowed := run_enforceCreditLimit_ok hcredit
  rw [State.creditLimitForDelta_of_areas (hnonces.ok hnonce) (areas_subset_unbooked rfl) rfl]
    at hallowed
  refine ⟨sub, ⟨h₁ ▸ hreads, hamount, hallowed⟩, ?_⟩
  rw [book_of_writeSubscription hrun, h₄, h₃, book_of_writeSubscription hwrite,
    Book.setRecord_setRecord, h₁]
  rfl

theorem doDepositFundsOnBehalf_book {payer : Address} {amount : Int} {nonce : Option Nat}
    (hrun : (doDepositFundsOnBehalf id payer amount nonce).run env s = .ok u t) :
    (EditsRecord s.book id t.book ∨ RevivesRecord s.book id t.book) ∧
      s.book.Steady t.book ∧ s.book.SameRenewal t.book := by
  obtain ⟨sub, ⟨hreads, hamount, -⟩, hbook⟩ := doDepositFundsOnBehalf_deposits hrun
  have hsteady := sub.steady_of_deposit hamount
  unfold Subscription.recovered at hbook
  split at hbook
  · rename_i hbehind
    exact ⟨.inr ⟨sub, _, hreads, hbehind.1, rfl, hbook⟩,
      .of_edit hreads (by exact ⟨hsteady.bound, hsteady.funded⟩) (congrArg Book.record hbook),
      .of_edit hreads (by exact ⟨rfl, rfl⟩) (congrArg Book.record hbook)⟩
  · obtain ⟨hedits, hkept⟩ := EditsRecord.steadily hreads hbook rfl hsteady ⟨rfl, rfl⟩
    exact ⟨.inl hedits, hkept⟩

theorem bulkDepositOne_deposits {caller : Address} {amount : Int}
    (hrun : (bulkDepositOne caller id amount).run env s = .ok u t) :
    ∃ sub, Deposits s id sub amount ∧ t.book = s.book.setRecord id (sub.toppedUp amount) := by
  obtain ⟨_, -, hrun⟩ := run_check_ok .ask hrun
  obtain ⟨sub, hreads, -, hrun⟩ := run_read_ok hrun
  obtain ⟨_, -, hrun⟩ := run_check_ok (.failIf _ _) hrun
  obtain ⟨_, -, hrun⟩ := run_check_ok (Modifies.enforceMinTopup _) hrun
  obtain ⟨_, -, hrun⟩ := run_check_ok (Modifies.checkMerchantStatus _ _) hrun
  obtain ⟨_, -, hrun⟩ := run_check_ok (.failIf _ _) hrun
  obtain ⟨_, hcredit, hrun⟩ := run_check_ok (Modifies.enforceCreditLimitForDelta _ _ _) hrun
  obtain ⟨_, -, hrun⟩ := run_check_ok (.failIf _ _) hrun
  obtain ⟨prepaidBalance, hadd, hrun⟩ := run_check_ok (.lift _) hrun
  obtain ⟨_, s₁, -, h₁, hrun⟩ := run_quiet_ok (Modifies.delete rfl) hrun
  obtain ⟨_, s₂, hwrite, hrun⟩ := run_bind_ok.mp hrun
  obtain ⟨_, s₃, -, h₃, hrun⟩ := run_quiet_ok (Modifies.transfer rfl rfl) hrun
  obtain rfl := run_addTotalAccounted_ok.mp hrun
  obtain ⟨hamount, rfl, -⟩ := safeAddBalance_ok.mp (run_lift_ok.mp hadd).1
  refine ⟨sub, ⟨hreads, hamount, run_enforceCreditLimit_ok hcredit⟩, ?_⟩
  rw [h₃, book_of_writeSubscription hwrite, h₁]
  rfl

theorem bulkDepositOne_book {caller : Address} {amount : Int}
    (hrun : (bulkDepositOne caller id amount).run env s = .ok u t) :
    EditsRecord s.book id t.book ∧ s.book.Steady t.book ∧ s.book.SameRenewal t.book := by
  obtain ⟨sub, hdeposits, hbook⟩ := bulkDepositOne_deposits hrun
  exact EditsRecord.steadily hdeposits.reads hbook rfl (sub.steady_of_deposit hdeposits.nonneg)
    ⟨rfl, rfl⟩

/-- A bulk deposit entry that fails has written nothing. -/
theorem bulkDepositOne_err {caller : Address} {amount : Int} {e : Error}
    (hrun : (bulkDepositOne caller id amount).run env s = .err e t) : s = t := by
  let P : Outcome Error State Unit → Prop := fun o => o = .err e t → s = t
  have htrap : P .trap := fun h => nomatch h
  have herr (e' : Error) : P (.err e' s) := fun h => by
    cases h
    rfl
  refine (?_ : P ((bulkDepositOne caller id amount).run env s)) hrun
  refine Keeps.run_bind_cases (P := P) .ask htrap herr fun _ _ => ?_
  refine Keeps.run_bind_cases (P := P) (Modifies.getSubscription _) htrap herr fun _ _ => ?_
  refine Keeps.run_bind_cases (P := P) (.failIf _ _) htrap herr fun _ _ => ?_
  refine Keeps.run_bind_cases (P := P) (Modifies.enforceMinTopup _) htrap herr fun _ _ => ?_
  refine Keeps.run_bind_cases (P := P) (Modifies.checkMerchantStatus _ _) htrap herr fun _ _ => ?_
  refine Keeps.run_bind_cases (P := P) (.failIf _ _) htrap herr fun _ _ => ?_
  refine Keeps.run_bind_cases (P := P) (Modifies.enforceCreditLimitForDelta _ _ _) htrap herr
    fun _ _ => ?_
  refine Keeps.run_bind_cases (P := P) (.failIf _ _) htrap herr fun _ _ => ?_
  refine Keeps.run_bind_cases (P := P) (.lift _) htrap herr fun _ _ hlast => ?_
  simp [writeSubscription, addTotalAccounted] at hlast

/-! ## Buyouts -/

/-- The subscription after `amount` has been paid in place of a charge. -/
def Subscription.boughtOut (sub : Subscription) (amount : Int) (now : Nat) : Subscription :=
  { sub with
    prepaidBalance := sub.prepaidBalance + amount - sub.amount
    lastPaymentTimestamp := max now sub.lastPaymentTimestamp
    lifetimeCharged := sub.lifetimeCharged + sub.amount
    status := .active
    graceStartTimestamp := none }

/-- A buyout pays for the interval it books. -/
structure Affords (s : State) (id : Nat) (sub : Subscription) (amount : Int) : Prop where
  reads : s.book.Reads id sub
  grace : sub.status = .gracePeriod
  interval : sub.intervalSeconds ≠ 0
  costs : 0 ≤ sub.amount
  covered : sub.amount ≤ sub.prepaidBalance + amount

theorem doGraceBuyout_settles {subscriber : Address} {amount : Int} {key : Option BytesN32}
    {paid : Int × Int} (hrun : (doGraceBuyout id subscriber amount key).run env s = .ok paid t) :
    ∃ sub, Affords s id sub amount ∧
      t.book = (s.book.setRecord id (sub.boughtOut amount env.now)).setPeriod id
        ((env.now - sub.startTime) / sub.intervalSeconds) := by
  obtain ⟨_, hask, hrun⟩ := run_check_ok .ask hrun
  obtain ⟨rfl, -⟩ := run_ask_ok.mp hask
  obtain ⟨_, -, hrun⟩ := run_check_ok (Modifies.requireAuth _) hrun
  obtain ⟨sub, hreads, -, hrun⟩ := run_read_ok hrun
  obtain ⟨_, hstatus, hrun⟩ := run_check_ok (.failIf _ _) hrun
  obtain ⟨_, -, hrun⟩ := run_check_ok (.gets _) hrun
  obtain ⟨premium, -, hrun⟩ := run_check_ok (.lift _) hrun
  obtain ⟨required, -, hrun⟩ := run_check_ok (.lift _) hrun
  obtain ⟨_, -, hrun⟩ := run_check_ok (.failIf _ _) hrun
  obtain ⟨funded, hfunded, hrun⟩ := run_check_ok (.lift _) hrun
  obtain ⟨prepaidBalance, hprepaid, hrun⟩ := run_check_ok (.lift _) hrun
  obtain ⟨lifetimeCharged, hlifetime, hrun⟩ := run_check_ok (.lift _) hrun
  obtain ⟨_, s₁, hwrite, hrun⟩ := run_bind_ok.mp hrun
  obtain ⟨credit, -, hrun⟩ := run_check_ok (.lift _) hrun
  obtain ⟨_, s₂, -, h₂, hrun⟩ := run_quiet_ok
    ((Modifies.creditMerchantBalanceForToken _ _ _ _).weaken creditSlots_subset_unbooked) hrun
  obtain ⟨_, hinterval, hrun⟩ := run_check_ok (.require _) hrun
  obtain ⟨_, s₃, hperiod, hrun⟩ := run_bind_ok.mp hrun
  obtain rfl := run_store_ok.mp hperiod
  obtain ⟨_, s₄, -, h₄, hrun⟩ := run_quiet_ok
    ((Modifies.appendStatement _ _ _ _ _ _ _).weaken logSlots_subset_unbooked) hrun
  obtain ⟨_, s₅, -, h₅, hrun⟩ := run_quiet_ok
    ((Modifies.recordIdemKey _ _ _).weaken logSlots_subset_unbooked) hrun
  obtain ⟨-, rfl⟩ := run_pure_ok.mp hrun
  obtain ⟨rfl, -⟩ := safeAdd_ok.mp (run_lift_ok.mp hfunded).1
  obtain ⟨hcosts, hcovered, rfl, -⟩ := safeSubBalance_ok.mp (run_lift_ok.mp hprepaid).1
  obtain ⟨rfl, -⟩ := safeAdd_ok.mp (run_lift_ok.mp hlifetime).1
  have hgrace : sub.status = .gracePeriod := not_not.mp (run_failIf_ok.mp hstatus).1
  refine ⟨sub, ⟨hreads, hgrace, (run_require_ok.mp hinterval).1, hcosts, hcovered⟩, ?_⟩
  rw [h₅, h₄, State.book_write_period, h₂, book_of_writeSubscription hwrite]
  rfl

theorem doGraceBuyout_book {subscriber : Address} {amount : Int} {key : Option BytesN32}
    {paid : Int × Int} (hrun : (doGraceBuyout id subscriber amount key).run env s = .ok paid t) :
    BuysOut env s.book id t.book := by
  obtain ⟨sub, haffords, hbook⟩ := doGraceBuyout_settles hrun
  exact ⟨sub, sub.boughtOut amount env.now, haffords.reads, haffords.grace, haffords.interval, rfl,
    rfl, hbook⟩

/-! ## One-off charges -/

/-- The cancellations it makes are followed by an error. -/
theorem checkOneOff_same {sub : Subscription} {merchant : Address} {amount charged : Int}
    (hrun : (checkOneOff id sub merchant amount).run env s = .ok charged t) : s = t := by
  have hsame {c : Prop} [Decidable c] {x : Vault Unit} {v : State} {u : Unit}
      (hrun : (when c (do x; fail .lifetimeCapReached)).run env s = .ok u v) : s = v := by
    rcases run_when_ok.mp hrun with ⟨-, hfail⟩ | ⟨-, hsame⟩
    · simp at hfail
    · exact hsame
  obtain ⟨_, -, hrun⟩ := run_check_ok (.failIf _ _) hrun
  obtain ⟨_, s₁, hcap, hrun⟩ := run_bind_ok.mp hrun
  obtain rfl := hsame hcap
  obtain ⟨_, -, hrun⟩ := run_check_ok (.failIf _ _) hrun
  obtain ⟨_, -, hrun⟩ := run_check_ok (.failIf _ _) hrun
  obtain ⟨_, -, hrun⟩ := run_check_ok (.failIf _ _) hrun
  obtain ⟨_, -, hrun⟩ := run_check_ok (.lift _) hrun
  obtain ⟨_, s₂, hcap, hrun⟩ := run_bind_ok.mp hrun
  obtain rfl := hsame hcap
  exact (run_pure_ok.mp hrun).2

theorem settleOneOff_unbooked (sub : Subscription) (charged amount : Int)
    (key : Option BytesN32) : Modifies unbooked (settleOneOff id sub charged amount key) :=
  .bind .ask fun _ => .bind (.lift _) fun _ => .bind (.gets _) fun _ => .bind (.gets _) fun _ =>
    .bind (.lift _) fun _ =>
    .bind ((Modifies.creditChargePayees _ _ _ _).weaken creditSlots_subset_unbooked) fun _ =>
    .bind ((Modifies.routeToSubAccount _ _).weaken creditSlots_subset_unbooked) fun _ =>
    .bind ((Modifies.creditOneOffFee _ _ _).weaken creditSlots_subset_unbooked) fun _ =>
    .bind (.lift _) fun _ =>
    .bind ((Modifies.appendStatement _ _ _ _ _ _ _).weaken logSlots_subset_unbooked) fun _ =>
    (Modifies.recordIdemKey _ _ _).weaken logSlots_subset_unbooked

/-- The debited record is not written. -/
theorem doChargeOneOff_book {merchant : Address} {amount : Int} {key : Option BytesN32}
    (hrun : (doChargeOneOff id merchant amount key).run env s = .ok u t) : t.book = s.book := by
  obtain ⟨_, -, hrun⟩ := run_check_ok .ask hrun
  obtain ⟨_, -, hrun⟩ := run_check_ok (Modifies.requireAuth _) hrun
  obtain ⟨sub, -, -, hrun⟩ := run_read_ok hrun
  obtain ⟨_, -, hrun⟩ := run_check_ok (Modifies.requireNotBlocklisted _) hrun
  obtain ⟨_, -, hrun⟩ := run_check_ok (Modifies.requireNotBlocklisted _) hrun
  obtain ⟨_, -, hrun⟩ := run_check_ok (Modifies.checkSplitPayees id) hrun
  obtain ⟨-, hrun⟩ := run_unexpired_ok hrun
  obtain ⟨_, -, hrun⟩ := run_check_ok (.gets _) hrun
  rcases run_when_ok.mp hrun with ⟨-, hcharge⟩ | ⟨-, rfl⟩
  · obtain ⟨charged, s₁, hcheck, hsettle⟩ := run_bind_ok.mp hcharge
    obtain rfl := checkOneOff_same hcheck
    exact (settleOneOff_unbooked _ _ _ _).book hsettle
  · rfl

/-! ## Cancellation -/

theorem applyCancellation_book {sub : Subscription}
    (hrun : (applyCancellation id sub).run env s = .ok u t) :
    canTransition sub.status .cancelled ∧
      t.book = ((if sub.status = .active then s.book.countDown sub.subscriber
        else s.book).setRecord id
          { sub with status := .cancelled, prepaidBalance := 0 }).unindexed id sub := by
  obtain ⟨status, hstatus, hrun⟩ := run_check_ok (.lift _) hrun
  obtain ⟨hcancel, rfl⟩ := transitionTo_ok.mp (run_lift_ok.mp hstatus).1
  obtain ⟨_, s₁, hcount, hrun⟩ := run_bind_ok.mp hrun
  have h₁ : s₁.book = if sub.status = .active then s.book.countDown sub.subscriber
      else s.book := by
    rcases run_when_ok.mp hcount with ⟨hactive, hdown⟩ | ⟨hother, rfl⟩
    · rw [if_pos hactive, book_of_countDown hdown]
    · rw [if_neg hother]
  obtain ⟨_, s₂, hwrite, hrun⟩ := run_bind_ok.mp hrun
  have hrefund : Modifies unbooked (when (0 < sub.prepaidBalance) do
      let env ← ask
      subTotalAccounted sub.token sub.prepaidBalance
      transfer sub.token env.host.contract sub.subscriber sub.prepaidBalance) :=
    .when <| .bind .ask fun _ => .bind (.pure ()) fun _ => Modifies.transfer rfl rfl
  obtain ⟨_, s₃, -, h₃, hrun⟩ := run_quiet_ok hrefund hrun
  obtain ⟨_, s₄, hunindex, hrevoke⟩ := run_bind_ok.mp hrun
  refine ⟨hcancel, ?_⟩
  rw [((revokeCredential_areas id).unbooked rfl).book hrevoke,
    book_of_unindexSubscription hunindex, h₃, book_of_writeSubscription hwrite, h₁]

theorem doCancelSubscription_book {authorizer : Address}
    (hrun : (doCancelSubscription id authorizer).run env s = .ok u t) :
    CancelsRecord s.book id t.book := by
  obtain ⟨_, -, hrun⟩ := run_check_ok (Modifies.requireAuth _) hrun
  obtain ⟨sub, hreads, -, hrun⟩ := run_read_ok hrun
  obtain ⟨-, hrun⟩ := run_unexpired_ok hrun
  obtain ⟨_, -, hrun⟩ := run_check_ok (.failIf _ _) hrun
  obtain ⟨_, -, hrun⟩ := run_check_ok (.when (Modifies.requireNotBlocklisted _)) hrun
  obtain ⟨_, hstatus, hrun⟩ := run_check_ok (.failIf _ _) hrun
  obtain ⟨hcancel, hbook⟩ := applyCancellation_book hrun
  exact ⟨sub, hreads, (run_failIf_ok.mp hstatus).1, hcancel, hbook⟩

theorem bulkCancelOne_book (hrun : (bulkCancelOne id).run env s = .ok u t) :
    t.book = s.book ∨ CancelsRecord s.book id t.book := by
  obtain ⟨_, -, hrun⟩ := run_check_ok .ask hrun
  obtain ⟨sub, hreads, -, hrun⟩ := run_read_ok hrun
  obtain ⟨_, -, hrun⟩ := run_check_ok (.failIf _ _) hrun
  rcases run_when_ok.mp hrun with ⟨hstatus, hrun⟩ | ⟨-, rfl⟩
  · obtain ⟨hcancel, hbook⟩ := applyCancellation_book hrun
    exact .inr ⟨sub, hreads, hstatus, hcancel, hbook⟩
  · exact .inl rfl

theorem doScheduleCancel_book {authorizer : Address} {cancelAt : Nat}
    (hrun : (doScheduleCancel id authorizer cancelAt).run env s = .ok u t) :
    EditsRecord s.book id t.book ∧ s.book.Draws t.book ∧ s.book.SameRenewal t.book := by
  obtain ⟨_, -, hrun⟩ := run_check_ok .ask hrun
  obtain ⟨_, -, hrun⟩ := run_check_ok (Modifies.requireAuth _) hrun
  obtain ⟨_, -, hrun⟩ := run_check_ok (.failIf _ _) hrun
  obtain ⟨sub, hreads, -, hrun⟩ := run_read_ok hrun
  obtain ⟨_, -, hrun⟩ := run_check_ok (.failIf _ _) hrun
  obtain ⟨_, -, hrun⟩ := run_check_ok (.failIf _ _) hrun
  obtain ⟨-, hrun⟩ := run_unexpired_ok hrun
  have hbook := book_of_writeSubscription hrun
  exact EditsRecord.leaving hreads hbook rfl rfl rfl ⟨rfl, rfl⟩

theorem doUnscheduleCancel_book {authorizer : Address}
    (hrun : (doUnscheduleCancel id authorizer).run env s = .ok u t) :
    EditsRecord s.book id t.book ∧ s.book.Draws t.book ∧ s.book.SameRenewal t.book := by
  obtain ⟨_, -, hrun⟩ := run_check_ok (Modifies.requireAuth _) hrun
  obtain ⟨sub, hreads, -, hrun⟩ := run_read_ok hrun
  obtain ⟨_, -, hrun⟩ := run_check_ok (.failIf _ _) hrun
  obtain ⟨_, -, hrun⟩ := run_check_ok (.failIf _ _) hrun
  have hbook := book_of_writeSubscription hrun
  exact EditsRecord.leaving hreads hbook rfl rfl rfl ⟨rfl, rfl⟩

/-! ## Settings -/

theorem doSetSubscriptionExpirationLedger_book {authorizer : Address}
    {expiresAtLedger : Option Nat}
    (hrun : (doSetSubscriptionExpirationLedger id authorizer expiresAtLedger).run env s =
      .ok u t) :
    ∃ sub, s.book.Reads id sub ∧ t.book = s.book.setRecord id { sub with expiresAtLedger } := by
  obtain ⟨_, -, hrun⟩ := run_check_ok .ask hrun
  obtain ⟨_, -, hrun⟩ := run_check_ok (Modifies.requireAuth _) hrun
  obtain ⟨sub, hreads, -, hrun⟩ := run_read_ok hrun
  obtain ⟨_, -, hrun⟩ := run_check_ok (.failIf _ _) hrun
  obtain ⟨_, -, hrun⟩ := run_check_ok (.failIf _ _) hrun
  obtain ⟨_, -, hrun⟩ := run_check_ok (.failIf _ _) hrun
  exact ⟨sub, hreads, book_of_writeSubscription hrun⟩

/-- Auto-renewal is enabled again only while its window is open. -/
theorem doSetAutoRenew_sets {authorizer : Address} {enabled : Bool}
    (hrun : (doSetAutoRenew id authorizer enabled).run env s = .ok u t) :
    ∃ sub, s.book.Reads id sub ∧
      ¬(enabled = true ∧ sub.autoRenew = false ∧ sub.isInRenewalWindow env.now = false) ∧
      t.book = s.book.setRecord id { sub with
        autoRenew := enabled
        autoRenewDisabledAt := sub.disabledAt enabled env.now } := by
  obtain ⟨ledger, hledger, hrun⟩ := run_check_ok .ask hrun
  obtain ⟨rfl, -⟩ := run_ask_ok.mp hledger
  obtain ⟨_, -, hrun⟩ := run_check_ok (Modifies.requireAuth _) hrun
  obtain ⟨sub, hreads, -, hrun⟩ := run_read_ok hrun
  obtain ⟨_, -, hrun⟩ := run_check_ok (.failIf _ _) hrun
  obtain ⟨_, -, hrun⟩ := run_check_ok (.failIf _ _) hrun
  obtain ⟨_, -, hrun⟩ := run_check_ok (.failIf _ _) hrun
  obtain ⟨_, hopen, hrun⟩ := run_check_ok (.failIf _ _) hrun
  exact ⟨sub, hreads, (run_failIf_ok.mp hopen).1, book_of_writeSubscription hrun⟩

theorem doSetAutoRenew_book {authorizer : Address} {enabled : Bool}
    (hrun : (doSetAutoRenew id authorizer enabled).run env s = .ok u t) :
    EditsRecord s.book id t.book ∧ s.book.Draws t.book := by
  obtain ⟨sub, hreads, -, hbook⟩ := doSetAutoRenew_sets hrun
  refine ⟨⟨sub, _, hreads, ?_, hbook⟩, .of_edit hreads ?_ (congrArg Book.record hbook)⟩
  · rfl
  · exact ⟨⟨rfl, fun hfunds => hfunds⟩, fun _ => le_rfl⟩

theorem doUpdateSubscriptionCap_book {admin : Address} {newCap : Option Int}
    (hrun : (doUpdateSubscriptionCap admin id newCap).run env s = .ok u t) :
    EditsRecord s.book id t.book ∧ s.book.Draws t.book ∧ s.book.SameRenewal t.book := by
  obtain ⟨_, -, hrun⟩ := run_check_ok (Modifies.requireAdminAuth _) hrun
  obtain ⟨_, -, hrun⟩ := run_check_ok (.failIf _ _) hrun
  obtain ⟨sub, hreads, -, hrun⟩ := run_read_ok hrun
  obtain ⟨_, -, hrun⟩ := run_check_ok (.failIf _ _) hrun
  have hbook := book_of_writeSubscription hrun
  exact EditsRecord.leaving hreads hbook rfl rfl rfl ⟨rfl, rfl⟩

/-- The subscription on the terms of the plan. -/
def Subscription.onTerms (sub : Subscription) (plan : PlanTemplate) : Subscription :=
  { sub with
    lifetimeCap := plan.lifetimeCap
    amount := plan.amount
    intervalSeconds := plan.intervalSeconds
    usageEnabled := plan.usageEnabled }

/-- The subscription is the caller's, and the new terms cost something. -/
structure Migrates (s : State) (id : Nat) (subscriber : Address) (newPlanId : Nat)
    (sub : Subscription) (plan : PlanTemplate) : Prop where
  reads : s.book.Reads id sub
  owned : sub.subscriber = subscriber
  offered : s.planTemplate newPlanId = some plan
  costs : 0 < plan.amount

theorem doMigrateSubscriptionToPlan_migrates {subscriber : Address} {newPlanId : Nat}
    (hrun : (doMigrateSubscriptionToPlan subscriber id newPlanId).run env s = .ok u t) :
    ∃ sub plan m, Migrates s id subscriber newPlanId sub plan ∧
      plan.usageEnabled = sub.usageEnabled ∧
      (writeSubscription id (sub.onTerms plan)).run env s = .ok () m ∧
      t = m.write (.instanced (.subPlan id)) newPlanId := by
  obtain ⟨_, -, hrun⟩ := run_check_ok (Modifies.requireAuth _) hrun
  obtain ⟨_, -, hrun⟩ := run_check_ok (Modifies.requireNotBlocklisted _) hrun
  obtain ⟨sub, hreads, -, hrun⟩ := run_read_ok hrun
  obtain ⟨_, howner, hrun⟩ := run_check_ok (.failIf _ _) hrun
  obtain ⟨_, -, hrun⟩ := run_check_ok Modifies.load hrun
  obtain ⟨_, -, hrun⟩ := run_check_ok (.okOr _ _) hrun
  obtain ⟨_, -, hrun⟩ := run_check_ok (.gets _) hrun
  obtain ⟨_, -, hrun⟩ := run_check_ok (.okOr _ _) hrun
  obtain ⟨found, hfound, hrun⟩ := run_check_ok (.gets _) hrun
  obtain ⟨plan, hplan, hrun⟩ := run_check_ok (.okOr _ _) hrun
  obtain ⟨_, hpositive, hrun⟩ := run_check_ok (.failIf _ _) hrun
  obtain ⟨_, hfits, hrun⟩ := run_check_ok (Modifies.checkPlanMigration _ _ _) hrun
  obtain ⟨_, m, hwrite, hrun⟩ := run_bind_ok.mp hrun
  have husage : plan.usageEnabled = sub.usageEnabled := by
    simp only [checkPlanMigration, run_bind_ok, run_failIf_ok, not_not] at hfits
    obtain ⟨_, _, -, _, _, -, _, _, -, _, _, ⟨hsame, -⟩, -⟩ := hfits
    exact hsame
  exact ⟨sub, plan, m, ⟨hreads, not_not.mp (run_failIf_ok.mp howner).1,
    (run_gets_ok.mp hfound).1.trans (run_okOr_ok.mp hplan).1,
    Int.not_le.mp fun hle => (run_failIf_ok.mp hpositive).1 (.inl hle)⟩, husage, hwrite,
    (run_store_ok.mp hrun).symm⟩

theorem doMigrateSubscriptionToPlan_book {subscriber : Address} {newPlanId : Nat}
    (hrun : (doMigrateSubscriptionToPlan subscriber id newPlanId).run env s = .ok u t) :
    ∃ plan, s.planTemplate newPlanId = some plan ∧ ReplansRecord s.book id t.book plan := by
  obtain ⟨sub, plan, m, hmigrates, -, hwrite, rfl⟩ := doMigrateSubscriptionToPlan_migrates hrun
  have hlink : State.book (m.write (.instanced (.subPlan id)) newPlanId) = m.book :=
    State.book_of_unbooked (m.agreeOff_write newPlanId rfl)
  exact ⟨plan, hmigrates.offered, sub, hmigrates.reads,
    hlink.trans (book_of_writeSubscription hwrite)⟩

/-! ## Pause, resume and archive -/

theorem applyPause_book {sub : Subscription} (hrun : (applyPause id sub).run env s = .ok u t) :
    canTransition sub.status .paused ∧
      t.book = (s.book.setRecord id { sub with status := .paused }).countDown
        sub.subscriber := by
  obtain ⟨status, hstatus, hrun⟩ := run_check_ok (.lift _) hrun
  obtain ⟨hpause, rfl⟩ := transitionTo_ok.mp (run_lift_ok.mp hstatus).1
  obtain ⟨_, s₁, hwrite, hrun⟩ := run_bind_ok.mp hrun
  exact ⟨hpause, by rw [book_of_countDown hrun, book_of_writeSubscription hwrite]⟩

theorem doPauseSubscription_book {authorizer : Address}
    (hrun : (doPauseSubscription id authorizer).run env s = .ok u t) :
    t.book = s.book ∨ PausesRecord s.book id t.book := by
  obtain ⟨_, -, hrun⟩ := run_check_ok (Modifies.requireAuth _) hrun
  obtain ⟨sub, hreads, -, hrun⟩ := run_read_ok hrun
  obtain ⟨-, hrun⟩ := run_unexpired_ok hrun
  obtain ⟨_, -, hrun⟩ := run_check_ok (.failIf _ _) hrun
  rcases run_when_ok.mp hrun with ⟨hstatus, hrun⟩ | ⟨-, rfl⟩
  · obtain ⟨hpause, hbook⟩ := applyPause_book hrun
    exact .inr ⟨sub, hreads, hstatus, hpause, hbook⟩
  · exact .inl rfl

theorem bulkPauseOne_book (hrun : (bulkPauseOne id).run env s = .ok u t) :
    t.book = s.book ∨ PausesRecord s.book id t.book := by
  obtain ⟨_, -, hrun⟩ := run_check_ok .ask hrun
  obtain ⟨sub, hreads, -, hrun⟩ := run_read_ok hrun
  obtain ⟨_, -, hrun⟩ := run_check_ok (.failIf _ _) hrun
  rcases run_when_ok.mp hrun with ⟨hstatus, hrun⟩ | ⟨-, rfl⟩
  · obtain ⟨hpause, hbook⟩ := applyPause_book hrun
    exact .inr ⟨sub, hreads, hstatus, hpause, hbook⟩
  · exact .inl rfl

theorem applyResume_book {sub : Subscription} (hrun : (applyResume id sub).run env s = .ok u t) :
    canTransition sub.status .active ∧
      t.book = if sub.status = .paused then
          (s.book.setRecord id { sub with status := .active }).countUp sub.subscriber
        else s.book.setRecord id { sub with status := .active } := by
  obtain ⟨status, hstatus, hrun⟩ := run_check_ok (.lift _) hrun
  obtain ⟨hresume, rfl⟩ := transitionTo_ok.mp (run_lift_ok.mp hstatus).1
  obtain ⟨_, s₁, hwrite, hrun⟩ := run_bind_ok.mp hrun
  refine ⟨hresume, ?_⟩
  rcases run_when_ok.mp hrun with ⟨hpaused, hup⟩ | ⟨hother, rfl⟩
  · rw [if_pos hpaused, book_of_countUp hup, book_of_writeSubscription hwrite]
  · rw [if_neg hother, book_of_writeSubscription hwrite]

theorem doResumeSubscription_book {authorizer : Address}
    (hrun : (doResumeSubscription id authorizer).run env s = .ok u t) :
    (t.book = s.book ∨ ResumesRecord s.book id t.book ∨ RevivesRecord s.book id t.book) ∧
      s.book.Draws t.book := by
  obtain ⟨_, -, hrun⟩ := run_check_ok (Modifies.requireAuth _) hrun
  obtain ⟨sub, hreads, -, hrun⟩ := run_read_ok hrun
  obtain ⟨-, hrun⟩ := run_unexpired_ok hrun
  obtain ⟨_, -, hrun⟩ := run_check_ok (.failIf _ _) hrun
  obtain ⟨_, -, hrun⟩ := run_check_ok (.when (Modifies.requireNotBlocklisted _)) hrun
  rcases run_when_ok.mp hrun with ⟨hstatus, hrun⟩ | ⟨-, rfl⟩
  · obtain ⟨_, -, hrun⟩ := run_check_ok (.failIf _ _) hrun
    obtain ⟨hresume, hbook⟩ := applyResume_book hrun
    have hrecord : t.book.record = (s.book.setRecord id { sub with status := .active }).record := by
      rw [hbook]
      split <;> rfl
    have hdraws : s.book.Draws t.book :=
      .of_edit hreads (by exact ⟨⟨rfl, fun hfunds => hfunds⟩, fun _ => le_rfl⟩) hrecord
    split at hbook
    · rename_i hpaused
      exact ⟨.inr (.inl ⟨sub, hreads, hpaused, hbook⟩), hdraws⟩
    · rename_i hother
      refine ⟨.inr (.inr ⟨sub, { sub with status := .active }, hreads, ?_, rfl, hbook⟩), hdraws⟩
      cases hsub : sub.status <;> simp_all [canTransition]
  · exact ⟨.inl rfl, .of_eq rfl⟩

/-- Reading the subscription for the event changes nothing. -/
theorem resumeSubscriptionReported_book {authorizer : Address}
    (hrun : (resumeSubscriptionReported id authorizer).run env s = .ok u t) :
    (t.book = s.book ∨ ResumesRecord s.book id t.book ∨ RevivesRecord s.book id t.book) ∧
      s.book.Draws t.book := by
  obtain ⟨_, -, hrun⟩ := run_check_ok (Modifies.getSubscription _) hrun
  obtain ⟨_, s₁, hresumed, hread⟩ := run_bind_ok.mp hrun
  obtain ⟨_, -, hlast⟩ := run_check_ok (Modifies.getSubscription _) hread
  obtain ⟨-, rfl⟩ := run_pure_ok.mp hlast
  exact doResumeSubscription_book hresumed

theorem doCleanupSubscription_book {authorizer : Address}
    (hrun : (doCleanupSubscription id authorizer).run env s = .ok u t) :
    t.book = s.book ∨ ArchivesRecord env s.book id t.book := by
  obtain ⟨_, hask, hrun⟩ := run_check_ok .ask hrun
  obtain ⟨rfl, -⟩ := run_ask_ok.mp hask
  obtain ⟨_, -, hrun⟩ := run_check_ok (Modifies.requireAuth _) hrun
  obtain ⟨sub, hreads, -, hrun⟩ := run_read_ok hrun
  obtain ⟨_, hover, hrun⟩ := run_check_ok (.failIf _ _) hrun
  have hover := (run_failIf_ok.mp hover).1
  rcases run_when_ok.mp hrun with ⟨hstatus, hrun⟩ | ⟨-, rfl⟩
  · obtain ⟨closed, hclosed, hrun⟩ := run_check_ok (.lift _) hrun
    obtain ⟨status, harchive, hrun⟩ := run_check_ok (.lift _) hrun
    obtain ⟨hcan, rfl⟩ := transitionTo_ok.mp (run_lift_ok.mp harchive).1
    refine .inr ⟨sub, hreads, hstatus, ?_, book_of_writeSubscription hrun⟩
    by_cases hcancelled : sub.status = .cancelled
    · exact .inl hcancelled
    · have hexpired : sub.isExpired env.now env.sequence = true := by
        simpa [hcancelled] using hover
      have hclosed := (run_lift_ok.mp hclosed).1
      refine .inr ⟨hexpired, ?_⟩
      by_cases hdone : sub.status = .expired
      · exact .inl hdone
      · rw [Subscription.closedStatus, if_pos ⟨hcancelled, hdone, hexpired⟩] at hclosed
        exact .inr (transitionTo_ok.mp hclosed).1
  · exact .inl rfl

/-! ## Transfer -/

theorem doInitiateTransfer_book {«from» «to» : Address} {expiresAt : Nat}
    (hrun : (doInitiateTransfer id «from» «to» expiresAt).run env s = .ok u t) :
    t.book = s.book := by
  obtain ⟨_, -, hrun⟩ := run_check_ok .ask hrun
  obtain ⟨_, -, hrun⟩ := run_check_ok (Modifies.requireAuth _) hrun
  obtain ⟨sub, -, -, hrun⟩ := run_read_ok hrun
  obtain ⟨_, -, hrun⟩ := run_check_ok (.failIf _ _) hrun
  obtain ⟨_, -, hrun⟩ := run_check_ok (.failIf _ _) hrun
  obtain ⟨-, hrun⟩ := run_unexpired_ok hrun
  obtain ⟨_, -, hrun⟩ := run_check_ok (.failIf _ _) hrun
  obtain ⟨_, -, hrun⟩ := run_check_ok (.failIf _ _) hrun
  have hlast : Modifies unbooked (store (.instanced (.transferIntent id))
      { subscriptionId := id, «from», «to», expiresAt }) := Modifies.store rfl
  exact hlast.book hrun

/-- What the receiver of a subscription becomes liable for. -/
def Subscription.liability (sub : Subscription) : Int :=
  sub.prepaidBalance + if sub.status = .active then sub.amount else 0

/-- The book after the subscription has gone to `to`. -/
def Book.handedOver (b : Book) (id : Nat) (sub : Subscription) («to» : Address) : Book :=
  let moved := b.setSubscriberSubs sub.subscriber ((b.subscriberSubs sub.subscriber).erase id)
  let listed := moved.setSubscriberSubs «to» (moved.subscriberSubs «to» ++ [id])
  (if sub.status.countsTowardActiveCap then
    (listed.countDown sub.subscriber).countUp «to» else listed).setRecord id
    { sub with subscriber := «to» }

theorem doAcceptTransfer_accepts {«to» : Address}
    (hrun : (doAcceptTransfer id «to»).run env s = .ok u t) :
    ∃ sub, s.book.Reads id sub ∧
      s.creditLimitForDelta «to» sub.token sub.liability = .ok () ∧
      t.book = s.book.handedOver id sub «to» := by
  obtain ⟨_, -, hrun⟩ := run_check_ok .ask hrun
  obtain ⟨_, -, hrun⟩ := run_check_ok (Modifies.requireAuth _) hrun
  obtain ⟨_, -, hrun⟩ := run_check_ok Modifies.load hrun
  obtain ⟨intent, -, hrun⟩ := run_check_ok (.okOr _ _) hrun
  obtain ⟨_, -, hrun⟩ := run_check_ok (.failIf _ _) hrun
  obtain ⟨_, -, hrun⟩ := run_check_ok (.failIf _ _) hrun
  obtain ⟨sub, hreads, -, hrun⟩ := run_read_ok hrun
  have hintent : Modifies (areas [.transfers])
      (delete (.instanced (.transferIntent id))) := Modifies.delete rfl
  obtain ⟨_, s₁, hdeleted, h₁, hrun⟩ := run_quiet_ok (hintent.unbooked rfl) hrun
  obtain ⟨liability, hliability, hrun⟩ := run_check_ok (.lift _) hrun
  obtain ⟨_, hcredit, hrun⟩ := run_check_ok (Modifies.enforceCreditLimitForDelta _ _ _) hrun
  obtain ⟨_, -, hrun⟩ := run_check_ok (.when (Modifies.requirePlace _)) hrun
  obtain ⟨_, s₂, hdrop, hrun⟩ := run_bind_ok.mp hrun
  obtain ⟨_, s₃, hpush, hrun⟩ := run_bind_ok.mp hrun
  obtain ⟨_, s₄, hplace, hrun⟩ := run_bind_ok.mp hrun
  have h₃ := book_of_pushSubscriberSubs hpush
  rw [book_of_dropSubscriberSubs hdrop, h₁] at h₃
  have h₄ : s₄.book = if sub.status.countsTowardActiveCap then
      (s₃.book.countDown sub.subscriber).countUp «to» else s₃.book := by
    rcases run_when_ok.mp hplace with ⟨hcounts, hmove⟩ | ⟨hother, rfl⟩
    · obtain ⟨_, s₅, hdown, hup⟩ := run_bind_ok.mp hmove
      rw [if_pos hcounts, book_of_countUp hup, book_of_countDown hdown]
    · rw [if_neg hother]
  have hliable : sub.liability = liability := (safeAdd_ok.mp (run_lift_ok.mp hliability).1).1
  have hallowed := run_enforceCreditLimit_ok hcredit
  rw [State.creditLimitForDelta_of_areas (hintent.ok hdeleted) (areas_subset_unbooked rfl) rfl,
    ← hliable] at hallowed
  refine ⟨sub, hreads, hallowed, ?_⟩
  rw [book_of_writeSubscription hrun, h₄, h₃]
  rfl

theorem doAcceptTransfer_book {«to» : Address}
    (hrun : (doAcceptTransfer id «to»).run env s = .ok u t) :
    TransfersRecord s.book id t.book «to» := by
  obtain ⟨sub, hreads, -, hbook⟩ := doAcceptTransfer_accepts hrun
  exact ⟨sub, hreads, hbook⟩

/-! ## Refunds -/

theorem refundPrepaid_book {sub : Subscription}
    (hrun : (refundPrepaid id sub).run env s = .ok u t) :
    t.book = s.book.setRecord id { sub with prepaidBalance := 0 } := by
  obtain ⟨_, -, hrun⟩ := run_check_ok .ask hrun
  obtain ⟨_, s₁, hwrite, hrun⟩ := run_bind_ok.mp hrun
  obtain ⟨_, s₂, -, h₂, hrun⟩ := run_quiet_ok (Modifies.transfer rfl rfl) hrun
  obtain rfl := run_subTotalAccounted_ok.mp hrun
  rw [h₂, book_of_writeSubscription hwrite]

theorem doWithdrawSubscriberFunds_book {subscriber : Address}
    (hrun : (doWithdrawSubscriberFunds id subscriber).run env s = .ok u t) :
    (t.book = s.book ∨ EditsRecord s.book id t.book) ∧ s.book.Draws t.book ∧
      s.book.SameRenewal t.book := by
  obtain ⟨_, -, hrun⟩ := run_check_ok .ask hrun
  obtain ⟨_, -, hrun⟩ := run_check_ok (Modifies.requireAuth _) hrun
  obtain ⟨sub, hreads, -, hrun⟩ := run_read_ok hrun
  obtain ⟨_, -, hrun⟩ := run_check_ok (.failIf _ _) hrun
  obtain ⟨_, -, hrun⟩ := run_check_ok (.failIf _ _) hrun
  split at hrun
  · have hbook := refundPrepaid_book hrun
    obtain ⟨hedits, hkept⟩ := EditsRecord.drawing hreads hbook rfl
      ⟨⟨rfl, fun _ => le_rfl⟩, fun hfunds => hfunds⟩ ⟨rfl, rfl⟩
    exact ⟨.inr hedits, hkept⟩
  · obtain ⟨_, -, hrun⟩ := run_check_ok (.gets _) hrun
    obtain ⟨escrow, -, hrun⟩ := run_check_ok (.okOr _ _) hrun
    obtain ⟨_, -, hrun⟩ := run_check_ok (.failIf _ _) hrun
    obtain ⟨_, -, hrun⟩ := run_check_ok (Modifies.requireReleasedEscrow _ _) hrun
    obtain ⟨_, -, hrun⟩ := run_check_ok (.failIf _ _) hrun
    have hbook := ((payEscrow_areas id escrow).unbooked rfl).book hrun
    exact ⟨.inl hbook, .of_eq (congrArg Book.record hbook), .of_eq (congrArg Book.record hbook)⟩

theorem doFinalizeEmergencyWithdraw_book {subscriber : Address}
    (hrun : (doFinalizeEmergencyWithdraw id subscriber).run env s = .ok u t) :
    EditsRecord s.book id t.book ∧ s.book.Draws t.book ∧ s.book.SameRenewal t.book := by
  obtain ⟨_, -, hrun⟩ := run_check_ok .ask hrun
  obtain ⟨_, -, hrun⟩ := run_check_ok (Modifies.requireAuth _) hrun
  obtain ⟨sub, hreads, -, hrun⟩ := run_read_ok hrun
  obtain ⟨_, -, hrun⟩ := run_check_ok (.failIf _ _) hrun
  obtain ⟨_, -, hrun⟩ := run_check_ok Modifies.load hrun
  obtain ⟨intent, -, hrun⟩ := run_check_ok (.okOr _ _) hrun
  obtain ⟨_, -, hrun⟩ := run_check_ok (.failIf _ _) hrun
  obtain ⟨_, -, hrun⟩ := run_check_ok (.failIf _ _) hrun
  obtain ⟨_, -, hrun⟩ := run_check_ok (.failIf _ _) hrun
  obtain ⟨_, -, hrun⟩ := run_check_ok (.failIf _ _) hrun
  obtain ⟨_, s₁, -, h₁, hrun⟩ := run_quiet_ok (Modifies.delete rfl) hrun
  have hbook : t.book = s.book.setRecord id { sub with prepaidBalance := 0 } := by
    rw [refundPrepaid_book hrun, h₁]
  exact EditsRecord.drawing hreads hbook rfl
    ⟨⟨rfl, fun _ => le_rfl⟩, fun hfunds => hfunds⟩ ⟨rfl, rfl⟩

theorem doPartialRefund_book {admin subscriber : Address} {amount : Int}
    (hrun : (doPartialRefund admin id subscriber amount).run env s = .ok u t) :
    EditsRecord s.book id t.book ∧ s.book.Draws t.book ∧ s.book.SameRenewal t.book := by
  obtain ⟨_, -, hrun⟩ := run_check_ok .ask hrun
  obtain ⟨_, -, hrun⟩ := run_check_ok (Modifies.requireAdminAuth _) hrun
  obtain ⟨_, hpositive, hrun⟩ := run_check_ok (.failIf _ _) hrun
  obtain ⟨sub, hreads, -, hrun⟩ := run_read_ok hrun
  obtain ⟨_, -, hrun⟩ := run_check_ok (.failIf _ _) hrun
  obtain ⟨_, hcovered, hrun⟩ := run_check_ok (.failIf _ _) hrun
  obtain ⟨newBalance, hsub, hrun⟩ := run_check_ok (.lift _) hrun
  obtain ⟨_, s₁, hwrite, hrun⟩ := run_bind_ok.mp hrun
  obtain ⟨_, s₂, -, h₂, hrun⟩ := run_quiet_ok (Modifies.transfer rfl rfl) hrun
  obtain rfl := run_subTotalAccounted_ok.mp hrun
  have hbook : s₂.book = s.book.setRecord id { sub with prepaidBalance := newBalance } := by
    rw [h₂, book_of_writeSubscription hwrite]
  have hbalance := (safeSub_ok.mp (run_lift_ok.mp hsub).1).1
  have hpositive := (run_failIf_ok.mp hpositive).1
  have hcovered := (run_failIf_ok.mp hcovered).1
  have hleft : 0 ≤ newBalance ∧ newBalance ≤ sub.prepaidBalance := by omega
  exact EditsRecord.drawing hreads hbook rfl ⟨⟨rfl, fun _ => hleft.1⟩, fun _ => hleft.2⟩ ⟨rfl, rfl⟩

/-! ## Creation -/

theorem book_of_nextId {next : Nat} (hrun : (writeConfig .nextId next).run env s = .ok u t) :
    t.book = { s.book with nextId := t.book.nextId } ∧
      (3 ≤ s.book.schemaVersion → t.book.nextId = next) := by
  obtain rfl := run_update_ok.mp hrun
  have hagree : FiniteStore.AgreeOff (outsideExcept .numbering) s (s.writeConfig .nextId next) :=
    State.agreeOff_writeConfig s .nextId next (.inr rfl) (.inr rfl)
  have hsame := State.book_sameBut hagree
  have hversion : (s.writeConfig .nextId next).schemaVersion = s.schemaVersion :=
    State.schemaVersion_of_agreeOff (S := {.persistent .nextId, .instanced .nextId})
      (State.agreeOff_writeConfig s .nextId next (by simp) (by simp)) (by simp) (by simp)
  refine ⟨?_, fun hle => ?_⟩
  · refine hsame.trans ?_
    show ({ s.book with
      nextId := (s.writeConfig .nextId next).book.nextId
      schemaVersion := (s.writeConfig .nextId next).schemaVersion } : Book) = _
    rw [hversion]
    rfl
  · exact congrArg (Option.getD · 0) (s.config_writeConfig_of_le .nextId next hle)

/-- The record under the next number has no balance yet. -/
def Book.CreatesEmpty (b b' : Book) : Prop :=
  ∃ sub, b'.record = (b.setRecord b.nextId sub).record ∧ sub.prepaidBalance = 0

def outsideNumbering : Set Slot := {k | k.area ≠ .numbering}

theorem Slot.bookPart_of_numbering {k : Slot} (harea : k.area = .numbering) :
    k.bookPart = some .numbering := by
  cases k with
  | persistent key => cases key <;> first | rfl | cases harea
  | instanced key => cases key <;> first | rfl | cases harea
  | symbol key => cases key <;> cases harea
  | lock name => cases harea
  | tokenBalance token holder => cases harea
  | subAccountFunds merchant label token => cases harea

theorem unbooked_subset_outsideNumbering : unbooked ⊆ outsideNumbering := by
  intro k hk harea
  have hnone : k.bookPart = none := hk
  rw [Slot.bookPart_of_numbering harea] at hnone
  cases hnone

/-- The next id is handed out; of the numbering only the counter changes. -/
structure TakesNumber (s t : State) (created : Nat) : Prop where
  taken : created = s.nextSubscriptionId
  counter : FiniteStore.AgreeOff outsideNumbering (s.writeConfig .nextId (created + 1)) t

/-- What has been written before the id is taken does not matter. -/
theorem TakesNumber.of_quiet {created : Nat} {m : State} (h : FiniteStore.AgreeOff unbooked s m)
    (hrest : TakesNumber m t created) : TakesNumber s t created := by
  have hbook : m.book = s.book := State.book_of_unbooked h
  have hversion : m.schemaVersion = s.schemaVersion := congrArg Book.schemaVersion hbook
  have hsame := h.mono unbooked_subset_outsideNumbering
  have hwritten : FiniteStore.AgreeOff outsideNumbering (s.writeConfig .nextId (created + 1))
      (m.writeConfig .nextId (created + 1)) := by
    unfold State.writeConfig
    rw [hversion]
    split
    · exact (hsame.replace _ _).replace _ _
    · exact hsame.replace _ _
  exact ⟨hrest.taken.trans (congrArg Book.nextId hbook), hwritten.trans hrest.counter⟩

/-- Nor does what is written afterwards. -/
theorem TakesNumber.then_quiet {created : Nat} {m : State} (h : TakesNumber s m created)
    (hquiet : FiniteStore.AgreeOff unbooked m t) : TakesNumber s t created :=
  ⟨h.taken, h.counter.trans (hquiet.mono unbooked_subset_outsideNumbering)⟩

theorem takesNumber_of_writes {s₁ s₂ s₃ s₄ : State} {sub : Subscription} {next : Nat}
    {u₁ u₂ u₃ u₄ : Unit} (hnext : next = s.book.nextId + 1)
    (hid : (writeConfig .nextId next).run env s = .ok u₁ s₁)
    (hwrite : (writeSubscription s.book.nextId sub).run env s₁ = .ok u₂ s₂)
    (hcount : (incrementSubscriberActiveCount sub.subscriber).run env s₂ = .ok u₃ s₃)
    (hquiet : FiniteStore.AgreeOff unbooked s₃ s₄)
    (hindex : (indexSubscription s.book.nextId sub).run env s₄ = .ok u₄ t) :
    TakesNumber s t s.book.nextId := by
  have hareas {α : Type} {x : Vault α} {l : List Area} {a : α} {m m' : State}
      (hx : Modifies (areas l) x) (hl : l.contains .numbering = false)
      (hrun : x.run env m = .ok a m') : FiniteStore.AgreeOff outsideNumbering m m' := by
    refine (hx.ok hrun).mono fun k hk harea => ?_
    have hin : l.contains k.area = true := hk
    rw [harea, hl] at hin
    cases hin
  refine ⟨rfl, ?_⟩
  obtain rfl := run_update_ok.mp hid
  rw [← hnext]
  have hbefore := (hareas (writeSubscription_areas _ _) rfl hwrite).trans
    (hareas (incrementSubscriberActiveCount_areas _) rfl hcount)
  exact (hbefore.trans (hquiet.mono unbooked_subset_outsideNumbering)).trans
    (hareas (indexSubscription_areas _ _) rfl hindex)

theorem createsRecord_of_writes {s₁ s₂ s₃ s₄ : State} {sub : Subscription} {next : Nat}
    {u₁ u₂ u₃ u₄ : Unit} (hactive : sub.status = .active) (hstart : sub.startTime = env.now)
    (hpaid : sub.lastPaymentTimestamp = env.now ∨ ∃ trial,
      sub.lastPaymentTimestamp = saturatingAddU64 env.now trial)
    (hcharged : sub.lifetimeCharged = 0) (hempty : sub.prepaidBalance = 0)
    (hlimit : s.book.nextId ≠ u32Max) (hnext : next = s.book.nextId + 1)
    (hid : (writeConfig .nextId next).run env s = .ok u₁ s₁)
    (hwrite : (writeSubscription s.book.nextId sub).run env s₁ = .ok u₂ s₂)
    (hcount : (incrementSubscriberActiveCount sub.subscriber).run env s₂ = .ok u₃ s₃)
    (hquiet : s₄.book = s₃.book)
    (hindex : (indexSubscription s.book.nextId sub).run env s₄ = .ok u₄ t) :
    CreatesRecord env s.book t.book ∧ s.book.CreatesEmpty t.book := by
  obtain ⟨hbook, hnumber⟩ := book_of_nextId hid
  refine ⟨⟨sub, hactive, hstart, hpaid, hcharged, hlimit, ?_, fun hle => ?_⟩, sub, ?_, hempty⟩
  · rw [book_of_indexSubscription hindex, hquiet, book_of_countUp hcount,
      book_of_writeSubscription hwrite, hbook]
    rfl
  · rw [book_of_indexSubscription hindex, hquiet, book_of_countUp hcount,
      book_of_writeSubscription hwrite]
    exact (hnumber hle).trans hnext
  · rw [book_of_indexSubscription hindex, hquiet, book_of_countUp hcount,
      book_of_writeSubscription hwrite, hbook]
    rfl

theorem doCreateSubscriptionWithToken_book {new : NewSubscription} {created : Nat}
    (hrun : (doCreateSubscriptionWithToken new).run env s = .ok created t) :
    CreatesRecord env s.book t.book ∧ s.book.CreatesEmpty t.book ∧ TakesNumber s t created := by
  obtain ⟨_, hask, hrun⟩ := run_check_ok .ask hrun
  obtain ⟨rfl, -⟩ := run_ask_ok.mp hask
  obtain ⟨_, -, hrun⟩ := run_check_ok (Modifies.requireAuth _) hrun
  obtain ⟨_, -, hrun⟩ := run_check_ok (.failIf _ _) hrun
  obtain ⟨_, -, hrun⟩ := run_check_ok (Modifies.requireNotBlocklisted _) hrun
  obtain ⟨_, -, hrun⟩ := run_check_ok (Modifies.requireNotBlocklisted _) hrun
  have hlimit := (enforceCreationRateLimit_areas new.subscriber).unbooked rfl
  obtain ⟨_, s₁, hlimited, h₁, hrun⟩ := run_quiet_ok hlimit hrun
  rw [← h₁]
  obtain ⟨_, -, hrun⟩ := run_check_ok (Modifies.enforceSubscriptionCounts _ _) hrun
  obtain ⟨_, -, hrun⟩ := run_check_ok (.failIf _ _) hrun
  obtain ⟨_, -, hrun⟩ := run_check_ok (Modifies.validateExpiry _ _) hrun
  obtain ⟨_, -, hrun⟩ := run_check_ok (.gets _) hrun
  obtain ⟨_, -, hrun⟩ := run_check_ok (.failIf _ _) hrun
  obtain ⟨cap, -, hrun⟩ := run_check_ok (.gets _) hrun
  obtain ⟨_, -, hrun⟩ := run_check_ok (Modifies.validateCap _ _) hrun
  obtain ⟨_, -, hrun⟩ := run_check_ok (Modifies.enforceCreditLimitForDelta _ _ _) hrun
  obtain ⟨id, hid, hrun⟩ := run_check_ok (.gets _) hrun
  obtain rfl : s₁.book.nextId = id := (run_gets_ok.mp hid).1
  obtain ⟨_, -, hrun⟩ := run_check_ok (.when (Modifies.requireUsageLimits _ _)) hrun
  obtain ⟨_, hbound, hrun⟩ := run_check_ok (.failIf _ _) hrun
  obtain ⟨_, s₂, hnext, hrun⟩ := run_bind_ok.mp hrun
  obtain ⟨_, s₃, hwrite, hrun⟩ := run_bind_ok.mp hrun
  obtain ⟨_, s₄, hcount, hrun⟩ := run_bind_ok.mp hrun
  obtain ⟨_, s₅, hindex, hrun⟩ := run_bind_ok.mp hrun
  have hbadge := (issueCredential_areas s₁.book.nextId).unbooked rfl
  obtain ⟨_, s₆, hissued, h₆, hrun⟩ := run_quiet_ok hbadge hrun
  obtain ⟨rfl, rfl⟩ := run_pure_ok.mp hrun
  obtain ⟨hcreates, hempty⟩ := createsRecord_of_writes rfl rfl (.inl rfl) rfl rfl
    (run_failIf_ok.mp hbound).1 rfl hnext hwrite hcount rfl hindex
  have htakes := takesNumber_of_writes rfl hnext hwrite hcount (Std.Refl.refl _) hindex
  rw [h₆]
  exact ⟨hcreates, hempty, .of_quiet (hlimit.ok hlimited) (htakes.then_quiet (hbadge.ok hissued))⟩

theorem doCreateSubscription_book {new : NewSubscription} {created : Nat}
    (hrun : (doCreateSubscription new).run env s = .ok created t) :
    CreatesRecord env s.book t.book ∧ s.book.CreatesEmpty t.book ∧ TakesNumber s t created := by
  obtain ⟨_, -, hrun⟩ := run_check_ok (.failIf _ _) hrun
  obtain ⟨_, -, hrun⟩ := run_check_ok (.gets _) hrun
  obtain ⟨token, -, hrun⟩ := run_check_ok (.lift _) hrun
  obtain ⟨_, -, hrun⟩ := run_check_ok (Modifies.enforceCreditLimitForDelta _ _ _) hrun
  exact doCreateSubscriptionWithToken_book hrun

theorem createSubscriptionWithSplit_book {new : NewSubscription}
    {entries : List (Address × Nat)} {created : Nat}
    (hrun : (createSubscriptionWithSplit new entries).run env s = .ok created t) :
    CreatesRecord env s.book t.book ∧ s.book.CreatesEmpty t.book ∧ TakesNumber s t created := by
  obtain ⟨_, -, hrun⟩ := run_check_ok (Modifies.validateSplit _) hrun
  obtain ⟨id, s₁, hcreate, hrun⟩ := run_bind_ok.mp hrun
  obtain ⟨split, -, hrun⟩ := run_check_ok (.lift _) hrun
  have hstore : Modifies unbooked (store (.persistent (.splitPayees id)) split) :=
    Modifies.store rfl
  obtain ⟨_, s₂, hstored, h₂, hrun⟩ := run_quiet_ok hstore hrun
  obtain ⟨rfl, rfl⟩ := run_pure_ok.mp hrun
  obtain ⟨hcreates, hempty, htakes⟩ := doCreateSubscription_book hcreate
  rw [h₂]
  exact ⟨hcreates, hempty, htakes.then_quiet (hstore.ok hstored)⟩

theorem doCreateSubscriptionFromPlan_book {subscriber : Address} {planId : Nat}
    {label : Option Symbol} {created : Nat}
    (hrun : (doCreateSubscriptionFromPlan subscriber planId label).run env s = .ok created t) :
    CreatesRecord env s.book t.book ∧ s.book.CreatesEmpty t.book ∧ TakesNumber s t created := by
  obtain ⟨_, hask, hrun⟩ := run_check_ok .ask hrun
  obtain ⟨rfl, -⟩ := run_ask_ok.mp hask
  obtain ⟨_, -, hrun⟩ := run_check_ok (Modifies.requireAuth _) hrun
  obtain ⟨_, -, hrun⟩ := run_check_ok (Modifies.requireNotBlocklisted _) hrun
  have hlimit := (enforceCreationRateLimit_areas subscriber).unbooked rfl
  obtain ⟨_, s₁, hlimited, h₁, hrun⟩ := run_quiet_ok hlimit hrun
  rw [← h₁]
  obtain ⟨_, -, hrun⟩ := run_check_ok (.gets _) hrun
  obtain ⟨plan, -, hrun⟩ := run_check_ok (.okOr _ _) hrun
  obtain ⟨_, -, hrun⟩ := run_check_ok (.failIf _ _) hrun
  obtain ⟨_, -, hrun⟩ := run_check_ok (.failIf _ _) hrun
  obtain ⟨_, -, hrun⟩ := run_check_ok (Modifies.enforceSubscriptionCounts _ _) hrun
  obtain ⟨_, -, hrun⟩ := run_check_ok (Modifies.enforceCreditLimitForDelta _ _ _) hrun
  obtain ⟨_, -, hrun⟩ := run_check_ok (Modifies.enforcePlanConcurrencyLimit _ _) hrun
  obtain ⟨id, hid, hrun⟩ := run_check_ok (.gets _) hrun
  obtain rfl : s₁.book.nextId = id := (run_gets_ok.mp hid).1
  obtain ⟨next, hadd, hrun⟩ := run_check_ok (.okOr _ _) hrun
  obtain ⟨rfl, hbound⟩ : s₁.book.nextId + 1 = next ∧ s₁.book.nextId ≠ u32Max := by
    have hadd := (run_okOr_ok.mp hadd).1
    unfold checkedAddU32 at hadd
    split at hadd
    · exact ⟨Option.some.inj hadd, by omega⟩
    · cases hadd
  obtain ⟨_, s₂, hnext, hrun⟩ := run_bind_ok.mp hrun
  obtain ⟨cap, -, hrun⟩ := run_check_ok (.gets _) hrun
  obtain ⟨_, s₃, hwrite, hrun⟩ := run_bind_ok.mp hrun
  obtain ⟨_, s₄, hcount, hrun⟩ := run_bind_ok.mp hrun
  have hlink : Modifies unbooked (store (.instanced (.subPlan s₁.book.nextId)) planId) :=
    Modifies.store rfl
  obtain ⟨_, s₅, hlinked, h₅, hrun⟩ := run_quiet_ok hlink hrun
  obtain ⟨_, s₆, hindex, hrun⟩ := run_bind_ok.mp hrun
  obtain ⟨rfl, rfl⟩ := run_pure_ok.mp hrun
  obtain ⟨hcreates, hempty⟩ := createsRecord_of_writes rfl rfl (.inr ⟨_, rfl⟩) rfl rfl hbound rfl
    hnext hwrite hcount h₅ hindex
  exact ⟨hcreates, hempty, .of_quiet (hlimit.ok hlimited)
    (takesNumber_of_writes rfl hnext hwrite hcount (hlink.ok hlinked) hindex)⟩

/-! ## Blocklist -/

/-- Paused subscriptions become active, one after the other. -/
inductive ResumesRecords : Book → Book → Prop
  | done {b : Book} : ResumesRecords b b
  | next {b b' b'' : Book} {id : Nat} :
      ResumesRecord b id b' → ResumesRecords b' b'' → ResumesRecords b b''

theorem resumeListed_book (hrun : (resumeListed id).run env s = .ok u t) :
    t.book = s.book ∨ ResumesRecord s.book id t.book := by
  obtain ⟨_, -, hrun⟩ := run_check_ok (.gets _) hrun
  rcases run_whenSome_ok.mp hrun with ⟨sub, -, hrun⟩ | ⟨-, rfl⟩
  · rcases run_when_ok.mp hrun with ⟨-, hrun⟩ | ⟨-, rfl⟩
    · obtain ⟨sub, hreads, -, hrun⟩ := run_read_ok hrun
      rcases run_when_ok.mp hrun with ⟨hpaused, hrun⟩ | ⟨-, rfl⟩
      · obtain ⟨-, hbook⟩ := applyResume_book hrun
        rw [if_pos hpaused] at hbook
        exact .inr ⟨sub, hreads, hpaused, hbook⟩
      · exact .inl rfl
    · exact .inl rfl
  · exact .inl rfl

theorem resumeAll_book {ids : List Nat} (hrun : (forEach ids resumeListed).run env s = .ok u t) :
    ResumesRecords s.book t.book := by
  induction ids generalizing s with
  | nil =>
    obtain rfl := run_forEach_nil_ok.mp hrun
    exact .done
  | cons id ids ih =>
    obtain ⟨m, hfirst, hrest⟩ := run_forEach_cons_ok.mp hrun
    rcases resumeListed_book hfirst with hsame | hresume
    · rw [← hsame]
      exact ih hrest
    · exact .next hresume (ih hrest)

/-- What is not in the list is left alone. -/
theorem resumeAll_other {ids : List Nat} (hrun : (forEach ids resumeListed).run env s = .ok u t)
    (hid : id ∉ ids) : t.book.record id = s.book.record id := by
  induction ids generalizing s with
  | nil =>
    obtain rfl := run_forEach_nil_ok.mp hrun
    rfl
  | cons first ids ih =>
    obtain ⟨m, hfirst, hrest⟩ := run_forEach_cons_ok.mp hrun
    obtain ⟨hne, hid⟩ := not_or.mp (mt List.mem_cons.mpr hid)
    rw [ih hrest hid]
    rcases resumeListed_book hfirst with hsame | ⟨sub, -, -, hbook⟩
    · rw [hsame]
    · rw [hbook]
      exact Function.update_of_ne hne _ _

theorem doRemoveFromBlocklist_book {admin subscriber : Address}
    (hrun : (doRemoveFromBlocklist admin subscriber).run env s = .ok u t) :
    ResumesRecords s.book t.book ∧
      ∀ id ∉ s.subscriberSubs subscriber, t.book.record id = s.book.record id := by
  obtain ⟨_, -, hrun⟩ := run_check_ok (Modifies.requireAdminAuth _) hrun
  obtain ⟨_, -, hrun⟩ := run_check_ok (.gets _) hrun
  obtain ⟨_, -, hrun⟩ := run_check_ok (.failIf _ _) hrun
  obtain ⟨ids, hids, hrun⟩ := run_check_ok (.gets _) hrun
  obtain ⟨_, -, hrun⟩ := run_check_ok (.gets _) hrun
  obtain ⟨_, -, hrun⟩ := run_check_ok (.failIf _ _) hrun
  obtain ⟨_, s₁, -, h₁, hrun⟩ := run_quiet_ok (Modifies.delete rfl) hrun
  obtain ⟨rfl, -⟩ := run_gets_ok.mp hids
  rw [← h₁]
  exact ⟨resumeAll_book hrun, fun id hid => resumeAll_other hrun hid⟩

end Operations

end SubscriptionVault
