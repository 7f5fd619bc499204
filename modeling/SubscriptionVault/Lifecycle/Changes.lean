import SubscriptionVault.Charging.IntervalCharge
import SubscriptionVault.Lifecycle.Book

/-!
# Changes of the book

Each operation reads a subscription, checks it, and changes the book in one of the ways listed
here. The relations say everything an operation does to the book; what it does elsewhere, to
balances for example, is none of their concern.
-/

namespace SubscriptionVault

open Exec

/-! ## Reading -/

/-- `get_subscription` may return `sub`. -/
def Book.Reads (b : Book) (id : Nat) (sub : Subscription) : Prop :=
  ∃ stored, b.record id = some stored ∧
    (sub = stored ∨ stored.status = .gracePeriod ∧
      sub = { stored with status := .insufficientBalance })

theorem Book.reads_of_effective {s : State} {id now : Nat} {sub : Subscription}
    (hfound : s.effectiveSubscription id now = some sub) : s.book.Reads id sub := by
  obtain ⟨stored, hstored, rfl⟩ := Option.map_eq_some_iff.mp hfound
  refine ⟨stored, hstored, ?_⟩
  split
  · rename_i hlapsed
    exact .inr ⟨hlapsed.1, rfl⟩
  · exact .inl rfl

/-- The record that is read and the one stored name the same parties. -/
theorem Book.Reads.parties {b : Book} {id : Nat} {sub : Subscription}
    (h : b.Reads id sub) : ∃ stored, b.record id = some stored ∧
    stored.merchant = sub.merchant ∧ stored.token = sub.token ∧
    stored.subscriber = sub.subscriber ∧
    (stored.status = .cancelled ↔ sub.status = .cancelled) := by
  obtain ⟨stored, hstored, rfl | ⟨hgrace, rfl⟩⟩ := h
  · exact ⟨sub, hstored, rfl, rfl, rfl, Iff.rfl⟩
  · exact ⟨stored, hstored, rfl, rfl, rfl, by simp [hgrace]⟩

/-! ## Successful code, step by step -/

section Steps

variable {α β : Type} {env : Env} {s t : State} {x : Vault α} {f : α → Vault β} {b : β}

/-- Code that leaves the book alone comes first. -/
theorem run_quiet_ok (hx : Modifies unbooked x) (hrun : (x >>= f).run env s = .ok b t) :
    ∃ a u, x.run env s = .ok a u ∧ u.book = s.book ∧ (f a).run env u = .ok b t := by
  obtain ⟨a, u, hfirst, hrun⟩ := run_bind_ok.mp hrun
  exact ⟨a, u, hfirst, hx.book hfirst, hrun⟩

end Steps

/-! ## Writing -/

namespace Book

/-- The id is entered in the three indexes. -/
def indexed (b : Book) (id : Nat) (sub : Subscription) : Book :=
  ((b.setMerchantSubs sub.merchant (b.merchantSubs sub.merchant ++ [id])).setTokenSubs sub.token
    (b.tokenSubs sub.token ++ [id])).setSubscriberSubs sub.subscriber
    (b.subscriberSubs sub.subscriber ++ [id])

def unindexed (b : Book) (id : Nat) (sub : Subscription) : Book :=
  ((b.setMerchantSubs sub.merchant ((b.merchantSubs sub.merchant).erase id)).setTokenSubs
    sub.token ((b.tokenSubs sub.token).erase id)).setSubscriberSubs sub.subscriber
    ((b.subscriberSubs sub.subscriber).erase id)

def countUp (b : Book) (subscriber : Address) : Book :=
  b.setActiveCount subscriber (saturatingAddU32 (b.activeCount subscriber) 1)

def countDown (b : Book) (subscriber : Address) : Book :=
  b.setActiveCount subscriber (b.activeCount subscriber - 1)

end Book

section Writes

variable {env : Env} {s t : State} {id : Nat} {sub : Subscription} {u : Unit}

theorem book_of_writeSubscription (hrun : (writeSubscription id sub).run env s = .ok u t) :
    t.book = s.book.setRecord id sub := by
  obtain rfl := run_store_ok.mp hrun
  exact s.book_write_sub id sub

theorem book_of_countUp {subscriber : Address}
    (hrun : (incrementSubscriberActiveCount subscriber).run env s = .ok u t) :
    t.book = s.book.countUp subscriber := by
  simp only [incrementSubscriberActiveCount, setSubscriberActiveCount, run_bind_ok, run_gets_ok,
    run_store_ok] at hrun
  obtain ⟨_, _, ⟨rfl, rfl⟩, rfl⟩ := hrun
  exact s.book_write_activeCount subscriber _

theorem book_of_countDown {subscriber : Address}
    (hrun : (decrementSubscriberActiveCount subscriber).run env s = .ok u t) :
    t.book = s.book.countDown subscriber := by
  simp only [decrementSubscriberActiveCount, setSubscriberActiveCount, run_bind_ok, run_gets_ok,
    run_store_ok] at hrun
  obtain ⟨_, _, ⟨rfl, rfl⟩, rfl⟩ := hrun
  exact s.book_write_activeCount subscriber _

theorem run_pushIndex_ok {key : DataKey} [Holds DataKey.Val key (List Nat)] :
    (pushIndex key id).run env s = .ok u t ↔
      s.write (.instanced key) ((s.read (.instanced key)).getD [] ++ [id]) = t := by
  simp [pushIndex]

theorem book_of_pushMerchantSubs {merchant : Address}
    (hrun : (pushIndex (.merchantSubs merchant) id).run env s = .ok u t) :
    t.book = s.book.setMerchantSubs merchant (s.book.merchantSubs merchant ++ [id]) := by
  obtain rfl := run_pushIndex_ok.mp hrun
  exact s.book_write_merchantSubs merchant _

theorem book_of_pushTokenSubs {token : Address}
    (hrun : (pushIndex (.tokenSubs token) id).run env s = .ok u t) :
    t.book = s.book.setTokenSubs token (s.book.tokenSubs token ++ [id]) := by
  obtain rfl := run_pushIndex_ok.mp hrun
  exact s.book_write_tokenSubs token _

theorem book_of_pushSubscriberSubs {subscriber : Address}
    (hrun : (pushIndex (.subscriberSubs subscriber) id).run env s = .ok u t) :
    t.book = s.book.setSubscriberSubs subscriber (s.book.subscriberSubs subscriber ++ [id]) := by
  obtain rfl := run_pushIndex_ok.mp hrun
  exact s.book_write_subscriberSubs subscriber _

/-- An id that is not listed is not dropped, as `erase` would have it. -/
theorem run_dropIndex {key : DataKey} [Holds DataKey.Val key (List Nat)]
    (hrun : (dropIndex key id).run env s = .ok u t) :
    t = s.write (.instanced key) (((s.read (.instanced key)).getD []).erase id) ∨
      t = s ∧ ((s.read (.instanced key)).getD []).erase id = (s.read (.instanced key)).getD [] := by
  simp only [dropIndex, run_bind_ok, run_load_ok, run_whenSome_ok, run_when_ok,
    run_store_ok] at hrun
  obtain ⟨found, _, ⟨hfound, rfl⟩, ⟨ids, rfl, ⟨-, rfl⟩ | ⟨habsent, rfl⟩⟩ | ⟨rfl, rfl⟩⟩ := hrun
  · exact .inl (by rw [hfound]; rfl)
  · exact .inr ⟨rfl, by rw [hfound]; exact List.erase_of_not_mem habsent⟩
  · exact .inr ⟨rfl, by rw [hfound]; rfl⟩

theorem book_of_dropMerchantSubs {merchant : Address}
    (hrun : (dropIndex (.merchantSubs merchant) id).run env s = .ok u t) :
    t.book = s.book.setMerchantSubs merchant ((s.book.merchantSubs merchant).erase id) := by
  rcases run_dropIndex hrun with rfl | ⟨rfl, hsame⟩
  · exact s.book_write_merchantSubs merchant _
  · have hkept : (t.book.merchantSubs merchant).erase id = t.book.merchantSubs merchant := hsame
    rw [hkept]
    unfold Book.setMerchantSubs
    rw [Function.update_eq_self]

theorem book_of_dropTokenSubs {token : Address}
    (hrun : (dropIndex (.tokenSubs token) id).run env s = .ok u t) :
    t.book = s.book.setTokenSubs token ((s.book.tokenSubs token).erase id) := by
  rcases run_dropIndex hrun with rfl | ⟨rfl, hsame⟩
  · exact s.book_write_tokenSubs token _
  · have hkept : (t.book.tokenSubs token).erase id = t.book.tokenSubs token := hsame
    rw [hkept]
    unfold Book.setTokenSubs
    rw [Function.update_eq_self]

theorem book_of_dropSubscriberSubs {subscriber : Address}
    (hrun : (dropIndex (.subscriberSubs subscriber) id).run env s = .ok u t) :
    t.book = s.book.setSubscriberSubs subscriber ((s.book.subscriberSubs subscriber).erase id) := by
  rcases run_dropIndex hrun with rfl | ⟨rfl, hsame⟩
  · exact s.book_write_subscriberSubs subscriber _
  · have hkept : (t.book.subscriberSubs subscriber).erase id =
        t.book.subscriberSubs subscriber := hsame
    rw [hkept]
    unfold Book.setSubscriberSubs
    rw [Function.update_eq_self]

theorem book_of_indexSubscription (hrun : (indexSubscription id sub).run env s = .ok u t) :
    t.book = s.book.indexed id sub := by
  simp only [indexSubscription, run_bind_ok] at hrun
  obtain ⟨_, s₁, hmerchant, _, s₂, htoken, hsubscriber⟩ := hrun
  rw [book_of_pushSubscriberSubs hsubscriber, book_of_pushTokenSubs htoken,
    book_of_pushMerchantSubs hmerchant]
  rfl

theorem book_of_unindexSubscription (hrun : (unindexSubscription id sub).run env s = .ok u t) :
    t.book = s.book.unindexed id sub := by
  simp only [unindexSubscription, run_bind_ok] at hrun
  obtain ⟨_, s₁, hmerchant, _, s₂, htoken, hsubscriber⟩ := hrun
  rw [book_of_dropSubscriberSubs hsubscriber, book_of_dropTokenSubs htoken,
    book_of_dropMerchantSubs hmerchant]
  rfl

end Writes

/-! ## Kinds of changes -/

section Kinds

/-- Settings and the prepaid balance, which say nothing about the charges made. -/
def Subscription.EditedTo (sub new : Subscription) : Prop :=
  new = { sub with
    prepaidBalance := new.prepaidBalance
    lifetimeCap := new.lifetimeCap
    cancelAt := new.cancelAt
    autoRenew := new.autoRenew
    autoRenewDisabledAt := new.autoRenewDisabledAt
    expiresAtLedger := new.expiresAtLedger }

/-- The record after a charge of one interval. -/
def Subscription.ChargedTo (sub new : Subscription) (now : Nat) : Prop :=
  new = { sub with
    prepaidBalance := new.prepaidBalance
    lastPaymentTimestamp := max now sub.lastPaymentTimestamp
    lifetimeCharged := new.lifetimeCharged
    status := new.status
    graceStartTimestamp := new.graceStartTimestamp }

/-- The ledger bound stays, and no more money is taken out than there is. -/
structure Subscription.Steady (sub new : Subscription) : Prop where
  bound : new.expiresAtLedger = sub.expiresAtLedger
  funded : 0 ≤ sub.prepaidBalance → 0 ≤ new.prepaidBalance

/-- No money is added either. -/
structure Subscription.Draws (sub new : Subscription) : Prop extends sub.Steady new where
  drawn : 0 ≤ sub.prepaidBalance → new.prepaidBalance ≤ sub.prepaidBalance

/-- Auto-renewal is left alone. -/
structure Subscription.SameRenewal (sub new : Subscription) : Prop where
  flag : new.autoRenew = sub.autoRenew
  disabledAt : new.autoRenewDisabledAt = sub.autoRenewDisabledAt

variable (env : Env) (b : Book) (id : Nat) (b' : Book)

/-- The record is still there, and `P` says what has become of it. -/
def Book.Carries (P : Subscription → Subscription → Prop) : Prop :=
  ∀ sub, b.record id = some sub → ∃ new, b'.record id = some new ∧ P sub new

def Book.Steady : Prop := ∀ j, b.Carries j b' Subscription.Steady

def Book.Draws : Prop := ∀ j, b.Carries j b' Subscription.Draws

def Book.SameRenewal : Prop := ∀ j, b.Carries j b' Subscription.SameRenewal

def EditsRecord : Prop :=
  ∃ sub new, b.Reads id sub ∧ sub.EditedTo new ∧ b' = b.setRecord id new

/-- A subscription behind with its payments becomes active again. -/
def RevivesRecord : Prop :=
  ∃ sub new, b.Reads id sub ∧
    (sub.status = .insufficientBalance ∨ sub.status = .gracePeriod) ∧
    new = { sub with
      status := .active
      prepaidBalance := new.prepaidBalance
      graceStartTimestamp := new.graceStartTimestamp } ∧
    b' = b.setRecord id new

def PausesRecord : Prop :=
  ∃ sub, b.Reads id sub ∧ sub.status ≠ .paused ∧ canTransition sub.status .paused ∧
    b' = (b.setRecord id { sub with status := .paused }).countDown sub.subscriber

def ResumesRecord : Prop :=
  ∃ sub, b.Reads id sub ∧ sub.status = .paused ∧
    b' = (b.setRecord id { sub with status := .active }).countUp sub.subscriber

/-- Only an active subscription gives its place back when it is cancelled. -/
def CancelsRecord : Prop :=
  ∃ sub, b.Reads id sub ∧ sub.status ≠ .cancelled ∧ canTransition sub.status .cancelled ∧
    b' = ((if sub.status = .active then b.countDown sub.subscriber else b).setRecord id
      { sub with status := .cancelled, prepaidBalance := 0 }).unindexed id sub

def ArchivesRecord : Prop :=
  ∃ sub, b.Reads id sub ∧ sub.status ≠ .archived ∧
    (sub.status = .cancelled ∨ sub.isExpired env.now env.sequence = true ∧
      (sub.status = .expired ∨ canTransition sub.status .expired)) ∧
    b' = b.setRecord id { sub with status := .archived }

def TransfersRecord («to» : Address) : Prop :=
  ∃ sub, b.Reads id sub ∧
    b' = (let moved := (b.setSubscriberSubs sub.subscriber
        ((b.subscriberSubs sub.subscriber).erase id))
      let listed := moved.setSubscriberSubs «to» (moved.subscriberSubs «to» ++ [id])
      (if sub.status.countsTowardActiveCap then
        (listed.countDown sub.subscriber).countUp «to» else listed).setRecord id
        { sub with subscriber := «to» })

/-- The terms are those of the plan. -/
def ReplansRecord (plan : PlanTemplate) : Prop :=
  ∃ sub, b.Reads id sub ∧
    b' = b.setRecord id { sub with
      lifetimeCap := plan.lifetimeCap
      amount := plan.amount
      intervalSeconds := plan.intervalSeconds
      usageEnabled := plan.usageEnabled }

def BuysOut : Prop :=
  ∃ sub new, b.Reads id sub ∧ sub.status = .gracePeriod ∧ sub.intervalSeconds ≠ 0 ∧
    sub.ChargedTo new env.now ∧ new.status = .active ∧
    b' = (b.setRecord id new).setPeriod id ((env.now - sub.startTime) / sub.intervalSeconds)

def CreatesRecord : Prop :=
  ∃ sub, sub.status = .active ∧ sub.startTime = env.now ∧
    (sub.lastPaymentTimestamp = env.now ∨ ∃ trial, sub.lastPaymentTimestamp =
      saturatingAddU64 env.now trial) ∧ sub.lifetimeCharged = 0 ∧
    b.nextId ≠ u32Max ∧
    b' = { ((b.setRecord b.nextId sub).countUp sub.subscriber).indexed
      b.nextId sub with nextId := b'.nextId } ∧
    (3 ≤ b.schemaVersion → b'.nextId = b.nextId + 1)

end Kinds

section Carries

variable {b b' : Book} {id j : Nat} {sub new : Subscription}
  {P : Subscription → Subscription → Prop}

theorem Book.Carries.of_same (hrefl : ∀ sub, P sub sub) (h : b'.record j = b.record j) :
    b.Carries j b' P :=
  fun sub hsub => ⟨sub, h.trans hsub, hrefl sub⟩

/-- The status may have been read differently from what is stored. -/
theorem Book.Carries.of_read (hreads : b.Reads id sub) (hkept : ∀ status, P { sub with status } new)
    (hrecord : b'.record id = some new) : b.Carries id b' P := by
  intro stored hstored
  obtain ⟨found, hfound, hsub⟩ := hreads
  obtain rfl : found = stored := Option.some.inj (hfound.symm.trans hstored)
  refine ⟨new, hrecord, ?_⟩
  rcases hsub with rfl | ⟨-, rfl⟩
  · exact hkept sub.status
  · exact hkept found.status

theorem Book.Carries.of_edit (hrefl : ∀ sub, P sub sub) (hreads : b.Reads id sub)
    (hkept : ∀ status, P { sub with status } new)
    (hrecord : b'.record = (b.setRecord id new).record) (j : Nat) : b.Carries j b' P := by
  by_cases hj : j = id
  · subst hj
    exact .of_read hreads hkept ((congrFun hrecord j).trans (Function.update_self ..))
  · exact .of_same hrefl ((congrFun hrecord j).trans (Function.update_of_ne hj ..))

theorem Subscription.Steady.refl (sub : Subscription) : sub.Steady sub := ⟨rfl, fun h => h⟩

theorem Book.Steady.of_edit (hreads : b.Reads id sub) (hsteady : sub.Steady new)
    (hrecord : b'.record = (b.setRecord id new).record) : b.Steady b' :=
  Book.Carries.of_edit Subscription.Steady.refl hreads
    (fun _ => ⟨hsteady.bound, hsteady.funded⟩) hrecord

theorem Subscription.Draws.refl (sub : Subscription) : sub.Draws sub where
  toSteady := .refl sub
  drawn _ := le_rfl

theorem Book.Draws.of_eq (h : b'.record = b.record) : b.Draws b' :=
  fun j => .of_same Subscription.Draws.refl (congrFun h j)

theorem Book.Draws.steady (h : b.Draws b') : b.Steady b' := by
  intro j sub hsub
  obtain ⟨new, hnew, hdraws⟩ := h j sub hsub
  exact ⟨new, hnew, hdraws.toSteady⟩

theorem Book.Draws.of_edit (hreads : b.Reads id sub) (hdraws : sub.Draws new)
    (hrecord : b'.record = (b.setRecord id new).record) : b.Draws b' :=
  Book.Carries.of_edit Subscription.Draws.refl hreads
    (fun _ => ⟨⟨hdraws.bound, hdraws.funded⟩, hdraws.drawn⟩) hrecord

theorem Book.SameRenewal.of_eq (h : b'.record = b.record) : b.SameRenewal b' :=
  fun j => .of_same (fun _ => ⟨rfl, rfl⟩) (congrFun h j)

theorem Book.SameRenewal.of_edit (hreads : b.Reads id sub) (hrenewal : sub.SameRenewal new)
    (hrecord : b'.record = (b.setRecord id new).record) : b.SameRenewal b' :=
  Book.Carries.of_edit (fun _ => ⟨rfl, rfl⟩) hreads
    (fun _ => ⟨hrenewal.flag, hrenewal.disabledAt⟩) hrecord

theorem EditsRecord.drawing (hreads : b.Reads id sub) (hbook : b' = b.setRecord id new)
    (hedited : sub.EditedTo new) (hdraws : sub.Draws new) (hrenewal : sub.SameRenewal new) :
    EditsRecord b id b' ∧ b.Draws b' ∧ b.SameRenewal b' :=
  ⟨⟨sub, new, hreads, hedited, hbook⟩, .of_edit hreads hdraws (congrArg Book.record hbook),
    .of_edit hreads hrenewal (congrArg Book.record hbook)⟩

/-- The balance is left alone. -/
theorem EditsRecord.leaving (hreads : b.Reads id sub) (hbook : b' = b.setRecord id new)
    (hedited : sub.EditedTo new) (hbound : new.expiresAtLedger = sub.expiresAtLedger)
    (hbalance : new.prepaidBalance = sub.prepaidBalance) (hrenewal : sub.SameRenewal new) :
    EditsRecord b id b' ∧ b.Draws b' ∧ b.SameRenewal b' :=
  EditsRecord.drawing hreads hbook hedited
    ⟨⟨hbound, fun hfunds => hbalance ▸ hfunds⟩, fun _ => hbalance.le⟩ hrenewal

theorem EditsRecord.steadily (hreads : b.Reads id sub) (hbook : b' = b.setRecord id new)
    (hedited : sub.EditedTo new) (hsteady : sub.Steady new) (hrenewal : sub.SameRenewal new) :
    EditsRecord b id b' ∧ b.Steady b' ∧ b.SameRenewal b' :=
  ⟨⟨sub, new, hreads, hedited, hbook⟩, .of_edit hreads hsteady (congrArg Book.record hbook),
    .of_edit hreads hrenewal (congrArg Book.record hbook)⟩

end Carries

end SubscriptionVault
