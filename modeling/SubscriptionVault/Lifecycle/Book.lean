import SubscriptionVault.Charging.Footprints
import SubscriptionVault.Contract.Entrypoints

/-!
# The book of subscriptions

What the vault keeps on record about subscriptions, apart from everything else it stores: the
records themselves, the period and the salt of the last interval charge, the next free id, the
number of live subscriptions per subscriber, and the three indexes. A call changes the book in
a few small ways, which `Lifecycle.Changes` lists.
-/

namespace SubscriptionVault

open Exec

structure Book where
  record : Nat → Option Subscription
  chargedPeriod : Nat → Option Nat
  chargeSalt : Nat → Option BytesN32
  nextId : Nat
  schemaVersion : Nat
  activeCount : Address → Nat
  merchantSubs : Address → List Nat
  tokenSubs : Address → List Nat
  subscriberSubs : Address → List Nat

def State.book (s : State) : Book where
  record := s.subscription
  chargedPeriod id := s.read (.instanced (.chargedPeriod id))
  chargeSalt id := s.read (.instanced (.chargeSalt id))
  nextId := s.nextSubscriptionId
  schemaVersion := s.schemaVersion
  activeCount := s.subscriberActiveCount
  merchantSubs := s.merchantSubs
  tokenSubs := s.tokenSubs
  subscriberSubs := s.subscriberSubs

/-! ## Updates -/

namespace Book

def setRecord (b : Book) (id : Nat) (sub : Subscription) : Book :=
  { b with record := Function.update b.record id (some sub) }

def setPeriod (b : Book) (id period : Nat) : Book :=
  { b with chargedPeriod := Function.update b.chargedPeriod id (some period) }

def setSalt (b : Book) (id : Nat) (salt : BytesN32) : Book :=
  { b with chargeSalt := Function.update b.chargeSalt id (some salt) }

def setActiveCount (b : Book) (subscriber : Address) (count : Nat) : Book :=
  { b with activeCount := Function.update b.activeCount subscriber count }

def setMerchantSubs (b : Book) (merchant : Address) (ids : List Nat) : Book :=
  { b with merchantSubs := Function.update b.merchantSubs merchant ids }

def setTokenSubs (b : Book) (token : Address) (ids : List Nat) : Book :=
  { b with tokenSubs := Function.update b.tokenSubs token ids }

def setSubscriberSubs (b : Book) (subscriber : Address) (ids : List Nat) : Book :=
  { b with subscriberSubs := Function.update b.subscriberSubs subscriber ids }

end Book

/-! ## The slots behind the book -/

/-- The parts of a book that are kept in slots of their own. -/
inductive BookPart where
  | record | chargedPeriod | chargeSalt | numbering | activeCount | merchantSubs | tokenSubs
  | subscriberSubs
deriving DecidableEq

def Slot.bookPart : Slot → Option BookPart
  | .persistent (.sub _) => some .record
  | .instanced (.chargedPeriod _) => some .chargedPeriod
  | .instanced (.chargeSalt _) => some .chargeSalt
  | .persistent .nextId | .instanced .nextId
  | .persistent .schemaVersion | .instanced .schemaVersion => some .numbering
  | .instanced (.subscriberActiveCount _) => some .activeCount
  | .instanced (.merchantSubs _) => some .merchantSubs
  | .instanced (.tokenSubs _) => some .tokenSubs
  | .instanced (.subscriberSubs _) => some .subscriberSubs
  | _ => none

/-- The slots of one part, and every slot outside the book. -/
def outsideExcept (part : BookPart) : Set Slot := {k | k.bookPart = none ∨ k.bookPart = some part}

def unbooked : Set Slot := {k | k.bookPart = none}

theorem unbooked_subset_outsideExcept (part : BookPart) : unbooked ⊆ outsideExcept part :=
  fun _ => Or.inl

/-- `b'` differs from `b` in one part only. -/
def Book.SameBut (b b' : Book) : BookPart → Prop
  | .record => b' = { b with record := b'.record }
  | .chargedPeriod => b' = { b with chargedPeriod := b'.chargedPeriod }
  | .chargeSalt => b' = { b with chargeSalt := b'.chargeSalt }
  | .numbering => b' = { b with nextId := b'.nextId, schemaVersion := b'.schemaVersion }
  | .activeCount => b' = { b with activeCount := b'.activeCount }
  | .merchantSubs => b' = { b with merchantSubs := b'.merchantSubs }
  | .tokenSubs => b' = { b with tokenSubs := b'.tokenSubs }
  | .subscriberSubs => b' = { b with subscriberSubs := b'.subscriberSubs }

section Slots

variable {s t : State} {part : BookPart}

theorem State.book_sameBut (h : FiniteStore.AgreeOff (outsideExcept part) s t) :
    s.book.SameBut t.book part := by
  have hread (other : BookPart) (hne : part ≠ other) {k : Slot} {α : Type} [Holds Slot.Val k α]
      (hk : k.bookPart = some other) : t.read k = s.read k := by
    refine h.read fun hmem => ?_
    rcases hmem with hnone | hpart
    · rw [hk] at hnone
      cases hnone
    · rw [hk] at hpart
      exact hne (Option.some.inj hpart).symm
  have hrecord (hne : part ≠ .record) : t.subscription = s.subscription :=
    funext fun _ => hread .record hne rfl
  have hperiod (hne : part ≠ .chargedPeriod) : (fun id => t.read (.instanced (.chargedPeriod id)))
      = fun id => s.read (.instanced (.chargedPeriod id)) :=
    funext fun _ => hread .chargedPeriod hne rfl
  have hsalt (hne : part ≠ .chargeSalt) : (fun id => t.read (.instanced (.chargeSalt id)))
      = fun id => s.read (.instanced (.chargeSalt id)) :=
    funext fun _ => hread .chargeSalt hne rfl
  have hversion (hne : part ≠ .numbering) : t.schemaVersion = s.schemaVersion := by
    unfold State.schemaVersion
    rw [hread .numbering hne rfl, hread .numbering hne rfl]
  have hnext (hne : part ≠ .numbering) : t.nextSubscriptionId = s.nextSubscriptionId := by
    unfold State.nextSubscriptionId State.config
    rw [hread .numbering hne rfl, hread .numbering hne rfl, hversion hne]
  have hcount (hne : part ≠ .activeCount) : t.subscriberActiveCount = s.subscriberActiveCount :=
    funext fun _ => congrArg (Option.getD · 0) (hread .activeCount hne rfl)
  have hmerchant (hne : part ≠ .merchantSubs) : t.merchantSubs = s.merchantSubs :=
    funext fun _ => congrArg (Option.getD · []) (hread .merchantSubs hne rfl)
  have htoken (hne : part ≠ .tokenSubs) : t.tokenSubs = s.tokenSubs :=
    funext fun _ => congrArg (Option.getD · []) (hread .tokenSubs hne rfl)
  have hsubscriber (hne : part ≠ .subscriberSubs) : t.subscriberSubs = s.subscriberSubs :=
    funext fun _ => congrArg (Option.getD · []) (hread .subscriberSubs hne rfl)
  cases part <;>
    simp [Book.SameBut, State.book, hrecord, hperiod, hsalt, hversion, hnext, hcount, hmerchant,
      htoken, hsubscriber]

theorem State.book_of_unbooked (h : FiniteStore.AgreeOff unbooked s t) : t.book = s.book := by
  have hrecords : t.subscription = s.subscription :=
    funext fun id => h.read fun hmem => by cases hmem
  have hsame : t.book = { s.book with record := t.subscription } :=
    State.book_sameBut (h.mono (unbooked_subset_outsideExcept .record))
  rw [hsame, hrecords]
  rfl

theorem Modifies.book {α : Type} {x : Vault α} {a : α} {r : Env} (h : Modifies unbooked x)
    (hrun : x.run r s = .ok a t) : t.book = s.book :=
  State.book_of_unbooked (h.ok hrun)

end Slots

/-! ## Writes -/

section Writes

variable (s : State)

private theorem book_of_write {k : Slot} {α : Type} [Holds Slot.Val k α] (v : α) (part : BookPart)
    (hpart : k.bookPart = some part) : s.book.SameBut (State.book (s.write k v)) part :=
  State.book_sameBut (FiniteStore.agreeOff_write s v (.inr hpart))

theorem State.book_write_sub (id : Nat) (sub : Subscription) :
    State.book (s.write (.persistent (.sub id)) sub) = s.book.setRecord id sub := by
  refine (book_of_write s sub .record rfl).trans ?_
  refine congrArg (fun record => { s.book with record }) (funext fun j => ?_)
  by_cases hj : j = id
  · subst hj
    simp [State.book, State.subscription]
  · simp [State.book, State.subscription, hj]

theorem State.book_write_period (id period : Nat) :
    State.book (s.write (.instanced (.chargedPeriod id)) period) = s.book.setPeriod id period := by
  refine (book_of_write s period .chargedPeriod rfl).trans ?_
  refine congrArg (fun chargedPeriod => { s.book with chargedPeriod }) (funext fun j => ?_)
  by_cases hj : j = id
  · subst hj
    simp [State.book]
  · simp [State.book, hj]

theorem State.book_write_salt (id : Nat) (salt : BytesN32) :
    State.book (s.write (.instanced (.chargeSalt id)) salt) = s.book.setSalt id salt := by
  refine (book_of_write s salt .chargeSalt rfl).trans ?_
  refine congrArg (fun chargeSalt => { s.book with chargeSalt }) (funext fun j => ?_)
  by_cases hj : j = id
  · subst hj
    simp [State.book]
  · simp [State.book, hj]

theorem State.book_write_activeCount (subscriber : Address) (count : Nat) :
    State.book (s.write (.instanced (.subscriberActiveCount subscriber)) count) =
      s.book.setActiveCount subscriber count := by
  refine (book_of_write s count .activeCount rfl).trans ?_
  refine congrArg (fun activeCount => { s.book with activeCount }) (funext fun a => ?_)
  by_cases ha : a = subscriber
  · subst ha
    simp [State.book, State.subscriberActiveCount]
  · simp [State.book, State.subscriberActiveCount, ha]

theorem State.book_write_merchantSubs (merchant : Address) (ids : List Nat) :
    State.book (s.write (.instanced (.merchantSubs merchant)) ids) =
      s.book.setMerchantSubs merchant ids := by
  refine (book_of_write s ids .merchantSubs rfl).trans ?_
  refine congrArg (fun merchantSubs => { s.book with merchantSubs }) (funext fun a => ?_)
  by_cases ha : a = merchant
  · subst ha
    simp [State.book, State.merchantSubs]
  · simp [State.book, State.merchantSubs, ha]

theorem State.book_remove_merchantSubs (merchant : Address) :
    State.book (s.remove (.instanced (.merchantSubs merchant))) =
      s.book.setMerchantSubs merchant [] := by
  have hsame : s.book.SameBut (State.book (s.remove (.instanced (.merchantSubs merchant))))
      .merchantSubs := State.book_sameBut (s.agreeOff_remove (.inr rfl))
  refine hsame.trans ?_
  refine congrArg (fun merchantSubs => { s.book with merchantSubs }) (funext fun a => ?_)
  by_cases ha : a = merchant
  · subst ha
    simp [State.book, State.merchantSubs]
  · simp [State.book, State.merchantSubs, ha]

theorem State.book_write_tokenSubs (token : Address) (ids : List Nat) :
    State.book (s.write (.instanced (.tokenSubs token)) ids) = s.book.setTokenSubs token ids := by
  refine (book_of_write s ids .tokenSubs rfl).trans ?_
  refine congrArg (fun tokenSubs => { s.book with tokenSubs }) (funext fun a => ?_)
  by_cases ha : a = token
  · subst ha
    simp [State.book, State.tokenSubs]
  · simp [State.book, State.tokenSubs, ha]

theorem State.book_write_subscriberSubs (subscriber : Address) (ids : List Nat) :
    State.book (s.write (.instanced (.subscriberSubs subscriber)) ids) =
      s.book.setSubscriberSubs subscriber ids := by
  refine (book_of_write s ids .subscriberSubs rfl).trans ?_
  refine congrArg (fun subscriberSubs => { s.book with subscriberSubs }) (funext fun a => ?_)
  by_cases ha : a = subscriber
  · subst ha
    simp [State.book, State.subscriberSubs]
  · simp [State.book, State.subscriberSubs, ha]

end Writes

end SubscriptionVault
