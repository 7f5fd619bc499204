import SubscriptionVault.Framework.ReverseIndex
import SubscriptionVault.Lifecycle.Terminal

/-!
# Indexes of subscriptions

The vault lists the subscriptions of every merchant, token and subscriber. A subscription is
entered in the three lists when it is created and taken out of them when somebody cancels it.
The lists go wrong when a charge cancels a subscription by itself, when a cancelled subscription
changes hands, and when a merchant's address is rotated to itself.
-/

namespace SubscriptionVault

open Exec

/-! ## What the lists should hold -/

def Book.Cancelled (b : Book) (id : Nat) : Prop :=
  ∃ sub, b.record id = some sub ∧ sub.status = .cancelled

/-- The subscriptions that are cancelled, or were before they went to the archive. -/
def cancelledIn (hist : History VaultAction State) (s : State) : Set Nat :=
  {id | s.book.Cancelled id ∨ ∃ step ∈ hist, step.2.book.Cancelled id}

/-- Every list holds the subscriptions of its party that have not been cancelled. -/
def State.ListsLive (s : State) (gone : Set Nat) (ids : Address → List Nat)
    (party : Subscription → Address) : Prop :=
  ∀ a, (ids a).Nodup ∧
    ∀ id, id ∈ ids a ↔ id ∉ gone ∧ ∃ sub, s.subscription id = some sub ∧ party sub = a

open Classical in
noncomputable def Book.ownerIn (b : Book) (gone : Set Nat) (party : Subscription → Address)
    (id : Nat) : Option Address :=
  if id ∈ gone then none else (b.record id).map party

/-- The three indexes are right. -/
structure Book.Indexed (b : Book) (gone : Set Nat) : Prop where
  merchants : ListsOwned b.merchantSubs (b.ownerIn gone (·.merchant))
  tokens : ListsOwned b.tokenSubs (b.ownerIn gone (·.token))
  subscribers : ListsOwned b.subscriberSubs (b.ownerIn gone (·.subscriber))

/-- What is cancelled stays cancelled or is archived, and has been accounted for. -/
structure Book.Retired (b : Book) (gone : Set Nat) : Prop where
  cancelled : ∀ id, b.Cancelled id → id ∈ gone
  final : ∀ id ∈ gone, ∃ sub, b.record id = some sub ∧
    (sub.status = .cancelled ∨ sub.status = .archived)

/-- The subscriptions gone after a change of the book. -/
def Book.goneAfter (b' : Book) (gone : Set Nat) : Set Nat :=
  {id | id ∈ gone ∨ b'.Cancelled id}

section Owners

variable {b b' : Book} {gone gone' : Set Nat} {id : Nat} {sub new : Subscription}
  {party : Subscription → Address} {a : Address}

theorem Book.ownerIn_of_gone (h : id ∈ gone) : b.ownerIn gone party id = none :=
  if_pos h

theorem Book.ownerIn_of_live (h : id ∉ gone) :
    b.ownerIn gone party id = (b.record id).map party :=
  if_neg h

theorem Book.ownerIn_eq_some : b.ownerIn gone party id = some a ↔
    id ∉ gone ∧ ∃ sub, b.record id = some sub ∧ party sub = a := by
  by_cases h : id ∈ gone
  · simp [Book.ownerIn_of_gone h, h]
  · simp [Book.ownerIn_of_live h, h]

theorem State.listsLive_of_owned {s : State} {ids : Address → List Nat}
    (h : ListsOwned ids (s.book.ownerIn gone party)) : s.ListsLive gone ids party :=
  fun a => ⟨h.nodup a, fun id => (h.mem a id).trans Book.ownerIn_eq_some⟩

theorem Book.goneAfter_eq (h : ∀ id, b'.Cancelled id → id ∈ gone) : b'.goneAfter gone = gone :=
  Set.ext fun id => or_iff_left_of_imp (h id)

end Owners

/-! ## Changes that leave the lists alone -/

/-- The parties of every subscription stay, nothing is cancelled, and no list changes. -/
structure Book.Retains (b b' : Book) : Prop where
  merchant : ∀ id, (b'.record id).map (·.merchant) = (b.record id).map (·.merchant)
  token : ∀ id, (b'.record id).map (·.token) = (b.record id).map (·.token)
  subscriber : ∀ id, (b'.record id).map (·.subscriber) = (b.record id).map (·.subscriber)
  cancelled : ∀ id, b'.Cancelled id → b.Cancelled id
  merchantSubs : b'.merchantSubs = b.merchantSubs
  tokenSubs : b'.tokenSubs = b.tokenSubs
  subscriberSubs : b'.subscriberSubs = b.subscriberSubs

section Retains

variable {env : Env} {s : State} {b b' b'' : Book} {gone : Set Nat} {id : Nat}
  {sub new : Subscription}

theorem Book.Retains.refl (b : Book) : b.Retains b :=
  ⟨fun _ => rfl, fun _ => rfl, fun _ => rfl, fun _ h => h, rfl, rfl, rfl⟩

theorem Book.Retains.trans (h : b.Retains b') (h' : b'.Retains b'') : b.Retains b'' where
  merchant id := (h'.merchant id).trans (h.merchant id)
  token id := (h'.token id).trans (h.token id)
  subscriber id := (h'.subscriber id).trans (h.subscriber id)
  cancelled id hcancelled := h.cancelled id (h'.cancelled id hcancelled)
  merchantSubs := h'.merchantSubs.trans h.merchantSubs
  tokenSubs := h'.tokenSubs.trans h.tokenSubs
  subscriberSubs := h'.subscriberSubs.trans h.subscriberSubs

/-- One record changes, but neither its parties nor, to cancelled, its status. -/
theorem Book.Retains.of_record (hreads : b.Reads id sub)
    (hrecord : b'.record = (b.setRecord id new).record)
    (hlists : b'.merchantSubs = b.merchantSubs ∧ b'.tokenSubs = b.tokenSubs ∧
      b'.subscriberSubs = b.subscriberSubs)
    (hparties : new.merchant = sub.merchant ∧ new.token = sub.token ∧
      new.subscriber = sub.subscriber)
    (hstatus : new.status = .cancelled → sub.status = .cancelled) : b.Retains b' := by
  obtain ⟨stored, hstored, hmerchant, htoken, hsubscriber, hcancelled⟩ := hreads.parties
  have hself : b'.record id = some new := by
    rw [hrecord]
    exact Function.update_self _ _ _
  have hother {j : Nat} (hj : j ≠ id) : b'.record j = b.record j := by
    rw [hrecord]
    exact Function.update_of_ne hj _ _
  have hparty {party : Subscription → Address} (hsame : party new = party stored) (j : Nat) :
      (b'.record j).map party = (b.record j).map party := by
    by_cases hj : j = id
    · subst hj
      rw [hself, hstored, Option.map_some, Option.map_some, hsame]
    · rw [hother hj]
  refine ⟨hparty (hparties.1.trans hmerchant.symm), hparty (hparties.2.1.trans htoken.symm),
    hparty (hparties.2.2.trans hsubscriber.symm), fun j hj => ?_, hlists.1, hlists.2.1,
    hlists.2.2⟩
  obtain ⟨record, hfound, hfinal⟩ := hj
  by_cases hne : j = id
  · subst hne
    obtain rfl := Option.some.inj (hself.symm.trans hfound)
    exact ⟨stored, hstored, hcancelled.mpr (hstatus hfinal)⟩
  · exact ⟨record, (hother hne).symm.trans hfound, hfinal⟩

theorem Book.Retains.indexed (h : b.Retains b') (hindexed : b.Indexed gone) : b'.Indexed gone where
  merchants := by
    rw [h.merchantSubs]
    refine hindexed.merchants.congr fun id => ?_
    unfold Book.ownerIn
    rw [h.merchant id]
  tokens := by
    rw [h.tokenSubs]
    refine hindexed.tokens.congr fun id => ?_
    unfold Book.ownerIn
    rw [h.token id]
  subscribers := by
    rw [h.subscriberSubs]
    refine hindexed.subscribers.congr fun id => ?_
    unfold Book.ownerIn
    rw [h.subscriber id]

theorem EditsRecord.retains (h : EditsRecord b id b') : b.Retains b' := by
  obtain ⟨sub, new, hreads, hnew, rfl⟩ := h
  refine .of_record hreads rfl ⟨rfl, rfl, rfl⟩ ?_ ?_ <;> rw [hnew]
  · exact ⟨rfl, rfl, rfl⟩
  · exact fun h => h

theorem RevivesRecord.retains (h : RevivesRecord b id b') : b.Retains b' := by
  obtain ⟨sub, new, hreads, -, hnew, rfl⟩ := h
  refine .of_record hreads rfl ⟨rfl, rfl, rfl⟩ ?_ ?_ <;> rw [hnew]
  · exact ⟨rfl, rfl, rfl⟩
  · exact nofun

theorem PausesRecord.retains (h : PausesRecord b id b') : b.Retains b' := by
  obtain ⟨sub, hreads, -, -, rfl⟩ := h
  exact .of_record hreads rfl ⟨rfl, rfl, rfl⟩ ⟨rfl, rfl, rfl⟩ nofun

theorem ResumesRecord.retains (h : ResumesRecord b id b') : b.Retains b' := by
  obtain ⟨sub, hreads, -, rfl⟩ := h
  exact .of_record hreads rfl ⟨rfl, rfl, rfl⟩ ⟨rfl, rfl, rfl⟩ nofun

theorem ResumesRecords.retains (h : ResumesRecords b b') : b.Retains b' := by
  induction h with
  | done => exact .refl _
  | next hfirst _ ih => exact hfirst.retains.trans ih

theorem ArchivesRecord.retains (h : ArchivesRecord env b id b') : b.Retains b' := by
  obtain ⟨sub, hreads, -, -, rfl⟩ := h
  exact .of_record hreads rfl ⟨rfl, rfl, rfl⟩ ⟨rfl, rfl, rfl⟩ nofun

theorem ReplansRecord.retains {plan : PlanTemplate} (h : ReplansRecord b id b' plan) :
    b.Retains b' := by
  obtain ⟨sub, hreads, rfl⟩ := h
  exact .of_record hreads rfl ⟨rfl, rfl, rfl⟩ ⟨rfl, rfl, rfl⟩ fun h => h

theorem BuysOut.retains (h : BuysOut env b id b') : b.Retains b' := by
  obtain ⟨sub, new, hreads, -, -, hnew, hactive, rfl⟩ := h
  refine .of_record hreads rfl ⟨rfl, rfl, rfl⟩ ?_ ?_
  · rw [hnew]
    exact ⟨rfl, rfl, rfl⟩
  · rw [hactive]
    exact nofun

/-- A charge of `amount` uses up the lifetime cap. -/
def Subscription.capReachedBy (sub : Subscription) (amount : Int) : Bool :=
  sub.lifetimeCap.any (· ≤ sub.lifetimeCharged + amount)

/-- No charge cancels the subscription by itself. -/
def SparedByCharge (env : Env) (s : State) (id : Nat) : Prop :=
  ∀ sub, Cleared env s id sub → sub.status ≠ .cancelled → canTransition sub.status .cancelled →
    ¬CapBlocks env s id sub ∧ sub.cancelAt.any (· ≤ env.now) = false ∧
    ∀ amount, IntervalDue env s id sub amount → 0 ≤ amount → amount ≤ sub.prepaidBalance →
      sub.capReachedBy amount = false

theorem Subscription.isChargeable.cancellable (h : sub.isChargeable) :
    canTransition sub.status .cancelled = true := by
  rcases h with h | h | h <;> rw [h] <;> rfl

theorem IntervalChanges.retains (h : IntervalChanges env s id b')
    (hspared : SparedByCharge env s id) : s.book.Retains b' := by
  cases h with
  | unchanged => exact .refl _
  | expired hadmitted _ _ =>
    exact .of_record (Book.reads_of_effective hadmitted.found) rfl ⟨rfl, rfl, rfl⟩
      ⟨rfl, rfl, rfl⟩ nofun
  | capped hclear hother hcan hblocks =>
    exact absurd hblocks (hspared _ hclear hother hcan).1
  | cancelled hclear hother hcan hdue =>
    have hlater := (hspared _ hclear hother hcan).2.1
    rw [hdue] at hlater
    cases hlater
  | short hdue _ hstatus hnew =>
    refine .of_record hdue.reads rfl ⟨rfl, rfl, rfl⟩ (by rw [hnew]; exact ⟨rfl, rfl, rfl⟩) ?_
    rcases hstatus with h | h | h
    · rw [h]
      exact nofun
    · rw [h]
      exact nofun
    · rw [h.1]
      exact nofun
  | booked hbooks =>
    obtain ⟨sub, new, amount, hdue, hfunded, hsettled, hends⟩ := hbooks
    have hleft : sub.capReachedBy amount = false :=
      (hspared _ hdue.toCleared hdue.chargeable.ne_cancelled hdue.chargeable.cancellable).2.2
        amount hdue hfunded.1 hfunded.2
    have hcap : new.capReached = false := by
      rw [hsettled.2]
      exact hleft
    have hactive : new.status = .active := by
      rw [hsettled.1, hcap]
      rfl
    have hparties : new.merchant = sub.merchant ∧ new.token = sub.token ∧
        new.subscriber = sub.subscriber := by
      rw [hsettled.2]
      exact ⟨rfl, rfl, rfl⟩
    have hstatus : new.status = .cancelled → sub.status = .cancelled := by
      rw [hactive]
      exact nofun
    rcases hends with rfl | rfl
    · exact .of_record hdue.reads rfl ⟨rfl, rfl, rfl⟩ hparties hstatus
    · exact .of_record hdue.reads rfl ⟨rfl, rfl, rfl⟩ hparties hstatus

theorem UsageChanges.retains {usageAmount : Int} (h : UsageChanges env s id usageAmount b')
    (hspared : ∀ sub reference, UsageDue env s id sub usageAmount reference →
      sub.capReachedBy usageAmount = false) : s.book.Retains b' := by
  cases h with
  | unchanged => exact .refl _
  | @capped sub reference hdue hcap =>
    have hleft := hspared sub reference hdue
    unfold Subscription.capReachedBy at hleft
    unfold Subscription.capExceededBy at hcap
    cases hlifetime : sub.lifetimeCap with
    | none => simp [hlifetime] at hcap
    | some cap =>
      simp only [hlifetime, Option.any_some, decide_eq_true_eq, decide_eq_false_iff_not] at hcap hleft
      omega
  | @booked sub new reference hdue _ hsettled =>
    have hcap : new.capReached = false := by
      rw [hsettled.2]
      exact hspared sub reference hdue
    refine .of_record hdue.reads rfl ⟨rfl, rfl, rfl⟩ (by rw [hsettled.2]; exact ⟨rfl, rfl, rfl⟩) ?_
    rw [hsettled.1, hcap]
    split
    · contradiction
    · split
      · exact nofun
      · exact nofun
  | unfit hdue =>
    exact .of_record hdue.reads rfl ⟨rfl, rfl, rfl⟩ ⟨rfl, rfl, rfl⟩ nofun

end Retains

/-! ## Changes of the lists -/

section Listing

variable {env : Env} {s : State} {b b' : Book} {gone : Set Nat} {id : Nat}

@[simp] theorem Book.setRecord_self (b : Book) (id : Nat) (new : Subscription) :
    (b.setRecord id new).record id = some new := Function.update_self _ _ _

theorem Book.setRecord_of_ne (b : Book) {j : Nat} (hj : j ≠ id) (new : Subscription) :
    (b.setRecord id new).record j = b.record j := Function.update_of_ne hj _ _

/-- Writing a record that is not cancelled cancels nothing. -/
theorem Book.Retired.goneAfter_setRecord (h : b.Retired gone) {new : Subscription}
    (hrecord : b'.record = (b.setRecord id new).record)
    (hnew : new.status = .cancelled → id ∈ gone) : b'.goneAfter gone = gone := by
  refine Book.goneAfter_eq fun j hj => ?_
  obtain ⟨found, hfound, hstatus⟩ := hj
  rw [hrecord] at hfound
  by_cases hne : j = id
  · subst hne
    rw [Book.setRecord_self] at hfound
    obtain rfl := Option.some.inj hfound
    exact hnew hstatus
  · rw [Book.setRecord_of_ne b hne] at hfound
    exact h.cancelled j ⟨found, hfound, hstatus⟩

/-- What the owners become when one record is written. -/
theorem Book.ownerIn_of_record (hlive : id ∉ gone) {new : Subscription}
    (hrecord : b'.record = (b.setRecord id new).record) (party : Subscription → Address) (j : Nat) :
    b'.ownerIn gone party j = Function.update (b.ownerIn gone party) id (some (party new)) j := by
  by_cases hj : j = id
  · subst hj
    rw [Book.ownerIn_of_live hlive, Function.update_self, hrecord, Book.setRecord_self]
    rfl
  · rw [Function.update_of_ne hj]
    unfold Book.ownerIn
    rw [hrecord, Book.setRecord_of_ne b hj]

theorem CreatesRecord.indexed (h : CreatesRecord env b b') (hnumbered : b.Numbered)
    (hretired : b.Retired gone) (hindexed : b.Indexed gone) : b'.Indexed (b'.goneAfter gone) := by
  obtain ⟨sub, hactive, -, -, -, -, hbook, -⟩ := h
  have hrecord : b'.record = (b.setRecord b.nextId sub).record := by
    rw [hbook]
    rfl
  have hmerchants : b'.merchantSubs = Function.update b.merchantSubs sub.merchant
      (b.merchantSubs sub.merchant ++ [b.nextId]) := by
    rw [hbook]
    rfl
  have htokens : b'.tokenSubs = Function.update b.tokenSubs sub.token
      (b.tokenSubs sub.token ++ [b.nextId]) := by
    rw [hbook]
    rfl
  have hsubscribers : b'.subscriberSubs = Function.update b.subscriberSubs sub.subscriber
      (b.subscriberSubs sub.subscriber ++ [b.nextId]) := by
    rw [hbook]
    rfl
  have hunused : b.record b.nextId = none := hnumbered.unused _ le_rfl
  have hlive : b.nextId ∉ gone := by
    intro hgone
    obtain ⟨other, hother, -⟩ := hretired.final _ hgone
    rw [hunused] at hother
    cases hother
  have hfree (party : Subscription → Address) : b.ownerIn gone party b.nextId = none := by
    rw [Book.ownerIn_of_live hlive, hunused]
    rfl
  have hgone : b'.goneAfter gone = gone := by
    refine hretired.goneAfter_setRecord hrecord ?_
    rw [hactive]
    exact nofun
  rw [hgone]
  refine ⟨?_, ?_, ?_⟩
  · rw [hmerchants]
    exact (hindexed.merchants.append (hfree _) _).congr (Book.ownerIn_of_record hlive hrecord _)
  · rw [htokens]
    exact (hindexed.tokens.append (hfree _) _).congr (Book.ownerIn_of_record hlive hrecord _)
  · rw [hsubscribers]
    exact (hindexed.subscribers.append (hfree _) _).congr (Book.ownerIn_of_record hlive hrecord _)

theorem CancelsRecord.indexed (h : CancelsRecord b id b') (hretired : b.Retired gone)
    (hindexed : b.Indexed gone) : b'.Indexed (b'.goneAfter gone) := by
  obtain ⟨sub, hreads, -, -, hbook⟩ := h
  obtain ⟨stored, hstored, hmerchant, htoken, hsubscriber, -⟩ := hreads.parties
  have hrecord : b'.record = (b.setRecord id
      { sub with status := .cancelled, prepaidBalance := 0 }).record := by
    rw [hbook]
    split <;> rfl
  have hmerchants : b'.merchantSubs = Function.update b.merchantSubs sub.merchant
      ((b.merchantSubs sub.merchant).erase id) := by
    rw [hbook]
    split <;> rfl
  have htokens : b'.tokenSubs = Function.update b.tokenSubs sub.token
      ((b.tokenSubs sub.token).erase id) := by
    rw [hbook]
    split <;> rfl
  have hsubscribers : b'.subscriberSubs = Function.update b.subscriberSubs sub.subscriber
      ((b.subscriberSubs sub.subscriber).erase id) := by
    rw [hbook]
    split <;> rfl
  have hgone : b'.goneAfter gone = insert id gone := by
    ext j
    by_cases hj : j = id
    · subst hj
      exact iff_of_true (.inr ⟨_, by rw [hrecord, Book.setRecord_self], rfl⟩) (Set.mem_insert _ _)
    · rw [Set.mem_insert_iff, or_iff_right hj]
      refine or_iff_left_of_imp fun hnow => ?_
      obtain ⟨found, hfound, hstatus⟩ := hnow
      rw [hrecord, Book.setRecord_of_ne b hj] at hfound
      exact hretired.cancelled j ⟨found, hfound, hstatus⟩
  have howner (party : Subscription → Address) (j : Nat) : b'.ownerIn (insert id gone) party j =
      Function.update (b.ownerIn gone party) id none j := by
    by_cases hj : j = id
    · subst hj
      rw [Book.ownerIn_of_gone (Set.mem_insert _ _), Function.update_self]
    · rw [Function.update_of_ne hj]
      by_cases hother : j ∈ gone
      · rw [Book.ownerIn_of_gone hother, Book.ownerIn_of_gone (Set.mem_insert_of_mem _ hother)]
      · rw [Book.ownerIn_of_live hother, Book.ownerIn_of_live, hrecord,
          Book.setRecord_of_ne b hj]
        exact fun hmem => hmem.elim hj hother
  have hlisted {party : Subscription → Address} (hparty : party stored = party sub) (a : Address)
      (ha : b.ownerIn gone party id = some a) : a = party sub := by
    obtain ⟨-, found, hfound, rfl⟩ := Book.ownerIn_eq_some.mp ha
    obtain rfl := Option.some.inj (hstored.symm.trans hfound)
    exact hparty
  rw [hgone]
  refine ⟨?_, ?_, ?_⟩
  · rw [hmerchants]
    exact (hindexed.merchants.erase (hlisted hmerchant)).congr (howner _)
  · rw [htokens]
    exact (hindexed.tokens.erase (hlisted htoken)).congr (howner _)
  · rw [hsubscribers]
    exact (hindexed.subscribers.erase (hlisted hsubscriber)).congr (howner _)

/-- Only a subscription that is still listed may change hands. -/
theorem TransfersRecord.indexed {«to» : Address} (h : TransfersRecord b id b' «to»)
    (hretired : b.Retired gone) (hindexed : b.Indexed gone)
    (hlisted : ∀ stored, b.record id = some stored → id ∈ b.subscriberSubs stored.subscriber) :
    b'.Indexed (b'.goneAfter gone) := by
  obtain ⟨sub, hreads, hbook⟩ := h
  obtain ⟨stored, hstored, hmerchant, htoken, hsubscriber, hcancelled⟩ := hreads.parties
  have hlive : id ∉ gone :=
    (Book.ownerIn_eq_some.mp ((hindexed.subscribers.mem _ _).mp (hlisted stored hstored))).1
  have hrecord : b'.record = (b.setRecord id { sub with subscriber := «to» }).record := by
    rw [hbook]
    dsimp only
    split <;> rfl
  have hmerchants : b'.merchantSubs = b.merchantSubs := by
    rw [hbook]
    dsimp only
    split <;> rfl
  have htokens : b'.tokenSubs = b.tokenSubs := by
    rw [hbook]
    dsimp only
    split <;> rfl
  have hsubscribers : b'.subscriberSubs = Function.update
      (Function.update b.subscriberSubs sub.subscriber
        ((b.subscriberSubs sub.subscriber).erase id)) «to»
      (Function.update b.subscriberSubs sub.subscriber
        ((b.subscriberSubs sub.subscriber).erase id) «to» ++ [id]) := by
    rw [hbook]
    dsimp only
    split <;> rfl
  have hgone : b'.goneAfter gone = gone := by
    refine hretired.goneAfter_setRecord hrecord fun hstatus => ?_
    exact hretired.cancelled id ⟨stored, hstored, hcancelled.mpr hstatus⟩
  -- for the merchant and the token nothing has changed
  have hkept (party : Subscription → Address) (hparty : party stored = party sub)
      (hsame : party { sub with subscriber := «to» } = party sub) (j : Nat) :
      b'.ownerIn gone party j = b.ownerIn gone party j := by
    rw [Book.ownerIn_of_record hlive hrecord party j, hsame, ← hparty]
    refine congrFun (Function.update_eq_self_iff.mpr ?_) j
    rw [Book.ownerIn_of_live hlive, hstored]
    rfl
  have hheld (a : Address) (ha : b.ownerIn gone (·.subscriber) id = some a) :
      a = sub.subscriber := by
    obtain ⟨-, found, hfound, rfl⟩ := Book.ownerIn_eq_some.mp ha
    obtain rfl := Option.some.inj (hstored.symm.trans hfound)
    exact hsubscriber
  rw [hgone]
  refine ⟨?_, ?_, ?_⟩
  · rw [hmerchants]
    exact hindexed.merchants.congr (hkept (·.merchant) hmerchant rfl)
  · rw [htokens]
    exact hindexed.tokens.congr (hkept (·.token) htoken rfl)
  · rw [hsubscribers]
    exact (hindexed.subscribers.move hheld «to»).congr (Book.ownerIn_of_record hlive hrecord _)

end Listing

/-! ## Merchant rotation -/

section Merging

variable {α : Type} [DecidableEq α] {existing : List α}

theorem mem_mergeInto (existing moved : List α) (a : α) :
    a ∈ mergeInto existing moved ↔ a ∈ existing ∨ a ∈ moved := by
  induction moved generalizing existing with
  | nil => simp [mergeInto]
  | cons first rest ih =>
    have hstep : mergeInto existing (first :: rest) =
        mergeInto (if first ∈ existing then existing else existing ++ [first]) rest := rfl
    rw [hstep, ih]
    split
    · rename_i hfirst
      refine ⟨fun h => h.imp_right (List.mem_cons_of_mem _), ?_⟩
      rintro (h | h)
      · exact .inl h
      · rcases List.mem_cons.mp h with rfl | h
        · exact .inl hfirst
        · exact .inr h
    · simp [or_assoc]

theorem nodup_mergeInto (h : existing.Nodup) (moved : List α) :
    (mergeInto existing moved).Nodup := by
  induction moved generalizing existing with
  | nil => exact h
  | cons first rest ih =>
    have hnodup : (if first ∈ existing then existing else existing ++ [first]).Nodup := by
      split
      · exact h
      · rename_i hfirst
        exact h.append (List.nodup_singleton first) (by simpa using hfirst)
    exact ih hnodup

end Merging

section Rotation

variable {b : Book} {gone : Set Nat} {oldMerchant newMerchant : Address}

theorem Subscription.rehomed_same (sub : Subscription) (oldMerchant newMerchant : Address) :
    (sub.rehomed oldMerchant newMerchant).token = sub.token ∧
      (sub.rehomed oldMerchant newMerchant).subscriber = sub.subscriber ∧
      (sub.rehomed oldMerchant newMerchant).status = sub.status := by
  unfold Subscription.rehomed
  split <;> exact ⟨rfl, rfl, rfl⟩

theorem Book.rotated_record (b : Book) (oldMerchant newMerchant : Address) (id : Nat) :
    (b.rotated oldMerchant newMerchant).record id =
      if id ∈ b.merchantSubs oldMerchant then
        (b.record id).map (·.rehomed oldMerchant newMerchant) else b.record id := rfl

/-- A party other than the merchant stays. -/
theorem Book.rotated_party {α : Type} {party : Subscription → α}
    (hparty : ∀ sub, party (sub.rehomed oldMerchant newMerchant) = party sub) (id : Nat) :
    ((b.rotated oldMerchant newMerchant).record id).map party = (b.record id).map party := by
  rw [Book.rotated_record]
  split
  · rw [Option.map_map]
    exact congrArg (fun f => (b.record id).map f) (funext hparty)
  · rfl

theorem Book.rotated_goneAfter (hretired : b.Retired gone) :
    (b.rotated oldMerchant newMerchant).goneAfter gone = gone := by
  refine Book.goneAfter_eq fun id hcancelled => hretired.cancelled id ?_
  have hstatus : ((b.rotated oldMerchant newMerchant).record id).map (·.status) =
      (b.record id).map (·.status) :=
    Book.rotated_party (fun sub => (sub.rehomed_same _ _).2.2) id
  obtain ⟨sub, hsub, hfinal⟩ := hcancelled
  rw [hsub, Option.map_some, hfinal] at hstatus
  exact Option.map_eq_some_iff.mp hstatus.symm

/-- The records the old merchant owned belong to the new one. -/
theorem Book.rotated_merchant (hindexed : b.Indexed gone) (id : Nat) :
    (b.rotated oldMerchant newMerchant).ownerIn gone (·.merchant) id =
      if b.ownerIn gone (·.merchant) id = some oldMerchant then some newMerchant
      else b.ownerIn gone (·.merchant) id := by
  by_cases hgone : id ∈ gone
  · rw [Book.ownerIn_of_gone hgone, Book.ownerIn_of_gone hgone, if_neg nofun]
  · have hmem := hindexed.merchants.mem oldMerchant id
    rw [Book.ownerIn_of_live hgone, Book.rotated_record]
    by_cases hlisted : id ∈ b.merchantSubs oldMerchant
    · obtain ⟨-, sub, hsub, hmerchant⟩ := Book.ownerIn_eq_some.mp (hmem.mp hlisted)
      rw [if_pos hlisted, if_pos (hmem.mp hlisted), hsub, Option.map_some, Option.map_some,
        Subscription.rehomed, if_pos hmerchant]
    · rw [if_neg hlisted, if_neg (mt hmem.mpr hlisted), Book.ownerIn_of_live hgone]

theorem Book.rotated_indexed (hne : oldMerchant = newMerchant → b.merchantSubs oldMerchant = [])
    (hretired : b.Retired gone) (hindexed : b.Indexed gone) :
    (b.rotated oldMerchant newMerchant).Indexed
      ((b.rotated oldMerchant newMerchant).goneAfter gone) := by
  have hsame {party : Subscription → Address}
      (hparty : ∀ sub, party (sub.rehomed oldMerchant newMerchant) = party sub) (id : Nat) :
      (b.rotated oldMerchant newMerchant).ownerIn gone party id = b.ownerIn gone party id := by
    unfold Book.ownerIn
    rw [Book.rotated_party hparty id]
  rw [Book.rotated_goneAfter hretired]
  refine ⟨?_, hindexed.tokens.congr (hsame fun sub => (sub.rehomed_same _ _).1),
    hindexed.subscribers.congr (hsame fun sub => (sub.rehomed_same _ _).2.1)⟩
  by_cases heq : oldMerchant = newMerchant
  · -- nothing is listed, so that nothing is lost
    have hempty := hne heq
    have hlists : (b.rotated oldMerchant newMerchant).merchantSubs = b.merchantSubs := by
      subst heq
      unfold Book.rotated Book.setMerchantSubs
      rw [Function.update_idem, ← hempty]
      exact Function.update_eq_self _ _
    rw [hlists]
    refine hindexed.merchants.congr fun id => ?_
    rw [Book.rotated_merchant hindexed, ← heq]
    split
    · rename_i howner
      exact howner.symm
    · rfl
  · exact (hindexed.merchants.absorb heq
      (nodup_mergeInto (hindexed.merchants.nodup newMerchant) (b.merchantSubs oldMerchant))
      fun id => mem_mergeInto _ _ id).congr (Book.rotated_merchant hindexed)

end Rotation

/-! ## Steps and runs -/

/-- The operation cancels nothing by itself, moves nothing that is cancelled, rotates no
address with subscriptions to itself, and restores nothing. -/
def Operation.KeepsIndexes (env : Env) (s : State) : Operation → Prop
  | .charge id => SparedByCharge env s id
  | .chargeUsage id usageAmount => ∀ sub reference,
      UsageDue env s id sub usageAmount reference → sub.capReachedBy usageAmount = false
  | .transfer id _ => ∀ sub, s.subscription id = some sub →
      id ∈ s.subscriberSubs sub.subscriber
  | .rotate oldMerchant newMerchant => oldMerchant = newMerchant → s.merchantSubs oldMerchant = []
  | .restore _ => False
  | _ => True

section Runs

variable {env : Env} {start s t : State} {b' : Book} {gone : Set Nat}
  {hist : History VaultAction State}

theorem Operation.Changes.indexed {op : Operation} (h : op.Changes env s b')
    (hkeeps : op.KeepsIndexes env s) (hnumbered : s.book.Numbered)
    (hretired : s.book.Retired gone) (hindexed : s.book.Indexed gone) :
    b'.Indexed (b'.goneAfter gone) := by
  have hretains (h : s.book.Retains b') : b'.Indexed (b'.goneAfter gone) := by
    rw [Book.goneAfter_eq fun id hcancelled => hretired.cancelled id (h.cancelled id hcancelled)]
    exact h.indexed hindexed
  cases op with
  | create => exact CreatesRecord.indexed h hnumbered hretired hindexed
  | deposit => exact hretains (h.elim EditsRecord.retains RevivesRecord.retains)
  | charge => exact hretains (IntervalChanges.retains h hkeeps)
  | chargeUsage => exact hretains (UsageChanges.retains h hkeeps)
  | buyOut => exact hretains (BuysOut.retains h)
  | cancel => exact CancelsRecord.indexed h hretired hindexed
  | pause => exact hretains (PausesRecord.retains h)
  | resume => exact hretains (h.elim ResumesRecord.retains RevivesRecord.retains)
  | edit => exact hretains (EditsRecord.retains h)
  | archive => exact hretains (ArchivesRecord.retains h)
  | replan =>
    obtain ⟨_, -, h⟩ := h
    exact hretains h.retains
  | transfer => exact TransfersRecord.indexed h hretired hindexed hkeeps
  | unblock => exact hretains (ResumesRecords.retains h)
  | rotate =>
    obtain rfl := h
    exact Book.rotated_indexed hkeeps hretired hindexed
  | restore => exact hkeeps.elim
  | renumber =>
    obtain rfl := h.2 hnumbered.current
    exact hretains (.refl _)
  | other => exact h.elim

theorem retired_of_step {l : VaultAction} (hretired : s.book.Retired gone)
    (hnumbered : s.book.Numbered) (hstep : VaultStep l s t)
    (hkeeps : l.operation.KeepsIndexes l.env s) : t.book.Retired (t.book.goneAfter gone) where
  cancelled id := .inr
  final id hid := by
    rcases hid with hgone | ⟨sub, hsub, hstatus⟩
    · obtain ⟨sub, hsub, hstatus⟩ := hretired.final id hgone
      have hterminal : sub.status.isTerminal = true := by
        rcases hstatus with h | h <;> rw [h] <;> rfl
      have hspares : l.operation.Spares s id := by
        generalize l.operation = op at hkeeps
        cases op with
        | create =>
          rintro rfl
          rw [show s.book.record s.nextSubscriptionId = none from hnumbered.unused _ le_rfl] at hsub
          cases hsub
        | restore => exact hkeeps
        | _ => trivial
      obtain ⟨new, hnew, -, hafter, -⟩ :=
        finished_of_step ⟨sub, hsub, hterminal, .inl rfl, rfl⟩ hstep hspares
      refine ⟨new, hnew, ?_⟩
      rcases hafter with hafter | hafter
      · rwa [hafter]
      · exact .inr hafter
    · exact ⟨sub, hsub, .inl hstatus⟩

theorem cancelledIn_next (l : VaultAction) :
    cancelledIn ((l, s) :: hist) t = t.book.goneAfter (cancelledIn hist s) := by
  ext id
  simp only [cancelledIn, Book.goneAfter, Set.mem_ofPred_eq, List.mem_cons, exists_eq_or_imp]
  exact or_comm

theorem indexed_of_run (hstart : Deployed start) (hrun : Run VaultStep start hist s)
    (hkeeps : ∀ step ∈ hist, step.1.operation.KeepsIndexes step.1.env step.2) :
    s.book.Numbered ∧ s.book.Retired (cancelledIn hist s) ∧
      s.book.Indexed (cancelledIn hist s) := by
  induction hrun with
  | start =>
    have hnone : cancelledIn [] start = ∅ := by
      ext id
      simp [cancelledIn, Book.Cancelled, hstart.book, Book.blank]
    rw [hnone]
    refine ⟨hstart.numbered, ⟨fun id hid => ?_, fun id hid => hid.elim⟩, ?_⟩
    · obtain ⟨sub, hsub, -⟩ := hid
      rw [hstart.book] at hsub
      cases hsub
    · rw [hstart.book]
      exact ⟨ListsOwned.empty.congr fun id => by simp [Book.ownerIn, Book.blank],
        ListsOwned.empty.congr fun id => by simp [Book.ownerIn, Book.blank],
        ListsOwned.empty.congr fun id => by simp [Book.ownerIn, Book.blank]⟩
  | @next hist s t l _ hlast ih =>
    obtain ⟨hnumbered, hretired, hindexed⟩ :=
      ih fun step hmem => hkeeps step (List.mem_cons_of_mem _ hmem)
    have hstep : l.operation.KeepsIndexes l.env s := hkeeps _ List.mem_cons_self
    rw [cancelledIn_next]
    refine ⟨numbered_of_step hnumbered hlast fun summaries hrestore => ?_,
      retired_of_step hretired hnumbered hlast hstep, ?_⟩
    · rw [hrestore] at hstep
      exact hstep
    · rcases hlast.changes with hsame | hchanges
      · rw [hsame, Book.goneAfter_eq hretired.cancelled]
        exact hindexed
      · exact hchanges.indexed hstep hnumbered hretired hindexed

/-- In every run in which no charge cancels a subscription, nothing cancelled changes hands and
no address is rotated to itself, the lists hold exactly what has not been cancelled. -/
theorem indexes_of_run (hstart : Deployed start) (hrun : Run VaultStep start hist s)
    (hkeeps : ∀ step ∈ hist, step.1.operation.KeepsIndexes step.1.env step.2) :
    s.ListsLive (cancelledIn hist s) s.merchantSubs (·.merchant) ∧
      s.ListsLive (cancelledIn hist s) s.tokenSubs (·.token) ∧
      s.ListsLive (cancelledIn hist s) s.subscriberSubs (·.subscriber) := by
  obtain ⟨-, -, hindexed⟩ := indexed_of_run hstart hrun hkeeps
  exact ⟨State.listsLive_of_owned hindexed.merchants, State.listsLive_of_owned hindexed.tokens,
    State.listsLive_of_owned hindexed.subscribers⟩

end Runs

section Examples

/-- A subscription that is to be cancelled at 30 is due at 60. -/
private def overdueActions : List VaultAction :=
  [.call (sampleEnv 60 []) (.chargeSubscription 0 none),
   .call (sampleEnv 0 [⟨2⟩]) (.scheduleCancel 0 ⟨2⟩ 30),
   .call (sampleEnv 0 [⟨2⟩]) (.createSubscription sampleRequest)]

private theorem overdue_run : Run VaultStep (sampleStart 0)
    (actionHistory (afterCalls (sampleVault 0)) overdueActions ++
      [(.other (sampleEnv 0 []), sampleStart 0)])
    (actionsAfter (afterCalls (sampleVault 0)) overdueActions) :=
  run_actions (sample_prepared 0) (by decide +kernel)

/-- The charge cancels the subscription, and all three lists still hold it. -/
theorem cancelled_subscription_listed : ∃ start hist s, Deployed start ∧
    Run VaultStep start hist s ∧ (s.subscription 0).map (·.status) = some .cancelled ∧
    s.merchantSubs ⟨1⟩ = [0] ∧ s.tokenSubs ⟨9⟩ = [0] ∧ s.subscriberSubs ⟨2⟩ = [0] ∧
    ¬s.ListsLive (cancelledIn hist s) s.merchantSubs (·.merchant) := by
  have hlisted : (actionsAfter (afterCalls (sampleVault 0)) overdueActions).merchantSubs ⟨1⟩ =
      [0] := by decide +kernel
  have hcancelled : ((actionsAfter (afterCalls (sampleVault 0)) overdueActions).subscription 0).map
      (·.status) = some .cancelled := by decide +kernel
  refine ⟨_, _, _, sample_deployed 0, overdue_run, hcancelled, hlisted, by decide +kernel,
    by decide +kernel, fun hlive => ?_⟩
  have hmem := ((hlive ⟨1⟩).2 0).mp (hlisted ▸ List.mem_singleton_self 0)
  exact hmem.1 (.inl (Option.map_eq_some_iff.mp hcancelled))

private def withdrawnActions : List VaultAction :=
  [.call (sampleEnv 60 [⟨2⟩]) (.cancelSubscription 0 ⟨2⟩),
   .call (sampleEnv 0 [⟨2⟩]) (.createSubscription sampleRequest)]

/-- A subscription its subscriber cancels. -/
theorem indexes_of_withdrawn :
    let s := actionsAfter (afterCalls (sampleVault 0)) withdrawnActions
    let gone := cancelledIn (actionHistory (afterCalls (sampleVault 0)) withdrawnActions ++
      [(.other (sampleEnv 0 []), sampleStart 0)]) s
    s.ListsLive gone s.merchantSubs (·.merchant) ∧ s.ListsLive gone s.tokenSubs (·.token) ∧
      s.ListsLive gone s.subscriberSubs (·.subscriber) := by
  refine indexes_of_run (sample_deployed 0)
    (run_actions (sample_prepared 0) (by decide +kernel)) fun step hmem => ?_
  simp only [actionHistory, withdrawnActions, List.cons_append, List.nil_append, List.mem_cons,
    List.not_mem_nil, or_false] at hmem
  rcases hmem with rfl | rfl | rfl <;> trivial

end Examples

end SubscriptionVault
