import SubscriptionVault.Contract.Listings
import SubscriptionVault.Framework.Paging
import SubscriptionVault.Lifecycle.Prepaid
import SubscriptionVault.Lifecycle.Rewrites

/-!
# The subscriptions of a subscriber

The listing goes through a subscriber's index in its order and resumes at an id, which stands for
a place only as long as the ids ascend. They do until an older subscription changes hands: its id
goes to the end of the new owner's index.
-/

namespace SubscriptionVault

open Exec

/-! ## What happens to the indexes -/

/-- What an operation does to the indexes of the subscribers. -/
inductive ListsChange (b b' : Book) : Operation → Prop
  | kept {op : Operation} : op ≠ .create → (∀ id «to», op ≠ .transfer id «to») →
      b'.subscriberSubs = b.subscriberSubs → ListsChange b b' op
  | entered {sub : Subscription} : b'.record b.nextId = some sub →
      b'.subscriberSubs = Function.update b.subscriberSubs sub.subscriber
        (b.subscriberSubs sub.subscriber ++ [b.nextId]) → ListsChange b b' .create
  | dropped {id : Nat} {sub : Subscription} :
      b'.subscriberSubs = Function.update b.subscriberSubs sub.subscriber
        ((b.subscriberSubs sub.subscriber).erase id) → ListsChange b b' (.cancel id)
  | moved {id : Nat} {sub new : Subscription} : b.Reads id sub → b'.record id = some new →
      b'.subscriberSubs = Function.update
        (Function.update b.subscriberSubs sub.subscriber
          ((b.subscriberSubs sub.subscriber).erase id)) new.subscriber
        (Function.update b.subscriberSubs sub.subscriber
          ((b.subscriberSubs sub.subscriber).erase id) new.subscriber ++ [id]) →
      ListsChange b b' (.transfer id new.subscriber)

section Lists

variable {env : Env} {s t : State} {b' : Book} {op : Operation} {id : Nat} {a : Address}

theorem Operation.Changes.lists (h : op.Changes env s b') : ListsChange s.book b' op := by
  have hkept (hcreate : op ≠ .create) (htransfer : ∀ id «to», op ≠ .transfer id «to»)
      (heq : b'.subscriberSubs = s.book.subscriberSubs) : ListsChange s.book b' op :=
    .kept hcreate htransfer heq
  cases op with
  | create =>
    obtain ⟨sub, -, -, -, -, -, hbook, -⟩ := h
    refine @ListsChange.entered s.book _ sub ?_ ?_
    · rw [hbook]
      exact Function.update_self ..
    · rw [hbook]
      rfl
  | deposit j =>
    refine hkept nofun nofun ?_
    rcases h with ⟨_, _, -, -, rfl⟩ | ⟨_, _, -, -, -, rfl⟩ <;> rfl
  | charge j =>
    refine hkept nofun nofun ?_
    cases h with
    | booked hbooks => obtain ⟨_, _, _, -, -, -, rfl | rfl⟩ := hbooks <;> rfl
    | _ => rfl
  | chargeUsage j amount =>
    refine hkept nofun nofun ?_
    cases h <;> rfl
  | buyOut j =>
    obtain ⟨_, _, -, -, -, -, -, rfl⟩ := h
    exact hkept nofun nofun rfl
  | cancel j =>
    obtain ⟨sub, -, -, -, hbook⟩ := h
    refine @ListsChange.dropped s.book _ j sub ?_
    rw [hbook]
    split <;> rfl
  | pause j =>
    obtain ⟨_, -, -, -, rfl⟩ := h
    exact hkept nofun nofun rfl
  | resume j =>
    refine hkept nofun nofun ?_
    rcases h with ⟨_, -, -, rfl⟩ | ⟨_, _, -, -, -, rfl⟩ <;> rfl
  | edit j =>
    obtain ⟨_, _, -, -, rfl⟩ := h
    exact hkept nofun nofun rfl
  | archive j =>
    obtain ⟨_, -, -, -, rfl⟩ := h
    exact hkept nofun nofun rfl
  | replan j planId =>
    obtain ⟨_, -, _, -, rfl⟩ := h
    exact hkept nofun nofun rfl
  | transfer j «to» =>
    obtain ⟨sub, hreads, hbook⟩ := h
    refine @ListsChange.moved s.book _ j sub { sub with subscriber := «to» } hreads ?_ ?_
    · rw [hbook]
      exact Function.update_self ..
    · rw [hbook]
      dsimp only
      split <;> rfl
  | unblock =>
    refine hkept nofun nofun ?_
    have hresumes : ResumesRecords s.book b' := h
    clear hkept h
    generalize s.book = b at hresumes
    induction hresumes with
    | done => rfl
    | next hfirst _ ih =>
      obtain ⟨_, -, -, rfl⟩ := hfirst
      exact ih
  | rotate oldMerchant newMerchant =>
    obtain rfl : b' = s.book.rotated oldMerchant newMerchant := h
    exact hkept nofun nofun rfl
  | restore summaries =>
    refine hkept nofun nofun ?_
    rw [h.1, s.book.restored_rest summaries]
  | renumber =>
    refine hkept nofun nofun ?_
    have hbook : b' = { s.book with nextId := b'.nextId, schemaVersion := b'.schemaVersion } := h.1
    rw [hbook]
  | other => exact h.elim

/-! ## Owned lists -/

/-- Nothing is listed twice, and only the subscriber of a record lists it. -/
structure Book.OwnersList (b : Book) : Prop where
  nodup : ∀ a, (b.subscriberSubs a).Nodup
  owner : ∀ a id, id ∈ b.subscriberSubs a → (b.record id).map (·.subscriber) = some a

theorem Book.OwnersList.lt_nextId {b : Book} (h : b.OwnersList) (hnumbered : b.Numbered)
    (hmem : id ∈ b.subscriberSubs a) : id < b.nextId := by
  by_contra hlarge
  have howner := h.owner a id hmem
  rw [hnumbered.unused id (by omega)] at howner
  cases howner

/-- Only a transfer changes the subscriber of a record that is there. -/
theorem RecordStep.owner_kept (h : RecordStep env s id b' op) (hnumbered : s.book.Numbered)
    (htransfer : ∀ «to», op ≠ .transfer id «to») (hplain : ∀ summaries, op ≠ .restore summaries)
    (howner : (s.book.record id).map (·.subscriber) = some a) :
    (b'.record id).map (·.subscriber) = some a := by
  cases h with
  | kept hsame => rwa [hsame]
  | rewritten hreads hrewrites hafter =>
    obtain ⟨stored, hstored, -, -, hsubscriber, -⟩ := hreads.parties
    rw [hafter, Option.map_some]
    rw [hstored, Option.map_some] at howner
    rcases hrewrites.subscriber with hsame | hto
    · rwa [hsame, ← hsubscriber]
    · exact absurd hto (htransfer _)
  | created hid _ =>
    rw [hnumbered.unused id hid.ge] at howner
    cases howner
  | restored _ _ _ => exact absurd rfl (hplain _)

/-- The id is in no list once its owner's has lost it. -/
theorem Book.OwnersList.notMem_erased {b : Book} {sub : Subscription} (h : b.OwnersList)
    (hreads : b.Reads id sub) (c : Address) : id ∉ Function.update b.subscriberSubs sub.subscriber
      ((b.subscriberSubs sub.subscriber).erase id) c := by
  obtain ⟨stored, hstored, -, -, hsubscriber, -⟩ := hreads.parties
  by_cases hc : c = sub.subscriber
  · rw [hc, Function.update_self]
    exact (h.nodup _).not_mem_erase
  · rw [Function.update_of_ne hc]
    intro hmem
    have howner := h.owner c id hmem
    rw [hstored, Option.map_some, hsubscriber] at howner
    exact hc (Option.some.inj howner).symm

theorem erased_sublist {lists : Address → List Nat} {owner : Address} (c : Address) :
    (Function.update lists owner ((lists owner).erase id) c).Sublist (lists c) := by
  by_cases hc : c = owner
  · rw [hc, Function.update_self]
    exact List.erase_sublist
  · rw [Function.update_of_ne hc]

/-- One operation that restores nothing keeps the lists owned. -/
theorem Operation.Changes.ownersList (h : op.Changes env s b') (hnumbered : s.book.Numbered)
    (hplain : ∀ summaries, op ≠ .restore summaries) (hlists : s.book.OwnersList) :
    b'.OwnersList := by
  have howner (x : Nat) (htransfer : ∀ «to», op ≠ .transfer x «to») {c : Address}
      (hmem : x ∈ s.book.subscriberSubs c) : (b'.record x).map (·.subscriber) = some c :=
    (h.at_record x).owner_kept hnumbered htransfer hplain (hlists.owner c x hmem)
  cases h.lists with
  | kept hcreate htransfer hsame =>
    refine ⟨fun c => ?_, fun c x hmem => ?_⟩
    · rw [hsame]
      exact hlists.nodup c
    · rw [hsame] at hmem
      exact howner x (htransfer x) hmem
  | @entered sub hrecord hsubs =>
    have hfresh : s.book.nextId ∉ s.book.subscriberSubs sub.subscriber := fun hmem =>
      Nat.lt_irrefl _ (hlists.lt_nextId hnumbered hmem)
    refine ⟨fun c => ?_, fun c x hmem => ?_⟩
    · rw [hsubs]
      by_cases hc : c = sub.subscriber
      · rw [hc, Function.update_self]
        exact List.nodup_append.mpr ⟨hlists.nodup _, List.nodup_singleton _, fun x hx y hy heq =>
          hfresh (List.mem_singleton.mp hy ▸ heq ▸ hx)⟩
      · rw [Function.update_of_ne hc]
        exact hlists.nodup c
    · rw [hsubs] at hmem
      by_cases hc : c = sub.subscriber
      · rw [hc, Function.update_self] at hmem
        rcases List.mem_append.mp hmem with hold | hnew
        · rw [hc]
          exact howner x nofun hold
        · obtain rfl := List.mem_singleton.mp hnew
          rw [hrecord, hc]
          rfl
      · rw [Function.update_of_ne hc] at hmem
        exact howner x nofun hmem
  | @dropped id sub hsubs =>
    refine ⟨fun c => ?_, fun c x hmem => ?_⟩
    · rw [hsubs]
      exact (hlists.nodup c).sublist (erased_sublist c)
    · rw [hsubs] at hmem
      exact howner x nofun ((erased_sublist c).subset hmem)
  | @moved id sub new hreads hrecord hsubs =>
    have hgone := hlists.notMem_erased hreads
    refine ⟨fun c => ?_, fun c x hmem => ?_⟩
    · rw [hsubs]
      by_cases hc : c = new.subscriber
      · rw [hc, Function.update_self]
        exact List.nodup_append.mpr ⟨(hlists.nodup _).sublist (erased_sublist _),
          List.nodup_singleton _, fun x hx y hy heq =>
            hgone _ (List.mem_singleton.mp hy ▸ heq ▸ hx)⟩
      · rw [Function.update_of_ne hc]
        exact (hlists.nodup c).sublist (erased_sublist c)
    · rw [hsubs] at hmem
      have hothers (hx : x ∈ Function.update s.book.subscriberSubs sub.subscriber
          ((s.book.subscriberSubs sub.subscriber).erase id) c) :
          (b'.record x).map (·.subscriber) = some c := by
        refine howner x (fun «to» heq => ?_) ((erased_sublist c).subset hx)
        cases heq
        exact hgone c hx
      by_cases hc : c = new.subscriber
      · rw [hc, Function.update_self] at hmem
        rcases List.mem_append.mp hmem with hold | hnew
        · exact hothers (hc ▸ hold)
        · obtain rfl := List.mem_singleton.mp hnew
          rw [hrecord, hc]
          rfl
      · rw [Function.update_of_ne hc] at hmem
        exact hothers hmem

/-- A subscription is handed over to somebody who lists nothing newer. -/
def Operation.HandsOverNewest (s : State) : Operation → Prop
  | .transfer id «to» => ∀ other ∈ s.subscriberSubs «to», other ≠ id → other < id
  | _ => True

theorem Operation.Changes.sorted (h : op.Changes env s b') (hnumbered : s.book.Numbered)
    (hnewest : op.HandsOverNewest s) (hlists : s.book.OwnersList)
    (hsorted : ∀ a, (s.book.subscriberSubs a).Pairwise (· < ·)) (a : Address) :
    (b'.subscriberSubs a).Pairwise (· < ·) := by
  cases h.lists with
  | kept _ _ hsame =>
    rw [hsame]
    exact hsorted a
  | @entered sub _ hsubs =>
    rw [hsubs]
    by_cases ha : a = sub.subscriber
    · rw [ha, Function.update_self]
      refine List.pairwise_append.mpr ⟨hsorted _, List.pairwise_singleton _ _, ?_⟩
      intro x hx y hy
      rw [List.mem_singleton.mp hy]
      exact hlists.lt_nextId hnumbered hx
    · rw [Function.update_of_ne ha]
      exact hsorted a
  | dropped hsubs =>
    rw [hsubs]
    exact (hsorted a).sublist (erased_sublist a)
  | @moved id sub new hreads _ hsubs =>
    rw [hsubs]
    by_cases ha : a = new.subscriber
    · rw [ha, Function.update_self]
      refine List.pairwise_append.mpr ⟨(hsorted _).sublist (erased_sublist _),
        List.pairwise_singleton _ _, ?_⟩
      intro x hx y hy
      rw [List.mem_singleton.mp hy]
      refine hnewest x ((erased_sublist _).subset hx) fun heq => ?_
      exact hlists.notMem_erased hreads _ (heq ▸ hx)
    · rw [Function.update_of_ne ha]
      exact (hsorted a).sublist (erased_sublist a)

end Lists

/-! ## Runs -/

section Runs

variable {start s : State} {hist : History VaultAction State}

theorem ownersList_of_run (hstart : Deployed start) (hrun : Run VaultStep start hist s)
    (hplain : ∀ step ∈ hist, ∀ summaries, step.1.operation ≠ .restore summaries) :
    s.book.Numbered ∧ s.book.OwnersList := by
  induction hrun with
  | start =>
    refine ⟨hstart.numbered, ?_⟩
    rw [hstart.book]
    exact ⟨fun _ => List.nodup_nil, nofun⟩
  | next _ hlast ih =>
    obtain ⟨hnumbered, hlists⟩ := ih fun step hmem => hplain step (List.mem_cons_of_mem _ hmem)
    have hplain' := hplain _ List.mem_cons_self
    refine ⟨numbered_of_step hnumbered hlast hplain', ?_⟩
    rcases hlast.changes with hsame | hchanges
    · rw [hsame]
      exact hlists
    · exact hchanges.ownersList hnumbered hplain' hlists

theorem sorted_of_run (hstart : Deployed start) (hrun : Run VaultStep start hist s)
    (hplain : ∀ step ∈ hist, ∀ summaries, step.1.operation ≠ .restore summaries)
    (hnewest : ∀ step ∈ hist, step.1.operation.HandsOverNewest step.2) (a : Address) :
    (s.subscriberSubs a).Pairwise (· < ·) := by
  induction hrun generalizing a with
  | start =>
    have hempty : start.subscriberSubs a = [] :=
      congrArg (fun b : Book => b.subscriberSubs a) hstart.book
    rw [hempty]
    exact List.Pairwise.nil
  | @next hist u t l hbefore hlast ih =>
    have hplain' := fun step hmem => hplain step (List.mem_cons_of_mem _ hmem)
    have hsorted := ih hplain' fun step hmem => hnewest step (List.mem_cons_of_mem _ hmem)
    obtain ⟨hnumbered, hlists⟩ := ownersList_of_run hstart hbefore hplain'
    rcases hlast.changes with hsame | hchanges
    · have hlist : t.subscriberSubs a = u.subscriberSubs a :=
        congrArg (fun b : Book => b.subscriberSubs a) hsame
      rw [hlist]
      exact hsorted a
    · exact hchanges.sorted hnumbered (hnewest _ List.mem_cons_self) hlists hsorted a

end Runs

/-! ## Pages -/

section Pages

variable {s : State} {subscriber : Address} {startFromId limit : Nat} {index : List Nat}

/-- No page is large enough to use up the budget of the loop. -/
theorem scanSubscriberIndex_eq (hlimit : limit ≤ maxQueryResults) {found : List Nat}
    (hfound : found.length ≤ limit) :
    scanSubscriberIndex startFromId limit index found.length found =
      ⟨found ++ (fromBound index startFromId).take (limit - found.length),
        (fromBound index startFromId)[limit - found.length]?⟩ := by
  have hbudget : ¬maxScanDepth ≤ found.length := by
    unfold maxScanDepth
    unfold maxQueryResults at hlimit
    omega
  induction index generalizing found with
  | nil =>
    unfold scanSubscriberIndex
    simp [fromBound]
  | cons id rest ih =>
    unfold scanSubscriberIndex
    by_cases hbelow : id < startFromId
    · have hskip : fromBound (id :: rest) startFromId = fromBound rest startFromId :=
        List.filter_cons_of_neg (by simpa using hbelow)
      rw [if_pos hbelow, hskip]
      exact ih hfound hbudget
    · have hkeep : fromBound (id :: rest) startFromId = id :: fromBound rest startFromId :=
        List.filter_cons_of_pos (by simpa using hbelow)
      rw [if_neg hbelow, if_neg hbudget, hkeep]
      by_cases hroom : found.length < limit
      · obtain ⟨left, hleft⟩ : ∃ left, limit - found.length = left + 1 :=
          ⟨limit - found.length - 1, by omega⟩
        have hlength : (found ++ [id]).length = found.length + 1 := List.length_append
        have hroom' : (found ++ [id]).length ≤ limit := by omega
        have hrest := ih hroom' (by
          unfold maxScanDepth
          unfold maxQueryResults at hlimit
          omega)
        rw [hlength, show limit - (found.length + 1) = left by omega] at hrest
        rw [if_pos hroom, hrest, hleft, List.take_succ_cons, List.getElem?_cons_succ,
          List.append_assoc, List.singleton_append]
      · rw [if_neg hroom, show limit - found.length = 0 by omega]
        simp

theorem listSubscriptionsBySubscriber_pages (hlimit : 0 < limit ∧ limit ≤ maxQueryResults)
    (hindex : ∀ id ∈ s.subscriberSubs subscriber, id < s.nextSubscriptionId) {c : Nat}
    (hc : c = 0 ∨ c ∈ s.subscriberSubs subscriber) :
    ∃ p, PagesBounds
      (fun c p => s.listSubscriptionsBySubscriber subscriber c limit = .ok p)
      (·.nextStartId) (·.subscriptionIds) (s.subscriberSubs subscriber) limit c p := by
  have hadmitted : ¬(s.nextSubscriptionId = 0 ∧ 0 < c ∨
      0 < s.nextSubscriptionId ∧ s.nextSubscriptionId ≤ c) := by
    rcases hc with rfl | hmem
    · omega
    · have hlt := hindex c hmem
      omega
  have hpage : s.listSubscriptionsBySubscriber subscriber c limit =
      .ok ⟨(fromBound (s.subscriberSubs subscriber) c).take limit,
        (fromBound (s.subscriberSubs subscriber) c)[limit]?⟩ := by
    unfold State.listSubscriptionsBySubscriber
    rw [if_neg (by omega), if_neg hadmitted]
    exact congrArg Except.ok
      (scanSubscriberIndex_eq hlimit.2 (show ([] : List Nat).length ≤ limit from Nat.zero_le _))
  refine ⟨⟨(fromBound (s.subscriberSubs subscriber) c).take limit,
    (fromBound (s.subscriberSubs subscriber) c)[limit]?⟩, ⟨fun q => ?_, rfl, rfl⟩⟩
  rw [hpage]
  exact ⟨fun h => (Except.ok.inj h).symm, fun h => congrArg Except.ok h.symm⟩

end Pages

/-! ## All pages -/

/-- Whoever starts at 0 and follows the cursors gets every listed id once, and gets to the end. -/
def State.ListsOnce (s : State) (subscriber : Address) (limit : Nat) : Prop :=
  ∃ pages, Traversal (fun c p => s.listSubscriptionsBySubscriber subscriber c limit = .ok p)
    (·.nextStartId) 0 pages ∧
    (pages.flatMap (·.subscriptionIds)).Perm (s.subscriberSubs subscriber)

section Complete

variable {start s : State} {hist : History VaultAction State}

theorem listsOnce_iff (hstart : Deployed start) (hrun : Run VaultStep start hist s)
    (hplain : ∀ step ∈ hist, ∀ summaries, step.1.operation ≠ .restore summaries)
    (subscriber : Address) {limit : Nat} (hlimit : 0 < limit ∧ limit ≤ maxQueryResults) :
    s.ListsOnce subscriber limit ↔ InBlocks (s.subscriberSubs subscriber) limit := by
  obtain ⟨hnumbered, hlists⟩ := ownersList_of_run hstart hrun hplain
  have hindex : ∀ id ∈ s.subscriberSubs subscriber, id < s.nextSubscriptionId :=
    fun id hmem => hlists.lt_nextId hnumbered hmem
  exact Traversal.listed_once_iff hlimit.1 (hlists.nodup subscriber) (fun _ _ => Nat.zero_le _)
    fun _ hc => listSubscriptionsBySubscriber_pages hlimit hindex hc

/-- The listing is complete in every run in which only subscriptions newer than all others of
their new owner change hands, and in general just where every page but the first starts at an id
above those before it and not above any behind it. -/
theorem subscriber_listing_complete_iff (hstart : Deployed start)
    (hrun : Run VaultStep start hist s)
    (hplain : ∀ step ∈ hist, ∀ summaries, step.1.operation ≠ .restore summaries)
    (subscriber : Address) {limit : Nat} (hlimit : 0 < limit ∧ limit ≤ maxQueryResults) :
    (s.ListsOnce subscriber limit ↔ InBlocks (s.subscriberSubs subscriber) limit) ∧
      ((∀ step ∈ hist, step.1.operation.HandsOverNewest step.2) →
        s.ListsOnce subscriber limit) := by
  have hiff := listsOnce_iff hstart hrun hplain subscriber hlimit
  exact ⟨hiff, fun hnewest => hiff.mpr
    (.of_sorted (sorted_of_run hstart hrun hplain hnewest subscriber) limit)⟩

end Complete

private def twoCreated : List VaultAction :=
  [.call (sampleEnv 0 [⟨2⟩]) (.createSubscription sampleRequest),
   .call (sampleEnv 0 [⟨2⟩]) (.createSubscription sampleRequest)]

/-- Two subscriptions of one subscriber, in pages of one. -/
theorem subscriber_listing_of_two :
    let s := actionsAfter (afterCalls (sampleVault 0)) twoCreated
    s.subscriberSubs ⟨2⟩ = [0, 1] ∧ s.ListsOnce ⟨2⟩ 1 := by
  refine ⟨by decide +kernel, ?_⟩
  have hrun := run_actions (sample_prepared 0)
    (show actionsSucceed (afterCalls (sampleVault 0)) twoCreated = true by decide +kernel)
  refine (subscriber_listing_complete_iff (sample_deployed 0) hrun (fun step hmem => ?_) ⟨2⟩
    (by decide)).2 fun step hmem => ?_
  all_goals
    simp only [actionHistory, twoCreated, List.cons_append, List.nil_append, List.mem_cons,
      List.not_mem_nil, or_false] at hmem
  · rcases hmem with rfl | rfl | rfl <;> nofun
  · rcases hmem with rfl | rfl | rfl <;> trivial

/-- Subscriber 3 takes over subscription 0 after it has created subscription 1. -/
private def olderTaken : List VaultAction :=
  [.call (sampleEnv 3 [⟨3⟩]) (.acceptTransfer 0 ⟨3⟩),
   .call (sampleEnv 1 [⟨2⟩]) (.initiateTransfer 0 ⟨2⟩ ⟨3⟩ 1000),
   .call (sampleEnv 0 [⟨3⟩]) (.createSubscription { sampleRequest with subscriber := ⟨3⟩ }),
   .call (sampleEnv 0 [⟨2⟩]) (.createSubscription sampleRequest)]

/-- In pages of one the listing never gets past its first page. -/
theorem subscriber_listing_stuck : ∃ start hist s, Deployed start ∧
    Run VaultStep start hist s ∧ s.subscriberSubs ⟨3⟩ = [1, 0] ∧ ¬s.ListsOnce ⟨3⟩ 1 := by
  have hrun := run_actions (sample_prepared 0)
    (show actionsSucceed (afterCalls (sampleVault 0)) olderTaken = true by decide +kernel)
  have hindex : (actionsAfter (afterCalls (sampleVault 0)) olderTaken).subscriberSubs ⟨3⟩ =
      [1, 0] := by decide +kernel
  refine ⟨_, _, _, sample_deployed 0, hrun, hindex, fun hlists => ?_⟩
  have hblocks := (listsOnce_iff (sample_deployed 0) hrun (fun step hmem => ?_) ⟨3⟩
    (by decide)).mp hlists
  · rw [hindex] at hblocks
    have hbelow := (hblocks 1 0 (by decide) rfl).1 1 (by decide)
    cases hbelow
  · simp only [actionHistory, olderTaken, List.cons_append, List.nil_append, List.mem_cons,
      List.not_mem_nil, or_false] at hmem
    rcases hmem with rfl | rfl | rfl | rfl | rfl <;> nofun

end SubscriptionVault
