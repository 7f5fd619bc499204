import SubscriptionVault.Lifecycle.Creation
import SubscriptionVault.Lifecycle.Rewrites
import SubscriptionVault.Lifecycle.Prepaid

/-!
# Who takes part in a subscription

The subscriber, the merchant and the payees of a split are put in place by six operations. Some
of them look every new party up in the blocklist. The others ask about nobody, or only about
the caller.
-/

namespace SubscriptionVault

open Exec

inductive Role where
  | subscriber | merchant | payee

def State.HasParty (s : State) (id : Nat) (a : Address) : Role → Prop
  | .subscriber => ∃ sub, s.subscription id = some sub ∧ sub.subscriber = a
  | .merchant => ∃ sub, s.subscription id = some sub ∧ sub.merchant = a
  | .payee => ∃ split, s.splitPayees id = some split ∧ a ∈ split.entries.map Prod.fst

/-- `t` differs from `s` by a party that has been put in place. -/
def Gains (s t : State) (id : Nat) (a : Address) (role : Role) : Prop :=
  t.HasParty id a role ∧ ¬s.HasParty id a role

/-- No party that has been put in place is on the blocklist. -/
def Screened (s t : State) : Prop :=
  ∀ id a role, Gains s t id a role → s.isBlocklisted a = false

/-- The merchant of a plan, the receiver of a transfer and the new address of a merchant are not
on the blocklist, or are in place already. -/
def Transaction.ScreensParties : Transaction → State → Prop
  | .call _ (.createSubscriptionFromPlan _ planId _), s => ∀ plan,
    s.planTemplate planId = some plan → s.isBlocklisted plan.merchant = false ∨
      s.HasParty s.nextSubscriptionId plan.merchant .merchant
  | .call _ (.acceptTransfer id «to»), s =>
    s.isBlocklisted «to» = false ∨ s.HasParty id «to» .subscriber
  | .call _ (.rotateMerchantAddress _ oldMerchant newMerchant _), s =>
    s.isBlocklisted newMerchant = false ∨ ∀ id ∈ s.merchantSubs oldMerchant,
      s.HasParty id oldMerchant .merchant → oldMerchant = newMerchant
  | _, _ => True

/-! ## Operations that put nobody in place -/

/-- The operations that leave subscriber and merchant of every record alone. -/
def Operation.keepsParties : Operation → Bool
  | .create | .transfer _ _ | .rotate _ _ | .restore _ => false
  | _ => true

section Keeping

variable {env : Env} {s t : State} {b' : Book} {id : Nat} {op : Operation}
  {sub new : Subscription}

theorem Rewrites.parties (h : Rewrites env s id op sub new) (hop : op.keepsParties = true) :
    new.subscriber = sub.subscriber ∧ new.merchant = sub.merchant := by
  cases h with
  | edited _ hnew => rw [hnew]; exact ⟨rfl, rfl⟩
  | revived _ _ hnew => rw [hnew]; exact ⟨rfl, rfl⟩
  | paused | resumed | cancelled | archived | replanned => exact ⟨rfl, rfl⟩
  | transferred | rehomed => cases hop
  | halted _ _ _ hnew => rw [hnew]; exact ⟨rfl, rfl⟩
  | settled _ _ hsettled => rw [hsettled.2]; exact ⟨rfl, rfl⟩
  | used _ hsettled => rw [hsettled.2]; exact ⟨rfl, rfl⟩
  | boughtOut _ hnew _ => rw [hnew]; exact ⟨rfl, rfl⟩

/-- Whoever is subscriber or merchant of a record was it before. -/
def KeepsParties (s t : State) : Prop :=
  ∀ id new, t.subscription id = some new → ∃ sub, s.subscription id = some sub ∧
    sub.subscriber = new.subscriber ∧ sub.merchant = new.merchant

theorem KeepsParties.refl (s : State) : KeepsParties s s :=
  fun _ new hnew => ⟨new, hnew, rfl, rfl⟩

theorem RecordStep.parties (h : RecordStep env s id b' op) (hop : op.keepsParties = true)
    (hnew : b'.record id = some new) : ∃ sub, s.subscription id = some sub ∧
      sub.subscriber = new.subscriber ∧ sub.merchant = new.merchant := by
  cases h with
  | kept hsame => exact ⟨new, hsame.symm.trans hnew, rfl, rfl⟩
  | rewritten hreads hrewrites hafter =>
    obtain rfl := Option.some.inj (hafter.symm.trans hnew)
    obtain ⟨stored, hstored, hmerchant, -, hsubscriber, -⟩ := hreads.parties
    obtain ⟨hsame, hsame'⟩ := hrewrites.parties hop
    exact ⟨stored, hstored, hsubscriber.trans hsame.symm, hmerchant.trans hsame'.symm⟩
  | created | restored => cases hop

theorem VaultCall.keepsParties {call : VaultCall} (hrun : call.exec.run env s = .ok () t)
    (hop : call.operation.keepsParties = true) : KeepsParties s t := by
  have hstep : Transacts (.call env call) s t := .call hrun
  refine hstep.invariant_of (Q := fun op => op.keepsParties = true) (I := KeepsParties s)
    (fun l u v hlast hplain hu id new hnew => ?_) rfl (fun item => by cases item <;> rfl)
    (fun _ _ heq => by cases heq; exact hop) (KeepsParties.refl s)
  obtain ⟨sub, hsub, hsubscriber, hmerchant⟩ := (hlast.at_record id).parties hplain hnew
  obtain ⟨old, hold, hsubscriber', hmerchant'⟩ := hu id sub hsub
  exact ⟨old, hold, hsubscriber'.trans hsubscriber, hmerchant'.trans hmerchant⟩

/-- Without new parties in the records, only a new split can bring one in. -/
theorem KeepsParties.screened (h : KeepsParties s t)
    (hsplits : ∀ id a, Gains s t id a .payee → s.isBlocklisted a = false) : Screened s t := by
  rintro id a role ⟨hparty, hnew⟩
  cases role with
  | subscriber =>
    obtain ⟨new, hfound, rfl⟩ := hparty
    obtain ⟨sub, hsub, hsame, -⟩ := h id new hfound
    exact absurd ⟨sub, hsub, hsame⟩ hnew
  | merchant =>
    obtain ⟨new, hfound, rfl⟩ := hparty
    obtain ⟨sub, hsub, -, hsame⟩ := h id new hfound
    exact absurd ⟨sub, hsub, hsame⟩ hnew
  | payee => exact hsplits id a ⟨hparty, hnew⟩

/-- A split that is still there brings in nobody. -/
theorem payee_kept {a : Address} (h : t.splitPayees id = s.splitPayees id) :
    ¬Gains s t id a .payee := by
  rintro ⟨⟨split, hsplit, hmem⟩, hnew⟩
  exact hnew ⟨split, h.symm.trans hsplit, hmem⟩

theorem payees_kept (h : ∀ id, t.splitPayees id = s.splitPayees id) (id : Nat) (a : Address)
    (hgains : Gains s t id a .payee) : s.isBlocklisted a = false :=
  absurd hgains (payee_kept (h id))

theorem splitPayees_of_areas {l : List Area} (h : FiniteStore.AgreeOff (areas l) s t)
    (hl : l.contains .splits = false) (id : Nat) : t.splitPayees id = s.splitPayees id :=
  State.read_of_areas (k := .persistent (.splitPayees id)) h hl

theorem updateSplitPayees_screened {subscriber : Address}
    {entries : Option (List (Address × Nat))} {u : Unit}
    (hrun : (updateSplitPayees subscriber id entries).run env s = .ok u t) (j : Nat) (a : Address)
    (hgains : Gains s t j a .payee) : s.isBlocklisted a = false := by
  obtain ⟨_, -, hrun⟩ := run_check_ok (Modifies.requireAuth _) hrun
  obtain ⟨_, -, hrun⟩ := run_check_ok Modifies.requireNotEmergencyStop hrun
  obtain ⟨_, -, hrun⟩ := run_check_ok (Modifies.getSubscription _) hrun
  obtain ⟨_, -, hrun⟩ := run_check_ok (.failIf _ _) hrun
  obtain ⟨_, -, hrun⟩ := run_check_ok (.failIf _ _) hrun
  obtain ⟨⟨split, hsplit, hmem⟩, hnew⟩ := hgains
  cases entries with
  | none =>
    obtain rfl := run_delete_ok.mp hrun
    by_cases hj : j = id
    · subst hj
      have hnone : State.splitPayees (s.remove (.persistent (.splitPayees j))) j = none :=
        FiniteStore.read_remove_self _
      rw [hnone] at hsplit
      cases hsplit
    · have hkept : State.splitPayees (s.remove (.persistent (.splitPayees id))) j =
          s.splitPayees j := FiniteStore.read_remove_of_ne _ (by simpa using hj)
      exact absurd ⟨split, hkept.symm.trans hsplit, hmem⟩ hnew
  | some entries =>
    obtain ⟨_, hvalid, hrun⟩ := run_check_ok (Modifies.validateSplit _) hrun
    obtain ⟨written, hwritten, hrun⟩ := run_check_ok (.lift _) hrun
    obtain rfl := run_store_ok.mp hrun
    by_cases hj : j = id
    · subst hj
      have hself : State.splitPayees (s.write (.persistent (.splitPayees j)) written) j =
          some written := FiniteStore.read_write_self _ _
      obtain rfl := Option.some.inj (hself.symm.trans hsplit)
      rw [splitPayees_of_ok (run_lift_ok.mp hwritten).1] at hmem
      obtain ⟨entry, hentry, rfl⟩ := List.mem_map.mp hmem
      exact run_validateSplit_ok hvalid entry hentry
    · have hkept : State.splitPayees (s.write (.persistent (.splitPayees id)) written) j =
          s.splitPayees j := FiniteStore.read_write_of_ne _ _ (by simpa using hj)
      exact absurd ⟨split, hkept.symm.trans hsplit, hmem⟩ hnew

end Keeping

/-! ## Operations that put somebody in place -/

section Installing

variable {env : Env} {s t : State} {id created : Nat} {sub : Subscription}

/-- Everybody in a new record has been looked up, except for the merchant of a plan. -/
theorem Installs.screened (h : Installs s t created sub)
    (hmerchant : s.isBlocklisted sub.merchant = false ∨
      s.HasParty created sub.merchant .merchant)
    (hsplits : ∀ id a, Gains s t id a .payee → s.isBlocklisted a = false) : Screened s t := by
  have hrecord (id : Nat) : t.subscription id = if id = created then some sub
      else s.subscription id := by
    rw [h.record, Function.update_apply]
  rintro id a role ⟨hparty, hnew⟩
  cases role with
  | subscriber =>
    obtain ⟨found, hfound, rfl⟩ := hparty
    rw [hrecord id] at hfound
    split at hfound
    · obtain rfl := Option.some.inj hfound
      exact h.unlisted
    · exact absurd ⟨found, hfound, rfl⟩ hnew
  | merchant =>
    obtain ⟨found, hfound, rfl⟩ := hparty
    rw [hrecord id] at hfound
    split at hfound
    · rename_i hid
      obtain rfl := Option.some.inj hfound
      exact hmerchant.resolve_right (hid ▸ hnew)
    · exact absurd ⟨found, hfound, rfl⟩ hnew
  | payee => exact hsplits id a ⟨hparty, hnew⟩

theorem createSubscriptionWithSplit_screened {new : NewSubscription}
    {entries : List (Address × Nat)}
    (hrun : (createSubscriptionWithSplit new entries).run env s = .ok created t) :
    Screened s t := by
  obtain ⟨⟨sub, hinstalls, -, hmerchant, hunlisted, -⟩, hentries, ⟨split, hsplit, hlist⟩, hkept⟩ :=
    createSubscriptionWithSplit_installs hrun
  refine hinstalls.screened (.inl (hmerchant ▸ hunlisted)) fun id a hgains => ?_
  by_cases hid : id = created
  · subst hid
    obtain ⟨⟨found, hfound, hmem⟩, -⟩ := hgains
    obtain rfl := Option.some.inj (hsplit.symm.trans hfound)
    rw [hlist] at hmem
    obtain ⟨entry, hentry, rfl⟩ := List.mem_map.mp hmem
    exact hentries entry hentry
  · exact absurd hgains (payee_kept (hkept id hid))

theorem doCreateSubscriptionFromPlan_screened_iff {subscriber : Address} {planId : Nat}
    {label : Option Symbol}
    (hrun : (doCreateSubscriptionFromPlan subscriber planId label).run env s = .ok created t) :
    Screened s t ↔ ∀ plan, s.planTemplate planId = some plan →
      s.isBlocklisted plan.merchant = false ∨
        s.HasParty s.nextSubscriptionId plan.merchant .merchant := by
  obtain ⟨-, -, htakes⟩ := doCreateSubscriptionFromPlan_book hrun
  obtain ⟨plan, sub, hplan, hinstalls, -, hmerchant, -⟩ :=
    doCreateSubscriptionFromPlan_installs hrun
  rw [← htakes.taken]
  constructor
  · intro hscreened other hother
    obtain rfl := Option.some.inj (hplan.symm.trans hother)
    by_cases hold : s.HasParty created plan.merchant .merchant
    · exact .inr hold
    · have hrecord : t.subscription created = some sub := by
        rw [hinstalls.record]
        exact Function.update_self _ _ _
      exact .inl (hscreened created _ .merchant ⟨⟨sub, hrecord, hmerchant⟩, hold⟩)
  · intro hcondition
    refine hinstalls.screened (by rw [hmerchant]; exact hcondition plan hplan) ?_
    exact payees_kept (splitPayees_of_areas
      ((doCreateSubscriptionFromPlan_areas _ _ _).ok hrun) rfl)

theorem TransfersRecord.screened_iff {«to» : Address}
    (h : TransfersRecord s.book id t.book «to»)
    (hsplits : ∀ id, t.splitPayees id = s.splitPayees id) :
    Screened s t ↔ s.isBlocklisted «to» = false ∨ s.HasParty id «to» .subscriber := by
  obtain ⟨sub, hreads, hbook⟩ := h
  have hrecords : t.subscription =
      Function.update s.subscription id (some { sub with subscriber := «to» }) := by
    refine (congrArg Book.record hbook).trans ?_
    dsimp only
    split <;> rfl
  obtain ⟨stored, hstored, hmerchant, -, -, -⟩ := hreads.parties
  constructor
  · intro hscreened
    by_cases hold : s.HasParty id «to» .subscriber
    · exact .inr hold
    · have hrecord : t.subscription id = some { sub with subscriber := «to» } := by
        rw [hrecords]
        exact Function.update_self _ _ _
      exact .inl (hscreened id _ .subscriber ⟨⟨_, hrecord, rfl⟩, hold⟩)
  · intro hcondition
    rintro j a role ⟨hparty, hnew⟩
    cases role with
    | payee => exact payees_kept hsplits j a ⟨hparty, hnew⟩
    | subscriber =>
      obtain ⟨found, hfound, rfl⟩ := hparty
      rw [hrecords, Function.update_apply] at hfound
      split at hfound
      · rename_i hj
        obtain rfl := Option.some.inj hfound
        exact hcondition.resolve_right (hj ▸ hnew)
      · exact absurd ⟨found, hfound, rfl⟩ hnew
    | merchant =>
      obtain ⟨found, hfound, rfl⟩ := hparty
      rw [hrecords, Function.update_apply] at hfound
      split at hfound
      · rename_i hj
        obtain rfl := Option.some.inj hfound
        exact absurd ⟨stored, hj ▸ hstored, hmerchant⟩ hnew
      · exact absurd ⟨found, hfound, rfl⟩ hnew

theorem rotated_screened_iff {oldMerchant newMerchant : Address}
    (h : t.book = s.book.rotated oldMerchant newMerchant)
    (hsplits : ∀ id, t.splitPayees id = s.splitPayees id) :
    Screened s t ↔ s.isBlocklisted newMerchant = false ∨ ∀ id ∈ s.merchantSubs oldMerchant,
      s.HasParty id oldMerchant .merchant → oldMerchant = newMerchant := by
  have hrecord (id : Nat) : t.subscription id = if id ∈ s.merchantSubs oldMerchant then
      (s.subscription id).map (·.rehomed oldMerchant newMerchant) else s.subscription id :=
    congrArg (fun b : Book => b.record id) h
  constructor
  · intro hscreened
    by_cases hsame : oldMerchant = newMerchant
    · exact .inr fun _ _ _ => hsame
    · by_cases hmoved : ∃ id ∈ s.merchantSubs oldMerchant, s.HasParty id oldMerchant .merchant
      · obtain ⟨id, hlisted, sub, hsub, hmerchant⟩ := hmoved
        have hafter := hrecord id
        rw [if_pos hlisted, hsub] at hafter
        have hrehomed : (sub.rehomed oldMerchant newMerchant).merchant = newMerchant := by
          unfold Subscription.rehomed
          rw [if_pos hmerchant]
        refine .inl (hscreened id newMerchant .merchant ⟨⟨_, hafter, hrehomed⟩, ?_⟩)
        rintro ⟨found, hfound, hother⟩
        obtain rfl := Option.some.inj (hsub.symm.trans hfound)
        exact hsame (hmerchant.symm.trans hother)
      · exact .inr fun id hlisted hparty => absurd ⟨id, hlisted, hparty⟩ hmoved
  · intro hcondition
    rintro j a role ⟨hparty, hnew⟩
    cases role with
    | payee => exact payees_kept hsplits j a ⟨hparty, hnew⟩
    | subscriber =>
      obtain ⟨found, hfound, rfl⟩ := hparty
      rw [hrecord j] at hfound
      split at hfound
      · obtain ⟨sub, hsub, rfl⟩ := Option.map_eq_some_iff.mp hfound
        refine absurd ⟨sub, hsub, ?_⟩ hnew
        unfold Subscription.rehomed
        split <;> rfl
      · exact absurd ⟨found, hfound, rfl⟩ hnew
    | merchant =>
      obtain ⟨found, hfound, rfl⟩ := hparty
      rw [hrecord j] at hfound
      split at hfound
      · rename_i hlisted
        obtain ⟨sub, hsub, rfl⟩ := Option.map_eq_some_iff.mp hfound
        unfold Subscription.rehomed at hnew ⊢
        split at hnew
        · rename_i hmerchant
          rw [if_pos hmerchant]
          refine hcondition.resolve_right fun hall => ?_
          have hsame := hall j hlisted ⟨sub, hsub, hmerchant⟩
          exact hnew ⟨sub, hsub, hmerchant.trans hsame⟩
        · exact absurd ⟨sub, hsub, rfl⟩ hnew
      · exact absurd ⟨found, hfound, rfl⟩ hnew

end Installing

/-! ## Transactions -/

theorem Transacts.screened_iff {s t : State} {l : Transaction} (h : Transacts l s t)
    (hrestore : l.isRestore = false) : Screened s t ↔ l.ScreensParties s := by
  have hsplits (hl : (Area.locks :: l.areas).contains .splits = false) (id : Nat) :
      t.splitPayees id = s.splitPayees id := splitPayees_of_areas h.worksIn.1 hl id
  cases h with
  | other hagree =>
    have hbook : t.book = s.book := State.book_of_unbooked (hagree.mono (areas_subset_unbooked rfl))
    have hrecords : t.subscription = s.subscription := congrArg Book.record hbook
    refine iff_of_true ?_ trivial
    refine KeepsParties.screened (fun id new hnew => ?_) (payees_kept (hsplits rfl))
    exact ⟨new, hrecords ▸ hnew, rfl, rfl⟩
  | @call env call _ _ hrun =>
    have hquiet (hop : call.operation.keepsParties = true)
        (hl : (Area.locks :: call.areas).contains .splits = false) : Screened s t :=
      (VaultCall.keepsParties hrun hop).screened (payees_kept (hsplits hl))
    cases call
    case createSubscription new =>
      obtain ⟨created, hrun⟩ := run_effectOf_ok.mp hrun
      obtain ⟨_, -, hrun⟩ := run_check_ok Modifies.requireNotEmergencyStop hrun
      obtain ⟨sub, hinstalls, -, hmerchant, hunlisted, -⟩ := doCreateSubscription_installs hrun
      refine iff_of_true (hinstalls.screened (.inl (hmerchant ▸ hunlisted)) ?_) trivial
      exact payees_kept (splitPayees_of_areas ((doCreateSubscription_areas _).ok hrun) rfl)
    case createSubscriptionWithToken new =>
      obtain ⟨created, hrun⟩ := run_effectOf_ok.mp hrun
      obtain ⟨_, -, hrun⟩ := run_check_ok Modifies.requireNotEmergencyStop hrun
      obtain ⟨sub, hinstalls, -, hmerchant, hunlisted, -⟩ :=
        doCreateSubscriptionWithToken_installs hrun
      refine iff_of_true (hinstalls.screened (.inl (by rw [hmerchant]; exact hunlisted)) ?_) trivial
      exact payees_kept
        (splitPayees_of_areas ((doCreateSubscriptionWithToken_areas _).ok hrun) rfl)
    case createSubscriptionWithSplit new entries =>
      obtain ⟨created, hrun⟩ := run_effectOf_ok.mp hrun
      obtain ⟨_, -, hrun⟩ := run_check_ok Modifies.requireNotEmergencyStop hrun
      exact iff_of_true (createSubscriptionWithSplit_screened hrun) trivial
    case createSubscriptionFromPlan subscriber planId label =>
      obtain ⟨created, hrun⟩ := run_effectOf_ok.mp hrun
      obtain ⟨_, -, hrun⟩ := run_check_ok Modifies.requireNotEmergencyStop hrun
      exact doCreateSubscriptionFromPlan_screened_iff hrun
    case updateSplitPayees subscriber id entries =>
      have hkept : KeepsParties s t := VaultCall.keepsParties hrun rfl
      exact iff_of_true (hkept.screened (updateSplitPayees_screened hrun)) trivial
    case acceptTransfer id «to» =>
      have htransfers : TransfersRecord s.book id t.book «to» :=
        run_locked_book (TransfersRecord · _ · _) (fun _ _ => doAcceptTransfer_book) hrun
      exact htransfers.screened_iff (hsplits rfl)
    case rotateMerchantAddress admin oldMerchant newMerchant nonce =>
      exact rotated_screened_iff (doRotateMerchantAddress_book hrun) (hsplits rfl)
    case restoreSnapshotPage => cases hrestore
    all_goals exact iff_of_true (hquiet rfl rfl) trivial

/-- In every run, a transaction other than a restore puts nobody from the blocklist in place
exactly when the three operations that do not ask are asked about somebody who is not on it. -/
theorem parties_screened_iff {start s : State} {hist : History Transaction State}
    (hrun : Run Transacts start hist s) : ∀ l u v, (l, u, v) ∈ transitions hist s →
      l.isRestore = false → (Screened u v ↔ l.ScreensParties u) :=
  fun _ _ _ hmem hrestore => (hrun.step_of_transition hmem).screened_iff hrestore

private def handedOver : List (Env × VaultCall) :=
  [(sampleEnv 3 [⟨3⟩], .acceptTransfer 0 ⟨3⟩),
   (sampleEnv 1 [⟨2⟩], .initiateTransfer 0 ⟨2⟩ ⟨3⟩ 1000),
   (sampleEnv 0 [⟨2⟩], .createSubscription sampleRequest)]

/-- A transfer to somebody who is not on the blocklist. -/
theorem transfer_screened : ∃ s t,
    (s.subscription 0).map (·.subscriber) = some ⟨2⟩ ∧
      (t.subscription 0).map (·.subscriber) = some ⟨3⟩ ∧ Screened s t := by
  have hrun := run_transactions (sample_transacted 0)
    (show allSucceed (afterCalls (sampleVault 0)) handedOver = true by decide +kernel)
  have hscreened := (parties_screened_iff hrun _ _ _ List.mem_cons_self rfl).mpr
    (.inl (by decide +kernel))
  exact ⟨_, _, by decide +kernel, by decide +kernel, hscreened⟩

private def blockedReceiver : List (Env × VaultCall) :=
  [(sampleEnv 3 [⟨3⟩], .acceptTransfer 0 ⟨3⟩),
   (sampleEnv 2 [⟨8⟩], .addToBlocklist ⟨8⟩ ⟨3⟩ []),
   (sampleEnv 1 [⟨2⟩], .initiateTransfer 0 ⟨2⟩ ⟨3⟩ 1000),
   (sampleEnv 0 [⟨2⟩], .createSubscription sampleRequest)]

/-- The receiver of a transfer is put on the blocklist before accepting it, and becomes the
subscriber all the same. -/
theorem blocklisted_receiver_accepts : ∃ hist s u,
    Run Transacts (sampleStart 0) hist s ∧
      (.call (sampleEnv 3 [⟨3⟩]) (.acceptTransfer 0 ⟨3⟩), u, s) ∈ transitions hist s ∧
      u.isBlocklisted ⟨3⟩ = true ∧ Gains u s 0 ⟨3⟩ .subscriber := by
  have hrun := run_transactions (sample_transacted 0)
    (show allSucceed (afterCalls (sampleVault 0)) blockedReceiver = true by decide +kernel)
  refine ⟨_, _, _, hrun, List.mem_cons_self, by decide +kernel, ?_, ?_⟩
  · exact Option.map_eq_some_iff.mp (show
      ((stateAfter (afterCalls (sampleVault 0)) blockedReceiver).subscription 0).map
        (·.subscriber) = some ⟨3⟩ by decide +kernel)
  · intro hold
    have hother : ((stateAfter (afterCalls (sampleVault 0)) blockedReceiver.tail).subscription
        0).map (·.subscriber) ≠ some ⟨3⟩ := by decide +kernel
    exact hother (Option.map_eq_some_iff.mpr hold)

end SubscriptionVault
