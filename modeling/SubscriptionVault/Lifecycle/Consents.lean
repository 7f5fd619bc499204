import SubscriptionVault.Lifecycle.Prepaid
import SubscriptionVault.Lifecycle.Rewrites

/-!
# Consent to a transfer

A subscription changes hands when the receiver accepts what the owner has offered. The offer is
kept with its own copy of the parties and is not compared with the record when it is accepted.
That it still names the owner is an invariant of all runs without restored snapshots.
-/

namespace SubscriptionVault

open Exec

/-! ## Owners -/

def State.owner (s : State) (id : Nat) : Option Address := (s.subscription id).map (·.subscriber)

section Owners

variable {s t start : State} {l : Transaction} {hist : History Transaction State} {id : Nat}
  {a : Address}

theorem VaultCall.operation_transfer {call : VaultCall} {«to» : Address}
    (h : call.operation = .transfer id «to») : call = .acceptTransfer id «to» := by
  cases call
  case acceptTransfer =>
    cases h
    rfl
  all_goals cases h

theorem State.owner_of_reads {sub : Subscription} (h : s.book.Reads id sub) :
    s.owner id = some sub.subscriber := by
  obtain ⟨stored, hstored, -, -, hsubscriber, -⟩ := h.parties
  have hsub : s.subscription id = some stored := hstored
  rw [State.owner, hsub, ← hsubscriber]
  rfl

/-- Only the acceptance of a transfer gives a subscription another owner. -/
theorem VaultStep.owner {l : VaultAction} (h : VaultStep l s t)
    (hrestore : ∀ summaries, l.operation ≠ .restore summaries)
    (htransfer : ∀ «to», l.operation ≠ .transfer id «to») (hnumbered : s.book.Numbered)
    (howner : s.owner id = some a) : t.owner id = some a := by
  obtain ⟨sub, hsub, rfl⟩ := Option.map_eq_some_iff.mp howner
  have hrecord := h.at_record id
  generalize hl : l.operation = op at hrecord
  cases hrecord with
  | kept hsame =>
    have hkept : t.subscription id = some sub := Eq.trans hsame hsub
    rw [State.owner, hkept]
    rfl
  | @rewritten _ old new hreads hrewrites hafter =>
    have hnew : t.subscription id = some new := hafter
    have hsame : new.subscriber = old.subscriber :=
      hrewrites.subscriber.resolve_right (hl ▸ htransfer new.subscriber)
    rw [State.owner, hnew, ← howner, State.owner_of_reads hreads, ← hsame]
    rfl
  | created hid _ =>
    have hused := hnumbered.lt_of_reads ⟨sub, hsub, .inl rfl⟩
    exact absurd hid (Nat.ne_of_lt hused)
  | restored => exact absurd hl (hrestore _)

theorem Transacts.owner (h : Transacts l s t) (hrestore : l.isRestore = false)
    (haccept : ∀ env «to», l ≠ .call env (.acceptTransfer id «to»)) (hnumbered : s.book.Numbered)
    (howner : s.owner id = some a) : t.owner id = some a := by
  refine (h.invariant_of (I := fun u => u.book.Numbered ∧ u.owner id = some a)
    (Q := fun op => (∀ summaries, op ≠ .restore summaries) ∧ ∀ «to», op ≠ .transfer id «to»)
    (fun action u v hstep hplain hu => ?_) ⟨nofun, nofun⟩ (fun item => ?_)
    (fun env call hl => ?_) ⟨hnumbered, howner⟩).2
  · exact ⟨numbered_of_step hu.1 hstep hplain.1, hstep.owner hplain.1 hplain.2 hu.1 hu.2⟩
  · cases item <;> exact ⟨nofun, nofun⟩
  · obtain rfl := hl
    refine ⟨fun summaries heq => ?_, fun «to» heq => ?_⟩
    · cases call
      case restoreSnapshotPage => cases hrestore
      all_goals cases heq
    · obtain rfl := VaultCall.operation_transfer heq
      exact haccept env «to» rfl

end Owners

/-! ## Offers -/

def State.transferIntent (s : State) (id : Nat) : Option TransferIntent :=
  s.read (.instanced (.transferIntent id))

/-- The transaction makes the offer: its owner has authorised it, and it has not run out. -/
def Initiates (id : Nat) (intent : TransferIntent) (l : Transaction) (s : State) : Prop :=
  ∃ env, l = .call env (.initiateTransfer id intent.from intent.to intent.expiresAt) ∧
    env.authorized intent.from = true ∧ s.owner id = some intent.from ∧
    env.now < intent.expiresAt ∧ intent.from ≠ intent.to

/-- The transaction replaces, accepts or vetoes an offer of the subscription. -/
def Transaction.TouchesIntent (id : Nat) : Transaction → Prop
  | .call _ (.initiateTransfer j _ _ _) | .call _ (.acceptTransfer j _)
  | .call _ (.vetoTransfer j _) => j = id
  | _ => False

section Offers

variable {α : Type} {env : Env} {s t : State} {id : Nat} {a : α} {u : Unit} {name : LockName}
  {body : Vault α}

/-- The body of a locked call runs on the same storage but for the lock. -/
theorem run_withLock_areas (hrun : (withLock name body).run env s = .ok a t) :
    ∃ v w, body.run env v = .ok a w ∧ FiniteStore.AgreeOff (areas [.locks]) s v ∧
      FiniteStore.AgreeOff (areas [.locks]) w t := by
  obtain ⟨-, w, hbody, rfl⟩ := run_withLock_ok.mp hrun
  exact ⟨_, w, hbody, s.agreeOff_write true rfl, w.agreeOff_remove rfl⟩

theorem doInitiateTransfer_intent {«from» «to» : Address} {expiresAt : Nat}
    (hrun : (doInitiateTransfer id «from» «to» expiresAt).run env s = .ok u t) :
    env.authorized «from» = true ∧ s.owner id = some «from» ∧ env.now < expiresAt ∧
      «from» ≠ «to» ∧ t = s.write (.instanced (.transferIntent id))
        { subscriptionId := id, «from», «to», expiresAt } := by
  obtain ⟨ledger, hledger, hrun⟩ := run_check_ok .ask hrun
  obtain ⟨rfl, -⟩ := run_ask_ok.mp hledger
  obtain ⟨_, hsigned, hrun⟩ := run_check_ok (Modifies.requireAuth _) hrun
  obtain ⟨sub, hreads, -, hrun⟩ := run_read_ok hrun
  obtain ⟨_, howner, hrun⟩ := run_check_ok (.failIf _ _) hrun
  obtain ⟨_, -, hrun⟩ := run_check_ok (.failIf _ _) hrun
  obtain ⟨-, hrun⟩ := run_unexpired_ok hrun
  obtain ⟨_, hopen, hrun⟩ := run_check_ok (.failIf _ _) hrun
  obtain ⟨_, hother, hrun⟩ := run_check_ok (.failIf _ _) hrun
  have hsubscriber : sub.subscriber = «from» := not_not.mp (run_failIf_ok.mp howner).1
  refine ⟨(run_requireAuth_ok.mp hsigned).1.1, ?_, Nat.lt_of_not_le (run_failIf_ok.mp hopen).1,
    (run_failIf_ok.mp hother).1, (run_store_ok.mp hrun).symm⟩
  rw [State.owner_of_reads hreads, hsubscriber]

/-- An acceptance uses up an offer to the caller that has not run out. -/
theorem doAcceptTransfer_intents {«to» : Address}
    (hrun : (doAcceptTransfer id «to»).run env s = .ok u t) :
    env.authorized «to» = true ∧ (∃ intent, s.transferIntent id = some intent ∧
      intent.to = «to» ∧ env.now < intent.expiresAt) ∧
      ∀ j, t.transferIntent j = if j = id then none else s.transferIntent j := by
  obtain ⟨ledger, hledger, hrun⟩ := run_check_ok .ask hrun
  obtain ⟨rfl, -⟩ := run_ask_ok.mp hledger
  obtain ⟨_, hsigned, hrun⟩ := run_check_ok (Modifies.requireAuth _) hrun
  obtain ⟨found, hfound, hrun⟩ := run_check_ok Modifies.load hrun
  obtain ⟨rfl, -⟩ := run_load_ok.mp hfound
  obtain ⟨intent, hintent, hrun⟩ := run_check_ok (.okOr _ _) hrun
  obtain ⟨_, hreceiver, hrun⟩ := run_check_ok (.failIf _ _) hrun
  obtain ⟨_, hopen, hrun⟩ := run_check_ok (.failIf _ _) hrun
  obtain ⟨sub, -, -, hrun⟩ := run_read_ok hrun
  obtain ⟨_, s₁, hdeleted, hrun⟩ := run_bind_ok.mp hrun
  obtain rfl := run_delete_ok.mp hdeleted
  have hrest : Modifies (areas [.records, .activeCounts, .subscriberIndex]) (do
      let liability ← lift (safeAdd sub.prepaidBalance
        (if sub.status = .active then sub.amount else 0))
      enforceCreditLimitForDelta «to» sub.token liability
      when (sub.status.countsTowardActiveCap = true) (requirePlace «to»)
      dropIndex (.subscriberSubs sub.subscriber) id
      pushIndex (.subscriberSubs «to») id
      when (sub.status.countsTowardActiveCap = true) (transferPlace sub.subscriber «to»)
      writeSubscription id { sub with subscriber := «to» } : Vault Unit) :=
    .bind (.lift _) fun _ => .bind (Modifies.enforceCreditLimitForDelta _ _ _) fun _ =>
      .bind (.when (Modifies.requirePlace _)) fun _ =>
      .bind (dropIndex_areas rfl _) fun _ => .bind (pushIndex_areas rfl _) fun _ =>
      .bind (.when (.bind ((decrementSubscriberActiveCount_areas _).widen rfl) fun _ =>
        (incrementSubscriberActiveCount_areas _).widen rfl)) fun _ =>
      (writeSubscription_areas _ _).widen rfl
  refine ⟨(run_requireAuth_ok.mp hsigned).1.1, ⟨intent, (run_okOr_ok.mp hintent).1,
    not_not.mp (run_failIf_ok.mp hreceiver).1, Nat.lt_of_not_le (run_failIf_ok.mp hopen).1⟩, ?_⟩
  intro j
  have hkept := State.read_of_areas (k := .instanced (.transferIntent j)) (hrest.ok hrun) rfl
  refine hkept.trans ?_
  split
  · rename_i hj
    subst hj
    exact FiniteStore.read_remove_self s
  · rename_i hj
    have hne : Slot.instanced (.transferIntent j) ≠ .instanced (.transferIntent id) := by
      simpa using hj
    exact FiniteStore.read_remove_of_ne s hne

theorem doVetoTransfer_intents {merchant : Address}
    (hrun : (doVetoTransfer id merchant).run env s = .ok u t) :
    t = s.remove (.instanced (.transferIntent id)) := by
  obtain ⟨_, -, hrun⟩ := run_check_ok (Modifies.requireAuth _) hrun
  obtain ⟨sub, -, -, hrun⟩ := run_read_ok hrun
  obtain ⟨_, -, hrun⟩ := run_check_ok (.failIf _ _) hrun
  obtain ⟨_, -, hrun⟩ := run_check_ok Modifies.load hrun
  obtain ⟨_, -, hrun⟩ := run_check_ok (.failIf _ _) hrun
  exact (run_delete_ok.mp hrun).symm

theorem State.owner_of_locks (h : FiniteStore.AgreeOff (areas [.locks]) s t) (j : Nat) :
    t.owner j = s.owner j := by
  have hbook : t.book = s.book := State.book_of_unbooked (h.mono (areas_subset_unbooked rfl))
  exact congrArg (fun b : Book => (b.record j).map (·.subscriber)) hbook

theorem State.transferIntent_of_locks (h : FiniteStore.AgreeOff (areas [.locks]) s t) (j : Nat) :
    t.transferIntent j = s.transferIntent j :=
  State.read_of_areas (k := .instanced (.transferIntent j)) h rfl

/-- An offer that is there has just been made, or was there already. -/
theorem Transacts.intent {l : Transaction} (h : Transacts l s t) {intent : TransferIntent}
    (hintent : t.transferIntent id = some intent) :
    Initiates id intent l s ∨ ¬l.TouchesIntent id ∧ s.transferIntent id = some intent := by
  have hquiet (hl : (Area.locks :: l.areas).contains .transfers = false) :
      s.transferIntent id = some intent :=
    (h.read (k := .instanced (.transferIntent id)) hl).symm.trans hintent
  cases h with
  | other => exact .inr ⟨not_false, hquiet rfl⟩
  | @call env call _ _ hrun =>
    cases call
    case initiateTransfer j «from» «to» expiresAt =>
      obtain ⟨v, w, hbody, hbefore, hafter⟩ := run_withLock_areas hrun
      obtain ⟨hsigned, howner, hopen, hother, rfl⟩ := doInitiateTransfer_intent hbody
      have hwritten := (State.transferIntent_of_locks hafter id).symm.trans hintent
      by_cases hj : j = id
      · subst hj
        left
        obtain rfl := Option.some.inj ((FiniteStore.read_write_self v _).symm.trans hwritten)
        rw [State.owner_of_locks hbefore] at howner
        exact ⟨env, rfl, hsigned, howner, hopen, hother⟩
      · right
        have hne : Slot.instanced (.transferIntent id) ≠ .instanced (.transferIntent j) := by
          simpa using Ne.symm hj
        refine ⟨hj, ?_⟩
        rw [← State.transferIntent_of_locks hbefore id, ← hwritten]
        exact (FiniteStore.read_write_of_ne v _ hne).symm
    case acceptTransfer j «to» =>
      obtain ⟨v, w, hbody, hbefore, hafter⟩ := run_withLock_areas hrun
      obtain ⟨-, -, hintents⟩ := doAcceptTransfer_intents hbody
      have hleft := (State.transferIntent_of_locks hafter id).symm.trans hintent
      rw [hintents id] at hleft
      split at hleft
      · cases hleft
      · rename_i hj
        exact .inr ⟨Ne.symm hj, (State.transferIntent_of_locks hbefore id).symm.trans hleft⟩
    case vetoTransfer j merchant =>
      obtain ⟨v, w, hbody, hbefore, hafter⟩ := run_withLock_areas hrun
      obtain rfl := doVetoTransfer_intents hbody
      have hleft := (State.transferIntent_of_locks hafter id).symm.trans hintent
      by_cases hj : j = id
      · subst hj
        have hgone : State.transferIntent (v.remove (.instanced (.transferIntent j))) j = none :=
          FiniteStore.read_remove_self v
        rw [hgone] at hleft
        cases hleft
      · have hne : Slot.instanced (.transferIntent id) ≠ .instanced (.transferIntent j) := by
          simpa using Ne.symm hj
        refine .inr ⟨hj, ?_⟩
        rw [← State.transferIntent_of_locks hbefore id, ← hleft]
        exact (FiniteStore.read_remove_of_ne v hne).symm
    all_goals exact .inr ⟨not_false, hquiet rfl⟩

end Offers

/-! ## Runs -/

/-- An offer names the owner. -/
def OffersOwned (id : Nat) (s : State) : Prop :=
  ∀ intent, s.transferIntent id = some intent → s.owner id = some intent.from

section Runs

variable {s t start : State} {l : Transaction} {hist : History Transaction State} {id : Nat}

theorem Transaction.TouchesIntent.of_accept {env : Env} {«to» : Address}
    (h : l = .call env (.acceptTransfer id «to»)) : l.TouchesIntent id := by
  subst h
  rfl

theorem OffersOwned.step (howned : OffersOwned id s) (hnumbered : s.book.Numbered)
    (h : Transacts l s t) (hrestore : l.isRestore = false) : OffersOwned id t := by
  intro intent hintent
  rcases h.intent hintent with ⟨env, rfl, -, howner, -, -⟩ | ⟨huntouched, hold⟩
  · exact h.owner rfl (by simp) hnumbered howner
  · exact h.owner hrestore (fun env «to» hl => huntouched (.of_accept hl)) hnumbered
      (howned intent hold)

/-- What an offer tells of the past: its owner made it, has been the owner ever since, and it has
not been replaced, accepted or vetoed. -/
theorem offers_of_run (hdeployed : Deployed start) (hrun : Run Transacts start hist s)
    (hrestore : ∀ step ∈ hist, step.1.isRestore = false) :
    (s.book.Numbered ∧ OffersOwned id s) ∧ ∀ intent, s.transferIntent id = some intent →
      Since (fun l u => ¬l.TouchesIntent id ∧ u.owner id = some intent.from)
        (Initiates id intent) hist := by
  have hnone : start.transferIntent id = none :=
    State.read_of_areas (k := .instanced (.transferIntent id)) hdeployed.areas rfl
  have howned : OffersOwned id start := fun intent hintent => by
    rw [hnone] at hintent
    cases hintent
  refine Run.since_stored (fun u => u.transferIntent id)
    (I := fun u => u.book.Numbered ∧ OffersOwned id u)
    (P := fun l _ => Transaction.isRestore l = false) hnone ⟨hdeployed.numbered, howned⟩
    (fun l u v hplain hu hstep => ?_) hrun hrestore
  · have hnumbered : v.book.Numbered :=
      hstep.invariant (I := fun s => s.book.Numbered)
        (fun _ _ _ hlast hop hs => numbered_of_step hs hlast hop) hplain hu.1
    refine ⟨⟨hnumbered, hu.2.step hu.1 hstep hplain⟩, fun intent hintent => ?_⟩
    rcases hstep.intent hintent with hmade | ⟨huntouched, hold⟩
    · exact .inl hmade
    · exact .inr ⟨⟨huntouched, hu.2 intent hold⟩, hold⟩

end Runs

/-- In every run without restored snapshots, a transaction that takes a subscription from its
owner is the acceptance, authorised by the new owner, of an offer that has not run out. The old
owner made it as the owner, and nobody has replaced, accepted or vetoed it since, so that an
offer is used once at most. -/
theorem transfers_have_consent {start s t : State} {hist : History Transaction State}
    (hdeployed : Deployed start) (hrun : Run Transacts start hist s)
    (hrestore : ∀ step ∈ hist, step.1.isRestore = false) {l : Transaction}
    (hstep : Transacts l s t) (hl : l.isRestore = false) {id : Nat} {a : Address}
    (ha : s.owner id = some a) (hleft : t.owner id ≠ some a) :
    ∃ env b expiresAt, l = .call env (.acceptTransfer id b) ∧ env.authorized b = true ∧
      t.owner id = some b ∧ env.now < expiresAt ∧
      Since (fun l u => ¬l.TouchesIntent id ∧ u.owner id = some a)
        (Initiates id ⟨id, a, b, expiresAt⟩) hist := by
  have hoffers : (s.book.Numbered ∧ OffersOwned id s) ∧ _ := offers_of_run hdeployed hrun hrestore
  obtain ⟨⟨hnumbered, howned⟩, hsince⟩ := hoffers
  by_cases haccept : ∃ env b, l = .call env (.acceptTransfer id b)
  · obtain ⟨env, b, rfl⟩ := haccept
    cases hstep with
    | call hcall =>
      obtain ⟨v, w, hbody, hbefore, -⟩ := run_withLock_areas hcall
      obtain ⟨hsigned, ⟨intent, hintent, hreceiver, hopen⟩, -⟩ := doAcceptTransfer_intents hbody
      rw [State.transferIntent_of_locks hbefore] at hintent
      have hnamed : intent.from = a := Option.some.inj ((howned intent hintent).symm.trans ha)
      have htransfers : TransfersRecord s.book id t.book b :=
        run_locked_book (TransfersRecord · _ · _) (fun _ _ => doAcceptTransfer_book) hcall
      have hnew : t.owner id = some b := by
        obtain ⟨sub, -, hbook⟩ := htransfers
        have hrecord : t.subscription id = some { sub with subscriber := b } := by
          refine (congrArg (fun book : Book => book.record id) hbook).trans ?_
          exact Function.update_self _ _ _
        rw [State.owner, hrecord]
        rfl
      refine ⟨env, b, intent.expiresAt, rfl, hsigned, hnew, hopen, ?_⟩
      refine (hsince intent hintent).mono (fun l u hK => hnamed ▸ hK) fun l u hmade => ?_
      obtain ⟨env', hcalled, hauthorized, howner, hvalid, hother⟩ := hmade
      rw [hnamed, hreceiver] at hcalled
      rw [hnamed] at hauthorized howner hother
      exact ⟨env', hcalled, hauthorized, howner, hvalid, hreceiver ▸ hother⟩
  · have hkept := hstep.owner hl (fun env «to» heq => haccept ⟨env, «to», heq⟩) hnumbered ha
    exact absurd hkept hleft

private def offeredCalls : List (Env × VaultCall) :=
  [(sampleEnv 1 [⟨2⟩], .initiateTransfer 0 ⟨2⟩ ⟨3⟩ 1000),
   (sampleEnv 0 [⟨2⟩], .createSubscription sampleRequest)]

/-- A subscription goes from 2 to 3 after 2 has offered it. -/
theorem transfer_after_offer : ∃ (hist : History Transaction State) (s t : State),
    Run Transacts (sampleStart 0) hist s ∧ s.owner 0 = some ⟨2⟩ ∧ t.owner 0 = some ⟨3⟩ ∧
    ∃ (env : Env) (b : Address) (expiresAt : Nat), env.authorized b = true ∧ t.owner 0 = some b ∧ env.now < expiresAt ∧
      Since (fun l u => ¬l.TouchesIntent 0 ∧ u.owner 0 = some ⟨2⟩)
        (Initiates 0 ⟨0, ⟨2⟩, b, expiresAt⟩) hist := by
  have hrun := run_transactions (sample_transacted 0)
    (show allSucceed (afterCalls (sampleVault 0)) offeredCalls = true by decide +kernel)
  have haccept := run_eq_after (show (VaultCall.acceptTransfer 0 ⟨3⟩).exec.succeeds
    (sampleEnv 3 [⟨3⟩]) (stateAfter (afterCalls (sampleVault 0)) offeredCalls) = true by
      decide +kernel)
  have hnew : ((VaultCall.acceptTransfer 0 ⟨3⟩).exec.after (sampleEnv 3 [⟨3⟩])
      (stateAfter (afterCalls (sampleVault 0)) offeredCalls)).owner 0 = some ⟨3⟩ := by
    decide +kernel
  obtain ⟨env, b, expiresAt, -, hsigned, howner, hopen, hsince⟩ :=
    transfers_have_consent (sample_deployed 0) hrun (fun step hmem => by
      simp only [offeredCalls, transactionHistory, List.cons_append, List.nil_append,
        List.mem_cons, List.not_mem_nil, or_false] at hmem
      rcases hmem with rfl | rfl | rfl <;> rfl) (.call haccept) rfl
      (show (stateAfter (afterCalls (sampleVault 0)) offeredCalls).owner 0 = some ⟨2⟩ by
        decide +kernel) (by rw [hnew]; decide)
  exact ⟨_, _, _, hrun, by decide +kernel, hnew, env, b, expiresAt, hsigned, howner, hopen, hsince⟩

end SubscriptionVault
