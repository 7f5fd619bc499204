import SubscriptionVault.Accounts.Postings
import SubscriptionVault.Charging.Parts

/-!
# Postings of a payment

A charge credits payees and the treasury, and it diverts the merchant amount when the
subscription names a sub-account. Without split payees the amount diverted is the one just
credited. A payment that fails on an overflow may leave part of a posting behind.
-/

namespace SubscriptionVault

open Exec

/-! ## Failed payments -/

def Error.overflows : Error → Bool
  | .overflow | .underflow => true
  | _ => false

/-- Only an overflow leaves part of a posting behind. -/
structure FailedPosts (P : Posting → Prop) (e : Error) (s t : State) : Prop where
  any : PostsOf (fun p => P p ∨ p.isCut = true) s t
  whole : e.overflows = false → PostsOf P s t

theorem PostsOf.failed {P : Posting → Prop} {s t : State} (h : PostsOf P s t) (e : Error) :
    FailedPosts P e s t :=
  ⟨h.mono fun _ hp => .inl hp, fun _ => h⟩

theorem FailedPosts.mono {P P' : Posting → Prop} {e : Error} {s t : State}
    (h : FailedPosts P e s t) (himp : ∀ p, P p → P' p) : FailedPosts P' e s t :=
  ⟨h.any.mono fun p hp => hp.imp (himp p) fun hcut => hcut, fun he => (h.whole he).mono himp⟩

instance {P : Posting → Prop} : EndRelation (PostsOf P) (FailedPosts P) where
  refl s := Std.Refl.refl s
  trans h h' := trans_of (PostsOf P) h h'
  failed e _ _ h := h.failed e
  extend {e} _ _ _ h h' :=
    ⟨trans_of (PostsOf _) (h.failed e).any h'.any,
      fun he => trans_of (PostsOf P) h (h'.whole he)⟩

theorem FailedPosts.of_cut {P : Posting → Prop} {e : Error} {s t : State} (p : Posting)
    (hcut : p.isCut = true) (hadmits : p.admits s.accounts)
    (hpost : t.accounts = p.post s.accounts) (he : e.overflows = true) : FailedPosts P e s t :=
  ⟨.one p (.inr hcut) hadmits hpost, fun hno => absurd (he.symm.trans hno) (by decide)⟩

/-! ## Credits -/

section Credits

variable {env : Env} {s t : State} {u : Unit} {e : Error} {merchant token : Address}
  {label : Symbol} {amount : Int} {kind : BillingChargeKind}

theorem AccruedTotals.accrue_ok {totals new : AccruedTotals} :
    totals.accrue kind amount = .ok new → new = totals.plus kind amount := by
  intro h
  cases kind <;>
  · obtain ⟨_, hsum, rfl⟩ := except_map_ok.mp h
    obtain ⟨rfl, -⟩ := checkedI128_ok.mp hsum
    rfl

theorem checkedI128_error {x : Int} {e e' : Error} (h : checkedI128 x e = .error e') :
    e' = e := by
  unfold checkedI128 at h
  split at h
  · cases h
  · exact (Except.error.inj h).symm

theorem AccruedTotals.accrue_error {totals : AccruedTotals}
    (h : totals.accrue kind amount = .error e) : e = .overflow := by
  have hmap {x : Except Error Int} {f : Int → AccruedTotals} (hx : x.map f = .error e) :
      x = .error e := by
    cases x with
    | ok _ => cases hx
    | error _ => exact congrArg Except.error (Except.error.inj hx)
  cases kind <;> exact checkedI128_error (hmap h)

theorem creditMerchantBalanceForToken_posts
    (hrun : (creditMerchantBalanceForToken merchant token amount kind).run env s = .ok u t) :
    0 ≤ amount ∧
      t.accounts = (Posting.credit merchant token amount kind none).post s.accounts := by
  obtain ⟨_, hsign, hrun⟩ := run_check_ok (.failIf _ _) hrun
  obtain ⟨current, hcurrent, hrun⟩ := run_check_ok (.gets _) hrun
  obtain rfl := (run_gets_ok.mp hcurrent).1
  obtain ⟨balance, hbalance, hrun⟩ := run_check_ok (.lift _) hrun
  obtain ⟨rfl, -⟩ := safeAdd_ok.mp (run_lift_ok.mp hbalance).1
  obtain ⟨_, s₁, hwrite, hrun⟩ := run_bind_ok.mp hrun
  obtain rfl := run_store_ok.mp hwrite
  obtain ⟨earnings, hearnings, hrun⟩ := run_check_ok (.gets _) hrun
  obtain rfl := (run_gets_ok.mp hearnings).1
  obtain ⟨accruals, haccruals, hrun⟩ := run_check_ok (.lift _) hrun
  obtain rfl := AccruedTotals.accrue_ok (run_lift_ok.mp haccruals).1
  obtain ⟨_, s₂, hrecord, hrun⟩ := run_bind_ok.mp hrun
  obtain rfl := run_store_ok.mp hrecord
  have hrest : Modifies (areas [.merchantTokens]) (do
      addMerchantToken merchant token
      addTotalAccounted token amount) :=
    .bind (.bind (.gets _) fun _ => .when (Modifies.store rfl)) fun _ => .pure _
  refine ⟨by simpa using (run_failIf_ok.mp hsign).1, ?_⟩
  have hkept : State.tokenEarnings
      (s.write (.instanced (.merchantBalance merchant token))
        (s.merchantBalance merchant token + amount)) = s.tokenEarnings :=
    State.tokenEarnings_of_areas (l := [.balances]) (s.agreeOff_write _ rfl) rfl
  rw [hrest.accounts rfl hrun, State.accounts_setEarnings, State.accounts_setBalance, hkept]
  rfl

theorem creditMerchantBalanceForToken_fails
    (hrun : (creditMerchantBalanceForToken merchant token amount kind).run env s = .err e t) :
    t.accounts = s.accounts ∨ e = .overflow ∧ 0 ≤ amount ∧
      t.accounts = (Posting.creditCut merchant token amount).post s.accounts := by
  rcases run_check_err (.failIf _ _) hrun with rfl | ⟨_, hsign, hrun⟩
  · exact .inl rfl
  rcases run_check_err (.gets _) hrun with rfl | ⟨current, hcurrent, hrun⟩
  · exact .inl rfl
  obtain rfl := (run_gets_ok.mp hcurrent).1
  rcases run_check_err (.lift _) hrun with rfl | ⟨balance, hbalance, hrun⟩
  · exact .inl rfl
  obtain ⟨rfl, -⟩ := safeAdd_ok.mp (run_lift_ok.mp hbalance).1
  rcases run_bind_err.mp hrun with hfail | ⟨_, s₁, hwrite, hrun⟩
  · exact (run_store_err.mp hfail).elim
  obtain rfl := run_store_ok.mp hwrite
  rcases run_bind_err.mp hrun with hfail | ⟨earnings, s₂, hearnings, hrun⟩
  · exact (run_gets_err.mp hfail).elim
  obtain ⟨-, rfl⟩ := run_gets_ok.mp hearnings
  rcases run_bind_err.mp hrun with hfail | ⟨accruals, s₃, -, hrun⟩
  · obtain ⟨haccrue, rfl⟩ := run_lift_err.mp hfail
    refine .inr ⟨AccruedTotals.accrue_error haccrue, by simpa using (run_failIf_ok.mp hsign).1, ?_⟩
    exact State.accounts_setBalance _ _ _ _
  · simp [setMerchantTokenEarnings, addMerchantToken, addTotalAccounted, run_when_err] at hrun

theorem creditMerchantBalanceForToken_ends (merchant token : Address) (amount : Int)
    (kind : BillingChargeKind) : (creditMerchantBalanceForToken merchant token amount kind).Ends
      (PostsOf (·.isCredit)) (FailedPosts (·.isCredit)) := by
  refine .of_runs (fun env s _ t hrun => ?_) fun env s e t hrun => ?_
  · obtain ⟨hsign, hposts⟩ := creditMerchantBalanceForToken_posts hrun
    exact .one (.credit merchant token amount kind none) rfl hsign hposts
  · rcases creditMerchantBalanceForToken_fails hrun with hsame | ⟨rfl, hsign, hposts⟩
    · exact (PostsOf.of_eq hsame).failed e
    · exact .of_cut (.creditCut merchant token amount) rfl hsign hposts rfl

theorem creditShares_ends (token : Address) (net : Int) (kind : BillingChargeKind)
    (entries : List (Address × Nat)) (total : Int) : (creditShares token net kind entries total).Ends
      (PostsOf (·.isCredit)) (FailedPosts (·.isCredit)) := by
  induction entries generalizing total with
  | nil => exact .pure _
  | cons entry entries ih =>
    exact .bind (.lift _) fun _ =>
      .bind (creditMerchantBalanceForToken_ends _ _ _ _) fun _ => ih _

theorem creditChargePayees_ends (id : Nat) (sub : Subscription) (net : Int)
    (kind : BillingChargeKind) : (creditChargePayees id sub net kind).Ends
      (PostsOf (·.isCredit)) (FailedPosts (·.isCredit)) := by
  refine .bind (.gets _) fun split => ?_
  cases split.map (·.entries) with
  | none => exact creditMerchantBalanceForToken_ends _ _ _ _
  | some entries =>
    cases entries with
    | nil => exact .pure _
    | cons entry entries =>
      exact .bind (creditShares_ends _ _ _ _ _) fun _ =>
        creditMerchantBalanceForToken_ends _ _ _ _

/-! ## Sub-accounts -/

theorem creditSubAccount_posts
    (hrun : (creditSubAccount merchant label token amount).run env s = .ok u t) :
    0 < amount ∧ t.accounts = s.accounts.stash merchant token label amount := by
  obtain ⟨_, hsign, hrun⟩ := run_check_ok (.failIf _ _) hrun
  obtain ⟨_, -, hrun⟩ := run_check_ok (.bind Modifies.load fun _ => .failIf _ _) hrun
  obtain ⟨current, hcurrent, hrun⟩ := run_check_ok (.gets _) hrun
  obtain rfl := (run_gets_ok.mp hcurrent).1
  obtain ⟨balance, hbalance, hrun⟩ := run_check_ok (.lift _) hrun
  obtain ⟨rfl, -⟩ := checkedI128_ok.mp (run_lift_ok.mp hbalance).1
  obtain ⟨_, s₁, hwrite, hrun⟩ := run_bind_ok.mp hrun
  obtain rfl := run_store_ok.mp hwrite
  obtain ⟨funds, hfunds, hrun⟩ := run_check_ok (.gets _) hrun
  obtain rfl := (run_gets_ok.mp hfunds).1
  obtain rfl := run_store_ok.mp hrun
  refine ⟨by simpa using (run_failIf_ok.mp hsign).1, ?_⟩
  rw [State.accounts_setFunds, State.accounts_setSubAccount]
  rfl

theorem creditSubAccount_fails
    (hrun : (creditSubAccount merchant label token amount).run env s = .err e t) : s = t := by
  rcases run_check_err (.failIf _ _) hrun with rfl | ⟨_, -, hrun⟩
  · rfl
  rcases run_check_err (.bind Modifies.load fun _ => .failIf _ _) hrun with rfl | ⟨_, -, hrun⟩
  · rfl
  rcases run_check_err (.gets _) hrun with rfl | ⟨_, -, hrun⟩
  · rfl
  rcases run_check_err (.lift _) hrun with rfl | ⟨_, -, hrun⟩
  · rfl
  · simp at hrun

theorem routeToSubAccount_posts {sub : Subscription} {net : Int}
    (hlabel : sub.subAccountLabel = some label)
    (hrun : (routeToSubAccount sub net).run env s = .ok u t) : 0 < net ∧
      t.accounts = (Posting.divert sub.merchant sub.token label net).post s.accounts := by
  unfold routeToSubAccount at hrun
  rw [hlabel] at hrun
  obtain ⟨_, s₁, hcredit, hrun⟩ := run_bind_ok.mp hrun
  obtain ⟨hsign, hstash⟩ := creditSubAccount_posts hcredit
  obtain ⟨parent, hparent, hrun⟩ := run_check_ok (.gets _) hrun
  obtain rfl := (run_gets_ok.mp hparent).1
  obtain ⟨balance, hbalance, hrun⟩ := run_check_ok (.lift _) hrun
  obtain ⟨rfl, -⟩ := safeSub_ok.mp (run_lift_ok.mp hbalance).1
  obtain rfl := run_store_ok.mp hrun
  have hkept : s₁.merchantBalance sub.merchant sub.token =
      s.merchantBalance sub.merchant sub.token :=
    congrArg (fun a : Accounts => a.balance sub.merchant sub.token) hstash
  refine ⟨hsign, ?_⟩
  rw [State.accounts_setBalance, hstash, hkept]
  rfl

theorem routeToSubAccount_fails {sub : Subscription} {net : Int}
    (hlabel : sub.subAccountLabel = some label)
    (hrun : (routeToSubAccount sub net).run env s = .err e t) :
    t.accounts = s.accounts ∨ e = .underflow ∧ 0 < net ∧
      t.accounts = (Posting.divertCut sub.merchant sub.token label net).post s.accounts := by
  unfold routeToSubAccount at hrun
  rw [hlabel] at hrun
  rcases run_bind_err.mp hrun with hfail | ⟨_, s₁, hcredit, hrun⟩
  · obtain rfl := creditSubAccount_fails hfail
    exact .inl rfl
  obtain ⟨hsign, hstash⟩ := creditSubAccount_posts hcredit
  rcases run_bind_err.mp hrun with hfail | ⟨parent, s₂, hparent, hrun⟩
  · exact (run_gets_err.mp hfail).elim
  obtain ⟨-, rfl⟩ := run_gets_ok.mp hparent
  rcases run_bind_err.mp hrun with hfail | ⟨_, s₃, -, hrun⟩
  · obtain ⟨hsub, rfl⟩ := run_lift_err.mp hfail
    exact .inr ⟨checkedI128_error hsub, hsign, hstash⟩
  · exact (run_store_err.mp hrun).elim

end Credits

/-! ## Payments -/

/-- Without a label or without split payees, a payment consists of credits alone. -/
structure Pays (id : Nat) (label : Option Symbol) (s t : State) : Prop where
  splits : t.splitPayees id = s.splitPayees id
  posts : PostsOf (·.isPayment) s t
  plain : label = none ∨ s.splitPayees id = none → PostsOf (·.isCredit) s t

structure FailsToPay (id : Nat) (label : Option Symbol) (e : Error) (s t : State) : Prop where
  splits : t.splitPayees id = s.splitPayees id
  posts : FailedPosts (·.isPayment) e s t
  plain : label = none ∨ s.splitPayees id = none → FailedPosts (·.isCredit) e s t

section Payments

variable {id : Nat} {label : Option Symbol} {sub : Subscription}

instance : EndRelation (Pays id label) (FailsToPay id label) where
  refl s := ⟨rfl, Std.Refl.refl s, fun _ => Std.Refl.refl s⟩
  trans h h' := by
    refine ⟨h'.splits.trans h.splits, trans_of (PostsOf _) h.posts h'.posts, fun hplain => ?_⟩
    exact trans_of (PostsOf _) (h.plain hplain) (h'.plain (h.splits ▸ hplain))
  failed e _ _ h := ⟨h.splits, h.posts.failed e, fun hplain => (h.plain hplain).failed e⟩
  extend h h' := by
    refine ⟨h'.splits.trans h.splits, EndRelation.extend h.posts h'.posts, fun hplain => ?_⟩
    exact EndRelation.extend (h.plain hplain) (h'.plain (h.splits ▸ hplain))

theorem Posting.isPayment_of_isCredit (p : Posting) (h : p.isCredit = true) :
    p.isPayment = true := by
  cases p <;> first | rfl | cases h

theorem State.splitPayees_of_areas {l : List Area} {s t : State}
    (h : FiniteStore.AgreeOff (areas l) s t) (hl : l.contains .splits = false) (id : Nat) :
    t.splitPayees id = s.splitPayees id :=
  State.read_of_areas (k := .persistent (.splitPayees id)) h hl

/-- Code of credits alone is a payment whatever the subscription looks like. -/
theorem pays_of_credits {α : Type} {x : Vault α} (hx : Modifies (areas creditAreas) x)
    (h : x.Ends (PostsOf (·.isCredit)) (FailedPosts (·.isCredit))) :
    x.Ends (Pays id label) (FailsToPay id label) := by
  refine .of_runs (fun env s a t hrun => ?_) fun env s e t hrun => ?_
  · exact ⟨State.splitPayees_of_areas (hx.ok hrun) rfl id,
      (h.ok hrun).mono Posting.isPayment_of_isCredit, fun _ => h.ok hrun⟩
  · exact ⟨State.splitPayees_of_areas (hx.err hrun) rfl id,
      (h.err hrun).mono Posting.isPayment_of_isCredit, fun _ => h.err hrun⟩

theorem routeToSubAccount_ends (sub : Subscription) (net : Int) :
    (routeToSubAccount sub net).Ends (PostsOf (·.isPayment)) (FailedPosts (·.isPayment)) := by
  cases hlabel : sub.subAccountLabel with
  | none =>
    unfold routeToSubAccount
    rw [hlabel]
    exact .pure _
  | some label =>
    refine .of_runs (fun env s _ t hrun => ?_) fun env s e t hrun => ?_
    · obtain ⟨hsign, hposts⟩ := routeToSubAccount_posts hlabel hrun
      exact .one (.divert sub.merchant sub.token label net) rfl hsign hposts
    · rcases routeToSubAccount_fails hlabel hrun with hsame | ⟨rfl, hsign, hposts⟩
      · exact (PostsOf.of_eq hsame).failed e
      · exact .of_cut (.divertCut sub.merchant sub.token label net) rfl hsign hposts rfl

theorem run_creditChargePayees_unsplit {env : Env} {s : State} {net : Int}
    {kind : BillingChargeKind} (hsplit : s.splitPayees id = none) :
    (creditChargePayees id sub net kind).run env s =
      (creditMerchantBalanceForToken sub.merchant sub.token net kind).run env s := by
  have hread : (gets (·.splitPayees id) : Vault (Option SplitPayees)).run env s = .ok none s :=
    run_gets_ok.mpr ⟨hsplit, rfl⟩
  exact run_bind_of_ok hread

/-- What was just credited moves on to the sub-account. -/
theorem Accounts.credit_divert (a : Accounts) (merchant token : Address) (label : Symbol)
    (amount : Int) (kind : BillingChargeKind) :
    (Posting.divert merchant token label amount).post
      ((Posting.credit merchant token amount kind none).post a) =
        (Posting.credit merchant token amount kind (some label)).post a := by
  have hback : a.balance merchant token + amount - amount = a.balance merchant token := by omega
  have hdivert : (Posting.divert merchant token label amount).post
      ((Posting.credit merchant token amount kind none).post a) =
        (((a.setBalance merchant token (a.balance merchant token + amount)).setBalance merchant
          token (a.balance merchant token)).accrue merchant token kind amount).stash merchant
          token label amount := by
    simp only [Posting.post, Accounts.accrue, Accounts.stash, Accounts.setEarnings,
      Accounts.setSubAccount, Accounts.addFunds, Accounts.setBalance, and_self, if_true, hback]
  rw [hdivert, Accounts.setBalance_setBalance, Accounts.setBalance_self]
  rfl

/-- A payment of a labelled subscription, where the label is known. -/
theorem payment_unsplit {env : Env} {s t : State} {net : Int} {kind : BillingChargeKind}
    {label : Symbol} {u : Unit} (hlabel : sub.subAccountLabel = some label)
    (hsplit : s.splitPayees id = none)
    (hrun : (do
      creditChargePayees id sub net kind
      routeToSubAccount sub net).run env s = .ok u t) : PostsOf (·.isCredit) s t := by
  obtain ⟨_, s₁, hcredit, hroute⟩ := run_bind_ok.mp hrun
  rw [run_creditChargePayees_unsplit hsplit] at hcredit
  obtain ⟨-, hcredited⟩ := creditMerchantBalanceForToken_posts hcredit
  obtain ⟨hsign, hdiverted⟩ := routeToSubAccount_posts hlabel hroute
  rw [hcredited, Accounts.credit_divert] at hdiverted
  exact .one (.credit sub.merchant sub.token net kind (some label)) rfl hsign hdiverted

theorem payment_unsplit_fails {env : Env} {s t : State} {net : Int} {kind : BillingChargeKind}
    {label : Symbol} {e : Error} (hlabel : sub.subAccountLabel = some label)
    (hrun : (do
      creditChargePayees id sub net kind
      routeToSubAccount sub net).run env s = .err e t) : FailedPosts (·.isCredit) e s t := by
  rcases run_bind_err.mp hrun with hfail | ⟨_, s₁, hcredit, hroute⟩
  · exact (creditChargePayees_ends id sub net kind).err hfail
  · have hcredits := (creditChargePayees_ends id sub net kind).ok hcredit
    refine EndRelation.extend hcredits ?_
    rcases routeToSubAccount_fails hlabel hroute with hsame | ⟨rfl, hsign, hposts⟩
    · exact (PostsOf.of_eq hsame).failed e
    · exact .of_cut (.divertCut sub.merchant sub.token label net) rfl hsign hposts rfl

theorem paymentEnds (id : Nat) (sub : Subscription) : PaymentEnds (Pays id sub.subAccountLabel)
    (FailsToPay id sub.subAccountLabel) id sub where
  quiet s t hagree := by
    refine ⟨State.splitPayees_of_areas hagree rfl id, ?_, fun _ => ?_⟩ <;>
      exact .of_areas hagree rfl
  credit merchant token amount kind :=
    pays_of_credits ((Modifies.creditMerchantBalanceForToken _ _ _ _).weaken
      creditSlots_subset_areas) (creditMerchantBalanceForToken_ends _ _ _ _)
  payees net kind := by
    have hareas : Modifies (areas creditAreas) (do
        creditChargePayees id sub net kind
        routeToSubAccount sub net) :=
      .bind ((Modifies.creditChargePayees _ _ _ _).weaken creditSlots_subset_areas) fun _ =>
        (Modifies.routeToSubAccount _ _).weaken creditSlots_subset_areas
    have hcredits := creditChargePayees_ends id sub net kind
    cases hlabel : sub.subAccountLabel with
    | none =>
      refine pays_of_credits hareas (.bind hcredits fun _ => ?_)
      unfold routeToSubAccount
      rw [hlabel]
      exact .pure ()
    | some label =>
      have hposts : (do
          creditChargePayees id sub net kind
          routeToSubAccount sub net).Ends (PostsOf (·.isPayment)) (FailedPosts (·.isPayment)) :=
        .bind (.mono hcredits (fun _ _ h => h.mono Posting.isPayment_of_isCredit)
          fun _ _ _ h => h.mono Posting.isPayment_of_isCredit) fun _ => routeToSubAccount_ends _ _
      refine .of_runs (fun env s _ t hrun => ?_) fun env s e t hrun => ?_
      · refine ⟨State.splitPayees_of_areas (hareas.ok hrun) rfl id, hposts.ok hrun, ?_⟩
        rintro (hnone | hsplit)
        · cases hnone
        · exact payment_unsplit hlabel hsplit hrun
      · refine ⟨State.splitPayees_of_areas (hareas.err hrun) rfl id, hposts.err hrun, fun _ => ?_⟩
        exact payment_unsplit_fails hlabel hrun

/-- Whatever the subscription looks like, paying for its charges posts payments. -/
theorem paymentPosts (id : Nat) (sub : Subscription) :
    PaymentEnds (PostsOf (·.isPayment)) (FailedPosts (·.isPayment)) id sub where
  quiet _ _ hagree := .of_areas hagree rfl
  credit _ _ _ _ := ((paymentEnds id sub).credit _ _ _ _).mono (fun _ _ h => h.posts)
    fun _ _ _ h => h.posts
  payees _ _ := ((paymentEnds id sub).payees _ _).mono (fun _ _ h => h.posts) fun _ _ _ h => h.posts

end Payments

end SubscriptionVault
