import SubscriptionVault.Lifecycle.Transactions

/-!
# Payouts and their signers

Five calls pay out what is credited to a merchant. Each is followed to the set of signatures it
looks at: the outcome of the call is the same in every environment with those signatures.
-/

namespace SubscriptionVault

open Exec

/-! ## Signer lists -/

/-- What `setMerchantMultisig` has checked. -/
structure MerchantMultiSigConfig.Valid (config : MerchantMultiSigConfig) : Prop where
  nodup : config.signers.Nodup
  pos : 0 < config.threshold
  le : config.threshold ≤ config.signers.length

/-- How many of the configured signers have signed. -/
def MerchantMultiSigConfig.signatures (config : MerchantMultiSigConfig)
    (authorized : Address → Bool) : Nat :=
  (config.signers.toFinset.filter fun signer => authorized signer = true).card

namespace MerchantMultiSigConfig

variable {config : MerchantMultiSigConfig} {authorized : Address → Bool} {signer : Address}

theorem Valid.card (h : config.Valid) :
    config.signers.toFinset.card = config.signers.length :=
  List.toFinset_card_of_nodup h.nodup

/-- Whoever has all of the required signatures has enough. -/
theorem Valid.enough (h : config.Valid)
    (hsigned : ∀ signer ∈ config.required, authorized signer = true) :
    config.threshold ≤ config.signatures authorized := by
  have hlength : config.required.length = config.threshold := by
    simp [required, List.length_take, h.le]
  have hnodup : config.required.Nodup := h.nodup.sublist (List.take_sublist _ _)
  have hcard : config.required.toFinset.card = config.threshold :=
    (List.toFinset_card_of_nodup hnodup).trans hlength
  rw [← hcard]
  refine Finset.card_le_card fun signer hsigner => ?_
  have hmem : signer ∈ config.required := List.mem_toFinset.mp hsigner
  have hlisted : signer ∈ config.signers := List.mem_of_mem_take hmem
  exact Finset.mem_filter.mpr ⟨List.mem_toFinset.mpr hlisted, hsigned signer hmem⟩

/-- A quorum of all signers includes everybody. -/
theorem Valid.all_signed (h : config.Valid) (hall : config.threshold = config.signers.length)
    (henough : config.threshold ≤ config.signatures authorized)
    (hsigner : signer ∈ config.signers) : authorized signer = true := by
  have hfull : config.signers.toFinset.filter (fun signer => authorized signer = true) =
      config.signers.toFinset := by
    refine Finset.eq_of_subset_of_card_le (Finset.filter_subset _ _) ?_
    rw [h.card, ← hall]
    exact henough
  have hmem : signer ∈ config.signers.toFinset.filter
      (fun signer => authorized signer = true) := by
    rw [hfull]
    exact List.mem_toFinset.mpr hsigner
  exact (Finset.mem_filter.mp hmem).2

/-- Everybody but one makes a quorum, unless all are needed. -/
theorem Valid.enough_without (h : config.Valid) (hless : config.threshold < config.signers.length)
    (missing : Address) : config.threshold ≤
      config.signatures fun signer => decide (signer ≠ missing) := by
  have herase : config.signers.toFinset.filter
      (fun signer => decide (signer ≠ missing) = true) =
        config.signers.toFinset.erase missing := by
    ext signer
    simp [and_comm]
  unfold signatures
  rw [herase]
  have hcard := Finset.pred_card_le_card_erase (s := config.signers.toFinset) (a := missing)
  rw [h.card] at hcard
  omega

/-- One signature counts only for a signer. -/
theorem signatures_only (config : MerchantMultiSigConfig) (merchant : Address) :
    config.signatures (fun signer => decide (signer = merchant)) =
      if merchant ∈ config.signers then 1 else 0 := by
  have hfilter : config.signers.toFinset.filter
      (fun signer => decide (signer = merchant) = true) =
        if merchant ∈ config.signers then {merchant} else ∅ := by
    ext signer
    split
    · simp only [decide_eq_true_eq, Finset.mem_filter, List.mem_toFinset, Finset.mem_singleton]
      constructor
      · exact And.right
      · rintro rfl
        exact ⟨‹_›, rfl⟩
    · simp only [decide_eq_true_eq, Finset.mem_filter, List.mem_toFinset, Finset.notMem_empty,
        iff_false]
      rintro ⟨hlisted, rfl⟩
      exact absurd hlisted ‹_›
  unfold signatures
  rw [hfilter]
  split <;> rfl

end MerchantMultiSigConfig

/-! ## What a call looks at -/

/-- The same call, signed by others. -/
def Env.signedBy (env : Env) (authorized : Address → Bool) : Env := { env with authorized }

/-- A run that succeeded would have succeeded with exactly those signatures that are enough. -/
structure SignedFor {α : Type} (enough : (Address → Bool) → Prop) (x : Vault α) (env : Env)
    (s : State) (a : α) (t : State) : Prop where
  only : ∀ authorized b u, x.run (env.signedBy authorized) s = .ok b u → enough authorized
  all : ∀ authorized, enough authorized → x.run (env.signedBy authorized) s = .ok a t

section Signed

variable {α β : Type} {enough : (Address → Bool) → Prop} {x body : Vault α} {env : Env}
  {s t : State} {a : α} {name : LockName} {merchant token : Address} {amount : Int}
  {authorized : Address → Bool}

theorem SignedFor.of_sameIn (hsame : ∀ authorized, SameIn env (env.signedBy authorized) x)
    (hrun : x.run env s = .ok a t) : SignedFor (fun _ => True) x env s a t where
  only _ _ _ _ := trivial
  all authorized _ := (hsame authorized).ok hrun

theorem SignedFor.withLock (hrun : (withLock name body).run env s = .ok a t)
    (hbody : ∀ u, body.run env (s.write (.lock name) true) = .ok a u →
      SignedFor enough body env (s.write (.lock name) true) a u) :
    SignedFor enough (withLock name body) env s a t := by
  obtain ⟨hfree, u, hinner, rfl⟩ := run_withLock_ok.mp hrun
  have hsigned := hbody u hinner
  constructor
  · intro authorized b v hother
    obtain ⟨-, w, hother, -⟩ := run_withLock_ok.mp hother
    exact hsigned.only authorized b w hother
  · intro authorized henough
    exact run_withLock_ok.mpr ⟨hfree, u, hsigned.all authorized henough, rfl⟩

theorem SignedFor.guardedCall (hrun : (guardedCall name body).run env s = .ok a t)
    (hbody : ∀ u, body.run env (s.write (.lock name) true) = .ok a u →
      SignedFor enough body env (s.write (.lock name) true) a u) :
    SignedFor enough (guardedCall name body) env s a t := by
  obtain ⟨hopen, hlocked⟩ := run_guardedCall_ok.mp hrun
  have hsigned := SignedFor.withLock hlocked hbody
  constructor
  · intro authorized b v hother
    exact hsigned.only authorized b v (run_guardedCall_ok.mp hother).2
  · intro authorized henough
    exact run_guardedCall_ok.mpr ⟨hopen, hsigned.all authorized henough⟩

theorem SignedFor.congr {enough' : (Address → Bool) → Prop} (h : SignedFor enough x env s a t)
    (hiff : ∀ authorized, enough authorized ↔ enough' authorized) :
    SignedFor enough' x env s a t where
  only authorized b u hother := (hiff authorized).mp (h.only authorized b u hother)
  all authorized henough := h.all authorized ((hiff authorized).mpr henough)

/-- A check that asks for signatures, and what follows it. -/
theorem SignedFor.bind {first : (Address → Bool) → Prop} {x : Vault β} {f : β → Vault α}
    (hx : x.Keeps Eq) (hrun : (x >>= f).run env s = .ok a t)
    (hfirst : ∀ b, x.run env s = .ok b s → SignedFor first x env s b s)
    (hrest : ∀ b, (f b).run env s = .ok a t → SignedFor enough (f b) env s a t) :
    SignedFor (fun authorized => first authorized ∧ enough authorized) (x >>= f) env s a t := by
  obtain ⟨b, u, hcheck, hrun⟩ := run_bind_ok.mp hrun
  obtain rfl := hx.ok hcheck
  have hcheckSigned := hfirst b hcheck
  have hrestSigned := hrest b hrun
  constructor
  · intro authorized c u hother
    obtain ⟨b', v, hcheck', hother⟩ := run_bind_ok.mp hother
    have henough := hcheckSigned.only authorized b' v hcheck'
    rw [hcheckSigned.all authorized henough] at hcheck'
    obtain ⟨rfl, rfl⟩ := Outcome.ok.inj hcheck'
    exact ⟨henough, hrestSigned.only authorized c u hother⟩
  · intro authorized ⟨hsigned, henough⟩
    exact run_bind_ok.mpr ⟨b, s, hcheckSigned.all authorized hsigned,
      hrestSigned.all authorized henough⟩

/-- A check that looks at no signature. -/
theorem SignedFor.check {x : Vault β} {f : β → Vault α} (hx : x.Keeps Eq)
    (hsame : ∀ authorized, SameIn env (env.signedBy authorized) x)
    (hrun : (x >>= f).run env s = .ok a t)
    (hrest : ∀ b, (f b).run env s = .ok a t → SignedFor enough (f b) env s a t) :
    SignedFor enough (x >>= f) env s a t :=
  (SignedFor.bind hx hrun (fun _ hcheck => .of_sameIn hsame hcheck) hrest).congr fun _ =>
    and_iff_right trivial

/-- What follows looks at no signature. -/
theorem SignedFor.andThen {x : Vault β} {f : β → Vault α}
    (hrun : (x >>= f).run env s = .ok a t)
    (hx : ∀ b u, x.run env s = .ok b u → SignedFor enough x env s b u)
    (hsame : ∀ b authorized, SameIn env (env.signedBy authorized) (f b)) :
    SignedFor enough (x >>= f) env s a t := by
  obtain ⟨b, u, hfirst, hrest⟩ := run_bind_ok.mp hrun
  have hsigned := hx b u hfirst
  constructor
  · intro authorized c v hother
    obtain ⟨b', w, hother, -⟩ := run_bind_ok.mp hother
    exact hsigned.only authorized b' w hother
  · intro authorized henough
    exact run_bind_ok.mpr ⟨b, u, hsigned.all authorized henough, (hsame b authorized).ok hrest⟩

theorem SignedFor.requireAuth {signer : Address} {u : Unit}
    (hrun : (requireAuth signer).run env s = .ok u t) :
    SignedFor (fun authorized => authorized signer = true) (requireAuth signer) env s u t := by
  obtain ⟨⟨-, hself⟩, rfl⟩ := run_requireAuth_ok.mp hrun
  constructor
  · intro authorized b v hother
    exact (run_requireAuth_ok.mp hother).1.1
  · intro authorized hsigned
    exact run_requireAuth_ok.mpr ⟨⟨hsigned, hself⟩, rfl⟩

theorem SignedFor.ask {f : Env → Vault α}
    (hsame : ∀ authorized, f (env.signedBy authorized) = f env)
    (hrun : (Exec.ask >>= f).run env s = .ok a t)
    (hrest : (f env).run env s = .ok a t → SignedFor enough (f env) env s a t) :
    SignedFor enough (Exec.ask >>= f) env s a t := by
  have hread (q : Env) : (Exec.ask >>= f).run q s = (f q).run q s := rfl
  have hsigned := hrest ((hread env).symm.trans hrun)
  constructor
  · intro authorized b u hother
    rw [hread, hsame] at hother
    exact hsigned.only authorized b u hother
  · intro authorized henough
    rw [hread, hsame]
    exact hsigned.all authorized henough

/-! ## Code that looks at no signature -/

theorem transfer_sameIn (token receiver : Address) (amount : Int) :
    SameIn env (env.signedBy authorized) (transfer token env.host.contract receiver amount) := by
  refine .ask ?_ ?_
  · simp [Env.signedBy]
  · exact .bind (.require _) fun _ => .bind (.require _) fun _ => .bind (.require _) fun _ =>
      .bind (.gets _) fun _ => .bind (.require _) fun _ => .update _

theorem requireMerchantBalance_sameIn (merchant token : Address) (amount : Int) :
    SameIn env (env.signedBy authorized) (requireMerchantBalance merchant token amount) :=
  .bind (.gets _) fun _ => .bind (.failIf _ _) fun _ => .bind (.failIf _ _) fun _ => .pure _

theorem debitMerchantBalance_sameIn (merchant token : Address) (current amount : Int) :
    SameIn env (env.signedBy authorized)
      (debitMerchantBalance merchant token current amount) :=
  .bind (.lift _) fun _ => .update _

theorem recordWithdrawal_sameIn (merchant token : Address) (amount : Int) :
    SameIn env (env.signedBy authorized) (recordWithdrawal merchant token amount) :=
  .bind (.gets _) fun _ => .bind (.lift _) fun _ => .update _

theorem recordRefund_sameIn (merchant token : Address) (amount : Int) :
    SameIn env (env.signedBy authorized) (recordRefund merchant token amount) :=
  .bind (.gets _) fun _ => .bind (.lift _) fun _ => .update _

theorem requireMerchantApproved_sameIn (merchant : Address) :
    SameIn env (env.signedBy authorized) (requireMerchantApproved merchant) :=
  .bind (.gets _) fun _ => .failIf _ _

theorem requireNotBlocklisted_sameIn (merchant : Address) :
    SameIn env (env.signedBy authorized) (requireNotBlocklisted merchant) :=
  .bind (.gets _) fun _ => .failIf _ _

theorem flushMerchantToken_sameIn (merchant : Address) (minPayout : Int) (token : Address) :
    SameIn env (env.signedBy authorized) (flushMerchantToken merchant minPayout token) :=
  .ask rfl <| .bind (.gets _) fun _ => .when <| .bind (.gets _) fun _ => .bind (.okOr _ _) fun _ =>
    .bind (.update _) fun _ => .bind (recordWithdrawal_sameIn _ _ _) fun _ =>
    .bind (.pure _) fun _ => transfer_sameIn _ _ _

theorem doFlushPayouts_sameIn (merchant : Address) :
    SameIn env (env.signedBy authorized) (doFlushPayouts merchant) :=
  .ask rfl <| .bind (requireMerchantApproved_sameIn _) fun _ => .bind (.gets _) fun _ =>
    .when <| .bind (.failIf _ _) fun _ => .bind (.gets _) fun _ =>
    .bind (.forEach (fun _ => flushMerchantToken_sameIn _ _ _) _) fun _ => .update _

/-! ## The signatures of each call -/

/-- The signatures a withdrawal asks for. -/
def State.WithdrawalSigned (s : State) (merchant : Address) (authorized : Address → Bool) :
    Prop :=
  authorized merchant = true ∧ ∀ config, s.merchantMultiSig merchant = some config →
    ∀ signer ∈ config.required, authorized signer = true

theorem requireSigners_signed {signers : List Address} {u : Unit}
    (hrun : (forEach signers requireAuth).run env s = .ok u t) :
    SignedFor (fun authorized => ∀ signer ∈ signers, authorized signer = true)
      (forEach signers requireAuth) env s u t := by
  induction signers with
  | nil =>
    obtain rfl := run_forEach_nil_ok.mp hrun
    exact ⟨fun _ _ _ _ _ h => absurd h List.not_mem_nil,
      fun _ _ => run_forEach_nil_ok.mpr rfl⟩
  | cons signer rest ih =>
    exact (SignedFor.bind (Modifies.requireAuth _) hrun (fun _ => .requireAuth) fun _ => ih).congr
      fun authorized => (List.forall_mem_cons (p := fun signer => authorized signer = true)).symm

theorem requireMerchantSigners_signed {u : Unit}
    (hrun : (requireMerchantSigners merchant).run env s = .ok u s) :
    SignedFor (fun authorized => ∀ config, s.merchantMultiSig merchant = some config →
      ∀ signer ∈ config.required, authorized signer = true)
      (requireMerchantSigners merchant) env s u s := by
  obtain ⟨config, hconfig, hrest⟩ := run_check_ok (.gets _) hrun
  obtain rfl := (run_gets_ok.mp hconfig).1
  have hfirst (authorized : Address → Bool) : (requireMerchantSigners merchant).run
      (env.signedBy authorized) s = (whenSome (s.merchantMultiSig merchant) fun config =>
        forEach config.required requireAuth).run (env.signedBy authorized) s := rfl
  cases hstored : s.merchantMultiSig merchant with
  | none =>
    rw [hstored] at hfirst hrest
    refine ⟨fun _ _ _ _ _ h => absurd h (by simp), fun authorized _ => ?_⟩
    rw [hfirst]
    exact hrest
  | some config =>
    rw [hstored] at hfirst hrest
    have hsigned := requireSigners_signed hrest
    constructor
    · intro authorized b v hother _ heq
      obtain rfl := Option.some.inj heq
      rw [hfirst] at hother
      exact hsigned.only authorized b v hother
    · intro authorized henough
      rw [hfirst]
      exact hsigned.all authorized (henough config rfl)

theorem withdrawMerchantFundsForToken_signed {u : Unit}
    (hrun : (withdrawMerchantFundsForToken merchant token amount).run env s = .ok u t) :
    SignedFor (s.WithdrawalSigned merchant) (withdrawMerchantFundsForToken merchant token amount)
      env s u t := by
  have hsigners : (requireMerchantSigners merchant).Keeps Eq :=
    .bind (.gets _) fun _ => .whenSome fun _ => .forEach (fun _ => Modifies.requireAuth _) _
  have happroved : (requireMerchantApproved merchant).Keeps Eq :=
    .bind (.gets _) fun _ => .failIf _ _
  refine .ask (fun _ => rfl) hrun fun hrun => ?_
  refine .bind (Modifies.requireAuth _) hrun (fun _ => .requireAuth) fun _ hrun => ?_
  refine .check happroved (fun _ => requireMerchantApproved_sameIn _) hrun fun _ hrun => ?_
  refine (SignedFor.bind hsigners hrun (fun _ => requireMerchantSigners_signed) fun _ hrun =>
    .of_sameIn (fun authorized => ?_) hrun).congr fun _ => and_iff_left trivial
  exact .bind (requireNotBlocklisted_sameIn _) fun _ => .bind (.failIf _ _) fun _ =>
    .bind (.gets _) fun _ => .bind (.failIf _ _) fun _ => .bind (.gets _) fun _ =>
    .bind (.failIf _ _) fun _ => .bind (requireMerchantBalance_sameIn _ _ _) fun _ =>
    .bind (.gets _) fun _ => .bind (.failIf _ _) fun _ =>
    .bind (debitMerchantBalance_sameIn _ _ _ _) fun _ =>
    .bind (recordRefund_sameIn _ _ _) fun _ => .bind (.pure _) fun _ =>
    .bind (recordWithdrawal_sameIn _ _ _) fun _ => transfer_sameIn _ _ _

theorem merchantRefund_signed {subscriber : Address} {u : Unit}
    (hrun : (merchantRefund merchant subscriber token amount).run env s = .ok u t) :
    SignedFor (fun authorized => authorized merchant = true)
      (merchantRefund merchant subscriber token amount) env s u t := by
  refine .ask (fun _ => rfl) hrun fun hrun => ?_
  refine (SignedFor.bind (Modifies.requireAuth _) hrun (fun _ => .requireAuth) fun _ hrun =>
    .of_sameIn (fun authorized => ?_) hrun).congr fun _ => and_iff_left trivial
  exact .bind (requireMerchantApproved_sameIn _) fun _ => .bind (.failIf _ _) fun _ =>
    .bind (.gets _) fun _ => .bind (.failIf _ _) fun _ =>
    .bind (requireMerchantBalance_sameIn _ _ _) fun _ =>
    .bind (debitMerchantBalance_sameIn _ _ _ _) fun _ => .bind (.pure _) fun _ =>
    .bind (recordRefund_sameIn _ _ _) fun _ => transfer_sameIn _ _ _

theorem withdrawSubAccountFunds_signed {label : Symbol} {u : Unit}
    (hrun : (withdrawSubAccountFunds merchant label token amount).run env s = .ok u t) :
    SignedFor (fun authorized => authorized merchant = true)
      (withdrawSubAccountFunds merchant label token amount) env s u t := by
  refine .ask (fun _ => rfl) hrun fun hrun => ?_
  refine (SignedFor.bind (Modifies.requireAuth _) hrun (fun _ => .requireAuth) fun _ hrun =>
    .of_sameIn (fun authorized => ?_) hrun).congr fun _ => and_iff_left trivial
  exact .bind (requireMerchantApproved_sameIn _) fun _ => .bind (.failIf _ _) fun _ =>
    .bind (.bind (.gets _) fun _ => .failIf _ _) fun _ => .bind (.gets _) fun _ =>
    .bind (.failIf _ _) fun _ => .bind (.failIf _ _) fun _ => .bind (.gets _) fun _ =>
    .bind (.failIf _ _) fun _ => .bind (.lift _) fun _ => .bind (.update _) fun _ =>
    .bind (.gets _) fun _ => .bind (.update _) fun _ =>
    .bind (recordWithdrawal_sameIn _ _ _) fun _ => .bind (.pure _) fun _ => transfer_sameIn _ _ _

theorem withdrawMerchantFundsReported_signed {u : Unit}
    (hrun : (withdrawMerchantFundsReported merchant amount).run env s = .ok u t) :
    SignedFor (s.WithdrawalSigned merchant) (withdrawMerchantFundsReported merchant amount) env s
      u t := by
  refine .andThen hrun (fun _ _ hrun => ?_) fun _ _ =>
    .bind (.gets _) fun _ => .bind (.lift _) fun _ => .pure _
  refine .check (.gets _) (fun _ => .gets _) hrun fun _ hrun => ?_
  refine .check (.lift _) (fun _ => .lift _) hrun fun _ hrun => ?_
  exact withdrawMerchantFundsForToken_signed hrun

/-! ## Payout calls -/

/-- The merchant whose credited money a call pays out. -/
def VaultCall.outflow : VaultCall → Option Address
  | .withdrawMerchantFunds merchant _ | .withdrawMerchantTokenFunds merchant _ _
  | .merchantRefund merchant _ _ _ | .withdrawSubAccountFunds merchant _ _ _
  | .flushPayouts merchant => some merchant
  | _ => none

/-- The signatures a payout call asks for. -/
def VaultCall.SignedIn (call : VaultCall) (s : State) (merchant : Address)
    (authorized : Address → Bool) : Prop :=
  match call with
  | .withdrawMerchantFunds _ _ | .withdrawMerchantTokenFunds _ _ _ =>
    s.WithdrawalSigned merchant authorized
  | .flushPayouts _ => True
  | _ => authorized merchant = true

@[simp] theorem State.merchantMultiSig_lock (s : State) (name : LockName) (held : Bool)
    (merchant : Address) :
    State.merchantMultiSig (s.write (.lock name) held) merchant = s.merchantMultiSig merchant :=
  FiniteStore.read_write_of_ne s _ (by simp)

theorem VaultCall.signed {call : VaultCall} (houtflow : call.outflow = some merchant)
    (hrun : call.exec.run env s = .ok () t) :
    SignedFor (call.SignedIn s merchant) call.exec env s () t := by
  have hlocked (name : LockName) (authorized : Address → Bool) :
      State.WithdrawalSigned (s.write (.lock name) true) merchant authorized ↔
        s.WithdrawalSigned merchant authorized := by
    simp [State.WithdrawalSigned]
  cases call
  case withdrawMerchantFunds =>
    obtain rfl := Option.some.inj houtflow
    exact (SignedFor.guardedCall hrun fun _ => withdrawMerchantFundsReported_signed).congr
      (hlocked _)
  case withdrawMerchantTokenFunds =>
    obtain rfl := Option.some.inj houtflow
    exact (SignedFor.guardedCall hrun fun _ => withdrawMerchantFundsForToken_signed).congr
      (hlocked _)
  case merchantRefund =>
    obtain rfl := Option.some.inj houtflow
    exact SignedFor.withLock hrun fun _ => merchantRefund_signed
  case withdrawSubAccountFunds =>
    obtain rfl := Option.some.inj houtflow
    exact SignedFor.withLock hrun fun _ => withdrawSubAccountFunds_signed
  case flushPayouts =>
    exact SignedFor.guardedCall hrun fun _ =>
      .of_sameIn fun _ => doFlushPayouts_sameIn _
  all_goals cases houtflow

end Signed

end SubscriptionVault
