import SubscriptionVault.Accounts.Outflows

/-!
# The gate of merchant payouts

A merchant's money should leave the vault only when the merchant is approved, not blocklisted,
and a quorum of its signers has signed, and any quorum should do. The five payout calls make
different selections of these checks, and the signer check is made for the first signers of the
list.
-/

namespace SubscriptionVault

open Exec

/-! ## Runs with signer changes -/

inductive SignerAction where
  | call (env : Env) (call : VaultCall)
  | setMultisig (env : Env) (admin merchant : Address) (signers : List Address) (threshold : Nat)
  /-- An entrypoint that is not listed, a transfer of tokens outside the vault, or nothing. -/
  | other (env : Env)

/-- All slots but those of the signer lists. -/
def multisigFree : Set Slot := {k | ∀ merchant, k ≠ .instanced (.merchantMultiSig merchant)}

inductive SignerStep : SignerAction → State → State → Prop
  | call {env : Env} {call : VaultCall} {s t : State} :
      call.exec.run env s = .ok () t → SignerStep (.call env call) s t
  | setMultisig {env : Env} {admin merchant : Address} {signers : List Address} {threshold : Nat}
      {s t : State} :
      (setMerchantMultisig admin merchant signers threshold).run env s = .ok () t →
      SignerStep (.setMultisig env admin merchant signers threshold) s t
  | other {env : Env} {s t : State} :
      FiniteStore.AgreeOff (areas foreignAreas ∩ multisigFree) s t → SignerStep (.other env) s t

section Steps

variable {env : Env} {s t start : State} {l : SignerAction} {hist : History SignerAction State}
  {merchant : Address} {config : MerchantMultiSigConfig}

theorem State.merchantMultiSig_of_agreeOff (h : FiniteStore.AgreeOff multisigFree s t)
    (merchant : Address) : t.merchantMultiSig merchant = s.merchantMultiSig merchant :=
  h.read fun hmem => hmem merchant rfl

theorem VaultCall.multisig {call : VaultCall} (hrun : call.exec.run env s = .ok () t)
    (merchant : Address) : t.merchantMultiSig merchant = s.merchantMultiSig merchant :=
  VaultCall.read_merchants (k := .instanced (.merchantMultiSig merchant)) hrun rfl rfl

theorem setMerchantMultisig_valid {admin : Address} {signers : List Address} {threshold : Nat}
    {u : Unit} (hrun : (setMerchantMultisig admin merchant signers threshold).run env s = .ok u t) :
    MerchantMultiSigConfig.Valid ⟨signers, threshold⟩ ∧
      s.write (.instanced (.merchantMultiSig merchant))
        (⟨signers, threshold⟩ : MerchantMultiSigConfig) = t := by
  obtain ⟨_, -, hrun⟩ := run_check_ok (Modifies.requireAdminAuth _) hrun
  obtain ⟨_, -, hrun⟩ := run_check_ok (Modifies.requireAuth _) hrun
  obtain ⟨_, hpos, hrun⟩ := run_check_ok (.failIf _ _) hrun
  obtain ⟨_, hle, hrun⟩ := run_check_ok (.failIf _ _) hrun
  obtain ⟨_, hnodup, hrun⟩ := run_check_ok (.failIf _ _) hrun
  have hpos := (run_failIf_ok.mp hpos).1
  have hle := (run_failIf_ok.mp hle).1
  have hnodup := (run_failIf_ok.mp hnodup).1
  exact ⟨⟨not_not.mp hnodup, Nat.pos_of_ne_zero hpos, Nat.not_lt.mp hle⟩, run_store_ok.mp hrun⟩

/-- Every stored signer list has passed the checks. -/
def State.SignersValid (s : State) : Prop :=
  ∀ merchant config, s.merchantMultiSig merchant = some config → config.Valid

theorem SignerStep.signersValid (hs : s.SignersValid) (hstep : SignerStep l s t) :
    t.SignersValid := by
  cases hstep with
  | call hrun =>
    intro merchant config hconfig
    rw [VaultCall.multisig hrun] at hconfig
    exact hs merchant config hconfig
  | @setMultisig _ _ changed signers threshold _ _ hrun =>
    obtain ⟨hvalid, rfl⟩ := setMerchantMultisig_valid hrun
    intro merchant config hconfig
    by_cases hsame : merchant = changed
    · subst hsame
      have hself : some (⟨signers, threshold⟩ : MerchantMultiSigConfig) = some config :=
        (FiniteStore.read_write_self s _).symm.trans hconfig
      obtain rfl := Option.some.inj hself
      exact hvalid
    · have hkept : s.merchantMultiSig merchant = some config :=
        (FiniteStore.read_write_of_ne s _ (by simp [hsame])).symm.trans hconfig
      exact hs merchant config hkept
  | other hagree =>
    intro merchant config hconfig
    rw [State.merchantMultiSig_of_agreeOff (hagree.mono Set.inter_subset_right)] at hconfig
    exact hs merchant config hconfig

theorem signersValid_of_run (hdeployed : Deployed start) (hrun : Run SignerStep start hist s) :
    s.SignersValid := by
  refine hrun.invariant_state ?_ fun _ _ _ => SignerStep.signersValid
  intro merchant config hconfig
  have hnone : start.merchantMultiSig merchant = none :=
    State.read_of_areas (k := .instanced (.merchantMultiSig merchant)) hdeployed.areas rfl
  rw [hnone] at hconfig
  cases hconfig

end Steps

/-! ## The gate -/

/-- All that should hold when a merchant's money leaves. -/
structure State.PayoutCleared (s : State) (merchant : Address) (authorized : Address → Bool) :
    Prop where
  approved : s.whitelistMode = true → s.isMerchantApproved merchant = true
  notBlocked : s.isBlocklisted merchant = false
  signed : ∀ config, s.merchantMultiSig merchant = some config →
    config.threshold ≤ config.signatures authorized

/-- Tokens have left the vault. -/
def State.PaidOut (s t : State) (host : Host) : Prop :=
  ∃ token, t.balanceOf token host.contract < s.balanceOf token host.contract

/-- However the call is signed, it pays out only what is cleared; and with the merchant any
quorum of the signers is enough for it. -/
structure OneGate (call : VaultCall) (env : Env) (s : State) (merchant : Address) : Prop where
  necessary : ∀ authorized t, call.exec.run (env.signedBy authorized) s = .ok () t →
    s.PaidOut t env.host → s.PayoutCleared merchant authorized
  sufficient : ∀ authorized, authorized merchant = true →
    (∀ config, s.merchantMultiSig merchant = some config →
      config.threshold ≤ config.signatures authorized) →
    ∃ t, call.exec.run (env.signedBy authorized) s = .ok () t

/-- A withdrawal needs the first signers of the list to be all there are, or the merchant alone.
The other calls check neither the blocklist nor a signer list: a refund or sub-account withdrawal
has the merchant's own signature, a flush has none. -/
def VaultCall.GateComplete (call : VaultCall) (s : State) (merchant : Address) : Prop :=
  match call with
  | .withdrawMerchantFunds _ _ | .withdrawMerchantTokenFunds _ _ _ =>
    ∀ config, s.merchantMultiSig merchant = some config →
      config.threshold = config.signers.length ∨ ∀ signer ∈ config.required, signer = merchant
  | .flushPayouts _ => s.isBlocklisted merchant = false ∧ s.merchantMultiSig merchant = none
  | _ => s.isBlocklisted merchant = false ∧
    ∀ config, s.merchantMultiSig merchant = some config →
      config.threshold = 1 ∧ merchant ∈ config.signers

def VaultCall.isWithdrawal : VaultCall → Bool
  | .withdrawMerchantFunds _ _ | .withdrawMerchantTokenFunds _ _ _ => true
  | _ => false

section Gate

variable {call : VaultCall} {env : Env} {s t start : State} {merchant token : Address}
  {amount : Int} {u : Unit} {hist : History SignerAction State}

theorem run_requireMerchantApproved_ok :
    (requireMerchantApproved merchant).run env s = .ok u t ↔
      (s.whitelistMode = true → s.isMerchantApproved merchant = true) ∧ s = t := by
  simp [requireMerchantApproved]

theorem keeps_requireMerchantApproved (merchant : Address) :
    (requireMerchantApproved merchant).Keeps Eq :=
  .bind (.gets _) fun _ => .failIf _ _

@[simp] theorem State.whitelistMode_lock (s : State) (name : LockName) (held : Bool) :
    State.whitelistMode (s.write (.lock name) held) = s.whitelistMode :=
  congrArg (·.getD false) (FiniteStore.read_write_of_ne s _ (by simp))

@[simp] theorem State.isMerchantApproved_lock (s : State) (name : LockName) (held : Bool)
    (merchant : Address) :
    State.isMerchantApproved (s.write (.lock name) held) merchant =
      s.isMerchantApproved merchant :=
  congrArg (·.getD false) (FiniteStore.read_write_of_ne s _ (by simp))

theorem withdrawMerchantFundsForToken_cleared
    (hrun : (withdrawMerchantFundsForToken merchant token amount).run env s = .ok u t) :
    (s.whitelistMode = true → s.isMerchantApproved merchant = true) ∧
      s.isBlocklisted merchant = false := by
  obtain ⟨_, -, hrun⟩ := run_check_ok .ask hrun
  obtain ⟨_, -, hrun⟩ := run_check_ok (Modifies.requireAuth _) hrun
  obtain ⟨_, happroved, hrun⟩ := run_check_ok (keeps_requireMerchantApproved _) hrun
  have happroved := (run_requireMerchantApproved_ok.mp happroved).1
  have hsigners : (requireMerchantSigners merchant).Keeps Eq :=
    .bind (.gets _) fun _ => .whenSome fun _ => .forEach (fun _ => Modifies.requireAuth _) _
  obtain ⟨_, -, hrun⟩ := run_check_ok hsigners hrun
  obtain ⟨_, _, hblocked, -⟩ := run_bind_ok.mp hrun
  exact ⟨happroved, (run_requireNotBlocklisted_ok.mp hblocked).1⟩

/-- A check of a call made right after the caller was identified. -/
theorem approved_of_checked {f : Unit → Vault Unit}
    (hrun : (requireMerchantApproved merchant >>= f).run env s = .ok u t) :
    s.whitelistMode = true → s.isMerchantApproved merchant = true := by
  obtain ⟨_, happroved, -⟩ := run_check_ok (keeps_requireMerchantApproved _) hrun
  exact (run_requireMerchantApproved_ok.mp happroved).1

theorem withdrawal_cleared (hkind : call.isWithdrawal = true)
    (houtflow : call.outflow = some merchant) (hrun : call.exec.run env s = .ok () t) :
    (s.whitelistMode = true → s.isMerchantApproved merchant = true) ∧
      s.isBlocklisted merchant = false := by
  cases call
  case withdrawMerchantFunds =>
    obtain rfl := Option.some.inj houtflow
    obtain ⟨-, v, hbody, -⟩ := run_withLock_ok.mp (run_guardedCall_ok.mp hrun).2
    obtain ⟨_, _, hbody, -⟩ := run_bind_ok.mp hbody
    obtain ⟨_, -, hbody⟩ := run_check_ok (.gets _) hbody
    obtain ⟨_, -, hbody⟩ := run_check_ok (.lift _) hbody
    simpa only [State.whitelistMode_lock, State.isMerchantApproved_lock,
      State.isBlocklisted_lock] using withdrawMerchantFundsForToken_cleared hbody
  case withdrawMerchantTokenFunds =>
    obtain rfl := Option.some.inj houtflow
    obtain ⟨-, v, hbody, -⟩ := run_withLock_ok.mp (run_guardedCall_ok.mp hrun).2
    simpa only [State.whitelistMode_lock, State.isMerchantApproved_lock,
      State.isBlocklisted_lock] using withdrawMerchantFundsForToken_cleared hbody
  all_goals cases hkind

/-- Every payout call checks the approval. -/
theorem VaultCall.approved (houtflow : call.outflow = some merchant)
    (hrun : call.exec.run env s = .ok () t) :
    s.whitelistMode = true → s.isMerchantApproved merchant = true := by
  cases call
  case withdrawMerchantFunds => exact (withdrawal_cleared rfl houtflow hrun).1
  case withdrawMerchantTokenFunds => exact (withdrawal_cleared rfl houtflow hrun).1
  case merchantRefund =>
    obtain rfl := Option.some.inj houtflow
    obtain ⟨-, v, hbody, -⟩ := run_withLock_ok.mp hrun
    obtain ⟨_, -, hbody⟩ := run_check_ok .ask hbody
    obtain ⟨_, -, hbody⟩ := run_check_ok (Modifies.requireAuth _) hbody
    simpa only [State.whitelistMode_lock, State.isMerchantApproved_lock] using
      approved_of_checked hbody
  case withdrawSubAccountFunds =>
    obtain rfl := Option.some.inj houtflow
    obtain ⟨-, v, hbody, -⟩ := run_withLock_ok.mp hrun
    obtain ⟨_, -, hbody⟩ := run_check_ok .ask hbody
    obtain ⟨_, -, hbody⟩ := run_check_ok (Modifies.requireAuth _) hbody
    simpa only [State.whitelistMode_lock, State.isMerchantApproved_lock] using
      approved_of_checked hbody
  case flushPayouts =>
    obtain rfl := Option.some.inj houtflow
    obtain ⟨-, v, hbody, -⟩ := run_withLock_ok.mp (run_guardedCall_ok.mp hrun).2
    obtain ⟨_, -, hbody⟩ := run_check_ok .ask hbody
    simpa only [State.whitelistMode_lock, State.isMerchantApproved_lock] using
      approved_of_checked hbody
  all_goals cases houtflow

/-! ## The signatures -/

/-- Asking the first signers of a list comes to the same as asking for a quorum only where the
quorum is everybody, or nobody but the merchant is asked. -/
theorem MerchantMultiSigConfig.Valid.quorum_iff {config : MerchantMultiSigConfig}
    (h : config.Valid) (merchant : Address) :
    (∀ authorized : Address → Bool, authorized merchant = true →
      config.threshold ≤ config.signatures authorized →
        ∀ signer ∈ config.required, authorized signer = true) ↔
      config.threshold = config.signers.length ∨
        ∀ signer ∈ config.required, signer = merchant := by
  constructor
  · intro hquorum
    by_cases hall : config.threshold = config.signers.length
    · exact .inl hall
    · refine .inr fun signer hsigner => ?_
      have hless : config.threshold < config.signers.length := by
        have hle := h.le
        omega
      by_contra hother
      have hsigned := hquorum (fun a => decide (a ≠ signer)) (decide_eq_true fun heq =>
        hother heq.symm) (h.enough_without hless signer) signer hsigner
      exact absurd rfl (of_decide_eq_true hsigned)
  · rintro (hall | hmerchant) authorized hauth henough signer hsigner
    · exact h.all_signed hall henough (List.mem_of_mem_take hsigner)
    · rw [hmerchant signer hsigner]
      exact hauth

theorem withdrawal_gate_iff (hvalid : s.SignersValid) (hkind : call.isWithdrawal = true)
    (houtflow : call.outflow = some merchant) (hcall : call.exec.run env s = .ok () t) :
    OneGate call env s merchant ↔ ∀ config, s.merchantMultiSig merchant = some config →
      config.threshold = config.signers.length ∨
        ∀ signer ∈ config.required, signer = merchant := by
  have hsigned := VaultCall.signed houtflow hcall
  have hasks : call.SignedIn s merchant = s.WithdrawalSigned merchant := by
    cases call <;> first | rfl | cases hkind
  rw [hasks] at hsigned
  constructor
  · intro hgate config hconfig
    refine ((hvalid merchant config hconfig).quorum_iff merchant).mp
      fun authorized hauth henough => ?_
    obtain ⟨u, hrun⟩ := hgate.sufficient authorized hauth fun config' hconfig' => by
      obtain rfl := Option.some.inj (hconfig.symm.trans hconfig')
      exact henough
    exact (hsigned.only authorized () u hrun).2 config hconfig
  · intro hcomplete
    constructor
    · intro authorized u hrun _
      have hcleared := withdrawal_cleared hkind houtflow hrun
      refine ⟨hcleared.1, hcleared.2, fun config hconfig => ?_⟩
      exact (hvalid merchant config hconfig).enough
        ((hsigned.only authorized () u hrun).2 config hconfig)
    · intro authorized hauth henough
      refine ⟨t, hsigned.all authorized ⟨hauth, fun config hconfig => ?_⟩⟩
      exact ((hvalid merchant config hconfig).quorum_iff merchant).mpr (hcomplete config hconfig)
        authorized hauth (henough config hconfig)

theorem flush_gate_iff (hvalid : s.SignersValid)
    (hcall : (VaultCall.flushPayouts merchant).exec.run env s = .ok () t)
    (hpaid : s.PaidOut t env.host) : OneGate (.flushPayouts merchant) env s merchant ↔
      s.isBlocklisted merchant = false ∧ s.merchantMultiSig merchant = none := by
  have hsigned := VaultCall.signed rfl hcall
  constructor
  · intro hgate
    have hcleared := hgate.necessary (fun _ => false) t (hsigned.all _ trivial) hpaid
    refine ⟨hcleared.notBlocked, ?_⟩
    cases hconfig : s.merchantMultiSig merchant with
    | none => rfl
    | some config =>
      have henough := hcleared.signed config hconfig
      have hpos := (hvalid merchant config hconfig).pos
      simp only [MerchantMultiSigConfig.signatures, Bool.false_eq_true, Finset.filter_false,
        Finset.card_empty] at henough
      omega
  · intro hcomplete
    constructor
    · intro authorized u hrun _
      refine ⟨VaultCall.approved rfl hrun, hcomplete.1, fun config hconfig => ?_⟩
      rw [hcomplete.2] at hconfig
      cases hconfig
    · intro authorized _ _
      exact ⟨t, hsigned.all authorized trivial⟩

/-- A payout call that asks for the merchant's signature alone. -/
theorem merchant_gate_iff_of_own (hvalid : s.SignersValid)
    (houtflow : call.outflow = some merchant)
    (hasks : call.SignedIn s merchant = fun authorized => authorized merchant = true)
    (hcall : call.exec.run env s = .ok () t) (hpaid : s.PaidOut t env.host) :
    OneGate call env s merchant ↔ s.isBlocklisted merchant = false ∧
      ∀ config, s.merchantMultiSig merchant = some config →
        config.threshold = 1 ∧ merchant ∈ config.signers := by
  have hsigned := VaultCall.signed houtflow hcall
  rw [hasks] at hsigned
  constructor
  · intro hgate
    have hcleared := hgate.necessary (fun signer => decide (signer = merchant)) t
      (hsigned.all _ (decide_eq_true rfl)) hpaid
    refine ⟨hcleared.notBlocked, fun config hconfig => ?_⟩
    have henough := hcleared.signed config hconfig
    have hpos := (hvalid merchant config hconfig).pos
    rw [config.signatures_only] at henough
    split at henough
    · rename_i hlisted
      exact ⟨by omega, hlisted⟩
    · omega
  · intro hcomplete
    constructor
    · intro authorized u hrun _
      refine ⟨VaultCall.approved houtflow hrun, hcomplete.1, fun config hconfig => ?_⟩
      obtain ⟨hone, hlisted⟩ := hcomplete.2 config hconfig
      have hauth := hsigned.only authorized () u hrun
      have hmem : merchant ∈ config.signers.toFinset.filter
          (fun signer => authorized signer = true) :=
        Finset.mem_filter.mpr ⟨List.mem_toFinset.mpr hlisted, hauth⟩
      rw [hone]
      exact Finset.card_pos.mpr ⟨merchant, hmem⟩
    · intro authorized hauth _
      exact ⟨t, hsigned.all authorized hauth⟩

end Gate

/-! ## Concrete payouts -/

/-- The sample deployment has no signer lists. -/
theorem sample_signers (gracePeriod : Nat) : Run SignerStep (sampleStart gracePeriod)
    [(.other (sampleEnv 0 []), sampleStart gracePeriod)] (afterCalls (sampleVault gracePeriod)) := by
  refine Run.start.next (.other ((sample_slots gracePeriod).mono ?_))
  rintro k (rfl | rfl) <;> exact ⟨rfl, fun _ => by simp⟩

def signerHistory (s : State) : List (Env × VaultCall) → History SignerAction State
  | [] => []
  | (env, call) :: earlier => (.call env call, stateAfter s earlier) :: signerHistory s earlier

theorem run_signed {start s : State} {hist : History SignerAction State}
    (hrun : Run SignerStep start hist s) {calls : List (Env × VaultCall)}
    (h : allSucceed s calls = true) :
    Run SignerStep start (signerHistory s calls ++ hist) (stateAfter s calls) := by
  induction calls with
  | nil => exact hrun
  | cons entry earlier ih =>
    simp only [allSucceed, Bool.and_eq_true] at h
    exact (ih h.1).next (.call (run_eq_after h.2))

private def creditedCalls : List (Env × VaultCall) :=
  [(sampleEnv 60 [], .chargeSubscription 0 none),
   (sampleEnv 0 [⟨2⟩], .depositFunds 0 50 none),
   (sampleEnv 0 [⟨2⟩], .createSubscription sampleRequest)]

/-- Merchant 1 has been paid ten units. -/
private def creditedVault : State := stateAfter (afterCalls (sampleVault 0)) creditedCalls

private theorem credited_run : Run SignerStep (sampleStart 0)
    (signerHistory (afterCalls (sampleVault 0)) creditedCalls ++
      [(.other (sampleEnv 0 []), sampleStart 0)]) creditedVault :=
  run_signed (sample_signers 0) (by decide +kernel)

/-- Merchant 1 gets two signers and is put on the blocklist. -/
private def signersSet : State :=
  (setMerchantMultisig ⟨8⟩ ⟨1⟩ [⟨3⟩, ⟨4⟩] 2).after (sampleEnv 61 [⟨8⟩, ⟨1⟩]) creditedVault

private def blockedVault : State :=
  stateAfter signersSet [(sampleEnv 62 [⟨8⟩], .addToBlocklist ⟨8⟩ ⟨1⟩ [])]

end SubscriptionVault
