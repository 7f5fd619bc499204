import SubscriptionVault.Contract.Metadata
import SubscriptionVault.Lifecycle.Nonces

/-!
# Signed metadata

The bytes that are signed determine the payload and the network, so a signature stands for one
payload. Applying it uses up a nonce of the signer, and nonces only grow.
-/

namespace SubscriptionVault

open Exec

/-! ## The message -/

/-- The same parts, nested the other way. -/
theorem buildMetadataSignedMessage_eq (payload : SignedMetadataPayload) (networkId : NetworkId) :
    buildMetadataSignedMessage payload networkId =
      signedMsgDomainTag ++ (bigEndian 4 payload.subscriptionId.toNat ++
        ((bigEndian 4 payload.key.bytes.length ++ payload.key.bytes) ++
        ((bigEndian 4 payload.value.bytes.length ++ payload.value.bytes) ++
        (bigEndian 8 payload.nonce.toNat ++
        ((bigEndian 4 32 ++ networkId.toList) ++ bigEndian 8 payload.expiresAt.toNat))))) := by
  simp only [buildMetadataSignedMessage, List.append_assoc]

theorem selfDelimiting_uint32 : SelfDelimiting fun n : UInt32 => bigEndian 4 n.toNat :=
  (selfDelimiting_bigEndian 4).comp (f := fun n : UInt32 => ⟨n.toNat, n.toNat_lt⟩)
    fun _ _ h => UInt32.toNat_inj.mp (Fin.mk.inj h)

theorem selfDelimiting_uint64 : SelfDelimiting fun n : UInt64 => bigEndian 8 n.toNat :=
  (selfDelimiting_bigEndian 8).comp (f := fun n : UInt64 => ⟨n.toNat, n.toNat_lt⟩)
    fun _ _ h => UInt64.toNat_inj.mp (Fin.mk.inj h)

theorem selfDelimiting_hostString :
    SelfDelimiting fun text : HostString => bigEndian 4 text.bytes.length ++ text.bytes := by
  refine (selfDelimiting_bigEndian 4).prefixed HostString.fits fun a b h => ?_
  cases a
  cases b
  cases h
  rfl

theorem selfDelimiting_network :
    SelfDelimiting fun networkId : NetworkId => bigEndian 4 32 ++ networkId.toList := by
  have hbytes : SelfDelimiting fun networkId : NetworkId => networkId.toList :=
    .of_length (n := 32) (fun networkId => networkId.length_toList)
      fun _ _ h => Vector.toList_inj.mp h
  exact hbytes.const_append _

/-- Payloads or networks that differ anywhere are signed as different bytes. -/
theorem buildMetadataSignedMessage_injective :
    Function.Injective fun m : SignedMetadataPayload × NetworkId =>
      buildMetadataSignedMessage m.1 m.2 := by
  have hparts := (selfDelimiting_uint32.append (selfDelimiting_hostString.append
    (selfDelimiting_hostString.append (selfDelimiting_uint64.append
      (selfDelimiting_network.append selfDelimiting_uint64))))).const_append signedMsgDomainTag
  rintro ⟨payload, networkId⟩ ⟨payload', networkId'⟩ h
  have h : buildMetadataSignedMessage payload networkId =
      buildMetadataSignedMessage payload' networkId' := h
  rw [buildMetadataSignedMessage_eq, buildMetadataSignedMessage_eq] at h
  have hsame : (payload.subscriptionId, payload.key, payload.value, payload.nonce, networkId,
        payload.expiresAt) =
      (payload'.subscriptionId, payload'.key, payload'.value, payload'.nonce, networkId',
        payload'.expiresAt) := hparts.injective h
  cases payload
  cases payload'
  simpa [and_comm, and_left_comm, and_assoc] using hsame

/-- A signature holds for no more than one message of its key. -/
def SigningHost.Sound (host : SigningHost) : Prop :=
  ∀ signerPubkey message message' signature,
    host.ed25519Verify signerPubkey message signature = true →
    host.ed25519Verify signerPubkey message' signature = true → message = message'

/-! ## Applying a payload -/

section Apply

variable {host : SigningHost} {env : Env} {s t : State} {signerPubkey : PublicKey}
  {payload : SignedMetadataPayload} {signature : Signature} {e : Error} {call : MetadataCall}

/-- What an applied payload was checked for, and what became of its nonce. -/
structure SignedInTime (host : SigningHost) (env : Env) (s : State) (signerPubkey : PublicKey)
    (payload : SignedMetadataPayload) (signature : Signature) (sub : Subscription)
    (signer : Address) : Prop where
  found : s.effectiveSubscription payload.subscriptionId.toNat env.now = some sub
  verified : host.ed25519Verify signerPubkey
    (buildMetadataSignedMessage payload host.networkId) signature = true
  account : host.accountAddress signerPubkey = some signer
  party : signer = sub.subscriber ∨ signer = sub.merchant
  unexpired : env.now < payload.expiresAt.toNat
  next : payload.nonce.toNat = s.nonceAt signer NonceDomain.metadataSigned.asU32

theorem validateMetadataInput_keeps {R : State → State → Prop} [Std.Refl R] [IsTrans State R]
    (id : Nat) (key value : HostString) : (validateMetadataInput id key value).Keeps R :=
  .bind (.failIf _ _) fun _ => .bind (.failIf _ _) fun _ => .bind (.lift _) fun _ =>
    .bind (.lift _) fun _ => .bind (.gets _) fun _ => .failIf _ _

theorem applyMetadataStorage_nonceFree (id : Nat) (key value : HostString) :
    Modifies nonceFree (applyMetadataStorage id key value) :=
  .bind (.gets _) fun _ => .bind (.when (Modifies.store fun _ _ => nofun)) fun _ =>
    Modifies.store fun _ _ => nofun

theorem run_setMetadataSigned_ok
    (hrun : ((MetadataCall.setMetadataSigned signerPubkey payload signature).exec host).run env s =
      .ok () t) :
    ∃ sub signer, SignedInTime host env s signerPubkey payload signature sub signer ∧
      t.nonceAt signer NonceDomain.metadataSigned.asU32 = payload.nonce.toNat + 1 ∧
      NoncesGrow s t := by
  obtain ⟨_, -, hrun⟩ := run_check_ok (.lift _) hrun
  obtain ⟨_, -, hrun⟩ := run_check_ok (.lift _) hrun
  obtain ⟨_, hask, hrun⟩ := run_check_ok .ask hrun
  obtain ⟨rfl, -⟩ := run_ask_ok.mp hask
  obtain ⟨sub, hfound, hrun⟩ := run_check_ok (Modifies.getSubscription _) hrun
  obtain ⟨_, -, hrun⟩ := run_check_ok (validateMetadataInput_keeps _ _ _) hrun
  obtain ⟨_, hverified, hrun⟩ := run_check_ok (.require _) hrun
  obtain ⟨signer, haccount, hrun⟩ := run_check_ok (.okOr _ _) hrun
  obtain ⟨_, hparty, hrun⟩ := run_check_ok (.failIf _ _) hrun
  obtain ⟨_, hopen, hrun⟩ := run_check_ok (.failIf _ _) hrun
  obtain ⟨_, u, hadvance, happly⟩ := run_bind_ok.mp hrun
  have hgrow := (checkAndAdvance_uses hadvance).noncesGrow
  obtain ⟨hnext, rfl⟩ := run_checkAndAdvance_nonce hadvance
  have hkept := (applyMetadataStorage_nonceFree _ _ _).ok happly
  refine ⟨sub, signer, ⟨(run_getSubscription_ok.mp hfound).1, (run_require_ok.mp hverified).1,
    (run_okOr_ok.mp haccount).1, ?_, Nat.lt_of_not_le (run_failIf_ok.mp hopen).1, hnext⟩, ?_,
    IsTrans.trans _ _ _ hgrow (.of_agreeOff hkept)⟩
  · have hnot := (run_failIf_ok.mp hparty).1
    tauto
  · rw [State.nonceAt, hkept.read fun hmem => hmem _ _ rfl]
    exact State.nonceAt_write _ _ _ _

/-- The entries are written after the last check. -/
theorem applyMetadataStorage_err {id : Nat} {key value : HostString} :
    (applyMetadataStorage id key value).run env s ≠ .err e t := by
  intro hrun
  simp [applyMetadataStorage, run_bind_err, run_when_err] at hrun

theorem MetadataCall.exec_err (hrun : (call.exec host).run env s = .err e t) : s = t := by
  cases call with
  | setMetadata id authorizer key value =>
    rcases run_check_err (.lift _) hrun with rfl | ⟨_, -, hrun⟩
    · rfl
    rcases run_check_err (.lift _) hrun with rfl | ⟨_, -, hrun⟩
    · rfl
    rcases run_check_err (Modifies.requireAuth _) hrun with rfl | ⟨_, -, hrun⟩
    · rfl
    rcases run_check_err (Modifies.getSubscription _) hrun with rfl | ⟨_, -, hrun⟩
    · rfl
    rcases run_check_err (.failIf _ _) hrun with rfl | ⟨_, -, hrun⟩
    · rfl
    rcases run_check_err (validateMetadataInput_keeps _ _ _) hrun with rfl | ⟨_, -, hrun⟩
    · rfl
    exact absurd hrun applyMetadataStorage_err
  | setMetadataSigned signerPubkey payload signature =>
    rcases run_check_err (.lift _) hrun with rfl | ⟨_, -, hrun⟩
    · rfl
    rcases run_check_err (.lift _) hrun with rfl | ⟨_, -, hrun⟩
    · rfl
    rcases run_check_err .ask hrun with rfl | ⟨_, -, hrun⟩
    · rfl
    rcases run_check_err (Modifies.getSubscription _) hrun with rfl | ⟨_, -, hrun⟩
    · rfl
    rcases run_check_err (validateMetadataInput_keeps _ _ _) hrun with rfl | ⟨_, -, hrun⟩
    · rfl
    rcases run_check_err (.require _) hrun with rfl | ⟨_, -, hrun⟩
    · rfl
    rcases run_check_err (.okOr _ _) hrun with rfl | ⟨_, -, hrun⟩
    · rfl
    rcases run_check_err (.failIf _ _) hrun with rfl | ⟨_, -, hrun⟩
    · rfl
    rcases run_check_err (.failIf _ _) hrun with rfl | ⟨_, -, hrun⟩
    · rfl
    rcases run_bind_err.mp hrun with hfail | ⟨_, _, _, hrun⟩
    · simp [checkAndAdvance, run_bind_err] at hfail
      exact hfail.1
    · exact absurd hrun applyMetadataStorage_err
  | deleteMetadata id authorizer key =>
    rcases run_check_err (.lift _) hrun with rfl | ⟨_, -, hrun⟩
    · rfl
    rcases run_check_err (Modifies.requireAuth _) hrun with rfl | ⟨_, -, hrun⟩
    · rfl
    rcases run_check_err (Modifies.getSubscription _) hrun with rfl | ⟨_, -, hrun⟩
    · rfl
    rcases run_check_err (.failIf _ _) hrun with rfl | ⟨_, -, hrun⟩
    · rfl
    rcases run_check_err (.gets _) hrun with rfl | ⟨_, -, hrun⟩
    · rfl
    simp [run_when_err, run_bind_err] at hrun

theorem setMetadata_nonceFree (id : Nat) (authorizer : Address) (key value : HostString) :
    Modifies nonceFree ((MetadataCall.setMetadata id authorizer key value).exec host) :=
  .bind (.lift _) fun _ => .bind (.lift _) fun _ => .bind (Modifies.requireAuth _) fun _ =>
    .bind (Modifies.getSubscription _) fun _ => .bind (.failIf _ _) fun _ =>
    .bind (validateMetadataInput_keeps _ _ _) fun _ => applyMetadataStorage_nonceFree _ _ _

theorem deleteMetadata_nonceFree (id : Nat) (authorizer : Address) (key : HostString) :
    Modifies nonceFree ((MetadataCall.deleteMetadata id authorizer key).exec host) :=
  .bind (.lift _) fun _ => .bind (Modifies.requireAuth _) fun _ =>
    .bind (Modifies.getSubscription _) fun _ => .bind (.failIf _ _) fun _ =>
    .bind (.gets _) fun _ => .when <| .bind (Modifies.store fun _ _ => nofun) fun _ =>
      Modifies.delete fun _ _ => nofun

theorem MetadataCall.noncesGrow (hrun : (call.exec host).run env s = .ok () t) :
    NoncesGrow s t := by
  cases call with
  | setMetadata id authorizer key value =>
    exact (NoncesGrow.of_modifies (setMetadata_nonceFree _ _ _ _)).ok hrun
  | setMetadataSigned signerPubkey payload signature =>
    obtain ⟨_, _, _, -, hgrow⟩ := run_setMetadataSigned_ok hrun
    exact hgrow
  | deleteMetadata id authorizer key =>
    exact (NoncesGrow.of_modifies (deleteMetadata_nonceFree _ _ _)).ok hrun

end Apply

/-! ## Runs -/

inductive SignedAction where
  | call (env : Env) (call : VaultCall)
  | metadata (env : Env) (call : MetadataCall)
  /-- Any other entrypoint, a transfer of tokens outside the vault, or nothing. -/
  | other (env : Env)

/-- Other entrypoints use nonces as well, of other domains. -/
inductive SignedStep (host : SigningHost) : SignedAction → State → State → Prop
  | call {env : Env} {call : VaultCall} {s t : State} :
      call.exec.run env s = .ok () t → SignedStep host (.call env call) s t
  | metadata {env : Env} {call : MetadataCall} {s t : State} :
      (call.exec host).run env s = .ok () t → SignedStep host (.metadata env call) s t
  | other {env : Env} {s t : State} : FiniteStore.AgreeOff (areas foreignAreas) s t →
      NoncesGrow s t → SignedStep host (.other env) s t

/-- The action submits the payload with some signature of the key. -/
def SignedAction.Applies (signerPubkey : PublicKey) (payload : SignedMetadataPayload)
    (l : SignedAction) : Prop :=
  ∃ env signature, l = .metadata env (.setMetadataSigned signerPubkey payload signature)

section Runs

variable {host : SigningHost} {start s t : State} {hist : History SignedAction State}
  {l : SignedAction} {signerPubkey : PublicKey} {payload : SignedMetadataPayload}

theorem SignedStep.noncesGrow (h : SignedStep host l s t) : NoncesGrow s t := by
  cases h with
  | call hrun => exact VaultCall.noncesGrow hrun
  | metadata hrun => exact MetadataCall.noncesGrow hrun
  | other _ hgrow => exact hgrow

theorem SignedStep.applies (h : SignedStep host l s t) (happlies : l.Applies signerPubkey payload) :
    ∃ signer, host.accountAddress signerPubkey = some signer ∧
      payload.nonce.toNat = s.nonceAt signer NonceDomain.metadataSigned.asU32 ∧
      t.nonceAt signer NonceDomain.metadataSigned.asU32 = payload.nonce.toNat + 1 := by
  obtain ⟨env, signature, rfl⟩ := happlies
  cases h with
  | metadata hrun =>
    obtain ⟨_, signer, hsigned, hafter, -⟩ := run_setMetadataSigned_ok hrun
    exact ⟨signer, hsigned.account, hsigned.next, hafter⟩

/-- The nonces of applied payloads lie behind. -/
theorem applied_behind (hrun : Run (SignedStep host) start hist s) :
    ∀ taken ∈ hist, taken.1.Applies signerPubkey payload →
      ∃ signer, host.accountAddress signerPubkey = some signer ∧
        payload.nonce.toNat < s.nonceAt signer NonceDomain.metadataSigned.asU32 := by
  induction hrun with
  | start => exact fun _ hmem => nomatch hmem
  | @next earlier u v l hprefix hlast ih =>
    intro taken hmem happlies
    rcases List.mem_cons.mp hmem with rfl | hmem
    · obtain ⟨signer, haccount, -, hafter⟩ := hlast.applies happlies
      exact ⟨signer, haccount, by omega⟩
    · obtain ⟨signer, haccount, hbehind⟩ := ih taken hmem happlies
      exact ⟨signer, haccount, hbehind.trans_le (hlast.noncesGrow _ _)⟩

theorem applied_once (hrun : Run (SignedStep host) start hist s) :
    hist.Pairwise fun later earlier => ∀ signerPubkey payload,
      ¬(later.1.Applies signerPubkey payload ∧ earlier.1.Applies signerPubkey payload) := by
  induction hrun with
  | start => exact .nil
  | @next earlier u v l hprefix hlast ih =>
    refine .cons (fun taken hmem signerPubkey payload => ?_) ih
    rintro ⟨hlater, hearlier⟩
    obtain ⟨signer, haccount, hnext, -⟩ := hlast.applies hlater
    obtain ⟨signer', haccount', hbehind⟩ := applied_behind hprefix taken hmem hearlier
    obtain rfl := Option.some.inj (haccount.symm.trans haccount')
    omega

end Runs

private def note : SignedMetadataPayload where
  subscriptionId := 0
  key := ⟨[107], by decide⟩
  value := ⟨[118], by decide⟩
  nonce := 0
  expiresAt := 50

private def noteKey : PublicKey := .replicate 32 2

private def noteSignature : Signature := .replicate 64 7

/-- A host that knows one key, of address 2, and one signature of it. -/
private def noteHost : SigningHost where
  networkId := .replicate 32 1
  ed25519Verify signerPubkey message signature :=
    signerPubkey = noteKey ∧ message = buildMetadataSignedMessage note (.replicate 32 1) ∧
      signature = noteSignature
  accountAddress signerPubkey := if signerPubkey = noteKey then some ⟨2⟩ else none

private theorem noteHost_sound : noteHost.Sound := by
  intro signerPubkey message message' signature h h'
  have hmessage := (of_decide_eq_true h).2.1
  have hmessage' := (of_decide_eq_true h').2.1
  rw [hmessage, hmessage']

private def notedVault : State :=
  (VaultCall.createSubscription sampleRequest).exec.after (sampleEnv 0 [⟨2⟩])
    (afterCalls (sampleVault 0))

end SubscriptionVault
