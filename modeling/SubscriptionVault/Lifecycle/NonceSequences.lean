import SubscriptionVault.Governance.Footprints
import SubscriptionVault.Lifecycle.SignedMetadata

/-!
# Nonces without gaps

A call that carries a nonce uses up the next number of one counter, that of its signer for its
kind of operation. Empty batches use none, nor do batch charges with a duplicate or without a
success. Bulk calls take duplicates as they come. So the nonces accepted from a signer for a kind
of operation are 0, 1, 2 and so on.
-/

namespace SubscriptionVault

open Exec

/-! ## Administration -/

/-- The nonce of an administration call. -/
def AdminCall.nonce : AdminCall → Option Nat
  | .rotateAdmin _ _ nonce | .voteProposal _ _ nonce => some nonce
  | _ => none

/-- The counter the nonce is meant for. -/
def AdminCall.counter (s : State) : AdminCall → Option NonceKey
  | .rotateAdmin currentAdmin _ _ => some (nonceKey currentAdmin .adminRotation)
  | .voteProposal _ _ _ => s.admin.map (nonceKey · .governanceVote)
  | _ => none

section Administration

variable {env : Env} {s t : State} {v : Unit} {n : Nat}

theorem rotateAdmin_uses {currentAdmin newAdmin : Address}
    (hrun : (doRotateAdmin currentAdmin newAdmin n).run env s = .ok v t) :
    Uses s.counters t.counters (some (nonceKey currentAdmin .adminRotation, n)) := by
  obtain ⟨_, hask, hrun⟩ := run_check_ok .ask hrun
  obtain ⟨rfl, -⟩ := run_ask_ok.mp hask
  obtain ⟨_, -, hrun⟩ := run_check_ok (Modifies.requireAdminAuth _) hrun
  have hrotation : Modifies (areas [.settings]) (do
      failIf (newAdmin = currentAdmin) .selfRotation
      failIf (newAdmin = env.host.contract) .invalidNewAdmin
      let id ← requireMultisigApproval ⟨.rotateAdmin, newAdmin, none, 0⟩
      enforceConfigCooldown .admin
      writeConfig .admin newAdmin
      invalidatePendingProposals
      consumeMultisigProposal id) :=
    .bind (.failIf _ _) fun _ => .bind (.failIf _ _) fun _ =>
      .bind (requireMultisigApproval_areas _) fun id =>
      .bind (Modifies.enforceConfigCooldown rfl) fun _ => .bind (Modifies.writeConfig rfl rfl)
        fun _ => .bind (.bind Modifies.getState fun _ => Modifies.store rfl) fun _ =>
      consumeMultisigProposal_areas id
  exact advance_uses (fun _ => hrotation.nonceFree_of_areas rfl) hrun

/-- A vote is cast under the stored admin's nonce. -/
theorem doVoteProposal_uses {id : Nat} {votedYes : Bool}
    (hrun : (doVoteProposal id votedYes n).run env s = .ok v t) :
    ∃ guardian, s.admin = some guardian ∧
      Uses s.counters t.counters (some (nonceKey guardian .governanceVote, n)) := by
  obtain ⟨_, -, hrun⟩ := run_check_ok .ask hrun
  obtain ⟨guardian, hadmin, hrun⟩ := run_check_ok Modifies.requireStoredAdminAuth hrun
  obtain ⟨_, -, hrun⟩ := run_check_ok Modifies.getState hrun
  obtain ⟨_, -, hrun⟩ := run_check_ok (.failIf _ _) hrun
  obtain ⟨_, -, hrun⟩ := run_check_ok (.okOr _ _) hrun
  obtain ⟨_, -, hrun⟩ := run_check_ok (.bind Modifies.getState fun _ => .failIf _ _) hrun
  obtain ⟨_, -, hrun⟩ := run_check_ok (.failIf _ _) hrun
  obtain ⟨_, -, hrun⟩ := run_check_ok (.failIf _ _) hrun
  obtain ⟨⟨hstored, -⟩, -⟩ := run_requireStoredAdminAuth_ok.mp hadmin
  exact ⟨guardian, hstored, advance_uses
    (fun _ => (Modifies.store rfl : Modifies (areas [.settings]) _).nonceFree_of_areas rfl) hrun⟩

theorem AdminCall.consumes {call : AdminCall} (hrun : call.exec.run env s = .ok () t) :
    Consumes call.nonce (call.counter s) false s.counters t.counters := by
  cases call
  case rotateAdmin =>
    obtain ⟨_, -, hrun⟩ := run_check_ok Modifies.requireNotEmergencyStop hrun
    exact .of_uses (rotateAdmin_uses hrun)
  case voteProposal =>
    obtain ⟨guardian, hstored, huses⟩ := doVoteProposal_uses hrun
    rw [AdminCall.counter, hstored]
    exact .of_uses huses
  all_goals
    exact .of_quiet (.inl rfl)
      (State.counters_of_areas ((AdminCall.modifies_quietAreas rfl).ok hrun) rfl)

end Administration

/-! ## Signed metadata -/

def MetadataCall.nonce : MetadataCall → Option Nat
  | .setMetadataSigned _ payload _ => some payload.nonce.toNat
  | _ => none

def MetadataCall.counter (host : SigningHost) : MetadataCall → Option NonceKey
  | .setMetadataSigned signerPubkey _ _ =>
    (host.accountAddress signerPubkey).map (nonceKey · .metadataSigned)
  | _ => none

theorem MetadataCall.consumes {host : SigningHost} {env : Env} {s t : State}
    {call : MetadataCall} (hrun : (call.exec host).run env s = .ok () t) :
    Consumes call.nonce (call.counter host) false s.counters t.counters := by
  cases call with
  | setMetadata id authorizer key value =>
    exact .of_quiet (.inl rfl)
      (State.counters_of_agreeOff ((setMetadata_nonceFree id authorizer key value).ok hrun))
  | setMetadataSigned signerPubkey payload signature =>
    obtain ⟨_, -, hrun⟩ := run_check_ok (.lift _) hrun
    obtain ⟨_, -, hrun⟩ := run_check_ok (.lift _) hrun
    obtain ⟨_, hask, hrun⟩ := run_check_ok .ask hrun
    obtain ⟨rfl, -⟩ := run_ask_ok.mp hask
    obtain ⟨_, -, hrun⟩ := run_check_ok (Modifies.getSubscription _) hrun
    obtain ⟨_, -, hrun⟩ := run_check_ok (validateMetadataInput_keeps _ _ _) hrun
    obtain ⟨_, -, hrun⟩ := run_check_ok (.require _) hrun
    obtain ⟨signer, haccount, hrun⟩ := run_check_ok (.okOr _ _) hrun
    obtain ⟨_, -, hrun⟩ := run_check_ok (.failIf _ _) hrun
    obtain ⟨_, -, hrun⟩ := run_check_ok (.failIf _ _) hrun
    rw [MetadataCall.counter, (run_okOr_ok.mp haccount).1]
    exact .of_uses (advance_uses (fun _ => applyMetadataStorage_nonceFree _ _ _) hrun)
  | deleteMetadata id authorizer key =>
    exact .of_quiet (.inl rfl)
      (State.counters_of_agreeOff ((deleteMetadata_nonceFree id authorizer key).ok hrun))

/-! ## Runs -/

inductive NonceCall where
  | vault (call : VaultCall)
  | admin (call : AdminCall)
  | metadata (call : MetadataCall)

namespace NonceCall

def exec (host : SigningHost) : NonceCall → Vault Unit
  | vault call => call.exec
  | admin call => call.exec
  | metadata call => call.exec host

def nonce : NonceCall → Option Nat
  | vault call => call.nonce
  | admin call => call.nonce
  | metadata call => call.nonce

def counter (host : SigningHost) (s : State) : NonceCall → Option NonceKey
  | vault call => call.counter s
  | admin call => call.counter s
  | metadata call => call.counter host

def isIdle (env : Env) (s : State) : NonceCall → Bool
  | vault call => call.isIdle env s
  | _ => false

theorem consumes {host : SigningHost} {env : Env} {s t : State} {call : NonceCall}
    (hrun : (call.exec host).run env s = .ok () t) :
    Consumes call.nonce (call.counter host s) (call.isIdle env s) s.counters t.counters := by
  cases call with
  | vault call => exact VaultCall.consumes hrun
  | admin call => exact AdminCall.consumes hrun
  | metadata call => exact MetadataCall.consumes hrun

end NonceCall

inductive NonceAction where
  | done (env : Env) (call : NonceCall)
  | refused (env : Env) (call : NonceCall)
  /-- An entrypoint that takes no nonce, a transfer of tokens outside the vault, or nothing. -/
  | other

/-- The nonce a step accepts, with its counter. -/
def NonceAction.accepts (host : SigningHost) : NonceAction → State → Option NonceUse
  | done env call, s => taken call.nonce (call.counter host s) (call.isIdle env s)
  | _, _ => none

inductive NonceStep (host : SigningHost) : NonceAction → State → State → Prop
  | done {env : Env} {call : NonceCall} {s t : State} :
      (call.exec host).run env s = .ok () t → NonceStep host (.done env call) s t
  /-- The host drops what a failing call has written. -/
  | refused {env : Env} {call : NonceCall} {s : State} :
      (call.exec host).succeeds env s = false → NonceStep host (.refused env call) s s
  | other {s t : State} : FiniteStore.AgreeOff nonceFree s t → NonceStep host .other s t

section Runs

variable {host : SigningHost} {start s t : State} {l : NonceAction}

theorem NonceStep.uses (h : NonceStep host l s t) :
    Uses s.counters t.counters (l.accepts host s) := by
  cases h with
  | done hrun => exact (NonceCall.consumes hrun).uses
  | refused => exact .idle rfl
  | other hagree => exact .of_agreeOff hagree

theorem Deployed.counters_eq (h : Deployed start) (key : NonceKey) : start.counters key = 0 := by
  have hunset : start.read (.persistent (.adminNonce key.1 key.2)) = none :=
    State.read_of_areas h.areas rfl
  show (start.read (.persistent (.adminNonce key.1 key.2))).getD 0 = 0
  rw [hunset]
  rfl

end Runs

/-- The nonces accepted from a signer for a kind of operation are 0, 1, 2 and so on, in order. A
successful call with a nonce uses it up as the next one of its own counter, and no other counter
moves. Failing calls use none, nor do empty batches and batch charges with a duplicate or without
a success. -/
theorem nonces_gap_free (host : SigningHost) {start s : State}
    {hist : History NonceAction State} (hdeployed : Deployed start)
    (hrun : Run (NonceStep host) start hist s) :
    (∀ signer domain, used (NonceAction.accepts host) hist (nonceKey signer domain) =
      List.range (s.counters (nonceKey signer domain))) ∧
    (∀ env call u v, (.done env call, u, v) ∈ transitions hist s →
      Consumes call.nonce (call.counter host u) (call.isIdle env u) u.counters v.counters) ∧
    ∀ env call u v, (.refused env call, u, v) ∈ transitions hist s →
      v.counters = u.counters := by
  refine ⟨fun signer domain => ?_, fun env call u v hmem => ?_, fun env call u v hmem => ?_⟩
  · exact used_eq_range hrun hdeployed.counters_eq (fun _ _ _ h => h.uses) _
  · cases hrun.step_of_transition hmem with
    | done hcall => exact NonceCall.consumes hcall
  · cases hrun.step_of_transition hmem with
    | refused => rfl

/-- A host that verifies no signature. -/
private def silentHost : SigningHost where
  networkId := .replicate 32 0
  ed25519Verify _ _ _ := false
  accountAddress _ := none

private def twicePaused (nonce : Nat) : VaultCall := .bulkPauseSubscriptions ⟨8⟩ [0, 0] nonce

private def pausedOnce : State :=
  (twicePaused 0).exec.after (sampleEnv 0 [⟨8⟩]) (sampleStart 0)

private theorem twicePaused_step : NonceStep silentHost
    (.done (sampleEnv 0 [⟨8⟩]) (.vault (twicePaused 0))) (sampleStart 0) pausedOnce :=
  .done (run_eq_after (by decide +kernel))

/-- Two bulk calls of the admin take the nonces 0 and 1. -/
theorem nonces_gap_free_two : ∃ (hist : History NonceAction State) (s : State),
    Run (NonceStep silentHost) (sampleStart 0) hist s ∧
    used (NonceAction.accepts silentHost) hist (nonceKey ⟨8⟩ .operatorBatchCharge) = [0, 1] := by
  have hsecond : NonceStep silentHost
      (.done (sampleEnv 5 [⟨8⟩]) (.vault (twicePaused 1))) pausedOnce
      ((twicePaused 1).exec.after (sampleEnv 5 [⟨8⟩]) pausedOnce) :=
    .done (run_eq_after (by decide +kernel))
  have hrun := (Run.start.next twicePaused_step).next hsecond
  refine ⟨_, _, hrun, ?_⟩
  rw [(nonces_gap_free silentHost (sample_deployed 0) hrun).1]
  decide +kernel

/-- A bulk call that lists an id twice uses its nonce. -/
theorem duplicates_use_nonce : ∃ start env ids t, Deployed start ∧ ¬ids.Nodup ∧
    NonceStep silentHost (.done env (.vault (.bulkPauseSubscriptions ⟨8⟩ ids 0))) start t ∧
    start.counters (nonceKey ⟨8⟩ .operatorBatchCharge) = 0 ∧
    t.counters (nonceKey ⟨8⟩ .operatorBatchCharge) = 1 :=
  ⟨sampleStart 0, sampleEnv 0 [⟨8⟩], [0, 0], pausedOnce, sample_deployed 0, by decide,
    twicePaused_step, by decide +kernel, by decide +kernel⟩

end SubscriptionVault
