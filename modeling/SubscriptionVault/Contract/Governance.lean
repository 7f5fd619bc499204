import SubscriptionVault.Contract.Config

/-!
# Guardian governance

Submission, voting, execution and cancellation of proposals, and the helpers through which
administration entrypoints ask for an approved proposal and mark it executed.
-/

namespace SubscriptionVault

open Exec

def minTimelockDelay : Nat := 2 * 24 * 60 * 60

/-- The floor applied to a proposal's quorum when it is executed. -/
def minQuorumBps : Nat := 6700

def maxProtocolFeeBips : Nat := 500

namespace State

/-- `read_guardians`. -/
def guardians (s : State) : AddressMap Nat := (s.read (.persistent .guardians)).getD ∅

def guardianWeight (s : State) (guardian : Address) : Nat :=
  (s.guardians.lookup guardian).getD 0

/-- `get_current_proposal_id`: the id the next submission gets. -/
def currentProposalId (s : State) : Nat := (s.read (.instanced .nextProposalId)).getD 0

def proposal (s : State) (id : Nat) : Option Proposal := s.read (.persistent (.proposal id))

/-- Proposals below the cutoff are invalidated. -/
def proposalCutoff (s : State) : Nat := (s.read (.symbol .proposalCutoff)).getD 0

def adminProposal (s : State) : Option AdminProposal := s.read (.symbol .adminProposal)

end State

def calculateTotalWeight (guardians : AddressMap Nat) : Nat :=
  guardians.entries.foldl (fun total guardian => saturatingAddU32 total guardian.2) 0

/-- One vote's share of the tally; only current guardians count. -/
def countVote (guardians : AddressMap Nat) (tally : Nat × Nat)
    (vote : Sigma fun _ : Address => Bool) : Nat × Nat :=
  match guardians.lookup vote.1 with
  | some weight =>
    if vote.2 then (saturatingAddU32 tally.1 weight, tally.2)
    else (tally.1, saturatingAddU32 tally.2 weight)
  | none => tally

/-- The weights of the yes and of the no votes. -/
def calculateQuorum (guardians : AddressMap Nat) (p : Proposal) : Nat × Nat :=
  p.votes.entries.foldl (countVote guardians) (0, 0)

/-- The yes weight execution asks for. -/
def requiredVotes (guardians : AddressMap Nat) (p : Proposal) : Nat :=
  calculateTotalWeight guardians * max p.quorumBps minQuorumBps / 10000 % (u32Max + 1)

/-- What an administration entrypoint asks approval for. -/
structure Request where
  kind : ProposalKind
  target : Address
  target2 : Option Address
  target3 : Nat
deriving DecidableEq

/-- The proposal asks for the request's kind, targets and value. -/
def Proposal.request (p : Proposal) : Request := ⟨p.kind, p.target, p.target2, p.target3⟩

/-! ## Submission, voting, cancellation -/

def invalidatePendingProposals : Vault Unit := do
  let s ← getState
  store (.symbol .proposalCutoff) s.currentProposalId

def ensureProposalNotInvalidated (id : Nat) : Vault Unit := do
  let s ← getState
  failIf (id < s.proposalCutoff) .proposalInvalidated

def validateSetProtocolFeeProposal (feeBps : Nat) (treasury : Option Address) :
    Except Error Unit :=
  if maxProtocolFeeBips < feeBps then .error .protocolFeeTooHigh
  else if treasury = none then .error .invalidInput
  else .ok ()

def validateSetDisputeWindowProposal (windowSecs : Nat) : Except Error Unit :=
  if windowSecs = 0 ∨ windowSecs = u32Max then .error .invalidInput else .ok ()

def validateProposalConfig (kind : ProposalKind) (target2 : Option Address) (target3 : Nat) :
    Except Error Unit :=
  match kind with
  | .setProtocolFee => validateSetProtocolFeeProposal target3 target2
  | .setDisputeWindow => validateSetDisputeWindowProposal target3
  | _ => .ok ()

/-- The counter is advanced by an unchecked `u64` addition. -/
def getNextProposalId : Vault Nat := do
  let s ← getState
  store (.instanced .nextProposalId) ((s.currentProposalId + 1) % (u64Max + 1))
  pure s.currentProposalId

def doSubmitProposal (request : Request) (quorumBps eta : Nat) : Vault Nat := do
  let env ← ask
  failIf (10000 < quorumBps) .invalidInput
  failIf (request.kind = .setDisputeWindow ∧ request.target3 = 0) .invalidInput
  lift (validateProposalConfig request.kind request.target2 request.target3)
  let minEta ← okOr (checkedAddU64 env.now minTimelockDelay) .overflow
  failIf (eta < minEta) .invalidInput
  let id ← getNextProposalId
  store (.persistent (.proposal id))
    { id, kind := request.kind, target := request.target, target2 := request.target2,
      target3 := request.target3, quorumBps, votes := ∅, eta, submittedAt := env.now,
      executed := false }
  pure id

/-- Votes are cast by the stored admin, who must also be a guardian. -/
def doVoteProposal (id : Nat) (votedYes : Bool) (nonce : Nat) : Vault Unit := do
  let env ← ask
  let guardian ← requireStoredAdminAuth
  let s ← getState
  failIf (s.guardianWeight guardian = 0) .unauthorized
  let p ← okOr (s.proposal id) .notFound
  ensureProposalNotInvalidated id
  failIf p.executed .invalidInput
  failIf (p.eta ≤ env.now) .invalidInput
  checkAndAdvance guardian .governanceVote nonce
  store (.persistent (.proposal id)) { p with votes := p.votes.insert guardian votedYes }

def doCancelProposal (id : Nat) : Vault Unit := do
  let _ ← requireStoredAdminAuth
  let s ← getState
  let p ← okOr (s.proposal id) .notFound
  failIf p.executed .invalidInput
  store (.persistent (.proposal id)) { p with executed := true }

def addGuardian (guardian : Address) (weight : Nat) : Vault Unit := do
  failIf (weight = 0) .invalidInput
  let s ← getState
  store (.persistent .guardians) (s.guardians.insert guardian weight)

def removeGuardian (guardian : Address) : Vault Unit := do
  let s ← getState
  store (.persistent .guardians) (s.guardians.erase guardian)

/-! ## Execution -/

def State.oracleConfig (s : State) : OracleConfig :=
  (s.config .oracle).getD
    { enabled := false, oracle := none, maxAgeSeconds := 0, kind := .spot, windowSecs := 0,
      fixedNumerator := 0, fixedDenominator := 1 }

def setOracleAddress (oracle : Address) : Vault Unit := do
  let s ← getState
  writeConfig .oracle { s.oracleConfig with oracle := some oracle }

/-- The action of a proposal. Recoveries and token changes are left to the caller. -/
def applyProposal (p : Proposal) : Vault Unit :=
  match p.kind with
  | .rotateAdmin => do
    writeConfig .admin p.target
    invalidatePendingProposals
  | .setProtocolFee => do
    writeConfig .feeBps p.target3
    whenSome p.target2 (writeConfig .treasury ·)
  | .upgradeContract => fail .invalidInput
  | .emergencyStop => writeConfig .emergencyStop (decide (p.target3 ≠ 0))
  | .recoverStrandedFunds => pure ()
  | .addAcceptedToken => pure ()
  | .removeAcceptedToken => pure ()
  | .setDisputeWindow => applyDisputeWindowSecs p.target3
  | .setOracleConfig => setOracleAddress p.target

def doExecuteProposal (id : Nat) : Vault Unit := do
  let env ← ask
  let s ← getState
  let p ← okOr (s.proposal id) .notFound
  ensureProposalNotInvalidated id
  failIf p.executed .invalidInput
  let minExecutionTime ← okOr (checkedAddU64 p.submittedAt minTimelockDelay) .overflow
  failIf (env.now < minExecutionTime) .invalidInput
  failIf (env.now < p.eta) .invalidInput
  failIf ((calculateQuorum s.guardians p).1 < requiredVotes s.guardians p) .invalidInput
  applyProposal p
  store (.persistent (.proposal id)) { p with executed := true }

/-! ## Approval of administration calls -/

/-- The first unexecuted proposal for the request among the last ten ids, newest first. -/
def matchingProposal (proposals : Nat → Option Proposal) (currentProposalId : Nat)
    (request : Request) : Option (Nat × Proposal) :=
  ((List.range 10).filter (· ≤ currentProposalId)).findSome? fun i =>
    match proposals (currentProposalId - i) with
    | some p =>
      if p.request = request ∧ p.executed = false then some (currentProposalId - i, p) else none
    | none => none

/-- Without guardians the answer is the id 0. The quorum is taken of the second component of
the tally, which is the weight of the no votes. -/
def requireMultisigApproval (request : Request) : Vault Nat := do
  let env ← ask
  let s ← getState
  if s.guardians.entries = [] then pure 0
  else do
    let found ← okOr (matchingProposal s.proposal s.currentProposalId request)
      .multiSigProposalNotFound
    failIf (env.now < found.2.eta) .multiSigProposalExpired
    let tally := calculateQuorum s.guardians found.2
    failIf (tally.1 < tally.2 * found.2.quorumBps / 10000) .multiSigQuorumNotReached
    pure found.1

/-- The id 0 stands for "no proposal". -/
def consumeMultisigProposal (id : Nat) : Vault Unit :=
  if id = 0 then pure () else doExecuteProposal id

end SubscriptionVault
