import SubscriptionVault.Contract.Subscriptions
import SubscriptionVault.Framework.Encoding

/-!
# Metadata

Both parties of a subscription may attach short texts to it, either under their own authorisation
or by a payload they signed elsewhere, which anybody may submit. What is signed is a byte string
built from the payload and the network; the check of a signature and the account that belongs to
a key come from the host.
-/

namespace SubscriptionVault

open Exec

def maxMetadataKeys : Nat := 10

def maxMetadataKeyLength : Nat := 32

def maxMetadataValueLength : Nat := 256

abbrev PublicKey := Vector UInt8 32

abbrev NetworkId := Vector UInt8 32

abbrev Signature := Vector UInt8 64

/-- What the host knows of keys and signatures. -/
structure SigningHost where
  networkId : NetworkId
  ed25519Verify : PublicKey → Bytes → Signature → Bool
  accountAddress : PublicKey → Option Address

structure SignedMetadataPayload where
  subscriptionId : UInt32
  key : HostString
  value : HostString
  nonce : UInt64
  expiresAt : UInt64
deriving DecidableEq

/-- The name of the format, filled up to 32 bytes. -/
def signedMsgDomainTag : Bytes :=
  "SBL_META_SIGNED_v1".toUTF8.toList ++ List.replicate 14 0

def buildMetadataSignedMessage (payload : SignedMetadataPayload) (networkId : NetworkId) :
    Bytes :=
  signedMsgDomainTag ++ bigEndian 4 payload.subscriptionId.toNat ++
    bigEndian 4 payload.key.bytes.length ++ payload.key.bytes ++
    bigEndian 4 payload.value.bytes.length ++ payload.value.bytes ++
    bigEndian 8 payload.nonce.toNat ++
    bigEndian 4 32 ++ networkId.toList ++
    bigEndian 8 payload.expiresAt.toNat

/-! ## Texts -/

def isWhitespace (byte : UInt8) : Bool :=
  byte = 32 ∨ byte = 9 ∨ byte = 10 ∨ byte = 13 ∨ byte = 11 ∨ byte = 12

/-- Only texts of up to 256 bytes are looked through. -/
def rejectEmptyString (text : HostString) : Except Error Unit :=
  if text.bytes.length < 1 then .error .invalidInput
  else if text.bytes.length ≤ 256 ∧ text.bytes.all isWhitespace then .error .invalidInput
  else .ok ()

def validateUtf8String (text : HostString) : Except Error Unit :=
  if text.bytes.length = 0 then .error .invalidInput
  else if (ByteArray.mk text.bytes.toArray).validateUTF8 = false then .error .invalidInput
  else if 0 ∈ text.bytes then .error .invalidInput
  else if text.bytes.any fun byte => byte < 32 ∧ byte ≠ 9 ∧ byte ≠ 10 ∧ byte ≠ 13 then
    .error .invalidInput
  else if text.bytes.all (· < 32) then .error .invalidInput
  else .ok ()

/-! ## Entries -/

def State.metadataKeys (s : State) (id : Nat) : List HostString :=
  (s.read (.persistent (.metadataKeys id))).getD []

def State.metadataAt (s : State) (id : Nat) (key : HostString) : Option HostString :=
  s.read (.persistent (.metadata id key))

/-- A key that is there may be written again even when there is no room for another one. -/
def validateMetadataInput (id : Nat) (key value : HostString) : Vault Unit := do
  failIf (maxMetadataKeyLength < key.bytes.length) .metadataKeyTooLong
  failIf (maxMetadataValueLength < value.bytes.length) .metadataValueTooLong
  lift (validateUtf8String key)
  lift (validateUtf8String value)
  let keys ← gets (·.metadataKeys id)
  failIf (key ∉ keys ∧ maxMetadataKeys ≤ keys.length) .metadataKeyLimitReached

def applyMetadataStorage (id : Nat) (key value : HostString) : Vault Unit := do
  let keys ← gets (·.metadataKeys id)
  when (key ∉ keys) (store (.persistent (.metadataKeys id)) (keys ++ [key]))
  store (.persistent (.metadata id key)) value

def applyMetadataValue (id : Nat) (key value : HostString) : Vault Unit := do
  validateMetadataInput id key value
  applyMetadataStorage id key value

def setMetadata (id : Nat) (caller : Address) (key value : HostString) : Vault Unit := do
  requireAuth caller
  let sub ← getSubscription id
  failIf (caller ≠ sub.subscriber ∧ caller ≠ sub.merchant) .forbidden
  applyMetadataValue id key value

def getMetadata (id : Nat) (key : HostString) : Vault HostString := do
  let _ ← getSubscription id
  let found ← gets (·.metadataAt id key)
  okOr found .notFound

/-- The order of the other keys stays. -/
def deleteMetadata (id : Nat) (caller : Address) (key : HostString) : Vault Unit := do
  requireAuth caller
  let sub ← getSubscription id
  failIf (caller ≠ sub.subscriber ∧ caller ≠ sub.merchant) .forbidden
  let keys ← gets (·.metadataKeys id)
  when (key ∈ keys) do
    store (.persistent (.metadataKeys id)) (keys.erase key)
    delete (.persistent (.metadata id key))

def listMetadataKeys (id : Nat) : Vault (List HostString) := do
  let _ ← getSubscription id
  gets (·.metadataKeys id)

/-- A signature that does not hold aborts the call. -/
def doSetMetadataSigned (host : SigningHost) (signerPubkey : PublicKey)
    (payload : SignedMetadataPayload) (signature : Signature) : Vault Unit := do
  let env ← ask
  let sub ← getSubscription payload.subscriptionId.toNat
  validateMetadataInput payload.subscriptionId.toNat payload.key payload.value
  require (host.ed25519Verify signerPubkey (buildMetadataSignedMessage payload host.networkId)
    signature = true)
  let signerAddress ← okOr (host.accountAddress signerPubkey) .overflow
  failIf (signerAddress ≠ sub.subscriber ∧ signerAddress ≠ sub.merchant) .forbidden
  failIf (payload.expiresAt.toNat ≤ env.now) .invalidInput
  checkAndAdvance signerAddress .metadataSigned payload.nonce.toNat
  applyMetadataStorage payload.subscriptionId.toNat payload.key payload.value

/-! ## Entrypoints -/

inductive MetadataCall where
  | setMetadata (id : Nat) (authorizer : Address) (key value : HostString)
  | setMetadataSigned (signerPubkey : PublicKey) (payload : SignedMetadataPayload)
      (signature : Signature)
  | deleteMetadata (id : Nat) (authorizer : Address) (key : HostString)

def MetadataCall.exec (host : SigningHost) : MetadataCall → Vault Unit
  | .setMetadata id authorizer key value => do
    lift (rejectEmptyString key)
    lift (rejectEmptyString value)
    SubscriptionVault.setMetadata id authorizer key value
  | .setMetadataSigned signerPubkey payload signature => do
    lift (rejectEmptyString payload.key)
    lift (rejectEmptyString payload.value)
    doSetMetadataSigned host signerPubkey payload signature
  | .deleteMetadata id authorizer key => do
    lift (rejectEmptyString key)
    SubscriptionVault.deleteMetadata id authorizer key

end SubscriptionVault
