import SubscriptionVault.Contract.Merchant

/-!
# Paying merchants

Withdrawals, refunds, scheduled payouts, sub-account withdrawals, and the rotation that moves
everything recorded for one merchant address to another.
-/

namespace SubscriptionVault

open Exec

def State.payoutSchedule (s : State) (merchant : Address) : PayoutSchedule :=
  (s.read (.instanced (.payoutSchedule merchant))).getD ⟨0, 0, 0⟩

def State.merchantMultiSig (s : State) (merchant : Address) : Option MerchantMultiSigConfig :=
  s.read (.instanced (.merchantMultiSig merchant))

/-- The signers whose authorisation a withdrawal needs. -/
def MerchantMultiSigConfig.required (config : MerchantMultiSigConfig) : List Address :=
  config.signers.take config.threshold

/-- No signer may be listed twice. -/
def setMerchantMultisig (admin merchant : Address) (signers : List Address) (threshold : Nat) :
    Vault Unit := do
  requireAdminAuth admin
  requireAuth merchant
  failIf (threshold = 0) .invalidInput
  failIf (signers.length < threshold) .invalidInput
  failIf (¬signers.Nodup) .invalidInput
  store (.instanced (.merchantMultiSig merchant))
    ({ signers, threshold } : MerchantMultiSigConfig)

def requireMerchantSigners (merchant : Address) : Vault Unit := do
  let config ← gets (·.merchantMultiSig merchant)
  whenSome config fun config => forEach config.required requireAuth

/-- The recorded balance, which must cover the amount. -/
def requireMerchantBalance (merchant token : Address) (amount : Int) : Vault Int := do
  let current ← gets (·.merchantBalance merchant token)
  failIf (current = 0) .notFound
  failIf (current < amount) .insufficientBalance
  pure current

def debitMerchantBalance (merchant token : Address) (current amount : Int) : Vault Unit := do
  let newBalance ← lift (safeSub current amount)
  setMerchantBalance merchant token newBalance

def recordWithdrawal (merchant token : Address) (amount : Int) : Vault Unit := do
  let earnings ← gets (·.tokenEarnings merchant token)
  let withdrawals ← lift (checkedI128 (earnings.withdrawals + amount) .overflow)
  setMerchantTokenEarnings merchant token { earnings with withdrawals }

def recordRefund (merchant token : Address) (amount : Int) : Vault Unit := do
  let earnings ← gets (·.tokenEarnings merchant token)
  let refunds ← lift (checkedI128 (earnings.refunds + amount) .overflow)
  setMerchantTokenEarnings merchant token { earnings with refunds }

/-- A withdrawal also counts as a refund in the earnings record. The vault's own balance is
checked before anything is written. -/
def withdrawMerchantFundsForToken (merchant token : Address) (amount : Int) : Vault Unit := do
  let env ← ask
  requireAuth merchant
  requireMerchantApproved merchant
  requireMerchantSigners merchant
  requireNotBlocklisted merchant
  failIf (amount ≤ 0) .invalidAmount
  let accepted ← gets (·.isTokenAccepted token)
  failIf (accepted = false) .invalidInput
  let config ← gets (·.merchantConfig merchant)
  failIf config.isNone .notFound
  let current ← requireMerchantBalance merchant token amount
  let held ← tokenBalance token env.host.contract
  failIf (held < amount) .insufficientBalance
  debitMerchantBalance merchant token current amount
  recordRefund merchant token amount
  subTotalAccounted token amount
  recordWithdrawal merchant token amount
  transfer token env.host.contract merchant amount

def withdrawMerchantFunds (merchant : Address) (amount : Int) : Vault Unit := do
  let token ← gets (·.defaultToken)
  let token ← lift token
  withdrawMerchantFundsForToken merchant token amount

def merchantRefund (merchant subscriber token : Address) (amount : Int) : Vault Unit := do
  let env ← ask
  requireAuth merchant
  requireMerchantApproved merchant
  failIf (amount ≤ 0) .invalidAmount
  let config ← gets (·.merchantConfig merchant)
  failIf config.isNone .notFound
  let current ← requireMerchantBalance merchant token amount
  debitMerchantBalance merchant token current amount
  subTotalAccounted token amount
  recordRefund merchant token amount
  transfer token env.host.contract subscriber amount

/-! ## Scheduled payouts -/

def doSetPayoutSchedule (merchant : Address) (cadenceSeconds : Nat) (minPayout : Int) :
    Vault Unit := do
  requireAuth merchant
  failIf (minPayout < 0) .invalidAmount
  let previous ← gets (·.payoutSchedule merchant)
  store (.instanced (.payoutSchedule merchant))
    { cadenceSeconds, minPayout, lastPayoutAt := previous.lastPayoutAt }

/-- Pay out the whole balance in one token, if it reaches the minimum. -/
def flushMerchantToken (merchant : Address) (minPayout : Int) (token : Address) :
    Vault Unit := do
  let env ← ask
  let balance ← gets (·.merchantBalance merchant token)
  when (minPayout ≤ balance ∧ 0 < balance) do
    let config ← gets (·.merchantConfig merchant)
    let config ← okOr config .notFound
    setMerchantBalance merchant token 0
    recordWithdrawal merchant token balance
    subTotalAccounted token balance
    transfer token env.host.contract config.payoutAddress balance

def doFlushPayouts (merchant : Address) : Vault Unit := do
  let env ← ask
  requireMerchantApproved merchant
  let schedule ← gets (·.payoutSchedule merchant)
  when (schedule.cadenceSeconds ≠ 0 ∨ schedule.minPayout ≠ 0) do
    failIf (0 < schedule.lastPayoutAt ∧
      env.now - schedule.lastPayoutAt < schedule.cadenceSeconds) .intervalNotElapsed
    let tokens ← gets (·.merchantTokens merchant)
    forEach tokens (flushMerchantToken merchant schedule.minPayout)
    store (.instanced (.payoutSchedule merchant)) { schedule with lastPayoutAt := env.now }

/-! ## Sub-accounts -/

/-- The token is the caller's choice; the sub-account's number has none. -/
def withdrawSubAccountFunds (merchant : Address) (label : Symbol) (token : Address)
    (amount : Int) : Vault Unit := do
  let env ← ask
  requireAuth merchant
  requireMerchantApproved merchant
  failIf (amount ≤ 0) .invalidAmount
  requireSubAccountExists merchant label
  let current ← gets (·.subAccountBalance merchant label)
  failIf (current = 0) .notFound
  failIf (current < amount) .insufficientBalance
  let held ← tokenBalance token env.host.contract
  failIf (held < amount) .insufficientBalance
  let newBalance ← lift (checkedI128 (current - amount) .underflow)
  store (.instanced (.merchantSubAccount merchant label)) newBalance
  let funds ← gets (·.subAccountFunds merchant label token)
  store (.subAccountFunds merchant label token) (funds - amount)
  recordWithdrawal merchant token amount
  subTotalAccounted token amount
  transfer token env.host.contract merchant amount

/-! ## Rotation -/

/-- The new list with what the old one adds to it. -/
def mergeInto {α : Type} [DecidableEq α] (existing moved : List α) : List α :=
  moved.foldl (fun merged a => if a ∈ merged then merged else merged ++ [a]) existing

/-- Move the entry of one key to another, replacing what is there. -/
def moveEntry {α : Type} («from» «to» : DataKey) [Holds DataKey.Val «from» α]
    [Holds DataKey.Val «to» α] : Vault Unit := do
  let found ← load (.instanced «from»)
  whenSome found fun value => do
    store (.instanced «to») value
    delete (.instanced «from»)

/-- Balances are added without an overflow check; earnings replace those of the new address. -/
def moveMerchantToken (oldMerchant newMerchant token : Address) : Vault Unit := do
  let balance ← gets (·.merchantBalance oldMerchant token)
  when (balance ≠ 0) do
    let existing ← gets (·.merchantBalance newMerchant token)
    setMerchantBalance newMerchant token (wrapI128 (existing + balance))
  delete (.instanced (.merchantBalance oldMerchant token))
  moveEntry (.merchantEarnings oldMerchant token) (.merchantEarnings newMerchant token)

def rewriteSubscriptionMerchant (oldMerchant newMerchant : Address) (id : Nat) :
    Vault Unit := do
  let found ← gets (·.subscription id)
  whenSome found fun sub =>
    when (sub.merchant = oldMerchant)
      (writeSubscription id { sub with merchant := newMerchant })

/-- Move a list entry, merging it into the list already there. -/
def moveList {α : Type} [DecidableEq α] («from» «to» : DataKey)
    [Holds DataKey.Val «from» (List α)] [Holds DataKey.Val «to» (List α)] (moved : List α) :
    Vault Unit := do
  when (moved ≠ []) do
    let existing ← load (.instanced «to»)
    store (.instanced «to») (mergeInto (existing.getD []) moved)
  delete (.instanced «from»)

/-- Nothing rejects a rotation of an address to itself. Sub-accounts stay behind. -/
def doRotateMerchantAddress (admin oldMerchant newMerchant : Address) (nonce : Nat) :
    Vault Unit := do
  requireAdminAuth admin
  checkAndAdvance admin .merchantRotation nonce
  let tokens ← gets (·.merchantTokens oldMerchant)
  forEach tokens (moveMerchantToken oldMerchant newMerchant)
  moveList (.merchantTokens oldMerchant) (.merchantTokens newMerchant) tokens
  moveEntry (.merchantConfig oldMerchant) (.merchantConfig newMerchant)
  moveEntry (.merchantPaused oldMerchant) (.merchantPaused newMerchant)
  moveEntry (.merchantVacation oldMerchant) (.merchantVacation newMerchant)
  let ids ← gets (·.merchantSubs oldMerchant)
  forEach ids (rewriteSubscriptionMerchant oldMerchant newMerchant)
  moveList (.merchantSubs oldMerchant) (.merchantSubs newMerchant) ids

end SubscriptionVault
