import SubscriptionVault.Contract.Records

/-!
# Merchants

Configuration, pause and vacation of a merchant, and the ledger of what the vault owes it: a
balance and an earnings record per token, and labelled sub-accounts.
-/

namespace SubscriptionVault

open Exec

def maxFeeBips : Int := 10000

namespace State

def merchantConfig (s : State) (merchant : Address) : Option MerchantConfig :=
  s.read (.instanced (.merchantConfig merchant))

/-- `get_merchant_paused`. The separate flag only counts before schema version 3. -/
def merchantPaused (s : State) (merchant : Address) : Bool :=
  (s.merchantConfig merchant).any (·.isPaused) ||
    decide (s.schemaVersion < 3) &&
      (s.read (.instanced (.merchantPaused merchant))).getD false

def merchantVacation (s : State) (merchant : Address) : Option MerchantVacation :=
  s.read (.instanced (.merchantVacation merchant))

def isMerchantInVacation (s : State) (merchant : Address) (now : Nat) : Bool :=
  (s.merchantVacation merchant).any fun v => v.startTs ≤ now && now < v.endTs

def merchantFeeOverrideBps (s : State) (merchant : Address) : Option Nat :=
  s.read (.instanced (.merchantFeeBps merchant))

def whitelistMode (s : State) : Bool := (s.read (.instanced .merchantWhitelistMode)).getD false

def isMerchantApproved (s : State) (merchant : Address) : Bool :=
  (s.read (.instanced (.merchantApproved merchant))).getD false

def merchantSubs (s : State) (merchant : Address) : List Nat :=
  (s.read (.instanced (.merchantSubs merchant))).getD []

/-- `get_merchant_balance_by_token`. -/
def merchantBalance (s : State) (merchant token : Address) : Int :=
  (s.read (.instanced (.merchantBalance merchant token))).getD 0

/-- `get_merchant_token_earnings`. -/
def tokenEarnings (s : State) (merchant token : Address) : TokenEarnings :=
  (s.read (.instanced (.merchantEarnings merchant token))).getD ⟨⟨0, 0, 0⟩, 0, 0⟩

def merchantTokens (s : State) (merchant : Address) : List Address :=
  (s.read (.instanced (.merchantTokens merchant))).getD []

def subAccountBalance (s : State) (merchant : Address) (label : Symbol) : Int :=
  (s.read (.instanced (.merchantSubAccount merchant label))).getD 0

def subAccountList (s : State) (merchant : Address) : List Symbol :=
  (s.read (.instanced (.merchantSubAccountList merchant))).getD []

/-- What a sub-account has received in one token, less what it paid out in it. -/
def subAccountFunds (s : State) (merchant : Address) (label : Symbol) (token : Address) : Int :=
  (s.read (.subAccountFunds merchant label token)).getD 0

/-- Both guards a charge checks for each payee. -/
def merchantStatus (s : State) (merchant : Address) (now : Nat) : Bool × Bool :=
  (s.merchantPaused merchant, s.isMerchantInVacation merchant now)

end State

/-! ## Pause and vacation -/

def setMerchantPaused (merchant : Address) (paused : Bool) : Vault Unit :=
  store (.instanced (.merchantPaused merchant)) paused

/-- Nothing happens when the merchant already is as asked for. -/
def pauseMerchant (merchant : Address) : Vault Unit := do
  requireAuth merchant
  let paused ← gets (·.merchantPaused merchant)
  when (paused = false) (setMerchantPaused merchant true)

def unpauseMerchant (merchant : Address) : Vault Unit := do
  requireAuth merchant
  let paused ← gets (·.merchantPaused merchant)
  when (paused = true) (setMerchantPaused merchant false)

def setMerchantVacation (merchant : Address) (startTs endTs : Nat) : Vault Unit := do
  requireAuth merchant
  failIf (endTs ≤ startTs) .invalidInput
  let env ← ask
  failIf (startTs < env.now) .invalidExpiration
  store (.instanced (.merchantVacation merchant)) { startTs, endTs }

def clearMerchantVacation (merchant : Address) : Vault Unit := do
  requireAuth merchant
  delete (.instanced (.merchantVacation merchant))

/-! ## Configuration -/

/-- No bit outside the five known operations is set. -/
def isValidAllowedOperations (ops : Int) : Prop := 0 ≤ ops ∧ ops < 32

instance (ops : Int) : Decidable (isValidAllowedOperations ops) :=
  inferInstanceAs (Decidable (_ ∧ _))

/-- Bit zero allows charging. -/
def allowsCharge (ops : Int) : Prop := ops % 2 = 1

instance (ops : Int) : Decidable (allowsCharge ops) := inferInstanceAs (Decidable (_ = _))

def validateFeeBips (feeBips : Int) : Vault Unit := failIf (maxFeeBips < feeBips) .invalidFeeBips

def validateOperations (ops : Int) : Vault Unit := do
  failIf (¬isValidAllowedOperations ops) .invalidOperations
  failIf (¬allowsCharge ops) .mustAllowChargeOperation

def validateMerchantConfigInput (feeBips allowedOperations : Int) : Vault Unit := do
  validateFeeBips feeBips
  validateOperations allowedOperations

def requireMerchantApproved (merchant : Address) : Vault Unit := do
  let blocked ← gets fun s : State => s.whitelistMode && !s.isMerchantApproved merchant
  failIf blocked .merchantNotApproved

def initializeMerchantConfig (merchant payoutAddress : Address)
    (feeBips allowedOperations : Int) (feeAddress : Option Address) (redirectUrl : Bytes) :
    Vault Unit := do
  requireAuth merchant
  requireMerchantApproved merchant
  validateMerchantConfigInput feeBips allowedOperations
  let env ← ask
  store (.instanced (.merchantConfig merchant))
    { version := 1, payoutAddress, feeBips, allowedOperations, isActive := true, feeAddress,
      redirectUrl, isPaused := false, lastUpdated := env.now }

def setMerchantConfig (merchant : Address) (config : MerchantConfig) : Vault Unit := do
  requireAuth merchant
  validateMerchantConfigInput config.feeBips config.allowedOperations
  let env ← ask
  store (.instanced (.merchantConfig merchant)) { config with lastUpdated := env.now }

def maxMerchantActiveScan : Nat := 5000

/-- The merchant's subscriptions that are active; an oversized index is an error. -/
def State.countActiveSubscriptions (s : State) (merchant : Address) : Except Error Nat :=
  if maxMerchantActiveScan < (s.merchantSubs merchant).length then .error .invalidInput
  else .ok ((s.merchantSubs merchant).countP fun id =>
    (s.subscription id).any (·.status = .active))

/-- The fields `update_merchant_config` may change; `none` leaves a field alone. -/
structure MerchantConfigUpdate where
  payoutAddress : Option Address
  feeBips : Option Int
  allowedOperations : Option Int
  isActive : Option Bool
  feeAddress : Option (Option Address)
  redirectUrl : Option Bytes
  isPaused : Option Bool

def MerchantConfigUpdate.apply (u : MerchantConfigUpdate) (config : MerchantConfig)
    (now : Nat) : MerchantConfig :=
  { config with
    payoutAddress := u.payoutAddress.getD config.payoutAddress
    feeBips := u.feeBips.getD config.feeBips
    allowedOperations := u.allowedOperations.getD config.allowedOperations
    isActive := u.isActive.getD config.isActive
    feeAddress := u.feeAddress.getD config.feeAddress
    redirectUrl := u.redirectUrl.getD config.redirectUrl
    isPaused := u.isPaused.getD config.isPaused
    lastUpdated := now }

def rejectProtectedFieldChange (merchant : Address) (u : MerchantConfigUpdate) : Vault Unit :=
  when (u.feeBips.isSome ∨ u.allowedOperations.isSome) do
    let counted ← gets (·.countActiveSubscriptions merchant)
    let active ← lift counted
    failIf (active ≠ 0) .invalidStatusTransition

def updateMerchantConfig (merchant : Address) (u : MerchantConfigUpdate) : Vault Unit := do
  requireAuth merchant
  let found ← gets (·.merchantConfig merchant)
  let config ← okOr found .notFound
  rejectProtectedFieldChange merchant u
  whenSome u.feeBips validateFeeBips
  whenSome u.allowedOperations validateOperations
  let env ← ask
  store (.instanced (.merchantConfig merchant)) (u.apply config env.now)

/-! ## Fee overrides -/

/-- The override is held against the protocol rate of the moment. -/
def setMerchantFeeOverride (admin merchant : Address) (feeBps : Nat) : Vault Unit := do
  requireAdminAuth admin
  failIf (maxFeeBips < feeBps) .invalidFeeBips
  let globalFeeBps ← gets (·.protocolFeeBps)
  failIf (globalFeeBps < feeBps) .invalidFeeBips
  store (.instanced (.merchantFeeBps merchant)) feeBps

def clearMerchantFeeOverride (admin merchant : Address) : Vault Unit := do
  requireAdminAuth admin
  delete (.instanced (.merchantFeeBps merchant))

/-! ## Crediting -/

def AccruedTotals.accrue (totals : AccruedTotals) (kind : BillingChargeKind) (amount : Int) :
    Except Error AccruedTotals :=
  match kind with
  | .interval => (checkedI128 (totals.interval + amount) .overflow).map
    fun interval => { totals with interval }
  | .usage => (checkedI128 (totals.usage + amount) .overflow).map
    fun usage => { totals with usage }
  | .oneOff => (checkedI128 (totals.oneOff + amount) .overflow).map
    fun oneOff => { totals with oneOff }

def setMerchantBalance (merchant token : Address) (balance : Int) : Vault Unit :=
  store (.instanced (.merchantBalance merchant token)) balance

def setMerchantTokenEarnings (merchant token : Address) (earnings : TokenEarnings) :
    Vault Unit :=
  store (.instanced (.merchantEarnings merchant token)) earnings

def addMerchantToken (merchant token : Address) : Vault Unit := do
  let tokens ← gets (·.merchantTokens merchant)
  when (token ∉ tokens) (store (.instanced (.merchantTokens merchant)) (tokens ++ [token]))

/-- The balance is written before the earnings are checked. -/
def creditMerchantBalanceForToken (merchant token : Address) (amount : Int)
    (kind : BillingChargeKind) : Vault Unit := do
  failIf (amount < 0) .invalidAmount
  let current ← gets (·.merchantBalance merchant token)
  let newBalance ← lift (safeAdd current amount)
  setMerchantBalance merchant token newBalance
  let earnings ← gets (·.tokenEarnings merchant token)
  let accruals ← lift (earnings.accruals.accrue kind amount)
  setMerchantTokenEarnings merchant token { earnings with accruals }
  addMerchantToken merchant token
  addTotalAccounted token amount

/-! ## Sub-accounts -/

def requireSubAccountExists (merchant : Address) (label : Symbol) : Vault Unit := do
  let found ← load (.instanced (.merchantSubAccount merchant label))
  failIf found.isNone .notFound

def registerSubAccount (merchant : Address) (label : Symbol) : Vault Unit := do
  requireAuth merchant
  let config ← gets (·.merchantConfig merchant)
  failIf config.isNone .notFound
  let labels ← gets (·.subAccountList merchant)
  failIf (label ∈ labels) .invalidInput
  store (.instanced (.merchantSubAccount merchant label)) 0
  store (.instanced (.merchantSubAccountList merchant)) (labels ++ [label])

/-- The contract ignores the token; the history variable records it. -/
def creditSubAccount (merchant : Address) (label : Symbol) (token : Address) (amount : Int) :
    Vault Unit := do
  failIf (amount ≤ 0) .invalidAmount
  requireSubAccountExists merchant label
  let current ← gets (·.subAccountBalance merchant label)
  let newBalance ← lift (checkedI128 (current + amount) .overflow)
  store (.instanced (.merchantSubAccount merchant label)) newBalance
  let funds ← gets (·.subAccountFunds merchant label token)
  store (.subAccountFunds merchant label token) (funds + amount)

end SubscriptionVault
