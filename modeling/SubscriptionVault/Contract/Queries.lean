import SubscriptionVault.Contract.Disputes

/-!
# Reports

Read-only views: the reconciliation of one token, its proof for auditors, a merchant's earnings
together with its sub-accounts, the forecast of a subscription's next charge, and the snapshots of
its billing periods.
-/

namespace SubscriptionVault

/-! ## Prepaid totals -/

/-- Every subscription of the token counts. -/
def computeTotalPrepaid (s : State) (token : Address) : Int :=
  (List.range s.nextSubscriptionId).foldl (fun total id =>
    match s.subscription id with
    | some sub => if sub.token = token then clampI128 (total + sub.prepaidBalance) else total
    | none => total) 0

/-- Only subscriptions with a balance count, and they are counted. -/
def computeTotalPrepaidWithCount (s : State) (token : Address) : Int × Nat :=
  (List.range s.nextSubscriptionId).foldl (fun found id =>
    match s.subscription id with
    | some sub =>
      if sub.token = token ∧ 0 < sub.prepaidBalance then
        (clampI128 (found.1 + sub.prepaidBalance), saturatingAddU32 found.2 1)
      else found
    | none => found) (0, 0)

/-! ## Merchant liabilities -/

def computeTotalMerchantLiabilities (s : State) (token : Address) (totalPrepaid : Int) : Int :=
  max (clampI128 (s.totalAccounted token - totalPrepaid)) 0

/-- No merchant is looked at; the count says whether there is anything. -/
def computeTotalMerchantLiabilitiesWithCount (s : State) (token : Address) (totalPrepaid : Int) :
    Int × Nat :=
  let total := max (clampI128 (s.totalAccounted token - totalPrepaid)) 0
  (total, if 0 < total then 1 else 0)

/-! ## Reconciliation -/

/-- `checked_add(..).unwrap_or(0)`. -/
def addOrZero (a b : Int) : Int := if InI128 (a + b) then a + b else 0

def reconciliationDecimals : Nat := 9

/-- An amount at the common scale of all tokens. -/
def normalizeAmount (s : State) (token : Address) (raw : Int) : Except Error Int :=
  match (s.read (.instanced (.tokenDecimals token)) : Option Nat) with
  | none => .error .invalidToken
  | some decimals =>
    if decimals = 0 then .error .invalidTokenDecimals
    else if decimals ≤ reconciliationDecimals then do
      let scale ← checkedI128 (10 ^ (reconciliationDecimals - decimals)) .overflow
      checkedI128 (raw * scale) .overflow
    else do
      let scale ← checkedI128 (10 ^ (decimals - reconciliationDecimals)) .overflow
      if raw.tmod scale ≠ 0 then .error .invalidInput else .ok (raw.tdiv scale)

/-- The other way, with the scaling and the exact division exchanged. -/
def denormalizeAmount (s : State) (token : Address) (normalized : Int) : Except Error Int :=
  match (s.read (.instanced (.tokenDecimals token)) : Option Nat) with
  | none => .error .invalidToken
  | some decimals =>
    if decimals = 0 then .error .invalidTokenDecimals
    else if decimals ≤ reconciliationDecimals then do
      let scale ← checkedI128 (10 ^ (reconciliationDecimals - decimals)) .overflow
      if normalized.tmod scale ≠ 0 then .error .invalidInput else .ok (normalized.tdiv scale)
    else do
      let scale ← checkedI128 (10 ^ (decimals - reconciliationDecimals)) .overflow
      checkedI128 (normalized * scale) .overflow

/-- `normalize_amount(..).unwrap_or(0)`. -/
def normalizedOrZero (s : State) (token : Address) (raw : Int) : Int :=
  (normalizeAmount s token raw).toOption.getD 0

structure TokenLiabilities where
  token : Address
  totalPrepaid : Int
  totalMerchantLiabilities : Int
  recoverableAmount : Int
  contractBalance : Int
  computedTotal : Int
  isBalanced : Bool
  normalizedPrepaid : Int
  normalizedMerchantLiab : Int
  normalizedRecoverable : Int
  normalizedContractBalance : Int
  normalizedComputedTotal : Int
deriving DecidableEq

def getTokenReconciliation (env : Env) (s : State) (token : Address) : TokenLiabilities :=
  let contractBalance := s.balanceOf token env.host.contract
  let totalPrepaid := computeTotalPrepaid s token
  let totalMerchantLiabilities := computeTotalMerchantLiabilities s token totalPrepaid
  let accounted := addOrZero totalPrepaid totalMerchantLiabilities
  let recoverableAmount := max (clampI128 (contractBalance - accounted)) 0
  let computedTotal := addOrZero accounted recoverableAmount
  { token, totalPrepaid, totalMerchantLiabilities, recoverableAmount, contractBalance,
    computedTotal
    isBalanced := contractBalance = computedTotal
    normalizedPrepaid := normalizedOrZero s token totalPrepaid
    normalizedMerchantLiab := normalizedOrZero s token totalMerchantLiabilities
    normalizedRecoverable := normalizedOrZero s token recoverableAmount
    normalizedContractBalance := normalizedOrZero s token contractBalance
    normalizedComputedTotal := normalizedOrZero s token computedTotal }

structure ReconciliationProof where
  timestamp : Nat
  ledgerSequence : Nat
  token : Address
  contractBalance : Int
  totalPrepaid : Int
  totalMerchantLiabilities : Int
  computedRecoverable : Int
  subscriptionCount : Nat
  merchantCount : Nat
  isValid : Bool
deriving DecidableEq

def generateReconciliationProof (env : Env) (s : State) (token : Address) :
    ReconciliationProof :=
  let contractBalance := s.balanceOf token env.host.contract
  let (totalPrepaid, subscriptionCount) := computeTotalPrepaidWithCount s token
  let (totalMerchantLiabilities, merchantCount) :=
    computeTotalMerchantLiabilitiesWithCount s token totalPrepaid
  let accounted := addOrZero totalPrepaid totalMerchantLiabilities
  let computedRecoverable := max (clampI128 (contractBalance - accounted)) 0
  let computedTotal := addOrZero accounted computedRecoverable
  { timestamp := env.now
    ledgerSequence := env.sequence
    token, contractBalance, totalPrepaid, totalMerchantLiabilities, computedRecoverable,
    subscriptionCount, merchantCount
    isValid := contractBalance = computedTotal }

/-! ## Earnings with sub-accounts -/

structure SubAccountBalance where
  label : Symbol
  balance : Int
deriving DecidableEq

structure MerchantTokenEarningsWithSubAccounts where
  token : Address
  primaryEarnings : TokenEarnings
  primaryBalance : Int
  subAccountBalances : List SubAccountBalance
  totalBalance : Int
deriving DecidableEq

/-- The number of a sub-account is taken for an amount of whatever token is asked for. -/
def getMerchantTokenEarningsWithSubAccounts (s : State) (merchant token : Address) :
    MerchantTokenEarningsWithSubAccounts :=
  let primaryBalance := s.merchantBalance merchant token
  let (subAccountBalances, totalSubBalance) :=
    (s.subAccountList merchant).foldl (fun found label =>
      let balance := s.subAccountBalance merchant label
      if 0 < balance then (found.1 ++ [⟨label, balance⟩], clampI128 (found.2 + balance))
      else found) (([] : List SubAccountBalance), (0 : Int))
  { token
    primaryEarnings := s.tokenEarnings merchant token
    primaryBalance, subAccountBalances
    totalBalance := clampI128 (primaryBalance + totalSubBalance) }

def getMerchantBalanceAggregated (s : State) (merchant token : Address) : Int :=
  (getMerchantTokenEarningsWithSubAccounts s merchant token).totalBalance

/-! ## Next charge -/

structure NextChargeInfo where
  nextChargeTimestamp : Nat
  isChargeExpected : Bool
  status : SubscriptionStatus
  reason : String
  amount : Int
  token : Address
  graceDeadline : Option Nat
deriving DecidableEq

def SubscriptionStatus.chargeExpected : SubscriptionStatus → Bool
  | .active | .gracePeriod => true
  | .insufficientBalance | .paused | .cancelled | .expired | .archived => false

def SubscriptionStatus.chargeReason : SubscriptionStatus → String
  | .active => "active"
  | .gracePeriod => "grace"
  | .insufficientBalance => "insuf_bal"
  | .paused => "paused"
  | .cancelled => "cancelled"
  | .expired => "expired"
  | .archived => "archived"

/-- The status alone says whether a charge is expected. -/
def computeNextChargeInfo (s : State) (sub : Subscription) : NextChargeInfo :=
  { nextChargeTimestamp := saturatingAddU64 sub.lastPaymentTimestamp sub.intervalSeconds
    isChargeExpected := sub.status.chargeExpected
    status := sub.status
    reason := sub.status.chargeReason
    amount := sub.amount
    token := sub.token
    graceDeadline := sub.graceStartTimestamp.map fun graceStart =>
      saturatingAddU64 graceStart (s.gracePeriod.toOption.getD 0) }

def getNextChargeInfo (s : State) (id now : Nat) : Option NextChargeInfo :=
  (s.effectiveSubscription id now).map (computeNextChargeInfo s)

/-! ## Period snapshots -/

namespace State

def getPeriodSnapshot (s : State) (id period : Nat) : Option BillingPeriodSnapshot :=
  s.read (.persistent (.billingPeriodSnapshot id period))

def periodSnapshotIndex (s : State) (id : Nat) : List Nat :=
  (s.read (.persistent (.billingPeriodSnapshotIndex id))).getD []

/-- From the end of the index; a period without a snapshot is left out. -/
def listPeriodSnapshots (s : State) (id limit : Nat) : List BillingPeriodSnapshot :=
  let idx := s.periodSnapshotIndex id
  (List.range (min limit idx.length)).filterMap fun i =>
    idx[idx.length - 1 - i]?.bind (s.getPeriodSnapshot id)

end State

end SubscriptionVault
