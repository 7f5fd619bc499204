import SubscriptionVault.Contract.Merchant

/-!
# What a charge costs

The coupon discount on the gross amount, proration of the first interval, the split between
merchant and protocol fee, and the conversion of a fee into the configured fee token.
-/

namespace SubscriptionVault

open Exec

/-! ## Coupons -/

/-- `resolve_coupon_for_charge`. -/
def State.couponForCharge (s : State) (id : Nat) : Option Coupon :=
  (s.read (.persistent (.subCoupon id))).bind fun code => s.read (.persistent (.coupon code))

def Coupon.isUsable (coupon : Coupon) (now : Nat) (token : Address) : Bool :=
  !coupon.revoked && !(0 < coupon.expiresAt && coupon.expiresAt ≤ now) && coupon.token = token

/-- Percentage first, then the fixed part. -/
def computeDiscount (gross : Int) (coupon : Coupon) : Int :=
  let afterPct :=
    if 0 < coupon.percentOffBps then
      (wrapI128 (gross * (10000 - coupon.percentOffBps))).tdiv 10000
    else gross
  let afterFixed := max (clampI128 (afterPct - coupon.fixedOff)) 0
  clampI128 (gross - afterFixed)

/-- `apply_discount_at_charge`: an unusable coupon is skipped. -/
def State.payableAfterCoupon (s : State) (id now : Nat) (token : Address) (gross : Int) : Int :=
  match s.couponForCharge id with
  | none => gross
  | some coupon =>
    if coupon.isUsable now token then wrapI128 (gross - computeDiscount gross coupon) else gross

/-! ## Proration -/

/-- The products of the parts fit their types, so only the sum and the whole part can fail. -/
def calculateProratedFirstCharge (amount : Int) (interval remaining : Nat) : Except Error Int :=
  if amount < 0 then .error .invalidAmount
  else if interval = 0 then .error .invalidInput
  else if remaining = 0 then .ok 0
  else if interval ≤ remaining then .ok amount
  else do
    let whole ← safeMul (amount / interval) remaining
    let prorated ← safeAdd whole (amount % interval * remaining / interval)
    pure (min prorated amount)

/-! ## Fees -/

/-- The protocol fee on an amount. A fee that rounds to nothing is raised to one unit; without
a treasury there is no fee. -/
def protocolFee (amount : Int) (feeBps : Nat) (treasury : Option Address) : Int :=
  if 0 < feeBps ∧ treasury.isSome then max ((wrapI128 (amount * feeBps)).tdiv 10000) 1 else 0

/-- What the merchant side gets and the fee. -/
def splitFee (amount : Int) (feeBps : Nat) (treasury : Option Address) :
    Except Error (Int × Int) := do
  let fee := protocolFee amount feeBps treasury
  let net ← safeSub amount fee
  pure (net, fee)

/-- The merchant's override, or else the protocol rate. -/
def State.routeFeeBps (s : State) (merchant : Address) : Nat :=
  (s.merchantFeeOverrideBps merchant).getD s.protocolFeeBps

/-! ## Oracle prices -/

/-- Prices carry seven decimals. -/
def priceScale : Nat := 10 ^ 7

def minTwapWindowSecs : Nat := 60

def validatePrice (env : Env) (config : OracleConfig) (price : OraclePrice) :
    Except Error Nat :=
  if price.price ≤ 0 then .error .oraclePriceInvalid
  else if config.maxAgeSeconds < env.now - price.timestamp then .error .oraclePriceStale
  else .ok price.price.toNat

def medianPrice (prices : List Nat) : Nat :=
  let sorted := prices.insertionSort (· ≤ ·)
  let mid := sorted.length / 2
  if sorted.length % 2 = 0 then
    let lo := sorted.getD (mid - 1) 0
    let hi := sorted.getD mid 0
    lo / 2 + hi / 2 + (lo % 2 + hi % 2) / 2
  else sorted.getD mid 0

/-- The observations that count: fresh and positive. -/
def usableObservations (env : Env) (config : OracleConfig) (observations : List OraclePrice) :
    List Nat :=
  (observations.filter fun obs =>
    decide (env.now - obs.timestamp ≤ config.maxAgeSeconds) && decide (0 < obs.price)).map
      fun obs => obs.price.toNat

def twapPrice (env : Env) (config : OracleConfig) (observations : List OraclePrice) :
    Except Error Nat :=
  let prices := usableObservations env config observations
  if observations = [] then .error .oraclePriceUnavailable
  else if prices = [] then .error .oraclePriceStale
  else if medianPrice prices = 0 then .error .oraclePriceInvalid
  else .ok (medianPrice prices)

def fixedPrice (config : OracleConfig) : Except Error Nat :=
  let price := config.fixedNumerator * priceScale % (u128Max + 1) / config.fixedDenominator
  if config.fixedDenominator = 0 then .error .invalidInput
  else if price = 0 then .error .oraclePriceInvalid
  else .ok price

/-- `dispatch_price`. There is no result when the call to the oracle contract aborts. -/
def dispatchPrice (env : Env) (config : OracleConfig) : Option (Except Error Nat) :=
  match config.kind with
  | .spot =>
    match config.oracle with
    | none => some (.error .oracleNotConfigured)
    | some oracle => (env.latestPrice oracle).map (validatePrice env config)
  | .twap =>
    if config.windowSecs < minTwapWindowSecs then some (.error .invalidInput)
    else match config.oracle with
      | none => some (.error .oracleNotConfigured)
      | some oracle =>
        (env.observations oracle (env.now - config.windowSecs)).map (twapPrice env config)
  | .fixedRate => some (fixedPrice config)

/-- A fee in the token it is credited in; `targetToken` is set when it was converted. -/
structure FeeConversion where
  effectiveAmount : Int
  targetToken : Option Address
deriving DecidableEq

/-- `as u128`. -/
def toU128 (x : Int) : Nat := (x % (u128Max + 1)).toNat

/-- The fee at a price; nothing when the product overflows. -/
def convertedFee (fee : Int) (price : Nat) : Int :=
  let product := toU128 fee * price
  if u128Max < product then 0 else wrapI128 (product / priceScale : Nat)

/-- `convert_fee`. Whatever keeps the fee from being converted leaves it in its own token. -/
def State.convertFee (s : State) (env : Env) (sourceToken : Address) (fee : Int) :
    Option FeeConversion :=
  match s.feeToken with
  | none => some ⟨fee, none⟩
  | some target =>
    if target = sourceToken then some ⟨fee, none⟩
    else if s.oracleConfig.enabled = false ∨ s.oracleConfig.oracle = none then some ⟨fee, none⟩
    else (dispatchPrice env s.oracleConfig).map fun
      | .error _ => ⟨fee, none⟩
      | .ok price =>
        if 0 < convertedFee fee price then ⟨convertedFee fee price, some target⟩
        else ⟨fee, none⟩

end SubscriptionVault
