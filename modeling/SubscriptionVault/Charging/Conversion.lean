import SubscriptionVault.Contract.Pricing

/-!
# Fee conversion

A fee in a token other than the configured fee token is converted at a price, and whatever keeps
it from being converted is meant to leave it in its own token. The conversion does that, except
where a contract that is asked for the price does not answer and where a product does not fit.
-/

namespace SubscriptionVault

open Exec

/-! ## What is promised of a conversion -/

/-- The token a fee in `token` is to be converted into. -/
def State.feeTarget (s : State) (token : Address) : Option Address :=
  s.feeToken.filter fun target =>
    decide (target ≠ token) && s.oracleConfig.enabled && s.oracleConfig.oracle.isSome

/-- The exact price of a fixed rate. -/
def OracleConfig.fixedRate (config : OracleConfig) : Nat :=
  config.fixedNumerator * priceScale / config.fixedDenominator

/-- The rate a fixed price is worked out at; the product is taken modulo its type. -/
def OracleConfig.rateInUse (config : OracleConfig) : Nat :=
  config.fixedNumerator * priceScale % (u128Max + 1) / config.fixedDenominator

/-- The answer of the contract a price is read from, judged. Nothing is asked for a fixed rate. -/
def quotedPrice (env : Env) (config : OracleConfig) : Option Nat :=
  match config.kind with
  | .spot => do
    let answer ← config.oracle.bind env.latestPrice
    (validatePrice env config answer).toOption
  | .twap =>
    if config.windowSecs < minTwapWindowSecs then none
    else do
      let answer ← config.oracle.bind fun oracle =>
        env.observations oracle (env.now - config.windowSecs)
      (twapPrice env config answer).toOption
  | .fixedRate => if config.fixedRate = 0 then none else some config.fixedRate

/-- The fee when its price comes to `quotient` of the target. -/
def convertedAt (fee quotient : Int) (target : Address) : FeeConversion :=
  if 0 < quotient then ⟨quotient, some target⟩ else ⟨fee, none⟩

/-- The fee at the price, or the fee itself where there is no price or it comes to nothing. -/
def State.promisedConversion (s : State) (env : Env) (token : Address) (fee : Int) :
    FeeConversion :=
  match s.feeTarget token, quotedPrice env s.oracleConfig with
  | some target, some price => convertedAt fee (fee * price / priceScale) target
  | _, _ => ⟨fee, none⟩

/-- A contract is asked for the price. -/
def OracleConfig.asks (config : OracleConfig) : Prop :=
  match config.kind with
  | .spot => True
  | .twap => minTwapWindowSecs ≤ config.windowSecs
  | .fixedRate => False

instance (config : OracleConfig) : Decidable config.asks := by
  unfold OracleConfig.asks
  split <;> infer_instance

/-- Every contract that is asked for a price answers, be the answer good or bad. -/
def OracleConfig.Answered (config : OracleConfig) (env : Env) : Prop :=
  match config.kind with
  | .spot => ∀ oracle, config.oracle = some oracle → (env.latestPrice oracle).isSome
  | .twap => minTwapWindowSecs ≤ config.windowSecs → ∀ oracle, config.oracle = some oracle →
    (env.observations oracle (env.now - config.windowSecs)).isSome
  | .fixedRate => True

/-- The products behind the converted fee lose nothing: the fee at the price fits, and a fixed
rate whose own product does not fit makes of the fee what the exact rate makes of it. -/
def OracleConfig.Scales (config : OracleConfig) (env : Env) (fee : Int) : Prop :=
  match config.kind with
  | .spot | .twap => ∀ price, quotedPrice env config = some price → fee * price ≤ u128Max
  | .fixedRate =>
    fee * config.rateInUse ≤ u128Max ∧
      fee * config.fixedRate / (priceScale : Int) = fee * config.rateInUse / priceScale

section Conversion

variable {env : Env} {s : State} {token target : Address} {fee : Int} {price : Nat}

theorem toU128_of_nonneg (hpos : 0 ≤ fee) (hfits : InI128 fee) : (toU128 fee : Int) = fee := by
  have hlt : fee < ((u128Max + 1 : Nat) : Int) := lt_trans hfits.2 (by decide)
  unfold toU128
  rw [show ((u128Max : Int) + 1) = ((u128Max + 1 : Nat) : Int) from rfl, Int.emod_eq_of_lt hpos hlt,
    Int.toNat_of_nonneg hpos]

theorem cast_product (hpos : 0 ≤ fee) (hfits : InI128 fee) (price : Nat) :
    ((toU128 fee * price : Nat) : Int) = fee * price := by
  rw [Nat.cast_mul, toU128_of_nonneg hpos hfits]

theorem quotient_inI128 {product : Int} (hpos : 0 ≤ product) (hfits : product ≤ u128Max) :
    InI128 (product / priceScale) := by
  have hmax : (u128Max : Int) = 2 ^ 128 - 1 := by decide
  have hscale : (priceScale : Int) = 10000000 := by decide
  rw [hmax] at hfits
  rw [hscale]
  unfold InI128
  omega

theorem convertedFee_of_fits (hpos : 0 ≤ fee) (hfits : InI128 fee)
    (hproduct : fee * price ≤ u128Max) : convertedFee fee price = fee * price / priceScale := by
  have hcast := cast_product hpos hfits price
  have hle : ¬u128Max < toU128 fee * price := by
    rw [← Int.ofNat_lt, hcast]
    omega
  unfold convertedFee
  rw [if_neg hle, Int.natCast_ediv, hcast]
  exact wrapI128_of_inI128 (quotient_inI128 (Int.mul_nonneg hpos (by omega)) hproduct)

theorem convertedFee_of_large (hpos : 0 ≤ fee) (hfits : InI128 fee)
    (hproduct : ¬fee * price ≤ u128Max) : convertedFee fee price = 0 := by
  have hlt : u128Max < toU128 fee * price := by
    rw [← Int.ofNat_lt, cast_product hpos hfits price]
    omega
  unfold convertedFee
  rw [if_pos hlt]

/-- A price the fee was converted at is told from another by the quotient alone. -/
theorem convertedAt_inj {q q' : Int} (hq : 0 ≤ q) (hq' : 0 ≤ q')
    (h : convertedAt fee q target = convertedAt fee q' target) : q = q' := by
  unfold convertedAt at h
  split at h
  · split at h
    · exact congrArg FeeConversion.effectiveAmount h
    · exact absurd (congrArg FeeConversion.targetToken h) (by simp)
  · split at h
    · exact absurd (congrArg FeeConversion.targetToken h) (by simp)
    · omega

theorem State.convertFee_untargeted (h : s.feeTarget token = none) :
    s.convertFee env token fee = some ⟨fee, none⟩ := by
  unfold State.feeTarget at h
  unfold State.convertFee
  cases htoken : s.feeToken with
  | none => rfl
  | some target =>
    rw [htoken] at h
    simp only [Option.filter_eq_none_iff, Option.some.injEq, forall_eq', Bool.and_eq_true,
      decide_eq_true_eq, not_and, Bool.not_eq_true, Option.isSome_eq_false_iff] at h
    by_cases hsame : target = token
    · simp [hsame]
    · have hoff : s.oracleConfig.enabled = false ∨ s.oracleConfig.oracle = none := by
        cases hon : s.oracleConfig.enabled with
        | false => exact .inl rfl
        | true => exact .inr (Option.isNone_iff_eq_none.mp (h ⟨hsame, hon⟩))
      simp only [if_neg hsame, if_pos hoff]

theorem State.feeTarget_oracle (h : s.feeTarget token = some target) :
    ∃ oracle, s.oracleConfig.oracle = some oracle := by
  obtain ⟨-, hon⟩ := Option.filter_eq_some_iff.mp h
  exact Option.isSome_iff_exists.mp (Bool.and_eq_true_iff.mp hon).2

theorem State.convertFee_targeted (h : s.feeTarget token = some target) :
    s.convertFee env token fee = (dispatchPrice env s.oracleConfig).map fun
      | .error _ => ⟨fee, none⟩
      | .ok price => convertedAt fee (convertedFee fee price) target := by
  obtain ⟨htoken, hon⟩ := Option.filter_eq_some_iff.mp h
  simp only [Bool.and_eq_true, decide_eq_true_eq] at hon
  obtain ⟨⟨hdiffers, henabled⟩, hset⟩ := hon
  have hon : ¬(s.oracleConfig.enabled = false ∨ s.oracleConfig.oracle = none) := by
    rintro (hoff | hnone)
    · exact absurd (henabled.symm.trans hoff) (by simp)
    · rw [hnone] at hset
      exact absurd hset (by simp)
  unfold State.convertFee
  simp only [htoken, if_neg hdiffers, if_neg hon]
  rfl

/-- A contract that is asked either answers, and the answer is judged, or takes the call down. -/
theorem dispatchPrice_asked (env : Env) {config : OracleConfig} {oracle : Address}
    (hkind : config.kind ≠ .fixedRate) (horacle : config.oracle = some oracle) :
    (config.Answered env → ∃ result, dispatchPrice env config = some result ∧
      result.toOption = quotedPrice env config) ∧
    (¬config.Answered env → dispatchPrice env config = none) := by
  unfold OracleConfig.Answered dispatchPrice quotedPrice
  cases hcase : config.kind with
  | fixedRate => exact absurd hcase hkind
  | spot =>
    simp only [horacle, Option.some.injEq, forall_eq', Option.bind_some]
    cases hanswer : env.latestPrice oracle with
    | none => exact ⟨nofun, fun _ => rfl⟩
    | some answer => exact ⟨fun _ => ⟨_, rfl, rfl⟩, fun h => absurd rfl h⟩
  | twap =>
    simp only [horacle, Option.some.injEq, forall_eq', Option.bind_some]
    by_cases hwindow : config.windowSecs < minTwapWindowSecs
    · rw [if_pos hwindow, if_pos hwindow]
      exact ⟨fun _ => ⟨_, rfl, rfl⟩, fun h => absurd (fun hle => absurd hwindow hle.not_gt) h⟩
    · rw [if_neg hwindow, if_neg hwindow]
      cases hanswer : env.observations oracle (env.now - config.windowSecs) with
      | none => exact ⟨fun h => absurd (h (Nat.le_of_not_lt hwindow)) (by simp), fun _ => rfl⟩
      | some answer => exact ⟨fun _ => ⟨_, rfl, rfl⟩, fun h => absurd (fun _ => rfl) h⟩

/-- The price is asked for with success and nothing is lost on the way. -/
def State.ConvertsExactly (s : State) (env : Env) (token : Address) (fee : Int) : Prop :=
  (s.feeTarget token).isSome → s.oracleConfig.Answered env ∧ s.oracleConfig.Scales env fee

theorem quotient_nonneg (hpos : 0 ≤ fee) (price : Nat) : 0 ≤ fee * price / (priceScale : Int) :=
  Int.ediv_nonneg (Int.mul_nonneg hpos (by omega)) (by decide)

/-- A price in use makes of the fee what an exact price makes of it just where the product fits
and nothing of the quotient is lost. -/
theorem convertedAt_alike_iff {exact : Nat} (hpos : 0 < fee) (hfits : InI128 fee)
    (hle : price ≤ exact) :
    convertedAt fee (convertedFee fee price) target =
        convertedAt fee (fee * exact / priceScale) target ↔
      fee * price ≤ u128Max ∧ fee * exact / (priceScale : Int) = fee * price / priceScale := by
  constructor
  · intro h
    have hfit : fee * price ≤ u128Max := by
      by_contra hlarge
      rw [convertedFee_of_large hpos.le hfits hlarge] at h
      have hzero := convertedAt_inj (Int.le_refl 0) (quotient_nonneg hpos.le exact) h
      have hmono : fee * (price : Int) ≤ fee * exact :=
        Int.mul_le_mul_of_nonneg_left (by omega) hpos.le
      have hscale : (priceScale : Int) ≤ u128Max := by decide
      have hone : 1 ≤ fee * exact / (priceScale : Int) :=
        Int.le_ediv_of_mul_le (by decide) (by omega)
      omega
    rw [convertedFee_of_fits hpos.le hfits hfit] at h
    exact ⟨hfit, (convertedAt_inj (quotient_nonneg hpos.le _) (quotient_nonneg hpos.le _) h).symm⟩
  · rintro ⟨hfit, hsame⟩
    rw [convertedFee_of_fits hpos.le hfits hfit, hsame]

theorem OracleConfig.rateInUse_le (config : OracleConfig) : config.rateInUse ≤ config.fixedRate :=
  Nat.div_le_div_right (Nat.mod_le _ _)

theorem fixedPrice_toOption {config : OracleConfig} :
    (fixedPrice config).toOption =
      if config.rateInUse = 0 then none else some config.rateInUse := by
  unfold fixedPrice OracleConfig.rateInUse
  by_cases hzero : config.fixedDenominator = 0
  · simp [hzero, Except.toOption]
  · simp only [if_neg hzero]
    split <;> rfl

/-- A rate of nothing converts the fee into nothing. -/
theorem convertedAt_rate {rate : Nat} {quotient : Nat → Int} (hzero : quotient 0 = 0) :
    ((if rate = 0 then none else some rate).elim ⟨fee, none⟩ fun price =>
      convertedAt fee (quotient price) target) = convertedAt fee (quotient rate) target := by
  split
  · rename_i hrate
    rw [hrate, hzero]
    rfl
  · rfl

theorem convertedFee_zero : convertedFee fee 0 = 0 := by
  unfold convertedFee
  simp [wrapI128]

theorem State.promisedConversion_targeted (h : s.feeTarget token = some target) :
    s.promisedConversion env token fee =
      (quotedPrice env s.oracleConfig).elim ⟨fee, none⟩ fun price =>
        convertedAt fee (fee * price / priceScale) target := by
  unfold State.promisedConversion
  rw [h]
  cases quotedPrice env s.oracleConfig <;> rfl

/-- The conversion in use, with the judged answer as an option. -/
theorem State.convertFee_answered {result : Except Error Nat}
    (h : s.feeTarget token = some target)
    (hanswer : dispatchPrice env s.oracleConfig = some result) :
    s.convertFee env token fee = some (result.toOption.elim ⟨fee, none⟩ fun price =>
      convertedAt fee (convertedFee fee price) target) := by
  rw [State.convertFee_targeted h, hanswer]
  cases result <;> rfl

/-- The conversion does what is promised of it just where a price that is asked for is answered
and nothing of the products is lost. -/
theorem State.convertFee_promised_iff (hpos : 0 < fee) (hfits : InI128 fee) :
    s.convertFee env token fee = some (s.promisedConversion env token fee) ↔
      s.ConvertsExactly env token fee := by
  unfold State.ConvertsExactly
  cases htarget : s.feeTarget token with
  | none =>
    have hpromised : s.promisedConversion env token fee = ⟨fee, none⟩ := by
      unfold State.promisedConversion
      rw [htarget]
    rw [State.convertFee_untargeted htarget, hpromised]
    simp
  | some target =>
    rw [State.promisedConversion_targeted htarget]
    simp only [Option.isSome_some, forall_const]
    obtain ⟨oracle, horacle⟩ := State.feeTarget_oracle htarget
    by_cases hkind : s.oracleConfig.kind = .fixedRate
    · have hquoted : quotedPrice env s.oracleConfig =
          if s.oracleConfig.fixedRate = 0 then none else some s.oracleConfig.fixedRate := by
        simp only [quotedPrice, hkind]
      have hdispatch : dispatchPrice env s.oracleConfig = some (fixedPrice s.oracleConfig) := by
        simp only [dispatchPrice, hkind]
      rw [State.convertFee_answered htarget hdispatch, fixedPrice_toOption, hquoted,
        convertedAt_rate convertedFee_zero, convertedAt_rate (by simp), Option.some.injEq,
        convertedAt_alike_iff hpos hfits s.oracleConfig.rateInUse_le]
      simp only [OracleConfig.Answered, OracleConfig.Scales, hkind, true_and]
    · have hscales : s.oracleConfig.Scales env fee ↔
          ∀ price, quotedPrice env s.oracleConfig = some price → fee * price ≤ u128Max := by
        unfold OracleConfig.Scales
        cases hcase : s.oracleConfig.kind with
        | fixedRate => exact absurd hcase hkind
        | spot => exact Iff.rfl
        | twap => exact Iff.rfl
      obtain ⟨hanswered, hsilent⟩ := dispatchPrice_asked env hkind horacle
      rw [hscales]
      by_cases hanswer : s.oracleConfig.Answered env
      · obtain ⟨result, hdispatch, hjudged⟩ := hanswered hanswer
        rw [State.convertFee_answered htarget hdispatch, hjudged, Option.some.injEq]
        cases quotedPrice env s.oracleConfig with
        | none => simp [hanswer]
        | some price =>
          simp only [Option.elim_some, Option.some.injEq, forall_eq', hanswer, true_and]
          rw [convertedAt_alike_iff hpos hfits (Nat.le_refl price)]
          simp
      · rw [State.convertFee_targeted htarget, hsilent hanswer]
        simp [hanswer]

end Conversion

end SubscriptionVault
