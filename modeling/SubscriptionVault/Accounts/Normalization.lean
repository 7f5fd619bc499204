import SubscriptionVault.Contract.PartialArithmetic
import SubscriptionVault.Contract.Queries
import SubscriptionVault.Lifecycle.Runs
import SubscriptionVault.Framework.Aborts

/-!
# Amounts at the common scale

An amount of a token and an amount at the common scale are worth the same when they agree at a
scale fine enough for both. Normalising and denormalising both compute this relation, one from each
side, as far as the larger of the two amounts fits its type.
-/

namespace SubscriptionVault

open Exec

/-! ## Worth -/

/-- `raw` units of the token are as much as `normalized` units of the common scale. -/
def SameWorth (decimals : Nat) (raw normalized : Int) : Prop :=
  raw * 10 ^ reconciliationDecimals = normalized * 10 ^ decimals

instance (decimals : Nat) (raw normalized : Int) : Decidable (SameWorth decimals raw normalized) :=
  inferInstanceAs (Decidable (_ = _))

section Worth

variable {decimals : Nat} {x y n m : Int}

theorem ten_pow_pos (k : Nat) : (0 : Int) < 10 ^ k := Int.pow_pos (by decide)

/-- Equal worths preserve the order, strictly. -/
theorem SameWorth.lt_iff (hx : SameWorth decimals x n) (hy : SameWorth decimals y m) :
    x < y ↔ n < m := by
  unfold SameWorth at hx hy
  have hcommon := ten_pow_pos reconciliationDecimals
  have htoken := ten_pow_pos decimals
  calc x < y ↔ x * 10 ^ reconciliationDecimals < y * 10 ^ reconciliationDecimals :=
        (Int.mul_lt_mul_right hcommon).symm
    _ ↔ n * 10 ^ decimals < m * 10 ^ decimals := by rw [hx, hy]
    _ ↔ n < m := Int.mul_lt_mul_right htoken

theorem SameWorth.sign_eq (h : SameWorth decimals x n) : n.sign = x.sign := by
  have hsigns := congrArg Int.sign h
  simp only [Int.sign_mul, Int.sign_eq_one_of_pos (ten_pow_pos _), Int.mul_one] at hsigns
  exact hsigns.symm

theorem sameWorth_of_le (hle : decimals ≤ reconciliationDecimals) :
    SameWorth decimals x n ↔ x * 10 ^ (reconciliationDecimals - decimals) = n := by
  have hpow : (10 : Int) ^ reconciliationDecimals =
      10 ^ (reconciliationDecimals - decimals) * 10 ^ decimals := by
    rw [← Int.pow_add, Nat.sub_add_cancel hle]
  unfold SameWorth
  rw [hpow, ← Int.mul_assoc]
  exact Int.mul_eq_mul_right_iff (Int.ne_of_gt (ten_pow_pos decimals))

theorem sameWorth_of_lt (hlt : reconciliationDecimals < decimals) :
    SameWorth decimals x n ↔ n * 10 ^ (decimals - reconciliationDecimals) = x := by
  have hpow : (10 : Int) ^ decimals =
      10 ^ (decimals - reconciliationDecimals) * 10 ^ reconciliationDecimals := by
    rw [← Int.pow_add, Nat.sub_add_cancel hlt.le]
  unfold SameWorth
  rw [hpow, ← Int.mul_assoc, eq_comm]
  exact Int.mul_eq_mul_right_iff (Int.ne_of_gt (ten_pow_pos reconciliationDecimals))

end Worth

/-! ## The conversions with their aborts -/

/-- `normalize_amount`, with every operation that may abort. -/
def normalizeAmountTrapping (token : Address) (raw : Int) : Vault Int := do
  let found ← load (.instanced (.tokenDecimals token))
  let decimals ← okOr found .invalidToken
  failIf (decimals = 0) .invalidTokenDecimals
  if decimals ≤ reconciliationDecimals then do
    let places ← unwrap (subU32 reconciliationDecimals decimals)
    let scale ← lift (checkedI128 (10 ^ places) .overflow)
    lift (checkedI128 (raw * scale) .overflow)
  else do
    let places ← unwrap (subU32 decimals reconciliationDecimals)
    let scale ← lift (checkedI128 (10 ^ places) .overflow)
    let rest ← unwrap (remI128 raw scale)
    failIf (rest ≠ 0) .invalidInput
    unwrap (divI128 raw scale)

/-- `denormalize_amount`, with every operation that may abort. -/
def denormalizeAmountTrapping (token : Address) (normalized : Int) : Vault Int := do
  let found ← load (.instanced (.tokenDecimals token))
  let decimals ← okOr found .invalidToken
  failIf (decimals = 0) .invalidTokenDecimals
  if decimals ≤ reconciliationDecimals then do
    let places ← unwrap (subU32 reconciliationDecimals decimals)
    let scale ← lift (checkedI128 (10 ^ places) .overflow)
    let rest ← unwrap (remI128 normalized scale)
    failIf (rest ≠ 0) .invalidInput
    unwrap (divI128 normalized scale)
  else do
    let places ← unwrap (subU32 decimals reconciliationDecimals)
    let scale ← lift (checkedI128 (10 ^ places) .overflow)
    lift (checkedI128 (normalized * scale) .overflow)

section Trapping

variable {env : Env} {s : State} {token : Address} {decimals : Nat} {x n scale : Int}

/-- A positive divisor has a quotient and a remainder. -/
theorem exactQuotient_run (hx : InI128 x) (hscale : 0 < scale) :
    (do
      let rest ← unwrap (remI128 x scale)
      failIf (rest ≠ 0) .invalidInput
      unwrap (divI128 x scale) : Vault Int).run env s =
    (lift (if x.tmod scale ≠ 0 then .error .invalidInput else .ok (x.tdiv scale)) :
      Vault Int).run env s := by
  rw [run_bind_of_ok (run_unwrap_ok.mpr ⟨remI128_of_pos hx hscale, rfl⟩)]
  by_cases hexact : x.tmod scale = 0
  · have hpass : ¬x.tmod scale ≠ 0 := not_not.mpr hexact
    rw [run_bind_of_ok (a := ()) (run_failIf_ok.mpr ⟨hpass, rfl⟩), divI128_of_pos hx hscale,
      if_neg hpass]
    rfl
  · rw [run_bind_of_err (run_failIf_err.mpr ⟨hexact, rfl, rfl⟩), if_pos hexact]
    rfl

/-- Scaling down by a scale that is positive when there is one. -/
theorem scaleDown_run {y : Except Error Int} (hx : InI128 x) (hy : ∀ b, y = .ok b → 0 < b) :
    (do
      let scale ← lift y
      let rest ← unwrap (remI128 x scale)
      failIf (rest ≠ 0) .invalidInput
      unwrap (divI128 x scale) : Vault Int).run env s =
    (lift (do
      let scale ← y
      if x.tmod scale ≠ 0 then .error .invalidInput else .ok (x.tdiv scale)) :
      Vault Int).run env s := by
  cases y with
  | error e => rfl
  | ok scale => exact exactQuotient_run hx (hy scale rfl)

/-- Scaling up. -/
theorem scaleUp_run {y : Except Error Int} :
    (do
      let scale ← lift y
      lift (checkedI128 (x * scale) .overflow) : Vault Int).run env s =
    (lift (do
      let scale ← y
      checkedI128 (x * scale) .overflow) : Vault Int).run env s := by
  cases y <;> rfl

theorem scale_pos {k : Nat} {b : Int} (h : checkedI128 (10 ^ k) .overflow = .ok b) : 0 < b := by
  obtain ⟨rfl, -⟩ := checkedI128_ok.mp h
  exact ten_pow_pos k

/-- Normalising an amount of a registered token does not abort. -/
theorem normalizeAmountTrapping_run
    (hdecimals : s.read (.instanced (.tokenDecimals token)) = some decimals) (hx : InI128 x) :
    (normalizeAmountTrapping token x).run env s =
      (lift (normalizeAmount s token x) : Vault Int).run env s := by
  unfold normalizeAmountTrapping normalizeAmount
  rw [run_bind_of_ok (run_load_ok.mpr ⟨hdecimals, rfl⟩), hdecimals,
    run_bind_of_ok (run_okOr_ok.mpr ⟨rfl, rfl⟩)]
  show _ = (lift (if decimals = 0 then _ else _) : Vault Int).run env s
  by_cases hzero : decimals = 0
  · rw [run_bind_of_err (run_failIf_err.mpr ⟨hzero, rfl, rfl⟩), if_pos hzero]
    rfl
  rw [run_bind_of_ok (a := ()) (run_failIf_ok.mpr ⟨hzero, rfl⟩), if_neg hzero]
  by_cases hle : decimals ≤ reconciliationDecimals
  · rw [if_pos hle, if_pos hle,
      run_bind_of_ok (run_unwrap_ok.mpr ⟨subU32_of_le hle, rfl⟩)]
    exact scaleUp_run
  · rw [if_neg hle, if_neg hle,
      run_bind_of_ok (run_unwrap_ok.mpr ⟨subU32_of_le (Nat.le_of_not_le hle), rfl⟩)]
    exact scaleDown_run hx fun _ => scale_pos

theorem denormalizeAmountTrapping_run
    (hdecimals : s.read (.instanced (.tokenDecimals token)) = some decimals) (hn : InI128 n) :
    (denormalizeAmountTrapping token n).run env s =
      (lift (denormalizeAmount s token n) : Vault Int).run env s := by
  unfold denormalizeAmountTrapping denormalizeAmount
  rw [run_bind_of_ok (run_load_ok.mpr ⟨hdecimals, rfl⟩), hdecimals,
    run_bind_of_ok (run_okOr_ok.mpr ⟨rfl, rfl⟩)]
  show _ = (lift (if decimals = 0 then _ else _) : Vault Int).run env s
  by_cases hzero : decimals = 0
  · rw [run_bind_of_err (run_failIf_err.mpr ⟨hzero, rfl, rfl⟩), if_pos hzero]
    rfl
  rw [run_bind_of_ok (a := ()) (run_failIf_ok.mpr ⟨hzero, rfl⟩), if_neg hzero]
  by_cases hle : decimals ≤ reconciliationDecimals
  · rw [if_pos hle, if_pos hle,
      run_bind_of_ok (run_unwrap_ok.mpr ⟨subU32_of_le hle, rfl⟩)]
    exact scaleDown_run hn fun _ => scale_pos
  · rw [if_neg hle, if_neg hle,
      run_bind_of_ok (run_unwrap_ok.mpr ⟨subU32_of_le (Nat.le_of_not_le hle), rfl⟩)]
    exact scaleUp_run

end Trapping

/-! ## What the conversions compute -/

/-- The scale between a token finer than the common scale and that scale fits its type. -/
def ScaleFits (decimals : Nat) : Prop := InI128 (10 ^ (decimals - reconciliationDecimals))

instance (decimals : Nat) : Decidable (ScaleFits decimals) := inferInstanceAs (Decidable (InI128 _))

section Conversions

variable {s : State} {token : Address} {decimals : Nat} {x y n m scale : Int}

theorem scaleFits_of_le (hle : decimals ≤ reconciliationDecimals) : ScaleFits decimals := by
  unfold ScaleFits
  rw [Nat.sub_eq_zero_of_le hle]
  decide

/-- The scale of a coarser token always fits. -/
theorem coarseScale_fits (decimals : Nat) :
    InI128 (10 ^ (reconciliationDecimals - decimals)) := by
  have hle : (10 : Int) ^ (reconciliationDecimals - decimals) ≤ 10 ^ reconciliationDecimals :=
    pow_le_pow_right₀ (by decide) (Nat.sub_le _ _)
  have hpos := ten_pow_pos (reconciliationDecimals - decimals)
  have hlarge : (10 : Int) ^ reconciliationDecimals < 2 ^ 127 := by decide
  unfold InI128
  omega

/-- An exact quotient is what was multiplied. -/
theorem exactQuotient_ok (hscale : 0 < scale) :
    (if x.tmod scale ≠ 0 then .error .invalidInput else .ok (x.tdiv scale) : Except Error Int) =
      .ok n ↔ n * scale = x := by
  by_cases hexact : x.tmod scale = 0
  · rw [if_neg (not_not.mpr hexact), Except.ok.injEq]
    have hquotient : x.tdiv scale * scale = x := Int.tdiv_mul_cancel_of_tmod_eq_zero hexact
    constructor
    · rintro rfl
      exact hquotient
    · rintro rfl
      exact Int.mul_tdiv_cancel n (Int.ne_of_gt hscale)
  · rw [if_pos hexact]
    constructor
    · intro h
      cases h
    · rintro rfl
      exact absurd (Int.mul_tmod_left n scale) hexact

/-- Normalising finds the amount of the same worth that fits. -/
theorem normalizeAmount_ok
    (hdecimals : s.read (.instanced (.tokenDecimals token)) = some decimals) (hx : InI128 x) :
    normalizeAmount s token x = .ok n ↔
      decimals ≠ 0 ∧ ScaleFits decimals ∧ SameWorth decimals x n ∧ InI128 n := by
  unfold normalizeAmount
  rw [hdecimals]
  show (if decimals = 0 then _ else _) = _ ↔ _
  by_cases hzero : decimals = 0
  · rw [if_pos hzero]
    simp [hzero]
  rw [if_neg hzero]
  by_cases hle : decimals ≤ reconciliationDecimals
  · rw [if_pos hle, sameWorth_of_le hle, except_bind_ok]
    have hscale := coarseScale_fits decimals
    constructor
    · rintro ⟨_, hfits, hproduct⟩
      obtain ⟨rfl, -⟩ := checkedI128_ok.mp hfits
      obtain ⟨rfl, hfits⟩ := checkedI128_ok.mp hproduct
      exact ⟨hzero, scaleFits_of_le hle, rfl, hfits⟩
    · rintro ⟨-, -, rfl, hfits⟩
      exact ⟨_, checkedI128_ok.mpr ⟨rfl, hscale⟩, checkedI128_ok.mpr ⟨rfl, hfits⟩⟩
  · rw [if_neg hle, sameWorth_of_lt (Nat.lt_of_not_le hle), except_bind_ok]
    have hpos := ten_pow_pos (decimals - reconciliationDecimals)
    constructor
    · rintro ⟨_, hscale, hquotient⟩
      obtain ⟨rfl, hfits⟩ := checkedI128_ok.mp hscale
      have hsame := (exactQuotient_ok hpos).mp hquotient
      refine ⟨hzero, hfits, hsame, ?_⟩
      rw [← Int.mul_tdiv_cancel n (Int.ne_of_gt hpos), hsame]
      exact tdiv_inI128 hx hpos
    · rintro ⟨-, hfits, hsame, -⟩
      exact ⟨_, checkedI128_ok.mpr ⟨rfl, hfits⟩, (exactQuotient_ok hpos).mpr hsame⟩

/-- Denormalising finds it from the other side. -/
theorem denormalizeAmount_ok
    (hdecimals : s.read (.instanced (.tokenDecimals token)) = some decimals) (hn : InI128 n) :
    denormalizeAmount s token n = .ok x ↔
      decimals ≠ 0 ∧ ScaleFits decimals ∧ SameWorth decimals x n ∧ InI128 x := by
  unfold denormalizeAmount
  rw [hdecimals]
  show (if decimals = 0 then _ else _) = _ ↔ _
  by_cases hzero : decimals = 0
  · rw [if_pos hzero]
    simp [hzero]
  rw [if_neg hzero]
  by_cases hle : decimals ≤ reconciliationDecimals
  · rw [if_pos hle, sameWorth_of_le hle, except_bind_ok]
    have hscale := coarseScale_fits decimals
    have hpos := ten_pow_pos (reconciliationDecimals - decimals)
    constructor
    · rintro ⟨_, hfits, hquotient⟩
      obtain ⟨rfl, -⟩ := checkedI128_ok.mp hfits
      have hsame := (exactQuotient_ok hpos).mp hquotient
      refine ⟨hzero, scaleFits_of_le hle, hsame, ?_⟩
      rw [← Int.mul_tdiv_cancel x (Int.ne_of_gt hpos), hsame]
      exact tdiv_inI128 hn hpos
    · rintro ⟨-, -, hsame, -⟩
      exact ⟨_, checkedI128_ok.mpr ⟨rfl, hscale⟩, (exactQuotient_ok hpos).mpr hsame⟩
  · rw [if_neg hle, sameWorth_of_lt (Nat.lt_of_not_le hle), except_bind_ok]
    constructor
    · rintro ⟨_, hfits, hproduct⟩
      obtain ⟨rfl, hscale⟩ := checkedI128_ok.mp hfits
      obtain ⟨rfl, hfits⟩ := checkedI128_ok.mp hproduct
      exact ⟨hzero, hscale, rfl, hfits⟩
    · rintro ⟨-, hscale, rfl, hfits⟩
      exact ⟨_, checkedI128_ok.mpr ⟨rfl, hscale⟩, checkedI128_ok.mpr ⟨rfl, hfits⟩⟩

/-- An amount that leaves its type at the common scale is reported. -/
theorem normalizeAmount_overflows
    (hdecimals : s.read (.instanced (.tokenDecimals token)) = some decimals)
    (hzero : decimals ≠ 0) (hle : decimals ≤ reconciliationDecimals)
    (hout : ¬InI128 (x * 10 ^ (reconciliationDecimals - decimals))) :
    normalizeAmount s token x = .error .overflow := by
  unfold normalizeAmount
  rw [hdecimals]
  show (if decimals = 0 then _ else _) = _
  rw [if_neg hzero, if_pos hle, checkedI128_ok.mpr ⟨rfl, coarseScale_fits decimals⟩]
  exact if_neg hout

theorem checkedI128_out {e : Error} (h : ¬InI128 x) : checkedI128 x e = .error e := if_neg h

/-- An amount that leaves its type in the token's own units is reported. -/
theorem denormalizeAmount_overflows
    (hdecimals : s.read (.instanced (.tokenDecimals token)) = some decimals)
    (hlt : reconciliationDecimals < decimals)
    (hout : ¬InI128 (n * 10 ^ (decimals - reconciliationDecimals))) :
    denormalizeAmount s token n = .error .overflow := by
  unfold denormalizeAmount
  rw [hdecimals]
  show (if decimals = 0 then _ else _) = _
  rw [if_neg (Nat.ne_of_gt (Nat.zero_lt_of_lt hlt)), if_neg (Nat.not_le_of_lt hlt)]
  cases hscale : checkedI128 (10 ^ (decimals - reconciliationDecimals)) .overflow with
  | error e =>
    have hunfit : ¬InI128 (10 ^ (decimals - reconciliationDecimals)) := fun h => by
      rw [checkedI128_ok.mpr ⟨rfl, h⟩] at hscale
      cases hscale
    rw [checkedI128_out hunfit] at hscale
    obtain rfl := Except.error.inj hscale
    rfl
  | ok scale =>
    obtain ⟨rfl, -⟩ := checkedI128_ok.mp hscale
    exact checkedI128_out hout

/-- A token whose scale does not fit has no conversions. -/
theorem conversions_scaleOverflow
    (hdecimals : s.read (.instanced (.tokenDecimals token)) = some decimals)
    (hout : ¬ScaleFits decimals) :
    normalizeAmount s token x = .error .overflow ∧
      denormalizeAmount s token x = .error .overflow := by
  have hlt : reconciliationDecimals < decimals :=
    Nat.lt_of_not_le fun hle => hout (scaleFits_of_le hle)
  unfold normalizeAmount denormalizeAmount
  rw [hdecimals]
  show (if decimals = 0 then _ else _) = _ ∧ (if decimals = 0 then _ else _) = _
  rw [if_neg (Nat.ne_of_gt (Nat.zero_lt_of_lt hlt)), if_neg (Nat.ne_of_gt (Nat.zero_lt_of_lt hlt)),
    if_neg (Nat.not_le_of_lt hlt), if_neg (Nat.not_le_of_lt hlt), checkedI128_out hout]
  exact ⟨rfl, rfl⟩

end Conversions

/-! ## The round trip -/

/-- The conversions of a token are each other's inverse. The only amounts without a counterpart
are those whose counterpart would not fit, and these are reported. -/
structure InverseConversions (s : State) (token : Address) (decimals : Nat) : Prop where
  normalizeReturns : ∀ env x, InI128 x → (normalizeAmountTrapping token x).run env s =
    (lift (normalizeAmount s token x) : Vault Int).run env s
  denormalizeReturns : ∀ env n, InI128 n → (denormalizeAmountTrapping token n).run env s =
    (lift (denormalizeAmount s token n) : Vault Int).run env s
  normalizeEnds : ∀ env x, InI128 x → (normalizeAmountTrapping token x).run env s ≠ .trap
  denormalizeEnds : ∀ env n, InI128 n → (denormalizeAmountTrapping token n).run env s ≠ .trap
  inverse : ∀ x n, InI128 x → InI128 n →
    (normalizeAmount s token x = .ok n ↔ denormalizeAmount s token n = .ok x)
  normalizeOverflows : decimals ≠ 0 → decimals ≤ reconciliationDecimals → ∀ x,
    ¬InI128 (x * 10 ^ (reconciliationDecimals - decimals)) →
      normalizeAmount s token x = .error .overflow
  denormalizeOverflows : reconciliationDecimals < decimals → ∀ n,
    ¬InI128 (n * 10 ^ (decimals - reconciliationDecimals)) →
      denormalizeAmount s token n = .error .overflow
  scaleOverflows : ¬ScaleFits decimals → ∀ x, normalizeAmount s token x = .error .overflow ∧
    denormalizeAmount s token x = .error .overflow
  normalizeIncreases : ∀ x y n m, InI128 x → InI128 y → normalizeAmount s token x = .ok n →
    normalizeAmount s token y = .ok m → (x < y ↔ n < m)
  denormalizeIncreases : ∀ n m x y, InI128 n → InI128 m → denormalizeAmount s token n = .ok x →
    denormalizeAmount s token m = .ok y → (n < m ↔ x < y)
  normalizeSign : ∀ x n, InI128 x → normalizeAmount s token x = .ok n → n.sign = x.sign
  denormalizeSign : ∀ n x, InI128 n → denormalizeAmount s token n = .ok x → x.sign = n.sign

/-- Any token with registered decimals, whatever they are. -/
theorem amounts_round_trip {s : State} {token : Address} {decimals : Nat}
    (hdecimals : s.read (.instanced (.tokenDecimals token)) = some decimals) :
    InverseConversions s token decimals where
  normalizeReturns env x hx := normalizeAmountTrapping_run hdecimals hx
  denormalizeReturns env n hn := denormalizeAmountTrapping_run hdecimals hn
  normalizeEnds env x hx := by
    rw [normalizeAmountTrapping_run hdecimals hx]
    exact Returns.lift _ env s
  denormalizeEnds env n hn := by
    rw [denormalizeAmountTrapping_run hdecimals hn]
    exact Returns.lift _ env s
  inverse x n hx hn := by
    rw [normalizeAmount_ok hdecimals hx, denormalizeAmount_ok hdecimals hn]
    simp only [hx, hn]
  normalizeOverflows hzero hle x hout := normalizeAmount_overflows hdecimals hzero hle hout
  denormalizeOverflows hlt n hout := denormalizeAmount_overflows hdecimals hlt hout
  scaleOverflows hout x := conversions_scaleOverflow hdecimals hout
  normalizeIncreases x y n m hx hy hn hm := by
    have hsame := ((normalizeAmount_ok hdecimals hx).mp hn).2.2.1
    have hother := ((normalizeAmount_ok hdecimals hy).mp hm).2.2.1
    exact hsame.lt_iff hother
  denormalizeIncreases n m x y hn hm hx hy := by
    have hsame := ((denormalizeAmount_ok hdecimals hn).mp hx).2.2.1
    have hother := ((denormalizeAmount_ok hdecimals hm).mp hy).2.2.1
    exact (hsame.lt_iff hother).symm
  normalizeSign x n hx hn := ((normalizeAmount_ok hdecimals hx).mp hn).2.2.1.sign_eq
  denormalizeSign n x hn hx := ((denormalizeAmount_ok hdecimals hn).mp hx).2.2.1.sign_eq.symm

/-- The token of a vault with seven decimals. -/
theorem amounts_round_trip_seven : InverseConversions (sampleStart 0) ⟨9⟩ 7 ∧
    denormalizeAmount (sampleStart 0) ⟨9⟩ 1234567800 = .ok 12345678 := by
  have hdecimals : (sampleStart 0).read (.instanced (.tokenDecimals ⟨9⟩)) = some 7 := by
    decide +kernel
  have hinverse := amounts_round_trip hdecimals
  refine ⟨hinverse, ?_⟩
  rw [← hinverse.inverse 12345678 1234567800 (by decide) (by decide),
    normalizeAmount_ok hdecimals (by decide)]
  exact ⟨by decide, by decide, by decide, by decide⟩

end SubscriptionVault
