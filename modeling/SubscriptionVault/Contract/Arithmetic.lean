import SubscriptionVault.Contract.Types

/-!
# Machine arithmetic and status transitions

Checked `i128` operations return the contract's own errors. Operators the source writes
without a check wrap, since the release profile compiles them without overflow checks.
-/

namespace SubscriptionVault

/-- The values of an `i128`. -/
def InI128 (x : Int) : Prop := -2 ^ 127 ≤ x ∧ x < 2 ^ 127

instance (x : Int) : Decidable (InI128 x) := inferInstanceAs (Decidable (_ ∧ _))

def u32Max : Nat := 2 ^ 32 - 1
def u64Max : Nat := 2 ^ 64 - 1
def u128Max : Nat := 2 ^ 128 - 1

/-- The largest amount a subscription may charge per interval, `i128::MAX / 10_000`. -/
def maxSubscriptionAmount : Int := (2 ^ 127 - 1) / 10000

/-- An unchecked `i128` operation keeps the low 128 bits. -/
def wrapI128 (x : Int) : Int := x.bmod (2 ^ 128)

/-- An unchecked `u64` operation keeps the low 64 bits. -/
@[irreducible] def wrapU64 (x : Nat) : Nat := x % 2 ^ 64

def checkedI128 (x : Int) (e : Error) : Except Error Int :=
  if InI128 x then .ok x else .error e

def safeAdd (a b : Int) : Except Error Int := checkedI128 (a + b) .overflow

def safeSub (a b : Int) : Except Error Int := checkedI128 (a - b) .underflow

def safeMul (a b : Int) : Except Error Int := checkedI128 (a * b) .overflow

def safeAddBalance (balance amount : Int) : Except Error Int :=
  if amount < 0 then .error .underflow else safeAdd balance amount

def safeSubBalance (balance amount : Int) : Except Error Int :=
  if amount < 0 then .error .underflow
  else if balance < amount then .error .underflow
  else safeSub balance amount

def checkedAddU64 (a b : Nat) : Option Nat := if a + b ≤ u64Max then some (a + b) else none
def checkedAddU32 (a b : Nat) : Option Nat := if a + b ≤ u32Max then some (a + b) else none
def saturatingAddU64 (a b : Nat) : Nat := min (a + b) u64Max
def saturatingMulU64 (a b : Nat) : Nat := min (a * b) u64Max
def saturatingAddU32 (a b : Nat) : Nat := min (a + b) u32Max

/-- A saturating `i128` operation stops at the ends of the range. -/
def clampI128 (x : Int) : Int := max (-2 ^ 127) (min x (2 ^ 127 - 1))

section Except

variable {ε α β : Type} {x : Except ε α} {b : β}

theorem except_bind_ok {f : α → Except ε β} :
    (x >>= f) = .ok b ↔ ∃ a, x = .ok a ∧ f a = .ok b := by
  cases x <;> simp [bind, Except.bind]

theorem except_map_ok {f : α → β} : x.map f = .ok b ↔ ∃ a, x = .ok a ∧ f a = b := by
  cases x <;> simp [Except.map]

end Except

theorem checkedI128_ok {x y : Int} {e : Error} :
    checkedI128 x e = .ok y ↔ x = y ∧ InI128 x := by
  by_cases h : InI128 x <;> simp [checkedI128, h]

@[simp] theorem safeAdd_ok {a b c : Int} : safeAdd a b = .ok c ↔ a + b = c ∧ InI128 (a + b) :=
  checkedI128_ok

@[simp] theorem safeSub_ok {a b c : Int} : safeSub a b = .ok c ↔ a - b = c ∧ InI128 (a - b) :=
  checkedI128_ok

@[simp] theorem safeMul_ok {a b c : Int} : safeMul a b = .ok c ↔ a * b = c ∧ InI128 (a * b) :=
  checkedI128_ok

@[simp] theorem safeAddBalance_ok {a b c : Int} :
    safeAddBalance a b = .ok c ↔ 0 ≤ b ∧ a + b = c ∧ InI128 (a + b) := by
  by_cases h : b < 0
  · have hneg : ¬0 ≤ b := Int.not_le.mpr h
    simp only [safeAddBalance, if_pos h, hneg, false_and, reduceCtorEq]
  · simp [safeAddBalance, h, Int.not_lt.mp h]

@[simp] theorem safeSubBalance_ok {a b c : Int} :
    safeSubBalance a b = .ok c ↔ 0 ≤ b ∧ b ≤ a ∧ a - b = c ∧ InI128 (a - b) := by
  by_cases h : b < 0
  · have hneg : ¬0 ≤ b := Int.not_le.mpr h
    simp only [safeSubBalance, if_pos h, hneg, false_and, reduceCtorEq]
  · by_cases h' : a < b
    · have hover : ¬b ≤ a := Int.not_le.mpr h'
      simp only [safeSubBalance, if_neg h, if_pos h', hover, false_and, and_false, reduceCtorEq]
    · simp [safeSubBalance, h, h', Int.not_lt.mp h, Int.not_lt.mp h']

theorem checkedAddU64_eq_some {a b c : Nat} :
    checkedAddU64 a b = some c ↔ a + b = c ∧ a + b ≤ u64Max := by
  by_cases h : a + b ≤ u64Max <;> simp [checkedAddU64, h]

theorem wrapU64_of_le {x : Nat} (h : x ≤ u64Max) : wrapU64 x = x := by
  have hlt : x < 2 ^ 64 := Nat.lt_of_le_pred (by decide) h
  unfold wrapU64
  exact Nat.mod_eq_of_lt hlt

theorem wrapI128_of_inI128 {x : Int} (h : InI128 x) : wrapI128 x = x := by
  unfold InI128 at h
  unfold wrapI128
  rw [Int.bmod_eq_of_le_mul_two] <;> omega

/-! ## Status transitions -/

/-- The transition matrix; a status may always stay as it is. -/
def canTransition (current next : SubscriptionStatus) : Bool :=
  current = next ||
    match current, next with
    | .active, .paused | .active, .cancelled | .active, .insufficientBalance
    | .active, .gracePeriod | .active, .expired
    | .paused, .active | .paused, .cancelled | .paused, .expired
    | .insufficientBalance, .active | .insufficientBalance, .cancelled
    | .insufficientBalance, .expired | .insufficientBalance, .paused
    | .gracePeriod, .active | .gracePeriod, .cancelled
    | .gracePeriod, .insufficientBalance | .gracePeriod, .expired
    | .cancelled, .archived | .expired, .archived => true
    | _, _ => false

/-- The next status, if the matrix allows it. -/
def transitionTo (current next : SubscriptionStatus) : Except Error SubscriptionStatus :=
  if canTransition current next then .ok next else .error .invalidStatusTransition

@[simp] theorem transitionTo_ok {current next status : SubscriptionStatus} :
    transitionTo current next = .ok status ↔ canTransition current next ∧ next = status := by
  by_cases h : canTransition current next <;> simp [transitionTo, h]

end SubscriptionVault
