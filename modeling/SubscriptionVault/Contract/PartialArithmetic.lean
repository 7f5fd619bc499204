import SubscriptionVault.Contract.Arithmetic

/-!
# Operations without a result

The plain operators as a build with overflow checks has them: there is no result where such a
build aborts. Division and remainder abort in every build when the divisor is zero or the quotient
does not fit.
-/

namespace SubscriptionVault

/-- The value, if it is one of an `i128`. -/
def fitI128 (x : Int) : Option Int := if InI128 x then some x else none

def subI128 (a b : Int) : Option Int := fitI128 (a - b)

def mulI128 (a b : Int) : Option Int := fitI128 (a * b)

def divI128 (a b : Int) : Option Int := if b = 0 then none else fitI128 (a.tdiv b)

/-- A remainder aborts where the quotient does. -/
def remI128 (a b : Int) : Option Int :=
  if b = 0 ∨ ¬InI128 (a.tdiv b) then none else some (a.tmod b)

def subU32 (a b : Nat) : Option Nat := if b ≤ a then some (a - b) else none

section Fits

variable {a b x : Int}

theorem fitI128_of_inI128 (h : InI128 x) : fitI128 x = some x := if_pos h

theorem subI128_of_inI128 (h : InI128 (a - b)) : subI128 a b = some (a - b) := if_pos h

theorem mulI128_of_inI128 (h : InI128 (a * b)) : mulI128 a b = some (a * b) := if_pos h

/-- A quotient is no larger than what is divided. -/
theorem tdiv_inI128 (ha : InI128 a) (hb : 0 < b) : InI128 (a.tdiv b) := by
  unfold InI128 at ha ⊢
  have hle : (a.tdiv b).natAbs ≤ a.natAbs := Int.natAbs_tdiv_le_natAbs a b
  rcases Int.le_total 0 a with hnonneg | hneg
  · have hquotient : 0 ≤ a.tdiv b := Int.tdiv_nonneg hnonneg (Int.le_of_lt hb)
    omega
  · have hquotient : 0 ≤ (-a).tdiv b :=
      Int.tdiv_nonneg (Int.neg_nonneg_of_nonpos hneg) (Int.le_of_lt hb)
    rw [Int.neg_tdiv] at hquotient
    omega

theorem divI128_of_pos (ha : InI128 a) (hb : 0 < b) : divI128 a b = some (a.tdiv b) := by
  unfold divI128
  rw [if_neg (Int.ne_of_gt hb), fitI128_of_inI128 (tdiv_inI128 ha hb)]

theorem remI128_of_pos (ha : InI128 a) (hb : 0 < b) : remI128 a b = some (a.tmod b) := by
  have hquotient : InI128 (a.tdiv b) := tdiv_inI128 ha hb
  unfold remI128
  rw [if_neg (not_or.mpr ⟨Int.ne_of_gt hb, not_not.mpr hquotient⟩)]

theorem subU32_of_le {a b : Nat} (h : b ≤ a) : subU32 a b = some (a - b) := if_pos h

end Fits

end SubscriptionVault
