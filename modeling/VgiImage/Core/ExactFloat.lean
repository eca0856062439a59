import Mathlib.Algebra.Order.Field.Rat
import Mathlib.Tactic.Common

/-!
# Floating-point values with exact arithmetic

The special values of IEEE 754 with exact rationals in place of rounding: a
division by zero still yields an infinity or a NaN, and both propagate.  A
rational has one zero, which counts as positive.
-/

namespace VgiImage

inductive ExactFloat where
  | finite (value : ℚ)
  | infinity (negative : Bool)
  | nan
  deriving DecidableEq

namespace ExactFloat

protected def add : ExactFloat → ExactFloat → ExactFloat
  | .finite x, .finite y => .finite (x + y)
  | .infinity s, .infinity t => if s = t then .infinity s else .nan
  | .infinity s, .finite _ => .infinity s
  | .finite _, .infinity t => .infinity t
  | .nan, _ => .nan
  | _, .nan => .nan

protected def mul : ExactFloat → ExactFloat → ExactFloat
  | .finite x, .finite y => .finite (x * y)
  | .infinity s, .infinity t => .infinity (s != t)
  | .infinity s, .finite y => if y = 0 then .nan else .infinity (s != decide (y < 0))
  | .finite x, .infinity t => if x = 0 then .nan else .infinity (decide (x < 0) != t)
  | .nan, _ => .nan
  | _, .nan => .nan

protected def div : ExactFloat → ExactFloat → ExactFloat
  | .finite x, .finite y =>
      if y = 0 then
        if x = 0 then .nan else .infinity (decide (x < 0))
      else .finite (x / y)
  | .infinity _, .infinity _ => .nan
  | .infinity s, .finite y => .infinity (s != decide (y < 0))
  | .finite _, .infinity _ => .finite 0
  | .nan, _ => .nan
  | _, .nan => .nan

instance : Add ExactFloat := ⟨ExactFloat.add⟩
instance : Mul ExactFloat := ⟨ExactFloat.mul⟩
instance : Div ExactFloat := ⟨ExactFloat.div⟩

/-- Neither an infinity nor a NaN. -/
def IsFinite (x : ExactFloat) : Prop := ∃ value, x = .finite value

@[simp]
theorem isFinite_finite (value : ℚ) : IsFinite (.finite value) := ⟨value, rfl⟩

@[simp]
theorem not_isFinite_infinity (negative : Bool) : ¬ IsFinite (.infinity negative) := by
  rintro ⟨value, h⟩
  cases h

@[simp]
theorem not_isFinite_nan : ¬ IsFinite .nan := by
  rintro ⟨value, h⟩
  cases h

theorem finite_add_finite (x y : ℚ) : finite x + finite y = finite (x + y) := rfl

theorem finite_mul_finite (x y : ℚ) : finite x * finite y = finite (x * y) := rfl

theorem finite_div_finite {x y : ℚ} (hy : y ≠ 0) :
    finite x / finite y = finite (x / y) :=
  if_neg hy

/-- A sum is a number exactly when both terms are. -/
theorem isFinite_add {x y : ExactFloat} :
    IsFinite (x + y) ↔ IsFinite x ∧ IsFinite y := by
  change IsFinite (ExactFloat.add x y) ↔ _
  cases x <;> cases y <;> simp only [ExactFloat.add] <;> try simp
  split <;> simp

/-- A quotient of two numbers is a number exactly when the divisor is not
zero. -/
theorem isFinite_finite_div {x y : ℚ} :
    IsFinite (finite x / finite y) ↔ y ≠ 0 := by
  change IsFinite (ExactFloat.div (finite x) (finite y)) ↔ _
  by_cases hy : y = 0
  · by_cases hx : x = 0 <;> simp [ExactFloat.div, hx, hy]
  · simp [ExactFloat.div, hy]

theorem isFinite_div_finite {x : ExactFloat} {y : ℚ} (hy : y ≠ 0) :
    IsFinite (x / finite y) ↔ IsFinite x := by
  change IsFinite (ExactFloat.div x (finite y)) ↔ _
  cases x <;> simp [ExactFloat.div, hy]

theorem isFinite_finite_mul {x : ℚ} {y : ExactFloat} (hx : x ≠ 0) :
    IsFinite (finite x * y) ↔ IsFinite y := by
  change IsFinite (ExactFloat.mul (finite x) y) ↔ _
  cases y <;> simp [ExactFloat.mul, hx]

/-! ## Signs -/

/-- Below zero; a NaN has no sign. -/
def IsNegative : ExactFloat → Prop
  | .finite x => x < 0
  | .infinity negative => negative = true
  | .nan => False

/-- A number other than zero, or an infinity. -/
def IsNonzero (x : ExactFloat) : Prop := x ≠ .finite 0 ∧ x ≠ .nan

theorem not_isNegative_add {x y : ExactFloat} (hx : ¬ IsNegative x)
    (hy : ¬ IsNegative y) : ¬ IsNegative (x + y) := by
  change ¬ IsNegative (ExactFloat.add x y)
  cases x <;> cases y <;> simp only [ExactFloat.add, IsNegative, not_lt] at hx hy ⊢
  case finite.finite x y => exact add_nonneg hx hy
  case infinity.infinity s t =>
    have hst : s = t := (Bool.not_eq_true _ ▸ hx).trans (Bool.not_eq_true _ ▸ hy).symm
    rwa [if_pos hst]
  all_goals first | exact hx | exact hy

theorem not_isNegative_finite_div {x y : ℚ} (hx : 0 ≤ x) (hy : 0 ≤ y) :
    ¬ IsNegative (finite x / finite y) := by
  change ¬ IsNegative (ExactFloat.div (finite x) (finite y))
  by_cases hy0 : y = 0
  · by_cases hx0 : x = 0 <;> simp [ExactFloat.div, IsNegative, hx0, hy0, hx]
  · simp [ExactFloat.div, IsNegative, hy0, div_nonneg hx hy]

theorem not_isNegative_div_finite {x : ExactFloat} {y : ℚ} (hx : ¬ IsNegative x)
    (hy : 0 < y) : ¬ IsNegative (x / finite y) := by
  change ¬ IsNegative (ExactFloat.div x (finite y))
  cases x with
  | finite x =>
      rw [ExactFloat.div, if_neg hy.ne', IsNegative, not_lt]
      exact div_nonneg (not_lt.1 hx) hy.le
  | infinity s =>
      rw [ExactFloat.div, decide_eq_false hy.not_gt, Bool.bne_false]
      exact hx
  | nan => exact hx

/-- Multiplying by one keeps a value that is not negative so. -/
theorem not_isNegative_one_mul {x : ExactFloat} (hx : ¬ IsNegative x) :
    ¬ IsNegative (finite 1 * x) := by
  change ¬ IsNegative (ExactFloat.mul (finite 1) x)
  cases x with
  | finite x => simpa [ExactFloat.mul, IsNegative] using hx
  | infinity s =>
      rw [ExactFloat.mul, if_neg one_ne_zero, decide_eq_false zero_le_one.not_gt,
        Bool.false_bne]
      exact hx
  | nan => exact hx

/-- Multiplying by minus one makes a value that is not negative so, unless
there is no sign to turn. -/
theorem isNegative_neg_one_mul {x : ExactFloat} (hx : ¬ IsNegative x)
    (h : IsNonzero (finite (-1) * x)) : IsNegative (finite (-1) * x) := by
  change IsNonzero (ExactFloat.mul (finite (-1)) x) at h
  change IsNegative (ExactFloat.mul (finite (-1)) x)
  cases x with
  | finite x =>
      simp only [ExactFloat.mul, IsNonzero, ne_eq, finite.injEq, neg_mul, one_mul,
        neg_eq_zero] at h
      simp only [ExactFloat.mul, IsNegative, not_lt, neg_mul, one_mul, neg_lt_zero] at hx ⊢
      exact lt_of_le_of_ne hx (Ne.symm h.1)
  | infinity s => simpa [ExactFloat.mul, IsNegative] using hx
  | nan => exact absurd rfl h.2

end ExactFloat

end VgiImage
