import Mathlib.Analysis.SpecialFunctions.Complex.Arg
import SolidScene.Scalar

/-!
# Exact arithmetic

The real numbers as a scalar: every operation without rounding, angles by the exact ratio of a
degree to a radian. What is proved of transforms in exact arithmetic is a statement about their
formulas, not about the error of a floating-point run.
-/
namespace SolidScene

noncomputable instance : Scalar ℝ where
  toZero := inferInstance
  toOne := inferInstance
  toAdd := inferInstance
  toSub := inferInstance
  toMul := inferInstance
  toDiv := inferInstance
  toNeg := inferInstance
  toBEq := instBEqOfDecidableEq
  lt x y := decide (x < y)
  le x y := decide (x ≤ y)
  abs x := |x|
  signum x := if x < 0 then -1 else 1
  sqrt := Real.sqrt
  sin := Real.sin
  cos := Real.cos
  atan2 y x := Complex.arg ⟨x, y⟩
  degree := Real.pi / 180
  radian := 180 / Real.pi
  halfTurn := 180
  tolerance := 1 / 10 ^ 12

namespace Scalar

theorem lt_iff {x y : ℝ} : Scalar.lt x y = true ↔ x < y := decide_eq_true_iff

theorem le_iff {x y : ℝ} : Scalar.le x y = true ↔ x ≤ y := decide_eq_true_iff

theorem toRadians_toDegrees (x : ℝ) : toRadians (toDegrees x) = x := by
  change x * (180 / Real.pi) * (Real.pi / 180) = x
  field_simp

theorem toRadians_zero : toRadians (0 : ℝ) = 0 := zero_mul _

theorem toRadians_neg (x : ℝ) : toRadians (-x) = -toRadians x := neg_mul _ _

theorem toRadians_halfTurn : toRadians (halfTurn : ℝ) = Real.pi := by
  change 180 * (Real.pi / 180) = Real.pi
  ring

theorem signum_mul_self (x : ℝ) : signum x * signum x = 1 := by
  change (if x < 0 then -1 else 1) * (if x < 0 then -1 else 1) = (1 : ℝ)
  split <;> norm_num

end Scalar

end SolidScene
