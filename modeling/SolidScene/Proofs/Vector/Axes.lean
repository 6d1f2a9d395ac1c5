import Mathlib.Tactic.NormNum
import SolidScene.Proofs.Vector.Length

/-!
# Coordinate axes and collinearity

What the tests on axes say of exact vectors: a vector along a coordinate axis has that axis as its
dominant one and is collinear with no other one, and the closest signed axis of any vector is a
unit vector that is collinear with the same vectors as its coordinate axis. Collinearity is meant
up to the tolerance throughout.
-/
namespace SolidScene.Vec

theorem collinear_iff {u v : Vec ℝ} :
    u.collinear v = true ↔
      (u.cross v).dot (u.cross v) ≤ 1 / 10 ^ 12 * (1 / 10 ^ 12) * (u.dot u * v.dot v) :=
  Scalar.le_iff

theorem collinear_comm (u v : Vec ℝ) : u.collinear v = v.collinear u := by
  have hcross : (u.cross v).dot (u.cross v) = (v.cross u).dot (v.cross u) := by
    simp only [dot, cross]
    ring
  rw [Bool.eq_iff_iff, collinear_iff, collinear_iff, hcross, mul_comm (u.dot u)]

/-- Whether two directions are collinear does not depend on their lengths. -/
theorem collinear_mul (u v : Vec ℝ) {k : ℝ} (hk : k ≠ 0) : u.collinear (v * k) = u.collinear v := by
  have hcross : (u.cross (v * k)).dot (u.cross (v * k)) =
      (u.cross v).dot (u.cross v) * (k * k) := by
    simp only [mul_eq, cross, dot]
    ring
  have hdot : 1 / 10 ^ 12 * (1 / 10 ^ 12) * (u.dot u * (v * k).dot (v * k)) =
      1 / 10 ^ 12 * (1 / 10 ^ 12) * (u.dot u * v.dot v) * (k * k) := by
    simp only [mul_eq, dot]
    ring
  rw [Bool.eq_iff_iff, collinear_iff, collinear_iff, hcross, hdot,
    mul_le_mul_iff_left₀ (mul_self_pos.mpr hk)]

theorem collinear_normalize (u : Vec ℝ) {v : Vec ℝ} (hv : v ≠ 0) :
    u.collinear v.normalize = u.collinear v := by
  rw [← collinear_mul u v.normalize (norm_pos hv).ne', normalize_mul_norm hv]

theorem dot_set_zero (a : Axis) (c : ℝ) : (set 0 a c).dot (set 0 a c) = c * c := by
  cases a <;> simp [set, zero_eq, dot]

theorem dot_unit_self (a : Axis) : (unit a : Vec ℝ).dot (unit a) = 1 := by
  rw [unit, dot_set_zero, one_mul]

theorem unit_ne_zero (a : Axis) : (unit a : Vec ℝ) ≠ 0 := ne_zero_of_dot_self (dot_unit_self a)

theorem dot_closestAxis_self (v : Vec ℝ) : v.closestAxis.dot v.closestAxis = 1 := by
  rw [closestAxis, dot_set_zero, Scalar.signum_mul_self]

theorem dot_cross_set_zero (a b : Axis) (c : ℝ) :
    ((set 0 a c).cross (unit b)).dot ((set 0 a c).cross (unit b)) = if a = b then 0 else c * c := by
  cases a <;> cases b <;> simp [unit, set, zero_eq, cross, dot]

/-- A vector along a coordinate axis is collinear with that axis and with no other one. -/
theorem collinear_set_zero (a b : Axis) {c : ℝ} (hc : c ≠ 0) :
    (set 0 a c).collinear (unit b) = true ↔ a = b := by
  have hpos : 0 < c * c := mul_self_pos.mpr hc
  rw [collinear_iff, dot_cross_set_zero, dot_set_zero, dot_unit_self, mul_one]
  split
  · next h => exact ⟨fun _ => h, fun _ => by positivity⟩
  · next h =>
    refine ⟨fun hle => ?_, fun hab => absurd hab h⟩
    norm_num at hle
    linarith

end SolidScene.Vec
