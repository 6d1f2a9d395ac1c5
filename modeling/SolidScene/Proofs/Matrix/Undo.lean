import SolidScene.Proofs.Matrix.Turn
import SolidScene.Proofs.Vector.Axes

/-!
# Matrices that undo each other

Pairs of exact matrices whose product is the identity in both orders: displacements, scalings,
turns by opposite angles, and stretches by reciprocal factors. A product is undone factor by
factor, from the last to the first.
-/
namespace SolidScene.Mat

/-- The product is the identity in both orders. -/
structure Undoes (a b : Mat ℝ) : Prop where
  left : a * b = 1
  right : b * a = 1

theorem undoes_one : Undoes 1 1 := ⟨mul_one 1, mul_one 1⟩

theorem Undoes.mul {a a' b b' : Mat ℝ} (ha : Undoes a a') (hb : Undoes b b') :
    Undoes (a * b) (b' * a') := by
  constructor
  · calc a * b * (b' * a') = a * (b * b') * a' := by simp only [mul_assoc]
      _ = 1 := by rw [hb.left, mul_one, ha.left]
  · calc b' * a' * (a * b) = b' * (a' * a) * b := by simp only [mul_assoc]
      _ = 1 := by rw [ha.right, mul_one, hb.right]

theorem undoes_displacement (v : Vec ℝ) : Undoes (displacement v) (displacement (-v)) := by
  constructor <;> ext <;>
    simp [displacement, affine, mul_eq, through, one_eq, Vec.unit, Vec.set, Vec.zero_eq, Vec.neg_eq]

theorem undoes_scaling {f g : Vec ℝ} (h : ∀ axis, f.get axis * g.get axis = 1) :
    Undoes (scaling f) (scaling g) := by
  have hx : f.x * g.x = 1 := h .x
  have hy : f.y * g.y = 1 := h .y
  have hz : f.z * g.z = 1 := h .z
  constructor <;> ext <;>
    simp [scaling, affine, mul_eq, through, one_eq, Vec.zero_eq, mul_comm, hx, hy, hz]

section Turns

variable {n : Vec ℝ} (hn : n.dot n = 1)
include hn

theorem undoes_turn (radians : ℝ) :
    Undoes (turn n (Real.cos radians) (Real.sin radians))
      (turn n (Real.cos radians) (-Real.sin radians)) := by
  have hcircle := Real.cos_sq_add_sin_sq radians
  constructor
  · have hforth := turn_mul_transpose hn (c := Real.cos radians) (s := Real.sin radians)
      (by rw [← sq, ← sq, hcircle])
    rwa [transpose_turn] at hforth
  · have hback := turn_mul_transpose hn (c := Real.cos radians) (s := -Real.sin radians)
      (by rw [neg_mul_neg, ← sq, ← sq, hcircle])
    rwa [transpose_turn, neg_neg] at hback

theorem undoes_stretch {g k : ℝ} (h : (1 + g) * (1 + k) = 1) :
    Undoes (stretch n g) (stretch n k) := by
  have hforth : g + k + g * k = 0 := by linear_combination h
  have hback : k + g + k * g = 0 := by linear_combination h
  constructor
  · rw [stretch_mul hn, hforth, stretch_zero]
  · rw [stretch_mul hn, hback, stretch_zero]

end Turns

theorem undoes_rotation (a : Axis) (radians : ℝ) :
    Undoes (rotation a radians) (rotation a (-radians)) := by
  rw [rotation_eq_turn, rotation_eq_turn, Real.cos_neg, Real.sin_neg]
  exact undoes_turn (Vec.dot_unit_self a) radians

/-- A turn is undone by the same turn around the opposite axis. -/
theorem undoes_axisAngle {axis : Vec ℝ} (haxis : axis ≠ 0) (degrees : ℝ) :
    Undoes (axisAngle axis degrees) (axisAngle (-axis) degrees) := by
  rw [axisAngle_eq, axisAngle_eq, Vec.normalize_neg, turn_neg]
  exact undoes_turn (Vec.dot_normalize_self haxis) _

theorem undoes_axisScale {axis : Vec ℝ} (haxis : axis ≠ 0) {factor back : ℝ}
    (h : factor * back = 1) : Undoes (axisScale axis factor) (axisScale axis back) := by
  rw [axisScale_eq, axisScale_eq]
  exact undoes_stretch (Vec.dot_normalize_self haxis) (by linear_combination h)

end SolidScene.Mat
