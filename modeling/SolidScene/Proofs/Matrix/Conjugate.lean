import SolidScene.Proofs.Matrix.Rigid

/-!
# Turns behind a rigid matrix

A rigid matrix that leaves the origin in place takes a turn in front of it to the turn around the
image of the axis behind it, by the same angle. Turning around an axis that moves along is therefore
the same as turning around the axis where it was, one step earlier.
-/
namespace SolidScene.Mat

theorem isAffine_turn (n : Vec ℝ) (c s : ℝ) : (turn n c s).IsAffine := rfl

theorem apply_turn (n p : Vec ℝ) (c s : ℝ) : (turn n c s).apply p = (turn n c s).carry p := by
  rw [(isAffine_turn n c s).apply_eq]
  ext <;> simp [turn, carry]

theorem axisAngle_apply_zero (axis : Vec ℝ) (degrees : ℝ) :
    (axisAngle axis degrees).apply 0 = 0 := by
  rw [axisAngle_eq, apply_turn]
  ext <;> simp [carry, Row.linear, Vec.zero_eq]

theorem apply_one (p : Vec ℝ) : (1 : Mat ℝ).apply p = p := by
  rw [isAffine_one.apply_eq]
  ext <;> simp [Row.linear, one_eq]

theorem carry_mul (m : Mat ℝ) (p : Vec ℝ) (a : ℝ) : m.carry (p * a) = m.carry p * a := by
  ext <;> simp only [carry, Row.linear, Vec.mul_eq] <;> ring

theorem carry_combination (m : Mat ℝ) (p q r : Vec ℝ) (a b c : ℝ) :
    m.carry (p * a + q * b + r * c) = m.carry p * a + m.carry q * b + m.carry r * c := by
  ext <;> simp only [carry, Row.linear, Vec.add_eq, Vec.mul_eq] <;> ring

/-- Affine matrices are told apart by what they do to points. -/
theorem IsAffine.ext {a b : Mat ℝ} (ha : a.IsAffine) (hb : b.IsAffine)
    (h : ∀ p, a.apply p = b.apply p) : a = b := by
  have hrows (p : Vec ℝ) :
      Vec.mk (a.x.linear p + a.x.w) (a.y.linear p + a.y.w) (a.z.linear p + a.z.w) =
        ⟨b.x.linear p + b.x.w, b.y.linear p + b.y.w, b.z.linear p + b.z.w⟩ := by
    rw [← ha.apply_eq, ← hb.apply_eq, h]
  have horigin := hrows 0
  have hx := hrows (Vec.unit .x)
  have hy := hrows (Vec.unit .y)
  have hz := hrows (Vec.unit .z)
  simp only [Vec.mk.injEq, Row.linear, Vec.unit, Vec.set, Vec.zero_eq, mul_zero, mul_one, add_zero,
    zero_add] at horigin hx hy hz
  refine Mat.ext ?_ ?_ ?_ (ha.trans hb.symm) <;> ext <;> linarith

theorem IsAffine.apply_eq_carry {m : Mat ℝ} (h : m.IsAffine) (horigin : m.apply 0 = 0)
    (p : Vec ℝ) : m.apply p = m.carry p := by
  rw [h.apply_eq, Vec.zero_eq] at horigin
  simp only [Vec.mk.injEq, Row.linear, mul_zero, zero_add] at horigin
  obtain ⟨hx, hy, hz⟩ := horigin
  rw [h.apply_eq, hx, hy, hz]
  simp only [add_zero]
  rfl

namespace IsRigid

variable {m : Mat ℝ} (h : m.IsRigid) (horigin : m.apply 0 = 0)
include h horigin

theorem mul_turn (n : Vec ℝ) (c s : ℝ) : m * turn n c s = turn (m.carry n) c s * m := by
  have hturn := isAffine_turn n c s
  have hcarried := isAffine_turn (m.carry n) c s
  refine (h.affine.mul hturn).ext (hcarried.mul h.affine) fun p => ?_
  rw [apply_mul h.affine hturn, apply_mul hcarried h.affine, apply_turn, apply_turn,
    h.affine.apply_eq_carry horigin, h.affine.apply_eq_carry horigin, carry_turn, carry_turn,
    carry_combination, h.carry_cross, h.dot_carry]

/-- Turning around the image of an axis afterwards is turning around the axis before. -/
theorem axisAngle_carry_mul {n : Vec ℝ} (hn : n.dot n = 1) (degrees : ℝ) :
    axisAngle (m.carry n) degrees * m = m * axisAngle n degrees := by
  have hcarried : (m.carry n).dot (m.carry n) = 1 := by rw [h.dot_carry, hn]
  rw [axisAngle_eq, axisAngle_eq, Vec.normalize_eq_self hcarried, Vec.normalize_eq_self hn,
    h.mul_turn horigin]

end IsRigid

end SolidScene.Mat
