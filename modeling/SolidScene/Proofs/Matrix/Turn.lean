import Mathlib.Tactic.LinearCombination
import SolidScene.Proofs.Matrix.Product
import SolidScene.Proofs.Vector.Length

/-!
# Rotations and stretches

A rotation around a unit vector, given by the cosine and the sine of its angle, and a stretch along
a unit vector. A rotation is undone by its transpose, and a stretch between a rotation and its
transpose is the stretch along the rotated vector. The rotation by the angle between two vectors
around their cross product carries the direction of the first one to that of the second.
-/
namespace SolidScene.Mat

/-- Rotation around a unit vector by the angle that has the given cosine and sine. -/
def turn (n : Vec ℝ) (c s : ℝ) : Mat ℝ :=
  ⟨⟨n.x * n.x + (1 - n.x * n.x) * c, n.x * n.y * (1 - c) - n.z * s,
      n.x * n.z * (1 - c) + n.y * s, 0⟩,
    ⟨n.x * n.y * (1 - c) + n.z * s, n.y * n.y + (1 - n.y * n.y) * c,
      n.y * n.z * (1 - c) - n.x * s, 0⟩,
    ⟨n.x * n.z * (1 - c) - n.y * s, n.y * n.z * (1 - c) + n.x * s,
      n.z * n.z + (1 - n.z * n.z) * c, 0⟩,
    ⟨0, 0, 0, 1⟩⟩

/-- Stretching by `1 + g` along a unit vector. -/
def stretch (n : Vec ℝ) (g : ℝ) : Mat ℝ :=
  ⟨⟨1 + n.x * n.x * g, n.x * n.y * g, n.x * n.z * g, 0⟩,
    ⟨n.y * n.x * g, 1 + n.y * n.y * g, n.y * n.z * g, 0⟩,
    ⟨n.z * n.x * g, n.z * n.y * g, 1 + n.z * n.z * g, 0⟩,
    ⟨0, 0, 0, 1⟩⟩

/-- The image of a direction. -/
noncomputable def carry (m : Mat ℝ) (p : Vec ℝ) : Vec ℝ :=
  ⟨m.x.linear p, m.y.linear p, m.z.linear p⟩

theorem rodrigues_eq (n : Vec ℝ) (radians : ℝ) :
    rodrigues n radians = turn n (Real.cos radians) (Real.sin radians) := rfl

theorem turn_one_zero (n : Vec ℝ) : turn n 1 0 = 1 := by
  ext <;> simp [turn, one_eq]

/-- The rotation by nothing needs no case of its own in exact arithmetic. -/
theorem axisAngle_eq (axis : Vec ℝ) (degrees : ℝ) :
    axisAngle axis degrees = turn axis.normalize (Real.cos (Scalar.toRadians degrees))
      (Real.sin (Scalar.toRadians degrees)) := by
  unfold axisAngle
  by_cases h : Scalar.toRadians degrees = 0
  · simp [h, turn_one_zero]
  · simp [h, rodrigues_eq]

/-- The coordinate axes are turned around like any other. -/
theorem rotation_eq_turn (a : Axis) (radians : ℝ) :
    rotation a radians = turn (Vec.unit a) (Real.cos radians) (Real.sin radians) := by
  cases a <;> ext <;>
    simp [rotation, affine, turn, Vec.unit, Vec.set, Vec.zero_eq, Scalar.sin, Scalar.cos]

theorem rotation_zero (a : Axis) : rotation a (0 : ℝ) = 1 := by
  rw [rotation_eq_turn, Real.cos_zero, Real.sin_zero, turn_one_zero]

theorem transpose_turn (n : Vec ℝ) (c s : ℝ) : (turn n c s).transpose = turn n c (-s) := by
  ext <;> simp only [transpose, turn] <;> ring

theorem turn_neg (n : Vec ℝ) (c s : ℝ) : turn (-n) c s = turn n c (-s) := by
  ext <;> simp only [turn, Vec.neg_eq] <;> ring

/-- Rotations around one unit vector add their angles. -/
theorem turn_mul {n : Vec ℝ} (hn : n.dot n = 1) (c s c' s' : ℝ) :
    turn n c s * turn n c' s' = turn n (c * c' - s * s') (s * c' + c * s') := by
  have h : n.x * n.x + n.y * n.y + n.z * n.z = 1 := hn
  ext <;> simp only [mul_eq, through, turn] <;> grind

theorem turn_mul_transpose {n : Vec ℝ} (hn : n.dot n = 1) {c s : ℝ} (h : c * c + s * s = 1) :
    turn n c s * (turn n c s).transpose = 1 := by
  have hcos : c * c - s * -s = 1 := by rw [← h]; ring
  have hsin : s * c + c * -s = 0 := by ring
  rw [transpose_turn, turn_mul hn, hcos, hsin, turn_one_zero]

theorem stretch_zero (n : Vec ℝ) : stretch n 0 = 1 := by
  ext <;> simp [stretch, one_eq]

/-- Stretches along one unit vector multiply their factors. -/
theorem stretch_mul {n : Vec ℝ} (hn : n.dot n = 1) (g k : ℝ) :
    stretch n g * stretch n k = stretch n (g + k + g * k) := by
  have h : n.x * n.x + n.y * n.y + n.z * n.z = 1 := hn
  ext <;> simp only [mul_eq, through, stretch] <;> grind

theorem axisScale_eq (axis : Vec ℝ) (factor : ℝ) :
    axisScale axis factor = stretch axis.normalize (factor - 1) := by
  ext <;> simp [axisScale, stretch]

/-- Turning a vector moves it within its plane and keeps its part along the axis. -/
theorem carry_turn (n p : Vec ℝ) (c s : ℝ) :
    (turn n c s).carry p = p * c + n.cross p * s + n * (n.dot p * (1 - c)) := by
  ext <;> simp only [carry, turn, Row.linear, Vec.add_eq, Vec.mul_eq, Vec.cross, Vec.dot] <;> ring

/-- The rotation by the angle between two vectors around their cross product carries the direction
of the first one to that of the second. -/
theorem carry_turn_cross {u v : Vec ℝ} (hu : u ≠ 0) (hv : v ≠ 0) (hw : u.cross v ≠ 0) :
    (turn (u.cross v).normalize (u.dot v / (u.norm * v.norm))
      ((u.cross v).norm / (u.norm * v.norm))).carry u = v * (u.norm / v.norm) := by
  have hun := (Vec.norm_pos hu).ne'
  have hvn := (Vec.norm_pos hv).ne'
  have hwn := (Vec.norm_pos hw).ne'
  have hsq : u.x * u.x + u.y * u.y + u.z * u.z = u.norm * u.norm := u.norm_mul_self.symm
  have horthogonal : (u.cross v).normalize.dot u = 0 := by
    simp only [Vec.normalize_eq, Vec.cross, Vec.dot]
    ring
  rw [carry_turn, horthogonal, zero_mul, Vec.normalize_eq (u.cross v)]
  -- The length of the cross product cancels; its square is not needed.
  generalize (u.cross v).norm = w at hwn
  ext <;> simp only [Vec.add_eq, Vec.mul_eq, Vec.cross, Vec.dot] <;> field_simp
  · linear_combination w * v.x * hsq
  · linear_combination w * v.y * hsq
  · linear_combination w * v.z * hsq

end SolidScene.Mat
