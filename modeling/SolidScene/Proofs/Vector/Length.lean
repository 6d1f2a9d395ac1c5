import Mathlib.Tactic.Linarith
import Mathlib.Tactic.LinearCombination
import SolidScene.Proofs.Scalar.Exact
import SolidScene.Vector

/-!
# Lengths and angles of exact vectors

Length, direction and cross product over the real numbers. The angle between two vectors comes from
the half-angle formula; its cosine and sine are those of the dot and the cross product, for every
pair of vectors that are not zero.
-/
namespace SolidScene.Vec

theorem zero_eq : (0 : Vec ℝ) = ⟨0, 0, 0⟩ := rfl

theorem add_eq (u v : Vec ℝ) : u + v = ⟨u.x + v.x, u.y + v.y, u.z + v.z⟩ := rfl

theorem sub_eq (u v : Vec ℝ) : u - v = ⟨u.x - v.x, u.y - v.y, u.z - v.z⟩ := rfl

theorem neg_eq (v : Vec ℝ) : -v = ⟨-v.x, -v.y, -v.z⟩ := rfl

theorem mul_eq (v : Vec ℝ) (c : ℝ) : v * c = ⟨v.x * c, v.y * c, v.z * c⟩ := rfl

theorem normalize_eq (v : Vec ℝ) : v.normalize = ⟨v.x / v.norm, v.y / v.norm, v.z / v.norm⟩ := rfl

theorem beq_iff {u v : Vec ℝ} : (u == v) = true ↔ u = v := by
  change (u.x == v.x && u.y == v.y && u.z == v.z) = true ↔ _
  simp [Vec.ext_iff, and_assoc]

theorem bne_iff {u v : Vec ℝ} : (u != v) = true ↔ u ≠ v := by
  rw [bne, Bool.not_eq_true', ← Bool.not_eq_true, beq_iff]

theorem isZero_iff {v : Vec ℝ} : v.isZero = true ↔ v = 0 := by
  rw [Vec.ext_iff]
  simp [isZero, zero_eq, and_assoc]

theorem isZero_eq_false {v : Vec ℝ} : v.isZero = false ↔ v ≠ 0 := by
  rw [← Bool.not_eq_true, isZero_iff]

theorem dot_self_nonneg (v : Vec ℝ) : 0 ≤ v.dot v :=
  add_nonneg (add_nonneg (mul_self_nonneg _) (mul_self_nonneg _)) (mul_self_nonneg _)

theorem dot_self_pos {v : Vec ℝ} (h : v ≠ 0) : 0 < v.dot v := by
  refine lt_of_le_of_ne v.dot_self_nonneg fun hzero => h ?_
  have hsum : v.x * v.x + v.y * v.y + v.z * v.z = 0 := hzero.symm
  have hx := mul_self_nonneg v.x
  have hy := mul_self_nonneg v.y
  have hz := mul_self_nonneg v.z
  ext
  · exact mul_self_eq_zero.mp (by linarith)
  · exact mul_self_eq_zero.mp (by linarith)
  · exact mul_self_eq_zero.mp (by linarith)

theorem zero_le_norm (v : Vec ℝ) : 0 ≤ v.norm := Real.sqrt_nonneg _

theorem norm_mul_self (v : Vec ℝ) : v.norm * v.norm = v.dot v :=
  Real.mul_self_sqrt v.dot_self_nonneg

theorem norm_pos {v : Vec ℝ} (h : v ≠ 0) : 0 < v.norm := Real.sqrt_pos.mpr (dot_self_pos h)

/-- A length is known by its square. -/
theorem norm_eq {v : Vec ℝ} {a : ℝ} (ha : 0 ≤ a) (h : v.dot v = a * a) : v.norm = a := by
  change Real.sqrt (v.dot v) = a
  rw [h, Real.sqrt_mul_self ha]

theorem dot_normalize (v : Vec ℝ) : v.normalize.dot v = v.norm := by
  have hdiv : v.normalize.dot v = v.dot v / v.norm := by
    simp only [normalize_eq, dot]
    ring
  rw [hdiv, ← norm_mul_self, mul_self_div_self]

theorem dot_normalize_self {v : Vec ℝ} (h : v ≠ 0) : v.normalize.dot v.normalize = 1 := by
  have hdiv : v.normalize.dot v.normalize = v.normalize.dot v / v.norm := by
    simp only [normalize_eq, dot]
    ring
  rw [hdiv, dot_normalize, div_self (norm_pos h).ne']

theorem norm_normalize {v : Vec ℝ} (h : v ≠ 0) : v.normalize.norm = 1 :=
  norm_eq zero_le_one (by rw [dot_normalize_self h, one_mul])

theorem normalize_mul_norm {v : Vec ℝ} (h : v ≠ 0) : v.normalize * v.norm = v := by
  ext <;> exact div_mul_cancel₀ _ (norm_pos h).ne'

theorem normalize_eq_self {v : Vec ℝ} (h : v.dot v = 1) : v.normalize = v := by
  have hnorm : v.norm = 1 := norm_eq zero_le_one (by rw [h, one_mul])
  simp only [normalize_eq, hnorm, div_one]

theorem norm_neg (v : Vec ℝ) : (-v).norm = v.norm := by
  have hdot : (-v).dot (-v) = v.dot v := by
    simp only [neg_eq, dot]
    ring
  rw [norm_eq v.zero_le_norm (by rw [hdot, norm_mul_self])]

theorem normalize_neg (v : Vec ℝ) : (-v).normalize = -v.normalize := by
  rw [normalize_eq, norm_neg, normalize_eq]
  simp only [neg_eq, neg_div]

theorem normalize_normalize (v : Vec ℝ) : v.normalize.normalize = v.normalize := by
  by_cases h : v = 0
  · rw [h]
    simp [normalize_eq, zero_eq]
  · exact normalize_eq_self (dot_normalize_self h)

theorem norm_zero : (0 : Vec ℝ).norm = 0 := norm_eq le_rfl (by simp [zero_eq, dot])

theorem ne_zero_of_dot_self {v : Vec ℝ} (h : v.dot v = 1) : v ≠ 0 := by
  rintro rfl
  simp [zero_eq, dot] at h

theorem normalize_ne_zero {v : Vec ℝ} (h : v ≠ 0) : v.normalize ≠ 0 :=
  ne_zero_of_dot_self (dot_normalize_self h)

theorem neg_ne_zero {v : Vec ℝ} (h : v ≠ 0) : -v ≠ 0 := by
  intro hneg
  have hnorm := norm_pos h
  rw [← norm_neg, hneg] at hnorm
  exact hnorm.ne' norm_zero

theorem dot_comm (u v : Vec ℝ) : u.dot v = v.dot u := by
  simp only [dot]
  ring

theorem cross_neg_comm (u v : Vec ℝ) : v.cross u = -(u.cross v) := by
  ext <;> simp only [cross, neg_eq] <;> ring

/-- The squared length of a cross product. -/
theorem dot_cross_self (u v : Vec ℝ) :
    (u.cross v).dot (u.cross v) = u.dot u * v.dot v - u.dot v * u.dot v := by
  simp only [dot, cross]
  ring

section Angle

variable {u v : Vec ℝ}

private theorem dot_combination (u v : Vec ℝ) (a b : ℝ) :
    (u * a + v * b).dot (u * a + v * b) =
      u.dot u * (a * a) + 2 * (u.dot v * (a * b)) + v.dot v * (b * b) := by
  simp only [add_eq, mul_eq, dot]
  ring

private theorem dot_sum (u v : Vec ℝ) :
    (u * v.norm + v * u.norm).dot (u * v.norm + v * u.norm) =
      2 * (u.norm * v.norm) * (u.norm * v.norm + u.dot v) := by
  rw [dot_combination, ← u.norm_mul_self, ← v.norm_mul_self]
  ring

private theorem dot_difference (u v : Vec ℝ) :
    (u * v.norm - v * u.norm).dot (u * v.norm - v * u.norm) =
      2 * (u.norm * v.norm) * (u.norm * v.norm - u.dot v) := by
  have hsub : u * v.norm - v * u.norm = u * v.norm + v * -u.norm := by
    simp only [sub_eq, add_eq, mul_eq, mul_neg, sub_eq_add_neg]
  rw [hsub, dot_combination, ← u.norm_mul_self, ← v.norm_mul_self]
  ring

/-- The point whose angle is half of the angle between two vectors. -/
noncomputable def halfAngle (u v : Vec ℝ) : ℂ :=
  ⟨(u * v.norm + v * u.norm).norm, (u * v.norm - v * u.norm).norm⟩

theorem toRadians_angleTo (u v : Vec ℝ) :
    Scalar.toRadians (u.angleTo v) = 2 * (halfAngle u v).arg := by
  rw [angleTo, Scalar.toRadians_toDegrees]
  change (1 + 1 : ℝ) * _ = _
  rw [one_add_one_eq_two]
  rfl

theorem norm_halfAngle (u v : Vec ℝ) : ‖halfAngle u v‖ = 2 * (u.norm * v.norm) := by
  have hnonneg : 0 ≤ 2 * (u.norm * v.norm) :=
    mul_nonneg zero_le_two (mul_nonneg u.zero_le_norm v.zero_le_norm)
  have hsq : ‖halfAngle u v‖ ^ 2 = (2 * (u.norm * v.norm)) ^ 2 := by
    rw [← Complex.normSq_eq_norm_sq, halfAngle, Complex.normSq_mk, norm_mul_self, norm_mul_self,
      dot_sum, dot_difference]
    ring
  exact (sq_eq_sq₀ (norm_nonneg _) hnonneg).mp hsq

/-- The product of the coordinates of the half angle, by Lagrange's identity. -/
theorem im_mul_re_halfAngle (u v : Vec ℝ) :
    (halfAngle u v).im * (halfAngle u v).re = 2 * (u.norm * v.norm) * (u.cross v).norm := by
  have hleft : 0 ≤ (halfAngle u v).im * (halfAngle u v).re :=
    mul_nonneg (zero_le_norm _) (zero_le_norm _)
  have hright : 0 ≤ 2 * (u.norm * v.norm) * (u.cross v).norm :=
    mul_nonneg (mul_nonneg zero_le_two (mul_nonneg u.zero_le_norm v.zero_le_norm)) (zero_le_norm _)
  refine (sq_eq_sq₀ hleft hright).mp ?_
  have hcross := (u.cross v).norm_mul_self
  rw [dot_cross_self, ← u.norm_mul_self, ← v.norm_mul_self] at hcross
  have him := (u * v.norm - v * u.norm).norm_mul_self.trans (dot_difference u v)
  have hre := (u * v.norm + v * u.norm).norm_mul_self.trans (dot_sum u v)
  change (_ * _) ^ 2 = _
  calc ((u * v.norm - v * u.norm).norm * (u * v.norm + v * u.norm).norm) ^ 2
      = ((u * v.norm - v * u.norm).norm * (u * v.norm - v * u.norm).norm) *
          ((u * v.norm + v * u.norm).norm * (u * v.norm + v * u.norm).norm) := by ring
    _ = (2 * (u.norm * v.norm)) ^ 2 *
          (u.norm * u.norm * (v.norm * v.norm) - u.dot v * u.dot v) := by rw [him, hre]; ring
    _ = (2 * (u.norm * v.norm) * (u.cross v).norm) ^ 2 := by rw [← hcross]; ring

variable (hu : u ≠ 0) (hv : v ≠ 0)
include hu hv

theorem cos_angleTo :
    Real.cos (Scalar.toRadians (u.angleTo v)) = u.dot v / (u.norm * v.norm) := by
  have hpos : 0 < u.norm * v.norm := mul_pos (norm_pos hu) (norm_pos hv)
  have hne : halfAngle u v ≠ 0 := by
    rw [← norm_pos_iff, norm_halfAngle]
    exact mul_pos two_pos hpos
  have hre : (halfAngle u v).re * (halfAngle u v).re = _ :=
    (u * v.norm + v * u.norm).norm_mul_self.trans (dot_sum u v)
  have hun := (norm_pos hu).ne'
  have hvn := (norm_pos hv).ne'
  rw [toRadians_angleTo, Real.cos_two_mul, Complex.cos_arg hne, norm_halfAngle]
  field_simp
  linear_combination hre

theorem sin_angleTo :
    Real.sin (Scalar.toRadians (u.angleTo v)) = (u.cross v).norm / (u.norm * v.norm) := by
  have hpos : 0 < u.norm * v.norm := mul_pos (norm_pos hu) (norm_pos hv)
  have hne : halfAngle u v ≠ 0 := by
    rw [← norm_pos_iff, norm_halfAngle]
    exact mul_pos two_pos hpos
  have hun := (norm_pos hu).ne'
  have hvn := (norm_pos hv).ne'
  rw [toRadians_angleTo, Real.sin_two_mul, Complex.cos_arg hne, Complex.sin_arg, norm_halfAngle]
  field_simp
  linear_combination im_mul_re_halfAngle u v

end Angle

end SolidScene.Vec
