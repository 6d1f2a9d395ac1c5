import Mathlib.Analysis.InnerProductSpace.PiL2
import Mathlib.Geometry.Euclidean.Angle.Unoriented.Basic
import SolidScene.Proofs.Vector.Length

/-!
# The angle between exact vectors

The half-angle formula gives the angle between two vectors that are not zero, as Euclidean geometry
defines it: the arc cosine of their dot product over the product of their lengths. It lies between
nothing and half a turn because both coordinates of the half angle are lengths.
-/
namespace SolidScene.Vec

/-- The vector as one of Euclidean space. -/
noncomputable def euclidean (v : Vec ℝ) : EuclideanSpace ℝ (Fin 3) :=
  WithLp.toLp _ ![v.x, v.y, v.z]

theorem inner_euclidean (u v : Vec ℝ) : inner ℝ u.euclidean v.euclidean = u.dot v := by
  rw [PiLp.inner_apply, Fin.sum_univ_three]
  simp [euclidean, dot, mul_comm]

theorem norm_euclidean (v : Vec ℝ) : ‖v.euclidean‖ = v.norm := by
  rw [← Real.sqrt_mul_self (norm_nonneg _), ← real_inner_self_eq_norm_mul_norm, inner_euclidean]
  rfl

theorem halfAngle_mem_quadrant (u v : Vec ℝ) :
    0 ≤ (halfAngle u v).arg ∧ (halfAngle u v).arg ≤ Real.pi / 2 :=
  ⟨Complex.arg_nonneg_iff.mpr (zero_le_norm _),
    Complex.arg_le_pi_div_two_iff.mpr (.inl (zero_le_norm _))⟩

/-- The formula that rotations take their angle from gives the angle between the vectors. -/
theorem toRadians_angleTo_eq_angle {u v : Vec ℝ} (hu : u ≠ 0) (hv : v ≠ 0) :
    Scalar.toRadians (u.angleTo v) = InnerProductGeometry.angle u.euclidean v.euclidean := by
  obtain ⟨hnonneg, hle⟩ := halfAngle_mem_quadrant u v
  have hlow : 0 ≤ Scalar.toRadians (u.angleTo v) := by
    rw [toRadians_angleTo]
    linarith
  have hhigh : Scalar.toRadians (u.angleTo v) ≤ Real.pi := by
    rw [toRadians_angleTo]
    linarith
  rw [← Real.arccos_cos hlow hhigh, cos_angleTo hu hv, InnerProductGeometry.angle,
    inner_euclidean, norm_euclidean, norm_euclidean]

end SolidScene.Vec
