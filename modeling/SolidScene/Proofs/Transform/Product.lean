import SolidScene.Proofs.Listwise
import SolidScene.Proofs.Matrix.Turn
import SolidScene.Transform.Matrix

/-!
# Matrices of composed transforms

Composition multiplies matrices, however the chains of its operands are put together. Rotations by
angles around several axes are products of turns around single ones; those by zero, which yaw,
pitch and roll leave out, make no difference.
-/
namespace SolidScene.Transform

theorem matrix_chain (ts : List (Transform ℝ)) : (chain ts).matrix = (ts.map matrix).prod := by
  have hmatrices : matrices ts = ts.map matrix := eq_map_of_cons rfl (fun _ _ => rfl) ts
  rw [matrix, hmatrices, Mat.product_eq, one_mul]

theorem prod_matrix_elements (t : Transform ℝ) : (t.elements.map matrix).prod = t.matrix := by
  cases t with
  | chain ts => exact (matrix_chain ts).symm
  | _ => exact List.prod_singleton

theorem matrix_mul (t u : Transform ℝ) : (t * u).matrix = t.matrix * u.matrix := by
  change (chain (t.elements ++ u.elements)).matrix = _
  rw [matrix_chain, List.map_append, List.prod_append, prod_matrix_elements, prod_matrix_elements]

theorem eulerMatrix_set_zero (a : Axis) (angle : ℝ) :
    eulerMatrix (Vec.set 0 a angle) = Mat.rotation a (Scalar.toRadians angle) := by
  cases a <;>
    simp [eulerMatrix, Vec.set, Vec.zero_eq, Scalar.toRadians_zero, Mat.rotation_zero]

/-- Yaw, pitch and roll have the matrix of the rotations that they are equivalent to. -/
theorem matrix_eulerSteps (yaw pitch roll : ℝ) :
    (chain ((eulerSteps yaw pitch roll).map rotateXyz)).matrix =
      (rotateYpr yaw pitch roll).matrix := by
  rw [matrix_chain, List.map_map, matrix, Mat.product_eq, one_mul]
  rfl

/-- Yaw, pitch and roll are turns around three axes, whichever of them are zero. -/
theorem matrix_rotateYpr (yaw pitch roll : ℝ) :
    (rotateYpr yaw pitch roll).matrix =
      Mat.rotation .z (Scalar.toRadians yaw) * Mat.rotation .x (Scalar.toRadians pitch) *
        Mat.rotation .y (Scalar.toRadians roll) := by
  have hlevel : ((if yaw != 0 || pitch != 0 then [⟨pitch, 0, yaw⟩] else []).map eulerMatrix).prod =
      Mat.rotation .z (Scalar.toRadians yaw) * Mat.rotation .x (Scalar.toRadians pitch) := by
    by_cases h : yaw = 0 ∧ pitch = 0
    · obtain ⟨rfl, rfl⟩ := h
      simp [Scalar.toRadians_zero, Mat.rotation_zero]
    · have hstep : (yaw != 0 || pitch != 0) = true := by simpa [or_iff_not_imp_left] using h
      simp [hstep, eulerMatrix, Scalar.toRadians_zero, Mat.rotation_zero]
  have hroll : ((if roll != 0 then [⟨0, roll, 0⟩] else []).map eulerMatrix).prod =
      Mat.rotation .y (Scalar.toRadians roll) := by
    by_cases h : roll = 0
    · simp [h, Scalar.toRadians_zero, Mat.rotation_zero]
    · simp [h, eulerMatrix, Scalar.toRadians_zero, Mat.rotation_zero]
  rw [matrix, Mat.product_eq, one_mul, eulerSteps, List.map_append, List.prod_append, hlevel, hroll]

end SolidScene.Transform
