import Mathlib.LinearAlgebra.Matrix.NonsingularInverse
import SolidScene.Proofs.Matrix.Affine
import SolidScene.Proofs.Vector.Axes

/-!
# Determinants

Exact matrices are square matrices of size four, so that one is invertible if its determinant is
not zero. The determinant of an affine matrix is that of its linear part, by which it multiplies
volumes: one for displacements and rotations, and the product of the factors for scales.
-/
namespace SolidScene.Mat

/-- The entries as a square matrix. -/
def homogeneous : Mat ℝ ≃* Matrix (Fin 4) (Fin 4) ℝ where
  toFun m := !![m.x.x, m.x.y, m.x.z, m.x.w; m.y.x, m.y.y, m.y.z, m.y.w;
    m.z.x, m.z.y, m.z.z, m.z.w; m.w.x, m.w.y, m.w.z, m.w.w]
  invFun a := ⟨⟨a 0 0, a 0 1, a 0 2, a 0 3⟩, ⟨a 1 0, a 1 1, a 1 2, a 1 3⟩,
    ⟨a 2 0, a 2 1, a 2 2, a 2 3⟩, ⟨a 3 0, a 3 1, a 3 2, a 3 3⟩⟩
  left_inv m := rfl
  right_inv a := by
    ext i j
    fin_cases i <;> fin_cases j <;> rfl
  map_mul' a b := by
    ext i j
    rw [Matrix.mul_apply, Fin.sum_univ_four]
    fin_cases i <;> fin_cases j <;> rfl

/-- The part of an affine matrix that acts on directions. -/
def linearPart (m : Mat ℝ) : Matrix (Fin 3) (Fin 3) ℝ :=
  !![m.x.x, m.x.y, m.x.z; m.y.x, m.y.y, m.y.z; m.z.x, m.z.y, m.z.z]

theorem det_linearPart (m : Mat ℝ) : m.linearPart.det =
    m.x.x * m.y.y * m.z.z - m.x.x * m.y.z * m.z.y - m.x.y * m.y.x * m.z.z +
      m.x.y * m.y.z * m.z.x + m.x.z * m.y.x * m.z.y - m.x.z * m.y.y * m.z.x :=
  Matrix.det_fin_three _

theorem IsAffine.det_homogeneous {m : Mat ℝ} (h : m.IsAffine) :
    (homogeneous m).det = m.linearPart.det := by
  have hw : m.w = ⟨0, 0, 0, 1⟩ := h
  have hbottom : homogeneous m 3 = ![0, 0, 0, 1] := by
    change ![m.w.x, m.w.y, m.w.z, m.w.w] = _
    rw [hw]
  have hminor : (homogeneous m).submatrix (Fin.succAbove 3) (Fin.succAbove 3) = m.linearPart := by
    ext i j
    fin_cases i <;> fin_cases j <;> rfl
  rw [Matrix.det_succ_row _ 3, Fin.sum_univ_four, hminor, hbottom]
  simp [Even.neg_one_pow (show Even 6 by decide)]

theorem IsAffine.isUnit_iff {m : Mat ℝ} (h : m.IsAffine) : IsUnit m ↔ m.linearPart.det ≠ 0 := by
  rw [← MulEquiv.isUnit_map homogeneous, Matrix.isUnit_iff_isUnit_det, isUnit_iff_ne_zero,
    h.det_homogeneous]

theorem det_linearPart_one : (1 : Mat ℝ).linearPart.det = 1 := by
  simp [det_linearPart, one_eq]

theorem det_linearPart_mul {a b : Mat ℝ} (ha : a.IsAffine) (hb : b.IsAffine) :
    (a * b).linearPart.det = a.linearPart.det * b.linearPart.det := by
  rw [← (ha.mul hb).det_homogeneous, map_mul, Matrix.det_mul, ha.det_homogeneous,
    hb.det_homogeneous]

theorem det_linearPart_prod {ms : List (Mat ℝ)} (h : ∀ m ∈ ms, m.IsAffine) :
    ms.prod.linearPart.det = (ms.map fun m => m.linearPart.det).prod := by
  induction ms with
  | nil => exact det_linearPart_one
  | cons m ms ih =>
    rw [List.forall_mem_cons] at h
    rw [List.prod_cons, det_linearPart_mul h.1 (isAffine_prod h.2), ih h.2, List.map_cons,
      List.prod_cons]

theorem det_displacement (v : Vec ℝ) : (displacement v).linearPart.det = 1 := by
  simp [det_linearPart, displacement, affine, Vec.unit, Vec.set, Vec.zero_eq]

theorem det_scaling (f : Vec ℝ) : (scaling f).linearPart.det = f.x * f.y * f.z := by
  simp [det_linearPart, scaling, affine, Vec.zero_eq]

section Turns

variable {n : Vec ℝ} (hn : n.dot n = 1)
include hn

/-- Along the axis and in the plane orthogonal to it, a turn keeps lengths. -/
theorem det_turn {c s : ℝ} (h : c * c + s * s = 1) : (turn n c s).linearPart.det = 1 := by
  have hproduct : (turn n c s).linearPart.det =
      (c + (1 - c) * n.dot n) * (c * c + s * s * n.dot n) := by
    rw [det_linearPart]
    simp only [turn, Vec.dot]
    ring
  rw [hproduct, hn, mul_one, mul_one, h]
  ring

theorem det_stretch (g : ℝ) : (stretch n g).linearPart.det = 1 + g := by
  have hsum : (stretch n g).linearPart.det = 1 + g * n.dot n := by
    rw [det_linearPart]
    simp only [stretch, Vec.dot]
    ring
  rw [hsum, hn, mul_one]

end Turns

theorem det_rotation (a : Axis) (radians : ℝ) : (rotation a radians).linearPart.det = 1 := by
  rw [rotation_eq_turn]
  exact det_turn (Vec.dot_unit_self a) (by rw [← sq, ← sq, Real.cos_sq_add_sin_sq])

theorem det_rotation_mul (a b c : Axis) (x y z : ℝ) :
    (rotation a x * rotation b y * rotation c z).linearPart.det = 1 := by
  have hinner := (isAffine_rotation a x).mul (isAffine_rotation b y)
  rw [det_linearPart_mul hinner (isAffine_rotation c z),
    det_linearPart_mul (isAffine_rotation a x) (isAffine_rotation b y)]
  simp only [det_rotation, mul_one]

theorem det_axisAngle {axis : Vec ℝ} (haxis : axis ≠ 0) (degrees : ℝ) :
    (axisAngle axis degrees).linearPart.det = 1 := by
  rw [axisAngle_eq]
  exact det_turn (Vec.dot_normalize_self haxis) (by rw [← sq, ← sq, Real.cos_sq_add_sin_sq])

theorem det_axisScale {axis : Vec ℝ} (haxis : axis ≠ 0) (factor : ℝ) :
    (axisScale axis factor).linearPart.det = factor := by
  rw [axisScale_eq, det_stretch (Vec.dot_normalize_self haxis), add_sub_cancel]

end SolidScene.Mat
