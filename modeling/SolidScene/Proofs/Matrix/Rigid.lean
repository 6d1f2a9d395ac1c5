import Mathlib.LinearAlgebra.UnitaryGroup
import SolidScene.Proofs.Matrix.Determinant

/-!
# Rigid matrices

An affine matrix whose linear part is a rotation: orthogonal, with determinant one. Displacements
and turns are of this kind, and so are their products. Such a matrix moves space as a rigid body: it
keeps the distance between any two points, and the cross product of any two directions.
-/
namespace SolidScene

namespace Vec

/-- The components by their numbers. -/
def coordinates (v : Vec ℝ) : Fin 3 → ℝ := ![v.x, v.y, v.z]

theorem coordinates_injective : Function.Injective coordinates := fun _ _ h =>
  Vec.ext (congrFun h 0) (congrFun h 1) (congrFun h 2)

theorem dotProduct_coordinates (u v : Vec ℝ) : u.coordinates ⬝ᵥ v.coordinates = u.dot v := by
  rw [dotProduct, Fin.sum_univ_three]
  rfl

end Vec

namespace Mat

theorem coordinates_carry (m : Mat ℝ) (v : Vec ℝ) :
    (m.carry v).coordinates = m.linearPart.mulVec v.coordinates := by
  ext i
  rw [Matrix.mulVec, dotProduct, Fin.sum_univ_three]
  fin_cases i <;> rfl

/-- The cross product of images is the image under the cofactors. -/
theorem coordinates_cross_carry (m : Mat ℝ) (u v : Vec ℝ) :
    ((m.carry u).cross (m.carry v)).coordinates =
      m.linearPart.adjugate.transpose.mulVec (u.cross v).coordinates := by
  ext i
  rw [Matrix.mulVec, dotProduct, Fin.sum_univ_three, linearPart, Matrix.adjugate_fin_three_of]
  fin_cases i <;>
    simp [Vec.coordinates, Vec.cross, carry, Row.linear] <;> ring

/-- An affine matrix that neither stretches space nor reflects it. -/
structure IsRigid (m : Mat ℝ) : Prop where
  affine : m.IsAffine
  rotates : m.linearPart ∈ Matrix.specialOrthogonalGroup (Fin 3) ℝ

theorem linearPart_one : (1 : Mat ℝ).linearPart = 1 := by
  ext i j
  fin_cases i <;> fin_cases j <;> rfl

theorem linearPart_transpose (m : Mat ℝ) : m.transpose.linearPart = m.linearPart.transpose := by
  ext i j
  fin_cases i <;> fin_cases j <;> rfl

theorem linearPart_mul (a : Mat ℝ) {b : Mat ℝ} (hb : b.IsAffine) :
    (a * b).linearPart = a.linearPart * b.linearPart := by
  have hw : b.w = ⟨0, 0, 0, 1⟩ := hb
  ext i j
  rw [Matrix.mul_apply, Fin.sum_univ_three]
  fin_cases i <;> fin_cases j <;> simp [linearPart, mul_eq, through, hw]

theorem isRigid_one : IsRigid 1 := ⟨isAffine_one, by rw [linearPart_one]; exact one_mem _⟩

theorem IsRigid.mul {a b : Mat ℝ} (ha : a.IsRigid) (hb : b.IsRigid) : (a * b).IsRigid := by
  refine ⟨ha.affine.mul hb.affine, ?_⟩
  rw [linearPart_mul a hb.affine]
  exact mul_mem ha.rotates hb.rotates

theorem isRigid_prod {ms : List (Mat ℝ)} (h : ∀ m ∈ ms, m.IsRigid) : ms.prod.IsRigid := by
  induction ms with
  | nil => exact isRigid_one
  | cons m ms ih =>
    rw [List.forall_mem_cons] at h
    rw [List.prod_cons]
    exact h.1.mul (ih h.2)

theorem isRigid_displacement (v : Vec ℝ) : (displacement v).IsRigid := by
  have hlinear : (displacement v).linearPart = 1 := by
    ext i j
    fin_cases i <;> fin_cases j <;> rfl
  exact ⟨rfl, by rw [hlinear]; exact one_mem _⟩

theorem isRigid_turn {n : Vec ℝ} (hn : n.dot n = 1) {c s : ℝ} (h : c * c + s * s = 1) :
    (turn n c s).IsRigid := by
  have haffine : (turn n c s).transpose.IsAffine := by
    rw [transpose_turn]
    rfl
  refine ⟨rfl, Matrix.mem_specialOrthogonalGroup_iff.mpr
    ⟨(Matrix.mem_orthogonalGroup_iff _ _).mpr ?_, det_turn hn h⟩⟩
  rw [← linearPart_transpose, ← linearPart_mul _ haffine, turn_mul_transpose hn h, linearPart_one]

theorem isRigid_rotation (a : Axis) (radians : ℝ) : (rotation a radians).IsRigid := by
  rw [rotation_eq_turn]
  exact isRigid_turn (Vec.dot_unit_self a) (by rw [← sq, ← sq, Real.cos_sq_add_sin_sq])

theorem isRigid_axisAngle {axis : Vec ℝ} (haxis : axis ≠ 0) (degrees : ℝ) :
    (axisAngle axis degrees).IsRigid := by
  rw [axisAngle_eq]
  exact isRigid_turn (Vec.dot_normalize_self haxis) (by rw [← sq, ← sq, Real.cos_sq_add_sin_sq])

theorem IsAffine.apply_sub_apply {m : Mat ℝ} (h : m.IsAffine) (p q : Vec ℝ) :
    m.apply p - m.apply q = m.carry (p - q) := by
  rw [h.apply_eq, h.apply_eq]
  ext <;> simp only [Vec.sub_eq, carry, Row.linear] <;> ring

namespace IsRigid

variable {m : Mat ℝ} (h : m.IsRigid)
include h

theorem det_eq_one : m.linearPart.det = 1 := (Matrix.mem_specialOrthogonalGroup_iff.mp h.rotates).2

theorem transpose_mul_self : m.linearPart.transpose * m.linearPart = 1 :=
  (Matrix.mem_orthogonalGroup_iff' _ _).mp (Matrix.mem_specialOrthogonalGroup_iff.mp h.rotates).1

/-- The cofactors of a rotation are its entries. -/
theorem adjugate_eq : m.linearPart.adjugate = m.linearPart.transpose := by
  calc m.linearPart.adjugate
      = m.linearPart.transpose * m.linearPart * m.linearPart.adjugate := by
        rw [h.transpose_mul_self, one_mul]
    _ = m.linearPart.transpose := by
        rw [mul_assoc, Matrix.mul_adjugate, h.det_eq_one, one_smul, mul_one]

theorem dot_carry (u v : Vec ℝ) : (m.carry u).dot (m.carry v) = u.dot v := by
  rw [← Vec.dotProduct_coordinates, coordinates_carry, coordinates_carry, Matrix.dotProduct_mulVec,
    Matrix.vecMul_mulVec, h.transpose_mul_self, Matrix.vecMul_one, Vec.dotProduct_coordinates]

theorem carry_cross (u v : Vec ℝ) : m.carry (u.cross v) = (m.carry u).cross (m.carry v) := by
  apply Vec.coordinates_injective
  rw [coordinates_cross_carry, h.adjugate_eq, Matrix.transpose_transpose, coordinates_carry]

theorem norm_apply_sub (p q : Vec ℝ) : (m.apply p - m.apply q).norm = (p - q).norm := by
  rw [h.affine.apply_sub_apply]
  exact Vec.norm_eq (p - q).zero_le_norm (by rw [h.dot_carry, Vec.norm_mul_self])

end IsRigid

end Mat

end SolidScene
