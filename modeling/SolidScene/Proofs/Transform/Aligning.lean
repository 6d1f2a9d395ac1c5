import SolidScene.Proofs.Matrix.Rigid
import SolidScene.Proofs.Transform.Opposite
import SolidScene.Proofs.Vector.Angle

/-!
# Rotations that align directions

A rotation between directions is a proper rotation in each of its three branches: nothing for
directions that count as the same, half a turn around a normal for opposite ones, and otherwise a
turn by the angle between them around their cross product. It carries the first direction to the
second one and keeps their cross product in place, except between directions that are parallel by
the tolerance only, where it can but come close.
-/
namespace SolidScene

namespace Vec

theorem dot_normal_self {u : Vec ℝ} (hu : u ≠ 0) : u.normal.dot u = 0 := by
  obtain ⟨a, ha⟩ := exists_firstNonzero hu
  rw [normal_eq ha]
  cases a <;> simp only [set, get, Axis.next, zero_eq, dot] <;> ring

theorem dot_normalize_normal_self {u : Vec ℝ} (hu : u ≠ 0) : u.normal.normalize.dot u = 0 := by
  have hdiv : u.normal.normalize.dot u = u.normal.dot u / u.normal.norm := by
    simp only [normalize_eq, dot]
    ring
  rw [hdiv, dot_normal_self hu, zero_div]

theorem cross_mul_self (u : Vec ℝ) (k : ℝ) : u.cross (u * k) = 0 := by
  rw [cross_eq_zero]
  simp only [mul_eq]
  exact ⟨by ring, by ring, by ring⟩

theorem collinear_mul_self (u : Vec ℝ) (k : ℝ) : u.collinear (u * k) = true := by
  cases h : u.collinear (u * k) with
  | true => rfl
  | false => exact absurd (cross_mul_self u k) (cross_ne_zero h)

theorem norm_mul (u : Vec ℝ) (k : ℝ) : (u * k).norm = u.norm * |k| := by
  have hdot : (u * k).dot (u * k) = u.dot u * (k * k) := by
    simp only [mul_eq, dot]
    ring
  refine norm_eq (mul_nonneg u.zero_le_norm (abs_nonneg k)) ?_
  rw [hdot, ← norm_mul_self, ← abs_mul_abs_self k]
  ring

end Vec

namespace Mat

theorem carry_one (v : Vec ℝ) : (1 : Mat ℝ).carry v = v := by
  ext <;> simp [carry, Row.linear, one_eq]

/-- A turn keeps its axis in place. -/
theorem carry_axisAngle_self (axis : Vec ℝ) (degrees : ℝ) :
    (axisAngle axis degrees).carry axis = axis := by
  by_cases haxis : axis = 0
  · rw [haxis]
    ext <;> simp [carry, Row.linear, Vec.zero_eq]
  · have hnorm := (Vec.norm_pos haxis).ne'
    rw [axisAngle_eq, carry_turn, Vec.dot_normalize, Vec.normalize_eq]
    ext <;> simp only [Vec.add_eq, Vec.mul_eq, Vec.cross] <;> field_simp <;> ring

/-- Half a turn takes what is orthogonal to its axis to the opposite. -/
theorem carry_halfTurn {n p : Vec ℝ} (h : n.dot p = 0) : (halfTurn n).carry p = -p := by
  rw [halfTurn, carry_turn, h]
  ext <;> simp only [Vec.add_eq, Vec.mul_eq, Vec.neg_eq] <;> ring

end Mat

namespace Transform

theorem isRigid_betweenMatrix {u : Vec ℝ} (hu : u ≠ 0) (v : Vec ℝ) :
    (betweenMatrix u v).IsRigid := by
  unfold betweenMatrix
  split
  · next h => exact Mat.isRigid_axisAngle (axis_ne_zero_of_between hu h) _
  · exact Mat.isRigid_one

/-- What a rotation between two directions is to do. -/
structure Aligns (m : Mat ℝ) (u v : Vec ℝ) : Prop where
  carry : m.carry u = v * (u.norm / v.norm)
  cross : m.carry (u.cross v) = u.cross v

theorem aligns_of_not_collinear {u v : Vec ℝ} (h : u.collinear v = false) (hu : u ≠ 0)
    (hv : v ≠ 0) : Aligns (betweenMatrix u v) u v := by
  refine ⟨betweenMatrix_carry h hu hv, ?_⟩
  rw [betweenMatrix_eq_axisAngle h]
  exact Mat.carry_axisAngle_self _ _

theorem aligns_parallel {u : Vec ℝ} (hu : u ≠ 0) {k : ℝ} (hk : k ≠ 0) :
    Aligns (betweenMatrix u (u * k)) u (u * k) := by
  have hnorm := (Vec.norm_pos hu).ne'
  have hdot : u.dot (u * k) = u.dot u * k := by
    simp only [Vec.mul_eq, Vec.dot]
    ring
  have hcross : (betweenMatrix u (u * k)).carry 0 = 0 := by
    ext <;> simp [Mat.carry, Row.linear, Vec.zero_eq]
  refine ⟨?_, by rw [Vec.cross_mul_self, hcross]⟩
  rcases betweenAxis?_cases (Vec.collinear_mul_self u k) with ⟨hsame, hnone, -⟩ | ⟨hback, hhalf, -⟩
  · rw [hdot] at hsame
    have hpos : 0 < k := pos_of_mul_pos_right hsame u.dot_self_nonneg
    rw [betweenMatrix_of_none hnone, Mat.carry_one, Vec.norm_mul, abs_of_pos hpos]
    ext <;> simp only [Vec.mul_eq] <;> field_simp
  · rw [hdot, not_lt] at hback
    have hneg : k < 0 :=
      lt_of_le_of_ne (nonpos_of_mul_nonpos_right hback (Vec.dot_self_pos hu)) hk
    rw [betweenMatrix_of_halfTurn hhalf, Mat.carry_halfTurn (Vec.dot_normalize_normal_self hu),
      Vec.norm_mul, abs_of_neg hneg]
    ext <;> simp only [Vec.mul_eq, Vec.neg_eq] <;> field_simp

/-- A rotation between directions is a proper rotation in every branch. Between directions that are
not collinear, or that are multiples of each other, it carries one to the other and fixes their
cross product. The angle that it turns by comes out as the angle between the directions. -/
theorem rotates_onto {u v : Vec ℝ} (hu : u ≠ 0) (hv : v ≠ 0) (anyAxis : Bool) :
    (rotateFromTo u v anyAxis).matrix.linearPart.transpose *
        (rotateFromTo u v anyAxis).matrix.linearPart = 1 ∧
      (rotateFromTo u v anyAxis).matrix.linearPart.det = 1 ∧
      ((∃ k : ℝ, v = u * k) ∨ u.collinear v = false →
        Aligns (rotateFromTo u v anyAxis).matrix u v) ∧
      (u.collinear v = false → betweenAxis? u v = some (u.cross v, u.angleTo v)) ∧
      Scalar.toRadians (u.angleTo v) = InnerProductGeometry.angle u.euclidean v.euclidean := by
  have hrigid : (rotateFromTo u v anyAxis).matrix.IsRigid := isRigid_betweenMatrix hu v
  refine ⟨hrigid.transpose_mul_self, hrigid.det_eq_one, ?_, fun h => ?_,
    Vec.toRadians_angleTo_eq_angle hu hv⟩
  · rintro (⟨k, rfl⟩ | h)
    · refine aligns_parallel hu fun hk => hv ?_
      rw [hk]
      ext <;> simp [Vec.mul_eq, Vec.zero_eq]
    · exact aligns_of_not_collinear h hu hv
  · rw [betweenAxis?, if_neg (by rw [h]; exact Bool.false_ne_true)]

/-- From `X` obliquely upwards, and from there to the exact opposite. -/
theorem rotates_onto_oblique :
    Vec.unit .x ≠ (0 : Vec ℝ) ∧ (⟨1, 2, 2⟩ : Vec ℝ) ≠ 0 ∧
      (Vec.unit .x : Vec ℝ).collinear ⟨1, 2, 2⟩ = false ∧
      Aligns (rotateFromTo (Vec.unit .x : Vec ℝ) ⟨1, 2, 2⟩ false).matrix (Vec.unit .x) ⟨1, 2, 2⟩ ∧
      (⟨1, 2, 2⟩ : Vec ℝ) * (-2 : ℝ) ≠ 0 ∧
      Aligns (rotateFromTo (⟨1, 2, 2⟩ : Vec ℝ) ((⟨1, 2, 2⟩ : Vec ℝ) * (-2 : ℝ)) true).matrix
        ⟨1, 2, 2⟩ ((⟨1, 2, 2⟩ : Vec ℝ) * (-2 : ℝ)) := by
  have hx : Vec.unit .x ≠ (0 : Vec ℝ) := Vec.ne_zero_of_dot_self (Vec.dot_unit_self .x)
  have hoblique : (⟨1, 2, 2⟩ : Vec ℝ) ≠ 0 := by simp [Vec.zero_eq]
  have hback : (⟨1, 2, 2⟩ : Vec ℝ) * (-2 : ℝ) ≠ 0 := by simp [Vec.mul_eq, Vec.zero_eq]
  have hapart : (Vec.unit .x : Vec ℝ).collinear ⟨1, 2, 2⟩ = false := by
    rw [← Bool.not_eq_true, Vec.collinear_iff]
    simp only [Vec.unit, Vec.set, Vec.zero_eq, Vec.cross, Vec.dot]
    norm_num
  exact ⟨hx, hoblique, hapart, (rotates_onto hx hoblique false).2.2.1 (.inr hapart), hback,
    (rotates_onto hoblique hback true).2.2.1 (.inl ⟨-2, rfl⟩)⟩

end Transform

end SolidScene
