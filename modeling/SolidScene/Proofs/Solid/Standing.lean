import SolidScene.Proofs.Matrix.Conjugate
import SolidScene.Proofs.Solid.Nesting
import SolidScene.Proofs.Transform.Aligning
import SolidScene.Proofs.Transform.Rendering

/-!
# Frusta stand between their end points

A frustum is written as a cylinder on the origin, turned into its direction and moved to its base,
where either call is left out if it would do nothing. In exact arithmetic the calls move the
cylinder rigidly, and its ends come to lie at the end points of the frustum, so that each radius is
at its own end. Directions that are along `Z` by the tolerance only are left out here: for them the
cylinder is not turned at all, or just upside down.
-/
namespace SolidScene

open Scad (Node)
open Scad.Node (draws_self)
open Transform (nest)

namespace Scad.Node

/-- The calls that stand for a round solid on the origin along `Z`, with its height and the radii at
the bottom and at the top. A solid that tapers names both radii. -/
inductive Round (height bottom : ℝ) : ℝ → Node ℝ → Prop where
  | straight : Round height bottom bottom
    ⟨some "cylinder", [.number height], [("r", .number bottom)], [], none⟩
  | tapered {top : ℝ} (h : bottom ≠ top) : Round height bottom top
    ⟨some "cylinder", [.number height], [("r1", .number bottom), ("r2", .number top)], [], none⟩

end Scad.Node

theorem round_standingFrustum (height bottom top : ℝ) :
    (standingFrustum height bottom top).Round height bottom top := by
  unfold standingFrustum
  split
  · next h =>
    obtain rfl := beq_iff_eq.mp h
    exact .straight
  · next h => exact .tapered fun heq => h (beq_iff_eq.mpr heq)

namespace Vec

/-- The vector lies along the `Z` axis, up or down or nowhere, or clearly off it. -/
def UprightExact (v : Vec ℝ) : Prop :=
  (∃ k : ℝ, v = (unit .z : Vec ℝ) * k) ∨ v.collinear (unit .z) = false

/-- The point lies on the circle around an axis with the given centre and radius. -/
def OnRim (center axis : Vec ℝ) (radius : ℝ) (p : Vec ℝ) : Prop :=
  (p - center).norm = radius ∧ (p - center).dot axis = 0

end Vec

namespace Mat

theorem apply_displacement (v p : Vec ℝ) : (displacement v).apply p = p + v := by
  have haffine : (displacement v).IsAffine := rfl
  rw [haffine.apply_eq]
  ext <;> simp [displacement, affine, Row.linear, Vec.unit, Vec.set, Vec.zero_eq, Vec.add_eq]

/-- A rigid motion that brings a segment from the origin up the `Z` axis between two points. -/
structure StandsBetween (m : Mat ℝ) (base cap : Vec ℝ) : Prop where
  rigid : m.IsRigid
  bottom : m.apply 0 = base
  top : m.apply ⟨0, 0, (cap - base).norm⟩ = cap

namespace StandsBetween

variable {m : Mat ℝ} {base cap : Vec ℝ} (h : m.StandsBetween base cap)
include h

/-- A circle around the `Z` axis comes to lie around the segment. -/
theorem onRim (x y height : ℝ) :
    Vec.OnRim (m.apply ⟨0, 0, height⟩) (cap - base) (Real.sqrt (x * x + y * y))
      (m.apply ⟨x, y, height⟩) := by
  have haxis : cap - base = m.carry (⟨0, 0, (cap - base).norm⟩ - 0) := by
    rw [← h.rigid.affine.apply_sub_apply, h.bottom, h.top]
  constructor
  · rw [h.rigid.norm_apply_sub]
    refine Vec.norm_eq (Real.sqrt_nonneg _) ?_
    rw [Real.mul_self_sqrt (add_nonneg (mul_self_nonneg x) (mul_self_nonneg y))]
    simp [Vec.sub_eq, Vec.dot]
  · rw [haxis, h.rigid.affine.apply_sub_apply, h.rigid.dot_carry]
    simp [Vec.sub_eq, Vec.zero_eq, Vec.dot]

end StandsBetween

end Mat

namespace Transform

/-- The rotation from `Z` into a direction. It does nothing if the direction is nowhere. -/
noncomputable def uprightMatrix (v : Vec ℝ) : Mat ℝ :=
  if 0 < v.norm then betweenMatrix (Vec.unit .z) v.normalize else 1

theorem uprightMatrix_zero : uprightMatrix 0 = 1 :=
  if_neg (by rw [Vec.norm_zero]; exact lt_irrefl 0)

theorem uprightMatrix_of_ne_zero {v : Vec ℝ} (h : v ≠ 0) :
    uprightMatrix v = betweenMatrix (Vec.unit .z) v.normalize := if_pos (Vec.norm_pos h)

theorem betweenMatrix_unit_self (a : Axis) :
    betweenMatrix (Vec.unit a : Vec ℝ) (Vec.unit a) = 1 := by
  have hcollinear : (Vec.unit a : Vec ℝ).collinear (Vec.unit a) = true :=
    (Vec.collinear_set_zero a a one_ne_zero).mpr rfl
  refine betweenMatrix_of_same hcollinear ?_
  rw [Vec.dot_unit_self]
  exact one_pos

theorem betweenMatrix_apply_zero (u v : Vec ℝ) : (betweenMatrix u v).apply 0 = 0 := by
  unfold betweenMatrix
  split
  · exact Mat.axisAngle_apply_zero _ _
  · exact Mat.apply_one 0

theorem isRigid_uprightMatrix (v : Vec ℝ) : (uprightMatrix v).IsRigid := by
  unfold uprightMatrix
  split
  · exact isRigid_betweenMatrix (Vec.unit_ne_zero .z) _
  · exact Mat.isRigid_one

theorem uprightMatrix_apply_zero (v : Vec ℝ) : (uprightMatrix v).apply 0 = 0 := by
  unfold uprightMatrix
  split
  · exact betweenMatrix_apply_zero _ _
  · exact Mat.apply_one 0

theorem aligns_upright {v : Vec ℝ} (hexact : v.UprightExact) (h : v ≠ 0) :
    Aligns (betweenMatrix (Vec.unit .z) v.normalize) (Vec.unit .z) v.normalize := by
  rcases hexact with ⟨k, hk⟩ | hoff
  · have hunit : v.normalize = (Vec.unit .z : Vec ℝ) * (k / v.norm) := by
      change v / v.norm = _
      nth_rewrite 1 [hk]
      ext <;> exact mul_div_assoc _ _ _
    rw [hunit]
    refine aligns_parallel (Vec.unit_ne_zero .z) fun hzero => Vec.normalize_ne_zero h ?_
    rw [hunit, hzero]
    ext <;> exact mul_zero _
  · -- Dividing by the length changes nothing about being collinear with the axis.
    refine aligns_of_not_collinear ?_ (Vec.unit_ne_zero .z) (Vec.normalize_ne_zero h)
    rw [Vec.collinear_normalize _ h, Vec.collinear_comm, hoff]

/-- The top of the axis comes to lie at the end of the vector. -/
theorem uprightMatrix_apply_top {v : Vec ℝ} (hexact : v.UprightExact) :
    (uprightMatrix v).apply ⟨0, 0, v.norm⟩ = v := by
  have htop : (⟨0, 0, v.norm⟩ : Vec ℝ) = (Vec.unit .z : Vec ℝ) * v.norm := by
    simp [Vec.unit, Vec.set, Vec.zero_eq, Vec.mul_eq]
  have hunit : (Vec.unit .z : Vec ℝ).norm / v.normalize.norm = 1 / v.normalize.norm := by
    rw [Vec.norm_eq zero_le_one (by rw [Vec.dot_unit_self, one_mul])]
  rw [(isRigid_uprightMatrix v).affine.apply_eq_carry (uprightMatrix_apply_zero v), htop,
    Mat.carry_mul]
  rcases eq_or_ne v 0 with rfl | h
  · rw [Vec.norm_zero]
    ext <;> exact mul_zero _
  · have hone : v.normalize * ((1 : ℝ) / 1) = v.normalize := by simp [Vec.mul_eq]
    rw [uprightMatrix_of_ne_zero h, (aligns_upright hexact h).carry, hunit, Vec.norm_normalize h,
      hone, Vec.normalize_mul_norm h]

end Transform

section Placed

variable (base cap : Vec ℝ)

/-- Turning a frustum into its direction and moving it to its base. -/
noncomputable def placing : Mat ℝ :=
  Mat.displacement base * Transform.uprightMatrix (cap - base)

theorem standsBetween_placing (hexact : (cap - base).UprightExact) :
    (placing base cap).StandsBetween base cap := by
  have hmove := Mat.isRigid_displacement base
  have hturn := Transform.isRigid_uprightMatrix (cap - base)
  refine ⟨hmove.mul hturn, ?_, ?_⟩
  · rw [placing, Mat.apply_mul hmove.affine hturn.affine, Transform.uprightMatrix_apply_zero,
      Mat.apply_displacement]
    ext <;> exact zero_add _
  · rw [placing, Mat.apply_mul hmove.affine hturn.affine,
      Transform.uprightMatrix_apply_top hexact, Mat.apply_displacement]
    ext <;> exact sub_add_cancel _ _

/-- A displacement that is left out would do nothing. -/
theorem draws_movedNode {n x : Node ℝ} {m : Mat ℝ} (h : n.Draws x m) :
    (movedNode base n).Draws x (Mat.displacement base * m) := by
  unfold movedNode
  by_cases hbase : base = 0
  · have hone : Mat.displacement (0 : Vec ℝ) = 1 := rfl
    rw [if_neg fun hne => Vec.bne_iff.mp hne hbase, hbase, hone, one_mul]
    exact h
  · rw [if_pos (Vec.bne_iff.mpr hbase)]
    exact (Transform.draws_translate n base).trans h

variable [Numeral ℝ]

/-- A rotation that is left out would do nothing. -/
theorem draws_turnedNode (v : Vec ℝ) (x : Node ℝ) :
    (turnedNode v x).Draws x (Transform.uprightMatrix v) := by
  rcases eq_or_ne v 0 with rfl | hv
  · have hlt : Scalar.lt 0 (0 : Vec ℝ).norm = false :=
      decide_eq_false (by rw [Vec.norm_zero]; exact lt_irrefl 0)
    rw [turnedNode, hlt, Bool.false_and, if_neg Bool.false_ne_true, Transform.uprightMatrix_zero]
    exact draws_self x
  · change (if Scalar.lt 0 v.norm && v.normalize != Vec.unit .z then
      Transform.betweenNode (Vec.unit .z) v.normalize (some x) else x).Draws x _
    rw [Scalar.lt_iff.mpr (Vec.norm_pos hv), Bool.true_and, Transform.uprightMatrix_of_ne_zero hv]
    by_cases hup : v.normalize = Vec.unit .z
    · rw [if_neg fun hne => Vec.bne_iff.mp hne hup, hup, Transform.betweenMatrix_unit_self]
      exact draws_self x
    · rw [if_pos (Vec.bne_iff.mpr hup)]
      exact Transform.draws_between x _ _

theorem draws_frustum (baseRadius capRadius : ℝ) :
    (frustumNode base cap baseRadius capRadius).Draws
      (standingFrustum (cap - base).norm baseRadius capRadius) (placing base cap) :=
  draws_movedNode base (draws_turnedNode (cap - base) _)

theorem names_betweenCalls (u v : Vec ℝ) :
    ((Transform.betweenCalls u v).map Node.name).Sublist [some "rotate"] := by
  unfold Transform.betweenCalls
  split
  · exact List.Sublist.refl _
  · exact List.nil_sublist _

theorem names_frustumCalls :
    ((frustumCalls base cap).map Node.name).Sublist [some "translate", some "rotate"] := by
  simp only [frustumCalls, List.map_append]
  change List.Sublist _ ([some "translate"] ++ [some "rotate"])
  refine List.Sublist.append ?_ ?_
  · split
    · exact List.Sublist.refl _
    · exact List.nil_sublist _
  · split
    · exact names_betweenCalls _ _
    · exact List.nil_sublist _

/-- A frustum is written as a round solid along `Z` under a displacement and a rotation at most.
Together they are a rigid motion that brings the bottom of the solid to the base and its top to the
cap, and with them the circles around its ends, each with the radius of its own end. -/
theorem frustum_stands_between (baseRadius capRadius : ℝ)
    (hexact : (cap - base).UprightExact) :
    ∃ calls standing m,
      (Solid.frustum base cap baseRadius capRadius).value.node = nest calls standing ∧
      (calls.map Node.name).Sublist [some "translate", some "rotate"] ∧
      standing.Round (cap - base).norm baseRadius capRadius ∧
      (Solid.frustum base cap baseRadius capRadius).value.node.Draws standing m ∧
      m.StandsBetween base cap ∧
      ∀ x y,
        Vec.OnRim base (cap - base) (Real.sqrt (x * x + y * y)) (m.apply ⟨x, y, 0⟩) ∧
        Vec.OnRim cap (cap - base) (Real.sqrt (x * x + y * y))
          (m.apply ⟨x, y, (cap - base).norm⟩) := by
  have hstands := standsBetween_placing base cap hexact
  refine ⟨_, _, _, frustumNode_eq_nest base cap baseRadius capRadius, names_frustumCalls base cap,
    round_standingFrustum _ _ _, draws_frustum base cap baseRadius capRadius, hstands,
    fun x y => ⟨?_, ?_⟩⟩
  · have hrim := hstands.onRim x y 0
    rwa [← Vec.zero_eq, hstands.bottom] at hrim
  · have hrim := hstands.onRim x y (cap - base).norm
    rwa [hstands.top] at hrim

end Placed

/-- A cone from a point up to another one off the vertical through it, and a pipe that hangs down
from the origin. -/
theorem frustum_stands_between_leaning :
    (⟨2, 4, 5⟩ - ⟨1, 2, 3⟩ : Vec ℝ).UprightExact ∧ (⟨0, 0, -4⟩ - 0 : Vec ℝ).UprightExact ∧
      ∃ _ : Numeral ℝ,
        (∃ standing m, (Solid.frustum ⟨1, 2, 3⟩ ⟨2, 4, 5⟩ 1 0).value.node.Draws standing m ∧
          m.apply 0 = ⟨1, 2, 3⟩ ∧
          m.apply ⟨0, 0, (⟨2, 4, 5⟩ - ⟨1, 2, 3⟩ : Vec ℝ).norm⟩ = ⟨2, 4, 5⟩) ∧
        ∃ standing m, (Solid.frustum 0 ⟨0, 0, -4⟩ 2 2).value.node.Draws standing m ∧
          m.apply 0 = 0 ∧ m.apply ⟨0, 0, (⟨0, 0, -4⟩ - 0 : Vec ℝ).norm⟩ = ⟨0, 0, -4⟩ := by
  let _ : Numeral ℝ := ⟨fun _ => true, fun _ => "0", fun _ => "0"⟩
  have hleaning : (⟨2, 4, 5⟩ - ⟨1, 2, 3⟩ : Vec ℝ).UprightExact := by
    refine .inr ?_
    rw [← Bool.not_eq_true, Vec.collinear_iff]
    simp only [Vec.sub_eq, Vec.unit, Vec.set, Vec.zero_eq, Vec.cross, Vec.dot]
    norm_num
  have hhanging : (⟨0, 0, -4⟩ - 0 : Vec ℝ).UprightExact :=
    .inl ⟨-4, by simp [Vec.sub_eq, Vec.unit, Vec.set, Vec.zero_eq, Vec.mul_eq]⟩
  obtain ⟨-, cone, m, -, -, -, hcone, hm, -⟩ := frustum_stands_between _ _ 1 0 hleaning
  obtain ⟨-, pipe, k, -, -, -, hpipe, hk, -⟩ := frustum_stands_between _ _ 2 2 hhanging
  exact ⟨hleaning, hhanging, inferInstance, ⟨cone, m, hcone, hm.bottom, hm.top⟩,
    pipe, k, hpipe, hk.bottom, hk.top⟩

end SolidScene
