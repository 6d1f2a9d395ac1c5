import SolidScene.Proofs.Outcome
import SolidScene.Proofs.Transform.Constructed
import SolidScene.Proofs.Transform.Opposite
import SolidScene.Solid.Algebra
import SolidScene.Transform.Source

/-!
# Rotations whose axis is arbitrary

A rotation between directions is refused if one of them is zero, and raises a warning if they are
opposite, unless the warning is waived. The warning asks for a negative dot product of collinear
directions, the axis is arbitrary unless their dot product is positive. In exact arithmetic these
come to the same, since the dot product of collinear directions is not zero. The waiver is stored
and changes nothing else.
-/
namespace SolidScene

theorem Vec.dot_ne_zero_of_collinear {u v : Vec ℝ} (hu : u ≠ 0) (hv : v ≠ 0)
    (h : u.collinear v = true) : u.dot v ≠ 0 := by
  intro hdot
  have hpos : 0 < u.dot u * v.dot v := mul_pos (dot_self_pos hu) (dot_self_pos hv)
  rw [collinear_iff, dot_cross_self, hdot, mul_zero, sub_zero] at h
  norm_num at h
  linarith

/-- Only opposite directions make an angle of half a turn. -/
theorem Vec.angleTo_ne_halfTurn {u v : Vec ℝ} (hu : u ≠ 0) (hv : v ≠ 0)
    (h : u.collinear v = false) : u.angleTo v ≠ Scalar.halfTurn := by
  intro hangle
  have hsin := sin_angleTo hu hv
  have hpos : 0 < (u.cross v).norm / (u.norm * v.norm) :=
    div_pos (norm_pos (cross_ne_zero h)) (mul_pos (norm_pos hu) (norm_pos hv))
  rw [hangle, Scalar.toRadians_halfTurn, Real.sin_pi] at hsin
  exact hpos.ne hsin

namespace Transform

section Faults

variable {α : Type} [Scalar α]

theorem failure?_nonZero (v : Vec α) (label : String) :
    failure? (v.nonZero label) = if v.isZero then some (.zeroVector label) else none := by
  unfold Vec.nonZero
  split <;> rfl

/-- The first direction is looked at before the second one. -/
theorem failure?_fromTo (source target : Vec α) (anyAxis : Bool) :
    failure? (fromTo source target anyAxis) =
      (failure? (source.nonZero "from")).or (failure? (target.nonZero "to")) := by
  unfold fromTo
  cases hsource : source.isZero <;> cases htarget : target.isZero <;>
    simp [Vec.nonZero, hsource, htarget, failure?, Bind.bind, Except.bind, pure, Except.pure]

/-- The solid that is rotated by the transform, with the same warnings. -/
def RotatedBy (s : Solid α) (placed : Checked α (Solid α)) (turn : Checked α (Transform α)) :
    Prop :=
  placed.value = turn.value * s ∧ placed.warnings = turn.warnings

/-- Rotating a solid is at fault or warns as making the rotation does. -/
theorem rotatedFromTo_alongside (s : Solid α) (source target : Vec α) (anyAxis : Bool) :
    Alongside (RotatedBy s) (s.rotatedFromTo source target anyAxis)
      (fromTo source target anyAxis) := by
  unfold Solid.rotatedFromTo
  cases fromTo source target anyAxis with
  | error fault => exact .error fault
  | ok c => exact .ok ⟨rfl, rfl⟩

end Faults

theorem fromTo_error_iff (source target : Vec ℝ) (anyAxis : Bool) (fault : Fault ℝ) :
    fromTo source target anyAxis = .error fault ↔
      source = 0 ∧ fault = .zeroVector "from" ∨
        source ≠ 0 ∧ target = 0 ∧ fault = .zeroVector "to" := by
  rw [← failure?_eq_some, failure?_fromTo, failure?_nonZero, failure?_nonZero]
  simp only [Vec.isZero_iff]
  by_cases hsource : source = 0
  · simp [hsource, eq_comm]
  · by_cases htarget : target = 0
    · simp [hsource, htarget, eq_comm]
    · simp [hsource, htarget]

/-- The rotation between two directions turns around a normal of the first one, by half a turn. -/
def AxisArbitrary (source target : Vec ℝ) : Prop :=
  betweenAxis? source target = some (source.normal, Scalar.halfTurn)

section Directions

variable {u v : Vec ℝ} (hu : u ≠ 0) (hv : v ≠ 0)
include hu hv

theorem axisArbitrary_iff :
    AxisArbitrary u v ↔ u.collinear v = true ∧ Scalar.lt 0 (u.dot v) = false := by
  unfold AxisArbitrary betweenAxis?
  cases h : u.collinear v with
  | false =>
    -- The angle alone tells this branch from that of the arbitrary axis.
    have hangle := Vec.angleTo_ne_halfTurn hu hv h
    simp [hangle]
  | true => cases Scalar.lt 0 (u.dot v) <;> simp

/-- The test of the warning is that of the arbitrary axis. -/
theorem ambiguous_iff :
    (u.collinear v && Scalar.lt (u.dot v) 0) = true ↔ AxisArbitrary u v := by
  rw [axisArbitrary_iff hu hv, Bool.and_eq_true]
  refine and_congr_right fun h => ?_
  have hdot := Vec.dot_ne_zero_of_collinear hu hv h
  rw [← Bool.not_eq_true, Scalar.lt_iff, Scalar.lt_iff, not_lt]
  exact ⟨le_of_lt, fun hle => lt_of_le_of_ne hle hdot⟩

end Directions

/-- What the constructor makes of two directions with the warning and with the waiver. -/
structure Waived (source target : Vec ℝ) (plain waived : Checked ℝ (Transform ℝ)) : Prop where
  plain_value : plain.value = rotateFromTo source target false
  waived_value : waived.value = rotateFromTo source target true
  warned : plain.warnings = [.ambiguousRotation source target] ↔ AxisArbitrary source target
  unwarned : plain.warnings = [] ↔ ¬ AxisArbitrary source target
  waived_warnings : waived.warnings = []
  beq : (plain.value == waived.value) = true
  node : ∀ [Numeral ℝ] (x : Option (Scad.Node ℝ)), plain.value.node x = waived.value.node x
  matrix : plain.value.matrix = waived.value.matrix
  inverse : ∃ p w, plain.value.inverse = .ok p ∧ waived.value.inverse = .ok w ∧ (p == w) = true

theorem beq_rotateFromTo (source target : Vec ℝ) (a b : Bool) :
    (rotateFromTo source target a == rotateFromTo source target b) = true := by
  change (source == source && target == target) = true
  rw [Vec.beq_iff.mpr rfl, Vec.beq_iff.mpr rfl, Bool.and_self]

theorem exists_waived {source target : Vec ℝ} (hsource : source ≠ 0) (htarget : target ≠ 0) :
    ∃ plain waived, fromTo source target false = .ok plain ∧
      fromTo source target true = .ok waived ∧ Waived source target plain waived := by
  have hok := fromTo_eq_ok (Vec.isZero_eq_false.mpr hsource) (Vec.isZero_eq_false.mpr htarget)
  have hambiguous := ambiguous_iff hsource htarget
  have hwarned (b : Bool) (w : Warning ℝ) : (if b then [w] else []) = [w] ↔ b = true := by
    cases b <;> simp
  have hunwarned (b : Bool) (w : Warning ℝ) : (if b then [w] else []) = [] ↔ ¬ b = true := by
    cases b <;> simp
  refine ⟨_, _, hok false, hok true, ?_⟩
  exact {
    plain_value := rfl
    waived_value := rfl
    warned := (hwarned _ _).trans hambiguous
    unwarned := (hunwarned _ _).trans (not_congr hambiguous)
    waived_warnings := rfl
    beq := beq_rotateFromTo source target false true
    node := fun _ => rfl
    matrix := rfl
    inverse := ⟨_, _, rfl, rfl, beq_rotateFromTo target source false true⟩ }

/-- A rotation between directions is refused exactly if one of them is zero. Otherwise it warns
exactly if it turns around an axis of its own choice, and waiving the warning changes nothing else.
Rotating a solid tells the same. -/
theorem warns_exactly_if_arbitrary (source target : Vec ℝ) :
    (∀ anyAxis fault, fromTo source target anyAxis = .error fault ↔
      source = 0 ∧ fault = .zeroVector "from" ∨
        source ≠ 0 ∧ target = 0 ∧ fault = .zeroVector "to") ∧
      (source ≠ 0 → target ≠ 0 → ∃ plain waived, fromTo source target false = .ok plain ∧
        fromTo source target true = .ok waived ∧ Waived source target plain waived) ∧
      ∀ (s : Solid ℝ) (anyAxis : Bool), Alongside (RotatedBy s)
        (s.rotatedFromTo source target anyAxis) (fromTo source target anyAxis) :=
  ⟨fromTo_error_iff source target, exists_waived,
    fun s anyAxis => rotatedFromTo_alongside s source target anyAxis⟩

/-- Opposite directions off all axes, and directions at a right angle. -/
theorem warns_exactly_if_arbitrary_opposite :
    (⟨0, 3, 4⟩ : Vec ℝ) ≠ 0 ∧ (⟨0, -6, -8⟩ : Vec ℝ) ≠ 0 ∧ (⟨1, 0, 0⟩ : Vec ℝ) ≠ 0 ∧
      (∃ plain, fromTo (⟨0, 3, 4⟩ : Vec ℝ) ⟨0, -6, -8⟩ false = .ok plain ∧
        plain.warnings = [.ambiguousRotation ⟨0, 3, 4⟩ ⟨0, -6, -8⟩]) ∧
      ∃ plain, fromTo (⟨0, 3, 4⟩ : Vec ℝ) ⟨1, 0, 0⟩ false = .ok plain ∧ plain.warnings = [] := by
  have hu : (⟨0, 3, 4⟩ : Vec ℝ) ≠ 0 := by simp [Vec.zero_eq]
  have hback : (⟨0, -6, -8⟩ : Vec ℝ) ≠ 0 := by simp [Vec.zero_eq]
  have hside : (⟨1, 0, 0⟩ : Vec ℝ) ≠ 0 := by simp [Vec.zero_eq]
  have harbitrary : AxisArbitrary ⟨0, 3, 4⟩ ⟨0, -6, -8⟩ := by
    rw [← ambiguous_iff hu hback, Bool.and_eq_true, Vec.collinear_iff, Scalar.lt_iff]
    simp only [Vec.cross, Vec.dot]
    norm_num
  have hdefinite : ¬ AxisArbitrary ⟨0, 3, 4⟩ ⟨1, 0, 0⟩ := by
    rw [← ambiguous_iff hu hside, Bool.and_eq_true, Vec.collinear_iff, Scalar.lt_iff]
    simp only [Vec.cross, Vec.dot]
    norm_num
  obtain ⟨plain, _, hplain, -, hwaived⟩ := (warns_exactly_if_arbitrary _ _).2.1 hu hback
  obtain ⟨other, _, hother, -, hdefined⟩ := (warns_exactly_if_arbitrary _ _).2.1 hu hside
  exact ⟨hu, hback, hside, ⟨plain, hplain, hwaived.warned.mpr harbitrary⟩,
    other, hother, hdefined.unwarned.mpr hdefinite⟩

end Transform

end SolidScene
