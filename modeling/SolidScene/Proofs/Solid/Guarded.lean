import SolidScene.Proofs.Solid.Nesting
import SolidScene.Proofs.Transform.Guarded

/-!
# Nothing is divided by a zero length

A frustum asks for the length between its ends before it divides by it, and it is turned between two
unit vectors. With what is known of transforms, no division by zero goes into a matrix, into calls,
or into a frustum that is given by a direction and a length.
-/
namespace SolidScene

open Guarded (number)
open Scad (Node)

theorem guarded_standingFrustum (length baseRadius capRadius : ℝ) :
    standingFrustum (number length) (number baseRadius) (number capRadius) =
      (standingFrustum length baseRadius capRadius).guarded := by
  have hsame : (number baseRadius == number capRadius) = (baseRadius == capRadius) := rfl
  simp only [standingFrustum, hsame]
  split <;> rfl

theorem guarded_movedNode (base : Vec ℝ) (x : Node ℝ) :
    movedNode base.guarded x.guarded = (movedNode base x).guarded := by
  rw [movedNode, ← Vec.guarded_zero, Vec.guarded_bne, movedNode]
  split
  · exact Transform.guarded_vectorCall "translate" base (some x)
  · rfl

section Rendering

variable [Numeral ℝ]

/-- The direction is divided by its length only if that is positive. -/
theorem guarded_turnedNode (v : Vec ℝ) (x : Node ℝ) :
    turnedNode v.guarded x.guarded = (turnedNode v x).guarded := by
  have hlt : Scalar.lt 0 v.guarded.norm = Scalar.lt 0 v.norm := rfl
  rw [turnedNode, turnedNode, hlt]
  cases hlength : Scalar.lt 0 v.norm with
  | false => rfl
  | true =>
    -- The quotient is divided by once more, as the axis of the turn is normalised.
    have hdiv : v.guarded / v.guarded.norm = (v / v.norm).guarded :=
      Vec.guarded_div.mpr (Scalar.lt_iff.mp hlength).ne'
    have haxes := Transform.betweenAxes_ne_zero (Vec.unit_ne_zero .z) (v / v.norm)
    rw [hdiv, ← Vec.guarded_unit, Vec.guarded_bne, Bool.true_and]
    split
    · exact Transform.guarded_betweenNode haxes (some x)
    · rfl

theorem guarded_frustumNode (base cap : Vec ℝ) (baseRadius capRadius : ℝ) :
    frustumNode base.guarded cap.guarded (number baseRadius) (number capRadius) =
      (frustumNode base cap baseRadius capRadius).guarded := by
  have hsub : cap.guarded - base.guarded = (cap - base).guarded := rfl
  rw [frustumNode_eq, frustumNode_eq, hsub, Vec.guarded_norm, guarded_standingFrustum,
    guarded_turnedNode, guarded_movedNode]

end Rendering

theorem frustumAlong_ok {α : Type} [Scalar α] {direction : Vec α} {length baseRadius capRadius : α}
    {c : Checked α (Solid α)} :
    Solid.frustumAlong direction length baseRadius capRadius = .ok c ↔
      direction.isZero = false ∧
        c = Solid.frustum 0 (direction.normalize * length) baseRadius capRadius := by
  unfold Solid.frustumAlong Vec.nonZero
  cases direction.isZero <;> simp [eq_comm, Bind.bind, Except.bind, pure, Except.pure]

theorem guarded_frustumAlong {direction : Vec ℝ} (hdirection : direction ≠ 0)
    (length baseRadius capRadius : ℝ) :
    Solid.frustumAlong direction.guarded (number length) (number baseRadius) (number capRadius) =
      .ok (Solid.frustum (0 : Vec ℝ).guarded (direction.normalize * length).guarded
        (number baseRadius) (number capRadius)) := by
  have hzero : direction.guarded.isZero = false := Vec.isZero_eq_false.mpr hdirection
  have hcap : direction.guarded.normalize * number length =
      (direction.normalize * length).guarded := by
    rw [Vec.guarded_normalize.mpr hdirection]
    rfl
  exact frustumAlong_ok.mpr ⟨hzero, by rw [hcap]; rfl⟩

/-- What makes the divisions of a frustum safe. It turns only if it has a length, and then between
directions that are not zero. -/
structure StandsSafely (base cap : Vec ℝ) (baseRadius capRadius : ℝ) : Prop where
  turned : 0 < (cap - base).norm →
    (Vec.unit .z : Vec ℝ).isZero = false ∧ ((cap - base) / (cap - base).norm).isZero = false ∧
      ∀ axis angle, Transform.betweenAxis? (Vec.unit .z) ((cap - base) / (cap - base).norm) =
        some (axis, angle) → axis ≠ 0
  node : ∀ [Numeral ℝ],
    (Solid.frustum base.guarded cap.guarded (number baseRadius) (number capRadius)).value.node =
      (Solid.frustum base cap baseRadius capRadius).value.node.guarded

theorem standsSafely (base cap : Vec ℝ) (baseRadius capRadius : ℝ) :
    StandsSafely base cap baseRadius capRadius where
  turned := by
    intro hlength
    have hup := Vec.unit_ne_zero .z
    have hne : cap - base ≠ 0 := fun hzero => by
      rw [hzero, Vec.norm_zero] at hlength
      exact lt_irrefl 0 hlength
    exact ⟨Vec.isZero_eq_false.mpr hup, Vec.isZero_eq_false.mpr (Vec.normalize_ne_zero hne),
      fun _ _ => Transform.axis_ne_zero_of_between hup⟩
  node := guarded_frustumNode base cap baseRadius capRadius

/-- No length that is zero is divided by: not by transforms that come of constructors, compositions,
inverses and equivalent steps, not by frusta between any points, and not by those that are given by
a direction. -/
theorem divides_by_no_zero_length :
    (∀ t : Transform ℝ, t.Obtained → t.DividesSafely) ∧
      (∀ base cap baseRadius capRadius, StandsSafely base cap baseRadius capRadius) ∧
      ∀ (direction : Vec ℝ) (length baseRadius capRadius : ℝ) (c : Checked ℝ (Solid ℝ)),
        Solid.frustumAlong direction length baseRadius capRadius = .ok c →
          direction ≠ 0 ∧ direction.norm ≠ 0 ∧
          ∃ base cap, c = Solid.frustum base cap baseRadius capRadius ∧
            Solid.frustumAlong direction.guarded (number length) (number baseRadius)
              (number capRadius) =
              .ok (Solid.frustum base.guarded cap.guarded (number baseRadius)
                (number capRadius)) := by
  refine ⟨fun t ht => ht.accepted.dividesSafely, standsSafely, ?_⟩
  intro direction length baseRadius capRadius c hc
  obtain ⟨hzero, hc⟩ := frustumAlong_ok.mp hc
  have hdirection := Vec.isZero_eq_false.mp hzero
  exact ⟨hdirection, (Vec.norm_pos hdirection).ne', 0, direction.normalize * length, hc,
    guarded_frustumAlong hdirection length baseRadius capRadius⟩

/-- A half turn backwards after the simpler steps of a scale along the diagonal of space, and a cone
along a slope. -/
theorem divides_by_no_zero_length_diagonal :
    (∃ steps, (Transform.scaleAlong ⟨1, 1, 1⟩ 2 : Transform ℝ).equivalent? = some steps ∧
      ∃ back, (Transform.rotateFromTo ⟨0, 3, 4⟩ ⟨0, -6, -8⟩ false).inverse = .ok back ∧
        (back * steps).Obtained ∧ (back * steps).DividesSafely) ∧
      StandsSafely 0 ⟨0, 0, -4⟩ 2 2 ∧
      ∃ c, Solid.frustumAlong (⟨0, 3, 4⟩ : Vec ℝ) 10 2 1 = .ok c ∧
        (⟨0, 3, 4⟩ : Vec ℝ).norm ≠ 0 := by
  have hdiagonal : (⟨1, 1, 1⟩ : Vec ℝ) ≠ 0 := by simp [Vec.zero_eq]
  have hslope : (⟨0, 3, 4⟩ : Vec ℝ) ≠ 0 := by simp [Vec.zero_eq]
  have hback : (⟨0, -6, -8⟩ : Vec ℝ) ≠ 0 := by simp [Vec.zero_eq]
  have hscale : (Transform.scaleAlong ⟨1, 1, 1⟩ 2 : Transform ℝ).Constructed :=
    .along (Transform.along_ok.mpr ⟨Vec.isZero_eq_false.mpr hdiagonal, rfl⟩)
  have hturn := Transform.constructed_between hslope hback false
  have hobtained := ((Transform.Obtained.constructed hturn).inverse rfl).mul
    ((Transform.Obtained.constructed hscale).equivalent rfl)
  have hcone : Solid.frustumAlong (⟨0, 3, 4⟩ : Vec ℝ) 10 2 1 = .ok _ :=
    frustumAlong_ok.mpr ⟨Vec.isZero_eq_false.mpr hslope, rfl⟩
  obtain ⟨hsafe, hstands, hgiven⟩ := divides_by_no_zero_length
  exact ⟨⟨_, rfl, _, rfl, hobtained, hsafe _ hobtained⟩, hstands 0 ⟨0, 0, -4⟩ 2 2, _, hcone,
    (hgiven _ _ _ _ _ hcone).2.1⟩

end SolidScene
