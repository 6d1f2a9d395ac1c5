import SolidScene.Proofs.Matrix.Conjugate
import SolidScene.Proofs.Transform.Product

/-!
# Yaw, pitch and roll around moving axes

Yaw, pitch and roll are computed around axes that stand still, each step in front of the ones before
it. In exact arithmetic this is the rotation of a vehicle: the yaw around `Z`, then the pitch around
`X` as the yaw has left it, then the roll around `Y` as yaw and pitch have left it. Steps that do
nothing are left out, of any scalar, and the others turn around some axis.
-/
namespace SolidScene.Transform

/-- Where the `X` axis points after the yaw. -/
noncomputable def yawedX (yaw : ℝ) : Vec ℝ := (Mat.axisAngle (Vec.unit .z) yaw).apply (Vec.unit .x)

/-- Where the `Y` axis points after the yaw and the pitch around the yawed `X` axis. -/
noncomputable def pitchedY (yaw pitch : ℝ) : Vec ℝ :=
  (Mat.axisAngle (yawedX yaw) pitch).apply
    ((Mat.axisAngle (Vec.unit .z) yaw).apply (Vec.unit .y))

theorem axisAngle_unit (a : Axis) (degrees : ℝ) :
    Mat.axisAngle (Vec.unit a) degrees = Mat.rotation a (Scalar.toRadians degrees) := by
  rw [Mat.axisAngle_eq, Vec.normalize_eq_self (Vec.dot_unit_self a), Mat.rotation_eq_turn]

/-- Around moving axes the steps come in the opposite order. -/
theorem moving_axes_eq (yaw pitch roll : ℝ) :
    Mat.axisAngle (pitchedY yaw pitch) roll * Mat.axisAngle (yawedX yaw) pitch *
        Mat.axisAngle (Vec.unit .z) yaw =
      Mat.axisAngle (Vec.unit .z) yaw * Mat.axisAngle (Vec.unit .x) pitch *
        Mat.axisAngle (Vec.unit .y) roll := by
  have hrigid (a : Axis) (degrees : ℝ) : (Mat.axisAngle (Vec.unit a) degrees).IsRigid :=
    Mat.isRigid_axisAngle (Vec.unit_ne_zero a) degrees
  have horigin (a : Axis) (degrees : ℝ) := Mat.axisAngle_apply_zero (Vec.unit a) degrees
  have hpair := (hrigid .z yaw).mul (hrigid .x pitch)
  have hpairOrigin :
      (Mat.axisAngle (Vec.unit .z) yaw * Mat.axisAngle (Vec.unit .x) pitch).apply 0 = 0 := by
    rw [Mat.apply_mul (hrigid .z yaw).affine (hrigid .x pitch).affine, horigin, horigin]
  have hyawed : yawedX yaw = (Mat.axisAngle (Vec.unit .z) yaw).carry (Vec.unit .x) :=
    (hrigid .z yaw).affine.apply_eq_carry (horigin _ _) _
  have hpitch : Mat.axisAngle (yawedX yaw) pitch * Mat.axisAngle (Vec.unit .z) yaw =
      Mat.axisAngle (Vec.unit .z) yaw * Mat.axisAngle (Vec.unit .x) pitch := by
    rw [hyawed]
    exact (hrigid .z yaw).axisAngle_carry_mul (horigin _ _) (Vec.dot_unit_self .x) pitch
  have hpitched : pitchedY yaw pitch =
      (Mat.axisAngle (Vec.unit .z) yaw * Mat.axisAngle (Vec.unit .x) pitch).carry
        (Vec.unit .y) := by
    rw [pitchedY, ← Mat.apply_mul (Mat.isAffine_axisAngle _ _) (hrigid .z yaw).affine, hpitch,
      hpair.affine.apply_eq_carry hpairOrigin]
  -- The pitch moves in front of the yaw first; then the roll moves in front of both at once.
  rw [mul_assoc, hpitch, hpitched]
  exact hpair.axisAngle_carry_mul hpairOrigin (Vec.dot_unit_self .y) roll

/-- A step is only there if one of its angles is not zero, whatever the numbers are. -/
theorem isZero_of_mem_eulerSteps {α : Type} [Scalar α] {yaw pitch roll : α} {angles : Vec α}
    (h : angles ∈ eulerSteps yaw pitch roll) : angles.isZero = false := by
  have hnonzero {x : α} (hx : (x != 0) = true) : (x == 0) = false := by simpa [bne] using hx
  simp only [eulerSteps, List.mem_append, List.mem_ite_nil_right, List.mem_singleton,
    Bool.or_eq_true] at h
  rcases h with ⟨hyaw | hpitch, rfl⟩ | ⟨hroll, rfl⟩
  · simp [Vec.isZero, hnonzero hyaw]
  · simp [Vec.isZero, hnonzero hpitch]
  · simp [Vec.isZero, hnonzero hroll]

/-- Yaw, pitch and roll turn around the axes of the vehicle, each where the turns before have left
it, whichever of the angles are zero. The simpler steps have the same matrix; they are rotations of
which none does nothing. -/
theorem ypr_turns_moving_axes :
    (∀ yaw pitch roll : ℝ,
      (rotateYpr yaw pitch roll).matrix =
          Mat.axisAngle (pitchedY yaw pitch) roll * Mat.axisAngle (yawedX yaw) pitch *
            Mat.axisAngle (Vec.unit .z) yaw ∧
        ∃ u, (rotateYpr yaw pitch roll).equivalent? = some u ∧
          u.matrix = (rotateYpr yaw pitch roll).matrix) ∧
      ∀ {α : Type} [Scalar α] (yaw pitch roll : α), ∃ steps : List (Vec α),
        (rotateYpr yaw pitch roll).equivalent? = some (chain (steps.map rotateXyz)) ∧
          ∀ angles ∈ steps, angles.isZero = false := by
  refine ⟨fun yaw pitch roll => ⟨?_, _, rfl, matrix_eulerSteps yaw pitch roll⟩,
    fun yaw pitch roll => ⟨_, rfl, fun _ => isZero_of_mem_eulerSteps⟩⟩
  rw [moving_axes_eq, matrix_rotateYpr, axisAngle_unit, axisAngle_unit, axisAngle_unit]

/-- A turn to the left without a pitch, and a roll. -/
theorem ypr_turns_moving_axes_banked :
    (rotateYpr 90 0 30 : Transform ℝ).matrix =
        Mat.axisAngle (pitchedY 90 0) 30 * Mat.axisAngle (yawedX 90) 0 *
          Mat.axisAngle (Vec.unit .z) 90 ∧
      ∃ steps : List (Vec ℝ),
        (rotateYpr 90 0 30 : Transform ℝ).equivalent? = some (chain (steps.map rotateXyz)) ∧
          ⟨0, 30, 0⟩ ∈ steps ∧ (⟨0, 30, 0⟩ : Vec ℝ).isZero = false := by
  obtain ⟨hmatrix, hequivalent⟩ := ypr_turns_moving_axes
  obtain ⟨steps, hsteps, hnonzero⟩ := hequivalent (90 : ℝ) 0 30
  have heuler : eulerSteps (90 : ℝ) 0 30 = [⟨0, 0, 90⟩, ⟨0, 30, 0⟩] := by simp [eulerSteps]
  have hlist : (eulerSteps (90 : ℝ) 0 30).map rotateXyz = steps.map rotateXyz :=
    chain.inj (Option.some.inj hsteps)
  have hmem : rotateXyz ⟨0, 30, 0⟩ ∈ steps.map rotateXyz := by simp [← hlist, heuler]
  have hroll : (⟨0, 30, 0⟩ : Vec ℝ) ∈ steps := by simpa using hmem
  exact ⟨(hmatrix 90 0 30).1, steps, hsteps, hroll, hnonzero _ hroll⟩

end SolidScene.Transform
