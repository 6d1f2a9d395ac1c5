import SolidScene.Proofs.Matrix.Undo
import SolidScene.Proofs.Transform.Between
import SolidScene.Proofs.Transform.Constructed
import SolidScene.Proofs.Transform.Inverse
import SolidScene.Proofs.Transform.Product

/-!
# The inverse undoes the transform

Each kind of transform has an inverse of its own making: an opposite axis, angles taken one by one
in reverse order, directions that change places, reciprocal factors. In exact arithmetic the matrix
of each inverse undoes that of the transform, and so it does for chains at any nesting. Rotations
between collinear directions are not covered: their inverse may turn around another axis.
-/
namespace SolidScene.Transform

theorem undoes_between {u v : Vec ℝ} (hu : u ≠ 0) (hv : v ≠ 0) (h : u.collinear v = false) :
    (betweenMatrix u v).Undoes (betweenMatrix v u) := by
  have hback : v.collinear u = false := by rw [Vec.collinear_comm, h]
  constructor
  · rw [betweenMatrix_swap h hu hv, betweenMatrix_mul_transpose h]
  · rw [betweenMatrix_swap hback hv hu, betweenMatrix_mul_transpose hback]

section Inverses

variable {u : Transform ℝ}

theorem undoes_rotateXyz (angles : Vec ℝ) (h : (rotateXyz angles).inverse = .ok u) :
    (rotateXyz angles).matrix.Undoes u.matrix := by
  obtain rfl := Except.ok.inj h
  have hback (a : Axis) (angle : ℝ) : (rotateXyz (Vec.set 0 a (-angle))).matrix =
      Mat.rotation a (-Scalar.toRadians angle) := by
    rw [matrix, eulerMatrix_set_zero, Scalar.toRadians_neg]
  have hx := Mat.undoes_rotation .x (Scalar.toRadians angles.x)
  have hy := Mat.undoes_rotation .y (Scalar.toRadians angles.y)
  have hz := Mat.undoes_rotation .z (Scalar.toRadians angles.z)
  have hturns := (hz.mul hy).mul hx
  rw [← hback, ← hback, ← hback, ← mul_assoc, ← matrix_mul, ← matrix_mul] at hturns
  exact hturns

theorem undoes_rotateYpr (yaw pitch roll : ℝ) (h : (rotateYpr yaw pitch roll).inverse = .ok u) :
    (rotateYpr yaw pitch roll).matrix.Undoes u.matrix := by
  obtain rfl := Except.ok.inj h
  have hback : (rotateYpr 0 0 (-roll) * rotateYpr 0 (-pitch) 0 * rotateYpr (-yaw) 0 0).matrix =
      Mat.rotation .y (-Scalar.toRadians roll) *
        (Mat.rotation .x (-Scalar.toRadians pitch) * Mat.rotation .z (-Scalar.toRadians yaw)) := by
    simp only [matrix_mul, matrix_rotateYpr, Scalar.toRadians_zero, Scalar.toRadians_neg,
      Mat.rotation_zero, one_mul, mul_one, mul_assoc]
  have hyaw := Mat.undoes_rotation .z (Scalar.toRadians yaw)
  have hpitch := Mat.undoes_rotation .x (Scalar.toRadians pitch)
  have hroll := Mat.undoes_rotation .y (Scalar.toRadians roll)
  rw [matrix_rotateYpr, hback]
  exact (hyaw.mul hpitch).mul hroll

theorem undoes_scaleUniform (factor : ℝ) (h : (scaleUniform factor).inverse = .ok u) :
    (scaleUniform factor).matrix.Undoes u.matrix := by
  obtain ⟨hfactor, rfl⟩ := inverse_scaleUniform_ok.mp h
  have hcancel := mul_one_div_cancel (beq_eq_false_iff_ne.mp hfactor)
  refine Mat.undoes_scaling fun axis => ?_
  cases axis <;> exact hcancel

theorem undoes_scaleAxes (factors : Vec ℝ) (h : (scaleAxes factors).inverse = .ok u) :
    (scaleAxes factors).matrix.Undoes u.matrix := by
  obtain ⟨hfactors, rfl⟩ := inverse_scaleAxes_ok.mp h
  refine Mat.undoes_scaling fun axis => ?_
  have hcancel := mul_one_div_cancel (beq_eq_false_iff_ne.mp (hfactors axis))
  cases axis <;> exact hcancel

theorem undoes_scaleAlong {axis : Vec ℝ} (haxis : axis ≠ 0) (factor : ℝ)
    (h : (scaleAlong axis factor).inverse = .ok u) :
    (scaleAlong axis factor).matrix.Undoes u.matrix := by
  obtain ⟨hfactor, rfl⟩ := inverse_scaleAlong_ok.mp h
  exact Mat.undoes_axisScale haxis (mul_one_div_cancel (beq_eq_false_iff_ne.mp hfactor))

theorem undoes_chain {ts : List (Transform ℝ)} (h : (chain ts).inverse = .ok u)
    (hsteps : ∀ t ∈ ts, ∀ u, t.inverse = .ok u → t.matrix.Undoes u.matrix) :
    (chain ts).matrix.Undoes u.matrix := by
  obtain ⟨parts, hparts, rfl⟩ := inverse_chain_ok.mp h
  clear h
  rw [matrix_chain, matrix_chain]
  induction hparts with
  | nil => exact Mat.undoes_one
  | @cons t _ ts parts hfirst _ ih =>
    obtain ⟨u, hu, rfl⟩ := hfirst
    rw [List.forall_mem_cons] at hsteps
    have hstep : t.matrix.Undoes (u.elements.map matrix).prod := by
      rw [prod_matrix_elements]
      exact hsteps.1 u hu
    -- The new elements stand behind those of the later steps.
    have hreverse : ((u.elements :: parts).reverse.flatten.map matrix).prod =
        (parts.reverse.flatten.map matrix).prod * (u.elements.map matrix).prod := by simp
    rw [List.map_cons, List.prod_cons, hreverse]
    exact hstep.mul (ih hsteps.2)

end Inverses

/-- No rotation between directions in the transform is between collinear ones. -/
def DirectionsApart (t : Transform ℝ) : Prop :=
  ∀ source target anyAxis, rotateFromTo source target anyAxis ∈ t.singles →
    source.collinear target = false

theorem undoes_inverse {t : Transform ℝ} (ht : t.Constructed) :
    t.DirectionsApart → ∀ u, t.inverse = .ok u → t.matrix.Undoes u.matrix := by
  induction ht with
  | translate offset =>
    rintro - _ ⟨⟩
    exact Mat.undoes_displacement offset
  | around h =>
    obtain ⟨haxis, rfl⟩ := around_ok.mp h
    rintro - _ ⟨⟩
    exact Mat.undoes_axisAngle (Vec.isZero_eq_false.mp haxis) _
  | rotateXyz angles => exact fun _ u => undoes_rotateXyz angles
  | rotateYpr yaw pitch roll => exact fun _ u => undoes_rotateYpr yaw pitch roll
  | fromTo h =>
    obtain ⟨hsource, htarget, hvalue⟩ := fromTo_ok h
    rw [hvalue]
    rintro hapart _ ⟨⟩
    exact undoes_between (Vec.isZero_eq_false.mp hsource) (Vec.isZero_eq_false.mp htarget)
      (hapart _ _ _ (List.mem_singleton_self _))
  | scaleUniform factor => exact fun _ u => undoes_scaleUniform factor
  | scaled factors => exact fun _ u => undoes_scaleAxes factors
  | along h =>
    obtain ⟨haxis, rfl⟩ := along_ok.mp h
    exact fun _ u => undoes_scaleAlong (Vec.isZero_eq_false.mp haxis) _
  | chain _ ih =>
    refine fun hapart u hu => undoes_chain hu fun t ht => ih t ht ?_
    exact fun source target anyAxis hmem =>
      hapart source target anyAxis (mem_singles_chain.mpr ⟨t, ht, hmem⟩)

/-- The matrices of a transform and of its inverse, multiplied in either order, are the identity. -/
theorem matrix_mul_inverse {t u : Transform ℝ} (ht : t.Constructed) (hapart : t.DirectionsApart)
    (h : t.inverse = .ok u) : t.matrix * u.matrix = 1 ∧ u.matrix * t.matrix = 1 := by
  have hundo := undoes_inverse ht hapart u h
  exact ⟨hundo.left, hundo.right⟩

/-- A turned scale in a chain of its own, and a rotation between directions. -/
def turnedScale : Transform ℝ :=
  chain [chain [rotateYpr 60 0 90, scaleAxes ⟨5, 4, -1⟩], rotateFromTo ⟨1, 0, 0⟩ ⟨0, 1, 0⟩ false]

noncomputable def turnedScaleBack : Transform ℝ :=
  chain [rotateFromTo ⟨0, 1, 0⟩ ⟨1, 0, 0⟩ false, scaleAxes ⟨1 / 5, 1 / 4, 1 / -1⟩,
    rotateYpr 0 0 (-90), rotateYpr 0 (-0) 0, rotateYpr (-60) 0 0]

theorem inverse_turnedScale : turnedScale.inverse = .ok turnedScaleBack := by
  have hscale : (scaleAxes ⟨5, 4, -1⟩ : Transform ℝ).inverse =
      .ok (scaleAxes ⟨1 / 5, 1 / 4, 1 / -1⟩) := by
    refine inverse_scaleAxes_ok.mpr ⟨fun axis => beq_eq_false_iff_ne.mpr ?_, rfl⟩
    cases axis <;> norm_num [Vec.get]
  have hinner : (chain [rotateYpr 60 0 90, scaleAxes ⟨5, 4, -1⟩] : Transform ℝ).inverse =
      .ok (chain [scaleAxes ⟨1 / 5, 1 / 4, 1 / -1⟩, rotateYpr 0 0 (-90), rotateYpr 0 (-0) 0,
        rotateYpr (-60) 0 0]) :=
    inverse_chain_ok.mpr ⟨_, .cons ⟨_, rfl, rfl⟩ (.cons ⟨_, hscale, rfl⟩ .nil), rfl⟩
  exact inverse_chain_ok.mpr ⟨_, .cons ⟨_, hinner, rfl⟩ (.cons ⟨_, rfl, rfl⟩ .nil), rfl⟩

theorem constructed_turnedScale : turnedScale.Constructed := by
  have hturn : (rotateFromTo ⟨1, 0, 0⟩ ⟨0, 1, 0⟩ false : Transform ℝ).Constructed :=
    constructed_rotateFromTo (Vec.isZero_eq_false.mpr (by simp [Vec.zero_eq]))
      (Vec.isZero_eq_false.mpr (by simp [Vec.zero_eq])) false
  have hscale : (scaleAxes ⟨5, 4, -1⟩ : Transform ℝ).Constructed := .scaled ⟨5, 4, -1⟩
  have hinner : (chain [rotateYpr 60 0 90, scaleAxes ⟨5, 4, -1⟩] : Transform ℝ).Constructed :=
    .chain (by simp [Constructed.rotateYpr, hscale])
  exact .chain (by simp [hinner, hturn])

theorem directionsApart_turnedScale : turnedScale.DirectionsApart := by
  intro source target anyAxis hmem
  simp only [turnedScale, singles, singlesOf, List.mem_append, List.mem_singleton,
    List.not_mem_nil, or_false, reduceCtorEq, false_or, rotateFromTo.injEq] at hmem
  obtain ⟨rfl, rfl, -⟩ := hmem
  rw [← Bool.not_eq_true, Vec.collinear_iff]
  simp only [Vec.cross, Vec.dot]
  norm_num

theorem matrix_mul_inverse_turnedScale :
    turnedScale.Constructed ∧ turnedScale.DirectionsApart ∧
      turnedScale.inverse = .ok turnedScaleBack ∧
      turnedScale.matrix * turnedScaleBack.matrix = 1 ∧
      turnedScaleBack.matrix * turnedScale.matrix = 1 :=
  ⟨constructed_turnedScale, directionsApart_turnedScale, inverse_turnedScale,
    matrix_mul_inverse constructed_turnedScale directionsApart_turnedScale inverse_turnedScale⟩

end SolidScene.Transform
