import SolidScene.Proofs.Matrix.Determinant
import SolidScene.Proofs.Transform.Affine
import SolidScene.Proofs.Transform.Opposite
import SolidScene.Proofs.Transform.Undo

/-!
# Singular transforms

A transform has no inverse exactly if some scale in it has a factor that is zero; the fault names
the last such scale, chains taken apart. In exact arithmetic the determinant of the matrix is the
product of the factors of all scales, so that a transform has an inverse exactly if its matrix has.
-/
namespace SolidScene.Transform

section Faults

variable {α : Type} [Scalar α]

/-- The factor of a single step that is zero, the first one among several. -/
def zeroFactor? : Transform α → Option FactorName
  | scaleUniform factor => if factor == 0 then some .only else none
  | scaleAxes factors => (Axis.all.find? fun axis => factors.get axis == 0).map .along
  | scaleAlong _ factor => if factor == 0 then some .only else none
  | _ => none

theorem failure?_reciprocal (factor : α) (name : FactorName) :
    failure? (reciprocal factor name) =
      (if factor == 0 then some name else none).map Fault.singular := by
  unfold reciprocal
  cases factor == 0 <;> rfl

theorem failure?_inverse_scaleAxes (factors : Vec α) :
    failure? (scaleAxes factors).inverse =
      (scaleAxes factors).zeroFactor?.map Fault.singular := by
  rw [inverse, failure?_bind fun x => failure?_bind fun y => failure?_return _]
  simp only [failure?_reciprocal, zeroFactor?, Axis.all, List.find?, Vec.get]
  cases factors.x == 0 <;> cases factors.y == 0 <;> cases factors.z == 0 <;> rfl

theorem failure?_inverse_of_single {t : Transform α} (ht : t.isChain = false) :
    failure? t.inverse = t.zeroFactor?.map Fault.singular := by
  cases t with
  | chain ts => cases ht
  | scaleUniform factor => rw [inverse, failure?_return, failure?_reciprocal, zeroFactor?]
  | scaleAxes factors => exact failure?_inverse_scaleAxes factors
  | scaleAlong axis factor => rw [inverse, failure?_return, failure?_reciprocal, zeroFactor?]
  | _ => rfl

/-- The steps are looked at from the last to the first, chains taken apart. -/
theorem failure?_inverse (t : Transform α) : failure? t.inverse =
    t.singles.reverse.findSome? fun s => s.zeroFactor?.map Fault.singular := by
  induction t using induction with
  | single t ht =>
    rw [failure?_inverse_of_single ht, singles_of_single ht, List.reverse_singleton,
      List.findSome?_singleton]
  | chain ts ih =>
    have hwalk := failure?_of_cons_rest (f := inverses) (g := inverse (α := α))
      (k := fun _ u parts => u.elements :: parts) rfl (fun _ _ => rfl) ts
    rw [inverse, failure?_return, hwalk, singles, singlesOf_eq_flatMap, List.reverse_flatMap,
      findSome?_flatMap]
    exact findSome?_congr fun t ht => ih t (List.mem_reverse.mp ht)

theorem exists_inverse_iff {t : Transform α} :
    (∃ u, t.inverse = .ok u) ↔ ∀ s ∈ t.singles, s.zeroFactor? = none := by
  rw [← failure?_eq_none, failure?_inverse, List.findSome?_eq_none_iff]
  simp only [List.mem_reverse, Option.map_eq_none_iff]

theorem inverse_error_iff {t : Transform α} {fault : Fault α} :
    t.inverse = .error fault ↔ ∃ before s after name, t.singles = before ++ s :: after ∧
      s.zeroFactor? = some name ∧ (∀ r ∈ after, r.zeroFactor? = none) ∧
        fault = .singular name := by
  rw [← failure?_eq_some, failure?_inverse, findSome?_reverse_eq_some_iff]
  simp only [Option.map_eq_some_iff, Option.map_eq_none_iff]
  constructor
  · rintro ⟨before, s, after, hsplit, ⟨name, hname, rfl⟩, hafter⟩
    exact ⟨before, s, after, name, hsplit, hname, hafter, rfl⟩
  · rintro ⟨before, s, after, name, hsplit, hname, hafter, rfl⟩
    exact ⟨before, s, after, hsplit, ⟨name, hname, rfl⟩, hafter⟩

end Faults

section Volumes

/-- How a single step multiplies volumes, reflections with a negative sign. -/
noncomputable def volume : Transform ℝ → ℝ
  | scaleUniform factor => factor ^ 3
  | scaleAxes factors => factors.x * factors.y * factors.z
  | scaleAlong _ factor => factor
  | _ => 1

theorem volume_eq_zero_iff (t : Transform ℝ) : t.volume = 0 ↔ t.zeroFactor? ≠ none := by
  cases t with
  | scaleUniform factor => simp [volume, zeroFactor?]
  | scaleAxes factors =>
    by_cases hx : factors.x = 0 <;> by_cases hy : factors.y = 0 <;>
      simp [volume, zeroFactor?, Axis.all, Vec.get, hx, hy]
  | scaleAlong axis factor => simp [volume, zeroFactor?]
  | _ => simp [volume, zeroFactor?]

theorem det_betweenMatrix {source : Vec ℝ} (hsource : source ≠ 0) (target : Vec ℝ) :
    (betweenMatrix source target).linearPart.det = 1 := by
  cases h : source.collinear target with
  | false =>
    rw [betweenMatrix_eq_axisAngle h]
    exact Mat.det_axisAngle (Vec.cross_ne_zero h) _
  | true =>
    rcases betweenAxis?_cases h with ⟨-, hnone, -⟩ | ⟨-, hhalf, -⟩
    · rw [betweenMatrix_of_none hnone]
      exact Mat.det_linearPart_one
    · obtain ⟨a, ha⟩ := Vec.exists_firstNonzero hsource
      rw [betweenMatrix, hhalf]
      exact Mat.det_axisAngle (Vec.normal_ne_zero ha) _

theorem det_matrix_of_single {t : Transform ℝ} (ht : t.Constructed) (hsingle : t.isChain = false) :
    t.matrix.linearPart.det = t.volume := by
  cases ht with
  | translate offset => exact Mat.det_displacement offset
  | around h =>
    obtain ⟨haxis, rfl⟩ := around_ok.mp h
    exact Mat.det_axisAngle (Vec.isZero_eq_false.mp haxis) _
  | rotateXyz angles => exact Mat.det_rotation_mul ..
  | rotateYpr yaw pitch roll =>
    rw [matrix_rotateYpr]
    exact Mat.det_rotation_mul ..
  | fromTo h =>
    obtain ⟨hsource, -, hvalue⟩ := fromTo_ok h
    rw [hvalue]
    exact det_betweenMatrix (Vec.isZero_eq_false.mp hsource) _
  | scaleUniform factor =>
    rw [matrix, Mat.det_scaling, volume]
    change factor * factor * factor = factor ^ 3
    ring
  | scaled factors => exact Mat.det_scaling factors
  | along h =>
    obtain ⟨haxis, rfl⟩ := along_ok.mp h
    exact Mat.det_axisScale (Vec.isZero_eq_false.mp haxis) _
  | chain h => cases hsingle

/-- The determinant is the product of the factors of all scales, at any nesting of chains. -/
theorem det_matrix {t : Transform ℝ} (ht : t.Constructed) :
    t.matrix.linearPart.det = (t.singles.map volume).prod := by
  have haffine : ∀ m ∈ t.singles.map matrix, m.IsAffine :=
    List.forall_mem_map.mpr fun s _ => s.isAffine_matrix
  rw [← matrix_singles, matrix_chain, Mat.det_linearPart_prod haffine, List.map_map]
  refine congrArg List.prod (List.map_congr_left fun s hs => ?_)
  exact det_matrix_of_single (ht.singles s hs) (single_of_mem_singles hs)

theorem exists_inverse_iff_isUnit {t : Transform ℝ} (ht : t.Constructed) :
    (∃ u, t.inverse = .ok u) ↔ IsUnit t.matrix := by
  rw [t.isAffine_matrix.isUnit_iff, det_matrix ht, Ne, List.prod_eq_zero_iff, exists_inverse_iff]
  simp only [List.mem_map, volume_eq_zero_iff, not_exists, not_and, not_not]

end Volumes

/-- Inversion fails exactly on singular transforms: if some scale has a factor that is zero, with
the fault of the last such scale. In exact arithmetic the factors of the scales make up the
determinant, so that these are the transforms whose matrix is not invertible. -/
theorem inverse_fails_iff_singular {α : Type} [Scalar α] :
    (∀ t : Transform α, (∃ fault, t.inverse = .error fault) ↔
      ∃ s ∈ t.singles, s.zeroFactor? ≠ none) ∧
    (∀ (t : Transform α) (fault : Fault α), t.inverse = .error fault ↔
      ∃ before s after name, t.singles = before ++ s :: after ∧ s.zeroFactor? = some name ∧
        (∀ r ∈ after, r.zeroFactor? = none) ∧ fault = .singular name) ∧
    ∀ t : Transform ℝ, t.Constructed →
      t.matrix.linearPart.det = (t.singles.map volume).prod ∧
        ((∃ u, t.inverse = .ok u) ↔ IsUnit t.matrix) := by
  refine ⟨fun t => ?_, fun t fault => inverse_error_iff,
    fun t ht => ⟨det_matrix ht, exists_inverse_iff_isUnit ht⟩⟩
  rw [exists_error_iff, exists_inverse_iff]
  simp only [not_forall, exists_prop, ne_eq]

/-- Two scales by zero, the last one in a chain of its own. -/
def collapsing : Transform ℝ :=
  chain [scaleUniform 0, chain [scaleAxes ⟨7, 0, 0⟩, rotateXyz ⟨0, 15, 0⟩], scaleAxes ⟨1, 8, 1⟩]

theorem constructed_collapsing : collapsing.Constructed := by
  have hscale (factors : Vec ℝ) : (scaleAxes factors).Constructed := .scaled factors
  have hinner : (chain [scaleAxes ⟨7, 0, 0⟩, rotateXyz ⟨0, 15, 0⟩] : Transform ℝ).Constructed :=
    .chain (by simp [Constructed.rotateXyz, hscale])
  exact .chain (by simp [Constructed.scaleUniform, hscale, hinner])

theorem inverse_fails_iff_singular_collapsing :
    collapsing.inverse = .error (.singular (.along .y)) ∧
      collapsing.Constructed ∧ ¬ IsUnit collapsing.matrix ∧
      turnedScale.Constructed ∧ turnedScale.matrix.linearPart.det = -20 ∧
      IsUnit turnedScale.matrix := by
  obtain ⟨-, hfault, hmatrix⟩ := inverse_fails_iff_singular (α := ℝ)
  have hinverse : collapsing.inverse = .error (.singular (.along .y)) := by
    rw [hfault]
    refine ⟨[scaleUniform 0], scaleAxes ⟨7, 0, 0⟩, [rotateXyz ⟨0, 15, 0⟩, scaleAxes ⟨1, 8, 1⟩],
      .along .y, rfl, ?_, ?_, rfl⟩ <;> simp [zeroFactor?, Axis.all, Vec.get]
  have hcollapsing := (hmatrix collapsing constructed_collapsing).2
  have hturned := hmatrix turnedScale constructed_turnedScale
  refine ⟨hinverse, constructed_collapsing, ?_, constructed_turnedScale, ?_,
    hturned.2.mp ⟨_, inverse_turnedScale⟩⟩
  · rw [← hcollapsing, hinverse]
    simp
  · rw [hturned.1]
    norm_num [turnedScale, singles, singlesOf, volume]

end SolidScene.Transform
