import SolidScene.Proofs.Action
import SolidScene.Proofs.Matrix.Affine
import SolidScene.Proofs.Transform.Flat
import SolidScene.Proofs.Transform.Product

/-!
# How transforms act on points

In exact arithmetic every transform has an affine matrix, composition multiplies the matrices, and
the nesting of chains does not show in them. A row of transforms in front of a point therefore takes
it to the same place under all groupings.
-/
namespace SolidScene.Transform

theorem isAffine_eulerMatrix (angles : Vec ℝ) : (eulerMatrix angles).IsAffine :=
  ((Mat.isAffine_rotation _ _).mul (Mat.isAffine_rotation _ _)).mul (Mat.isAffine_rotation _ _)

theorem isAffine_betweenMatrix (source target : Vec ℝ) :
    (betweenMatrix source target).IsAffine := by
  unfold betweenMatrix
  split
  · exact Mat.isAffine_axisAngle _ _
  · exact Mat.isAffine_one

theorem isAffine_matrix (t : Transform ℝ) : t.matrix.IsAffine := by
  induction t using induction with
  | single t ht =>
    cases t with
    | chain ts => cases ht
    | rotateAround axis angle => exact Mat.isAffine_axisAngle axis angle
    | rotateXyz angles => exact isAffine_eulerMatrix angles
    | rotateYpr yaw pitch roll =>
      rw [matrix_rotateYpr]
      exact ((Mat.isAffine_rotation _ _).mul (Mat.isAffine_rotation _ _)).mul
        (Mat.isAffine_rotation _ _)
    | rotateFromTo source target anyAxis => exact isAffine_betweenMatrix source target
    | translate offset => rfl
    | scaleUniform factor => rfl
    | scaleAxes factors => rfl
    | scaleAlong axis factor => rfl
  | chain ts ih =>
    rw [matrix_chain]
    exact Mat.isAffine_prod (List.forall_mem_map.mpr ih)

/-- The matrix of a transform is that of its single steps, chains taken apart at every depth. -/
theorem matrix_singles (t : Transform ℝ) : (chain t.singles).matrix = t.matrix := by
  rw [matrix_chain]
  induction t using induction with
  | single t ht => rw [singles_of_single ht, List.map_singleton, List.prod_singleton]
  | chain ts ih =>
    rw [singles, singlesOf_eq_flatMap, matrix_chain]
    induction ts with
    | nil => rfl
    | cons t ts ihts =>
      rw [List.forall_mem_cons] at ih
      rw [List.flatMap_cons, List.map_append, List.prod_append, ih.1, ihts ih.2, List.map_cons,
        List.prod_cons]

theorem compose_point (t u : Transform ℝ) (p : Vec ℝ) : t * u * p = t * (u * p) := by
  change (t * u).matrix.apply p = t.matrix.apply (u.matrix.apply p)
  rw [matrix_mul, Mat.apply_mul t.isAffine_matrix u.isAffine_matrix]

/-- The point to which a row of transforms takes the point behind it. -/
noncomputable def pointOfAction (a : Action (Transform ℝ) (Vec ℝ)) : Vec ℝ :=
  a.result (fun t u : Transform ℝ => t * u) fun (t : Transform ℝ) (p : Vec ℝ) => t * p

/-- Composition multiplies matrices, which are affine and do not depend on the nesting of chains,
and a row of transforms takes a point where its transforms take it one by one. -/
theorem matrix_composes :
    (∀ t : Transform ℝ, t.matrix.w = ⟨0, 0, 0, 1⟩) ∧
      (∀ t u : Transform ℝ, (t * u).matrix = t.matrix * u.matrix) ∧
      (∀ t : Transform ℝ, (chain t.singles).matrix = t.matrix) ∧
      ∀ a : Action (Transform ℝ) (Vec ℝ),
        pointOfAction a = a.operators.foldr (fun t p => t * p) a.target :=
  ⟨isAffine_matrix, matrix_mul, matrix_singles, fun a => Action.result_eq_foldr compose_point a⟩

end SolidScene.Transform
