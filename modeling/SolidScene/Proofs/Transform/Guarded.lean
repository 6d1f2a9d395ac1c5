import SolidScene.Proofs.Listwise
import SolidScene.Proofs.Transform.Directions
import SolidScene.Proofs.Vector.Guarded
import SolidScene.Transform.Source

/-!
# Transforms under guard

The matrix of a transform and the calls that it is written as come to the same under guard, if none
of the vectors that it normalises is zero: no division by zero goes into them.
-/
namespace SolidScene

open Guarded (number)

namespace Scad

mutual

/-- The value with its numbers under guard. -/
def Value.guarded : Value ℝ → Value Guarded
  | .number n => .number (.number n)
  | .text s => .text s
  | .list items => .list (Value.guardedAll items)

def Value.guardedAll : List (Value ℝ) → List (Value Guarded)
  | [] => []
  | v :: vs => v.guarded :: Value.guardedAll vs

end

mutual

/-- The statement with its numbers under guard. -/
def Node.guarded : Node ℝ → Node Guarded
  | ⟨name, parameters, keywords, children, comment⟩ =>
    ⟨name, parameters.map Value.guarded, keywords.map fun k => (k.1, k.2.guarded),
      Node.guardedAll children, comment⟩

def Node.guardedAll : List (Node ℝ) → List (Node Guarded)
  | [] => []
  | n :: ns => n.guarded :: Node.guardedAll ns

end

theorem Node.guarded_commented (n : Node ℝ) (line : String) :
    n.guarded.commented line = (n.commented line).guarded := by
  cases n
  rfl

end Scad

namespace Transform

open Scad (Node)

mutual

/-- The transform with its numbers under guard. -/
def guarded : Transform ℝ → Transform Guarded
  | translate offset => translate offset.guarded
  | rotateAround axis angle => rotateAround axis.guarded (number angle)
  | rotateXyz angles => rotateXyz angles.guarded
  | rotateYpr yaw pitch roll => rotateYpr (number yaw) (number pitch) (number roll)
  | rotateFromTo source target anyAxis => rotateFromTo source.guarded target.guarded anyAxis
  | scaleUniform factor => scaleUniform (number factor)
  | scaleAxes factors => scaleAxes factors.guarded
  | scaleAlong axis factor => scaleAlong axis.guarded (number factor)
  | chain steps => chain (guardedAll steps)

def guardedAll : List (Transform ℝ) → List (Transform Guarded)
  | [] => []
  | t :: ts => t.guarded :: guardedAll ts

end

theorem guarded_eulerSteps (yaw pitch roll : ℝ) :
    eulerSteps (number yaw) (number pitch) (number roll) =
      (eulerSteps yaw pitch roll).map Vec.guarded := by
  have hne (x : ℝ) : (number x != 0) = (x != 0) := rfl
  simp only [eulerSteps, hne]
  split <;> split <;> rfl

theorem guarded_betweenAxis (u v : Vec ℝ) :
    betweenAxis? u.guarded v.guarded =
      (betweenAxis? u v).map fun turn => (turn.1.guarded, number turn.2) := by
  have hlt : Scalar.lt 0 (number (u.dot v)) = Scalar.lt 0 (u.dot v) := rfl
  rw [betweenAxis?, betweenAxis?, Vec.guarded_collinear, Vec.guarded_dot, hlt, Vec.guarded_normal,
    Vec.guarded_cross, Vec.guarded_angleTo]
  cases u.collinear v with
  | false => rfl
  | true => cases Scalar.lt 0 (u.dot v) <;> rfl

theorem guarded_alignedAxis (axis : Vec ℝ) : alignedAxis? axis.guarded = alignedAxis? axis := by
  have htest (a : Axis) : axis.guarded.collinear (Vec.unit a) = axis.collinear (Vec.unit a) := by
    rw [← Vec.guarded_unit, Vec.guarded_collinear]
  simp only [alignedAxis?, htest]

theorem guarded_factorsAlong (a : Axis) (factor : ℝ) :
    factorsAlong a (number factor) = (factorsAlong a factor).guarded := by
  cases a <;> rfl

theorem guarded_alignedFactors (closest : Vec ℝ) (factor : ℝ) :
    alignedFactors closest.guarded (number factor) = (alignedFactors closest factor).guarded := by
  rw [alignedFactors, Vec.guarded_dominantAxis, guarded_factorsAlong, alignedFactors]

section Matrices

theorem guarded_eulerMatrix (angles : Vec ℝ) :
    eulerMatrix angles.guarded = (eulerMatrix angles).guarded := by
  have hradians (x : ℝ) : Scalar.toRadians (number x) = number (Scalar.toRadians x) := rfl
  rw [eulerMatrix, Vec.guarded, hradians, hradians, hradians, Mat.guarded_rotation,
    Mat.guarded_rotation, Mat.guarded_rotation, Mat.guarded_mul, Mat.guarded_mul, eulerMatrix]

theorem guarded_betweenMatrix {u v : Vec ℝ} (h : ∀ axis ∈ betweenAxes u v, axis ≠ 0) :
    betweenMatrix u.guarded v.guarded = (betweenMatrix u v).guarded := by
  rw [betweenMatrix, betweenMatrix, guarded_betweenAxis]
  cases hturn : betweenAxis? u v with
  | none => rfl
  | some turn =>
    have haxis : turn.1 ≠ 0 := h _ (mem_betweenAxes.mpr ⟨turn.2, hturn⟩)
    exact Mat.guarded_axisAngle haxis turn.2

theorem guarded_matrices {ts : List (Transform ℝ)}
    (h : ∀ t ∈ ts, t.guarded.matrix = t.matrix.guarded) :
    matrices (guardedAll ts) = (matrices ts).map Mat.guarded := by
  induction ts with
  | nil => rfl
  | cons t ts ih =>
    rw [List.forall_mem_cons] at h
    rw [guardedAll, matrices, matrices, List.map_cons, h.1, ih h.2]

/-- Only the vectors that are normalised matter, in every step of a chain. -/
theorem guarded_matrix {t : Transform ℝ} :
    (∀ v ∈ t.normalized, v ≠ 0) → t.guarded.matrix = t.matrix.guarded := by
  induction t using induction with
  | single t ht =>
    rw [normalized_of_single ht]
    intro h
    cases t with
    | chain ts => cases ht
    | translate offset => exact Mat.guarded_displacement offset
    | rotateAround axis angle => exact Mat.guarded_axisAngle (h axis (.head _)) angle
    | rotateXyz angles => exact guarded_eulerMatrix angles
    | rotateYpr yaw pitch roll =>
      rw [guarded, matrix, matrix, guarded_eulerSteps, List.map_map, ← Mat.guarded_product,
        List.map_map]
      rfl
    | rotateFromTo source target anyAxis => exact guarded_betweenMatrix h
    | scaleUniform factor => exact Mat.guarded_scaling (Vec.repeated factor)
    | scaleAxes factors => exact Mat.guarded_scaling factors
    | scaleAlong axis factor => exact Mat.guarded_axisScale (h axis (.head _)) factor
  | chain ts ih =>
    intro h
    have hsteps : ∀ t ∈ ts, t.guarded.matrix = t.matrix.guarded := fun t ht =>
      ih t ht fun v hv => h v (mem_normalized_chain.mpr ⟨t, ht, hv⟩)
    rw [guarded, matrix, matrix, guarded_matrices hsteps, ← Mat.guarded_product, Mat.guarded_one]

end Matrices

section Calls

theorem guarded_vectorCall (name : String) (v : Vec ℝ) (x : Option (Node ℝ)) :
    vectorCall name v.guarded (x.map Node.guarded) = (vectorCall name v x).guarded := by
  cases x <;> rfl

theorem guarded_rotateCall (axis : Vec ℝ) (angle : ℝ) (x : Option (Node ℝ)) :
    rotateCall axis.guarded (number angle) (x.map Node.guarded) =
      (rotateCall axis angle x).guarded := by
  cases x <;> rfl

theorem guarded_eulerNode (steps : List (Vec ℝ)) (x : Option (Node ℝ)) :
    eulerNode? (steps.map Vec.guarded) (x.map Node.guarded) =
      (eulerNode? steps x).map Node.guarded := by
  induction steps with
  | nil => rfl
  | cons angles steps ih =>
    rw [List.map_cons, eulerNode?, List.foldr_cons, ← eulerNode?, ih, guarded_vectorCall]
    rfl

variable [Numeral ℝ]

theorem guarded_yprText (yaw pitch roll : ℝ) :
    yprText (number yaw) (number pitch) (number roll) = yprText yaw pitch roll := by
  have hparts : [(number yaw, "yaw"), (number pitch, "pitch"), (number roll, "roll")] =
      [(yaw, "yaw"), (pitch, "pitch"), (roll, "roll")].map fun part => (number part.1, part.2) :=
    rfl
  simp only [yprText]
  rw [hparts, List.filter_map, List.map_map]
  rfl

theorem guarded_betweenNode {u v : Vec ℝ} (h : ∀ axis ∈ betweenAxes u v, axis ≠ 0)
    (x : Option (Node ℝ)) :
    betweenNode u.guarded v.guarded (x.map Node.guarded) = (betweenNode u v x).guarded := by
  rw [betweenNode, betweenNode, guarded_betweenAxis]
  cases hturn : betweenAxis? u v with
  | none => cases x <;> rfl
  | some turn =>
    have haxis : turn.1 ≠ 0 := h _ (mem_betweenAxes.mpr ⟨turn.2, hturn⟩)
    simp only [Option.map_some, Vec.guarded_normalize.mpr haxis, guarded_rotateCall, fromToText,
      Vec.guarded_text]
    exact Node.guarded_commented _ _

theorem guarded_yprNode (yaw pitch roll : ℝ) (x : Option (Node ℝ)) :
    yprNode (number yaw) (number pitch) (number roll) (x.map Node.guarded) =
      (yprNode yaw pitch roll x).guarded := by
  rw [yprNode, yprNode, guarded_eulerSteps, guarded_yprText, ← Node.guarded_commented]
  cases eulerSteps yaw pitch roll with
  | nil => exact congrArg (Node.commented · _) (guarded_vectorCall "rotate" 0 x)
  | cons first rest =>
    simp only [List.map_cons, guarded_eulerNode, guarded_vectorCall]

theorem guarded_alongNode {axis : Vec ℝ} {factor : ℝ}
    (h : ∀ v ∈ (scaleAlong axis factor).ownNormalized, v ≠ 0) (x : Option (Node ℝ)) :
    alongNode axis.guarded (number factor) (x.map Node.guarded) =
      (alongNode axis factor x).guarded := by
  simp only [ownNormalized, List.forall_mem_cons, List.forall_mem_append] at h
  obtain ⟨-, hforth, hback⟩ := h
  have hone : (number factor == 1) = (factor == 1) := rfl
  rw [alongNode, alongNode, hone, guarded_alignedAxis]
  split
  · exact guarded_vectorCall "scale" (Vec.repeated 1) x
  · cases alignedAxis? axis with
    | some a =>
      simp only [guarded_factorsAlong]
      exact guarded_vectorCall "scale" _ x
    | none =>
      have hinner := guarded_betweenNode hback x
      have hscale := guarded_vectorCall "scale" (alignedFactors axis.closestAxis factor)
        (some (betweenNode axis axis.closestAxis x))
      have houter := guarded_betweenNode hforth (some (vectorCall "scale"
        (alignedFactors axis.closestAxis factor) (some (betweenNode axis axis.closestAxis x))))
      rw [Option.map_some] at hscale houter
      simp only [Vec.guarded_closestAxis, guarded_alignedFactors, hinner, hscale, houter]

theorem guarded_stepsNode {ts : List (Transform ℝ)}
    (h : ∀ t ∈ ts, ∀ x, t.guarded.node (x.map Node.guarded) = (t.node x).guarded)
    (x : Option (Node ℝ)) :
    stepsNode? (guardedAll ts) (x.map Node.guarded) = (stepsNode? ts x).map Node.guarded := by
  induction ts with
  | nil => rfl
  | cons t ts ih =>
    rw [List.forall_mem_cons] at h
    rw [guardedAll, stepsNode?, ih h.2, h.1]
    rfl

theorem guarded_node {t : Transform ℝ} :
    (∀ v ∈ t.normalized, v ≠ 0) →
      ∀ x, t.guarded.node (x.map Node.guarded) = (t.node x).guarded := by
  induction t using induction with
  | single t ht =>
    rw [normalized_of_single ht]
    intro h x
    cases t with
    | chain ts => cases ht
    | translate offset => exact guarded_vectorCall "translate" offset x
    | rotateAround axis angle => exact guarded_rotateCall axis angle x
    | rotateXyz angles => exact guarded_vectorCall "rotate" angles x
    | rotateYpr yaw pitch roll => exact guarded_yprNode yaw pitch roll x
    | rotateFromTo source target anyAxis => exact guarded_betweenNode h x
    | scaleUniform factor => exact guarded_vectorCall "scale" (Vec.repeated factor) x
    | scaleAxes factors => exact guarded_vectorCall "scale" factors x
    | scaleAlong axis factor => exact guarded_alongNode h x
  | chain ts ih =>
    intro h x
    have hsteps : ∀ t ∈ ts, ∀ x, t.guarded.node (x.map Node.guarded) = (t.node x).guarded :=
      fun t ht => ih t ht fun v hv => h v (mem_normalized_chain.mpr ⟨t, ht, hv⟩)
    rw [guarded, node, node, guarded_stepsNode hsteps]
    cases stepsNode? ts x <;> rfl

end Calls

/-- What makes the divisions of a transform safe: the directions that it stores, the axes that it
turns around, the directions between which its scales turn, and all that it divides by a length. A
division by zero would show in its matrix or its calls under guard. -/
structure DividesSafely (t : Transform ℝ) : Prop where
  directions : ∀ v ∈ t.directions, v ≠ 0
  turns : ∀ u v anyAxis, rotateFromTo u v anyAxis ∈ t.singles →
    ∀ axis angle, betweenAxis? u v = some (axis, angle) → axis ≠ 0
  scales : ∀ axis factor, scaleAlong axis factor ∈ t.singles →
    (scaleAlong axis factor).equivalent? = some (chain [rotateFromTo axis.closestAxis axis true,
      scaleAxes (alignedFactors axis.closestAxis factor),
      rotateFromTo axis axis.closestAxis true]) ∧
      axis.closestAxis.isZero = false ∧ axis.isZero = false
  normalized : ∀ v ∈ t.normalized, v ≠ 0 ∧ v.norm ≠ 0
  matrix : t.guarded.matrix = t.matrix.guarded
  node : ∀ [Numeral ℝ] x, t.guarded.node (x.map Node.guarded) = (t.node x).guarded

theorem Constructed.dividesSafely {t : Transform ℝ} (ht : t.Constructed) : t.DividesSafely := by
  have hdirections := directions_ne_zero ht
  have hnormalized := normalized_ne_zero hdirections
  have hown {s : Transform ℝ} (hs : s ∈ t.singles) := ownDirections_ne_zero (ht.singles s hs)
  exact {
    directions := hdirections
    turns := fun u _ _ hs _ _ => axis_ne_zero_of_between (hown hs u (.head _))
    scales := fun axis _ hs => ⟨rfl, Vec.isZero_eq_false.mpr (closestAxis_ne_zero axis),
      Vec.isZero_eq_false.mpr (hown hs axis (.head _))⟩
    normalized := fun v hv => ⟨hnormalized v hv, (Vec.norm_pos (hnormalized v hv)).ne'⟩
    matrix := guarded_matrix hnormalized
    node := guarded_node hnormalized }

end Transform

end SolidScene
