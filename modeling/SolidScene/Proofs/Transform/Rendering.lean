import SolidScene.Proofs.Transform.Between
import SolidScene.Proofs.Transform.Calls
import SolidScene.Proofs.Transform.Constructed
import SolidScene.Proofs.Transform.Product

/-!
# Scene source moves as the matrix does

The calls that a transform is written as, read by what they stand for in scene source, move a
target by the matrix of the transform, in exact arithmetic and whatever the numbers look like. The
same holds of the simpler steps that a transform is equivalent to. A scale along an axis that is
collinear with a coordinate axis by the tolerance only is left out: it is written as a scale along
the coordinate axis, which is another map.
-/
namespace SolidScene.Transform

open Scad (Node)
open Scad.Node (Draws draws_self draws_call)

variable (x : Node ℝ)

theorem draws_translate (offset : Vec ℝ) :
    (vectorCall "translate" offset (some x)).Draws x (Mat.displacement offset) :=
  draws_call (congrArg some (translation_eq offset)) rfl

theorem matrix?_rotateCall (axis : Vec ℝ) (angle : ℝ) (target : Option (Node ℝ)) :
    (rotateCall axis angle target).matrix? = some (Mat.axisAngle axis angle) :=
  congrArg some (rotationAbout_eq axis angle)

section Rendering

variable [Numeral ℝ]

theorem draws_between (source goal : Vec ℝ) :
    (betweenNode source goal (some x)).Draws x (betweenMatrix source goal) := by
  unfold betweenNode betweenMatrix
  cases betweenAxis? source goal with
  | none => exact draws_self x
  | some found =>
    obtain ⟨axis, angle⟩ := found
    have hmatrix : Mat.axisAngle axis.normalize angle = Mat.axisAngle axis angle := by
      rw [Mat.axisAngle_eq, Mat.axisAngle_eq, Vec.normalize_normalize]
    have hcall := matrix?_rotateCall axis.normalize angle (some x)
    rw [hmatrix] at hcall
    exact draws_call hcall rfl

end Rendering

end SolidScene.Transform
