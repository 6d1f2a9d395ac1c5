import SolidScene.Matrix
import SolidScene.Transform.Equivalent

/-!
# The matrix of a transform

A chain is the product of its steps, taken from the left. A scale along an axis has a matrix of its
own, which is not computed through its equivalent steps.
-/
namespace SolidScene.Transform

variable {α : Type} [Scalar α]

/-- Rotation around X, then Y, then Z, angles in degrees. -/
def eulerMatrix (angles : Vec α) : Mat α :=
  Mat.rotation .z (Scalar.toRadians angles.z) * Mat.rotation .y (Scalar.toRadians angles.y) *
    Mat.rotation .x (Scalar.toRadians angles.x)

/-- The shortest rotation between two directions. -/
def betweenMatrix (source target : Vec α) : Mat α :=
  match betweenAxis? source target with
  | some (axis, angle) => Mat.axisAngle axis angle
  | none => 1

mutual

/-- The matrix in homogeneous coordinates. -/
def matrix : Transform α → Mat α
  | translate offset => Mat.displacement offset
  | rotateAround axis angle => Mat.axisAngle axis angle
  | rotateXyz angles => eulerMatrix angles
  | rotateYpr yaw pitch roll => Mat.product 1 ((eulerSteps yaw pitch roll).map eulerMatrix)
  | rotateFromTo source target _ => betweenMatrix source target
  | scaleUniform factor => Mat.scaling (Vec.repeated factor)
  | scaleAxes factors => Mat.scaling factors
  | scaleAlong axis factor => Mat.axisScale axis factor
  | chain steps => Mat.product 1 (matrices steps)

def matrices : List (Transform α) → List (Mat α)
  | [] => []
  | t :: ts => t.matrix :: matrices ts

end

instance : HMul (Transform α) (Vec α) (Vec α) := ⟨fun t p => t.matrix.apply p⟩

end SolidScene.Transform
