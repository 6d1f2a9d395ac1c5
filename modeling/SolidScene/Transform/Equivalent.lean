import SolidScene.Transform.Basic

/-!
# Equivalent steps

Two elementary transforms are composed of simpler ones: yaw, pitch and roll of rotations around
fixed axes, and a scale along any axis of a scale along the closest coordinate axis between two
rotations. A rotation between directions comes down to an axis and an angle.
-/
namespace SolidScene.Transform

variable {α : Type} [Scalar α]

/-- Yaw, pitch and roll as rotations around fixed axes, without those that do nothing. -/
def eulerSteps (yaw pitch roll : α) : List (Vec α) :=
  (if yaw != 0 || pitch != 0 then [⟨pitch, 0, yaw⟩] else []) ++
    (if roll != 0 then [⟨0, roll, 0⟩] else [])

/-- The axis, of any length, and the angle of the shortest rotation between two directions; none
if they are the same. Opposite directions are turned around a normal of the first one. -/
def betweenAxis? (source target : Vec α) : Option (Vec α × α) :=
  if source.collinear target then
    if Scalar.lt 0 (source.dot target) then none
    else some (source.normal, Scalar.halfTurn)
  else some (source.cross target, source.angleTo target)

/-- The factors that scale along one coordinate axis only. -/
def factorsAlong (axis : Axis) (factor : α) : Vec α := (Vec.repeated 1).set axis factor

/-- The factors of the middle step of a scale along an axis, which scales along the coordinate axis
`closest`. -/
def alignedFactors (closest : Vec α) (factor : α) : Vec α :=
  factorsAlong closest.dominantAxis factor

/-- The simpler steps that a transform is defined by, if it is one of the two composed ones. -/
def equivalent? : Transform α → Option (Transform α)
  | rotateYpr yaw pitch roll => some (chain ((eulerSteps yaw pitch roll).map rotateXyz))
  | scaleAlong axis factor =>
    let closest := axis.closestAxis
    some (chain [rotateFromTo closest axis true, scaleAxes (alignedFactors closest factor),
      rotateFromTo axis closest true])
  | _ => none

end SolidScene.Transform
