import SolidScene.Transform.Basic

/-!
# Inverse transforms

Only a scale by zero has no inverse. The inverse of a chain takes its steps in reverse order and
splices in those inverses that are chains themselves, so that it does not nest.
-/
namespace SolidScene.Transform

variable {α : Type} [Scalar α]

def reciprocal (factor : α) (name : FactorName) : Except (Fault α) α :=
  if factor == 0 then .error (.singular name) else .ok (1 / factor)

mutual

/-- The transform that undoes `t`, or the fault of the last scale in it that has none. -/
def inverse : Transform α → Except (Fault α) (Transform α)
  | translate offset => .ok (translate (-offset))
  | rotateAround axis angle => .ok (rotateAround (-axis) angle)
  | rotateXyz angles =>
    .ok (rotateXyz ⟨-angles.x, 0, 0⟩ * rotateXyz ⟨0, -angles.y, 0⟩ * rotateXyz ⟨0, 0, -angles.z⟩)
  | rotateYpr yaw pitch roll =>
    .ok (rotateYpr 0 0 (-roll) * rotateYpr 0 (-pitch) 0 * rotateYpr (-yaw) 0 0)
  | rotateFromTo source target anyAxis => .ok (rotateFromTo target source anyAxis)
  | scaleUniform factor => do return scaleUniform (← reciprocal factor .only)
  | scaleAxes factors => do
    let x ← reciprocal factors.x (.along .x)
    let y ← reciprocal factors.y (.along .y)
    let z ← reciprocal factors.z (.along .z)
    return scaleAxes ⟨x, y, z⟩
  | scaleAlong axis factor => do return scaleAlong axis (← reciprocal factor .only)
  | chain steps => do return chain (← inverses steps).reverse.flatten

/-- The elements of the inverse of each step. The last step is looked at first. -/
def inverses : List (Transform α) → Except (Fault α) (List (List (Transform α)))
  | [] => .ok []
  | t :: ts => do
    let rest ← inverses ts
    let first ← t.inverse
    return first.elements :: rest

end

end SolidScene.Transform
