import SolidScene.Scad.Node
import SolidScene.Transform.Description
import SolidScene.Transform.Equivalent

/-!
# Transforms in scene source

A transform becomes calls of `translate`, `rotate` and `scale` wrapped around a target, the first
step of a chain outermost. A comment tells what a composed call stands for. Rendering never fails;
what cannot be emitted is found when the statements are.
-/
namespace SolidScene.Transform

open Scad (Node Value)

variable {α : Type}

/-- A call with one list of three numbers, wrapped around a target. -/
def vectorCall (name : String) (v : Vec α) (target : Option (Node α)) : Node α :=
  ((Node.call name).param (.ofVec v)).onto target

def rotateCall (axis : Vec α) (angle : α) (target : Option (Node α)) : Node α :=
  (((Node.call "rotate").keyword "a" (.number angle)).keyword "v" (.ofVec axis)).onto target

variable [Scalar α] [Numeral α]

/-- A rotation between directions. If they are the same, the target stays as it is. -/
def betweenNode (source goal : Vec α) (target : Option (Node α)) : Node α :=
  match betweenAxis? source goal with
  | some (axis, angle) =>
    (rotateCall axis.normalize angle target).commented (fromToText source goal)
  | none => target.getD (vectorCall "rotate" 0 none)

/-- Rotations around the coordinate axes, wrapped around a target, the first one outermost. -/
def eulerNode? (steps : List (Vec α)) (target : Option (Node α)) : Option (Node α) :=
  steps.foldr (fun angles inner => some (vectorCall "rotate" angles inner)) target

/-- Yaw, pitch and roll; an explicit rotation by nothing if all three are zero. -/
def yprNode (yaw pitch roll : α) (target : Option (Node α)) : Node α :=
  let node :=
    match eulerSteps yaw pitch roll with
    | [] => vectorCall "rotate" 0 target
    | first :: rest => vectorCall "rotate" first (eulerNode? rest target)
  node.commented (yprText yaw pitch roll)

/-- The coordinate axis that a vector is collinear with, if there is one. -/
def alignedAxis? (axis : Vec α) : Option Axis :=
  Axis.all.find? fun a => axis.collinear (Vec.unit a)

/-- A scale along an axis: a plain scale by one or along a coordinate axis, and otherwise a scale
along the closest coordinate axis between two rotations. -/
def alongNode (axis : Vec α) (factor : α) (target : Option (Node α)) : Node α :=
  if factor == 1 then vectorCall "scale" (Vec.repeated 1) target
  else
    match alignedAxis? axis with
    | some a => vectorCall "scale" (factorsAlong a factor) target
    | none =>
      let closest := axis.closestAxis
      betweenNode closest axis (some (vectorCall "scale" (alignedFactors closest factor)
        (some (betweenNode axis closest target))))

mutual

/-- The calls of a transform around a target. The empty chain without a target is the empty
statement. -/
def node : Transform α → Option (Node α) → Node α
  | translate offset, target => vectorCall "translate" offset target
  | rotateAround axis angle, target => rotateCall axis angle target
  | rotateXyz angles, target => vectorCall "rotate" angles target
  | rotateYpr yaw pitch roll, target => yprNode yaw pitch roll target
  | rotateFromTo source goal _, target => betweenNode source goal target
  | scaleUniform factor, target => vectorCall "scale" (Vec.repeated factor) target
  | scaleAxes factors, target => vectorCall "scale" factors target
  | scaleAlong axis factor, target => alongNode axis factor target
  | chain steps, target => (stepsNode? steps target).getD Node.empty

/-- The calls of a list of steps around a target, the first step outermost. -/
def stepsNode? : List (Transform α) → Option (Node α) → Option (Node α)
  | [], target => target
  | t :: ts, target => some (t.node (stepsNode? ts target))

end

end SolidScene.Transform
