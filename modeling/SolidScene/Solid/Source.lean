import SolidScene.Solid.Basic
import SolidScene.Transform.Source

/-!
# Solids in scene source

A primitive becomes a call of `cube`, `sphere` or `cylinder`, a combination a call with its parts
as children. A cylinder of scene source stands on the origin along Z, so a frustum is turned into
its direction and moved to its base.
-/
namespace SolidScene

open Scad (Node Value)

variable {α : Type} [Scalar α] [Numeral α]

/-- A frustum of a given length on the origin along Z. -/
def standingFrustum (length baseRadius capRadius : α) : Node α :=
  let node := (Node.call "cylinder").param (.number length)
  if baseRadius == capRadius then node.keyword "r" (.number baseRadius)
  else (node.keyword "r1" (.number baseRadius)).keyword "r2" (.number capRadius)

/-- A frustum between two points: turned unless it has no length or points up, and moved unless its
base is the origin. -/
def frustumNode (base cap : Vec α) (baseRadius capRadius : α) : Node α :=
  let axis := cap - base
  let length := axis.norm
  let standing := standingFrustum length baseRadius capRadius
  let turned :=
    if Scalar.lt 0 length && (axis / length) != Vec.unit .z then
      Transform.betweenNode (Vec.unit .z) (axis / length) (some standing)
    else standing
  if base != 0 then Transform.vectorCall "translate" base (some turned) else turned

def Primitive.node : Primitive α → Node α
  | cuboid size => (Node.call "cube").param (.ofVec size)
  | sphere radius => (Node.call "sphere").param (.number radius)
  | frustum base cap baseRadius capRadius => frustumNode base cap baseRadius capRadius

namespace Solid

mutual

def node : Solid α → Node α
  | primitive p => p.node
  | placed t s => t.node (some s.node)
  | combined kind parts => (Node.call kind.call).adopt (nodes parts)

def nodes : List (Solid α) → List (Node α)
  | [] => []
  | s :: rest => s.node :: nodes rest

end

end Solid

end SolidScene
