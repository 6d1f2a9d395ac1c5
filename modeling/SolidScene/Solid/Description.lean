import SolidScene.Solid.Basic
import SolidScene.Transform.Description

/-!
# Descriptions of solids

A solid in words, and the outline of a scene.
-/
namespace SolidScene

variable {α : Type} [Scalar α] [Numeral α]

/-- A primitive in words. A box of equal sides is a cube. -/
def Primitive.text : Primitive α → String
  | cuboid size =>
    if size.x == size.y && size.y == size.z then "Cube with size " ++ Numeral.text size.x
    else
      "Cuboid with width " ++ Numeral.text size.x ++ ", depth " ++ Numeral.text size.y ++
        ", and height " ++ Numeral.text size.z
  | sphere radius => "Sphere with radius " ++ Numeral.text radius
  | frustum base cap baseRadius capRadius =>
    "Frustum with base " ++ base.text ++ " (base radius " ++ Numeral.text baseRadius ++
      ") and cap " ++ cap.text ++ " (cap radius " ++ Numeral.text capRadius ++ ")"

namespace Solid

/-- A solid in words, without its parts. -/
def text : Solid α → String
  | primitive p => p.text
  | placed _ _ => "Transformed object"
  | combined kind _ => kind.text

mutual

/-- The tree of a solid. A placed solid has its transform and the solid below it. -/
def outline : Solid α → Outline
  | primitive p => .leaf p.text
  | placed t s => .node (placed t s).text [t.outline, s.outline]
  | combined kind parts => .node kind.text (outlines parts)

def outlines : List (Solid α) → List Outline
  | [] => []
  | s :: rest => s.outline :: outlines rest

end

end Solid

end SolidScene
