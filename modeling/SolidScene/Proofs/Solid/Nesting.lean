import SolidScene.Proofs.Transform.Nesting

/-!
# Solids as nested statements

A frustum is written as a row of calls around a cylinder that stands on the origin, a placed solid
as the calls of its transform around the solid, and a combination as a call with its parts below
it. An induction over solids goes along.
-/
namespace SolidScene

open Scad (Node)
open Transform (nest)

variable {α : Type}

namespace Solid

/-- A property of all solids, if it passes from the solid inside to a placed one, and from the
parts to a combination. -/
theorem induction {Q : Solid α → Prop} (primitive : ∀ p, Q (primitive p))
    (placed : ∀ t s, Q s → Q (placed t s))
    (combined : ∀ kind ps, (∀ p ∈ ps, Q p) → Q (combined kind ps)) : ∀ s, Q s
  | .primitive p => primitive p
  | .placed t s => placed t s (induction primitive placed combined s)
  | .combined kind ps => combined kind ps fun p _ => induction primitive placed combined p

end Solid

variable [Scalar α] [Numeral α]

/-- A statement turned from `Z` into a direction, unless it is there or has no direction to take. -/
def turnedNode (v : Vec α) (x : Node α) : Node α :=
  if Scalar.lt 0 v.norm && (v / v.norm) != Vec.unit .z then
    Transform.betweenNode (Vec.unit .z) (v / v.norm) (some x)
  else x

/-- A statement moved from the origin to a point, unless it stays. -/
def movedNode (base : Vec α) (x : Node α) : Node α :=
  if base != 0 then Transform.vectorCall "translate" base (some x) else x

theorem frustumNode_eq (base cap : Vec α) (baseRadius capRadius : α) :
    frustumNode base cap baseRadius capRadius = movedNode base
      (turnedNode (cap - base) (standingFrustum (cap - base).norm baseRadius capRadius)) := rfl

/-- The calls that move and turn a frustum that stands on the origin. -/
def frustumCalls (base cap : Vec α) : List (Node α) :=
  let axis := cap - base
  (if base != 0 then [Transform.vectorCall "translate" base none] else []) ++
    if Scalar.lt 0 axis.norm && (axis / axis.norm) != Vec.unit .z then
      Transform.betweenCalls (Vec.unit .z) (axis / axis.norm)
    else []

theorem frustumNode_eq_nest (base cap : Vec α)
    (baseRadius capRadius : α) :
    frustumNode base cap baseRadius capRadius =
      nest (frustumCalls base cap)
        (standingFrustum (cap - base).norm baseRadius capRadius) := by
  simp only [frustumNode_eq, movedNode, turnedNode, frustumCalls, Transform.betweenNode_eq_nest,
    Transform.nest_append]
  split <;> split <;> rfl

namespace Solid

theorem nodes_eq_map (ps : List (Solid α)) :
    nodes ps = ps.map node := eq_map_of_cons rfl (fun _ _ => rfl) ps

end Solid

end SolidScene
