import SolidScene.Transform.Basic

/-!
# Named directions

X points right, Y forward, and Z up. Each name moves or turns by an amount; its opposite negates
the amount.
-/
namespace SolidScene

inductive Direction where
  | right
  | left
  | forward
  | back
  | up
  | down
  | yawLeft
  | yawRight
  | pitchUp
  | pitchDown
  | rollRight
  | rollLeft
deriving DecidableEq, Repr

/-- The transform that goes by an amount, or by an angle in degrees, in a direction. -/
def Direction.by {α : Type} [Scalar α] (d : Direction) (amount : α) : Transform α :=
  match d with
  | right => .translate ⟨amount, 0, 0⟩
  | left => .translate ⟨-amount, 0, 0⟩
  | forward => .translate ⟨0, amount, 0⟩
  | back => .translate ⟨0, -amount, 0⟩
  | up => .translate ⟨0, 0, amount⟩
  | down => .translate ⟨0, 0, -amount⟩
  | yawLeft => .rotateYpr amount 0 0
  | yawRight => .rotateYpr (-amount) 0 0
  | pitchUp => .rotateYpr 0 amount 0
  | pitchDown => .rotateYpr 0 (-amount) 0
  | rollRight => .rotateYpr 0 0 amount
  | rollLeft => .rotateYpr 0 0 (-amount)

end SolidScene
