import SolidScene.Solid.Algebra
import SolidScene.Transform.Matrix

/-!
# Operands

Values whose kind is only known when a scene is put together. The operators apply to those pairs of
kinds for which they mean something; any other pair is a fault.
-/
namespace SolidScene

inductive Operand (α : Type) where
  | vector (v : Vec α)
  | transform (t : Transform α)
  | solid (s : Solid α)
deriving Repr

namespace Operand

variable {α : Type}

def kind : Operand α → OperandKind
  | vector _ => .vector
  | transform _ => .transform
  | solid _ => .solid

def apply [Scalar α] (op : Operator) (lhs rhs : Operand α) : Except (Fault α) (Operand α) :=
  match op, lhs, rhs with
  | .add, solid a, solid b => .ok (solid (a + b))
  | .sub, solid a, solid b => .ok (solid (a - b))
  | .mul, solid a, solid b => .ok (solid (a * b))
  | .mul, transform a, transform b => .ok (transform (a * b))
  | .mul, transform t, solid s => .ok (solid (t * s))
  | .mul, transform t, vector v => .ok (vector (t * v))
  | .add, vector a, vector b => .ok (vector (a + b))
  | .sub, vector a, vector b => .ok (vector (a - b))
  | op, lhs, rhs => .error (.unsupported op lhs.kind rhs.kind)

def toSolid : Operand α → Except (Fault α) (Solid α)
  | solid s => .ok s
  | other => .error (.mismatch .solid other.kind)

/-- Equality within a kind; values of different kinds are not equal. -/
def beq [BEq α] : Operand α → Operand α → Bool
  | vector u, vector v => u == v
  | transform t, transform u => t == u
  | solid s, solid r => s == r
  | _, _ => false

instance [BEq α] : BEq (Operand α) := ⟨beq⟩

end Operand

end SolidScene
