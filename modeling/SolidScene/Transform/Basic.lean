import SolidScene.Fault
import SolidScene.Warning

/-!
# Transforms

A transform of space is one of eight elementary ones or a chain. Composition concatenates the
elements of both sides into one chain, so it never nests; a chain that is given as such is kept as
given.
-/
namespace SolidScene

/-- A transform of space. Angles are in degrees. -/
inductive Transform (α : Type) where
  | translate (offset : Vec α)
  | rotateAround (axis : Vec α) (angle : α)
  /-- Rotation around X, then Y, then Z. -/
  | rotateXyz (angles : Vec α)
  /-- Rotation of a vehicle: yaw around Z, pitch around the turned X, roll around the twice turned
  Y. -/
  | rotateYpr (yaw pitch roll : α)
  /-- The shortest rotation from one direction to another. The flag says that any axis will do if
  the directions are opposite. -/
  | rotateFromTo (source target : Vec α) (anyAxis : Bool)
  | scaleUniform (factor : α)
  | scaleAxes (factors : Vec α)
  /-- Scaling along one axis, which leaves the plane orthogonal to it untouched. -/
  | scaleAlong (axis : Vec α) (factor : α)
  /-- Steps that act from last to first, like a product of matrices. -/
  | chain (steps : List (Transform α))
deriving Repr

namespace Transform

variable {α : Type}

def identity : Transform α := chain []

def isIdentity : Transform α → Bool
  | chain [] => true
  | _ => false

/-- What a transform contributes to a composition: the steps of a chain, or the transform. -/
def elements : Transform α → List (Transform α)
  | chain steps => steps
  | t => [t]

/-- Composition: the right side acts first. -/
instance : Mul (Transform α) := ⟨fun a b => chain (a.elements ++ b.elements)⟩

/-- Rotation around an axis, which may not be zero. -/
def around [Scalar α] (axis : Vec α) (angle : α) : Except (Fault α) (Transform α) := do
  return rotateAround (← axis.nonZero "axis") angle

/-- Rotation between directions, neither of which may be zero. Opposite directions leave the axis
undetermined, which raises a warning unless `anyAxis` is set. -/
def fromTo [Scalar α] (source target : Vec α) (anyAxis : Bool) :
    Except (Fault α) (Checked α (Transform α)) := do
  let source ← source.nonZero "from"
  let target ← target.nonZero "to"
  let ambiguous := !anyAxis && source.collinear target && Scalar.lt (source.dot target) 0
  return ⟨rotateFromTo source target anyAxis,
    if ambiguous then [.ambiguousRotation source target] else []⟩

/-- Scaling along the coordinate axes. Each factor that is zero raises a warning. -/
def scaled [Scalar α] (factors : Vec α) : Checked α (Transform α) :=
  ⟨scaleAxes factors, (Axis.all.filter (factors.get · == 0)).map .zeroScale⟩

/-- Scaling along an axis, which may not be zero. -/
def along [Scalar α] (axis : Vec α) (factor : α) : Except (Fault α) (Transform α) := do
  return scaleAlong (← axis.nonZero "axis") factor

mutual

/-- Equality of structure, as far as the numbers can be told apart. Whether any axis will do for
opposite directions does not count. -/
def beq [BEq α] : Transform α → Transform α → Bool
  | translate u, translate v => u == v
  | rotateAround u a, rotateAround v b => u == v && a == b
  | rotateXyz u, rotateXyz v => u == v
  | rotateYpr y p r, rotateYpr y' p' r' => y == y' && p == p' && r == r'
  | rotateFromTo u v _, rotateFromTo u' v' _ => u == u' && v == v'
  | scaleUniform f, scaleUniform g => f == g
  | scaleAxes u, scaleAxes v => u == v
  | scaleAlong u f, scaleAlong v g => u == v && f == g
  | chain ts, chain us => beqAll ts us
  | _, _ => false

def beqAll [BEq α] : List (Transform α) → List (Transform α) → Bool
  | [], [] => true
  | t :: ts, u :: us => t.beq u && beqAll ts us
  | _, _ => false

end

instance [BEq α] : BEq (Transform α) := ⟨beq⟩

end Transform

end SolidScene
