import SolidScene.Solid.Basic
import SolidScene.Transform.Direction

/-!
# The algebra of solids

`+` is union, `*` intersection, `-` difference, and a transform times a solid places the solid.
Union and intersection take in the parts of an operand of their own kind on either side. A
difference only takes further subtrahends on the right. A placed solid takes in another transform,
so that placing twice does not nest.
-/
namespace SolidScene.Solid

variable {α : Type}

/-- Combine two solids under a kind that takes in the parts of its own kind. -/
def merge (kind : Combinator) : Solid α → Solid α → Solid α
  | combined k as, combined l bs =>
    if k = kind ∧ l = kind then combined kind (as ++ bs)
    else if k = kind then combined kind (as ++ [combined l bs])
    else if l = kind then combined kind (combined k as :: bs)
    else combined kind [combined k as, combined l bs]
  | combined k as, b =>
    if k = kind then combined kind (as ++ [b]) else combined kind [combined k as, b]
  | a, combined l bs =>
    if l = kind then combined kind (a :: bs) else combined kind [a, combined l bs]
  | a, b => combined kind [a, b]

/-- Take the second solid away from the first. A difference takes a further subtrahend, unless that
is a difference itself. -/
def subtract : Solid α → Solid α → Solid α
  | combined .difference parts, b =>
    if b.isCombined .difference then difference [combined .difference parts, b]
    else difference (parts ++ [b])
  | a, b => difference [a, b]

instance : Add (Solid α) := ⟨merge .union⟩

instance : Mul (Solid α) := ⟨merge .intersection⟩

instance : Sub (Solid α) := ⟨subtract⟩

def sum (solids : List (Solid α)) : Solid α := solids.foldl (· + ·) (empty .union)

def product (solids : List (Solid α)) : Solid α := solids.foldl (· * ·) (empty .intersection)

def place (t : Transform α) : Solid α → Solid α
  | placed u s => placed (t * u) s
  | s => placed t s

instance : HMul (Transform α) (Solid α) (Solid α) := ⟨place⟩

/-- Place a solid by a transform, written behind the solid. -/
def transformed (s : Solid α) (t : Transform α) : Solid α := t * s

def translated (s : Solid α) (offset : Vec α) : Solid α := Transform.translate offset * s

def rotatedXyz (s : Solid α) (angles : Vec α) : Solid α := Transform.rotateXyz angles * s

def rotatedYpr (s : Solid α) (yaw pitch roll : α) : Solid α :=
  Transform.rotateYpr yaw pitch roll * s

def scaledUniform (s : Solid α) (factor : α) : Solid α := Transform.scaleUniform factor * s

section Checks

variable [Scalar α]

/-- Rotate a solid around an axis, which may not be zero. -/
def rotatedAround (s : Solid α) (axis : Vec α) (angle : α) : Except (Fault α) (Solid α) := do
  return (← Transform.around axis angle) * s

/-- Rotate a solid from one direction to another, with the faults and warnings of the rotation. -/
def rotatedFromTo (s : Solid α) (source target : Vec α) (anyAxis : Bool) :
    Except (Fault α) (Checked α (Solid α)) := do
  return (← Transform.fromTo source target anyAxis).map (place · s)

/-- Scale a solid along the coordinate axes, with the warnings of the scale. -/
def scaledAxes (s : Solid α) (factors : Vec α) : Checked α (Solid α) :=
  (Transform.scaled factors).map (place · s)

/-- Scale a solid along an axis, which may not be zero. -/
def scaledAlong (s : Solid α) (axis : Vec α) (factor : α) : Except (Fault α) (Solid α) := do
  return (← Transform.along axis factor) * s

def moved (s : Solid α) (d : Direction) (amount : α) : Solid α := d.by amount * s

end Checks

end SolidScene.Solid
