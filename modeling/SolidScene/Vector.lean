import SolidScene.Scalar

/-!
# Vectors

Vectors of space over any scalar, the coordinate axes, and the queries that rotations and scales
are decided by. Nothing is assumed about rounding; each operation fixes the order in which its
sums and products are taken.
-/
namespace SolidScene

inductive Axis where
  | x
  | y
  | z
deriving DecidableEq, Repr

namespace Axis

def all : List Axis := [.x, .y, .z]

def next : Axis → Axis
  | x => y
  | y => z
  | z => x

/-- Axes counted from zero, cyclically. -/
def counted (n : Nat) : Axis :=
  match n % 3 with
  | 0 => x
  | 1 => y
  | _ => z

/-- The name in messages. -/
def name : Axis → String
  | x => "x"
  | y => "y"
  | z => "z"

/-- The name in descriptions. -/
def letter : Axis → String
  | x => "X"
  | y => "Y"
  | z => "Z"

end Axis

@[ext]
structure Vec (α : Type) where
  x : α
  y : α
  z : α
deriving Repr, DecidableEq

namespace Vec

variable {α : Type}

def get (v : Vec α) : Axis → α
  | .x => v.x
  | .y => v.y
  | .z => v.z

/-- The vector with one component replaced. -/
def set (v : Vec α) (axis : Axis) (c : α) : Vec α :=
  match axis with
  | .x => { v with x := c }
  | .y => { v with y := c }
  | .z => { v with z := c }

def repeated (c : α) : Vec α := ⟨c, c, c⟩

def toList (v : Vec α) : List α := [v.x, v.y, v.z]

def map (f : α → α) (v : Vec α) : Vec α := ⟨f v.x, f v.y, f v.z⟩

/-- The list form of scene source, also used in descriptions. -/
def text [Numeral α] (v : Vec α) : String :=
  "[" ++ ", ".intercalate (v.toList.map Numeral.text) ++ "]"

/-- Equality by components, as far as the scalars can be told apart. -/
instance [BEq α] : BEq (Vec α) where
  beq u v := u.x == v.x && u.y == v.y && u.z == v.z

variable [Scalar α]

instance : Zero (Vec α) := ⟨repeated 0⟩

instance : Add (Vec α) := ⟨fun u v => ⟨u.x + v.x, u.y + v.y, u.z + v.z⟩⟩

instance : Sub (Vec α) := ⟨fun u v => ⟨u.x - v.x, u.y - v.y, u.z - v.z⟩⟩

instance : Neg (Vec α) := ⟨map (- ·)⟩

instance : HMul (Vec α) α (Vec α) := ⟨fun v c => v.map (· * c)⟩

instance : HDiv (Vec α) α (Vec α) := ⟨fun v c => v.map (· / c)⟩

def unit (axis : Axis) : Vec α := set 0 axis 1

def dot (u v : Vec α) : α := u.x * v.x + u.y * v.y + u.z * v.z

def normSquared (v : Vec α) : α := v.dot v

def norm (v : Vec α) : α := Scalar.sqrt v.normSquared

/-- The vector divided by its length, whatever that is. -/
def normalize (v : Vec α) : Vec α := v / v.norm

def cross (u v : Vec α) : Vec α :=
  ⟨u.y * v.z - u.z * v.y, u.z * v.x - u.x * v.z, u.x * v.y - u.y * v.x⟩

def isZero (v : Vec α) : Bool := v.x == 0 && v.y == 0 && v.z == 0

/-- Whether two vectors lie on one line through the origin, up to the relative tolerance on their
squared cross product. Direction and length do not matter. -/
def collinear (u v : Vec α) : Bool :=
  Scalar.le (u.cross v).normSquared
    (Scalar.tolerance * Scalar.tolerance * (u.normSquared * v.normSquared))

/-- The axis of the component of greatest magnitude, the first one among equals. -/
def dominantAxis (v : Vec α) : Axis :=
  let xy : Axis := if Scalar.lt (Scalar.abs v.x) (Scalar.abs v.y) then .y else .x
  if Scalar.lt (Scalar.abs (v.get xy)) (Scalar.abs v.z) then .z else xy

/-- The signed unit axis closest to a vector. -/
def closestAxis (v : Vec α) : Vec α :=
  let axis := v.dominantAxis
  set 0 axis (Scalar.signum (v.get axis))

/-- The axis of the first component that is not zero. -/
def firstNonzero? (v : Vec α) : Option Axis := Axis.all.find? fun axis => v.get axis != 0

/-- A vector orthogonal to `v`: its first component that is not zero changes places with the
next one, and one of the two is negated. Zero for the zero vector. -/
def normal (v : Vec α) : Vec α :=
  match v.firstNonzero? with
  | none => 0
  | some axis => (set 0 axis (-(v.get axis.next))).set axis.next (v.get axis)

/-- The angle between two vectors in degrees, from the half-angle formula: it stays accurate near
zero and half a turn, where an arc cosine does not. -/
def angleTo (u v : Vec α) : α :=
  let difference := u * v.norm - v * u.norm
  let sum := u * v.norm + v * u.norm
  Scalar.toDegrees (Scalar.two * Scalar.atan2 difference.norm sum.norm)

end Vec

end SolidScene
