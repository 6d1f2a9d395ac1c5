import SolidScene.Vector

/-!
# Matrices

Four by four matrices of homogeneous coordinates. Products are taken in full, bottom row included,
so that a value that is not finite spreads as it does in the arithmetic.
-/
namespace SolidScene

@[ext]
structure Row (α : Type) where
  x : α
  y : α
  z : α
  w : α
deriving Repr, DecidableEq

@[ext]
structure Mat (α : Type) where
  x : Row α
  y : Row α
  z : Row α
  w : Row α
deriving Repr, DecidableEq

namespace Row

variable {α : Type}

def toList (r : Row α) : List α := [r.x, r.y, r.z, r.w]

variable [Scalar α]

/-- The product of a row and a column, summed from the left. -/
def dot (r c : Row α) : α := r.x * c.x + r.y * c.y + r.z * c.z + r.w * c.w

/-- The spatial part of the product of a row and a point. -/
def linear (r : Row α) (p : Vec α) : α := r.x * p.x + r.y * p.y + r.z * p.z

end Row

namespace Mat

variable {α : Type}

def rows (m : Mat α) : List (Row α) := [m.x, m.y, m.z, m.w]

/-- The columns of a matrix, as rows. -/
def transpose (m : Mat α) : Mat α :=
  ⟨⟨m.x.x, m.y.x, m.z.x, m.w.x⟩, ⟨m.x.y, m.y.y, m.z.y, m.w.y⟩,
    ⟨m.x.z, m.y.z, m.z.z, m.w.z⟩, ⟨m.x.w, m.y.w, m.z.w, m.w.w⟩⟩

variable [Scalar α]

/-- The affine map `p ↦ p.x * x + p.y * y + p.z * z + t`. The base vectors need not be orthogonal
or of unit length. -/
def affine (x y z t : Vec α) : Mat α :=
  ⟨⟨x.x, y.x, z.x, t.x⟩, ⟨x.y, y.y, z.y, t.y⟩, ⟨x.z, y.z, z.z, t.z⟩, ⟨0, 0, 0, 1⟩⟩

instance : One (Mat α) := ⟨affine (Vec.unit .x) (Vec.unit .y) (Vec.unit .z) 0⟩

instance : Mul (Mat α) where
  mul a b :=
    let c := b.transpose
    let row (r : Row α) : Row α := ⟨r.dot c.x, r.dot c.y, r.dot c.z, r.dot c.w⟩
    ⟨row a.x, row a.y, row a.z, row a.w⟩

/-- The product of a list of matrices, from the left, onto a first factor. -/
def product (first : Mat α) (ms : List (Mat α)) : Mat α := ms.foldl (· * ·) first

def displacement (t : Vec α) : Mat α := affine (Vec.unit .x) (Vec.unit .y) (Vec.unit .z) t

def scaling (f : Vec α) : Mat α := affine ⟨f.x, 0, 0⟩ ⟨0, f.y, 0⟩ ⟨0, 0, f.z⟩ 0

/-- Rotation around a coordinate axis, angle in radians. -/
def rotation (axis : Axis) (radians : α) : Mat α :=
  let s := Scalar.sin radians
  let c := Scalar.cos radians
  match axis with
  | .x => affine (Vec.unit .x) ⟨0, c, s⟩ ⟨0, -s, c⟩ 0
  | .y => affine ⟨c, 0, -s⟩ (Vec.unit .y) ⟨s, 0, c⟩ 0
  | .z => affine ⟨c, s, 0⟩ ⟨-s, c, 0⟩ (Vec.unit .z) 0

/-- Rotation around a unit vector, angle in radians, which is not zero. -/
def rodrigues (u : Vec α) (radians : α) : Mat α :=
  let s := Scalar.sin radians
  let c := Scalar.cos radians
  let k := 1 - c
  let xx := u.x * u.x
  let yy := u.y * u.y
  let zz := u.z * u.z
  ⟨⟨xx + (1 - xx) * c, u.x * u.y * k - u.z * s, u.x * u.z * k + u.y * s, 0⟩,
    ⟨u.x * u.y * k + u.z * s, yy + (1 - yy) * c, u.y * u.z * k - u.x * s, 0⟩,
    ⟨u.x * u.z * k - u.y * s, u.y * u.z * k + u.x * s, zz + (1 - zz) * c, 0⟩,
    ⟨0, 0, 0, 1⟩⟩

/-- Rotation around an axis of any length through the origin, angle in degrees. -/
def axisAngle (axis : Vec α) (degrees : α) : Mat α :=
  let radians := Scalar.toRadians degrees
  if radians == 0 then 1 else rodrigues axis.normalize radians

/-- Scaling along an axis, which leaves the plane orthogonal to it untouched. -/
def axisScale (axis : Vec α) (factor : α) : Mat α :=
  let n := axis.normalize
  let g := factor - 1
  ⟨⟨1 + n.x * n.x * g, 0 + n.x * n.y * g, 0 + n.x * n.z * g, 0⟩,
    ⟨0 + n.y * n.x * g, 1 + n.y * n.y * g, 0 + n.y * n.z * g, 0⟩,
    ⟨0 + n.z * n.x * g, 0 + n.z * n.y * g, 1 + n.z * n.z * g, 0⟩,
    ⟨0, 0, 0, 1⟩⟩

/-- The image of a point: the spatial coordinates, divided by the homogeneous one unless that is
zero. -/
def apply (m : Mat α) (p : Vec α) : Vec α :=
  let n := m.w.linear p + m.w.w
  let q : Vec α := ⟨m.x.linear p + m.x.w, m.y.linear p + m.y.w, m.z.linear p + m.z.w⟩
  if n == 0 then q else q / n

end Mat

end SolidScene
