import SolidScene.Transform.Basic

/-!
# Solids

A solid is a primitive, a solid in another place, or a combination of solids. Solids are plain
values; operators and transforms build new ones.
-/
namespace SolidScene

/-- A solid that is given by its measures. -/
inductive Primitive (α : Type) where
  /-- A box along the axes with a corner at the origin. -/
  | cuboid (size : Vec α)
  | sphere (radius : α)
  /-- A truncated cone between two points; a cylinder if the radii are the same. -/
  | frustum (base cap : Vec α) (baseRadius capRadius : α)
deriving Repr

inductive Combinator where
  | union
  | intersection
  | difference
deriving DecidableEq, Repr

namespace Combinator

def call : Combinator → String
  | union => "union"
  | intersection => "intersection"
  | difference => "difference"

def text : Combinator → String
  | union => "Union"
  | intersection => "Intersection"
  | difference => "Difference"

end Combinator

/-- A solid. The first part of a difference is the one that the others are taken from. -/
inductive Solid (α : Type) where
  | primitive (shape : Primitive α)
  | placed (transform : Transform α) (solid : Solid α)
  | combined (kind : Combinator) (parts : List (Solid α))
deriving Repr

namespace Solid

variable {α : Type}

def union (parts : List (Solid α)) : Solid α := combined .union parts

def intersection (parts : List (Solid α)) : Solid α := combined .intersection parts

def difference (parts : List (Solid α)) : Solid α := combined .difference parts

def empty (kind : Combinator) : Solid α := combined kind []

def isCombined (kind : Combinator) : Solid α → Bool
  | combined k _ => k == kind
  | _ => false

section Primitives

variable [Scalar α]

/-- A box. Each side that is zero raises a warning. -/
def cuboid (size : Vec α) : Checked α (Solid α) :=
  ⟨primitive (.cuboid size),
    (Axis.all.filter (size.get · == 0)).map fun axis => .zeroSize (some axis)⟩

/-- A box of equal sides, with one warning if they are zero. -/
def cube (size : α) : Checked α (Solid α) :=
  ⟨primitive (.cuboid (Vec.repeated size)), if size == 0 then [.zeroSize none] else []⟩

def sphere (radius : α) : Checked α (Solid α) :=
  ⟨primitive (.sphere radius), if radius == 0 then [.zeroRadius] else []⟩

/-- A truncated cone. It raises a warning if its ends are the same point, and one if both radii are
zero. -/
def frustum (base cap : Vec α) (baseRadius capRadius : α) : Checked α (Solid α) :=
  ⟨primitive (.frustum base cap baseRadius capRadius),
    (if base == cap then [.zeroLength] else []) ++
      (if baseRadius == 0 && capRadius == 0 then [.zeroRadius] else [])⟩

def cylinder (base cap : Vec α) (radius : α) : Checked α (Solid α) :=
  frustum base cap radius radius

/-- A truncated cone from the origin for a length in a direction, which may not be zero. -/
def frustumAlong (direction : Vec α) (length baseRadius capRadius : α) :
    Except (Fault α) (Checked α (Solid α)) := do
  let direction ← direction.nonZero "direction"
  return frustum 0 (direction.normalize * length) baseRadius capRadius

end Primitives

/-- Equality of measures, as far as the numbers can be told apart. -/
def Primitive.beq [BEq α] : Primitive α → Primitive α → Bool
  | .cuboid u, .cuboid v => u == v
  | .sphere r, .sphere s => r == s
  | .frustum b c r s, .frustum b' c' r' s' => b == b' && c == c' && r == r' && s == s'
  | _, _ => false

mutual

/-- Equality of structure, as far as the numbers can be told apart. -/
def beq [BEq α] : Solid α → Solid α → Bool
  | primitive p, primitive q => Primitive.beq p q
  | placed t s, placed u r => t == u && s.beq r
  | combined k ps, combined l qs => k == l && beqAll ps qs
  | _, _ => false

def beqAll [BEq α] : List (Solid α) → List (Solid α) → Bool
  | [], [] => true
  | p :: ps, q :: qs => p.beq q && beqAll ps qs
  | _, _ => false

end

instance [BEq α] : BEq (Solid α) := ⟨beq⟩

end Solid

end SolidScene
