/-!
# Scalars

The geometry is written once, over any type of numbers with the operations below. Double
precision is the scalar that runs (`SolidScene.Scalar.Double`). Nothing here assumes a law of
arithmetic: comparison is a Boolean test that may hold of no pair at all, as it does for a value
that is not a number.
-/
namespace SolidScene

/-- The arithmetic that vectors, matrices and transforms are computed with. -/
class Scalar (α : Type) extends Zero α, One α, Add α, Sub α, Mul α, Div α, Neg α, BEq α where
  lt : α → α → Bool
  le : α → α → Bool
  abs : α → α
  /-- One with the sign of the argument; zero counts as positive unless it carries a sign. -/
  signum : α → α
  sqrt : α → α
  sin : α → α
  cos : α → α
  /-- The angle of the point whose ordinate comes first and whose abscissa comes second. -/
  atan2 : α → α → α
  /-- One degree in radians. -/
  degree : α
  /-- One radian in degrees. -/
  radian : α
  /-- Half a turn in degrees. -/
  halfTurn : α
  /-- The relative tolerance of collinearity. -/
  tolerance : α

/-- How numbers are written. Only finite numbers have a form in scene source. -/
class Numeral (α : Type) where
  isFinite : α → Bool
  /-- The number for readers and for scene source. -/
  text : α → String
  /-- The number in JSON. -/
  json : α → String

namespace Scalar

variable {α : Type} [Scalar α]

def two : α := 1 + 1

def toRadians (degrees : α) : α := degrees * degree

def toDegrees (radians : α) : α := radians * radian

end Scalar

end SolidScene
