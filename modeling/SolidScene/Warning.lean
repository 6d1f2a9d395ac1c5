import SolidScene.Vector

/-!
# Warnings

Degenerate or ambiguous input that can still be used is not a fault. Its constructors return a
`Checked` value, which carries the warnings along; the caller looks at them, reports them to the
log, or drops them.
-/
namespace SolidScene

inductive WarningKind where
  | ambiguousRotation
  | zeroScale
  | zeroSize
  | zeroLength
  | zeroRadius
deriving DecidableEq, Repr

def WarningKind.all : List WarningKind :=
  [ambiguousRotation, zeroScale, zeroSize, zeroLength, zeroRadius]

/-- A reason to doubt an input that was accepted. -/
inductive Warning (α : Type) where
  /-- The vectors of a rotation are opposite, so its axis is arbitrary. -/
  | ambiguousRotation (source target : Vec α)
  | zeroScale (axis : Axis)
  /-- A side of a box is zero, or all sides of a cube. -/
  | zeroSize (side : Option Axis)
  | zeroLength
  | zeroRadius
deriving Repr

namespace Warning

variable {α : Type}

def kind : Warning α → WarningKind
  | ambiguousRotation .. => .ambiguousRotation
  | zeroScale _ => .zeroScale
  | zeroSize _ => .zeroSize
  | zeroLength => .zeroLength
  | zeroRadius => .zeroRadius

def message [Numeral α] : Warning α → String
  | ambiguousRotation source target =>
    "Rotation from " ++ source.text ++ " to " ++ target.text ++
      " is ambiguous because the vectors are collinear and opposite"
  | zeroScale axis => axis.name ++ " is 0"
  | zeroSize (some side) => side.name ++ " size is 0"
  | zeroSize none => "size is 0"
  | zeroLength => "length is 0"
  | zeroRadius => "radius is 0"

end Warning

inductive LogLevel where
  | warning
  | debug
deriving DecidableEq, Repr

structure LogEntry where
  level : LogLevel
  text : String
deriving DecidableEq, Repr

/-- A value together with the warnings that its construction raised. -/
structure Checked (α β : Type) where
  value : β
  warnings : List (Warning α)
deriving Repr

namespace Checked

variable {α β γ : Type}

def clean (value : β) : Checked α β := ⟨value, []⟩

def map (f : β → γ) (c : Checked α β) : Checked α γ := ⟨f c.value, c.warnings⟩

def has (c : Checked α β) (kind : WarningKind) : Bool := c.warnings.any (·.kind == kind)

/-- The value, and a log entry for each warning in turn. -/
def report [Numeral α] (c : Checked α β) : β × List LogEntry :=
  (c.value, c.warnings.map fun w => ⟨.warning, w.message⟩)

end Checked

end SolidScene
