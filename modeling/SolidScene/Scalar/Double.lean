import SolidScene.Scalar
import SolidScene.Decimal.Style

/-!
# Double precision

The scalar that runs: 64-bit binary floating point with the operations of the platform. Numbers
are written with the fewest digits that read back.
-/
namespace SolidScene

namespace Double

/-- Whether the sign bit is set; also of zero. -/
def signBit (x : Float) : Bool := x.toBits >>> 63 != 0

/-- The magnitude of a finite number as significand and exponent. The gap below a power of two is
half the gap above it, save at the smallest normal number. -/
def magnitude (x : Float) : Binary :=
  let bits := x.toBits.toNat
  let hidden := Nat.pow 2 52
  let fraction := bits % hidden
  let exponent := bits / hidden % Nat.pow 2 11
  if exponent = 0 then ⟨fraction, -1074, false⟩
  else ⟨hidden + fraction, Int.ofNat exponent - 1075, fraction == 0 && exponent != 1⟩

/-- Plain notation, never an exponent; a tie goes up. -/
def plainStyle : Decimal.Style where
  tie := .up
  positional _ := true
  wholeEnd := ""

/-- JSON numbers from 1e-5 up to 1e16 are positional with at least one decimal place; a tie goes to
the even digit. -/
def jsonStyle : Decimal.Style where
  tie := .even
  positional n := -5 ≤ n && n < 16
  wholeEnd := ".0"

/-- The sign, zero, and otherwise the shortest decimal in the given style. -/
def finiteText (style : Decimal.Style) (x : Float) : String :=
  let sign := if signBit x then "-" else ""
  if x == 0 then sign ++ "0" ++ style.wholeEnd
  else sign ++ ((magnitude x).shortest style.tie).text style

end Double

instance : Scalar Float where
  zero := 0
  one := 1
  lt x y := decide (x < y)
  le x y := decide (x ≤ y)
  abs := Float.abs
  signum x := if x.isNaN then x else if Double.signBit x then -1 else 1
  sqrt := Float.sqrt
  sin := Float.sin
  cos := Float.cos
  atan2 := Float.atan2
  degree := 3.141592653589793 / 180
  radian := 180 / 3.141592653589793
  halfTurn := 180
  tolerance := 1e-12

instance : Numeral Float where
  isFinite := Float.isFinite
  text x :=
    if x.isNaN then "NaN"
    else if x.isInf then (if Double.signBit x then "-inf" else "inf")
    else Double.finiteText Double.plainStyle x
  json x := if x.isFinite then Double.finiteText Double.jsonStyle x else "null"

end SolidScene
