import SolidScene.Decimal.Shortest

/-!
# Decimal styles

How a decimal is laid out as text: which magnitudes are written in positional form, what follows a
whole number, and how an exponent is written. A style is one record; the modules that write
numbers each own theirs.
-/
namespace SolidScene

structure Decimal.Style where
  /-- Which of two equally near shortest decimals is written. -/
  tie : Tie
  /-- The powers of ten, as `10 ^ n ≤ |x| < 10 ^ (n + 1)`, that are written positionally. -/
  positional : Int → Bool
  /-- Follows the digits of a whole number in positional form. -/
  wholeEnd : String

namespace Decimal

/-- The decimal digits, most significant first. -/
def figures (d : Decimal) : String := Nat.repr d.digits

/-- The power of ten of the leading digit. -/
def leading (d : Decimal) : Int := d.exponent + d.figures.length - 1

def zeros (n : Nat) : String := String.ofList (List.replicate n '0')

/-- Digits, a point, digits; zeros fill the places between the digits and the point. -/
def positionalText (d : Decimal) (wholeEnd : String) : String :=
  if 0 ≤ d.exponent then
    d.figures ++ zeros d.exponent.toNat ++ wholeEnd
  else
    let places := (-d.exponent).toNat
    let all := zeros (places + 1 - d.figures.length) ++ d.figures
    let whole := all.length - places
    String.ofList (all.toList.take whole) ++ "." ++ String.ofList (all.toList.drop whole)

/-- One digit, the rest behind a point, and a signed power of ten. -/
def scientificText (d : Decimal) : String :=
  let (first, rest) := (d.figures.toList.take 1, d.figures.toList.drop 1)
  let fraction := if rest.isEmpty then "" else "." ++ String.ofList rest
  let sign := if d.leading < 0 then "-" else "+"
  String.ofList first ++ fraction ++ "e" ++ sign ++ Nat.repr d.leading.natAbs

def text (d : Decimal) (style : Style) : String :=
  if style.positional d.leading then d.positionalText style.wholeEnd else d.scientificText

end Decimal

end SolidScene
