/-!
# The shortest decimal that reads back

A positive binary number stands for the whole interval of reals that round to it. `shortest`
finds the decimal of fewest digits in that interval, and of those the one nearest to the number.
Everything is decided in exact arithmetic on natural numbers: decimal grids are tried from coarse
to fine, and on each grid only the two neighbours of the number can be hits, because the interval
contains the number.
-/
namespace SolidScene

/-- The number `digits · 10 ^ exponent`. -/
structure Decimal where
  digits : Nat
  exponent : Int
deriving DecidableEq, Repr

/-- The number `significand · 2 ^ exponent`. The flag says that the gap to the next smaller number
is half the gap to the next larger one. -/
structure Binary where
  significand : Nat
  exponent : Int
  narrowBelow : Bool
deriving DecidableEq, Repr

/-- Which of two equally near decimals is taken. -/
inductive Tie where
  | up
  | even
deriving DecidableEq, Repr

/-- The interval of reals that round to a number: numerators over one denominator, and whether the
ends belong to it. -/
structure Rounding where
  low : Nat
  value : Nat
  high : Nat
  denominator : Nat
  closed : Bool
deriving Repr

/-- The interval around a binary number, in quarters of its last place. Its ends round to the
number exactly if the significand is even. -/
def Binary.rounding (b : Binary) : Rounding :=
  let up := Nat.pow 2 (b.exponent - 2).toNat
  { low := (4 * b.significand - (if b.narrowBelow then 1 else 2)) * up
    value := 4 * b.significand * up
    high := (4 * b.significand + 2) * up
    denominator := Nat.pow 2 (2 - b.exponent).toNat
    closed := b.significand % 2 == 0 }

namespace Rounding

/-- The numerators of the interval on the grid of multiples of `10 ^ place`, and the numerator of
one step of that grid. -/
def onGrid (r : Rounding) (place : Int) : Rounding × Nat :=
  let finer := Nat.pow 10 (-place).toNat
  ({ r with low := r.low * finer, value := r.value * finer, high := r.high * finer },
    r.denominator * Nat.pow 10 place.toNat)

/-- Whether a point, given by its numerator, rounds to the number. -/
def holds (r : Rounding) (point : Nat) : Bool :=
  if r.closed then r.low ≤ point && point ≤ r.high else r.low < point && point < r.high

/-- The multiple of `10 ^ place` that is nearest to the number, if one of the number's two
neighbours on that grid reads back. -/
def hit? (r : Rounding) (tie : Tie) (place : Int) : Option Nat :=
  let (s, step) := r.onGrid place
  let below := s.value / step
  let above := below + 1
  match s.holds (below * step), s.holds (above * step) with
  | false, false => none
  | true, false => some below
  | false, true => some above
  | true, true =>
    let down := s.value - below * step
    let rise := above * step - s.value
    if down < rise then some below
    else if rise < down then some above
    else match tie with
      | .up => some above
      | .even => if below % 2 == 0 then some below else some above

/-- The first hit on the grids from `10 ^ place` downwards; at most `grids` of them are tried. -/
def firstHit (r : Rounding) (tie : Tie) : Nat → Int → Decimal
  | 0, place => ⟨0, place⟩
  | grids + 1, place =>
    match r.hit? tie place with
    | some digits => ⟨digits, place⟩
    | none => r.firstHit tie grids (place - 1)

end Rounding

namespace Binary

/-- A place above the leading digit: no positive multiple of ten to this place is in the
interval. -/
def topPlace (b : Binary) : Int :=
  ((b.significand.log2 : Int) + b.exponent + 2) * 30103 / 100000 + 2

/-- The decimal of fewest digits that rounds to `b`, nearest to `b` among those. A binary number
with a negative exponent is a multiple of ten to that exponent, so the search always ends in a
hit. -/
def shortest (b : Binary) (tie : Tie) : Decimal :=
  b.rounding.firstHit tie (b.topPlace - min b.exponent 0 + 1).toNat b.topPlace

end Binary

end SolidScene
