import SolidScene.Proofs.Scalar.Exact

/-!
# Numbers that are lost at a division by zero

Real numbers to compute with under guard: a division by zero gives nothing, nothing is all that
comes of nothing, and no comparison with it holds. A computation over these that ends with a number
has not put a division by zero into it.
-/
namespace SolidScene

/-- A real number, or nothing if it was to come of a division by zero. -/
inductive Guarded where
  | number (x : ℝ)
  | nothing

namespace Guarded

def map (f : ℝ → ℝ) : Guarded → Guarded
  | number x => number (f x)
  | nothing => nothing

def map₂ (f : ℝ → ℝ → ℝ) : Guarded → Guarded → Guarded
  | number x, number y => number (f x y)
  | _, _ => nothing

def holds (p : ℝ → ℝ → Bool) : Guarded → Guarded → Bool
  | number x, number y => p x y
  | _, _ => false

noncomputable def div : Guarded → Guarded → Guarded
  | number x, number y => if y = 0 then nothing else number (x / y)
  | _, _ => nothing

noncomputable instance : Scalar Guarded where
  zero := number 0
  one := number 1
  add := map₂ (· + ·)
  sub := map₂ (· - ·)
  mul := map₂ (· * ·)
  div := div
  neg := map (- ·)
  beq := holds (· == ·)
  lt := holds Scalar.lt
  le := holds Scalar.le
  abs := map Scalar.abs
  signum := map Scalar.signum
  sqrt := map Scalar.sqrt
  sin := map Scalar.sin
  cos := map Scalar.cos
  atan2 := map₂ Scalar.atan2
  degree := number Scalar.degree
  radian := number Scalar.radian
  halfTurn := number Scalar.halfTurn
  tolerance := number Scalar.tolerance

/-- Numbers are written as ever. -/
instance [Numeral ℝ] : Numeral Guarded where
  isFinite
    | number x => Numeral.isFinite x
    | nothing => false
  text
    | number x => Numeral.text x
    | nothing => ""
  json
    | number x => Numeral.json x
    | nothing => ""

/-- The guard notices just the divisions by zero. -/
theorem number_div_iff {x y : ℝ} : number x / number y = number (x / y) ↔ y ≠ 0 := by
  refine ⟨?_, fun hy => if_neg hy⟩
  rintro h rfl
  have hlost : number x / number 0 = nothing := if_pos rfl
  rw [h] at hlost
  cases hlost

end Guarded

end SolidScene
