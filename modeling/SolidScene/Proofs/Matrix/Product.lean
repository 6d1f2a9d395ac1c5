import Mathlib.Algebra.BigOperators.Group.List.Basic
import Mathlib.Tactic.Ring
import SolidScene.Matrix
import SolidScene.Proofs.Scalar.Exact

/-!
# Products of exact matrices

Over the real numbers the matrices form a monoid, so that a product does not depend on the order in
which its factors are multiplied.
-/
namespace SolidScene.Mat

theorem one_eq : (1 : Mat ℝ) = ⟨⟨1, 0, 0, 0⟩, ⟨0, 1, 0, 0⟩, ⟨0, 0, 1, 0⟩, ⟨0, 0, 0, 1⟩⟩ := rfl

/-- The row that a row becomes under a matrix. -/
def through (r : Row ℝ) (m : Mat ℝ) : Row ℝ :=
  ⟨r.x * m.x.x + r.y * m.y.x + r.z * m.z.x + r.w * m.w.x,
    r.x * m.x.y + r.y * m.y.y + r.z * m.z.y + r.w * m.w.y,
    r.x * m.x.z + r.y * m.y.z + r.z * m.z.z + r.w * m.w.z,
    r.x * m.x.w + r.y * m.y.w + r.z * m.z.w + r.w * m.w.w⟩

theorem mul_eq (a b : Mat ℝ) :
    a * b = ⟨through a.x b, through a.y b, through a.z b, through a.w b⟩ := rfl

theorem through_through (r : Row ℝ) (a b : Mat ℝ) :
    through (through r a) b = through r (a * b) := by
  ext <;> simp only [mul_eq, through] <;> ring

theorem through_one (r : Row ℝ) : through r 1 = r := by
  ext <;> simp [one_eq, through]

noncomputable instance : Monoid (Mat ℝ) where
  mul_assoc a b c := by
    rw [mul_eq (a * b), mul_eq a (b * c)]
    simp only [← through_through]
    rfl
  one_mul a := by ext <;> simp [mul_eq, one_eq, through]
  mul_one a := by rw [mul_eq]; simp only [through_one]

theorem product_eq (m : Mat ℝ) (ms : List (Mat ℝ)) : product m ms = m * ms.prod := by
  induction ms generalizing m with
  | nil => exact (mul_one m).symm
  | cons a ms ih => rw [product, List.foldl_cons, ← product, ih, List.prod_cons, mul_assoc]

end SolidScene.Mat
