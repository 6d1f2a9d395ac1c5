import SolidScene.Matrix
import SolidScene.Proofs.Scalar.Guarded
import SolidScene.Proofs.Vector.Length

/-!
# Vectors and matrices under guard

The operations on vectors and matrices that do not divide come to the same under guard. To divide a
vector by its length loses nothing exactly if the vector is not zero, and then the matrices that
normalise it lose nothing either.
-/
namespace SolidScene

open Guarded (number)

namespace Vec

/-- The vector with its components under guard. -/
def guarded (v : Vec ℝ) : Vec Guarded := ⟨number v.x, number v.y, number v.z⟩

variable (u v : Vec ℝ)

theorem guarded_zero : (0 : Vec ℝ).guarded = 0 := rfl

theorem guarded_unit (a : Axis) : (unit a : Vec ℝ).guarded = unit a := by
  cases a <;> rfl

theorem guarded_get (a : Axis) : v.guarded.get a = number (v.get a) := by
  cases a <;> rfl

theorem guarded_set (a : Axis) (c : ℝ) : v.guarded.set a (number c) = (v.set a c).guarded := by
  cases a <;> rfl

theorem guarded_norm : v.guarded.norm = number v.norm := rfl

theorem guarded_dot : u.guarded.dot v.guarded = number (u.dot v) := rfl

theorem guarded_cross : u.guarded.cross v.guarded = (u.cross v).guarded := rfl

theorem guarded_collinear : u.guarded.collinear v.guarded = u.collinear v := rfl

theorem guarded_bne : (u.guarded != v.guarded) = (u != v) := rfl

theorem guarded_angleTo : u.guarded.angleTo v.guarded = number (u.angleTo v) := rfl

theorem guarded_dominantAxis : v.guarded.dominantAxis = v.dominantAxis := by
  simp only [dominantAxis, guarded_get]
  rfl

theorem guarded_closestAxis : v.guarded.closestAxis = v.closestAxis.guarded := by
  rw [closestAxis, guarded_dominantAxis, guarded_get]
  exact guarded_set 0 _ _

theorem guarded_firstNonzero : v.guarded.firstNonzero? = v.firstNonzero? := rfl

theorem guarded_normal : v.guarded.normal = v.normal.guarded := by
  rw [normal, guarded_firstNonzero, normal]
  cases v.firstNonzero? with
  | none => rfl
  | some a => cases a <;> rfl

variable {v}

theorem guarded_div {c : ℝ} : v.guarded / number c = (v / c).guarded ↔ c ≠ 0 := by
  have hentry {x : ℝ} := Guarded.number_div_iff (x := x) (y := c)
  refine ⟨fun h => hentry.mp (congrArg Vec.x h), fun hc => ?_⟩
  exact Vec.ext (hentry.mpr hc) (hentry.mpr hc) (hentry.mpr hc)

/-- The guard notices that the zero vector is normalised. -/
theorem guarded_normalize : v.guarded.normalize = v.normalize.guarded ↔ v ≠ 0 := by
  have hnorm : v.norm ≠ 0 ↔ v ≠ 0 := by
    refine ⟨?_, fun hv => (norm_pos hv).ne'⟩
    rintro h rfl
    exact h norm_zero
  exact guarded_div.trans hnorm

theorem guarded_text [Numeral ℝ] : v.guarded.text = v.text := rfl

end Vec

namespace Mat

def guardedRow (r : Row ℝ) : Row Guarded := ⟨number r.x, number r.y, number r.z, number r.w⟩

/-- The matrix with its entries under guard. -/
def guarded (m : Mat ℝ) : Mat Guarded :=
  ⟨guardedRow m.x, guardedRow m.y, guardedRow m.z, guardedRow m.w⟩

theorem guarded_one : (1 : Mat ℝ).guarded = 1 := rfl

theorem guarded_mul (m k : Mat ℝ) : m.guarded * k.guarded = (m * k).guarded := rfl

theorem guarded_product (m : Mat ℝ) (ms : List (Mat ℝ)) :
    product m.guarded (ms.map guarded) = (product m ms).guarded := by
  induction ms generalizing m with
  | nil => rfl
  | cons k ms ih =>
    rw [List.map_cons, product, List.foldl_cons, guarded_mul]
    exact ih (m * k)

theorem guarded_displacement (v : Vec ℝ) : displacement v.guarded = (displacement v).guarded := rfl

theorem guarded_scaling (f : Vec ℝ) : scaling f.guarded = (scaling f).guarded := rfl

theorem guarded_rotation (a : Axis) (radians : ℝ) :
    rotation a (number radians) = (rotation a radians).guarded := by
  cases a <;> rfl

theorem guarded_axisAngle {axis : Vec ℝ} (haxis : axis ≠ 0) (degrees : ℝ) :
    axisAngle axis.guarded (number degrees) = (axisAngle axis degrees).guarded := by
  have hzero : (Scalar.toRadians (number degrees) == 0) = (Scalar.toRadians degrees == 0) := rfl
  rw [axisAngle, axisAngle, Vec.guarded_normalize.mpr haxis, hzero]
  split <;> rfl

theorem guarded_axisScale {axis : Vec ℝ} (haxis : axis ≠ 0) (factor : ℝ) :
    axisScale axis.guarded (number factor) = (axisScale axis factor).guarded := by
  rw [axisScale, Vec.guarded_normalize.mpr haxis]
  rfl

end Mat

end SolidScene
