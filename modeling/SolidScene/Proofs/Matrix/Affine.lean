import SolidScene.Proofs.Matrix.Turn

/-!
# Affine matrices

A matrix whose bottom row does nothing leaves the homogeneous coordinate of a point at one, so that
no division takes place when it is applied. Such matrices are closed under products, and a product
acts on a point as its factors do one after the other.
-/
namespace SolidScene.Mat

def IsAffine (m : Mat ℝ) : Prop := m.w = ⟨0, 0, 0, 1⟩

theorem isAffine_one : IsAffine 1 := rfl

theorem IsAffine.mul {a b : Mat ℝ} (ha : a.IsAffine) (hb : b.IsAffine) : (a * b).IsAffine := by
  have hw : b.w = ⟨0, 0, 0, 1⟩ := hb
  change through a.w b = _
  rw [ha]
  ext <;> simp [through, hw]

theorem isAffine_prod {ms : List (Mat ℝ)} (h : ∀ m ∈ ms, m.IsAffine) : ms.prod.IsAffine := by
  induction ms with
  | nil => exact isAffine_one
  | cons m ms ih =>
    rw [List.forall_mem_cons] at h
    rw [List.prod_cons]
    exact h.1.mul (ih h.2)

theorem isAffine_rotation (a : Axis) (radians : ℝ) : (rotation a radians).IsAffine := by
  cases a <;> rfl

theorem isAffine_axisAngle (axis : Vec ℝ) (degrees : ℝ) : (axisAngle axis degrees).IsAffine := by
  rw [axisAngle_eq]
  rfl

/-- An affine matrix takes a point to the sum of its linear part and its last column. -/
theorem IsAffine.apply_eq {m : Mat ℝ} (h : m.IsAffine) (p : Vec ℝ) :
    m.apply p = ⟨m.x.linear p + m.x.w, m.y.linear p + m.y.w, m.z.linear p + m.z.w⟩ := by
  have hone : m.w.linear p + m.w.w = 1 := by
    rw [h]
    simp [Row.linear]
  have hdiv (v : Vec ℝ) : v / (1 : ℝ) = v := by
    change Vec.mk (v.x / 1) (v.y / 1) (v.z / 1) = v
    simp only [div_one]
  unfold apply
  simp [hone, hdiv]

theorem apply_mul {a b : Mat ℝ} (ha : a.IsAffine) (hb : b.IsAffine) (p : Vec ℝ) :
    (a * b).apply p = a.apply (b.apply p) := by
  have hw : b.w = ⟨0, 0, 0, 1⟩ := hb
  rw [(ha.mul hb).apply_eq, hb.apply_eq, ha.apply_eq]
  ext <;> simp only [mul_eq, through, Row.linear, hw] <;> ring

end SolidScene.Mat
