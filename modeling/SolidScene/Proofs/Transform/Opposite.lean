import SolidScene.Proofs.Transform.Between
import SolidScene.Transform.Inverse

/-!
# Rotations between collinear directions

A rotation between directions that count as the same does nothing. One between opposite directions
is a half turn around a normal of the first of them, and its inverse one around a normal of the
other. Both normals come from the first component that is not zero, so they are parallel exactly if
that component is the same one and the directions agree in the plane of it and the next. Directions
that are exactly opposite do; directions that are opposite by the tolerance only need not, and then
the inverse does not undo the rotation.
-/
namespace SolidScene

namespace Vec

theorem cross_eq_zero {u v : Vec ℝ} :
    u.cross v = 0 ↔ u.y * v.z = u.z * v.y ∧ u.z * v.x = u.x * v.z ∧ u.x * v.y = u.y * v.x := by
  simp [Vec.ext_iff, cross, zero_eq, sub_eq_zero]

theorem cross_normalize_eq_zero {u v : Vec ℝ} (hu : u ≠ 0) (hv : v ≠ 0) :
    u.normalize.cross v.normalize = 0 ↔ u.cross v = 0 := by
  have hun := (norm_pos hu).ne'
  have hvn := (norm_pos hv).ne'
  rw [cross_eq_zero, cross_eq_zero]
  simp only [normalize_eq]
  field_simp

theorem exists_firstNonzero {v : Vec ℝ} (hv : v ≠ 0) : ∃ a, v.firstNonzero? = some a := by
  rw [← Option.isSome_iff_exists, firstNonzero?, List.find?_isSome]
  by_contra hnone
  have hzero (a : Axis) : v.get a = 0 := by
    by_contra ha
    exact hnone ⟨a, by cases a <;> simp [Axis.all], by simpa using ha⟩
  exact hv (Vec.ext (hzero .x) (hzero .y) (hzero .z))

section Normals

variable {u v : Vec ℝ} {a b : Axis} (hu : u.firstNonzero? = some a) (hv : v.firstNonzero? = some b)
include hu

theorem get_ne_zero : u.get a ≠ 0 := by
  have h := List.find?_some hu
  simpa using h

theorem normal_eq : u.normal = (set 0 a (-(u.get a.next))).set a.next (u.get a) := by
  rw [normal, hu]

theorem normal_ne_zero : u.normal ≠ 0 := by
  intro hzero
  have hget : u.normal.get a.next = u.get a := by
    rw [normal_eq hu]
    cases a <;> rfl
  have hnext : u.normal.get a.next = 0 := by
    rw [hzero]
    cases a <;> rfl
  exact get_ne_zero hu (hget.symm.trans hnext)

include hv

theorem cross_normal_eq_zero :
    u.normal.cross v.normal = 0 ↔ a = b ∧ u.get a * v.get a.next = u.get a.next * v.get a := by
  have ha := get_ne_zero hu
  have hb := get_ne_zero hv
  rw [cross_eq_zero, normal_eq hu, normal_eq hv]
  cases a <;> cases b <;> simp_all [set, get, Axis.next, zero_eq, eq_comm]

end Normals

end Vec

namespace Mat

/-- The half turn around a unit vector. -/
def halfTurn (n : Vec ℝ) : Mat ℝ := turn n (-1) 0

section HalfTurns

variable {n m : Vec ℝ} (hn : n.dot n = 1) (hm : m.dot m = 1)
include hm

theorem halfTurn_mul_self : halfTurn m * halfTurn m = 1 := by
  rw [halfTurn, turn_mul hm]
  norm_num [turn_one_zero]

include hn

theorem halfTurn_eq_iff : halfTurn n = halfTurn m ↔ n.cross m = 0 := by
  have hnn : n.x * n.x + n.y * n.y + n.z * n.z = 1 := hn
  have hmm : m.x * m.x + m.y * m.y + m.z * m.z = 1 := hm
  rw [Vec.cross_eq_zero]
  constructor
  · intro h
    -- The entries are the products of two components each.
    simp only [halfTurn, turn, Mat.mk.injEq, Row.mk.injEq] at h
    grind
  · rintro ⟨hx, hy, hz⟩
    ext <;> simp only [halfTurn, turn] <;> grind

/-- Two half turns cancel if they are around the same line. -/
theorem halfTurn_mul_eq_one_iff : halfTurn n * halfTurn m = 1 ↔ n.cross m = 0 := by
  rw [← halfTurn_eq_iff hn hm]
  constructor
  · intro h
    calc halfTurn n = halfTurn n * (halfTurn m * halfTurn m) := by
          rw [halfTurn_mul_self hm, mul_one]
      _ = halfTurn m := by rw [← mul_assoc, h, one_mul]
  · intro h
    rw [h, halfTurn_mul_self hm]

end HalfTurns

theorem axisAngle_halfTurn (axis : Vec ℝ) :
    axisAngle axis Scalar.halfTurn = halfTurn axis.normalize := by
  rw [axisAngle_eq, Scalar.toRadians_halfTurn, Real.cos_pi, Real.sin_pi, halfTurn]

end Mat

namespace Transform

/-- Neither rotation turns at all, or both are half turns, around parallel axes. -/
def TurnAlike (u v : Vec ℝ) : Prop :=
  (betweenAxis? u v = none ∧ betweenAxis? v u = none) ∨
    ∃ n m, betweenAxis? u v = some (n, Scalar.halfTurn) ∧
      betweenAxis? v u = some (m, Scalar.halfTurn) ∧ n.cross m = 0

/-- The first components that are not zero stand in the same place, and there and in the next place
the vectors are proportional. -/
def LeadAlike (u v : Vec ℝ) : Prop :=
  ∃ a, u.firstNonzero? = some a ∧ v.firstNonzero? = some a ∧
    u.get a * v.get a.next = u.get a.next * v.get a

theorem leadAlike_iff {u v : Vec ℝ} (hu : u ≠ 0) (hv : v ≠ 0) :
    LeadAlike u v ↔ u.normal.cross v.normal = 0 := by
  obtain ⟨a, ha⟩ := Vec.exists_firstNonzero hu
  obtain ⟨b, hb⟩ := Vec.exists_firstNonzero hv
  rw [Vec.cross_normal_eq_zero ha hb]
  constructor
  · rintro ⟨c, hc, hd, hprod⟩
    obtain rfl := Option.some.inj (ha.symm.trans hc)
    obtain rfl := Option.some.inj (hb.symm.trans hd)
    exact ⟨rfl, hprod⟩
  · rintro ⟨rfl, hprod⟩
    exact ⟨a, ha, hb, hprod⟩

theorem betweenMatrix_of_none {u v : Vec ℝ} (h : betweenAxis? u v = none) :
    betweenMatrix u v = 1 := by
  rw [betweenMatrix, h]

theorem betweenMatrix_of_halfTurn {u v n : Vec ℝ}
    (h : betweenAxis? u v = some (n, Scalar.halfTurn)) :
    betweenMatrix u v = Mat.halfTurn n.normalize := by
  rw [betweenMatrix, h]
  exact Mat.axisAngle_halfTurn n

/-- The rotation between collinear directions and the one back. -/
theorem betweenAxis?_cases {u v : Vec ℝ} (h : u.collinear v = true) :
    (0 < u.dot v ∧ betweenAxis? u v = none ∧ betweenAxis? v u = none) ∨
      (¬ 0 < u.dot v ∧ betweenAxis? u v = some (u.normal, Scalar.halfTurn) ∧
        betweenAxis? v u = some (v.normal, Scalar.halfTurn)) := by
  have hback : v.collinear u = true := by rw [Vec.collinear_comm, h]
  unfold betweenAxis?
  rw [if_pos h, if_pos hback, Vec.dot_comm v u]
  by_cases hdot : 0 < u.dot v
  · have hlt : Scalar.lt 0 (u.dot v) = true := Scalar.lt_iff.mpr hdot
    rw [if_pos hlt, if_pos hlt]
    exact .inl ⟨hdot, rfl, rfl⟩
  · have hlt : ¬ Scalar.lt 0 (u.dot v) = true := fun hlt => hdot (Scalar.lt_iff.mp hlt)
    rw [if_neg hlt, if_neg hlt]
    exact .inr ⟨hdot, rfl, rfl⟩

/-- A rotation between directions never turns around a zero axis. -/
theorem axis_ne_zero_of_between {u v axis : Vec ℝ} {angle : ℝ} (hu : u ≠ 0)
    (h : betweenAxis? u v = some (axis, angle)) : axis ≠ 0 := by
  cases hcollinear : u.collinear v with
  | false =>
    rw [betweenAxis?, if_neg (by rw [hcollinear]; exact Bool.false_ne_true)] at h
    cases h
    exact Vec.cross_ne_zero hcollinear
  | true =>
    obtain ⟨a, ha⟩ := Vec.exists_firstNonzero hu
    rcases betweenAxis?_cases hcollinear with ⟨-, hnone, -⟩ | ⟨-, hhalf, -⟩
    · rw [hnone] at h
      cases h
    · rw [hhalf] at h
      cases h
      exact Vec.normal_ne_zero ha

section Opposite

variable {u v : Vec ℝ} (hu : u ≠ 0) (hv : v ≠ 0) (h : u.collinear v = true)
include hu hv h

theorem turnAlike_iff : TurnAlike u v ↔ 0 < u.dot v ∨ LeadAlike u v := by
  rcases betweenAxis?_cases h with ⟨hdot, hforth, hback⟩ | ⟨hdot, hforth, hback⟩
  · exact iff_of_true (.inl ⟨hforth, hback⟩) (.inl hdot)
  · rw [leadAlike_iff hu hv, TurnAlike, hforth, hback]
    simp [hdot]

theorem betweenMatrix_mul_eq_one_iff :
    betweenMatrix u v * betweenMatrix v u = 1 ↔ 0 < u.dot v ∨ LeadAlike u v := by
  rcases betweenAxis?_cases h with ⟨hdot, hforth, hback⟩ | ⟨hdot, hforth, hback⟩
  · rw [betweenMatrix_of_none hforth, betweenMatrix_of_none hback]
    exact iff_of_true (one_mul 1) (.inl hdot)
  · obtain ⟨a, ha⟩ := Vec.exists_firstNonzero hu
    obtain ⟨b, hb⟩ := Vec.exists_firstNonzero hv
    have hnu := Vec.normal_ne_zero ha
    have hnv := Vec.normal_ne_zero hb
    rw [betweenMatrix_of_halfTurn hforth, betweenMatrix_of_halfTurn hback,
      Mat.halfTurn_mul_eq_one_iff (Vec.dot_normalize_self hnu) (Vec.dot_normalize_self hnv),
      Vec.cross_normalize_eq_zero hnu hnv, leadAlike_iff hu hv, or_iff_right hdot]

/-- Between collinear directions the inverse turns as the rotation does, and so undoes it, exactly
if the directions point the same way or lead alike. -/
theorem turnAlike_and_undone_iff (anyAxis : Bool) :
    ∃ back, (rotateFromTo u v anyAxis).inverse = .ok back ∧
      (TurnAlike u v ∧ (rotateFromTo u v anyAxis).matrix * back.matrix = 1 ↔
        0 < u.dot v ∨ LeadAlike u v) := by
  refine ⟨rotateFromTo v u anyAxis, rfl, ?_⟩
  have hmatrix : (rotateFromTo u v anyAxis).matrix * (rotateFromTo v u anyAxis).matrix = 1 ↔ _ :=
    betweenMatrix_mul_eq_one_iff hu hv h
  rw [turnAlike_iff hu hv h, hmatrix, and_self_iff]

end Opposite

theorem turnAlike_and_undone_slanted :
    (⟨0, 3, 4⟩ : Vec ℝ) ≠ 0 ∧ (⟨0, -6, -8⟩ : Vec ℝ) ≠ 0 ∧
      (⟨0, 3, 4⟩ : Vec ℝ).collinear ⟨0, -6, -8⟩ = true ∧
      ∃ back, (rotateFromTo (⟨0, 3, 4⟩ : Vec ℝ) ⟨0, -6, -8⟩ false).inverse = .ok back ∧
        TurnAlike ⟨0, 3, 4⟩ ⟨0, -6, -8⟩ ∧
        (rotateFromTo (⟨0, 3, 4⟩ : Vec ℝ) ⟨0, -6, -8⟩ false).matrix * back.matrix = 1 := by
  have hu : (⟨0, 3, 4⟩ : Vec ℝ) ≠ 0 := by simp [Vec.zero_eq]
  have hv : (⟨0, -6, -8⟩ : Vec ℝ) ≠ 0 := by simp [Vec.zero_eq]
  have h : (⟨0, 3, 4⟩ : Vec ℝ).collinear ⟨0, -6, -8⟩ = true := by
    rw [Vec.collinear_iff]
    simp only [Vec.cross, Vec.dot]
    norm_num
  have hlead : LeadAlike ⟨0, 3, 4⟩ ⟨0, -6, -8⟩ := by
    refine ⟨.y, by simp [Vec.firstNonzero?, Axis.all, Vec.get],
      by simp [Vec.firstNonzero?, Axis.all, Vec.get], ?_⟩
    simp only [Vec.get, Axis.next]
    norm_num
  obtain ⟨back, hback, hiff⟩ := turnAlike_and_undone_iff hu hv h false
  exact ⟨hu, hv, h, back, hback, hiff.mpr (.inr hlead)⟩

/-- A direction that is opposite to `Y` by the tolerance only. -/
noncomputable def nearlyBack : Vec ℝ := ⟨Scalar.tolerance, -1, 0⟩

theorem nearlyBack_not_undone :
    nearlyBack ≠ 0 ∧ Vec.unit .y ≠ (0 : Vec ℝ) ∧ nearlyBack.collinear (Vec.unit .y) = true ∧
      ¬ TurnAlike nearlyBack (Vec.unit .y) ∧
      ∃ back, (rotateFromTo nearlyBack (Vec.unit .y) true).inverse = .ok back ∧
        (rotateFromTo nearlyBack (Vec.unit .y) true).matrix * back.matrix ≠ 1 := by
  have htolerance : (Scalar.tolerance : ℝ) = 1 / 10 ^ 12 := rfl
  have hu : nearlyBack ≠ 0 := by simp [nearlyBack, Vec.zero_eq]
  have hv : Vec.unit .y ≠ (0 : Vec ℝ) := Vec.ne_zero_of_dot_self (Vec.dot_unit_self .y)
  have h : nearlyBack.collinear (Vec.unit .y) = true := by
    rw [Vec.collinear_iff]
    simp only [nearlyBack, htolerance, Vec.unit, Vec.set, Vec.zero_eq, Vec.cross, Vec.dot]
    norm_num
  have hneither : ¬ (0 < nearlyBack.dot (Vec.unit .y) ∨ LeadAlike nearlyBack (Vec.unit .y)) := by
    rintro (hdot | ⟨a, ha, hb, -⟩)
    · simp only [nearlyBack, Vec.unit, Vec.set, Vec.zero_eq, Vec.dot] at hdot
      norm_num at hdot
    · have hx : nearlyBack.firstNonzero? = some .x := by
        simp [nearlyBack, htolerance, Vec.firstNonzero?, Axis.all, Vec.get]
      have hy : (Vec.unit .y : Vec ℝ).firstNonzero? = some .y := by
        simp [Vec.firstNonzero?, Axis.all, Vec.get, Vec.unit, Vec.set, Vec.zero_eq]
      cases (hx.symm.trans ha).trans (hb.symm.trans hy)
  refine ⟨hu, hv, h, fun halike => hneither ((turnAlike_iff hu hv h).mp halike), _, rfl, ?_⟩
  exact fun hone => hneither ((betweenMatrix_mul_eq_one_iff hu hv h).mp hone)

end Transform

end SolidScene
