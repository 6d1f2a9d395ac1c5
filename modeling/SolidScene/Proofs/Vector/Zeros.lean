import SolidScene.Proofs.Scalar.Zeros
import SolidScene.Vector

/-!
# Vectors with zeros of either sign

What is computed from vectors that differ in the signs of zeros only: lengths, angles and all tests
are the same, and other vectors differ in the signs of zeros only. The exception is the closest axis,
which takes its sign from a component. It is the same for vectors of numbers that are not zero.
-/
namespace SolidScene.Vec

open Double (Alike)

/-- The same vector up to the signs of zeros. -/
structure Like (u v : Vec Float) : Prop where
  x : Alike u.x v.x
  y : Alike u.y v.y
  z : Alike u.z v.z

theorem like_of_beq {u v : Vec Float} (h : (u == v) = true) : Like u v := by
  change (u.x == v.x && u.y == v.y && u.z == v.z) = true at h
  simp only [Bool.and_eq_true] at h
  exact ⟨Double.alike_of_beq h.1.1, Double.alike_of_beq h.1.2, Double.alike_of_beq h.2⟩

namespace Like

variable {u u' v v' : Vec Float}

theorem refl (v : Vec Float) : Like v v := ⟨.refl _, .refl _, .refl _⟩

theorem get (h : Like u v) (axis : Axis) : Alike (u.get axis) (v.get axis) := by
  cases axis with
  | x => exact h.x
  | y => exact h.y
  | z => exact h.z

theorem set (h : Like u v) (axis : Axis) {a b : Float} (hab : Alike a b) :
    Like (u.set axis a) (v.set axis b) := by
  cases axis with
  | x => exact ⟨hab, h.y, h.z⟩
  | y => exact ⟨h.x, hab, h.z⟩
  | z => exact ⟨h.x, h.y, hab⟩

theorem sub (hu : Like u u') (hv : Like v v') : Like (u - v) (u' - v') :=
  ⟨hu.x.sub hv.x, hu.y.sub hv.y, hu.z.sub hv.z⟩

theorem add (hu : Like u u') (hv : Like v v') : Like (u + v) (u' + v') :=
  ⟨hu.x.add hv.x, hu.y.add hv.y, hu.z.add hv.z⟩

theorem mul (h : Like u v) (c : Float) : Like (u * c) (v * c) :=
  ⟨h.x.mul (.refl c), h.y.mul (.refl c), h.z.mul (.refl c)⟩

theorem div (h : Like u v) (c : Float) : Like (u / c) (v / c) :=
  ⟨h.x.div c, h.y.div c, h.z.div c⟩

theorem cross (hu : Like u u') (hv : Like v v') : Like (u.cross v) (u'.cross v') :=
  ⟨(hu.y.mul hv.z).sub (hu.z.mul hv.y), (hu.z.mul hv.x).sub (hu.x.mul hv.z),
    (hu.x.mul hv.y).sub (hu.y.mul hv.x)⟩

theorem dot (hu : Like u u') (hv : Like v v') : Alike (u.dot v) (u'.dot v') :=
  ((hu.x.mul hv.x).add (hu.y.mul hv.y)).add (hu.z.mul hv.z)

/-- A sum of squares has no sign. -/
theorem normSquared (h : Like u v) : u.normSquared = v.normSquared := by
  change u.x * u.x + u.y * u.y + u.z * u.z = v.x * v.x + v.y * v.y + v.z * v.z
  rw [h.x.mul_self, h.y.mul_self, h.z.mul_self]

theorem norm (h : Like u v) : u.norm = v.norm := congrArg Scalar.sqrt h.normSquared

theorem normalize (h : Like u v) : Like u.normalize v.normalize := by
  rw [Vec.normalize, Vec.normalize, h.norm]
  exact h.div v.norm

theorem beq (hu : Like u u') (hv : Like v v') : (u == v) = (u' == v') := by
  change (u.x == v.x && u.y == v.y && u.z == v.z) = (u'.x == v'.x && u'.y == v'.y && u'.z == v'.z)
  rw [hu.x.beq hv.x, hu.y.beq hv.y, hu.z.beq hv.z]

theorem bne (hu : Like u u') (hv : Like v v') : (u != v) = (u' != v') :=
  congrArg (! ·) (hu.beq hv)

theorem collinear (hu : Like u u') (hv : Like v v') : u.collinear v = u'.collinear v' := by
  rw [Vec.collinear, Vec.collinear, (hu.cross hv).normSquared, hu.normSquared, hv.normSquared]

theorem angleTo (hu : Like u u') (hv : Like v v') : u.angleTo v = u'.angleTo v' := by
  have hdifference := ((hu.mul v'.norm).sub (hv.mul u'.norm)).norm
  have hsum := ((hu.mul v'.norm).add (hv.mul u'.norm)).norm
  simp only [Vec.angleTo, hu.norm, hv.norm, hdifference, hsum]

theorem firstNonzero? (h : Like u v) : u.firstNonzero? = v.firstNonzero? := by
  have htest : (fun axis => u.get axis != 0) = fun axis => v.get axis != 0 :=
    funext fun axis => (h.get axis).bne (.refl 0)
  rw [Vec.firstNonzero?, Vec.firstNonzero?, htest]

theorem normal (h : Like u v) : Like u.normal v.normal := by
  rw [Vec.normal, Vec.normal, h.firstNonzero?]
  cases v.firstNonzero? with
  | none => exact .refl 0
  | some axis => exact ((Like.refl 0).set axis (h.get axis.next).neg).set axis.next (h.get axis)

theorem dominantAxis (h : Like u v) : u.dominantAxis = v.dominantAxis := by
  have habs (axis : Axis) : Scalar.abs (u.get axis) = Scalar.abs (v.get axis) := (h.get axis).abs
  simp only [Vec.dominantAxis, h.x.abs, h.y.abs, h.z.abs, habs]

end Like

/-- Only the zero vector has a dominant component that is zero. -/
theorem isZero_of_dominant {v : Vec Float} (hnumbers : (v == v) = true)
    (h : (v.get v.dominantAxis == 0) = true) : v.isZero = true := by
  change (v.x == v.x && v.y == v.y && v.z == v.z) = true at hnumbers
  simp only [Bool.and_eq_true] at hnumbers
  obtain ⟨⟨hx, hy⟩, hz⟩ := hnumbers
  have hlt {a b : Float} (hb : (b == 0) = true) :
      ¬Scalar.lt (Scalar.abs a) (Scalar.abs b) = true := by
    rw [Double.lt_abs_zero a hb]
    exact Bool.false_ne_true
  -- A component that was chosen for being greater than another one is not zero.
  simp only [dominantAxis] at h
  split at h
  · next hxy =>
    split at h
    · next hyz => exact absurd hyz (hlt h)
    · exact absurd hxy (hlt h)
  · next hxy =>
    split at h
    · next hxz => exact absurd hxz (hlt h)
    · next hxz =>
      rw [Bool.not_eq_true] at hxy hxz
      simp only [isZero, Bool.and_eq_true]
      exact ⟨⟨h, Double.zero_of_not_lt_abs h hy hxy⟩, Double.zero_of_not_lt_abs h hz hxz⟩

/-- The component that gives the closest axis its sign is not a zero, so it is the same number. -/
theorem Like.closestAxis {u v : Vec Float} (h : Like u v) (hnumbers : (u == u) = true)
    (hzero : u.isZero = false) : u.closestAxis = v.closestAxis := by
  have hcomponent : u.get v.dominantAxis = v.get v.dominantAxis := by
    rcases h.get v.dominantAxis with heq | ⟨hcomponent, -⟩
    · exact heq
    · rw [← h.dominantAxis] at hcomponent
      rw [isZero_of_dominant hnumbers hcomponent] at hzero
      cases hzero
  rw [Vec.closestAxis, Vec.closestAxis, h.dominantAxis, hcomponent]

theorem collinear_of_isZero {v : Vec Float} (h : v.isZero = true) :
    v.collinear (unit .x) = true := by
  simp only [isZero, Bool.and_eq_true] at h
  have hlike : Like v 0 := ⟨.inr ⟨h.1.1, rfl⟩, .inr ⟨h.1.2, rfl⟩, .inr ⟨h.2, rfl⟩⟩
  rw [hlike.collinear (.refl _)]
  decide +kernel

end SolidScene.Vec
