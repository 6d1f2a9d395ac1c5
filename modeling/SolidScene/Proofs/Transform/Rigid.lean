import SolidScene.Proofs.Transform.Aligning
import SolidScene.Proofs.Transform.Singular

/-!
# Transforms that move rigidly

A transform without scales, at any nesting of chains, keeps the distance between any two points and
the cross product of any two directions, and so does its inverse. This holds of rotations between
collinear directions as well, where the inverse need not undo the transform.
-/
namespace SolidScene.Transform

def isScale {α : Type} : Transform α → Bool
  | scaleUniform _ => true
  | scaleAxes _ => true
  | scaleAlong _ _ => true
  | _ => false

/-- Moving points as a rigid body: their distances stay, and directions keep their handedness. -/
structure MovesRigidly (t : Transform ℝ) : Prop where
  distance (p q : Vec ℝ) : (t * p - t * q).norm = (p - q).norm
  handedness (u v : Vec ℝ) :
    t.matrix.carry (u.cross v) = (t.matrix.carry u).cross (t.matrix.carry v)

theorem movesRigidly_of_isRigid {t : Transform ℝ} (h : t.matrix.IsRigid) : t.MovesRigidly :=
  ⟨h.norm_apply_sub, h.carry_cross⟩

theorem isRigid_eulerMatrix (angles : Vec ℝ) : (eulerMatrix angles).IsRigid :=
  ((Mat.isRigid_rotation _ _).mul (Mat.isRigid_rotation _ _)).mul (Mat.isRigid_rotation _ _)

theorem isRigid_rotateYpr (yaw pitch roll : ℝ) : (rotateYpr yaw pitch roll).matrix.IsRigid := by
  rw [matrix_rotateYpr]
  exact ((Mat.isRigid_rotation _ _).mul (Mat.isRigid_rotation _ _)).mul (Mat.isRigid_rotation _ _)

/-- A single step that is no scale has a rigid matrix, and so has its inverse. -/
theorem isRigid_of_single {t : Transform ℝ} (ht : t.Constructed) (hsingle : t.isChain = false)
    (hscale : t.isScale = false) :
    t.matrix.IsRigid ∧ ∀ u, t.inverse = .ok u → u.matrix.IsRigid := by
  have hproduct {a b c : Transform ℝ} (ha : a.matrix.IsRigid) (hb : b.matrix.IsRigid)
      (hc : c.matrix.IsRigid) : (a * b * c).matrix.IsRigid := by
    rw [matrix_mul, matrix_mul]
    exact (ha.mul hb).mul hc
  cases ht with
  | translate offset =>
    refine ⟨Mat.isRigid_displacement offset, ?_⟩
    rintro _ ⟨⟩
    exact Mat.isRigid_displacement (-offset)
  | around h =>
    obtain ⟨haxis, rfl⟩ := around_ok.mp h
    have hne := Vec.isZero_eq_false.mp haxis
    refine ⟨Mat.isRigid_axisAngle hne _, ?_⟩
    rintro _ ⟨⟩
    exact Mat.isRigid_axisAngle (Vec.neg_ne_zero hne) _
  | rotateXyz angles =>
    refine ⟨isRigid_eulerMatrix angles, ?_⟩
    rintro _ ⟨⟩
    exact hproduct (isRigid_eulerMatrix _) (isRigid_eulerMatrix _) (isRigid_eulerMatrix _)
  | rotateYpr yaw pitch roll =>
    refine ⟨isRigid_rotateYpr yaw pitch roll, ?_⟩
    rintro _ ⟨⟩
    exact hproduct (isRigid_rotateYpr ..) (isRigid_rotateYpr ..) (isRigid_rotateYpr ..)
  | fromTo h =>
    obtain ⟨hsource, htarget, hvalue⟩ := fromTo_ok h
    rw [hvalue]
    refine ⟨isRigid_betweenMatrix (Vec.isZero_eq_false.mp hsource) _, ?_⟩
    rintro _ ⟨⟩
    exact isRigid_betweenMatrix (Vec.isZero_eq_false.mp htarget) _
  | scaleUniform factor => cases hscale
  | scaled factors => cases hscale
  | along h =>
    obtain ⟨-, rfl⟩ := along_ok.mp h
    cases hscale
  | chain h => cases hsingle

theorem isRigid_matrix {t : Transform ℝ} (h : ∀ s ∈ t.singles, s.matrix.IsRigid) :
    t.matrix.IsRigid := by
  rw [← matrix_singles, matrix_chain]
  exact Mat.isRigid_prod (List.forall_mem_map.mpr h)

/-- The inverse of a chain is a product of the inverses of its steps. -/
theorem isRigid_inverse {t : Transform ℝ} :
    (∀ s ∈ t.singles, ∀ u, s.inverse = .ok u → u.matrix.IsRigid) →
      ∀ u, t.inverse = .ok u → u.matrix.IsRigid := by
  induction t using induction with
  | single t ht =>
    intro h
    rw [singles_of_single ht, List.forall_mem_singleton] at h
    exact h
  | chain ts ih =>
    intro h u hu
    obtain ⟨parts, hparts, rfl⟩ := inverse_chain_ok.mp hu
    have hrigid : ∀ part ∈ parts, (part.map matrix).prod.IsRigid := by
      intro part hpart
      obtain ⟨t, ht, u, hu, rfl⟩ := exists_of_related hparts hpart
      rw [prod_matrix_elements]
      exact ih t ht (fun s hs => h s (mem_singles_chain.mpr ⟨t, ht, hs⟩)) u hu
    rw [matrix_chain, List.map_flatten, List.prod_flatten, List.map_map]
    exact Mat.isRigid_prod (by simpa using hrigid)

/-- A transform without scales moves rigidly, and has an inverse that does so as well. -/
theorem unscaled_movesRigidly {t : Transform ℝ} (ht : t.Constructed)
    (hscale : ∀ s ∈ t.singles, s.isScale = false) :
    t.MovesRigidly ∧ ∃ u, t.inverse = .ok u ∧ u.MovesRigidly := by
  have hsteps (s : Transform ℝ) (hs : s ∈ t.singles) :=
    isRigid_of_single (ht.singles s hs) (single_of_mem_singles hs) (hscale s hs)
  have hfactors : ∀ s ∈ t.singles, s.zeroFactor? = none := by
    intro s hs
    have hno := hscale s hs
    cases s with
    | scaleUniform factor => cases hno
    | scaleAxes factors => cases hno
    | scaleAlong axis factor => cases hno
    | _ => rfl
  obtain ⟨u, hu⟩ := exists_inverse_iff.mpr hfactors
  exact ⟨movesRigidly_of_isRigid (isRigid_matrix fun s hs => (hsteps s hs).1), u, hu,
    movesRigidly_of_isRigid (isRigid_inverse (fun s hs => (hsteps s hs).2) u hu)⟩

/-- A displacement, two turns in a chain of their own, and a rotation between directions that are
opposite by the tolerance only. -/
noncomputable def tumbling : Transform ℝ :=
  chain [translate ⟨6, 9, 0⟩, chain [rotateAround ⟨1, 1, 0⟩ 20, rotateYpr 50 0 70],
    rotateFromTo nearlyBack (Vec.unit .y) true]

theorem constructed_tumbling : tumbling.Constructed := by
  have haround : (rotateAround ⟨1, 1, 0⟩ 20 : Transform ℝ).Constructed :=
    .around (around_ok.mpr ⟨Vec.isZero_eq_false.mpr (by simp [Vec.zero_eq]), rfl⟩)
  have hinner : (chain [rotateAround ⟨1, 1, 0⟩ 20, rotateYpr 50 0 70] : Transform ℝ).Constructed :=
    .chain (by simp [haround, Constructed.rotateYpr])
  have hback : (rotateFromTo nearlyBack (Vec.unit .y) true).Constructed :=
    constructed_rotateFromTo (Vec.isZero_eq_false.mpr (by simp [nearlyBack, Vec.zero_eq]))
      (Vec.isZero_eq_false.mpr (Vec.ne_zero_of_dot_self (Vec.dot_unit_self .y))) true
  exact .chain (by simp [Constructed.translate, hinner, hback])

theorem unscaled_movesRigidly_tumbling :
    tumbling.Constructed ∧ (∀ s ∈ tumbling.singles, s.isScale = false) ∧
      tumbling.MovesRigidly ∧ ∃ u, tumbling.inverse = .ok u ∧ u.MovesRigidly := by
  have hscale : ∀ s ∈ tumbling.singles, s.isScale = false := by
    simp [tumbling, singles, singlesOf, isScale]
  exact ⟨constructed_tumbling, hscale, unscaled_movesRigidly constructed_tumbling hscale⟩

end SolidScene.Transform
