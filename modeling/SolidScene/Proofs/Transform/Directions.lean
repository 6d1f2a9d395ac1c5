import SolidScene.Proofs.Transform.Flat
import SolidScene.Proofs.Transform.Opposite

/-!
# Directions that are not zero

Constructors refuse directions that are zero, and whatever is made of their results needs no further
check: inverses negate or swap directions, a scale along an axis adds the closest coordinate axis,
and the axis of a rotation between directions is a normal of the first one or their cross product.
So no vector is zero that a transform divides by its length.
-/
namespace SolidScene.Transform

section Stored

variable {α : Type}

/-- The directions that a single transform stores. -/
def ownDirections : Transform α → List (Vec α)
  | rotateAround axis _ => [axis]
  | rotateFromTo source target _ => [source, target]
  | scaleAlong axis _ => [axis]
  | _ => []

/-- The directions that are stored anywhere in a transform. -/
def directions (t : Transform α) : List (Vec α) := t.singles.flatMap ownDirections

variable [Scalar α]

/-- The axis of the rotation between two directions, if it turns at all. -/
def betweenAxes (source target : Vec α) : List (Vec α) :=
  ((betweenAxis? source target).map Prod.fst).toList

theorem mem_betweenAxes {source target axis : Vec α} :
    axis ∈ betweenAxes source target ↔
      ∃ angle, betweenAxis? source target = some (axis, angle) := by
  simp [betweenAxes]

/-- The vectors that a single transform divides by their lengths to become a matrix or calls. A
scale along an axis is written as two rotations if its axis is no coordinate axis. -/
def ownNormalized : Transform α → List (Vec α)
  | rotateAround axis _ => [axis]
  | rotateFromTo source target _ => betweenAxes source target
  | scaleAlong axis _ =>
    axis :: (betweenAxes axis.closestAxis axis ++ betweenAxes axis axis.closestAxis)
  | _ => []

def normalized (t : Transform α) : List (Vec α) := t.singles.flatMap ownNormalized

theorem normalized_of_single {t : Transform α} (ht : t.isChain = false) :
    t.normalized = t.ownNormalized := by
  rw [normalized, singles_of_single ht, List.flatMap_singleton]

theorem mem_normalized_chain {v : Vec α} {ts : List (Transform α)} :
    v ∈ (chain ts).normalized ↔ ∃ t ∈ ts, v ∈ t.normalized := by
  rw [normalized, singles, singlesOf_eq_flatMap, List.flatMap_assoc]
  exact List.mem_flatMap

/-- A transform that constructors, compositions, inverses and equivalent steps lead to. Lists of
transforms may be made chains, and steps taken out of chains. -/
inductive Obtained : Transform α → Prop where
  | constructed {t : Transform α} (h : t.Constructed) : Obtained t
  | mul {t u : Transform α} (ht : Obtained t) (hu : Obtained u) : Obtained (t * u)
  | chain {ts : List (Transform α)} (h : ∀ t ∈ ts, Obtained t) : Obtained (chain ts)
  | step {t s : Transform α} (ht : Obtained t) (hs : s ∈ t.elements) : Obtained s
  | inverse {t u : Transform α} (ht : Obtained t) (h : t.inverse = .ok u) : Obtained u
  | equivalent {t u : Transform α} (ht : Obtained t) (h : t.equivalent? = some u) : Obtained u

end Stored

theorem closestAxis_ne_zero (v : Vec ℝ) : v.closestAxis ≠ 0 :=
  Vec.ne_zero_of_dot_self v.dot_closestAxis_self

theorem constructed_between {source target : Vec ℝ} (hsource : source ≠ 0) (htarget : target ≠ 0)
    (anyAxis : Bool) : Constructed (rotateFromTo source target anyAxis) :=
  constructed_rotateFromTo (Vec.isZero_eq_false.mpr hsource) (Vec.isZero_eq_false.mpr htarget)
    anyAxis

theorem constructed_inverse {t : Transform ℝ} (ht : t.Constructed) :
    ∀ u, t.inverse = .ok u → u.Constructed := by
  induction ht with
  | translate offset =>
    rintro u ⟨⟩
    exact .translate _
  | around h =>
    obtain ⟨haxis, rfl⟩ := around_ok.mp h
    rintro u ⟨⟩
    have hneg := Vec.neg_ne_zero (Vec.isZero_eq_false.mp haxis)
    exact .around (around_ok.mpr ⟨Vec.isZero_eq_false.mpr hneg, rfl⟩)
  | rotateXyz angles =>
    rintro u ⟨⟩
    exact ((Constructed.rotateXyz _).mul (.rotateXyz _)).mul (.rotateXyz _)
  | rotateYpr yaw pitch roll =>
    rintro u ⟨⟩
    exact ((Constructed.rotateYpr _ _ _).mul (.rotateYpr _ _ _)).mul (.rotateYpr _ _ _)
  | fromTo h =>
    -- The inverse swaps the directions without a check of its own.
    obtain ⟨hsource, htarget, hvalue⟩ := fromTo_ok h
    rw [hvalue]
    rintro u ⟨⟩
    exact constructed_rotateFromTo htarget hsource _
  | scaleUniform factor =>
    intro u hu
    obtain ⟨-, rfl⟩ := inverse_scaleUniform_ok.mp hu
    exact .scaleUniform _
  | scaled factors =>
    intro u hu
    obtain ⟨-, rfl⟩ := inverse_scaleAxes_ok.mp hu
    exact .scaled _
  | along h =>
    obtain ⟨haxis, rfl⟩ := along_ok.mp h
    intro u hu
    obtain ⟨-, rfl⟩ := inverse_scaleAlong_ok.mp hu
    exact .along (along_ok.mpr ⟨haxis, rfl⟩)
  | chain _ ih =>
    intro u hu
    obtain ⟨parts, hparts, rfl⟩ := inverse_chain_ok.mp hu
    refine .chain fun s hs => ?_
    obtain ⟨t, ht, back, hback, hs⟩ := mem_inverse_chain hparts hs
    exact (ih t ht back hback).elements s hs

theorem constructed_equivalent {t : Transform ℝ} (ht : t.Constructed) :
    ∀ u, t.equivalent? = some u → u.Constructed := by
  cases ht with
  | rotateYpr yaw pitch roll =>
    rintro u ⟨⟩
    refine .chain fun s hs => ?_
    obtain ⟨angles, -, rfl⟩ := List.mem_map.mp hs
    exact .rotateXyz angles
  | along h =>
    obtain ⟨haxis, rfl⟩ := along_ok.mp h
    rintro u ⟨⟩
    have haxis := Vec.isZero_eq_false.mp haxis
    refine .chain ?_
    simp only [List.forall_mem_cons]
    exact ⟨constructed_between (closestAxis_ne_zero _) haxis true, .scaled _,
      constructed_between haxis (closestAxis_ne_zero _) true, List.forall_mem_nil _⟩
  | around h =>
    obtain ⟨-, rfl⟩ := around_ok.mp h
    exact nofun
  | fromTo h =>
    rw [(fromTo_ok h).2.2]
    exact nofun
  | _ => exact nofun

/-- No operation leads out of what the constructors accept. -/
theorem Obtained.accepted {t : Transform ℝ} (ht : t.Obtained) : t.Constructed := by
  induction ht with
  | constructed h => exact h
  | mul _ _ iht ihu => exact iht.mul ihu
  | chain _ ih => exact .chain ih
  | step _ hs ih => exact ih.elements _ hs
  | inverse _ h ih => exact constructed_inverse ih _ h
  | equivalent _ h ih => exact constructed_equivalent ih _ h

theorem ownDirections_ne_zero {t : Transform ℝ} (ht : t.Constructed) :
    ∀ v ∈ t.ownDirections, v ≠ 0 := by
  cases ht with
  | around h =>
    obtain ⟨haxis, rfl⟩ := around_ok.mp h
    simpa [ownDirections] using Vec.isZero_eq_false.mp haxis
  | fromTo h =>
    obtain ⟨hsource, htarget, hvalue⟩ := fromTo_ok h
    rw [hvalue]
    simpa [ownDirections] using
      ⟨Vec.isZero_eq_false.mp hsource, Vec.isZero_eq_false.mp htarget⟩
  | along h =>
    obtain ⟨haxis, rfl⟩ := along_ok.mp h
    simpa [ownDirections] using Vec.isZero_eq_false.mp haxis
  | _ => exact nofun

theorem directions_ne_zero {t : Transform ℝ} (ht : t.Constructed) :
    ∀ v ∈ t.directions, v ≠ 0 := by
  intro v hv
  obtain ⟨s, hs, hv⟩ := List.mem_flatMap.mp hv
  exact ownDirections_ne_zero (ht.singles s hs) v hv

theorem betweenAxes_ne_zero {source : Vec ℝ} (hsource : source ≠ 0) (target : Vec ℝ) :
    ∀ axis ∈ betweenAxes source target, axis ≠ 0 := by
  intro axis haxis
  obtain ⟨angle, h⟩ := mem_betweenAxes.mp haxis
  exact axis_ne_zero_of_between hsource h

/-- Only the directions of a transform decide whether a vector it normalises is zero. -/
theorem ownNormalized_ne_zero {t : Transform ℝ} (ht : ∀ v ∈ t.ownDirections, v ≠ 0) :
    ∀ v ∈ t.ownNormalized, v ≠ 0 := by
  cases t with
  | rotateAround axis angle => exact ht
  | rotateFromTo source target anyAxis =>
    rw [ownDirections, List.forall_mem_cons] at ht
    exact betweenAxes_ne_zero ht.1 target
  | scaleAlong axis factor =>
    rw [ownDirections, List.forall_mem_singleton] at ht
    simp only [ownNormalized, List.forall_mem_cons, List.forall_mem_append]
    exact ⟨ht, betweenAxes_ne_zero (closestAxis_ne_zero axis) axis,
      betweenAxes_ne_zero ht axis.closestAxis⟩
  | _ => exact nofun

theorem normalized_ne_zero {t : Transform ℝ} (ht : ∀ v ∈ t.directions, v ≠ 0) :
    ∀ v ∈ t.normalized, v ≠ 0 := by
  intro v hv
  obtain ⟨s, hs, hv⟩ := List.mem_flatMap.mp hv
  refine ownNormalized_ne_zero (fun w hw => ht w ?_) v hv
  exact List.mem_flatMap.mpr ⟨s, hs, hw⟩

end SolidScene.Transform
