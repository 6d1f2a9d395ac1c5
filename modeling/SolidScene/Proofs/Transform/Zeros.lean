import SolidScene.Proofs.Scad.Zeros
import SolidScene.Proofs.Transform.Nesting

/-!
# Equal transforms in scene source

Transforms that compare equal differ in the signs of zeros, and in whether any axis will do for
opposite directions. They are written as the same calls but for the comments of rotations between
directions, which show the directions. A direction of a scale may even be zero here: such a scale is
taken for one along X.
-/
namespace SolidScene

open Double (Alike)
open Scad (Node Parted OneLine)
open Scad.Node (SameHead Twin)

namespace Transform

section Calls

variable {u u' v v' : Vec Float} {a b : Float}

theorem sameHead_vectorCall (name : String) (h : u.Like v) :
    SameHead (vectorCall name u none) (vectorCall name v none) :=
  Scad.Node.sameHead_call rfl rfl (.cons h.source .nil) .nil rfl rfl

theorem sameHead_rotateCall (h : u.Like v) (hangle : Alike a b) :
    SameHead (rotateCall u a none) (rotateCall v b none) :=
  Scad.Node.sameHead_call rfl rfl .nil (.cons ⟨rfl, hangle.source⟩ (.cons ⟨rfl, h.source⟩ .nil))
    rfl rfl

theorem betweenAxis?_related (hu : u.Like u') (hv : v.Like v') :
    Option.Rel (fun p q => p.1.Like q.1 ∧ p.2 = q.2) (betweenAxis? u v) (betweenAxis? u' v') := by
  rw [betweenAxis?, betweenAxis?, hu.collinear hv, Alike.lt (.refl 0) (hu.dot hv), hu.angleTo hv]
  split
  · split
    · exact .none
    · exact .some ⟨hu.normal, rfl⟩
  · exact .some ⟨hu.cross hv, rfl⟩

theorem oneLine_fromToText (u v : Vec Float) : OneLine (fromToText u v) :=
  ((OneLine.append (by decide) u.oneLine_text).append (by decide)).append v.oneLine_text

theorem parted_fromToText (hu : u.Like u') (hv : v.Like v') :
    Parted (fromToText u v) (fromToText u' v') :=
  (((Parted.refl _).append hu.parted_text).append (.refl _)).append hv.parted_text

theorem sameHead_betweenCalls (hu : u.Like u') (hv : v.Like v') :
    List.Forall₂ SameHead (betweenCalls u v) (betweenCalls u' v') := by
  unfold betweenCalls
  match betweenAxis? u v, betweenAxis? u' v', betweenAxis?_related hu hv with
  | none, none, _ => exact .nil
  | some (axis, angle), some (axis', angle'), .some ⟨haxis, hangle⟩ =>
    have hcall := sameHead_rotateCall haxis.normalize (.inl hangle)
    exact .cons (hcall.commented rfl rfl (oneLine_fromToText u v) (oneLine_fromToText u' v')
      (parted_fromToText hu hv)) .nil

end Calls

section Angles

variable {y y' p p' r r' : Float}

theorem eulerSteps_related (hy : Alike y y') (hp : Alike p p') (hr : Alike r r') :
    List.Forall₂ Vec.Like (eulerSteps y p r) (eulerSteps y' p' r') := by
  rw [eulerSteps, eulerSteps, hy.bne (.refl 0), hp.bne (.refl 0), hr.bne (.refl 0)]
  refine List.rel_append ?_ ?_
  · split
    · exact .cons ⟨hp, .refl 0, hy⟩ .nil
    · exact .nil
  · split
    · exact .cons ⟨.refl 0, hr, .refl 0⟩ .nil
    · exact .nil

/-- Angles of zero are not named at all. -/
theorem yprText_eq (hy : Alike y y') (hp : Alike p p') (hr : Alike r r') :
    yprText y p r = yprText y' p' r' := by
  have hpart {x x' : Float} (h : Alike x x') (name : String) :
      [(x, name)].filter (·.1 != 0) = [(x', name)].filter (·.1 != 0) := by
    rcases h with rfl | ⟨hx, hx'⟩
    · rfl
    · simp [bne, hx, hx']
  have hparts : [(y, "yaw"), (p, "pitch"), (r, "roll")].filter (·.1 != 0) =
      [(y', "yaw"), (p', "pitch"), (r', "roll")].filter (·.1 != 0) := by
    change ([(y, "yaw")] ++ [(p, "pitch")] ++ [(r, "roll")]).filter (·.1 != 0) =
      ([(y', "yaw")] ++ [(p', "pitch")] ++ [(r', "roll")]).filter (·.1 != 0)
    simp only [List.filter_append, hpart hy, hpart hp, hpart hr]
  simp only [yprText, hparts]

theorem sameHead_yprCalls (hy : Alike y y') (hp : Alike p p') (hr : Alike r r') :
    List.Forall₂ SameHead (yprCalls y p r) (yprCalls y' p' r') := by
  unfold yprCalls
  rw [yprText_eq hy hp hr]
  match eulerSteps y p r, eulerSteps y' p' r', eulerSteps_related hy hp hr with
  | [], [], _ => exact .cons ((sameHead_vectorCall "rotate" (.refl 0)).commented_same rfl _) .nil
  | first :: rest, first' :: rest', .cons hfirst hrest =>
    refine .cons ((sameHead_vectorCall "rotate" hfirst).commented_same rfl _) ?_
    rw [eulerCalls, eulerCalls, List.forall₂_map_left_iff, List.forall₂_map_right_iff]
    exact hrest.imp fun _ _ h => sameHead_vectorCall "rotate" h

end Angles

section Scales

variable {axis axis' : Vec Float} {factor factor' : Float}

theorem like_factorsAlong (a : Axis) (h : Alike factor factor') :
    (factorsAlong a factor).Like (factorsAlong a factor') := (Vec.Like.refl _).set a h

theorem alignedAxis?_eq (h : axis.Like axis') : alignedAxis? axis = alignedAxis? axis' := by
  have htest : (fun a => axis.collinear (Vec.unit a)) = fun a => axis'.collinear (Vec.unit a) :=
    funext fun a => h.collinear (.refl _)
  rw [alignedAxis?, alignedAxis?, htest]

theorem not_isZero_of_alignedAxis? (h : alignedAxis? axis = none) : axis.isZero = false := by
  rw [← Bool.not_eq_true]
  intro hzero
  have hx := List.find?_eq_none.mp h .x (by decide)
  exact hx (Vec.collinear_of_isZero hzero)

/-- The axis has to be one of numbers, or its closest axis would depend on the sign of a zero. -/
theorem sameHead_alongCalls (h : axis.Like axis') (hnumbers : (axis == axis) = true)
    (hfactor : Alike factor factor') :
    List.Forall₂ SameHead (alongCalls axis factor) (alongCalls axis' factor') := by
  unfold alongCalls
  rw [hfactor.beq (.refl 1)]
  split
  · exact .cons (sameHead_vectorCall "scale" (.refl _)) .nil
  · rw [← alignedAxis?_eq h]
    cases haligned : alignedAxis? axis with
    | some a => exact .cons (sameHead_vectorCall "scale" (like_factorsAlong a hfactor)) .nil
    | none =>
      -- Vectors near zero count as aligned, so the closest axis has a component to go by.
      have hclosest := h.closestAxis hnumbers (not_isZero_of_alignedAxis? haligned)
      simp only [← hclosest]
      refine List.rel_append (sameHead_betweenCalls (.refl _) h) ?_
      exact .cons (sameHead_vectorCall "scale" (like_factorsAlong _ hfactor))
        (sameHead_betweenCalls h (.refl _))

end Scales

theorem related_of_beqAll {ts us : List (Transform Float)} (h : beqAll ts us = true) :
    List.Forall₂ (fun t u => t.beq u = true) ts us :=
  related_of_cons (fun _ _ => rfl) (fun _ _ => rfl) (fun _ _ _ _ => rfl) h

/-- Equal transforms are written as the same calls up to comments. -/
theorem sameHead_calls {t : Transform Float} :
    ∀ {u : Transform Float}, t.beq u = true → List.Forall₂ SameHead t.calls u.calls := by
  induction t using induction with
  | single t ht =>
    intro u h
    cases t with
    | chain ts => cases ht
    | translate offset =>
      cases u with
      | translate offset' =>
        exact .cons (sameHead_vectorCall "translate" (Vec.like_of_beq h)) .nil
      | _ => cases h
    | rotateAround axis angle =>
      cases u with
      | rotateAround axis' angle' =>
        obtain ⟨haxis, hangle⟩ := Bool.and_eq_true_iff.mp h
        exact .cons (sameHead_rotateCall (Vec.like_of_beq haxis) (Double.alike_of_beq hangle)) .nil
      | _ => cases h
    | rotateXyz angles =>
      cases u with
      | rotateXyz angles' =>
        exact .cons (sameHead_vectorCall "rotate" (Vec.like_of_beq h)) .nil
      | _ => cases h
    | rotateYpr yaw pitch roll =>
      cases u with
      | rotateYpr yaw' pitch' roll' =>
        obtain ⟨h, hroll⟩ := Bool.and_eq_true_iff.mp h
        obtain ⟨hyaw, hpitch⟩ := Bool.and_eq_true_iff.mp h
        exact sameHead_yprCalls (Double.alike_of_beq hyaw) (Double.alike_of_beq hpitch)
          (Double.alike_of_beq hroll)
      | _ => cases h
    | rotateFromTo source goal anyAxis =>
      cases u with
      | rotateFromTo source' goal' anyAxis' =>
        obtain ⟨hsource, hgoal⟩ := Bool.and_eq_true_iff.mp h
        exact sameHead_betweenCalls (Vec.like_of_beq hsource) (Vec.like_of_beq hgoal)
      | _ => cases h
    | scaleUniform factor =>
      cases u with
      | scaleUniform factor' =>
        have hfactor := Double.alike_of_beq h
        exact .cons (sameHead_vectorCall "scale" ⟨hfactor, hfactor, hfactor⟩) .nil
      | _ => cases h
    | scaleAxes factors =>
      cases u with
      | scaleAxes factors' =>
        exact .cons (sameHead_vectorCall "scale" (Vec.like_of_beq h)) .nil
      | _ => cases h
    | scaleAlong axis factor =>
      cases u with
      | scaleAlong axis' factor' =>
        obtain ⟨haxis, hfactor⟩ := Bool.and_eq_true_iff.mp h
        have hlike := Vec.like_of_beq haxis
        have hnumbers : (axis == axis) = true := (Vec.Like.beq (.refl axis) hlike).trans haxis
        exact sameHead_alongCalls hlike hnumbers (Double.alike_of_beq hfactor)
      | _ => cases h
  | chain ts ih =>
    intro u h
    cases u with
    | chain us =>
      have hsteps := (List.forall₂_and_left _ _).mpr ⟨ih, related_of_beqAll h⟩
      rw [calls_chain, calls_chain]
      exact List.rel_flatMap (hsteps.imp fun _ _ h => h.1 h.2) fun _ _ h => h
    | _ => cases h

/-- Calls that are the same up to comments keep trees inside them written alike. -/
theorem twin_nest {cs ds : List (Node Float)} (h : List.Forall₂ SameHead cs ds) {x y : Node Float}
    (hxy : Twin x y) : Twin (nest cs x) (nest ds y) := by
  induction h with
  | nil => exact hxy
  | cons hfirst _ ih =>
    exact Scad.Node.twin_of_children ⟨hfirst.head, hfirst.remarks⟩ (.cons ih .nil)

end Transform

end SolidScene
