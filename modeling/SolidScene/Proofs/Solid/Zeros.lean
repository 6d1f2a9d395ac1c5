import SolidScene.Proofs.Solid.Nesting
import SolidScene.Proofs.Transform.Zeros

/-!
# Equal solids in scene source

Whether two solids are equal does not depend on the signs of zeros. Parameters of statements are
written without them, so equal solids have the same source but for comments. The comment of a
rotation between directions is the exception: it shows the directions with their signs.
-/
namespace SolidScene

open Double (Alike)
open Scad (Node Layout)
open Scad.Node (SameHead Twin)
open Transform (nest)

theorem twin_standingFrustum (length : Float) {r r' s s' : Float} (hr : Alike r r')
    (hs : Alike s s') :
    Twin (standingFrustum length r s) (standingFrustum length r' s') := by
  have hlength := Alike.source (.refl length)
  unfold standingFrustum
  rw [hr.beq hs]
  split
  · exact Scad.Node.twin_of_children
      (Scad.Node.sameHead_call rfl rfl (.cons hlength .nil)
        (.cons ⟨rfl, hr.source⟩ .nil) rfl rfl) .nil
  · exact Scad.Node.twin_of_children
      (Scad.Node.sameHead_call rfl rfl (.cons hlength .nil)
        (.cons ⟨rfl, hr.source⟩ (.cons ⟨rfl, hs.source⟩ .nil)) rfl rfl) .nil

theorem sameHead_frustumCalls {b b' c c' : Vec Float} (hb : b.Like b') (hc : c.Like c') :
    List.Forall₂ SameHead (frustumCalls b c) (frustumCalls b' c') := by
  have haxis := hc.sub hb
  have hdirection := haxis.div (c' - b').norm
  simp only [frustumCalls, haxis.norm, hb.bne (.refl 0), hdirection.bne (.refl _)]
  refine List.rel_append ?_ ?_
  · split
    · exact .cons (Transform.sameHead_vectorCall "translate" hb) .nil
    · exact .nil
  · split
    · exact Transform.sameHead_betweenCalls (.refl _) hdirection
    · exact .nil

theorem twin_frustumNode {b b' c c' : Vec Float} (hb : b.Like b') (hc : c.Like c')
    {r r' s s' : Float} (hr : Alike r r') (hs : Alike s s') :
    Twin (frustumNode b c r s) (frustumNode b' c' r' s') := by
  rw [frustumNode_eq_nest, frustumNode_eq_nest, (hc.sub hb).norm]
  exact Transform.twin_nest (sameHead_frustumCalls hb hc) (twin_standingFrustum _ hr hs)

namespace Primitive

theorem twin_node {p q : Primitive Float} (h : Solid.Primitive.beq p q = true) :
    Twin p.node q.node := by
  cases p with
  | cuboid size =>
    cases q with
    | cuboid size' =>
      exact Scad.Node.twin_of_children (Scad.Node.sameHead_call rfl rfl
        (.cons (Vec.like_of_beq h).source .nil) .nil rfl rfl) .nil
    | _ => cases h
  | sphere radius =>
    cases q with
    | sphere radius' =>
      exact Scad.Node.twin_of_children (Scad.Node.sameHead_call rfl rfl
        (.cons (Double.alike_of_beq h).source .nil) .nil rfl rfl) .nil
    | _ => cases h
  | frustum b c r s =>
    cases q with
    | frustum b' c' r' s' =>
      obtain ⟨h, hs⟩ := Bool.and_eq_true_iff.mp h
      obtain ⟨h, hr⟩ := Bool.and_eq_true_iff.mp h
      obtain ⟨hb, hc⟩ := Bool.and_eq_true_iff.mp h
      exact twin_frustumNode (Vec.like_of_beq hb) (Vec.like_of_beq hc) (Double.alike_of_beq hr)
        (Double.alike_of_beq hs)
    | _ => cases h

end Primitive

namespace Solid

theorem related_of_beqAll {ps qs : List (Solid Float)} (h : beqAll ps qs = true) :
    List.Forall₂ (fun p q => p.beq q = true) ps qs :=
  related_of_cons (fun _ _ => rfl) (fun _ _ => rfl) (fun _ _ _ _ => rfl) h

/-- Equal solids are written alike but for comments. -/
theorem twin_node {a : Solid Float} : ∀ {b : Solid Float}, a.beq b = true → Twin a.node b.node := by
  induction a using induction with
  | primitive p =>
    intro b h
    cases b with
    | primitive q => exact Primitive.twin_node h
    | _ => cases h
  | placed t s ih =>
    intro b h
    cases b with
    | placed u r =>
      obtain ⟨ht, hs⟩ := Bool.and_eq_true_iff.mp h
      rw [node, node, Transform.node_eq_nest, Transform.node_eq_nest]
      exact Transform.twin_nest (Transform.sameHead_calls ht) (ih hs)
    | _ => cases h
  | combined kind ps ih =>
    intro b h
    cases b with
    | combined kind' qs =>
      obtain ⟨hkind, hparts⟩ := Bool.and_eq_true_iff.mp h
      obtain rfl := eq_of_beq hkind
      have hrelated := (List.forall₂_and_left _ _).mpr ⟨ih, related_of_beqAll hparts⟩
      refine Scad.Node.twin_of_children
        (Scad.Node.sameHead_call (rfl : _ = some kind.call) rfl .nil .nil rfl rfl) ?_
      change List.Forall₂ Twin ([] ++ nodes ps) ([] ++ nodes qs)
      rw [List.nil_append, List.nil_append, nodes_eq_map, nodes_eq_map, List.forall₂_map_left_iff,
        List.forall₂_map_right_iff]
      exact hrelated.imp fun _ _ h => h.1 h.2
    | _ => cases h

/-- Equal solids have the same fault, or source which is the same exactly if it does not show
comments, or if the comments are the same. -/
theorem code_alike_of_beq {a b : Solid Float} (h : (a == b) = true) (layout : Layout) :
    (∃ fault, a.node.code layout = .error fault ∧ b.node.code layout = .error fault) ∨
      ∃ s t, a.node.code layout = .ok s ∧ b.node.code layout = .ok t ∧
        (s = t ↔ layout.inline = true ∨ layout.comments = false ∨
          a.node.commentLines = b.node.commentLines) := by
  have htwin : Twin a.node b.node := twin_node h
  have hcode := htwin.code layout
  generalize a.node.code layout = x at hcode ⊢
  generalize b.node.code layout = y at hcode ⊢
  cases hcode with
  | error fault => exact .inl ⟨fault, rfl, rfl⟩
  | ok hiff => exact .inr ⟨_, _, rfl, rfl, hiff⟩

/-- A sphere that is turned from a direction next to X to the opposite of X. -/
def turnedAbout (y : Float) : Solid Float :=
  .placed (.rotateFromTo ⟨1, y, 0⟩ ⟨-1, 0, 0⟩ true) (.primitive (.sphere 1))

theorem code_alike_turnedAbout :
    (turnedAbout 0 == turnedAbout (-0)) = true ∧
      ((∃ fault, (turnedAbout 0).node.code .standard = .error fault ∧
          (turnedAbout (-0)).node.code .standard = .error fault) ∨
        ∃ s t, (turnedAbout 0).node.code .standard = .ok s ∧
          (turnedAbout (-0)).node.code .standard = .ok t ∧
          (s = t ↔ Layout.standard.inline = true ∨ Layout.standard.comments = false ∨
            (turnedAbout 0).node.commentLines = (turnedAbout (-0)).node.commentLines)) :=
  ⟨by decide +kernel, code_alike_of_beq (by decide +kernel) .standard⟩

set_option maxRecDepth 4000 in
/-- The sign of a zero shows in a comment, though not in the statement below it. -/
theorem code_shows_sign :
    (turnedAbout 0 == turnedAbout (-0)) = true ∧
      ∃ s t, (turnedAbout 0).node.code .standard = .ok s ∧
        (turnedAbout (-0)).node.code .standard = .ok t ∧ s ≠ t := by
  refine ⟨by decide +kernel,
    "// Rotate from [1, 0, 0] to [-1, 0, 0]\n" ++
      "rotate(a = 180, v = [0, 1, 0]) \x7b\n    sphere(1);\n\x7d",
    "// Rotate from [1, -0, 0] to [-1, 0, 0]\n" ++
      "rotate(a = 180, v = [0, 1, 0]) \x7b\n    sphere(1);\n\x7d", ?_, ?_, by decide⟩
  · with_unfolding_all rfl
  · with_unfolding_all rfl

end Solid

end SolidScene
