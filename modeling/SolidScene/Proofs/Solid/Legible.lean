import SolidScene.Proofs.Solid.Nesting
import SolidScene.Proofs.Transform.Legible
import SolidScene.Proofs.Transform.Zeros
import SolidScene.Solid.Description

/-!
# Legible outlines

The text of an outline determines the solid, up to what equality ignores: the signs of zeros, and
whether any axis will do for opposite directions. The drawing determines the tree of labels; in each
label the words tell the kind of the solid and the numerals its numbers. All numbers have to be
finite, as there is one word for all values that are no numbers.
-/
namespace SolidScene.Solid

open Caption (weave IsCaption PlainWords)
open Double (Equal equal_append equal_of_texts)

/-! ## Labels -/

/-- What the words of a label tell. A box of equal sides is a cube. -/
inductive Wording where
  | cuboid (equal : Bool)
  | sphere
  | frustum
  | placed
  | union
  | intersection
  | difference
deriving DecidableEq, Fintype

namespace Wording

def words : Wording → List String
  | cuboid true => ["Cube with size ", ""]
  | cuboid false => ["Cuboid with width ", ", depth ", ", and height ", ""]
  | sphere => ["Sphere with radius ", ""]
  | frustum => ["Frustum with base [", ", ", ", ", "] (base radius ", ") and cap [", ", ", ", ",
      "] (cap radius ", ")"]
  | placed => ["Transformed object"]
  | union => ["Union"]
  | intersection => ["Intersection"]
  | difference => ["Difference"]

theorem words_injective : ∀ {v w : Wording}, v.words = w.words → v = w := by
  decide +kernel

theorem plainWords : ∀ w : Wording, PlainWords w.words := by
  decide +kernel

theorem oneLined_words : ∀ w : Wording, ∀ word ∈ w.words, '\n' ∉ word.toList := by
  decide +kernel

end Wording

section Labels

variable {α : Type} [Scalar α]

def wording : Solid α → Wording
  | primitive (.cuboid size) => .cuboid (size.x == size.y && size.y == size.z)
  | primitive (.sphere _) => .sphere
  | primitive (.frustum _ _ _ _) => .frustum
  | placed _ _ => .placed
  | combined .union _ => .union
  | combined .intersection _ => .intersection
  | combined .difference _ => .difference

/-- The numbers of a primitive. -/
def measures : Solid α → List α
  | primitive (.cuboid size) => size.toList
  | primitive (.sphere radius) => [radius]
  | primitive (.frustum base cap baseRadius capRadius) =>
    base.toList ++ [baseRadius] ++ (cap.toList ++ [capRadius])
  | _ => []

/-- The numbers that a label shows. -/
def shown : Solid α → List α
  | primitive (.cuboid size) =>
    if size.x == size.y && size.y == size.z then [size.x] else size.toList
  | s => s.measures

theorem length_words (s : Solid α) : s.wording.words.length = s.shown.length + 1 := by
  match s with
  | primitive (.cuboid size) =>
    simp only [wording, shown]
    cases size.x == size.y && size.y == size.z <;> rfl
  | primitive (.sphere _) => rfl
  | primitive (.frustum _ _ _ _) => rfl
  | placed _ _ => rfl
  | combined .union _ => rfl
  | combined .intersection _ => rfl
  | combined .difference _ => rfl

theorem text_eq_weave [Numeral α] (s : Solid α) :
    s.text = weave s.wording.words (s.shown.map Numeral.text) := by
  match s with
  | primitive (.cuboid size) =>
    change (if size.x == size.y && size.y == size.z then "Cube with size " ++ Numeral.text size.x
      else "Cuboid with width " ++ Numeral.text size.x ++ ", depth " ++ Numeral.text size.y ++
        ", and height " ++ Numeral.text size.z) =
      weave (Wording.cuboid (size.x == size.y && size.y == size.z)).words
        ((if size.x == size.y && size.y == size.z then [size.x] else size.toList).map Numeral.text)
    cases size.x == size.y && size.y == size.z with
    | true =>
      change "Cube with size " ++ Numeral.text size.x =
        "Cube with size " ++ Numeral.text size.x ++ ""
      rw [String.append_empty]
    | false =>
      simp [Wording.words, Vec.toList, weave, String.append_assoc]
  | primitive (.sphere radius) =>
    change "Sphere with radius " ++ Numeral.text radius =
      "Sphere with radius " ++ Numeral.text radius ++ ""
    rw [String.append_empty]
  | primitive (.frustum base cap baseRadius capRadius) =>
    change "Frustum with base " ++ base.text ++ " (base radius " ++ Numeral.text baseRadius ++
      ") and cap " ++ cap.text ++ " (cap radius " ++ Numeral.text capRadius ++ ")" =
      weave ["Frustum with base [", ", ", ", ", "] (base radius ", ") and cap [", ", ", ", ",
        "] (cap radius ", ")"]
        ((base.toList ++ [baseRadius] ++ (cap.toList ++ [capRadius])).map Numeral.text)
    apply String.toList_injective
    simp [Vec.text, Vec.toList, weave]
  | placed _ _ => rfl
  | combined .union _ => rfl
  | combined .intersection _ => rfl
  | combined .difference _ => rfl

end Labels

/-! ## Numbers -/

section Numbers

variable {α : Type}

mutual

/-- All numbers of a solid. -/
def numbers : Solid α → List α
  | primitive p => (primitive p).measures
  | placed t s => t.numbers ++ s.numbers
  | combined _ parts => numbersOf parts

def numbersOf : List (Solid α) → List α
  | [] => []
  | s :: rest => s.numbers ++ numbersOf rest

end

theorem numbers_combined (kind : Combinator) (parts : List (Solid α)) :
    (combined kind parts).numbers = parts.flatMap numbers :=
  eq_flatMap_of_cons rfl (fun _ _ => rfl) parts

end Numbers

theorem finite_shown {s : Solid Float} (h : ∀ x ∈ s.numbers, x.isFinite = true) :
    ∀ x ∈ s.shown, x.isFinite = true := by
  match s with
  | primitive (.cuboid size) =>
    intro x hx
    change x ∈ if size.x == size.y && size.y == size.z then [size.x] else size.toList at hx
    split at hx
    · obtain rfl := List.mem_singleton.mp hx
      exact h _ List.mem_cons_self
    · exact h x hx
  | primitive (.sphere _) => exact h
  | primitive (.frustum _ _ _ _) => exact h
  | placed _ _ => exact nofun
  | combined _ _ => exact nofun

theorem isCaption {s : Solid Float} (h : ∀ x ∈ s.numbers, x.isFinite = true) :
    IsCaption s.wording.words (s.shown.map Numeral.text) where
  plain := Wording.plainWords _
  numeral := List.forall_mem_map.mpr fun x hx => Double.isNumeral_text (finite_shown h x hx)
  length := by rw [length_words, List.length_map]

theorem oneLined_text {s : Solid Float} (h : ∀ x ∈ s.numbers, x.isFinite = true) :
    '\n' ∉ s.text.toList := by
  rw [text_eq_weave]
  exact (isCaption h).oneLined (Wording.oneLined_words _)

/-- The label of a solid determines its kind and the numbers that it shows. -/
theorem wording_and_shown {a b : Solid Float} (ha : ∀ x ∈ a.numbers, x.isFinite = true)
    (hb : ∀ x ∈ b.numbers, x.isFinite = true) (h : a.text = b.text) :
    a.wording = b.wording ∧ Equal a.shown b.shown := by
  rw [text_eq_weave, text_eq_weave] at h
  obtain ⟨hwords, hnumerals⟩ := (isCaption ha).weave_injective (isCaption hb) h
  exact ⟨Wording.words_injective hwords,
    equal_of_texts (finite_shown ha) (finite_shown hb) hnumerals⟩

/-- The one number of a cube stands for three. -/
theorem equal_of_cube {v w : Vec Float} (hv : (v.x == v.y && v.y == v.z) = true)
    (hw : (w.x == w.y && w.y == w.z) = true) (h : (v.x == w.x) = true) : (v == w) = true := by
  simp only [Bool.and_eq_true] at hv hw
  have hy := (Double.alike_of_beq hv.1).beq (Double.alike_of_beq hw.1)
  have hz := (Double.alike_of_beq hv.2).beq (Double.alike_of_beq hw.2)
  change (v.x == w.x && v.y == w.y && v.z == w.z) = true
  rw [← hz, ← hy, h]
  rfl

theorem beq_of_shown {p : Primitive Float} {b : Solid Float}
    (hwording : (primitive p).wording = b.wording) (h : Equal (primitive p).shown b.shown) :
    (primitive p).beq b = true := by
  match p, b, hwording with
  | .cuboid v, primitive (.cuboid w), hwording =>
    change Equal (if v.x == v.y && v.y == v.z then [v.x] else v.toList)
      (if w.x == w.y && w.y == w.z then [w.x] else w.toList) at h
    have hcube := Wording.cuboid.inj hwording
    rw [← hcube] at h
    cases hv : v.x == v.y && v.y == v.z with
    | true =>
      rw [hv] at h hcube
      exact equal_of_cube hv hcube.symm (List.forall₂_cons.mp h).1
    | false =>
      rw [hv] at h
      exact Transform.beq_vec.mp h
  | .sphere _, primitive (.sphere _), _ => exact (List.forall₂_cons.mp h).1
  | .frustum base cap r s, primitive (.frustum base' cap' r' s'), _ =>
    have hlength (v w : Vec Float) (x y : Float) :
        v.toList.length = w.toList.length ∧ (v.toList ++ [x]).length = (w.toList ++ [y]).length :=
      ⟨rfl, rfl⟩
    obtain ⟨hleft, hright⟩ := equal_append (hlength base base' r r').2 h
    obtain ⟨hbase, hr⟩ := equal_append (hlength base base' r r').1 hleft
    obtain ⟨hcap, hs⟩ := equal_append (hlength cap cap' s s').1 hright
    change (base == base' && cap == cap' && r == r' && s == s') = true
    rw [Transform.beq_vec.mp hbase, Transform.beq_vec.mp hcap, (List.forall₂_cons.mp hr).1,
      (List.forall₂_cons.mp hs).1]
    rfl

theorem combined_of_wording {kind : Combinator} {ps : List (Solid Float)} {b : Solid Float}
    (h : (combined kind ps).wording = b.wording) : ∃ qs, b = combined kind qs := by
  match kind, b, h with
  | .union, combined .union qs, _ => exact ⟨qs, rfl⟩
  | .intersection, combined .intersection qs, _ => exact ⟨qs, rfl⟩
  | .difference, combined .difference qs, _ => exact ⟨qs, rfl⟩

/-! ## Outlines -/

theorem outline_combined (kind : Combinator) (parts : List (Solid Float)) :
    (combined kind parts).outline = .node kind.text (parts.map outline) :=
  congrArg (Outline.node _) (eq_map_of_cons rfl (fun _ _ => rfl) parts)

theorem label_outline (s : Solid Float) : s.outline.label = s.text := by
  cases s <;> rfl

/-- The outline of a solid determines its numbers, its transforms and its parts. -/
theorem beq_of_outline {a : Solid Float} : ∀ {b : Solid Float},
    (∀ x ∈ a.numbers, x.isFinite = true) → (∀ x ∈ b.numbers, x.isFinite = true) →
    a.outline = b.outline → a.beq b = true := by
  have hlabel {a b : Solid Float} (ha : ∀ x ∈ a.numbers, x.isFinite = true)
      (hb : ∀ x ∈ b.numbers, x.isFinite = true) (h : a.outline = b.outline) :
      a.wording = b.wording ∧ Equal a.shown b.shown := by
    refine wording_and_shown ha hb ?_
    rw [← label_outline, ← label_outline, h]
  induction a using induction with
  | primitive p =>
    intro b ha hb h
    obtain ⟨hwording, hequal⟩ := hlabel ha hb h
    exact beq_of_shown hwording hequal
  | placed t s ih =>
    intro b ha hb h
    match b, (hlabel ha hb h).1 with
    | placed u r, _ =>
      obtain ⟨houter, hinner⟩ := List.cons.inj (Outline.node.inj h).2
      have ha' := List.forall_mem_append.mp ha
      have hb' := List.forall_mem_append.mp hb
      exact Bool.and_eq_true_iff.mpr ⟨Transform.beq_of_outline ha'.1 hb'.1 houter,
        ih ha'.2 hb'.2 (List.cons.inj hinner).1⟩
  | combined kind ps ih =>
    intro b ha hb h
    obtain ⟨qs, rfl⟩ := combined_of_wording (hlabel ha hb h).1
    rw [outline_combined, outline_combined] at h
    simp only [numbers_combined, List.forall_mem_flatMap] at ha hb
    have hparts := related_of_map_eq (Outline.node.inj h).2
      fun p hp q hq => ih p hp (ha p hp) (hb q hq)
    exact Bool.and_eq_true_iff.mpr
      ⟨beq_self_eq_true kind, of_related rfl (fun _ _ _ _ => rfl) hparts⟩

theorem oneLined_outline {s : Solid Float} :
    (∀ x ∈ s.numbers, x.isFinite = true) → s.outline.OneLined := by
  induction s using induction with
  | primitive p => exact fun h => Outline.oneLined_node.mpr ⟨oneLined_text h, nofun⟩
  | placed t s ih =>
    intro h
    have hnumbers := List.forall_mem_append.mp h
    refine Outline.oneLined_node.mpr ⟨oneLined_text h, ?_⟩
    rw [List.forall_mem_cons, List.forall_mem_singleton]
    exact ⟨Transform.oneLined_outline hnumbers.1, ih hnumbers.2⟩
  | combined kind ps ih =>
    intro h
    rw [outline_combined]
    refine Outline.oneLined_node.mpr ⟨oneLined_text h, ?_⟩
    simp only [numbers_combined, List.forall_mem_flatMap] at h
    exact List.forall_mem_map.mpr fun p hp => ih p hp (h p hp)

/-- The text of the outline of a solid of finite numbers determines the solid. -/
theorem beq_of_outline_text {a b : Solid Float} (ha : ∀ x ∈ a.numbers, x.isFinite = true)
    (hb : ∀ x ∈ b.numbers, x.isFinite = true) (h : a.outline.text = b.outline.text) :
    (a == b) = true :=
  beq_of_outline ha hb ((oneLined_outline ha).text_injective (oneLined_outline hb) h)

/-- A turned cube beside a cone. -/
def turnedCube (still : Float) (anyAxis : Bool) : Solid Float :=
  union [placed (.chain [.rotateYpr still 0 45, .rotateFromTo ⟨1, 0, 0⟩ ⟨-1, 0, 0⟩ anyAxis])
      (primitive (.cuboid ⟨2, 2, 2⟩)),
    primitive (.frustum ⟨0, 0, 0⟩ ⟨0, 0, 1.5⟩ 1 0.5)]

/-- Different turned cubes with the same outline. -/
theorem beq_of_outline_text_turnedCube :
    (∀ x ∈ (turnedCube 0 true).numbers, x.isFinite = true) ∧
    (∀ x ∈ (turnedCube (-0) false).numbers, x.isFinite = true) ∧
    (turnedCube 0 true).outline.text = (turnedCube (-0) false).outline.text ∧
    (turnedCube 0 true == turnedCube (-0) false) = true := by
  have hzero : ∀ x ∈ (turnedCube 0 true).numbers, x.isFinite = true := by decide +kernel
  have hnegative : ∀ x ∈ (turnedCube (-0) false).numbers, x.isFinite = true := by decide +kernel
  have htext : (turnedCube 0 true).outline.text = (turnedCube (-0) false).outline.text := by
    have hturn : Transform.yprText (0 : Float) 0 45 = Transform.yprText (-0 : Float) 0 45 :=
      Transform.yprText_eq (.inr ⟨rfl, rfl⟩) (.refl 0) (.refl 45)
    exact congrArg (fun turn => Outline.text (.node "Union" [.node "Transformed object"
      [.node "Chained transform (2 transforms)" [.leaf turn, _], _], _])) hturn
  exact ⟨hzero, hnegative, htext, beq_of_outline_text hzero hnegative htext⟩

end SolidScene.Solid
