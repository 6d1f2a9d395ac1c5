import SolidScene.Proofs.Outline.Drawing
import SolidScene.Proofs.Scalar.Legible
import SolidScene.Proofs.Transform.Flat
import SolidScene.Proofs.Transform.Wording

/-!
# Legible transforms

The description of a transform of finite numbers determines its kind and its numbers, but for the
components that do nothing, which are all alike. Whether any axis will do for opposite directions is
not described. The outline determines the steps of chains as well.
-/
namespace SolidScene.Transform

open Caption (IsCaption)
open Double (Equal equal_append equal_of_texts equal_of_kept)

/-- Whether any component does something can be told from the words, so that the numeral that stands
for all of them is not taken for one of them. -/
theorem equal_of_shown {idle : Float} {all : String} {xs ys : List Float}
    (hx : ∀ x ∈ xs, x.isFinite = true) (hy : ∀ y ∈ ys, y.isFinite = true)
    (hidle : xs.map (· != idle) = ys.map (· != idle)) (h : shown idle all xs = shown idle all ys) :
    Equal xs ys := by
  have hlength : (xs.filter (· != idle)).length = (ys.filter (· != idle)).length := by
    simpa [List.filter_map] using congrArg (fun flags => (flags.filter id).length) hidle
  refine equal_of_kept hx hy hidle ?_
  unfold shown at h
  cases hkept : xs.filter (· != idle) with
  | nil =>
    rw [hkept] at hlength
    rw [List.length_eq_zero_iff.mp hlength.symm]
  | cons x rest =>
    obtain ⟨y, rest', hkept'⟩ :=
      List.exists_cons_of_length_eq_add_one (hlength.symm.trans (congrArg _ hkept))
    rw [hkept, hkept'] at h
    rw [hkept']
    exact h

theorem flags_eq {idle : Float} {v w : Vec Float}
    (h : (v.x != idle) = (w.x != idle) ∧ (v.y != idle) = (w.y != idle) ∧
      (v.z != idle) = (w.z != idle)) :
    v.toList.map (· != idle) = w.toList.map (· != idle) := by
  simpa [Vec.toList] using h

/-- The description of a transform determines its numbers. -/
theorem equal_of_caption {t u : Transform Float} (ht : ∀ x ∈ t.measures, x.isFinite = true)
    (hu : ∀ x ∈ u.measures, x.isFinite = true) (hwording : t.wording = u.wording)
    (hnumerals : t.numerals = u.numerals) : Equal t.measures u.measures := by
  match t, u, hwording with
  | translate _, translate _, _ => exact equal_of_texts ht hu hnumerals
  | rotateAround _ _, rotateAround _ _, _ => exact equal_of_texts ht hu hnumerals
  | rotateXyz _, rotateXyz _, hwording =>
    exact equal_of_shown ht hu (flags_eq (Wording.xyz.inj hwording)) hnumerals
  | rotateYpr yaw pitch roll, rotateYpr yaw' pitch' roll', hwording =>
    have hflags : [yaw, pitch, roll].map (· != 0) = [yaw', pitch', roll'].map (· != 0) := by
      simpa using Wording.ypr.inj hwording
    exact equal_of_shown ht hu hflags hnumerals
  | rotateFromTo _ _ _, rotateFromTo _ _ _, _ => exact equal_of_texts ht hu hnumerals
  | scaleUniform _, scaleUniform _, _ => exact equal_of_texts ht hu hnumerals
  | scaleAxes _, scaleAxes _, hwording =>
    exact equal_of_shown ht hu (flags_eq (Wording.axes.inj hwording)) hnumerals
  | scaleAlong _ _, scaleAlong _ _, _ => exact equal_of_texts ht hu hnumerals
  | chain _, chain _, _ => exact .nil

theorem isNumeral_shown {idle : Float} {all : String} {xs : List Float}
    (hx : ∀ x ∈ xs, x.isFinite = true) (hall : Scad.isNumeral all = true) :
    ∀ n ∈ shown idle all xs, Scad.isNumeral n = true := by
  unfold shown
  split
  · simpa using hall
  · rw [List.forall_mem_map]
    exact fun x hmem => Double.isNumeral_text (hx x (List.mem_of_mem_filter hmem))

theorem isNumeral_numerals {t : Transform Float} (h : ∀ x ∈ t.measures, x.isFinite = true) :
    ∀ n ∈ t.numerals, Scad.isNumeral n = true := by
  cases t with
  | rotateXyz angles => exact isNumeral_shown h (by decide)
  | rotateYpr yaw pitch roll => exact isNumeral_shown h (by decide)
  | scaleAxes factors => exact isNumeral_shown h (by decide)
  | chain steps =>
    rintro _ (_ | ⟨_, ⟨⟩⟩)
    exact (⟨steps.length, 0⟩ : Decimal).isNumeral_figures
  | _ => exact List.forall_mem_map.mpr fun x hmem => Double.isNumeral_text (h x hmem)

theorem isCaption {t : Transform Float} (h : ∀ x ∈ t.measures, x.isFinite = true) :
    IsCaption t.wording.words t.numerals :=
  ⟨Wording.plainWords _, isNumeral_numerals h, t.length_words⟩

theorem oneLined_text {t : Transform Float} (h : ∀ x ∈ t.measures, x.isFinite = true) :
    '\n' ∉ t.text.toList := by
  rw [text_eq_weave]
  exact (isCaption h).oneLined (Wording.oneLined_words _)

/-- The label of a transform determines its words and its numbers. -/
theorem wording_and_measures {t u : Transform Float} (ht : ∀ x ∈ t.measures, x.isFinite = true)
    (hu : ∀ x ∈ u.measures, x.isFinite = true) (h : t.text = u.text) :
    t.wording = u.wording ∧ Equal t.measures u.measures := by
  rw [text_eq_weave, text_eq_weave] at h
  obtain ⟨hwords, hnumerals⟩ := (isCaption ht).weave_injective (isCaption hu) h
  have hwording := Wording.words_injective hwords
  exact ⟨hwording, equal_of_caption ht hu hwording hnumerals⟩

/-! ## Outlines -/

theorem beq_vec {v w : Vec Float} : Equal v.toList w.toList ↔ (v == w) = true := by
  change _ ↔ (v.x == w.x && v.y == w.y && v.z == w.z) = true
  simp [Equal, Vec.toList, and_assoc]

theorem beq_of_measures {t u : Transform Float} (hwording : t.wording = u.wording)
    (h : Equal t.measures u.measures) (hchain : t.isChain = false) : t.beq u = true := by
  match t, u, hwording with
  | translate _, translate _, _ => exact beq_vec.mp h
  | rotateAround _ _, rotateAround _ _, _ =>
    obtain ⟨hangle, haxis⟩ := List.forall₂_cons.mp h
    exact Bool.and_eq_true_iff.mpr ⟨beq_vec.mp haxis, hangle⟩
  | rotateXyz _, rotateXyz _, _ => exact beq_vec.mp h
  | rotateYpr yaw pitch roll, rotateYpr yaw' pitch' roll', _ =>
    exact (beq_vec (v := ⟨yaw, pitch, roll⟩) (w := ⟨yaw', pitch', roll'⟩)).mp h
  | rotateFromTo source target _, rotateFromTo source' target' _, _ =>
    have hlength : source.toList.length = source'.toList.length := rfl
    obtain ⟨hsource, htarget⟩ := equal_append hlength h
    exact Bool.and_eq_true_iff.mpr ⟨beq_vec.mp hsource, beq_vec.mp htarget⟩
  | scaleUniform _, scaleUniform _, _ => exact (List.forall₂_cons.mp h).1
  | scaleAxes _, scaleAxes _, _ => exact beq_vec.mp h
  | scaleAlong axis _, scaleAlong axis' _, _ =>
    have hlength : axis.toList.length = axis'.toList.length := rfl
    obtain ⟨haxis, hfactor⟩ := equal_append hlength h
    exact Bool.and_eq_true_iff.mpr ⟨beq_vec.mp haxis, (List.forall₂_cons.mp hfactor).1⟩

section Numbers

variable {α : Type}

mutual

/-- All numbers of a transform. -/
def numbers : Transform α → List α
  | chain steps => numbersOf steps
  | t => t.measures

def numbersOf : List (Transform α) → List α
  | [] => []
  | t :: ts => t.numbers ++ numbersOf ts

end

theorem numbers_chain (ts : List (Transform α)) : (chain ts).numbers = ts.flatMap numbers :=
  eq_flatMap_of_cons rfl (fun _ _ => rfl) ts

end Numbers

theorem outline_chain (ts : List (Transform Float)) :
    (chain ts).outline = .node (chain ts).text (ts.map outline) :=
  congrArg (Outline.node _) (eq_map_of_cons rfl (fun _ _ => rfl) ts)

theorem outline_of_single {t : Transform Float} (h : t.isChain = false) :
    t.outline = .leaf t.text := by
  cases t with
  | chain steps => cases h
  | _ => rfl

theorem label_outline (t : Transform Float) : t.outline.label = t.text := by
  cases t <;> rfl

theorem finite_measures {t : Transform Float} (h : ∀ x ∈ t.numbers, x.isFinite = true) :
    ∀ x ∈ t.measures, x.isFinite = true := by
  cases t with
  | chain steps => exact nofun
  | _ => exact h

/-- The outline of a transform determines its numbers and steps. -/
theorem beq_of_outline {t : Transform Float} : ∀ {u : Transform Float},
    (∀ x ∈ t.numbers, x.isFinite = true) → (∀ x ∈ u.numbers, x.isFinite = true) →
    t.outline = u.outline → t.beq u = true := by
  have hlabel {t u : Transform Float} (ht : ∀ x ∈ t.numbers, x.isFinite = true)
      (hu : ∀ x ∈ u.numbers, x.isFinite = true) (h : t.outline = u.outline) :
      t.wording = u.wording ∧ Equal t.measures u.measures := by
    refine wording_and_measures (finite_measures ht) (finite_measures hu) ?_
    rw [← label_outline, ← label_outline, h]
  induction t using induction with
  | single t hsingle =>
    intro u ht hu h
    obtain ⟨hwording, hequal⟩ := hlabel ht hu h
    exact beq_of_measures hwording hequal hsingle
  | chain ts ih =>
    intro u ht hu h
    match u, (hlabel ht hu h).1 with
    | chain us, _ =>
      rw [outline_chain, outline_chain] at h
      simp only [numbers_chain, List.forall_mem_flatMap] at ht hu
      exact of_related rfl (fun _ _ _ _ => rfl) (related_of_map_eq (Outline.node.inj h).2
        fun t htmem u humem => ih t htmem (ht t htmem) (hu u humem))

theorem oneLined_outline {t : Transform Float} :
    (∀ x ∈ t.numbers, x.isFinite = true) → t.outline.OneLined := by
  induction t using induction with
  | single t hsingle =>
    intro h
    rw [outline_of_single hsingle]
    exact Outline.oneLined_node.mpr ⟨oneLined_text (finite_measures h), nofun⟩
  | chain ts ih =>
    intro h
    rw [outline_chain]
    refine Outline.oneLined_node.mpr ⟨oneLined_text (finite_measures h), ?_⟩
    simp only [numbers_chain, List.forall_mem_flatMap] at h
    exact List.forall_mem_map.mpr fun t ht => ih t ht (h t ht)

end SolidScene.Transform
