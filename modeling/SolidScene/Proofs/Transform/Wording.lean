import Mathlib.Data.Fintype.Sigma
import Mathlib.Data.Fintype.Sum
import Mathlib.Tactic.DeriveFintype
import SolidScene.Proofs.Caption
import SolidScene.Transform.Description

/-!
# The wording of transforms

A description is words with numerals between them. The words say which kind of transform it is and
which of its components do something, the numerals are those of these components.
-/
namespace SolidScene.Transform

open Caption (weave weave_append weave_capitalized PlainWords)

/-- What the words of a description tell. A flag says that the component does something. -/
inductive Wording where
  | translate
  | around
  | xyz (x y z : Bool)
  | ypr (yaw pitch roll : Bool)
  | fromTo
  | uniform
  | axes (x y z : Bool)
  | along
  | chain (one : Bool)
deriving DecidableEq, Fintype

namespace Wording

def letters (x y z : Bool) : List String :=
  ([(x, "X"), (y, "Y"), (z, "Z")].filter (·.1)).map (·.2)

/-- What stands behind the numerals of a row of axes. -/
def behindAxes (unit : String) : List String → List String
  | [] => [unit ++ "X, Y, and Z"]
  | [a] => [unit ++ a]
  | [a, b] => [unit ++ a ++ " and ", unit ++ b]
  | a :: b :: rest => [unit ++ a ++ ", ", unit ++ b ++ ", and "] ++ rest.map (unit ++ ·)

def turns (yaw pitch roll : Bool) : List String :=
  ([(yaw, "yaw"), (pitch, "pitch"), (roll, "roll")].filter (·.1)).map (·.2)

/-- What stands in front of the numerals of a row of turns, and behind the last one. -/
def aroundTurns : List String → List String
  | [] => ["Yaw, pitch, and roll by ", "°"]
  | first :: rest =>
    Phrase.capitalized (first ++ " ") :: (rest.map ("°, " ++ · ++ " ") ++ ["°"])

def words : Wording → List String
  | translate => ["Translate by [", ", ", ", ", "]"]
  | around => ["Rotate by ", "° around [", ", ", ", ", "]"]
  | xyz x y z => "Rotate by " :: behindAxes "° around " (letters x y z)
  | ypr yaw pitch roll => aroundTurns (turns yaw pitch roll)
  | fromTo => ["Rotate from [", ", ", ", ", "] to [", ", ", ", ", "]"]
  | uniform => ["Uniform scale by ", ""]
  | axes x y z => "Scale by " :: behindAxes " along " (letters x y z)
  | along => ["Scale along [", ", ", ", ", "] by ", ""]
  | chain one => ["Chained transform (", if one then " transform)" else " transforms)"]

/-- Different words tell different things. -/
theorem words_injective : ∀ {v w : Wording}, v.words = w.words → v = w := by
  decide +kernel

theorem plainWords : ∀ w : Wording, PlainWords w.words := by
  decide +kernel

theorem oneLined_words : ∀ w : Wording, ∀ word ∈ w.words, '\n' ∉ word.toList := by
  decide +kernel

theorem length_behindAxes (unit : String) (names : List String) :
    (behindAxes unit names).length = max 1 names.length := by
  match names with
  | [] => rfl
  | [_] => rfl
  | [_, _] => rfl
  | _ :: _ :: _ :: _ => simp [behindAxes]

theorem length_aroundTurns (names : List String) :
    (aroundTurns names).length = max 1 names.length + 1 := by
  cases names with
  | nil => rfl
  | cons first rest => simp [aroundTurns]

end Wording

variable {α : Type} [Scalar α]

def wording : Transform α → Wording
  | translate _ => .translate
  | rotateAround _ _ => .around
  | rotateXyz angles => .xyz (angles.x != 0) (angles.y != 0) (angles.z != 0)
  | rotateYpr yaw pitch roll => .ypr (yaw != 0) (pitch != 0) (roll != 0)
  | rotateFromTo _ _ _ => .fromTo
  | scaleUniform _ => .uniform
  | scaleAxes factors => .axes (factors.x != 1) (factors.y != 1) (factors.z != 1)
  | scaleAlong _ _ => .along
  | chain steps => .chain (steps.length == 1)

/-- The numbers of a transform, but for those of the steps of a chain. -/
def measures : Transform α → List α
  | translate offset => offset.toList
  | rotateAround axis angle => angle :: axis.toList
  | rotateXyz angles => angles.toList
  | rotateYpr yaw pitch roll => [yaw, pitch, roll]
  | rotateFromTo source target _ => source.toList ++ target.toList
  | scaleUniform factor => [factor]
  | scaleAxes factors => factors.toList
  | scaleAlong axis factor => axis.toList ++ [factor]
  | chain _ => []

/-! ## Rows -/

theorem letters_eq (v : Vec α) (idle : α) :
    Wording.letters (v.x != idle) (v.y != idle) (v.z != idle) =
      (Axis.all.filter (v.get · != idle)).map Axis.letter := by
  change ((Axis.all.map fun a => (v.get a != idle, a.letter)).filter (·.1)).map (·.2) = _
  rw [List.filter_map, List.map_map]
  rfl

theorem kept_eq (v : Vec α) (idle : α) :
    v.toList.filter (· != idle) = (Axis.all.filter (v.get · != idle)).map v.get := by
  change (Axis.all.map v.get).filter (· != idle) = _
  rw [List.filter_map]
  rfl

/-- The turns that do something, with their names. -/
def shownTurns (yaw pitch roll : α) : List (α × String) :=
  [(yaw, "yaw"), (pitch, "pitch"), (roll, "roll")].filter (·.1 != 0)

theorem turns_eq (yaw pitch roll : α) :
    Wording.turns (yaw != 0) (pitch != 0) (roll != 0) = (shownTurns yaw pitch roll).map (·.2) := by
  change (([(yaw, "yaw"), (pitch, "pitch"), (roll, "roll")].map fun p => (p.1 != 0, p.2)).filter
    (·.1)).map (·.2) = _
  rw [List.filter_map, List.map_map]
  rfl

theorem keptTurns_eq (yaw pitch roll : α) :
    [yaw, pitch, roll].filter (· != 0) = (shownTurns yaw pitch roll).map (·.1) := by
  change ([(yaw, "yaw"), (pitch, "pitch"), (roll, "roll")].map (·.1)).filter (· != 0) = _
  rw [List.filter_map]
  rfl

variable [Numeral α]

/-- The numerals of the components that do something, or one for all of them. -/
def shown (idle : α) (all : String) (xs : List α) : List String :=
  if (xs.filter (· != idle)).isEmpty then [all] else (xs.filter (· != idle)).map Numeral.text

/-- The numerals of a description. That of a chain has the number of its steps. -/
def numerals : Transform α → List String
  | rotateXyz angles => shown 0 "0" angles.toList
  | rotateYpr yaw pitch roll => shown 0 "0" [yaw, pitch, roll]
  | scaleAxes factors => shown 1 "1" factors.toList
  | chain steps => [Nat.repr steps.length]
  | t => t.measures.map Numeral.text

omit [Scalar α] in
theorem series_eq_weave (lead unit : String) (v : Vec α) {axes : List Axis} (hne : axes ≠ [])
    (hlength : axes.length ≤ 3) :
    lead ++ Phrase.series (axes.map fun a => Numeral.text (v.get a) ++ (unit ++ a.letter)) =
      weave (lead :: Wording.behindAxes unit (axes.map Axis.letter))
        ((axes.map v.get).map Numeral.text) := by
  match axes with
  | [a] => simp [Phrase.series, Wording.behindAxes, weave, String.append_assoc]
  | [a, b] => simp [Phrase.series, Wording.behindAxes, weave, String.append_assoc]
  | [a, b, c] => simp [Phrase.series, Wording.behindAxes, weave, String.append_assoc]

theorem axes_eq_weave (lead unit all : String) (v : Vec α) (idle : α) :
    (if (Axis.all.filter (v.get · != idle)).isEmpty then lead ++ (all ++ (unit ++ "X, Y, and Z"))
      else lead ++ Phrase.series ((Axis.all.filter (v.get · != idle)).map fun a =>
        Numeral.text (v.get a) ++ (unit ++ a.letter))) =
      weave (lead :: Wording.behindAxes unit
        (Wording.letters (v.x != idle) (v.y != idle) (v.z != idle))) (shown idle all v.toList) := by
  rw [letters_eq, shown, kept_eq]
  have hlength : (Axis.all.filter (v.get · != idle)).length ≤ 3 := List.length_filter_le _ _
  generalize Axis.all.filter (v.get · != idle) = axes at hlength
  cases axes with
  | nil => simp [weave, Wording.behindAxes, String.append_assoc]
  | cons a rest => exact series_eq_weave lead unit v (List.cons_ne_nil _ _) hlength

omit [Scalar α] in
theorem turns_eq_weave (part : α × String) (parts : List (α × String)) :
    ", ".intercalate ((part :: parts).map fun p => p.2 ++ " " ++ degreesText p.1) =
      weave ((part.2 ++ " ") :: ((parts.map (·.2)).map ("°, " ++ · ++ " ") ++ ["°"]))
        (((part :: parts).map (·.1)).map Numeral.text) := by
  induction parts generalizing part with
  | nil => simp [weave, degreesText, String.append_assoc]
  | cons q qs ih =>
    have hnext := weave_append "°, " (q.2 ++ " ")
      ((qs.map (·.2)).map ("°, " ++ · ++ " ") ++ ["°"]) (((q :: qs).map (·.1)).map Numeral.text)
    rw [← ih] at hnext
    rw [List.map_cons, List.map_cons, String.intercalate_cons_cons]
    simp only [List.map_cons, List.cons_append, weave, String.append_assoc, degreesText] at hnext ⊢
    rw [hnext, show ("°, " : String) = "°" ++ ", " from rfl, String.append_assoc]

theorem yprText_eq_weave (yaw pitch roll : α) : yprText yaw pitch roll =
    weave (Wording.ypr (yaw != 0) (pitch != 0) (roll != 0)).words
      (shown 0 "0" [yaw, pitch, roll]) := by
  rw [yprText, Wording.words, turns_eq, shown, keptTurns_eq]
  change (let parts := (shownTurns yaw pitch roll).map fun p => p.2 ++ " " ++ degreesText p.1
    if parts.isEmpty then "Yaw, pitch, and roll by 0°"
    else Phrase.capitalized (", ".intercalate parts)) = _
  generalize shownTurns yaw pitch roll = parts
  cases parts with
  | nil => rfl
  | cons p ps =>
    change Phrase.capitalized (", ".intercalate ((p :: ps).map fun p => p.2 ++ " " ++ _)) =
      weave (Phrase.capitalized (p.2 ++ " ") :: _) _
    rw [turns_eq_weave, weave_capitalized (by simp)]
    rfl

theorem text_eq_weave (t : Transform α) : t.text = weave t.wording.words t.numerals := by
  cases t with
  | translate v =>
    change "Translate by " ++ v.text =
      weave ["Translate by [", ", ", ", ", "]"] (v.toList.map Numeral.text)
    apply String.toList_injective
    simp [Vec.text, Vec.toList, weave]
  | rotateAround axis angle =>
    change "Rotate by " ++ degreesText angle ++ " around " ++ axis.text =
      weave ["Rotate by ", "° around [", ", ", ", ", "]"] ((angle :: axis.toList).map Numeral.text)
    apply String.toList_injective
    simp [degreesText, Vec.text, Vec.toList, weave]
  | rotateXyz angles =>
    refine Eq.trans ?_ (axes_eq_weave "Rotate by " "° around " "0" angles 0)
    change xyzText angles = _
    simp only [xyzText, degreesText, List.isEmpty_map, String.append_assoc]
    rw [show ("° around " : String) = "°" ++ " around " from rfl]
    rfl
  | rotateYpr yaw pitch roll => exact yprText_eq_weave yaw pitch roll
  | rotateFromTo source target anyAxis =>
    change "Rotate from " ++ source.text ++ " to " ++ target.text =
      weave ["Rotate from [", ", ", ", ", "] to [", ", ", ", ", "]"]
        ((source.toList ++ target.toList).map Numeral.text)
    apply String.toList_injective
    simp [Vec.text, Vec.toList, weave]
  | scaleUniform factor =>
    change "Uniform scale by " ++ Numeral.text factor =
      "Uniform scale by " ++ Numeral.text factor ++ ""
    rw [String.append_empty]
  | scaleAxes factors =>
    refine Eq.trans ?_ (axes_eq_weave "Scale by " " along " "1" factors 1)
    change scaleText factors = _
    simp only [scaleText, List.isEmpty_map, String.append_assoc]
    rfl
  | scaleAlong axis factor =>
    change "Scale along " ++ axis.text ++ " by " ++ Numeral.text factor =
      weave ["Scale along [", ", ", ", ", "] by ", ""]
        ((axis.toList ++ [factor]).map Numeral.text)
    apply String.toList_injective
    simp [Vec.text, Vec.toList, weave]
  | chain steps =>
    change "Chained transform (" ++ Nat.repr steps.length ++ (if _ then _ else _) =
      "Chained transform (" ++ Nat.repr steps.length ++ (if _ then _ else _)
    rfl

theorem length_shown (idle : α) (all : String) (xs : List α) :
    (shown idle all xs).length = max 1 (xs.filter (· != idle)).length := by
  unfold shown
  cases xs.filter (· != idle) with
  | nil => rfl
  | cons x xs => simp

/-- A numeral for every gap between words. -/
theorem length_words (t : Transform α) : t.wording.words.length = t.numerals.length + 1 := by
  cases t with
  | rotateXyz angles =>
    change (Wording.behindAxes _ (Wording.letters _ _ _)).length + 1 = (shown 0 _ _).length + 1
    rw [letters_eq, Wording.length_behindAxes, length_shown, kept_eq, List.length_map,
      List.length_map]
  | rotateYpr yaw pitch roll =>
    change (Wording.aroundTurns (Wording.turns _ _ _)).length = (shown 0 _ _).length + 1
    rw [turns_eq, Wording.length_aroundTurns, length_shown, keptTurns_eq, List.length_map,
      List.length_map]
  | scaleAxes factors =>
    change (Wording.behindAxes _ (Wording.letters _ _ _)).length + 1 = (shown 1 _ _).length + 1
    rw [letters_eq, Wording.length_behindAxes, length_shown, kept_eq, List.length_map,
      List.length_map]
  | _ => rfl

end SolidScene.Transform
