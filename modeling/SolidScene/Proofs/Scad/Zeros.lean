import SolidScene.Proofs.Decimal.Plain
import SolidScene.Proofs.Scad.Comments
import SolidScene.Proofs.Vector.Zeros
import SolidScene.Transform.Source

/-!
# Zeros of either sign in scene source

A parameter of a statement is written without the sign of a zero. A text for readers, which a
comment is, shows it: zeros of different signs have different texts there, which can be told apart.
-/
namespace SolidScene

open Double (Alike)
open Scad (Value Parted OneLine)

namespace Double

theorem eq_zero_or {x : Float} (h : (x == 0) = true) : x = 0 ∨ x = -0 := by
  obtain ⟨-, -, h | ⟨-, h⟩ | ⟨h, -⟩⟩ := Float.beq_iff_ne_nan_and_eq.mp h
  · exact .inl h
  · cases h
  · exact .inr h

theorem oneLine_text (x : Float) : OneLine (Numeral.text x) := by
  change OneLine (if x.isNaN then "NaN" else if x.isInf then (if signBit x then "-inf" else "inf")
    else finiteText plainStyle x)
  split
  · decide
  · split
    · split <;> decide
    · cases hzero : x == 0 with
      | true =>
        rcases eq_zero_or hzero with rfl | rfl
        · decide +kernel
        · decide +kernel
      | false =>
        have hplain := isNumeral_finiteText hzero
        rw [Scad.isNumeral, Bool.and_eq_true, List.all_eq_true] at hplain
        exact fun hmem => by cases hplain.2 _ hmem

theorem source_zero {x : Float} (h : (x == 0) = true) : (Value.number x).source = .ok "0" := by
  rcases eq_zero_or h with rfl | rfl <;> rfl

namespace Alike

variable {x y : Float}

theorem source (h : Alike x y) : (Value.number x).source = (Value.number y).source := by
  rcases h with rfl | ⟨hx, hy⟩
  · rfl
  · rw [source_zero hx, source_zero hy]

theorem parted_text (h : Alike x y) : Parted (Numeral.text x) (Numeral.text y) := by
  -- The texts of the two zeros differ in the first character.
  have hsigns {u v : String} : "0" ++ u ≠ "-0" ++ v := fun h => by
    simpa using congrArg String.toList h
  have hplus : Numeral.text (0 : Float) = "0" := by decide +kernel
  have hminus : Numeral.text (-0 : Float) = "-0" := by decide +kernel
  rcases h with rfl | ⟨hx, hy⟩
  · exact .refl _
  · rcases eq_zero_or hx with rfl | rfl <;> rcases eq_zero_or hy with rfl | rfl
    · exact .refl _
    · rw [hplus, hminus]
      exact fun u v h => absurd h hsigns
    · rw [hplus, hminus]
      exact fun u v h => absurd h.symm hsigns
    · exact .refl _

end Alike

end Double

namespace Vec

variable {u v : Vec Float}

theorem oneLine_text (v : Vec Float) : OneLine v.text := by
  have hx := Double.oneLine_text v.x
  have hy := Double.oneLine_text v.y
  have hz := Double.oneLine_text v.z
  simp only [OneLine] at hx hy hz
  simp [OneLine, Vec.text, toList, hx, hy, hz]

theorem Like.source (h : Like u v) : (Value.ofVec u).source = (Value.ofVec v).source := by
  have hitems : Value.sources (u.toList.map .number) = Value.sources (v.toList.map .number) :=
    Value.sources_congr (.cons h.x.source (.cons h.y.source (.cons h.z.source .nil)))
  change (do return "[" ++ ", ".intercalate (← Value.sources (u.toList.map .number)) ++ "]") =
    (do return "[" ++ ", ".intercalate (← Value.sources (v.toList.map .number)) ++ "]")
  rw [hitems]

theorem Like.parted_text (h : Like u v) : Parted u.text v.text := by
  have hcomponents : List.Forall₂ Parted (u.toList.map Numeral.text) (v.toList.map Numeral.text) :=
    .cons h.x.parted_text (.cons h.y.parted_text (.cons h.z.parted_text .nil))
  exact ((Parted.refl "[").append (.intercalate hcomponents)).append (.refl "]")

end Vec

end SolidScene
