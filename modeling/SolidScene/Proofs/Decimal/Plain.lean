import SolidScene.Proofs.Scad.Said
import SolidScene.Scalar.Double

/-!
# Plain numerals

A decimal in positional form is written with digits and at most one point, and double precision
writes every finite number so, with a sign in front of negative ones. That the digits read back as
the same number is not claimed here.
-/
namespace SolidScene

open Scad (isNumeral isNumeralChar PlainNumerals)

/-- Only characters of numerals. -/
def PlainChars (s : String) : Prop := ∀ c ∈ s.toList, isNumeralChar c = true

theorem plainChars_append {s t : String} (hs : PlainChars s) (ht : PlainChars t) :
    PlainChars (s ++ t) := by
  intro c hc
  rw [String.toList_append] at hc
  exact (List.mem_append.mp hc).elim (hs c) (ht c)

namespace Decimal

theorem plainChars_figures (d : Decimal) : PlainChars d.figures := by
  intro c hc
  rw [figures, Nat.toList_repr] at hc
  simp [isNumeralChar, Nat.isDigit_of_mem_toDigits (by decide) (by decide) hc]

theorem figures_ne_empty (d : Decimal) : d.figures.toList ≠ [] := by
  rw [figures, Nat.toList_repr]
  exact Nat.toDigits_ne_nil

theorem isNumeral_figures (d : Decimal) : isNumeral d.figures = true := by
  rw [isNumeral, Bool.and_eq_true, List.all_eq_true]
  exact ⟨by simp [d.figures_ne_empty], d.plainChars_figures⟩

theorem plainChars_zeros (n : Nat) : PlainChars (zeros n) := by
  intro c hc
  rw [zeros, String.toList_ofList] at hc
  rw [List.eq_of_mem_replicate hc]
  decide

/-- Positional notation is plain, and never the empty text. -/
theorem plainChars_positionalText (d : Decimal) :
    PlainChars (d.positionalText "") ∧ (d.positionalText "").toList ≠ [] := by
  unfold positionalText
  split
  · refine ⟨plainChars_append (plainChars_append d.plainChars_figures (plainChars_zeros _))
      (List.all_eq_true.mp rfl), ?_⟩
    simp [d.figures_ne_empty]
  · have hall := plainChars_append
      (plainChars_zeros ((-d.exponent).toNat + 1 - d.figures.length)) d.plainChars_figures
    refine ⟨plainChars_append (plainChars_append ?_ (List.all_eq_true.mp rfl)) ?_, by simp⟩
    · intro c hc
      rw [String.toList_ofList] at hc
      exact hall c (List.mem_of_mem_take hc)
    · intro c hc
      rw [String.toList_ofList] at hc
      exact hall c (List.mem_of_mem_drop hc)

end Decimal

namespace Double

/-- A finite number is neither of the values that are written in words. -/
theorem status_of_isFinite {x : Float} (h : x.isFinite = true) :
    x.isNaN = false ∧ x.isInf = false := by
  change x.toModel.unpack.isFinite = true at h
  change x.toModel.unpack.isNaN = false ∧ x.toModel.unpack.isInf = false
  cases hx : x.toModel.unpack with
  | finite sign mantissa exponent hpos => exact ⟨rfl, rfl⟩
  | zero sign => exact ⟨rfl, rfl⟩
  | notANumber =>
    rw [hx] at h
    cases h
  | infinity sign =>
    rw [hx] at h
    cases h

theorem isNumeral_finiteText {x : Float} (h : (x == 0) = false) :
    isNumeral (finiteText plainStyle x) = true := by
  have hsign : PlainChars (if signBit x then "-" else "") := by
    split <;> exact List.all_eq_true.mp rfl
  obtain ⟨hplain, hne⟩ := ((magnitude x).shortest plainStyle.tie).plainChars_positionalText
  have htext : finiteText plainStyle x = (if signBit x then "-" else "") ++
      ((magnitude x).shortest plainStyle.tie).positionalText "" := by
    simp [finiteText, h, Decimal.text, plainStyle]
  rw [htext, isNumeral, Bool.and_eq_true, List.all_eq_true]
  exact ⟨by simp [hne], plainChars_append hsign hplain⟩

end Double

/-- Double precision writes plain numerals. -/
theorem plainNumerals_double : PlainNumerals Float := by
  intro x hfinite hzero
  obtain ⟨hnan, hinf⟩ := Double.status_of_isFinite hfinite
  have htext : Numeral.text x = Double.finiteText Double.plainStyle x := by
    change (if x.isNaN then _ else if x.isInf then _ else _) = _
    rw [hnan, hinf]
    rfl
  rw [htext]
  exact Double.isNumeral_finiteText hzero

end SolidScene
