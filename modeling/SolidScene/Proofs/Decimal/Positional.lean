import Mathlib.Data.List.TakeWhile
import SolidScene.Decimal.Style
import SolidScene.Proofs.Decimal.Shortest

/-!
# Positional notation

A decimal in positional form, with nothing behind a whole number, is its digits with zeros in front
of them and a point among them or zeros behind them, and reads as its value.
-/
namespace SolidScene.Decimal

/-- What digits with at most one point among them stand for. -/
def worth (cs : List Char) : ℚ :=
  Nat.ofDigitChars 10 (cs.filter (· ≠ '.')) 0 / 10 ^ (cs.dropWhile (· ≠ '.')).tail.length

theorem worth_whole {cs : List Char} (h : ∀ c ∈ cs, c ≠ '.') :
    worth cs = Nat.ofDigitChars 10 cs 0 := by
  replace h : ∀ c ∈ cs, decide (c ≠ '.') = true := fun c hc => decide_eq_true (h c hc)
  rw [worth, List.filter_eq_self.mpr h, List.dropWhile_eq_nil_iff.mpr h]
  simp

theorem worth_point {whole fraction : List Char} (hwhole : ∀ c ∈ whole, c ≠ '.')
    (hfraction : ∀ c ∈ fraction, c ≠ '.') : worth (whole ++ '.' :: fraction) =
      Nat.ofDigitChars 10 (whole ++ fraction) 0 / 10 ^ fraction.length := by
  replace hwhole : ∀ c ∈ whole, decide (c ≠ '.') = true := fun c hc =>
    decide_eq_true (hwhole c hc)
  replace hfraction : ∀ c ∈ fraction, decide (c ≠ '.') = true := fun c hc =>
    decide_eq_true (hfraction c hc)
  rw [worth, List.filter_append, List.filter_cons_of_neg (by decide),
    List.filter_eq_self.mpr hwhole, List.filter_eq_self.mpr hfraction,
    List.dropWhile_append_of_pos hwhole, List.dropWhile_cons_of_neg (by decide),
    List.tail_cons]

theorem toList_figures (d : Decimal) : d.figures.toList = Nat.toDigits 10 d.digits :=
  Nat.toList_repr

theorem toList_zeros (n : Nat) : (zeros n).toList = List.replicate n '0' :=
  String.toList_ofList

/-- The digits of a decimal, with zeros in front of them. -/
def padded (d : Decimal) (n : Nat) : List Char := (zeros n ++ d.figures).toList

theorem padded_eq (d : Decimal) (n : Nat) :
    d.padded n = List.replicate n '0' ++ Nat.toDigits 10 d.digits := by
  rw [padded, String.toList_append, toList_zeros, toList_figures]

theorem isDigit_of_mem_padded {d : Decimal} {n : Nat} {c : Char} (h : c ∈ d.padded n) :
    c.isDigit = true := by
  rw [padded_eq] at h
  rcases List.mem_append.mp h with h | h
  · rw [List.eq_of_mem_replicate h]
    decide
  · exact Nat.isDigit_of_mem_toDigits (by decide) (by decide) h

theorem ofDigitChars_padded (d : Decimal) (n : Nat) :
    Nat.ofDigitChars 10 (d.padded n) 0 = d.digits := by
  rw [padded_eq, Nat.ofDigitChars_append, Nat.ofDigitChars_replicate_zero, Nat.mul_zero,
    Nat.ofDigitChars_ten_toDigits]

/-- The two layouts of a decimal. -/
theorem positionalText_cases (d : Decimal) :
    (0 ≤ d.exponent ∧ (d.positionalText "").toList =
      d.padded 0 ++ List.replicate d.exponent.toNat '0') ∨
    ∃ n whole fraction, whole ++ fraction = d.padded n ∧ d.exponent = -(fraction.length : Int) ∧
      (d.positionalText "").toList = whole ++ '.' :: fraction := by
  rw [positionalText]
  split
  · next h => exact .inl ⟨h, by simp [padded_eq, toList_figures, toList_zeros]⟩
  · next h =>
    let places := (-d.exponent).toNat
    let n := places + 1 - d.figures.length
    let whole := (d.padded n).length - places
    -- The digits reach at least one place in front of the point.
    have hlength : places ≤ (d.padded n).length := by
      rw [padded_eq, List.length_append, List.length_replicate, ← toList_figures,
        String.length_toList]
      omega
    refine .inr ⟨n, (d.padded n).take whole, (d.padded n).drop whole, List.take_append_drop _ _,
      ?_, ?_⟩
    · rw [List.length_drop]
      omega
    · simp [padded, n, whole, places, String.length_toList]

/-- Only digits and a point; the sign is not part of it. -/
theorem isDigit_of_mem_positionalText {d : Decimal} {c : Char}
    (h : c ∈ (d.positionalText "").toList) : c.isDigit = true ∨ c = '.' := by
  rcases d.positionalText_cases with ⟨-, htext⟩ | ⟨n, whole, fraction, hall, -, htext⟩
  · rw [htext] at h
    rcases List.mem_append.mp h with h | h
    · exact .inl (isDigit_of_mem_padded h)
    · rw [List.eq_of_mem_replicate h]
      exact .inl (by decide)
  · rw [htext, List.mem_append, List.mem_cons] at h
    rcases h with h | h | h
    · exact .inl (isDigit_of_mem_padded (hall ▸ List.mem_append_left _ h))
    · exact .inr h
    · exact .inl (isDigit_of_mem_padded (hall ▸ List.mem_append_right _ h))

theorem worth_positionalText (d : Decimal) : worth (d.positionalText "").toList = d.value := by
  have hpoint {c : Char} (h : c.isDigit = true) : c ≠ '.' := by
    rintro rfl
    exact absurd h (by decide)
  rcases d.positionalText_cases with
    ⟨hexponent, htext⟩ | ⟨n, whole, fraction, hall, hexponent, htext⟩
  · rw [htext, worth_whole, value]
    · rw [Nat.ofDigitChars_append, Nat.ofDigitChars_replicate_zero, ofDigitChars_padded,
        mul_comm, ← Int.toNat_of_nonneg hexponent]
      push_cast
      rfl
    · intro c hc
      rcases List.mem_append.mp hc with hc | hc
      · exact hpoint (isDigit_of_mem_padded hc)
      · rw [List.eq_of_mem_replicate hc]
        decide
  · have hdigit : ∀ c ∈ whole ++ fraction, c ≠ '.' := fun c hc =>
      hpoint (isDigit_of_mem_padded (hall ▸ hc))
    rw [List.forall_mem_append] at hdigit
    rw [htext, worth_point hdigit.1 hdigit.2, hall, ofDigitChars_padded, value, hexponent,
      zpow_neg, zpow_natCast, div_eq_mul_inv]

end SolidScene.Decimal
