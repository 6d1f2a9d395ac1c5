import SolidScene.Proofs.Decimal.Plain
import SolidScene.Proofs.Decimal.Positional
import SolidScene.Proofs.Listwise
import SolidScene.Proofs.Scalar.Zeros

/-!
# Legible numerals

Finite numbers of double precision that are written alike are equal. The bits of a number without
its sign count the numbers from zero upwards; the intervals that round to two neighbours share an
end, which goes to the even one of them, so that a decimal is read back by one number only.
-/
namespace SolidScene.Double

/-- The numbers from zero upwards. The same pattern goes on beyond the greatest finite number. -/
def ladder (n : Nat) : Binary :=
  if n / 2 ^ 52 = 0 then ⟨n % 2 ^ 52, -1074, false⟩
  else ⟨2 ^ 52 + n % 2 ^ 52, Int.ofNat (n / 2 ^ 52) - 1075, n % 2 ^ 52 == 0 && n / 2 ^ 52 != 1⟩

theorem upper_eq_lower_succ (s : Nat) (e : Int) (narrow : Bool) :
    Binary.upper ⟨s, e, narrow⟩ = Binary.lower ⟨s + 1, e, false⟩ := by
  simp only [Binary.upper, Binary.lower]
  push_cast
  ring

/-- At the end of a range the step doubles. -/
theorem upper_eq_lower_half {s t : Nat} (h : t + 1 = 2 * s) (e : Int) (narrow : Bool) :
    Binary.upper ⟨t, e, narrow⟩ = Binary.lower ⟨s, e + 1, true⟩ := by
  have hstep : (2 : ℚ) ^ (e + 1 - 2) = 2 * 2 ^ (e - 2) := by
    rw [← zpow_one_add₀ (by norm_num)]
    congr 1
    omega
  have hs : (t : ℚ) + 1 = 2 * s := by exact_mod_cast h
  simp only [Binary.upper, Binary.lower, hstep, ↓reduceIte]
  linear_combination 4 * 2 ^ (e - 2) * hs

/-- The interval of a number ends where that of the next one starts. -/
theorem upper_ladder (n : Nat) : (ladder n).upper = (ladder (n + 1)).lower := by
  by_cases hcarry : n % 2 ^ 52 + 1 < 2 ^ 52
  · have hnext : (n + 1) / 2 ^ 52 = n / 2 ^ 52 ∧ (n + 1) % 2 ^ 52 = n % 2 ^ 52 + 1 := by omega
    have hwide : (n % 2 ^ 52 + 1 == 0 && n / 2 ^ 52 != 1) = false := by simp
    rw [ladder, ladder, hnext.1, hnext.2, hwide]
    split
    · exact upper_eq_lower_succ _ _ _
    · exact upper_eq_lower_succ _ _ _
  · have hfull : n % 2 ^ 52 = 2 ^ 52 - 1 := by omega
    have hnext : (n + 1) / 2 ^ 52 = n / 2 ^ 52 + 1 ∧ (n + 1) % 2 ^ 52 = 0 := by omega
    rw [ladder, ladder, hnext.1, hnext.2, hfull]
    cases n / 2 ^ 52 with
    | zero => exact upper_eq_lower_succ _ _ _
    | succ e =>
      have hexponent : Int.ofNat (e + 1 + 1) - 1075 = Int.ofNat (e + 1) - 1075 + 1 := by
        simp only [Int.ofNat_eq_natCast]
        omega
      rw [if_neg (by omega), if_neg (by omega), hexponent]
      exact upper_eq_lower_half (by decide) _ _

theorem lower_lt_upper (b : Binary) : b.lower < b.upper := by
  have hpow : (0 : ℚ) < 2 ^ (b.exponent - 2) := by positivity
  rw [Binary.lower, Binary.upper]
  refine mul_lt_mul_of_pos_right ?_ hpow
  split <;> linarith

theorem strictMono_lower : StrictMono fun n => (ladder n).lower :=
  strictMono_nat_of_lt_succ fun n => by
    rw [← upper_ladder]
    exact lower_lt_upper _

theorem significand_ladder (n : Nat) : (ladder n).significand % 2 = n % 2 := by
  unfold ladder
  split
  · exact Nat.mod_mod_of_dvd n (by decide)
  · change (2 ^ 52 + n % 2 ^ 52) % 2 = n % 2
    omega

theorem weak_of_reads {b : Binary} {q : ℚ} (h : b.Reads q) : b.lower ≤ q ∧ q ≤ b.upper := by
  unfold Binary.Reads at h
  split at h
  · exact h
  · exact ⟨h.1.le, h.2.le⟩

theorem not_reads_of_lt {n m : Nat} {q : ℚ} (hlt : n < m) (hn : (ladder n).Reads q)
    (hm : (ladder m).Reads q) : False := by
  have hstep : (ladder n).upper ≤ (ladder m).lower := by
    rw [upper_ladder]
    exact strictMono_lower.monotone hlt
  -- The number is the common end of the two intervals, so that they belong to neighbours.
  have hq : (ladder (n + 1)).lower = (ladder m).lower := by
    rw [← upper_ladder]
    exact le_antisymm hstep ((weak_of_reads hm).1.trans (weak_of_reads hn).2)
  obtain rfl : n + 1 = m := strictMono_lower.injective hq
  simp only [Binary.Reads, significand_ladder] at hn hm
  rw [← upper_ladder] at hm
  rcases Nat.mod_two_eq_zero_or_one n with h | h
  · rw [if_pos h] at hn
    rw [if_neg (by omega)] at hm
    exact absurd hn.2 hm.1.not_ge
  · rw [if_neg (by omega)] at hn
    rw [if_pos (by omega)] at hm
    exact absurd hm.1 hn.2.not_ge

theorem ladder_injective {n m : Nat} {q : ℚ} (hn : (ladder n).Reads q) (hm : (ladder m).Reads q) :
    n = m := by
  rcases Nat.lt_trichotomy n m with h | h | h
  · exact (not_reads_of_lt h hn hm).elim
  · exact h
  · exact (not_reads_of_lt h hm hn).elim

/-- The bits of a number without its sign. -/
def rung (x : Float) : Nat := x.toBits.toNat % 2 ^ 63

theorem magnitude_eq_ladder (x : Float) : magnitude x = ladder (rung x) := by
  have hfraction : rung x % 2 ^ 52 = x.toBits.toNat % 2 ^ 52 := by
    unfold rung
    omega
  have hexponent : rung x / 2 ^ 52 = x.toBits.toNat / 2 ^ 52 % 2 ^ 11 := by
    unfold rung
    omega
  rw [ladder, hfraction, hexponent]
  rfl

theorem signBit_iff {x : Float} : signBit x = true ↔ 2 ^ 63 ≤ x.toBits.toNat := by
  rw [signBit, bne_iff_ne, ne_eq, ← UInt64.toNat_inj, UInt64.toNat_shiftRight,
    Nat.shiftRight_eq_div_pow]
  have hx := x.toBits.toNat_lt
  change ¬ x.toBits.toNat / 2 ^ 63 = 0 ↔ _
  omega

theorem eq_of_rung {x y : Float} (hsign : signBit x = signBit y) (hrung : rung x = rung y) :
    x = y := by
  rw [Bool.eq_iff_iff, signBit_iff, signBit_iff] at hsign
  unfold rung at hrung
  rw [← Float.toBits_inj, ← UInt64.toNat_inj]
  have hx := x.toBits.toNat_lt
  have hy := y.toBits.toNat_lt
  omega

theorem rung_pos {x : Float} (h : (x == 0) = false) : 0 < rung x := by
  rw [Nat.pos_iff_ne_zero]
  intro hrung
  cases hsign : signBit x with
  | false =>
    rw [eq_of_rung (y := 0) (hsign.trans rfl) (hrung.trans rfl)] at h
    cases h
  | true =>
    rw [eq_of_rung (y := -0) (hsign.trans rfl) (hrung.trans rfl)] at h
    cases h

theorem significand_ladder_pos {n : Nat} (h : 0 < n) : 0 < (ladder n).significand := by
  unfold ladder
  split
  · change 0 < n % 2 ^ 52
    omega
  · change 0 < 2 ^ 52 + n % 2 ^ 52
    omega

theorem lower_pos {b : Binary} (h : 0 < b.significand) : 0 < b.lower := by
  have hone : (1 : ℚ) ≤ b.significand := by exact_mod_cast h
  refine mul_pos ?_ (by positivity)
  split <;> linarith

/-! ## Texts -/

/-- The digits of a number, without its sign. -/
def figures (x : Float) : String :=
  if x == 0 then "0" else ((magnitude x).shortest .up).positionalText ""

theorem text_eq {x : Float} (h : x.isFinite = true) :
    Numeral.text x = (if signBit x then "-" else "") ++ figures x := by
  obtain ⟨hnan, hinf⟩ := status_of_isFinite h
  have htext : Numeral.text x = finiteText plainStyle x := by
    change (if x.isNaN then _ else if x.isInf then _ else _) = _
    rw [hnan, hinf]
    rfl
  rw [htext, finiteText, figures]
  split
  · rw [String.append_assoc]
    rfl
  · rfl

theorem isDigit_of_mem_figures {x : Float} {c : Char} (h : c ∈ (figures x).toList) :
    c.isDigit = true ∨ c = '.' := by
  unfold figures at h
  split at h
  · obtain rfl : c = '0' := by simpa using h
    exact .inl (by decide)
  · exact Decimal.isDigit_of_mem_positionalText h

/-- What the digits of a number other than zero stand for reads back as its magnitude. -/
theorem reads_figures {x : Float} (h : (x == 0) = false) :
    (ladder (rung x)).Reads (Decimal.worth (figures x).toList) := by
  have hpos : 0 < (magnitude x).significand := by
    rw [magnitude_eq_ladder]
    exact significand_ladder_pos (rung_pos h)
  rw [figures, h, if_neg (by decide), Decimal.worth_positionalText, ← magnitude_eq_ladder]
  exact Binary.reads_shortest _ _ hpos

/-- Digits do not start with a sign, so that the sign can be told from them. -/
theorem sign_and_figures {x y : Float} (hx : x.isFinite = true) (hy : y.isFinite = true)
    (h : Numeral.text x = Numeral.text y) : signBit x = signBit y ∧ figures x = figures y := by
  have hsign (x y : Float) (h : ("-" : String) ++ figures x = figures y) : False := by
    have hmem : '-' ∈ (figures y).toList := by simp [← h]
    rcases isDigit_of_mem_figures hmem with h | h
    · exact absurd h (by decide)
    · cases h
  rw [text_eq hx, text_eq hy] at h
  cases hsx : signBit x <;> cases hsy : signBit y <;>
    simp only [hsx, hsy, Bool.false_eq_true, if_true, if_false, String.empty_append] at h
  · exact ⟨rfl, h⟩
  · exact (hsign y x h.symm).elim
  · exact (hsign x y h).elim
  · exact ⟨rfl, (String.append_right_inj _).mp h⟩

theorem beq_self_of_isFinite {x : Float} (h : x.isFinite = true) : (x == x) = true := by
  have hnan := (status_of_isFinite h).1
  rw [Float.isNaN_eq_decide_eq_nan, decide_eq_false_iff_not] at hnan
  exact Float.beq_self_iff.mpr hnan

/-- Finite numbers that are written alike are equal; the sign of a zero is written. -/
theorem beq_of_text {x y : Float} (hx : x.isFinite = true) (hy : y.isFinite = true)
    (h : Numeral.text x = Numeral.text y) : (x == y) = true := by
  obtain ⟨hsign, hfigures⟩ := sign_and_figures hx hy h
  have hzero {x : Float} (h : (x == 0) = true) : Decimal.worth (figures x).toList = 0 := by
    rw [figures, h, if_pos rfl]
    simp [Decimal.worth, Nat.ofDigitChars_cons]
  have hpos {x : Float} (h : (x == 0) = false) : 0 < Decimal.worth (figures x).toList :=
    (lower_pos (significand_ladder_pos (rung_pos h))).trans_le (weak_of_reads (reads_figures h)).1
  cases hx0 : x == 0 <;> cases hy0 : y == 0
  · have hrung := ladder_injective (reads_figures hx0) (hfigures ▸ reads_figures hy0)
    rw [eq_of_rung hsign hrung]
    exact beq_self_of_isFinite hy
  · exact absurd (hfigures ▸ hzero hy0) (hpos hx0).ne'
  · exact absurd (hfigures ▸ hzero hx0) (hpos hy0).ne'
  · have hx : Alike x 0 := .inr ⟨hx0, rfl⟩
    have hy : Alike y 0 := .inr ⟨hy0, rfl⟩
    exact hx.beq hy

theorem isNumeral_text {x : Float} (h : x.isFinite = true) :
    Scad.isNumeral (Numeral.text x) = true := by
  cases hzero : x == 0 with
  | false => exact plainNumerals_double x h hzero
  | true =>
    rw [text_eq h, figures, hzero, if_pos rfl]
    cases signBit x <;> decide

/-! ## Rows of numbers -/

theorem beq_of_beq {x y z : Float} (hx : (x == z) = true) (hy : (y == z) = true) :
    (x == y) = true := by
  rw [(alike_of_beq hx).beq (alike_of_beq hy)]
  exact Float.beq_self_iff.mpr (Float.beq_iff_ne_nan_and_eq.mp hx).2.1

/-- Equal entry by entry. -/
def Equal (xs ys : List Float) : Prop := List.Forall₂ (fun x y => (x == y) = true) xs ys

theorem equal_append {xs xs' ys ys' : List Float} (hlength : xs.length = xs'.length)
    (h : Equal (xs ++ ys) (xs' ++ ys')) : Equal xs xs' ∧ Equal ys ys' := by
  have hleft := List.forall₂_take_append _ _ _ h
  have hright := List.forall₂_drop_append _ _ _ h
  rw [← hlength, List.take_left] at hleft
  rw [← hlength, List.drop_left] at hright
  exact ⟨hleft, hright⟩

theorem equal_of_texts {xs ys : List Float} (hx : ∀ x ∈ xs, x.isFinite = true)
    (hy : ∀ y ∈ ys, y.isFinite = true) (h : xs.map Numeral.text = ys.map Numeral.text) :
    Equal xs ys :=
  related_of_map_eq h fun x hmem y hmem' => beq_of_text (hx x hmem) (hy y hmem')

/-- Entries that do nothing need not be written, as long as it is known where they are. -/
theorem equal_of_kept {idle : Float} {xs ys : List Float} (hx : ∀ x ∈ xs, x.isFinite = true)
    (hy : ∀ y ∈ ys, y.isFinite = true) (hidle : xs.map (· != idle) = ys.map (· != idle))
    (h : (xs.filter (· != idle)).map Numeral.text = (ys.filter (· != idle)).map Numeral.text) :
    Equal xs ys := by
  induction xs generalizing ys with
  | nil =>
    obtain rfl := List.map_eq_nil_iff.mp hidle.symm
    exact .nil
  | cons x xs ih =>
    obtain ⟨y, ys, rfl, hflag, hrest⟩ := List.map_eq_cons_iff.mp hidle.symm
    rw [List.forall_mem_cons] at hx hy
    rw [List.filter_cons, List.filter_cons, hflag] at h
    split at h
    · obtain ⟨htext, hkept⟩ := List.cons.inj h
      exact .cons (beq_of_text hx.1 hy.1 htext) (ih hx.2 hy.2 hrest.symm hkept)
    · next hx0 =>
      have hy0 : ¬ (y != idle) = true := by rwa [hflag]
      rw [bne, Bool.not_eq_true, Bool.not_eq_false'] at hx0 hy0
      exact .cons (beq_of_beq hx0 hy0) (ih hx.2 hy.2 hrest.symm h)

end SolidScene.Double
