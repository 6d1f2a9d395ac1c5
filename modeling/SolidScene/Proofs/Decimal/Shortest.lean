import Mathlib.Algebra.Order.Field.Rat
import Mathlib.Tactic.NormNum
import Mathlib.Tactic.Ring
import SolidScene.Decimal.Shortest

/-!
# Shortest decimals read back

The shortest decimal of a binary number lies in the interval of the numbers that round to it: every
hit of the search does, and the search ends in a hit, at the latest on the grid on which the number
itself lies. That no shorter decimal reads back is not claimed here.
-/
namespace SolidScene

/-- A power with an integer exponent is a quotient of two with natural ones. -/
theorem zpow_mul_toNat {a : ℚ} (ha : a ≠ 0) (n : Int) : a ^ n * a ^ (-n).toNat = a ^ n.toNat := by
  rw [← zpow_natCast, ← zpow_natCast, ← zpow_add₀ ha]
  congr 1
  omega

/-- The number that a decimal stands for. -/
def Decimal.value (d : Decimal) : ℚ := d.digits * 10 ^ d.exponent

namespace Binary

/-- The lower end of the interval of numbers that round to a binary number. -/
def lower (b : Binary) : ℚ :=
  (4 * b.significand - (if b.narrowBelow then 1 else 2)) * 2 ^ (b.exponent - 2)

def upper (b : Binary) : ℚ := (4 * b.significand + 2) * 2 ^ (b.exponent - 2)

/-- The number rounds to `b`, where the ends of the interval go to even significands. -/
def Reads (b : Binary) (q : ℚ) : Prop :=
  if b.significand % 2 = 0 then b.lower ≤ q ∧ q ≤ b.upper else b.lower < q ∧ q < b.upper

end Binary

namespace Rounding

/-- The number is in the interval. -/
def Holds (r : Rounding) (q : ℚ) : Prop :=
  if r.closed then r.low ≤ q * r.denominator ∧ q * r.denominator ≤ r.high
  else r.low < q * r.denominator ∧ q * r.denominator < r.high

theorem holds_onGrid {r : Rounding} {place : Int} {n : Nat} :
    (r.onGrid place).1.holds (n * (r.onGrid place).2) = true ↔ r.Holds (n * 10 ^ place) := by
  have hfiner : (0 : ℚ) < (10 ^ (-place).toNat : ℕ) := by positivity
  have hpoint : ((n * (r.onGrid place).2 : ℕ) : ℚ) =
      n * 10 ^ place * r.denominator * (10 ^ (-place).toNat : ℕ) := by
    simp only [onGrid, Nat.pow_eq]
    push_cast
    rw [← zpow_mul_toNat (by norm_num) place]
    ring
  have hlow : (((r.onGrid place).1.low : ℕ) : ℚ) = r.low * (10 ^ (-place).toNat : ℕ) := by
    simp [onGrid]
  have hhigh : (((r.onGrid place).1.high : ℕ) : ℚ) = r.high * (10 ^ (-place).toNat : ℕ) := by
    simp [onGrid]
  have hclosed : (r.onGrid place).1.closed = r.closed := rfl
  unfold holds Holds
  rw [hclosed]
  split
  · rw [Bool.and_eq_true, decide_eq_true_eq, decide_eq_true_eq, ← Nat.cast_le (α := ℚ),
      ← Nat.cast_le (α := ℚ), hpoint, hlow, hhigh, mul_le_mul_iff_left₀ hfiner,
      mul_le_mul_iff_left₀ hfiner]
  · rw [Bool.and_eq_true, decide_eq_true_eq, decide_eq_true_eq, ← Nat.cast_lt (α := ℚ),
      ← Nat.cast_lt (α := ℚ), hpoint, hlow, hhigh, mul_lt_mul_iff_left₀ hfiner,
      mul_lt_mul_iff_left₀ hfiner]

/-- Every hit reads back. -/
theorem holds_of_hit? {r : Rounding} {tie : Tie} {place : Int} {n : Nat}
    (h : r.hit? tie place = some n) : r.Holds (n * 10 ^ place) := by
  rw [← holds_onGrid]
  simp only [hit?] at h
  split at h
  · cases h
  · obtain rfl := Option.some.inj h
    assumption
  · obtain rfl := Option.some.inj h
    assumption
  · repeat' split at h
    all_goals
      obtain rfl := Option.some.inj h
      assumption

/-- A grid on which the number lies has a hit. -/
theorem exists_hit? {r : Rounding} {place : Int} (tie : Tie) (hlow : r.low < r.value)
    (hhigh : r.value < r.high) (hdvd : (r.onGrid place).2 ∣ (r.onGrid place).1.value) :
    ∃ n, r.hit? tie place = some n := by
  have hbelow : (r.onGrid place).1.holds
      ((r.onGrid place).1.value / (r.onGrid place).2 * (r.onGrid place).2) = true := by
    rw [Nat.div_mul_cancel hdvd]
    unfold holds
    split
    · simpa [onGrid] using ⟨hlow.le, hhigh.le⟩
    · simpa [onGrid] using ⟨hlow, hhigh⟩
  simp only [hit?, hbelow]
  repeat' split
  all_goals first | contradiction | exact ⟨_, rfl⟩

theorem firstHit_eq {r : Rounding} {tie : Tie} {goal : Int}
    (hgoal : ∃ n, r.hit? tie goal = some n) {grids : Nat} {place : Int} (hle : goal ≤ place)
    (hgrids : place - goal < grids) :
    ∃ n p, r.firstHit tie grids place = ⟨n, p⟩ ∧ r.hit? tie p = some n := by
  induction grids generalizing place with
  | zero => omega
  | succ grids ih =>
    rw [firstHit]
    cases h : r.hit? tie place with
    | some n => exact ⟨n, place, rfl, h⟩
    | none =>
      have hne : goal ≠ place := by
        rintro rfl
        obtain ⟨n, hn⟩ := hgoal
        rw [hn] at h
        cases h
      exact ih (by omega) (by omega)

end Rounding

namespace Binary

/-- The grid of units if the number is whole, and otherwise that of its last binary place. -/
theorem step_dvd (b : Binary) : (b.rounding.onGrid (min b.exponent 0)).2 ∣
    (b.rounding.onGrid (min b.exponent 0)).1.value := by
  simp only [rounding, Rounding.onGrid, Nat.pow_eq]
  rcases Int.le_total 0 b.exponent with h | h
  · rw [min_eq_right h]
    have hfour : 2 ^ (2 - b.exponent).toNat ∣ 2 ^ 2 := Nat.pow_dvd_pow 2 (by omega)
    simpa [mul_assoc] using hfour.mul_right (b.significand * 2 ^ (b.exponent - 2).toNat)
  · rw [min_eq_left h]
    have hsplit : (2 - b.exponent).toNat = 2 + (-b.exponent).toNat := by omega
    have hten : 2 ^ (-b.exponent).toNat ∣ 10 ^ (-b.exponent).toNat :=
      pow_dvd_pow_of_dvd (by decide) _
    have hzero : (b.exponent - 2).toNat = 0 ∧ b.exponent.toNat = 0 := by omega
    rw [hsplit, hzero.1, hzero.2, Nat.pow_add, Nat.pow_zero, Nat.mul_one, Nat.mul_one,
      Nat.mul_assoc]
    exact Nat.mul_dvd_mul (by decide) (hten.mul_left _)

theorem holds_rounding {b : Binary} (hb : 0 < b.significand) (q : ℚ) :
    b.rounding.Holds q ↔ b.Reads q := by
  have hdenominator : (0 : ℚ) < b.rounding.denominator := by
    simp [rounding]
  have hscale : (2 : ℚ) ^ (b.exponent - 2) * b.rounding.denominator =
      2 ^ (b.exponent - 2).toNat := by
    rw [← zpow_mul_toNat (by norm_num), neg_sub]
    simp [rounding]
  have hlow : (b.rounding.low : ℚ) = b.lower * b.rounding.denominator := by
    rw [lower, mul_assoc, hscale]
    simp only [rounding, Nat.pow_eq]
    rw [Nat.cast_mul, Nat.cast_sub (by split <;> omega)]
    push_cast
    rfl
  have hhigh : (b.rounding.high : ℚ) = b.upper * b.rounding.denominator := by
    rw [upper, mul_assoc, hscale]
    simp [rounding]
  have hclosed : b.rounding.closed = true ↔ b.significand % 2 = 0 := by simp [rounding]
  rw [Rounding.Holds, Reads, hlow, hhigh, mul_le_mul_iff_left₀ hdenominator,
    mul_le_mul_iff_left₀ hdenominator, mul_lt_mul_iff_left₀ hdenominator,
    mul_lt_mul_iff_left₀ hdenominator]
  simp only [hclosed]

/-- The shortest decimal reads back. -/
theorem reads_shortest (b : Binary) (tie : Tie) (hb : 0 < b.significand) :
    b.Reads (b.shortest tie).value := by
  have hup : 0 < 2 ^ (b.exponent - 2).toNat := Nat.pow_pos (by decide)
  have hlow : b.rounding.low < b.rounding.value := by
    simp only [rounding, Nat.pow_eq]
    exact Nat.mul_lt_mul_of_pos_right (by split <;> omega) hup
  have hhigh : b.rounding.value < b.rounding.high := by
    simp only [rounding, Nat.pow_eq]
    exact Nat.mul_lt_mul_of_pos_right (by omega) hup
  have hle : min b.exponent 0 ≤ b.topPlace := by
    rw [topPlace]
    omega
  have hgrids : b.topPlace - min b.exponent 0 < (b.topPlace - min b.exponent 0 + 1).toNat := by
    omega
  obtain ⟨n, place, hfirst, hhit⟩ :=
    Rounding.firstHit_eq (Rounding.exists_hit? tie hlow hhigh b.step_dvd) hle hgrids
  rw [shortest, hfirst, ← holds_rounding hb]
  exact Rounding.holds_of_hit? hhit

end Binary

end SolidScene
