import Mathlib
import SolidScene.Scalar.Double

/-!
# Zeros of either sign

Double precision has two zeros, which count as equal. Sums, differences and products of equal
numbers are equal again, and so are quotients by the same number; comparisons do not see the sign
of a zero at all, and a square has none. Only a quotient by a zero and the sign of a number depend
on it, and the text of the number does.
-/
namespace SolidScene.Double

open Float.Model (UnpackedFloat Format)
open Float.Model.UnpackedFloat (Sign)

/-- The same number, or two zeros of any sign. -/
def Alike (x y : Float) : Prop := x = y ∨ (x == 0) = true ∧ (y == 0) = true

/-- The same sign, significand and exponent, or two zeros. -/
def SameData (u v : UnpackedFloat) : Prop := u = v ∨ (∃ s, u = .zero s) ∧ ∃ t, v = .zero t

namespace SameData

variable {spec : Format} {u u' v v' : UnpackedFloat}

theorem add (hu : SameData u u') (hv : SameData v v') :
    SameData (u.add spec v) (u'.add spec v') := by
  rcases hu with rfl | ⟨⟨s, rfl⟩, s', rfl⟩ <;> rcases hv with rfl | ⟨⟨t, rfl⟩, t', rfl⟩
  · exact .inl rfl
  · cases u <;> simp [SameData, UnpackedFloat.add]
    split <;> split <;> simp
  · cases v <;> simp [SameData, UnpackedFloat.add]
    split <;> split <;> simp
  · simp [SameData, UnpackedFloat.add]
    split <;> split <;> simp

theorem neg (hu : SameData u u') : SameData u.neg u'.neg := by
  rcases hu with rfl | ⟨⟨s, rfl⟩, s', rfl⟩
  · exact .inl rfl
  · exact .inr ⟨⟨-s, rfl⟩, -s', rfl⟩

theorem sub (hu : SameData u u') (hv : SameData v v') :
    SameData (u.sub spec v) (u'.sub spec v') := by
  rcases hu with rfl | ⟨⟨s, rfl⟩, s', rfl⟩ <;> rcases hv with rfl | ⟨⟨t, rfl⟩, t', rfl⟩
  · exact .inl rfl
  · cases u <;> simp [SameData, UnpackedFloat.sub]
    split <;> split <;> simp
  · cases v <;> simp [SameData, UnpackedFloat.sub]
    split <;> split <;> simp
  · simp [SameData, UnpackedFloat.sub]
    split <;> split <;> simp

theorem mul (hu : SameData u u') (hv : SameData v v') :
    SameData (u.mul spec v) (u'.mul spec v') := by
  rcases hu with rfl | ⟨⟨s, rfl⟩, s', rfl⟩ <;> rcases hv with rfl | ⟨⟨t, rfl⟩, t', rfl⟩
  · exact .inl rfl
  · cases u <;> simp [SameData, UnpackedFloat.mul]
  · cases v <;> simp [SameData, UnpackedFloat.mul]
  · simp [SameData, UnpackedFloat.mul]

theorem mul_self (hu : SameData u u') : u.mul spec u = u'.mul spec u' := by
  rcases hu with rfl | ⟨⟨s, rfl⟩, s', rfl⟩
  · rfl
  · cases s <;> cases s' <;> rfl

theorem div (hu : SameData u u') (v : UnpackedFloat) :
    SameData (u.div spec v) (u'.div spec v) := by
  rcases hu with rfl | ⟨⟨s, rfl⟩, s', rfl⟩
  · exact .inl rfl
  · cases v <;> simp [SameData, UnpackedFloat.div]

theorem abs (hu : SameData u u') : u.abs = u'.abs := by
  rcases hu with rfl | ⟨⟨s, rfl⟩, s', rfl⟩ <;> rfl

theorem compare_eq (hu : SameData u u') (hv : SameData v v') :
    u.compare v = u'.compare v' := by
  have hright {w : UnpackedFloat} (t t' : Sign) : w.compare (.zero t) = w.compare (.zero t') := by
    cases w with
    | infinity s => cases s <;> rfl
    | finite s m e h => cases s <;> rfl
    | _ => rfl
  have hleft {w : UnpackedFloat} (t t' : Sign) : (UnpackedFloat.zero t).compare w =
      (UnpackedFloat.zero t').compare w := by
    cases w with
    | infinity s => cases s <;> rfl
    | finite s m e h => cases s <;> rfl
    | _ => rfl
  rcases hu with rfl | ⟨⟨s, rfl⟩, s', rfl⟩ <;> rcases hv with rfl | ⟨⟨t, rfl⟩, t', rfl⟩
  · rfl
  · exact hright t t'
  · exact hleft s s'
  · rfl

end SameData

theorem beq_zero_iff {x : Float} : (x == 0) = true ↔ ∃ s, x.toModel.unpack = .zero s := by
  change x.toModel.unpack.beq (.zero .positive) = true ↔ _
  cases x.toModel.unpack with
  | infinity s => cases s <;> simp [UnpackedFloat.beq, UnpackedFloat.compare]
  | finite s m e h => cases s <;> simp [UnpackedFloat.beq, UnpackedFloat.compare]
  | zero s => simp [UnpackedFloat.beq, UnpackedFloat.compare]
  | notANumber => simp [UnpackedFloat.beq, UnpackedFloat.compare]

/-- Results that are alike before they are packed into bits are alike afterwards. -/
theorem alike_pack {u v : UnpackedFloat} (h : SameData u v) : Alike ⟨.pack u⟩ ⟨.pack v⟩ := by
  have hzero (s : Sign) : ((Float.ofModel (.pack (.zero s))) == 0) = true := by
    cases s <;> rfl
  rcases h with rfl | ⟨⟨s, rfl⟩, t, rfl⟩
  · exact .inl rfl
  · exact .inr ⟨hzero s, hzero t⟩

theorem alike_of_beq {x y : Float} (h : (x == y) = true) : Alike x y := by
  obtain ⟨-, -, rfl | ⟨rfl, rfl⟩ | ⟨rfl, rfl⟩⟩ := Float.beq_iff_ne_nan_and_eq.mp h
  · exact .inl rfl
  · exact .inr ⟨rfl, rfl⟩
  · exact .inr ⟨rfl, rfl⟩

/-- The bits without the sign are those of the absolute value. -/
theorem abs_unpack {spec : Format} (b : BitVec spec.numBits) :
    (UnpackedFloat.unpack spec b).abs = UnpackedFloat.unpack spec
      (UnpackedFloat.packComponents spec .positive (UnpackedFloat.unpackExponent b)
        (UnpackedFloat.unpackMantissa b)) := by
  simp only [UnpackedFloat.unpack, UnpackedFloat.unpackExponent_packComponents,
    UnpackedFloat.unpackMantissa_packComponents, UnpackedFloat.unpackSign_packComponents,
    Sign.ofBitVec_toBitVec]
  split <;> split <;> try rfl
  split <;> rfl

/-- Packing only loses which of the values that are not a number it was. -/
theorem unpack_pack_unpack (b : BitVec Format.binary64.numBits) :
    UnpackedFloat.unpack .binary64
        (UnpackedFloat.pack .binary64 (UnpackedFloat.unpack .binary64 b)) =
      UnpackedFloat.unpack .binary64 b := by
  rw [UnpackedFloat.pack_unpack]
  split
  · next h =>
    simp only [UnpackedFloat.isNaNBits, decide_eq_true_eq] at h
    rw [UnpackedFloat.unpack_packedNaN]
    simp [UnpackedFloat.unpack, h]
  · rfl

theorem unpack_abs (x : Float) : (Scalar.abs x).toModel.unpack = x.toModel.unpack.abs := by
  change UnpackedFloat.unpack _ (UnpackedFloat.pack _ (UnpackedFloat.unpack _ _).abs) =
    (UnpackedFloat.unpack _ _).abs
  rw [abs_unpack, unpack_pack_unpack]

theorem lt_iff {x y : Float} :
    Scalar.lt x y = true ↔ x.toModel.unpack.compare y.toModel.unpack = some .lt := by
  have hlt : x < y ↔ x.toModel.unpack.lt y.toModel.unpack = true := decide_eq_true_iff
  change decide (x < y) = true ↔ _
  rw [decide_eq_true_iff, hlt, UnpackedFloat.lt, beq_iff_eq]

/-- No magnitude is less than that of a zero. -/
theorem lt_abs_zero (x : Float) {y : Float} (hy : (y == 0) = true) :
    Scalar.lt (Scalar.abs x) (Scalar.abs y) = false := by
  obtain ⟨s, hs⟩ := beq_zero_iff.mp hy
  rw [← Bool.not_eq_true, lt_iff, unpack_abs, unpack_abs, hs]
  cases x.toModel.unpack <;> simp [UnpackedFloat.abs, UnpackedFloat.compare]

/-- Every number but zero is greater in magnitude than a zero. -/
theorem zero_of_not_lt_abs {x y : Float} (hx : (x == 0) = true) (hy : (y == y) = true)
    (h : Scalar.lt (Scalar.abs x) (Scalar.abs y) = false) : (y == 0) = true := by
  obtain ⟨s, hs⟩ := beq_zero_iff.mp hx
  rw [← Bool.not_eq_true, lt_iff, unpack_abs, unpack_abs, hs] at h
  change y.toModel.unpack.beq y.toModel.unpack = true at hy
  rw [beq_zero_iff]
  cases hu : y.toModel.unpack with
  | zero t => exact ⟨t, rfl⟩
  | infinity t => simp [hu, UnpackedFloat.abs, UnpackedFloat.compare] at h
  | finite t m e hm => simp [hu, UnpackedFloat.abs, UnpackedFloat.compare] at h
  | notANumber => simp [hu, UnpackedFloat.beq, UnpackedFloat.compare] at hy

namespace Alike

variable {x x' y y' : Float}

theorem refl (x : Float) : Alike x x := .inl rfl

theorem data (h : Alike x y) : SameData x.toModel.unpack y.toModel.unpack := by
  rcases h with rfl | ⟨hx, hy⟩
  · exact .inl rfl
  · exact .inr ⟨beq_zero_iff.mp hx, beq_zero_iff.mp hy⟩

theorem add (hx : Alike x x') (hy : Alike y y') : Alike (x + y) (x' + y') :=
  alike_pack (hx.data.add hy.data)

theorem sub (hx : Alike x x') (hy : Alike y y') : Alike (x - y) (x' - y') :=
  alike_pack (hx.data.sub hy.data)

theorem mul (hx : Alike x x') (hy : Alike y y') : Alike (x * y) (x' * y') :=
  alike_pack (hx.data.mul hy.data)

theorem neg (hx : Alike x x') : Alike (-x) (-x') := alike_pack hx.data.neg

theorem div (hx : Alike x x') (y : Float) : Alike (x / y) (x' / y) :=
  alike_pack (hx.data.div y.toModel.unpack)

theorem mul_self (hx : Alike x x') : x * x = x' * x' :=
  congrArg (fun u => Float.ofModel (.pack u)) hx.data.mul_self

theorem abs (hx : Alike x x') : Scalar.abs x = Scalar.abs x' :=
  congrArg (fun u => Float.ofModel (.pack u)) hx.data.abs

theorem beq (hx : Alike x x') (hy : Alike y y') : (x == y) = (x' == y') :=
  congrArg (fun o : Option Ordering => o == some .eq) (hx.data.compare_eq hy.data)

theorem bne (hx : Alike x x') (hy : Alike y y') : (x != y) = (x' != y') :=
  congrArg (! ·) (hx.beq hy)

theorem lt (hx : Alike x x') (hy : Alike y y') : Scalar.lt x y = Scalar.lt x' y' := by
  rw [Bool.eq_iff_iff, lt_iff, lt_iff, hx.data.compare_eq hy.data]

end Alike

end SolidScene.Double
