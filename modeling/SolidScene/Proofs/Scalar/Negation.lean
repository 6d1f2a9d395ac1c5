import SolidScene.Proofs.Scalar.Zeros

/-!
# Negation in double precision

Negation turns the sign and rounds nothing, so that turning it twice gives the number back, zeros
and infinities included. There is one value that is not a number, which stays what it is.
-/
namespace SolidScene.Double

open Float.Model (UnpackedFloat Format)

/-- The bits with the other sign are those of the negated value. -/
theorem neg_unpack {spec : Format} (b : BitVec spec.numBits) :
    (UnpackedFloat.unpack spec b).neg = UnpackedFloat.unpack spec
      (UnpackedFloat.packComponents spec (-.ofBitVec (UnpackedFloat.unpackSign b))
        (UnpackedFloat.unpackExponent b) (UnpackedFloat.unpackMantissa b)) := by
  simp only [UnpackedFloat.unpack, UnpackedFloat.unpackExponent_packComponents,
    UnpackedFloat.unpackMantissa_packComponents, UnpackedFloat.unpackSign_packComponents,
    UnpackedFloat.Sign.ofBitVec_toBitVec]
  split <;> split <;> try rfl
  split <;> rfl

theorem unpack_neg (x : Float) : (-x).toModel.unpack = x.toModel.unpack.neg := by
  change UnpackedFloat.unpack _ (UnpackedFloat.pack _ (UnpackedFloat.unpack _ _).neg) =
    (UnpackedFloat.unpack _ _).neg
  rw [neg_unpack, unpack_pack_unpack]

theorem neg_neg_unpacked (u : UnpackedFloat) : u.neg.neg = u := by
  have hsign (s : UnpackedFloat.Sign) : - -s = s := by cases s <;> rfl
  cases u <;> simp [UnpackedFloat.neg, hsign]

theorem neg_neg (x : Float) : - -x = x := by
  change Float.ofModel (.pack (-x).toModel.unpack.neg) = x
  rw [unpack_neg, neg_neg_unpacked]
  exact Float.ofBits_toBits x

end SolidScene.Double
