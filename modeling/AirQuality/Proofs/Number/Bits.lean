import AirQuality.Number.Nearest
import Mathlib

/-!
# Doubles and their bits

A double is known by its bits: the sign, eleven bits of the exponent and the fraction. The greatest
exponent field is that of what is not finite. A change of the sign changes the first bit and nothing
else.

## Key results

- `pack_mapSign_unpack`: a finite double that is unpacked and packed again
- `toBits_withSign`: the bits of a double from its sign and the bits of its magnitude
- `withSign_ofBits`: every finite double is one of these
-/

namespace AirQuality.Number

open Float.Model (Format UnpackedFloat)
open Float.Model.UnpackedFloat

/-! ## Unpacked doubles -/

/-- An unpacked double with its sign changed by a function. -/
def mapSign (f : Sign → Sign) : UnpackedFloat → UnpackedFloat
  | .notANumber => .notANumber
  | .infinity s => .infinity (f s)
  | .zero s => .zero (f s)
  | .finite s m e h => .finite (f s) m e h

private theorem mapSign_id (x : UnpackedFloat) : mapSign id x = x := by cases x <;> rfl

private theorem mapSign_neg (x : UnpackedFloat) : mapSign Neg.neg x = x.neg := by cases x <;> rfl

/-- A sign, an exponent field and a fraction, put together. -/
private theorem toNat_packComponents (s : Sign) (e : BitVec 11) (m : BitVec 52) :
    (packComponents Format.binary64 s e m).toNat =
      s.toBitVec.toNat * 2 ^ 63 + e.toNat * 2 ^ 52 + m.toNat := by
  -- Each field is shorter than the place that is left for it, so nothing overlaps.
  have := e.isLt
  have := m.isLt
  simp only [packComponents, BitVec.toNat_append]
  rw [← Nat.shiftLeft_add_eq_or_of_lt (by omega), ← Nat.shiftLeft_add_eq_or_of_lt (by omega)]
  simp only [Nat.shiftLeft_eq]
  omega

section Unpacked

variable (b : BitVec Format.binary64.numBits)

/-- The fraction is the last 52 bits. -/
theorem toNat_unpackMantissa : (unpackMantissa b).toNat = b.toNat % 2 ^ 52 := by
  simp [unpackMantissa, BitVec.extractLsb_toNat]

/-- The exponent field is the eleven bits in front of the fraction. -/
theorem toNat_unpackExponent : (unpackExponent b).toNat = b.toNat / 2 ^ 52 % 2 ^ 11 := by
  simp [unpackExponent, BitVec.extractLsb_toNat, Nat.shiftRight_eq_div_pow]

/-- The sign is the first bit. -/
theorem toNat_unpackSign : (unpackSign b).toNat = b.toNat / 2 ^ 63 := by
  have : b.toNat < 2 ^ 64 := b.isLt
  simp [unpackSign, BitVec.extractLsb_toNat, Nat.shiftRight_eq_div_pow]
  omega

/-- The greatest exponent field is that of what is not finite. -/
theorem isFinite_unpack_iff :
    (UnpackedFloat.unpack Format.binary64 b).isFinite = true ↔ unpackExponent b ≠ -1#11 := by
  unfold UnpackedFloat.unpack
  -- The last exponent field is that of NaN and of infinities, and any other one that of a number.
  by_cases last : unpackExponent b = -1#11
  · simp only [last, if_true]
    split <;> simp [isFinite]
  · simp only [last, if_false]
    split
    · split <;> exact ⟨fun _ => last, fun _ => rfl⟩
    · exact ⟨fun _ => last, fun _ => rfl⟩

/-- With another sign bit, the same is unpacked with another sign. -/
private theorem unpack_packComponents (f : Sign → Sign) :
    UnpackedFloat.unpack Format.binary64
      (packComponents Format.binary64 (f (Sign.ofBitVec (unpackSign b))) (unpackExponent b)
        (unpackMantissa b)) = mapSign f (UnpackedFloat.unpack Format.binary64 b) := by
  simp only [UnpackedFloat.unpack, unpackExponent_packComponents, unpackMantissa_packComponents,
    unpackSign_packComponents, Sign.ofBitVec_toBitVec]
  -- The same cases are told apart on both sides, and none of them looks at the sign.
  split
  · split <;> rfl
  · split
    · split <;> rfl
    · rfl

/-- A finite double is packed as it was, but for its sign if that is changed. -/
theorem pack_mapSign_unpack (finite : unpackExponent b ≠ -1#11) (f : Sign → Sign) :
    UnpackedFloat.pack Format.binary64 (mapSign f (UnpackedFloat.unpack Format.binary64 b)) =
      packComponents Format.binary64 (f (Sign.ofBitVec (unpackSign b))) (unpackExponent b)
        (unpackMantissa b) := by
  -- Packing undoes unpacking for all bits but those of NaN.
  rw [← unpack_packComponents, pack_unpack, if_neg]
  simp only [isNaNBits, unpackExponent_packComponents, decide_eq_true_eq]
  exact fun nan => finite nan.1

end Unpacked

/-! ## Doubles by their bits -/

/-- The exponent field of a double. -/
theorem isFinite_iff (x : Float) : x.isFinite = true ↔ x.toBits.toNat / 2 ^ 52 % 2 ^ 11 ≠ 2047 := by
  have field : (@unpackExponent Format.binary64 x.toBits.toBitVec).toNat =
      x.toBits.toNat / 2 ^ 52 % 2 ^ 11 := toNat_unpackExponent _
  refine (isFinite_unpack_iff x.toBits.toBitVec).trans (not_congr ?_)
  rw [← field, ← BitVec.toNat_inj]
  rfl

/-- The bits of a double from its sign and the bits of its magnitude. -/
theorem toBits_withSign {n : Nat} (finite : n < infinityBits) (negative : Bool) :
    (withSign negative (Float.ofBits n.toUInt64)).toBits.toNat =
      (if negative then 2 ^ 63 else 0) + n := by
  have below : n < 2047 * 2 ^ 52 := finite
  -- Bits below those of the infinity have no sign bit, and their exponent field is not the last.
  obtain ⟨b, bits⟩ : ∃ b : BitVec Format.binary64.numBits, n.toUInt64.toBitVec = b := ⟨_, rfl⟩
  have size : b.toNat = n := by
    rw [← bits]
    simp
    omega
  have notLast : unpackExponent b ≠ -1#11 := by
    intro last
    have field := toNat_unpackExponent b
    rw [last, size] at field
    simp at field
    omega
  have positive : unpackSign b = 0#1 := by
    apply BitVec.eq_of_toNat_eq
    rw [toNat_unpackSign, size]
    simp
    omega
  -- However the sign is changed, the bits of the magnitude are kept.
  have packed (f : Sign → Sign) :
      (UnpackedFloat.pack Format.binary64
        (mapSign f (UnpackedFloat.unpack Format.binary64 b))).toNat =
          (f .positive).toBitVec.toNat * 2 ^ 63 + n := by
    rw [pack_mapSign_unpack b notLast, toNat_packComponents, toNat_unpackExponent,
      toNat_unpackMantissa, size, positive]
    simp only [Sign.ofBitVec, if_true]
    omega
  -- Not changing the sign, in particular
  have same : UnpackedFloat.pack Format.binary64 (UnpackedFloat.unpack Format.binary64 b) = b := by
    apply BitVec.eq_of_toNat_eq
    rw [← mapSign_id (UnpackedFloat.unpack _ b), packed, size]
    simp [Sign.toBitVec]
  -- A sign is set by negating, so there is nothing to do without one.
  cases negative with
  | false =>
    change (UnpackedFloat.pack Format.binary64
      (UnpackedFloat.unpack Format.binary64 n.toUInt64.toBitVec)).toNat = _
    rw [bits, same, size]
    simp
  | true =>
    -- Negating unpacks and packs once more.
    change (UnpackedFloat.pack Format.binary64 (UnpackedFloat.neg
      (UnpackedFloat.unpack Format.binary64 (UnpackedFloat.pack Format.binary64
        (UnpackedFloat.unpack Format.binary64 n.toUInt64.toBitVec))))).toNat = _
    rw [bits, same, ← mapSign_neg, packed]
    rfl

/-- A finite double is known by its sign and the bits of its magnitude. -/
theorem withSign_ofBits {x : Float} (finite : x.isFinite = true) :
    withSign (decide (2 ^ 63 ≤ x.toBits.toNat)) (Float.ofBits (x.toBits.toNat % 2 ^ 63).toUInt64) =
      x := by
  -- The bits of a finite magnitude are below those of the infinity.
  have field := (isFinite_iff x).mp finite
  have size := x.toBits.toNat_lt
  have below : x.toBits.toNat % 2 ^ 63 < infinityBits := by
    change _ < 2047 * 2 ^ 52
    omega
  rw [← Float.toBits_inj, ← UInt64.toNat_inj, toBits_withSign below]
  simp only [decide_eq_true_eq]
  split <;> omega

end AirQuality.Number
