import AirQuality.Proofs.Number.Exact
import AirQuality.Proofs.Number.Narrowing

/-!
# Arithmetic of doubles

Sums, differences, products, halves and roots of doubles are taken of what is unpacked, and packed
again. A finite result that is not too large comes through the packing as it is, and a sign comes
through it in any case. A result that is rounded does not pass a double that lies above the exact
one.

## Key results

- `repacked_of_isUpTo`: what is not too large comes through the packing
- `isUpTo_mul_finite`, `isUpTo_half`, `isUpTo_sub`: bounds of a product, a half and a difference
- `isUnsigned_add`, `isUnsigned_mul`, `isUnsigned_sqrt`: results without a minus sign
-/

namespace AirQuality.Number

open Float.Model (Format UnpackedFloat totalExponent)
open Float.Model.UnpackedFloat

/-! ## Packed and unpacked again -/

/-- An unpacked double after it has been packed. -/
def repacked (x : UnpackedFloat) : UnpackedFloat :=
  UnpackedFloat.unpack .binary64 (UnpackedFloat.pack .binary64 x)

/-- The magnitude above all doubles. -/
def limit : Nat := units (2 ^ 52) 972

/-- Canonical magnitudes up to the greatest exponent are below the limit. -/
theorem IsCanonicalPair.units_lt_limit {m : Nat} {e : Int} (canonical : IsCanonicalPair m e)
    (high : e ≤ 971) : units m e < limit :=
  units_lt_of_exponent_lt canonical ⟨by decide, by decide, .inl le_rfl⟩ (Int.lt_add_one_of_le high)

/-- A canonical magnitude below the limit has the exponent of a double. -/
private theorem exponent_le_of_units_lt {m : Nat} {e : Int} (canonical : IsCanonicalPair m e)
    (less : units m e < limit) : e ≤ 971 := by
  have low := canonical.low
  -- A greater exponent with all bits of the mantissa would reach the limit.
  by_contra above
  have long : 2 ^ 52 ≤ m := canonical.full.resolve_right (by omega)
  refine absurd less (not_lt.mpr ?_)
  calc units (2 ^ 52) 972 ≤ units (2 ^ 52) e := units_le_of_exponent_le _ (by omega)
    _ ≤ units m e := units_le_of_mantissa_le long e

/-- The last exponent field is that of the greatest eleven bits. -/
private theorem ofNat_ne_last {n : Nat} (less : n + 1 < 2 ^ 11) : BitVec.ofNat 11 n ≠ -1#11 := by
  intro last
  have := congrArg BitVec.toNat last
  rw [BitVec.toNat_ofNat, Nat.mod_eq_of_lt (by omega)] at this
  simp at this
  omega

/-- A finite double in canonical form comes through the packing. -/
private theorem repacked_finite (s : Sign) {m : Nat} {e : Int} (pos : 0 < m)
    (canonical : IsCanonicalPair m e) (high : e ≤ 971) :
    repacked (.finite s m e pos) = .finite s m e pos := by
  have low := canonical.low
  have small := canonical.small
  have bias : ((Format.binary64.exponentBias : Nat) : Int) = 1023 := rfl
  have width : ((Format.binary64.mantissaBitsWithoutImplicit : Nat) : Int) = 52 := rfl
  have bits : Format.binary64.mantissaBits = 53 := rfl
  -- The exponent field is kept under a name, and the rest is arithmetic about it.
  obtain ⟨field, biased⟩ : ∃ n : Nat, (e + 1023 + 52).toNat = n := ⟨_, rfl⟩
  have unbiased : (field : Int) = e + 1075 := by omega
  have field_lt : field + 1 < 2 ^ 11 := by omega
  unfold repacked UnpackedFloat.pack
  simp only [bias, width, bits, biased]
  rw [if_neg (not_le.mpr field_lt)]
  -- A full mantissa hides its first bit, and a short one is that of a subnormal double.
  by_cases long : 2 ^ 52 ≤ m
  · have places : m.log2 = 52 := (Nat.log2_eq_iff pos.ne').mpr ⟨long, small⟩
    -- The field is at least one in the normal range.
    have notFirst : BitVec.ofNat 11 field ≠ 0#11 := by
      intro first
      have := congrArg BitVec.toNat first
      rw [BitVec.toNat_ofNat, Nat.mod_eq_of_lt (by omega)] at this
      simp at this
      omega
    rw [if_pos (by rw [places])]
    unfold UnpackedFloat.unpack
    simp only [unpackExponent_packComponents, unpackMantissa_packComponents,
      unpackSign_packComponents, Sign.ofBitVec_toBitVec, bias, width]
    rw [if_neg (ofNat_ne_last field_lt), if_neg notFirst]
    congr 1
    -- The hidden bit is added again.
    · rw [toNat_one_append, BitVec.toNat_ofNat]
      show 2 ^ 52 + m % 2 ^ 52 = m
      omega
    · rw [BitVec.toNat_ofNat, Nat.mod_eq_of_lt (by omega)]
      omega
  · have short : m < 2 ^ 52 := not_le.mp long
    -- A short mantissa is canonical at the least exponent only.
    have least : e = -1074 := canonical.full.resolve_left long
    have places : m.log2 < 52 := (Nat.log2_lt pos.ne').mpr short
    -- The fraction is not zero, so what is unpacked is not a zero.
    have some : BitVec.ofNat 52 m ≠ 0#52 := by
      intro none
      have := congrArg BitVec.toNat none
      rw [BitVec.toNat_ofNat, Nat.mod_eq_of_lt short] at this
      simp at this
      omega
    rw [if_neg (by omega)]
    unfold UnpackedFloat.unpack
    simp only [unpackExponent_packComponents, unpackMantissa_packComponents,
      unpackSign_packComponents, Sign.ofBitVec_toBitVec, bias, width]
    rw [if_neg (by decide), if_pos trivial, dif_neg some]
    congr 1
    · rw [BitVec.toNat_ofNat, Nat.mod_eq_of_lt short]
    · rw [least]
      rfl

/-- What is not too large comes through the packing. -/
theorem repacked_of_isUpTo {n : Nat} {x : UnpackedFloat} (upTo : IsUpTo n x) (less : n < limit) :
    repacked x = x := by
  cases upTo with
  | zero s => exact unpack_packedZero
  | finite s pos canonical le =>
    exact repacked_finite s pos canonical (exponent_le_of_units_lt canonical (le.trans_lt less))

/-- An unpacked double other than NaN that has no minus sign, as a zero may have one. -/
def IsUnsigned : UnpackedFloat → Prop
  | .notANumber => False
  | .infinity s => s = .positive
  | .zero s => s = .positive
  | .finite s _ _ _ => s = .positive

/-- A sign comes through the packing, even where the magnitude does not. -/
theorem isUnsigned_repacked {x : UnpackedFloat} (unsigned : IsUnsigned x) :
    IsUnsigned (repacked x) := by
  cases x with
  | notANumber => cases unsigned
  | infinity s =>
    obtain rfl := unsigned
    rfl
  | zero s =>
    obtain rfl := unsigned
    rfl
  | finite s m e pos =>
    obtain rfl := unsigned
    have bias : ((Format.binary64.exponentBias : Nat) : Int) = 1023 := rfl
    have width : ((Format.binary64.mantissaBitsWithoutImplicit : Nat) : Int) = 52 := rfl
    unfold repacked UnpackedFloat.pack
    simp only [bias, width]
    -- A magnitude that is too large becomes an infinity, with the sign that it has.
    split
    · rfl
    · rename_i fits
      -- An exponent that fits has not the last field, so a number is unpacked.
      have notLast : BitVec.ofNat 11 (e + 1023 + 52).toNat ≠ -1#11 := ofNat_ne_last (by omega)
      split
      · unfold UnpackedFloat.unpack
        simp only [unpackExponent_packComponents, unpackMantissa_packComponents,
          unpackSign_packComponents, Sign.ofBitVec_toBitVec]
        rw [if_neg notLast]
        split
        · split <;> rfl
        · rfl
      · unfold UnpackedFloat.unpack
        simp only [unpackExponent_packComponents, unpackMantissa_packComponents,
          unpackSign_packComponents, Sign.ofBitVec_toBitVec]
        rw [if_neg (by decide), if_pos trivial]
        split <;> rfl

/-! ## Bounds of results -/

/-- The unit of magnitudes is the least positive double. -/
private theorem cast_units (m : Nat) {e : Int} (low : -1074 ≤ e) :
    ((units m e : Nat) : ℚ) = m * 2 ^ e * 2 ^ (1074 : Int) := by
  -- The exponent counts from that of the least double.
  obtain ⟨k, shift⟩ : ∃ k : Nat, e + 1074 = k := ⟨(e + 1074).toNat, by omega⟩
  rw [units, shift, Int.toNat_natCast, mul_assoc, ← zpow_add₀ two_ne_zero, shift, zpow_natCast]
  push_cast
  rfl

/-- Magnitudes are ordered as what they count is. -/
theorem mul_zpow_le {m m' : Nat} {e e' : Int} (low : -1074 ≤ e) (low' : -1074 ≤ e')
    (le : units m e ≤ units m' e') : (m : ℚ) * 2 ^ e ≤ m' * 2 ^ e' := by
  have cast : ((units m e : Nat) : ℚ) ≤ (units m' e' : Nat) := by exact_mod_cast le
  rw [cast_units m low, cast_units m' low'] at cast
  exact le_of_mul_le_mul_right cast (by positivity)

/-- A magnitude lies below the midpoint to the next one. -/
private theorem lt_midpoint (m : Nat) (e : Int) : (m : ℚ) * 2 ^ e < (m + 1 / 2) * 2 ^ e := by
  have unit : (0 : ℚ) < 2 ^ e := by positivity
  apply mul_lt_mul_of_pos_right _ unit
  linarith

/-- A bound may be raised. -/
theorem IsUpTo.mono {n n' : Nat} {x : UnpackedFloat} (h : IsUpTo n x) (le : n ≤ n') :
    IsUpTo n' x := by
  cases h with
  | zero s => exact .zero s
  | finite s pos canonical le' => exact .finite s pos canonical (le'.trans le)

/-- Unless both factors are very small, their product has bits to spare. -/
private theorem IsCanonicalPair.spare_mul {m m' : Nat} {e e' : Int}
    (canonical : IsCanonicalPair m e) (pos : 0 < m) (pos' : 0 < m') (nonpos : e' ≤ 0) :
    e + e' ≤ lastBit ((m * m').log2 + (e + e')) := by
  unfold lastBit
  -- A full mantissa makes the product at least as long; the least exponent is that of rounding.
  rcases canonical.full with long | least
  · have : 52 ≤ (m * m').log2 :=
      (Nat.le_log2 (Nat.mul_pos pos pos').ne').mpr (long.trans (Nat.le_mul_of_pos_right m pos'))
    omega
  · omega

/-- A product below the upper midpoint of a canonical magnitude is rounded to at most this
magnitude. -/
theorem isUpTo_mul_finite (s s' : Sign) {m m' : Nat} {e e' : Int} (pos : 0 < m) (pos' : 0 < m')
    (factor : IsCanonicalPair m e) (nonpos : e' ≤ 0) {M : Nat} {E : Int}
    (canonical : IsCanonicalPair M E)
    (below : (m : ℚ) * 2 ^ e * (m' * 2 ^ e') < (M + 1 / 2) * 2 ^ E) :
    IsUpTo (units M E)
      ((UnpackedFloat.finite s m e pos).mul .binary64 (.finite s' m' e' pos')) := by
  -- The exact product is rounded, with its accuracy to spare.
  apply isUpTo_roundWithAccuracy (Describes.exact (m * m')) (factor.spare_mul pos pos' nonpos)
    canonical
  calc ((m * m' : Nat) : ℚ) * 2 ^ (e + e') = m * 2 ^ e * (m' * 2 ^ e') := by
        rw [zpow_add₀ two_ne_zero]
        push_cast
        ring
    _ < (M + 1 / 2) * 2 ^ E := below

/-- What is no more than one does not make a product greater. -/
theorem isUpTo_mul {n : Nat} {x y : UnpackedFloat} (hx : IsUpTo n x) (hy : IsUpTo scale y) :
    IsUpTo n (x.mul .binary64 y) := by
  -- With zero as a factor the product is zero.
  cases hx with
  | zero s => cases hy <;> exact .zero _
  | @finite s m e pos canonical le =>
    cases hy with
    | zero s' => exact .zero _
    | @finite s' m' e' pos' canonical' le' =>
      -- The second factor is at most one, and so is its exponent at most zero.
      have one : (m' : ℚ) * 2 ^ e' ≤ 1 := by
        have least : (-1074 : Int) ≤ 0 := by decide
        simpa using mul_zpow_le canonical'.low least (le' : units m' e' ≤ units 1 0)
      have nonpos : e' ≤ 0 := by
        by_contra above
        have more : (1 : ℚ) < 2 ^ e' := one_lt_zpow₀ one_lt_two (not_le.mp above)
        have some : (1 : ℚ) ≤ m' := by exact_mod_cast pos'
        have larger : (2 : ℚ) ^ e' ≤ m' * 2 ^ e' := le_mul_of_one_le_left (by positivity) some
        exact absurd one (not_le.mpr (more.trans_le larger))
      have below : (m : ℚ) * 2 ^ e * (m' * 2 ^ e') < (m + 1 / 2) * 2 ^ e :=
        (mul_le_of_le_one_right (by positivity) one).trans_lt (lt_midpoint m e)
      -- The first factor is canonical itself, so it bounds the rounded product.
      exact (isUpTo_mul_finite s s' pos pos' canonical nonpos canonical below).mono le

/-- Two, as it is unpacked. -/
theorem unpack_two :
    (2.0 : Float).toModel.unpack = .finite .positive (2 ^ 52) (-51) (by decide) := by
  rfl

/-- A quotient by two has the bits of a double, or one to spare. -/
private theorem divCore_two (m : Nat) (e : Int) :
    ∃ t k, min (e + 51) (lastBit (m.log2 + e - 2)) = t ∧ e + 51 = t + (k : Nat) ∧
      divCore .binary64 m e (2 ^ 52) (-51) =
        (m * 2 ^ k / 2 ^ 52, t, accuracyOfFraction (m * 2 ^ k % 2 ^ 52) (2 ^ 52)) := by
  have room : (Format.binary64.mantissaBits : Int) = 53 := rfl
  have least : Format.binary64.minExponent = -1074 := rfl
  have target : Format.binary64.targetExponent (totalExponent m e - totalExponent (2 ^ 52) (-51)) =
      lastBit (m.log2 + e - 2) := by
    rw [Format.targetExponent, totalExponent, totalExponent, Nat.log2_two_pow, room, least, lastBit]
    congr 1
    omega
  -- The target exponent and the shift are kept under names.
  obtain ⟨t, ht⟩ : ∃ t, min (e + 51) (lastBit (m.log2 + e - 2)) = t := ⟨_, rfl⟩
  obtain ⟨k, shift⟩ : ∃ k : Nat, e + 51 = t + k := ⟨(e + 51 - t).toNat, by omega⟩
  refine ⟨t, k, ht, shift, ?_⟩
  have places : (e + 51 - t).toNat = k := by omega
  rw [divCore]
  simp only [target, sub_neg_eq_add, ht, places, Nat.shiftLeft_eq]

/-- A quotient by two is given at least the bits that it is rounded to. -/
private theorem spare_half {m : Nat} {e t : Int} {k : Nat} (pos : 0 < m)
    (ht : min (e + 51) (lastBit (m.log2 + e - 2)) = t) (shift : e + 51 = t + k) :
    t ≤ lastBit ((m * 2 ^ k / 2 ^ 52).log2 + t) := by
  -- Subnormal quotients have no bits to spare and need none.
  by_cases least : t ≤ -1074
  · exact least.trans (le_max_right _ _)
  · have long : 104 ≤ m.log2 + k := by
      unfold lastBit at ht
      omega
    have quotient : 2 ^ 52 ≤ m * 2 ^ k / 2 ^ 52 := by
      rw [Nat.le_div_iff_mul_le (Nat.two_pow_pos _), ← Nat.pow_add]
      calc 2 ^ (52 + 52) ≤ 2 ^ (m.log2 + k) := Nat.pow_le_pow_right two_pos long
        _ = 2 ^ m.log2 * 2 ^ k := Nat.pow_add ..
        _ ≤ m * 2 ^ k := Nat.mul_le_mul_right _ (Nat.log2_self_le pos.ne')
    have : 52 ≤ (m * 2 ^ k / 2 ^ 52).log2 :=
      (Nat.le_log2 (by have := Nat.two_pow_pos 52; omega)).mpr quotient
    unfold lastBit
    omega

/-- A half is not more than the whole. -/
theorem isUpTo_half {n : Nat} {x : UnpackedFloat} (hx : IsUpTo n x) :
    IsUpTo n (x.div .binary64 (2.0 : Float).toModel.unpack) := by
  rw [unpack_two]
  cases hx with
  | zero s => exact .zero _
  | @finite s m e pos canonical le =>
    -- The quotient is taken apart into a mantissa, an exponent and the rest.
    obtain ⟨t, k, ht, shift, core⟩ := divCore_two m e
    rw [div, core]
    have fraction := Describes.fraction (m * 2 ^ k) (Nat.two_pow_pos 52)
    refine (isUpTo_roundWithAccuracy fraction (spare_half pos ht shift) canonical ?_ _).mono le
    have unit : (0 : ℚ) < 2 ^ e := by positivity
    -- The shift in the dividend makes up for that of the exponent.
    have scaled : (2 : ℚ) ^ (k : Int) * 2 ^ t = 2 ^ (51 : Int) * 2 ^ e := by
      rw [← zpow_add₀ two_ne_zero, ← zpow_add₀ two_ne_zero]
      congr 1
      omega
    calc ((m * 2 ^ k : Nat) : ℚ) / (2 ^ 52 : Nat) * 2 ^ t
        = m * ((2 : ℚ) ^ (k : Int) * 2 ^ t) / 2 ^ 52 := by
          push_cast
          rw [zpow_natCast]
          ring
      _ = m * 2 ^ e / 2 := by
          rw [scaled]
          norm_num
          ring
      _ ≤ m * 2 ^ e := half_le_self (by positivity)
      _ < (m + 1 / 2) * 2 ^ e := lt_midpoint m e

/-! ## Differences -/

/-- Magnitudes of one exponent are added by their mantissas. -/
theorem units_add (m m' : Nat) (e : Int) : units (m + m') e = units m e + units m' e :=
  Nat.add_mul ..

/-- A mantissa at a lower exponent. -/
theorem units_decrease (m : Nat) {e t : Int} (low : -1074 ≤ t) (le : t ≤ e) :
    units (m * 2 ^ (e - t).toNat) t = units m e := by
  have split : (e + 1074).toNat = (e - t).toNat + (t + 1074).toNat := by omega
  rw [units, units, split, Nat.pow_add, Nat.mul_assoc]

/-- What is rounded stays below a canonical magnitude if it is below its upper midpoint. -/
private theorem isUpTo_round (s : Sign) {m : Nat} (pos : 0 < m) {e : Int} {M : Nat} {E : Int}
    (canonical : IsCanonicalPair M E) (below : (m : ℚ) * 2 ^ e < (M + 1 / 2) * 2 ^ E) :
    IsUpTo (units M E) (UnpackedFloat.round .binary64 s m e) := by
  obtain ⟨k, hk⟩ : ∃ k : Nat, (e - lastBit (m.log2 + e)).toNat = k := ⟨_, rfl⟩
  -- Shifting left first does not change the magnitude, so it can be rounded exactly.
  have round_eq : UnpackedFloat.round .binary64 s m e =
      roundWithAccuracy .binary64 s (m * 2 ^ k) (e - k) .exact := by
    rw [UnpackedFloat.round, targetExponent_eq]
    simp only [decreaseExponent, hk, Nat.shiftLeft_eq]
  -- The shift adds as many bits.
  have log2_eq : (m * 2 ^ k).log2 = m.log2 + k := by
    have whole : m * 2 ^ k ≠ 0 := (Nat.mul_pos pos (Nat.two_pow_pos k)).ne'
    rw [Nat.log2_eq_iff whole, Nat.pow_add, Nat.add_right_comm, Nat.pow_add]
    exact ⟨Nat.mul_le_mul_right _ (Nat.log2_self_le pos.ne'),
      Nat.mul_lt_mul_of_pos_right Nat.lt_log2_self (Nat.two_pow_pos k)⟩
  have spare : e - k ≤ lastBit ((m * 2 ^ k).log2 + (e - k)) := by
    rw [log2_eq]
    have : ((m.log2 + k : Nat) : Int) + (e - k) = m.log2 + e := by
      push_cast
      omega
    rw [this]
    omega
  rw [round_eq]
  apply isUpTo_roundWithAccuracy (Describes.exact (m * 2 ^ k)) spare canonical
  calc ((m * 2 ^ k : Nat) : ℚ) * 2 ^ (e - k : Int) = m * 2 ^ e := by
        rw [zpow_sub₀ two_ne_zero, zpow_natCast]
        push_cast
        field_simp
    _ < (M + 1 / 2) * 2 ^ E := below

/-- The same of a signed integer, whose sign is set aside before it is rounded. -/
private theorem isUpTo_normalize {z : Int} {e : Int} (s : Sign) {M : Nat} {E : Int}
    (canonical : IsCanonicalPair M E) (below : (z.natAbs : ℚ) * 2 ^ e < (M + 1 / 2) * 2 ^ E) :
    IsUpTo (units M E) (UnpackedFloat.normalize .binary64 z e s) := by
  unfold UnpackedFloat.normalize
  -- The sign decides which of two opposite integers is rounded.
  rcases lt_trichotomy z 0 with negative | rfl | positive
  · have magnitude : (-z).toNat = z.natAbs := by omega
    rw [Int.compare_eq_lt.mpr negative]
    simp only [magnitude]
    exact isUpTo_round _ (by omega) canonical below
  · exact .zero s
  · have magnitude : z.toNat = z.natAbs := by omega
    rw [Int.compare_eq_gt.mpr positive]
    simp only [magnitude]
    exact isUpTo_round _ (by omega) canonical below

/-- Whatever the signs are, a difference is at most the sum of the magnitudes. -/
private theorem natAbs_apply_sub_le (s s' : Sign) (m m' : Nat) :
    (s.apply m - s'.apply m').natAbs ≤ m + m' := by
  cases s <;> cases s' <;> simp only [Sign.apply] <;> omega

/-- A bound does not depend on the sign. -/
theorem isUpTo_neg {n : Nat} {x : UnpackedFloat} (h : IsUpTo n x) : IsUpTo n x.neg := by
  cases h with
  | zero s => exact .zero _
  | finite s pos canonical le => exact .finite _ pos canonical le

/-- The opposite sign gives the opposite integer. -/
private theorem apply_neg (s : Sign) (k : Int) : (-s).apply k = -s.apply k := by
  cases s with
  | negative => exact (neg_neg k).symm
  | positive => rfl

/-- A sum is the difference to the negative. -/
theorem add_eq_sub_neg (x y : UnpackedFloat) :
    x.add .binary64 y = x.sub .binary64 y.neg := by
  -- The cases of subtraction, each with the sign of the second one turned round
  cases x with
  | notANumber => rfl
  | infinity s =>
    cases y with
    | infinity s' => cases s <;> cases s' <;> rfl
    | _ => rfl
  | zero s =>
    cases y with
    | zero s' => cases s <;> cases s' <;> rfl
    | infinity s' => cases s' <;> rfl
    | finite s' m' e' pos' => cases s' <;> rfl
    | notANumber => rfl
  | finite s m e pos =>
    cases y with
    | finite s' m' e' pos' => simp only [add, sub, neg, apply_neg, sub_neg_eq_add]
    | infinity s' => cases s' <;> rfl
    | _ => rfl

/-- A difference is bounded by the sum of the bounds, as far as that is not rounded up. -/
theorem isUpTo_sub {a b : Nat} {x y : UnpackedFloat} (hx : IsUpTo a x) (hy : IsUpTo b y) {M : Nat}
    {E : Int} (canonical : IsCanonicalPair M E) (ha : a ≤ units M E) (hb : b ≤ units M E)
    (below : 2 * (a + b) < units (2 * M + 1) E) : IsUpTo (units M E) (x.sub .binary64 y) := by
  -- A difference to zero is one of the two, up to the sign.
  cases hx with
  | zero s =>
    cases hy with
    | zero s' => cases s <;> cases s' <;> exact .zero _
    | finite s' pos' canonical' le' => exact .finite _ pos' canonical' (le'.trans hb)
  | @finite s m e pos canonicalX le =>
    cases hy with
    | zero s' => exact .finite _ pos canonicalX (le.trans ha)
    | @finite s' m' e' pos' canonicalY le' =>
      -- Both mantissas are brought to the lower exponent, where the difference is taken.
      have low : -1074 ≤ min e e' := le_min canonicalX.low canonicalY.low
      simp only [sub, decreaseExponent, Nat.shiftLeft_eq]
      generalize ht : min e e' = t at *
      have same := units_decrease m low (ht ▸ min_le_left e e')
      have same' := units_decrease m' low (ht ▸ min_le_right e e')
      generalize m * 2 ^ (e - t).toNat = n at *
      generalize m' * 2 ^ (e' - t).toNat = n' at *
      apply isUpTo_normalize .positive canonical
      have size := natAbs_apply_sub_le s s' n n'
      generalize (s.apply n - s'.apply n').natAbs = z at *
      -- The doubled magnitude avoids the half of the midpoint among natural numbers.
      have magnitude : 2 * units z t < units (2 * M + 1) E := by
        refine lt_of_le_of_lt ?_ below
        have sum := units_add n n' t
        have : units z t ≤ units (n + n') t := units_le_of_mantissa_le size t
        omega
      -- Both sides are taken to the rationals, where the scale is divided out.
      have cast : ((2 * units z t : Nat) : ℚ) < (units (2 * M + 1) E : Nat) := by
        exact_mod_cast magnitude
      rw [Nat.cast_mul, cast_units z low, cast_units _ canonical.low] at cast
      have unit : (0 : ℚ) < 2 ^ (1074 : Int) := by positivity
      generalize (2 : ℚ) ^ (1074 : Int) = u at *
      push_cast at cast
      have scaled : (z : ℚ) * 2 ^ t * u < (M + 1 / 2) * 2 ^ E * u := by linarith only [cast]
      exact lt_of_mul_lt_mul_right scaled unit.le

/-! ## Signs of results -/

/-- Rounding keeps the sign. -/
private theorem isUnsigned_roundWithAccuracy (m : Nat) (e : Int) (a : Accuracy) :
    IsUnsigned (roundWithAccuracy .binary64 .positive m e a) := by
  simp only [roundWithAccuracy]
  split <;> rfl

/-- A sum of unsigned summands is unsigned, and in particular no NaN. -/
theorem isUnsigned_add {x y : UnpackedFloat} (hx : IsUnsigned x) (hy : IsUnsigned y) :
    IsUnsigned (x.add .binary64 y) := by
  -- An infinity is greater than any finite summand, and both have the same sign.
  cases x with
  | notANumber => cases hx
  | infinity s =>
    obtain rfl := hx
    cases y with
    | notANumber => cases hy
    | infinity s' =>
      obtain rfl := hy
      rfl
    | zero s' => rfl
    | finite s' m' e' pos' => rfl
  | zero s =>
    obtain rfl := hx
    cases y with
    | notANumber => cases hy
    | infinity s' => exact hy
    | zero s' =>
      obtain rfl := hy
      rfl
    | finite s' m' e' pos' => exact hy
  | finite s m e pos =>
    obtain rfl := hx
    cases y with
    | notANumber => cases hy
    | infinity s' => exact hy
    | zero s' => rfl
    | finite s' m' e' pos' =>
      obtain rfl := hy
      -- The sum of two natural numbers is zero, without a sign, or positive.
      simp only [add, decreaseExponent, Sign.apply]
      generalize m <<< (e - min e e').toNat = n
      generalize m' <<< (e' - min e e').toNat = n'
      unfold UnpackedFloat.normalize
      rcases Int.lt_or_eq_of_le (show (0 : Int) ≤ n + n' by omega) with positive | zero
      · rw [Int.compare_eq_gt.mpr positive]
        exact isUnsigned_roundWithAccuracy _ _ _
      · rw [← zero]
        rfl

/-- A positive factor does not change what the sign is. -/
theorem isUnsigned_finite_mul {m : Nat} (e : Int) (pos : 0 < m) {y : UnpackedFloat}
    (hy : IsUnsigned y) :
    IsUnsigned ((UnpackedFloat.finite .positive m e pos).mul .binary64 y) := by
  -- Infinities and zeros keep their sign, and a finite double is rounded.
  cases y with
  | notANumber => cases hy
  | infinity s =>
    obtain rfl := hy
    rfl
  | zero s =>
    obtain rfl := hy
    rfl
  | finite s m' e' pos' =>
    obtain rfl := hy
    exact isUnsigned_roundWithAccuracy _ _ _

/-- No product of finite doubles is NaN. -/
theorem isUnsigned_mul {x y : UnpackedFloat} (hx : IsUnsigned x) (hy : IsUnsigned y) {n n' : Nat}
    (upTo : IsUpTo n x) (upTo' : IsUpTo n' y) : IsUnsigned (x.mul .binary64 y) := by
  -- Neither is infinite, so a zero meets no infinity.
  cases upTo with
  | zero s =>
    obtain rfl := hx
    cases upTo' with
    | zero s' =>
      obtain rfl := hy
      rfl
    | finite s' pos' canonical' le' =>
      obtain rfl := hy
      rfl
  | finite s pos canonical le =>
    obtain rfl := hx
    exact isUnsigned_finite_mul _ pos hy

/-- A root of an unsigned double is unsigned, and in particular no NaN. -/
theorem isUnsigned_sqrt {x : UnpackedFloat} (hx : IsUnsigned x) :
    IsUnsigned (x.sqrt .binary64) := by
  cases x with
  | notANumber => cases hx
  | infinity s =>
    obtain rfl := hx
    rfl
  | zero s => exact hx
  | finite s m e pos =>
    obtain rfl := hx
    exact isUnsigned_roundWithAccuracy _ _ _

end AirQuality.Number
