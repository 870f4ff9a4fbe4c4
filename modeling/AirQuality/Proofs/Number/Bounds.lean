import AirQuality.Proofs.Number.Arithmetic

/-!
# Bounded doubles

What is proved of unpacked doubles, said of doubles themselves: a bound of the magnitude as a lower
and an upper bound, and no minus sign as not being negative and not being the negative zero.

## Key results

- `upTo_iff_between`: a bounded double lies between a bound and its negative
- `UpTo.mul`, `UpTo.half`, `UpTo.sub_small`, `UpTo.add_small`: results that stay bounded
- `unsigned_iff`: what a double without a minus sign is
- `isFinite_of_mul`, `number_of_add` and others: what results say of operands
- `exists_toFloat?`: small numbers are bounded doubles
-/

namespace AirQuality.Number

open Float.Model (Format UnpackedFloat)
open Float.Model.UnpackedFloat

/-! ## Operations -/

section Operations

variable (x y : Float)

private theorem unpack_add : (x + y).toModel.unpack =
    repacked (x.toModel.unpack.add .binary64 y.toModel.unpack) := rfl

private theorem unpack_sub : (x - y).toModel.unpack =
    repacked (x.toModel.unpack.sub .binary64 y.toModel.unpack) := rfl

/-- A product of doubles is unpacked to the product of what they are unpacked to. -/
theorem unpack_mul : (x * y).toModel.unpack =
    repacked (x.toModel.unpack.mul .binary64 y.toModel.unpack) := rfl

private theorem unpack_div : (x / y).toModel.unpack =
    repacked (x.toModel.unpack.div .binary64 y.toModel.unpack) := rfl

private theorem unpack_sqrt :
    x.sqrt.toModel.unpack = repacked (x.toModel.unpack.sqrt .binary64) := rfl

end Operations

/-! ## Bounds -/

/-- A finite double that is not greater than a magnitude, whatever its sign is. -/
def UpTo (n : Nat) (x : Float) : Prop := IsUpTo n x.toModel.unpack

/-- A double is bounded if it has an integer value, in units of the least double, that is. -/
theorem upTo_iff {n : Nat} {x : Float} :
    UpTo n x ↔ x.isNaN = false ∧ ∃ k : ℤ, value x = .ofInt k ∧ k.natAbs ≤ n := by
  -- Both sides speak of the same unpacked double, so the cases can be those of its form.
  show IsUpTo n x.toModel.unpack ↔
    x.toModel.unpack.isNaN = false ∧ ∃ k : ℤ, unpackedValue x.toModel.unpack = .ofInt k ∧ _
  have canonical : IsCanonical x.toModel.unpack := isCanonical_unpack _
  generalize x.toModel.unpack = u at *
  have natAbs_apply (s : Sign) (m : Nat) : (s.apply m).natAbs = m := by
    cases s <;> simp [Sign.apply]
  constructor
  · intro upTo
    cases upTo with
    | zero s => exact ⟨rfl, 0, rfl, Nat.zero_le n⟩
    | @finite s m e pos canonical le =>
      exact ⟨rfl, s.apply (units m e), rfl, (natAbs_apply s _).trans_le le⟩
  · rintro ⟨number, k, found, le⟩
    -- NaN is excluded, and an infinity has no integer value.
    cases u with
    | notANumber => cases number
    | infinity s => cases s <;> cases found
    | zero s => exact .zero s
    | finite s m e pos =>
      obtain rfl := Extended.ofInt_inj.mp found
      rw [natAbs_apply] at le
      exact .finite s pos canonical le

namespace UpTo

variable {n : Nat} {x : Float}

/-- A bounded double is a number. -/
theorem isNaN (h : UpTo n x) : x.isNaN = false := (upTo_iff.mp h).1

/-- A bounded double is no infinity. -/
theorem isInf (h : UpTo n x) : x.isInf = false := by
  show x.toModel.unpack.isInf = false
  have h : IsUpTo n x.toModel.unpack := h
  generalize x.toModel.unpack = u at *
  cases h <;> rfl

/-- A bounded double is finite. -/
theorem isFinite (h : UpTo n x) : x.isFinite = true := by
  show x.toModel.unpack.isFinite = true
  have h : IsUpTo n x.toModel.unpack := h
  generalize x.toModel.unpack = u at *
  cases h <;> rfl

end UpTo

/-- The greatest finite double. -/
def greatestMantissa : Nat := 2 ^ 53 - 1

private theorem isCanonicalPair_greatest : IsCanonicalPair greatestMantissa 971 :=
  ⟨by decide, by decide, .inl (by decide)⟩

/-- The greatest double lies below the magnitude at which doubles become infinite. -/
theorem greatest_lt_limit : units greatestMantissa 971 < limit :=
  isCanonicalPair_greatest.units_lt_limit le_rfl

/-- Every finite double is bounded. -/
theorem upTo_of_isFinite {x : Float} (finite : x.isFinite = true) :
    UpTo (units greatestMantissa 971) x := by
  obtain ⟨d, apart, double, _⟩ := Dyadic.ofFloat?_eq finite
  have number : x.isNaN = false := by
    change x.toModel.unpack.isFinite = true at finite
    show x.toModel.unpack.isNaN = false
    cases unpacked : x.toModel.unpack with
    | notANumber => simp [unpacked, UnpackedFloat.isFinite] at finite
    | infinity s => rfl
    | zero s => rfl
    | finite s m e pos => rfl
  have value_eq := value_of_ofFloat? apart
  refine upTo_iff.mpr ⟨number, _, value_eq, ?_⟩
  -- A finite double has at most 53 bits, and its exponent is at most that of the greatest one.
  have bounded : units d.mantissa d.exponent ≤ units greatestMantissa 971 :=
    (units_le_of_mantissa_le (Nat.le_pred_of_lt double.mantissa_lt) _).trans
      (units_le_of_exponent_le _ double.greatest)
  split
  · rw [Int.natAbs_neg]
    exact bounded
  · exact bounded

private theorem Extended.ofInt_le_ofInt {a b : ℤ} : ofInt a ≤ ofInt b ↔ a ≤ b :=
  WithBot.coe_le_coe.trans WithTop.coe_le_coe

/-- What lies between two opposite integers is an integer. -/
private theorem Extended.exists_of_between {v : Extended} {n : Nat} (low : ofInt (-n) ≤ v)
    (high : v ≤ ofInt n) : ∃ k : ℤ, v = ofInt k ∧ k.natAbs ≤ n := by
  -- An extended integer is minus infinity, plus infinity or an integer.
  cases v using WithBot.recBotCoe with
  | bot => exact absurd low (not_le.mpr (Extended.bot_lt_ofInt _))
  | coe v =>
    cases v using WithTop.recTopCoe with
    | top => exact absurd high (not_le.mpr (Extended.ofInt_lt_top _))
    | coe k =>
      have low : -(n : ℤ) ≤ k := Extended.ofInt_le_ofInt.mp low
      have high : k ≤ n := Extended.ofInt_le_ofInt.mp high
      exact ⟨k, rfl, by omega⟩

/-- A number between two opposite integers is bounded. -/
theorem upTo_of_between {x : Float} {n : Nat} (low : Number.le (.int (-n)) (.float x) = true)
    (high : Number.le (.float x) (.int n) = true) : UpTo (n * scale) x := by
  have number : (Number.float x).isNaN = false := (isNaN_of_le low).2
  have low : exact (.int (-n)) ≤ value x := (le_iff_exact rfl number).mp low
  have high : value x ≤ exact (.int n) := (le_iff_exact number rfl).mp high
  -- Both bounds in units of the least double
  rw [exact, neg_mul] at low
  obtain ⟨k, found, le⟩ := Extended.exists_of_between (n := n * scale)
    (by exact_mod_cast low) (by exact_mod_cast high)
  exact upTo_iff.mpr ⟨number, k, found, le⟩

private theorem le_iff_value {x y : Float} (hx : x.isNaN = false) (hy : y.isNaN = false) :
    x ≤ y ↔ value x ≤ value y := by
  have ordered : (Number.float x).le (.float y) = true ↔ value x ≤ value y := le_iff_exact hx hy
  rw [← ordered]
  exact decide_eq_true_iff.symm

private theorem isNaN_zero : (0.0 : Float).isNaN = false := by
  rfl

private theorem value_zero : value 0.0 = .ofInt 0 := by
  rfl

/-- A number is not negative if its value is not. -/
theorem nonneg_iff {x : Float} (number : x.isNaN = false) : 0.0 ≤ x ↔ .ofInt 0 ≤ value x := by
  rw [le_iff_value isNaN_zero number, value_zero]

/-- What is compared with `≤` and found to hold is no NaN. -/
theorem isNaN_of_le_float {x y : Float} (le : x ≤ y) : x.isNaN = false ∧ y.isNaN = false := by
  have ordered : (Number.float x).le (.float y) = true := decide_eq_true le
  exact isNaN_of_le ordered

private theorem value_neg {n : Nat} {x : Float} (h : UpTo n x) (less : n < limit) {k : ℤ}
    (found : value x = .ofInt k) : (-x).isNaN = false ∧ value (-x) = .ofInt (-k) := by
  -- The negative of a bounded double is not rounded.
  have negated : (-x).toModel.unpack = x.toModel.unpack.neg :=
    repacked_of_isUpTo (isUpTo_neg h) less
  change unpackedValue x.toModel.unpack = _ at found
  show (-x).toModel.unpack.isNaN = false ∧ unpackedValue (-x).toModel.unpack = _
  rw [negated]
  have h : IsUpTo n x.toModel.unpack := h
  generalize x.toModel.unpack = u at *
  cases h with
  | zero s =>
    obtain rfl := Extended.ofInt_inj.mp found
    exact ⟨rfl, rfl⟩
  | @finite s m e pos canonical le =>
    obtain rfl := Extended.ofInt_inj.mp found
    cases s with
    | negative => exact ⟨rfl, congrArg Extended.ofInt (neg_neg _).symm⟩
    | positive => exact ⟨rfl, rfl⟩

/-- A double is bounded by the magnitude of another one if it lies between this one and its
negative. -/
theorem upTo_iff_between {x b : Float} {n : Nat} (number : b.isNaN = false)
    (bound : value b = .ofInt n) (less : n < limit) : UpTo n x ↔ -b ≤ x ∧ x ≤ b := by
  have upTo : UpTo n b := upTo_iff.mpr ⟨number, n, bound, le_rfl⟩
  obtain ⟨number', bound'⟩ := value_neg upTo less bound
  constructor
  -- A bounded double lies between
  · intro h
    obtain ⟨numberX, k, found, le⟩ := upTo_iff.mp h
    rw [le_iff_value number' numberX, le_iff_value numberX number, bound, bound', found,
      Extended.ofInt_le_ofInt, Extended.ofInt_le_ofInt]
    omega
  -- What lies between is bounded, as nothing between two integers is infinite.
  · rintro ⟨low, high⟩
    have numberX := (isNaN_of_le_float high).1
    rw [le_iff_value number' numberX, bound'] at low
    rw [le_iff_value numberX number, bound] at high
    obtain ⟨k, found, le⟩ := Extended.exists_of_between low high
    exact upTo_iff.mpr ⟨numberX, k, found, le⟩

/-! ## Doubles without a sign -/

/-- A double other than NaN without a minus sign, as a zero may have one. -/
def Unsigned (x : Float) : Prop := 0.0 ≤ x ∧ x ≠ -0.0

private theorem eq_of_unpack_eq {x y : Float} (same : x.toModel.unpack = y.toModel.unpack) :
    x = y :=
  Float.toBits_inj.mp (UInt64.toBitVec_inj.mp
    ((unpack_inj_of_valid x.toModel.valid y.toModel.valid).mp same))

/-- A double has no minus sign if what it is unpacked to has none. -/
theorem unsigned_iff {x : Float} : Unsigned x ↔ IsUnsigned x.toModel.unpack := by
  constructor
  · rintro ⟨le, other⟩
    have number : x.toModel.unpack.isNaN = false := (isNaN_of_le_float le).2
    rw [nonneg_iff number] at le
    change Extended.ofInt 0 ≤ unpackedValue x.toModel.unpack at le
    -- Of each form only the sign is left to be excluded: by the order, or for a zero by `other`.
    cases unpacked : x.toModel.unpack with
    | notANumber =>
      rw [unpacked] at number
      cases number
    | infinity s =>
      rw [unpacked] at le
      cases s with
      | negative => exact absurd le (not_le.mpr (Extended.bot_lt_ofInt 0))
      | positive => rfl
    | zero s =>
      cases s with
      | negative =>
        have same : x = -0.0 := eq_of_unpack_eq (unpacked.trans (by rfl))
        exact absurd same other
      | positive => rfl
    | finite s m e pos =>
      rw [unpacked] at le
      cases s with
      | negative =>
        have magnitude := units_pos pos e
        have le : (0 : ℤ) ≤ -(units m e : ℤ) := Extended.ofInt_le_ofInt.mp le
        omega
      | positive => rfl
  · intro unsigned
    have number : x.toModel.unpack.isNaN = false ∧
        Extended.ofInt 0 ≤ unpackedValue x.toModel.unpack := by
      generalize x.toModel.unpack = u at unsigned
      cases u with
      | notANumber => cases unsigned
      | infinity s =>
        obtain rfl := unsigned
        exact ⟨rfl, (Extended.ofInt_lt_top 0).le⟩
      | zero s => exact ⟨rfl, le_rfl⟩
      | finite s m e pos =>
        obtain rfl := unsigned
        exact ⟨rfl, Extended.ofInt_le_ofInt.mpr (Int.natCast_nonneg _)⟩
    -- The order ignores the sign of a zero, so the negative zero is left to be told apart.
    constructor
    · exact (nonneg_iff number.1).mpr number.2
    · rintro rfl
      have negative : Sign.negative = .positive := unsigned
      cases negative

/-- A number that is not below zero is not negative: NaN alone is neither. -/
theorem not_lt_zero_iff {x : Float} (number : x.isNaN = false) : ¬x < 0.0 ↔ 0.0 ≤ x := by
  rw [lt_iff_value number isNaN_zero, not_lt, ← le_iff_value isNaN_zero number]

/-- Zero with a minus sign is all that is not negative and has one. -/
theorem unsigned_or_eq {x : Float} (nonneg : 0.0 ≤ x) : Unsigned x ∨ x = -0.0 := by
  by_cases zero : x = -0.0
  · exact .inr zero
  · exact .inl ⟨nonneg, zero⟩

/-- A double above zero has no minus sign. -/
theorem unsigned_of_pos {x : Float} (pos : 0.0 < x) : Unsigned x := by
  have zero : (0.0 : Float).toModel.unpack = .zero .positive := by rfl
  -- Zero is compared by cases of the other double, and only positive ones come after it.
  have less : ((0.0 : Float).toModel.unpack.compare x.toModel.unpack == some .lt) = true :=
    of_decide_eq_true pos
  rw [zero] at less
  rw [unsigned_iff]
  generalize x.toModel.unpack = u at *
  cases u with
  | notANumber => cases less
  | infinity s =>
    cases s with
    | negative => cases less
    | positive => rfl
  | zero s => cases less
  | finite s m e pos =>
    cases s with
    | negative => cases less
    | positive => rfl

namespace Unsigned

variable {x y : Float}

/-- A double without a minus sign is a number. -/
theorem isNaN (h : Unsigned x) : x.isNaN = false := (isNaN_of_le_float h.1).2

/-- A double without a minus sign is not below zero. -/
theorem not_neg (h : Unsigned x) : ¬x < 0.0 := (not_lt_zero_iff h.isNaN).mpr h.1

/-- A sum of doubles without minus signs has none. -/
theorem add (hx : Unsigned x) (hy : Unsigned y) : Unsigned (x + y) := by
  rw [unsigned_iff, unpack_add]
  exact isUnsigned_repacked (isUnsigned_add (unsigned_iff.mp hx) (unsigned_iff.mp hy))

/-- A square root has no minus sign where the double has none. -/
theorem sqrt (hx : Unsigned x) : Unsigned x.sqrt := by
  rw [unsigned_iff, unpack_sqrt]
  exact isUnsigned_repacked (isUnsigned_sqrt (unsigned_iff.mp hx))

/-- A product of bounded doubles without minus signs has none. Unbounded ones may be zero and
infinite, and then there is no product. -/
theorem mul {n n' : Nat} (hx : Unsigned x) (hy : Unsigned y) (upTo : UpTo n x)
    (upTo' : UpTo n' y) : Unsigned (x * y) := by
  rw [unsigned_iff, unpack_mul]
  exact isUnsigned_repacked
    (isUnsigned_mul (unsigned_iff.mp hx) (unsigned_iff.mp hy) upTo upTo')

/-- A positive factor does not change the sign, even that of an infinity. -/
theorem multiple {m : Nat} {e : Int} {pos : 0 < m}
    (factor : x.toModel.unpack = .finite .positive m e pos) (hy : Unsigned y) :
    Unsigned (x * y) := by
  rw [unsigned_iff, unpack_mul, factor]
  exact isUnsigned_repacked (isUnsigned_finite_mul e pos (unsigned_iff.mp hy))

end Unsigned

/-! ## Bounds of results -/

/-- One in the form in which it is unpacked. -/
theorem scale_eq : scale = units (2 ^ 52) (-52) := by
  -- The mantissa gets 53 bits if the exponent is decreased by as much.
  have low : (-1074 : Int) ≤ -52 := by decide
  have mantissa : 1 * 2 ^ ((0 : Int) - -52).toNat = 2 ^ 52 := by decide
  rw [← mantissa, units_decrease 1 low (by decide), scale]

/-- One is a finite double. -/
theorem scale_lt_limit : scale < limit := by
  have canonical : IsCanonicalPair (2 ^ 52) (-52) := ⟨by decide, by decide, .inl le_rfl⟩
  rw [scale_eq]
  exact canonical.units_lt_limit (by decide)

private theorem value_one : value 1.0 = .ofInt scale := by
  rw [scale_eq]
  rfl

/-- The doubles bounded by one are those from minus one to one. -/
theorem upTo_one_iff {x : Float} : UpTo scale x ↔ -1.0 ≤ x ∧ x ≤ 1.0 :=
  upTo_iff_between (by rfl) value_one scale_lt_limit

/-- A double without a minus sign is bounded by one if it is not greater. -/
theorem Unsigned.upTo_one {x : Float} (h : Unsigned x) (le : x ≤ 1.0) : UpTo scale x := by
  -- Zero lies above minus one.
  have number := h.isNaN
  have low := (nonneg_iff number).mp h.1
  have high := (le_iff_value number (by rfl)).mp le
  rw [value_one] at high
  have below : Extended.ofInt (-(scale : ℤ)) ≤ .ofInt 0 :=
    Extended.ofInt_le_ofInt.mpr (neg_nonpos.mpr (Int.natCast_nonneg _))
  obtain ⟨k, found, bounded⟩ := Extended.exists_of_between (below.trans low) high
  exact upTo_iff.mpr ⟨number, k, found, bounded⟩

namespace UpTo

variable {n : Nat} {x y : Float}

/-- A factor bounded by one keeps a bound. -/
theorem mul (hx : UpTo n x) (hy : UpTo scale y) (less : n < limit) : UpTo n (x * y) := by
  -- A bounded product lies below the limit, and repacking leaves it alone.
  have upTo := isUpTo_mul hx hy
  rwa [UpTo, unpack_mul, repacked_of_isUpTo upTo less]

/-- A bound is kept by halves. -/
theorem half (hx : UpTo n x) (less : n < limit) : UpTo n (x / 2.0) := by
  have upTo := isUpTo_half hx
  rwa [UpTo, unpack_div, repacked_of_isUpTo upTo less]

end UpTo

/-- An integer is as many units of the least double as one has, times itself. -/
theorem mul_scale (n : Nat) : n * scale = units n 0 := by
  rw [scale, units, units, Nat.one_mul]

/-- A few hundreds are too little to change the greatest double. -/
private theorem two_mul_lt_ulp {n : Nat} (small : n ≤ 180 * scale) : 2 * n < units 1 971 := by
  -- Three hundred and sixty is less than 512, a power of two, which a greater exponent dwarfs.
  have one_bit : units (1 * 2 ^ ((9 : Int) - 0).toNat) 0 = units 1 9 :=
    units_decrease 1 (by decide) (by decide)
  have ulp : units 1 9 < units 1 971 :=
    Nat.mul_lt_mul_of_pos_left (Nat.pow_lt_pow_right (by decide) (by decide)) Nat.one_pos
  have double : units (180 + 180) 0 = units 180 0 + units 180 0 := units_add 180 180 0
  have few : units (180 + 180) 0 ≤ units (1 * 2 ^ ((9 : Int) - 0).toNat) 0 :=
    units_le_of_mantissa_le (by decide) 0
  rw [mul_scale] at small
  -- The powers are too large to be computed, and only their order matters.
  generalize units 180 0 = a at *
  generalize units (180 + 180) 0 = b at *
  generalize units (1 * 2 ^ ((9 : Int) - 0).toNat) 0 = c at *
  generalize units 1 9 = d at *
  generalize units 1 971 = u at *
  omega

/-- A small number is too little to carry a finite one beyond the doubles. -/
private theorem isUpTo_sub_small {n : Nat} {u w : UnpackedFloat}
    (hu : IsUpTo (units greatestMantissa 971) u) (hw : IsUpTo n w) (small : n ≤ 180 * scale) :
    IsUpTo (units greatestMantissa 971) (repacked (u.sub .binary64 w)) := by
  have ulp := two_mul_lt_ulp small
  have fits : n ≤ units greatestMantissa 971 := by
    have : units 1 971 ≤ units greatestMantissa 971 := units_le_of_mantissa_le (by decide) 971
    generalize units 1 971 = u at *
    generalize units greatestMantissa 971 = g at *
    omega
  -- The result lies less than half a unit of the last place above the greatest double.
  have below : 2 * (units greatestMantissa 971 + n) < units (2 * greatestMantissa + 1) 971 := by
    rw [units_add, two_mul greatestMantissa, units_add]
    generalize units 1 971 = u at *
    generalize units greatestMantissa 971 = g at *
    omega
  have upTo := isUpTo_sub hu hw isCanonicalPair_greatest le_rfl fits below
  rwa [repacked_of_isUpTo upTo greatest_lt_limit]

/-- A finite double minus a small one is finite. -/
theorem UpTo.sub_small {n : Nat} {x y : Float} (hx : x.isFinite = true) (hy : UpTo n y)
    (small : n ≤ 180 * scale) : UpTo (units greatestMantissa 971) (x - y) := by
  rw [UpTo, unpack_sub]
  exact isUpTo_sub_small (upTo_of_isFinite hx) hy small

/-- A finite double plus a small one is finite. -/
theorem UpTo.add_small {n : Nat} {x y : Float} (hx : x.isFinite = true) (hy : UpTo n y)
    (small : n ≤ 180 * scale) : UpTo (units greatestMantissa 971) (x + y) := by
  rw [UpTo, unpack_add, add_eq_sub_neg]
  exact isUpTo_sub_small (upTo_of_isFinite hx) (isUpTo_neg hy) small

/-! ## What results say of operands -/

private theorem isFinite_of_repacked {u : UnpackedFloat} (finite : (repacked u).isFinite = true) :
    u.isFinite = true := by
  cases u with
  -- Repacking an infinity gives an infinity of the same sign.
  | notANumber => cases finite
  | infinity s => cases s <;> cases finite
  | zero s => rfl
  | finite s m e pos => rfl

private theorem number_of_repacked {u : UnpackedFloat} (number : (repacked u).isNaN = false) :
    u ≠ .notANumber := by
  rintro rfl
  cases number

section Operands

variable {x y : Float}

private theorem number_of_unpack (number : x.toModel.unpack ≠ .notANumber) : x.isNaN = false := by
  by_contra nan
  exact number (unpack_of_isNaN (Bool.eq_true_of_not_eq_false nan))

/-- A number is finite unless it is infinite. -/
theorem isFinite_of_number (number : x.isNaN = false) (bounded : x.isInf = false) :
    x.isFinite = true := by
  change x.toModel.unpack.isNaN = false at number
  change x.toModel.unpack.isInf = false at bounded
  show x.toModel.unpack.isFinite = true
  generalize x.toModel.unpack = u at *
  cases u with
  | notANumber => cases number
  | infinity s => cases bounded
  | zero s => rfl
  | finite s m e pos => rfl

/-- A finite product has a finite first factor. -/
theorem isFinite_of_mul (finite : (x * y).isFinite = true) : x.isFinite = true := by
  have finite := isFinite_of_repacked finite
  show x.toModel.unpack.isFinite = true
  generalize x.toModel.unpack = u at *
  generalize y.toModel.unpack = w at *
  -- Neither NaN nor an infinity times anything is finite.
  cases u with
  | notANumber => cases w <;> cases finite
  | infinity s => cases w <;> cases finite
  | zero s => rfl
  | finite s m e pos => rfl

/-- A finite quotient has a finite dividend. -/
theorem isFinite_of_div (finite : (x / y).isFinite = true) : x.isFinite = true := by
  have finite := isFinite_of_repacked finite
  show x.toModel.unpack.isFinite = true
  generalize x.toModel.unpack = u at *
  generalize y.toModel.unpack = w at *
  cases u with
  | notANumber => cases w <;> cases finite
  | infinity s => cases w <;> cases finite
  | zero s => rfl
  | finite s m e pos => rfl

/-- A finite difference has a finite minuend. -/
theorem isFinite_of_sub (finite : (x - y).isFinite = true) : x.isFinite = true := by
  have finite := isFinite_of_repacked finite
  show x.toModel.unpack.isFinite = true
  generalize x.toModel.unpack = u at *
  generalize y.toModel.unpack = w at *
  cases u with
  | notANumber => cases w <;> cases finite
  -- Two infinities have no difference, and no finite double makes up for one.
  | infinity s =>
    cases w with
    | infinity s' => cases s <;> cases s' <;> cases finite
    | _ => cases finite
  | zero s => rfl
  | finite s m e pos => rfl

/-- A sum is a number only if both summands are. -/
theorem number_of_add (number : (x + y).isNaN = false) : x.isNaN = false ∧ y.isNaN = false := by
  have number := number_of_repacked number
  -- NaN as a summand makes the sum NaN, on either side.
  constructor
  · apply number_of_unpack
    intro nan
    rw [nan] at number
    generalize y.toModel.unpack = w at number
    cases w <;> exact number rfl
  · apply number_of_unpack
    intro nan
    rw [nan] at number
    generalize x.toModel.unpack = u at number
    cases u <;> exact number rfl

/-- A product is a number only if its second factor is. -/
theorem number_of_mul (number : (x * y).isNaN = false) : y.isNaN = false := by
  have number := number_of_repacked number
  apply number_of_unpack
  intro nan
  rw [nan] at number
  generalize x.toModel.unpack = u at number
  cases u <;> exact number rfl

/-- A square root is a number only if the double is. -/
theorem number_of_sqrt (number : x.sqrt.isNaN = false) : x.isNaN = false := by
  have number := number_of_repacked number
  apply number_of_unpack
  intro nan
  rw [nan] at number
  exact number rfl

end Operands

/-! ## Small integers -/

/-- Degrees are exact doubles. -/
private theorem floatOfInt?_of_small {k : Int} (small : k.natAbs ≤ 180) :
    ∃ x, floatOfInt? k = some x ∧ compareInt k x = some .eq := by
  -- Two times 180 integers and zero, each of them checked
  have table : ∀ i : Fin 361, (floatOfInt? ((i : Nat) - 180 : Int)).any fun x =>
      compareInt ((i : Nat) - 180 : Int) x == some .eq := by decide +kernel
  have entry := table ⟨(k + 180).toNat, by omega⟩
  have index : (((k + 180).toNat : Nat) : Int) - 180 = k := by omega
  simp only [index] at entry
  obtain ⟨x, found, same⟩ := Option.any_eq_true .. |>.mp entry
  exact ⟨x, found, eq_of_beq same⟩

/-- A number of at most 180 in magnitude is converted to a bounded double, be it an integer or a
double. -/
theorem exists_toFloat? {a : Number} {n : Nat} (small : n ≤ 180)
    (low : Number.le (.int (-n)) a = true) (high : Number.le a (.int n) = true) :
    ∃ x, a.toFloat? = some x ∧ UpTo (n * scale) x := by
  -- A double is bounded as it is, and an integer is looked up.
  cases a with
  | float x => exact ⟨x, rfl, upTo_of_between low high⟩
  | int k =>
    have low : -(n : Int) ≤ k := of_decide_eq_true low
    have high : k ≤ n := of_decide_eq_true high
    obtain ⟨x, found, same⟩ := floatOfInt?_of_small (show k.natAbs ≤ 180 by omega)
    -- NaN is not compared with an integer, so the double is a number.
    have number : x.isNaN = false := by
      by_contra nan
      rw [compareInt_of_isNaN (Bool.eq_true_of_not_eq_false nan)] at same
      cases same
    obtain ⟨o, compared, compares⟩ := exists_compares_int k number
    rw [same] at compared
    obtain rfl := Option.some.inj compared
    -- What compares equal has the same value.
    have value_eq : value x = .ofInt (k * scale) := compares.symm
    refine ⟨x, found, upTo_iff.mpr ⟨number, _, value_eq, ?_⟩⟩
    rw [Int.natAbs_mul]
    exact Nat.mul_le_mul_right _ (by omega)

end AirQuality.Number
