import AirQuality.Proofs.Number.Bits

/-!
# Values of doubles

The value of a double is a whole number of least positive doubles, or infinite on either side. So
doubles other than NaN are compared as integers are, and the two zeros have one value.

## Key results

- `compares_units`: magnitudes are compared by their exponents first
- `lt_iff_value`, `beq_iff_value`: what the comparisons of doubles say about their values
-/

namespace AirQuality.Number

open Float.Model (Format UnpackedFloat)
open Float.Model.UnpackedFloat

/-- An integer, or what is below or above all of them. -/
abbrev Extended := WithBot (WithTop ℤ)

namespace Extended

/-- An integer among the extended ones. -/
def ofInt (n : ℤ) : Extended := ((n : WithTop ℤ) : WithBot (WithTop ℤ))

/-- Extended integers are in the order of the integers. -/
@[simp] theorem ofInt_lt_ofInt {a b : ℤ} : ofInt a < ofInt b ↔ a < b :=
  WithBot.coe_lt_coe.trans WithTop.coe_lt_coe

/-- Different integers are different extended integers. -/
@[simp] theorem ofInt_inj {a b : ℤ} : ofInt a = ofInt b ↔ a = b :=
  WithBot.coe_inj.trans WithTop.coe_inj

/-- What is below all integers is below each of them. -/
@[simp] theorem bot_lt_ofInt (n : ℤ) : ⊥ < ofInt n := WithBot.bot_lt_coe _

/-- What is above all integers is above each of them. -/
@[simp] theorem ofInt_lt_top (n : ℤ) : ofInt n < ⊤ :=
  WithBot.coe_lt_coe.mpr (WithTop.coe_lt_top n)

end Extended

/-- A magnitude `m * 2 ^ e`, counted in least positive doubles. -/
def units (m : Nat) (e : Int) : Nat := m * 2 ^ (e + 1074).toNat

/-- The value of an unpacked double; that of NaN says nothing. -/
def unpackedValue : UnpackedFloat → Extended
  | .notANumber => .ofInt 0
  | .infinity .negative => ⊥
  | .infinity .positive => ⊤
  | .zero _ => .ofInt 0
  | .finite s m e _ => .ofInt (s.apply (units m e))

/-- The value of a double. -/
def value (x : Float) : Extended := unpackedValue x.toModel.unpack

/-! ## What is unpacked -/

/-- A mantissa and an exponent as they are unpacked: the mantissa has 53 bits, unless the exponent
is the least one. -/
structure IsCanonicalPair (m : Nat) (e : Int) : Prop where
  small : m < 2 ^ 53
  low : -1074 ≤ e
  full : 2 ^ 52 ≤ m ∨ e = -1074

/-- An unpacked double whose magnitude is in canonical form. -/
def IsCanonical : UnpackedFloat → Prop
  | .finite _ m e _ => IsCanonicalPair m e
  | _ => True

/-- Every double is unpacked to a canonical form. -/
theorem isCanonical_unpack (b : BitVec Format.binary64.numBits) :
    IsCanonical (UnpackedFloat.unpack Format.binary64 b) := by
  have bias : ((Format.binary64.exponentBias : Nat) : Int) = 1023 := rfl
  have width : ((Format.binary64.mantissaBitsWithoutImplicit : Nat) : Int) = 52 := rfl
  have small : (unpackMantissa b).toNat < 2 ^ 52 := (unpackMantissa b).isLt
  unfold UnpackedFloat.unpack
  simp only [bias, width]
  split
  -- What is not finite has no mantissa.
  · split <;> trivial
  · split
    · -- The exponent field is zero: there is no hidden bit.
      rename_i zero
      split
      · trivial
      · refine ⟨by omega, ?_, .inr ?_⟩
        all_goals rw [zero]; rfl
    · -- The hidden bit makes the mantissa as long as it can be.
      rename_i field
      have hidden : (1#1 ++ unpackMantissa b).toNat = 2 ^ 52 + (unpackMantissa b).toNat := by
        rw [BitVec.toNat_append, ← Nat.shiftLeft_add_eq_or_of_lt small]
        simp [Nat.shiftLeft_eq]
      have pos : 0 < (unpackExponent b).toNat := by
        rw [Nat.pos_iff_ne_zero]
        exact fun h => field (BitVec.eq_of_toNat_eq h)
      constructor
      · omega
      · omega
      · omega

/-! ## Comparing magnitudes -/

/-- A magnitude is not zero unless its mantissa is. -/
theorem units_pos {m : Nat} (pos : 0 < m) (e : Int) : 0 < units m e :=
  Nat.mul_pos pos (Nat.two_pow_pos _)

/-- Of two canonical magnitudes, the one with the smaller exponent is less. -/
theorem units_lt_of_exponent_lt {m m' : Nat} {e e' : Int} (h : IsCanonicalPair m e)
    (h' : IsCanonicalPair m' e') (less : e < e') : units m e < units m' e' := by
  have low := h.low
  have big : 2 ^ 52 ≤ m' := h'.full.resolve_right (by omega)
  calc units m e < 2 ^ 53 * 2 ^ (e + 1074).toNat :=
        Nat.mul_lt_mul_of_pos_right h.small (Nat.two_pow_pos _)
    -- A carry of one place makes up for the shorter mantissa.
    _ = 2 ^ 52 * 2 ^ ((e + 1074).toNat + 1) := by rw [Nat.pow_succ 2 (e + 1074).toNat]; omega
    _ ≤ 2 ^ 52 * 2 ^ (e' + 1074).toNat :=
        Nat.mul_le_mul_left _ (Nat.pow_le_pow_right (by decide) (by omega))
    _ ≤ units m' e' := Nat.mul_le_mul_right _ big

/-- With the same exponent, the one with the smaller mantissa is less. -/
private theorem units_lt_of_mantissa_lt {m m' : Nat} (less : m < m') (e : Int) :
    units m e < units m' e :=
  Nat.mul_lt_mul_of_pos_right less (Nat.two_pow_pos _)

/-- Canonical magnitudes are compared by their exponents, and then by their mantissas. -/
theorem compares_units {m m' : Nat} {e e' : Int} (h : IsCanonicalPair m e)
    (h' : IsCanonicalPair m' e') :
    ((compare e e').then (compare m m')).Compares (units m e) (units m' e') := by
  rcases lt_trichotomy e e' with less | rfl | greater
  -- The exponents decide unless they are the same.
  · rw [compare_lt_iff_lt.mpr less]
    exact units_lt_of_exponent_lt h h' less
  · rw [compare_eq_iff_eq.mpr (rfl : e = e), Ordering.eq_then]
    rcases lt_trichotomy m m' with less | rfl | greater
    · rw [compare_lt_iff_lt.mpr less]
      exact units_lt_of_mantissa_lt less e
    · rw [compare_eq_iff_eq.mpr rfl]
      rfl
    · rw [compare_gt_iff_gt.mpr greater]
      exact units_lt_of_mantissa_lt greater e
  · rw [compare_gt_iff_gt.mpr greater]
    exact units_lt_of_exponent_lt h' h greater

/-! ## Comparing values -/

/-- Two finite doubles with signs and canonical magnitudes. -/
private theorem exists_compares_finite (s s' : Sign) {m m' : Nat} {e e' : Int} (pos : 0 < m)
    (pos' : 0 < m') (h : IsCanonicalPair m e) (h' : IsCanonicalPair m' e') :
    ∃ o, (UnpackedFloat.finite s m e pos).compare (.finite s' m' e' pos') = some o ∧
      o.Compares (unpackedValue (.finite s m e pos)) (unpackedValue (.finite s' m' e' pos')) := by
  -- Signs are looked at first, then magnitudes.
  have magnitudes := compares_units h h'
  have unitsPos := units_pos pos e
  have unitsPos' := units_pos pos' e'
  cases s <;> cases s' <;> refine ⟨_, rfl, ?_⟩
  -- Of two negative doubles, the one with the greater magnitude is less.
  · generalize (compare e e').then (compare m m') = o at magnitudes
    cases o <;>
      simpa [Ordering.Compares, unpackedValue, Sign.apply, Int.natCast_inj] using magnitudes
  -- Different signs: a magnitude is not zero, so the negative double is less.
  · simp [Ordering.Compares, unpackedValue, Sign.apply]
    omega
  · simp [Ordering.Compares, unpackedValue, Sign.apply]
    omega
  -- Of two positive doubles, the one with the greater magnitude is greater.
  · generalize (compare e e').then (compare m m') = o at magnitudes
    cases o <;>
      simpa [Ordering.Compares, unpackedValue, Sign.apply, Int.natCast_inj] using magnitudes

/-- Unpacked doubles other than NaN are compared by their values. -/
private theorem exists_compares {x y : UnpackedFloat} (hx : IsCanonical x) (hy : IsCanonical y)
    (nx : x.isNaN = false) (ny : y.isNaN = false) :
    ∃ o, x.compare y = some o ∧ o.Compares (unpackedValue x) (unpackedValue y) := by
  -- NaN is left out on both sides, and two finite doubles were compared above.
  cases x with
  | notANumber => cases nx
  | infinity s =>
    cases y with
    | notANumber => cases ny
    | infinity s' =>
      cases s <;> cases s' <;> exact ⟨_, rfl, by simp [compare, Ordering.Compares, unpackedValue]⟩
    | zero s' => cases s <;> exact ⟨_, rfl, by simp [Ordering.Compares, unpackedValue]⟩
    | finite s' m' e' pos' => cases s <;> exact ⟨_, rfl, by simp [Ordering.Compares, unpackedValue]⟩
  | zero s =>
    cases y with
    | notANumber => cases ny
    | infinity s' => cases s' <;> exact ⟨_, rfl, by simp [Ordering.Compares, unpackedValue]⟩
    | zero s' => exact ⟨_, rfl, rfl⟩
    | finite s' m' e' pos' =>
      have unitsPos' := units_pos pos' e'
      cases s' <;>
        exact ⟨_, rfl, by simp [Ordering.Compares, unpackedValue, Sign.apply, unitsPos']⟩
  | finite s m e pos =>
    have unitsPos := units_pos pos e
    cases y with
    | notANumber => cases ny
    | infinity s' => cases s' <;> exact ⟨_, rfl, by simp [Ordering.Compares, unpackedValue]⟩
    | zero s' =>
      cases s <;> exact ⟨_, rfl, by simp [Ordering.Compares, unpackedValue, Sign.apply, unitsPos]⟩
    -- Both are finite, and the lemma above applies.
    | finite s' m' e' pos' => exact exists_compares_finite s s' pos pos' hx hy

section Doubles

variable {x y : Float} (hx : x.isNaN = false) (hy : y.isNaN = false)

include hx hy

/-- Doubles other than NaN are compared by their values. -/
theorem exists_compares_value :
    ∃ o, x.toModel.unpack.compare y.toModel.unpack = some o ∧ o.Compares (value x) (value y) :=
  exists_compares (isCanonical_unpack _) (isCanonical_unpack _) hx hy

/-- A double other than NaN is less than another one if its value is. -/
theorem lt_iff_value : x < y ↔ value x < value y := by
  obtain ⟨o, found, compares⟩ := exists_compares_value hx hy
  -- The order of doubles asks for the comparison to give `lt`.
  have lt : x.toModel < y.toModel ↔ o = .lt := by
    change (x.toModel.unpack.compare y.toModel.unpack == some .lt) = true ↔ _
    rw [found]
    simp
  exact decide_eq_true_iff.trans (lt.trans compares.eq_lt)

/-- Doubles other than NaN are equal as numbers if their values are equal. -/
theorem beq_iff_value : (x == y) = true ↔ value x = value y := by
  obtain ⟨o, found, compares⟩ := exists_compares_value hx hy
  have eq : (x == y) = true ↔ o = .eq := by
    change (x.toModel.unpack.compare y.toModel.unpack == some .eq) = true ↔ _
    rw [found]
    simp
  exact eq.trans compares.eq_eq

end Doubles

end AirQuality.Number
